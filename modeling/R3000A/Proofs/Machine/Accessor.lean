import R3000A.Machine
import R3000A.Proofs.Processor.HostWrite
import R3000A.Proofs.Snapshot.RoundTrip
import R3000A.Proofs.System.Alike

/-!
# The registers are all there is to see

A host that has read all registers of a machine knows everything about it that can ever make a
difference: machines whose registers read the same, with the same settings, waiting requests and
bus, answer every sequence of slices, lines, register writes and register reads with the same
outcomes, use their buses in the same way, and end up with registers that read the same again. So
neither what does not show of the geometry engine nor what a core notes about its program ever
matters. The callback is the host's own, and it may ask the processor for things too. It is asked of
the two callbacks that they ask for the same at the same calls, which they do if neither ever asks
for anything.
-/

namespace R3000A

theorem Pending.number_inj {p q : Pending} (h : p.number = q.number) : p = q := by
  have hp := Snapshot.ofNumber?_number p
  rw [h, Snapshot.ofNumber?_number] at hp
  exact (Option.some.inj hp).symm

/-- Cores are alike if and only if their registers read the same. -/
theorem Core.alike_iff {c d : Core} : c.Alike d ↔ ∀ r, c.get r = d.get r := by
  constructor
  · intro h r
    cases r with
    | geometryData r => exact h.geometry.readData r
    | geometryControl r => exact congrArg (Bank.read · r) h.geometry.control
    | _ =>
        rw [h.besides]
        rfl
  · intro h
    refine ⟨?_, Geometry.alike_iff.2 ⟨fun r => h (.geometryData r), fun r => h (.geometryControl r)⟩⟩
    obtain ⟨pc, regs, hi, lo, ⟨pending, value⟩, _, _, ⟨control⟩, _, _⟩ := c
    obtain ⟨pc', regs', hi', lo', ⟨pending', value'⟩, _, _, ⟨control'⟩, _, _⟩ := d
    obtain rfl : pc = pc' := h .pc
    obtain rfl : hi = hi' := h .hi
    obtain rfl : lo = lo' := h .lo
    obtain rfl : value = value' := h .pendingValue
    obtain rfl : pending = pending' := Pending.number_inj (h .pendingKind)
    obtain rfl : regs = regs' := Bank.ext fun r => h (.general r)
    obtain rfl : control = control' := Bank.ext fun r => h (.control r)
    rfl

namespace Processor.Alike

variable {p q : Processor}

theorem setLine (h : p.Alike q) (l : Line) (level : Bool) :
    (p.setLine l level).1.Alike (q.setLine l level).1 ∧
      (p.setLine l level).2 = (q.setLine l level).2 := by
  have hcore : (p.setLine l level).1.core.Alike (q.setLine l level).1.core := by
    rw [core_setLine, core_setLine]
    exact h.core.setLine l level
  constructor
  · have hp := p.sameHost_setLine l level
    have hq := q.sameHost_setLine l level
    cases level with
    | false => exact h.of_sameHost hcore hp hq
    | true => exact (h.calls [l]).of_sameHost hcore hp hq
  · rw [setLine_snd, setLine_snd, h.core.control, h.core.writeFault?]

theorem modifyCore (h : p.Alike q) {f f' : Core → Core} (hf : (f p.core).Alike (f' q.core)) :
    (p.modifyCore f).Alike (q.modifyCore f') :=
  ⟨hf, h.settings, h.requests, h.replies⟩

theorem set_control (p : Processor) (r : Reg) (v : Word) :
    p.set (.control r) v =
      .ok ((p.writeControl r v).1.tell (.accessInterrupted r) (p.writeControl r v).2) := by
  rcases hwritten : p.writeControl r v with ⟨written, _ | _⟩ <;> simp [set, hwritten, tell]

theorem writeControl (h : p.Alike q) (r : Reg) (v : Word) (e e' : Event) :
    ((p.writeControl r v).1.tell e (p.writeControl r v).2).Alike
      ((q.writeControl r v).1.tell e' (q.writeControl r v).2) := by
  refine h.of_sameHost ?_ ((sameHost_tell ..).trans (p.sameHost_writeControl r v))
    ((sameHost_tell ..).trans (q.sameHost_writeControl r v))
  rw [core_tell, core_tell, core_writeControl, core_writeControl]
  exact h.core.writeControl r v

/-- A register write is refused for both or leaves both alike. -/
theorem set (h : p.Alike q) (r : Register) (v : Word) :
    (∃ e, p.set r v = .error e ∧ q.set r v = .error e) ∨
      ∃ p' q', p.set r v = .ok p' ∧ q.set r v = .ok q' ∧ p'.Alike q' := by
  have hdone (f : Core → Core) (hf : (f p.core).Alike (f q.core))
      (hp : p.set r v = .ok (p.modifyCore f)) (hq : q.set r v = .ok (q.modifyCore f)) :
      (∃ e, p.set r v = .error e ∧ q.set r v = .error e) ∨
        ∃ p' q', p.set r v = .ok p' ∧ q.set r v = .ok q' ∧ p'.Alike q' :=
    .inr ⟨_, _, hp, hq, h.modifyCore hf⟩
  cases r with
  | pc => exact hdone _ (h.core.jumpTo v) rfl rfl
  | pendingValue =>
      refine hdone (fun c => { c with hazard := { c.hazard with value := v } }) ?_ rfl rfl
      exact h.core.map (fun c => { c with hazard := { c.hazard with value := v } }) fun _ _ => rfl
  | pendingKind =>
      cases hkind : Pending.ofNumber? v with
      | none => exact .inl ⟨.badPending v, by simp [Processor.set, hkind], by simp [Processor.set, hkind]⟩
      | some kind =>
          refine hdone (fun c => { c with hazard := { c.hazard with pending := kind } }) ?_
            (by simp [Processor.set, hkind]) (by simp [Processor.set, hkind])
          exact h.core.map (fun c => { c with hazard := { c.hazard with pending := kind } })
            fun _ _ => rfl
  | hi => exact hdone _ (h.core.map (fun c => { c with hi := v }) fun _ _ => rfl) rfl rfl
  | lo => exact hdone _ (h.core.map (fun c => { c with lo := v }) fun _ _ => rfl) rfl rfl
  | general r => exact hdone _ (h.core.map (·.setReg r v) fun _ _ => rfl) rfl rfl
  | control r =>
      exact .inr ⟨_, _, set_control p r v, set_control q r v, h.writeControl r v _ _⟩
  | geometryData r =>
      exact hdone _ (h.core.withGeometry (h.core.geometry.writeData r v)) rfl rfl
  | geometryControl r =>
      exact hdone _ (h.core.withGeometry (h.core.geometry.writeControl r v)) rfl rfl

end Processor.Alike

/-- What a host asks of a machine. -/
inductive Action where
  | execute (budget : Int)
  | setLine (line : Int) (level : Bool)
  | setRegister (id : RegisterId) (v : Word)
  | getRegister (id : RegisterId)

/-- What a host gets to know from an action. -/
inductive Outcome where
  /-- So many instructions were executed, of which the last has stopped the processor or not. -/
  | executed (count : Nat) (stopped : Bool)
  | line (state : InterruptState)
  | written
  | value (v : Word)
  | refused (why : MachineError)
  deriving DecidableEq

namespace Machine

variable {β : Type}

/-- The machine after an action, and what comes of it. A machine that refuses stays as it is. -/
def act (B : Bus β) (m : Machine β) : Action → Outcome × Machine β
  | .execute budget =>
    match m.execute B budget with
    | .ok (count, m) => (.executed count m.stopped, m)
    | .error why => (.refused why, m)
  | .setLine line level =>
    match m.setLine line level with
    | .ok (state, m) => (.line state, m)
    | .error why => (.refused why, m)
  | .setRegister id v =>
    match m.setRegister id v with
    | .ok m => (.written, m)
    | .error why => (.refused why, m)
  | .getRegister id =>
    match m.getRegister id with
    | .ok v => (.value v, m)
    | .error why => (.refused why, m)

def actAll (B : Bus β) : List Action → Machine β → List Outcome × Machine β
  | [], m => ([], m)
  | a :: as, m =>
    let next := m.act B a
    let rest := next.2.actAll B as
    (next.1 :: rest.1, rest.2)

/-- All registers of the machines read the same, and so do their settings, what waiting requests ask
for and the states of their buses. -/
structure Alike (m n : Machine β) : Prop where
  register : ∀ id, m.getRegister id = n.getRegister id
  settings : m.cpu.settings = n.cpu.settings
  requests : Request.Same m.cpu.requests n.cpu.requests
  bus : m.bus = n.bus
  ready : m.ready = n.ready

/-- The machines have processors that differ only in what neither a program nor its bus can find
out, and buses in the same state. -/
structure Indistinct (m n : Machine β) : Prop where
  cpu : m.cpu.Alike n.cpu
  bus : m.bus = n.bus
  ready : m.ready = n.ready

theorem Indistinct.alike {m n : Machine β} (h : m.Indistinct n) : m.Alike n where
  register id := by
    have hget : m.cpu.core.get = n.cpu.core.get := funext (Core.alike_iff.1 h.cpu.core)
    rw [getRegister, getRegister, Processor.getRegister, Processor.getRegister, hget]
  settings := h.cpu.settings
  requests := h.cpu.requests
  bus := h.bus
  ready := h.ready

/-- What a host can read, together with what its callbacks ask for, is all there is. -/
theorem Alike.indistinct {m n : Machine β} (h : m.Alike n) (hreplies : m.cpu.RepliesAlike n.cpu) :
    m.Indistinct n := by
  refine ⟨⟨Core.alike_iff.2 fun r => ?_, h.settings, h.requests, hreplies⟩, h.bus, h.ready⟩
  have hget := h.register r.id
  rw [getRegister, getRegister, Processor.getRegister, Processor.getRegister, r.resolve_id] at hget
  exact Except.ok.inj hget

namespace Indistinct

variable {m n : Machine β}

theorem execute (h : m.Indistinct n) (B : Bus β) (budget : Int) :
    (m.act B (.execute budget)).1 = (n.act B (.execute budget)).1 ∧
      (m.act B (.execute budget)).2.Indistinct (n.act B (.execute budget)).2 := by
  have hcpu := h.cpu
  obtain ⟨p, bus, ready⟩ := m
  obtain ⟨q, bus', ready'⟩ := n
  obtain rfl : bus = bus' := h.bus
  obtain rfl : ready = ready' := h.ready
  rcases ready with _ | _
  · exact ⟨rfl, h⟩
  · rcases bus with _ | bus
    · exact ⟨rfl, h⟩
    · have hsystem : System.Alike ⟨p, bus⟩ ⟨q, bus⟩ := ⟨hcpu, rfl⟩
      have hrun := Slice.Alike.run hsystem B budget
      refine ⟨?_, hrun.system.cpu, congrArg some hrun.system.bus, rfl⟩
      change Outcome.executed (Slice.run B budget ⟨p, bus⟩).executed
          (Slice.run B budget ⟨p, bus⟩).system.cpu.core.stopped = _
      rw [hrun.executed, hrun.stopped]
      rfl

theorem setLine (h : m.Indistinct n) (B : Bus β) (line : Int) (level : Bool) :
    (m.act B (.setLine line level)).1 = (n.act B (.setLine line level)).1 ∧
      (m.act B (.setLine line level)).2.Indistinct (n.act B (.setLine line level)).2 := by
  simp only [act, Machine.setLine]
  cases Line.ofInt? line with
  | none => exact ⟨rfl, h⟩
  | some l =>
      obtain ⟨hcpu, hstate⟩ := h.cpu.setLine l level
      exact ⟨congrArg Outcome.line hstate, hcpu, h.bus, h.ready⟩

theorem setRegister (h : m.Indistinct n) (B : Bus β) (id : RegisterId) (v : Word) :
    (m.act B (.setRegister id v)).1 = (n.act B (.setRegister id v)).1 ∧
      (m.act B (.setRegister id v)).2.Indistinct (n.act B (.setRegister id v)).2 := by
  simp only [act, Machine.setRegister, Processor.setRegister]
  cases hid : id.resolve with
  | error why => exact ⟨rfl, h⟩
  | ok r =>
      rcases h.cpu.set r v with ⟨why, hm, hn⟩ | ⟨p, q, hm, hn, hcpu⟩
      · simp only [Except.bind, Except.map, hm, hn]
        exact ⟨trivial, h⟩
      · simp only [Except.bind, Except.map, hm, hn]
        exact ⟨trivial, hcpu, h.bus, h.ready⟩

theorem getRegister (h : m.Indistinct n) (B : Bus β) (id : RegisterId) :
    (m.act B (.getRegister id)).1 = (n.act B (.getRegister id)).1 ∧
      (m.act B (.getRegister id)).2.Indistinct (n.act B (.getRegister id)).2 := by
  simp only [act, h.alike.register id]
  cases n.getRegister id with
  | error why => exact ⟨rfl, h⟩
  | ok v => exact ⟨rfl, h⟩

theorem act (h : m.Indistinct n) (B : Bus β) (a : Action) :
    (m.act B a).1 = (n.act B a).1 ∧ (m.act B a).2.Indistinct (n.act B a).2 := by
  cases a with
  | execute budget => exact h.execute B budget
  | setLine line level => exact h.setLine B line level
  | setRegister id v => exact h.setRegister B id v
  | getRegister id => exact h.getRegister B id

theorem actAll (h : m.Indistinct n) (B : Bus β) (as : List Action) :
    (m.actAll B as).1 = (n.actAll B as).1 ∧ (m.actAll B as).2.Indistinct (n.actAll B as).2 := by
  induction as generalizing m n with
  | nil => exact ⟨rfl, h⟩
  | cons a as ih =>
      obtain ⟨houtcome, hnext⟩ := h.act B a
      obtain ⟨houtcomes, hlast⟩ := ih hnext
      refine ⟨?_, hlast⟩
      rw [Machine.actAll, Machine.actAll, houtcome, houtcomes]

end Indistinct

/-- The machine with other words in the data registers of the geometry engine, and with other notes
about its program. -/
def withHidden (m : Machine β) (data : Bank) (previousPc word : Word) (stopped : Bool) :
    Machine β :=
  { m with
    cpu := m.cpu.modifyCore fun c =>
      { c with
        geometry := { c.geometry with data := data }
        previousPc := previousPc
        word := word
        stopped := stopped } }

theorem indistinct_withHidden {m : Machine β} {data : Bank} (previousPc word : Word)
    (stopped : Bool)
    (hdata : ∀ r, data.read r &&& Geometry.visibleBits r =
      m.cpu.core.geometry.data.read r &&& Geometry.visibleBits r) :
    (m.withHidden data previousPc word stopped).Indistinct m :=
  ⟨⟨⟨rfl, hdata, rfl⟩, rfl, .refl _, .of_callback rfl⟩, rfl, rfl⟩

/-- Machines whose registers read the same, and whose callbacks ask the same at the same calls,
answer all actions with the same outcomes. Their buses, which may record the accesses and calls made
to them, are in the same state afterwards, and their registers read the same again. In particular
nothing depends on bits of the geometry engine that do not show, on the last program counter, on the
last instruction word or on what ended the last slice. -/
theorem registers_determine (B : Bus β) {m n : Machine β} (h : m.Alike n)
    (hreplies : m.cpu.RepliesAlike n.cpu) (actions : List Action) :
    ((m.actAll B actions).1 = (n.actAll B actions).1 ∧
        (m.actAll B actions).2.Alike (n.actAll B actions).2) ∧
      ∀ (data : Bank) (previousPc word : Word) (stopped : Bool),
        (∀ r, data.read r &&& Geometry.visibleBits r =
          m.cpu.core.geometry.data.read r &&& Geometry.visibleBits r) →
        ((m.withHidden data previousPc word stopped).actAll B actions).1 = (m.actAll B actions).1 ∧
          ((m.withHidden data previousPc word stopped).actAll B actions).2.Alike
            (m.actAll B actions).2 := by
  obtain ⟨houtcomes, hlast⟩ := (h.indistinct hreplies).actAll B actions
  refine ⟨⟨houtcomes, hlast.alike⟩, ?_⟩
  intro data previousPc word stopped hdata
  obtain ⟨hsame, hend⟩ :=
    (indistinct_withHidden previousPc word stopped hdata).actAll B actions
  exact ⟨hsame, hend.alike⟩

/-- A machine that is about to transform a vertex, with and without a stale high half in IR1. At
every second call its callback asks for the end of the slice, which cuts the first of two slices
short and not the other. -/
theorem registers_determine_of_stale_half :
    let everySecond : Callback :=
      .ofState (fun _ odd => (!odd, if odd then [.shorten] else [])) true
    let m : Machine Unit :=
      { cpu :=
          { core := { control := SystemControl.zero.write 12 0x40000000 }, callback := everySecond }
        bus := some (), ready := true }
    let n := m.withHidden (Bank.zero.write 9 0x70000) 0 0 true
    let actions : List Action :=
      [.setLine 0 true, .execute 3, .setLine 1 true, .execute 3, .getRegister (.geometryData 14)]
    n.Alike m ∧ n.cpu.RepliesAlike m.cpu ∧
      n.cpu.core.geometry.data.read 9 ≠ m.cpu.core.geometry.data.read 9 ∧
      (n.actAll (Bus.constant 0x4a180001) actions).1 =
        (m.actAll (Bus.constant 0x4a180001) actions).1 ∧
      (m.actAll (Bus.constant 0x4a180001) actions).1 =
        [.line .idle, .executed 1 false, .line .idle, .executed 3 false, .value 0] := by
  intro everySecond m n actions
  have hdata : ∀ r, (Bank.zero.write 9 0x70000).read r &&& Geometry.visibleBits r =
      m.cpu.core.geometry.data.read r &&& Geometry.visibleBits r := by decide
  have halike : n.Alike m := (indistinct_withHidden 0 0 true hdata).alike
  have hreplies : n.cpu.RepliesAlike m.cpu := .of_callback rfl
  exact ⟨halike, hreplies, by decide, (registers_determine _ halike hreplies _).1.1, by decide +kernel⟩

end Machine

end R3000A
