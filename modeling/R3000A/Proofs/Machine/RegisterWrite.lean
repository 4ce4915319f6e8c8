import R3000A.Proofs.Exception.Precise
import R3000A.Proofs.Geometry.View
import R3000A.Proofs.Machine.Accessor
import R3000A.Proofs.Privilege.Fetch
import R3000A.Proofs.Word.Bit

/-!
# How far a register write reaches

A host that writes a register changes that register and, for a few of them, some others that are
known beforehand. `Core.reach` lists for each register what reads differently after a write, and a
register that is not listed reads as before. A write to the status or the cause register may also
lead to an exception, and `Core.entryReadings` lists what that makes of the registers.
-/

namespace R3000A

def withReadings {ρ : Type} [BEq ρ] (f : ρ → Word) (ws : List (ρ × Word)) (r : ρ) : Word :=
  (ws.lookup r).getD (f r)

theorem eq_withReadings {ρ : Type} [BEq ρ] [LawfulBEq ρ] {f g : ρ → Word} {ws : List (ρ × Word)}
    (hlisted : ∀ change ∈ ws, g change.1 = change.2) (hother : ∀ r, r ∉ ws.map Prod.fst → g r = f r)
    (r : ρ) : g r = withReadings f ws r := by
  rw [withReadings]
  cases h : ws.lookup r with
  | none =>
      refine hother r fun hmem => ?_
      obtain ⟨change, hchange, rfl⟩ := List.mem_map.1 hmem
      exact absurd (List.lookup_eq_none_iff.1 h change hchange) (by simp)
  | some w =>
      obtain ⟨before, after, rfl, -⟩ := List.lookup_eq_some_iff.1 h
      exact hlisted (r, w) (by simp)

namespace SystemControl

/-- Interrupts are enabled, and one that is not masked is pending. -/
structure InterruptDue (c : SystemControl) : Prop where
  enabled : c.status.bit 0 = true
  pending : ∃ n, 8 ≤ n ∧ n < 16 ∧ c.status.bit n = true ∧ c.cause.bit n = true

theorem interruptPending_iff {c : SystemControl} : c.interruptPending = true ↔ c.InterruptDue := by
  have hfield : ∀ n < 32, pendingBits.bit n = true ↔ 8 ≤ n ∧ n < 16 := by decide
  have hpending : c.status &&& c.cause &&& pendingBits ≠ 0 ↔
      ∃ n, 8 ≤ n ∧ n < 16 ∧ c.status.bit n = true ∧ c.cause.bit n = true := by
    rw [Word.and_ne_zero_iff]
    constructor
    · rintro ⟨n, hn, hbit, hboth⟩
      rw [Word.bit_and _ _ hn, Bool.and_eq_true] at hboth
      obtain ⟨hlow, hhigh⟩ := (hfield n hn).1 hbit
      exact ⟨n, hlow, hhigh, hboth⟩
    · rintro ⟨n, hlow, hhigh, hstatus, hcause⟩
      have hn : n < 32 := by omega
      refine ⟨n, hn, (hfield n hn).2 ⟨hlow, hhigh⟩, ?_⟩
      rw [Word.bit_and _ _ hn, hstatus, hcause]
      rfl
  rw [interruptPending, Bool.and_eq_true, bne_iff_ne (a := _ &&& _ &&& _), hpending]
  exact ⟨fun h => ⟨h.1, h.2⟩, fun h => ⟨h.enabled, h.pending⟩⟩

end SystemControl

namespace Pending

theorem number_ofReg (r : Reg) : (ofReg r).number = UInt32.ofNat r := by
  rw [ofReg]
  split
  · rename_i h
    rw [h]
    rfl
  · rfl

theorem number_of_ofNumber? {v : Word} {p : Pending} (h : ofNumber? v = some p) : p.number = v := by
  rw [ofNumber?] at h
  split at h
  · cases h
    rw [number_ofReg]
    exact UInt32.ofNat_toNat
  · split at h
    · rename_i hv
      cases h
      exact hv.symm
    · cases h

/-- What waits has a number up to that of a branch. -/
theorem ofNumber?_eq_none_iff {v : Word} : ofNumber? v = Option.none ↔ 32 < v := by
  rw [UInt32.lt_iff_toNat_lt, show (32 : Word).toNat = 32 from rfl, ofNumber?]
  split
  · exact iff_of_false (Option.some_ne_none _) (by omega)
  · split
    · rename_i hv
      exact iff_of_false (Option.some_ne_none _) (by simp [hv])
    · rename_i hsmall hv
      have hne : v.toNat ≠ 32 := fun heq => hv (UInt32.toNat_inj.1 heq)
      exact iff_of_true rfl (by omega)

/-- Each number up to that of a branch stands for something that waits. -/
theorem exists_ofNumber? {v : Word} (hv : v ≤ 32) : ∃ p, ofNumber? v = some p ∧ p.number = v := by
  have hsome : ofNumber? v ≠ Option.none := mt ofNumber?_eq_none_iff.1 (UInt32.not_lt.2 hv)
  obtain ⟨p, hp⟩ := Option.ne_none_iff_exists'.1 hsome
  exact ⟨p, hp, number_of_ofNumber? hp⟩

end Pending

namespace Core

open SystemControl (statusReg causeReg epcReg badAddressReg pushMode causeOf)

/-- The next instruction is misaligned, or in kernel space in user mode, and no outstanding branch
leads away from there. -/
structure Stranded (c : Core) : Prop where
  branch : c.branchPending = false
  address : c.pc.toNat % 4 ≠ 0 ∨ c.control.status.bit 1 = true ∧ 2 ^ 31 ≤ c.pc.toNat

theorem stranded_iff {c : Core} :
    c.Stranded ↔ c.branchPending = false ∧ c.refuses 3 c.pc = true := by
  have hrefused : c.refuses 3 c.pc = true ↔
      c.pc.toNat % 4 ≠ 0 ∨ c.control.status.bit 1 = true ∧ 2 ^ 31 ≤ c.pc.toNat := by
    rw [← Bool.not_eq_false, refuses_three_eq_false_iff, Word.and_three_eq_zero_iff,
      Decidable.not_and_iff_or_not, Classical.not_imp, Nat.not_lt]
    rfl
  rw [hrefused]
  exact ⟨fun h => ⟨h.branch, h.address⟩, fun h => ⟨h.1, h.2⟩⟩

/-- What a look at the mode finds wrong. -/
theorem modeFault?_eq (c : Core) :
    (c.control.InterruptDue → c.modeFault? = some .interrupt) ∧
      (¬c.control.InterruptDue → c.Stranded → c.modeFault? = some (.loadAddress c.pc)) ∧
        (¬c.control.InterruptDue → ¬c.Stranded → c.modeFault? = none) := by
  simp only [← SystemControl.interruptPending_iff, stranded_iff, modeFault?]
  cases c.control.interruptPending <;> cases c.branchPending <;> cases c.refuses 3 c.pc <;> simp

/-- What the registers read differently once the handler of a fault has been entered that reports
no coprocessor. -/
def entryReadings (c : Core) (f : Fault) : List (Register × Word) :=
  [(.pc, c.control.handler), (.pendingValue, 0), (.pendingKind, 0),
    (.control statusReg, pushMode c.control.status),
    (.control causeReg, causeOf c.control.cause f.code c.branchPending),
    (.control epcReg, if c.branchPending then c.pc - 4 else c.pc)] ++
  (f.address?.map fun address => (.control badAddressReg, address)).toList ++
  match c.hazard.pending with
  | .load r _ => [(.general r, c.hazard.value)]
  | _ => []

theorem get_raise_control (c : Core) (f : Fault) (k : Reg) :
    (c.raise f).get (.control k) =
      (c.control.afterFault f c.resumeAddress c.branchPending).read k :=
  congrArg (SystemControl.read · k) (c.control_raise f)

theorem get_raise_general (c : Core) (f : Fault) (k : Reg) :
    (c.raise f).get (.general k) = c.upcomingReg k := by
  rw [← read_settledRegs, raise_eq]
  rfl

theorem get_raise_of_listed (c : Core) {f : Fault} (h : f.coprocessor? = none) :
    ∀ change ∈ c.entryReadings f, (c.raise f).get change.1 = change.2 := by
  have hread := c.get_raise_control f
  simp only [entryReadings, List.forall_mem_append, List.forall_mem_cons]
  refine ⟨⟨⟨?_, ?_, ?_, ?_, ?_, ?_, List.forall_mem_nil _⟩, ?_⟩, ?_⟩
  · rw [raise_eq]
    rfl
  · rw [raise_eq]
    rfl
  · rw [raise_eq]
    rfl
  · exact (hread _).trans (SystemControl.status_afterFault ..)
  · exact (hread _).trans (SystemControl.cause_afterFault_of_coprocessor?_eq_none _ _ _ _ h)
  · exact (hread _).trans (SystemControl.epc_afterFault ..)
  · intro change hchange
    rw [Option.mem_toList, Option.map_eq_some_iff] at hchange
    obtain ⟨address, haddress, rfl⟩ := hchange
    rw [hread, SystemControl.badAddress_afterFault, haddress]
    rfl
  · cases hpending : c.hazard.pending with
    | load k _ =>
        refine List.forall_mem_singleton.2 ?_
        rw [get_raise_general, upcomingReg, hpending]
        exact if_pos rfl
    | _ => exact List.forall_mem_nil _

theorem get_raise_of_unlisted (c : Core) {f : Fault} {r : Register}
    (h : r ∉ (c.entryReadings f).map Prod.fst) : (c.raise f).get r = c.get r := by
  cases r with
  | control k =>
      rw [get_raise_control]
      by_cases haddress : k = badAddressReg
      · subst haddress
        rw [SystemControl.badAddress_afterFault]
        cases hf : f.address? with
        | none => rfl
        | some address => simp [entryReadings, hf] at h
      · have hstatus : k ≠ statusReg := by rintro rfl; simp [entryReadings] at h
        have hcause : k ≠ causeReg := by rintro rfl; simp [entryReadings] at h
        have hepc : k ≠ epcReg := by rintro rfl; simp [entryReadings] at h
        exact SystemControl.read_afterFault_of_ne _ _ _ _ haddress hstatus hcause hepc
  | general k =>
      rw [get_raise_general, upcomingReg]
      cases hpending : c.hazard.pending with
      | load s _ =>
          have hs : s ≠ k := by rintro rfl; simp [entryReadings, hpending] at h
          exact if_neg hs
      | _ => rfl
  | pc | pendingValue | pendingKind => simp [entryReadings] at h
  | _ =>
      rw [raise_eq]
      rfl

/-- What the registers read differently after the host has written `v` into one of them, if that
leads to no exception. -/
def reach (c : Core) (v : Word) : Register → List (Register × Word)
  | .pc => [(.pc, v), (.pendingValue, 0), (.pendingKind, 0)]
  | .general r => if r = 0 then [] else [(.general r, v)]
  | .geometryData r =>
    (c.geometry.shown r v).map fun change => (.geometryData change.1, change.2)
  | r => [(r, v)]

/-- A register that is written alone. -/
theorem get_of_alone {c d : Core} {r : Register} {v : Word} (hself : d.get r = v)
    (hother : ∀ s, s ≠ r → d.get s = c.get s) (s : Register) :
    d.get s = withReadings c.get [(r, v)] s :=
  eq_withReadings (List.forall_mem_singleton.2 hself) (fun s hs => hother s (by simpa using hs)) s

theorem get_storeControl (c : Core) (k : Reg) (v : Word) (s : Register) :
    (c.storeControl k v).get s = withReadings c.get [(.control k, v)] s := by
  have hself : (c.storeControl k v).get (.control k) = v := Bank.read_write_self ..
  refine get_of_alone hself (fun s hs => ?_) s
  cases s with
  | control s =>
      have hk : k ≠ s := by rintro rfl; exact hs rfl
      exact Bank.read_write_of_ne _ _ hk
  | _ => rfl

theorem get_jumpTo (c : Core) (v : Word) (s : Register) :
    (c.jumpTo v).get s = withReadings c.get [(.pc, v), (.pendingValue, 0), (.pendingKind, 0)] s := by
  refine eq_withReadings ?_ (fun s hs => ?_) s
  · simp only [List.forall_mem_cons]
    exact ⟨rfl, rfl, rfl, List.forall_mem_nil _⟩
  · cases s with
    | pc | pendingValue | pendingKind => simp at hs
    | _ => rfl

theorem get_setReg (c : Core) (h0 : c.reg 0 = 0) (k : Reg) (v : Word) (s : Register) :
    (c.setReg k v).get s = withReadings c.get (if k = 0 then [] else [(.general k, v)]) s := by
  have hread (s : Reg) :
      (c.setReg k v).get (.general s) = if k = s ∧ k ≠ 0 then v else c.get (.general s) := by
    have hwritten : (c.setReg k v).get (.general s) =
        if 0 = s then 0 else if k = s then v else c.reg s := by
      simp only [get, setReg, reg, Bank.read_write]
    rw [hwritten]
    by_cases hs : 0 = s
    · rw [if_pos hs, if_neg fun h => h.2 (h.1.trans hs.symm), ← hs]
      exact h0.symm
    · have hk : k = s ∧ k ≠ 0 ↔ k = s := and_iff_left_of_imp fun h h' => hs (h'.symm.trans h)
      simp only [if_neg hs, hk]
      rfl
  split
  · rename_i hk
    cases s with
    | general s => exact (hread s).trans (if_neg fun h => h.2 hk)
    | _ => rfl
  · rename_i hk
    refine get_of_alone ((hread k).trans (if_pos ⟨rfl, hk⟩)) (fun s hs => ?_) s
    cases s with
    | general s => exact (hread s).trans (if_neg fun h => hs (congrArg Register.general h.1.symm))
    | _ => rfl

theorem get_writeData (c : Core) (k : Reg) (v : Word) (s : Register) :
    get { c with geometry := c.geometry.writeData k v } s =
      withReadings c.get (c.reach v (.geometryData k)) s := by
  refine eq_withReadings ?_ (fun s hs => ?_) s
  · rw [reach, List.forall_mem_map]
    exact c.geometry.readData_writeData_of_listed k v
  · cases s with
    | geometryData s =>
        refine c.geometry.readData_writeData_of_unlisted fun hmem => hs ?_
        rw [reach, List.map_map]
        obtain ⟨change, hchange, rfl⟩ := List.mem_map.1 hmem
        exact List.mem_map.2 ⟨change, hchange, rfl⟩
    | geometryControl s =>
        exact congrArg (Bank.read · s) (c.geometry.control_writeData k v)
    | _ => rfl

theorem get_put (c : Core) (h0 : c.reg 0 = 0) {r : Register} {v : Word}
    (hkind : r = .pendingKind → v ≤ 32) (hwatched : ∀ k, SystemControl.Watched k → r ≠ .control k)
    (s : Register) :
    (c.put v r).get s = withReadings c.get (c.reach v r) s := by
  cases r with
  | pc => exact c.get_jumpTo v s
  | general k => exact c.get_setReg h0 k v s
  | control k =>
      have hk : ¬SystemControl.Watched k := fun h => hwatched k h rfl
      rw [put, writeControl, writeFault?, if_neg hk]
      exact c.get_storeControl k v s
  | pendingKind =>
      obtain ⟨kind, hkind, hnumber⟩ := Pending.exists_ofNumber? (hkind rfl)
      have hself : (c.put v .pendingKind).get .pendingKind = v := by
        rw [put, hkind]
        exact hnumber
      refine get_of_alone hself (fun s hs => ?_) s
      cases s <;> first | rfl | exact absurd rfl hs
  | geometryData k => exact c.get_writeData k v s
  | geometryControl k =>
      have hself : (c.put v (.geometryControl k)).get (.geometryControl k) = v :=
        Bank.read_write_self ..
      refine get_of_alone hself (fun s hs => ?_) s
      cases s with
      | geometryControl s =>
          have hk : k ≠ s := by rintro rfl; exact hs rfl
          exact Bank.read_write_of_ne _ _ hk
      | _ => rfl
  | pendingValue | hi | lo =>
      refine get_of_alone rfl (fun s hs => ?_) s
      cases s <;> first | rfl | exact absurd rfl hs

def putFault? (c : Core) (v : Word) : Register → Option Fault
  | .control k => c.writeFault? k v
  | _ => none

/-- Whatever an exception makes of the status and the cause register, it lists both of them. -/
theorem get_raise_storeControl (c : Core) {k : Reg} (hk : SystemControl.Watched k) (v : Word)
    {f : Fault} (hf : f.coprocessor? = none) (s : Register) :
    ((c.storeControl k v).raise f).get s =
      withReadings c.get ((c.storeControl k v).entryReadings f) s := by
  refine eq_withReadings ((c.storeControl k v).get_raise_of_listed hf) (fun s hs => ?_) s
  have hlisted : .control k ∈ ((c.storeControl k v).entryReadings f).map Prod.fst := by
    rcases hk with rfl | rfl <;> simp [entryReadings]
  have hne : s ≠ .control k := fun h => hs (h ▸ hlisted)
  rw [get_raise_of_unlisted _ hs, get_storeControl]
  simp [withReadings, List.lookup_cons, beq_eq_false_iff_ne.2 hne]

end Core

namespace Processor

/-- The processor `p` has become `q` because it has accepted `v` for register `r`. -/
structure Accepts (p : Processor) (r : Register) (v : Word) (q : Processor) : Prop where
  set : p.set r v = .ok q
  core : q.core = p.core.put v r
  entered : q.entered = p.entered ++ ((p.core.putFault? v r).map Fault.code).toList
  besides : q = { p with core := q.core, journal := q.journal }

/-- Only numbers for which nothing can wait are refused. -/
theorem exists_accepts (p : Processor) {r : Register} {v : Word}
    (hkind : r = .pendingKind → v ≤ 32) : ∃ q, p.Accepts r v q := by
  have hdone (f : Core → Core) (hset : p.set r v = .ok (p.modifyCore f))
      (hfault : p.core.putFault? v r = none) : ∃ q, p.Accepts r v q := by
    refine ⟨_, hset, core_of_set hset, ?_, rfl⟩
    rw [hfault]
    exact (List.append_nil _).symm
  cases r with
  | control k =>
      have hset := Alike.set_control p k v
      refine ⟨_, hset, core_of_set hset, ?_, ?_⟩
      · rw [entered_tell _ _ rfl, writeControl_eq, entered_raiseIf, entered_storeControl]
        rfl
      · rw [writeControl_eq]
        cases p.core.writeFault? k v with
        | none => rfl
        | some f => cases f <;> rfl
  | pendingKind =>
      obtain ⟨kind, hkind, -⟩ := Pending.exists_ofNumber? (hkind rfl)
      exact hdone (fun c => { c with hazard := { c.hazard with pending := kind } })
        (by simp [set, hkind]) rfl
  | _ => exact hdone _ rfl rfl

end Processor

namespace Machine

variable {β : Type}

/-- The machine `m` has become `m'`. The registers in a list read as the list says and all others as
before, and the handlers of the exceptions in another list have been entered. -/
structure Rewrites (m : Machine β) (changes : List (Register × Word)) (codes : List ExceptionCode)
    (m' : Machine β) : Prop where
  register : ∀ r : Register,
    m'.getRegister r.id = ((changes.lookup r).map .ok).getD (m.getRegister r.id)
  entered : m'.cpu.entered = m.cpu.entered ++ codes
  besides : m' = { m with cpu := { m.cpu with core := m'.cpu.core, journal := m'.cpu.journal } }

theorem getRegister_id (m : Machine β) (r : Register) :
    m.getRegister r.id = .ok (m.cpu.core.get r) := by
  rw [getRegister, Processor.getRegister, r.resolve_id]
  rfl

theorem act_setRegister_of_unresolved (B : Bus β) (m : Machine β) {id : RegisterId}
    {why : MachineError} (h : id.resolve = .error why) (v : Word) :
    m.act B (.setRegister id v) = (.refused why, m) := by
  simp only [act, setRegister, Processor.setRegister, h, Except.bind, Except.map]

theorem act_setRegister_of_accepts (B : Bus β) {m : Machine β} {r : Register} {v : Word}
    {q : Processor} (h : m.cpu.Accepts r v q) :
    m.act B (.setRegister r.id v) = (.written, { m with cpu := q }) := by
  simp only [act, setRegister, Processor.setRegister, r.resolve_id, h.set, Except.bind, Except.map]

theorem Rewrites.listed {m m' : Machine β} {changes : List (Register × Word)}
    {codes : List ExceptionCode} (h : m.Rewrites changes codes m') {r : Register} {w : Word}
    (hw : changes.lookup r = some w) : m'.getRegister r.id = .ok w := by
  rw [h.register, hw]
  rfl

theorem rewrites_of_accepts {m : Machine β} {r : Register} {v : Word} {q : Processor}
    {changes : List (Register × Word)} {f? : Option Fault} (h : m.cpu.Accepts r v q)
    (hfault : m.cpu.core.putFault? v r = f?)
    (hget : ∀ s, (m.cpu.core.put v r).get s = withReadings m.cpu.core.get changes s) :
    m.Rewrites changes (f?.map Fault.code).toList { m with cpu := q } where
  register s := by
    rw [getRegister_id, getRegister_id, h.core, hget, withReadings]
    cases changes.lookup s <;> rfl
  entered := hfault ▸ h.entered
  besides := congrArg (Machine.mk · m.bus m.ready) h.besides

/-- A machine whose register 0 reads zero refuses a write to a register that does not exist and a
number for which nothing can wait, and stays as it is. Any other write is accepted and reaches as
far as the lists say. Only the status and the cause register can lead to an exception, and to one
at most. -/
theorem register_write_contained (B : Bus β) (m : Machine β)
    (hzero : m.getRegister (.general 0) = .ok 0) :
    (∀ n : UInt8, 32 ≤ n →
      ∀ id ∈ [.general n, .control n, .geometryData n, .geometryControl n], ∀ v,
        m.act B (.setRegister id v) = (.refused (.badRegister id.position), m)) ∧
    (∀ v, 32 < v → m.act B (.setRegister .pendingKind v) = (.refused (.badPending v), m)) ∧
    ∀ (r : Register) (v : Word), (r = .pendingKind → v ≤ 32) →
      ∃ m', m.act B (.setRegister r.id v) = (.written, m') ∧
        ((∀ k, SystemControl.Watched k → r ≠ .control k) →
          m.Rewrites (m.cpu.core.reach v r) [] m') ∧
        ∀ k, SystemControl.Watched k → r = .control k →
          let c := m.cpu.core.storeControl k v
          (c.control.InterruptDue → m.Rewrites (c.entryReadings .interrupt) [.interrupt] m') ∧
          (¬c.control.InterruptDue → c.Stranded →
            m.Rewrites (c.entryReadings (.loadAddress c.pc)) [.loadAddressError] m') ∧
          (¬c.control.InterruptDue → ¬c.Stranded → m.Rewrites [(.control k, v)] [] m') := by
  refine ⟨?_, ?_, ?_⟩
  · intro n hn id hid v
    have hrange : ¬n.toNat < 32 := Nat.not_lt.2 hn
    refine act_setRegister_of_unresolved B m ?_ v
    simp only [List.mem_cons, List.not_mem_nil, or_false] at hid
    rcases hid with rfl | rfl | rfl | rfl <;> simp only [RegisterId.resolve, dif_neg hrange]
  · intro v hv
    have hnone := Pending.ofNumber?_eq_none_iff.2 hv
    simp [act, setRegister, Processor.setRegister, RegisterId.resolve, Processor.set, hnone,
      Except.bind, Except.map]
  · intro r v hkind
    obtain ⟨q, haccepts⟩ := m.cpu.exists_accepts hkind
    have h0 : m.cpu.core.reg 0 = 0 :=
      Except.ok.inj ((m.getRegister_id (.general 0)).symm.trans hzero)
    refine ⟨_, act_setRegister_of_accepts B haccepts, fun hwatched => ?_, ?_⟩
    · have hfault : m.cpu.core.putFault? v r = none := by
        cases r with
        | control k => exact if_neg fun hk => hwatched k hk rfl
        | _ => rfl
      exact rewrites_of_accepts haccepts hfault (m.cpu.core.get_put h0 hkind hwatched)
    · rintro k hk rfl c
      obtain ⟨hdue, hstranded, hnothing⟩ := c.modeFault?_eq
      have hfault : m.cpu.core.putFault? v (.control k) = c.modeFault? := if_pos hk
      have hput : m.cpu.core.put v (.control k) = c.raiseIf c.modeFault? :=
        congrArg c.raiseIf hfault
      refine ⟨fun h => ?_, fun h h' => ?_, fun h h' => ?_⟩
      · rw [hdue h] at hfault hput
        exact rewrites_of_accepts haccepts hfault fun s =>
          hput ▸ m.cpu.core.get_raise_storeControl hk v rfl s
      · rw [hstranded h h'] at hfault hput
        exact rewrites_of_accepts haccepts hfault fun s =>
          hput ▸ m.cpu.core.get_raise_storeControl hk v rfl s
      · rw [hnothing h h'] at hfault hput
        exact rewrites_of_accepts haccepts hfault fun s => hput ▸ m.cpu.core.get_storeControl k v s

/-- A machine in a delay slot with a pending software interrupt, and a write that enables it. -/
theorem register_write_contained_in_delay_slot :
    let m : Machine Unit :=
      { cpu :=
          { core :=
              { pc := 0x80001000, hazard := ⟨.branch, 0x80002000⟩,
                control := SystemControl.zero.write 13 0x100 } } }
    ∃ m', m.act (Bus.constant 0) (.setRegister (.control 12) 0x101) = (.written, m') ∧
      m'.cpu.entered = [.interrupt] ∧ m'.getRegister .pc = .ok 0x80000080 ∧
        m'.getRegister (.control 14) = .ok 0x80000ffc ∧ m'.getRegister (.general 7) = .ok 0 := by
  intro m
  obtain ⟨m', hact, -, hwatched⟩ := (m.register_write_contained (Bus.constant 0) rfl).2.2
    (.control 12) 0x101 nofun
  have hdue : (m.cpu.core.storeControl 12 0x101).control.InterruptDue :=
    ⟨by decide, 8, by decide, by decide, by decide, by decide⟩
  have hchanged := (hwatched 12 (.inl rfl) rfl).1 hdue
  exact ⟨m', hact, hchanged.entered, hchanged.listed (r := .pc) (by decide),
    hchanged.listed (r := .control 14) (by decide), hchanged.register (.general 7)⟩

end Machine

end R3000A
