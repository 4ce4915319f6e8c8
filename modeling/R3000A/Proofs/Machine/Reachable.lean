import R3000A.Machine
import R3000A.Proofs.Snapshot.RoundTrip

/-!
# Reachable machines

A machine is reachable if its host can have brought it about: by the operations of the library in
any order, with any bus connected, any program on it and any snapshot taken from a machine that is
itself reachable. Operations that are refused answer with an error instead of a machine, so they
need no case. `Reachable.core_invariant` is the one induction over all of this: what holds of a new
core, after a reset, at the end of a slice, and after the host has driven a line or written a
register, holds of the core of every reachable machine.
-/

namespace R3000A

namespace Machine

/-- The machine can be brought about by its host. The bus is a parameter of each slice, and the
machine a snapshot was taken from may have been connected to another kind of bus. -/
inductive Reachable : {β : Type} → Machine β → Prop where
  | new {β : Type} (settings : Settings) : Reachable (new settings : Machine β)
  | attach {β : Type} {m : Machine β} (bus : β) (h : Reachable m) : Reachable (m.attach bus).1
  | detach {β : Type} {m : Machine β} (h : Reachable m) : Reachable m.detach.1
  | reset {β : Type} {m : Machine β} (h : Reachable m) : Reachable m.reset
  | execute {β : Type} {m m' : Machine β} (B : Bus β) (budget : Int) (n : Nat) (h : Reachable m)
      (hrun : m.execute B budget = .ok (n, m')) : Reachable m'
  | setLine {β : Type} {m m' : Machine β} (line : Int) (level : Bool) (state : InterruptState)
      (h : Reachable m) (hset : m.setLine line level = .ok (state, m')) : Reachable m'
  | setCallback {β : Type} {m : Machine β} (callback : Option Callback) (h : Reachable m) :
      Reachable (m.setCallback callback)
  | post {β : Type} {m : Machine β} (rs : List Request) (h : Reachable m) : Reachable (m.post rs)
  | setRegister {β : Type} {m m' : Machine β} (id : RegisterId) (v : Word) (h : Reachable m)
      (hset : m.setRegister id v = .ok m') : Reachable m'
  | setSettings {β : Type} {m : Machine β} (settings : Settings) (h : Reachable m) :
      Reachable (m.setSettings settings)
  | load {β γ : Type} {m m' : Machine β} {source : Machine γ} (h : Reachable m)
      (hsource : Reachable source) (hload : m.load source.save = .ok m') : Reachable m'
  | drain {β : Type} {m : Machine β} (h : Reachable m) : Reachable m.drain.2

variable {β : Type}

theorem execute_eq_ok_iff {B : Bus β} {budget : Int} {m m' : Machine β} {n : Nat} :
    m.execute B budget = .ok (n, m') ↔
      ∃ bus, m.ready = true ∧ m.bus = some bus ∧
        n = (Slice.run B budget ⟨m.cpu, bus⟩).executed ∧
        m' = ⟨(Slice.run B budget ⟨m.cpu, bus⟩).system.cpu,
          some (Slice.run B budget ⟨m.cpu, bus⟩).system.bus, true⟩ := by
  obtain ⟨cpu, bus, ready⟩ := m
  cases ready with
  | false => simp [execute]
  | true =>
      cases bus with
      | none => simp [execute]
      | some bus => simp [execute, eq_comm]

theorem core_of_execute {B : Bus β} {budget : Int} {m m' : Machine β} {n : Nat}
    (h : m.execute B budget = .ok (n, m')) :
    ∃ bus, m'.cpu.core = (Slice.run B budget ⟨m.cpu, bus⟩).system.cpu.core := by
  obtain ⟨bus, -, -, -, rfl⟩ := execute_eq_ok_iff.1 h
  exact ⟨bus, rfl⟩

theorem core_of_setLine {line : Int} {level : Bool} {m m' : Machine β} {state : InterruptState}
    (h : m.setLine line level = .ok (state, m')) :
    ∃ l, m'.cpu.core = (m.cpu.setLine l level).1.core := by
  cases hline : Line.ofInt? line with
  | none => simp [setLine, hline] at h
  | some l =>
      simp only [setLine, hline, Except.ok.injEq, Prod.mk.injEq] at h
      exact ⟨l, by rw [← h.2]⟩

theorem cpu_of_setRegister {id : RegisterId} {v : Word} {m m' : Machine β}
    (h : m.setRegister id v = .ok m') : ∃ r, id.resolve = .ok r ∧ m.cpu.set r v = .ok m'.cpu := by
  cases hid : id.resolve with
  | error e => simp [setRegister, Processor.setRegister, hid, Except.bind, Except.map] at h
  | ok r =>
      cases hset : m.cpu.set r v with
      | error e => simp [setRegister, Processor.setRegister, hid, hset, Except.bind, Except.map] at h
      | ok cpu =>
          simp only [setRegister, Processor.setRegister, hid, hset, Except.bind, Except.map,
            Except.ok.injEq] at h
          exact ⟨r, rfl, by rw [← h, hset]⟩

theorem core_of_load_save {γ : Type} {m m' : Machine β} {source : Machine γ}
    (h : m.load source.save = .ok m') : m'.cpu.core = source.cpu.core := by
  simp only [load, loadAs, save, saveAs,
    Snapshot.loadAs_saveAs Snapshot.Format.words_faithful, Except.ok.injEq] at h
  rw [← h]
  rfl

/-- What a new core has and every operation of the host preserves, the core of every reachable
machine has. -/
theorem Reachable.core_invariant (P : Core → Prop) (hnew : P {}) (hreset : ∀ c, P c → P c.reset)
    (hslice : ∀ {β : Type} (B : Bus β) (budget : Int) (s : System β), P s.cpu.core →
      P (Slice.run B budget s).system.cpu.core)
    (hline : ∀ (p : Processor) l level, P p.core → P (p.setLine l level).1.core)
    (hset : ∀ (p p' : Processor) r v, P p.core → p.set r v = .ok p' → P p'.core)
    {m : Machine β} (h : Reachable m) : P m.cpu.core := by
  induction h with
  | new settings => exact hnew
  | attach bus _ ih => exact ih
  | detach _ ih => exact ih
  | reset _ ih => exact hreset _ ih
  | execute B budget n _ hrun ih =>
      obtain ⟨bus, hcore⟩ := core_of_execute hrun
      rw [hcore]
      exact hslice B budget _ ih
  | setLine line level state _ hset' ih =>
      obtain ⟨l, hcore⟩ := core_of_setLine hset'
      rw [hcore]
      exact hline _ l level ih
  | setCallback callback _ ih => exact ih
  | post rs _ ih => exact ih
  | setRegister id v _ hset' ih =>
      obtain ⟨r, -, hcpu⟩ := cpu_of_setRegister hset'
      exact hset _ _ r v ih hcpu
  | setSettings settings _ ih => exact ih
  | load _ _ hload _ ihsource =>
      rw [core_of_load_save hload]
      exact ihsource
  | drain _ ih => exact ih

end Machine

end R3000A
