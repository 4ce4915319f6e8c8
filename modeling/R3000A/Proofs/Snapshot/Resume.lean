import R3000A.Proofs.Machine.Accessor

/-!
# A snapshot resumes exactly

A snapshot holds the core, and the rest of a machine is its host's. So a machine that loads the
snapshot of another keeps its own settings, its bus, its callback, its handle and whatever was
requested through that. If its settings and its bus are those of the other machine, nothing was
requested of either, and their callbacks will ask for the same, then the two have alike registers
after the load, and from there on the host cannot tell them apart, whatever it does with both,
changes of the settings included.
-/

namespace R3000A

/-- What a host does with a machine that it may configure as well. -/
inductive Operation where
  | act (a : Action)
  | setSettings (settings : Settings)

namespace Machine

variable {β : Type}

/-- The machine after an operation, and what comes of it if the host gets an answer. -/
def operate (B : Bus β) (m : Machine β) : Operation → Option Outcome × Machine β
  | .act a => ((m.act B a).1, (m.act B a).2)
  | .setSettings settings => (none, m.setSettings settings)

def operateAll (B : Bus β) : List Operation → Machine β → List (Option Outcome) × Machine β
  | [], m => ([], m)
  | o :: os, m =>
    let next := m.operate B o
    let rest := next.2.operateAll B os
    (next.1 :: rest.1, rest.2)

namespace Indistinct

variable {m n : Machine β}

theorem setSettings (h : m.Indistinct n) (settings : Settings) :
    (m.setSettings settings).Indistinct (n.setSettings settings) :=
  ⟨⟨h.cpu.core, rfl, h.cpu.requests, h.cpu.replies⟩, h.bus, h.ready⟩

theorem operate (h : m.Indistinct n) (B : Bus β) (o : Operation) :
    (m.operate B o).1 = (n.operate B o).1 ∧
      (m.operate B o).2.Indistinct (n.operate B o).2 := by
  cases o with
  | act a =>
      obtain ⟨houtcome, hnext⟩ := h.act B a
      exact ⟨congrArg some houtcome, hnext⟩
  | setSettings settings => exact ⟨rfl, h.setSettings settings⟩

theorem operateAll (h : m.Indistinct n) (B : Bus β) (os : List Operation) :
    (m.operateAll B os).1 = (n.operateAll B os).1 ∧
      (m.operateAll B os).2.Indistinct (n.operateAll B os).2 := by
  induction os generalizing m n with
  | nil => exact ⟨rfl, h⟩
  | cons o os ih =>
      obtain ⟨houtcome, hnext⟩ := h.operate B o
      obtain ⟨houtcomes, hlast⟩ := ih hnext
      refine ⟨?_, hlast⟩
      rw [Machine.operateAll, Machine.operateAll, houtcome, houtcomes]

end Indistinct

/-- What belongs to the host is the same for both machines: the settings, the bus, the callback, and
the handle with the requests that were made through it. -/
structure SameHost (m n : Machine β) : Prop where
  settings : m.cpu.settings = n.cpu.settings
  bus : m.bus = n.bus
  callback : m.cpu.callback = n.cpu.callback
  handle : m.handle = n.handle
  requests : m.cpu.requests = n.cpu.requests

theorem sameHost_resume (m : Machine β) (core : Core) : (m.resume core).SameHost m :=
  ⟨rfl, rfl, rfl, rfl, rfl⟩

/-- Requests through any handle reach the machine after it has been resumed if they do so before. -/
theorem send_resume (m : Machine β) (core : Core) (h : Handle) (rs : List Request) :
    (m.resume core).send h rs = (m.send h rs).resume core := by
  have hhandle : (m.resume core).handle = m.handle := rfl
  rw [send, send, hhandle]
  split
  · rfl
  · rfl

theorem requests_send_handle (m : Machine β) (rs : List Request) :
    (m.send m.handle rs).cpu.requests = m.cpu.requests ++ rs := by
  rw [send, if_pos rfl]
  rfl

theorem loadAs_eq_ok {f : Snapshot.Format} {bytes : List UInt8} {m m' : Machine β}
    (h : m.loadAs f bytes = .ok m') :
    ∃ core, Snapshot.loadAs f bytes = .ok core ∧ m' = m.resume core := by
  rw [loadAs] at h
  cases hcore : Snapshot.loadAs f bytes with
  | ok core =>
      rw [hcore] at h
      exact ⟨core, rfl, (Except.ok.inj h).symm⟩
  | error why =>
      rw [hcore] at h
      cases h

theorem indistinct_resume {m n : Machine β} (hready : m.ready = true)
    (hsettings : n.cpu.settings = m.cpu.settings) (hbus : n.bus = m.bus)
    (hm : m.cpu.requests = []) (hn : n.cpu.requests = [])
    (hreplies : n.cpu.RepliesAlike m.cpu) : (n.resume m.cpu.core).Indistinct m := by
  refine ⟨⟨⟨rfl, ?_, rfl⟩, hsettings, ?_, hreplies⟩, hbus, hready.symm⟩
  · intro r
    rfl
  · change Request.Same n.cpu.requests m.cpu.requests
    rw [hm, hn]
    exact .refl []

/-- A load keeps what belongs to the host, and handles go on leading to where they have led before.
A machine that loads the snapshot of one that may run, with the same settings, the same bus, nothing
requested of either and callbacks that ask the same at the same calls, then answers every further
operation as that one does, uses the bus in the same way and has the same registers. -/
theorem snapshot_resumes {f : Snapshot.Format} (hf : f.Faithful) (B : Bus β) :
    (∀ (n n' : Machine β) bytes, n.loadAs f bytes = .ok n' →
        n'.SameHost n ∧
          (∀ h rs, (n.send h rs).loadAs f bytes = .ok (n'.send h rs)) ∧
          ∀ rs, (n'.send n.handle rs).cpu.requests = n.cpu.requests ++ rs) ∧
      ∀ m n : Machine β, m.ready = true → m.cpu.requests = [] → n.cpu.requests = [] →
        n.cpu.settings = m.cpu.settings → n.bus = m.bus → n.cpu.RepliesAlike m.cpu →
        ∃ n', n.loadAs f (m.saveAs f) = .ok n' ∧ ∀ operations,
          (n'.operateAll B operations).1 = (m.operateAll B operations).1 ∧
            (n'.operateAll B operations).2.Alike (m.operateAll B operations).2 := by
  refine ⟨?_, ?_⟩
  · intro n n' bytes hload
    obtain ⟨core, hcore, rfl⟩ := loadAs_eq_ok hload
    refine ⟨sameHost_resume n core, ?_, ?_⟩
    · intro h rs
      rw [loadAs, hcore, send_resume]
    · intro rs
      exact requests_send_handle (n.resume core) rs
  · intro m n hready hm hn hsettings hbus hreplies
    refine ⟨n.resume m.cpu.core, ?_, fun operations => ?_⟩
    · rw [loadAs, saveAs, Snapshot.loadAs_saveAs hf]
    · obtain ⟨houtcomes, hlast⟩ :=
        (indistinct_resume hready hsettings hbus hm hn hreplies).operateAll B operations
      exact ⟨houtcomes, hlast.alike⟩

/-- A load that is outstanding stays so in another machine, to which its own handle leads as before.
Its callback takes note of the lines, while the machine of the snapshot has none. -/
theorem snapshot_resumes_with_load_outstanding :
    let m : Machine Unit :=
      { cpu := { core := { hazard := ⟨.load 2 (by decide), 7⟩ } }, bus := some (), ready := true }
    let n : Machine Unit := Machine.watch { cpu := { handle := ⟨1⟩ }, bus := some () } true
    let operations := [.setSettings { breakMode := .halt }, .act (.setLine 3 true),
      .act (.execute 1)]
    n.cpu.RepliesAlike m.cpu ∧ ∃ n', n.loadAs .words (m.saveAs .words) = .ok n' ∧
      (n'.operateAll (Bus.constant 0) operations).2.getRegister (.general 2) = .ok 7 ∧
      (n'.send ⟨1⟩ [.shorten]).cpu.requests = [.shorten] := by
  intro m n operations
  have hreplies : n.cpu.RepliesAlike m.cpu :=
    .of_silent (fun _ _ => rfl) (fun _ _ => rfl)
  obtain ⟨hhost, hresume⟩ :=
    snapshot_resumes Snapshot.Format.words_faithful (Bus.constant 0)
  obtain ⟨n', hload, hsame⟩ := hresume m n rfl rfl rfl rfl rfl hreplies
  have hvalue : (m.operateAll (Bus.constant 0) operations).2.cpu.core.reg 2 = 7 := by decide
  refine ⟨hreplies, n', hload, ?_, ?_⟩
  · rw [(hsame operations).2.register]
    exact congrArg Except.ok hvalue
  · exact (hhost n n' _ hload).2.2 [.shorten]

end Machine

end R3000A
