import R3000A.Machine
import R3000A.Proofs.Snapshot.RoundTrip

/-!
# A snapshot is loaded whole or not at all

Any bytes at all can be offered as a snapshot. `Holds` says when they are one, and `Refused` names
the first check that they fail otherwise; there is no third case and the two never overlap. A load
works on the machine itself, so `loadInPlace` carries the machine along as a state that an error
does not give back: what had been changed before a check fails would stay changed. Nothing has been,
because the machine is not touched before the last check has passed.

A snapshot that is cut short fails at the header or at the payload, and what follows a whole one is
never looked at.
-/

namespace R3000A

namespace Snapshot

def letters : List UInt8 := ['M', 'I', 'P', 'S'].map fun c => UInt8.ofNat c.toNat

/-- The length that a header announces in its last four bytes, the least significant first. -/
def announced (bytes : List UInt8) : Nat :=
  (bytes.getD 5 0).toNat + 0x100 * (bytes.getD 6 0).toNat + 0x10000 * (bytes.getD 7 0).toNat +
    0x1000000 * (bytes.getD 8 0).toNat

/-- The bytes are a snapshot of the core, perhaps with more after it. -/
structure Holds (f : Format) (bytes : List UInt8) (c : Core) : Prop where
  header : 9 ≤ bytes.length
  letters : bytes.take 4 = letters
  version : bytes[4]? = some 1
  payload : 9 + announced bytes ≤ bytes.length
  core : f.decode? ((bytes.drop 9).take (announced bytes)) = some c

/-- The bytes are no snapshot, and this is the first check that says so. -/
inductive Refused (f : Format) (bytes : List UInt8) : SnapshotError → Prop where
  | header (hheader : bytes.length < 9) : Refused f bytes .truncatedHeader
  | letters (hheader : 9 ≤ bytes.length) (hletters : bytes.take 4 ≠ letters) :
      Refused f bytes .badMagic
  | version {v : UInt8} (hheader : 9 ≤ bytes.length) (hletters : bytes.take 4 = letters)
      (hversion : bytes[4]? = some v) (hother : v ≠ 1) : Refused f bytes (.unsupportedVersion v)
  | payload (hheader : 9 ≤ bytes.length) (hletters : bytes.take 4 = letters)
      (hversion : bytes[4]? = some 1) (hpayload : bytes.length < 9 + announced bytes) :
      Refused f bytes .truncatedPayload
  | core (hheader : 9 ≤ bytes.length) (hletters : bytes.take 4 = letters)
      (hversion : bytes[4]? = some 1) (hpayload : 9 + announced bytes ≤ bytes.length)
      (hcore : f.decode? ((bytes.drop 9).take (announced bytes)) = none) :
      Refused f bytes .undecodable

theorem payloadLength_eq_announced (bytes : List UInt8) :
    payloadLength bytes = announced bytes := by
  have hdrop (i : Nat) : (bytes.drop 5).getD i 0 = bytes.getD (5 + i) 0 := by
    rw [List.getD_eq_getElem?_getD, List.getD_eq_getElem?_getD, List.getElem?_drop]
  rw [payloadLength, Word.toNat_ofBytes_take_four]
  simp only [hdrop]
  rfl

/-- The checks in their order, on what the bytes are required to be. -/
theorem loadAs_eq (f : Format) (bytes : List UInt8) :
    loadAs f bytes =
      if bytes.length < 9 then .error .truncatedHeader
      else if bytes.take 4 ≠ letters then .error .badMagic
      else if bytes.getD 4 0 ≠ 1 then .error (.unsupportedVersion (bytes.getD 4 0))
      else if bytes.length < 9 + announced bytes then .error .truncatedPayload
      else
        match f.decode? ((bytes.drop 9).take (announced bytes)) with
        | some c => .ok c
        | none => .error .undecodable := by
  by_cases hheader : bytes.length < 9
  · rw [loadAs, if_pos hheader, if_pos (show bytes.length < headerLength from hheader)]
  · have hmagic : magic = letters := rfl
    have hpayload : (bytes.drop headerLength).length < announced bytes ↔
        bytes.length < 9 + announced bytes := by
      rw [List.length_drop, headerLength]
      omega
    simp only [loadAs, hmagic, payloadLength_eq_announced, hpayload]
    rfl

section

variable {f : Format} {bytes : List UInt8}

theorem getD_of_version {v : UInt8} (h : bytes[4]? = some v) : bytes.getD 4 0 = v := by
  rw [List.getD_eq_getElem?_getD, h, Option.getD_some]

theorem Holds.loadAs_eq {c : Core} (h : Holds f bytes c) : loadAs f bytes = .ok c := by
  rw [Snapshot.loadAs_eq, if_neg (Nat.not_lt.2 h.header), if_neg (not_not_intro h.letters),
    if_neg (not_not_intro (getD_of_version h.version)), if_neg (Nat.not_lt.2 h.payload), h.core]

theorem Refused.loadAs_eq {why : SnapshotError} (h : Refused f bytes why) :
    loadAs f bytes = .error why := by
  rw [Snapshot.loadAs_eq]
  cases h with
  | header hheader => rw [if_pos hheader]
  | letters hheader hletters => rw [if_neg (Nat.not_lt.2 hheader), if_pos hletters]
  | version hheader hletters hversion hother =>
      rw [if_neg (Nat.not_lt.2 hheader), if_neg (not_not_intro hletters),
        getD_of_version hversion, if_pos hother]
  | payload hheader hletters hversion hpayload =>
      rw [if_neg (Nat.not_lt.2 hheader), if_neg (not_not_intro hletters),
        if_neg (not_not_intro (getD_of_version hversion)), if_pos hpayload]
  | core hheader hletters hversion hpayload hcore =>
      rw [if_neg (Nat.not_lt.2 hheader), if_neg (not_not_intro hletters),
        if_neg (not_not_intro (getD_of_version hversion)), if_neg (Nat.not_lt.2 hpayload), hcore]

/-- All bytes are a snapshot or fail a check. -/
theorem holds_or_refused (f : Format) (bytes : List UInt8) :
    (∃ c, Holds f bytes c) ∨ ∃ why, Refused f bytes why := by
  rcases Nat.lt_or_ge bytes.length 9 with hheader | hheader
  · exact .inr ⟨_, .header hheader⟩
  rcases (Decidable.em (bytes.take 4 = letters)).symm with hletters | hletters
  · exact .inr ⟨_, .letters hheader hletters⟩
  obtain ⟨v, hversion⟩ : ∃ v, bytes[4]? = some v :=
    ⟨_, List.getElem?_eq_getElem (Nat.lt_of_lt_of_le (by decide) hheader)⟩
  rcases (Decidable.em (v = 1)).symm with hother | rfl
  · exact .inr ⟨_, .version hheader hletters hversion hother⟩
  rcases Nat.lt_or_ge bytes.length (9 + announced bytes) with hpayload | hpayload
  · exact .inr ⟨_, .payload hheader hletters hversion hpayload⟩
  cases hcore : f.decode? ((bytes.drop 9).take (announced bytes)) with
  | none => exact .inr ⟨_, .core hheader hletters hversion hpayload hcore⟩
  | some c => exact .inl ⟨c, hheader, hletters, hversion, hpayload, hcore⟩

theorem loadAs_eq_ok_iff {c : Core} : loadAs f bytes = .ok c ↔ Holds f bytes c := by
  constructor
  · intro h
    rcases holds_or_refused f bytes with ⟨d, hd⟩ | ⟨why, hwhy⟩
    · cases hd.loadAs_eq.symm.trans h
      exact hd
    · cases hwhy.loadAs_eq.symm.trans h
  · exact Holds.loadAs_eq

theorem loadAs_eq_error_iff {why : SnapshotError} :
    loadAs f bytes = .error why ↔ Refused f bytes why := by
  constructor
  · intro h
    rcases holds_or_refused f bytes with ⟨d, hd⟩ | ⟨other, hother⟩
    · cases hd.loadAs_eq.symm.trans h
    · cases hother.loadAs_eq.symm.trans h
      exact hother
  · exact Refused.loadAs_eq

end

/-- What is wrong with a snapshot that ends after `n` bytes. -/
def cutError (n : Nat) : SnapshotError := if n < 9 then .truncatedHeader else .truncatedPayload

theorem length_saveAs (f : Format) (c : Core) :
    (saveAs f c).length = 9 + (f.encode c).length := by
  simp only [saveAs, magic, Word.toBytes, List.length_append, List.length_cons, List.length_nil]

/-- No snapshot can be cut short unnoticed. -/
theorem refused_take_saveAs {f : Format} (hf : f.Faithful) (c : Core) {n : Nat}
    (hn : n < (saveAs f c).length) : Refused f ((saveAs f c).take n) (cutError n) := by
  rw [length_saveAs] at hn
  have hlength : ((saveAs f c).take n).length = n := by
    rw [List.length_take, length_saveAs]
    omega
  rcases Nat.lt_or_ge n 9 with hshort | hlong
  · rw [cutError, if_pos hshort]
    exact .header (by rw [hlength]; exact hshort)
  · rw [cutError, if_neg (Nat.not_lt.2 hlong)]
    obtain ⟨k, rfl⟩ := Nat.exists_eq_add_of_le' hlong
    -- The whole header is left, and it announces the payload as it was.
    have hannounced : announced ((saveAs f c).take (k + 9)) = (f.encode c).length := by
      have hwhole := payloadLength_saveAs_append hf c []
      rw [payloadLength_eq_announced] at hwhole
      exact hwhole
    refine .payload (by rw [hlength]; exact hlong) rfl rfl ?_
    rw [hlength, hannounced]
    exact hn

end Snapshot

namespace Machine

variable {β : Type}

/-- A load that works on the machine itself, check by check. -/
def loadInPlace (f : Snapshot.Format) (bytes : List UInt8) :
    EStateM MachineError (Machine β) Unit := do
  if bytes.length < Snapshot.headerLength then
    throw (.badSnapshot .truncatedHeader)
  if bytes.take 4 ≠ Snapshot.magic then
    throw (.badSnapshot .badMagic)
  let version := bytes.getD 4 0
  if version ≠ Snapshot.version then
    throw (.badSnapshot (.unsupportedVersion version))
  let body := bytes.drop Snapshot.headerLength
  let length := Snapshot.payloadLength bytes
  if body.length < length then
    throw (.badSnapshot .truncatedPayload)
  match f.decode? (body.take length) with
  | none => throw (.badSnapshot .undecodable)
  | some core =>
    modify fun m => { m with cpu := { m.cpu with core := core } }
    modify fun m => { m with cpu := m.cpu.record (.restored core.pc) }
    modify fun m => { m with ready := true }

/-- A load in place comes to what a load yields, and an error to the machine as it was. -/
theorem run_loadInPlace (f : Snapshot.Format) (bytes : List UInt8) (m : Machine β) :
    (loadInPlace f bytes).run m =
      match m.loadAs f bytes with
      | .ok m' => .ok () m'
      | .error e => .error e m := by
  rw [loadAs, Snapshot.loadAs, loadInPlace]
  by_cases hheader : bytes.length < Snapshot.headerLength
  · simp only [if_pos hheader]
    rfl
  by_cases hletters : bytes.take 4 ≠ Snapshot.magic
  · simp only [if_neg hheader, if_pos hletters]
    rfl
  by_cases hversion : bytes.getD 4 0 ≠ Snapshot.version
  · simp only [if_neg hheader, if_neg hletters, if_pos hversion]
    rfl
  by_cases hpayload : (bytes.drop Snapshot.headerLength).length < Snapshot.payloadLength bytes
  · simp only [if_neg hheader, if_neg hletters, if_neg hversion, if_pos hpayload]
    rfl
  simp only [if_neg hheader, if_neg hletters, if_neg hversion, if_neg hpayload]
  cases f.decode? ((bytes.drop Snapshot.headerLength).take (Snapshot.payloadLength bytes)) <;> rfl

/-- A load accepts exactly the snapshots: it succeeds if the bytes hold a core and fails with the
first check that they do not pass. A load that fails leaves the machine as it was. So no snapshot
that has been cut short is accepted, and one with anything after it is loaded like the snapshot
alone. -/
theorem load_is_atomic {f : Snapshot.Format} (hf : f.Faithful) (m : Machine β) :
    (∀ bytes m', m.loadAs f bytes = .ok m' ↔
        ∃ core, Snapshot.Holds f bytes core ∧ m' = m.resume core) ∧
      (∀ bytes e, m.loadAs f bytes = .error e ↔
        ∃ why, Snapshot.Refused f bytes why ∧ e = .badSnapshot why) ∧
      (∀ bytes, (loadInPlace f bytes).run m =
        match m.loadAs f bytes with
        | .ok m' => .ok () m'
        | .error e => .error e m) ∧
      (∀ core n, n < (Snapshot.saveAs f core).length →
        m.loadAs f ((Snapshot.saveAs f core).take n) =
          .error (.badSnapshot (Snapshot.cutError n))) ∧
      ∀ core rest, m.loadAs f (Snapshot.saveAs f core ++ rest) = .ok (m.resume core) := by
  refine ⟨?_, ?_, fun bytes => run_loadInPlace f bytes m, ?_, ?_⟩
  · intro bytes m'
    simp only [← Snapshot.loadAs_eq_ok_iff, loadAs]
    cases Snapshot.loadAs f bytes with
    | ok core => simp [eq_comm]
    | error why => simp
  · intro bytes e
    simp only [← Snapshot.loadAs_eq_error_iff, loadAs]
    cases Snapshot.loadAs f bytes with
    | ok core => simp
    | error why => simp [eq_comm]
  · intro core n hn
    rw [loadAs, (Snapshot.refused_take_saveAs hf core hn).loadAs_eq]
  · intro core rest
    rw [loadAs, Snapshot.loadAs_saveAs_append hf]

/-- A snapshot of the next version and one that lacks its last byte. -/
theorem load_is_atomic_of_damaged :
    let m : Machine Unit := { bus := some (), ready := true }
    let newer : List UInt8 := [0x4d, 0x49, 0x50, 0x53, 2, 0, 0, 0, 0]
    Snapshot.Format.words.Faithful ∧
      (loadInPlace .words newer).run m = .error (.badSnapshot (.unsupportedVersion 2)) m ∧
      MachineError.message (.badSnapshot (.unsupportedVersion 2)) =
        "Invalid savestate: unsupported version 2" ∧
      m.load ((m.save).take 556) = .error (.badSnapshot .truncatedPayload) := by
  intro m newer
  have hload := load_is_atomic Snapshot.Format.words_faithful m
  have hnewer : m.loadAs .words newer = .error (.badSnapshot (.unsupportedVersion 2)) :=
    (hload.2.1 newer _).2 ⟨_, .version (v := 2) (by decide) rfl rfl (by decide), rfl⟩
  refine ⟨Snapshot.Format.words_faithful, ?_, by decide, ?_⟩
  · rw [hload.2.2.1, hnewer]
  · have hlength : (Snapshot.Format.words.encode m.cpu.core).length = 548 :=
      Snapshot.length_encode m.cpu.core
    exact hload.2.2.2.1 m.cpu.core 556 (by rw [Snapshot.length_saveAs, hlength]; decide)

end Machine

end R3000A
