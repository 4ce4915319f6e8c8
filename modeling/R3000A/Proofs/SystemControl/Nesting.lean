import R3000A.Proofs.SystemControl.Entry
import R3000A.Proofs.Word.Bit

/-!
# Nested exceptions

The stack of modes holds three pairs, and nothing is stored when a fourth is pushed onto it. What a
well-nested run of entries and returns gives back therefore depends on how deep it goes: a run that
never goes deeper than `limit` gives back all but the oldest `limit` pairs. Along the way the pairs
that will come back stand higher up by as many pairs as there are handlers open, which is the
invariant `Holds`.
-/

namespace R3000A

namespace SystemControl

/-- What exceptions and their handlers do to the registers. -/
inductive Passage where
  | enter (code : ExceptionCode) (epc : Word) (inDelaySlot : Bool)
  | setCoprocessor (n : Fin 4)
  | leave
  deriving DecidableEq, Repr

/-- The registers after one passage. -/
def pass (c : SystemControl) : Passage → SystemControl
  | .enter code epc inDelaySlot => c.enter code epc inDelaySlot
  | .setCoprocessor n => c.setCoprocessor n
  | .leave => c.leave

def passAll (c : SystemControl) (ps : List Passage) : SystemControl := ps.foldl pass c

/-- With `depth` handlers open, the passages close all of them and those that they open themselves,
each in its turn, and there are never more than `limit` open. -/
def nestedWithin (limit : Nat) : Nat → List Passage → Bool
  | depth, [] => depth == 0
  | depth, .enter .. :: ps => depth < limit && nestedWithin limit (depth + 1) ps
  | depth, .setCoprocessor _ :: ps => nestedWithin limit depth ps
  | 0, .leave :: _ => false
  | depth + 1, .leave :: ps => nestedWithin limit depth ps

/-! ### Single bits of the stack -/

theorem bit_pushMode (s : Word) {n : Nat} (hn : n < 4) : (pushMode s).bit (n + 2) = s.bit n := by
  rw [Word.bit_eq_getLsbD _ (by omega), Word.bit_eq_getLsbD _ (by omega)]
  rcases n with _ | _ | _ | _ | n
  case succ.succ.succ.succ => omega
  all_goals simp [pushMode]

theorem bit_popMode (s : Word) {n : Nat} (hn : n < 4) : (popMode s).bit n = s.bit (n + 2) := by
  rw [Word.bit_eq_getLsbD _ (by omega), Word.bit_eq_getLsbD _ (by omega)]
  rcases n with _ | _ | _ | _ | n
  case succ.succ.succ.succ => omega
  all_goals simp [popMode]

theorem status_setCoprocessor (c : SystemControl) (n : Fin 4) :
    (c.setCoprocessor n).status = c.status := by
  simp [setCoprocessor, status, statusReg, causeReg]

theorem cause_leave (c : SystemControl) : c.leave.cause = c.cause := by
  simp [leave, cause, statusReg, causeReg]

/-! ### What comes back -/

/-- With `depth` handlers open, the pairs of `s` other than the oldest `limit` ones stand in
`status` above those of the handlers. -/
def Holds (limit depth : Nat) (s status : Word) : Prop :=
  ∀ n < 6 - 2 * limit, status.bit (n + 2 * depth) = s.bit n

theorem Holds.refl (limit : Nat) (s : Word) : Holds limit 0 s s := fun _ _ => rfl

theorem Holds.enter {limit depth : Nat} {s status : Word} (h : Holds limit depth s status)
    (hdepth : depth < limit) : Holds limit (depth + 1) s (pushMode status) := by
  intro n hn
  have hindex : n + 2 * (depth + 1) = n + 2 * depth + 2 := by omega
  rw [hindex, bit_pushMode status (by omega), h n hn]

theorem Holds.leave {limit depth : Nat} {s status : Word} (h : Holds limit (depth + 1) s status)
    (hdepth : depth + 1 ≤ limit) : Holds limit depth s (popMode status) := by
  intro n hn
  have hindex : n + 2 * depth + 2 = n + 2 * (depth + 1) := by omega
  rw [bit_popMode status (by omega), hindex, h n hn]

/-- Passages that close every handler bring back what the status register holds for them. -/
theorem Holds.passAll {limit depth : Nat} {s : Word} {ps : List Passage} {c : SystemControl}
    (h : Holds limit depth s c.status) (hdepth : depth ≤ limit)
    (hps : nestedWithin limit depth ps = true) : Holds limit 0 s (c.passAll ps).status := by
  induction ps generalizing depth c with
  | nil =>
      obtain rfl : depth = 0 := by simpa [nestedWithin] using hps
      exact h
  | cons p ps ih =>
      cases p with
      | enter code epc inDelaySlot =>
          simp only [nestedWithin, Bool.and_eq_true, decide_eq_true_eq] at hps
          refine ih (c := c.enter code epc inDelaySlot) ?_ hps.1 hps.2
          rw [status_enter]
          exact h.enter hps.1
      | setCoprocessor n =>
          refine ih (c := c.setCoprocessor n) ?_ hdepth hps
          rw [status_setCoprocessor]
          exact h
      | leave =>
          cases depth with
          | zero => cases hps
          | succ depth =>
              refine ih (c := c.leave) ?_ (by omega) hps
              rw [status_leave]
              exact h.leave hdepth

theorem Holds.of_nestedWithin {limit : Nat} (c : SystemControl) {ps : List Passage}
    (hps : nestedWithin limit 0 ps = true) : Holds limit 0 c.status (c.passAll ps).status :=
  (Holds.refl limit c.status).passAll (Nat.zero_le limit) hps

/-- Where bit by bit is the same, a field is. -/
theorem Holds.and_eq {limit : Nat} {s status m : Word} (h : Holds limit 0 s status)
    (hm : ∀ n < 32, m.bit n = true → n < 6 - 2 * limit) : status &&& m = s &&& m := by
  apply Word.eq_of_bits
  intro n hn
  rw [← Word.bit_eq_getLsbD _ hn, ← Word.bit_eq_getLsbD _ hn, Word.bit_and _ _ hn,
    Word.bit_and _ _ hn]
  cases hbit : m.bit n with
  | false => rw [Bool.and_false, Bool.and_false]
  | true => rw [← h n (hm n hn hbit)]; rfl

/-! ### What never changes -/

/-- The bits of the cause register that say what was wrong. -/
def faultBits : Word := codeBits ||| coprocessorBits ||| delaySlotBit

/-- Outside of the stack of modes and of what says what was wrong, a passage changes nothing in the
status and the cause register. -/
structure SameAround (c d : SystemControl) : Prop where
  status : d.status &&& ~~~(0x3f : Word) = c.status &&& ~~~(0x3f : Word)
  cause : d.cause &&& ~~~faultBits = c.cause &&& ~~~faultBits

theorem SameAround.trans {c d e : SystemControl} (h : SameAround c d) (h' : SameAround d e) :
    SameAround c e :=
  ⟨h'.status.trans h.status, h'.cause.trans h.cause⟩

theorem sameAround_pass (c : SystemControl) (p : Passage) : SameAround c (c.pass p) := by
  cases p with
  | enter code epc inDelaySlot =>
      refine ⟨?_, ?_⟩
      · rw [pass, status_enter, pushMode_and_rest]
      · rw [pass, cause_enter]
        exact causeOf_and_of_disjoint _ _ _ (by decide) (by decide)
  | setCoprocessor n =>
      have hcause : (c.setCoprocessor n).cause &&& ~~~faultBits = c.cause &&& ~~~faultBits :=
        c.cause_note_and_of_disjoint (.coprocessorUnusable n) (by decide)
      exact ⟨congrArg (· &&& _) (c.status_setCoprocessor n), hcause⟩
  | leave =>
      have hmodes : ~~~(0xf : Word) &&& ~~~(0x3f : Word) = ~~~(0x3f : Word) := by decide
      refine ⟨?_, congrArg (· &&& _) c.cause_leave⟩
      rw [pass, status_leave]
      exact Word.and_eq_of_subset (popMode_and_rest c.status) hmodes

theorem sameAround_passAll (c : SystemControl) (ps : List Passage) :
    SameAround c (c.passAll ps) := by
  induction ps generalizing c with
  | nil => exact ⟨rfl, rfl⟩
  | cons p ps ih => exact (c.sameAround_pass p).trans (ih (c.pass p))

/-- Exceptions and returns that are well nested give the mode back: the current and the previous
pair if no handler is itself interrupted, and the current pair if none that has interrupted another
one is. Throughout, the status register stays the same above the stack of modes and the cause
register apart from what says what was wrong, and every entry leads to kernel mode without
interrupts. -/
theorem modes_survive_nesting (c : SystemControl) (ps : List Passage) :
    (nestedWithin 1 0 ps = true → (c.passAll ps).status &&& 0xf = c.status &&& 0xf) ∧
      (nestedWithin 2 0 ps = true → (c.passAll ps).status &&& 0x3 = c.status &&& 0x3) ∧
      ∀ begun, begun <+: ps →
        SameAround c (c.passAll begun) ∧
          ∀ earlier code epc inDelaySlot, begun = earlier ++ [.enter code epc inDelaySlot] →
            (c.passAll begun).status &&& (userBit ||| interruptEnable) = 0 := by
  refine ⟨fun hps => ?_, fun hps => ?_, fun begun _ => ⟨c.sameAround_passAll begun, ?_⟩⟩
  · exact (Holds.of_nestedWithin c hps).and_eq (by decide)
  · exact (Holds.of_nestedWithin c hps).and_eq (by decide)
  · rintro earlier code epc inDelaySlot rfl
    have hlast : c.passAll (earlier ++ [.enter code epc inDelaySlot]) =
        (c.passAll earlier).enter code epc inDelaySlot := by
      rw [passAll, List.foldl_append]
      rfl
    rw [hlast, status_enter]
    exact pushMode_and_current _

/-- User mode with interrupts: a system call whose handler is stopped twice, the second time in a
delay slot. -/
theorem modes_survive_nesting_of_refused_handler :
    let c := zero.write statusReg 0x2040ff27
    let ps : List Passage :=
      [.enter .systemCall 0x00400000 false, .enter .coprocessorError 0x80001000 false,
        .setCoprocessor 2, .leave, .enter .overflow 0x80001008 true, .leave, .leave]
    nestedWithin 2 0 ps = true ∧ (c.passAll ps).status &&& 0x3 = 0x3 ∧
      (c.passAll ps).status &&& ~~~(0x3f : Word) = 0x2040ff00 ∧
      (c.passAll ps).cause = 0xa0000030 := by
  intro c ps
  have hnested : nestedWithin 2 0 ps = true := by decide
  have hmodes := modes_survive_nesting c ps
  exact ⟨hnested, (hmodes.2.1 hnested).trans (by decide),
    (hmodes.2.2 ps (List.prefix_refl ps)).1.status.trans (by decide), by decide⟩

end SystemControl

end R3000A
