import Mathlib.Data.List.Induction
import R3000A.Proofs.Processor.Deliver

/-!
# The latch of a handle

Devices that hold a handle leave their requests in three cells: a flag, a mask of lines to assert
and a mask of lines to release. The list of requests that the processor keeps says more than the
cells do, but not about anything that a delivery looks at. `Latch.collect` makes the requests in
their order, and `Latch.holds_collect` says that the cells lose nothing: no line is in both masks,
and the lines that are read off them are the lines of the last requests.
-/

namespace R3000A

namespace Request

/-- The last of the requests for line `l` asks for a level. -/
def Asks (rs : List Request) (l : Line) (level : Bool) : Prop :=
  ∃ before after, rs = before ++ .line l level :: after ∧ ∀ other, .line l other ∉ after

theorem level?_eq_none_iff {l : Line} {rs : List Request} :
    level? l rs = none ↔ ∀ level, .line l level ∉ rs := by
  induction rs with
  | nil => simp [level?]
  | cons r rs ih =>
      cases r with
      | shorten => simpa [level?] using ih
      | line k level =>
          by_cases hk : k = l
          · cases level <;> simp [level?, hk]
          · simpa [level?, hk, Ne.symm hk] using ih

theorem level?_eq_some_iff {l : Line} {level : Bool} {rs : List Request} :
    level? l rs = some level ↔ Asks rs l level := by
  constructor
  · intro h
    induction rs with
    | nil => cases h
    | cons r rs ih =>
        cases hrest : level? l rs with
        | some earlier =>
            obtain rfl : earlier = level := by
              cases r <;> simpa [level?, hrest] using h
            obtain ⟨before, after, rfl, hafter⟩ := ih hrest
            exact ⟨r :: before, after, rfl, hafter⟩
        | none =>
            cases r with
            | shorten => simp [level?, hrest] at h
            | line k new =>
                obtain ⟨rfl, rfl⟩ : k = l ∧ new = level := by simpa [level?, hrest] using h
                exact ⟨[], rs, rfl, level?_eq_none_iff.1 hrest⟩
  · rintro ⟨before, after, rfl, hafter⟩
    simp [level?_append, level?, level?_eq_none_iff.2 hafter]

/-- The changes are the last requests. -/
theorem mem_changes {l : Line} {level : Bool} {rs : List Request} :
    (l, level) ∈ changes rs ↔ Asks rs l level := by
  rw [← level?_eq_some_iff, changes, List.mem_filterMap]
  constructor
  · rintro ⟨k, -, hk⟩
    obtain ⟨found, hfound, hpair⟩ := Option.map_eq_some_iff.1 hk
    cases hpair
    exact hfound
  · intro h
    exact ⟨l, List.mem_finRange l, by rw [h]; rfl⟩

/-- The changes stand in the order of the lines, each line once. -/
theorem changes_ascending (rs : List Request) :
    (changes rs).Pairwise fun change next => change.1 < next.1 := by
  refine List.Pairwise.filterMap _ ?_ (List.pairwise_lt_finRange 6)
  intro l k hlt change hchange next hnext
  obtain ⟨_, -, rfl⟩ := Option.map_eq_some_iff.1 hchange
  obtain ⟨_, -, rfl⟩ := Option.map_eq_some_iff.1 hnext
  exact hlt

end Request

namespace Line

def mask (l : Line) : UInt8 := (1 : UInt8) <<< UInt8.ofNat l

def isIn (l : Line) (m : UInt8) : Bool := m &&& l.mask != 0

theorem toBitVec_mask : ∀ l : Line, l.mask.toBitVec = BitVec.twoPow 8 l := by decide

theorem isIn_eq_getLsbD (l : Line) (m : UInt8) : l.isIn m = m.toBitVec.getLsbD l := by
  have hbit : BitVec.twoPow 8 l ≠ 0 := by revert l; decide
  have hand : m &&& l.mask = 0 ↔ m.toBitVec.getLsbD l = false := by
    rw [← UInt8.toBitVec_inj, UInt8.toBitVec_and, toBitVec_mask, BitVec.and_twoPow]
    cases m.toBitVec.getLsbD l with
    | false => simp
    | true => simpa using hbit
  cases h : m.toBitVec.getLsbD l with
  | false => simp [isIn, hand.2 h]
  | true => simpa [isIn, bne_iff_ne, hand] using h

theorem getLsbD_mask (l k : Line) : l.mask.toBitVec.getLsbD k = decide (l = k) := by
  rw [toBitVec_mask, BitVec.getLsbD_twoPow]
  simp [Fin.ext_iff, show l.val < 8 by omega]

theorem isIn_or_mask (l k : Line) (m : UInt8) :
    k.isIn (m ||| l.mask) = (decide (l = k) || k.isIn m) := by
  rw [isIn_eq_getLsbD, isIn_eq_getLsbD, UInt8.toBitVec_or, BitVec.getLsbD_or, getLsbD_mask,
    Bool.or_comm]

theorem isIn_and_not_mask (l k : Line) (m : UInt8) :
    k.isIn (m &&& ~~~l.mask) = (!decide (l = k) && k.isIn m) := by
  rw [isIn_eq_getLsbD, isIn_eq_getLsbD, UInt8.toBitVec_and, UInt8.toBitVec_not,
    BitVec.getLsbD_and, BitVec.getLsbD_not, getLsbD_mask, Bool.and_comm]
  simp [show k.val < 8 by omega]

end Line

/-- The cells that the copies of a handle share. -/
structure Latch where
  shorten : Bool := false
  /-- The lines to assert. -/
  asserted : UInt8 := 0
  /-- The lines to release. -/
  released : UInt8 := 0

namespace Latch

/-- The latch after one more request. A line that is asked for in one way is no longer asked for in
the other. -/
def post (a : Latch) : Request → Latch
  | .line l true =>
    { a with asserted := a.asserted ||| l.mask, released := a.released &&& ~~~l.mask }
  | .line l false =>
    { a with released := a.released ||| l.mask, asserted := a.asserted &&& ~~~l.mask }
  | .shorten => { a with shorten := true }

def collect (rs : List Request) : Latch := rs.foldl post {}

def isPending (a : Latch) : Bool := a.shorten || a.asserted != 0 || a.released != 0

def level? (a : Latch) (l : Line) : Option Bool :=
  if l.isIn a.asserted then some true else if l.isIn a.released then some false else none

def changes (a : Latch) : List (Line × Bool) :=
  Line.all.filterMap fun l => (a.level? l).map fun level => (l, level)

/-- The cells hold what a delivery needs to know of the requests. -/
structure Holds (a : Latch) (rs : List Request) : Prop where
  disjoint : a.asserted &&& a.released = 0
  changes : a.changes = Request.changes rs
  shorten : a.shorten = Request.shortens rs
  isPending : a.isPending = !rs.isEmpty

theorem level?_post (a : Latch) (r : Request) (k : Line) :
    (a.post r).level? k = (Request.level? k [r]).or (a.level? k) := by
  cases r with
  | shorten => rfl
  | line l level =>
      cases level <;> by_cases hk : l = k <;>
        simp [post, level?, Request.level?, Line.isIn_or_mask, Line.isIn_and_not_mask, hk]

theorem disjoint_post {a : Latch} (h : a.asserted &&& a.released = 0) (r : Request) :
    (a.post r).asserted &&& (a.post r).released = 0 := by
  have hmove (x y m : UInt8) (hxy : x &&& y = 0) : (x ||| m) &&& (y &&& ~~~m) = 0 := by
    rw [← UInt8.toBitVec_inj] at hxy ⊢
    refine BitVec.eq_of_getLsbD_eq fun i hi => ?_
    have hbit := congrArg (·.getLsbD i) hxy
    simp only [UInt8.toBitVec_and, BitVec.getLsbD_and] at hbit
    cases hm : m.toBitVec.getLsbD i <;> simp_all
  rcases r with ⟨l, _ | _⟩ | _
  · rw [UInt8.and_comm] at h ⊢
    exact hmove _ _ _ h
  · exact hmove _ _ _ h
  · exact h

/-- A request waits from the moment it is made. -/
theorem isPending_post (a : Latch) (r : Request) : (a.post r).isPending = true := by
  have hset (m : UInt8) (l : Line) : m ||| l.mask ≠ 0 := by
    intro hzero
    have hin := l.isIn_or_mask l m
    rw [hzero] at hin
    simp [Line.isIn] at hin
  rcases r with ⟨l, _ | _⟩ | _ <;> simp [post, isPending, hset]

theorem collect_concat (rs : List Request) (r : Request) :
    collect (rs ++ [r]) = (collect rs).post r := by
  rw [collect, List.foldl_append]
  rfl

theorem level?_collect (rs : List Request) (l : Line) :
    (collect rs).level? l = Request.level? l rs := by
  induction rs using List.reverseRecOn with
  | nil => simp [collect, level?, Request.level?, Line.isIn]
  | append_singleton rs r ih =>
      rw [collect_concat, level?_post, Request.level?_append, ih]

theorem shorten_post (a : Latch) (r : Request) :
    (a.post r).shorten = (a.shorten || Request.shortens [r]) := by
  rcases r with ⟨l, _ | _⟩ | _ <;> simp [post, Request.shortens]

/-- However the requests follow each other, the cells keep what a delivery needs. -/
theorem holds_collect (rs : List Request) : (collect rs).Holds rs where
  disjoint := by
    induction rs using List.reverseRecOn with
    | nil => rfl
    | append_singleton rs r ih =>
        rw [collect_concat]
        exact disjoint_post ih r
  changes := by simp only [changes, Request.changes, level?_collect]
  shorten := by
    induction rs using List.reverseRecOn with
    | nil => rfl
    | append_singleton rs r ih =>
        rw [collect_concat, shorten_post, Request.shortens_append, ih]
  isPending := by
    cases rs using List.reverseRecOn with
    | nil => rfl
    | append_singleton rs r => simp [collect_concat, isPending_post]

example :
    (collect [.line 2 true, .line 2 false, .line 5 true]).changes = [(2, false), (5, true)] := by
  decide

end Latch

end R3000A
