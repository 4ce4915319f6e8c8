import Mathlib.Data.List.Forall2
import Mathlib.Data.List.TakeWhile
import Mathlib.Data.Nat.Digits.Defs
import Mathlib.Tactic.IntervalCases
import Mathlib.Tactic.Ring
import R3000A.Text.Number

/-!
# What numbers in text stand for

A row of digits stands for the number that has them as its digits in the radix. The functions that
read numbers give a value exactly for such rows, an optional plus sign, and a value in range, and
then that value: nothing is read as a number that is none, and nothing wraps.
-/

namespace R3000A

namespace Text

/-! ### Blanks around a text -/

/-- The text `s` is `core` with nothing but blanks around it, and `core` begins and ends with
characters that are not blank. -/
def TrimsTo (s core : List Char) : Prop :=
  ∃ before after, s = before ++ core ++ after ∧
    (∀ c ∈ before, isBlank c) ∧ (∀ c ∈ after, isBlank c) ∧
      (∀ c ∈ core.head?, ¬isBlank c) ∧ ∀ c ∈ core.getLast?, ¬isBlank c

theorem trimStart_append {before rest : List Char} (hbefore : ∀ c ∈ before, isBlank c)
    (hrest : ∀ c ∈ rest.head?, ¬isBlank c) : trimStart (before ++ rest) = rest := by
  rw [trimStart, List.dropWhile_append_of_pos hbefore]
  cases rest with
  | nil => rfl
  | cons c rest => exact List.dropWhile_cons_of_neg (hrest c rfl)

theorem trimEnd_append {rest after : List Char} (hafter : ∀ c ∈ after, isBlank c)
    (hrest : ∀ c ∈ rest.getLast?, ¬isBlank c) : trimEnd (rest ++ after) = rest := by
  have hstart : trimStart (after.reverse ++ rest.reverse) = rest.reverse := by
    refine trimStart_append (fun c hc => hafter c (List.mem_reverse.1 hc)) ?_
    rwa [List.head?_reverse]
  rw [← List.reverse_append] at hstart
  exact (congrArg List.reverse hstart).trans rest.reverse_reverse

theorem exists_trimStart (s : List Char) :
    ∃ before, s = before ++ trimStart s ∧ (∀ c ∈ before, isBlank c) ∧
      ∀ c ∈ (trimStart s).head?, ¬isBlank c := by
  refine ⟨s.takeWhile isBlank, List.takeWhile_append_dropWhile.symm,
    fun c hc => List.mem_takeWhile_imp hc, fun c hc => ?_⟩
  have hfirst := List.head?_dropWhile_not isBlank s
  rw [← trimStart, hc] at hfirst
  simpa using hfirst

theorem exists_trimEnd (s : List Char) :
    ∃ after, s = trimEnd s ++ after ∧ (∀ c ∈ after, isBlank c) ∧
      ∀ c ∈ (trimEnd s).getLast?, ¬isBlank c := by
  obtain ⟨before, hs, hblank, hfirst⟩ := exists_trimStart s.reverse
  refine ⟨before.reverse, ?_, fun c hc => hblank c (List.mem_reverse.1 hc), ?_⟩
  · rw [trimEnd, ← trimStart, ← List.reverse_append, ← hs, List.reverse_reverse]
  · rwa [trimEnd, ← trimStart, List.getLast?_reverse]

theorem trimChars_eq_iff {s core : List Char} : trimChars s = core ↔ TrimsTo s core := by
  constructor
  · rintro rfl
    obtain ⟨before, hs, hbefore, hfirst⟩ := exists_trimStart s
    obtain ⟨after, hrest, hafter, hlast⟩ := exists_trimEnd (trimStart s)
    refine ⟨before, after, ?_, hbefore, hafter, fun c hc => hfirst c ?_, hlast⟩
    · rw [trimChars, List.append_assoc, ← hrest, ← hs]
    · rw [hrest]
      exact List.mem_head?_append_of_mem_head? hc
  · rintro ⟨before, after, rfl, hbefore, hafter, hfirst, hlast⟩
    rw [trimChars, List.append_assoc]
    cases core with
    | nil =>
        have hblank : trimStart (before ++ ([] ++ after)) = [] :=
          List.dropWhile_eq_nil_iff.2 (by simpa [or_imp, forall_and] using ⟨hbefore, hafter⟩)
        rw [hblank]
        rfl
    | cons c core =>
        rw [trimStart_append hbefore (by simpa using hfirst), trimEnd_append hafter hlast]

/-- A text without blanks is what is left if blanks are put around it. -/
theorem trimChars_append_append {before core after : List Char}
    (hbefore : ∀ c ∈ before, isBlank c) (hafter : ∀ c ∈ after, isBlank c)
    (hcore : ∀ c ∈ core, ¬isBlank c) : trimChars (before ++ core ++ after) = core :=
  trimChars_eq_iff.2 ⟨before, after, rfl, hbefore, hafter,
    fun c hc => hcore c (List.mem_of_mem_head? hc),
    fun c hc => hcore c (List.mem_of_mem_getLast? hc)⟩

/-! ### Digits -/

/-- The character `c` is a digit of value `d`, a letter among the digits being small or capital. -/
def IsDigit (radix : Nat) (c : Char) (d : Nat) : Prop :=
  d < radix ∧ (c = Nat.digitChar d ∨ c = (Nat.digitChar d).toUpper)

/-- The row `cs` of one or more digits, the most significant first, stands for `n`. -/
def IsNumeral (radix : Nat) (cs : List Char) (n : Nat) : Prop :=
  cs ≠ [] ∧ ∃ ds : List Nat, List.Forall₂ (IsDigit radix) cs ds ∧ Nat.ofDigits radix ds.reverse = n

/-- A row of digits that may have a plus sign before it stands for `n`. -/
def IsNatural (radix : Nat) (cs : List Char) (n : Nat) : Prop :=
  ∃ digits, (cs = digits ∨ cs = '+' :: digits) ∧ IsNumeral radix digits n

theorem digitValue?_eq_some_iff {radix : Nat} (hradix : radix ≤ 16) {c : Char} {d : Nat} :
    digitValue? radix c = some d ↔ IsDigit radix c d := by
  constructor
  · intro h
    obtain ⟨hvalue, hlt⟩ := Option.filter_eq_some_iff.1 h
    have hlt : d < radix := of_decide_eq_true hlt
    have h16 : d < 16 := by omega
    refine ⟨hlt, ?_⟩
    have hchar {n : Nat} (hn : c.toNat = n) : c = Char.ofNat n := by rw [← hn, Char.ofNat_toNat]
    split_ifs at hvalue with hdecimal hsmall hcapital
    · have hle : 48 ≤ c.toNat := hdecimal.1
      have hd : c.toNat - 48 = d := Option.some.inj hvalue
      have hd10 : d < 10 := by have : c.toNat ≤ 57 := hdecimal.2; omega
      rw [hchar (show c.toNat = 48 + d by omega)]
      left
      interval_cases d <;> rfl
    · have hle : 97 ≤ c.toNat := hsmall.1
      have hd : c.toNat - 97 + 10 = d := Option.some.inj hvalue
      have hd10 : 10 ≤ d := by omega
      rw [hchar (show c.toNat = 87 + d by omega)]
      left
      interval_cases d <;> rfl
    · have hle : 65 ≤ c.toNat := hcapital.1
      have hd : c.toNat - 65 + 10 = d := Option.some.inj hvalue
      have hd10 : 10 ≤ d := by omega
      rw [hchar (show c.toNat = 55 + d by omega)]
      right
      interval_cases d <;> rfl
  · rintro ⟨hlt, hc⟩
    have h16 : d < 16 := by omega
    have hvalue : digitValue? radix c = (some d).filter (· < radix) := by
      rcases hc with rfl | rfl <;> interval_cases d <;> rfl
    rw [hvalue]
    exact Option.filter_eq_some_iff.2 ⟨rfl, decide_eq_true hlt⟩

theorem continueDigits?_eq_some_iff {radix : Nat} (hradix : radix ≤ 16) {cs : List Char}
    {m n : Nat} :
    continueDigits? radix m cs = some n ↔
      ∃ ds, List.Forall₂ (IsDigit radix) cs ds ∧
        radix ^ ds.length * m + Nat.ofDigits radix ds.reverse = n := by
  induction cs generalizing m with
  | nil => simp [continueDigits?]
  | cons c cs ih =>
      -- A further digit turns the value `m` of the digits before it into `radix * m + d`.
      have hvalue (d : Nat) (ds : List Nat) :
          radix ^ (d :: ds).length * m + Nat.ofDigits radix (d :: ds).reverse =
            radix ^ ds.length * (radix * m + d) + Nat.ofDigits radix ds.reverse := by
        rw [Nat.ofDigits_reverse_cons, List.length_cons]
        ring
      constructor
      · intro h
        rw [continueDigits?] at h
        split at h
        · next d hd =>
            obtain ⟨ds, hds, hn⟩ := ih.1 h
            exact ⟨d :: ds, .cons ((digitValue?_eq_some_iff hradix).1 hd) hds,
              (hvalue d ds).trans hn⟩
        · cases h
      · rintro ⟨_, hds, hn⟩
        cases hds with
        | @cons _ d _ ds hd hds =>
            rw [continueDigits?, (digitValue?_eq_some_iff hradix).2 hd]
            exact ih.2 ⟨ds, hds, (hvalue d ds).symm.trans hn⟩

theorem digits?_eq_some_iff {radix : Nat} (hradix : radix ≤ 16) {cs : List Char} {n : Nat} :
    digits? radix cs = some n ↔ IsNumeral radix cs n := by
  cases cs with
  | nil => simp [digits?, IsNumeral]
  | cons c cs =>
      rw [digits?, if_neg (by simp), continueDigits?_eq_some_iff hradix]
      simp [IsNumeral]

theorem IsNumeral.exists_isDigit {radix : Nat} {cs : List Char} {n : Nat}
    (h : IsNumeral radix cs n) {c : Char} (hc : c ∈ cs) : ∃ d, IsDigit radix c d := by
  obtain ⟨-, ds, hds, -⟩ := h
  induction hds with
  | nil => cases hc
  | cons hd _ ih =>
      rcases List.mem_cons.1 hc with rfl | hc
      · exact ⟨_, hd⟩
      · exact ih hc

/-- Signs, underscores and the letter of a prefix are no digits. -/
theorem not_isDigit {radix : Nat} (hradix : radix ≤ 16) {c : Char}
    (hc : c ∈ ['+', '-', '_', 'x', 'X']) (d : Nat) : ¬IsDigit radix c d := by
  have hnone : digitValue? 16 c = none := by
    simp only [List.mem_cons, List.not_mem_nil, or_false] at hc
    rcases hc with rfl | rfl | rfl | rfl | rfl <;> rfl
  intro hd
  have hvalue := (digitValue?_eq_some_iff (Nat.le_refl 16)).2 ⟨hd.1.trans_le hradix, hd.2⟩
  rw [hnone] at hvalue
  cases hvalue

theorem IsDigit.not_isBlank {radix : Nat} (hradix : radix ≤ 16) {c : Char} {d : Nat}
    (h : IsDigit radix c d) : ¬isBlank c := by
  obtain ⟨hlt, hc⟩ := h
  have h16 : d < 16 := by omega
  rcases hc with rfl | rfl <;> interval_cases d <;> decide

theorem natural?_eq_some_iff {radix : Nat} (hradix : radix ≤ 16) {cs : List Char} {n : Nat} :
    natural? radix cs = some n ↔ IsNatural radix cs n := by
  unfold natural?
  split
  · next cs =>
      rw [digits?_eq_some_iff hradix]
      constructor
      · exact fun h => ⟨cs, .inr rfl, h⟩
      · rintro ⟨digits, rfl | hcs, h⟩
        · obtain ⟨d, hd⟩ := h.exists_isDigit List.mem_cons_self
          exact absurd hd (not_isDigit hradix (by decide) d)
        · obtain rfl := (List.cons.inj hcs).2
          exact h
  · next hplus =>
      rw [digits?_eq_some_iff hradix]
      constructor
      · exact fun h => ⟨cs, .inl rfl, h⟩
      · rintro ⟨digits, rfl | rfl, h⟩
        · exact h
        · exact absurd rfl (hplus digits)

/-! ### Numbers in range -/

/-- The text `cs` stands for the integer `v` in decimal digits after an optional sign. -/
def IsInteger (cs : List Char) (v : Int) : Prop :=
  (∃ n : Nat, IsNatural 10 cs n ∧ v = n) ∨
    ∃ digits, ∃ n : Nat, cs = '-' :: digits ∧ IsNumeral 10 digits n ∧ v = -n

theorem not_isNatural_minus {radix : Nat} (hradix : radix ≤ 16) (cs : List Char) (n : Nat) :
    ¬IsNatural radix ('-' :: cs) n := by
  rintro ⟨digits, rfl | hcs, h⟩
  · obtain ⟨d, hd⟩ := h.exists_isDigit List.mem_cons_self
    exact not_isDigit hradix (by decide) d hd
  · exact absurd (List.cons.inj hcs).1 (by decide)

theorem integer?_eq_some_iff {cs : List Char} {v : Int} :
    integer? cs = some v ↔ IsInteger cs v := by
  unfold integer?
  split
  · next cs =>
      have hdigits : (digits? 10 cs >>= fun n => pure (n : Int)).map (fun n => -n) = some v ↔
          ∃ n, IsNumeral 10 cs n ∧ -(n : Int) = v := by
        simp [Option.bind_eq_some_iff, digits?_eq_some_iff]
      rw [hdigits]
      constructor
      · rintro ⟨n, h, rfl⟩
        exact .inr ⟨cs, n, rfl, h, rfl⟩
      · rintro (⟨n, h, -⟩ | ⟨digits, n, hcs, h, rfl⟩)
        · exact absurd h (not_isNatural_minus (by decide) cs n)
        · obtain rfl := (List.cons.inj hcs).2
          exact ⟨n, h, rfl⟩
  · next hminus =>
      have hnatural : (natural? 10 cs >>= fun n => pure (n : Int)).map (fun n => n) = some v ↔
          ∃ n, IsNatural 10 cs n ∧ (n : Int) = v := by
        simp [Option.bind_eq_some_iff, natural?_eq_some_iff]
      rw [hnatural]
      constructor
      · rintro ⟨n, h, rfl⟩
        exact .inl ⟨n, h, rfl⟩
      · rintro (⟨n, h, rfl⟩ | ⟨digits, n, rfl, -, -⟩)
        · exact ⟨n, h, rfl⟩
        · exact absurd rfl (hminus digits)

theorem inWord?_eq_some_iff {n : Nat} {w : Word} : inWord? n = some w ↔ n = w.toNat := by
  constructor
  · intro h
    rw [inWord?] at h
    split at h
    · next hn =>
        obtain rfl := Option.some.inj h
        exact (Nat.mod_eq_of_lt hn).symm
    · cases h
  · rintro rfl
    rw [inWord?, if_pos w.toNat_lt, UInt32.ofNat_toNat]

theorem decimalWord?_eq_some_iff {s : String} {w : Word} :
    decimalWord? s = some w ↔ ∃ text, TrimsTo s.toList text ∧ IsNatural 10 text w.toNat := by
  simp [decimalWord?, ← trimChars_eq_iff, Option.bind_eq_some_iff, inWord?_eq_some_iff,
    natural?_eq_some_iff]

theorem decimalSigned?_eq_some_iff {s : String} {v : Int} :
    decimalSigned? s = some v ↔
      ∃ text, TrimsTo s.toList text ∧ IsInteger text v ∧ -2 ^ 31 ≤ v ∧ v < 2 ^ 31 := by
  have hrange {u : Int} : inSigned? u = some v ↔ u = v ∧ -2 ^ 31 ≤ v ∧ v < 2 ^ 31 := by
    rw [inSigned?]
    split <;> simp <;> omega
  simp [decimalSigned?, ← trimChars_eq_iff, Option.bind_eq_some_iff, hrange,
    integer?_eq_some_iff]

end Text

end R3000A
