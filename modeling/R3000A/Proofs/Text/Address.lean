import R3000A.Proofs.Text.Numeral

/-!
# Addresses in text

An address is a natural number in decimal digits, or in hexadecimal ones after `0x`, among which
underscores may stand. `address_grammar` says that a text has a value exactly if it is that between
blanks and its number fits into a word, that every number below 2³² can be given by its text, and
that a number beyond that, another sign, an underscore among decimal digits or a prefix with no
digit after it has no value.
-/

namespace R3000A

namespace Text

/-! ### The grammar -/

/-- The text `cs` announces digits in `radix` by its prefix, and `numeral` is what they are read
from. -/
inductive Announces : (cs : List Char) → (radix : Nat) → (numeral : List Char) → Prop
  | hexadecimal {x : Char} (hx : x = 'x' ∨ x = 'X') (cs : List Char) :
      Announces ('0' :: x :: cs) 16 (cs.filter (· ≠ '_'))
  | decimal {cs : List Char} (hcs : ∀ x rest, cs = '0' :: x :: rest → x ≠ 'x' ∧ x ≠ 'X') :
      Announces cs 10 cs

/-- The text `cs` is an address, and `n` is the number that it gives. -/
def IsAddress (cs : List Char) (n : Nat) : Prop :=
  ∃ radix numeral, Announces cs radix numeral ∧ IsNatural radix numeral n

theorem Announces.radix_le {cs numeral : List Char} {radix : Nat}
    (h : Announces cs radix numeral) : radix ≤ 16 := by
  cases h <;> decide

theorem Announces.addressChars?_eq {cs numeral : List Char} {radix : Nat}
    (h : Announces cs radix numeral) :
    addressChars? cs = natural? radix numeral >>= inWord? := by
  cases h with
  | hexadecimal hx cs => rcases hx with rfl | rfl <;> rfl
  | decimal hcs =>
      unfold addressChars?
      split
      · exact absurd rfl (hcs _ _ rfl).1
      · exact absurd rfl (hcs _ _ rfl).2
      · rfl

theorem exists_announces (cs : List Char) : ∃ radix numeral, Announces cs radix numeral := by
  by_cases hcs : ∀ x rest, cs = '0' :: x :: rest → x ≠ 'x' ∧ x ≠ 'X'
  · exact ⟨10, cs, .decimal hcs⟩
  · push Not at hcs
    obtain ⟨x, rest, rfl, hx⟩ := hcs
    exact ⟨16, _, .hexadecimal (or_iff_not_imp_left.2 hx) rest⟩

theorem addressChars?_eq_some_iff {cs : List Char} {w : Word} :
    addressChars? cs = some w ↔ IsAddress cs w.toNat := by
  constructor
  · intro hw
    obtain ⟨radix, numeral, h⟩ := exists_announces cs
    rw [h.addressChars?_eq] at hw
    obtain ⟨n, hn, hw⟩ := Option.bind_eq_some_iff.1 hw
    obtain rfl := inWord?_eq_some_iff.1 hw
    exact ⟨radix, numeral, h, (natural?_eq_some_iff h.radix_le).1 hn⟩
  · rintro ⟨radix, numeral, h, hn⟩
    rw [h.addressChars?_eq]
    exact Option.bind_eq_some_iff.2
      ⟨w.toNat, (natural?_eq_some_iff h.radix_le).2 hn, inWord?_eq_some_iff.2 rfl⟩

theorem address?_eq_some_iff {s : String} {w : Word} :
    address? s = some w ↔ ∃ text, TrimsTo s.toList text ∧ IsAddress text w.toNat := by
  simp [address?, ← trimChars_eq_iff, addressChars?_eq_some_iff]

/-- The value of an address is its number, if a word holds it. -/
theorem IsAddress.addressChars?_eq {cs : List Char} {n : Nat} (h : IsAddress cs n) :
    (addressChars? cs).map UInt32.toNat = if n < 2 ^ 32 then some n else none := by
  obtain ⟨radix, numeral, hcs, hn⟩ := h
  rw [hcs.addressChars?_eq, (natural?_eq_some_iff hcs.radix_le).2 hn]
  change (if n < 2 ^ 32 then some (UInt32.ofNat n) else none).map UInt32.toNat = _
  split_ifs with hlt
  · exact congrArg some (Nat.mod_eq_of_lt hlt)
  · rfl

/-! ### Writing addresses -/

/-- The text `cs` is a usual way to write the number `n`: in decimal digits, or after `0x` in
hexadecimal ones of any case with underscores among them, with any number of zeros at the
beginning. -/
inductive Writes : (cs : List Char) → (n : Nat) → Prop
  | decimal (zeros n : Nat) : Writes (List.replicate zeros '0' ++ Nat.toDigits 10 n) n
  | hexadecimal {x : Char} (hx : x = 'x' ∨ x = 'X') {cs : List Char} (zeros : Nat) {n : Nat}
      (hcs : (cs.filter (· ≠ '_')).map Char.toLower =
        List.replicate zeros '0' ++ Nat.toDigits 16 n) :
      Writes ('0' :: x :: cs) n

theorem isNumeral_toDigits {radix : Nat} (hradix : 1 < radix) (n : Nat) :
    IsNumeral radix (Nat.toDigits radix n) n := by
  refine ⟨Nat.toDigits_ne_nil, ?_⟩
  induction n using Nat.strong_induction_on with
  | _ n ih =>
      rw [Nat.toDigits_eq_if hradix]
      split
      · next hn => exact ⟨[n], .cons ⟨hn, .inl rfl⟩ .nil, Nat.ofDigits_singleton⟩
      · next hn =>
          obtain ⟨ds, hds, hvalue⟩ := ih (n / radix) (Nat.div_lt_self (by omega) hradix)
          have hlast : IsDigit radix (Nat.digitChar (n % radix)) (n % radix) :=
            ⟨Nat.mod_lt n (by omega), .inl rfl⟩
          refine ⟨ds ++ [n % radix], List.rel_append hds (.cons hlast .nil), ?_⟩
          rw [List.reverse_append, List.reverse_singleton, List.singleton_append,
            Nat.ofDigits_cons, hvalue]
          exact Nat.mod_add_div n radix

theorem IsNumeral.replicate_append {radix : Nat} (hradix : 0 < radix) {cs : List Char} {n : Nat}
    (h : IsNumeral radix cs n) (zeros : Nat) :
    IsNumeral radix (List.replicate zeros '0' ++ cs) n := by
  induction zeros with
  | zero => exact h
  | succ zeros ih =>
      obtain ⟨-, ds, hds, hvalue⟩ := ih
      refine ⟨by simp [List.replicate_succ], 0 :: ds, .cons ⟨hradix, .inl rfl⟩ hds, ?_⟩
      rw [Nat.ofDigits_reverse_zero_cons, hvalue]

theorem digitValue?_toLower (radix : Nat) (c : Char) :
    digitValue? radix c.toLower = digitValue? radix c := by
  by_cases hcapital : 65 ≤ c.toNat ∧ c.toNat ≤ 90
  · obtain ⟨hlow, hhigh⟩ := hcapital
    rw [← Char.ofNat_toNat c]
    generalize c.toNat = n at hlow hhigh
    interval_cases n <;> rfl
  · have hsame : c.toLower = c := dif_neg hcapital
    rw [hsame]

theorem IsNumeral.of_toLower {radix : Nat} (hradix : radix ≤ 16) {cs : List Char} {n : Nat}
    (h : IsNumeral radix (cs.map Char.toLower) n) : IsNumeral radix cs n := by
  obtain ⟨hne, ds, hds, hvalue⟩ := h
  refine ⟨by simpa using hne, ds, (List.forall₂_map_left_iff.1 hds).imp fun c d hd => ?_, hvalue⟩
  rwa [← digitValue?_eq_some_iff hradix, digitValue?_toLower, digitValue?_eq_some_iff hradix] at hd

theorem Writes.isAddress {cs : List Char} {n : Nat} (h : Writes cs n) : IsAddress cs n := by
  cases h with
  | decimal zeros n =>
      have hnumeral := (isNumeral_toDigits (by decide : 1 < 10) n).replicate_append
        (by decide) zeros
      refine ⟨10, _, .decimal fun x rest hcs => ?_, _, .inl rfl, hnumeral⟩
      rw [hcs] at hnumeral
      obtain ⟨d, hd⟩ := hnumeral.exists_isDigit (show x ∈ '0' :: x :: rest by simp)
      constructor <;> rintro rfl <;> exact not_isDigit (by decide) (by decide) d hd
  | @hexadecimal x hx cs zeros n hcs =>
      have hnumeral := (isNumeral_toDigits (by decide : 1 < 16) n).replicate_append
        (by decide) zeros
      rw [← hcs] at hnumeral
      exact ⟨16, _, .hexadecimal hx cs, _, .inl rfl, hnumeral.of_toLower (by decide)⟩

/-! ### Texts that are no address -/

/-- What is left after the prefix cannot be read as a number: it has no digits, or there stands in
it a plus sign that is not its beginning, a minus sign, an underscore or another prefix. -/
def Malformed (numeral : List Char) : Prop :=
  numeral = [] ∨ numeral = ['+'] ∨ '+' ∈ numeral.tail ∨
    ∃ c ∈ ['-', '_', 'x', 'X'], c ∈ numeral

theorem IsNatural.eq_plus_or_isDigit {radix : Nat} {cs : List Char} {n : Nat}
    (h : IsNatural radix cs n) {c : Char} (hc : c ∈ cs) : c = '+' ∨ ∃ d, IsDigit radix c d := by
  obtain ⟨digits, rfl | rfl, hdigits⟩ := h
  · exact .inr (hdigits.exists_isDigit hc)
  · exact (List.mem_cons.1 hc).imp id hdigits.exists_isDigit

theorem IsNatural.isDigit_of_mem_tail {radix : Nat} {cs : List Char} {n : Nat}
    (h : IsNatural radix cs n) {c : Char} (hc : c ∈ cs.tail) : ∃ d, IsDigit radix c d := by
  obtain ⟨digits, rfl | rfl, hdigits⟩ := h
  · exact hdigits.exists_isDigit (List.mem_of_mem_tail hc)
  · exact hdigits.exists_isDigit hc

theorem Malformed.not_isNatural {numeral : List Char} (h : Malformed numeral) {radix : Nat}
    (hradix : radix ≤ 16) (n : Nat) : ¬IsNatural radix numeral n := by
  intro hn
  rcases h with rfl | rfl | hplus | ⟨c, hc, hmem⟩
  · obtain ⟨digits, hcs | hcs, hdigits⟩ := hn
    · exact hdigits.1 hcs.symm
    · cases hcs
  · obtain ⟨digits, rfl | hcs, hdigits⟩ := hn
    · obtain ⟨d, hd⟩ := hdigits.exists_isDigit List.mem_cons_self
      exact not_isDigit hradix (by decide) d hd
    · exact hdigits.1 (List.cons.inj hcs).2.symm
  · obtain ⟨d, hd⟩ := hn.isDigit_of_mem_tail hplus
    exact not_isDigit hradix (by decide) d hd
  · rcases hn.eq_plus_or_isDigit hmem with rfl | ⟨d, hd⟩
    · exact absurd hc (by decide)
    · exact not_isDigit hradix (List.mem_cons_of_mem _ hc) d hd

theorem Announces.addressChars?_of_malformed {cs numeral : List Char} {radix : Nat}
    (h : Announces cs radix numeral) (hnumeral : Malformed numeral) : addressChars? cs = none := by
  have hnone : natural? radix numeral = none := by
    refine Option.eq_none_iff_forall_ne_some.2 fun n hn => ?_
    exact hnumeral.not_isNatural h.radix_le n ((natural?_eq_some_iff h.radix_le).1 hn)
  rw [h.addressChars?_eq, hnone]
  rfl

theorem IsAddress.not_isBlank {cs : List Char} {n : Nat} (h : IsAddress cs n) :
    ∀ c ∈ cs, ¬isBlank c := by
  obtain ⟨radix, numeral, hcs, hn⟩ := h
  have hnumeral : ∀ c ∈ numeral, ¬isBlank c := by
    intro c hc
    rcases hn.eq_plus_or_isDigit hc with rfl | ⟨d, hd⟩
    · decide
    · exact hd.not_isBlank hcs.radix_le
  cases hcs with
  | decimal => exact hnumeral
  | hexadecimal hx cs =>
      intro c hc
      simp only [List.mem_cons] at hc
      rcases hc with rfl | rfl | hc
      · decide
      · rcases hx with rfl | rfl <;> decide
      · by_cases hunderscore : c = '_'
        · rw [hunderscore]
          decide
        · exact hnumeral c (List.mem_filter.2 ⟨hc, by simpa using hunderscore⟩)

/-- A text has a value exactly if it is an address between blanks whose number fits into a word, and
then that number. Every number in range is given by all usual ways to write it; a number out of
range, and what cannot be read as a number, gives nothing. -/
theorem address_grammar (s : String) :
    (∀ n, (address? s).map UInt32.toNat = some n ↔
      ∃ text, TrimsTo s.toList text ∧ IsAddress text n ∧ n < 2 ^ 32) ∧
    (∀ n before text after, s.toList = before ++ text ++ after → (∀ c ∈ before, isBlank c) →
      (∀ c ∈ after, isBlank c) → Writes text n →
        (address? s).map UInt32.toNat = if n < 2 ^ 32 then some n else none) ∧
    ∀ text, TrimsTo s.toList text →
      (∀ n, IsAddress text n → 2 ^ 32 ≤ n → address? s = none) ∧
        ∀ radix numeral, Announces text radix numeral → Malformed numeral → address? s = none := by
  refine ⟨fun n => ⟨?_, ?_⟩, ?_, fun text htext => ⟨?_, ?_⟩⟩
  · intro h
    obtain ⟨w, hw, rfl⟩ := Option.map_eq_some_iff.1 h
    obtain ⟨text, htext, haddress⟩ := address?_eq_some_iff.1 hw
    exact ⟨text, htext, haddress, w.toNat_lt⟩
  · rintro ⟨text, htext, haddress, hn⟩
    rw [address?, trimChars_eq_iff.2 htext, haddress.addressChars?_eq, if_pos hn]
  · intro n before text after hs hbefore hafter hwrites
    have haddress := hwrites.isAddress
    rw [address?, hs, trimChars_append_append hbefore hafter haddress.not_isBlank,
      haddress.addressChars?_eq]
  · intro n haddress hn
    have hvalue := haddress.addressChars?_eq
    rw [if_neg (Nat.not_lt.2 hn), Option.map_eq_none_iff] at hvalue
    rw [address?, trimChars_eq_iff.2 htext, hvalue]
  · intro radix numeral hannounces hnumeral
    rw [address?, trimChars_eq_iff.2 htext, hannounces.addressChars?_of_malformed hnumeral]

/-- The top of the stack written without care, the first number that no word holds, and a prefix
with nothing but a sign after it. -/
theorem address_grammar_of_loose_texts :
    (address? "\u3000 0X00_801F_fFf0\t").map UInt32.toNat = some 0x801ffff0 ∧
      address? " 004294967296" = none ∧ address? "0x_+_" = none := by
  have hbefore : ∀ c ∈ ['\u3000', ' '], isBlank c := by simp [isBlank, blankRanges]
  have hafter : ∀ c ∈ ['\t'], isBlank c := by simp [isBlank, blankRanges]
  have hdecimal : TrimsTo " 004294967296".toList "004294967296".toList :=
    trimChars_eq_iff.1 (by decide)
  have hprefix : TrimsTo "0x_+_".toList "0x_+_".toList := trimChars_eq_iff.1 (by decide)
  refine ⟨?_, ?_, ?_⟩
  · exact ((address_grammar "\u3000 0X00_801F_fFf0\t").2.1 0x801ffff0 ['\u3000', ' ']
      ('0' :: 'X' :: "00_801F_fFf0".toList) ['\t'] (by decide) hbefore hafter
      (.hexadecimal (.inr rfl) 2 (by decide))).trans (if_pos (by decide))
  · exact ((address_grammar " 004294967296").2.2 _ hdecimal).1 4294967296
      (Writes.decimal 2 4294967296).isAddress (by decide)
  · exact ((address_grammar "0x_+_").2.2 _ hprefix).2 16 ['+']
      (.hexadecimal (.inl rfl) "_+_".toList) (.inr (.inl rfl))

end Text

end R3000A
