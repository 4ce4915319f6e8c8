import Mathlib.Algebra.BigOperators.Ring.Finset
import Mathlib.Tactic.Ring
import R3000A.Proofs.Word.Bytes
import R3000A.Proofs.Word.Mask
import R3000A.Ram

/-!
# Memory byte by byte

A byte of memory is named by the low 29 bits of its address. Writing one changes what is read at the
addresses that name it and at no other, so a longer write can be told from the bytes it consists of,
as long as there are fewer of them than memory has places.
-/

namespace R3000A

namespace Ram

/-! ### Places -/

theorem toNat_physical (a : Word) : (physical a).toNat = a.toNat % 2 ^ 29 :=
  Word.toNat_and_low a rfl

theorem toNat_pageOf (a : Word) : (pageOf a).toNat = (physical a).toNat / pageSize := by
  rw [pageOf, UInt32.toNat_shiftRight]
  exact Nat.shiftRight_eq_div_pow _ 12

/-- The page and the place in it are the two parts of a place in memory. -/
theorem pageOf_eq_and_offsetOf_eq_iff {a b : Word} :
    pageOf a = pageOf b ∧ offsetOf a = offsetOf b ↔ physical a = physical b := by
  have hoffset (a : Word) : (offsetOf a).val = (physical a).toNat % 4096 := rfl
  have hpage (a : Word) : (pageOf a).toNat = (physical a).toNat / 4096 := toNat_pageOf a
  rw [← UInt32.toNat_inj, ← UInt32.toNat_inj, Fin.ext_iff, hpage, hpage, hoffset, hoffset]
  omega

/-- Addresses a short way apart name different places, also where the address space ends. -/
theorem physical_add_eq_iff (a : Word) {i j : Nat} (hi : i < 2 ^ 29) (hj : j < 2 ^ 29) :
    physical (a + UInt32.ofNat i) = physical (a + UInt32.ofNat j) ↔ i = j := by
  rw [← UInt32.toNat_inj, toNat_physical, toNat_physical, UInt32.toNat_add, UInt32.toNat_add,
    UInt32.toNat_ofNat', UInt32.toNat_ofNat']
  omega

theorem add_ofNat_zero (a : Word) : a + UInt32.ofNat 0 = a := UInt32.add_zero a

theorem add_ofNat_succ (a : Word) (k : Nat) :
    a + UInt32.ofNat (k + 1) = a + 1 + UInt32.ofNat k := by
  rw [UInt32.ofNat_add, UInt32.add_comm (UInt32.ofNat k), ← UInt32.add_assoc]
  rfl

/-! ### One byte -/

theorem byte_congr (m : Ram) {a b : Word} (h : physical a = physical b) : m.byte a = m.byte b := by
  obtain ⟨hpage, hoffset⟩ := pageOf_eq_and_offsetOf_eq_iff.2 h
  simp only [byte, hpage, hoffset]

theorem byte_setByte (m : Ram) (a b : Word) (v : UInt8) :
    (m.setByte a v).byte b = if physical a = physical b then v else m.byte b := by
  rw [byte, setByte, Std.HashMap.getElem?_alter]
  by_cases hpage : pageOf a = pageOf b
  · simp only [hpage, beq_self_eq_true, if_true, ← pageOf_eq_and_offsetOf_eq_iff, true_and]
    by_cases hoffset : offsetOf a = offsetOf b
    · simp [hoffset]
    · have hne : (offsetOf a).val ≠ (offsetOf b).val := fun h => hoffset (Fin.ext h)
      rw [if_neg hoffset, byte]
      cases m.pages[pageOf b]? with
      | none => simp [hne, blankPage]
      | some p => simp [hne]
  · have hne : physical a ≠ physical b := fun h => hpage (pageOf_eq_and_offsetOf_eq_iff.2 h).1
    rw [if_neg hne, byte]
    simp [hpage]

/-! ### Several bytes -/

theorem byte_setBytes_of_ne (m : Ram) (a b : Word) {bs : List UInt8}
    (h : ∀ i < bs.length, physical (a + UInt32.ofNat i) ≠ physical b) :
    (m.setBytes a bs).byte b = m.byte b := by
  induction bs generalizing m a with
  | nil => rfl
  | cons v bs ih =>
      have hfirst : physical a ≠ physical b := add_ofNat_zero a ▸ h 0 (Nat.zero_lt_succ _)
      rw [setBytes, ih, byte_setByte, if_neg hfirst]
      intro i hi
      rw [← add_ofNat_succ]
      exact h (i + 1) (Nat.succ_lt_succ hi)

theorem byte_setBytes (m : Ram) (a : Word) {bs : List UInt8} (hlength : bs.length ≤ 2 ^ 29)
    {i : Nat} (hi : i < bs.length) : (m.setBytes a bs).byte (a + UInt32.ofNat i) = bs[i] := by
  induction bs generalizing m a i with
  | nil => cases hi
  | cons v bs ih =>
      rw [List.length_cons] at hlength hi
      cases i with
      | zero =>
          have hrest : ∀ j < bs.length, physical (a + 1 + UInt32.ofNat j) ≠ physical a := by
            intro j hj hsame
            have hfar :=
              physical_add_eq_iff a (show j + 1 < 2 ^ 29 by omega) (show 0 < 2 ^ 29 by decide)
            rw [add_ofNat_succ, add_ofNat_zero] at hfar
            exact absurd (hfar.1 hsame) (Nat.succ_ne_zero j)
          rw [add_ofNat_zero, setBytes, byte_setBytes_of_ne _ _ _ hrest, byte_setByte, if_pos rfl]
          rfl
      | succ i =>
          rw [add_ofNat_succ, setBytes, ih _ _ (by omega) (by omega)]
          rfl

/-- The bytes of a value lie side by side, the lowest first. -/
theorem toNat_ofBytes_bytes (m : Ram) {n : Nat} (hn : n ≤ 4) (a : Word) :
    (Word.ofBytes (m.bytes n a)).toNat =
        ∑ k ∈ Finset.range n, (m.byte (a + UInt32.ofNat k)).toNat * 256 ^ k ∧
      (Word.ofBytes (m.bytes n a)).toNat < 256 ^ n := by
  induction n generalizing a with
  | zero => exact ⟨rfl, Nat.one_pos⟩
  | succ n ih =>
      obtain ⟨hsum, hlt⟩ := ih (by omega) (a + 1)
      have hbyte : (m.byte a).toNat < 256 := (m.byte a).toNat_lt
      have hfit : (256 : Nat) ^ n ≤ 256 ^ 3 := Nat.pow_le_pow_right (by decide) (by omega)
      rw [bytes, Word.toNat_ofBytes_cons, Nat.mod_eq_of_lt (by omega)]
      constructor
      · rw [hsum, Finset.sum_range_succ', Finset.mul_sum, add_ofNat_zero, Nat.add_comm]
        simp only [add_ofNat_succ, Nat.pow_zero, Nat.mul_one, Nat.pow_succ']
        congr 1
        exact Finset.sum_congr rfl fun k _ => by ring
      · rw [Nat.pow_succ]
        omega

theorem toNat_read (m : Ram) (width : Width) (a : Word) :
    (m.read width a).toNat =
      ∑ k ∈ Finset.range width.bytes, (m.byte (a + UInt32.ofNat k)).toNat * 256 ^ k :=
  (m.toNat_ofBytes_bytes (by cases width <;> decide) a).1

/-- The bytes of a word in memory. -/
theorem byte_read_word (m : Ram) (a : Word) (i : Fin 4) :
    (m.read .word a).byte i = m.byte (a + UInt32.ofNat i) := by
  have hbytes : m.bytes 4 a = [m.byte (a + UInt32.ofNat 0), m.byte (a + UInt32.ofNat 1),
      m.byte (a + UInt32.ofNat 2), m.byte (a + UInt32.ofNat 3)] := by
    simp only [bytes, add_ofNat_succ, add_ofNat_zero]
  rw [read, Width.bytes, hbytes, Word.byte_ofBytes]
  match i with
  | 0 => rfl
  | 1 => rfl
  | 2 => rfl
  | 3 => rfl

/-! ### Patches -/

/-- Memory `m'` is `m` but for some of the four bytes from `a` on: those that `p` selects are the
ones of `f`. -/
structure Patched (p : Fin 4 → Prop) (f : Fin 4 → UInt8) (a : Word) (m m' : Ram) : Prop where
  new : ∀ i, p i → m'.byte (a + UInt32.ofNat i) = f i
  old : ∀ b, (∀ i, p i → physical b ≠ physical (a + UInt32.ofNat i)) → m'.byte b = m.byte b

theorem Patched.congr {p q : Fin 4 → Prop} {f g : Fin 4 → UInt8} {a : Word} {m m' : Ram}
    (h : Patched p f a m m') (hpq : ∀ i, p i ↔ q i) (hfg : ∀ i, q i → f i = g i) :
    Patched q g a m m' where
  new i hi := (h.new i ((hpq i).2 hi)).trans (hfg i hi)
  old b hb := h.old b fun i hi => hb i ((hpq i).1 hi)

/-- Of four bytes, each has a place of its own. -/
theorem physical_ne_of_ne (a : Word) {i j : Fin 4} (h : i ≠ j) :
    physical (a + UInt32.ofNat i) ≠ physical (a + UInt32.ofNat j) := fun hsame =>
  h (Fin.ext ((physical_add_eq_iff a (by omega) (by omega)).1 hsame))

/-- Two patches of the same bytes. -/
theorem Patched.trans {p q : Fin 4 → Prop} {f : Fin 4 → UInt8} {a : Word} {m m' m'' : Ram}
    (h : Patched p f a m m') (h' : Patched q f a m' m'') :
    Patched (fun i => p i ∨ q i) f a m m'' where
  new i hi := by
    by_cases hq : q i
    · exact h'.new i hq
    · rw [h'.old _ fun j hj => physical_ne_of_ne a fun hij : i = j => hq (hij ▸ hj)]
      exact h.new i (hi.resolve_right hq)
  old b hb := (h'.old b fun i hi => hb i (.inr hi)).trans (h.old b fun i hi => hb i (.inl hi))

/-- The word at the place of a patch. -/
theorem Patched.byte_read {p : Fin 4 → Prop} [DecidablePred p] {f : Fin 4 → UInt8} {a : Word}
    {m m' : Ram} (h : Patched p f a m m') (k : Fin 4) :
    (m'.read .word a).byte k = if p k then f k else (m.read .word a).byte k := by
  rw [byte_read_word, byte_read_word]
  split
  case isTrue hk => exact h.new k hk
  case isFalse hk =>
    exact h.old _ fun i hi => physical_ne_of_ne a fun hki : k = i => hk (hki ▸ hi)

/-- Bytes stored within the four. -/
theorem patched_setBytes (m : Ram) (a : Word) (o : Nat) (bs : List UInt8) (h : o + bs.length ≤ 4) :
    Patched (fun i => o ≤ i ∧ i < o + bs.length) (fun i => bs.getD (i - o) 0) a m
      (m.setBytes (a + UInt32.ofNat o) bs) where
  new i hi := by
    have haddress : a + UInt32.ofNat i = a + UInt32.ofNat o + UInt32.ofNat (i - o) := by
      rw [UInt32.add_assoc, ← UInt32.ofNat_add, Nat.add_sub_cancel' hi.1]
    have hlength : i.val - o < bs.length := by omega
    rw [haddress, m.byte_setBytes _ (by omega) hlength]
    exact List.getElem_eq_getD 0
  old b hb := by
    refine m.byte_setBytes_of_ne _ _ fun k hk hsame => ?_
    rw [UInt32.add_assoc, ← UInt32.ofNat_add] at hsame
    exact hb ⟨o + k, by omega⟩ ⟨Nat.le_add_right o k, Nat.add_lt_add_left hk o⟩ hsame.symm

/-- A whole word stored. -/
theorem patched_word (m : Ram) (a v : Word) :
    Patched (fun _ => True) v.byte a m (m.write .word a v) := by
  have hpatched := m.patched_setBytes a 0 v.toBytes (Nat.le_refl 4)
  rw [add_ofNat_zero] at hpatched
  refine hpatched.congr (fun i => ?_) fun i _ => ?_
  · exact iff_true_intro ⟨Nat.zero_le _, (Nat.zero_add 4).symm ▸ i.isLt⟩
  · match i with
    | 0 => rfl
    | 1 => rfl
    | 2 => rfl
    | 3 => rfl

end Ram

end R3000A
