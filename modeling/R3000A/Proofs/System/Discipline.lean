import R3000A.Bus.Recorder
import R3000A.Proofs.Privilege.Fetch
import R3000A.Slice

/-!
# Accesses to the bus

An instruction asks the bus for the word it stands in, and a load or a store then makes its own
access, unless it is refused or the cache is isolated. `Core.dataShapes` spells out for each
instruction which access that is. The accesses themselves are what `Bus.recorded` writes down, up to
the values that are moved, and an effect has a fixed list of them (`Effect.shapes`), so it only
takes a look at each instruction to see that both agree.
-/

namespace R3000A

/-- An access without the value that it moves. -/
inductive Shape where
  | read (width : Width) (address : Word)
  | write (width : Width) (address : Word)
  deriving DecidableEq, Repr

def Shape.address : Shape → Word
  | read _ a | write _ a => a

def Access.shape : Access → Shape
  | read width a _ => .read width a
  | write width a _ => .write width a

def Recorded.shapes {β : Type} (r : Recorded β) : List Shape := r.accesses.toList.map Access.shape

namespace Effect

def shapes : Effect → List Shape
  | .load width address _ _ => [.read width address]
  | .store width address _ => [.write width address]
  | .storeMerged address _ => [.read .word address, .write .word address]
  | .loadGeometry address _ => [.read .word address]
  | _ => []

theorem shapes_served {β : Type} (B : Bus β) (pc : Word) (regs : Bank) (b : Recorded β) (e : Effect) :
    (e.served B.recorded pc regs b).bus.shapes = b.shapes ++ e.shapes := by
  cases e with
  | load width address r extend | store width address v | loadGeometry address r =>
      simp [served, Bus.recorded, Recorded.shapes, shapes, Access.shape]
  | storeMerged address merge =>
      simp [served, Bus.recorded, Recorded.shapes, shapes, Access.shape]
  | _ => exact (List.append_nil _).symm

end Effect

namespace System

variable {β : Type}

/-- An instruction fetches its word, and then come the accesses of its effect. -/
theorem shapes_step (B : Bus β) (s : System (Recorded β)) :
    (s.step B.recorded).bus.shapes =
      s.bus.shapes ++ .read .word s.cpu.core.pc :: (s.effect B.recorded).shapes := by
  have hfetch : (s.fetch B.recorded).bus.shapes = s.bus.shapes ++ [.read .word s.cpu.core.pc] := by
    simp [fetch, read, answered, modifyCore, modify, Bus.recorded, Recorded.shapes, Access.shape]
  rw [bus_step, instructionAnswer, answer, Effect.shapes_served, hfetch, List.append_assoc]
  rfl

end System

namespace Instruction

/-- The base register and the offset of an instruction with an address. -/
def address? : Instruction → Option (Reg × Word)
  | load _ _ base offset | store _ _ base offset => some (base, offset)
  | loadGeometry _ base offset | storeGeometry _ base offset => some (base, offset)
  | _ => none

theorem address?_special (w : Word) : (special w).address? = none := by
  rw [special]
  split <;> first | rfl | (rw [onlyIfZero]; split <;> rfl)

theorem address?_conditional (w : Word) : (conditional w).address? = none := by
  rw [conditional]
  split <;> rfl

/-- Addresses are given by the register in bits 25 to 21 and the signed constant in bits 15 to 0. -/
theorem eq_of_address?_decode {w : Word} {base : Reg} {o : Word}
    (h : (decode w).address? = some (base, o)) : base = rs w ∧ o = w.extendHalf := by
  rw [decode] at h
  split at h
  case h_1 => simp [address?_special] at h
  case h_2 => simp [address?_conditional] at h
  -- The branches that ask for a zero field, and the one that is a call without a register.
  case h_7 | h_8 =>
    rw [onlyIfZero] at h
    split at h <;> cases h
  case h_10 => split at h <;> cases h
  all_goals cases h
  all_goals exact ⟨rfl, rfl⟩

end Instruction

namespace Core

/-- The address of an access narrower than a word, which is mirrored within its word if bits 25 and
1 of the status register are both set. -/
def mirrored (c : Core) (mask address : Word) : Word :=
  if c.control.status.bit 25 && c.control.status.bit 1 then address ^^^ mask else address

/-- What the load or store in a word asks of the bus if it is neither refused nor dropped. -/
def dataShapes (c : Core) (w : Word) : List Shape :=
  let address := c.reg (Instruction.rs w) + w.extendHalf
  match Instruction.decode w with
  | .load .byte .. | .load .byteUnsigned .. => [.read .byte (c.mirrored 3 address)]
  | .load .half .. | .load .halfUnsigned .. => [.read .half (c.mirrored 2 address)]
  | .load .wordLeft .. | .load .wordRight .. => [.read .word (address &&& ~~~3)]
  | .load .word .. | .loadGeometry .. => [.read .word address]
  | .store .byte .. => [.write .byte (c.mirrored 3 address)]
  | .store .half .. => [.write .half (c.mirrored 2 address)]
  | .store .wordLeft .. | .store .wordRight .. =>
    [.read .word (address &&& ~~~3), .write .word (address &&& ~~~3)]
  | .store .word .. | .storeGeometry .. => [.write .word address]
  | _ => []

theorem reverseEndian_eq (c : Core) :
    c.control.reverseEndian = (c.control.status.bit 25 && c.control.status.bit 1) := by
  have hreverse := Word.and_bit_cases c.control.status
    (show SystemControl.reverseEndianBit.toNat = 2 ^ 25 from rfl)
  have huser := Word.and_bit_cases c.control.status
    (show SystemControl.userBit.toNat = 2 ^ 1 from rfl)
  change (c.control.status &&& (SystemControl.reverseEndianBit ||| SystemControl.userBit) ==
      (SystemControl.reverseEndianBit ||| SystemControl.userBit)) =
    (c.control.status &&& SystemControl.reverseEndianBit != 0 &&
      c.control.status &&& SystemControl.userBit != 0)
  rw [Word.and_or]
  rcases hreverse with h | h <;> rcases huser with h' | h' <;> rw [h, h'] <;> decide

theorem shapes_branchEffect (c : Core) (target : Word) (link : Option (Reg × Word)) :
    (c.branchEffect target link).shapes = [] := by
  rw [branchEffect]
  split <;> rfl

theorem shapes_ifUsable (c : Core) (n : Fin 4) {e : Effect} (h : e.shapes = []) :
    (c.ifUsable n e).shapes = [] := by
  rw [ifUsable]
  split
  · exact h
  · rfl

/-- Instructions without an address ask nothing of the bus. -/
theorem shapes_effect_of_address?_eq_none (c : Core) (settings : Settings) {i : Instruction}
    (h : i.address? = none) : (c.effect settings i).shapes = [] := by
  cases i with
  | load | store | loadGeometry | storeGeometry => cases h
  | alu op rd rs operand =>
      simp only [effect]
      split <;> rfl
  | divide signed rs rt =>
      simp only [effect]
      split <;> rfl
  | jump target link => exact c.shapes_branchEffect _ _
  | jumpRegister rs link => exact c.shapes_branchEffect _ _
  | branch test offset link =>
      simp only [effect]
      split
      · exact c.shapes_branchEffect _ _
      · split <;> rfl
  | breakpoint =>
      simp only [effect]
      split <;> rfl
  | control op => exact c.shapes_ifUsable 0 (by cases op <;> rfl)
  | coprocessor1 => exact c.shapes_ifUsable 1 rfl
  | geometry op => exact c.shapes_ifUsable 2 (by cases op <;> rfl)
  | _ => rfl

/-- The effect asks the bus for `l`, unless it enters a handler or the cache is isolated. -/
def Makes (c : Core) (e : Effect) (l : List Shape) : Prop :=
  e.shapes = if (c.raised? e).isSome || c.control.cacheIsolated then [] else l

theorem makes_nil {c : Core} {e : Effect} (h : e.shapes = []) : c.Makes e [] := by
  simp [Makes, h]

/-- An access is dropped, refused or made. -/
theorem makes_access {c : Core} {refused : Bool} {f : Fault} {dropped e : Effect} {l : List Shape}
    (hdropped : dropped.shapes = []) (hraised : c.raised? e = none) (he : e.shapes = l) :
    c.Makes (if c.control.cacheIsolated then dropped else if refused then .raise f none else e)
      l := by
  cases hcache : c.control.cacheIsolated with
  | true => simp [Makes, hcache, hdropped]
  | false =>
      cases refused with
      | true => rfl
      | false => simp [Makes, hcache, hraised, he]

theorem makes_ifUsable {c : Core} {e : Effect} {l : List Shape} (n : Fin 4) (h : c.Makes e l) :
    c.Makes (c.ifUsable n e) l := by
  rw [ifUsable]
  split
  · exact h
  · rfl

theorem makes_loadEffect (c : Core) (op : LoadOp) (rt base : Reg) (offset : Word) :
    c.Makes (c.loadEffect op rt base offset)
      (match op with
      | .wordLeft | .wordRight => [.read .word (c.effectiveAddress base offset &&& ~~~3)]
      | _ => [.read op.width (c.mirrored op.width.reverseMask (c.effectiveAddress base offset))]) := by
  simp only [mirrored, ← reverseEndian_eq]
  refine makes_access rfl rfl ?_
  cases op <;> rfl

theorem makes_storeEffect (c : Core) (op : StoreOp) (rt base : Reg) (offset : Word) :
    c.Makes (c.storeEffect op rt base offset)
      (match op with
      | .wordLeft | .wordRight =>
        [.read .word (c.effectiveAddress base offset &&& ~~~3),
          .write .word (c.effectiveAddress base offset &&& ~~~3)]
      | _ => [.write op.width (c.mirrored op.width.reverseMask (c.effectiveAddress base offset))]) := by
  simp only [mirrored, ← reverseEndian_eq]
  refine makes_access ?_ ?_ ?_
  · split <;> rfl
  · cases op <;> rfl
  · cases op <;> rfl

theorem eq_effectiveAddress {c : Core} {w : Word} {base : Reg} {o : Word}
    (h : (Instruction.decode w).address? = some (base, o)) :
    c.reg (Instruction.rs w) + w.extendHalf = c.effectiveAddress base o := by
  obtain ⟨rfl, rfl⟩ := Instruction.eq_of_address?_decode h
  rfl

/-- Every word asks the bus for what it says. -/
theorem makes_effect (c : Core) (settings : Settings) (w : Word) :
    c.Makes (c.effect settings (Instruction.decode w)) (c.dataShapes w) := by
  have hwhole (address : Word) : c.mirrored Width.word.reverseMask address = address := by
    rw [mirrored, Width.reverseMask, UInt32.xor_zero, ite_self]
  rw [dataShapes]
  cases hi : Instruction.decode w with
  | load op rt base offset =>
      rw [eq_effectiveAddress (by rw [hi]; rfl)]
      cases op with
      | word =>
          have hmakes := c.makes_loadEffect .word rt base offset
          rw [LoadOp.width, hwhole] at hmakes
          exact hmakes
      | _ => exact c.makes_loadEffect _ rt base offset
  | store op rt base offset =>
      rw [eq_effectiveAddress (by rw [hi]; rfl)]
      cases op with
      | word =>
          have hmakes := c.makes_storeEffect .word rt base offset
          rw [StoreOp.width, hwhole] at hmakes
          exact hmakes
      | _ => exact c.makes_storeEffect _ rt base offset
  | loadGeometry rt base offset =>
      rw [eq_effectiveAddress (by rw [hi]; rfl)]
      exact makes_ifUsable 2 (makes_access rfl rfl rfl)
  | storeGeometry rt base offset =>
      rw [eq_effectiveAddress (by rw [hi]; rfl)]
      exact makes_ifUsable 2 (makes_access rfl rfl rfl)
  | _ => exact makes_nil (c.shapes_effect_of_address?_eq_none settings rfl)

end Core

/-! ### Addresses -/

namespace Instruction

/-- Whether whole words are moved, for which nothing is checked. -/
def wholeWord : Instruction → Bool
  | load .word .. | store .word .. => true
  | _ => false

/-- The address bits that are clear in every access. -/
def alignment : Instruction → Word
  | load .half .. | load .halfUnsigned .. | store .half .. => 1
  | load .wordLeft .. | load .wordRight .. | store .wordLeft .. | store .wordRight .. => 3
  | loadGeometry .. | storeGeometry .. => 3
  | _ => 0

/-- The address bits that are looked at. Partial accesses align the address themselves. -/
def checkedBits : Instruction → Word
  | load op .. => op.alignMask
  | store op .. => op.alignMask
  | loadGeometry .. | storeGeometry .. => 3
  | _ => 0

end Instruction

namespace Core

variable {c : Core} {settings : Settings} {w : Word}

/-- An access that is made has passed its check. -/
theorem refuses_eq_false_of_raised?_eq_none {i : Instruction} {base : Reg} {o : Word}
    (hraised : c.raised? (c.effect settings i) = none) (hcache : c.control.cacheIsolated = false)
    (haddress : i.address? = some (base, o)) (hword : i.wholeWord = false) :
    c.refuses i.checkedBits (c.effectiveAddress base o) = false := by
  have hnone (f : Fault) : ¬c.Faults settings i f := by
    intro hfaults
    rw [hfaults.effect_eq] at hraised
    cases hraised
  by_contra hrefused
  rw [Bool.not_eq_false] at hrefused
  have husable {n : Fin 4} (hi : i.coprocessor? = some n) : c.control.usable n = true := by
    by_contra h
    exact hnone _ (.coprocessor hi (Bool.not_eq_true _ ▸ h))
  cases i with
  | load op rt b offset =>
      cases haddress
      have hchecked : op.checked = true := by cases op <;> first | rfl | cases hword
      exact hnone _ (.load hcache hchecked hrefused)
  | store op rt b offset =>
      cases haddress
      have hchecked : op.checked = true := by cases op <;> first | rfl | cases hword
      exact hnone _ (.store hcache hchecked hrefused)
  | loadGeometry rt b offset =>
      cases haddress
      exact hnone _ (.loadGeometry (husable rfl) hcache hrefused)
  | storeGeometry rt b offset =>
      cases haddress
      exact hnone _ (.storeGeometry (husable rfl) hcache hrefused)
  | _ => cases haddress

theorem and_eq_zero_of_refuses_eq_false {m address : Word} (h : c.refuses m address = false) :
    address &&& m = 0 ∧ (c.control.userMode = true → address &&& 0x80000000 = 0) := by
  rw [refuses, Word.and_or, bne_eq_false_iff_eq, UInt32.or_eq_zero_iff,
    SystemControl.privilegeMask_eq] at h
  refine ⟨h.2, fun huser => ?_⟩
  rw [if_pos huser] at h
  exact h.1

/-- The address of an access is aligned, and in user mode it lies in the lower half, unless it is
the address of a whole word. -/
structure Disciplined (c : Core) (i : Instruction) (a : Shape) : Prop where
  aligned : a.address &&& i.alignment = 0
  lower : c.control.userMode = true → i.wholeWord = false → a.address &&& 0x80000000 = 0

theorem mirrored_and (c : Core) {m k : Word} (h : m &&& k = 0) (address : Word) :
    c.mirrored m address &&& k = address &&& k := by
  rw [mirrored]
  split
  · exact Word.xor_and_of_disjoint address h
  · rfl

/-- Mirroring leaves a checked address in order. -/
theorem disciplined_mirrored {i : Instruction} {m address : Word} {a : Shape}
    (h : address &&& i.alignment = 0 ∧ (c.control.userMode = true → address &&& 0x80000000 = 0))
    (hm : m &&& (i.alignment ||| 0x80000000) = 0) (ha : a.address = c.mirrored m address) :
    c.Disciplined i a := by
  rw [Word.and_or, UInt32.or_eq_zero_iff] at hm
  refine ⟨?_, fun huser _ => ?_⟩
  · rw [ha, c.mirrored_and hm.1, h.1]
  · rw [ha, c.mirrored_and hm.2, h.2 huser]

/-- Aligning keeps an address in the lower half. -/
theorem disciplined_aligned {i : Instruction} {address : Word} {a : Shape}
    (h : c.control.userMode = true → address &&& 0x80000000 = 0) (hi : i.alignment = 3)
    (ha : a.address = address &&& ~~~3) : c.Disciplined i a := by
  refine ⟨?_, fun huser _ => ?_⟩
  · rw [ha, hi, UInt32.and_assoc, UInt32.not_and_self, UInt32.and_zero]
  · rw [ha, UInt32.and_assoc]
    exact h huser

/-- Nothing is asked of the address of a whole word. -/
theorem disciplined_of_wholeWord {i : Instruction} {a : Shape} (hzero : i.alignment = 0)
    (hword : i.wholeWord = true) : c.Disciplined i a := by
  refine ⟨?_, fun _ hnot => ?_⟩
  · rw [hzero, UInt32.and_zero]
  · rw [hword] at hnot
    cases hnot

theorem disciplined_of_mem_dataShapes {a : Shape}
    (hraised : c.raised? (c.effect settings (Instruction.decode w)) = none)
    (hcache : c.control.cacheIsolated = false) (ha : a ∈ c.dataShapes w) :
    c.Disciplined (Instruction.decode w) a := by
  have hclear {base : Reg} {o : Word} (hi : (Instruction.decode w).address? = some (base, o))
      (hword : (Instruction.decode w).wholeWord = false) :=
    and_eq_zero_of_refuses_eq_false
      (refuses_eq_false_of_raised?_eq_none hraised hcache hi hword)
  have hbyte : (3 : Word) &&& (0 ||| 0x80000000) = 0 := by decide
  have hhalf : (2 : Word) &&& (1 ||| 0x80000000) = 0 := by decide
  rw [dataShapes] at ha
  cases hi : Instruction.decode w with
  | load op rt base offset =>
      rw [eq_effectiveAddress (by rw [hi]; rfl)] at ha
      rw [hi] at ha hclear
      cases op with
      | word => exact disciplined_of_wholeWord rfl rfl
      | wordLeft | wordRight =>
          obtain rfl := List.mem_singleton.1 ha
          exact disciplined_aligned (hclear rfl rfl).2 rfl rfl
      | byte | byteUnsigned =>
          obtain rfl := List.mem_singleton.1 ha
          exact disciplined_mirrored (hclear rfl rfl) hbyte rfl
      | half | halfUnsigned =>
          obtain rfl := List.mem_singleton.1 ha
          exact disciplined_mirrored (hclear rfl rfl) hhalf rfl
  | store op rt base offset =>
      rw [eq_effectiveAddress (by rw [hi]; rfl)] at ha
      rw [hi] at ha hclear
      cases op with
      | word => exact disciplined_of_wholeWord rfl rfl
      | wordLeft | wordRight =>
          have haddress : a.address = c.effectiveAddress base offset &&& ~~~3 := by
            rcases List.mem_cons.1 ha with rfl | ha
            · rfl
            · obtain rfl := List.mem_singleton.1 ha
              rfl
          exact disciplined_aligned (hclear rfl rfl).2 rfl haddress
      | byte =>
          obtain rfl := List.mem_singleton.1 ha
          exact disciplined_mirrored (hclear rfl rfl) hbyte rfl
      | half =>
          obtain rfl := List.mem_singleton.1 ha
          exact disciplined_mirrored (hclear rfl rfl) hhalf rfl
  | loadGeometry rt base offset | storeGeometry rt base offset =>
      rw [eq_effectiveAddress (by rw [hi]; rfl)] at ha
      rw [hi] at ha hclear
      obtain rfl := List.mem_singleton.1 ha
      exact ⟨(hclear rfl rfl).1, fun huser _ => (hclear rfl rfl).2 huser⟩
  | _ =>
      rw [hi] at ha
      cases ha

end Core

namespace System

variable {β : Type}

/-- The accesses of an instruction after its fetch. An exception leaves none of them, and neither
does the isolated cache. -/
def dataAccesses (B : Bus β) (s : System (Recorded β)) : List Shape :=
  if (s.step B.recorded).cpu.entered ≠ s.cpu.entered ∨ s.cpu.core.control.status.bit 16 = true then []
  else s.cpu.core.dataShapes (s.fetchedWord B.recorded)

theorem shapes_effect (B : Bus β) (s : System (Recorded β)) :
    (s.effect B.recorded).shapes = s.dataAccesses B := by
  have hentered : (s.step B.recorded).cpu.entered ≠ s.cpu.entered ↔
      (s.cpu.core.raised? (s.effect B.recorded)).isSome = true := by
    rw [entered_step]
    cases s.cpu.core.raised? (s.effect B.recorded) <;> simp
  have hmakes := s.cpu.core.makes_effect s.cpu.settings (s.fetchedWord B.recorded)
  simp only [Core.Makes, Bool.or_eq_true] at hmakes
  simp only [dataAccesses, hentered]
  exact hmakes

theorem disciplined_of_mem_dataAccesses {B : Bus β} {s : System (Recorded β)} {a : Shape}
    (ha : a ∈ s.dataAccesses B) : s.cpu.core.Disciplined (s.instruction B.recorded) a := by
  rw [dataAccesses] at ha
  split at ha
  · cases ha
  · rename_i hmade
    rw [not_or, not_not, Bool.not_eq_true] at hmade
    exact Core.disciplined_of_mem_dataShapes (raised?_eq_none hmade.1) hmade.2 ha

end System

end R3000A
