import R3000A.Instruction

/-!
# Decoding

The operation code in bits 31 to 26 selects the instruction, with the function code in bits 5 to 0
for operation code 0 and the selector in bits 20 to 16 for operation code 1. Every word has a
meaning: those without one of their own are illegal.
-/

namespace R3000A.Instruction

def rs (w : Word) : Reg := w.field5 21

def rt (w : Word) : Reg := w.field5 16

def rd (w : Word) : Reg := w.field5 11

def shiftAmount (w : Word) : Word := (w >>> 6) &&& 0x1f

def immediate (w : Word) : Word := w &&& 0xffff

def offset (w : Word) : Word := w.extendHalf

/-- The jump target in bits 25 to 0, whose two lowest bits are zero and not stored. -/
def jumpTarget (w : Word) : Word := (w &&& 0x03ffffff) <<< 2

/-- The distance of a branch, counted in instructions. -/
def branchOffset (w : Word) : Word := offset w <<< 2

/-- An instruction that is legal only if the register field `r` is zero. -/
def onlyIfZero (r : Reg) (i : Instruction) : Instruction := if r = 0 then i else illegal

def special (w : Word) : Instruction :=
  match (w &&& 0x3f).toNat with
  | 0x00 => alu .sll (rd w) (rt w) (.immediate (shiftAmount w))
  | 0x02 => alu .srl (rd w) (rt w) (.immediate (shiftAmount w))
  | 0x03 => alu .sra (rd w) (rt w) (.immediate (shiftAmount w))
  | 0x04 => alu .sll (rd w) (rt w) (.reg (rs w))
  | 0x06 => alu .srl (rd w) (rt w) (.reg (rs w))
  | 0x07 => alu .sra (rd w) (rt w) (.reg (rs w))
  | 0x08 => onlyIfZero (rd w) (jumpRegister (rs w) none)
  | 0x09 => jumpRegister (rs w) (some (rd w))
  | 0x0b => hostCall
  | 0x0c => systemCall
  | 0x0d => breakpoint
  | 0x10 => moveFromHi (rd w)
  | 0x11 => onlyIfZero (rd w) (moveToHi (rs w))
  | 0x12 => moveFromLo (rd w)
  | 0x13 => onlyIfZero (rd w) (moveToLo (rs w))
  | 0x18 => onlyIfZero (rd w) (multiply true (rs w) (rt w))
  | 0x19 => onlyIfZero (rd w) (multiply false (rs w) (rt w))
  | 0x1a => onlyIfZero (rd w) (divide true (rs w) (rt w))
  | 0x1b => onlyIfZero (rd w) (divide false (rs w) (rt w))
  | 0x20 => alu .add (rd w) (rs w) (.reg (rt w))
  | 0x21 => alu .addu (rd w) (rs w) (.reg (rt w))
  | 0x22 => alu .sub (rd w) (rs w) (.reg (rt w))
  | 0x23 => alu .subu (rd w) (rs w) (.reg (rt w))
  | 0x24 => alu .and (rd w) (rs w) (.reg (rt w))
  | 0x25 => alu .or (rd w) (rs w) (.reg (rt w))
  | 0x26 => alu .xor (rd w) (rs w) (.reg (rt w))
  | 0x27 => alu .nor (rd w) (rs w) (.reg (rt w))
  | 0x2a => alu .slt (rd w) (rs w) (.reg (rt w))
  | 0x2b => alu .sltu (rd w) (rs w) (.reg (rt w))
  | _ => illegal

/-- The branches of operation code 1. Other selectors have no effect. -/
def conditional (w : Word) : Instruction :=
  match (rt w).val with
  | 0x00 => branch (.ltz (rs w)) (branchOffset w) false
  | 0x01 => branch (.gez (rs w)) (branchOffset w) false
  | 0x10 => branch (.ltz (rs w)) (branchOffset w) true
  | 0x11 => branch (.gez (rs w)) (branchOffset w) true
  | _ => nothing

def controlOp (w : Word) : ControlOp :=
  if w.bit 25 then
    match (w &&& 0x3f).toNat with
    | 0x10 => .returnFromException
    | _ => .unknownCommand
  else
    match (w.field5 21).val with
    | 0x00 => .moveFrom (rt w) (rd w)
    | 0x04 => .moveTo (rt w) (rd w)
    | _ => .unknownMove

def geometryOp (w : Word) : GeometryOp :=
  if w.bit 25 then .command (w &&& 0x1ffffff)
  else
    match (w.field5 21).val with
    | 0x00 => .moveFromData (rt w) (rd w)
    | 0x02 => .moveFromControl (rt w) (rd w)
    | 0x04 => .moveToData (rt w) (rd w)
    | 0x06 => .moveToControl (rt w) (rd w)
    | _ => .unknownMove

def decode (w : Word) : Instruction :=
  match (w >>> 26).toNat with
  | 0x00 => special w
  | 0x01 => conditional w
  | 0x02 => jump (jumpTarget w) false
  | 0x03 => jump (jumpTarget w) true
  | 0x04 => branch (.eq (rs w) (rt w)) (branchOffset w) false
  | 0x05 => branch (.ne (rs w) (rt w)) (branchOffset w) false
  | 0x06 => onlyIfZero (rt w) (branch (.lez (rs w)) (branchOffset w) false)
  | 0x07 => onlyIfZero (rt w) (branch (.gtz (rs w)) (branchOffset w) false)
  | 0x08 => alu .add (rt w) (rs w) (.immediate (offset w))
  | 0x09 =>
    if rt w = 0 then libraryCall (immediate w).toUInt16
    else alu .addu (rt w) (rs w) (.immediate (offset w))
  | 0x0a => alu .slt (rt w) (rs w) (.immediate (offset w))
  | 0x0b => alu .sltu (rt w) (rs w) (.immediate (offset w))
  | 0x0c => alu .and (rt w) (rs w) (.immediate (immediate w))
  | 0x0d => alu .or (rt w) (rs w) (.immediate (immediate w))
  | 0x0e => alu .xor (rt w) (rs w) (.immediate (immediate w))
  | 0x0f => loadUpper (rt w) (immediate w <<< 16)
  | 0x10 => control (controlOp w)
  | 0x11 => coprocessor1
  | 0x12 => geometry (geometryOp w)
  | 0x20 => load .byte (rt w) (rs w) (offset w)
  | 0x21 => load .half (rt w) (rs w) (offset w)
  | 0x22 => load .wordLeft (rt w) (rs w) (offset w)
  | 0x23 => load .word (rt w) (rs w) (offset w)
  | 0x24 => load .byteUnsigned (rt w) (rs w) (offset w)
  | 0x25 => load .halfUnsigned (rt w) (rs w) (offset w)
  | 0x26 => load .wordRight (rt w) (rs w) (offset w)
  | 0x28 => store .byte (rt w) (rs w) (offset w)
  | 0x29 => store .half (rt w) (rs w) (offset w)
  | 0x2a => store .wordLeft (rt w) (rs w) (offset w)
  | 0x2b => store .word (rt w) (rs w) (offset w)
  | 0x2e => store .wordRight (rt w) (rs w) (offset w)
  | 0x31 => loadCoprocessor1
  | 0x32 => loadGeometry (rt w) (rs w) (offset w)
  | 0x39 => storeCoprocessor1
  | 0x3a => storeGeometry (rt w) (rs w) (offset w)
  | _ => illegal

end R3000A.Instruction
