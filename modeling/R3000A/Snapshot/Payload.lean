import R3000A.Core

/-!
# The payload of a snapshot

The core is written word by word in a fixed order and closed by a mark. Reading takes the words
back in the same order and accepts nothing else: no number that stands for no outstanding write, no
truth value but zero and one, no missing mark and no word too many.
-/

namespace R3000A.Snapshot

def endMark : Word := 0x5350494d

def coreWords (c : Core) : List Word :=
  [c.pc, c.hi, c.lo, c.hazard.pending.number, c.hazard.value, c.previousPc, c.word,
    Word.ofBool c.stopped] ++ c.regs.toList ++ c.control.regs.toList ++ c.geometry.data.toList ++
    c.geometry.control.toList ++ [endMark]

def takeBank? (ws : List Word) : Option (Bank × List Word) :=
  if h : (ws.take 32).length = 32 then some (⟨⟨(ws.take 32).toArray, h⟩⟩, ws.drop 32) else none

def truth? (w : Word) : Option Bool :=
  if w = 0 then some false else if w = 1 then some true else none

def ofWords? : List Word → Option Core
  | pc :: hi :: lo :: kind :: value :: previousPc :: word :: stopped :: rest => do
    let pending ← Pending.ofNumber? kind
    let stopped ← truth? stopped
    let (regs, rest) ← takeBank? rest
    let (control, rest) ← takeBank? rest
    let (data, rest) ← takeBank? rest
    let (geometryControl, rest) ← takeBank? rest
    if rest = [endMark] then
      some
        { pc, regs, hi, lo, hazard := ⟨pending, value⟩, previousPc, word, control := ⟨control⟩,
          geometry := ⟨data, geometryControl⟩, stopped }
    else none
  | _ => none

def bytesOfWords (ws : List Word) : List UInt8 := ws.flatMap Word.toBytes

/-- The words of a list of bytes, if they come out even. -/
def wordsOfBytes? : List UInt8 → Option (List Word)
  | [] => some []
  | a :: b :: c :: d :: rest => (wordsOfBytes? rest).map (Word.ofBytes [a, b, c, d] :: ·)
  | _ => none

def encode (c : Core) : List UInt8 := bytesOfWords (coreWords c)

def decode? (bytes : List UInt8) : Option Core := wordsOfBytes? bytes >>= ofWords?

end R3000A.Snapshot
