import R3000A.Error
import R3000A.Snapshot.Payload

/-!
# Snapshots

A snapshot is a header of nine bytes and a payload: the letters `MIPS`, the version of the format
and the length of the payload, least significant byte first. Bytes after the payload are ignored.
The payload is a matter of its own: a `Format` says how it holds a core, and nothing is asked of one
in order to write or to read a snapshot. The one in use is `Format.words`.
-/

namespace R3000A.Snapshot

/-- How the payload of a snapshot holds a core. -/
structure Format where
  encode : Core → List UInt8
  /-- The core in a payload, or nothing if the payload holds none. -/
  decode? : List UInt8 → Option Core

def Format.words : Format := ⟨Snapshot.encode, Snapshot.decode?⟩

def magic : List UInt8 := [0x4d, 0x49, 0x50, 0x53]

def version : UInt8 := 1

def headerLength : Nat := 9

def saveAs (f : Format) (c : Core) : List UInt8 :=
  let payload := f.encode c
  magic ++ [version] ++ Word.toBytes (UInt32.ofNat payload.length) ++ payload

def payloadLength (bytes : List UInt8) : Nat := (Word.ofBytes ((bytes.drop 5).take 4)).toNat

/-- The core in a snapshot, or the first thing that is wrong with it. -/
def loadAs (f : Format) (bytes : List UInt8) : Except SnapshotError Core :=
  if bytes.length < headerLength then .error .truncatedHeader
  else if bytes.take 4 ≠ magic then .error .badMagic
  else if bytes.getD 4 0 ≠ version then .error (.unsupportedVersion (bytes.getD 4 0))
  else
    let body := bytes.drop headerLength
    let length := payloadLength bytes
    if body.length < length then .error .truncatedPayload
    else
      match f.decode? (body.take length) with
      | some c => .ok c
      | none => .error .undecodable

end R3000A.Snapshot
