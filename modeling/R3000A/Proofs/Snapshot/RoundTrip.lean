import R3000A.Proofs.Word.Bytes
import R3000A.Snapshot

/-!
# Snapshots round trip

What is written as a snapshot is read back, whatever bytes come after it, if the format of the
payload is `Faithful`. That the words of a core are such a format goes up layer by layer: a word
comes back from its bytes, a list of words from theirs, a bank from the front of a list and the core
from its words.
-/

namespace R3000A

namespace Snapshot

theorem wordsOfBytes?_bytesOfWords (ws : List Word) :
    wordsOfBytes? (bytesOfWords ws) = some ws := by
  induction ws with
  | nil => rfl
  | cons w ws ih =>
      have hword : Word.ofBytes [w.byte 0, w.byte 1, w.byte 2, w.byte 3] = w := w.ofBytes_toBytes
      have hbytes : bytesOfWords (w :: ws) =
          w.byte 0 :: w.byte 1 :: w.byte 2 :: w.byte 3 :: bytesOfWords ws := rfl
      rw [hbytes, wordsOfBytes?, ih, Option.map_some, hword]

theorem takeBank?_append (b : Bank) (rest : List Word) :
    takeBank? (b.toList ++ rest) = some (b, rest) := by
  obtain ⟨⟨words, hsize⟩⟩ := b
  simp [takeBank?, Bank.toList, hsize]

theorem truth?_ofBool (b : Bool) : truth? (Word.ofBool b) = some b := by
  cases b <;> decide

theorem ofNumber?_number (p : Pending) : Pending.ofNumber? p.number = some p := by
  cases p with
  | none => rfl
  | load r nonzero =>
      have hnumber : (UInt32.ofNat r).toNat = r := by
        rw [UInt32.toNat_ofNat']
        omega
      simp [Pending.ofNumber?, Pending.number, hnumber, Pending.ofReg, nonzero]
  | branch => rfl

theorem ofWords?_coreWords (c : Core) : ofWords? (coreWords c) = some c := by
  simp [coreWords, ofWords?, ofNumber?_number, truth?_ofBool, takeBank?_append]

/-- The payload of a core is decoded to that core. -/
theorem decode?_encode (c : Core) : decode? (encode c) = some c := by
  rw [decode?, encode, wordsOfBytes?_bytesOfWords]
  exact ofWords?_coreWords c

theorem length_bytesOfWords (ws : List Word) : (bytesOfWords ws).length = 4 * ws.length := by
  induction ws with
  | nil => rfl
  | cons w ws ih =>
      have hbytes : bytesOfWords (w :: ws) = w.toBytes ++ bytesOfWords ws := rfl
      rw [hbytes, List.length_append, ih, List.length_cons]
      simp only [Word.toBytes, List.length_cons, List.length_nil]
      omega

theorem length_encode (c : Core) : (encode c).length = 548 := by
  simp [encode, length_bytesOfWords, coreWords, Bank.toList]

/-- Cores come back from their payloads, and the header can hold the length of each. -/
structure Format.Faithful (f : Format) : Prop where
  decode?_encode : ∀ c, f.decode? (f.encode c) = some c
  length_encode : ∀ c, (f.encode c).length < 0x100000000

theorem Format.words_faithful : Format.words.Faithful where
  decode?_encode := Snapshot.decode?_encode
  length_encode c := by
    change (Snapshot.encode c).length < 0x100000000
    rw [Snapshot.length_encode]
    decide

section

variable {f : Format} (hf : f.Faithful)

include hf

/-- The header announces the length of the payload. -/
theorem payloadLength_saveAs_append (c : Core) (rest : List UInt8) :
    payloadLength (saveAs f c ++ rest) = (f.encode c).length := by
  have hfour : ((saveAs f c ++ rest).drop 5).take 4 =
      Word.toBytes (UInt32.ofNat (f.encode c).length) := rfl
  rw [payloadLength, hfour, Word.ofBytes_toBytes, UInt32.toNat_ofNat']
  exact Nat.mod_eq_of_lt (hf.length_encode c)

/-- A snapshot is read back as the core it was taken from, whatever follows it. -/
theorem loadAs_saveAs_append (c : Core) (rest : List UInt8) :
    loadAs f (saveAs f c ++ rest) = .ok c := by
  have hbody : (saveAs f c ++ rest).drop headerLength = f.encode c ++ rest := rfl
  have hlong : ¬ (saveAs f c ++ rest).length < headerLength := by
    simp [saveAs, magic, headerLength, Word.toBytes]
  rw [loadAs, if_neg hlong, if_neg (by simp [saveAs, magic]), if_neg (by simp [saveAs, magic])]
  simp only [hbody, payloadLength_saveAs_append hf, List.take_left, hf.decode?_encode]
  rw [if_neg (by simp)]

theorem loadAs_saveAs (c : Core) : loadAs f (saveAs f c) = .ok c := by
  simpa using loadAs_saveAs_append hf c []

end

end Snapshot

end R3000A
