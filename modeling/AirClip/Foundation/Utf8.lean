import AirClip.Foundation.Cbor

/-!
# Lossy UTF-8 decoding

Valid UTF-8 decodes to the string it encodes.  In any other byte string every maximal prefix of a
well-formed sequence that cannot be continued becomes one replacement character.
-/

namespace Foundation

def isContinuation (byte : UInt8) : Bool := 0x80 ≤ byte && byte ≤ 0xBF

/-- Whether the second byte may follow the first in a sequence of three or four bytes. -/
def secondInRange (first second : UInt8) : Bool :=
  if first = 0xE0 then 0xA0 ≤ second && second ≤ 0xBF
  else if first = 0xED then 0x80 ≤ second && second ≤ 0x9F
  else if first = 0xF0 then 0x90 ≤ second && second ≤ 0xBF
  else if first = 0xF4 then 0x80 ≤ second && second ≤ 0x8F
  else isContinuation second

/-- The scalar value spelled by the payload bits of a lead byte and its continuation bytes. -/
def scalarOf (lead : ℕ) (continuation : List UInt8) : Char :=
  Char.ofNat (continuation.foldl (fun scalar byte ↦ 64 * scalar + byte.toNat % 64) lead)

def replacementChar : Char := '\uFFFD'

/-- The next character and the number of bytes it takes; past the end every byte reads as zero. -/
def nextChar (bytes : Bytes) : Char × ℕ :=
  let first := bytes.getD 0 0
  let second := bytes.getD 1 0
  let third := bytes.getD 2 0
  let fourth := bytes.getD 3 0
  if first < 0x80 then (Char.ofNat first.toNat, 1)
  else if 0xC2 ≤ first && first ≤ 0xDF then
    if isContinuation second then (scalarOf (first.toNat % 32) [second], 2)
    else (replacementChar, 1)
  else if 0xE0 ≤ first && first ≤ 0xEF then
    if !secondInRange first second then (replacementChar, 1)
    else if !isContinuation third then (replacementChar, 2)
    else (scalarOf (first.toNat % 16) [second, third], 3)
  else if 0xF0 ≤ first && first ≤ 0xF4 then
    if !secondInRange first second then (replacementChar, 1)
    else if !isContinuation third then (replacementChar, 2)
    else if !isContinuation fourth then (replacementChar, 3)
    else (scalarOf (first.toNat % 8) [second, third, fourth], 4)
  else (replacementChar, 1)

/-- Decode at most `fuel` characters; the length of the input is always enough. -/
def lossyChars : ℕ → Bytes → List Char
  | 0, _ => []
  | _ + 1, [] => []
  | fuel + 1, bytes => (nextChar bytes).1 :: lossyChars fuel (bytes.drop (nextChar bytes).2)

def fromUtf8Lossy (bytes : Bytes) : String :=
  match ofUtf8? bytes with
  | some s => s
  | none => String.ofList (lossyChars bytes.length bytes)

@[simp]
theorem fromUtf8Lossy_utf8 (s : String) : fromUtf8Lossy (utf8 s) = s := by
  simp [fromUtf8Lossy]

example : lossyChars 7 [0x68, 0xE2, 0x82, 0x69, 0xC3, 0xA9, 0xFF] =
    ['h', replacementChar, 'i', 'é', replacementChar] := by decide

end Foundation
