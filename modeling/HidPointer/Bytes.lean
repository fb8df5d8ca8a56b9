/-!
# Bytes and words

Byte strings, the low-byte-first layout of 16-bit words, and the printable form of a byte string.
-/

set_option autoImplicit false

namespace HidPointer

/-- A byte string, first byte first. -/
abbrev Bytes := List UInt8

namespace Bytes

def ofWord (word : UInt16) : Bytes :=
  [UInt8.ofNat (word.toNat % 256), UInt8.ofNat (word.toNat / 256)]

/-- The word whose low byte is `low` and whose high byte is `high`. -/
def toWord (low high : UInt8) : UInt16 :=
  UInt16.ofNat (low.toNat + 256 * high.toNat)

def hexDigit (value : Nat) : Char :=
  if value < 10 then Char.ofNat ('0'.toNat + value) else Char.ofNat ('a'.toNat + (value - 10))

def hex (byte : UInt8) : List Char :=
  [hexDigit (byte.toNat / 16), hexDigit (byte.toNat % 16)]

/-- One byte inside a quoted byte string. Line feed, carriage return, tabulator and zero have
letter escapes, quote and backslash are escaped by a backslash, other printable ASCII stands for
itself, and every remaining byte is written in hexadecimal. -/
def quoteByte (byte : UInt8) : List Char :=
  if byte = 0x0a then ['\\', 'n']
  else if byte = 0x0d then ['\\', 'r']
  else if byte = 0x09 then ['\\', 't']
  else if byte = 0x00 then ['\\', '0']
  else if byte = 0x5c then ['\\', '\\']
  else if byte = 0x22 then ['\\', '"']
  else if 0x20 ≤ byte ∧ byte < 0x7f then [Char.ofNat byte.toNat]
  else '\\' :: 'x' :: hex byte

def quoted (bytes : Bytes) : String :=
  String.ofList ('b' :: '"' :: (bytes.flatMap quoteByte ++ ['"']))

/-- Splitting a word and joining its bytes gives the word back. -/
theorem toWord_ofWord (word : UInt16) :
    toWord (UInt8.ofNat (word.toNat % 256)) (UInt8.ofNat (word.toNat / 256)) = word := by
  apply UInt16.toNat_inj.mp
  have bound := word.toNat_lt
  simp only [toWord, UInt16.toNat_ofNat', UInt8.toNat_ofNat']
  omega

/-- Joining two bytes and splitting the word gives the bytes back. -/
theorem ofWord_toWord (low high : UInt8) : ofWord (toWord low high) = [low, high] := by
  have lowBound := low.toNat_lt
  have highBound := high.toNat_lt
  simp only [ofWord, toWord, UInt16.toNat_ofNat', List.cons.injEq, and_true]
  constructor <;> apply UInt8.toNat_inj.mp <;> simp only [UInt8.toNat_ofNat'] <;> omega

@[simp] theorem length_ofWord (word : UInt16) : (ofWord word).length = 2 := rfl

end Bytes

end HidPointer
