/-!
# Texts

The text that bytes stand for, the characters that separate words in any script, and the removal of
blanks around a text.
-/

set_option autoImplicit false

namespace HidPointer.Text

/-- The text in UTF-8, if the bytes are one. -/
def decode? (bytes : List UInt8) : Option String :=
  String.fromUTF8? (ByteArray.mk bytes.toArray)

/-- The characters with the White_Space property of Unicode. -/
def isBlank (char : Char) : Bool :=
  let code := char.toNat
  (0x09 ≤ code && code ≤ 0x0d) || code == 0x20 || code == 0x85 || code == 0xa0 ||
    code == 0x1680 || (0x2000 ≤ code && code ≤ 0x200a) || code == 0x2028 || code == 0x2029 ||
    code == 0x202f || code == 0x205f || code == 0x3000

def trimChars (chars : List Char) : List Char :=
  ((chars.dropWhile isBlank).reverse.dropWhile isBlank).reverse

/-- A text without the blanks at its two ends. -/
def trim (text : String) : String :=
  String.ofList (trimChars text.toList)

/-- Core's whitespace characters are all blank. -/
theorem isBlank_of_isWhitespace {char : Char} (white : char.isWhitespace = true) :
    isBlank char = true := by
  simp only [Char.isWhitespace, Bool.or_eq_true, decide_eq_true_eq] at white
  rcases white with ((rfl | rfl) | rfl) | rfl <;> decide

end HidPointer.Text
