import HidPointer.Json

/-!
# Reading JSON

`Json.parse?` accepts exactly the JSON texts: one value with blanks around it. It does not judge
what a token denotes, see `Json.isDefinite`.
-/

set_option autoImplicit false

namespace HidPointer.Json

def isSpace (char : Char) : Bool :=
  char == ' ' || char == '\n' || char == '\t' || char == '\r'

def skipSpace (input : List Char) : List Char :=
  input.dropWhile isSpace

def hexValue? (char : Char) : Option Nat :=
  if '0' ≤ char ∧ char ≤ '9' then some (char.toNat - '0'.toNat)
  else if 'a' ≤ char ∧ char ≤ 'f' then some (char.toNat - 'a'.toNat + 10)
  else if 'A' ≤ char ∧ char ≤ 'F' then some (char.toNat - 'A'.toNat + 10)
  else none

def codeUnit? (first second third fourth : Char) : Option Nat := do
  let a ← hexValue? first
  let b ← hexValue? second
  let c ← hexValue? third
  let d ← hexValue? fourth
  return ((a * 16 + b) * 16 + c) * 16 + d

def shortEscape? (char : Char) : Option Char :=
  match char with
  | '"' => some '"'
  | '\\' => some '\\'
  | '/' => some '/'
  | 'b' => some '\x08'
  | 'f' => some '\x0c'
  | 'n' => some '\n'
  | 'r' => some '\r'
  | 't' => some '\t'
  | _ => none

def isHighSurrogate (unit : Nat) : Bool := 0xd800 ≤ unit && unit < 0xdc00

def isLowSurrogate (unit : Nat) : Bool := 0xdc00 ≤ unit && unit < 0xe000

def joinSurrogates (high low : Nat) : Char :=
  Char.ofNat (0x10000 + (high - 0xd800) * 0x400 + (low - 0xdc00))

/-- What one character or escape of a string literal stands for. -/
inductive StringPart where
  | char (char : Char)
  /-- Half of a surrogate pair. -/
  | half (unit : Nat)
  deriving DecidableEq, Repr

def StringPart.ofUnit (unit : Nat) : StringPart :=
  if isHighSurrogate unit ∨ isLowSurrogate unit then .half unit else .char (Char.ofNat unit)

/-- The parts of a string literal after its opening quote, and the rest of the input. -/
def stringParts? : List Char → Option (List StringPart × List Char)
  | '"' :: rest => some ([], rest)
  | '\\' :: 'u' :: a :: b :: c :: d :: rest =>
      match codeUnit? a b c d with
      | none => none
      | some unit => (stringParts? rest).map fun (parts, rest) => (.ofUnit unit :: parts, rest)
  | '\\' :: char :: rest =>
      match shortEscape? char with
      | none => none
      | some meant => (stringParts? rest).map fun (parts, rest) => (.char meant :: parts, rest)
  | char :: rest =>
      if char.toNat < 0x20 ∨ char = '\\' then none
      else (stringParts? rest).map fun (parts, rest) => (.char char :: parts, rest)
  | [] => none

/-- The characters that parts stand for. A high half must be followed by a low one. -/
def joinParts? : List StringPart → Option (List Char)
  | [] => some []
  | .char char :: parts => (joinParts? parts).map (char :: ·)
  | .half high :: .half low :: parts =>
      if isHighSurrogate high ∧ isLowSurrogate low then
        (joinParts? parts).map (joinSurrogates high low :: ·)
      else none
  | .half _ :: _ => none

/-- The text of a string literal after its opening quote, if each of its escapes denotes a
character, and the rest of the input. -/
def string? (input : List Char) : Option (Option String × List Char) :=
  (stringParts? input).map fun (parts, rest) => ((joinParts? parts).map String.ofList, rest)

def digits (input : List Char) : List Char × List Char :=
  input.span Char.isDigit

/-- The whole part of a number: zero alone, or digits that do not start with zero. -/
def whole? : List Char → Option (List Char × List Char)
  | '0' :: rest => some (['0'], rest)
  | input => match digits input with
    | ([], _) => none
    | found => some found

/-- The fraction of a number, if it has one. At least one digit follows the point. -/
def fraction? : List Char → Option (Option (List Char) × List Char)
  | '.' :: rest => match digits rest with
    | ([], _) => none
    | (found, rest) => some (some found, rest)
  | rest => some (none, rest)

def exponentDigits? (negative : Bool) (input : List Char) : Option (Option Int × List Char) :=
  match digits input with
  | ([], _) => none
  | (found, rest) =>
      let size : Int := Nat.ofDigitChars 10 found 0
      some (some (if negative then -size else size), rest)

/-- The exponent of a number, if it has one. -/
def exponent? : List Char → Option (Option Int × List Char)
  | char :: rest =>
      if char = 'e' ∨ char = 'E' then
        match rest with
        | '+' :: rest => exponentDigits? false rest
        | '-' :: rest => exponentDigits? true rest
        | rest => exponentDigits? false rest
      else some (none, char :: rest)
  | [] => some (none, [])

/-- The value of a number literal. One without fraction and exponent is an integer, except for
negative zero. -/
def numberValue (negative : Bool) (whole : List Char) (fraction : Option (List Char))
    (exponent : Option Int) : Json :=
  match fraction, exponent with
  | none, none =>
      let size := Nat.ofDigitChars 10 whole 0
      if negative then
        if size = 0 then .decimal ⟨true, 0, 0⟩ else .int (-size)
      else .int size
  | fraction, exponent =>
      let places := fraction.getD []
      .decimal
        { negative := negative
          coefficient := Nat.ofDigitChars 10 (whole ++ places) 0
          exponent := exponent.getD 0 - places.length }

def unsigned? (negative : Bool) (input : List Char) : Option (Json × List Char) := do
  let (whole, rest) ← whole? input
  let (fraction, rest) ← fraction? rest
  let (exponent, rest) ← exponent? rest
  return (numberValue negative whole fraction exponent, rest)

mutual

/-- The value at the start of a text, after blanks, and the rest. -/
def value? : Nat → List Char → Option (Json × List Char)
  | 0, _ => none
  | fuel + 1, input =>
      match skipSpace input with
      | 'n' :: 'u' :: 'l' :: 'l' :: rest => some (.null, rest)
      | 't' :: 'r' :: 'u' :: 'e' :: rest => some (.bool true, rest)
      | 'f' :: 'a' :: 'l' :: 's' :: 'e' :: rest => some (.bool false, rest)
      | '"' :: rest => (string? rest).map fun (text, rest) => (.str text, rest)
      | '[' :: rest =>
          match skipSpace rest with
          | ']' :: rest => some (.arr [], rest)
          | rest => (items? fuel rest).map fun (items, rest) => (.arr items, rest)
      | '{' :: rest =>
          match skipSpace rest with
          | '}' :: rest => some (.obj [], rest)
          | rest => (members? fuel rest).map fun (members, rest) => (.obj members, rest)
      | '-' :: rest => unsigned? true rest
      | rest => unsigned? false rest

/-- The items of an array up to its end; there is at least one. -/
def items? : Nat → List Char → Option (List Json × List Char)
  | 0, _ => none
  | fuel + 1, input =>
      match value? fuel input with
      | none => none
      | some (item, rest) =>
          match skipSpace rest with
          | ']' :: rest => some ([item], rest)
          | ',' :: rest => (items? fuel rest).map fun (items, rest) => (item :: items, rest)
          | _ => none

/-- The members of an object up to its end; there is at least one. -/
def members? : Nat → List Char → Option (List (Option String × Json) × List Char)
  | 0, _ => none
  | fuel + 1, input =>
      match skipSpace input with
      | '"' :: rest =>
          match string? rest with
          | none => none
          | some (name, rest) =>
              match skipSpace rest with
              | ':' :: rest =>
                  match value? fuel rest with
                  | none => none
                  | some (value, rest) =>
                      match skipSpace rest with
                      | '}' :: rest => some ([(name, value)], rest)
                      | ',' :: rest =>
                          (members? fuel rest).map fun (members, rest) =>
                            ((name, value) :: members, rest)
                      | _ => none
              | _ => none
      | _ => none

end

/-- The value that a text consists of. Every call consumes a character or is followed by one that
does, so twice the length of the text bounds their nesting. -/
def parse? (text : String) : Option Json :=
  let input := text.toList
  match value? (2 * input.length + 2) input with
  | some (value, rest) => if (skipSpace rest).isEmpty then some value else none
  | none => none

end HidPointer.Json
