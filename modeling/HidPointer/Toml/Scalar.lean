import HidPointer.Binary64
import HidPointer.Toml.Value

/-!
# Strings, numbers and dates in TOML

Each reader takes the characters of one literal from the start of a text and returns what follows
them. A reader need not look at what follows: whatever cannot stand behind a value is refused by
the reader of the line.
-/

set_option autoImplicit false

namespace HidPointer.Toml

def isBlank (char : Char) : Bool :=
  char == ' ' || char == '\t'

def skipBlanks (input : List Char) : List Char :=
  input.dropWhile isBlank

/-- The characters that stand for themselves in comments: no control characters, except the
tabulator. -/
def isPlain (char : Char) : Bool :=
  char == '\t' || (0x20 ≤ char.toNat && char.toNat != 0x7f)

def digitValue (char : Char) : Nat :=
  if char ≤ '9' then char.toNat - '0'.toNat
  else if char ≤ 'F' then char.toNat - 'A'.toNat + 10
  else char.toNat - 'a'.toNat + 10

def isHexDigit (char : Char) : Bool :=
  char.isDigit || ('a' ≤ char && char ≤ 'f') || ('A' ≤ char && char ≤ 'F')

def digitsValue (base : Nat) (digits : List Char) : Nat :=
  digits.foldl (fun value digit => base * value + digitValue digit) 0

/-- The character with the number that hexadecimal digits stand for, if there is one. -/
def scalar? (digits : List Char) : Option Char :=
  let code := digitsValue 16 digits
  if digits.all isHexDigit ∧ code.isValidChar then some (Char.ofNat code) else none

def shortEscape? (char : Char) : Option Char :=
  match char with
  | 'b' => some '\x08'
  | 't' => some '\t'
  | 'n' => some '\n'
  | 'f' => some '\x0c'
  | 'r' => some '\r'
  | '"' => some '"'
  | '\\' => some '\\'
  | _ => none

def andThen (char : Char) (found : Option (List Char × List Char)) :
    Option (List Char × List Char) :=
  found.map fun (chars, rest) => (char :: chars, rest)

def basicBody : List Char → Option (List Char × List Char)
  | '"' :: rest => some ([], rest)
  | '\\' :: 'u' :: a :: b :: c :: d :: rest =>
      (scalar? [a, b, c, d]).bind (andThen · (basicBody rest))
  | '\\' :: 'U' :: a :: b :: c :: d :: e :: f :: g :: h :: rest =>
      (scalar? [a, b, c, d, e, f, g, h]).bind (andThen · (basicBody rest))
  | '\\' :: char :: rest => (shortEscape? char).bind (andThen · (basicBody rest))
  | char :: rest =>
      if isPlain char ∧ char ≠ '\\' then andThen char (basicBody rest) else none
  | [] => none

def literalBody : List Char → Option (List Char × List Char)
  | '\'' :: rest => some ([], rest)
  | char :: rest => if isPlain char then andThen char (literalBody rest) else none
  | [] => none

/-- The quotes that may stand before the closing three: two at most. -/
def closingQuotes (quote : Char) (input : List Char) : List Char × List Char :=
  match input with
  | first :: second :: rest =>
      if first = quote ∧ second = quote then ([quote, quote], rest)
      else if first = quote then ([quote], second :: rest)
      else ([], first :: second :: rest)
  | [first] => if first = quote then ([quote], []) else ([], [first])
  | [] => ([], [])

/-- Where the reader of a string in several lines is. -/
inductive Continuation where
  | text
  | lineEnd
  | indent

def multilineBasicBody : Continuation → List Char → Option (List Char × List Char)
  | .lineEnd, ' ' :: rest => multilineBasicBody .lineEnd rest
  | .lineEnd, '\t' :: rest => multilineBasicBody .lineEnd rest
  | .lineEnd, '\n' :: rest => multilineBasicBody .indent rest
  | .lineEnd, '\r' :: '\n' :: rest => multilineBasicBody .indent rest
  | .lineEnd, _ => none
  | .indent, ' ' :: rest => multilineBasicBody .indent rest
  | .indent, '\t' :: rest => multilineBasicBody .indent rest
  | .indent, '\n' :: rest => multilineBasicBody .indent rest
  | .indent, '\r' :: '\n' :: rest => multilineBasicBody .indent rest
  | _, '"' :: '"' :: '"' :: rest => some (closingQuotes '"' rest)
  | _, '\\' :: 'u' :: a :: b :: c :: d :: rest =>
      (scalar? [a, b, c, d]).bind (andThen · (multilineBasicBody .text rest))
  | _, '\\' :: 'U' :: a :: b :: c :: d :: e :: f :: g :: h :: rest =>
      (scalar? [a, b, c, d, e, f, g, h]).bind (andThen · (multilineBasicBody .text rest))
  | _, '\\' :: '\n' :: rest => multilineBasicBody .indent rest
  | _, '\\' :: '\r' :: '\n' :: rest => multilineBasicBody .indent rest
  | _, '\\' :: char :: rest =>
      if isBlank char then multilineBasicBody .lineEnd rest
      else (shortEscape? char).bind (andThen · (multilineBasicBody .text rest))
  | _, '\r' :: '\n' :: rest => andThen '\n' (multilineBasicBody .text rest)
  | _, char :: rest =>
      if char = '\n' ∨ (isPlain char ∧ char ≠ '\\') then
        andThen char (multilineBasicBody .text rest)
      else none
  | _, [] => none

def multilineLiteralBody : List Char → Option (List Char × List Char)
  | '\'' :: '\'' :: '\'' :: rest => some (closingQuotes '\'' rest)
  | '\r' :: '\n' :: rest => andThen '\n' (multilineLiteralBody rest)
  | char :: rest =>
      if char = '\n' ∨ isPlain char then andThen char (multilineLiteralBody rest) else none
  | [] => none

def skipFirstNewline : List Char → List Char
  | '\n' :: rest => rest
  | '\r' :: '\n' :: rest => rest
  | rest => rest

def string? : List Char → Option (List Char × List Char)
  | '"' :: '"' :: '"' :: rest => multilineBasicBody .text (skipFirstNewline rest)
  | '"' :: rest => basicBody rest
  | '\'' :: '\'' :: '\'' :: rest => multilineLiteralBody (skipFirstNewline rest)
  | '\'' :: rest => literalBody rest
  | _ => none

/-- Digits after a first one; a single underscore may stand between two digits. -/
def moreDigits (isDigit : Char → Bool) : List Char → List Char × List Char
  | '_' :: digit :: rest =>
      if isDigit digit then
        let (digits, rest) := moreDigits isDigit rest
        (digit :: digits, rest)
      else ([], '_' :: digit :: rest)
  | digit :: rest =>
      if isDigit digit then
        let (digits, rest) := moreDigits isDigit rest
        (digit :: digits, rest)
      else ([], digit :: rest)
  | [] => ([], [])

def groupedDigits? (isDigit : Char → Bool) : List Char → Option (List Char × List Char)
  | digit :: rest =>
      if isDigit digit then
        let (digits, rest) := moreDigits isDigit rest
        some (digit :: digits, rest)
      else none
  | [] => none

/-- Whether there is a minus, and what follows a sign. -/
def sign : List Char → Bool × List Char
  | '-' :: rest => (true, rest)
  | '+' :: rest => (false, rest)
  | rest => (false, rest)

/-- The whole part of a decimal number: zero alone, or digits that do not start with zero. -/
def wholeDigits? : List Char → Option (List Char × List Char)
  | '0' :: rest => some (['0'], rest)
  | rest => groupedDigits? Char.isDigit rest

/-- An integer must fit into 64 bits, one of them for the sign. -/
def integer? (value : Int) (rest : List Char) : Option (Toml × List Char) :=
  if -9223372036854775808 ≤ value ∧ value ≤ 9223372036854775807 then
    some (.integer value, rest)
  else none

/-- An integer in any of the four bases. Only decimal ones have a sign. -/
def integerLiteral? (input : List Char) : Option (Toml × List Char) :=
  let based (base : Nat) (isDigit : Char → Bool) (rest : List Char) :
      Option (Toml × List Char) := do
    let (digits, rest) ← groupedDigits? isDigit rest
    integer? (digitsValue base digits) rest
  match input with
  | '0' :: 'x' :: rest => based 16 isHexDigit rest
  | '0' :: 'o' :: rest => based 8 (fun char => '0' ≤ char && char ≤ '7') rest
  | '0' :: 'b' :: rest => based 2 (fun char => char == '0' || char == '1') rest
  | input => do
      let (negative, rest) := sign input
      let (digits, rest) ← wholeDigits? rest
      let size : Int := digitsValue 10 digits
      integer? (if negative then -size else size) rest

def exponent? : List Char → Option (Int × List Char)
  | char :: rest => do
      if char ≠ 'e' ∧ char ≠ 'E' then none
      let (negative, rest) := sign rest
      let (digits, rest) ← groupedDigits? Char.isDigit rest
      let size : Int := digitsValue 10 digits
      return (if negative then -size else size, rest)
  | [] => none

def consumed (input rest : List Char) : String :=
  String.ofList (input.take (input.length - rest.length))

/-- A decimal number with a fraction or an exponent. A positive one must be finite. -/
def decimalLiteral? (input : List Char) : Option (Toml × List Char) := do
  let (negative, rest) := sign input
  let (whole, rest) ← wholeDigits? rest
  let (places, rest) ← match rest with
    | '.' :: rest => groupedDigits? Char.isDigit rest
    | rest => some ([], rest)
  let (exponent, rest) ← match exponent? rest with
    | some (exponent, rest) => some (some exponent, rest)
    | none => some (none, rest)
  if places = [] ∧ exponent = none then none
  let coefficient := digitsValue 10 (whole ++ places)
  if ¬ negative ∧ Binary64.overflows coefficient (exponent.getD 0 - places.length) then none
  return (.float (consumed input rest), rest)

def specialLiteral? (input : List Char) : Option (Toml × List Char) :=
  match (sign input).2 with
  | 'i' :: 'n' :: 'f' :: rest => some (.float (consumed input rest), rest)
  | 'n' :: 'a' :: 'n' :: rest => some (.float (consumed input rest), rest)
  | _ => none

/-- Two digits that stand for a number within bounds. -/
def twoDigits? (least greatest : Nat) : List Char → Option (Nat × List Char)
  | first :: second :: rest =>
      let value := digitsValue 10 [first, second]
      if first.isDigit ∧ second.isDigit ∧ least ≤ value ∧ value ≤ greatest then
        some (value, rest)
      else none
  | _ => none

def daysInMonth (year month : Nat) : Nat :=
  if month = 2 then
    if year % 4 = 0 ∧ (year % 100 ≠ 0 ∨ year % 400 = 0) then 29 else 28
  else if month = 4 ∨ month = 6 ∨ month = 9 ∨ month = 11 then 30
  else 31

def expect? (char : Char) : List Char → Option (List Char)
  | first :: rest => if first = char then some rest else none
  | [] => none

def date? : List Char → Option (List Char)
  | a :: b :: c :: d :: rest => do
      if ¬ [a, b, c, d].all Char.isDigit then none
      let rest ← expect? '-' rest
      let (month, rest) ← twoDigits? 1 12 rest
      let rest ← expect? '-' rest
      let (_, rest) ← twoDigits? 1 (daysInMonth (digitsValue 10 [a, b, c, d]) month) rest
      return rest
  | _ => none

/-- The part of a time after the seconds, if there is one. -/
def secondFraction : List Char → List Char
  | '.' :: digit :: rest =>
      if digit.isDigit then rest.dropWhile Char.isDigit else '.' :: digit :: rest
  | rest => rest

/-- A time of day. A minute can have a leap second. The result is what follows it. -/
def time? (input : List Char) : Option (List Char) := do
  let (_, rest) ← twoDigits? 0 23 input
  let rest ← expect? ':' rest
  let (_, rest) ← twoDigits? 0 59 rest
  let rest ← expect? ':' rest
  let (_, rest) ← twoDigits? 0 60 rest
  return secondFraction rest

/-- The distance from universal time. The result is what follows it. -/
def offset? : List Char → Option (List Char)
  | 'Z' :: rest => some rest
  | 'z' :: rest => some rest
  | char :: rest => do
      if char ≠ '+' ∧ char ≠ '-' then none
      let (_, rest) ← twoDigits? 0 23 rest
      let rest ← expect? ':' rest
      let (_, rest) ← twoDigits? 0 59 rest
      return rest
  | [] => none

/-- What follows the time of day and the offset that belong to a date, if there are any. -/
def timeOfDate (rest : List Char) : List Char :=
  match rest with
  | separator :: later =>
      if separator = 'T' ∨ separator = 't' ∨ separator = ' ' then
        match time? later with
        | some later => (offset? later).getD later
        | none => rest
      else rest
  | [] => rest

/-- A date, a time, or both. -/
def datetimeLiteral? (input : List Char) : Option (Toml × List Char) :=
  match date? input with
  | some rest =>
      let rest := timeOfDate rest
      some (.datetime (consumed input rest), rest)
  | none => (time? input).map fun rest => (.datetime (consumed input rest), rest)

/-- A value that is written with characters only: a truth value, a date or a number. -/
def plainLiteral? (input : List Char) : Option (Toml × List Char) :=
  match input with
  | 't' :: 'r' :: 'u' :: 'e' :: rest => some (.boolean true, rest)
  | 'f' :: 'a' :: 'l' :: 's' :: 'e' :: rest => some (.boolean false, rest)
  | input =>
      datetimeLiteral? input <|> decimalLiteral? input <|> specialLiteral? input <|>
        integerLiteral? input

end HidPointer.Toml
