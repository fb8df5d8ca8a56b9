import HidPointer.Bytes
import HidPointer.Json

/-!
# Writing JSON

The compact text of a JSON value: no blanks, members in their order, and in a string only the
escapes that are needed.
-/

set_option autoImplicit false

namespace HidPointer.Json

def escape (char : Char) : List Char :=
  if char = '"' then ['\\', '"']
  else if char = '\\' then ['\\', '\\']
  else if char = '\x08' then ['\\', 'b']
  else if char = '\x0c' then ['\\', 'f']
  else if char = '\n' then ['\\', 'n']
  else if char = '\r' then ['\\', 'r']
  else if char = '\t' then ['\\', 't']
  else if char.toNat < 0x20 then '\\' :: 'u' :: '0' :: '0' :: Bytes.hex (UInt8.ofNat char.toNat)
  else [char]

/-- A string literal. A text that does not exist is written as the empty one. -/
def quote (text : Option String) : List Char :=
  '"' :: (((text.getD "").toList.flatMap escape) ++ ['"'])

def integer : Int → List Char
  | .ofNat value => Nat.toDigits 10 value
  | .negSucc value => '-' :: Nat.toDigits 10 (value + 1)

def Decimal.print (value : Decimal) : List Char :=
  (if value.negative then ['-'] else []) ++ Nat.toDigits 10 value.coefficient ++
    'e' :: integer value.exponent

mutual

def print : Json → List Char
  | null => ['n', 'u', 'l', 'l']
  | bool true => ['t', 'r', 'u', 'e']
  | bool false => ['f', 'a', 'l', 's', 'e']
  | int value => integer value
  | decimal value => value.print
  | str text => quote text
  | arr [] => ['[', ']']
  | arr (item :: items) => '[' :: (item.print ++ printItems items)
  | obj [] => ['{', '}']
  | obj ((name, value) :: members) =>
      '{' :: (quote name ++ ':' :: (value.print ++ printMembers members))

def printItems : List Json → List Char
  | [] => [']']
  | item :: items => ',' :: (item.print ++ printItems items)

def printMembers : List (Option String × Json) → List Char
  | [] => ['}']
  | (name, value) :: members =>
      ',' :: (quote name ++ ':' :: (value.print ++ printMembers members))

end

/-- The compact text of a value. -/
def render (value : Json) : String :=
  String.ofList value.print

end HidPointer.Json
