import HidPointer.Toml.Scalar
import HidPointer.Toml.Table

/-!
# Reading TOML

`Toml.parse?` reads a document, line by line, into one table. Keys, arrays and inline tables have
limited depth.
-/

set_option autoImplicit false

namespace HidPointer.Toml

/-- The depth of dotted keys and of nested values is less than this. -/
def maxDepth : Nat := 80

def isKeyChar (char : Char) : Bool :=
  char.isAlphanum || char == '-' || char == '_'

def simpleKey? : List Char → Option (String × List Char)
  | '"' :: rest => (basicBody rest).map fun (chars, rest) => (String.ofList chars, rest)
  | '\'' :: rest => (literalBody rest).map fun (chars, rest) => (String.ofList chars, rest)
  | input => match input.span isKeyChar with
    | ([], _) => none
    | (chars, rest) => some (String.ofList chars, rest)

/-- The parts of a dotted key, with blanks around each. -/
def keyParts? : Nat → List Char → Option (List String × List Char)
  | 0, _ => none
  | fuel + 1, input => do
      let (part, rest) ← simpleKey? (skipBlanks input)
      match skipBlanks rest with
      | '.' :: rest =>
          let (parts, rest) ← keyParts? fuel rest
          return (part :: parts, rest)
      | rest => return ([part], rest)

/-- A dotted key: the parts that lead to a table, and the last one. Every part takes a character,
so the length of the text bounds their number. -/
def key? (input : List Char) : Option (List String × String × List Char) := do
  let (parts, rest) ← keyParts? (input.length + 1) input
  if maxDepth ≤ parts.length then none
  let last ← parts.getLast?
  return (parts.dropLast, last, rest)

/-- What follows the blanks, line ends and comments at the start of a text. -/
def skipFiller (inComment : Bool) : List Char → List Char
  | '\r' :: '\n' :: rest => skipFiller false rest
  | char :: rest =>
      if char = '\n' then skipFiller false rest
      else if inComment then
        if isPlain char then skipFiller true rest else char :: rest
      else if isBlank char then skipFiller false rest
      else if char = '#' then skipFiller true rest
      else char :: rest
  | [] => []

/-- The entries that pairs of a dotted key and a value make up. -/
def pairsTable? (pairs : List (List String × String × Toml)) : Option Entries :=
  pairs.foldlM (fun entries (path, key, value) =>
    entries.insert .header path key value) ([] : Entries)

mutual

/-- The value at the start of a text, and what follows it. -/
def value? : Nat → Nat → List Char → Option (Toml × List Char)
  | 0, _, _ => none
  | fuel + 1, levels, input =>
      match input with
      | '"' :: _ => (string? input).map fun (chars, rest) => (.string (String.ofList chars), rest)
      | '\'' :: _ => (string? input).map fun (chars, rest) => (.string (String.ofList chars), rest)
      | '[' :: rest =>
          match levels with
          | 0 => none
          | levels + 1 => (items? fuel levels rest).map fun (items, rest) => (.array items, rest)
      | '{' :: rest =>
          match levels with
          | 0 => none
          | levels + 1 =>
              match skipBlanks rest with
              | '}' :: rest => some (.table [], rest)
              | _ => do
                  let (pairs, rest) ← pairs? fuel levels rest
                  let entries ← pairsTable? pairs
                  return (.table (closeEntries entries), rest)
      | input => plainLiteral? input

/-- The items of an array up to its end. A comma may follow the last one. -/
def items? : Nat → Nat → List Char → Option (List Toml × List Char)
  | 0, _, _ => none
  | fuel + 1, levels, input =>
      match skipFiller false input with
      | ']' :: rest => some ([], rest)
      | input => do
          let (item, rest) ← value? fuel levels input
          match skipFiller false rest with
          | ']' :: rest => return ([item], rest)
          | ',' :: rest =>
              let (items, rest) ← items? fuel levels rest
              return (item :: items, rest)
          | _ => none

/-- The pairs of an inline table up to its end; there is at least one. -/
def pairs? : Nat → Nat → List Char → Option (List (List String × String × Toml) × List Char)
  | 0, _, _ => none
  | fuel + 1, levels, input => do
      let (path, key, rest) ← key? input
      let rest ← expect? '=' rest
      let (value, rest) ← value? fuel levels (skipBlanks rest)
      match skipBlanks rest with
      | '}' :: rest => return ([(path, key, value)], rest)
      | ',' :: rest =>
          let (pairs, rest) ← pairs? fuel levels rest
          return ((path, key, value) :: pairs, rest)
      | _ => none

end

/-- What follows the end of a line. The end of the text is one, too. -/
def lineEnd? : List Char → Option (List Char)
  | [] => some []
  | '\n' :: rest => some rest
  | '\r' :: '\n' :: rest => some rest
  | _ => none

def endLine? (input : List Char) : Option (List Char) :=
  match skipBlanks input with
  | '#' :: rest => lineEnd? (rest.dropWhile isPlain)
  | rest => lineEnd? rest

/-- What has been read of a document: its entries, and the path of the last header. -/
structure Draft where
  entries : Entries := []
  header : List String := []

/-- A line with a key and a value. Values may go on in the next lines. -/
def pairLine? (draft : Draft) (input : List Char) : Option (Draft × List Char) := do
  let (path, key, rest) ← key? input
  let rest ← expect? '=' rest
  let (value, rest) ← value? (2 * input.length + 2) (maxDepth - 1) (skipBlanks rest)
  let rest ← endLine? rest
  let entries ← draft.entries.insertUnder draft.header path key value
  return ({ draft with entries := entries }, rest)

def headerLine? (draft : Draft) (input : List Char) : Option (Draft × List Char) := do
  let (path, key, rest) ← key? input
  let rest ← expect? ']' rest
  let rest ← endLine? rest
  let entries ← draft.entries.openTable path key
  return ({ entries := entries, header := path ++ [key] }, rest)

def arrayHeaderLine? (draft : Draft) (input : List Char) : Option (Draft × List Char) := do
  let (path, key, rest) ← key? input
  let rest ← expect? ']' rest
  let rest ← expect? ']' rest
  let rest ← endLine? rest
  let entries ← draft.entries.openArrayTable path key
  return ({ entries := entries, header := path ++ [key] }, rest)

def lines? : Nat → Draft → List Char → Option Draft
  | 0, _, _ => none
  | fuel + 1, draft, input =>
      match skipBlanks input with
      | [] => some draft
      | '#' :: rest => do lines? fuel draft (← lineEnd? (rest.dropWhile isPlain))
      | '\n' :: rest => lines? fuel draft rest
      | '\r' :: '\n' :: rest => lines? fuel draft rest
      | '[' :: '[' :: rest => do
          let (draft, rest) ← arrayHeaderLine? draft rest
          lines? fuel draft rest
      | '[' :: rest => do
          let (draft, rest) ← headerLine? draft rest
          lines? fuel draft rest
      | input => do
          let (draft, rest) ← pairLine? draft input
          lines? fuel draft rest

/-- The table that a document denotes. A byte order mark at its start is no part of it. -/
def parse? (text : String) : Option Toml :=
  let input := match text.toList with
    | '\uFEFF' :: rest => rest
    | input => input
  (lines? (input.length + 1) {} input).map fun draft => .table (closeEntries draft.entries)

end HidPointer.Toml
