import HidPointer.Json.Parser
import HidPointer.Json.Printer
import Mathlib.Data.List.TakeDrop

/-!
# JSON texts are read back

The compact text of a value is read as that value (`Json.parse?_render`), provided that its strings
denote texts: a string that does not is written as the empty one. The reader takes just the text of
the value and stops at what closes it, which inside arrays and objects is a comma or a bracket.
-/

set_option autoImplicit false

namespace HidPointer.Json

mutual

/-- Every string in the value denotes a text. -/
def Denotes : Json → Prop
  | str text => text.isSome
  | arr items => ItemsDenote items
  | obj members => MembersDenote members
  | _ => True

def ItemsDenote : List Json → Prop
  | [] => True
  | item :: items => item.Denotes ∧ ItemsDenote items

def MembersDenote : List (Option String × Json) → Prop
  | [] => True
  | (name, value) :: members => name.isSome ∧ value.Denotes ∧ MembersDenote members

end

/-- What can follow a value. -/
inductive Closed : List Char → Prop where
  | nil : Closed []
  | comma (rest : List Char) : Closed (',' :: rest)
  | bracket (rest : List Char) : Closed (']' :: rest)
  | brace (rest : List Char) : Closed ('}' :: rest)

section Numbers

variable {rest : List Char}

theorem digits_append {found : List Char} (all : ∀ char ∈ found, char.isDigit = true)
    (stops : ∀ char ∈ rest.head?, char.isDigit = false) :
    digits (found ++ rest) = (found, rest) := by
  rw [digits, List.span_eq_takeWhile_dropWhile, List.takeWhile_append_of_pos all,
    List.dropWhile_append_of_pos all]
  cases rest with
  | nil => simp
  | cons char rest =>
      have stop : char.isDigit = false := stops char rfl
      simp [stop]

theorem digits_toDigits (value : Nat) (stops : ∀ char ∈ rest.head?, char.isDigit = false) :
    digits (Nat.toDigits 10 value ++ rest) = (Nat.toDigits 10 value, rest) :=
  digits_append (fun _ member => Nat.isDigit_of_mem_toDigits (by decide) (by decide) member) stops

theorem toDigits_cons (value : Nat) :
    ∃ first others, Nat.toDigits 10 value = first :: others ∧ first.isDigit = true := by
  obtain ⟨first, others, written⟩ := List.exists_cons_of_ne_nil
    (Nat.toDigits_ne_nil (n := value) (b := 10))
  have member : first ∈ Nat.toDigits 10 value := by
    rw [written]
    exact List.mem_cons_self
  exact ⟨first, others, written, Nat.isDigit_of_mem_toDigits (by decide) (by decide) member⟩

/-- Zero alone is written with a zero in front. -/
theorem head_toDigits {value : Nat} (positive : 0 < value) :
    ∃ first others, Nat.toDigits 10 value = first :: others ∧ first ≠ '0' := by
  induction value using Nat.strongRecOn with
  | ind value ih =>
      by_cases small : value < 10
      · have nonzero : ∀ value < 10, 0 < value → value.digitChar ≠ '0' := by decide
        exact ⟨value.digitChar, [], Nat.toDigits_of_lt_base small, nonzero value small positive⟩
      · have large : 10 ≤ value := Nat.not_lt.mp small
        obtain ⟨first, others, written, nonzero⟩ := ih (value / 10) (by omega) (by omega)
        refine ⟨first, others ++ [(value % 10).digitChar], ?_, nonzero⟩
        rw [Nat.toDigits_of_base_le (by decide) large, written]
        rfl

theorem whole?_toDigits (value : Nat) (stops : ∀ char ∈ rest.head?, char.isDigit = false) :
    whole? (Nat.toDigits 10 value ++ rest) = some (Nat.toDigits 10 value, rest) := by
  rcases Nat.eq_zero_or_pos value with rfl | positive
  · rfl
  · have found := digits_toDigits value stops
    obtain ⟨first, others, written, nonzero⟩ := head_toDigits positive
    rw [written] at found ⊢
    unfold whole?
    split
    · rename_i same
      cases same
      exact absurd rfl nonzero
    · rw [found]

theorem Closed.stops (closed : Closed rest) : ∀ char ∈ rest.head?, char.isDigit = false := by
  cases closed <;> simp

theorem Closed.fraction? (closed : Closed rest) : fraction? rest = some (none, rest) := by
  cases closed <;> rfl

theorem Closed.exponent? (closed : Closed rest) : exponent? rest = some (none, rest) := by
  cases closed <;> rfl

theorem size_toDigits (value : Nat) : Nat.ofDigitChars 10 (Nat.toDigits 10 value) 0 = value :=
  Nat.ofDigitChars_toDigits (by decide) (by decide)

theorem unsigned?_toDigits (negative : Bool) (value : Nat) (closed : Closed rest) :
    unsigned? negative (Nat.toDigits 10 value ++ rest) =
      some (numberValue negative (Nat.toDigits 10 value) none none, rest) := by
  simp only [unsigned?, whole?_toDigits value closed.stops, closed.fraction?, closed.exponent?,
    Option.bind_eq_bind, Option.bind_some, Option.pure_def]

theorem exponentDigits?_toDigits (negative : Bool) (value : Nat) (closed : Closed rest) :
    exponentDigits? negative (Nat.toDigits 10 value ++ rest) =
      some (some (if negative then -(value : Int) else value), rest) := by
  have found := digits_toDigits value closed.stops
  have nonempty : Nat.toDigits 10 value ≠ [] := Nat.toDigits_ne_nil
  unfold exponentDigits?
  rw [found]
  split
  · rename_i same
    exact absurd (congrArg Prod.fst same) nonempty
  · rename_i same
    cases same
    rw [size_toDigits]

theorem exponent?_integer (size : Int) (closed : Closed rest) :
    exponent? ('e' :: (integer size ++ rest)) = some (some size, rest) := by
  cases size with
  | ofNat value =>
      have read := exponentDigits?_toDigits false value closed
      obtain ⟨first, others, written, isDigit⟩ := toDigits_cons value
      simp only [exponent?, integer, written, List.cons_append, true_or, if_true] at read ⊢
      split
      · rename_i same
        cases same
        simp at isDigit
      · rename_i same
        cases same
        simp at isDigit
      · exact read
  | negSucc value => exact exponentDigits?_toDigits true (value + 1) closed

theorem unsigned?_decimal (value : Decimal) (closed : Closed rest) :
    unsigned? value.negative (Nat.toDigits 10 value.coefficient ++
      ('e' :: (integer value.exponent ++ rest))) = some (.decimal value, rest) := by
  have stops : ∀ char ∈ ('e' :: (integer value.exponent ++ rest)).head?, char.isDigit = false := by
    simp
  have whole := whole?_toDigits value.coefficient stops
  have fraction : fraction? ('e' :: (integer value.exponent ++ rest)) =
    some (none, 'e' :: (integer value.exponent ++ rest)) := rfl
  simp only [unsigned?, whole, fraction, exponent?_integer _ closed, Option.bind_eq_bind,
    Option.bind_some, Option.pure_def, numberValue, Option.getD_none, Option.getD_some,
    List.append_nil, size_toDigits, List.length_nil]
  simp

end Numbers

section Strings

theorem stringParts?_short {letter meant : Char} (short : shortEscape? letter = some meant)
    (rest : List Char) :
    stringParts? ('\\' :: letter :: rest) =
      (stringParts? rest).map fun (parts, rest) => (.char meant :: parts, rest) := by
  have notUnit : letter ≠ 'u' := by
    rintro rfl
    cases short
  rw [stringParts?.eq_def]
  split
  · rename_i same
    cases same
  · rename_i same
    cases same
    exact absurd rfl notUnit
  · rename_i same
    cases same
    rw [short]
  · rename_i never same
    cases same
    exact (never _ _ rfl rfl).elim
  · contradiction

/-- Characters below the blank that have no letter are written by their number. -/
theorem stringParts?_control {char : Char} (control : char.toNat < 0x20) (rest : List Char) :
    stringParts? ('\\' :: 'u' :: '0' :: '0' :: (Bytes.hex (UInt8.ofNat char.toNat) ++ rest)) =
      (stringParts? rest).map fun (parts, rest) => (.char char :: parts, rest) := by
  have unit : ∀ code < 0x20, codeUnit? '0' '0' (Bytes.hexDigit (code / 16))
      (Bytes.hexDigit (code % 16)) = some code ∧
        StringPart.ofUnit code = .char (Char.ofNat code) := by decide
  obtain ⟨read, meant⟩ := unit char.toNat control
  have byte : (UInt8.ofNat char.toNat).toNat = char.toNat := by
    rw [UInt8.toNat_ofNat']
    omega
  simp only [Bytes.hex, byte, List.cons_append, List.nil_append, stringParts?, read, meant,
    Char.ofNat_toNat]

theorem stringParts?_plain {char : Char} (quote : char ≠ '"') (backslash : char ≠ '\\')
    (printable : ¬ char.toNat < 0x20) (rest : List Char) :
    stringParts? (char :: rest) =
      (stringParts? rest).map fun (parts, rest) => (.char char :: parts, rest) := by
  rw [stringParts?.eq_def]
  split
  · rename_i same
    cases same
    contradiction
  · rename_i same
    cases same
    contradiction
  · rename_i same
    cases same
    contradiction
  · rename_i same
    cases same
    rw [if_neg (by simp [printable, backslash])]
  · contradiction

theorem stringParts?_escape (char : Char) (rest : List Char) :
    stringParts? (escape char ++ rest) =
      (stringParts? rest).map fun (parts, rest) => (.char char :: parts, rest) := by
  unfold escape
  split_ifs with quote backslash backspace formFeed lineFeed return_ tab control
  · subst quote
    exact stringParts?_short rfl rest
  · subst backslash
    exact stringParts?_short rfl rest
  · subst backspace
    exact stringParts?_short rfl rest
  · subst formFeed
    exact stringParts?_short rfl rest
  · subst lineFeed
    exact stringParts?_short rfl rest
  · subst return_
    exact stringParts?_short rfl rest
  · subst tab
    exact stringParts?_short rfl rest
  · exact stringParts?_control control rest
  · exact stringParts?_plain quote backslash control rest

theorem stringParts?_quote (chars rest : List Char) :
    stringParts? (chars.flatMap escape ++ '"' :: rest) = some (chars.map .char, rest) := by
  induction chars with
  | nil => simp [stringParts?]
  | cons char chars ih =>
      rw [List.flatMap_cons, List.append_assoc, stringParts?_escape, ih]
      rfl

theorem joinParts?_chars (chars : List Char) : joinParts? (chars.map .char) = some chars := by
  induction chars with
  | nil => rfl
  | cons char chars ih => simp [joinParts?, ih]

/-- What is behind the opening quote is read up to the closing one. -/
theorem string?_quote (text : String) (rest : List Char) :
    string? ((text.toList.flatMap escape ++ ['"']) ++ rest) = some (some text, rest) := by
  rw [List.append_assoc, List.singleton_append, string?, stringParts?_quote]
  simp [joinParts?_chars]

end Strings

section Values

variable {rest : List Char} {fuel : Nat}

theorem skipSpace_cons {first : Char} (visible : isSpace first = false) (others : List Char) :
    skipSpace (first :: others) = first :: others := by
  simp [skipSpace, visible]

theorem visible_of_isDigit {char : Char} (isDigit : char.isDigit = true) :
    isSpace char = false := by
  by_contra blank
  simp only [isSpace, Bool.not_eq_false, Bool.or_eq_true, beq_iff_eq] at blank
  rcases blank with ((rfl | rfl) | rfl) | rfl <;> simp at isDigit

theorem value?_digit {first : Char} (isDigit : first.isDigit = true) (others : List Char) :
    value? (fuel + 1) (first :: others) = unsigned? false (first :: others) := by
  rw [value?, skipSpace_cons (visible_of_isDigit isDigit)]
  split
  case h_8 => rfl
  all_goals
    rename_i same
    cases same
    simp at isDigit

theorem value?_toDigits (value : Nat) (rest : List Char) :
    value? (fuel + 1) (Nat.toDigits 10 value ++ rest) =
      unsigned? false (Nat.toDigits 10 value ++ rest) := by
  obtain ⟨first, others, written, isDigit⟩ := toDigits_cons value
  rw [written]
  exact value?_digit isDigit _

theorem value?_negative (others : List Char) :
    value? (fuel + 1) ('-' :: others) = unsigned? true others := rfl

theorem value?_int (value : Int) (closed : Closed rest) :
    value? (fuel + 1) (integer value ++ rest) = some (.int value, rest) := by
  cases value with
  | ofNat value =>
      rw [integer, value?_toDigits, unsigned?_toDigits false value closed]
      simp [numberValue]
  | negSucc value =>
      rw [integer, List.cons_append, value?_negative, unsigned?_toDigits true (value + 1) closed]
      simp only [numberValue, size_toDigits, if_true, if_neg (Nat.succ_ne_zero value)]
      rfl

theorem value?_decimal (value : Decimal) (closed : Closed rest) :
    value? (fuel + 1) (value.print ++ rest) = some (.decimal value, rest) := by
  have read := unsigned?_decimal value closed
  unfold Decimal.print
  cases sign : value.negative with
  | false =>
      rw [sign] at read
      simp only [Bool.false_eq_true, if_false, List.nil_append, List.append_assoc,
        List.cons_append]
      rw [value?_toDigits, read]
  | true =>
      rw [sign] at read
      simp only [if_true, List.append_assoc, List.cons_append, List.nil_append]
      rw [value?_negative, read]

theorem value?_quote (text : String) (rest : List Char) :
    value? (fuel + 1) (quote (some text) ++ rest) = some (.str (some text), rest) := by
  rw [quote, List.cons_append, value?, skipSpace_cons (by decide)]
  simp only [Option.getD_some, string?_quote, Option.map_some]

theorem toDigits_opens (value : Nat) :
    ∃ first others, Nat.toDigits 10 value = first :: others ∧ isSpace first = false ∧
      first ≠ ']' := by
  obtain ⟨first, others, written, isDigit⟩ := toDigits_cons value
  refine ⟨first, others, written, visible_of_isDigit isDigit, ?_⟩
  rintro rfl
  simp at isDigit

/-- A value begins with neither a blank nor a bracket that closes. -/
theorem print_opens (value : Json) :
    ∃ first others, value.print = first :: others ∧ isSpace first = false ∧ first ≠ ']' := by
  cases value with
  | null | str => exact ⟨_, _, rfl, rfl, by decide⟩
  | bool value => cases value <;> exact ⟨_, _, rfl, rfl, by decide⟩
  | arr items => cases items <;> exact ⟨_, _, rfl, rfl, by decide⟩
  | obj members => cases members <;> exact ⟨_, _, rfl, rfl, by decide⟩
  | int value =>
      cases value with
      | ofNat value => exact toDigits_opens value
      | negSucc value => exact ⟨_, _, rfl, rfl, by decide⟩
  | decimal value =>
      obtain ⟨first, others, written, visible, differs⟩ := toDigits_opens value.coefficient
      unfold print Decimal.print
      cases value.negative with
      | false => exact ⟨first, _, by rw [written]; rfl, visible, differs⟩
      | true => exact ⟨_, _, rfl, rfl, by decide⟩

theorem print_pos (value : Json) : 0 < value.print.length := by
  obtain ⟨first, others, written, _⟩ := print_opens value
  rw [written]
  exact Nat.succ_pos _

theorem printItems_pos (items : List Json) : 0 < (printItems items).length := by
  cases items <;> exact Nat.succ_pos _

theorem printMembers_pos (members : List (Option String × Json)) :
    0 < (printMembers members).length := by
  cases members <;> exact Nat.succ_pos _

theorem printItems_closed (items : List Json) (rest : List Char) :
    Closed (printItems items ++ rest) := by
  cases items with
  | nil => exact .bracket rest
  | cons item items => exact .comma _

theorem printMembers_closed (members : List (Option String × Json)) (rest : List Char) :
    Closed (printMembers members ++ rest) := by
  cases members with
  | nil => exact .brace rest
  | cons member members => exact .comma _

mutual

/-- With fuel for each of its characters the text of a value is read as the value. -/
theorem value?_print : ∀ (value : Json) (rest : List Char) (fuel : Nat), value.Denotes →
    Closed rest → value.print.length ≤ fuel →
      value? fuel (value.print ++ rest) = some (value, rest)
  | value, rest, 0, _, _, enough => absurd (print_pos value) (Nat.not_lt.mpr enough)
  | .null, rest, fuel + 1, _, _, _ => rfl
  | .bool true, rest, fuel + 1, _, _, _ => rfl
  | .bool false, rest, fuel + 1, _, _, _ => rfl
  | .int value, rest, fuel + 1, _, closed, _ => value?_int value closed
  | .decimal value, rest, fuel + 1, _, closed, _ => value?_decimal value closed
  | .str (some text), rest, fuel + 1, _, _, _ => value?_quote text rest
  | .arr [], rest, fuel + 1, _, _, _ => rfl
  | .arr (item :: items), rest, fuel + 1, denotes, _, enough => by
      have read := items?_print (item :: items) rest fuel denotes (by simp)
        (by simpa [print, printItems] using enough)
      obtain ⟨first, others, written, visible, differs⟩ := print_opens item
      simp only [print, printItems, List.tail_cons, written, List.cons_append] at read ⊢
      rw [value?, skipSpace_cons (by decide)]
      simp only [skipSpace_cons visible]
      split
      · rename_i same
        cases same
        exact absurd rfl differs
      · rw [read]
        rfl
  | .obj [], rest, fuel + 1, _, _, _ => rfl
  | .obj ((name, value) :: members), rest, fuel + 1, denotes, _, enough => by
      have read := members?_print ((name, value) :: members) rest fuel denotes
        (by simp) (by simpa [print, printMembers] using enough)
      simp only [print, printMembers, List.tail_cons, quote, List.cons_append] at read ⊢
      rw [value?, skipSpace_cons (by decide)]
      simp only [skipSpace_cons (show isSpace '"' = false from rfl)]
      split
      · rename_i same
        cases same
      · rw [read]
        rfl

/-- The items of an array without the bracket before them. -/
theorem items?_print : ∀ (items : List Json) (rest : List Char) (fuel : Nat), ItemsDenote items →
    items ≠ [] → (printItems items).length ≤ fuel + 1 →
      items? fuel ((printItems items).tail ++ rest) = some (items, rest)
  | [], _, _, _, nonempty, _ => absurd rfl nonempty
  | item :: items, rest, fuel, denotes, _, enough => by
      have itemPos := print_pos item
      have itemsPos := printItems_pos items
      simp only [printItems, List.length_cons, List.length_append] at enough
      cases fuel with
      | zero => omega
      | succ fuel =>
          have itemRead := value?_print item (printItems items ++ rest) fuel denotes.1
            (printItems_closed items rest) (by omega)
          simp only [printItems, List.tail_cons, List.append_assoc]
          rw [items?, itemRead]
          cases items with
          | nil => rfl
          | cons second items =>
              have itemsRead := items?_print (second :: items) rest fuel denotes.2
                (by simp) (by omega)
              simp only [printItems, List.tail_cons, List.cons_append] at itemsRead ⊢
              simp only [skipSpace_cons (show isSpace ',' = false from rfl), itemsRead,
                Option.map_some]

theorem members?_print : ∀ (members : List (Option String × Json)) (rest : List Char)
    (fuel : Nat), MembersDenote members → members ≠ [] →
      (printMembers members).length ≤ fuel + 1 →
        members? fuel ((printMembers members).tail ++ rest) = some (members, rest)
  | [], _, _, _, nonempty, _ => absurd rfl nonempty
  | (some name, value) :: members, rest, fuel, denotes, _, enough => by
      have membersPos := printMembers_pos members
      simp only [printMembers, quote, List.length_cons, List.length_append] at enough
      cases fuel with
      | zero => omega
      | succ fuel =>
          have valueRead := value?_print value (printMembers members ++ rest) fuel
            denotes.2.1 (printMembers_closed members rest) (by omega)
          have nameRead := string?_quote name
            (':' :: (value.print ++ (printMembers members ++ rest)))
          simp only [printMembers, quote, List.tail_cons, List.append_assoc, List.cons_append,
            Option.getD_some] at nameRead ⊢
          rw [members?, skipSpace_cons (by decide)]
          simp only [nameRead, skipSpace_cons (show isSpace ':' = false from rfl), valueRead]
          cases members with
          | nil => rfl
          | cons second members =>
              have membersRead := members?_print (second :: members) rest fuel
                denotes.2.2 (by simp) (by omega)
              simp only [printMembers, List.tail_cons, List.cons_append] at membersRead ⊢
              simp only [skipSpace_cons (show isSpace ',' = false from rfl), membersRead,
                Option.map_some]

end

/-- The text of a value is read as the value. -/
theorem parse?_render {value : Json} (denotes : value.Denotes) :
    parse? value.render = some value := by
  have read := value?_print value [] (2 * value.print.length + 2) denotes .nil
    (by omega)
  rw [List.append_nil] at read
  simp only [parse?, render, String.toList_ofList, read]
  rfl

end Values

end HidPointer.Json
