import HidPointer.Program

/-!
# The lines of a text

The input is cut into lines as a byte string, before it is known to be text. In UTF-8 the byte of
the line feed is part of no other character. So the lines of a text are texts, and they are what is
between its line feeds.
-/

set_option autoImplicit false

namespace HidPointer

section Splitting

variable {α β : Type} [BEq α] [BEq β] [LawfulBEq α] [LawfulBEq β]

theorem splitOn_append_of_not_mem {separator : β} (front rest : List β)
    (absent : separator ∉ front) :
    (front ++ rest).splitOn separator = (rest.splitOn separator).modifyHead (front ++ ·) := by
  induction front with
  | nil => exact (congrFun List.modifyHead_id _).symm
  | cons head front ih =>
      have passes : (head == separator) = false :=
        beq_false_of_ne fun same => absent (same ▸ List.mem_cons_self)
      have later := ih fun member => absent (List.mem_cons_of_mem _ member)
      rw [List.cons_append, List.splitOn_cons_eq_if_modifyHead, passes, later]
      simp [Function.comp_def]

/-- A code under which only `separator` has the mark `mark` in its code word, and nothing else in
it, can be cut before it is decoded. -/
theorem splitOn_flatMap {encode : α → List β} (separator : α) {mark : β}
    (marked : encode separator = [mark]) (unmarked : ∀ a, mark ∈ encode a → a = separator)
    (list : List α) :
    (list.flatMap encode).splitOn mark = (list.splitOn separator).map (·.flatMap encode) := by
  induction list with
  | nil => rfl
  | cons head list ih =>
      rw [List.flatMap_cons, List.splitOn_cons_eq_if_modifyHead]
      by_cases same : head = separator
      · subst same
        rw [marked, List.singleton_append, List.splitOn_cons_eq_if_modifyHead, ih]
        simp
      · have absent : mark ∉ encode head := fun member => same (unmarked head member)
        rw [splitOn_append_of_not_mem _ _ absent, ih]
        obtain ⟨first, later, split⟩ :=
          List.exists_cons_of_ne_nil (List.splitOn_ne_nil separator list)
        simp [same, split]

end Splitting

namespace Text

/-- The line feed is the only character with its byte in its code. -/
theorem eq_lineFeed_of_mem {char : Char} (member : 0x0a ∈ String.utf8EncodeChar char) :
    char = '\n' := by
  apply Char.toNat_inj.mp
  change char.val.toNat = 10
  have value : ∀ number : Nat, 0x0a = UInt8.ofNat number → number % 256 = 10 :=
    fun _ same => (congrArg UInt8.toNat same).symm
  unfold String.utf8EncodeChar at member
  generalize char.val.toNat = code at member ⊢
  dsimp only at member
  split at member
  · have remainder := value code (List.mem_singleton.mp member)
    omega
  · -- In longer codes every byte has its highest bit set.
    split at member
    · simp only [List.mem_cons, List.not_mem_nil, or_false] at member
      rcases member with same | same
      all_goals
        have remainder := value _ same
        omega
    split at member
    · simp only [List.mem_cons, List.not_mem_nil, or_false] at member
      rcases member with same | same | same
      all_goals
        have remainder := value _ same
        omega
    · simp only [List.mem_cons, List.not_mem_nil, or_false] at member
      rcases member with same | same | same | same
      all_goals
        have remainder := value _ same
        omega

theorem toList_data_eq (bytes : ByteArray) : bytes.toList = bytes.data.toList := by
  have loop : ∀ index passed, ByteArray.toList.loop bytes index passed =
      passed.reverse ++ bytes.data.toList.drop index := by
    intro index passed
    fun_induction ByteArray.toList.loop bytes index passed with
    | case1 index passed inside ih =>
        have isElement : index < bytes.data.toList.length := by simpa using inside
        rw [ih, List.drop_eq_getElem_cons isElement]
        simp [ByteArray.get!, inside]
    | case2 index passed outside =>
        rw [List.drop_eq_nil_of_le (by simpa using Nat.le_of_not_lt outside)]
        simp
  exact loop 0 []

theorem toList_utf8Encode (chars : List Char) :
    chars.utf8Encode.toList = chars.flatMap String.utf8EncodeChar := by
  rw [toList_data_eq, List.utf8Encode, List.data_toByteArray]

theorem fromUTF8?_utf8Encode (chars : List Char) :
    String.fromUTF8? chars.utf8Encode = some (String.ofList chars) := by
  unfold String.fromUTF8?
  rw [dif_pos ⟨chars, rfl⟩]
  rfl

theorem fromUTF8?_toUTF8 (text : String) : String.fromUTF8? text.toUTF8 = some text := by
  rw [String.toUTF8_eq_toByteArray, ← String.utf8Encode_toList, fromUTF8?_utf8Encode,
    String.ofList_toList]

theorem utf8Encode_of_fromUTF8? {bytes : ByteArray} {text : String}
    (isText : String.fromUTF8? bytes = some text) : bytes = text.toList.utf8Encode := by
  unfold String.fromUTF8? at isText
  split at isText
  · cases isText
    rw [String.utf8Encode_toList]
    rfl
  · cases isText

/-- What stands between the line feeds of a text. -/
def lines (text : String) : List String :=
  (text.toList.splitOn '\n').map String.ofList

/-- The bytes of a text. -/
def encode (text : String) : List UInt8 :=
  text.toList.flatMap String.utf8EncodeChar

theorem decode?_encode (text : String) : decode? (encode text) = some text := by
  have bytes : ByteArray.mk (encode text).toArray = text.toList.utf8Encode := by
    rw [List.utf8Encode]
    exact ByteArray.ext List.data_toByteArray.symm
  rw [decode?, bytes, fromUTF8?_utf8Encode, String.ofList_toList]

end Text

/-- The lines of an input that is a text are the lines of the text. -/
theorem Program.lines_of_text {input : ByteArray} {text : String}
    (isText : String.fromUTF8? input = some text) :
    lines input.toList = (Text.lines text).map Text.encode := by
  rw [Text.utf8Encode_of_fromUTF8? isText, Text.toList_utf8Encode, lines,
    splitOn_flatMap '\n' rfl fun _ => Text.eq_lineFeed_of_mem, Text.lines, List.map_map]
  refine List.map_congr_left fun chars _ => ?_
  simp only [Function.comp_apply, Text.encode, String.toList_ofList]

end HidPointer
