import HidPointer.Proofs.JsonText
import Mathlib.Data.List.Nodup

/-!
# JSON values up to the order of members

A value is written with the members of its objects in order of their names. That is the value still,
but for this order (`reordered_sorted`), as long as no object has a name twice. The text takes one
line, and what is read from it is the value in its new order (`shows_sorted`).
-/

set_option autoImplicit false

namespace HidPointer.Json

mutual

/-- Every string in the value denotes a text, and no object has a name twice. -/
def Plain : Json → Prop
  | str text => text.isSome
  | arr items => ItemsPlain items
  | obj members => (members.map Prod.fst).Nodup ∧ MembersPlain members
  | _ => True

def ItemsPlain : List Json → Prop
  | [] => True
  | item :: items => item.Plain ∧ ItemsPlain items

def MembersPlain : List (Option String × Json) → Prop
  | [] => True
  | (name, value) :: members => name.isSome ∧ value.Plain ∧ MembersPlain members

end

section Plain

theorem itemsPlain_map {α : Type} {write : α → Json} (plain : ∀ item, (write item).Plain)
    (items : List α) : ItemsPlain (items.map write) := by
  induction items with
  | nil => trivial
  | cons item items ih => exact ⟨plain item, ih⟩

theorem membersPlain_object {members : List (String × Json)}
    (each : ∀ member ∈ members, member.2.Plain) :
    MembersPlain (members.map fun (name, value) => (some name, value)) := by
  induction members with
  | nil => trivial
  | cons member members ih =>
      obtain ⟨first, others⟩ := List.forall_mem_cons.mp each
      exact ⟨rfl, first, ih others⟩

theorem plain_object {members : List (String × Json)} (apart : (members.map Prod.fst).Nodup)
    (each : ∀ member ∈ members, member.2.Plain) : (object members).Plain := by
  refine ⟨?_, membersPlain_object each⟩
  have names : (members.map fun (name, value) => (some name, value)).map Prod.fst =
      (members.map Prod.fst).map some := by
    simp
  rw [names]
  exact List.Nodup.map (fun _ _ => Option.some.inj) apart

@[simp] theorem plain_nat (value : Nat) : (nat value).Plain := trivial

@[simp] theorem plain_int (value : Int) : (Json.int value).Plain := trivial

@[simp] theorem plain_bool (value : Bool) : (Json.bool value).Plain := trivial

@[simp] theorem plain_text (text : String) : (Json.text text).Plain := rfl

@[simp] theorem plain_bytes (bytes : List UInt8) : (Json.bytes bytes).Plain := by
  rw [Json.bytes, Plain]
  exact itemsPlain_map (fun byte => plain_nat byte.toNat) bytes

end Plain

mutual

theorem Plain.denotes : ∀ {value : Json}, value.Plain → value.Denotes
  | .null, _ => trivial
  | .bool _, _ => trivial
  | .int _, _ => trivial
  | .decimal _, _ => trivial
  | .str _, plain => plain
  | .arr _, plain => ItemsPlain.denote plain
  | .obj _, plain => MembersPlain.denote plain.2

theorem ItemsPlain.denote : ∀ {items : List Json}, ItemsPlain items → ItemsDenote items
  | [], _ => trivial
  | _ :: _, plain => ⟨plain.1.denotes, ItemsPlain.denote plain.2⟩

theorem MembersPlain.denote : ∀ {members : List (Option String × Json)}, MembersPlain members →
    MembersDenote members
  | [], _ => trivial
  | (_, _) :: _, plain => ⟨plain.1, plain.2.1.denotes, MembersPlain.denote plain.2.2⟩

end

/-- The values are the same but for the order of the members of objects. -/
inductive Reordered : Json → Json → Prop where
  | refl (value : Json) : Reordered value value
  | trans {value middle other : Json} :
      Reordered value middle → Reordered middle other → Reordered value other
  | item (front back : List Json) {item other : Json} :
      Reordered item other →
      Reordered (.arr (front ++ item :: back)) (.arr (front ++ other :: back))
  | member (front back : List (Option String × Json)) {name : Option String} {value other : Json} :
      Reordered value other →
      Reordered (.obj (front ++ (name, value) :: back)) (.obj (front ++ (name, other) :: back))
  | order {members others : List (Option String × Json)} :
      members.Perm others → Reordered (.obj members) (.obj others)

theorem itemsDenote_iff {items : List Json} : ItemsDenote items ↔ ∀ item ∈ items, item.Denotes := by
  induction items with
  | nil => simp [ItemsDenote]
  | cons item items ih => simp [ItemsDenote, ih]

theorem membersDenote_iff {members : List (Option String × Json)} :
    MembersDenote members ↔ ∀ member ∈ members, member.1.isSome ∧ member.2.Denotes := by
  induction members with
  | nil => simp [MembersDenote]
  | cons member members ih => simp [MembersDenote, ih, and_assoc]

theorem Reordered.denotes {value other : Json} (reordered : Reordered value other)
    (denotes : value.Denotes) : other.Denotes := by
  induction reordered with
  | refl => exact denotes
  | trans _ _ firstIH secondIH => exact secondIH (firstIH denotes)
  | item front back _ ih =>
      simp only [Denotes, itemsDenote_iff, List.forall_mem_append, List.forall_mem_cons]
        at denotes ⊢
      exact ⟨denotes.1, ih denotes.2.1, denotes.2.2⟩
  | member front back _ ih =>
      simp only [Denotes, membersDenote_iff, List.forall_mem_append, List.forall_mem_cons]
        at denotes ⊢
      exact ⟨denotes.1, ⟨denotes.2.1.1, ih denotes.2.1.2⟩, denotes.2.2⟩
  | order same =>
      simp only [Denotes, membersDenote_iff] at denotes ⊢
      exact fun member isMember => denotes member (same.mem_iff.mpr isMember)

theorem insertMember_perm {name : Option String} {value : Json}
    {members : List (Option String × Json)} (absent : name ∉ members.map Prod.fst) :
    (insertMember name value members).Perm ((name, value) :: members) := by
  induction members with
  | nil => exact .refl _
  | cons member members ih =>
      obtain ⟨other, kept⟩ := member
      obtain ⟨differs, absent⟩ := not_or.mp (List.mem_cons.not.mp absent)
      rw [insertMember, if_neg differs]
      split
      · exact .refl _
      · exact ((ih absent).cons _).trans (.swap ..)

mutual

theorem reordered_sorted : ∀ {value : Json}, value.Plain → Reordered value value.sorted
  | .null, _ => .refl _
  | .bool _, _ => .refl _
  | .int _, _ => .refl _
  | .decimal _, _ => .refl _
  | .str _, _ => .refl _
  | .arr items, plain => by simpa [sorted] using reordered_itemsSorted [] plain
  | .obj members, plain => by
      simpa [sorted] using reordered_membersSorted [] plain.2 (by simpa using plain.1)

theorem reordered_itemsSorted : ∀ (front : List Json) {items : List Json}, ItemsPlain items →
    Reordered (.arr (front ++ items)) (.arr (front ++ itemsSorted items))
  | _, [], _ => .refl _
  | front, item :: items, plain => by
      have rest := reordered_itemsSorted (front ++ [item.sorted]) plain.2
      simp only [List.append_assoc, List.singleton_append] at rest
      exact .trans (.item front items (reordered_sorted plain.1)) rest

/-- What is `done` is in order; the other members are put in their places one by one. -/
theorem reordered_membersSorted : ∀ (done : List (Option String × Json))
    {members : List (Option String × Json)}, MembersPlain members →
    ((done ++ members).map Prod.fst).Nodup →
      Reordered (.obj (done ++ members)) (.obj (membersSorted members done))
  | done, [], _, _ => by simpa [membersSorted] using Reordered.refl _
  | done, (name, value) :: members, plain, apart => by
      have absent : name ∉ done.map Prod.fst := by
        rw [List.map_append, List.map_cons] at apart
        exact fun member => (List.nodup_append.mp apart).2.2 name member name (by simp) rfl
      have inserted : (done ++ (name, value.sorted) :: members).Perm
          (insertMember name value.sorted done ++ members) :=
        List.perm_middle.trans ((insertMember_perm absent).symm.append_right members)
      have stillApart : ((insertMember name value.sorted done ++ members).map Prod.fst).Nodup := by
        rw [← (inserted.map Prod.fst).nodup_iff]
        simpa using apart
      have first : Reordered (.obj (done ++ (name, value) :: members))
          (.obj (done ++ (name, value.sorted) :: members)) :=
        .member done members (reordered_sorted plain.2.1)
      have rest :=
        reordered_membersSorted (insertMember name value.sorted done) plain.2.2 stillApart
      exact (first.trans (.order inserted)).trans rest

end

section Lines

theorem lineFeed_not_mem_escape (char : Char) : '\n' ∉ escape char := by
  have control : ∀ code < 0x20, '\n' ∉ Bytes.hex (UInt8.ofNat code) := by decide
  unfold escape
  split_ifs with quote backslash backspace formFeed lineFeed return_ tab small
  iterate 7 · decide
  · simpa using control char.toNat small
  · simpa using Ne.symm lineFeed

theorem lineFeed_not_mem_quote (text : Option String) : '\n' ∉ quote text := by
  have escaped : '\n' ∉ (text.getD "").toList.flatMap escape := by
    intro member
    obtain ⟨char, _, isEscape⟩ := List.mem_flatMap.mp member
    exact lineFeed_not_mem_escape char isEscape
  simp [quote, escaped]

theorem lineFeed_not_mem_toDigits (value : Nat) : '\n' ∉ Nat.toDigits 10 value := by
  intro member
  have isDigit := Nat.isDigit_of_mem_toDigits (by decide) (by decide) member
  exact absurd isDigit (by decide)

theorem lineFeed_not_mem_integer (value : Int) : '\n' ∉ integer value := by
  cases value <;> simp [integer, lineFeed_not_mem_toDigits]

theorem lineFeed_not_mem_decimal (value : Decimal) : '\n' ∉ value.print := by
  unfold Decimal.print
  split <;> simp [lineFeed_not_mem_toDigits, lineFeed_not_mem_integer]

mutual

/-- A value is written on one line. -/
theorem lineFeed_not_mem_print : ∀ value : Json, '\n' ∉ value.print
  | .null => by decide
  | .bool true => by decide
  | .bool false => by decide
  | .int value => lineFeed_not_mem_integer value
  | .decimal value => lineFeed_not_mem_decimal value
  | .str text => lineFeed_not_mem_quote text
  | .arr [] => by decide
  | .arr (item :: items) => by
      simp [print, lineFeed_not_mem_print item, lineFeed_not_mem_printItems items]
  | .obj [] => by decide
  | .obj ((name, value) :: members) => by
      simp [print, lineFeed_not_mem_quote, lineFeed_not_mem_print value,
        lineFeed_not_mem_printMembers members]

theorem lineFeed_not_mem_printItems : ∀ items : List Json, '\n' ∉ printItems items
  | [] => by decide
  | item :: items => by
      simp [printItems, lineFeed_not_mem_print item, lineFeed_not_mem_printItems items]

theorem lineFeed_not_mem_printMembers : ∀ members : List (Option String × Json),
    '\n' ∉ printMembers members
  | [] => by decide
  | (name, value) :: members => by
      simp [printMembers, lineFeed_not_mem_quote, lineFeed_not_mem_print value,
        lineFeed_not_mem_printMembers members]

end

end Lines

/-- The text is one line, and reads as the value but for the order of members. -/
structure Shows (text : String) (value : Json) : Prop where
  oneLine : '\n' ∉ text.toList
  reads : ∃ read, parse? text = some read ∧ Reordered value read

/-- A value is shown by its text with the members in order. -/
theorem Plain.shows_sorted {value : Json} (plain : value.Plain) :
    Shows value.sorted.render value := by
  have reordered := reordered_sorted plain
  refine ⟨?_, value.sorted, parse?_render (reordered.denotes plain.denotes), reordered⟩
  rw [render, String.toList_ofList]
  exact lineFeed_not_mem_print _

end HidPointer.Json
