/-!
# Replacing an element by smaller ones

A finite collection shrinks when one of its elements is replaced by any number of smaller ones.
If nothing shrinks forever among the elements, nothing shrinks forever among the collections
(`Replaces.wellFounded`). A list stands for a collection: the order of its elements is immaterial.
-/

set_option autoImplicit false

namespace HidPointer

variable {α : Type}

/-- `Replaces smaller after before`: one element of `before` gave way to smaller ones. -/
def Replaces (smaller : α → α → Prop) (after before : List α) : Prop :=
  ∃ removed rest added,
    before.Perm (removed :: rest) ∧ after.Perm (added ++ rest) ∧
      ∀ element ∈ added, smaller element removed

namespace Replaces

variable {smaller : α → α → Prop}

private theorem acc_of_perm {left right : List α} (accessible : Acc (Replaces smaller) left)
    (same : left.Perm right) : Acc (Replaces smaller) right := by
  refine Acc.intro _ fun after replaced => ?_
  obtain ⟨removed, rest, added, before, result, below⟩ := replaced
  exact accessible.inv ⟨removed, rest, added, same.trans before, result, below⟩

private theorem acc_nil : Acc (Replaces smaller) [] := by
  refine Acc.intro _ fun after replaced => ?_
  obtain ⟨removed, rest, _, before, _, _⟩ := replaced
  exact absurd before.length_eq (by simp)

/-- Two ways to single out an element of one collection: the same element, or two elements that
leave a common rest. -/
private theorem cons_perm_cons {first second : α} {left right : List α}
    (same : (first :: left).Perm (second :: right)) :
    (first = second ∧ left.Perm right) ∨
      ∃ common, left.Perm (second :: common) ∧ right.Perm (first :: common) := by
  have member : second ∈ first :: left := same.symm.subset List.mem_cons_self
  rcases List.mem_cons.mp member with equal | later
  · subst equal
    exact .inl ⟨rfl, same.cons_inv⟩
  · obtain ⟨front, back, rfl⟩ := List.append_of_mem later
    refine .inr ⟨front ++ back, List.perm_middle, ?_⟩
    have moved : (first :: (front ++ second :: back)).Perm (second :: first :: (front ++ back)) :=
      (List.perm_middle.cons first).trans (List.Perm.swap ..)
    exact (same.symm.trans moved).cons_inv

private theorem acc_append {added list : List α}
    (each : ∀ element ∈ added, ∀ list, Acc (Replaces smaller) list →
      Acc (Replaces smaller) (element :: list))
    (accessible : Acc (Replaces smaller) list) : Acc (Replaces smaller) (added ++ list) := by
  induction added with
  | nil => exact accessible
  | cons element added ih =>
      exact each element List.mem_cons_self _
        (ih fun other member => each other (List.mem_cons_of_mem _ member))

private theorem acc_cons {element : α} (below : Acc smaller element) :
    ∀ list, Acc (Replaces smaller) list → Acc (Replaces smaller) (element :: list) := by
  induction below with
  | intro element _ smallerIH =>
      intro list accessible
      induction accessible with
      | intro list closed listIH =>
          refine Acc.intro _ fun after replaced => ?_
          obtain ⟨removed, rest, added, before, result, under⟩ := replaced
          rcases cons_perm_cons before with ⟨rfl, same⟩ | ⟨common, inList, inRest⟩
          · have base : Acc (Replaces smaller) rest := acc_of_perm (.intro _ closed) same
            exact acc_of_perm
              (acc_append (fun other member => smallerIH other (under other member)) base)
              result.symm
          · have next := listIH (added ++ common) ⟨removed, common, added, inList, .rfl, under⟩
            refine acc_of_perm next ?_
            refine .symm (result.trans ?_)
            exact (inRest.append_left added).trans List.perm_middle

theorem wellFounded (below : WellFounded smaller) : WellFounded (Replaces smaller) := by
  refine ⟨fun list => ?_⟩
  induction list with
  | nil => exact acc_nil
  | cons element list ih => exact acc_cons (below.apply element) list ih

end Replaces

end HidPointer
