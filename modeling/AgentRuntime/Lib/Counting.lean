import Mathlib.Tactic.Lemma
import Mathlib.Data.Bool.Basic
import Mathlib.Algebra.Order.Ring.Int

/-!
# Counting in a list of parties

A system keeps its parties in a list, by number: one is replaced when it moves, and a new one comes to the
end. How many of them satisfy a predicate changes by that party only.
-/

namespace Counting

universe u

variable {α : Type u} {parties : List α} {id : Nat} {party : α}

/-- Replacing one party changes the count by that party. -/
lemma countP_set (p : α → Bool) (found : parties[id]? = some party) (party' : α) :
    (parties.set id party').countP p + (p party).toNat = parties.countP p + (p party').toNat := by
  obtain ⟨inside, rfl⟩ := List.getElem?_eq_some_iff.mp found
  rw [List.countP_set inside]
  have counted : p parties[id] = true → 0 < parties.countP p := fun holds =>
    List.countP_pos_iff.mpr ⟨_, List.getElem_mem inside, holds⟩
  cases before : p parties[id] <;> cases after : p party' <;> simp
  all_goals
    have positive := counted before
    omega

/-- A new party adds itself to the count. -/
lemma countP_concat (p : α → Bool) (parties : List α) (party : α) :
    (parties ++ [party]).countP p = parties.countP p + (p party).toNat := by
  rw [List.countP_append, List.countP_singleton]
  cases p party <;> rfl

/-- Replacing one party changes a sum by that party. -/
lemma sum_set (f : α → Nat) (found : parties[id]? = some party) (party' : α) :
    ((parties.set id party').map f).sum + f party = (parties.map f).sum + f party' := by
  induction parties generalizing id with
  | nil => cases found
  | cons first parties ih =>
    cases id with
    | zero =>
      cases found
      simp only [List.set_cons_zero, List.map_cons, List.sum_cons]
      omega
    | succ id =>
      have rest := ih found
      simp only [List.set_cons_succ, List.map_cons, List.sum_cons]
      omega

end Counting
