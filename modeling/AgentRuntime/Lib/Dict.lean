import Mathlib.Data.List.AList
import Mathlib.Tactic.Lemma

/-!
# Dictionaries

Finite maps with string keys, on top of Mathlib's `AList`. The two lookup rules are in the form that
case analysis wants: one rule for every key, with a decision on whether it is the key written to.
-/

/-- A finite map with string keys. -/
abbrev Dict (α : Type) := AList fun _ : String => α

namespace Dict

variable {α : Type}

/-- Pairs of texts are compared by their equality. -/
instance lawfulPairs : LawfulBEq (String × String) := inferInstance

/-- What a lookup finds after a write. -/
@[simp] lemma lookup_insert_ite (d : Dict α) (k k' : String) (v : α) :
    (AList.insert k v d).lookup k' = if k' = k then some v else d.lookup k' := by
  by_cases e : k' = k
  · subst e
    rw [AList.lookup_insert, if_pos rfl]
  · rw [AList.lookup_insert_ne e, if_neg e]

/-- What a lookup finds after a removal. -/
@[simp] lemma lookup_erase_ite (d : Dict α) (k k' : String) :
    (AList.erase k d).lookup k' = if k' = k then none else d.lookup k' := by
  by_cases e : k' = k
  · subst e
    rw [AList.lookup_erase, if_pos rfl]
  · rw [AList.lookup_erase_ne e, if_neg e]

end Dict
