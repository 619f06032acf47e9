import Mathlib.Data.List.Nodup
import Mathlib.Tactic.Lemma

/-!
# Members that are overwritten

Association lists that are built like a dictionary of Python: setting a key that is there keeps the member's place.
After a list of members was set one after the other, those are left that no later one has overwritten.
-/

namespace Members

universe u v w

variable {κ : Type u} {κ' : Type v} {β : Type w} [DecidableEq κ']

/-- `object[key] = value`: an existing member keeps its place. -/
def set [DecidableEq κ] (key : κ) (value : β) : List (κ × β) → List (κ × β)
  | [] => [(key, value)]
  | (k, v) :: object => if key = k then (k, value) :: object else (k, v) :: set key value object

/-- The members that no later one overwrites, for keys that are the same when `f` takes them to the same key. -/
def lasting (f : κ → κ') : List (κ × β) → List (κ × β)
  | [] => []
  | field :: fields =>
    if f field.1 ∈ fields.map fun field => f field.1 then lasting f fields else field :: lasting f fields

section Set

variable [DecidableEq κ] {key : κ} {value : β} {object : List (κ × β)}

lemma keys_set : (set key value object).map Prod.fst =
    if key ∈ object.map Prod.fst then object.map Prod.fst else object.map Prod.fst ++ [key] := by
  induction object with
  | nil => rfl
  | cons field object ih =>
    obtain ⟨k, v⟩ := field
    rw [set]
    by_cases same : key = k
    · rw [if_pos same, if_pos (by rw [same]; exact .head _), List.map_cons, List.map_cons]
    · rw [if_neg same, List.map_cons, ih, List.map_cons]
      by_cases mem : key ∈ object.map Prod.fst
      · rw [if_pos mem, if_pos (.tail _ mem)]
      · rw [if_neg mem, if_neg (by simp only [List.mem_cons, same, mem, or_self, not_false_eq_true])]
        rfl

/-- What holds of the keys before and of the new one. -/
lemma forall_keys_set {P : κ → Prop} (new : P key) (old : ∀ field ∈ object, P field.1) :
    ∀ field ∈ set key value object, P field.1 := by
  intro field mem
  have among := List.mem_map_of_mem (f := Prod.fst) mem
  rw [keys_set] at among
  split at among
  · obtain ⟨field', mem', same⟩ := List.mem_map.mp among
    rw [← same]
    exact old field' mem'
  · obtain among | last := List.mem_append.mp among
    · obtain ⟨field', mem', same⟩ := List.mem_map.mp among
      rw [← same]
      exact old field' mem'
    · rw [List.mem_singleton.mp last]
      exact new

/-- The keys stay distinct. -/
lemma nodup_set (distinct : (object.map Prod.fst).Nodup) : ((set key value object).map Prod.fst).Nodup := by
  rw [keys_set]
  split
  · exact distinct
  · next fresh =>
    refine List.nodup_append.mpr ⟨distinct, List.nodup_singleton _, ?_⟩
    rintro k mem _ last rfl
    rw [List.mem_singleton.mp last] at mem
    exact fresh mem

/-- What holds of all members after one was set: it holds of that one, and of those with another key. -/
lemma forall_set {P : κ × β → Prop} (distinct : (object.map Prod.fst).Nodup) :
    (∀ field ∈ set key value object, P field) ↔ P (key, value) ∧ ∀ field ∈ object, field.1 ≠ key → P field := by
  induction object with
  | nil => simp [set]
  | cons field object ih =>
    obtain ⟨k, v⟩ := field
    rw [List.map_cons, List.nodup_cons] at distinct
    obtain ⟨fresh, distinct⟩ := distinct
    rw [set]
    by_cases same : key = k
    · subst same
      have others : ∀ field ∈ object, field.1 ≠ key := by
        rintro field mem rfl
        exact fresh (List.mem_map.mpr ⟨field, mem, rfl⟩)
      rw [if_pos rfl, List.forall_mem_cons, List.forall_mem_cons]
      constructor
      · rintro ⟨new, kept⟩
        exact ⟨new, absurd rfl, fun field mem _ => kept field mem⟩
      · rintro ⟨new, -, kept⟩
        exact ⟨new, fun field mem => kept field mem (others field mem)⟩
    · rw [if_neg same, List.forall_mem_cons, ih distinct, List.forall_mem_cons]
      constructor
      · rintro ⟨first, new, kept⟩
        exact ⟨new, fun _ => first, kept⟩
      · rintro ⟨new, first, kept⟩
        exact ⟨first (Ne.symm same), new, kept⟩

end Set

lemma mem_of_lasting {f : κ → κ'} {fields : List (κ × β)} {field : κ × β} (mem : field ∈ lasting f fields) :
    field ∈ fields := by
  induction fields with
  | nil => cases mem
  | cons head fields ih =>
    rw [lasting] at mem
    split at mem
    · exact .tail _ (ih mem)
    · cases mem with
      | head => exact .head _
      | tail _ mem => exact .tail _ (ih mem)

end Members
