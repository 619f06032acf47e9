import Mathlib.Data.List.Nodup
import Mathlib.Tactic.Lemma

/-!
# The first of each key

A list without the items whose key was there before.
-/

namespace Firsts

universe u v

variable {α : Type u} {κ : Type v} [BEq κ] (key : α → κ)

/-- The items so far, and the next one if its key is new. -/
def addFirst (output : List α) (item : α) : List α :=
  if (output.map key).contains (key item) then output else output ++ [item]

/-- The first item of each key, in the order of the list. -/
def firsts (items : List α) : List α := items.foldl (addFirst key) []

variable [LawfulBEq κ]

section Loop

variable {key}

lemma addFirst_seen {output : List α} {item : α} (seen : key item ∈ output.map key) :
    addFirst key output item = output :=
  if_pos (List.contains_iff_mem.mpr seen)

lemma addFirst_new {output : List α} {item : α} (new : key item ∉ output.map key) :
    addFirst key output item = output ++ [item] :=
  if_neg fun seen => new (List.contains_iff_mem.mp seen)

/-- The first item of a key is the same one in the whole list and among the first ones. -/
lemma foldl_find? (output items : List α) (k : κ) :
    (items.foldl (addFirst key) output).find? (fun item => key item == k) =
      (output ++ items).find? (fun item => key item == k) := by
  induction items generalizing output with
  | nil => rw [List.foldl_nil, List.append_nil]
  | cons item items ih =>
    rw [List.foldl_cons, ih]
    by_cases seen : key item ∈ output.map key
    · rw [addFirst_seen seen, List.find?_append, List.find?_append]
      by_cases own : key item = k
      · -- the key is found among the items so far
        obtain ⟨first, mem, same⟩ := List.mem_map.mp seen
        have found : (output.find? fun item => key item == k).isSome = true :=
          List.find?_isSome.mpr ⟨first, mem, by simpa using same.trans own⟩
        obtain ⟨first, found⟩ := Option.isSome_iff_exists.mp found
        rw [found]
        rfl
      · rw [List.find?_cons_of_neg (by simpa using own)]
    · rw [addFirst_new seen, List.append_assoc, List.singleton_append]

lemma foldl_sublist (output items : List α) :
    (items.foldl (addFirst key) output).Sublist (output ++ items) := by
  induction items generalizing output with
  | nil => rw [List.foldl_nil, List.append_nil]
  | cons item items ih =>
    rw [List.foldl_cons]
    by_cases seen : key item ∈ output.map key
    · rw [addFirst_seen seen]
      exact (ih output).trans ((List.sublist_cons_self item items).append_left output)
    · rw [addFirst_new seen]
      have longer := ih (output ++ [item])
      rwa [List.append_assoc, List.singleton_append] at longer

lemma foldl_nodup {output : List α} (once : (output.map key).Nodup) (items : List α) :
    ((items.foldl (addFirst key) output).map key).Nodup := by
  induction items generalizing output with
  | nil => exact once
  | cons item items ih =>
    rw [List.foldl_cons]
    by_cases seen : key item ∈ output.map key
    · rw [addFirst_seen seen]
      exact ih once
    · rw [addFirst_new seen]
      refine ih ?_
      rw [List.map_append, List.map_singleton]
      exact List.nodup_append_comm.mp (List.nodup_cons.mpr ⟨seen, once⟩)

end Loop

lemma firsts_find? (items : List α) (k : κ) :
    (firsts key items).find? (fun item => key item == k) =
      items.find? (fun item => key item == k) :=
  foldl_find? [] items k

lemma firsts_sublist (items : List α) : (firsts key items).Sublist items := foldl_sublist [] items

lemma firsts_nodup (items : List α) : ((firsts key items).map key).Nodup := by
  have none : (([] : List α).map key).Nodup := List.nodup_nil
  exact foldl_nodup none items

/-- Every key of the list has its first item. -/
lemma exists_first {items : List α} {item : α} (mem : item ∈ items) :
    ∃ first ∈ firsts key items, key first = key item ∧
      items.find? (fun other => key other == key item) = some first := by
  have found : (items.find? fun other => key other == key item).isSome = true :=
    List.find?_isSome.mpr ⟨item, mem, beq_self_eq_true _⟩
  obtain ⟨first, found⟩ := Option.isSome_iff_exists.mp found
  have kept := (firsts_find? key items (key item)).trans found
  have same := List.find?_some found
  exact ⟨first, List.mem_of_find?_eq_some kept, eq_of_beq same, found⟩

variable {key} in
/-- An item that is kept is the first of its key. -/
lemma find?_of_mem_firsts {items : List α} {item : α} (mem : item ∈ firsts key items) :
    items.find? (fun other => key other == key item) = some item := by
  have inside := (firsts_sublist key items).subset mem
  obtain ⟨first, kept, same, found⟩ := exists_first key inside
  have inj := List.inj_on_of_nodup_map (firsts_nodup key items)
  rw [found, inj kept mem same]

section Positions

variable {key}

/-- The first ones of a list are its head and the first ones of the rest that have another key. -/
lemma firsts_cons (item : α) (items : List α) :
    firsts key (item :: items) =
      item :: firsts key (items.filter fun other => !(key other == key item)) := by
  suffices apart : ∀ output : List α, items.foldl (addFirst key) (item :: output) =
      item :: (items.filter fun other => !(key other == key item)).foldl (addFirst key) output from
    apart []
  induction items with
  | nil => exact fun _ => rfl
  | cons other items ih =>
    intro output
    rw [List.foldl_cons]
    by_cases same : key other = key item
    · rw [List.filter_cons_of_neg (by simp [same]), addFirst_seen (by simp [same])]
      exact ih output
    · rw [List.filter_cons_of_pos (by simpa using same), List.foldl_cons]
      by_cases seen : key other ∈ output.map key
      · rw [addFirst_seen seen, addFirst_seen (List.mem_cons_of_mem _ seen)]
        exact ih output
      · rw [addFirst_new seen, addFirst_new (by simpa [same] using seen)]
        exact ih (output ++ [other])

end Positions

end Firsts
