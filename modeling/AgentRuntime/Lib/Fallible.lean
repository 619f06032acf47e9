import Mathlib.Data.List.Forall2
import Mathlib.Tactic.Lemma

/-!
# Computations that may fail

When a chain of computations, or a loop of one computation over a list, succeeds.
-/

namespace Fallible

universe u v w

variable {ε : Type u} {α β : Type v}

/-- Computations after each other return when each of them does. -/
lemma bind_ok {x : Except ε α} {f : α → Except ε β} :
    (∃ y, (x >>= f) = .ok y) ↔ ∃ a, x = .ok a ∧ ∃ y, f a = .ok y := by
  cases x with
  | error error => simp [bind, Except.bind]
  | ok a => simp [bind, Except.bind]

/-- What computations after each other return. -/
lemma bind_eq_ok {x : Except ε α} {f : α → Except ε β} {b : β} :
    (x >>= f) = .ok b ↔ ∃ a, x = .ok a ∧ f a = .ok b := by
  cases x with
  | error error => simp [bind, Except.bind]
  | ok a => simp [bind, Except.bind]

/-- The error of computations after each other is the one of the first that fails. -/
lemma bind_eq_error {x : Except ε α} {f : α → Except ε β} {error : ε} :
    (x >>= f) = .error error ↔ x = .error error ∨ ∃ a, x = .ok a ∧ f a = .error error := by
  cases x with
  | error error' => simp [bind, Except.bind]
  | ok a => simp [bind, Except.bind]

/-- A renamed error leaves what is returned. -/
lemma mapError_eq_ok {ε' : Type w} {x : Except ε α} {f : ε → ε'} {a : α} :
    x.mapError f = .ok a ↔ x = .ok a := by
  cases x with
  | error error => simp [Except.mapError]
  | ok a => simp [Except.mapError]

/-- Where one computation returns what another does, so it does under a map. -/
lemma map_eq_ok_of {x y : Except ε α} {f : α → β} {b : β} (same : ∀ a, x = .ok a → y = .ok a)
    (ok : x.map f = .ok b) : y.map f = .ok b := by
  cases x with
  | error error => cases ok
  | ok a =>
    rw [same a rfl]
    exact ok

section Errors

/-- Every error of the computation is one of these. -/
def FailsOnly (P : ε → Prop) (x : Except ε α) : Prop := ∀ error, x = .error error → P error

variable {P : ε → Prop}

lemma failsOnly_ok {a : α} : FailsOnly P (.ok a) := by
  rintro _ ⟨⟩

lemma failsOnly_error {error : ε} : FailsOnly P (.error error : Except ε α) ↔ P error :=
  ⟨fun only => only error rfl, by rintro holds _ ⟨⟩; exact holds⟩

/-- The errors of computations after each other. -/
lemma failsOnly_bind {x : Except ε α} {f : α → Except ε β} :
    FailsOnly P (x >>= f) ↔ FailsOnly P x ∧ ∀ a, x = .ok a → FailsOnly P (f a) := by
  simp only [FailsOnly, bind_eq_error]
  constructor
  · intro only
    exact ⟨fun error first => only error (.inl first), fun a first error second =>
      only error (.inr ⟨a, first, second⟩)⟩
  · rintro ⟨first, second⟩ error (failed | ⟨a, same, failed⟩)
    · exact first error failed
    · exact second a same error failed

end Errors

section Loop

variable {f : α → Except ε β} {xs : List α} {ys : List β}

/-- A loop returns the values that the computation has at the elements. -/
lemma mapM_eq_ok : xs.mapM f = .ok ys ↔ List.Forall₂ (fun x y => f x = .ok y) xs ys := by
  induction xs generalizing ys with
  | nil => simp [pure, Except.pure, eq_comm]
  | cons x xs ih =>
    rw [List.mapM_cons, List.forall₂_cons_left_iff]
    cases first : f x with
    | error error => simp [bind, Except.bind]
    | ok y =>
      simp only [← ih]
      cases xs.mapM f with
      | error error => simp [bind, Except.bind]
      | ok values => simp [bind, Except.bind, pure, Except.pure, eq_comm]

/-- A loop over values that are known. -/
lemma mapM_values {g : α → β} (values : ∀ x ∈ xs, f x = .ok (g x)) : xs.mapM f = .ok (xs.map g) := by
  apply mapM_eq_ok.mpr
  rw [List.forall₂_map_right_iff]
  exact List.forall₂_same.mpr values

/-- A loop returns when the computation has a value at every element. -/
lemma mapM_ok : (∃ ys, xs.mapM f = .ok ys) ↔ ∀ x ∈ xs, ∃ y, f x = .ok y := by
  simp only [mapM_eq_ok]
  induction xs with
  | nil => simp
  | cons x xs ih =>
    rw [List.forall_mem_cons, ← ih]
    constructor
    · rintro ⟨_, values⟩
      cases values with
      | cons first others => exact ⟨⟨_, first⟩, _, others⟩
    · rintro ⟨⟨y, first⟩, ys, others⟩
      exact ⟨y :: ys, .cons first others⟩

/-- Every value that a loop returns is the one at an element. -/
lemma mapM_mem {y : β} (ok : xs.mapM f = .ok ys) (mem : y ∈ ys) : ∃ x ∈ xs, f x = .ok y := by
  have values := mapM_eq_ok.mp ok
  clear ok
  induction values with
  | nil => cases mem
  | cons first _ ih =>
    cases mem with
    | head => exact ⟨_, .head _, first⟩
    | tail _ mem =>
      obtain ⟨x, mem, eq⟩ := ih mem
      exact ⟨x, .tail _ mem, eq⟩

/-- The error of a loop is the one at an element. -/
lemma mapM_error {error : ε} (failed : xs.mapM f = .error error) : ∃ x ∈ xs, f x = .error error := by
  induction xs with
  | nil => cases failed
  | cons x xs ih =>
    rw [List.mapM_cons] at failed
    cases first : f x with
    | error error' =>
      rw [first] at failed
      cases failed
      exact ⟨x, .head _, first⟩
    | ok y =>
      cases others : xs.mapM f with
      | error error' =>
        rw [first, others] at failed
        cases failed
        obtain ⟨x, mem, eq⟩ := ih others
        exact ⟨x, .tail _ mem, eq⟩
      | ok ys =>
        rw [first, others] at failed
        cases failed

end Loop

end Fallible
