import Mathlib.Order.Lattice
import Mathlib.Tactic.Lemma

/-!
# The first size that fits

Sizes are tried in turn against a limit, and the last resort is taken unchecked when none of them fits. When
the size that is taken fits, and when it does not grow as the limit shrinks.
-/

namespace Ladder

universe u

variable {α : Type u} [LinearOrder α]

/-- The first of the sizes within the limit, else the last resort. -/
def pick (sizes : List α) (last limit : α) : α := (sizes.find? fun size => size ≤ limit).getD last

variable {sizes : List α} {last limit small large : α}

section Find

lemma pick_here {size : α} (fit : size ≤ limit) : pick (size :: sizes) last limit = size := by
  simp [pick, fit]

lemma pick_next {size : α} (exceeds : ¬ size ≤ limit) :
    pick (size :: sizes) last limit = pick sizes last limit := by
  simp [pick, exceeds]

/-- Something within the limit is picked before the last resort. -/
lemma pick_fits (fits : ∃ size ∈ sizes, size ≤ limit) : pick sizes last limit ≤ limit := by
  induction sizes with
  | nil =>
    obtain ⟨_, mem, -⟩ := fits
    cases mem
  | cons size sizes ih =>
    by_cases here : size ≤ limit
    · rw [pick_here here]
      exact here
    · rw [pick_next here]
      apply ih
      obtain ⟨other, mem, fit⟩ := fits
      cases mem with
      | head => exact absurd fit here
      | tail _ mem => exact ⟨other, mem, fit⟩

/-- The last resort is picked when nothing is within the limit. -/
lemma pick_last (none : ¬ ∃ size ∈ sizes, size ≤ limit) : pick sizes last limit = last := by
  induction sizes with
  | nil => rfl
  | cons size sizes ih =>
    rw [pick_next fun fit => none ⟨size, .head _, fit⟩]
    apply ih
    rintro ⟨other, mem, fit⟩
    exact none ⟨other, .tail _ mem, fit⟩

/-- A size that is picked under a limit, and is within a smaller one, is picked under that as well. -/
lemma pick_congr (le : small ≤ large) (within : pick sizes last large ≤ small) :
    pick sizes last small = pick sizes last large := by
  induction sizes with
  | nil => rfl
  | cons size sizes ih =>
    by_cases here : size ≤ large
    · rw [pick_here here] at within ⊢
      exact pick_here within
    · rw [pick_next here] at within ⊢
      rw [pick_next fun fit => here (fit.trans le)]
      exact ih within

/-- The last resort is no larger than what is picked when it is no larger than the first size that fits. -/
lemma last_le_pick : last ≤ pick sizes last limit ↔
    ∀ first, (sizes.find? fun size => size ≤ limit) = some first → last ≤ first := by
  rw [pick]
  cases sizes.find? fun size => size ≤ limit with
  | none => simp
  | some first => simp

end Find

/-- What is picked is within the limit exactly when a size is, or the last resort. -/
theorem pick_le_iff : pick sizes last limit ≤ limit ↔ (∃ size ∈ sizes, size ≤ limit) ∨ last ≤ limit := by
  by_cases fits : ∃ size ∈ sizes, size ≤ limit
  · exact iff_of_true (pick_fits fits) (.inl fits)
  · rw [pick_last fits, or_iff_right fits]

/-- Under a smaller limit nothing larger is picked, exactly when a size is within it, or the last resort is no
    larger than what is picked under the larger limit. -/
theorem pick_le_pick_iff (le : small ≤ large) : pick sizes last small ≤ pick sizes last large ↔
    (∃ size ∈ sizes, size ≤ small) ∨ last ≤ pick sizes last large := by
  by_cases fits : ∃ size ∈ sizes, size ≤ small
  · refine iff_of_true ?_ (.inl fits)
    obtain within | exceeds := le_or_gt (pick sizes last large) small
    · exact (pick_congr le within).le
    · exact (pick_fits fits).trans exceeds.le
  · rw [pick_last fits, or_iff_right fits]

/-- Nothing larger than the first size is picked, exactly when a size is within the limit, or the last resort is
    no larger than the first size. -/
theorem pick_le_first_iff {first : α} : pick (first :: sizes) last limit ≤ first ↔
    (∃ size ∈ first :: sizes, size ≤ limit) ∨ last ≤ first := by
  by_cases fits : ∃ size ∈ first :: sizes, size ≤ limit
  · refine iff_of_true ?_ (.inl fits)
    by_cases here : first ≤ limit
    · rw [pick_here here]
    · exact (pick_fits fits).trans (le_of_not_ge here)
  · rw [pick_last fits, or_iff_right fits]

end Ladder
