import AgentRuntime.Lib.Run

/-!
# Tables that are written once

A table `κ → Option α` whose cells are empty until they are written. It is extended by another table that
has every value it has. A system whose steps only extend a table keeps every value once it is written, at
every later moment of a run (`Run.written`).
-/

namespace WriteOnce
open Transition

universe u v w

variable {κ : Type u} {α : Type v}

/-- The second table has every value of the first. -/
def Extends (f f' : κ → Option α) : Prop := ∀ k v, f k = some v → f' k = some v

lemma Extends.refl (f : κ → Option α) : Extends f f := fun _ _ h => h

lemma Extends.trans {f g h : κ → Option α} (fg : Extends f g) (gh : Extends g h) : Extends f h :=
  fun k v written => gh k v (fg k v written)

/-- The rule for a table of a system: if every step of a run extends it, under an invariant and a guard,
    then it is extended at every later moment. -/
theorem Run.written {σ : Type w} {ℓ : Type*} {step : σ → ℓ → σ → Prop} {I : σ → Prop}
    {G : Event σ ℓ → Prop} (table : σ → κ → Option α) {s u : σ} {events : List (Event σ ℓ)}
    (run : Run step s events u)
    (pres : ∀ e, step e.pre e.label e.post → G e → I e.pre →
      I e.post ∧ Extends (table e.pre) (table e.post))
    (guard : ∀ e ∈ events, G e) (init : I s) :
    ∀ e ∈ events, I e.pre ∧ Extends (table s) (table e.pre) ∧ Extends (table s) (table e.post) := by
  induction run with
  | nil => exact nofun
  | @cons s l t events u st _ ih =>
    obtain ⟨next, extended⟩ := pres ⟨s, l, t⟩ st (guard _ (.head _)) init
    intro e mem
    cases mem with
    | head => exact ⟨init, .refl _, extended⟩
    | tail _ mem =>
      obtain ⟨kept, pre, post⟩ := ih (fun e mem => guard e (.tail _ mem)) next e mem
      exact ⟨kept, extended.trans pre, extended.trans post⟩

end WriteOnce
