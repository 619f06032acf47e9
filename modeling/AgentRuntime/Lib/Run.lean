import Mathlib.Tactic.Lemma
import Mathlib.Data.List.Basic

/-!
# Runs of labelled step relations

A labelled step relation `step : σ → ℓ → σ → Prop` and its finite runs. A run carries the list of
its events, each with the state before, the label and the state after, so that a property of a run
can speak about any moment of it. The rules are the ones a safety argument needs: composition
(`Run.append`, `Run.split`), a guarded invariant rule (`Run.invariant`, `Run.invariant_mem`), a rank
rule that bounds the length of a run (`Run.length_le`, `Run.countP_le`) and a simulation rule
(`Run.simulate`). A system that computes its steps can be run on a list of labels (`play`).
-/

namespace Transition

universe u v w

variable {σ : Type u} {ℓ : Type v} {τ : Type w}

/-- One step of a run: the state it starts in, its label, and the state it ends in. -/
structure Event (σ : Type u) (ℓ : Type v) where
  pre : σ
  label : ℓ
  post : σ

/-- Finite runs of a step relation, with the events passed on the way. -/
inductive Run (step : σ → ℓ → σ → Prop) : σ → List (Event σ ℓ) → σ → Prop where
  | nil {s} :
    Run step s [] s
  | cons {s l t es u} :
    step s l t →
    Run step t es u →
    Run step s (⟨s, l, t⟩ :: es) u

variable {step : σ → ℓ → σ → Prop}

/-- A single step is a run. -/
lemma Run.single {s l t} (st : step s l t) : Run step s [⟨s, l, t⟩] t :=
  .cons st .nil

/-- Runs compose. -/
lemma Run.append {s xs t ys u} (h1 : Run step s xs t) (h2 : Run step t ys u) :
    Run step s (xs ++ ys) u := by
  induction h1 with
  | nil => exact h2
  | cons st _ ih => exact .cons st (ih h2)

/-- A run over a concatenation passes through a middle state. -/
lemma Run.split {s xs ys u} (h : Run step s (xs ++ ys) u) :
    ∃ t, Run step s xs t ∧ Run step t ys u := by
  induction xs generalizing s with
  | nil => exact ⟨s, .nil, h⟩
  | cons e xs ih =>
    cases h with
    | cons st h =>
      obtain ⟨t, h1, h2⟩ := ih h
      exact ⟨t, .cons st h1, h2⟩

/-- The first event of a nonempty run starts in the run's first state. -/
lemma Run.head {s e es u} (h : Run step s (e :: es) u) :
    e.pre = s ∧ step s e.label e.post ∧ Run step e.post es u := by
  cases h with
  | cons st h => exact ⟨rfl, st, h⟩

/-- Every event of a run is a step. -/
lemma Run.step_of_mem {s es u e} (h : Run step s es u) (he : e ∈ es) :
    step e.pre e.label e.post := by
  induction h with
  | nil => cases he
  | cons st _ ih =>
    cases he with
    | head => exact st
    | tail _ he => exact ih he

/-- The invariant rule: what every step of the run preserves holds at its end. The guard `G` is
    what is known about the events of this run. -/
lemma Run.invariant {s es u} {I : σ → Prop} {G : Event σ ℓ → Prop} (h : Run step s es u)
    (pres : ∀ e, step e.pre e.label e.post → G e → I e.pre → I e.post)
    (guard : ∀ e ∈ es, G e) (init : I s) : I u := by
  induction h with
  | nil => exact init
  | cons st _ ih =>
    apply ih
    · exact fun e he => guard e (.tail _ he)
    · exact pres ⟨_, _, _⟩ st (guard _ (.head _)) init

/-- The invariant rule at an inner event: the invariant holds before and after it. -/
lemma Run.invariant_mem {s es u e} {I : σ → Prop} {G : Event σ ℓ → Prop} (h : Run step s es u)
    (pres : ∀ e, step e.pre e.label e.post → G e → I e.pre → I e.post)
    (guard : ∀ e ∈ es, G e) (init : I s) (he : e ∈ es) : I e.pre ∧ I e.post := by
  induction h with
  | nil => cases he
  | cons st _ ih =>
    have next := pres ⟨_, _, _⟩ st (guard _ (.head _)) init
    cases he with
    | head => exact ⟨init, next⟩
    | tail _ he => exact ih (fun e he => guard e (.tail _ he)) next he

/-- The rule for an invariant that speaks about the past: what every step carries over, with itself added
    to the past, holds at the end of the run about the run. -/
lemma Run.invariant_history {s es u} {I : List (Event σ ℓ) → σ → Prop} (h : Run step s es u)
    (pres : ∀ past e, step e.pre e.label e.post → I past e.pre → I (past ++ [e]) e.post)
    (init : I [] s) : I es u := by
  suffices later : ∀ past, I past s → I (past ++ es) u from later [] init
  clear init
  induction h with
  | nil =>
    intro past init
    rwa [List.append_nil]
  | @cons s l t es u st _ ih =>
    intro past init
    have next := ih (past ++ [⟨s, l, t⟩]) (pres past ⟨s, l, t⟩ st init)
    rwa [List.append_assoc, List.singleton_append] at next

/-- The refinement rule: a map of states and events under which every step is a step of the other
    relation maps runs to runs. `I` is an invariant that the steps may rely on. -/
lemma Run.map {ℓ' : Type*} {step' : τ → ℓ' → τ → Prop} {I : σ → Prop} (f : σ → τ)
    (g : Event σ ℓ → ℓ') {s es u} (h : Run step s es u)
    (pres : ∀ e : Event σ ℓ, step e.pre e.label e.post → I e.pre →
      I e.post ∧ step' (f e.pre) (g e) (f e.post))
    (init : I s) : Run step' (f s) (es.map fun e => ⟨f e.pre, g e, f e.post⟩) (f u) := by
  induction h with
  | nil => exact .nil
  | cons st _ ih =>
    obtain ⟨next, st'⟩ := pres ⟨_, _, _⟩ st init
    exact .cons st' (ih next)

/-- A rank that every step lowers bounds the length of a run. -/
lemma Run.length_le {s es u} {I : σ → Prop} (rank : σ → Nat) (h : Run step s es u)
    (pres : ∀ e : Event σ ℓ, step e.pre e.label e.post → I e.pre →
      I e.post ∧ rank e.post + 1 ≤ rank e.pre)
    (init : I s) : es.length + rank u ≤ rank s := by
  induction h with
  | nil => simp
  | cons st _ ih =>
    obtain ⟨next, lower⟩ := pres ⟨_, _, _⟩ st init
    have := ih next
    simp only at lower
    simp only [List.length_cons]
    omega

/-- A rank that no step raises, and that the counted steps lower, bounds their number. -/
lemma Run.countP_le {s es u} {I : σ → Prop} (rank : σ → Nat) (p : Event σ ℓ → Bool)
    (h : Run step s es u)
    (pres : ∀ e : Event σ ℓ, step e.pre e.label e.post → I e.pre →
      I e.post ∧ rank e.post + (if p e then 1 else 0) ≤ rank e.pre)
    (init : I s) : es.countP p + rank u ≤ rank s := by
  induction h with
  | nil => simp
  | cons st _ ih =>
    obtain ⟨next, lower⟩ := pres ⟨_, _, _⟩ st init
    have := ih next
    simp only at lower
    rw [List.countP_cons]
    omega

/-- The simulation rule: a relation that every guarded step carries over to a step of the other
    system with the same label carries whole runs over, event by event. -/
lemma Run.simulate {step' : τ → ℓ → τ → Prop} {R : σ → τ → Prop} {G : Event σ ℓ → Prop}
    {Q : Event σ ℓ → Event τ ℓ → Prop} {s es u} (h : Run step s es u)
    (sim : ∀ e a, step e.pre e.label e.post → G e → R e.pre a →
      ∃ b, step' a e.label b ∧ R e.post b ∧ Q e ⟨a, e.label, b⟩)
    (guard : ∀ e ∈ es, G e) {a} (init : R s a) :
    ∃ fs b, Run step' a fs b ∧ R u b ∧ List.Forall₂ Q es fs := by
  induction h generalizing a with
  | nil => exact ⟨[], a, .nil, init, .nil⟩
  | cons st _ ih =>
    obtain ⟨b, st', r, q⟩ := sim ⟨_, _, _⟩ a st (guard _ (.head _)) init
    obtain ⟨fs, c, h', r', qs⟩ := ih (fun e he => guard e (.tail _ he)) r
    exact ⟨_, c, .cons st' h', r', .cons q qs⟩

/-- Two runs of one deterministic relation over the same labels have the same events. -/
lemma Run.deterministic {s es u es' u'}
    (h : Run step s es u) (h' : Run step s es' u')
    (det : ∀ s l t t', step s l t → step s l t' → t = t')
    (labels : es.map Event.label = es'.map Event.label) : es = es' ∧ u = u' := by
  induction h generalizing es' with
  | nil =>
    cases h' with
    | nil => exact ⟨rfl, rfl⟩
    | cons => simp at labels
  | cons st _ ih =>
    cases h' with
    | nil => simp at labels
    | cons st' h' =>
      simp only [List.map_cons, List.cons.injEq] at labels
      obtain ⟨rfl, labels⟩ := labels
      cases det _ _ _ _ st st'
      obtain ⟨rfl, rfl⟩ := ih h' labels
      exact ⟨rfl, rfl⟩

section Replies

variable {ω β : Type*}

/-- What a system that is a function answers to some operations. -/
def replies (spec : τ → ω → β × τ) (t : τ) : List ω → List β
  | [] => []
  | o :: os => (spec t o).1 :: replies spec (spec t o).2 os

/-- The refinement rule for such a system: a relation that every step for an operation carries over to the
    operation, with an answer that agrees, carries whole runs over. -/
lemma Run.replies {spec : τ → ω → β × τ} {R : σ → τ → Prop} {G : Event σ ℓ → ω → Prop}
    {A : Event σ ℓ → β → Prop} {s es u os} (h : Run step s es u)
    (sim : ∀ e o t, step e.pre e.label e.post → G e o → R e.pre t →
      A e (spec t o).1 ∧ R e.post (spec t o).2)
    (guard : List.Forall₂ G es os) {t} (init : R s t) :
    List.Forall₂ A es (Transition.replies spec t os) := by
  induction h generalizing t os with
  | nil =>
    cases guard
    exact .nil
  | cons st _ ih =>
    cases guard with
    | cons meant guard =>
      obtain ⟨agrees, next⟩ := sim _ _ t st meant init
      exact .cons agrees (ih guard next)

end Replies

section Executable

variable (take : σ → ℓ → Option σ)

/-- The events of some labels in a system that computes its steps, and the state after them. What cannot
    step stays where it is. -/
def play (s : σ) : List ℓ → List (Event σ ℓ) × σ
  | [] => ([], s)
  | l :: ls =>
    let t := (take s l).getD s
    let (es, u) := play t ls
    (⟨s, l, t⟩ :: es, u)

/-- Every label is possible when its turn comes. -/
def possible (s : σ) : List ℓ → Bool
  | [] => true
  | l :: ls => (take s l).isSome && possible ((take s l).getD s) ls

/-- The state after some labels, if each is possible when its turn comes. -/
def reached (s : σ) : List ℓ → Option σ
  | [] => some s
  | l :: ls => (take s l).bind fun t => reached t ls

variable {take}

/-- A state that is reached is the end of a run. -/
lemma reached_run {s t : σ} {ls : List ℓ} (reaches : reached take s ls = some t) :
    ∃ es, Run (fun s l t => take s l = some t) s es t := by
  induction ls generalizing s with
  | nil =>
    cases reaches
    exact ⟨[], .nil⟩
  | cons l ls ih =>
    obtain ⟨u, taken, reaches⟩ := Option.bind_eq_some_iff.mp reaches
    obtain ⟨es, run⟩ := ih reaches
    exact ⟨⟨s, l, u⟩ :: es, .cons taken run⟩

/-- What a check finds in the state after some labels is found at the end of a run. -/
lemma run_of_check {s : σ} {ls : List ℓ} {p : σ → Bool} (check : (reached take s ls).any p = true) :
    ∃ es t, Run (fun s l t => take s l = some t) s es t ∧ p t = true := by
  obtain ⟨t, reaches, found⟩ := (Option.any_eq_true _ _).mp check
  obtain ⟨es, run⟩ := reached_run reaches
  exact ⟨es, t, run, found⟩

variable (take) in
/-- A step that is possible and passes the check. -/
def guarded (guard : σ → ℓ → Bool) (s : σ) (l : ℓ) : Option σ :=
  if guard s l then take s l else none

/-- What a check finds after some labels, each of which passes a check of its own. -/
lemma run_of_guarded {s : σ} {ls : List ℓ} {guard : σ → ℓ → Bool} {p : σ → Bool}
    (check : (reached (guarded take guard) s ls).any p = true) :
    ∃ es t, Run (fun s l t => take s l = some t) s es t ∧ (∀ e ∈ es, guard e.pre e.label = true) ∧
      p t = true := by
  obtain ⟨es, t, run, found⟩ := run_of_check check
  refine ⟨es, t, ?_, fun e mem => (Option.ite_none_right_eq_some.mp (run.step_of_mem mem)).1, found⟩
  clear check found
  induction run with
  | nil => exact .nil
  | cons st _ ih => exact .cons (Option.ite_none_right_eq_some.mp st).2 ih

/-- Possible labels make a run. -/
lemma play_run {s : σ} {ls : List ℓ} (can : possible take s ls = true) :
    Run (fun s l t => take s l = some t) s (play take s ls).1 (play take s ls).2 := by
  induction ls generalizing s with
  | nil => exact .nil
  | cons l ls ih =>
    obtain ⟨now, later⟩ := Bool.and_eq_true_iff.mp can
    obtain ⟨t, taken⟩ := Option.isSome_iff_exists.mp now
    have st : take s l = some ((take s l).getD s) := by rw [taken, Option.getD_some]
    exact .cons st (ih later)

/-- The labels of the events are those that were played. -/
lemma play_labels (s : σ) (ls : List ℓ) : (play take s ls).1.map Event.label = ls := by
  induction ls generalizing s with
  | nil => rfl
  | cons l ls ih => exact congrArg (l :: ·) (ih _)

/-- Labels one after the other. -/
lemma play_append (s : σ) (ls ls' : List ℓ) :
    (play take s (ls ++ ls')).1 = (play take s ls).1 ++ (play take (play take s ls).2 ls').1 ∧
      (play take s (ls ++ ls')).2 = (play take (play take s ls).2 ls').2 := by
  induction ls generalizing s with
  | nil => exact ⟨rfl, rfl⟩
  | cons l ls ih =>
    obtain ⟨events, state⟩ := ih ((take s l).getD s)
    exact ⟨congrArg _ events, state⟩

/-- A run of possible labels, at one of them. -/
lemma play_run_at {s : σ} {ls : List ℓ} {l : ℓ} {ls' : List ℓ}
    (can : possible take s (ls ++ l :: ls') = true) :
    let t := (play take s ls).2
    let u := (take t l).getD t
    Run (fun s l t => take s l = some t) s ((play take s ls).1 ++ ⟨t, l, u⟩ :: (play take u ls').1)
      (play take s (ls ++ l :: ls')).2 := by
  have run := play_run can
  rwa [(play_append s ls (l :: ls')).1] at run

/-- The events of some labels in a system that can always step. -/
def trace (perform : σ → ℓ → σ) (s : σ) : List ℓ → List (Event σ ℓ)
  | [] => []
  | l :: ls => ⟨s, l, perform s l⟩ :: trace perform (perform s l) ls

lemma trace_run (perform : σ → ℓ → σ) (s : σ) (ls : List ℓ) :
    Run (fun s l t => perform s l = t) s (trace perform s ls) (ls.foldl perform s) := by
  induction ls generalizing s with
  | nil => exact .nil
  | cons l ls ih => exact .cons rfl (ih _)

end Executable

end Transition
