import AgentRuntime.Lib.Run
import Mathlib.Data.List.Pairwise
import Mathlib.Logic.Function.Basic

/-!
# Fenced leases

An abstract table of leases with fencing tokens, over any types of keys `κ`, owners `ω` and expiry
times `τ`. A key counts the tokens it has handed out and holds one grant at most. A grant takes the
next token, an extension moves the expiry of the grant in force, and dropping a grant that is not in
force does nothing.

The results are the ones a client of such a lock relies on: tokens only grow (`Run.tokens_pairwise`),
a grant that is out of force stays so (`OutOfForce.run`), and a grant is in force after a run exactly
when nothing superseded or dropped it, with the expiry of its last extension (`Run.fate`).
-/

namespace Fencing
open Transition

universe u v w

variable {κ : Type u} {ω : Type v} {τ : Type w}

/-- A grant in force: its owner, its token and its expiry. -/
structure Grant (ω : Type v) (τ : Type w) where
  owner : ω
  token : Nat
  expires : τ

/-- The last token of every key, and the grant in force for it. -/
structure Table (κ : Type u) (ω : Type v) (τ : Type w) where
  last : κ → Nat
  held : κ → Option (Grant ω τ)

/-- What can happen to a table. -/
inductive Action (κ : Type u) (ω : Type v) (τ : Type w) where
  | grant (key : κ) (owner : ω) (expires : τ)
  | extend (key : κ) (owner : ω) (token : Nat) (expires : τ)
  | drop (key : κ) (owner : ω) (token : Nat)
  | idle

/-- The grant of `key` in force is the one of `owner` with `token`. -/
def Table.InForce (T : Table κ ω τ) (key : κ) (owner : ω) (token : Nat) : Prop :=
  ∃ g, T.held key = some g ∧ g.owner = owner ∧ g.token = token

variable [DecidableEq κ]

open Classical in
/-- The effect of an action. -/
noncomputable def Table.apply (T : Table κ ω τ) : Action κ ω τ → Table κ ω τ
  | .grant key owner expires =>
    { last := Function.update T.last key (T.last key + 1)
      held := Function.update T.held key (some ⟨owner, T.last key + 1, expires⟩) }
  | .extend key owner token expires =>
    if T.InForce key owner token then
      { T with held := Function.update T.held key (some ⟨owner, token, expires⟩) }
    else T
  | .drop key owner token =>
    if T.InForce key owner token then { T with held := Function.update T.held key none } else T
  | .idle => T

/-- The step relation of a table. -/
def Step (T : Table κ ω τ) (a : Action κ ω τ) (T' : Table κ ω τ) : Prop :=
  T' = T.apply a

/-- A table is well-formed when every grant in force has the last token of its key. -/
def Table.WellFormed (T : Table κ ω τ) : Prop :=
  ∀ key g, T.held key = some g → g.token = T.last key

/-- The grant of `owner` with `token`, which was handed out, is not in force. -/
structure OutOfForce (key : κ) (owner : ω) (token : Nat) (T : Table κ ω τ) : Prop where
  handedOut : token ≤ T.last key
  gone : ¬ T.InForce key owner token

section Effects

variable (T : Table κ ω τ) (k : κ) (o : ω) (n : Nat) (x : τ)

@[simp] lemma Table.apply_idle : T.apply .idle = T := rfl

@[simp] lemma Table.grant_last :
    (T.apply (.grant k o x)).last = Function.update T.last k (T.last k + 1) := rfl

@[simp] lemma Table.grant_held :
    (T.apply (.grant k o x)).held = Function.update T.held k (some ⟨o, T.last k + 1, x⟩) := rfl

@[simp] lemma Table.extend_last : (T.apply (.extend k o n x)).last = T.last := by
  simp only [Table.apply]
  split <;> rfl

@[simp] lemma Table.drop_last : (T.apply (.drop k o n)).last = T.last := by
  simp only [Table.apply]
  split <;> rfl

/-- Extending the grant in force. -/
lemma Table.apply_extend {T : Table κ ω τ} {k o n} (h : T.InForce k o n) :
    T.apply (.extend k o n x) = { T with held := Function.update T.held k (some ⟨o, n, x⟩) } := by
  simp only [Table.apply]
  rw [if_pos h]

/-- Extending another grant does nothing. -/
lemma Table.apply_extend_of_not {T : Table κ ω τ} {k o n} (h : ¬ T.InForce k o n) :
    T.apply (.extend k o n x) = T := by
  simp only [Table.apply]
  rw [if_neg h]

/-- Dropping the grant in force. -/
lemma Table.apply_drop {T : Table κ ω τ} {k o n} (h : T.InForce k o n) :
    T.apply (.drop k o n) = { T with held := Function.update T.held k none } := by
  simp only [Table.apply]
  rw [if_pos h]

/-- Dropping another grant does nothing. -/
lemma Table.apply_drop_of_not {T : Table κ ω τ} {k o n} (h : ¬ T.InForce k o n) :
    T.apply (.drop k o n) = T := by
  simp only [Table.apply]
  rw [if_neg h]

end Effects

/-- What is held after an action: what was held before, a new grant, or the grant in force with
    another expiry. -/
lemma Table.held_of_apply {T : Table κ ω τ} {a : Action κ ω τ} {key g}
    (h : (T.apply a).held key = some g) :
    T.held key = some g ∨
    (g.token = T.last key + 1 ∧ (T.apply a).last key = T.last key + 1) ∨
    (T.InForce key g.owner g.token ∧ (T.apply a).last = T.last) := by
  cases a with
  | grant k o x =>
    rw [Table.grant_held, Function.update_apply] at h
    split at h
    · next e =>
      subst e
      cases h
      exact .inr (.inl ⟨rfl, by simp⟩)
    · exact .inl h
  | extend k o n x =>
    by_cases inForce : T.InForce k o n
    · simp only [Table.apply_extend x inForce, Function.update_apply] at h
      split at h
      · next e =>
        subst e
        cases h
        exact .inr (.inr ⟨inForce, by simp⟩)
      · exact .inl h
    · rw [Table.apply_extend_of_not x inForce] at h
      exact .inl h
  | drop k o n =>
    by_cases inForce : T.InForce k o n
    · simp only [Table.apply_drop inForce, Function.update_apply] at h
      split at h
      · cases h
      · exact .inl h
    · rw [Table.apply_drop_of_not inForce] at h
      exact .inl h
  | idle => exact .inl h

/-- A token counter never goes back. -/
lemma Table.last_le_apply (T : Table κ ω τ) (a : Action κ ω τ) (key : κ) :
    T.last key ≤ (T.apply a).last key := by
  cases a with
  | grant k o x =>
    rw [Table.grant_last, Function.update_apply]
    split
    · next e =>
      subst e
      exact Nat.le_succ _
    · exact Nat.le_refl _
  | extend k o n x => exact Nat.le_of_eq (by rw [Table.extend_last])
  | drop k o n => exact Nat.le_of_eq (by rw [Table.drop_last])
  | idle => exact Nat.le_refl _

/-- Only a grant of the key moves its token counter. -/
lemma Table.apply_last_of_held {T : Table κ ω τ} {a : Action κ ω τ} {key g}
    (wf : T.WellFormed) (before : T.held key = some g) (after : (T.apply a).held key = some g) :
    (T.apply a).last key = T.last key := by
  have token := wf key g before
  cases a with
  | grant k o x =>
    rw [Table.grant_held, Function.update_apply] at after
    rw [Table.grant_last, Function.update_apply]
    split at after
    · next e =>
      subst e
      cases after
      simp only at token
      omega
    · next e => rw [if_neg e]
  | extend k o n x => rw [Table.extend_last]
  | drop k o n => rw [Table.drop_last]
  | idle => rfl

/-- Actions keep a table well-formed. -/
lemma Table.WellFormed.apply {T : Table κ ω τ} (wf : T.WellFormed) (a : Action κ ω τ) :
    (T.apply a).WellFormed := by
  intro key g hg
  rcases Table.held_of_apply hg with before | ⟨token, last⟩ | ⟨⟨g', hg', -, same⟩, last⟩
  · rw [Table.apply_last_of_held wf before hg]
    exact wf key g before
  · rw [token, last]
  · rw [last, ← same]
    exact wf key g' hg'

/-- A grant that is out of force stays so. -/
lemma OutOfForce.apply {key owner token} {T : Table κ ω τ} (h : OutOfForce key owner token T)
    (a : Action κ ω τ) : OutOfForce key owner token (T.apply a) where
  handedOut := Nat.le_trans h.handedOut (T.last_le_apply a key)
  gone := by
    rintro ⟨g, hg, rfl, rfl⟩
    rcases Table.held_of_apply hg with before | ⟨next, -⟩ | ⟨inForce, -⟩
    · exact h.gone ⟨g, before, rfl, rfl⟩
    · have := h.handedOut
      omega
    · exact h.gone inForce

/-- A grant that is out of force stays so over a run. -/
lemma OutOfForce.run {key owner token} {T T' : Table κ ω τ} {es}
    (h : OutOfForce key owner token T) (run : Run Step T es T') : OutOfForce key owner token T' :=
  run.invariant (G := fun _ => True) (fun e st _ out => by rw [st]; exact out.apply e.label)
    (fun _ _ => trivial) h

/-- The token that an event hands out for a key. -/
def tokenFor (key : κ) (e : Event (Table κ ω τ) (Action κ ω τ)) : Option Nat :=
  match e.label with
  | .grant key' _ _ => if key' = key then some (e.pre.last key + 1) else none
  | _ => none

/-- Tokens of a key are handed out in strictly increasing order, all above its last one. -/
lemma Run.tokens_pairwise {T T' : Table κ ω τ} {es} (run : Run Step T es T') (key : κ) :
    (es.filterMap (tokenFor key)).Pairwise (· < ·) ∧
      ∀ n ∈ es.filterMap (tokenFor key), T.last key < n := by
  induction run with
  | nil => simp
  | @cons T a T1 es T' st _ ih =>
    obtain ⟨ordered, above⟩ := ih
    have mono : T.last key ≤ T1.last key := by
      rw [st]
      exact T.last_le_apply a key
    rw [List.filterMap_cons]
    split
    · exact ⟨ordered, fun n hn => Nat.lt_of_le_of_lt mono (above n hn)⟩
    · next n hn =>
      have next : T.last key < n ∧ T1.last key = n := by
        cases a with
        | grant key' owner expires =>
          simp only [tokenFor] at hn
          split at hn
          · next e =>
            cases hn
            subst e
            rw [st]
            simp
          · cases hn
        | _ => cases hn
      refine ⟨List.pairwise_cons.mpr ⟨fun m hm => next.2 ▸ above m hm, ordered⟩, ?_⟩
      intro m hm
      cases hm with
      | head => exact next.1
      | tail _ hm => exact Nat.lt_of_le_of_lt mono (above m hm)

/-- The action ends the grant of `owner` with `token`: a later grant of the key, or its drop. -/
def Ends (key : κ) (owner : ω) (token : Nat) : Action κ ω τ → Prop
  | .grant key' _ _ => key' = key
  | .drop key' owner' token' => key' = key ∧ owner' = owner ∧ token' = token
  | _ => False

open Classical in
/-- The expiry of a grant after some events: the one of its last extension. -/
noncomputable def expiryAfter (key : κ) (owner : ω) (token : Nat) (expires : τ) :
    List (Event (Table κ ω τ) (Action κ ω τ)) → τ
  | [] => expires
  | e :: es =>
    match e.label with
    | .extend key' owner' token' expires' =>
      if key' = key ∧ owner' = owner ∧ token' = token then
        expiryAfter key owner token expires' es
      else expiryAfter key owner token expires es
    | _ => expiryAfter key owner token expires es

omit [DecidableEq κ] in
/-- Another grant in force is one of another key. -/
lemma Table.InForce.key_ne {T : Table κ ω τ} {key owner token expires key' owner' token'}
    (h : T.InForce key' owner' token') (held : T.held key = some ⟨owner, token, expires⟩)
    (ne : ¬ (key' = key ∧ owner' = owner ∧ token' = token)) : key ≠ key' := by
  rintro rfl
  obtain ⟨g, hg, rfl, rfl⟩ := h
  cases held.symm.trans hg
  exact ne ⟨rfl, rfl, rfl⟩

/-- What an action does to a grant in force: nothing ends it and it keeps or moves its expiry, or it
    is out of force. -/
lemma Table.apply_held {T : Table κ ω τ} (wf : T.WellFormed) {key owner token expires}
    (held : T.held key = some ⟨owner, token, expires⟩) (a : Action κ ω τ) :
    (Ends key owner token a ∧ OutOfForce key owner token (T.apply a)) ∨
    (¬ Ends key owner token a ∧ ∃ expires',
      (T.apply a).held key = some ⟨owner, token, expires'⟩ ∧
      ∀ es u, expiryAfter key owner token expires (⟨T, a, u⟩ :: es) =
        expiryAfter key owner token expires' es) := by
  have last : token = T.last key := wf key _ held
  have inForce : T.InForce key owner token := ⟨_, held, rfl, rfl⟩
  cases a with
  | grant key' owner' expires' =>
    by_cases e : key' = key
    · subst e
      -- a new grant of the key takes a higher token
      refine .inl ⟨rfl, ⟨by simp only [Table.grant_last, Function.update_self]; omega, ?_⟩⟩
      rintro ⟨g, hg, -, ht⟩
      rw [Table.grant_held, Function.update_self] at hg
      cases hg
      simp only at ht
      omega
    · refine .inr ⟨e, expires, ?_, fun _ _ => rfl⟩
      rw [Table.grant_held, Function.update_of_ne (Ne.symm e), held]
  | extend key' owner' token' expires' =>
    refine .inr ⟨nofun, ?_⟩
    by_cases e : key' = key ∧ owner' = owner ∧ token' = token
    · refine ⟨expires', ?_, fun es u => by simp only [expiryAfter]; rw [if_pos e]⟩
      obtain ⟨rfl, rfl, rfl⟩ := e
      simp only [Table.apply_extend _ inForce, Function.update_self]
    · refine ⟨expires, ?_, fun es u => by simp only [expiryAfter]; rw [if_neg e]⟩
      by_cases other : T.InForce key' owner' token'
      · simp only [Table.apply_extend _ other]
        rw [Function.update_of_ne (other.key_ne held e), held]
      · rw [Table.apply_extend_of_not _ other, held]
  | drop key' owner' token' =>
    by_cases e : key' = key ∧ owner' = owner ∧ token' = token
    · refine .inl ⟨e, ?_⟩
      obtain ⟨rfl, rfl, rfl⟩ := e
      refine ⟨Nat.le_of_eq (by rw [Table.drop_last, last]), ?_⟩
      rintro ⟨g, hg, -, -⟩
      simp only [Table.apply_drop inForce, Function.update_self] at hg
      cases hg
    · refine .inr ⟨e, expires, ?_, fun _ _ => rfl⟩
      by_cases other : T.InForce key' owner' token'
      · simp only [Table.apply_drop other]
        rw [Function.update_of_ne (other.key_ne held e), held]
      · rw [Table.apply_drop_of_not other, held]
  | idle => exact .inr ⟨nofun, expires, held, fun _ _ => rfl⟩

/-- The fate of a grant in force: after a run that never ends it, it is in force with the expiry of
    its last extension; otherwise it is out of force. -/
theorem Run.fate {T T' : Table κ ω τ} {es} (run : Run Step T es T') (wf : T.WellFormed)
    {key owner token expires} (held : T.held key = some ⟨owner, token, expires⟩) :
    ((∀ e ∈ es, ¬ Ends key owner token e.label) ∧
      T'.held key = some ⟨owner, token, expiryAfter key owner token expires es⟩) ∨
    ((∃ e ∈ es, Ends key owner token e.label) ∧ OutOfForce key owner token T') := by
  induction run generalizing expires with
  | nil => exact .inl ⟨nofun, held⟩
  | @cons T a T1 es T' st rest ih =>
    obtain rfl := st
    rcases Table.apply_held wf held a with ⟨ends, out⟩ | ⟨lives, expires', held', expiry⟩
    · exact .inr ⟨⟨_, .head _, ends⟩, out.run rest⟩
    · rcases ih (wf.apply a) held' with ⟨none, after⟩ | ⟨⟨e, he, ends⟩, out⟩
      · refine .inl ⟨?_, ?_⟩
        · intro e he
          cases he with
          | head => exact lives
          | tail _ he => exact none e he
        · rw [expiry]
          exact after
      · exact .inr ⟨⟨e, .tail _ he, ends⟩, out⟩

end Fencing
