import Mathlib.Algebra.Order.Group.Multiset
import Mathlib.Data.Multiset.UnionInter
import Mathlib.Tactic.Lemma

/-!
# Ledgers of what is opened

What a program has opened, and the calls that have ended the use of it. A ledger is balanced against what
the program still holds if everything that was opened is in one place: its use has ended, once and by the
call that belongs to its kind, or it is held. The rules are one for what is opened and one for what is
ended; the results say how often the use of something has ended.
-/

/-- Something that was opened: what it is, and how many were opened before it. -/
structure Handle (κ : Type) where
  kind : κ
  id : Nat
deriving DecidableEq, Repr

/-- A reference to something of one kind. -/
structure Ref {κ : Type} (kind : κ) where
  id : Nat
deriving DecidableEq, Repr

/-- What a reference refers to. -/
def Ref.handle {κ : Type} {kind : κ} (r : Ref kind) : Handle κ := ⟨kind, r.id⟩

/-- What was opened, and the calls that ended the use of it, oldest first. -/
structure Ledger (κ ω : Type) where
  opened : List (Handle κ) := []
  ended : List (Handle κ × ω) := []

namespace Ledger

variable {κ ω : Type}

/-- What is opened next. -/
def fresh (l : Ledger κ ω) (kind : κ) : Ref kind := ⟨l.opened.length⟩

/-- Something is opened. -/
def record (l : Ledger κ ω) (kind : κ) : Ledger κ ω :=
  { l with opened := l.opened ++ [(l.fresh kind).handle] }

/-- A call ends the use of something. -/
def finish (l : Ledger κ ω) {kind : κ} (r : Ref kind) (call : ω) : Ledger κ ω :=
  { l with ended := l.ended ++ [(r.handle, call)] }

/-- The calls that have ended the use of something. -/
def endings [DecidableEq κ] (l : Ledger κ ω) (h : Handle κ) : List ω :=
  (l.ended.filter (·.1 = h)).map Prod.snd

section Order

variable {l l' : Ledger κ ω}

/-- Everything in the ledger is in the later one. -/
structure Within (l l' : Ledger κ ω) : Prop where
  opened : l.opened ⊆ l'.opened
  ended : l.ended ⊆ l'.ended

lemma Within.refl : l.Within l := ⟨fun _ mem => mem, fun _ mem => mem⟩

lemma Within.record (within : l.Within l') (kind : κ) : l.Within (l'.record kind) where
  opened := fun _ mem => List.mem_append_left _ (within.opened mem)
  ended := within.ended

lemma Within.finish (within : l.Within l') {kind : κ} (r : Ref kind) (call : ω) :
    l.Within (l'.finish r call) where
  opened := within.opened
  ended := fun _ mem => List.mem_append_left _ (within.ended mem)

end Order

/-- What is referred to, if anything is. -/
def referred {kind : κ} (slot : Option (Ref kind)) : Multiset (Handle κ) := slot.elim 0 fun r => {r.handle}

lemma referred_eq_zero {kind : κ} {slot : Option (Ref kind)} (nothing : referred slot = 0) : slot = none := by
  cases slot with
  | none => rfl
  | some r => cases Multiset.singleton_ne_zero _ nothing

/-- Everything that was opened is held, or its use has ended by the call for its kind. -/
structure Balanced (ending : κ → ω) (held : Multiset (Handle κ)) (l : Ledger κ ω) : Prop where
  numbered : l.opened.map Handle.id = List.range l.opened.length
  accounted : (l.ended.map Prod.fst : Multiset (Handle κ)) + held = (l.opened : Multiset (Handle κ))
  proper : ∀ e ∈ l.ended, e.2 = ending e.1.kind

namespace Balanced

variable {ending : κ → ω} {held : Multiset (Handle κ)} {l l' : Ledger κ ω} {h : Handle κ}

lemma empty : Balanced ending 0 {} where
  numbered := rfl
  accounted := rfl
  proper _ mem := absurd mem List.not_mem_nil

/-- What is opened is held. -/
lemma record (balanced : Balanced ending held l) (kind : κ) :
    Balanced ending (held + {(l.fresh kind).handle}) (l.record kind) where
  numbered := by
    rw [Ledger.record, List.map_append, balanced.numbered, List.length_append]
    exact List.range_succ.symm
  accounted := by
    rw [← add_assoc, Ledger.record, ← Multiset.coe_add]
    exact congrArg (· + {(l.fresh kind).handle}) balanced.accounted
  proper := balanced.proper

/-- What was held is not held any more when the call for it has ended its use. -/
lemma finish {kind : κ} {r : Ref kind} (balanced : Balanced ending (held + {r.handle}) l) :
    Balanced ending held (l.finish r (ending kind)) where
  numbered := balanced.numbered
  accounted := by
    rw [Ledger.finish, List.map_append, ← Multiset.coe_add, add_right_comm, add_assoc]
    exact balanced.accounted
  proper e mem := by
    rcases List.mem_append.mp mem with old | new
    · exact balanced.proper e old
    · cases List.mem_singleton.mp new
      rfl

/-- Nothing is in two places. -/
lemma nodup (balanced : Balanced ending held l) :
    ((l.ended.map Prod.fst : Multiset (Handle κ)) + held).Nodup := by
  rw [balanced.accounted, Multiset.coe_nodup]
  apply List.Nodup.of_map Handle.id
  rw [balanced.numbered]
  exact List.nodup_range

/-- What was opened has its place. -/
lemma ended_or_held (balanced : Balanced ending held l) (mem : h ∈ l.opened) :
    (∃ e ∈ l.ended, e.1 = h) ∨ h ∈ held := by
  have place : h ∈ (l.ended.map Prod.fst : Multiset (Handle κ)) + held := by
    rw [balanced.accounted]
    exact mem
  rcases Multiset.mem_add.mp place with ended | holds
  · exact .inl (List.mem_map.mp ended)
  · exact .inr holds

/-- Only what was opened has a place. -/
lemma opened_of_ended (balanced : Balanced ending held l) {e : Handle κ × ω} (mem : e ∈ l.ended) :
    e.1 ∈ l.opened := by
  apply Multiset.mem_coe.mp
  rw [← balanced.accounted]
  exact Multiset.mem_add.mpr (.inl (List.mem_map_of_mem mem))

variable [DecidableEq κ]

/-- Among entries for different things, those for one of them. -/
lemma filter_entry {es : List (Handle κ × ω)} (nodup : (es.map Prod.fst).Nodup) {e : Handle κ × ω}
    (mem : e ∈ es) : es.filter (·.1 = e.1) = [e] := by
  induction es with
  | nil => cases mem
  | cons x es ih =>
    obtain ⟨new, nodup⟩ := List.nodup_cons.mp nodup
    cases mem with
    | head =>
      have others : es.filter (·.1 = e.1) = [] := by
        apply List.filter_eq_nil_iff.mpr
        intro y mem same
        apply new
        rw [← of_decide_eq_true same]
        exact List.mem_map_of_mem mem
      rw [List.filter_cons, if_pos (decide_eq_true rfl), others]
    | tail _ mem =>
      have other : x.1 ≠ e.1 := by
        intro same
        apply new
        rw [same]
        exact List.mem_map_of_mem mem
      rw [List.filter_cons_of_neg (by simpa using other)]
      exact ih nodup mem

lemma endings_of_ended (balanced : Balanced ending held l) {e : Handle κ × ω} (mem : e ∈ l.ended) :
    l.endings e.1 = [ending e.1.kind] := by
  have nodup := Multiset.coe_nodup.mp (Multiset.nodup_add.mp balanced.nodup).1
  rw [Ledger.endings, filter_entry nodup mem, List.map_singleton, balanced.proper e mem]

lemma endings_of_held (balanced : Balanced ending held l) (mem : h ∈ held) : l.endings h = [] := by
  have apart := (Multiset.nodup_add.mp balanced.nodup).2.2
  rw [Ledger.endings, List.map_eq_nil_iff, List.filter_eq_nil_iff]
  intro e ended same
  have here : h ∈ (l.ended.map Prod.fst : Multiset (Handle κ)) := by
    rw [← of_decide_eq_true same]
    exact List.mem_map_of_mem ended
  exact Multiset.disjoint_left.mp apart here mem

/-- The use of what was opened has ended once, or it is held. -/
lemma endings_or_held (balanced : Balanced ending held l) (mem : h ∈ l.opened) :
    l.endings h = [ending h.kind] ∨ l.endings h = [] ∧ h ∈ held := by
  rcases balanced.ended_or_held mem with ⟨e, ended, rfl⟩ | holds
  · exact .inl (balanced.endings_of_ended ended)
  · exact .inr ⟨balanced.endings_of_held holds, holds⟩

/-- Where nothing is held, the use of everything that was opened has ended once, and in every later ledger
    that is balanced it has ended only that once. -/
lemma endings_later (balanced : Balanced ending 0 l) (later : Balanced ending held l')
    (within : l.Within l') (mem : h ∈ l.opened) : l'.endings h = [ending h.kind] := by
  rcases balanced.ended_or_held mem with ⟨e, ended, rfl⟩ | holds
  · exact later.endings_of_ended (within.ended ended)
  · cases Multiset.notMem_zero _ holds

end Balanced

end Ledger
