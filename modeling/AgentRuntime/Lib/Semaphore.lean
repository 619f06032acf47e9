import Mathlib.Tactic.Lemma
import Mathlib.Data.List.Nodup
import Mathlib.Data.List.Pairwise

/-!
# Counting semaphores

A semaphore of cooperative tasks with a queue of waiters (Python's `asyncio.Semaphore`): a permit that is
returned is handed to the first waiter that has none, and that waiter owns it before it runs again.
Permits are conserved: those that are free and those handed to waiters change only when a caller takes
one with it or returns one (`supply`). A waiter that gives up takes none.
-/

universe u

/-- A semaphore: the free permits and the waiters in the order of their arrival, each with whether a
    permit was handed to it. -/
structure Semaphore (α : Type u) where
  value : Nat
  waiters : List (α × Bool) := []

namespace Semaphore

variable {α : Type u}

/-- A caller that comes has to wait. -/
def locked (s : Semaphore α) : Bool := s.value = 0 || !s.waiters.isEmpty

/-- A caller takes a free permit. -/
def take (s : Semaphore α) : Semaphore α := { s with value := s.value - 1 }

/-- A caller comes and waits. -/
def join (s : Semaphore α) (a : α) : Semaphore α := { s with waiters := s.waiters ++ [(a, false)] }

/-- A permit is handed to the first waiter that has none. -/
def grant : List (α × Bool) → Option (List (α × Bool))
  | [] => none
  | (a, true) :: waiters => (grant waiters).map ((a, true) :: ·)
  | (a, false) :: waiters => some ((a, true) :: waiters)

/-- Free permits are handed out while a waiter has none. -/
def wakeAll : Nat → List (α × Bool) → Semaphore α
  | 0, waiters => ⟨0, waiters⟩
  | value + 1, waiters =>
    match grant waiters with
    | some waiters' => wakeAll value waiters'
    | none => ⟨value + 1, waiters⟩

/-- A permit is returned, and handed on if a waiter has none. -/
def release (s : Semaphore α) : Semaphore α :=
  match grant s.waiters with
  | some waiters => ⟨s.value, waiters⟩
  | none => ⟨s.value + 1, s.waiters⟩

/-- A permit was handed to the waiter. -/
def Granted (s : Semaphore α) (a : α) : Prop := (a, true) ∈ s.waiters

instance [DecidableEq α] (s : Semaphore α) (a : α) : Decidable (s.Granted a) :=
  inferInstanceAs (Decidable (_ ∈ _))

/-- A waiter runs with the permit that was handed to it. -/
def resume [DecidableEq α] (s : Semaphore α) (a : α) : Semaphore α :=
  wakeAll s.value (s.waiters.erase (a, true))

/-- A waiter gives up; a permit that was handed to it is free again. -/
def cancel [DecidableEq α] (s : Semaphore α) (a : α) : Semaphore α :=
  if s.Granted a then wakeAll (s.value + 1) (s.waiters.erase (a, true))
  else wakeAll s.value (s.waiters.erase (a, false))

/-- The callers that wait. -/
def callers (s : Semaphore α) : List α := s.waiters.map Prod.fst

/-- The permits that no caller has taken with it. -/
def supply (s : Semaphore α) : Nat := s.value + s.waiters.countP Prod.snd

variable {s : Semaphore α} {a : α}

lemma grant_some {waiters waiters' : List (α × Bool)} (h : grant waiters = some waiters') :
    waiters'.map Prod.fst = waiters.map Prod.fst ∧
      waiters'.countP Prod.snd = waiters.countP Prod.snd + 1 := by
  induction waiters generalizing waiters' with
  | nil => cases h
  | cons waiter waiters ih =>
    obtain ⟨b, granted⟩ := waiter
    cases granted with
    | false =>
      cases h
      exact ⟨rfl, by simp⟩
    | true =>
      obtain ⟨more, found, rfl⟩ := Option.map_eq_some_iff.mp h
      obtain ⟨callers, count⟩ := ih found
      exact ⟨by simp [callers], by simp [count]⟩

lemma wakeAll_callers (value : Nat) (waiters : List (α × Bool)) :
    (wakeAll value waiters).callers = waiters.map Prod.fst := by
  induction value generalizing waiters with
  | zero => rfl
  | succ value ih =>
    simp only [wakeAll]
    split
    · next h => rw [ih, (grant_some h).1]
    · rfl

lemma wakeAll_supply (value : Nat) (waiters : List (α × Bool)) :
    (wakeAll value waiters).supply = value + waiters.countP Prod.snd := by
  induction value generalizing waiters with
  | zero => rfl
  | succ value ih =>
    simp only [wakeAll]
    split
    · next h =>
      rw [ih, (grant_some h).2]
      omega
    · rfl

/-- Taking a free permit takes it out of the supply. -/
lemma take_supply (free : s.locked = false) : s.take.supply + 1 = s.supply := by
  simp only [locked, Bool.or_eq_false_iff, decide_eq_false_iff_not] at free
  simp only [take, supply]
  omega

@[simp] lemma take_callers : s.take.callers = s.callers := rfl

@[simp] lemma join_supply : (s.join a).supply = s.supply := by simp [join, supply]

@[simp] lemma join_callers : (s.join a).callers = s.callers ++ [a] := by simp [join, callers]

/-- Returning a permit puts it into the supply. -/
@[simp] lemma release_supply : s.release.supply = s.supply + 1 := by
  simp only [release]
  split
  · next h =>
    simp only [supply, (grant_some h).2]
    omega
  · simp only [supply]
    omega

@[simp] lemma release_callers : s.release.callers = s.callers := by
  simp only [release]
  split
  · next h => exact (grant_some h).1
  · rfl

/-- A waiter that runs takes its permit out of the supply. -/
lemma resume_supply [DecidableEq α] (granted : s.Granted a) : (s.resume a).supply + 1 = s.supply := by
  have parts := (List.perm_cons_erase granted).countP_eq Prod.snd
  rw [resume, wakeAll_supply, supply, parts]
  simp only [List.countP_cons, if_true]
  omega

lemma resume_callers [DecidableEq α] (granted : s.Granted a) :
    s.callers.Perm (a :: (s.resume a).callers) := by
  rw [resume, wakeAll_callers]
  exact (List.perm_cons_erase granted).map Prod.fst

/-- A waiter without a permit is in the queue as one. -/
lemma mem_of_not_granted (waits : a ∈ s.callers) (ungranted : ¬ s.Granted a) :
    (a, false) ∈ s.waiters := by
  obtain ⟨⟨b, granted⟩, mem, rfl⟩ := List.mem_map.mp waits
  cases granted with
  | false => exact mem
  | true => exact absurd mem ungranted

/-- A waiter that gives up leaves the supply as it is. -/
lemma cancel_supply [DecidableEq α] (waits : a ∈ s.callers) : (s.cancel a).supply = s.supply := by
  rw [cancel]
  split
  · next granted =>
    have parts := (List.perm_cons_erase granted).countP_eq Prod.snd
    rw [wakeAll_supply, supply, parts]
    simp only [List.countP_cons, if_true]
    omega
  · next ungranted =>
    have mem := mem_of_not_granted waits ungranted
    have parts := (List.perm_cons_erase mem).countP_eq Prod.snd
    rw [wakeAll_supply, supply, parts]
    simp

lemma cancel_callers [DecidableEq α] (waits : a ∈ s.callers) :
    s.callers.Perm (a :: (s.cancel a).callers) := by
  rw [cancel]
  split
  · next granted =>
    rw [wakeAll_callers]
    exact (List.perm_cons_erase granted).map Prod.fst
  · next ungranted =>
    have mem := mem_of_not_granted waits ungranted
    rw [wakeAll_callers]
    exact (List.perm_cons_erase mem).map Prod.fst

/-- The waiters are these callers, each once. -/
structure Serves (s : Semaphore α) (waiting : α → Prop) : Prop where
  nodup : s.callers.Nodup
  waits : ∀ b, b ∈ s.callers ↔ waiting b

/-- With no waiter, the whole supply is free. -/
lemma Serves.free {waiting : α → Prop} (serves : s.Serves waiting) (none : ∀ a, ¬ waiting a) :
    s.waiters = [] ∧ s.value = s.supply := by
  have empty : s.callers = [] :=
    List.eq_nil_iff_forall_not_mem.mpr fun b mem => none b ((serves.waits b).mp mem)
  have waiters := List.map_eq_nil_iff.mp empty
  exact ⟨waiters, by simp [supply, waiters]⟩

/-- What a move of one caller does to a semaphore: with the permits that the caller has, the supply stays
    the same, and no other caller begins or ends to wait. -/
structure Moves (s s' : Semaphore α) (a : α) (held held' : Nat) (waits waits' : Prop) : Prop where
  supply : s'.supply + held' = s.supply + held
  serves : ∀ {waiting : α → Prop}, s.Serves waiting → (waiting a ↔ waits) →
    s'.Serves fun b => b = a ∧ waits' ∨ b ≠ a ∧ waiting b

namespace Moves

variable {s' : Semaphore α} {held : Nat} {waits waits' : Prop}

/-- The callers stay. -/
lemma of_callers {held' : Nat} (supply : s'.supply + held' = s.supply + held)
    (callers : s'.callers = s.callers) (same : waits' ↔ waits) :
    Moves s s' a held held' waits waits' := by
  refine ⟨supply, fun serves own => ⟨callers ▸ serves.nodup, fun b => ?_⟩⟩
  rw [callers, serves.waits, same, ← own]
  by_cases e : b = a
  · simp [e]
  · simp [e]

/-- The caller goes out of the queue. -/
lemma of_perm {held' : Nat} (supply : s'.supply + held' = s.supply + held)
    (gone : s.callers.Perm (a :: s'.callers)) (out : ¬ waits') :
    Moves s s' a held held' waits waits' := by
  refine ⟨supply, fun serves own => ?_⟩
  have nodup := gone.nodup_iff.mp serves.nodup
  rw [List.nodup_cons] at nodup
  refine ⟨nodup.2, fun b => ?_⟩
  rw [← serves.waits, gone.mem_iff, List.mem_cons]
  constructor
  · intro mem
    refine .inr ⟨?_, .inr mem⟩
    rintro rfl
    exact nodup.1 mem
  · rintro (⟨-, waits⟩ | ⟨ne, same | mem⟩)
    · exact absurd waits out
    · exact absurd same ne
    · exact mem

/-- Nothing happens to this semaphore. -/
lemma refl (same : waits' ↔ waits) : Moves s s a held held waits waits' := of_callers rfl rfl same

/-- The caller takes a free permit. -/
lemma take (free : s.locked = false) (same : waits' ↔ waits) :
    Moves s s.take a held (held + 1) waits waits' := by
  have supply := take_supply free
  exact of_callers (by omega) rfl same

/-- The caller begins to wait. -/
lemma join (out : ¬ waits) (inside : waits') : Moves s (s.join a) a held held waits waits' := by
  refine ⟨by rw [join_supply], fun {waiting} serves own => ⟨?_, fun b => ?_⟩⟩
  · have fresh : a ∉ s.callers := fun mem => out (own.mp ((serves.waits a).mp mem))
    rw [join_callers, List.nodup_append]
    refine ⟨serves.nodup, List.nodup_singleton a, ?_⟩
    rintro b mem c last rfl
    exact fresh (List.mem_singleton.mp last ▸ mem)
  · rw [join_callers, List.mem_append, List.mem_singleton, serves.waits]
    by_cases e : b = a
    · simp [e, inside]
    · simp [e]

/-- The caller returns a permit. -/
lemma release (same : waits' ↔ waits) : Moves s s.release a (held + 1) held waits waits' :=
  of_callers (by rw [release_supply]; omega) release_callers same

variable [DecidableEq α]

/-- The caller, which waited, goes on with the permit that was handed to it. -/
lemma resume (granted : s.Granted a) (out : ¬ waits') :
    Moves s (s.resume a) a held (held + 1) waits waits' := by
  have supply := resume_supply granted
  exact of_perm (by omega) (resume_callers granted) out

/-- The caller, which waited, gives up. -/
lemma cancel (queued : a ∈ s.callers) (out : ¬ waits') :
    Moves s (s.cancel a) a held held waits waits' :=
  of_perm (by rw [cancel_supply queued]) (cancel_callers queued) out

end Moves

section Turns

variable {α : Type u} {s s' : Semaphore α} {a b : α}

/-- A permit is handed to the first waiter that has none. -/
lemma grant_split {waiters waiters' : List (α × Bool)} (h : grant waiters = some waiters') :
    ∃ before a after, waiters = before ++ (a, false) :: after ∧ waiters' = before ++ (a, true) :: after ∧
      ∀ w ∈ before, w.2 = true := by
  induction waiters generalizing waiters' with
  | nil => cases h
  | cons waiter waiters ih =>
    obtain ⟨b, granted⟩ := waiter
    cases granted with
    | false =>
      cases h
      exact ⟨[], b, waiters, rfl, rfl, by simp⟩
    | true =>
      obtain ⟨more, found, rfl⟩ := Option.map_eq_some_iff.mp h
      obtain ⟨before, a, after, rfl, rfl, all⟩ := ih found
      refine ⟨(b, true) :: before, a, after, rfl, rfl, ?_⟩
      intro w mem
      rcases List.mem_cons.mp mem with rfl | mem
      · rfl
      · exact all w mem

lemma grant_none {waiters : List (α × Bool)} (h : grant waiters = none) : ∀ w ∈ waiters, w.2 = true := by
  induction waiters with
  | nil => simp
  | cons waiter waiters ih =>
    obtain ⟨b, granted⟩ := waiter
    cases granted with
    | false => cases h
    | true =>
      intro w mem
      rcases List.mem_cons.mp mem with rfl | mem
      · rfl
      · exact ih (Option.map_eq_none_iff.mp h) w mem

/-- Whoever has a permit has only waiters with one before it. -/
def InOrder (waiters : List (α × Bool)) : Prop := waiters.Pairwise fun x y => y.2 = true → x.2 = true

lemma grant_inOrder {waiters waiters' : List (α × Bool)} (ordered : InOrder waiters)
    (h : grant waiters = some waiters') : InOrder waiters' := by
  obtain ⟨before, a, after, rfl, rfl, all⟩ := grant_split h
  rw [InOrder, List.pairwise_append, List.pairwise_cons] at ordered ⊢
  obtain ⟨first, ⟨-, last⟩, -⟩ := ordered
  exact ⟨first, ⟨fun _ _ _ => rfl, last⟩, fun w mem _ _ _ => all w mem⟩

lemma grant_ungranted {waiters waiters' : List (α × Bool)} (h : grant waiters = some waiters')
    (mem : (a, false) ∈ waiters') : (a, false) ∈ waiters := by
  obtain ⟨before, b, after, rfl, rfl, -⟩ := grant_split h
  simp only [List.mem_append, List.mem_cons, Prod.mk.injEq, Bool.false_eq_true, and_false, false_or] at mem ⊢
  tauto

/-- Free permits are handed out in the order of arrival, until there are none or all have one. -/
lemma wakeAll_spec (value : Nat) {waiters : List (α × Bool)} (ordered : InOrder waiters) :
    InOrder (wakeAll value waiters).waiters ∧
      (∀ a, (a, false) ∈ (wakeAll value waiters).waiters → (a, false) ∈ waiters) ∧
      ((wakeAll value waiters).value = 0 ∨ ∀ w ∈ (wakeAll value waiters).waiters, w.2 = true) := by
  induction value generalizing waiters with
  | zero => exact ⟨ordered, fun _ mem => mem, .inl rfl⟩
  | succ value ih =>
    simp only [wakeAll]
    split
    · next h =>
      obtain ⟨ordered', ungranted, awake⟩ := ih (grant_inOrder ordered h)
      exact ⟨ordered', fun a mem => grant_ungranted h (ungranted a mem), awake⟩
    · next h => exact ⟨ordered, fun _ mem => mem, .inr (grant_none h)⟩

/-- The permits are handed out in the order of arrival, and who waits without one waits for somebody: no permit is
    free, or a waiter that has one hands out what is left when it runs. -/
structure Fair (s : Semaphore α) : Prop where
  ordered : InOrder s.waiters
  awake : ∀ a, (a, false) ∈ s.waiters → s.value = 0 ∨ ∃ b, s.Granted b

/-- What a caller does to a semaphore when nobody comes. -/
inductive Goes [DecidableEq α] (s : Semaphore α) (a : α) : Semaphore α → Prop where
  | idle :
    Goes s a s
  | take :
    s.locked = false →
    Goes s a s.take
  | release :
    Goes s a s.release
  | resume :
    s.Granted a →
    Goes s a (s.resume a)
  | cancel :
    Goes s a (s.cancel a)

lemma Fair.free (value : Nat) : Fair (⟨value, []⟩ : Semaphore α) where
  ordered := .nil
  awake a mem := by cases mem

lemma Fair.join (fair : s.Fair) (locked : s.locked = true) : (s.join a).Fair where
  ordered := by
    rw [InOrder, Semaphore.join, List.pairwise_append]
    refine ⟨fair.ordered, List.pairwise_singleton _ _, ?_⟩
    intro x _ y last
    rw [List.mem_singleton.mp last]
    simp
  awake a _ := by
    rw [Semaphore.locked, Bool.or_eq_true, decide_eq_true_eq, Bool.not_eq_true'] at locked
    rcases locked with none | some
    · exact .inl none
    · obtain ⟨⟨b, granted⟩, mem⟩ := List.exists_mem_of_ne_nil s.waiters (by simpa using some)
      cases granted with
      | true => exact .inr ⟨b, List.mem_append_left _ mem⟩
      | false =>
        obtain none | ⟨c, granted⟩ := fair.awake _ mem
        · exact .inl none
        · exact .inr ⟨c, List.mem_append_left _ granted⟩

variable [DecidableEq α]

/-- Free permits are handed out when a waiter is gone. -/
lemma Fair.woken (fair : s.Fair) (value : Nat) (w : α × Bool) :
    (wakeAll value (s.waiters.erase w)).Fair ∧
      ∀ b, (b, false) ∈ (wakeAll value (s.waiters.erase w)).waiters → (b, false) ∈ s.waiters := by
  obtain ⟨ordered, ungranted, awake⟩ := wakeAll_spec value (fair.ordered.sublist (List.erase_sublist (a := w)))
  refine ⟨⟨ordered, ?_⟩, fun b mem => List.mem_of_mem_erase (ungranted b mem)⟩
  intro b mem
  rcases awake with none | all
  · exact .inl none
  · cases all _ mem

lemma Goes.fair (goes : s.Goes a s') (fair : s.Fair) : s'.Fair := by
  cases goes with
  | idle => exact fair
  | take free =>
    rw [locked, Bool.or_eq_false_iff, Bool.not_eq_false'] at free
    refine ⟨fair.ordered, ?_⟩
    intro b mem
    rw [Semaphore.take, List.isEmpty_iff.mp free.2] at mem
    cases mem
  | release =>
    simp only [Semaphore.release]
    split
    · next h =>
      refine ⟨grant_inOrder fair.ordered h, ?_⟩
      intro b _
      obtain ⟨before, c, after, -, rfl, -⟩ := grant_split h
      exact .inr ⟨c, List.mem_append_right _ (.head _)⟩
    · next h =>
      refine ⟨fair.ordered, ?_⟩
      intro b mem
      cases grant_none h _ mem
  | resume => exact (fair.woken _ _).1
  | cancel =>
    rw [Semaphore.cancel]
    split
    · exact (fair.woken _ _).1
    · exact (fair.woken _ _).1

/-- Nobody loses the permit that it was handed. -/
lemma Goes.ungranted (goes : s.Goes a s') (fair : s.Fair) (mem : (b, false) ∈ s'.waiters) :
    (b, false) ∈ s.waiters := by
  cases goes with
  | idle => exact mem
  | take => exact mem
  | release =>
    simp only [Semaphore.release] at mem
    split at mem
    · next h => exact grant_ungranted h mem
    · exact mem
  | resume => exact (fair.woken _ _).2 b mem
  | cancel =>
    rw [Semaphore.cancel] at mem
    split at mem
    · exact (fair.woken _ _).2 b mem
    · exact (fair.woken _ _).2 b mem

lemma Goes.callers (goes : s.Goes a s') : s'.callers.Sublist s.callers := by
  have erased (value : Nat) (w : α × Bool) :
      (wakeAll value (s.waiters.erase w)).callers.Sublist s.callers := by
    rw [wakeAll_callers]
    exact (List.erase_sublist (a := w)).map _
  cases goes with
  | idle => exact .refl _
  | take => exact .refl _
  | release =>
    rw [release_callers]
  | resume => exact erased _ _
  | cancel =>
    rw [Semaphore.cancel]
    split
    · exact erased _ _
    · exact erased _ _

end Turns

end Semaphore
