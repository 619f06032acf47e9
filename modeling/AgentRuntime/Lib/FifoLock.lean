import Mathlib.Tactic.Lemma
import Mathlib.Data.List.Nodup

/-!
# Locks with a queue

A lock that serves its callers in the order in which they came: the first of the queue holds it. A system
serves a lock when the callers inside the locked section and the callers that wait are exactly the queue,
with nobody inside but the first (`Serves`). Arriving, entering and leaving keep this, and so at most one
caller is inside at any time (`Serves.unique`).
-/

universe u

/-- A lock with the callers that want it, in the order of their arrival. -/
structure FifoLock (α : Type u) where
  queue : List α := []

namespace FifoLock

variable {α : Type u}

/-- The caller is the one to be served. -/
def Holds (lock : FifoLock α) (a : α) : Prop := lock.queue.head? = some a

instance [DecidableEq α] (lock : FifoLock α) (a : α) : Decidable (lock.Holds a) :=
  inferInstanceAs (Decidable (_ = _))

/-- A caller comes. -/
def join (lock : FifoLock α) (a : α) : FifoLock α := ⟨lock.queue ++ [a]⟩

/-- A caller goes, from the inside or from the queue. -/
def leave [DecidableEq α] (lock : FifoLock α) (a : α) : FifoLock α := ⟨lock.queue.erase a⟩

/-- Who is inside holds the lock, and the others in the queue wait. -/
structure Serves (lock : FifoLock α) (inside waiting : α → Prop) : Prop where
  nodup : lock.queue.Nodup
  holder : ∀ a, inside a → lock.Holds a
  queued : ∀ a ∈ lock.queue, inside a ∨ waiting a
  waits : ∀ a, waiting a → a ∈ lock.queue

variable {lock : FifoLock α} {inside inside' waiting waiting' : α → Prop} {a b : α}

lemma Serves.empty (out : ∀ a, ¬ inside a) (idle : ∀ a, ¬ waiting a) :
    Serves (α := α) {} inside waiting where
  nodup := .nil
  holder a h := absurd h (out a)
  queued := nofun
  waits a h := absurd h (idle a)

/-- At most one caller is inside. -/
theorem Serves.unique (serves : lock.Serves inside waiting) (ha : inside a) (hb : inside b) :
    a = b :=
  Option.some.inj ((serves.holder a ha).symm.trans (serves.holder b hb))

lemma Holds.mem (holds : lock.Holds a) : a ∈ lock.queue := List.mem_of_head? holds

/-- Who is inside and who waits stays the same. -/
lemma Serves.congr (serves : lock.Serves inside waiting)
    (same : ∀ a, (inside' a ↔ inside a) ∧ (waiting' a ↔ waiting a)) : lock.Serves inside' waiting' where
  nodup := serves.nodup
  holder a inner := serves.holder a ((same a).1.mp inner)
  queued a mem := (serves.queued a mem).imp (same a).1.mpr (same a).2.mpr
  waits a outer := serves.waits a ((same a).2.mp outer)

/-- A caller that comes goes inside at once when the lock is free, and else waits. -/
lemma Serves.join (serves : lock.Serves inside waiting) (new : ¬ inside a ∧ ¬ waiting a)
    (other : ∀ b, b ≠ a → (inside' b ↔ inside b) ∧ (waiting' b ↔ waiting b))
    (now : lock.queue = [] ∧ inside' a ∨ ¬ inside' a ∧ waiting' a) :
    (lock.join a).Serves inside' waiting' := by
  have fresh : a ∉ lock.queue := fun mem => (serves.queued a mem).elim new.1 new.2
  have kept : ∀ b, b ≠ a → lock.Holds b → (lock.join a).Holds b := by
    intro b ne holds
    exact List.head?_append_of_ne_nil _ (List.ne_nil_of_mem holds.mem) |>.trans holds
  refine ⟨?_, ?_, ?_, ?_⟩
  · exact List.nodup_append.mpr ⟨serves.nodup, List.nodup_singleton a, by
      rintro b mem c last rfl
      exact fresh (List.mem_singleton.mp last ▸ mem)⟩
  · intro b inner
    by_cases e : b = a
    · subst e
      obtain ⟨free, -⟩ | ⟨out, -⟩ := now
      · rw [Holds, FifoLock.join, free]
        rfl
      · exact absurd inner out
    · exact kept b e (serves.holder b ((other b e).1.mp inner))
  · intro b mem
    by_cases e : b = a
    · subst e
      exact now.imp And.right And.right
    · obtain mem | last := List.mem_append.mp mem
      · exact (serves.queued b mem).imp (other b e).1.mpr (other b e).2.mpr
      · exact absurd (List.mem_singleton.mp last) e
  · intro b outer
    by_cases e : b = a
    · exact e ▸ List.mem_append_right _ (List.mem_singleton_self _)
    · exact List.mem_append_left _ (serves.waits b ((other b e).2.mp outer))

/-- The caller whose turn it is goes inside, or goes on there. -/
lemma Serves.enter (serves : lock.Serves inside waiting) (holds : lock.Holds a)
    (other : ∀ b, b ≠ a → (inside' b ↔ inside b) ∧ (waiting' b ↔ waiting b))
    (now : inside' a ∧ ¬ waiting' a) : lock.Serves inside' waiting' := by
  refine ⟨serves.nodup, ?_, ?_, ?_⟩
  · intro b inner
    by_cases e : b = a
    · exact e ▸ holds
    · exact serves.holder b ((other b e).1.mp inner)
  · intro b mem
    by_cases e : b = a
    · exact .inl (e ▸ now.1)
    · exact (serves.queued b mem).imp (other b e).1.mpr (other b e).2.mpr
  · intro b outer
    by_cases e : b = a
    · exact absurd (e ▸ outer) now.2
    · exact serves.waits b ((other b e).2.mp outer)

/-- A caller that goes makes room for the next one. -/
lemma Serves.leave [DecidableEq α] (serves : lock.Serves inside waiting)
    (other : ∀ b, b ≠ a → (inside' b ↔ inside b) ∧ (waiting' b ↔ waiting b))
    (gone : ¬ inside' a ∧ ¬ waiting' a) : (lock.leave a).Serves inside' waiting' := by
  have left : a ∉ lock.queue.erase a := serves.nodup.not_mem_erase
  refine ⟨serves.nodup.erase a, ?_, ?_, ?_⟩
  · intro b inner
    by_cases e : b = a
    · exact absurd (e ▸ inner) gone.1
    · have holds := serves.holder b ((other b e).1.mp inner)
      obtain ⟨more, queue⟩ := List.head?_eq_some_iff.mp holds
      rw [Holds, FifoLock.leave, queue, List.erase_cons_tail (by simpa using e)]
      rfl
  · intro b mem
    have e : b ≠ a := by
      rintro rfl
      exact left mem
    exact (serves.queued b (List.mem_of_mem_erase mem)).imp (other b e).1.mpr (other b e).2.mpr
  · intro b outer
    by_cases e : b = a
    · exact absurd (e ▸ outer) gone.2
    · exact (List.mem_erase_of_ne e).mpr (serves.waits b ((other b e).2.mp outer))

end FifoLock
