import AgentRuntime.Lib.Counting
import AgentRuntime.Lib.FifoLock
import AgentRuntime.Orchestration.System

/-!
# The gate of the conversations

Port of `ConversationGate.hold` in `orchestration/run_identity.py`, cut at its suspension points: the lock
before the body, the body, and the lock behind it. Taking the lock suspends only where another task has it
or waits for it. No task is ever suspended inside the locked sections, so a context that is left always
comes to remove its entry.
-/

namespace AgentRuntime.Orchestration
open State Transition

/-- Where a `hold` is. -/
inductive HoldPhase where
  | entering | inside | leaving | rejected | done
deriving DecidableEq, Repr

/-- A `hold` of an identity. -/
structure Hold where
  identity : RunIdentity
  phase : HoldPhase

/-- The gate with its lock, and the holds of it by number. -/
structure GateState where
  owners : ConversationGate := ∅
  lock : FifoLock Nat := {}
  holds : List Hold := []

/-- What happens to a hold that is suspended: its turn for the lock comes, it is cancelled there, or its body
    ends, with an exception (a cancellation, say) or without. -/
inductive HoldWakeup where
  | woken
  | cancelled
  | left (raised : Bool)
deriving DecidableEq

/-- One move: a new hold, or one that is suspended goes on. -/
inductive HoldMove where
  | hold (identity : RunIdentity)
  | resume (id : Nat) (wakeup : HoldWakeup)

namespace GateState

variable (s : GateState) (id : Nat) (identity : RunIdentity)

/-- The first locked section. -/
def register : GateState × HoldPhase :=
  match s.owners.enter identity with
  | none => ({ s with lock := s.lock.leave id }, .rejected)
  | some owners => ({ s with owners, lock := s.lock.leave id }, .inside)

/-- The second locked section, in the `finally` block. -/
def remove : GateState × HoldPhase :=
  ({ s with owners := s.owners.leave identity, lock := s.lock.leave id }, .done)

/-- The lock is asked for: the section follows at once when it is free. -/
def acquire (locked : GateState → GateState × HoldPhase) (waits : HoldPhase) : GateState × HoldPhase :=
  let s := { s with lock := s.lock.join id }
  if s.lock.Holds id then locked s else (s, waits)

/-- A suspended hold goes on, where it can. -/
def advance (hold : Hold) (wakeup : HoldWakeup) : Option (GateState × HoldPhase) :=
  match hold.phase, wakeup with
  | .entering, .woken =>
    if s.lock.Holds id then some (s.register id hold.identity) else none
  | .entering, .cancelled => some ({ s with lock := s.lock.leave id }, .done)
  | .inside, .left _ => some (s.acquire id (·.remove id hold.identity) .leaving)
  | .leaving, .woken =>
    if s.lock.Holds id then some (s.remove id hold.identity) else none
  -- a cancellation here would leave the entry behind
  | .leaving, .cancelled => some ({ s with lock := s.lock.leave id }, .done)
  | _, _ => none

/-- The state after a move, if it can be made. -/
def take : HoldMove → Option GateState
  | .hold identity =>
    let (s', phase) := s.acquire s.holds.length (·.register s.holds.length identity) .entering
    some { s' with holds := s.holds ++ [⟨identity, phase⟩] }
  | .resume id wakeup =>
    match s.holds[id]? with
    | some hold =>
      (s.advance id hold wakeup).map fun (s', phase) =>
        { s' with holds := s.holds.set id ⟨hold.identity, phase⟩ }
    | none => none

/-- The holds move one at a time. -/
def Step (s : GateState) (move : HoldMove) (s' : GateState) : Prop := s.take move = some s'

end GateState

/-- The hold is inside its body, in this conversation. -/
def Hold.activeIn (conversationId : String) (hold : Hold) : Bool :=
  hold.phase = .inside && hold.identity.conversationId = conversationId

namespace GateState

variable {s s' : GateState} {id : Nat} {identity : RunIdentity} {hold : Hold}
  {events : List (Event GateState HoldMove)}

/-- The bodies that are active in a conversation. -/
def bodies (s : GateState) (conversationId : String) : Nat :=
  s.holds.countP (Hold.activeIn conversationId)

/-- The event rejects a caller. -/
def Rejects (e : Event GateState HoldMove) : Prop :=
  ∃ (id : Nat) (hold : Hold), e.post.holds[id]? = some hold ∧ hold.phase = .rejected ∧
    ∀ earlier : Hold, e.pre.holds[id]? = some earlier → earlier.phase ≠ .rejected

/-- What holds of every state: nobody has the lock or waits for it, the owners are those that have an active
    body, one each, and an active body's conversation is owned by its run. -/
structure Inv (s : GateState) : Prop where
  free : s.lock = {}
  settled : ∀ hold ∈ s.holds, hold.phase ≠ .entering ∧ hold.phase ≠ .leaving
  counted : ∀ conversationId, s.bodies conversationId = (s.owners.lookup conversationId).isSome.toNat
  owned : ∀ hold ∈ s.holds, hold.phase = .inside →
    s.owners.lookup hold.identity.conversationId = some hold.identity.runId

lemma Inv.start : Inv {} where
  free := rfl
  settled _ mem := absurd mem List.not_mem_nil
  counted _ := rfl
  owned _ mem := absurd mem List.not_mem_nil

/-- A free lock is there at once. -/
lemma acquire_free (free : s.lock = {}) (locked : GateState → GateState × HoldPhase)
    (waits : HoldPhase) : s.acquire id locked waits = locked { s with lock := ⟨[id]⟩ } := by
  show (if FifoLock.Holds (s.lock.join id) id then _ else _) = _
  rw [free]
  exact if_pos rfl

lemma leave_own : FifoLock.leave ⟨[id]⟩ id = {} := by
  rw [FifoLock.leave, List.erase_cons_head]

/-- A new hold is rejected, or its body is the only one of its conversation. -/
lemma Inv.called (inv : s.Inv) (st : s.Step (.hold identity) s') : s'.Inv := by
  simp only [Step, take, acquire_free inv.free, register, Option.some.injEq] at st
  unfold ConversationGate.enter at st
  by_cases busy : (s.owners.lookup identity.conversationId).isSome = true
  · rw [if_pos busy] at st
    subst st
    refine ⟨leave_own, ?_, ?_, ?_⟩
    · intro hold mem
      obtain mem | last := List.mem_append.mp mem
      · exact inv.settled hold mem
      · rw [List.mem_singleton.mp last]
        exact ⟨nofun, nofun⟩
    · intro conversationId
      rw [← inv.counted, bodies, Counting.countP_concat]
      rfl
    · intro hold mem inside
      obtain mem | last := List.mem_append.mp mem
      · exact inv.owned hold mem inside
      · rw [List.mem_singleton.mp last] at inside
        cases inside
  · rw [if_neg busy] at st
    subst st
    have free := inv.counted identity.conversationId
    rw [Bool.eq_false_iff.mpr busy] at free
    refine ⟨leave_own, ?_, ?_, ?_⟩
    · intro hold mem
      obtain mem | last := List.mem_append.mp mem
      · exact inv.settled hold mem
      · rw [List.mem_singleton.mp last]
        exact ⟨nofun, nofun⟩
    · intro conversationId
      have before := inv.counted conversationId
      rw [bodies, Counting.countP_concat]
      rw [bodies] at before free
      rw [Dict.lookup_insert_ite]
      by_cases own : conversationId = identity.conversationId
      · subst own
        simp only [Hold.activeIn, free, decide_true, Bool.and_self, Bool.toNat_true, if_true,
          Option.isSome_some, Bool.toNat_false]
      · simp only [Hold.activeIn, before, Ne.symm own, decide_false, Bool.and_false, Bool.toNat_false,
          if_neg own, Nat.add_zero]
    · intro hold mem inside
      rw [Dict.lookup_insert_ite]
      obtain mem | last := List.mem_append.mp mem
      · -- an active body of the conversation would have owned it
        have owned := inv.owned hold mem inside
        rw [if_neg fun same => busy (by rw [← same, owned]; rfl)]
        exact owned
      · rw [List.mem_singleton.mp last, if_pos rfl]

/-- With nobody at the lock, only a body that ends can go on, and its entry is removed at once. -/
lemma advance_settled {wakeup : HoldWakeup} {result : GateState × HoldPhase} (free : s.lock = {})
    (settled : hold.phase ≠ .entering ∧ hold.phase ≠ .leaving)
    (advanced : s.advance id hold wakeup = some result) :
    hold.phase = .inside ∧
      result = ({ s with owners := s.owners.leave hold.identity, lock := {} }, .done) := by
  obtain ⟨identity, phase⟩ := hold
  cases phase with
  | entering => exact absurd rfl settled.1
  | leaving => exact absurd rfl settled.2
  | inside =>
    cases wakeup with
    | left raised =>
      simp only [advance, acquire_free free, remove, leave_own, Option.some.injEq] at advanced
      exact ⟨rfl, advanced.symm⟩
    | woken => cases advanced
    | cancelled => cases advanced
  | rejected => cases wakeup <;> cases advanced
  | done => cases wakeup <;> cases advanced

/-- The owners after a body has ended that owned its conversation. -/
lemma lookup_leave {owners : ConversationGate} (conversationId : String)
    (owned : owners.lookup identity.conversationId = some identity.runId) :
    (owners.leave identity).lookup conversationId =
      if conversationId = identity.conversationId then none else owners.lookup conversationId := by
  rw [ConversationGate.leave, if_pos owned, Dict.lookup_erase_ite]

/-- A body that ends leaves its conversation free. -/
lemma Inv.resumed {wakeup : HoldWakeup} (inv : s.Inv) (st : s.Step (.resume id wakeup) s') : s'.Inv := by
  simp only [Step, take] at st
  split at st
  · next hold found =>
    have mem := List.mem_of_getElem? found
    obtain ⟨⟨s'', phase⟩, advanced, rfl⟩ := Option.map_eq_some_iff.mp st
    obtain ⟨inside, same⟩ := advance_settled inv.free (inv.settled hold mem) advanced
    cases same
    have owned := inv.owned hold mem inside
    have counted (conversationId : String) :
        (s.holds.set id ⟨hold.identity, .done⟩).countP (Hold.activeIn conversationId) =
          ((s.owners.leave hold.identity).lookup conversationId).isSome.toNat := by
      have before := inv.counted conversationId
      have count := Counting.countP_set (Hold.activeIn conversationId) found ⟨hold.identity, .done⟩
      have gone : Hold.activeIn conversationId ⟨hold.identity, .done⟩ = false := rfl
      rw [lookup_leave conversationId owned]
      rw [bodies] at before
      by_cases own : conversationId = hold.identity.conversationId
      · have active : hold.activeIn conversationId = true := by simp [Hold.activeIn, inside, own]
        rw [active, gone, before, own, owned] at count
        rw [if_pos own, own]
        exact Nat.succ.inj count
      · have idle : hold.activeIn conversationId = false := by simp [Hold.activeIn, Ne.symm own]
        rw [idle, gone, before] at count
        rw [if_neg own]
        exact count
    refine ⟨rfl, ?_, counted, ?_⟩
    · intro other mem
      obtain mem | rfl := List.mem_or_eq_of_mem_set mem
      · exact inv.settled other mem
      · exact ⟨nofun, nofun⟩
    · intro other mem' active
      obtain mem | rfl := List.mem_or_eq_of_mem_set mem'
      · show (s.owners.leave hold.identity).lookup _ = _
        rw [lookup_leave _ owned]
        -- another body of the conversation would still be counted
        rw [if_neg fun same => ?_]
        · exact inv.owned other mem active
        · have none := counted hold.identity.conversationId
          rw [lookup_leave _ owned, if_pos rfl] at none
          have some : 0 < (s.holds.set id ⟨hold.identity, .done⟩).countP
              (Hold.activeIn hold.identity.conversationId) :=
            List.countP_pos_iff.mpr ⟨other, mem', by simp [Hold.activeIn, active, same]⟩
          rw [none] at some
          exact absurd some (Nat.lt_irrefl 0)
      · cases active
  · cases st

/-- Every move keeps the invariant. -/
lemma Inv.step {move : HoldMove} (inv : s.Inv) (st : s.Step move s') : s'.Inv := by
  cases move with
  | hold identity => exact inv.called st
  | resume id wakeup => exact inv.resumed st

/-- A move that rejects a caller leaves the owners as they are. -/
lemma rejects_owners {e : Event GateState HoldMove} (inv : e.pre.Inv) (st : e.pre.Step e.label e.post)
    (rejects : Rejects e) : e.post.owners = e.pre.owners := by
  obtain ⟨s, move, s'⟩ := e
  obtain ⟨i, hold, found, rejected, new⟩ := rejects
  dsimp only at inv st found new ⊢
  cases move with
  | hold identity =>
    simp only [Step, take, acquire_free inv.free, register, Option.some.injEq] at st
    split at st
    · subst st
      rfl
    · -- the caller was let in, and the others are where they were
      subst st
      obtain inside | beyond := Nat.lt_or_ge i s.holds.length
      · rw [List.getElem?_append_left inside] at found
        exact absurd rejected (new hold found)
      · rw [List.getElem?_append_right beyond] at found
        rw [List.mem_singleton.mp (List.mem_of_getElem? found)] at rejected
        cases rejected
  | resume id wakeup =>
    simp only [Step, take] at st
    split at st
    · next own there =>
      obtain ⟨⟨s'', phase⟩, advanced, rfl⟩ := Option.map_eq_some_iff.mp st
      obtain ⟨-, same⟩ := advance_settled inv.free (inv.settled own (List.mem_of_getElem? there)) advanced
      cases same
      by_cases e : i = id
      · subst e
        rw [List.getElem?_set_self (List.getElem?_eq_some_iff.mp there).1] at found
        cases found
        cases rejected
      · rw [List.getElem?_set_ne (Ne.symm e)] at found
        exact absurd rejected (new hold found)
    · cases st

/-- The invariant holds at the end of every run. -/
lemma Inv.run (run : Run Step {} events s) : s.Inv :=
  run.invariant (G := fun _ => True) (fun _ st _ inv => inv.step st) (fun _ _ => trivial) .start

/-- However many holds there are and however their bodies end: a conversation has at most one active body,
    a caller that is rejected leaves the owners as they are, and the owners are the conversations that have
    an active body. -/
theorem gate_exclusive (run : Run Step {} events s) :
    (∀ conversationId, s.bodies conversationId ≤ 1) ∧
      (∀ e ∈ events, Rejects e → e.post.owners = e.pre.owners) ∧
      ∀ conversationId, conversationId ∈ s.owners ↔ 0 < s.bodies conversationId := by
  have inv := Inv.run run
  refine ⟨fun conversationId => ?_, fun e mem rejects => ?_, fun conversationId => ?_⟩
  · rw [inv.counted]
    exact Bool.toNat_le _
  · have before := run.invariant_mem (I := Inv) (G := fun _ => True)
      (fun _ st _ inv => inv.step st) (fun _ _ => trivial) .start mem
    exact rejects_owners before.1 (run.step_of_mem mem) rejects
  · rw [inv.counted, ← AList.lookup_isSome]
    cases (s.owners.lookup conversationId).isSome <;> decide

/-- A run whose body ends with an exception, with another one that comes too early. -/
def overlapping : List HoldMove :=
  [.hold (sampleIdentity "5b1a2f1e-56a4-4c0e-9d3b-0a6f3f3f9c11"),
    .hold (sampleIdentity "0c9d6e0a-1f1b-4a57-8f0e-3b2a1d4c5e6f"), .resume 0 (.left true)]

/-- In the end the conversation is free. -/
theorem gate_exclusive_sample : "support" ∉ (play take {} overlapping).2.owners := by
  have run := play_run (by decide +kernel : possible take {} overlapping = true)
  rw [(gate_exclusive run).2.2]
  decide +kernel

end GateState

end AgentRuntime.Orchestration
