import AgentRuntime.Lib.Run
import AgentRuntime.Mcp.Session
import Mathlib.Logic.Function.Basic

/-!
# Concurrent handshakes

Any number of callers of `ensure_initialized` and `recover_expired` on one session manager. A move takes
one caller from its await to the next one; moves of different callers interleave in any order, and every
exchange of a handshake ends as it likes. At most one handshake is in progress, a caller that returns
leaves an initialized session, and a session that was replaced for the callers of one generation is only
replaced for them again after a caller that saw the new session expire has torn that one down.
-/

namespace AgentRuntime.Mcp
open Transition

/-- Where a caller of the session manager stands. -/
inductive Caller where
  | idle
  | waiting (why : Purpose)
  | initializing (why : Purpose)
  | notifying (why : Purpose)
  | done (result : Except McpError MCPSessionState)

namespace Caller

/-- The caller is in its handshake. -/
def Inside : Caller → Prop
  | .initializing _ | .notifying _ => True
  | _ => False

/-- The caller waits for the lock. -/
def Waits : Caller → Prop
  | .waiting _ => True
  | _ => False

/-- What the caller wants, while it waits or is in its handshake. -/
def why? : Caller → Option Purpose
  | .waiting why | .initializing why | .notifying why => some why
  | _ => none

end Caller

/-- What moves a caller: its call, its turn at the lock, the end of an exchange, or a cancellation. -/
inductive Wakeup where
  | call (why : Purpose)
  | woken
  | answered (answer : Except McpError (Json × Headers))
  | cancelled

/-- The caller recovers and has begun no handshake: it waits for the lock, or comes with this call. -/
def Comes (observed : Nat) (caller : Caller) (input : Wakeup) : Prop :=
  caller = .waiting (.recover observed) ∨ caller = .idle ∧ input = .call (.recover observed)

namespace MCPSessionManager

variable (pyRepr : Json → String)

/-- A caller that has the lock (source `ensure_initialized` and `recover_expired`, under the lock). -/
def enter (manager : MCPSessionManager) (id : Nat) (why : Purpose) : MCPSessionManager × Caller :=
  if manager.serves why then (manager.leave id, .done (.ok manager.state))
  else (manager.prepare why, .initializing why)

/-- A call of `ensure_initialized` or `recover_expired`, up to its first await. -/
def call (manager : MCPSessionManager) (id : Nat) (why : Purpose) : MCPSessionManager × Caller :=
  if why = .ensure ∧ manager.state.initialized = true then (manager, .done (.ok manager.state))
  else if manager.lock.queue = [] then (manager.join id).enter id why
  else (manager.join id, .waiting why)

/-- The handshake of the caller ends with an error. -/
def fail (manager : MCPSessionManager) (id : Nat) (error : McpError) : MCPSessionManager × Caller :=
  ((manager.failed error).leave id, .done (.error error))

/-- A caller goes on from its await, where it can. The generation that it observed is one that there
    was. -/
def advance (manager : MCPSessionManager) (id : Nat) :
    Caller → Wakeup → Option (MCPSessionManager × Caller)
  | .idle, .call .ensure => some (manager.call id .ensure)
  | .idle, .call (.recover observed) =>
    if observed ≤ manager.generation then some (manager.call id (.recover observed)) else none
  | .waiting why, .woken =>
    if manager.lock.Holds id then some (manager.enter id why) else none
  | .waiting _, .cancelled => some (manager.leave id, .done (.error .cancelled))
  | .initializing why, .answered (.ok (result, headers)) =>
    match manager.initializeReceived pyRepr result headers with
    | .ok manager' => some (manager', .notifying why)
    | .error error => some (manager.fail id error)
  | .notifying _, .answered (.ok _) =>
    some (manager.initialized.leave id, .done (.ok manager.initialized.state))
  | .initializing _, .answered (.error error) => some (manager.fail id error)
  | .notifying _, .answered (.error error) => some (manager.fail id error)
  | .initializing _, .cancelled => some (manager.fail id .cancelled)
  | .notifying _, .cancelled => some (manager.fail id .cancelled)
  | _, _ => none

section Projections

variable (manager : MCPSessionManager) (id : Nat)

@[simp] lemma join_state : (manager.join id).state = manager.state := rfl
@[simp] lemma join_generation : (manager.join id).generation = manager.generation := rfl
@[simp] lemma join_lock : (manager.join id).lock = manager.lock.join id := rfl
@[simp] lemma leave_state : (manager.leave id).state = manager.state := rfl
@[simp] lemma leave_generation : (manager.leave id).generation = manager.generation := rfl
@[simp] lemma leave_lock : (manager.leave id).lock = manager.lock.leave id := rfl
@[simp] lemma reset_state : manager.reset.state = {} := rfl
@[simp] lemma reset_generation : manager.reset.generation = manager.generation + 1 := rfl
@[simp] lemma reset_lock : manager.reset.lock = manager.lock := rfl
@[simp] lemma initialized_generation :
    manager.initialized.generation = manager.generation + 1 := rfl
@[simp] lemma initialized_lock : manager.initialized.lock = manager.lock := rfl
@[simp] lemma initialized_initialized : manager.initialized.state.initialized = true := rfl

@[simp] lemma failed_lock (error : McpError) : (manager.failed error).lock = manager.lock := by
  cases error <;> rfl

@[simp] lemma prepare_lock (why : Purpose) : (manager.prepare why).lock = manager.lock := by
  cases why <;> rfl

lemma le_failed (error : McpError) : manager.generation ≤ (manager.failed error).generation := by
  cases error <;> simp [failed]

lemma le_prepare (why : Purpose) : manager.generation ≤ (manager.prepare why).generation := by
  cases why <;> simp [prepare]

variable {manager}

lemma received_lock {pyRepr : Json → String} {result : Json} {headers : Headers}
    {manager' : MCPSessionManager}
    (received : manager.initializeReceived pyRepr result headers = .ok manager') :
    manager'.lock = manager.lock ∧ manager'.generation = manager.generation ∧
      manager'.state.initialized = false := by
  unfold initializeReceived at received
  split at received
  · split at received
    · split at received
      · cases received
      · split at received
        · cases received
        · cases received
          exact ⟨rfl, rfl, rfl⟩
    · cases received
  · cases received

end Projections

/-- The caller gets to the locked section: the lock was free when it came, or it is its turn. -/
inductive Turn (manager : MCPSessionManager) (id : Nat) :
    Caller → Wakeup → MCPSessionManager → Purpose → Prop where
  | free {why} :
    manager.lock.queue = [] →
    (∀ observed, why = .recover observed → observed ≤ manager.generation) →
    Turn manager id .idle (.call why) (manager.join id) why
  | next {why} :
    manager.lock.Holds id →
    Turn manager id (.waiting why) .woken manager why

/-- Everything that a move of a caller can do. -/
inductive Move (manager : MCPSessionManager) (id : Nat) :
    Caller → Wakeup → MCPSessionManager → Caller → Prop where
  | served :
    manager.state.initialized = true →
    Move manager id .idle (.call .ensure) manager (.done (.ok manager.state))
  | queued {why} :
    (∀ observed, why = .recover observed → observed ≤ manager.generation) →
    Move manager id .idle (.call why) (manager.join id) (.waiting why)
  | reused {caller input manager' why} :
    Turn manager id caller input manager' why →
    manager'.serves why = true →
    Move manager id caller input (manager'.leave id) (.done (.ok manager'.state))
  | entered {caller input manager' why} :
    Turn manager id caller input manager' why →
    manager'.serves why = false →
    Move manager id caller input (manager'.prepare why) (.initializing why)
  | gaveUp {why} :
    Move manager id (.waiting why) .cancelled (manager.leave id) (.done (.error .cancelled))
  | received {why result headers manager'} :
    manager.initializeReceived pyRepr result headers = .ok manager' →
    Move manager id (.initializing why) (.answered (.ok (result, headers))) manager' (.notifying why)
  | failed {caller input why error} :
    caller = .initializing why ∨ caller = .notifying why →
    Move manager id caller input ((manager.failed error).leave id) (.done (.error error))
  | succeeded {why answer} :
    Move manager id (.notifying why) (.answered (.ok answer)) (manager.initialized.leave id)
      (.done (.ok manager.initialized.state))

variable {pyRepr}

lemma enter_move {manager manager' : MCPSessionManager} {id : Nat} {caller : Caller}
    {input : Wakeup} {why : Purpose} (turn : Turn manager id caller input manager' why) :
    Move pyRepr manager id caller input (manager'.enter id why).1 (manager'.enter id why).2 := by
  unfold enter
  split
  · next serves => exact .reused turn serves
  · next other => exact .entered turn (by simpa using other)

lemma call_move {manager : MCPSessionManager} {id : Nat} {why : Purpose}
    (observed : ∀ g, why = .recover g → g ≤ manager.generation) :
    Move pyRepr manager id .idle (.call why) (manager.call id why).1 (manager.call id why).2 := by
  unfold call
  split
  · next served =>
    obtain ⟨rfl, initialized⟩ := served
    exact .served initialized
  · split
    · next free => exact enter_move (.free free observed)
    · exact .queued observed

theorem advance_move {manager : MCPSessionManager} {id : Nat} {caller : Caller} {input : Wakeup}
    {result : MCPSessionManager × Caller} (h : manager.advance pyRepr id caller input = some result) :
    Move pyRepr manager id caller input result.1 result.2 := by
  unfold advance at h
  split at h
  · cases h
    exact call_move nofun
  · split at h
    · next g le =>
      cases h
      exact call_move (by rintro _ ⟨⟩; exact le)
    · cases h
  · split at h
    · next holds =>
      cases h
      exact enter_move (.next holds)
    · cases h
  · cases h
    exact .gaveUp
  · split at h
    · next received =>
      cases h
      exact .received received
    · cases h
      exact .failed (.inl rfl)
  · cases h
    exact .succeeded
  · cases h
    exact .failed (.inl rfl)
  · cases h
    exact .failed (.inr rfl)
  · cases h
    exact .failed (.inl rfl)
  · cases h
    exact .failed (.inr rfl)
  · cases h

end MCPSessionManager

/-- The manager and everyone who calls it. -/
structure Sessions where
  manager : MCPSessionManager
  callers : Nat → Caller

/-- One caller goes on. -/
structure Go where
  id : Nat
  input : Wakeup

namespace Sessions

/-- Nobody has called the manager. -/
def start (manager : MCPSessionManager) : Sessions where
  manager := manager
  callers _ := .idle

variable (pyRepr : Json → String)

/-- The sessions after a caller went on, where it can. -/
def take (s : Sessions) (go : Go) : Option Sessions :=
  (s.manager.advance pyRepr go.id (s.callers go.id) go.input).map fun (manager, caller) =>
    { manager := manager, callers := Function.update s.callers go.id caller }

def Step (s : Sessions) (go : Go) (s' : Sessions) : Prop := s.take pyRepr go = some s'

variable {pyRepr}

/-- A step is a move of its caller, and the others stay where they are. -/
lemma Step.move {s s' : Sessions} {go : Go} (st : Step pyRepr s go s') :
    MCPSessionManager.Move pyRepr s.manager go.id (s.callers go.id) go.input s'.manager
        (s'.callers go.id) ∧
      ∀ id, id ≠ go.id → s'.callers id = s.callers id := by
  obtain ⟨result, advanced, rfl⟩ := Option.map_eq_some_iff.mp st
  refine ⟨?_, fun id ne => Function.update_of_ne ne _ _⟩
  simp only [Function.update_self]
  exact MCPSessionManager.advance_move advanced

/-- The callers in the lock's queue are in their handshake or wait, and who recovers observed an earlier
    generation. -/
structure Inv (s : Sessions) : Prop where
  serves : s.manager.lock.Serves (fun id => (s.callers id).Inside) (fun id => (s.callers id).Waits)
  waited : ∀ id observed, s.callers id = .waiting (.recover observed) →
    observed ≤ s.manager.generation
  entered : ∀ id observed, (s.callers id).Inside → (s.callers id).why? = some (.recover observed) →
    observed < s.manager.generation

lemma Inv.start {manager : MCPSessionManager} (free : manager.lock = {}) : (start manager).Inv where
  serves := by
    rw [Sessions.start, free]
    exact .empty (fun _ => id) (fun _ => id)
  waited := nofun
  entered := nofun

section Steps

variable {m m' : MCPSessionManager} {id : Nat} {caller caller' : Caller} {input : Wakeup}
  {inside waiting inside' waiting' : Nat → Prop}

open MCPSessionManager

/-- Who gets to the locked section stands first in the queue and changes nothing on its way. -/
lemma turn_serves {why : Purpose} (turn : Turn m id caller input m' why)
    (serves : m.lock.Serves inside waiting) (hin : inside id ↔ caller.Inside)
    (hwait : waiting id ↔ caller.Waits) :
    m'.lock.Serves inside (fun b => b = id ∨ waiting b) ∧ m'.lock.Holds id ∧
      m'.state = m.state ∧ m'.generation = m.generation := by
  cases turn with
  | free free _ =>
    refine ⟨?_, ?_, rfl, rfl⟩
    · refine serves.join ⟨hin.not.mpr (fun h => h), hwait.not.mpr (fun h => h)⟩ (fun b ne => ?_)
        (.inr ⟨hin.not.mpr (fun h => h), .inl rfl⟩)
      exact ⟨Iff.rfl, or_iff_right ne⟩
    · rw [join_lock, FifoLock.Holds, FifoLock.join, free]
      rfl
  | next holds =>
    have same : (fun b => b = id ∨ waiting b) = waiting := by
      funext b
      refine propext (or_iff_right_of_imp ?_)
      rintro rfl
      exact hwait.mpr trivial
    rw [same]
    exact ⟨serves, holds, rfl, rfl⟩

/-- Every move keeps the order of the lock. -/
lemma move_serves (move : Move pyRepr m id caller input m' caller')
    (serves : m.lock.Serves inside waiting) (hin : inside id ↔ caller.Inside)
    (hwait : waiting id ↔ caller.Waits) (hin' : inside' id ↔ caller'.Inside)
    (hwait' : waiting' id ↔ caller'.Waits)
    (other : ∀ b, b ≠ id → (inside' b ↔ inside b) ∧ (waiting' b ↔ waiting b)) :
    m'.lock.Serves inside' waiting' := by
  have gone (lock : FifoLock Nat) (serves : lock.Serves inside waiting)
      (out : ¬ caller'.Inside ∧ ¬ caller'.Waits) : (lock.leave id).Serves inside' waiting' :=
    serves.leave other ⟨hin'.not.mpr out.1, hwait'.not.mpr out.2⟩
  have other' : ∀ b, b ≠ id → (inside' b ↔ inside b) ∧ (waiting' b ↔ b = id ∨ waiting b) :=
    fun b ne => ⟨(other b ne).1, (other b ne).2.trans (or_iff_right ne).symm⟩
  cases move with
  | served =>
    have same : inside' = inside ∧ waiting' = waiting := by
      constructor
      · funext b
        by_cases e : b = id
        · subst e
          exact propext (hin'.trans hin.symm)
        · exact propext (other b e).1
      · funext b
        by_cases e : b = id
        · subst e
          exact propext (hwait'.trans hwait.symm)
        · exact propext (other b e).2
    rw [same.1, same.2]
    exact serves
  | queued _ =>
    exact serves.join ⟨hin.not.mpr (fun h => h), hwait.not.mpr (fun h => h)⟩ other
      (.inr ⟨hin'.not.mpr (fun h => h), hwait'.mpr trivial⟩)
  | reused turn _ =>
    obtain ⟨serves, -, -, -⟩ := turn_serves turn serves hin hwait
    exact serves.leave other' ⟨hin'.not.mpr (fun h => h), hwait'.not.mpr (fun h => h)⟩
  | entered turn _ =>
    obtain ⟨serves, holds, -, -⟩ := turn_serves turn serves hin hwait
    rw [prepare_lock]
    exact serves.enter holds other' ⟨hin'.mpr trivial, hwait'.not.mpr (fun h => h)⟩
  | gaveUp => exact gone _ serves ⟨fun h => h, fun h => h⟩
  | received received =>
    rw [(received_lock received).1]
    exact serves.enter (serves.holder id (hin.mpr trivial)) other
      ⟨hin'.mpr trivial, hwait'.not.mpr (fun h => h)⟩
  | failed _ =>
    rw [leave_lock, failed_lock]
    exact gone _ serves ⟨fun h => h, fun h => h⟩
  | succeeded => exact gone _ serves ⟨fun h => h, fun h => h⟩

/-- No move takes the generation back. -/
lemma move_generation (move : Move pyRepr m id caller input m' caller') :
    m.generation ≤ m'.generation := by
  have turned {m1 why} (turn : Turn m id caller input m1 why) : m1.generation = m.generation := by
    cases turn <;> rfl
  cases move with
  | served => exact Nat.le_refl _
  | queued => exact Nat.le_refl _
  | reused turn => exact (turned turn).ge
  | entered turn => exact (turned turn).symm.le.trans (le_prepare _ _)
  | gaveUp => exact Nat.le_refl _
  | received received => exact (received_lock received).2.1.ge
  | failed => exact le_failed _ _
  | succeeded => exact Nat.le_succ _

/-- Who joins the queue to recover has observed a generation that there was. -/
lemma move_waited {observed : Nat} (move : Move pyRepr m id caller input m' caller')
    (waits : caller' = .waiting (.recover observed)) : observed ≤ m'.generation := by
  cases move with
  | queued le =>
    cases waits
    exact le observed rfl
  | _ => cases waits

/-- Who recovers has an older generation behind it when it is in its handshake. -/
lemma move_entered {observed : Nat} (move : Move pyRepr m id caller input m' caller')
    (waited : caller = .waiting (.recover observed) → observed ≤ m.generation)
    (entered : caller.Inside → caller.why? = some (.recover observed) → observed < m.generation)
    (inside : caller'.Inside) (why : caller'.why? = some (.recover observed)) :
    observed < m'.generation := by
  cases move with
  | entered turn _ =>
    cases why
    cases turn with
    | free _ le => exact Nat.lt_succ_of_le (le observed rfl)
    | next => exact Nat.lt_succ_of_le (waited rfl)
  | received received =>
    rw [(received_lock received).2.1]
    exact entered trivial why
  | _ => cases inside

/-- Who returns leaves an initialized session, and returns its state. -/
lemma move_returns {state : MCPSessionState} (move : Move pyRepr m id caller input m' caller')
    (returns : caller' = .done (.ok state)) : m'.state = state ∧ state.initialized = true := by
  cases move with
  | served initialized =>
    cases returns
    exact ⟨rfl, initialized⟩
  | @reused _ _ manager' why turn serves =>
    cases returns
    refine ⟨rfl, ?_⟩
    cases why with
    | ensure => exact serves
    | recover => exact (Bool.and_eq_true_iff.mp serves).1
  | succeeded =>
    cases returns
    exact ⟨rfl, rfl⟩
  | _ => cases returns

/-- Who comes to recover, or has waited to, and returns at once finds a session of a later generation. -/
lemma move_reuses {observed : Nat} {state : MCPSessionState} (move : Move pyRepr m id caller input m' caller')
    (comes : Comes observed caller input)
    (waited : caller = .waiting (.recover observed) → observed ≤ m.generation)
    (returns : caller' = .done (.ok state)) :
    m.state.initialized = true ∧ observed < m.generation ∧ m'.state = m.state := by
  cases move with
  | reused turn serves =>
    obtain rfl | ⟨rfl, rfl⟩ := comes
    · cases turn
      obtain ⟨initialized, other⟩ := Bool.and_eq_true_iff.mp serves
      exact ⟨initialized, lt_of_le_of_ne (waited rfl) (Ne.symm (of_decide_eq_true other)), rfl⟩
    · cases turn with
      | free _ le =>
        obtain ⟨initialized, other⟩ := Bool.and_eq_true_iff.mp serves
        exact ⟨initialized, lt_of_le_of_ne (le observed rfl) (Ne.symm (of_decide_eq_true other)), rfl⟩
  | served => obtain wrong | ⟨-, wrong⟩ := comes <;> cases wrong
  | succeeded => obtain wrong | ⟨wrong, -⟩ := comes <;> cases wrong
  | _ => cases returns

/-- While a session is in force and nobody is in a handshake, a caller begins one only to replace the
    session that it has observed. -/
lemma move_quiet (move : Move pyRepr m id caller input m' caller')
    (initialized : m.state.initialized = true) (quiet : ¬ caller.Inside) :
    (m'.state = m.state ∧ m'.generation = m.generation ∧ ¬ caller'.Inside) ∨
      caller' = .initializing (.recover m.generation) := by
  have turned {m1 why} (turn : Turn m id caller input m1 why) :
      m1.state = m.state ∧ m1.generation = m.generation := by
    cases turn <;> exact ⟨rfl, rfl⟩
  cases move with
  | served | queued | gaveUp => exact .inl ⟨rfl, rfl, fun h => h⟩
  | reused turn =>
    obtain ⟨state, generation⟩ := turned turn
    exact .inl ⟨state, generation, fun h => h⟩
  | @entered _ _ m1 why turn other =>
    obtain ⟨state, generation⟩ := turned turn
    cases why with
    | ensure =>
      rw [MCPSessionManager.serves, state, initialized] at other
      cases other
    | recover observed =>
      rw [MCPSessionManager.serves, state, initialized, generation] at other
      have same : m.generation = observed := by simpa using other
      rw [same]
      exact .inr rfl
  | received | succeeded => exact absurd trivial quiet
  | failed handshake => obtain rfl | rfl := handshake <;> exact absurd trivial quiet

end Steps

lemma Inv.step {s s' : Sessions} {go : Go} (inv : s.Inv) (st : Step pyRepr s go s') : s'.Inv := by
  obtain ⟨move, others⟩ := st.move
  have grows := move_generation move
  refine ⟨?_, ?_, ?_⟩
  · exact move_serves move inv.serves Iff.rfl Iff.rfl Iff.rfl Iff.rfl fun b ne => by
      rw [others b ne]
      exact ⟨Iff.rfl, Iff.rfl⟩
  · intro id observed waits
    by_cases e : id = go.id
    · subst e
      exact move_waited move waits
    · rw [others id e] at waits
      exact (inv.waited id observed waits).trans grows
  · intro id observed inside why
    by_cases e : id = go.id
    · subst e
      exact move_entered move (inv.waited _ _) (inv.entered _ _) inside why
    · rw [others id e] at inside why
      exact (inv.entered id observed inside why).trans_le grows

lemma Inv.run {s s' : Sessions} {es : List (Event Sessions Go)} (inv : s.Inv)
    (run : Run (Step pyRepr) s es s') : s'.Inv :=
  run.invariant (G := fun _ => True) (fun _ st _ inv => inv.step st) (fun _ _ => trivial) inv

/-- The caller returns from a handshake that it made because it had observed the generation expire. -/
def Reinitializes (observed : Nat) (e : Event Sessions Go) : Prop :=
  e.pre.callers e.label.id = .notifying (.recover observed) ∧
    ∃ state, e.post.callers e.label.id = .done (.ok state)

/-- A caller that had observed the expiry of the session in force, which is of a later generation, tears
    it down. -/
def TearsDown (observed : Nat) (e : Event Sessions Go) : Prop :=
  e.pre.manager.state.initialized = true ∧ observed < e.pre.manager.generation ∧
    e.post.callers e.label.id = .initializing (.recover e.pre.manager.generation)

/-- The caller comes to recover, or has waited to, and returns without a handshake of its own. -/
def Reuses (observed : Nat) (e : Event Sessions Go) : Prop :=
  Comes observed (e.pre.callers e.label.id) e.label.input ∧
    ∃ state, e.post.callers e.label.id = .done (.ok state)

/-- A session that is newer than the generation is in force, and nobody is in a handshake. -/
structure Replaced (observed : Nat) (s : Sessions) : Prop where
  inv : s.Inv
  initialized : s.manager.state.initialized = true
  newer : observed < s.manager.generation
  quiet : ∀ id, ¬ (s.callers id).Inside

lemma Replaced.step {s s' : Sessions} {go : Go} {observed : Nat} (replaced : Replaced observed s)
    (st : Step pyRepr s go s') : Replaced observed s' ∨ TearsDown observed ⟨s, go, s'⟩ := by
  obtain ⟨move, others⟩ := st.move
  obtain ⟨state, generation, out⟩ | torn :=
    move_quiet move replaced.initialized (replaced.quiet go.id)
  · refine .inl ⟨replaced.inv.step st, ?_, ?_, ?_⟩
    · rw [state]
      exact replaced.initialized
    · rw [generation]
      exact replaced.newer
    · intro id
      by_cases e : id = go.id
      · exact e ▸ out
      · rw [others id e]
        exact replaced.quiet id
  · exact .inr ⟨replaced.initialized, replaced.newer, torn⟩

/-- A session that was replaced stays in force until a caller tears it down. -/
lemma Replaced.run {s s' : Sessions} {es : List (Event Sessions Go)} {observed : Nat}
    (replaced : Replaced observed s) (run : Run (Step pyRepr) s es s') :
    Replaced observed s' ∨ ∃ r ∈ es, TearsDown observed r := by
  induction run with
  | nil => exact .inl replaced
  | cons st _ ih =>
    obtain kept | torn := replaced.step st
    · exact (ih kept).imp_right fun ⟨r, mem, torn⟩ => ⟨r, .tail _ mem, torn⟩
    · exact .inr ⟨_, .head _, torn⟩

/-- A handshake that recovers leaves a newer session, and nobody else in a handshake. -/
lemma Reinitializes.replaced {observed : Nat} {e : Event Sessions Go} (inv : e.pre.Inv)
    (st : Step pyRepr e.pre e.label e.post) (reinitializes : Reinitializes observed e) :
    Replaced observed e.post := by
  obtain ⟨notifying, state, returns⟩ := reinitializes
  obtain ⟨move, others⟩ := st.move
  have inside : (e.pre.callers e.label.id).Inside := by
    rw [notifying]
    exact trivial
  have older := inv.entered e.label.id observed inside (by rw [notifying]; rfl)
  obtain ⟨same, initialized⟩ := move_returns move returns
  refine ⟨inv.step st, same ▸ initialized, older.trans_le (move_generation move), fun id inside' => ?_⟩
  by_cases e' : id = e.label.id
  · subst e'
    rw [returns] at inside'
    exact inside'
  · rw [others id e'] at inside'
    exact e' (inv.serves.unique inside' inside)

/-- One handshake at a time, success only with an initialized session, and one replacement of an expired
    session, until a caller that observed the expiry of a later one tears that one down. -/
theorem single_flight (protocolVersion clientName clientVersion : String)
    (supportedVersions : List String) {es : List (Event Sessions Go)} {s : Sessions}
    (run : Run (Step pyRepr)
      (start (.new protocolVersion clientName clientVersion supportedVersions)) es s) :
    (∀ i j, (s.callers i).Inside → (s.callers j).Inside → i = j) ∧
    (∀ e ∈ es, ∀ state, e.post.callers e.label.id = .done (.ok state) →
      e.post.manager.state = state ∧ state.initialized = true) ∧
    (∀ observed, ∀ e ∈ es, Reuses observed e → e.pre.manager.state.initialized = true ∧
      observed < e.pre.manager.generation ∧ e.post.manager.state = e.pre.manager.state) ∧
    ∀ observed xs e ys f zs, es = xs ++ e :: ys ++ f :: zs → Reinitializes observed e →
      Reinitializes observed f → ∃ r ∈ ys, TearsDown observed r := by
  have init : (start (.new protocolVersion clientName clientVersion supportedVersions)).Inv :=
    .start rfl
  have held : ∀ e ∈ es, e.pre.Inv := fun e mem =>
    (run.invariant_mem (G := fun _ => True) (fun _ st _ inv => inv.step st) (fun _ _ => trivial)
      init mem).1
  refine ⟨fun i j => (init.run run).serves.unique, ?_, ?_, ?_⟩
  · intro e mem state returns
    exact move_returns (run.step_of_mem mem).move.1 returns
  · rintro observed e mem ⟨comes, state, returns⟩
    exact move_reuses (run.step_of_mem mem).move.1 comes ((held e mem).waited _ _) returns
  · rintro observed xs e ys f zs rfl first second
    obtain ⟨t, run, tail⟩ := run.split
    obtain ⟨u, -, run⟩ := run.split
    obtain ⟨rfl, st, run⟩ := run.head
    have inv := held e (by simp)
    obtain replaced | torn := (first.replaced inv st).run run
    · obtain ⟨rfl, -, -⟩ := tail.head
      have inside : (f.pre.callers f.label.id).Inside := by
        rw [second.1]
        exact trivial
      exact absurd inside (replaced.quiet _)
    · exact torn

section Samples

/-- The caller has returned a session. -/
def returned : Caller → Bool
  | .done (.ok _) => true
  | _ => false

lemma returned_iff {caller : Caller} :
    returned caller = true ↔ ∃ state, caller = .done (.ok state) := by
  constructor
  · intro h
    unfold returned at h
    split at h
    · exact ⟨_, rfl⟩
    · cases h
  · rintro ⟨state, rfl⟩
    rfl

/-- The caller notifies the server at the end of a recovery. -/
def recovers (observed : Nat) : Caller → Bool
  | .notifying (.recover observed') => observed' = observed
  | _ => false

lemma recovers_iff {observed : Nat} {caller : Caller} :
    recovers observed caller = true ↔ caller = .notifying (.recover observed) := by
  constructor
  · intro h
    unfold recovers at h
    split at h
    · rw [of_decide_eq_true h]
    · cases h
  · rintro rfl
    exact decide_eq_true rfl

instance (observed : Nat) (e : Event Sessions Go) : Decidable (Reinitializes observed e) :=
  decidable_of_iff (recovers observed (e.pre.callers e.label.id) = true ∧
      returned (e.post.callers e.label.id) = true)
    (and_congr recovers_iff returned_iff)

/-- The caller comes to recover, or has waited to. -/
def comes (observed : Nat) : Caller → Wakeup → Bool
  | .waiting (.recover observed'), _ => observed' = observed
  | .idle, .call (.recover observed') => observed' = observed
  | _, _ => false

lemma comes_of_check {observed : Nat} {caller : Caller} {input : Wakeup}
    (check : comes observed caller input = true) : Comes observed caller input := by
  unfold comes at check
  split at check
  · rw [of_decide_eq_true check]
    exact .inl rfl
  · rw [of_decide_eq_true check]
    exact .inr ⟨rfl, rfl⟩
  · cases check

/-- A manager for examples. -/
def sampleSessions : Sessions := start (.new "2025-06-18" "client" "1" [])

/-- A step for examples. -/
def sampleTake : Sessions → Go → Option Sessions := take fun _ => ""

/-- A handshake that goes well. -/
def sampleHandshake (id : Nat) (why : Purpose) : List Go :=
  [⟨id, .call why⟩,
   ⟨id, .answered (.ok (.obj [("protocolVersion", .str "2025-06-18")], []))⟩,
   ⟨id, .answered (.ok (.null, []))⟩]

/-- Two callers observe the first session expire. One of them replaces it; another caller observes the
    expiry of the new session, and fails to replace that; then the other one comes. -/
def sampleMoves : List Go :=
  sampleHandshake 0 .ensure ++ sampleHandshake 1 (.recover 1) ++
    [⟨2, .call (.recover 3)⟩, ⟨2, .answered (.error (.transport "down"))⟩] ++
    sampleHandshake 3 (.recover 1)

/-- Two callers that observed the same generation expire both re-initialize. -/
theorem replaced_twice : ¬ ∀ (es : List (Event Sessions Go)) (s : Sessions),
    Run (Step fun _ => "") sampleSessions es s →
      ∀ observed, es.countP (fun e => Reinitializes observed e) ≤ 1 := by
  intro once
  have run := play_run (by decide +kernel : possible sampleTake sampleSessions sampleMoves = true)
  have twice : (play sampleTake sampleSessions sampleMoves).1.countP (fun e => Reinitializes 1 e) = 2 := by
    decide +kernel
  exact absurd (once _ _ run 1) (by rw [twice]; decide)

/-- Three callers observe the first session expire. One of them replaces it while another one waits; that one
    and the last, which comes when the lock is free, find the new session. -/
def sampleShared : List Go :=
  sampleHandshake 0 .ensure ++ (sampleHandshake 1 (.recover 1)).take 1 ++ ⟨2, .call (.recover 1)⟩ ::
    (sampleHandshake 1 (.recover 1)).drop 1 ++ [⟨2, .woken⟩, ⟨3, .call (.recover 1)⟩]

/-- The caller returns without a handshake of its own, which it wanted for the generation. -/
def reuses (observed id : Nat) (e : Event Sessions Go) : Bool :=
  e.label.id = id && comes observed (e.pre.callers e.label.id) e.label.input &&
    returned (e.post.callers e.label.id)

/-- The callers that share the handshake find the session that it has left. -/
theorem single_flight_sample :
    (∃ e ∈ (play sampleTake sampleSessions sampleShared).1, e.label.id = 2 ∧
      e.pre.manager.state.initialized = true ∧ 1 < e.pre.manager.generation) ∧
    ∃ e ∈ (play sampleTake sampleSessions sampleShared).1, e.label.id = 3 ∧
      e.pre.manager.state.initialized = true ∧ 1 < e.pre.manager.generation := by
  have run := play_run (by decide +kernel : possible sampleTake sampleSessions sampleShared = true)
  have shares (id : Nat) (check : (play sampleTake sampleSessions sampleShared).1.any (reuses 1 id) = true) :
      ∃ e ∈ (play sampleTake sampleSessions sampleShared).1, e.label.id = id ∧
        e.pre.manager.state.initialized = true ∧ 1 < e.pre.manager.generation := by
    obtain ⟨e, mem, found⟩ := List.any_eq_true.mp check
    obtain ⟨found, returns⟩ := Bool.and_eq_true_iff.mp found
    obtain ⟨own, wants⟩ := Bool.and_eq_true_iff.mp found
    obtain ⟨initialized, newer, -⟩ := (single_flight "2025-06-18" "client" "1" [] run).2.2.1 1 e mem
      ⟨comes_of_check wants, returned_iff.mp returns⟩
    exact ⟨e, mem, of_decide_eq_true own, initialized, newer⟩
  exact ⟨shares 2 (by decide +kernel), shares 3 (by decide +kernel)⟩

end Samples

end Sessions

end AgentRuntime.Mcp
