import AgentRuntime.Lib.Counting
import AgentRuntime.Lib.Run
import AgentRuntime.Lib.Semaphore

/-!
# Admission to the model server

Port of `llm/resource_manager.py`: `OllamaResourceManager.acquire` takes a permit of one semaphore for
every request and one of a second semaphore for a heavy request. The code is cut at its suspension
points: the two waits and the body. The state lock is only held where nothing is awaited, so taking it
never suspends. Any number of requests interleave, and each may be cancelled wherever it is suspended.
-/

namespace AgentRuntime.Llm
open Transition

/-- Where a request is suspended in `acquire`. -/
inductive Phase where
  | waitingAll | waitingHeavy | body | done
deriving DecidableEq

/-- The permits of one semaphore that were given to a request, and those that it gave back. -/
structure Permits where
  taken : Nat := 0
  returned : Nat := 0
deriving DecidableEq

/-- A call of `acquire`: its local variables, where it is, and a record of its permits. -/
structure Request where
  heavy : Bool
  acquiredAll : Bool := false
  acquiredHeavy : Bool := false
  countedAsQueued : Bool := true
  phase : Phase := .waitingAll
  allPermits : Permits := {}
  heavyPermits : Permits := {}
deriving DecidableEq

/-- source `OllamaResourceManager`; a waiter is named by the number of its request -/
structure OllamaResourceManager where
  maxConcurrency : Nat
  maxHeavyConcurrency : Nat
  all : Semaphore Nat
  heavy : Semaphore Nat
  active : Int := 0
  activeHeavy : Int := 0
  queued : Int := 0

namespace OllamaResourceManager

/-- source `OllamaResourceManager.__init__` -/
def create (ollamaMaxConcurrency ollamaHeavyMaxConcurrency : Int) : OllamaResourceManager :=
  let maxConcurrency := (max 1 ollamaMaxConcurrency).toNat
  let maxHeavyConcurrency := (max 1 ollamaHeavyMaxConcurrency).toNat
  { maxConcurrency, maxHeavyConcurrency, all := ⟨maxConcurrency, []⟩, heavy := ⟨maxHeavyConcurrency, []⟩ }

/-- With its permits, the request is counted as active and enters its body. -/
def enterBody (manager : OllamaResourceManager) (request : Request) :
    OllamaResourceManager × Request :=
  ({ manager with
      queued := manager.queued - 1
      active := manager.active + 1
      activeHeavy := if request.heavy then manager.activeHeavy + 1 else manager.activeHeavy },
    { request with countedAsQueued := false, phase := .body })

/-- The request has got the heavy permit. -/
def gotHeavy (manager : OllamaResourceManager) (request : Request) : OllamaResourceManager × Request :=
  manager.enterBody
    { request with
      acquiredHeavy := true
      heavyPermits.taken := request.heavyPermits.taken + 1 }

/-- The request has got the total permit; a heavy one goes on to the second semaphore. -/
def gotAll (manager : OllamaResourceManager) (id : Nat) (request : Request) :
    OllamaResourceManager × Request :=
  let request : Request :=
    { request with acquiredAll := true, allPermits.taken := request.allPermits.taken + 1 }
  if !request.heavy then manager.enterBody request
  else if manager.heavy.locked then
    ({ manager with heavy := manager.heavy.join id }, { request with phase := .waitingHeavy })
  else gotHeavy { manager with heavy := manager.heavy.take } request

/-- A call of `acquire`, up to its first suspension. -/
def call (manager : OllamaResourceManager) (id : Nat) (heavy : Bool) :
    OllamaResourceManager × Request :=
  let manager := { manager with queued := manager.queued + 1 }
  if manager.all.locked then ({ manager with all := manager.all.join id }, { heavy })
  else gotAll { manager with all := manager.all.take } id { heavy }

/-- The `except` block of `acquire`. -/
def uncount (manager : OllamaResourceManager) (request : Request) : OllamaResourceManager × Request :=
  if request.countedAsQueued then
    ({ manager with queued := manager.queued - 1 }, { request with countedAsQueued := false })
  else (manager, request)

/-- The first half of the `finally` block. -/
def returnHeavy (manager : OllamaResourceManager) (request : Request) :
    OllamaResourceManager × Request :=
  if request.acquiredHeavy then
    ({ manager with activeHeavy := manager.activeHeavy - 1, heavy := manager.heavy.release },
      { request with heavyPermits.returned := request.heavyPermits.returned + 1 })
  else (manager, request)

/-- The second half of the `finally` block. -/
def returnAll (manager : OllamaResourceManager) (request : Request) :
    OllamaResourceManager × Request :=
  if request.acquiredAll then
    ({ manager with
        active := if 0 < manager.active then manager.active - 1 else manager.active
        all := manager.all.release },
      { request with allPermits.returned := request.allPermits.returned + 1 })
  else (manager, request)

/-- The request leaves `acquire`, through the `except` block when an exception was raised. -/
def leave (manager : OllamaResourceManager) (request : Request) (raised : Bool) :
    OllamaResourceManager × Request :=
  let (manager, request) := if raised then manager.uncount request else (manager, request)
  let (manager, request) := manager.returnHeavy request
  let (manager, request) := manager.returnAll request
  (manager, { request with phase := .done })

end OllamaResourceManager

/-- What happens to a request that is suspended: its wait is over, it is cancelled in its wait, or its
    body ends, with an exception (a cancellation, say) or without. -/
inductive Wakeup where
  | woken
  | cancelled
  | left (raised : Bool)
deriving DecidableEq

/-- A suspended request goes on, where it can. -/
def OllamaResourceManager.advance (manager : OllamaResourceManager) (id : Nat) (request : Request)
    (wakeup : Wakeup) : Option (OllamaResourceManager × Request) :=
  match request.phase, wakeup with
  | .waitingAll, .woken =>
    if manager.all.Granted id then
      some (gotAll { manager with all := manager.all.resume id } id request)
    else none
  | .waitingHeavy, .woken =>
    if manager.heavy.Granted id then
      some (gotHeavy { manager with heavy := manager.heavy.resume id } request)
    else none
  | .waitingAll, .cancelled => some (leave { manager with all := manager.all.cancel id } request true)
  | .waitingHeavy, .cancelled =>
    some (leave { manager with heavy := manager.heavy.cancel id } request true)
  | .body, .left raised => some (manager.leave request raised)
  | _, _ => none

/-- The manager with the requests that were made of it, by number. -/
structure Admission where
  manager : OllamaResourceManager
  requests : List Request

/-- One move: a new request, for a heavy model or a light one, or a suspended request goes on. -/
inductive Move where
  | call (heavy : Bool)
  | resume (id : Nat) (wakeup : Wakeup)
deriving DecidableEq

namespace Admission

/-- The state after a move, if it can be made. -/
def take (s : Admission) : Move → Option Admission
  | .call heavy =>
    let (manager, request) := s.manager.call s.requests.length heavy
    some ⟨manager, s.requests ++ [request]⟩
  | .resume id wakeup =>
    match s.requests[id]? with
    | some request =>
      (s.manager.advance id request wakeup).map fun (manager, request) =>
        ⟨manager, s.requests.set id request⟩
    | none => none

/-- The requests move one at a time. -/
def Step (s : Admission) (move : Move) (s' : Admission) : Prop := s.take move = some s'

/-- No request was made yet. -/
def start (ollamaMaxConcurrency ollamaHeavyMaxConcurrency : Int) : Admission :=
  ⟨.create ollamaMaxConcurrency ollamaHeavyMaxConcurrency, []⟩

/-- The requests inside their bodies. -/
def bodies (s : Admission) : Nat := s.requests.countP fun request => request.phase = .body

/-- The heavy requests inside their bodies. -/
def heavyBodies (s : Admission) : Nat :=
  s.requests.countP fun request => request.phase = .body && request.heavy

end Admission

section Requests

/-- The request has a permit of the first semaphore. -/
def Request.holdsAll (request : Request) : Bool :=
  request.phase = .waitingHeavy || request.phase = .body

/-- The request has a permit of the second semaphore. -/
def Request.holdsHeavy (request : Request) : Bool := request.phase = .body && request.heavy

/-- Every permit that was given to the request was given once, and it was returned once when the request
    does not have it any more. -/
structure Request.Accounted (request : Request) : Prop where
  all_once : request.allPermits.taken ≤ 1
  all : request.allPermits.taken = request.allPermits.returned + request.holdsAll.toNat
  heavy_once : request.heavyPermits.taken ≤ 1
  heavy : request.heavyPermits.taken = request.heavyPermits.returned + request.holdsHeavy.toNat

/-- The requests that there can be: their local variables follow from where they are. -/
inductive Request.Legal : Request → Prop where
  | waitingAll (heavy : Bool) :
    Legal { heavy }
  | waitingHeavy :
    Legal { heavy := true, acquiredAll := true, phase := .waitingHeavy, allPermits := ⟨1, 0⟩ }
  | body (heavy : Bool) :
    Legal
      { heavy
        acquiredAll := true
        acquiredHeavy := heavy
        countedAsQueued := false
        phase := .body
        allPermits := ⟨1, 0⟩
        heavyPermits := ⟨heavy.toNat, 0⟩ }
  | done {request : Request} :
    request.phase = .done →
    request.Accounted →
    Legal request

lemma Request.Legal.accounted {request : Request} (legal : request.Legal) : request.Accounted := by
  cases legal with
  | waitingAll heavy => constructor <;> simp [holdsAll, holdsHeavy]
  | waitingHeavy => constructor <;> simp [holdsAll, holdsHeavy]
  | body heavy => cases heavy <;> constructor <;> simp [holdsAll, holdsHeavy]
  | done _ accounted => exact accounted

/-- A move of one request: what it does to the semaphores, and that the request stays legal. -/
structure Moved (manager manager' : OllamaResourceManager) (id : Nat) (request request' : Request) :
    Prop where
  all : Semaphore.Moves manager.all manager'.all id request.holdsAll.toNat request'.holdsAll.toNat
    (request.phase = .waitingAll) (request'.phase = .waitingAll)
  heavy : Semaphore.Moves manager.heavy manager'.heavy id request.holdsHeavy.toNat
    request'.holdsHeavy.toNat (request.phase = .waitingHeavy) (request'.phase = .waitingHeavy)
  legal : request'.Legal

variable {manager manager' : OllamaResourceManager} {id : Nat} {request request' : Request}

/-- A request that has got the total permit, by taking it or after a wait, goes on. -/
lemma gotAll_moved {all : Semaphore Nat} {before : Request} (heavy : Bool)
    (idle : before.holdsHeavy.toNat = 0) (out : before.phase ≠ .waitingHeavy)
    (got : ∀ {waits' : Prop}, ¬ waits' →
      Semaphore.Moves manager.all all id before.holdsAll.toNat 1 (before.phase = .waitingAll) waits')
    (h : OllamaResourceManager.gotAll { manager with all } id { heavy } = (manager', request')) :
    Moved manager manager' id before request' := by
  cases heavy with
  | false =>
    cases h
    refine ⟨got nofun, ?_, .body false⟩
    rw [idle]
    exact .refl (by simp [out])
  | true =>
    simp only [OllamaResourceManager.gotAll, Bool.not_true, Bool.false_eq_true, if_false] at h
    split at h
    · cases h
      refine ⟨got nofun, ?_, .waitingHeavy⟩
      rw [idle]
      exact .join out rfl
    · next free =>
      cases h
      refine ⟨got nofun, ?_, .body true⟩
      rw [idle]
      exact .take (Bool.eq_false_iff.mpr free) (by simp [out])

/-- A new request takes its permits or begins to wait. -/
lemma call_moved {heavy : Bool} (h : manager.call id heavy = (manager', request')) :
    Moved manager manager' id { heavy, phase := .done } request' := by
  simp only [OllamaResourceManager.call] at h
  split at h
  · cases h
    exact ⟨.join nofun rfl, .refl (by simp), .waitingAll heavy⟩
  · next free =>
    have moved : Moved { manager with queued := manager.queued + 1 } manager' id
        { heavy, phase := .done } request' :=
      gotAll_moved heavy rfl nofun (fun out => .take (Bool.eq_false_iff.mpr free) (by simp [out])) h
    exact ⟨moved.all, moved.heavy, moved.legal⟩

/-- A suspended request gets its permits, waits on, or returns what it has. -/
lemma advance_moved {wakeup : Wakeup} (legal : request.Legal)
    (waitsAll : request.phase = .waitingAll → id ∈ manager.all.callers)
    (waitsHeavy : request.phase = .waitingHeavy → id ∈ manager.heavy.callers)
    (h : manager.advance id request wakeup = some (manager', request')) :
    Moved manager manager' id request request' := by
  cases legal with
  | waitingAll heavy =>
    cases wakeup with
    | woken =>
      simp only [OllamaResourceManager.advance, Option.ite_none_right_eq_some, Option.some.injEq] at h
      obtain ⟨granted, h⟩ := h
      exact gotAll_moved heavy rfl nofun (fun out => .resume granted out) h
    | cancelled =>
      cases h
      exact ⟨.cancel (waitsAll rfl) nofun, .refl (by simp),
        .done rfl ⟨Nat.zero_le 1, rfl, Nat.zero_le 1, rfl⟩⟩
    | left raised => cases h
  | waitingHeavy =>
    cases wakeup with
    | woken =>
      simp only [OllamaResourceManager.advance, Option.ite_none_right_eq_some, Option.some.injEq] at h
      obtain ⟨granted, h⟩ := h
      cases h
      exact ⟨.refl (by simp), .resume granted nofun, .body true⟩
    | cancelled =>
      cases h
      exact ⟨.release (by simp), .cancel (waitsHeavy rfl) nofun,
        .done rfl ⟨Nat.le_refl 1, rfl, Nat.zero_le 1, rfl⟩⟩
    | left raised => cases h
  | body heavy =>
    cases wakeup with
    | woken => cases h
    | cancelled => cases h
    | left raised =>
      cases heavy with
      | false =>
        -- the permits are given back, whatever the body raised
        cases raised
        all_goals
          cases h
          exact ⟨.release (by simp), .refl (by simp),
            .done rfl ⟨Nat.le_refl 1, rfl, Nat.zero_le 1, rfl⟩⟩
      | true =>
        cases raised
        all_goals
          cases h
          exact ⟨.release (by simp), .release (by simp),
            .done rfl ⟨Nat.le_refl 1, rfl, Nat.le_refl 1, rfl⟩⟩
  | done finished _ =>
    simp only [OllamaResourceManager.advance, finished] at h
    cases h

end Requests

namespace Admission

variable {s s' : Admission} {events : List (Event Admission Move)} {N H : Nat}

/-- The request of this number is in this phase. -/
def At (s : Admission) (phase : Phase) (id : Nat) : Prop :=
  ∃ request, s.requests[id]? = some request ∧ request.phase = phase

/-- What holds of every state: the requests are legal, each semaphore's permits are in its supply or with
    a request, and its waiters are the requests that wait for it. -/
structure Inv (N H : Nat) (s : Admission) : Prop where
  legal : ∀ request ∈ s.requests, request.Legal
  all : s.manager.all.supply + s.requests.countP Request.holdsAll = N
  heavy : s.manager.heavy.supply + s.requests.countP Request.holdsHeavy = H
  allWaiters : s.manager.all.Serves (s.At .waitingAll)
  heavyWaiters : s.manager.heavy.Serves (s.At .waitingHeavy)

lemma Inv.start (n h : Int) :
    (start n h).Inv (max 1 n).toNat (max 1 h).toNat where
  legal := nofun
  all := by simp [Admission.start, OllamaResourceManager.create, Semaphore.supply]
  heavy := by simp [Admission.start, OllamaResourceManager.create, Semaphore.supply]
  allWaiters := ⟨.nil, fun id => by simp [Admission.start, OllamaResourceManager.create,
    Semaphore.callers, At]⟩
  heavyWaiters := ⟨.nil, fun id => by simp [Admission.start, OllamaResourceManager.create,
    Semaphore.callers, At]⟩

/-- The invariant passes over the move of a request that is there. -/
lemma Inv.moved {manager : OllamaResourceManager} {id : Nat} {request request' : Request}
    (inv : s.Inv N H) (found : s.requests[id]? = some request)
    (moved : Moved s.manager manager id request request') :
    Inv N H ⟨manager, s.requests.set id request'⟩ := by
  have at_set (phase : Phase) (j : Nat) :
      At ⟨manager, s.requests.set id request'⟩ phase j ↔
        j = id ∧ request'.phase = phase ∨ j ≠ id ∧ s.At phase j := by
    have inside := (List.getElem?_eq_some_iff.mp found).1
    by_cases e : j = id
    · subst e
      simp [At, List.getElem?_set_self inside]
    · simp [At, List.getElem?_set_ne (Ne.symm e), e]
  have own (phase : Phase) : s.At phase id ↔ request.phase = phase := by simp [At, found]
  have all := Counting.countP_set Request.holdsAll found request'
  have heavy := Counting.countP_set Request.holdsHeavy found request'
  have allSupply := moved.all.supply
  have heavySupply := moved.heavy.supply
  have before := inv.all
  have before' := inv.heavy
  refine ⟨fun r mem => ?_, ?_, ?_, ?_, ?_⟩
  · obtain mem | rfl := List.mem_or_eq_of_mem_set mem
    · exact inv.legal r mem
    · exact moved.legal
  · dsimp only
    omega
  · dsimp only
    omega
  · have serves := moved.all.serves inv.allWaiters (own _)
    exact ⟨serves.nodup, fun j => by rw [at_set, serves.waits]⟩
  · have serves := moved.heavy.serves inv.heavyWaiters (own _)
    exact ⟨serves.nodup, fun j => by rw [at_set, serves.waits]⟩

/-- The invariant passes over a new request. -/
lemma Inv.called {manager : OllamaResourceManager} {request : Request} {heavy : Bool}
    (inv : s.Inv N H)
    (moved : Moved s.manager manager s.requests.length { heavy, phase := .done } request) :
    Inv N H ⟨manager, s.requests ++ [request]⟩ := by
  have at_append (phase : Phase) (j : Nat) :
      At ⟨manager, s.requests ++ [request]⟩ phase j ↔
        j = s.requests.length ∧ request.phase = phase ∨ j ≠ s.requests.length ∧ s.At phase j := by
    by_cases e : j = s.requests.length
    · simp [At, e]
    · simp only [At, e, false_and, ne_eq, not_false_eq_true, true_and, false_or]
      obtain inside | beyond := Nat.lt_or_gt_of_ne e
      · rw [List.getElem?_append_left inside]
      · rw [List.getElem?_eq_none (by simp; omega), List.getElem?_eq_none (by omega)]
  have own (phase : Phase) (other : phase ≠ .done) :
      s.At phase s.requests.length ↔ Phase.done = phase := by
    simp [At, Ne.symm other]
  have allSupply := moved.all.supply
  have heavySupply := moved.heavy.supply
  have before := inv.all
  have before' := inv.heavy
  have none : Request.holdsAll { heavy, phase := .done } = false := rfl
  have none' : Request.holdsHeavy { heavy, phase := .done } = false := rfl
  rw [none, Bool.toNat_false] at allSupply
  rw [none', Bool.toNat_false] at heavySupply
  refine ⟨fun r mem => ?_, ?_, ?_, ?_, ?_⟩
  · obtain mem | last := List.mem_append.mp mem
    · exact inv.legal r mem
    · rw [List.mem_singleton.mp last]
      exact moved.legal
  · dsimp only
    rw [Counting.countP_concat]
    omega
  · dsimp only
    rw [Counting.countP_concat]
    omega
  · have serves := moved.all.serves inv.allWaiters (own _ Phase.noConfusion)
    exact ⟨serves.nodup, fun j => by rw [at_append, serves.waits]⟩
  · have serves := moved.heavy.serves inv.heavyWaiters (own _ Phase.noConfusion)
    exact ⟨serves.nodup, fun j => by rw [at_append, serves.waits]⟩

/-- Every move keeps the invariant. -/
lemma Inv.step {move : Move} (inv : s.Inv N H) (st : Step s move s') : s'.Inv N H := by
  cases move with
  | call heavy =>
    cases st
    exact inv.called (call_moved rfl)
  | resume id wakeup =>
    simp only [Step, take] at st
    split at st
    · next request found =>
      obtain ⟨⟨manager, request'⟩, advanced, rfl⟩ := Option.map_eq_some_iff.mp st
      have legal := inv.legal request (List.mem_of_getElem? found)
      refine inv.moved found (advance_moved legal (fun phase => ?_) (fun phase => ?_) advanced)
      · exact (inv.allWaiters.waits id).mpr ⟨request, found, phase⟩
      · exact (inv.heavyWaiters.waits id).mpr ⟨request, found, phase⟩
    · cases st

/-- The invariant holds at the end of every run. -/
lemma Inv.run (run : Run Step s events s') (inv : s.Inv N H) : s'.Inv N H :=
  run.invariant (G := fun _ => True) (fun _ st _ inv => inv.step st) (fun _ _ => trivial) inv

/-- However many requests come, wait, are cancelled and leave: no more of them are in their bodies than
    the limits allow, each permit that was taken is returned once, and when all are done both semaphores
    are as they were at the beginning. -/
theorem admission_controlled {ollamaMaxConcurrency ollamaHeavyMaxConcurrency : Int}
    (run : Run Step (start ollamaMaxConcurrency ollamaHeavyMaxConcurrency) events s) :
    s.bodies ≤ (max 1 ollamaMaxConcurrency).toNat ∧
      s.heavyBodies ≤ (max 1 ollamaHeavyMaxConcurrency).toNat ∧
      (∀ request ∈ s.requests, request.Accounted) ∧
      ((∀ request ∈ s.requests, request.phase = .done) →
        s.manager.all = ⟨(max 1 ollamaMaxConcurrency).toNat, []⟩ ∧
        s.manager.heavy = ⟨(max 1 ollamaHeavyMaxConcurrency).toNat, []⟩) := by
  have inv := Inv.run run (.start ollamaMaxConcurrency ollamaHeavyMaxConcurrency)
  have all := inv.all
  have heavy := inv.heavy
  refine ⟨?_, ?_, fun request mem => (inv.legal request mem).accounted, fun finished => ?_⟩
  · have fewer : s.bodies ≤ s.requests.countP Request.holdsAll :=
      List.countP_mono_left fun request _ inside => by simp_all [Request.holdsAll]
    omega
  · have fewer : s.heavyBodies ≤ s.requests.countP Request.holdsHeavy :=
      List.countP_mono_left fun request _ inside => by simp_all [Request.holdsHeavy]
    omega
  · have out (phase : Phase) (other : phase ≠ .done) (id : Nat) : ¬ s.At phase id := by
      rintro ⟨request, found, same⟩
      exact other (same.symm.trans (finished request (List.mem_of_getElem? found)))
    have none (p : Request → Bool) (never : ∀ request, request.phase = .done → p request = false) :
        s.requests.countP p = 0 := by
      rw [List.countP_eq_zero]
      intro request mem
      rw [never request (finished request mem)]
      exact Bool.false_ne_true
    have noAll := none Request.holdsAll fun request phase => by simp [Request.holdsAll, phase]
    have noHeavy := none Request.holdsHeavy fun request phase => by simp [Request.holdsHeavy, phase]
    obtain ⟨allEmpty, allFree⟩ := inv.allWaiters.free (out _ nofun)
    obtain ⟨heavyEmpty, heavyFree⟩ := inv.heavyWaiters.free (out _ nofun)
    refine ⟨?_, ?_⟩
    · have value : s.manager.all.value = (max 1 ollamaMaxConcurrency).toNat := by omega
      rw [← value, ← allEmpty]
    · have value : s.manager.heavy.value = (max 1 ollamaHeavyMaxConcurrency).toNat := by omega
      rw [← value, ← heavyEmpty]

/-- A heavy request in its body, a light one that is cancelled while it waits for the only slot, and a
    heavy one that takes the slot over. -/
def sampleMoves : List Move :=
  [.call true, .call false, .call true, .resume 1 .cancelled, .resume 0 (.left true), .resume 2 .woken,
    .resume 2 (.left false)]

theorem admission_controlled_sample :
    (play take (start 1 1) sampleMoves).2.manager.all = ⟨1, []⟩ ∧
      (play take (start 1 1) sampleMoves).2.manager.heavy = ⟨1, []⟩ := by
  have run := play_run (by decide +kernel : possible take (start 1 1) sampleMoves = true)
  exact (admission_controlled run).2.2.2 (by decide +kernel)

end Admission

end AgentRuntime.Llm
