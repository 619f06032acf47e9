import AgentRuntime.Llm.ResourceManager

/-!
# Nobody waits in vain

Requests for the model server are served in the order in which they come, and they never wait for each other in a
circle, although a heavy request waits for its second permit while it has the first.
-/

namespace AgentRuntime.Llm
open Transition

section Moves

variable {manager manager' : OllamaResourceManager} {id : Nat} {request request' : Request}

/-- What becomes of the second semaphore: nobody comes, or the request does and has to wait. -/
def GoesOrJoins (s s' : Semaphore Nat) (id : Nat) : Prop := s.Goes id s' ∨ s.locked = true ∧ s' = s.join id

lemma GoesOrJoins.fair {s s' : Semaphore Nat} (turned : GoesOrJoins s s' id) (fair : s.Fair) : s'.Fair := by
  rcases turned with goes | ⟨locked, rfl⟩
  · exact goes.fair fair
  · exact fair.join locked

lemma gotAll_heavy {heavy : Bool} (h : manager.gotAll id { heavy } = (manager', request')) :
    manager'.all = manager.all ∧ GoesOrJoins manager.heavy manager'.heavy id := by
  cases heavy with
  | false =>
    cases h
    exact ⟨rfl, .inl .idle⟩
  | true =>
    simp only [OllamaResourceManager.gotAll, Bool.not_true, Bool.false_eq_true, if_false] at h
    split at h
    · next locked =>
      cases h
      exact ⟨rfl, .inr ⟨locked, rfl⟩⟩
    · next free =>
      cases h
      exact ⟨rfl, .inl (.take (Bool.eq_false_iff.mpr free))⟩

/-- A new request waits for its total permit if it has to, and else has got it. -/
lemma call_goes {heavy : Bool} (h : manager.call id heavy = (manager', request')) :
    GoesOrJoins manager.heavy manager'.heavy id ∧
      ((manager.all.locked = true ∧ manager'.all = manager.all.join id ∧ request'.allPermits.taken = 0) ∨
        (manager.all.locked = false ∧ manager'.all = manager.all.take)) := by
  simp only [OllamaResourceManager.call] at h
  split at h
  · next locked =>
    cases h
    exact ⟨.inl .idle, .inl ⟨locked, rfl, rfl⟩⟩
  · next free =>
    obtain ⟨all, heavy⟩ := gotAll_heavy h
    exact ⟨heavy, .inr ⟨Bool.eq_false_iff.mpr free, all⟩⟩

/-- What a request that goes on does to the semaphores; it gets the total permit only if one was handed to
    it. -/
structure GoesOn (manager manager' : OllamaResourceManager) (id : Nat) (request request' : Request) :
    Prop where
  all : manager.all.Goes id manager'.all
  heavy : GoesOrJoins manager.heavy manager'.heavy id
  taken : request'.allPermits.taken = request.allPermits.taken ∨ manager.all.Granted id

lemma advance_goes {wakeup : Wakeup} (legal : request.Legal)
    (h : manager.advance id request wakeup = some (manager', request')) :
    GoesOn manager manager' id request request' := by
  cases legal with
  | waitingAll heavy =>
    cases wakeup with
    | woken =>
      simp only [OllamaResourceManager.advance, Option.ite_none_right_eq_some, Option.some.injEq] at h
      obtain ⟨granted, h⟩ := h
      obtain ⟨all, heavy⟩ := gotAll_heavy h
      exact ⟨all ▸ .resume granted, heavy, .inr granted⟩
    | cancelled =>
      cases h
      exact ⟨.cancel, .inl .idle, .inl rfl⟩
    | left raised => cases h
  | waitingHeavy =>
    cases wakeup with
    | woken =>
      simp only [OllamaResourceManager.advance, Option.ite_none_right_eq_some, Option.some.injEq] at h
      obtain ⟨granted, h⟩ := h
      cases h
      exact ⟨.idle, .inl (.resume granted), .inl rfl⟩
    | cancelled =>
      cases h
      exact ⟨.release, .inl .cancel, .inl rfl⟩
    | left raised => cases h
  | body heavy =>
    cases wakeup with
    | woken => cases h
    | cancelled => cases h
    | left raised =>
      cases heavy with
      | false =>
        cases raised
        all_goals
          cases h
          exact ⟨.release, .inl .idle, .inl rfl⟩
      | true =>
        cases raised
        all_goals
          cases h
          exact ⟨.release, .inl .release, .inl rfl⟩
  | done finished _ =>
    simp only [OllamaResourceManager.advance, finished] at h
    cases h

end Moves

/-- The turns that a request has before it at most. -/
def Phase.left : Phase → Nat
  | .waitingAll => 3
  | .waitingHeavy => 2
  | .body => 1
  | .done => 0

section Turns

variable {manager manager' : OllamaResourceManager} {id : Nat} {request request' : Request} {wakeup : Wakeup}

/-- The request is on its way to its permits, or has had them. -/
def Request.Served (request : Request) : Prop :=
  request.phase = .done → request.allPermits.taken = 1 ∧ request.heavyPermits.taken = request.heavy.toNat

lemma Request.Served.of_left (left : request.phase ≠ .done) : request.Served := by
  intro finished
  exact absurd finished left

lemma gotAll_left {all : Semaphore Nat} {heavy : Bool}
    (h : OllamaResourceManager.gotAll { manager with all } id { heavy } = (manager', request')) :
    request'.phase.left < 3 ∧ request'.heavy = heavy ∧ request'.phase ≠ .done := by
  cases heavy with
  | false =>
    cases h
    exact ⟨by decide, rfl, by decide⟩
  | true =>
    simp only [OllamaResourceManager.gotAll, Bool.not_true, Bool.false_eq_true, if_false] at h
    split at h
    · cases h
      exact ⟨by decide, rfl, by decide⟩
    · cases h
      exact ⟨by decide, rfl, by decide⟩

/-- A request that goes on has fewer turns before it, and unless it is cancelled it is done only after its
    body. -/
lemma advance_left (legal : request.Legal)
    (h : manager.advance id request wakeup = some (manager', request')) :
    request'.phase.left < request.phase.left ∧ (wakeup ≠ .cancelled → request'.Served) := by
  cases legal with
  | waitingAll heavy =>
    cases wakeup with
    | woken =>
      simp only [OllamaResourceManager.advance, Option.ite_none_right_eq_some, Option.some.injEq] at h
      obtain ⟨-, h⟩ := h
      obtain ⟨fewer, -, inside⟩ := gotAll_left h
      exact ⟨fewer, fun _ => .of_left inside⟩
    | cancelled =>
      cases h
      exact ⟨(by decide : 0 < 3), fun kept => absurd rfl kept⟩
    | left raised => cases h
  | waitingHeavy =>
    cases wakeup with
    | woken =>
      simp only [OllamaResourceManager.advance, Option.ite_none_right_eq_some, Option.some.injEq] at h
      obtain ⟨-, h⟩ := h
      cases h
      exact ⟨by decide, fun _ => .of_left (by decide)⟩
    | cancelled =>
      cases h
      exact ⟨by decide, fun kept => absurd rfl kept⟩
    | left raised => cases h
  | body heavy =>
    cases wakeup with
    | woken => cases h
    | cancelled => cases h
    | left raised =>
      cases heavy with
      | false =>
        cases raised
        all_goals
          cases h
          exact ⟨by decide, fun _ _ => ⟨rfl, rfl⟩⟩
      | true =>
        cases raised
        all_goals
          cases h
          exact ⟨by decide, fun _ _ => ⟨rfl, rfl⟩⟩
  | done finished _ =>
    simp only [OllamaResourceManager.advance, finished] at h
    cases h

end Turns

namespace Admission

section Order

variable {s s' : Admission} {events : List (Event Admission Move)} {N H : Nat} {i j : Nat} {request : Request}

/-- Nobody overtakes a request that waits for its total permit. -/
structure Orderly (s : Admission) : Prop where
  all : s.manager.all.Fair
  heavy : s.manager.heavy.Fair
  sorted : s.manager.all.callers.Pairwise (· < ·)
  served : ∀ i j request, i < j → (i, false) ∈ s.manager.all.waiters → s.requests[j]? = some request →
    request.allPermits.taken = 0

/-- Permits are handed out in the order of the calls. -/
lemma Orderly.granted_first (orderly : s.Orderly) (waits : (i, false) ∈ s.manager.all.waiters)
    (granted : s.manager.all.Granted j) : j < i := by
  have sorted : s.manager.all.waiters.Pairwise fun x y => x.1 < y.1 := List.pairwise_map.mp orderly.sorted
  obtain ⟨p, inside, here⟩ := List.getElem_of_mem waits
  obtain ⟨q, inside', there⟩ := List.getElem_of_mem granted
  obtain before | same | after := Nat.lt_trichotomy p q
  · -- somebody with a permit behind somebody without one
    have ordered := List.pairwise_iff_getElem.mp orderly.all.ordered p q inside inside' before
    rw [here, there] at ordered
    cases ordered rfl
  · subst same
    cases here.symm.trans there
  · have first := List.pairwise_iff_getElem.mp sorted q p inside' inside after
    rwa [here, there] at first

lemma Orderly.start (n h : Int) : (start n h).Orderly where
  all := .free _
  heavy := .free _
  sorted := .nil
  served _ _ _ _ waits := by cases waits

/-- A new request comes last. -/
lemma Orderly.called (orderly : s.Orderly) (inv : s.Inv N H) {manager : OllamaResourceManager} {heavy : Bool}
    (h : s.manager.call s.requests.length heavy = (manager, request)) :
    Orderly ⟨manager, s.requests ++ [request]⟩ := by
  obtain ⟨heavy, ⟨locked, joined, none⟩ | ⟨free, taken⟩⟩ := call_goes h
  · refine ⟨joined ▸ orderly.all.join locked, heavy.fair orderly.heavy, ?_, ?_⟩
    · show manager.all.callers.Pairwise (· < ·)
      rw [joined, Semaphore.join_callers, List.pairwise_append]
      refine ⟨orderly.sorted, List.pairwise_singleton _ _, ?_⟩
      intro i mem j last
      obtain ⟨request, found, -⟩ := (inv.allWaiters.waits i).mp mem
      rw [List.mem_singleton.mp last]
      exact (List.getElem?_eq_some_iff.mp found).1
    · intro i j request' later waits found
      change (i, false) ∈ manager.all.waiters at waits
      rw [joined, Semaphore.join, List.mem_append] at waits
      rcases waits with waits | last
      · obtain inside | beyond := Nat.lt_or_ge j s.requests.length
        · rw [List.getElem?_append_left inside] at found
          exact orderly.served i j request' later waits found
        · rw [List.getElem?_append_right beyond] at found
          rw [List.mem_singleton.mp (List.mem_of_getElem? found)]
          exact none
      · -- the new request itself has nobody behind it
        cases List.mem_singleton.mp last
        have inside := (List.getElem?_eq_some_iff.mp found).1
        rw [List.length_append, List.length_singleton] at inside
        omega
  · have nobody : s.manager.all.waiters = [] := by
      rw [Semaphore.locked, Bool.or_eq_false_iff, Bool.not_eq_false'] at free
      exact List.isEmpty_iff.mp free.2
    have goes : s.manager.all.Goes 0 manager.all := taken ▸ .take free
    refine ⟨goes.fair orderly.all, heavy.fair orderly.heavy, orderly.sorted.sublist goes.callers, ?_⟩
    intro i j request' later waits found
    have before := goes.ungranted orderly.all waits
    rw [nobody] at before
    cases before

/-- A request goes on. -/
lemma Orderly.moved (orderly : s.Orderly) {manager : OllamaResourceManager} {id : Nat} {request' : Request}
    (found : s.requests[id]? = some request) (goes : GoesOn s.manager manager id request request') :
    Orderly ⟨manager, s.requests.set id request'⟩ := by
  refine ⟨goes.all.fair orderly.all, goes.heavy.fair orderly.heavy, orderly.sorted.sublist goes.all.callers,
    ?_⟩
  intro i j other later waits found'
  have waited := goes.all.ungranted orderly.all waits
  by_cases own : j = id
  · subst own
    change (s.requests.set j request')[j]? = some other at found'
    rw [List.getElem?_set_self (List.getElem?_eq_some_iff.mp found).1] at found'
    cases found'
    rcases goes.taken with same | granted
    · rw [same]
      exact orderly.served i j request later waited found
    · exact absurd (orderly.granted_first waited granted) (Nat.lt_asymm later)
  · change (s.requests.set id request')[j]? = some other at found'
    rw [List.getElem?_set_ne (Ne.symm own)] at found'
    exact orderly.served i j other later waited found'

lemma Orderly.step {move : Move} (orderly : s.Orderly) (inv : s.Inv N H) (st : Step s move s') :
    s'.Orderly := by
  cases move with
  | call heavy =>
    cases st
    exact orderly.called inv rfl
  | resume id wakeup =>
    simp only [Step, take] at st
    split at st
    · next request found =>
      obtain ⟨⟨manager, request'⟩, advanced, rfl⟩ := Option.map_eq_some_iff.mp st
      exact orderly.moved found (advance_goes (inv.legal request (List.mem_of_getElem? found)) advanced)
    · cases st

lemma Orderly.run (run : Run Step s events s') (orderly : s.Orderly) (inv : s.Inv N H) :
    s'.Orderly ∧ s'.Inv N H :=
  run.invariant (I := fun s => s.Orderly ∧ s.Inv N H) (G := fun _ => True)
    (fun _ st _ h => ⟨h.1.step h.2 st, h.2.step st⟩) (fun _ _ => trivial) ⟨orderly, inv⟩

/-- First come, first served: while a request waits for its total permit and none was handed to it, no request that
    was called after it has got one, however many requests come, are cancelled and leave. -/
theorem first_come_first_served {n h : Int} (run : Run Step (Admission.start n h) events s) (later : i < j)
    (waits : s.At .waitingAll i) (ungranted : ¬ s.manager.all.Granted i)
    (found : s.requests[j]? = some request) :
    request.allPermits.taken = 0 ∧ ¬ s.manager.all.Granted j := by
  obtain ⟨orderly, inv⟩ := Orderly.run run (.start n h) (.start n h)
  have queued := Semaphore.mem_of_not_granted ((inv.allWaiters.waits i).mpr waits) ungranted
  refine ⟨orderly.served i j request later queued found, ?_⟩
  intro granted
  exact Nat.lt_asymm later (orderly.granted_first queued granted)

end Order

section Liveness

variable {s s' final : Admission} {events more : List (Event Admission Move)} {N H : Nat} {id : Nat}
variable {request : Request}

/-- With permits for at least one, whoever waits without a permit waits for somebody who has one. -/
lemma held_of_waiting {q : Semaphore Nat} {supply : Nat} {holds : Request → Bool} {requests : List Request}
    (fair : q.Fair) (waits : id ∈ q.callers) (nobody : ∀ i, ¬ q.Granted i)
    (counted : q.supply + requests.countP holds = supply) (some : 1 ≤ supply) :
    ∃ request ∈ requests, holds request = true := by
  have ungranted := Semaphore.mem_of_not_granted waits (nobody id)
  have none : q.value = 0 := by
    obtain none | ⟨i, granted⟩ := fair.awake _ ungranted
    · exact none
    · exact absurd granted (nobody i)
  have unhanded : q.waiters.countP Prod.snd = 0 := by
    rw [List.countP_eq_zero]
    rintro ⟨i, granted⟩ mem
    cases granted with
    | true => exact absurd mem (nobody i)
    | false => exact Bool.false_ne_true
  rw [Semaphore.supply, none, unhanded] at counted
  exact List.countP_pos_iff.mp (by omega)

/-- A request that is not done can go on, or waits for one that can. -/
lemma Inv.goes_on (inv : s.Inv N H) (orderly : s.Orderly) (total : 1 ≤ N) (heavies : 1 ≤ H)
    (found : s.requests[id]? = some request) (left : request.phase ≠ .done) :
    ∃ id wakeup, wakeup ≠ .cancelled ∧ s.take (.resume id wakeup) ≠ none := by
  -- a request in its body leaves it
  have body {id : Nat} {request : Request} (found : s.requests[id]? = some request)
    (inside : request.phase = .body) :
      ∃ id wakeup, wakeup ≠ .cancelled ∧ s.take (.resume id wakeup) ≠ none := by
    refine ⟨id, .left false, by simp, ?_⟩
    simp [take, found, OllamaResourceManager.advance, inside]
  by_cases all : ∃ i, s.manager.all.Granted i
  · obtain ⟨i, granted⟩ := all
    obtain ⟨request', found', waits⟩ := (inv.allWaiters.waits i).mp (List.mem_map_of_mem granted)
    refine ⟨i, .woken, by simp, ?_⟩
    simp [take, found', OllamaResourceManager.advance, waits, granted]
  by_cases heavy : ∃ i, s.manager.heavy.Granted i
  · obtain ⟨i, granted⟩ := heavy
    obtain ⟨request', found', waits⟩ := (inv.heavyWaiters.waits i).mp (List.mem_map_of_mem granted)
    refine ⟨i, .woken, by simp, ?_⟩
    simp [take, found', OllamaResourceManager.advance, waits, granted]
  have noAll : ∀ i, ¬ s.manager.all.Granted i := fun i granted => all ⟨i, granted⟩
  have noHeavy : ∀ i, ¬ s.manager.heavy.Granted i := fun i granted => heavy ⟨i, granted⟩
  -- who waits for the second permit waits for a heavy request in its body
  have second {id : Nat} (waits : s.At .waitingHeavy id) :
      ∃ id wakeup, wakeup ≠ .cancelled ∧ s.take (.resume id wakeup) ≠ none := by
    obtain ⟨holder, mem, holds⟩ :=
      held_of_waiting orderly.heavy ((inv.heavyWaiters.waits id).mpr waits) noHeavy inv.heavy heavies
    obtain ⟨i, found⟩ := List.mem_iff_getElem?.mp mem
    simp only [Request.holdsHeavy, Bool.and_eq_true, decide_eq_true_eq] at holds
    exact body found holds.1
  cases phase : request.phase with
  | done => exact absurd phase left
  | body => exact body found phase
  | waitingHeavy => exact second ⟨request, found, phase⟩
  | waitingAll =>
    have queued := (inv.allWaiters.waits id).mpr ⟨request, found, phase⟩
    obtain ⟨holder, mem, holds⟩ := held_of_waiting orderly.all queued noAll inv.all total
    obtain ⟨i, found⟩ := List.mem_iff_getElem?.mp mem
    simp only [Request.holdsAll, Bool.or_eq_true, decide_eq_true_eq] at holds
    rcases holds with waits | inside
    · exact second ⟨holder, found, waits⟩
    · exact body found inside

end Liveness

section Drain

variable {s s' final : Admission} {events more : List (Event Admission Move)} {N H : Nat} {id : Nat}
variable {request : Request} {wakeup : Wakeup}

/-- The turns that the requests have before them at most. -/
def work (s : Admission) : Nat := (s.requests.map fun request => request.phase.left).sum

/-- Nobody comes at the event, and nobody is cancelled. -/
def Calm (e : Event Admission Move) : Prop := ∃ id wakeup, e.label = .resume id wakeup ∧ wakeup ≠ .cancelled

/-- A turn leaves less work, and serves the request. -/
lemma step_work (inv : s.Inv N H) (st : Step s (.resume id wakeup) s') (kept : wakeup ≠ .cancelled) :
    s'.work < s.work ∧ ∀ (i : Nat) (request : Request), s.requests[i]? = some request → request.Served →
      ∃ request' : Request, s'.requests[i]? = some request' ∧ request'.Served := by
  simp only [Step, take] at st
  split at st
  · next request found =>
    obtain ⟨⟨manager, request'⟩, advanced, rfl⟩ := Option.map_eq_some_iff.mp st
    obtain ⟨fewer, served⟩ := advance_left (inv.legal request (List.mem_of_getElem? found)) advanced
    have sum := Counting.sum_set (fun request : Request => request.phase.left) found request'
    refine ⟨?_, ?_⟩
    · simp only [work]
      omega
    · intro i other found' served'
      by_cases own : i = id
      · subst own
        have inside := (List.getElem?_eq_some_iff.mp found).1
        exact ⟨request', List.getElem?_set_self inside, served kept⟩
      · exact ⟨other, (List.getElem?_set_ne (Ne.symm own)).trans found', served'⟩
  · cases st

lemma calm_run (run : Run Step s more final) (inv : s.Inv N H) (calm : ∀ e ∈ more, Calm e) :
    more.length + final.work ≤ s.work ∧ ∀ (i : Nat) (request : Request), s.requests[i]? = some request →
      request.Served → ∃ request' : Request, final.requests[i]? = some request' ∧ request'.Served := by
  induction run with
  | nil => exact ⟨by simp, fun i request found served => ⟨request, found, served⟩⟩
  | @cons s move s' more final st _ ih =>
    obtain ⟨id, wakeup, label, kept⟩ := calm _ (.head _)
    cases label
    obtain ⟨fewer, served⟩ := step_work inv st kept
    obtain ⟨rest, served'⟩ := ih (inv.step st) fun e mem => calm e (.tail _ mem)
    refine ⟨?_, ?_⟩
    · rw [List.length_cons]
      omega
    · intro i request found had
      obtain ⟨request', found', had'⟩ := served i request found had
      exact served' i request' found' had'

/-- Nobody waits in vain. In every state that any requests lead to, when nobody comes any more and nobody is
    cancelled, the requests go on as long as one of them is not done, and at most three times each; and each that
    was not done has then been in its body with all its permits. -/
theorem everyone_served {n h : Int} (run : Run Step (Admission.start n h) events s)
    (going : Run Step s more final) (calm : ∀ e ∈ more, Calm e) :
    more.length ≤ s.work ∧
      ((∃ request ∈ final.requests, request.phase ≠ .done) ↔
        ∃ id wakeup, wakeup ≠ .cancelled ∧ final.take (.resume id wakeup) ≠ none) ∧
      ∀ (id : Nat) (request : Request), s.requests[id]? = some request → request.phase ≠ .done →
        ∃ request' : Request, final.requests[id]? = some request' ∧ (request'.phase = .done →
          request'.allPermits.taken = 1 ∧ request'.heavyPermits.taken = request'.heavy.toNat) := by
  obtain ⟨orderly, inv⟩ := Orderly.run run (.start n h) (.start n h)
  obtain ⟨orderly', inv'⟩ := Orderly.run going orderly inv
  obtain ⟨less, served⟩ := calm_run going inv calm
  refine ⟨by omega, ⟨?_, ?_⟩, ?_⟩
  · rintro ⟨request, mem, left⟩
    obtain ⟨id, found⟩ := List.mem_iff_getElem?.mp mem
    exact inv'.goes_on orderly' (by omega) (by omega) found left
  · rintro ⟨id, wakeup, -, possible⟩
    simp only [take] at possible
    split at possible
    · next request found =>
      refine ⟨request, List.mem_of_getElem? found, ?_⟩
      intro finished
      simp [OllamaResourceManager.advance, finished] at possible
    · exact absurd rfl possible
  · intro id request found left
    exact served id request found (.of_left left)

end Drain

section Samples

/-- Two heavy requests and a light one, of which the first has the only permits. -/
def crowdedMoves : List Move := [.call true, .call true, .call false]

def crowded : Admission := (play take (start 1 1) crowdedMoves).2

lemma crowded_run : Run Step (start 1 1) (play take (start 1 1) crowdedMoves).1 crowded :=
  play_run (by decide)

/-- The second request waits, so the third one has nothing. -/
theorem first_come_first_served_sample : ¬ crowded.manager.all.Granted 2 := by
  have second : crowded.At .waitingAll 1 := ⟨{ heavy := true }, by decide, rfl⟩
  have third : crowded.requests[2]? = some { heavy := false } := by decide
  exact (first_come_first_served crowded_run (by decide) second (by decide) third).2

/-- All three go on to their ends. -/
def servedMoves : List Move :=
  [.resume 0 (.left false), .resume 1 .woken, .resume 1 (.left true), .resume 2 .woken,
    .resume 2 (.left false)]

theorem everyone_served_sample : ∃ request : Request,
    (play take crowded servedMoves).2.requests[2]? = some request ∧
      (request.phase = .done → request.allPermits.taken = 1) := by
  have going : Run Step crowded (play take crowded servedMoves).1 (play take crowded servedMoves).2 :=
    play_run (by decide)
  have calm : ∀ e ∈ (play take crowded servedMoves).1, Calm e := by
    have labels : (play take crowded servedMoves).1.map Event.label = servedMoves := by rfl
    intro e mem
    have label : e.label ∈ servedMoves := labels ▸ List.mem_map_of_mem mem
    simp only [servedMoves, List.mem_cons, List.not_mem_nil, or_false] at label
    rcases label with label | label | label | label | label
    all_goals exact ⟨_, _, label, by decide⟩
  have third : crowded.requests[2]? = some { heavy := false } := by decide
  obtain ⟨request, found, served⟩ :=
    (everyone_served crowded_run going calm).2.2 2 { heavy := false } third (by decide)
  exact ⟨request, found, fun finished => (served finished).1⟩

end Samples

end Admission

end AgentRuntime.Llm
