import AgentRuntime.Llm.ResourceManager

/-!
# The counters of the model server's requests

What `OllamaResourceManager.snapshot` reports. The `finally` block of `acquire` counts a request that has the
total permit out of the active ones, also one that was cancelled in its wait for the heavy permit and was
never counted as active: from then on a request too few is reported.
-/

namespace AgentRuntime.Llm
open Transition

/-- source `ResourceSnapshot` -/
structure ResourceSnapshot where
  maxConcurrency : Nat
  maxHeavyConcurrency : Nat
  active : Int
  activeHeavy : Int
  queued : Int
deriving DecidableEq, Repr

/-- source `OllamaResourceManager.snapshot` -/
def OllamaResourceManager.snapshot (manager : OllamaResourceManager) : ResourceSnapshot where
  maxConcurrency := manager.maxConcurrency
  maxHeavyConcurrency := manager.maxHeavyConcurrency
  active := manager.active
  activeHeavy := manager.activeHeavy
  queued := manager.queued

/-- The request is inside its body. -/
def Request.inBody (request : Request) : Bool := request.phase = .body

/-- The request waits for a permit. -/
def Request.waits (request : Request) : Bool :=
  request.phase = .waitingAll || request.phase = .waitingHeavy

namespace Admission

/-- The requests that wait for a permit. -/
def waiting (s : Admission) : Nat := s.requests.countP Request.waits

/-- The snapshot tells how many requests are inside their bodies, how many of them are heavy, and how many
    wait. -/
structure Reports (s : Admission) : Prop where
  active : s.manager.snapshot.active = s.bodies
  activeHeavy : s.manager.snapshot.activeHeavy = s.heavyBodies
  queued : s.manager.snapshot.queued = s.waiting

/-- A request is cancelled in its wait for the heavy permit, while another is inside its body. -/
def GivesUpHeavy (s : Admission) : Move → Prop
  | .resume id .cancelled => (∃ request ∈ s.requests[id]?, request.phase = .waitingHeavy) ∧ 0 < s.bodies
  | _ => False

instance (s : Admission) (move : Move) : Decidable (s.GivesUpHeavy move) := by
  unfold GivesUpHeavy
  split <;> infer_instance

end Admission

section Requests

variable {manager manager' : OllamaResourceManager} {id : Nat} {request request' : Request}

/-- A move of one request, in the counters: they change with where the request is. -/
structure Counted (manager manager' : OllamaResourceManager) (request request' : Request) : Prop where
  active : manager'.active + request.inBody.toNat = manager.active + request'.inBody.toNat
  activeHeavy : manager'.activeHeavy + request.holdsHeavy.toNat =
    manager.activeHeavy + request'.holdsHeavy.toNat
  queued : manager'.queued + request.waits.toNat = manager.queued + request'.waits.toNat

/-- A request that has got the total permit is active, or waits on. -/
lemma gotAll_counted {heavy : Bool} (h : manager.gotAll id { heavy } = (manager', request')) :
    Counted manager manager' { heavy } request' := by
  cases heavy with
  | false =>
    cases h
    constructor <;> simp [Request.inBody, Request.holdsHeavy, Request.waits]
  | true =>
    simp only [OllamaResourceManager.gotAll, Bool.not_true, Bool.false_eq_true, if_false] at h
    split at h
    · cases h
      constructor <;> simp [Request.inBody, Request.holdsHeavy, Request.waits]
    · cases h
      constructor <;> simp [Request.inBody, Request.holdsHeavy, Request.waits]

/-- A new request is active, or waits. -/
lemma call_counted {heavy : Bool} (h : manager.call id heavy = (manager', request')) :
    Counted manager manager' { heavy, phase := .done } request' := by
  simp only [OllamaResourceManager.call] at h
  split at h
  · cases h
    constructor <;> simp [Request.inBody, Request.holdsHeavy, Request.waits]
  · obtain ⟨active, activeHeavy, queued⟩ := gotAll_counted h
    refine ⟨active, activeHeavy, ?_⟩
    have waits : Request.waits { heavy } = true := rfl
    have gone : Request.waits { heavy, phase := .done } = false := rfl
    rw [waits] at queued
    rw [gone]
    dsimp only [Bool.toNat_true, Bool.toNat_false] at queued ⊢
    omega

/-- A suspended request that goes on is counted where it is, unless it gives up the heavy permit while the
    counter of the active requests is positive. -/
lemma advance_counted {wakeup : Wakeup} (legal : request.Legal)
    (counted : request.phase = .body → 0 < manager.active)
    (idle : request.phase = .waitingHeavy → wakeup = .cancelled → manager.active ≤ 0)
    (h : manager.advance id request wakeup = some (manager', request')) :
    Counted manager manager' request request' := by
  cases legal with
  | waitingAll heavy =>
    cases wakeup with
    | woken =>
      simp only [OllamaResourceManager.advance, Option.ite_none_right_eq_some, Option.some.injEq] at h
      obtain ⟨active, activeHeavy, queued⟩ := gotAll_counted h.2
      exact ⟨active, activeHeavy, queued⟩
    | cancelled =>
      cases h
      constructor <;> simp [Request.inBody, Request.holdsHeavy, Request.waits]
    | left raised => cases h
  | waitingHeavy =>
    cases wakeup with
    | woken =>
      simp only [OllamaResourceManager.advance, Option.ite_none_right_eq_some, Option.some.injEq] at h
      obtain ⟨-, h⟩ := h
      cases h
      constructor <;> simp [Request.inBody, Request.holdsHeavy, Request.waits]
    | cancelled =>
      have none := Int.not_lt.mpr (idle rfl rfl)
      cases h
      constructor <;> simp [Request.inBody, Request.holdsHeavy, Request.waits, none]
    | left raised => cases h
  | body heavy =>
    cases wakeup with
    | woken => cases h
    | cancelled => cases h
    | left raised =>
      have positive := counted rfl
      cases heavy
      all_goals
        cases raised
        all_goals
          cases h
          constructor <;> simp [Request.inBody, Request.holdsHeavy, Request.waits, positive]
  | done finished _ =>
    simp only [OllamaResourceManager.advance, finished] at h
    cases h

/-- A request that gives up the heavy permit takes another one out of the active requests. -/
lemma giveUp_undercounts (legal : request.Legal) (phase : request.phase = .waitingHeavy)
    (positive : 0 < manager.active)
    (h : manager.advance id request .cancelled = some (manager', request')) :
    manager'.active + 1 = manager.active ∧ request'.inBody = request.inBody := by
  cases legal with
  | waitingHeavy =>
    cases h
    simp [Request.inBody, positive]
  | waitingAll | body => cases phase
  | done finished _ => cases finished.symm.trans phase

end Requests

namespace Admission

variable {s s' : Admission} {events : List (Event Admission Move)} {N H : Nat}

lemma Reports.start (n h : Int) : (start n h).Reports := ⟨rfl, rfl, rfl⟩

/-- The report in terms of the predicates on requests. -/
lemma reports_iff : s.Reports ↔
    s.manager.active = (s.requests.countP Request.inBody : Nat) ∧
      s.manager.activeHeavy = (s.requests.countP Request.holdsHeavy : Nat) ∧
      s.manager.queued = (s.requests.countP Request.waits : Nat) :=
  ⟨fun reports => ⟨reports.1, reports.2, reports.3⟩, fun ⟨active, heavy, queued⟩ => ⟨active, heavy, queued⟩⟩

/-- The report passes over the move of a request that is there. -/
lemma Reports.moved {manager : OllamaResourceManager} {id : Nat} {request request' : Request}
    (reports : s.Reports) (found : s.requests[id]? = some request)
    (counted : Counted s.manager manager request request') :
    Reports ⟨manager, s.requests.set id request'⟩ := by
  have active := Counting.countP_set Request.inBody found request'
  have activeHeavy := Counting.countP_set Request.holdsHeavy found request'
  have queued := Counting.countP_set Request.waits found request'
  obtain ⟨active', activeHeavy', queued'⟩ := counted
  rw [reports_iff] at reports ⊢
  dsimp only
  omega

/-- The report passes over a new request. -/
lemma Reports.called {manager : OllamaResourceManager} {heavy : Bool} {request : Request}
    (reports : s.Reports) (counted : Counted s.manager manager { heavy, phase := .done } request) :
    Reports ⟨manager, s.requests ++ [request]⟩ := by
  have active := Counting.countP_concat Request.inBody s.requests request
  have activeHeavy := Counting.countP_concat Request.holdsHeavy s.requests request
  have queued := Counting.countP_concat Request.waits s.requests request
  obtain ⟨active', activeHeavy', queued'⟩ := counted
  simp only [Request.inBody, Request.holdsHeavy, Request.waits, reduceCtorEq, decide_false,
    Bool.false_and, Bool.or_false, Bool.toNat_false] at active' activeHeavy' queued'
  rw [reports_iff] at reports ⊢
  dsimp only [Request.inBody, Request.holdsHeavy, Request.waits] at *
  omega

/-- The report passes over every move that is not a request giving up the heavy permit. -/
lemma Reports.step {move : Move} (inv : s.Inv N H) (reports : s.Reports)
    (kept : ¬ s.GivesUpHeavy move) (st : Step s move s') : s'.Reports := by
  cases move with
  | call heavy =>
    cases st
    exact reports.called (call_counted rfl)
  | resume id wakeup =>
    simp only [Step, take] at st
    split at st
    · next request found =>
      obtain ⟨⟨manager, request'⟩, advanced, rfl⟩ := Option.map_eq_some_iff.mp st
      have legal := inv.legal request (List.mem_of_getElem? found)
      have active := reports.active
      refine reports.moved found (advance_counted legal (fun phase => ?_) (fun phase given => ?_) advanced)
      · have inside : 0 < s.bodies :=
          List.countP_pos_iff.mpr ⟨request, List.mem_of_getElem? found, by simp [phase]⟩
        change s.manager.active = s.bodies at active
        omega
      · change s.manager.active = s.bodies at active
        subst given
        have none : ¬ 0 < s.bodies := fun some => kept ⟨⟨request, found, phase⟩, some⟩
        omega
    · cases st

lemma givesUpHeavy_iff {move : Move} : s.GivesUpHeavy move ↔
    ∃ id request, move = .resume id .cancelled ∧ s.requests[id]? = some request ∧
      request.phase = .waitingHeavy ∧ 0 < s.bodies := by
  constructor
  · intro gives
    unfold GivesUpHeavy at gives
    split at gives
    · obtain ⟨⟨request, found, phase⟩, some⟩ := gives
      exact ⟨_, request, rfl, found, phase, some⟩
    · exact gives.elim
  · rintro ⟨id, request, rfl, found, phase, some⟩
    exact ⟨⟨request, found, phase⟩, some⟩

/-- Where a request gives up the heavy permit, the report is wrong from there. -/
lemma not_reports_of_givesUpHeavy {move : Move} (inv : s.Inv N H) (reports : s.Reports)
    (gives : s.GivesUpHeavy move) (st : Step s move s') : ¬ s'.Reports := by
  obtain ⟨id, request, rfl, found, phase, some⟩ := givesUpHeavy_iff.mp gives
  simp only [Step, take, found] at st
  obtain ⟨⟨manager, request'⟩, advanced, rfl⟩ := Option.map_eq_some_iff.mp st
  have legal := inv.legal request (List.mem_of_getElem? found)
  have active : s.manager.active = s.bodies := reports.active
  obtain ⟨fewer, same⟩ := giveUp_undercounts legal phase (by omega) advanced
  have count := Counting.countP_set Request.inBody found request'
  intro reports'
  have active' : manager.active = ((s.requests.set id request').countP Request.inBody : Nat) :=
    reports'.active
  have bodies : s.bodies = s.requests.countP Request.inBody := rfl
  rw [same] at count
  omega

/-- In every run, the snapshot reports the requests in their bodies and those that wait in every state that
    is reached exactly when no heavy request is cancelled in its wait for the heavy permit while another
    request is inside its body. -/
theorem snapshot_reports_iff {ollamaMaxConcurrency ollamaHeavyMaxConcurrency : Int}
    (run : Run Step (start ollamaMaxConcurrency ollamaHeavyMaxConcurrency) events s) :
    (∀ e ∈ events, e.post.Reports) ↔ ∀ e ∈ events, ¬ e.pre.GivesUpHeavy e.label := by
  obtain ⟨N, H, inv⟩ : ∃ N H, Inv N H (start ollamaMaxConcurrency ollamaHeavyMaxConcurrency) :=
    ⟨_, _, .start _ _⟩
  have reports := Reports.start ollamaMaxConcurrency ollamaHeavyMaxConcurrency
  constructor
  · intro all e mem gives
    have before := run.invariant_mem (I := fun s => Inv N H s ∧ s.Reports)
      (fun e st good both => ⟨both.1.step st, good⟩) all ⟨inv, reports⟩ mem
    exact not_reports_of_givesUpHeavy before.1.1 before.1.2 gives (run.step_of_mem mem) before.2.2
  · intro kept e mem
    have after := run.invariant_mem (I := fun s => Inv N H s ∧ s.Reports)
      (fun e st kept both => ⟨both.1.step st, both.2.step both.1 kept st⟩) kept ⟨inv, reports⟩ mem
    exact after.2.2

/-- The run of the sample: the request that is cancelled waits for the first permit. -/
theorem snapshot_reports_sample :
    possible take (start 1 1) sampleMoves = true ∧
    ∀ e ∈ (play take (start 1 1) sampleMoves).1, e.post.Reports := by
  have can : possible take (start 1 1) sampleMoves = true := by decide +kernel
  exact ⟨can, (snapshot_reports_iff (play_run can)).mpr (by decide +kernel)⟩

/-- Two heavy requests, of which the second is cancelled in its wait for the heavy permit. -/
def givingUp : List Move := [.call true, .call true, .resume 1 .cancelled]

/-- The first request is inside its body, and the snapshot reports none. -/
theorem snapshot_undercounts :
    ¬ ∀ ollamaMaxConcurrency ollamaHeavyMaxConcurrency events s,
      Run Step (start ollamaMaxConcurrency ollamaHeavyMaxConcurrency) events s →
      ∀ e ∈ events, e.post.Reports := by
  intro reports
  have run := play_run (by decide +kernel : possible take (start 2 1) givingUp = true)
  have counts : ∃ e ∈ (play take (start 2 1) givingUp).1,
      e.post.manager.snapshot.active ≠ e.post.bodies := by
    decide +kernel
  obtain ⟨e, mem, wrong⟩ := counts
  exact wrong (reports 2 1 _ _ run e mem).active

end Admission

end AgentRuntime.Llm
