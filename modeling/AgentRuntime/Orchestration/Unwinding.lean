import AgentRuntime.Orchestration.Durability

/-!
# Unwinding after the outcome

A handler whose `mark_terminal` succeeded goes on to `append_turn`, `mark_history_committed` and
`release`. The `except Exception` arm asks whether the outcome was persisted; the `CancelledError` arm of
`_ainvoke_with_identity` does not, and marks the run interrupted. That call is the only step of an
unwinding handler that can take its outcome back.
-/

namespace AgentRuntime.Orchestration
open State Transition WriteOnce

/-- A handler after its outcome was persisted: it is interrupted by a cancellation only. -/
def Phase.settles : Phase → Bool
  | .appending _ _ => true
  | .committing _ _ => true
  | .interrupting _ _ .cancelled => true
  | .releasing _ _ => true
  | .leaving _ => true
  | .done _ => true
  | _ => false

/-- The handler is about to mark its run interrupted. -/
def Phase.interrupts : Phase → Bool
  | .interrupting _ _ _ => true
  | _ => false

/-- The handler has finished. -/
def Phase.isDone : Phase → Bool
  | .done _ => true
  | _ => false

section Steps

/-- The outcome that the event's `mark_terminal` has stored. -/
def persistedOutcome {agent : ChatRuntimeAgent} (e : Event (System agent) Turn) :
    Option (RunStatus × StoredReply) :=
  match e.pre.phases e.label.handler, e.post.phases e.label.handler with
  | .persisting _ execution _, .appending _ _ =>
    some (execution.status.toOutcomeStatus.toRunStatus, execution.response.reply)
  | _, _ => none

lemma persistedOutcome_inv {agent : ChatRuntimeAgent} {e : Event (System agent) Turn}
    {outcome : RunStatus × StoredReply} (h : persistedOutcome e = some outcome) :
    ∃ lease execution checkpointId lease' execution',
      e.pre.phases e.label.handler = .persisting lease execution checkpointId ∧
      e.post.phases e.label.handler = .appending lease' execution' ∧
      outcome = (execution.status.toOutcomeStatus.toRunStatus, execution.response.reply) := by
  simp only [persistedOutcome] at h
  split at h
  · next persisting appending =>
    cases h
    exact ⟨_, _, _, _, _, persisting, appending, rfl⟩
  · cases h

variable {agent : ChatRuntimeAgent} {requests : Nat → Request} {s s' : System agent} {turn : Turn}

lemma unwind_settles (lease : RunLease) (error : RequestError) :
    (unwind lease true error).settles = true := by
  unfold unwind
  split
  · rfl
  · rfl
  · rfl

/-- A handler stays past its outcome. -/
lemma resume_settles {request : Request} {input : Input} {t t' : agent.store.σ} {p p' : Phase}
    (h : resume agent request input t p = (p', t')) (settles : p.settles = true) :
    p'.settles = true := by
  cases p with
  | appending lease execution =>
    simp only [resume] at h
    split at h
    · obtain ⟨rfl, -⟩ := Prod.mk.inj h
      exact unwind_settles lease _
    · split at h
      · obtain ⟨rfl, -⟩ := Prod.mk.inj h
        exact unwind_settles lease _
      · split at h
        · exact (Prod.mk.inj h).1 ▸ rfl
        · exact (Prod.mk.inj h).1 ▸ rfl
  | committing lease response =>
    simp only [resume] at h
    split at h
    · obtain ⟨rfl, -⟩ := Prod.mk.inj h
      exact unwind_settles lease _
    · exact (Prod.mk.inj h).1 ▸ rfl
  | interrupting lease reason error =>
    simp only [resume] at h
    split at h
    · exact (Prod.mk.inj h).1 ▸ rfl
    · exact (Prod.mk.inj h).1 ▸ rfl
  | releasing lease result =>
    simp only [resume] at h
    split at h
    · exact (Prod.mk.inj h).1 ▸ rfl
    · exact (Prod.mk.inj h).1 ▸ rfl
  | leaving result => exact (Prod.mk.inj h).1 ▸ rfl
  | done result => exact (Prod.mk.inj h).1 ▸ rfl
  | _ => cases settles

lemma Phase.quiet_of_settles {p : Phase} (settles : p.settles = true) : p.beats = false := by
  cases p <;> first | rfl | cases settles

lemma step_settles (st : System.Step requests s turn s') {i : Nat}
    (settles : (s.phases i).settles = true) : (s'.phases i).settles = true := by
  obtain ⟨p', phases, -⟩ := System.step_cases st
  obtain ⟨rfl, -⟩ | ⟨-, e⟩ := phase_cases phases i
  · have action := System.step_action st (Phase.quiet_of_settles settles)
    by_cases leaving : ∃ result, s.phases turn.handler = .leaving result
    · obtain ⟨result, leaving⟩ := leaving
      obtain ⟨-, -, rfl⟩ := st
      simp only [System.take, Function.update_self, action, leaving]
      rfl
    · refine resume_settles (System.step_resume st action ?_ ?_) settles
      · intro start
        rw [start] at settles
        cases settles
      · exact fun result phase => leaving ⟨result, phase⟩
  · rw [e]
    exact settles

/-- The call that persists an outcome leaves it in the record. -/
lemma persisted_outcome (inv : Inv requests s) (st : System.Step requests s turn s')
    {outcome : RunStatus × StoredReply}
    (persisted : persistedOutcome (⟨s, turn, s'⟩ : Event (System agent) Turn) = some outcome) :
    s'.outcome (keyOf agent (requests turn.handler)) = some outcome := by
  obtain ⟨lease, execution, checkpointId, lease', execution', persisting, appending, rfl⟩ :=
    persistedOutcome_inv persisted
  simp only at persisting appending
  have action := System.step_action st (by rw [persisting]; rfl)
  have resumed := System.step_resume st action (by rw [persisting]; nofun)
    (by rw [persisting]; nofun)
  rw [persisting, appending] at resumed
  simp only [resume] at resumed
  split at resumed
  · next error t called =>
    -- an error never leads on to the history
    have unwound := (Prod.mk.inj resumed).1
    revert unwound
    unfold unwind
    split <;> nofun
  · next t called =>
    have returned := (awaited_cases called).2 _ rfl
    obtain ⟨-, ⟨error, e⟩, -⟩ | ⟨-, r, payload, -, kept, -, records, -⟩ :=
      agent.store.contract.markTerminal_spec returned
    · cases e
    · obtain ⟨-, rfl⟩ := Prod.mk.inj resumed
      obtain ⟨object, rfl, same⟩ := kept.object _ rfl nofun
      have held : (s.phases turn.handler).lease? = some lease := by
        rw [persisting]
        rfl
      rw [← (inv.held _ lease held).1, ← storedReply_same same]
      have found := (congrFun records _).trans (Function.update_self _ _ _)
      rw [outcome_record found]
      exact durableOutcome_some execution.status.isOver rfl

/-- A run that was marked interrupted has no durable outcome. -/
lemma interrupted_outcome (st : System.Step requests s turn s') {key : String}
    (interrupts : Interrupts (⟨s, turn, s'⟩ : Event (System agent) Turn) key) :
    s'.outcome key = none := by
  obtain ⟨lease, reason, error, phase, made, takes, rfl⟩ := interrupts
  simp only at phase made takes
  have action := System.step_action st (by rw [phase]; rfl)
  have resumed := System.step_resume st action (by rw [phase]; nofun) (by rw [phase]; nofun)
  have stored : s'.store =
      (agent.store.repo.markTerminal turn.input.now lease (interruption reason) s.store).2 := by
    refine (congrArg Prod.snd resumed).symm.trans ?_
    rw [← awaited_made made, phase]
    simp only [resume]
    split <;> next called => rw [called]
  obtain ⟨refused, -⟩ | ⟨-, r, payload, -, kept, -, records, -⟩ :=
    agent.store.contract.markTerminal_spec (Prod.eta
      (agent.store.repo.markTerminal turn.input.now lease (interruption reason) s.store))
  · exact absurd takes refused
  · cases kept.none rfl
    rw [← stored] at records
    rw [outcome_record ((congrFun records _).trans (Function.update_self _ _ _))]
    exact durableOutcome_empty rfl

end Steps

section Runs

variable {agent : ChatRuntimeAgent} {requests : Nat → Request}

/-- The events of a handler that settles stay past its outcome. -/
lemma settles_mem {s u : System agent} {events : List (Event (System agent) Turn)}
    (run : Run (System.Step requests) s events u) {i : Nat}
    (settles : (s.phases i).settles = true) {e : Event (System agent) Turn} (mem : e ∈ events) :
    (e.pre.phases i).settles = true :=
  (run.invariant_mem (I := fun c => (c.phases i).settles = true) (G := fun _ => True)
    (fun _ st _ => step_settles st) (fun _ _ => trivial) settles mem).1

/-- After its outcome a handler takes something back only by marking its own run interrupted. -/
lemma keepsSettled_of_settles {e : Event (System agent) Turn} (inv : Inv requests e.pre)
    (settles : (e.pre.phases e.label.handler).settles = true)
    (uninterrupted : ¬ Interrupts e (eventKey requests e)) : KeepsSettled requests e where
  acquire h := by
    rw [h.1] at settles
    cases settles
  interrupt key h := by
    obtain ⟨lease, reason, error, phase, made, takes, rfl⟩ := h
    have held : (e.pre.phases e.label.handler).lease? = some lease := by
      rw [phase]
      rfl
    have run := (inv.held _ lease held).1
    exact absurd ⟨lease, reason, error, phase, made, takes, run.symm⟩ uninterrupted

/-- Whatever is raised and whenever the request is cancelled after `mark_terminal` has stored its
    outcome, the outcome stays stored, exactly if no `mark_terminal` of an interruption of this handler
    is accepted. -/
theorem outcome_survives_unwinding (agent : ChatRuntimeAgent) (requests : Nat → Request) {now : Time}
    {before after : List (Event (System agent) Turn)} {e : Event (System agent) Turn}
    {final : System agent} {outcome : RunStatus × StoredReply}
    (run : Run (System.Step requests) (System.start agent now) (before ++ e :: after) final)
    (persisted : persistedOutcome e = some outcome)
    (earlier : ∀ e' ∈ before, KeepsSettled requests e')
    (others : ∀ e' ∈ after, e'.label.handler ≠ e.label.handler → KeepsSettled requests e') :
    (∀ e' ∈ e :: after, e'.post.outcome (eventKey requests e) = some outcome) ↔
    ∀ e' ∈ after, e'.label.handler = e.label.handler → ¬ Interrupts e' (eventKey requests e) := by
  obtain ⟨middle, first, rest⟩ := run.split
  obtain ⟨rfl, st, tail⟩ := rest.head
  have inv : Inv requests e.pre := .run first
  have stored := persisted_outcome inv st persisted
  obtain ⟨_, _, _, _, _, persisting, appending, -⟩ := persistedOutcome_inv persisted
  constructor
  · intro stands e' mem _ interrupts
    have lost := interrupted_outcome (tail.step_of_mem mem) interrupts
    cases lost.symm.trans (stands e' (.tail _ mem))
  · intro uninterrupted
    -- up to the outcome nothing is taken back, and after it this handler takes nothing back
    have keeps : KeepsSettled requests e := by
      constructor
      · rintro ⟨phase, -⟩
        cases persisting.symm.trans phase
      · rintro key ⟨_, _, _, phase, -⟩
        cases persisting.symm.trans phase
    have settled : Settled requests e.pre := by
      refine (first.invariant (I := fun c => Inv requests c ∧ Settled requests c) ?_ earlier
        ⟨.start now, .start now⟩).2
      rintro e st keeps ⟨inv, settled⟩
      exact ⟨inv.step st, (settled.step inv st keeps).1⟩
    have inv' := inv.step st
    have settled' := (settled.step inv st keeps).1
    have settles : (e.post.phases e.label.handler).settles = true := by
      rw [appending]
      rfl
    have invs : ∀ e' ∈ after, Inv requests e'.pre := fun e' mem =>
      (tail.invariant_mem (G := fun _ => True) (fun _ st _ inv => Inv.step inv st)
        (fun _ _ => trivial) inv' mem).1
    have whole := settled_run inv' settled' tail fun e' mem => by
      by_cases own : e'.label.handler = e.label.handler
      · refine keepsSettled_of_settles (invs e' mem) (own ▸ settles_mem tail settles mem) ?_
        have kept := uninterrupted e' mem own
        rwa [eventKey, own]
      · exact others e' mem own
    intro e' mem
    cases mem with
    | head => exact stored
    | tail _ mem => exact (whole e' mem).2.2 _ _ stored

/-- The event that persists the outcome of a first send. -/
def samplePersisting : Event (System sampleRuntime) Turn :=
  let s := System.after sampleRequest (.start sampleRuntime 0) (sampleTurns (List.replicate 7 0))
  let turn := { handler := 0, input := sampleInput }
  ⟨s, turn, s.take sampleRequest turn⟩

/-- What the first send stores. -/
def sampleOutcome : RunStatus × StoredReply :=
  (.completed, ⟨some "support", some "11111111-1111-4111-8111-111111111111",
    some "an answer"⟩)

/-- A run up to the outcome of a first send and from there on. -/
lemma samplePersisting_run (turns : List Turn)
    (ordered : ((0 : Time) :: turns.map fun turn => turn.input.now).Pairwise (· ≤ ·))
    (resumed : ∀ turn ∈ turns, turn.action = .resume) :
    Run (System.Step sampleRequest) (System.start sampleRuntime 0)
      (System.history sampleRequest (.start sampleRuntime 0) (sampleTurns (List.replicate 7 0)) ++
        samplePersisting :: System.history sampleRequest samplePersisting.post turns)
      (System.after sampleRequest samplePersisting.post turns) := by
  refine Run.append (System.run_history _ _ _ (by decide +kernel) (by decide +kernel)) ?_
  refine .cons ⟨by decide +kernel, nofun, rfl⟩ (System.run_history _ _ _ ?_ resumed)
  exact ordered

/-- Turns for examples: the history is appended, its commit and the release of the lease raise, and the handler
    leaves. -/
def sampleRaises : List Turn :=
  let raises := { sampleInput with delivery := .failed "ConnectionError" false }
  [{ handler := 0, input := sampleInput }, { handler := 0, input := raises },
    { handler := 0, input := raises }, { handler := 0, input := sampleInput }]

/-- A first send that raises after its outcome is persisted, and is not cancelled. -/
theorem outcome_survives_first_send :
    persistedOutcome samplePersisting = some sampleOutcome ∧
    (System.after sampleRequest samplePersisting.post sampleRaises).phases 0 =
      .done (.error (.raised "ConnectionError")) ∧
    ∀ e' ∈ samplePersisting :: System.history sampleRequest samplePersisting.post sampleRaises,
      e'.post.outcome (eventKey sampleRequest samplePersisting) = some sampleOutcome := by
  have persisted : persistedOutcome samplePersisting = some sampleOutcome := by
    decide +kernel
  have checked : ∀ e ∈ System.history sampleRequest (.start sampleRuntime 0)
      (sampleTurns (List.replicate 7 0)), settledCheck sampleRequest e = true :=
    List.all_eq_true.mp (by decide +kernel)
  have alone : ∀ e ∈ System.history sampleRequest samplePersisting.post sampleRaises,
      (e.label.handler == 0) = true :=
    List.all_eq_true.mp (by decide +kernel)
  have quiet : ∀ e ∈ System.history sampleRequest samplePersisting.post sampleRaises,
      (!(e.pre.phases e.label.handler).interrupts) = true :=
    List.all_eq_true.mp (by decide +kernel)
  refine ⟨persisted, rfl, (outcome_survives_unwinding sampleRuntime sampleRequest
    (samplePersisting_run _ (by decide +kernel) (by decide +kernel)) persisted
    (fun e mem => keepsSettled_of_check (checked e mem))
    fun e mem other => absurd (eq_of_beq (alone e mem)) other).mpr ?_⟩
  rintro e mem - ⟨lease, reason, error, phase, -⟩
  have interrupts := quiet e mem
  rw [phase] at interrupts
  cases interrupts

/-- A first send that is cancelled while it appends its turn: the completed run is interrupted, and its
    response is lost. -/
theorem outcome_erased_by_cancellation :
    ¬ ∀ (agent : ChatRuntimeAgent) (requests : Nat → Request) (now : Time)
      (before after : List (Event (System agent) Turn)) (e : Event (System agent) Turn)
      (final : System agent) (outcome : RunStatus × StoredReply),
      Run (System.Step requests) (System.start agent now) (before ++ e :: after) final →
      (∀ e' ∈ before ++ e :: after, e'.label.handler = e.label.handler) →
      persistedOutcome e = some outcome →
      (final.phases e.label.handler).isDone = true →
      final.outcome (eventKey requests e) = some outcome := by
  intro claim
  let cancelled : Turn :=
    { handler := 0, input := { sampleInput with delivery := .cancelled true } }
  let turns := cancelled :: sampleTurns [0, 0, 0]
  have alone : ∀ e ∈ System.history sampleRequest (.start sampleRuntime 0)
      (sampleTurns (List.replicate 7 0)) ++
      samplePersisting :: System.history sampleRequest samplePersisting.post turns,
      (e.label.handler == 0) = true :=
    List.all_eq_true.mp (by decide +kernel)
  have kept := claim _ _ _ _ _ _ _ sampleOutcome
    (samplePersisting_run turns (by decide +kernel) (by decide +kernel))
    (fun e mem => eq_of_beq (alone e mem)) (by decide +kernel) (by decide +kernel)
  have lost : (System.after sampleRequest samplePersisting.post turns).outcome
      (eventKey sampleRequest samplePersisting) = none := by
    decide +kernel
  cases lost.symm.trans kept

end Runs

end AgentRuntime.Orchestration
