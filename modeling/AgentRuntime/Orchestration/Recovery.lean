import AgentRuntime.State.Availability
import AgentRuntime.Orchestration.History
import AgentRuntime.Orchestration.Answers
import AgentRuntime.Orchestration.Durability

/-!
# Taking a run up again

Whatever has happened to a run that is not over, and wherever its handlers were lost: when the lease of its
conversation has run out, a request may take the run up, and if nothing disturbs the handler it comes to the end of
the run with a response that is stored. Meanwhile the handlers of other conversations go on as they like.
-/

namespace AgentRuntime.Orchestration
open State Transition

/-- The request may take up the run of the record: it was never started and the request is sent again, or it was
    started and the request resumes it with a token that is not revoked. -/
inductive TakesUp (identity : RunIdentity) (record : RunRecord) : Prop where
  | again :
    identity.resumed = false →
    record.status = .pending →
    TakesUp identity record
  | resumed :
    identity.resumed = true →
    identity.resumeTokenVersion = record.resumeTokenVersion →
    record.status = .interrupted ∨ record.status = .running →
    TakesUp identity record

/-- The exception that the handler ends with. -/
def Phase.error? : Phase → Option RequestError
  | .interrupting _ _ error => some error
  | .releasing _ (.error error) => some error
  | .leaving (.error error) => some error
  | .done (.error error) => some error
  | _ => none

section Facts

variable {agent : ChatRuntimeAgent} (requests : Nat → Request) (i : Nat)

/-- The run of the handler is not over and nobody has its conversation. -/
structure Open (s : System agent) : Prop where
  record : ∃ r, recordOf agent s.store (keyOf agent (requests i)) = some r ∧ r.Matches (requests i).identity ∧
    TakesUp (requests i).identity r
  lapsed : Lapsed agent.backend s.store (requests i).identity.conversationId s.clock

/-- The lease of the handler is in force until the deadline at least. -/
def Holds (deadline : Time) (s : System agent) (lease : RunLease) : Prop :=
  lease.conversationId = (requests i).identity.conversationId ∧
    agent.store.contract.key lease.runId = keyOf agent (requests i) ∧
    ∃ expiry, deadline ≤ expiry ∧ Owns agent.backend s.store lease expiry

/-- The run of the handler is over. -/
def Over (s : System agent) : Prop :=
  ∃ r, recordOf agent s.store (keyOf agent (requests i)) = some r ∧
    (r.status = .completed ∨ r.status = .failed)

/-- The run of the handler is over with the response, which is stored and in the history. -/
def Answered (s : System agent) (response : ChatResponse) : Prop :=
  ∃ r payload, recordOf agent s.store (keyOf agent (requests i)) = some r ∧
    (r.status = .completed ∨ r.status = .failed) ∧ r.responsePayload = some payload ∧
    Json.Same (.obj response.modelDump) (.obj payload) ∧ r.historyCommittedAt.isSome = true

/-- How far the handler is in taking its run up. -/
inductive TakingUp (deadline : Time) (s : System agent) : Phase → Prop where
  | start :
    Open requests i s →
    TakingUp deadline s .start
  | reading :
    (requests i).identity.resumed = true →
    Open requests i s →
    TakingUp deadline s .reading
  | creating :
    (requests i).identity.resumed = false →
    Open requests i s →
    TakingUp deadline s (.creating false)
  | inspecting :
    Open requests i s →
    TakingUp deadline s (.inspecting false)
  | acquiring :
    Open requests i s →
    TakingUp deadline s .acquiring
  | preparing {lease expiresAt} :
    Holds requests i deadline s lease →
    TakingUp deadline s (.preparing lease { lease with expiresAt })
  | executing {lease expiresAt} :
    Holds requests i deadline s lease →
    TakingUp deadline s (.executing lease { lease with expiresAt })
  | locating {lease execution} :
    Holds requests i deadline s lease →
    TakingUp deadline s (.locating lease execution)
  | persisting {lease execution checkpointId} :
    Holds requests i deadline s lease →
    TakingUp deadline s (.persisting lease execution checkpointId)
  | appending {lease execution} :
    Holds requests i deadline s lease →
    Over requests i s →
    TakingUp deadline s (.appending lease execution)
  | committing {lease response} :
    Holds requests i deadline s lease →
    Over requests i s →
    TakingUp deadline s (.committing lease response)
  | releasing {lease response} :
    Holds requests i deadline s lease →
    Answered requests i s response →
    TakingUp deadline s (.releasing lease (.ok response))
  | leaving {response} :
    Lapsed agent.backend s.store (requests i).identity.conversationId s.clock →
    Answered requests i s response →
    TakingUp deadline s (.leaving (.ok response))
  | done {response} :
    Lapsed agent.backend s.store (requests i).identity.conversationId s.clock →
    Answered requests i s response →
    TakingUp deadline s (.done (.ok response))

/-- Nothing disturbs the handler at the event: it gets through the gate, its awaits return before the deadline, the
    lease that it takes over has run out on the clock of its process too, the checkpoint of a run that it resumes is
    there, and the database takes its values. -/
structure Smooth (deadline : Time) (e : Event (System agent) Turn) : Prop where
  entered : e.label.handler = i → e.pre.phases i = .start →
    (e.pre.gates (requests i).process).lookup (requests i).identity.conversationId = none
  returned : e.label.handler = i → e.label.input.delivery = .returned
  inTime : e.label.handler = i → e.label.input.now < deadline
  passed : e.label.handler = i → ∀ r, recordOf agent e.pre.store (keyOf agent (requests i)) = some r →
    e.pre.phases i = .reading → r.status = .running →
      (r.leaseExpiresAt.any fun expiresAt => expiresAt ≤ e.label.input.processNow) = true
  checkpoint : e.label.handler = i → e.pre.phases i = .inspecting false → (requests i).identity.resumed = true →
    e.label.input.checkpoint.isSome = true
  stored : e.label.handler = i → (e.post.phases i).error? ≠ some (.repository .database)

end Facts

section Apart

variable {agent : ChatRuntimeAgent} {requests : Nat → Request} {s s' : System agent} {turn : Turn} {i : Nat}
variable {deadline : Time}

/-- The record is the same, but for the end of its lease. -/
inductive Renewed (r : RunRecord) : RunRecord → Prop where
  | same :
    Renewed r r
  | renewed {expiresAt now} :
    Renewed r (r.renewed expiresAt now)

lemma known_of_stored? {p : Phase} {response : ChatResponse} (stored : p.stored? = some response) :
    p.knows = true := by
  cases p <;> first | rfl | cases stored

/-- A handler leaves the records of other conversations alone. -/
lemma System.step_record_apart (inv : Inv requests s) (st : System.Step requests s turn s') {k : String}
    {r : RunRecord} (found : recordOf agent s.store k = some r)
    (apart : (requests turn.handler).identity.conversationId ≠ r.conversationId) :
    ∃ r', recordOf agent s'.store k = some r' ∧ Renewed r r' := by
  -- a handler that knows its record is in the conversation of the record
  have other (known : (s.phases turn.handler).knows = true) : k ≠ keyOf agent (requests turn.handler) := by
    rintro rfl
    obtain ⟨r', found', m⟩ := inv.known _ known
    cases found.symm.trans found'
    exact apart m.conversation.symm
  have otherLease {lease : RunLease} (held : (s.phases turn.handler).lease? = some lease) :
      k ≠ agent.store.contract.key lease.runId := by
    rw [(inv.held _ lease held).1]
    exact other (Phase.knows_of_lease? held)
  obtain ⟨p', -, ⟨-, same⟩ | adv⟩ := System.step_cases st
  · exact ⟨r, (congrArg (recordOf agent · k) same).trans found, .same⟩
  · obtain ⟨r', r'', before, after, rewrite⟩ | ⟨none, -⟩ := adv.change.record k
    · cases found.symm.trans before
      refine ⟨r'', after, ?_⟩
      cases rewrite with
      | same => exact .same
      | acquire phase own => exact absurd own (other (by rw [phase]; rfl))
      | renew => exact .renewed
      | persist phase own => exact absurd own (otherLease (by rw [phase]; rfl))
      | interrupt phase own => exact absurd own (otherLease (by rw [phase]; rfl))
      | commit stored own =>
        obtain own | ⟨lease, held, own⟩ := own
        · exact absurd own (other (known_of_stored? stored))
        · exact absurd own (otherLease held)
    · cases found.symm.trans none

/-- A handler writes the row of its own conversation only. -/
lemma System.step_row_apart (inv : Inv requests s) (renews : ∀ i, Renews (s.phases i))
    (st : System.Step requests s turn s') {c : String}
    (apart : (requests turn.handler).identity.conversationId ≠ c) :
    agent.backend.row s'.store c = agent.backend.row s.store c := by
  obtain same | ⟨call, own, exec⟩ := System.step_call st
  · rw [same]
  · rw [exec]
    apply Backend.row_exec
    intro writes
    apply apart
    cases call with
    | acquire identity ownerId ttlSeconds =>
      cases action : turn.action with
      | heartbeat =>
        rw [action] at own
        cases phase : s.phases turn.handler <;> rw [phase] at own <;> cases own
      | resume =>
        rw [action] at own
        cases phase : s.phases turn.handler <;> rw [phase] at own <;> cases own
        exact Option.some.inj writes
    | renew current ttlSeconds =>
      obtain ⟨lease, held, same⟩ := lease_of_renew own
      have conversation := (inv.held _ lease held).2.1
      rw [← conversation, ← (renews _ _ _ same).1]
      exact Option.some.inj writes
    | release lease =>
      rw [← (inv.held _ lease (lease_of_release own)).2.1]
      exact Option.some.inj writes
    | _ => cases writes

lemma Renewed.takesUp {identity : RunIdentity} {r r' : RunRecord} (renewed : Renewed r r')
    (takes : TakesUp identity r) : TakesUp identity r' := by
  cases renewed with
  | same => exact takes
  | renewed =>
    cases takes with
    | again fresh pending => exact .again fresh pending
    | resumed resumes version status => exact .resumed resumes version status

lemma Renewed.matches {identity : RunIdentity} {r r' : RunRecord} (renewed : Renewed r r')
    (m : r.Matches identity) : r'.Matches identity := by
  cases renewed with
  | same => exact m
  | renewed => exact ⟨m.conversation, m.thread, m.hash, m.hashVersion, m.schema⟩

lemma Renewed.names {lease : RunLease} {r r' : RunRecord} (renewed : Renewed r r') (names : r.Names lease) :
    r'.Names lease := by
  cases renewed with
  | same => exact names
  | renewed => exact ⟨names.conversation, names.owner, names.token⟩

/-- What a turn in another conversation leaves as it is. -/
structure Undisturbing (requests : Nat → Request) (i : Nat) (s s' : System agent) : Prop where
  clock : s.clock ≤ s'.clock
  row : agent.backend.row s'.store (requests i).identity.conversationId =
    agent.backend.row s.store (requests i).identity.conversationId
  record : ∀ k r, recordOf agent s.store k = some r →
    r.conversationId = (requests i).identity.conversationId → ∃ r', recordOf agent s'.store k = some r' ∧
      Renewed r r'

lemma System.step_apart (inv : Inv requests s) (renews : ∀ i, Renews (s.phases i))
    (st : System.Step requests s turn s')
    (apart : (requests turn.handler).identity.conversationId ≠ (requests i).identity.conversationId) :
    Undisturbing requests i s s' where
  clock := by
    obtain ⟨later, -, rfl⟩ := st
    exact later
  row := System.step_row_apart inv renews st apart
  record k r found conversation := by
    apply System.step_record_apart inv st found
    rw [conversation]
    exact apart

lemma Open.apart (open' : Open requests i s) (apart : Undisturbing requests i s s') : Open requests i s' := by
  obtain ⟨⟨r, found, m, takes⟩, lapsed⟩ := open'
  obtain ⟨r', found', renewed⟩ := apart.record _ r found m.conversation
  exact ⟨⟨r', found', renewed.matches m, renewed.takesUp takes⟩, lapsed.later apart.clock apart.row⟩

lemma Holds.apart {lease : RunLease} (holds : Holds requests i deadline s lease)
    (apart : Undisturbing requests i s s') : Holds requests i deadline s' lease := by
  obtain ⟨conversation, key, expiry, late, owns⟩ := holds
  obtain ⟨r, found, names⟩ := owns.record
  obtain ⟨r', found', renewed⟩ := apart.record _ r found (names.conversation.trans conversation)
  refine ⟨conversation, key, expiry, late, owns.update ?_ found' (renewed.names names)⟩
  rw [conversation]
  exact apart.row

/-- What is known of the record of a run that the handler has ended. -/
lemma Over.apart (bound : Registered requests s i) (ended : Over requests i s)
    (apart : Undisturbing requests i s s') : Over requests i s' := by
  obtain ⟨r, found, status⟩ := ended
  obtain ⟨r', found', m⟩ := bound
  cases found.symm.trans found'
  obtain ⟨r', found', renewed⟩ := apart.record _ r found m.conversation
  refine ⟨r', found', ?_⟩
  cases renewed <;> exact status

lemma Answered.apart {response : ChatResponse} (bound : Registered requests s i)
    (answered : Answered requests i s response) (apart : Undisturbing requests i s s') :
    Answered requests i s' response := by
  obtain ⟨r, payload, found, status, stored, same, committed⟩ := answered
  obtain ⟨r', found', m⟩ := bound
  cases found.symm.trans found'
  obtain ⟨r', found', renewed⟩ := apart.record _ r found m.conversation
  refine ⟨r', payload, found', ?_⟩
  cases renewed <;> exact ⟨status, stored, same, committed⟩

/-- A turn in another conversation does not matter to the handler. -/
lemma TakingUp.apart {p : Phase} (bound : Registered requests s i) (taking : TakingUp requests i deadline s p)
    (apart : Undisturbing requests i s s') : TakingUp requests i deadline s' p := by
  cases taking with
  | start open' => exact .start (open'.apart apart)
  | reading resumes open' => exact .reading resumes (open'.apart apart)
  | creating fresh open' => exact .creating fresh (open'.apart apart)
  | inspecting open' => exact .inspecting (open'.apart apart)
  | acquiring open' => exact .acquiring (open'.apart apart)
  | preparing holds => exact .preparing (holds.apart apart)
  | executing holds => exact .executing (holds.apart apart)
  | locating holds => exact .locating (holds.apart apart)
  | persisting holds => exact .persisting (holds.apart apart)
  | appending holds ended => exact .appending (holds.apart apart) (ended.apart bound apart)
  | committing holds ended => exact .committing (holds.apart apart) (ended.apart bound apart)
  | releasing holds answered => exact .releasing (holds.apart apart) (answered.apart bound apart)
  | leaving lapsed answered =>
    exact .leaving (lapsed.later apart.clock apart.row) (answered.apart bound apart)
  | done lapsed answered => exact .done (lapsed.later apart.clock apart.row) (answered.apart bound apart)

end Apart

section Own

variable {agent : ChatRuntimeAgent} {requests : Nat → Request} {s s' : System agent} {turn : Turn} {i : Nat}
variable {first deadline : Time}

/-- The clock goes on and the store stays, where no call of the repository is made. -/
lemma Open.idle (open' : Open requests i s) (later : s.clock ≤ s'.clock) (same : s'.store = s.store) :
    Open requests i s' := by
  obtain ⟨⟨r, found, m, takes⟩, lapsed⟩ := open'
  refine ⟨⟨r, ?_, m, takes⟩, lapsed.later later (congrArg (agent.backend.row · _) same)⟩
  rw [same]
  exact found

lemma Holds.idle {lease : RunLease} (holds : Holds requests i deadline s lease) (same : s'.store = s.store) :
    Holds requests i deadline s' lease := by
  rw [Holds, same]
  exact holds

/-- The preflight lets the request take its run up. -/
lemma TakesUp.proceeds {request : Request} {input : Input} {r : RunRecord}
    (takes : TakesUp request.identity r)
    (passed : request.identity.resumed = true → r.status = .running →
      (r.leaseExpiresAt.any fun expiresAt => expiresAt ≤ input.processNow) = true) :
    afterLookup request r false false input = .inspecting false := by
  have unstored {status : RunStatus} (same : r.status = status) (other : status ∉ replayed) :
      replayablePayload r = none := by
    rw [replayablePayload, same, if_neg other]
  cases takes with
  | again fresh pending =>
    have empty := unstored pending (by decide)
    simp [afterLookup, preflightExistingRun, fresh, pending, empty]
  | resumed resumes version status =>
    rcases status with interrupted | running
    · have empty := unstored interrupted (by decide)
      simp [afterLookup, preflightExistingRun, resumes, version, interrupted, empty]
    · have empty := unstored running (by decide)
      have lapsed := passed resumes running
      simp [afterLookup, preflightExistingRun, resumes, version, running, empty, lapsed]

variable {now : Time}

/-- A handler with a conversation that is free enters the gate. -/
lemma System.step_entered (st : System.Step requests s turn s') (phase : s.phases turn.handler = .start)
    (free : (s.gates (requests turn.handler).process).lookup
      (requests turn.handler).identity.conversationId = none) :
    s'.phases turn.handler = (if (requests turn.handler).identity.resumed then .reading else .creating false) ∧
      s'.store = s.store := by
  have action := System.step_action st (by rw [phase]; rfl)
  obtain ⟨-, -, rfl⟩ := st
  simp only [System.take, Function.update_self, action, phase, advance, ConversationGate.enter, free,
    Option.isSome_none, Bool.false_eq_true, if_false, and_self]

lemma System.step_clock (st : System.Step requests s turn s') : s'.clock = turn.input.now := by
  obtain ⟨-, -, rfl⟩ := st
  rfl

lemma TakingUp.started (st : System.Step requests s turn s') (phase : s.phases turn.handler = .start)
    (open' : Open requests turn.handler s) (smooth : Smooth requests turn.handler deadline ⟨s, turn, s'⟩) :
    TakingUp requests turn.handler deadline s' (s'.phases turn.handler) := by
  obtain ⟨next, same⟩ := System.step_entered st phase (smooth.entered rfl phase)
  have later : s.clock ≤ s'.clock := (System.step_clock st).symm ▸ st.1
  rw [next]
  cases resumes : (requests turn.handler).identity.resumed with
  | true => exact .reading resumes (open'.idle later same)
  | false => exact .creating resumes (open'.idle later same)

lemma TakingUp.read (st : System.Step requests s turn s') (phase : s.phases turn.handler = .reading)
    (open' : Open requests turn.handler s) (smooth : Smooth requests turn.handler deadline ⟨s, turn, s'⟩) :
    TakingUp requests turn.handler deadline s' (s'.phases turn.handler) := by
  have action := System.step_action st (by rw [phase]; rfl)
  have moved := System.step_resume st action (by simp [phase]) (by simp [phase])
  have returned : turn.input.delivery = .returned := smooth.returned rfl
  have later : s.clock ≤ s'.clock := (System.step_clock st).symm ▸ st.1
  obtain ⟨r, found, m, takes⟩ := open'.record
  rw [phase] at moved
  simp only [resume, returned, awaited] at moved
  cases called : agent.store.repo.get (requests turn.handler).identity.runId s.store with
  | mk answer store =>
    rw [called] at moved
    have same := (agent.store.contract.get_spec called).1
    obtain rfl | e := get_answers called
    · obtain ⟨next, -⟩ := Prod.mk.inj moved
      exact absurd (congrArg Phase.error? next.symm) (smooth.stored rfl)
    · have answered : answer = .ok (some r) := e.trans (congrArg Except.ok found)
      subst answered
      simp only [validateRecordIdentity_ok.mpr m] at moved
      obtain ⟨next, kept⟩ := Prod.mk.inj moved
      rw [← next, takes.proceeds fun _ => smooth.passed rfl r found phase]
      exact .inspecting (open'.idle later (kept.symm.trans same))

lemma TakingUp.created (st : System.Step requests s turn s') (phase : s.phases turn.handler = .creating false)
    (fresh : (requests turn.handler).identity.resumed = false) (open' : Open requests turn.handler s)
    (smooth : Smooth requests turn.handler deadline ⟨s, turn, s'⟩) :
    TakingUp requests turn.handler deadline s' (s'.phases turn.handler) := by
  have action := System.step_action st (by rw [phase]; rfl)
  have moved := System.step_resume st action (by simp [phase]) (by simp [phase])
  have returned : turn.input.delivery = .returned := smooth.returned rfl
  have later : s.clock ≤ s'.clock := (System.step_clock st).symm ▸ st.1
  obtain ⟨r, found, m, takes⟩ := open'.record
  rw [phase] at moved
  simp only [resume, returned, awaited] at moved
  cases called : agent.store.repo.createOrGet turn.input.now (requests turn.handler).identity s.store with
  | mk answer store =>
    rw [called] at moved
    obtain ⟨error, rfl, -, rfl | other⟩ | ⟨r', found', -, rfl, same⟩ | ⟨r', none, -⟩ :=
      agent.store.contract.createOrGet_spec called
    · obtain ⟨next, -⟩ := Prod.mk.inj moved
      exact absurd (congrArg Phase.error? next.symm) (smooth.stored rfl)
    · exact absurd m (other r found)
    · cases found.symm.trans found'
      obtain ⟨next, kept⟩ := Prod.mk.inj moved
      have passed (resumes : (requests turn.handler).identity.resumed = true) : False := by
        cases fresh.symm.trans resumes
      rw [← next, takes.proceeds fun resumes => (passed resumes).elim]
      exact .inspecting (open'.idle later (kept.symm.trans same))
    · cases found.symm.trans none

lemma TakingUp.inspected (st : System.Step requests s turn s') (phase : s.phases turn.handler = .inspecting false)
    (open' : Open requests turn.handler s) (smooth : Smooth requests turn.handler deadline ⟨s, turn, s'⟩) :
    TakingUp requests turn.handler deadline s' (s'.phases turn.handler) := by
  have action := System.step_action st (by rw [phase]; rfl)
  have moved := System.step_resume st action (by simp [phase]) (by simp [phase])
  have returned : turn.input.delivery = .returned := smooth.returned rfl
  have later : s.clock ≤ s'.clock := (System.step_clock st).symm ▸ st.1
  rw [phase] at moved
  simp only [resume, returned, Delivery.answer] at moved
  obtain ⟨next, kept⟩ := Prod.mk.inj moved
  have goes : afterInspection (requests turn.handler) false turn.input.checkpoint.isSome = .acquiring := by
    cases resumes : (requests turn.handler).identity.resumed with
    | true => simp [afterInspection, resumes, smooth.checkpoint rfl phase resumes]
    | false => simp [afterInspection, resumes]
  rw [← next, goes]
  exact .acquiring (open'.idle later kept.symm)

lemma TakingUp.acquired (st : System.Step requests s turn s') (phase : s.phases turn.handler = .acquiring)
    (since : first ≤ s.clock) (open' : Open requests turn.handler s)
    (smooth : Smooth requests turn.handler deadline ⟨s, turn, s'⟩)
    (enough : deadline ≤ first + seconds agent.settings.runLeaseTtlSeconds) :
    TakingUp requests turn.handler deadline s' (s'.phases turn.handler) := by
  have action := System.step_action st (by rw [phase]; rfl)
  have moved := System.step_resume st action (by simp [phase]) (by simp [phase])
  have returned : turn.input.delivery = .returned := smooth.returned rfl
  obtain ⟨r, found, m, -⟩ := open'.record
  rw [phase] at moved
  simp only [resume, returned, awaited] at moved
  cases called : agent.store.repo.acquire turn.input.now (requests turn.handler).identity turn.input.drawn.val
      agent.settings.runLeaseTtlSeconds s.store with
  | mk answer store =>
    rw [called] at moved
    obtain rfl | ⟨lease, rfl, conversation, key, owns⟩ :=
      acquire_answers ⟨r, found, m⟩ (open'.lapsed.later st.1 rfl) called
    · obtain ⟨next, -⟩ := Prod.mk.inj moved
      exact absurd (congrArg Phase.error? next.symm) (smooth.stored rfl)
    · obtain ⟨next, kept⟩ := Prod.mk.inj moved
      have late : deadline ≤ turn.input.now + seconds agent.settings.runLeaseTtlSeconds :=
        Int.le_trans enough (Int.add_le_add_right (Int.le_trans since st.1) _)
      rw [← next]
      show TakingUp _ _ _ _ (.preparing lease { lease with expiresAt := lease.expiresAt })
      exact .preparing ⟨conversation, key, _, late, kept ▸ owns⟩

/-- The heartbeat extends the lease. -/
lemma Holds.renewed {lease : RunLease} {expiresAt : Time} {answer} {t' : agent.store.σ} (since : first ≤ s.clock)
    (later : s.clock ≤ now) (enough : deadline ≤ first + seconds agent.settings.runLeaseTtlSeconds)
    (inv : Inv requests s) (holds : Holds requests i deadline s lease) (inTime : now < deadline)
    (same : s'.store = t')
    (called : agent.store.repo.renew now { lease with expiresAt } agent.settings.runLeaseTtlSeconds s.store =
      (answer, t')) :
    answer = .error .database ∨
      ∃ expiresAt, answer = .ok { lease with expiresAt } ∧ Holds requests i deadline s' lease := by
  obtain ⟨conversation, key, expiry, late, owns⟩ := holds
  obtain refused | ⟨⟨expiresAt', e⟩, owns'⟩ :=
    (owns.current expiresAt).renew (Int.lt_of_lt_of_le inTime late) inv.store called
  · exact .inl refused
  · have late' : deadline ≤ now + seconds agent.settings.runLeaseTtlSeconds :=
      Int.le_trans enough (Int.add_le_add_right (Int.le_trans since later) _)
    refine .inr ⟨expiresAt', e, conversation, key, _, late', ?_⟩
    rw [same]
    exact owns'.current lease.expiresAt

/-- A turn of the handler, or of its heartbeat, while its run is executed. -/
lemma TakingUp.worked (st : System.Step requests s turn s') {lease : RunLease} {expiresAt : Time}
    (phase : s.phases turn.handler = .preparing lease { lease with expiresAt } ∨
      s.phases turn.handler = .executing lease { lease with expiresAt })
    (inv : Inv requests s) (since : first ≤ s.clock) (holds : Holds requests turn.handler deadline s lease)
    (smooth : Smooth requests turn.handler deadline ⟨s, turn, s'⟩)
    (enough : deadline ≤ first + seconds agent.settings.runLeaseTtlSeconds) :
    TakingUp requests turn.handler deadline s' (s'.phases turn.handler) := by
  have returned : turn.input.delivery = .returned := smooth.returned rfl
  have inTime : turn.input.now < deadline := smooth.inTime rfl
  cases action : turn.action with
  | resume =>
    have entered : s.phases turn.handler ≠ .start := by
      rcases phase with phase | phase <;> simp [phase]
    have staying : ∀ result, s.phases turn.handler ≠ .leaving result := by
      rcases phase with phase | phase <;> simp [phase]
    have moved := System.step_resume st action entered staying
    rcases phase with phase | phase
    · rw [phase] at moved
      simp only [resume, returned, Delivery.answer] at moved
      obtain ⟨next, kept⟩ := Prod.mk.inj moved
      rw [← next]
      exact .executing (holds.idle kept.symm)
    · rw [phase] at moved
      simp only [resume, returned, Delivery.answer] at moved
      obtain ⟨next, kept⟩ := Prod.mk.inj moved
      rw [← next]
      exact .locating (holds.idle kept.symm)
  | heartbeat =>
    have moved : heartbeat agent turn.input s.store (s.phases turn.handler) =
        (s'.phases turn.handler, s'.store) := by
      obtain ⟨-, -, rfl⟩ := st
      simp only [System.take, Function.update_self, action]
      rfl
    -- a heartbeat renews the lease, or its failure ends the execution
    cases called : agent.store.repo.renew turn.input.now { lease with expiresAt }
        agent.settings.runLeaseTtlSeconds s.store with
    | mk answer store =>
      -- the phase is the same afterwards, with the lease that was renewed
      have beat {working : RunLease → Phase}
          (failed : ∀ error, answer = .error error →
            (unwind lease false (.repository error), store) = (s'.phases turn.handler, s'.store))
          (goes : ∀ renewed, answer = .ok renewed → (working renewed, store) = (s'.phases turn.handler, s'.store))
          (keeps : ∀ expiresAt, Holds requests turn.handler deadline s' lease →
            TakingUp requests turn.handler deadline s' (working { lease with expiresAt })) :
          TakingUp requests turn.handler deadline s' (s'.phases turn.handler) := by
        cases answer with
        | error error =>
          obtain ⟨next, kept⟩ := Prod.mk.inj (failed error rfl)
          obtain e | ⟨_, e, -⟩ := holds.renewed since st.1 enough inv inTime kept.symm called
          · cases e
            exact absurd (congrArg Phase.error? next.symm) (smooth.stored rfl)
          · cases e
        | ok renewed =>
          obtain ⟨next, kept⟩ := Prod.mk.inj (goes renewed rfl)
          obtain e | ⟨expiresAt', e, holds'⟩ := holds.renewed since st.1 enough inv inTime kept.symm called
          · cases e
          · cases e
            rw [← next]
            exact keeps expiresAt' holds'
      rcases phase with phase | phase
      all_goals
        rw [phase] at moved
        simp only [heartbeat, returned, awaited, called] at moved
        apply beat
        · rintro error rfl
          exact moved
        · rintro renewed rfl
          exact moved
        · intro expiresAt' holds'
          constructor
          exact holds'

lemma TakingUp.located (st : System.Step requests s turn s') {lease : RunLease} {execution : RunExecution}
    (phase : s.phases turn.handler = .locating lease execution)
    (holds : Holds requests turn.handler deadline s lease)
    (smooth : Smooth requests turn.handler deadline ⟨s, turn, s'⟩) :
    TakingUp requests turn.handler deadline s' (s'.phases turn.handler) := by
  have action := System.step_action st (by rw [phase]; rfl)
  have moved := System.step_resume st action (by simp [phase]) (by simp [phase])
  have returned : turn.input.delivery = .returned := smooth.returned rfl
  rw [phase] at moved
  simp only [resume, returned, Delivery.answer] at moved
  obtain ⟨next, kept⟩ := Prod.mk.inj moved
  rw [← next]
  exact .persisting (holds.idle kept.symm)

lemma TakingUp.persisted (st : System.Step requests s turn s') (inv : Inv requests s) {lease : RunLease}
    {execution : RunExecution} {checkpointId : Option String}
    (phase : s.phases turn.handler = .persisting lease execution checkpointId)
    (holds : Holds requests turn.handler deadline s lease)
    (smooth : Smooth requests turn.handler deadline ⟨s, turn, s'⟩) :
    TakingUp requests turn.handler deadline s' (s'.phases turn.handler) := by
  have action := System.step_action st (by rw [phase]; rfl)
  have moved := System.step_resume st action (by simp [phase]) (by simp [phase])
  have returned : turn.input.delivery = .returned := smooth.returned rfl
  obtain ⟨conversation, key, expiry, late, owns⟩ := holds
  rw [phase] at moved
  simp only [resume, returned, awaited] at moved
  cases called : agent.store.repo.markTerminal turn.input.now lease (execution.outcome checkpointId) s.store with
  | mk answer store =>
    rw [called] at moved
    -- the lease is in force, so only the database can fail
    obtain rfl | ⟨⟨r, rfl⟩, owns'⟩ :=
      owns.markTerminal (Int.lt_of_lt_of_le (smooth.inTime rfl) late) inv.store called
    · obtain ⟨next, -⟩ := Prod.mk.inj moved
      exact absurd (congrArg Phase.error? next.symm) (smooth.stored rfl)
    · obtain ⟨next, kept⟩ := Prod.mk.inj moved
      rw [← next]
      obtain ⟨-, ⟨_, e⟩, -⟩ | ⟨-, r', payload, -, -, -, records, -⟩ :=
        agent.store.contract.markTerminal_spec called
      · cases e
      · refine .appending ⟨conversation, key, expiry, late, kept ▸ owns'⟩ ?_
        rw [Over, ← kept, ← key]
        exact ⟨_, (congrFun records _).trans (Function.update_self _ _ _), execution.status.isOver⟩

lemma TakingUp.appended (st : System.Step requests s turn s') (inv : Inv requests s) {lease : RunLease}
    {execution : RunExecution} (phase : s.phases turn.handler = .appending lease execution)
    (holds : Holds requests turn.handler deadline s lease) (ended : Over requests turn.handler s)
    (smooth : Smooth requests turn.handler deadline ⟨s, turn, s'⟩) :
    TakingUp requests turn.handler deadline s' (s'.phases turn.handler) := by
  have action := System.step_action st (by rw [phase]; rfl)
  have moved := System.step_resume st action (by simp [phase]) (by simp [phase])
  have returned : turn.input.delivery = .returned := smooth.returned rfl
  have tagged := inv.responses turn.handler execution.response (by rw [phase]; rfl)
  obtain ⟨response, flagged⟩ := tagged.withHistoryPersisted true
  rw [phase] at moved
  simp only [resume, returned, Delivery.answer, Except.isOk, Except.toBool, flagged, if_true] at moved
  obtain ⟨next, kept⟩ := Prod.mk.inj moved
  rw [← next]
  refine .committing (holds.idle kept.symm) ?_
  rw [Over, ← kept]
  exact ended

lemma TakingUp.committed (st : System.Step requests s turn s') (inv : Inv requests s) {lease : RunLease}
    {response : ChatResponse} (phase : s.phases turn.handler = .committing lease response)
    (holds : Holds requests turn.handler deadline s lease) (ended : Over requests turn.handler s)
    (smooth : Smooth requests turn.handler deadline ⟨s, turn, s'⟩) :
    TakingUp requests turn.handler deadline s' (s'.phases turn.handler) := by
  have action := System.step_action st (by rw [phase]; rfl)
  have moved := System.step_resume st action (by simp [phase]) (by simp [phase])
  have returned : turn.input.delivery = .returned := smooth.returned rfl
  obtain ⟨conversation, key, expiry, late, owns⟩ := holds
  rw [phase] at moved
  simp only [resume, returned, awaited] at moved
  cases called : agent.store.repo.markHistoryCommitted turn.input.now lease (some response.modelDump) s.store with
  | mk answer store =>
    rw [called] at moved
    obtain rfl | ⟨⟨r, rfl⟩, owns'⟩ :=
      owns.markHistoryCommitted (Int.lt_of_lt_of_le (smooth.inTime rfl) late) inv.store called
    · obtain ⟨next, -⟩ := Prod.mk.inj moved
      exact absurd (congrArg Phase.error? next.symm) (smooth.stored rfl)
    · obtain ⟨next, kept⟩ := Prod.mk.inj moved
      rw [← next]
      obtain ⟨_, e, -⟩ | ⟨r', payload, committedAt, found, -, keeps, -, records, -⟩ :=
        agent.store.contract.markHistoryCommitted_spec called
      · cases e
      · obtain ⟨stored, rfl, same⟩ := (keeps (by simp)).object _ rfl (by simp [ChatResponse.modelDump])
        obtain ⟨r'', found', status⟩ := ended
        rw [key] at found
        cases found.symm.trans found'
        refine .releasing ⟨conversation, key, expiry, late, kept ▸ owns'⟩ ?_
        rw [Answered, ← kept, ← key]
        exact ⟨_, stored, (congrFun records _).trans (Function.update_self _ _ _), status, rfl, same, rfl⟩

lemma TakingUp.released (st : System.Step requests s turn s') (inv : Inv requests s) {lease : RunLease}
    {response : ChatResponse} (phase : s.phases turn.handler = .releasing lease (.ok response))
    (holds : Holds requests turn.handler deadline s lease) (answered : Answered requests turn.handler s response)
    (smooth : Smooth requests turn.handler deadline ⟨s, turn, s'⟩) :
    TakingUp requests turn.handler deadline s' (s'.phases turn.handler) := by
  have action := System.step_action st (by rw [phase]; rfl)
  have moved := System.step_resume st action (by simp [phase]) (by simp [phase])
  have returned : turn.input.delivery = .returned := smooth.returned rfl
  obtain ⟨conversation, key, expiry, late, owns⟩ := holds
  rw [phase] at moved
  simp only [resume, returned, awaited] at moved
  cases called : agent.store.repo.release turn.input.now lease s.store with
  | mk answer store =>
    rw [called] at moved
    obtain rfl | ⟨rfl, lapsed⟩ := owns.release inv.store called
    · obtain ⟨next, -⟩ := Prod.mk.inj moved
      exact absurd (congrArg Phase.error? next.symm) (smooth.stored rfl)
    · obtain ⟨next, kept⟩ := Prod.mk.inj moved
      rw [← next]
      refine .leaving ?_ ?_
      · rw [← kept, ← conversation, System.step_clock st]
        exact lapsed
      · rw [Answered, ← kept]
        have records := (agent.store.contract.release_spec called).1
        rw [recordOf, records]
        exact answered

/-- A handler that has its response leaves the store alone. -/
lemma TakingUp.left (st : System.Step requests s turn s') {response : ChatResponse}
    (phase : s.phases turn.handler = .leaving (.ok response) ∨ s.phases turn.handler = .done (.ok response))
    (lapsed : Lapsed agent.backend s.store (requests turn.handler).identity.conversationId s.clock)
    (answered : Answered requests turn.handler s response) :
    TakingUp requests turn.handler deadline s' (s'.phases turn.handler) := by
  have quiet : (s.phases turn.handler).beats = false := by
    rcases phase with phase | phase <;> rw [phase] <;> rfl
  have action := System.step_action st quiet
  have moved : s'.phases turn.handler = .done (.ok response) ∧ s'.store = s.store := by
    obtain ⟨-, -, rfl⟩ := st
    simp only [System.take, Function.update_self, action]
    rcases phase with phase | phase <;> rw [phase] <;> exact ⟨rfl, rfl⟩
  rw [moved.1]
  have later : s.clock ≤ s'.clock := (System.step_clock st).symm ▸ st.1
  refine .done ?_ ?_
  · exact lapsed.later later (congrArg (agent.backend.row · _) moved.2)
  · rw [Answered, moved.2]
    exact answered

/-- A smooth turn takes the handler on. -/
lemma TakingUp.own (taking : TakingUp requests turn.handler deadline s (s.phases turn.handler))
    (st : System.Step requests s turn s') (inv : Inv requests s) (since : first ≤ s.clock)
    (smooth : Smooth requests turn.handler deadline ⟨s, turn, s'⟩)
    (enough : deadline ≤ first + seconds agent.settings.runLeaseTtlSeconds) :
    TakingUp requests turn.handler deadline s' (s'.phases turn.handler) := by
  generalize phase : s.phases turn.handler = p at taking
  cases taking with
  | start open' => exact started st phase open' smooth
  | reading _ open' => exact read st phase open' smooth
  | creating fresh open' => exact created st phase fresh open' smooth
  | inspecting open' => exact inspected st phase open' smooth
  | acquiring open' => exact acquired st phase since open' smooth enough
  | preparing holds => exact worked st (.inl phase) inv since holds smooth enough
  | executing holds => exact worked st (.inr phase) inv since holds smooth enough
  | locating holds => exact located st phase holds smooth
  | persisting holds => exact persisted st inv phase holds smooth
  | appending holds ended => exact appended st inv phase holds ended smooth
  | committing holds ended => exact committed st inv phase holds ended smooth
  | releasing holds answered => exact released st inv phase holds answered smooth
  | leaving lapsed answered => exact left st (.inl phase) lapsed answered
  | done lapsed answered => exact left st (.inr phase) lapsed answered

end Own

section Runs

variable {agent : ChatRuntimeAgent} {requests : Nat → Request} {s s' final : System agent} {turn : Turn} {i : Nat}
variable {first now : Time} {events later : List (Event (System agent) Turn)}

/-- When the lease runs out that a handler gets at the instant, or later. -/
abbrev deadlineOf (agent : ChatRuntimeAgent) (first : Time) : Time :=
  first + seconds agent.settings.runLeaseTtlSeconds

/-- What holds while the handler takes its run up. -/
structure OnTheWay (requests : Nat → Request) (i : Nat) (first : Time) (s : System agent) : Prop where
  inv : Inv requests s
  renews : ∀ j, Renews (s.phases j)
  since : first ≤ s.clock
  bound : Registered requests s i
  taking : TakingUp requests i (deadlineOf agent first) s (s.phases i)

lemma OnTheWay.step (way : OnTheWay requests i first s) (st : System.Step requests s turn s')
    (alone : turn.handler = i ∨
      (requests turn.handler).identity.conversationId ≠ (requests i).identity.conversationId)
    (smooth : Smooth requests i (deadlineOf agent first) ⟨s, turn, s'⟩) : OnTheWay requests i first s' where
  inv := way.inv.step st
  renews := System.step_renews st way.renews
  since := by
    rw [System.step_clock st]
    exact Int.le_trans way.since st.1
  bound := way.bound.step st
  taking := by
    by_cases own : turn.handler = i
    · subst own
      exact way.taking.own st way.inv way.since smooth (Int.le_refl _)
    · have apart := alone.resolve_left own
      obtain ⟨p', phases, -⟩ := System.step_cases st
      rw [phases, Function.update_of_ne (Ne.symm own)]
      exact way.taking.apart way.bound (System.step_apart way.inv way.renews st apart)

lemma OnTheWay.run (way : OnTheWay requests i first s) (run : Run (System.Step requests) s later final)
    (alone : ∀ e ∈ later, e.label.handler = i ∨
      (requests e.label.handler).identity.conversationId ≠ (requests i).identity.conversationId)
    (smooth : ∀ e ∈ later, Smooth requests i (deadlineOf agent first) e) : OnTheWay requests i first final := by
  refine run.invariant (I := OnTheWay requests i first)
    (G := fun e => (e.label.handler = i ∨
      (requests e.label.handler).identity.conversationId ≠ (requests i).identity.conversationId) ∧
      Smooth requests i (deadlineOf agent first) e) ?_ ?_ way
  · rintro e st ⟨alone, smooth⟩ way
    exact way.step st alone smooth
  · exact fun e mem => ⟨alone e mem, smooth e mem⟩

/-- A run that is not over is never lost. In every state that any interleaving of handlers leads to, wherever they
    stopped for good: when the lease of the conversation has run out, a request that may take the run up comes to
    its end with a response, if nothing disturbs its handler before its own lease could run out and no other handler
    of the conversation goes on. The response is stored as the outcome of the run and is in the history, and the
    conversation is free. The handlers of other conversations may go on as they like. -/
theorem run_recovered (run : Run (System.Step requests) (.start agent now) events s)
    (waiting : s.phases i = .start) (open' : Open requests i s)
    (taken : Run (System.Step requests) s later final)
    (alone : ∀ e ∈ later, e.label.handler = i ∨
      (requests e.label.handler).identity.conversationId ≠ (requests i).identity.conversationId)
    (smooth : ∀ e ∈ later, Smooth requests i (deadlineOf agent s.clock) e)
    (often : 14 ≤ later.countP (goesOn i)) :
    ∃ response, final.phases i = .done (.ok response) ∧ Answered requests i final response ∧
      Lapsed agent.backend final.store (requests i).identity.conversationId final.clock := by
  have renews : ∀ j, Renews (s.phases j) :=
    run.invariant (I := fun s => ∀ j, Renews (s.phases j)) (G := fun _ => True)
      (fun _ st _ renews => System.step_renews st renews) (fun _ _ => trivial) (fun _ => renews_of_none rfl)
  obtain ⟨r, found, m, -⟩ := open'.record
  have way : OnTheWay requests i s.clock s :=
    ⟨Inv.run run, renews, Int.le_refl _, ⟨r, found, m⟩, waiting ▸ .start open'⟩
  have arrived := (way.run taken alone smooth).taking
  have rank := rank_run taken i
  have whole : (s.phases i).rank = 14 := by rw [waiting]; rfl
  obtain ⟨result, done⟩ := done_of_rank (p := final.phases i) (by omega)
  rw [done] at arrived
  cases arrived with
  | done lapsed answered => exact ⟨_, done, answered, lapsed⟩

end Runs

section Samples

/-- A check of an event of the examples. -/
def smoothCheck (requests : Nat → Request) (i : Nat) (deadline : Time) (e : Event (System sampleRuntime) Turn) :
    Bool :=
  e.label.input.delivery = .returned && e.label.input.now < deadline && e.label.input.checkpoint.isSome &&
    (match e.pre.phases i with
    | .start => ((e.pre.gates (requests i).process).lookup (requests i).identity.conversationId).isNone
    | .reading => (recordOf sampleRuntime e.pre.store (keyOf sampleRuntime (requests i))).all fun r =>
        r.leaseExpiresAt.any fun expiresAt => expiresAt ≤ e.label.input.processNow
    | _ => true) &&
    (match (e.post.phases i).error? with
    | some (.repository .database) => false
    | _ => true)

lemma smooth_of_check {requests : Nat → Request} {i : Nat} {deadline : Time}
    {e : Event (System sampleRuntime) Turn} (check : smoothCheck requests i deadline e = true) :
    Smooth requests i deadline e := by
  simp only [smoothCheck, Bool.and_eq_true, decide_eq_true_eq] at check
  obtain ⟨⟨⟨⟨returned, inTime⟩, checkpoint⟩, awaited⟩, stored⟩ := check
  refine ⟨fun _ phase => ?_, fun _ => returned, fun _ => inTime, fun _ r found phase _ => ?_,
    fun _ _ _ => checkpoint, fun _ database => ?_⟩
  · rw [phase] at awaited
    exact Option.isNone_iff_eq_none.mp awaited
  · rw [phase] at awaited
    simpa only [found, Option.all_some] using awaited
  · rw [database] at stored
    cases stored

/-- A first send, and a request that resumes its run. -/
def takenRequest (handler : Nat) : Request where
  process := handler
  message := "question"
  identity :=
    { sampleIdentity "11111111-1111-4111-8111-111111111111" sampleRun_length with resumed := handler = 1 }

/-- The first handler is held up when it has its lease, and stops for good. -/
def lostTurns : List Turn :=
  sampleTurns [0, 0, 0, 0] ++ [{ handler := 0, input := { sampleInput with now := seconds 31 } }]

def takingTurns : List Turn :=
  List.replicate 14
    { handler := 1
      input := { sampleInput with now := seconds 31, processNow := seconds 31, checkpoint := some none } }

def lostAfter : System sampleRuntime := System.after takenRequest (.start sampleRuntime 0) lostTurns

lemma lost_run : ∃ events, Run (System.Step takenRequest) (.start sampleRuntime 0) events lostAfter :=
  ⟨_, System.run_history _ _ _ (by decide) (by decide)⟩

lemma lost_open : Open takenRequest 1 lostAfter := by
  obtain ⟨events, run⟩ := lost_run
  obtain ⟨r, found, m⟩ := (Inv.run run).known 0 (by decide)
  have status : (recordOf sampleRuntime lostAfter.store (keyOf sampleRuntime (takenRequest 1))).all
      (fun r => r.resumeTokenVersion = 1 && r.status = .running) = true := by
    decide
  have lapsed : (sampleRuntime.backend.row lostAfter.store (takenRequest 1).identity.conversationId).all
      (fun row => row.leaseExpiresAt ≤ lostAfter.clock) = true := by
    decide
  have same : keyOf sampleRuntime (takenRequest 1) = keyOf sampleRuntime (takenRequest 0) := rfl
  rw [same, found, Option.all_some, Bool.and_eq_true] at status
  refine ⟨⟨r, found, ⟨m.conversation, m.thread, m.hash, m.hashVersion, m.schema⟩, ?_⟩, ?_⟩
  · exact .resumed rfl (of_decide_eq_true status.1).symm (.inr (of_decide_eq_true status.2))
  · intro row stored
    rw [stored] at lapsed
    exact of_decide_eq_true lapsed

/-- The second handler brings the run to its end. -/
theorem run_recovered_sample : ∃ response,
    (System.after takenRequest lostAfter takingTurns).phases 1 = .done (.ok response) ∧
      Answered takenRequest 1 (System.after takenRequest lostAfter takingTurns) response := by
  obtain ⟨events, lost⟩ := lost_run
  have taken : Run (System.Step takenRequest) lostAfter (System.history takenRequest lostAfter takingTurns)
      (System.after takenRequest lostAfter takingTurns) :=
    System.run_history _ _ _ (by decide) (by decide)
  have alone : ∀ e ∈ System.history takenRequest lostAfter takingTurns, e.label.handler = 1 := by
    decide
  have smooth : ∀ e ∈ System.history takenRequest lostAfter takingTurns,
      smoothCheck takenRequest 1 (deadlineOf sampleRuntime lostAfter.clock) e = true := by
    decide
  obtain ⟨response, done, answered, -⟩ := run_recovered lost rfl lost_open taken (fun e mem => .inl (alone e mem))
    (fun e mem => smooth_of_check (smooth e mem)) (by decide)
  exact ⟨response, done, answered⟩

end Samples

end AgentRuntime.Orchestration
