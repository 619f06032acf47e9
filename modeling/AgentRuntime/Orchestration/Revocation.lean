import AgentRuntime.Orchestration.Invariants

/-!
# Resume tokens and their revocation

The tokens that are issued while requests are handled, and the revocation of a run's tokens. A token carries
the version of the identity that it is issued for: the first version for a first send, and for a resume the
version of the token that is presented. The record of the run has a version of its own, which every
revocation raises, and a token passes while the two are the same. Tokens are told from forged ones, so a
resume presents one that was issued.
-/

namespace AgentRuntime.Orchestration
open State Transition

section Created

variable {now : Time} {identity : RunIdentity} {k : String} {r : RunRecord}

lemma memory_created_version {s s' : MemoryRunRepository} {result}
    (called : MemoryRunRepository.createOrGet now identity s = (result, s')) (none : s.record k = none)
    (found : s'.record k = some r) : r.resumeTokenVersion = identity.resumeTokenVersion := by
  obtain ⟨-, -, -, -, -, -, rfl⟩ | ⟨-, -, -, -, rfl⟩ | ⟨-, -, rfl⟩ :=
    MemoryRunRepository.createOrGet_cases called
  · cases none.symm.trans found
  · cases none.symm.trans found
  · rw [MemoryRunRepository.record_setRecord, Function.update_apply] at found
    split at found
    · cases found
      rfl
    · cases none.symm.trans found

lemma postgres_created_version {driver : Driver} {s s' : PostgresRunRepository} {result}
    (called : PostgresRunRepository.createOrGet driver now identity s = (result, s'))
    (none : s.record k = none) (found : s'.record k = some r) :
    r.resumeTokenVersion = identity.resumeTokenVersion := by
  obtain ⟨-, -, rfl, -⟩ | ⟨-, -, -, -, -, -, rfl⟩ | ⟨_, -, -, -, rfl⟩ :=
    PostgresRunRepository.createOrGet_cases called
  · cases none.symm.trans found
  · cases none.symm.trans found
  · rw [PostgresRunRepository.record_setRun, Function.update_apply] at found
    split at found
    · cases found
      rfl
    · cases none.symm.trans found

/-- A record is created with the version of the identity that it is created for. -/
lemma created_version (backend : Backend) {s : backend.store.σ}
    (none : backend.store.contract.record s k = none)
    (found : backend.store.contract.record
      (backend.store.repo.exec now (.createOrGet identity) s).2 k = some r) :
    r.resumeTokenVersion = identity.resumeTokenVersion := by
  rw [RunRepository.exec, Effect.reply_snd] at found
  cases backend with
  | memory => exact memory_created_version rfl none found
  | postgres => exact postgres_created_version rfl none found

variable {agent : ChatRuntimeAgent} {request : Request} {input : Input} {p : Phase}
variable {t t' : agent.store.σ} {r' : RunRecord}

lemma Rewrite.version (rewrite : Rewrite agent request input p t k r r') :
    r'.resumeTokenVersion = r.resumeTokenVersion := by
  cases rewrite <;> rfl

/-- Only `create_or_get` makes a record, and the one of its request. -/
lemma Change.created (change : Change agent request input p t t') (none : recordOf agent t k = none)
    (found : recordOf agent t' k = some r) : (∃ migrated, p = .creating migrated) ∧ k = keyOf agent request := by
  -- a record that is written over is there before
  have written {key : String} {r' r'' : RunRecord} (before : recordOf agent t key = some r')
      (records : recordOf agent t' = Function.update (recordOf agent t) key (some r'')) : False := by
    rw [records, Function.update_apply] at found
    split at found
    · next same => cases none.symm.trans (same ▸ before)
    · cases none.symm.trans found
  cases change with
  | idle records => cases none.symm.trans (records ▸ found)
  | create _ _ _ _ records =>
    rw [records, Function.update_apply] at found
    split at found
    · next same => exact ⟨⟨_, rfl⟩, same⟩
    · cases none.symm.trans found
  | acquire _ before _ records => exact (written before records).elim
  | renew records =>
    obtain same | ⟨r', _, before, -⟩ := records k
    · cases none.symm.trans (same ▸ found)
    · cases none.symm.trans before
  | persist _ before _ records => exact (written before records).elim
  | interrupt _ _ before records => exact (written before records).elim
  | commit _ _ before _ records => exact (written before records).elim

variable {requests : Nat → Request} {s s' : System agent} {turn : Turn}

/-- A record that a turn creates has the version of the request's identity. -/
lemma System.step_created (st : System.Step requests s turn s') (none : recordOf agent s.store k = none)
    (found : recordOf agent s'.store k = some r) :
    (∃ migrated, s.phases turn.handler = .creating migrated) ∧ k = keyOf agent (requests turn.handler) ∧
      r.resumeTokenVersion = (requests turn.handler).identity.resumeTokenVersion := by
  obtain ⟨_, -, ⟨-, same⟩ | adv⟩ := System.step_cases st
  · cases none.symm.trans (same ▸ found)
  obtain ⟨⟨migrated, phase⟩, key⟩ := adv.change.created none found
  refine ⟨⟨migrated, phase⟩, key, ?_⟩
  have action := System.step_action st (by rw [phase]; rfl)
  obtain same | ⟨call, called, exec⟩ := System.step_call st
  · cases none.symm.trans (same ▸ found)
  rw [action, phase] at called
  cases called
  rw [exec] at found
  exact created_version agent.backend none found

end Created

section Server

/-- What a token says of its run: the run, and the version (source `"run_id"` and `"resume_token_version"`). -/
structure Issued where
  runId : String
  version : Nat
deriving DecidableEq

/-- What goes on at the server. -/
inductive Act where
  /-- a handler goes on -/
  | turn (turn : Turn)
  /-- `astream_events` issues a token before the request is handled -/
  | stream (handler : Nat)
  /-- `revoke_resume_tokens` -/
  | revoke (runId : String) (now : Time)

/-- The handlers, and the tokens that were issued. -/
structure Server (agent : ChatRuntimeAgent) where
  system : System agent
  issued : List Issued

/-- What the token of an identity says. -/
def issuedFor (identity : RunIdentity) : Issued where
  runId := identity.runId
  version := identity.resumeTokenVersion

namespace Server

variable {agent : ChatRuntimeAgent} (requests : Nat → Request)

/-- No request has been handled, and no token issued. -/
def start (agent : ChatRuntimeAgent) (clock : Time) : Server agent where
  system := .start agent clock
  issued := []

/-- The token that is issued: by `_execute_run` for the result of the graph, or for a stream. -/
def issues (s : Server agent) : Act → Option Issued
  | .turn turn =>
    match turn.action, s.system.phases turn.handler, turn.input.delivery.answer with
    | .resume, .executing _ _, .ok () => some (issuedFor (requests turn.handler).identity)
    | _, _, _ => none
  | .stream handler => some (issuedFor (requests handler).identity)
  | .revoke _ _ => none

/-- The handlers after something that goes on. -/
def next (s : Server agent) : Act → System agent
  | .turn turn => s.system.take requests turn
  | .stream _ => s.system
  | .revoke runId now =>
    { s.system with
      clock := now
      store := (agent.store.repo.exec now (.revokeResumeTokens runId) s.system.store).2 }

/-- The server after something that goes on. -/
def take (s : Server agent) (act : Act) : Server agent where
  system := s.next requests act
  issued := (s.issues requests act).toList ++ s.issued

/-- The identity is one that `normalize` can give: a first send has the first version, and a resume the one of
    a token that was issued. -/
def Admitted (s : Server agent) (identity : RunIdentity) : Prop :=
  if identity.resumed then issuedFor identity ∈ s.issued else identity.resumeTokenVersion = 1

/-- Something goes on; requests are normalized when they arrive. -/
def Step (s : Server agent) (act : Act) (s' : Server agent) : Prop :=
  s' = s.take requests act ∧
    match act with
    | .turn turn => System.Step requests s.system turn s'.system ∧
      (s.system.phases turn.handler = .start → s.Admitted (requests turn.handler).identity)
    | .stream handler => s.system.phases handler = .start ∧ s.Admitted (requests handler).identity
    | .revoke _ now => s.system.clock ≤ now

/-- The event is a revocation of the run's tokens that takes effect. -/
def revokes (runId : String) (e : Event (Server agent) Act) : Bool :=
  match e.label with
  | .revoke revoked now =>
    agent.store.contract.key revoked = agent.store.contract.key runId &&
      (agent.store.repo.revokeResumeTokens now revoked e.pre.system.store).1.isOk
  | _ => false

/-- The version that the tokens of a run are to have: the one of its record, and the first one before there is
    a record. -/
def versionOf (s : Server agent) (runId : String) : Nat :=
  match recordOf agent s.system.store (agent.store.contract.key runId) with
  | some record => record.resumeTokenVersion
  | none => 1

/-- The identity passes the version check of `_preflight_existing_run` on the record of its run, if there is
    one. -/
def Passes (s : Server agent) (identity : RunIdentity) : Prop :=
  ∀ record, recordOf agent s.system.store (agent.store.contract.key identity.runId) = some record →
    ∀ created resumeMigrated processNow drawn,
      preflightExistingRun identity record created resumeMigrated processNow drawn ≠
        .refused (.identity .resumeTokenRevoked "The resume token has been revoked")

/-- The token that the event issues, if it issues one, has the version that the tokens of its run are to have. -/
def Current (e : Event (Server agent) Act) : Prop :=
  ∀ token, e.pre.issues requests e.label = some token → token.version = e.pre.versionOf token.runId

/-- The revocations are exact: at any moment after a token was issued, whoever presents it passes the version check
    if and only if no revocation of its run's tokens took effect in between. -/
def Exact (events : List (Event (Server agent) Act)) : Prop :=
  ∀ before e middle after s, events = before ++ e :: (middle ++ after) → Run (Step requests) e.post middle s →
    ∀ identity, e.pre.issues requests e.label = some (issuedFor identity) → identity.resumed = true →
      (s.Passes identity ↔ ∀ e' ∈ middle, revokes identity.runId e' = false)

end Server

end Server

section Versions

namespace Server

variable {agent : ChatRuntimeAgent} {requests : Nat → Request} {s s' final : Server agent} {act : Act}
variable {runId k : String} {identity : RunIdentity} {events : List (Event (Server agent) Act)}

/-- No token, and no identity that is handled, is ahead of the version that the tokens of its run are to have. -/
structure Sound (requests : Nat → Request) (s : Server agent) : Prop where
  positive : ∀ runId, 1 ≤ s.versionOf runId
  issued : ∀ token ∈ s.issued, token.version ≤ s.versionOf token.runId
  handled : ∀ i, s.system.phases i ≠ .start →
    (requests i).identity.resumeTokenVersion ≤ s.versionOf (requests i).identity.runId

lemma versionOf_none
    (absent : recordOf agent s.system.store (agent.store.contract.key runId) = none) : s.versionOf runId = 1 := by
  rw [versionOf, absent]

lemma Sound.start (now : Time) : Sound requests (start agent now) where
  positive _ := Nat.le_of_eq (versionOf_none (agent.store.empty_record _)).symm
  issued := List.forall_mem_nil _
  handled _ entered := absurd rfl entered

/-- An identity that arrives is not ahead either. -/
lemma Sound.admitted (sound : Sound requests s) (admitted : s.Admitted identity) :
    identity.resumeTokenVersion ≤ s.versionOf identity.runId := by
  rw [Admitted] at admitted
  split at admitted
  · exact sound.issued _ admitted
  · rw [admitted]
    exact sound.positive _

/-- A revocation of a run's tokens raises the version of its record, when it takes effect, and changes no other
    record. -/
lemma revoke_record (now : Time) (t : agent.store.σ) (revoked : String) :
    let called := agent.store.repo.revokeResumeTokens now revoked t
    let key := agent.store.contract.key revoked
    (called.1.isOk = false ∧ called.2 = t) ∨
    (called.1.isOk = true ∧ ∃ r r', recordOf agent t key = some r ∧
      r'.resumeTokenVersion = r.resumeTokenVersion + 1 ∧
      recordOf agent called.2 = Function.update (recordOf agent t) key (some r')) := by
  have called : agent.store.repo.revokeResumeTokens now revoked t =
      agent.store.repo.revokeResumeTokens now revoked t := rfl
  obtain ⟨error, failed, same⟩ | ⟨r, found, returned, records, -⟩ :=
    agent.store.contract.revokeResumeTokens_spec called
  · exact .inl ⟨by rw [failed]; rfl, same⟩
  · exact .inr ⟨by rw [returned]; rfl, r, _, found, rfl, records⟩

/-- The versions that tokens are to have count the revocations. -/
lemma Step.version (st : Step requests s act s') (sound : Sound requests s) (runId : String) :
    s'.versionOf runId = s.versionOf runId + if revokes runId ⟨s, act, s'⟩ then 1 else 0 := by
  obtain ⟨rfl, possible⟩ := st
  generalize key : agent.store.contract.key runId = k
  cases act with
  | turn turn =>
    show versionOf _ _ = versionOf _ _ + 0
    rw [versionOf, versionOf, key, Nat.add_zero]
    cases found : recordOf agent s.system.store k with
    | some r =>
      obtain ⟨_, -, ⟨-, same⟩ | adv⟩ := System.step_cases possible.1
      · rw [same, found]
      · obtain ⟨r', r'', before, after, rewrite⟩ | ⟨none, -⟩ := adv.change.record k
        · cases found.symm.trans before
          rw [after]
          exact rewrite.version
        · cases found.symm.trans none
    | none =>
      split
      · next r created =>
        -- no identity of a run without a record is ahead of the first version
        obtain ⟨⟨migrated, phase⟩, rfl, version⟩ := System.step_created possible.1 found created
        have le := sound.handled turn.handler (by rw [phase]; simp)
        rw [versionOf_none found] at le
        rw [version]
        exact Nat.le_antisymm le (requests turn.handler).identity.token_version
      · rfl
  | stream => rfl
  | revoke revoked now =>
    have called : (take requests s (.revoke revoked now)).system.store =
        (agent.store.repo.revokeResumeTokens now revoked s.system.store).2 := Effect.reply_snd _ _
    rw [versionOf, versionOf, key, called]
    obtain ⟨failed, same⟩ | ⟨done, r, r', found, version, records⟩ :=
      revoke_record now s.system.store revoked
    · rw [same]
      simp [revokes, failed]
    · rw [records, Function.update_apply]
      by_cases same : k = agent.store.contract.key revoked
      · rw [if_pos same, same, found]
        simp [revokes, done, version, key, same]
      · rw [if_neg same]
        simp [revokes, done, key, Ne.symm same]

/-- The versions that tokens are to have do not fall. -/
lemma Step.version_le (st : Step requests s act s') (sound : Sound requests s) (runId : String) :
    s.versionOf runId ≤ s'.versionOf runId := by
  rw [st.version sound runId]
  exact Nat.le_add_right _ _

lemma Sound.step (sound : Sound requests s) (st : Step requests s act s') : Sound requests s' := by
  have le := st.version_le sound
  refine ⟨fun runId => (sound.positive runId).trans (le runId), ?_, ?_⟩
  · -- a token is issued for an identity that is handled, or that arrives
    have made : ∀ token, s.issues requests act = some token → token.version ≤ s.versionOf token.runId := by
      obtain ⟨-, possible⟩ := st
      intro token issued
      cases act with
      | turn turn =>
        simp only [issues] at issued
        split at issued
        · next phase _ =>
          cases issued
          exact sound.handled _ (by rw [phase]; simp)
        · cases issued
      | stream =>
        cases issued
        exact sound.admitted possible.2
      | revoke => cases issued
    intro token mem
    rw [st.1] at mem
    obtain new | old := List.mem_append.mp mem
    · exact (made token (Option.mem_toList.mp new)).trans (le _)
    · exact (sound.issued token old).trans (le _)
  · intro i entered
    refine Nat.le_trans ?_ (le _)
    obtain ⟨rfl, possible⟩ := st
    cases act with
    | turn turn =>
      obtain ⟨p', phases, -⟩ := System.step_cases possible.1
      by_cases waiting : s.system.phases i = .start
      · obtain ⟨rfl, -⟩ | ⟨-, same⟩ := phase_cases phases i
        · exact sound.admitted (possible.2 waiting)
        · exact absurd (same.trans waiting) entered
      · exact sound.handled i waiting
    | stream => exact sound.handled i entered
    | revoke => exact sound.handled i entered

/-- In a run, the version that tokens are to have has grown by the revocations in it. -/
lemma versionOf_run (run : Run (Step requests) s events final) (sound : Sound requests s) (runId : String) :
    Sound requests final ∧ (∀ token ∈ s.issued, token ∈ final.issued) ∧
      final.versionOf runId = s.versionOf runId + events.countP (revokes runId) := by
  induction run with
  | nil => exact ⟨sound, fun _ mem => mem, rfl⟩
  | @cons s act s' events final st _ ih =>
    obtain ⟨sound', kept, counted⟩ := ih (sound.step st)
    refine ⟨sound', ?_, ?_⟩
    · intro token mem
      apply kept
      rw [st.1]
      exact List.mem_append_right _ mem
    · rw [counted, st.version sound runId, List.countP_cons]
      omega

/-- Only the version check refuses a token as revoked. -/
lemma preflight_revoked_iff {record : RunRecord} {created resumeMigrated : Bool} {processNow : Time}
    {drawn : Uuid} (resumed : identity.resumed = true) :
    preflightExistingRun identity record created resumeMigrated processNow drawn =
        .refused (.identity .resumeTokenRevoked "The resume token has been revoked") ↔
      identity.resumeTokenVersion ≠ record.resumeTokenVersion := by
  constructor
  · intro refused same
    simp only [preflightExistingRun, same] at refused
    split at refused
    · next other => exact other.2 rfl
    · split at refused
      · split at refused <;> cases refused
      · split_ifs at refused <;> cases refused
  · intro other
    rw [preflightExistingRun, if_pos ⟨resumed, other⟩]

/-- An issued token passes while its version is the one that tokens are to have. -/
lemma Sound.passes_iff (sound : Sound requests s) (issued : issuedFor identity ∈ s.issued)
    (resumed : identity.resumed = true) :
    s.Passes identity ↔ identity.resumeTokenVersion = s.versionOf identity.runId := by
  have le := sound.issued _ issued
  rw [Passes]
  cases found : recordOf agent s.system.store (agent.store.contract.key identity.runId) with
  | none =>
    refine iff_of_true ?_ ?_
    · intro record none
      cases none
    · rw [versionOf_none found]
      exact Nat.le_antisymm (le.trans (Nat.le_of_eq (versionOf_none found))) identity.token_version
  | some record =>
    simp only [versionOf, found, Option.some.injEq, ne_eq, preflight_revoked_iff resumed, not_not]
    constructor
    · intro passes
      exact passes record rfl false false 0 sampleInput.drawn
    · rintro same _ rfl - - - -
      exact same

section Runs

variable {now : Time} {before after : List (Event (Server agent) Act)} {e : Event (Server agent) Act}

/-- A token that an event issues is among the issued ones after it, and is not ahead. -/
lemma issued_run (run : Run (Step requests) (start agent now) (before ++ [e]) s)
    (issued : e.pre.issues requests e.label = some (issuedFor identity)) :
    Sound requests s ∧ issuedFor identity ∈ s.issued ∧
      s.versionOf identity.runId = 1 + before.countP (revokes identity.runId) := by
  obtain ⟨m, earlier, last⟩ := run.split
  obtain ⟨rfl, st, ends⟩ := last.head
  cases ends
  obtain ⟨sound, -, counted⟩ := versionOf_run earlier (.start now) identity.runId
  have first : (start agent now).versionOf identity.runId = 1 :=
    versionOf_none (agent.store.empty_record _)
  rw [first] at counted
  have version := st.version sound identity.runId
  have other : revokes identity.runId ⟨e.pre, e.label, e.post⟩ = false := by
    cases label : e.label with
    | revoke =>
      rw [label] at issued
      cases issued
    | _ => rfl
  rw [other, counted] at version
  refine ⟨sound.step st, ?_, version⟩
  rw [st.1]
  exact List.mem_append_left _ (Option.mem_toList.mpr issued)

/-- A token that was issued passes later while its version counts the revocations up to then. -/
lemma Sound.passes_later (sound : Sound requests s) (made : issuedFor identity ∈ s.issued)
    (resumed : identity.resumed = true) (later : Run (Step requests) s after final) :
    final.Passes identity ↔
      identity.resumeTokenVersion = s.versionOf identity.runId + after.countP (revokes identity.runId) := by
  obtain ⟨sound', kept, counted⟩ := versionOf_run later sound identity.runId
  rw [sound'.passes_iff (kept _ made) resumed, counted]

/-- A token of the version that tokens are to have passes later until a revocation takes effect. -/
lemma Sound.passes_unrevoked (sound : Sound requests s) (made : issuedFor identity ∈ s.issued)
    (resumed : identity.resumed = true) (current : identity.resumeTokenVersion = s.versionOf identity.runId)
    (later : Run (Step requests) s after final) :
    final.Passes identity ↔ ∀ e' ∈ after, revokes identity.runId e' = false := by
  rw [sound.passes_later made resumed later, current]
  constructor
  · intro same
    have zero : after.countP (revokes identity.runId) = 0 := by omega
    simpa using List.countP_eq_zero.mp zero
  · intro none
    rw [List.countP_eq_zero.mpr (by simpa using none), Nat.add_zero]

/-- No token passes after a revocation of its run's tokens has taken effect. -/
lemma revoked_stays_refused
    (run : Run (Step requests) (start agent now) (before ++ e :: after) final)
    (resumed : identity.resumed = true)
    (issued : e.pre.issues requests e.label = some (issuedFor identity))
    (revoked : ∃ e' ∈ after, revokes identity.runId e' = true) : ¬ final.Passes identity := by
  rw [List.append_cons] at run
  obtain ⟨m, earlier, later⟩ := run.split
  obtain ⟨sound, made, -⟩ := issued_run earlier issued
  rw [sound.passes_later made resumed later]
  have some : 0 < after.countP (revokes identity.runId) := List.countP_pos_iff.mpr revoked
  have le : identity.resumeTokenVersion ≤ m.versionOf identity.runId := sound.issued _ made
  omega

/-- A token passes at every later moment exactly until a revocation takes effect, when it is issued with the
    version that counts the revocations so far; and otherwise it does not. -/
theorem revocation_exact_iff (run : Run (Step requests) (start agent now) (before ++ [e]) s)
    (resumed : identity.resumed = true)
    (issued : e.pre.issues requests e.label = some (issuedFor identity)) :
    (∀ after final, Run (Step requests) s after final →
      (final.Passes identity ↔ ∀ e' ∈ after, revokes identity.runId e' = false)) ↔
      identity.resumeTokenVersion = 1 + before.countP (revokes identity.runId) := by
  obtain ⟨sound, made, version⟩ := issued_run run issued
  constructor
  · intro exact
    have passes := (exact [] s .nil).mpr (List.forall_mem_nil _)
    rw [← version]
    exact (sound.passes_iff made resumed).mp passes
  · intro current after final later
    exact sound.passes_unrevoked made resumed (current.trans version.symm) later

lemma issues_identity {token : Issued} (issued : s.issues requests act = some token) :
    ∃ identity, token = issuedFor identity ∧ identity.resumed = true := by
  have resume (identity : RunIdentity) :
      ∃ identity', issuedFor identity = issuedFor identity' ∧ identity'.resumed = true :=
    ⟨{ identity with resumed := true }, rfl, rfl⟩
  cases act with
  | turn turn =>
    simp only [issues] at issued
    split at issued
    · cases issued
      exact resume _
    · cases issued
  | stream =>
    cases issued
    exact resume _
  | revoke => cases issued

/-- In every run of the server the revocations are exact if and only if every token is issued with the version that
    its run's record has at that moment. -/
theorem tokens_exact_iff (run : Run (Step requests) (start agent now) events final) :
    Exact requests events ↔ ∀ e ∈ events, Current requests e := by
  -- what is known of a token right after the event that issues it
  have issued_at {before after : List (Event (Server agent) Act)} {e : Event (Server agent) Act}
      (cut : events = before ++ e :: after) {identity : RunIdentity}
      (issued : e.pre.issues requests e.label = some (issuedFor identity)) :
      Sound requests e.post ∧ issuedFor identity ∈ e.post.issued ∧
        e.post.versionOf identity.runId = e.pre.versionOf identity.runId := by
    have run' := run
    rw [cut, List.append_cons] at run'
    obtain ⟨m, earlier, -⟩ := run'.split
    obtain ⟨_, past, last⟩ := earlier.split
    obtain ⟨rfl, -, ends⟩ := last.head
    cases ends
    obtain ⟨sound, made, version⟩ := issued_run earlier issued
    have first : (start agent now).versionOf identity.runId = 1 := versionOf_none (agent.store.empty_record _)
    have counted := (versionOf_run past (.start now) identity.runId).2.2
    rw [first] at counted
    exact ⟨sound, made, version.trans counted.symm⟩
  constructor
  · intro exact e mem token issued
    obtain ⟨before, after, cut⟩ := List.append_of_mem mem
    obtain ⟨identity, rfl, resumed⟩ := issues_identity issued
    obtain ⟨sound, made, version⟩ := issued_at cut issued
    have passes := (exact before e [] after e.post cut .nil identity issued resumed).mpr (List.forall_mem_nil _)
    exact ((sound.passes_iff made resumed).mp passes).trans version
  · intro current before e middle after s cut later identity issued resumed
    obtain ⟨sound, made, version⟩ := issued_at cut issued
    have mem : e ∈ events := by
      rw [cut]
      exact List.mem_append_right _ (.head _)
    exact sound.passes_unrevoked made resumed ((current e mem _ issued).trans version.symm) later

end Runs

end Server

end Versions

section Samples

namespace Server

variable {agent : ChatRuntimeAgent} (requests : Nat → Request)

/-- A check that something can go on. -/
def possible (s : Server agent) : Act → Bool
  | .turn turn =>
    s.system.clock ≤ turn.input.now && turn.action = .resume &&
      match s.system.phases turn.handler with
      | .start => (requests turn.handler).identity.resumeTokenVersion = 1 &&
        !(requests turn.handler).identity.resumed
      | _ => true
  | .stream _ => false
  | .revoke _ now => s.system.clock ≤ now

/-- The events of some things that go on, and the server after them. -/
def history (s : Server agent) : List Act → List (Event (Server agent) Act)
  | [] => []
  | act :: acts => ⟨s, act, s.take requests act⟩ :: history (s.take requests act) acts

def after (s : Server agent) : List Act → Server agent
  | [] => s
  | act :: acts => after (s.take requests act) acts

/-- Things that are possible one after the other are a run. -/
lemma run_history (s : Server agent) (acts : List Act)
    (check : ((history requests s acts).all fun e => e.pre.possible requests e.label) = true) :
    Run (Step requests) s (history requests s acts) (after requests s acts) := by
  induction acts generalizing s with
  | nil => exact .nil
  | cons act acts ih =>
    rw [history, List.all_cons, Bool.and_eq_true] at check
    refine .cons ⟨rfl, ?_⟩ (ih _ check.2)
    obtain ⟨can, -⟩ := check
    cases act with
    | turn turn =>
      simp only [possible, Bool.and_eq_true, decide_eq_true_eq] at can
      obtain ⟨⟨ordered, resumed⟩, admitted⟩ := can
      refine ⟨⟨ordered, ?_, rfl⟩, ?_⟩
      · intro beat
        cases resumed.symm.trans beat
      · intro arrives
        simp only [arrives, Bool.and_eq_true, decide_eq_true_eq, Bool.not_eq_true'] at admitted
        rw [Admitted, admitted.2]
        exact admitted.1
    | stream => cases can
    | revoke => exact of_decide_eq_true can

end Server

/-- The identity of a resume of the run of the examples. -/
def sampleResume : RunIdentity :=
  { sampleIdentity "11111111-1111-4111-8111-111111111111" sampleRun_length with
    resumeRequested := true
    resumed := true }

/-- A handler of the examples goes on some times. -/
def sampleActs (count : Nat) : List Act := (sampleTurns (List.replicate count 0)).map .turn

/-- The server when the graph of the examples has been started. -/
def executingServer : Server sampleRuntime :=
  Server.after sampleRequest (.start sampleRuntime 0) (sampleActs 5)

/-- The event at which the graph has returned, and a token is issued. -/
def issuing : Event (Server sampleRuntime) Act :=
  let act := Act.turn { handler := 0, input := sampleInput }
  ⟨executingServer, act, executingServer.take sampleRequest act⟩

lemma issuing_run : Run (Server.Step sampleRequest) (.start sampleRuntime 0)
    (Server.history sampleRequest (.start sampleRuntime 0) (sampleActs 5) ++ [issuing]) issuing.post :=
  Run.append (Server.run_history _ _ _ (by decide))
    (Server.run_history _ executingServer [issuing.label] (by decide))

lemma issuing_issues : issuing.pre.issues sampleRequest issuing.label = some (issuedFor sampleResume) := by
  decide

/-- The tokens of the run of the examples are revoked. -/
def sampleRevoke : List Act := [.revoke "11111111-1111-4111-8111-111111111111" 0]

namespace Server

lemma sampleRevoke_run : Run (Server.Step sampleRequest) issuing.post
    (Server.history sampleRequest issuing.post sampleRevoke)
      (Server.after sampleRequest issuing.post sampleRevoke) :=
  Server.run_history _ _ _ (by decide)

lemma sampleRevoke_revokes : ∃ e ∈ Server.history sampleRequest issuing.post sampleRevoke,
    revokes sampleResume.runId e = true := by
  have takes_effect : (Server.history sampleRequest issuing.post sampleRevoke).any
      (revokes sampleResume.runId) = true := by
    decide
  exact List.any_eq_true.mp takes_effect

/-- The token of a first send passes when the send has ended, and no longer when it is revoked then. -/
theorem revocation_exact_sample :
    (Server.after sampleRequest issuing.post (sampleActs 6)).Passes sampleResume ∧
      ¬ (Server.after sampleRequest issuing.post (sampleActs 6 ++ sampleRevoke)).Passes sampleResume := by
  have exact := (revocation_exact_iff issuing_run rfl issuing_issues).mpr (by decide)
  constructor
  · have quiet : ∀ e ∈ Server.history sampleRequest issuing.post (sampleActs 6),
        (!revokes sampleResume.runId e) = true :=
      List.all_eq_true.mp (by decide)
    exact (exact _ _ (Server.run_history _ _ _ (by decide))).mpr fun e mem => by simpa using quiet e mem
  · have takes_effect : (Server.history sampleRequest issuing.post (sampleActs 6 ++ sampleRevoke)).any
        (revokes sampleResume.runId) = true := by
      decide
    obtain ⟨e, mem, revoked⟩ := List.any_eq_true.mp takes_effect
    intro passes
    cases ((exact _ _ (Server.run_history _ _ _ (by decide))).mp passes e mem).symm.trans revoked

/-- A check that an event issues no token, or one with the version of its run's record. -/
def isCurrent {agent : ChatRuntimeAgent} (requests : Nat → Request) (e : Event (Server agent) Act) : Bool :=
  (e.pre.issues requests e.label).all fun token => token.version = e.pre.versionOf token.runId

/-- A first send that ends before its tokens are revoked. -/
theorem tokens_exact_sample : Exact sampleRequest
    (Server.history sampleRequest (.start sampleRuntime 0) (sampleActs 12 ++ sampleRevoke)) := by
  have checked : ∀ e ∈ Server.history sampleRequest (.start sampleRuntime 0) (sampleActs 12 ++ sampleRevoke),
      isCurrent sampleRequest e = true :=
    List.all_eq_true.mp (by decide)
  refine (tokens_exact_iff (Server.run_history _ _ _ (by decide))).mpr fun e mem token issued => ?_
  have current := checked e mem
  rw [isCurrent, issued] at current
  exact of_decide_eq_true current

/-- The tokens of a run are revoked before its graph returns: the token that the first send gets is refused, and
    nothing was revoked after it. -/
theorem stale_token_issued : ¬ ∀ (agent : ChatRuntimeAgent) (requests : Nat → Request) (now : Time)
    (events : List (Event (Server agent) Act)) (final : Server agent),
    Run (Step requests) (start agent now) events final → Exact requests events := by
  intro claim
  let stale := Server.after sampleRequest (.start sampleRuntime 0) (sampleActs 3 ++ sampleRevoke ++ sampleActs 2)
  let past := Server.history sampleRequest (.start sampleRuntime 0) (sampleActs 3 ++ sampleRevoke ++ sampleActs 2)
  let act := Act.turn { handler := 0, input := sampleInput }
  let e : Event (Server sampleRuntime) Act := ⟨stale, act, stale.take sampleRequest act⟩
  have run : Run (Step sampleRequest) (.start sampleRuntime 0) (past ++ [e]) e.post :=
    Run.append (Server.run_history _ _ _ (by decide)) (Server.run_history _ stale [act] (by decide))
  have passes := (claim _ _ _ _ _ run past e [] [] e.post rfl .nil sampleResume (by decide) rfl).mpr
    (List.forall_mem_nil _)
  have record : (recordOf sampleRuntime e.post.system.store
      (sampleRuntime.store.contract.key sampleResume.runId)).isSome = true := by
    decide
  obtain ⟨record, found⟩ := Option.isSome_iff_exists.mp record
  have version : e.post.versionOf sampleResume.runId = 2 := by decide
  rw [versionOf, found] at version
  refine passes record found false false 0 sampleInput.drawn ((preflight_revoked_iff rfl).mpr ?_)
  rw [show record.resumeTokenVersion = 2 from version]
  decide

end Server

end Samples

end AgentRuntime.Orchestration
