import AgentRuntime.Orchestration.Invariants
import AgentRuntime.State.Conversations
import AgentRuntime.State.Holders

/-!
# Who adds to a conversation

The turns that the handlers append to the conversation store. Neither `append_turn` takes a fencing
token: the owner of a run appends after its `mark_terminal` was accepted, and a replay appends without a
lease. Between `mark_terminal` and `append_turn` nothing extends the lease, so the owner still holds the
conversation exactly as long as the expiry that the lease had then has not passed (`Window`).
-/

namespace AgentRuntime.Orchestration
open State Transition Fencing

section Leases

/-- The lease that the heartbeat renews, next to the one that the handler was granted. -/
def Phase.renewed? : Phase → Option (RunLease × RunLease)
  | .preparing lease current => some (lease, current)
  | .executing lease current => some (lease, current)
  | _ => none

/-- The heartbeat renews the lease that its handler was granted. -/
def Renews (p : Phase) : Prop :=
  ∀ lease current, p.renewed? = some (lease, current) →
    current.conversationId = lease.conversationId ∧ current.fencingToken = lease.fencingToken

lemma renews_of_none {p : Phase} (h : p.renewed? = none) : Renews p := by
  intro lease current e
  cases h.symm.trans e

lemma renews_unwind (lease : RunLease) (terminalPersisted : Bool) (error : RequestError) :
    Renews (unwind lease terminalPersisted error) := by
  apply renews_of_none
  unfold unwind
  split
  · rfl
  · rfl
  · split <;> rfl

variable {agent : ChatRuntimeAgent} {request : Request} {input : Input}
variable {t t' : agent.store.σ} {p p' : Phase}

lemma renewed_none_of_lookup (record : RunRecord) (created resumeMigrated : Bool) :
    (afterLookup request record created resumeMigrated input).renewed? = none := by
  unfold afterLookup
  split
  · rfl
  · rfl
  · rfl
  · split <;> rfl

lemma renewed_none_of_inspection (created checkpointExists : Bool) :
    (afterInspection request created checkpointExists).renewed? = none := by
  unfold afterInspection
  split
  · rfl
  · split <;> rfl

lemma renews_resume (h : resume agent request input t p = (p', t')) (renews : Renews p) :
    Renews p' := by
  cases p with
  | acquiring =>
    simp only [resume] at h
    split at h
    · exact (Prod.mk.inj h).1 ▸ renews_of_none rfl
    · obtain ⟨rfl, -⟩ := Prod.mk.inj h
      rintro lease current ⟨⟩
      exact ⟨rfl, rfl⟩
  | preparing lease current =>
    simp only [resume] at h
    split at h
    · exact (Prod.mk.inj h).1 ▸ renews_unwind _ _ _
    · exact (Prod.mk.inj h).1 ▸ renews
  | start => exact (Prod.mk.inj h).1 ▸ renews
  | inspecting created =>
    simp only [resume] at h
    repeat' split at h
    all_goals
      obtain ⟨rfl, -⟩ := Prod.mk.inj h
      first
        | exact renews_of_none rfl
        | exact renews_of_none (renewed_none_of_inspection _ _)
  | _ =>
    -- the heartbeat runs between the two phases above only
    simp only [resume] at h
    repeat' split at h
    all_goals
      obtain ⟨rfl, -⟩ := Prod.mk.inj h
      first
        | exact renews_of_none rfl
        | exact renews_of_none (renewed_none_of_lookup _ _ _)
        | exact renews_unwind _ _ _

lemma renews_heartbeat (h : heartbeat agent input t p = (p', t')) (renews : Renews p) :
    Renews p' := by
  have renewed {current renewed : RunLease} {s : agent.store.σ}
      (called : awaited input.delivery (agent.store.repo.renew input.now current
        agent.settings.runLeaseTtlSeconds) t = (.ok renewed, s)) :
      renewed.conversationId = current.conversationId ∧
        renewed.fencingToken = current.fencingToken := by
    obtain ⟨⟨error, e⟩, -⟩ | ⟨expiresAt, e, -⟩ :=
      agent.store.contract.renew_spec ((awaited_cases called).2 _ rfl)
    · cases e
    · cases e
      exact ⟨rfl, rfl⟩
  cases p with
  | preparing lease current =>
    simp only [heartbeat] at h
    split at h
    · exact (Prod.mk.inj h).1 ▸ renews_unwind _ _ _
    · next called =>
      obtain ⟨rfl, -⟩ := Prod.mk.inj h
      obtain ⟨conversation, token⟩ := renewed called
      obtain ⟨conversation', token'⟩ := renews _ _ rfl
      rintro lease' current' ⟨⟩
      exact ⟨conversation.trans conversation', token.trans token'⟩
  | executing lease current =>
    simp only [heartbeat] at h
    split at h
    · exact (Prod.mk.inj h).1 ▸ renews_unwind _ _ _
    · next called =>
      obtain ⟨rfl, -⟩ := Prod.mk.inj h
      obtain ⟨conversation, token⟩ := renewed called
      obtain ⟨conversation', token'⟩ := renews _ _ rfl
      rintro lease' current' ⟨⟩
      exact ⟨conversation.trans conversation', token.trans token'⟩
  | _ => exact (Prod.mk.inj h).1 ▸ renews

lemma unwind_ne_appending (lease : RunLease) (terminalPersisted : Bool) (error : RequestError)
    {lease' : RunLease} {execution : RunExecution} :
    unwind lease terminalPersisted error ≠ .appending lease' execution := by
  unfold unwind
  split
  · nofun
  · nofun
  · split <;> nofun

lemma afterLookup_ne_appending (record : RunRecord) (created resumeMigrated : Bool)
    {lease : RunLease} {execution : RunExecution} :
    afterLookup request record created resumeMigrated input ≠ .appending lease execution := by
  unfold afterLookup
  split
  · nofun
  · nofun
  · nofun
  · split <;> nofun

lemma afterInspection_ne_appending (created checkpointExists : Bool) {lease : RunLease}
    {execution : RunExecution} :
    afterInspection request created checkpointExists ≠ .appending lease execution := by
  unfold afterInspection
  split
  · nofun
  · split <;> nofun

/-- A handler appends its turn after the repository has accepted its outcome. -/
lemma appending_resume {lease : RunLease} {execution : RunExecution}
    (h : resume agent request input t p = (.appending lease execution, t')) :
    ∃ checkpointId, p = .persisting lease execution checkpointId ∧
      agent.store.contract.takes t input.now lease (execution.outcome checkpointId) := by
  cases p with
  | persisting lease' execution' checkpointId =>
    simp only [resume] at h
    split at h
    · exact absurd (Prod.mk.inj h).1 (unwind_ne_appending _ _ _)
    · next called =>
      obtain ⟨e, -⟩ := Prod.mk.inj h
      cases e
      obtain ⟨-, ⟨error, e⟩, -⟩ | ⟨takes, -⟩ :=
        agent.store.contract.markTerminal_spec ((awaited_cases called).2 _ rfl)
      · cases e
      · exact ⟨_, rfl, takes⟩
  | _ =>
    simp only [resume] at h
    repeat' split at h
    all_goals
      have phase := (Prod.mk.inj h).1
      first
        | cases phase
        | exact absurd phase (unwind_ne_appending _ _ _)
        | exact absurd phase (afterLookup_ne_appending _ _ _)
        | exact absurd phase (afterInspection_ne_appending _ _)

/-- The heartbeat never leads on to the history. -/
lemma appending_heartbeat {lease : RunLease} {execution : RunExecution}
    (h : heartbeat agent input t p = (.appending lease execution, t')) :
    p = .appending lease execution := by
  cases p with
  | preparing =>
    simp only [heartbeat] at h
    split at h
    · exact absurd (Prod.mk.inj h).1 (unwind_ne_appending _ _ _)
    · cases (Prod.mk.inj h).1
  | executing =>
    simp only [heartbeat] at h
    split at h
    · exact absurd (Prod.mk.inj h).1 (unwind_ne_appending _ _ _)
    · cases (Prod.mk.inj h).1
  | _ => exact (Prod.mk.inj h).1

lemma lease_of_renew {a : Action} {current : RunLease} {ttlSeconds : Int}
    (h : callOf agent request input a p = some (.renew current ttlSeconds)) :
    ∃ lease, p.lease? = some lease ∧ p.renewed? = some (lease, current) := by
  cases a with
  | heartbeat =>
    cases p with
    | preparing lease current' =>
      cases h
      exact ⟨lease, rfl, rfl⟩
    | executing lease current' =>
      cases h
      exact ⟨lease, rfl, rfl⟩
    | _ => cases h
  | resume => cases p <;> cases h

lemma lease_of_release {a : Action} {lease : RunLease}
    (h : callOf agent request input a p = some (.release lease)) : p.lease? = some lease := by
  cases a with
  | heartbeat => cases p <;> cases h
  | resume =>
    cases p with
    | releasing lease' result =>
      cases h
      rfl
    | _ => cases h

end Leases

section Windows

variable {agent : ChatRuntimeAgent} {requests : Nat → Request}

/-- The grant that the repository stores for a conversation. -/
abbrev heldOf (agent : ChatRuntimeAgent) (s : agent.store.σ) (conversationId : String) :
    Option (Grant String Time) :=
  agent.backend.leases.held s conversationId

variable {s s' : System agent} {turn : Turn}

/-- What a turn does to the grant of a conversation: it is taken over when it has lapsed, or changed
    by the lease that it was granted to. -/
lemma System.step_held (inv : Inv requests s) (renews : ∀ i, Renews (s.phases i))
    (st : System.Step requests s turn s') (c : String) :
    heldOf agent s'.store c = heldOf agent s.store c ∨
    ((∀ g, heldOf agent s.store c = some g → g.expires ≤ turn.input.now) ∧
      ∃ g', heldOf agent s'.store c = some g' ∧ g'.token = tokenOf agent s.store c + 1) ∨
    ∃ lease g, (s.phases turn.handler).lease? = some lease ∧ lease.conversationId = c ∧
      heldOf agent s.store c = some g ∧ g.token = lease.fencingToken ∧
      ∀ g', heldOf agent s'.store c = some g' → g'.token = g.token := by
  obtain same | ⟨call, own, exec⟩ := System.step_call st
  · exact .inl (by rw [same])
  · have tenure : Tenure agent.store.contract.key (tokenOf agent s.store) turn.input.now call
        (heldOf agent s.store) (heldOf agent s'.store) := by
      rw [exec]
      exact agent.backend.leases.exec_spec inv.store
    cases tenure with
    | same e => exact .inl (congrFun e c)
    | @granted identity _ _ expires called lapsed e =>
      by_cases conversation : c = identity.conversationId
      · subst conversation
        exact .inr (.inl ⟨lapsed, _, (congrFun e _).trans (Function.update_self _ _ _), rfl⟩)
      · exact .inl ((congrFun e c).trans (Function.update_of_ne conversation _ _))
    | @extended current _ _ g called held token e =>
      by_cases conversation : c = current.conversationId
      · subst conversation
        obtain ⟨lease, held', same⟩ := lease_of_renew (called ▸ own)
        obtain ⟨conversation, fencing⟩ := renews _ _ _ same
        refine .inr (.inr ⟨lease, g, held', conversation.symm, held, token.trans fencing, ?_⟩)
        intro g' stored
        cases stored.symm.trans ((congrFun e _).trans (Function.update_self _ _ _))
        rfl
      · exact .inl ((congrFun e c).trans (Function.update_of_ne conversation _ _))
    | @ended lease g' g called held token kept e =>
      by_cases conversation : c = lease.conversationId
      · subst conversation
        refine .inr (.inr ⟨lease, g, lease_of_release (called ▸ own), rfl, held, token, ?_⟩)
        intro g'' stored
        rw [congrFun e, Function.update_self] at stored
        exact kept g'' stored
      · exact .inl ((congrFun e c).trans (Function.update_of_ne conversation _ _))

lemma System.step_renews (st : System.Step requests s turn s')
    (renews : ∀ i, Renews (s.phases i)) (i : Nat) : Renews (s'.phases i) := by
  obtain ⟨p', phases, -⟩ := System.step_cases st
  obtain ⟨rfl, -⟩ | ⟨-, same⟩ := phase_cases phases i
  · cases action : turn.action with
    | heartbeat =>
      obtain ⟨-, -, rfl⟩ := st
      simp only [System.take, Function.update_self, action]
      exact renews_heartbeat rfl (renews _)
    | resume =>
      by_cases start : s.phases turn.handler = .start
      · obtain ⟨-, -, rfl⟩ := st
        simp only [System.take, Function.update_self, action, start, advance]
        split
        · exact renews_of_none rfl
        · split <;> exact renews_of_none rfl
      · by_cases leaving : ∃ result, s.phases turn.handler = .leaving result
        · obtain ⟨result, leaving⟩ := leaving
          obtain ⟨-, -, rfl⟩ := st
          simp only [System.take, Function.update_self, action, leaving]
          exact renews_of_none rfl
        · have resumed := System.step_resume st action start fun result e => leaving ⟨result, e⟩
          exact renews_resume resumed (renews _)
  · rw [same]
    exact renews i

/-- The lease still has the expiry that it had when its outcome was accepted, or that instant has
    passed and another lease may have taken its place. -/
def Window (agent : ChatRuntimeAgent) (s : System agent) (lease : RunLease) (expiry : Time) : Prop :=
  (∃ g, heldOf agent s.store lease.conversationId = some g ∧ g.token = lease.fencingToken ∧
    g.expires = expiry) ∨
  (expiry ≤ s.clock ∧ ∀ g, heldOf agent s.store lease.conversationId = some g →
    lease.fencingToken < g.token)

/-- The turns of the other handlers keep the window of a lease. -/
lemma Window.step (inv : Inv requests s) (renews : ∀ i, Renews (s.phases i))
    (st : System.Step requests s turn s') {i : Nat} (other : i ≠ turn.handler) {lease : RunLease}
    (held : (s.phases i).lease? = some lease) {expiry : Time} (window : Window agent s lease expiry) :
    Window agent s' lease expiry := by
  have later : s.clock ≤ s'.clock := by
    obtain ⟨le, -, rfl⟩ := st
    exact le
  have now : turn.input.now = s'.clock := by
    obtain ⟨-, -, rfl⟩ := st
    rfl
  obtain ⟨-, conversation, handedOut⟩ := inv.held i lease held
  rw [← conversation] at handedOut
  -- a lease of another handler for the same conversation has another token
  have distinct {lease' : RunLease} (held' : (s.phases turn.handler).lease? = some lease')
      (same : lease'.conversationId = lease.conversationId) :
      lease.fencingToken ≠ lease'.fencingToken := by
    obtain ⟨-, conversation', -⟩ := inv.held _ lease' held'
    exact inv.distinct i _ lease lease' other held held'
      (conversation.symm.trans (same.symm.trans conversation'))
  obtain ⟨g, stored, token, expires⟩ | ⟨passed, superseded⟩ := window
  · obtain same | ⟨lapsed, g', stored', next⟩ | ⟨lease', g', held', same, stored', token', kept⟩ :=
      System.step_held inv renews st lease.conversationId
    · exact .inl ⟨g, same.trans stored, token, expires⟩
    -- taken over at this turn, after it had lapsed
    · refine .inr ⟨?_, fun g'' stored'' => ?_⟩
      · rw [← expires, ← now]
        exact lapsed g stored
      · cases stored'.symm.trans stored''
        rw [next]
        exact Nat.lt_succ_of_le handedOut
    · cases stored.symm.trans stored'
      exact absurd (token.symm.trans token') (distinct held' same)
  · refine .inr ⟨Int.le_trans passed later, fun g stored => ?_⟩
    obtain same | ⟨-, g', stored', next⟩ | ⟨lease', g', held', same, stored', token', kept⟩ :=
      System.step_held inv renews st lease.conversationId
    · exact superseded g (same.symm.trans stored)
    · cases stored'.symm.trans stored
      rw [next]
      exact Nat.lt_succ_of_le handedOut
    · rw [kept g stored]
      exact superseded g' stored'

end Windows

section Turns

variable {agent : ChatRuntimeAgent} (requests : Nat → Request)

/-- The turn that an event appends to the conversation store (source `_append_history_safely`). -/
def appendedTurn (e : Event (System agent) Turn) : Option ChatTurn :=
  let request := requests e.label.handler
  let turn (response : ChatResponse) : ChatTurn :=
    { threadId := request.identity.conversationId
      runId := request.identity.runId
      userMessage := request.message
      assistantMessage := response.response }
  if e.label.input.delivery.made then
    match e.pre.phases e.label.handler with
    | .appending _ execution => some (turn execution.response)
    | .replaying response => some (turn response)
    | _ => none
  else none

/-- The conversation store after some events. -/
def conversationsAfter (store : ConversationStore) (t : store.τ) :
    List (Event (System agent) Turn) → store.τ
  | [] => t
  | e :: events =>
    match appendedTurn requests e with
    | none => conversationsAfter store t events
    | some turn => conversationsAfter store (store.appendTurn turn t).2 events

/-- The event adds a turn to the conversation store. -/
def AddsTurn (store : ConversationStore) (before : List (Event (System agent) Turn))
    (e : Event (System agent) Turn) : Prop :=
  ∃ turn, appendedTurn requests e = some turn ∧
    (store.appendTurn turn (conversationsAfter requests store store.empty before)).1 = true

/-- No other run holds an unexpired lease on the conversation of the event's request. -/
def Unclaimed (e : Event (System agent) Turn) : Prop :=
  let request := requests e.label.handler
  ∀ g, heldOf agent e.pre.store request.identity.conversationId = some g →
    e.label.input.now < g.expires → g.owner = keyOf agent request

/-- A turn is appended under the unexpired lease of its conversation, or for the replay of a run that is
    over while no other run holds the conversation. -/
def Fenced (e : Event (System agent) Turn) : Prop :=
  match e.pre.phases e.label.handler with
  | .appending lease _ => ∃ g, heldOf agent e.pre.store lease.conversationId = some g ∧
      g.token = lease.fencingToken ∧ e.label.input.now < g.expires
  | .replaying _ => Unclaimed requests e
  | _ => True

/-- A check of the turn of an event. -/
def fencedCheck (e : Event (System agent) Turn) : Bool :=
  let request := requests e.label.handler
  match e.pre.phases e.label.handler with
  | .appending lease _ => (heldOf agent e.pre.store lease.conversationId).any fun g =>
      g.token = lease.fencingToken && e.label.input.now < g.expires
  | .replaying _ => (heldOf agent e.pre.store request.identity.conversationId).all fun g =>
      g.expires ≤ e.label.input.now || g.owner = keyOf agent request
  | _ => true

lemma fenced_iff_check (e : Event (System agent) Turn) :
    fencedCheck requests e = true ↔ Fenced requests e := by
  simp only [fencedCheck, Fenced, Unclaimed]
  split
  · simp [Option.any_eq_true]
  · simp [Option.all_eq_true, or_iff_not_imp_left]
  · simp

instance (e : Event (System agent) Turn) : Decidable (Fenced requests e) :=
  decidable_of_iff _ (fenced_iff_check requests e)

instance (store : ConversationStore) (before : List (Event (System agent) Turn))
    (e : Event (System agent) Turn) : Decidable (AddsTurn requests store before e) :=
  decidable_of_iff ((appendedTurn requests e).any (fun turn =>
    (store.appendTurn turn (conversationsAfter requests store store.empty before)).1) = true)
    (Option.any_eq_true _ _)

/-- The expiry of the lease of every handler when its outcome was accepted. -/
def noteExpiry (expiries : Nat → Option Time) (e : Event (System agent) Turn) :
    Nat → Option Time :=
  match e.pre.phases e.label.handler with
  | .persisting lease _ _ => Function.update expiries e.label.handler
      ((heldOf agent e.pre.store lease.conversationId).map Grant.expires)
  | _ => expiries

/-- The expiries after some events. -/
def outcomeExpiry (events : List (Event (System agent) Turn)) : Nat → Option Time :=
  events.foldl noteExpiry fun _ => none

/-- A turn is appended before the lease of its outcome expires, or for a replay while the conversation
    is unclaimed. -/
def InTime (before : List (Event (System agent) Turn)) (e : Event (System agent) Turn) : Prop :=
  match e.pre.phases e.label.handler with
  | .appending _ _ =>
    ∃ expiry, outcomeExpiry before e.label.handler = some expiry ∧ e.label.input.now < expiry
  | .replaying _ => Unclaimed requests e
  | _ => True

end Turns

section Runs

variable {agent : ChatRuntimeAgent} {requests : Nat → Request}

/-- What holds of every system of handlers, with the expiries noted so far. -/
structure Noted (requests : Nat → Request) (expiries : Nat → Option Time) (s : System agent) :
    Prop where
  inv : Inv requests s
  renews : ∀ i, Renews (s.phases i)
  window : ∀ i lease execution, s.phases i = .appending lease execution →
    ∃ expiry, expiries i = some expiry ∧ Window agent s lease expiry

lemma Noted.start (now : Time) : Noted requests (fun _ => none) (System.start agent now) where
  inv := .start now
  renews _ := renews_of_none rfl
  window _ _ _ := nofun

/-- A handler that is about to append its turn was not there before, or its outcome has just been
    accepted. -/
lemma System.step_appending {s s' : System agent} {turn : Turn}
    (st : System.Step requests s turn s') {lease : RunLease} {execution : RunExecution}
    (appending : s'.phases turn.handler = .appending lease execution) :
    ∃ checkpointId, s.phases turn.handler = .persisting lease execution checkpointId ∧
      agent.store.contract.takes s.store turn.input.now lease (execution.outcome checkpointId) := by
  cases action : turn.action with
  | heartbeat =>
    have beats := st.2.1 action
    obtain ⟨-, -, rfl⟩ := st
    simp only [System.take, Function.update_self, action] at appending
    rw [appending_heartbeat (Prod.ext appending rfl)] at beats
    cases beats
  | resume =>
    by_cases start : s.phases turn.handler = .start
    · obtain ⟨-, -, rfl⟩ := st
      simp only [System.take, Function.update_self, action, start, advance] at appending
      split at appending
      · cases appending
      · split at appending <;> cases appending
    · by_cases leaving : ∃ result, s.phases turn.handler = .leaving result
      · obtain ⟨result, leaving⟩ := leaving
        obtain ⟨-, -, rfl⟩ := st
        simp only [System.take, Function.update_self, action, leaving] at appending
        cases appending
      · have resumed := System.step_resume st action start fun result e => leaving ⟨result, e⟩
        rw [appending] at resumed
        exact appending_resume resumed

/-- Accepting an outcome leaves the leases as they are. -/
lemma System.step_persisting {s s' : System agent} {turn : Turn} (inv : Inv requests s)
    (st : System.Step requests s turn s') {lease : RunLease} {execution : RunExecution}
    {checkpointId : Option String}
    (persisting : s.phases turn.handler = .persisting lease execution checkpointId) :
    heldOf agent s'.store = heldOf agent s.store := by
  obtain same | ⟨call, own, exec⟩ := System.step_call st
  · rw [same]
  · have tenure : Tenure agent.store.contract.key (tokenOf agent s.store) turn.input.now call
        (heldOf agent s.store) (heldOf agent s'.store) := by
      rw [exec]
      exact agent.backend.leases.exec_spec inv.store
    rw [System.step_action st (by rw [persisting]; rfl), persisting] at own
    cases own
    cases tenure with
    | same e => exact e
    | granted called => cases called
    | extended called => cases called
    | ended called => cases called

lemma noteExpiry_other {expiries : Nat → Option Time} {e : Event (System agent) Turn} {i : Nat}
    (other : i ≠ e.label.handler) : noteExpiry expiries e i = expiries i := by
  cases phase : e.pre.phases e.label.handler with
  | persisting =>
    simp only [noteExpiry, phase]
    exact Function.update_of_ne other _ _
  | _ => simp only [noteExpiry, phase]

lemma Noted.step {expiries : Nat → Option Time} {s s' : System agent} {turn : Turn}
    (noted : Noted requests expiries s) (st : System.Step requests s turn s') :
    Noted requests (noteExpiry expiries ⟨s, turn, s'⟩) s' where
  inv := noted.inv.step st
  renews := System.step_renews st noted.renews
  window i lease execution appending := by
    obtain ⟨p', phases, -⟩ := System.step_cases st
    obtain ⟨rfl, -⟩ | ⟨other, same⟩ := phase_cases phases i
    · obtain ⟨checkpointId, persisting, takes⟩ := System.step_appending st appending
      have held : (s.phases turn.handler).lease? = some lease := by
        rw [persisting]
        rfl
      obtain ⟨key, conversation, -⟩ := noted.inv.held _ lease held
      obtain ⟨r, found, m⟩ := noted.inv.known _ (Phase.knows_of_lease? held)
      obtain ⟨g, stored, token, -⟩ := agent.backend.leases.takes_spec noted.inv.store takes
        (by rw [key]; exact found) (m.conversation.trans conversation.symm)
      refine ⟨g.expires, ?_, .inl ⟨g, ?_, token, rfl⟩⟩
      · simp only [noteExpiry, persisting, Function.update_self]
        rw [show heldOf agent s.store lease.conversationId = some g from stored]
        rfl
      · rw [System.step_persisting noted.inv st persisting]
        exact stored
    · rw [same] at appending
      obtain ⟨expiry, expiries, window⟩ := noted.window i lease execution appending
      refine ⟨expiry, ?_, window.step noted.inv noted.renews st other (by rw [appending]; rfl)⟩
      exact (noteExpiry_other other).trans expiries

lemma Noted.run {expiries : Nat → Option Time} {s final : System agent}
    {events : List (Event (System agent) Turn)} (noted : Noted requests expiries s)
    (run : Run (System.Step requests) s events final) :
    Noted requests (events.foldl noteExpiry expiries) final := by
  induction run generalizing expiries with
  | nil => exact noted
  | cons st _ ih => exact ih (noted.step st)

/-- The owner of a run still holds the conversation exactly if the expiry that its lease had when the
    outcome was accepted has not passed. -/
lemma fenced_iff_inTime {before : List (Event (System agent) Turn)}
    {e : Event (System agent) Turn} (noted : Noted requests (outcomeExpiry before) e.pre)
    (st : System.Step requests e.pre e.label e.post) :
    Fenced requests e ↔ InTime requests before e := by
  simp only [Fenced, InTime]
  split
  · next lease execution appending =>
    obtain ⟨expiry, known, window⟩ := noted.window _ lease execution appending
    have now : e.pre.clock ≤ e.label.input.now := st.1
    obtain ⟨g, stored, token, rfl⟩ | ⟨passed, superseded⟩ := window
    · constructor
      · rintro ⟨g', stored', -, unexpired⟩
        cases stored.symm.trans stored'
        exact ⟨_, known, unexpired⟩
      · rintro ⟨expiry, known', unexpired⟩
        cases known.symm.trans known'
        exact ⟨g, stored, token, unexpired⟩
    · constructor
      · rintro ⟨g, stored, token, -⟩
        exact absurd token (superseded g stored).ne'
      · rintro ⟨expiry', known', unexpired⟩
        cases known.symm.trans known'
        exact absurd unexpired (Int.not_lt.mpr (Int.le_trans passed now))
  · exact Iff.rfl
  · exact Iff.rfl

/-- In every interleaving of handlers, over both run repositories and any conversation store, the turns
    are added under the lease of their conversation, or by a replay while no other run holds it, exactly
    if each owner appends its turn before the lease of its outcome expires and each replay appends its
    turn while the conversation is unclaimed. -/
theorem history_fenced_iff (agent : ChatRuntimeAgent) (requests : Nat → Request)
    (store : ConversationStore) {now : Time} {events : List (Event (System agent) Turn)}
    {final : System agent}
    (run : Run (System.Step requests) (System.start agent now) events final) :
    (∀ before e after, events = before ++ e :: after → AddsTurn requests store before e →
      Fenced requests e) ↔
    (∀ before e after, events = before ++ e :: after → AddsTurn requests store before e →
      InTime requests before e) := by
  have each : ∀ before e after, events = before ++ e :: after →
      (Fenced requests e ↔ InTime requests before e) := by
    rintro before e after rfl
    obtain ⟨middle, first, rest⟩ := run.split
    obtain ⟨rfl, st, -⟩ := rest.head
    exact fenced_iff_inTime (Noted.run (.start now) first) st
  constructor
  · exact fun fenced before e after split adds =>
      (each before e after split).mp (fenced before e after split adds)
  · exact fun inTime before e after split adds =>
      (each before e after split).mpr (inTime before e after split adds)

/-- The turns of a first send are added under its lease. -/
theorem history_fenced_first_send :
    (∀ before e after, System.history sampleRequest (System.start sampleRuntime 0)
        (sampleTurns (wholeHandling 0)) = before ++ e :: after →
      AddsTurn sampleRequest (postgresConversations 20) before e → Fenced sampleRequest e) ↔
    (∀ before e after, System.history sampleRequest (System.start sampleRuntime 0)
        (sampleTurns (wholeHandling 0)) = before ++ e :: after →
      AddsTurn sampleRequest (postgresConversations 20) before e → InTime sampleRequest before e) :=
  history_fenced_iff sampleRuntime sampleRequest (postgresConversations 20)
    (System.run_history _ _ _ (by decide +kernel) (by decide +kernel))

/-- Requests for the two runs of one conversation, in two processes. -/
def rivalRequest (handler : Nat) : Request where
  process := handler
  message := "question"
  identity :=
    if handler = 0 then sampleIdentity "11111111-1111-4111-8111-111111111111" sampleRun_length
    else sampleIdentity "33333333-3333-4333-8333-333333333333"

/-- The first run appends its turn when its lease has expired after its outcome, and the second run
    holds the conversation. -/
theorem history_not_fenced :
    ¬ ∀ (agent : ChatRuntimeAgent) (requests : Nat → Request) (store : ConversationStore)
      (now : Time) (events : List (Event (System agent) Turn)) (final : System agent),
      Run (System.Step requests) (System.start agent now) events final →
      ∀ before e after, events = before ++ e :: after → AddsTurn requests store before e →
        Fenced requests e := by
  intro claim
  let late (handler : Nat) : Turn :=
    { handler := handler, input := { sampleInput with now := seconds 31 } }
  let turns := sampleTurns (List.replicate 8 0) ++ [1, 1, 1, 1].map late
  let s := System.start sampleRuntime 0
  have run := System.run_history rivalRequest s (turns ++ [late 0]) (by decide +kernel)
    (by decide +kernel)
  have unfenced : ∃ before e after,
      System.history rivalRequest s (turns ++ [late 0]) = before ++ e :: after ∧
        AddsTurn rivalRequest (postgresConversations 20) before e ∧ ¬ Fenced rivalRequest e := by
    refine ⟨System.history rivalRequest s turns, ⟨System.after rivalRequest s turns, late 0,
      System.take rivalRequest (System.after rivalRequest s turns) (late 0)⟩, [],
      System.history_append _ _ _ _, ?_, ?_⟩
    · decide +kernel
    · decide +kernel
  obtain ⟨before, e, after, split, adds, unfenced⟩ := unfenced
  exact unfenced (claim _ _ _ _ _ _ run before e after split adds)

end Runs

end AgentRuntime.Orchestration
