import AgentRuntime.Orchestration.History
import AgentRuntime.Orchestration.Drain

/-!
# Heartbeats that come in time

The lease of a conversation runs for a fixed time from the moment it is granted, or last renewed, so a process that
is held up loses it to another one. As long as nothing happens later than that while a handler works, the handler
keeps the conversation to itself: the stored grant is its own, and no other handler, in whichever process, works
under a lease of the same conversation.
-/

namespace AgentRuntime.Orchestration
open State Transition Fencing

section Expiries

/-- The grant that is stored for the conversation is the one of the lease, and runs out at the instant. -/
def RunsUntil (backend : Backend) (s : backend.store.σ) (lease : RunLease) (expiry : Time) : Prop :=
  ∃ g, backend.leases.held s lease.conversationId = some g ∧ g.token = lease.fencingToken ∧ g.expires = expiry

variable {now : Time} {identity : RunIdentity} {ownerId : String} {ttlSeconds : Int} {lease lease' : RunLease}

/-- A lease that is granted runs for its time. -/
lemma acquired_runs (backend : Backend) {s s' : backend.store.σ}
    (called : backend.store.repo.acquire now identity ownerId ttlSeconds s = (.ok lease, s')) :
    RunsUntil backend s' lease (now + seconds ttlSeconds) := by
  cases backend with
  | memory =>
    obtain ⟨_, _, e, -⟩ | ⟨_, _, _, _, _, _, _, e, -⟩ | ⟨r, _, _, _, e, rfl⟩ :=
      MemoryRunRepository.acquire_cases called
    · cases e
    · cases e
    · cases e
      exact ⟨_, (congrFun (MemoryRunRepository.held_grant _ _ _ _) _).trans (Function.update_self _ _ _), rfl, rfl⟩
  | postgres driver =>
    obtain ⟨_, e, -⟩ | ⟨r, granted, _, _, _, conversation, token, expires, _, e, rfl⟩ :=
      PostgresRunRepository.acquire_cases called
    · cases e
    · cases e
      rw [← conversation]
      exact ⟨_, (congrFun (PostgresRunRepository.held_setLease _ _ _) _).trans (Function.update_self _ _ _), rfl,
        expires⟩

/-- A lease that is renewed runs for its time from then on. -/
lemma renewed_runs (backend : Backend) {s s' : backend.store.σ}
    (called : backend.store.repo.renew now lease ttlSeconds s = (.ok lease', s')) :
    RunsUntil backend s' lease (now + seconds ttlSeconds) := by
  cases backend with
  | memory =>
    obtain ⟨_, e, -⟩ | ⟨_, _, e, -⟩ | ⟨r, _, _, _, rfl⟩ := MemoryRunRepository.renew_cases called
    · cases e
    · cases e
    · exact ⟨_, (congrFun (MemoryRunRepository.held_setLease _ _) _).trans (Function.update_self _ _ _), rfl, rfl⟩
  | postgres driver =>
    obtain ⟨_, e, -⟩ | ⟨k, owner, _, _, _, rfl⟩ := PostgresRunRepository.renew_cases called
    · cases e
    · exact ⟨_, (congrFun (PostgresRunRepository.held_renewRun _ _ _ _ _) _).trans
        ((congrFun (PostgresRunRepository.held_setLease _ _ _) _).trans (Function.update_self _ _ _)), rfl, rfl⟩

end Expiries

section Renewals

/-- The handler gets its lease, or has it renewed, between the two phases. -/
def Phase.renewal : Phase → Phase → Bool
  | .acquiring, .preparing _ _ => true
  | .preparing _ _, .preparing _ _ => true
  | .executing _ _, .executing _ _ => true
  | _, _ => false

variable {agent : ChatRuntimeAgent} {request : Request} {input : Input} {t t' : agent.store.σ} {p p' : Phase}
variable {lease : RunLease}

lemma unpersisted_unwind (lease : RunLease) (terminalPersisted : Bool) (error : RequestError) :
    (unwind lease terminalPersisted error).unpersisted? = none := by
  simp only [unwind]
  split
  · rfl
  · rfl
  · split <;> rfl

lemma unpersisted_afterLookup (record : RunRecord) (created resumeMigrated : Bool) :
    (afterLookup request record created resumeMigrated input).unpersisted? = none := by
  simp only [afterLookup]
  split
  · rfl
  · rfl
  · rfl
  · split <;> rfl

lemma unpersisted_afterInspection (created checkpointExists : Bool) :
    (afterInspection request created checkpointExists).unpersisted? = none := by
  simp only [afterInspection]
  split
  · rfl
  · split <;> rfl

/-- A handler that works has just got its lease, or has left the repository alone. -/
lemma resume_unpersisted (h : resume agent request input t p = (p', t')) (works : p'.unpersisted? = some lease) :
    (p.renewal p' = true ∧ agent.store.repo.acquire input.now request.identity input.drawn.val
      agent.settings.runLeaseTtlSeconds t = (.ok lease, t')) ∨
    (p.renewal p' = false ∧ p.unpersisted? = some lease ∧ t' = t) := by
  cases p with
  | acquiring =>
    simp only [resume] at h
    split at h
    · obtain ⟨rfl, rfl⟩ := Prod.mk.inj h
      cases works
    · next called =>
      obtain ⟨rfl, rfl⟩ := Prod.mk.inj h
      cases works
      exact .inl ⟨rfl, (awaited_cases called).2 _ rfl⟩
  | preparing =>
    simp only [resume] at h
    split at h
    · obtain ⟨rfl, rfl⟩ := Prod.mk.inj h
      cases (unpersisted_unwind _ _ _).symm.trans works
    · obtain ⟨rfl, rfl⟩ := Prod.mk.inj h
      exact .inr ⟨rfl, works, rfl⟩
  | executing =>
    simp only [resume] at h
    split at h
    · obtain ⟨rfl, rfl⟩ := Prod.mk.inj h
      cases (unpersisted_unwind _ _ _).symm.trans works
    · obtain ⟨rfl, rfl⟩ := Prod.mk.inj h
      exact .inr ⟨rfl, works, rfl⟩
  | locating =>
    simp only [resume] at h
    split at h
    · obtain ⟨rfl, rfl⟩ := Prod.mk.inj h
      cases (unpersisted_unwind _ _ _).symm.trans works
    · obtain ⟨rfl, rfl⟩ := Prod.mk.inj h
      exact .inr ⟨rfl, works, rfl⟩
    · obtain ⟨rfl, rfl⟩ := Prod.mk.inj h
      exact .inr ⟨rfl, works, rfl⟩
  | start =>
    obtain ⟨rfl, rfl⟩ := Prod.mk.inj h
    cases works
  | leaving =>
    obtain ⟨rfl, rfl⟩ := Prod.mk.inj h
    cases works
  | done =>
    obtain ⟨rfl, rfl⟩ := Prod.mk.inj h
    cases works
  | _ =>
    -- no other await leads to work under a lease
    simp only [resume] at h
    repeat' split at h
    all_goals
      obtain ⟨rfl, rfl⟩ := Prod.mk.inj h
      first
      | cases works
      | cases (unpersisted_unwind _ _ _).symm.trans works
      | cases (unpersisted_afterLookup _ _ _).symm.trans works
      | cases (unpersisted_afterInspection _ _).symm.trans works

/-- A handler that works after a heartbeat has had its lease renewed. -/
lemma heartbeat_unpersisted (h : heartbeat agent input t p = (p', t')) (beats : p.beats = true)
    (works : p'.unpersisted? = some lease) :
    p.renewal p' = true ∧ ∃ current renewed, p.renewed? = some (lease, current) ∧
      agent.store.repo.renew input.now current agent.settings.runLeaseTtlSeconds t = (.ok renewed, t') := by
  cases p with
  | preparing =>
    simp only [heartbeat] at h
    split at h
    · obtain ⟨rfl, rfl⟩ := Prod.mk.inj h
      cases (unpersisted_unwind _ _ _).symm.trans works
    · next called =>
      obtain ⟨rfl, rfl⟩ := Prod.mk.inj h
      cases works
      exact ⟨rfl, _, _, rfl, (awaited_cases called).2 _ rfl⟩
  | executing =>
    simp only [heartbeat] at h
    split at h
    · obtain ⟨rfl, rfl⟩ := Prod.mk.inj h
      cases (unpersisted_unwind _ _ _).symm.trans works
    · next called =>
      obtain ⟨rfl, rfl⟩ := Prod.mk.inj h
      cases works
      exact ⟨rfl, _, _, rfl, (awaited_cases called).2 _ rfl⟩
  | _ => cases beats

end Renewals

section Exclusion

variable {agent : ChatRuntimeAgent} {requests : Nat → Request} {s s' final : System agent} {turn : Turn}
variable {past events : List (Event (System agent) Turn)} {e : Event (System agent) Turn} {i j : Nat}
variable {lease lease' : RunLease}

/-- The event grants the handler its lease, or renews it. -/
def renewsLease (i : Nat) (e : Event (System agent) Turn) : Bool :=
  e.label.handler = i && (e.pre.phases i).renewal (e.post.phases i)

/-- The instant at which the handler's lease was granted, or renewed last. -/
def renewedAt (i : Nat) (past : List (Event (System agent) Turn)) : Option Time :=
  past.foldl (fun last e => if renewsLease i e then some e.label.input.now else last) none

lemma renewedAt_concat : renewedAt i (past ++ [e]) =
    if renewsLease i e then some e.label.input.now else renewedAt i past := by
  rw [renewedAt, List.foldl_append]
  rfl

/-- The time that a lease runs for. -/
abbrev leaseTime (agent : ChatRuntimeAgent) : Time := seconds agent.settings.runLeaseTtlSeconds

/-- The heartbeats of the handler come in time: while it works under its lease, nothing happens, here or in any
    other process, when the lease has run for its time since it was granted or renewed. -/
def Timely (i : Nat) (events : List (Event (System agent) Turn)) : Prop :=
  ∀ before e after, events = before ++ e :: after → ∀ lease, (e.pre.phases i).unpersisted? = some lease →
    ∀ last, renewedAt i before = some last → e.label.input.now < last + leaseTime agent

/-- The handler that works under the lease has the conversation until the lease runs out. -/
def KeepsConversation (i : Nat) (past : List (Event (System agent) Turn)) (s : System agent) : Prop :=
  ∀ lease, (s.phases i).unpersisted? = some lease → ∃ last, renewedAt i past = some last ∧
    RunsUntil agent.backend s.store lease (last + leaseTime agent)

lemma Timely.before (timely : Timely i (past ++ [e])) : Timely i past := by
  rintro before e' after rfl
  exact timely before e' (after ++ [e]) (by rw [List.append_assoc, List.cons_append])

/-- The turn of a handler that works. -/
lemma System.step_works (renews : ∀ i, Renews (s.phases i)) (st : System.Step requests s turn s')
    (works : (s'.phases turn.handler).unpersisted? = some lease) :
    (renewsLease turn.handler ⟨s, turn, s'⟩ = true ∧
      RunsUntil agent.backend s'.store lease (turn.input.now + leaseTime agent)) ∨
    (renewsLease turn.handler ⟨s, turn, s'⟩ = false ∧ (s.phases turn.handler).unpersisted? = some lease ∧
      s'.store = s.store) := by
  simp only [renewsLease, decide_true, Bool.true_and]
  cases action : turn.action with
  | heartbeat =>
    have beats := st.2.1 action
    have moved : heartbeat agent turn.input s.store (s.phases turn.handler) =
        (s'.phases turn.handler, s'.store) := by
      obtain ⟨-, -, rfl⟩ := st
      simp only [System.take, Function.update_self, action]
      rfl
    obtain ⟨renewal, current, renewed, held, called⟩ := heartbeat_unpersisted moved beats works
    obtain ⟨conversation, token⟩ := renews _ _ _ held
    refine .inl ⟨renewal, ?_⟩
    obtain ⟨g, stored, same, expires⟩ := renewed_runs agent.backend called
    exact ⟨g, conversation ▸ stored, same.trans token, expires⟩
  | resume =>
    obtain ⟨p', gate', advanced, phases, -⟩ := System.step_advance st
    have own : s'.phases turn.handler = p' := by rw [phases, Function.update_self]
    rw [own] at works ⊢
    rw [action] at advanced
    obtain ⟨-, -, ⟨result, rfl⟩, -⟩ | ⟨-, -, rfl⟩ | ⟨result, -, rfl, -⟩ | ⟨result, -, rfl, -⟩ |
      ⟨-, -, -, -, moved⟩ := advance_resume_cases advanced
    · cases works
    · split at works <;> cases works
    · cases works
    · cases works
    · obtain ⟨renewal, called⟩ | ⟨renewal, before, same⟩ := resume_unpersisted moved works
      · exact .inl ⟨renewal, acquired_runs agent.backend called⟩
      · exact .inr ⟨renewal, before, same⟩

/-- A handler whose heartbeats come in time keeps its conversation at every turn, of whichever handler. -/
lemma KeepsConversation.step (keeps : KeepsConversation i past s) (inv : Inv requests s)
    (renews : ∀ i, Renews (s.phases i)) (st : System.Step requests s turn s')
    (timely : Timely i (past ++ [⟨s, turn, s'⟩])) : KeepsConversation i (past ++ [⟨s, turn, s'⟩]) s' := by
  intro lease works
  rw [renewedAt_concat]
  by_cases own : i = turn.handler
  · subst own
    obtain ⟨renewal, runs⟩ | ⟨renewal, before, same⟩ := System.step_works renews st works
    · rw [if_pos renewal]
      exact ⟨_, rfl, runs⟩
    · rw [renewal, same]
      exact keeps lease before
  · have idle : renewsLease i ⟨s, turn, s'⟩ = false := by
      simp [renewsLease, Ne.symm own]
    have before : (s.phases i).unpersisted? = some lease := by
      obtain ⟨p', phases, -⟩ := System.step_cases st
      rw [phases, Function.update_of_ne own] at works
      exact works
    obtain ⟨last, at', g, stored, token, expires⟩ := keeps lease before
    have running := timely past ⟨s, turn, s'⟩ [] rfl lease before last at'
    have held := Phase.lease?_of_unpersisted? before
    obtain ⟨-, conversation, -⟩ := inv.held i lease held
    rw [idle]
    refine ⟨last, at', ?_⟩
    obtain same | ⟨lapsed, -⟩ | ⟨lease', g', held', same, stored', token', -⟩ :=
      System.step_held inv renews st lease.conversationId
    · exact ⟨g, same.trans stored, token, expires⟩
    · -- the lease has not run out
      have ended := lapsed g stored
      rw [expires] at ended
      exact absurd running (Int.not_lt.mpr ended)
    · -- a lease of another handler has another token
      cases stored.symm.trans stored'
      obtain ⟨-, conversation', -⟩ := inv.held _ lease' held'
      exact absurd (token.symm.trans token')
        (inv.distinct i _ lease lease' own held held' (conversation.symm.trans (same.symm.trans conversation')))

variable {now : Time}

lemma KeepsConversation.run (run : Run (System.Step requests) (.start agent now) events final)
    (timely : Timely i events) : KeepsConversation i events final := by
  have all : Inv requests final ∧ (∀ i, Renews (final.phases i)) ∧
      (Timely i events → KeepsConversation i events final) := by
    refine run.invariant_history (I := fun past s => Inv requests s ∧ (∀ i, Renews (s.phases i)) ∧
      (Timely i past → KeepsConversation i past s)) ?_ ?_
    · rintro past e st ⟨inv, renews, keeps⟩
      exact ⟨inv.step st, System.step_renews st renews,
        fun timely => (keeps timely.before).step inv renews st timely⟩
    · refine ⟨.start now, fun _ => renews_of_none rfl, ?_⟩
      rintro - lease works
      cases works
  exact all.2.2 timely

/-- Whichever handlers interleave in whichever processes, if the heartbeats come in time then no two of them work
    in one conversation, between the grant of the lease and the outcome; and the grant that is stored for the
    conversation is the one of the handler that works, and has not run out. -/
theorem timely_work_excludes (run : Run (System.Step requests) (.start agent now) events final)
    (timely : ∀ i, Timely i events) (works : (final.phases i).unpersisted? = some lease) :
    (∃ last, renewedAt i events = some last ∧
      RunsUntil agent.backend final.store lease (last + leaseTime agent)) ∧
    ∀ j lease', (final.phases j).unpersisted? = some lease' →
      (requests j).identity.conversationId = (requests i).identity.conversationId → j = i := by
  have inv := Inv.run run
  obtain ⟨last, at', runs⟩ := KeepsConversation.run run (timely i) lease works
  refine ⟨⟨last, at', runs⟩, ?_⟩
  intro j lease' works' same
  by_contra other
  obtain ⟨g, stored, token, -⟩ := runs
  obtain ⟨last', -, g', stored', token', -⟩ := KeepsConversation.run run (timely j) lease' works'
  have held := Phase.lease?_of_unpersisted? works
  have held' := Phase.lease?_of_unpersisted? works'
  have conversation : lease'.conversationId = lease.conversationId := by
    rw [(inv.held j lease' held').2.1, (inv.held i lease held).2.1, same]
  rw [conversation] at stored'
  cases stored.symm.trans stored'
  exact inv.distinct j i lease' lease other held' held same (token'.symm.trans token)

/-- Heartbeats come in time when each is less than a second late: the settings leave that much between the interval
    of the heartbeats and the time of a lease. -/
lemma timely_of_prompt (prompt : ∀ before e after, events = before ++ e :: after →
    ∀ lease, (e.pre.phases i).unpersisted? = some lease → ∀ last, renewedAt i before = some last →
      e.label.input.now < last + seconds agent.settings.runLeaseHeartbeatSeconds + seconds 1) :
    Timely i events := by
  intro before e after cut lease works last renewed
  have late := prompt before e after cut lease works last renewed
  have slack := agent.settings.heartbeat_lt_ttl
  have within : seconds agent.settings.runLeaseHeartbeatSeconds + seconds 1 ≤ leaseTime agent := by
    show (agent.settings.runLeaseHeartbeatSeconds : Int) * 1000000 + 1 * 1000000 ≤
      (agent.settings.runLeaseTtlSeconds : Int) * 1000000
    omega
  rw [Int.add_assoc] at late
  exact Int.lt_of_lt_of_le late (Int.add_le_add_left within last)

end Exclusion

section Samples

/-- A turn for examples, some seconds after the start. -/
def turnAt (handler : Nat) (count : Int) (action : Action := .resume) : Turn where
  handler := handler
  action := action
  input := { sampleInput with now := seconds count, processNow := seconds count }

/-- The first handler executes the graph for longer than the time of a lease and renews it every ten seconds,
    while the second one comes to ask for the lease of the conversation. -/
def rivalTurns : List Turn :=
  [turnAt 0 0, turnAt 0 0, turnAt 0 0, turnAt 0 0, turnAt 0 0, turnAt 1 5, turnAt 1 5, turnAt 0 10 .heartbeat,
    turnAt 1 15, turnAt 0 20 .heartbeat, turnAt 0 30 .heartbeat, turnAt 1 35]

def rivalEvents : List (Event (System sampleRuntime) Turn) :=
  System.history rivalRequest (.start sampleRuntime 0) rivalTurns

def rivalAfter : System sampleRuntime := System.after rivalRequest (.start sampleRuntime 0) rivalTurns

/-- A turn that can be taken. -/
def canGo {agent : ChatRuntimeAgent} (e : Event (System agent) Turn) : Bool :=
  decide (e.pre.clock ≤ e.label.input.now) &&
    (e.label.action = .resume || (e.pre.phases e.label.handler).beats)

lemma run_of_canGo {agent : ChatRuntimeAgent} {requests : Nat → Request} {s : System agent} {turns : List Turn}
    (can : (System.history requests s turns).all canGo = true) :
    Run (System.Step requests) s (System.history requests s turns) (System.after requests s turns) := by
  induction turns generalizing s with
  | nil => exact .nil
  | cons turn turns ih =>
    obtain ⟨first, later⟩ := Bool.and_eq_true_iff.mp can
    obtain ⟨ordered, goes⟩ := Bool.and_eq_true_iff.mp first
    refine .cons ⟨of_decide_eq_true ordered, fun beat => ?_, rfl⟩ (ih later)
    obtain resumes | beats := Bool.or_eq_true_iff.mp goes
    · cases beat.symm.trans (of_decide_eq_true resumes)
    · exact beats

/-- What the handler does under its lease is prompt, from the instant of its last renewal on. -/
def isPrompt {agent : ChatRuntimeAgent} (i : Nat) : Option Time → List (Event (System agent) Turn) → Bool
  | _, [] => true
  | last, e :: events =>
    ((e.pre.phases i).unpersisted?.isNone || last.all fun last =>
      decide (e.label.input.now < last + seconds agent.settings.runLeaseHeartbeatSeconds + seconds 1)) &&
      isPrompt i (if renewsLease i e then some e.label.input.now else last) events

lemma prompt_of_isPrompt {agent : ChatRuntimeAgent} {i : Nat} {events : List (Event (System agent) Turn)}
    {first : Option Time} (check : isPrompt i first events = true) : ∀ before e after,
      events = before ++ e :: after → ∀ lease, (e.pre.phases i).unpersisted? = some lease → ∀ last,
        before.foldl (fun last e => if renewsLease i e then some e.label.input.now else last) first = some last →
        e.label.input.now < last + seconds agent.settings.runLeaseHeartbeatSeconds + seconds 1 := by
  intro before
  induction before generalizing events first with
  | nil =>
    rintro e after rfl lease works last renewed
    have prompt := (Bool.and_eq_true_iff.mp check).1
    rw [works, show first = some last from renewed] at prompt
    exact of_decide_eq_true prompt
  | cons e' before ih =>
    rintro e after rfl
    exact ih (Bool.and_eq_true_iff.mp check).2 e after rfl

lemma rival_run : Run (System.Step rivalRequest) (.start sampleRuntime 0) rivalEvents rivalAfter :=
  run_of_canGo (by decide +kernel)

lemma rival_timely (i : Nat) : Timely i rivalEvents := by
  rcases i with _ | _ | i
  · exact timely_of_prompt (prompt_of_isPrompt (by decide +kernel))
  · exact timely_of_prompt (prompt_of_isPrompt (by decide +kernel))
  · -- the others do not go on
    intro before e after cut lease works
    have run := rival_run
    rw [cut] at run
    obtain ⟨_, past, later⟩ := run.split
    obtain ⟨rfl, -, -⟩ := later.head
    have idle : before.countP (goesOn (i + 2)) = 0 := by
      have all : ∀ e ∈ rivalEvents, decide (e.label.handler < 2) = true := List.all_eq_true.mp (by decide +kernel)
      refine List.countP_eq_zero.mpr fun e' mem goes => ?_
      have few := of_decide_eq_true (all e' (cut ▸ List.mem_append_left _ mem))
      simp only [goesOn, Bool.and_eq_true, decide_eq_true_eq] at goes
      omega
    rw [start_run past rfl idle] at works
    cases works

/-- The handler of the first request executes the graph, while nobody else works in its conversation. -/
theorem timely_work_excludes_sample : ∃ lease, (rivalAfter.phases 0).unpersisted? = some lease ∧
    RunsUntil .memory rivalAfter.store lease (seconds 60) ∧
    rivalAfter.phases 1 = .leaving (.error (.identity .conversationBusy
      "Another run is already active for this conversation")) ∧
    ∀ j lease', (rivalAfter.phases j).unpersisted? = some lease' →
      (rivalRequest j).identity.conversationId = (rivalRequest 0).identity.conversationId → j = 0 := by
  have works : ((rivalAfter.phases 0).unpersisted?).isSome = true := by decide +kernel
  obtain ⟨lease, works⟩ := Option.isSome_iff_exists.mp works
  obtain ⟨⟨last, at', runs⟩, alone⟩ := timely_work_excludes rival_run rival_timely works
  have renewed : renewedAt 0 rivalEvents = some (seconds 30) := by decide +kernel
  cases at'.symm.trans renewed
  exact ⟨lease, works, runs, rfl, alone⟩

end Samples

end AgentRuntime.Orchestration
