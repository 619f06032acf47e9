import AgentRuntime.Lib.Fencing
import AgentRuntime.State.Memory

/-!
# The leases of the process-local repository

The invariant that ties the three dictionaries of `MemoryRunRepository` together (`Coherent`), and
the refinement of the abstract lease table: a repository state is a fenced table (`table`), every call
acts on it as one action (`action`), so a history of calls is a run of the table. What holds of fenced
tables then holds of the repository.
-/

namespace AgentRuntime.State.MemoryRunRepository
open Transition

/-- The lease stored for a conversation is its own, has the last token, and is the one that the record
    of its run names. -/
structure LeaseOf (records : Dict RunRecord) (fencing : Dict Nat) (conversationId : String)
    (lease : RunLease) : Prop where
  conversation : lease.conversationId = conversationId
  last : fencing.lookup conversationId = some lease.fencingToken
  run : ∃ r, records.lookup lease.runId = some r ∧ r.conversationId = conversationId ∧
    r.leaseOwner = some lease.ownerId ∧ r.fencingToken = some lease.fencingToken

/-- Every stored lease is coherent with the records and the fencing counters. -/
def Coherent (repo : MemoryRunRepository) : Prop :=
  ∀ c lease, repo.leases.lookup c = some lease →
    LeaseOf repo.records repo.fencing c lease

/-- The fields of a record that a lease is checked against are the same. -/
structure SameLease (r r' : RunRecord) : Prop where
  conversation : r'.conversationId = r.conversationId
  owner : r'.leaseOwner = r.leaseOwner
  token : r'.fencingToken = r.fencingToken

lemma coherent_empty : Coherent {} := by
  intro c lease h
  cases h

/-- A record may be rewritten in every field but the ones of its lease. -/
lemma Coherent.setRecord {repo : MemoryRunRepository} {k : String} {r' : RunRecord}
    (h : repo.Coherent) (same : ∀ r, repo.records.lookup k = some r → SameLease r r') :
    (repo.setRecord k r').Coherent := by
  intro c lease hc
  obtain ⟨conversation, last, r, hr, rc, ro, rt⟩ := h c lease hc
  refine ⟨conversation, last, ?_⟩
  simp only [setRecord_records, Dict.lookup_insert_ite]
  split
  · next e =>
    subst e
    obtain ⟨e1, e2, e3⟩ := same r hr
    exact ⟨r', rfl, e1.trans rc, e2.trans ro, e3.trans rt⟩
  · exact ⟨r, hr, rc, ro, rt⟩

/-- The lease in force may be extended. -/
lemma Coherent.setLease {repo : MemoryRunRepository} {lease : RunLease} {now expiresAt : Time}
    (h : repo.Coherent) (owns : repo.ownsLease now lease = true) :
    (repo.setLease { lease with expiresAt }).Coherent := by
  obtain ⟨current, hc, same, -⟩ := ownsLease_iff.mp owns
  obtain ⟨conversation, last, r, hr, rc, ro, rt⟩ := h _ _ hc
  obtain ⟨-, e1, e2, e3⟩ := sameOwner_iff.mp same
  intro c lease' hl
  simp only [setLease_leases, Dict.lookup_insert_ite] at hl
  split at hl
  · next e =>
    subst e
    cases hl
    exact ⟨rfl, e3 ▸ last, r, e1 ▸ hr, rc, e2 ▸ ro, e3 ▸ rt⟩
  · exact h c lease' hl

/-- A granted lease is coherent, and the leases of the other conversations stay so. -/
lemma Coherent.grant {repo : MemoryRunRepository} {r : RunRecord} {lease : RunLease} {now : Time}
    (h : repo.Coherent) (hr : repo.records.lookup lease.runId = some r)
    (conversation : r.conversationId = lease.conversationId) :
    (repo.grant r lease now).Coherent := by
  intro c lease' hc
  simp only [MemoryRunRepository.grant, Dict.lookup_insert_ite] at hc
  split at hc
  · next e =>
    subst e
    cases hc
    exact ⟨rfl, by simp [MemoryRunRepository.grant], r.acquired lease now,
      by simp [MemoryRunRepository.grant], conversation, rfl, rfl⟩
  · next e =>
    obtain ⟨conversation', last, r', hr', rc, ro, rt⟩ := h c lease' hc
    refine ⟨conversation', ?_, ?_⟩
    · simp [MemoryRunRepository.grant, e, last]
    · refine ⟨r', ?_, rc, ro, rt⟩
      simp only [MemoryRunRepository.grant, Dict.lookup_insert_ite]
      rw [if_neg, hr']
      -- the run of the new lease belongs to another conversation
      intro same
      rw [same, hr] at hr'
      cases hr'
      exact e (rc.symm.trans conversation)

/-- Removing a lease keeps the others coherent. -/
lemma Coherent.erase {repo : MemoryRunRepository} {c : String} (h : repo.Coherent) :
    Coherent { repo with leases := repo.leases.erase c } := by
  intro c' lease hc
  simp only [Dict.lookup_erase_ite] at hc
  split at hc
  · cases hc
  · exact h c' lease hc

section Calls

variable {repo repo' : MemoryRunRepository} {now : Time} {lease : RunLease}

lemma Coherent.createOrGet {identity result} (h : repo.Coherent)
    (e : createOrGet now identity repo = (result, repo')) : repo'.Coherent := by
  obtain ⟨_, _, _, _, _, _, rfl⟩ | ⟨_, _, _, _, rfl⟩ | ⟨none, _, rfl⟩ := createOrGet_cases e
  · exact h
  · exact h
  · exact h.setRecord fun r hr => by simp [none] at hr

lemma Coherent.acquire {identity ownerId ttlSeconds result} (h : repo.Coherent)
    (e : acquire now identity ownerId ttlSeconds repo = (result, repo')) : repo'.Coherent := by
  obtain ⟨_, _, _, _, rfl⟩ | ⟨_, _, _, _, _, _, _, _, _, rfl⟩ | ⟨r, hr, m, _, _, rfl⟩ :=
    acquire_cases e
  · exact h
  · exact h
  · exact h.grant hr m.conversation

lemma Coherent.renew {ttlSeconds result} (h : repo.Coherent)
    (e : renew now lease ttlSeconds repo = (result, repo')) : repo'.Coherent := by
  obtain ⟨_, _, rfl⟩ | ⟨owns, _, _, rfl⟩ | ⟨r, owns, hr, _, rfl⟩ := renew_cases e
  · exact h
  · exact h.setLease owns
  · exact (h.setLease owns).setRecord fun r' hr' => by
      cases hr.symm.trans hr'
      exact ⟨rfl, rfl, rfl⟩

lemma Coherent.release {result} (h : repo.Coherent)
    (e : release lease repo = (result, repo')) : repo'.Coherent := by
  obtain ⟨-, ⟨-, rfl⟩ | ⟨-, -, -, rfl⟩⟩ := release_cases e
  · exact h
  · exact h.erase

lemma Coherent.markTerminal {outcome result} (h : repo.Coherent)
    (e : markTerminal now lease outcome repo = (result, repo')) : repo'.Coherent := by
  obtain ⟨_, _, rfl⟩ | ⟨_, _, _, rfl⟩ | ⟨r, _, hr, _, rfl⟩ := markTerminal_cases e
  · exact h
  · exact h
  · exact h.setRecord fun r' hr' => by
      cases hr.symm.trans hr'
      exact ⟨rfl, rfl, rfl⟩

lemma Coherent.markHistoryCommitted {payload result} (h : repo.Coherent)
    (e : markHistoryCommitted now lease payload repo = (result, repo')) : repo'.Coherent := by
  obtain ⟨_, _, rfl⟩ | ⟨_, _, _, rfl⟩ | ⟨r, _, hr, _, rfl⟩ := markHistoryCommitted_cases e
  · exact h
  · exact h
  · exact h.setRecord fun r' hr' => by
      cases hr.symm.trans hr'
      exact ⟨rfl, rfl, rfl⟩

lemma Coherent.reconcileHistoryCommitted {runId payload result} (h : repo.Coherent)
    (e : reconcileHistoryCommitted now runId payload repo = (result, repo')) :
    repo'.Coherent := by
  obtain ⟨_, _, rfl⟩ | ⟨r, hr, _, rfl⟩ := reconcileHistoryCommitted_cases e
  · exact h
  · exact h.setRecord fun r' hr' => by
      cases hr.symm.trans hr'
      exact ⟨rfl, rfl, rfl⟩

lemma Coherent.revokeResumeTokens {runId result} (h : repo.Coherent)
    (e : revokeResumeTokens now runId repo = (result, repo')) : repo'.Coherent := by
  obtain ⟨_, _, rfl⟩ | ⟨r, hr, _, rfl⟩ := revokeResumeTokens_cases e
  · exact h
  · exact h.setRecord fun r' hr' => by
      cases hr.symm.trans hr'
      exact ⟨rfl, rfl, rfl⟩

end Calls

/-- Every call keeps the repository coherent. -/
lemma Coherent.exec {repo : MemoryRunRepository} (h : repo.Coherent) (now : Time) (call : Call) :
    (methods.exec now call repo).2.Coherent := by
  cases call <;> rw [RunRepository.exec, Effect.reply_snd]
  case createOrGet => exact h.createOrGet rfl
  case get => exact h
  case acquire => exact h.acquire rfl
  case renew => exact h.renew rfl
  case release => exact h.release rfl
  case markTerminal => exact h.markTerminal rfl
  case markHistoryCommitted => exact h.markHistoryCommitted rfl
  case reconcileHistoryCommitted => exact h.reconcileHistoryCommitted rfl
  case revokeResumeTokens => exact h.revokeResumeTokens rfl

/-- The lease table of a repository: its fencing counters, and the stored leases as grants to a run
    and an owner. -/
def table (repo : MemoryRunRepository) : Fencing.Table String (String × String) Time where
  last := token repo
  held c := (repo.leases.lookup c).map fun lease =>
    ⟨(lease.runId, lease.ownerId), lease.fencingToken, lease.expiresAt⟩

/-- The action of `acquire`, by its result. -/
def grantOf : Except RepositoryError RunLease → Fencing.Action String (String × String) Time
  | .ok lease => .grant lease.conversationId (lease.runId, lease.ownerId) lease.expiresAt
  | .error _ => .idle

/-- What a call does to the lease table. -/
def action (now : Time) (call : Call) (repo : MemoryRunRepository) :
    Fencing.Action String (String × String) Time :=
  match call with
  | .acquire identity ownerId ttlSeconds => grantOf (acquire now identity ownerId ttlSeconds repo).1
  | .renew lease ttlSeconds =>
    if repo.ownsLease now lease then
      .extend lease.conversationId (lease.runId, lease.ownerId) lease.fencingToken
        (now + seconds ttlSeconds)
    else .idle
  | .release lease =>
    .drop lease.conversationId (lease.runId, lease.ownerId) lease.fencingToken
  | _ => .idle

@[simp] lemma table_setRecord (repo : MemoryRunRepository) (k : String) (r : RunRecord) :
    table (repo.setRecord k r) = table repo := rfl

/-- Storing a lease, seen through the table. -/
lemma table_setLease (repo : MemoryRunRepository) (lease : RunLease) :
    table (repo.setLease lease) =
      { table repo with
        held := Function.update (table repo).held lease.conversationId
          (some ⟨(lease.runId, lease.ownerId), lease.fencingToken, lease.expiresAt⟩) } := by
  simp only [table, Fencing.Table.mk.injEq]
  refine ⟨rfl, funext fun c => ?_⟩
  simp only [setLease_leases, Dict.lookup_insert_ite, Function.update_apply]
  split <;> rfl

/-- A lease is the grant in force of the table when the repository stores a lease of its owner. -/
lemma inForce_iff {repo : MemoryRunRepository} (h : repo.Coherent) {lease : RunLease} :
    (table repo).InForce lease.conversationId (lease.runId, lease.ownerId) lease.fencingToken ↔
      ∃ current, repo.leases.lookup lease.conversationId = some current ∧
        sameOwner current lease = true := by
  constructor
  · rintro ⟨g, hg, owner, token⟩
    obtain ⟨current, hc, rfl⟩ := Option.map_eq_some_iff.mp hg
    simp only [Prod.mk.injEq] at owner
    exact ⟨current, hc, sameOwner_iff.mpr ⟨(h _ _ hc).conversation, owner.1, owner.2, token⟩⟩
  · rintro ⟨current, hc, same⟩
    obtain ⟨-, run, owner, token⟩ := sameOwner_iff.mp same
    exact ⟨_, Option.map_eq_some_iff.mpr ⟨current, hc, rfl⟩, by simp [run, owner], token⟩

/-- Extending the lease in force, seen through the table. -/
lemma table_extend {repo : MemoryRunRepository} {now expiresAt : Time} {lease : RunLease}
    (h : repo.Coherent) (owns : repo.ownsLease now lease = true) :
    table (repo.setLease { lease with expiresAt }) = (table repo).apply
      (.extend lease.conversationId (lease.runId, lease.ownerId) lease.fencingToken expiresAt) := by
  obtain ⟨current, hc, same, -⟩ := ownsLease_iff.mp owns
  have inForce := (inForce_iff h).mpr ⟨current, hc, same⟩
  rw [table_setLease, Fencing.Table.apply_extend _ inForce]

/-- Granting a lease, seen through the table. -/
lemma table_grant {repo : MemoryRunRepository} {r : RunRecord} {lease : RunLease} {now : Time}
    (next : lease.fencingToken = token repo lease.conversationId + 1) :
    table (repo.grant r lease now) = (table repo).apply
      (.grant lease.conversationId (lease.runId, lease.ownerId) lease.expiresAt) := by
  refine congrArg₂ Fencing.Table.mk ?_ (funext fun c => ?_)
  · rw [token_grant, next]
    rfl
  · simp only [grant, table, Dict.lookup_insert_ite, Function.update_apply, ← next]
    split <;> rfl

/-- Removing the stored lease of a conversation, seen through the table. -/
lemma table_erase (repo : MemoryRunRepository) (c : String) :
    table { repo with leases := repo.leases.erase c } =
      { table repo with held := Function.update (table repo).held c none } := by
  refine congrArg₂ Fencing.Table.mk rfl (funext fun c' => ?_)
  simp only [table, Dict.lookup_erase_ite, Function.update_apply]
  split <;> rfl

section Refinement

variable {repo repo' : MemoryRunRepository} {now : Time} {lease : RunLease}

lemma table_createOrGet {identity result}
    (e : createOrGet now identity repo = (result, repo')) : table repo' = table repo := by
  obtain ⟨_, _, _, _, _, _, rfl⟩ | ⟨_, _, _, _, rfl⟩ | ⟨_, _, rfl⟩ := createOrGet_cases e <;> rfl

lemma table_acquire {identity ownerId ttlSeconds result}
    (e : acquire now identity ownerId ttlSeconds repo = (result, repo')) :
    table repo' = (table repo).apply (grantOf result) := by
  obtain ⟨_, _, rfl, _, rfl⟩ | ⟨_, _, _, _, _, _, _, rfl, _, rfl⟩ | ⟨record, _, _, _, rfl, rfl⟩ :=
    acquire_cases e
  · rfl
  · rfl
  · exact table_grant rfl

lemma table_renew {ttlSeconds result} (h : repo.Coherent)
    (e : renew now lease ttlSeconds repo = (result, repo')) :
    table repo' = (table repo).apply (action now (.renew lease ttlSeconds) repo) := by
  simp only [action]
  obtain ⟨stale, _, rfl⟩ | ⟨owns, _, _, rfl⟩ | ⟨r, owns, _, _, rfl⟩ := renew_cases e
  · rw [if_neg (by simp [stale])]
    rfl
  · rw [if_pos owns]
    exact table_extend h owns
  · rw [if_pos owns]
    exact table_extend h owns

lemma table_release {result} (h : repo.Coherent) (e : release lease repo = (result, repo')) :
    table repo' = (table repo).apply (action now (.release lease) repo) := by
  simp only [action]
  obtain ⟨-, ⟨other, rfl⟩ | ⟨current, hc, same, rfl⟩⟩ := release_cases e
  · rw [Fencing.Table.apply_drop_of_not]
    rw [inForce_iff h]
    rintro ⟨current, hc, same⟩
    rw [other current hc] at same
    cases same
  · rw [Fencing.Table.apply_drop ((inForce_iff h).mpr ⟨current, hc, same⟩), table_erase]

lemma table_markTerminal {outcome result}
    (e : markTerminal now lease outcome repo = (result, repo')) : table repo' = table repo := by
  obtain ⟨_, _, rfl⟩ | ⟨_, _, _, rfl⟩ | ⟨_, _, _, _, rfl⟩ := markTerminal_cases e <;> rfl

lemma table_markHistoryCommitted {payload result}
    (e : markHistoryCommitted now lease payload repo = (result, repo')) :
    table repo' = table repo := by
  obtain ⟨_, _, rfl⟩ | ⟨_, _, _, rfl⟩ | ⟨_, _, _, _, rfl⟩ := markHistoryCommitted_cases e <;> rfl

lemma table_reconcileHistoryCommitted {runId payload result}
    (e : reconcileHistoryCommitted now runId payload repo = (result, repo')) :
    table repo' = table repo := by
  obtain ⟨_, _, rfl⟩ | ⟨_, _, _, rfl⟩ := reconcileHistoryCommitted_cases e <;> rfl

lemma table_revokeResumeTokens {runId result}
    (e : revokeResumeTokens now runId repo = (result, repo')) : table repo' = table repo := by
  obtain ⟨_, _, rfl⟩ | ⟨_, _, _, rfl⟩ := revokeResumeTokens_cases e <;> rfl

end Refinement

/-- The refinement: every call acts on the lease table as its action. -/
theorem table_exec {repo : MemoryRunRepository} (h : repo.Coherent) (now : Time) (call : Call) :
    table (methods.exec now call repo).2 = (table repo).apply (action now call repo) := by
  cases call <;> rw [RunRepository.exec, Effect.reply_snd]
  case createOrGet => exact table_createOrGet rfl
  case get => rfl
  case acquire => exact table_acquire rfl
  case renew => exact table_renew h rfl
  case release => exact table_release h rfl
  case markTerminal => exact table_markTerminal rfl
  case markHistoryCommitted => exact table_markHistoryCommitted rfl
  case reconcileHistoryCommitted => exact table_reconcileHistoryCommitted rfl
  case revokeResumeTokens => exact table_revokeResumeTokens rfl

/-- A table of coherent leases is well-formed. -/
lemma Coherent.wellFormed {repo : MemoryRunRepository} (h : repo.Coherent) :
    (table repo).WellFormed := by
  intro c g hg
  obtain ⟨lease, hc, rfl⟩ := Option.map_eq_some_iff.mp hg
  simp [table, token, (h c lease hc).last]

section Histories

/-- An event of a history of calls. -/
abbrev CallEvent := Event (Time × MemoryRunRepository) TimedCall

/-- The lease that the call of an event was granted. -/
def grantedLease (e : CallEvent) : Option RunLease :=
  match e.label.call, methods.reply e with
  | .acquire _ _ _, .lease lease => some lease
  | _, _ => none

/-- The fencing token that the call of an event was granted for a conversation. -/
def grantedToken (conversationId : String) (e : CallEvent) : Option Nat :=
  match grantedLease e with
  | some lease => if lease.conversationId = conversationId then some lease.fencingToken else none
  | none => none

/-- The lease was superseded: its conversation was granted to someone again. -/
def Superseded (lease : RunLease) (es : List CallEvent) : Prop :=
  ∃ e ∈ es, ∃ later, grantedLease e = some later ∧ later.conversationId = lease.conversationId

/-- The lease was released. -/
def Released (lease : RunLease) (es : List CallEvent) : Prop :=
  ∃ e ∈ es, ∃ supplied, e.label.call = .release supplied ∧ sameOwner lease supplied = true

/-- The expiry of a lease: the one it was granted with, or the one of its last renewal. -/
def lastExpiry (lease : RunLease) (expiresAt : Time) : List CallEvent → Time
  | [] => expiresAt
  | e :: es =>
    match e.label.call, methods.reply e with
    | .renew supplied _, .lease renewed =>
      if sameOwner lease supplied then lastExpiry lease renewed.expiresAt es
      else lastExpiry lease expiresAt es
    | _, _ => lastExpiry lease expiresAt es

/-- The event of the lease table. -/
def tableEvent (e : CallEvent) :
    Event (Fencing.Table String (String × String) Time)
      (Fencing.Action String (String × String) Time) :=
  ⟨table e.pre.2, action e.label.now e.label.call e.pre.2, table e.post.2⟩

variable {s u : Time × MemoryRunRepository} {es : List CallEvent}

/-- A history keeps the repository coherent. -/
lemma Coherent.run (h : s.2.Coherent) (run : Run methods.Step s es u) : u.2.Coherent :=
  run.invariant (I := fun s => s.2.Coherent) (G := fun _ => True)
    (fun e st _ h => by rw [st.2]; exact h.exec _ _) (fun _ _ => trivial) h

/-- A history of calls is a run of the lease table. -/
lemma table_run (h : s.2.Coherent) (run : Run methods.Step s es u) :
    Run Fencing.Step (table s.2) (es.map tableEvent) (table u.2) := by
  refine run.map (fun s => table s.2) (fun e => action e.label.now e.label.call e.pre.2)
    (I := fun s => s.2.Coherent) (fun e st h => ?_) h
  refine ⟨?_, ?_⟩
  · rw [st.2]
    exact h.exec _ _
  · rw [st.2]
    exact table_exec h _ _

/-- A lease is granted by an `acquire` that returns it. -/
lemma grantedLease_some {e : CallEvent} {lease : RunLease} (g : grantedLease e = some lease) :
    ∃ identity ownerId ttlSeconds, e.label.call = .acquire identity ownerId ttlSeconds ∧
      (acquire e.label.now identity ownerId ttlSeconds e.pre.2).1 = .ok lease := by
  simp only [grantedLease] at g
  split at g
  · next identity ownerId ttlSeconds lease' call reply =>
    cases g
    simp only [RunRepository.reply, RunRepository.exec, call, Effect.reply] at reply
    split at reply
    · next l hl =>
      cases reply
      exact ⟨identity, ownerId, ttlSeconds, call, hl⟩
    · cases reply
  · cases g

/-- The action of an event that grants a lease. -/
lemma action_of_granted {e : CallEvent} {lease : RunLease} (g : grantedLease e = some lease) :
    action e.label.now e.label.call e.pre.2 =
      .grant lease.conversationId (lease.runId, lease.ownerId) lease.expiresAt := by
  obtain ⟨identity, ownerId, ttlSeconds, call, result⟩ := grantedLease_some g
  rw [call]
  exact congrArg grantOf result

/-- Only an event that grants a lease acts on the table as a grant. -/
lemma granted_of_action {e : CallEvent} {c owner expires}
    (a : action e.label.now e.label.call e.pre.2 = .grant c owner expires) :
    ∃ lease, grantedLease e = some lease ∧ lease.conversationId = c := by
  cases call : e.label.call <;> rw [call] at a
  case acquire identity ownerId ttlSeconds =>
    cases result : (acquire e.label.now identity ownerId ttlSeconds e.pre.2).1 with
    | ok lease =>
      simp only [action, result, grantOf, Fencing.Action.grant.injEq] at a
      refine ⟨lease, ?_, a.1⟩
      simp only [grantedLease, call, RunRepository.reply, RunRepository.exec, Effect.reply, methods,
        result]
    | error error =>
      simp only [action, result, grantOf] at a
      cases a
  case renew lease ttlSeconds =>
    simp only [action] at a
    split at a <;> cases a
  all_goals cases a

/-- The token of a granted lease is the next one of its conversation. -/
lemma granted_token {e : CallEvent} {lease : RunLease} (g : grantedLease e = some lease) :
    lease.fencingToken = token e.pre.2 lease.conversationId + 1 := by
  obtain ⟨identity, ownerId, ttlSeconds, -, result⟩ := grantedLease_some g
  obtain ⟨_, _, r, _⟩ | ⟨_, _, _, _, _, _, _, r, _⟩ | ⟨_, _, _, _, r, _⟩ :=
    acquire_cases (Prod.eta (acquire e.label.now identity ownerId ttlSeconds e.pre.2)).symm
  · simp [r] at result
  · simp [r] at result
  · rw [r] at result
    cases result
    rfl

/-- A granted token is the one that the table hands out. -/
lemma tokenFor_tableEvent (c : String) (e : CallEvent) :
    Fencing.tokenFor c (tableEvent e) = grantedToken c e := by
  simp only [Fencing.tokenFor, tableEvent, grantedToken]
  split
  · next c' owner expires a =>
    obtain ⟨lease, g, rfl⟩ := granted_of_action a
    rw [g]
    simp only [granted_token g]
    split
    · next same =>
      subst same
      rfl
    · rfl
  · next other =>
    split
    · next lease g => exact absurd (action_of_granted g) (other _ _ _)
    · rfl

/-- The tokens granted for a conversation are strictly increasing. -/
lemma grantedTokens_pairwise (h : s.2.Coherent) (run : Run methods.Step s es u) (c : String) :
    (es.filterMap (grantedToken c)).Pairwise (· < ·) := by
  have ordered := (Fencing.Run.tokens_pairwise (table_run h run) c).1
  rw [List.filterMap_map] at ordered
  convert ordered using 2
  exact (tokenFor_tableEvent c _).symm

/-- A later grant of the conversation, or the release of the lease, ends its grant in the table. -/
lemma ends_of_superseded_or_released {lease : RunLease}
    (h : Superseded lease es ∨ Released lease es) :
    ∃ e ∈ es.map tableEvent, Fencing.Ends lease.conversationId (lease.runId, lease.ownerId)
      lease.fencingToken e.label := by
  rcases h with ⟨e, he, later, g, same⟩ | ⟨e, he, supplied, call, same⟩
  · refine ⟨_, List.mem_map_of_mem he, ?_⟩
    simp only [tableEvent, action_of_granted g, Fencing.Ends, same]
  · obtain ⟨conversation, run, owner, token⟩ := sameOwner_iff.mp same
    refine ⟨_, List.mem_map_of_mem he, ?_⟩
    simp only [tableEvent, call, action, Fencing.Ends, conversation, run, owner, token, and_self]

/-- A renewal is granted exactly to the lease in force. -/
lemma renew_reply {repo : MemoryRunRepository} (h : repo.Coherent) (now : Time) (lease : RunLease)
    (ttlSeconds : Int) :
    (methods.exec now (.renew lease ttlSeconds) repo).1 =
      if repo.ownsLease now lease then
        .lease { lease with expiresAt := now + seconds ttlSeconds }
      else .raised staleLease := by
  simp only [RunRepository.exec, methods, Effect.reply]
  obtain ⟨stale, r, -⟩ | ⟨owns, none, -, -⟩ | ⟨_, owns, -, r, -⟩ :=
    renew_cases (Prod.eta (renew now lease ttlSeconds repo)).symm
  · rw [r, if_neg (by simp [stale])]
  · obtain ⟨current, hc, same, -⟩ := ownsLease_iff.mp owns
    obtain ⟨r, hr, -⟩ := (h _ _ hc).run
    rw [(sameOwner_iff.mp same).2.1, none] at hr
    cases hr
  · rw [r, if_pos owns]

/-- The expiry of a lease is the one of its grant in the table. -/
lemma expiryAfter_tableEvents (h : s.2.Coherent) (run : Run methods.Step s es u)
    (lease : RunLease) (expiresAt : Time) :
    Fencing.expiryAfter lease.conversationId (lease.runId, lease.ownerId) lease.fencingToken
      expiresAt (es.map tableEvent) = lastExpiry lease expiresAt es := by
  induction run generalizing expiresAt with
  | nil => rfl
  | @cons s timed t es u st _ ih =>
    have next : t.2.Coherent := by
      rw [st.2]
      exact h.exec _ _
    obtain ⟨now, call⟩ := timed
    cases call
    case renew supplied ttlSeconds =>
      have reply : methods.reply ⟨s, ⟨now, .renew supplied ttlSeconds⟩, t⟩ = _ :=
        renew_reply h now supplied ttlSeconds
      simp only [lastExpiry, reply, List.map_cons, tableEvent, action, Fencing.expiryAfter]
      by_cases owns : s.2.ownsLease now supplied = true
      · simp only [owns, if_true]
        have named : (supplied.conversationId = lease.conversationId ∧
            (supplied.runId, supplied.ownerId) = (lease.runId, lease.ownerId) ∧
            supplied.fencingToken = lease.fencingToken) ↔ sameOwner lease supplied = true := by
          rw [sameOwner_iff, Prod.mk.injEq]
          constructor
          · rintro ⟨e1, ⟨e2, e3⟩, e4⟩
            exact ⟨e1.symm, e2.symm, e3.symm, e4.symm⟩
          · rintro ⟨e1, e2, e3, e4⟩
            exact ⟨e1.symm, ⟨e2.symm, e3.symm⟩, e4.symm⟩
        by_cases same : sameOwner lease supplied = true
        · rw [if_pos (named.mpr same), if_pos same]
          exact ih next _
        · rw [if_neg (fun n => same (named.mp n)), if_neg same]
          exact ih next _
      · simp only [owns]
        exact ih next _
    case acquire identity ownerId ttlSeconds =>
      simp only [lastExpiry, List.map_cons, tableEvent, action, Fencing.expiryAfter]
      cases (acquire now identity ownerId ttlSeconds s.2).1 with
      | ok granted => exact ih next _
      | error error => exact ih next _
    all_goals exact ih next _

/-- A call under a lease that is not in force raises `StaleLeaseError` and changes nothing. -/
lemma exec_stale {repo : MemoryRunRepository} {now : Time} {call : Call} {lease : RunLease}
    (under : call.underLease = some lease) (stale : repo.ownsLease now lease = false) :
    methods.exec now call repo = (.raised staleLease, repo) := by
  cases call <;> cases under
  · simp [RunRepository.exec, Effect.reply, methods, renew, stale]
  · simp [RunRepository.exec, Effect.reply, methods, markTerminal, stale]
  · simp [RunRepository.exec, Effect.reply, methods, markHistoryCommitted, stale]

/-- What a granted lease has become after a history: it is stored with its last expiry, or it is out of
    force, and then it was superseded or released. -/
lemma fate_of_granted {e : CallEvent} {lease : RunLease} (h : s.2.Coherent)
    (run : Run methods.Step s (e :: es) u) (g : grantedLease e = some lease) :
    (¬ (Superseded lease es ∨ Released lease es) ∧
      (table u.2).held lease.conversationId =
        some ⟨(lease.runId, lease.ownerId), lease.fencingToken,
          lastExpiry lease lease.expiresAt es⟩) ∨
    Fencing.OutOfForce lease.conversationId (lease.runId, lease.ownerId) lease.fencingToken
      (table u.2) := by
  obtain ⟨rfl, st, rest⟩ := run.head
  have next : e.post.2.Coherent := by
    rw [st.2]
    exact h.exec _ _
  have held : (table e.post.2).held lease.conversationId =
      some ⟨(lease.runId, lease.ownerId), lease.fencingToken, lease.expiresAt⟩ := by
    rw [st.2, table_exec h, action_of_granted g, Fencing.Table.grant_held, Function.update_self,
      granted_token g]
    rfl
  rcases Fencing.Run.fate (table_run next rest) next.wellFormed held with ⟨lives, held'⟩ | ⟨-, out⟩
  · refine .inl ⟨fun ended => ?_, ?_⟩
    · obtain ⟨e', he', ends⟩ := ends_of_superseded_or_released ended
      exact lives e' he' ends
    · rw [held', expiryAfter_tableEvents next rest]
  · exact .inr out

/-- A granted lease that was superseded or released is out of force. -/
lemma outOfForce_of_ended {e : CallEvent} {lease : RunLease} (h : s.2.Coherent)
    (run : Run methods.Step s (e :: es) u) (g : grantedLease e = some lease)
    (ended : Superseded lease es ∨ Released lease es) :
    Fencing.OutOfForce lease.conversationId (lease.runId, lease.ownerId) lease.fencingToken
      (table u.2) := by
  rcases fate_of_granted h run g with ⟨lives, -⟩ | out
  · exact absurd ended lives
  · exact out

/-- A lease out of force is not stored, whatever expiry the supplied value has. -/
lemma not_stored {repo : MemoryRunRepository} (h : repo.Coherent) {lease supplied : RunLease}
    (out : Fencing.OutOfForce lease.conversationId (lease.runId, lease.ownerId) lease.fencingToken
      (table repo))
    (same : sameOwner lease supplied = true) {current : RunLease}
    (hc : repo.leases.lookup supplied.conversationId = some current) :
    sameOwner current supplied = false := by
  rw [Bool.eq_false_iff]
  intro stored
  obtain ⟨e1, e2, e3, e4⟩ := sameOwner_iff.mp same
  apply out.gone
  rw [e1, e2, e3, e4]
  exact (inForce_iff h).mpr ⟨current, hc, stored⟩

/-- A granted lease that was superseded, released or has expired does not own the conversation. -/
lemma not_ownsLease {e : CallEvent} {lease supplied : RunLease} {now : Time} (h : s.2.Coherent)
    (run : Run methods.Step s (e :: es) u) (g : grantedLease e = some lease)
    (same : sameOwner lease supplied = true)
    (lost : Superseded lease es ∨ Released lease es ∨ lastExpiry lease lease.expiresAt es ≤ now) :
    u.2.ownsLease now supplied = false := by
  rw [Bool.eq_false_iff]
  intro owns
  obtain ⟨current, hc, stored, unexpired⟩ := ownsLease_iff.mp owns
  rcases fate_of_granted h run g with ⟨lives, held⟩ | out
  · rcases lost with superseded | released | expired
    · exact lives (.inl superseded)
    · exact lives (.inr released)
    · rw [(sameOwner_iff.mp same).1] at held
      obtain ⟨current', hc', eq⟩ := Option.map_eq_some_iff.mp held
      cases hc.symm.trans hc'
      have : current.expiresAt = lastExpiry lease lease.expiresAt es :=
        congrArg Fencing.Grant.expires eq
      rw [this] at unexpired
      exact absurd expired (Int.not_le.mpr unexpired)
  · have := not_stored (h.run run) out same hc
    rw [this] at stored
    cases stored

/-- In every history of calls, on a clock that does not go back: a conversation has one unexpired
    lease at most; the fencing tokens granted for a conversation are strictly increasing; a call under
    a lease that was superseded, released or has expired raises `StaleLeaseError` and leaves the
    repository as it was; and releasing a superseded lease leaves it as it was too. -/
theorem leases_fenced {clock : Time} {u : Time × MemoryRunRepository} {es : List CallEvent}
    (run : Run methods.Step (clock, {}) es u) :
    (∀ a ∈ u.2.leases.entries, ∀ b ∈ u.2.leases.entries,
      a.2.conversationId = b.2.conversationId → u.1 < a.2.expiresAt → u.1 < b.2.expiresAt →
      a = b) ∧
    (∀ c, (es.filterMap (grantedToken c)).Pairwise (· < ·)) ∧
    (∀ before e after lease supplied now call, es = before ++ e :: after →
      grantedLease e = some lease → sameOwner lease supplied = true → u.1 ≤ now →
      (Superseded lease after ∨ Released lease after ∨
        lastExpiry lease lease.expiresAt after ≤ now) →
      call.underLease = some supplied →
      methods.exec now call u.2 = (.raised staleLease, u.2)) ∧
    (∀ before e after lease supplied now, es = before ++ e :: after →
      grantedLease e = some lease → sameOwner lease supplied = true → Superseded lease after →
      (methods.exec now (.release supplied) u.2).2 = u.2) := by
  have coherent := Coherent.run (s := (clock, {})) coherent_empty run
  refine ⟨?_, grantedTokens_pairwise (s := (clock, {})) coherent_empty run, ?_, ?_⟩
  · rintro ⟨c, a⟩ ha ⟨c', b⟩ hb same - -
    have ha := AList.mem_lookup_iff.mpr ha
    have hb := AList.mem_lookup_iff.mpr hb
    -- each lease is stored under its own conversation
    obtain rfl := (coherent c a ha).conversation
    obtain rfl := (coherent c' b hb).conversation
    simp only at same
    rw [same] at ha ⊢
    cases Option.mem_unique ha hb
    rfl
  · rintro before e after lease supplied now call rfl g same - lost under
    obtain ⟨t, first, rest⟩ := run.split
    exact exec_stale under
      (not_ownsLease (Coherent.run (s := (clock, {})) coherent_empty first) rest g same lost)
  · rintro before e after lease supplied now rfl g same superseded
    obtain ⟨t, first, rest⟩ := run.split
    have out := outOfForce_of_ended (Coherent.run (s := (clock, {})) coherent_empty first) rest g
      (.inl superseded)
    rw [RunRepository.exec, Effect.reply_snd]
    obtain ⟨-, ⟨-, unchanged⟩ | ⟨current, hc, stored, -⟩⟩ :=
      release_cases (Prod.eta (release supplied u.2)).symm
    · exact unchanged
    · rw [not_stored coherent out same hc] at stored
      cases stored

end Histories

/-- Two runs of one conversation: the second takes over when the lease of the first has expired. -/
def takeover : List TimedCall :=
  let first := sampleIdentity "11111111-1111-1111-1111-111111111111"
  let second := sampleIdentity "22222222-2222-2222-2222-222222222222"
  [⟨0, .createOrGet first⟩, ⟨0, .createOrGet second⟩, ⟨0, .acquire first "a" 30⟩,
    ⟨seconds 31, .acquire second "b" 30⟩]

/-- After the takeover a renewal by the first owner is stale. -/
theorem leases_fenced_takeover :
    methods.exec (seconds 32)
      (.renew ⟨"support", "11111111-1111-1111-1111-111111111111", "a", 1, seconds 30⟩ 30)
      (methods.after (0, {}) takeover).2 =
    (.raised staleLease, (methods.after (0, {}) takeover).2) := by
  have run := methods.run_history (0, {}) takeover (by decide)
  exact (leases_fenced run).2.2.1 ((methods.history (0, {}) takeover).take 2)
    ((methods.history (0, {}) takeover).get ⟨2, by decide⟩)
    ((methods.history (0, {}) takeover).drop 3)
    ⟨"support", "11111111-1111-1111-1111-111111111111", "a", 1, seconds 30⟩ _ _ _ rfl rfl rfl
    (by decide) (.inl ⟨_, .head _, _, rfl, rfl⟩) rfl

end AgentRuntime.State.MemoryRunRepository
