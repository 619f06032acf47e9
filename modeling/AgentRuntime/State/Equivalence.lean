import AgentRuntime.State.Leases
import AgentRuntime.State.Postgres

/-!
# The two repositories as one contract

The class docstring of `MemoryRunRepository` promises "the same contract as PostgreSQL". This module
compares the two call by call. `Related` is the simulation relation: equal records, a lease row for
every stored lease, and only expired rows where no lease is stored. `Portable` is the condition on a
call, in the state it is made in, under which both answer alike; every clause of it but the ones on
stored values stands for a difference between the two implementations.
-/

namespace AgentRuntime.State
open Transition

/-- How a call ended for its caller: by returning, or with an error of a class. -/
def Reply.outcome : Reply → Option ErrorClass
  | .raised error => some error.cls
  | _ => none

/-- The fields of a record that a client of the repository sees. -/
structure RunRecord.Agrees (r r' : RunRecord) : Prop where
  status : r.status = r'.status
  responsePayload : r.responsePayload = r'.responsePayload
  fencingToken : r.fencingToken = r'.fencingToken
  resumeTokenVersion : r.resumeTokenVersion = r'.resumeTokenVersion
  completedAt : r.completedAt = r'.completedAt
  historyCommittedAt : r.historyCommittedAt = r'.historyCommittedAt

/-- Both repositories have the same runs, with agreeing records. -/
def SameRecords (memory : MemoryRunRepository) (database : PostgresRunRepository) : Prop :=
  ∀ k, Option.Rel RunRecord.Agrees (memory.records.lookup k) (database.appRuns.lookup k)

section Portable

variable (driver : Driver) (s : MemoryRunRepository) (now : Time)

/-- The text is a UUID in the canonical form that `str` writes. -/
def Driver.Canonical (text : String) : Prop := driver.uuid text = some text

instance (text : String) : Decidable (driver.Canonical text) :=
  inferInstanceAs (Decidable (driver.uuid text = some text))

/-- The lease can be passed to a statement as it is. -/
structure PortableLease (lease : RunLease) : Prop where
  run : driver.Canonical lease.runId
  owner : driver.Canonical lease.ownerId
  token : lease.fencingToken ≤ maxBigint

/-- The lease names the conversation of its run, or is stale for the run's own conversation too. -/
def OwnConversation (lease : RunLease) : Prop :=
  ∀ r, s.records.lookup lease.runId = some r → r.conversationId = lease.conversationId ∨
    s.ownsLease now { lease with conversationId := r.conversationId } = false

/-- The document is accepted, and read back as it is when the call writes it. -/
def PortablePayload (writes : Prop) (payload : Option JsonObject) : Prop :=
  ∃ stored, driver.payload payload = some stored ∧ (writes → stored = payload)

/-- The call means the same to both repositories in this state. -/
def Portable : Call → Prop
  | .createOrGet identity =>
    driver.Canonical identity.runId ∧ storableText identity.conversationId = true ∧
      storableText identity.executionThreadId = true ∧ storableText identity.requestHash = true ∧
      identity.stateSchemaVersion ≤ maxInteger ∧ identity.resumeTokenVersion ≤ maxInteger ∧
      -- a new run has an execution thread of its own
      (s.records.lookup identity.runId = none →
        ∀ k r, s.records.lookup k = some r → r.executionThreadId ≠ identity.executionThreadId)
  | .get runId => driver.Canonical runId
  | .acquire identity ownerId _ =>
    driver.Canonical identity.runId ∧ driver.Canonical ownerId ∧
      storableText identity.conversationId = true ∧
      s.token identity.conversationId < maxBigint ∧
      -- the run has this identity, or does not exist and nothing else is wrong
      ((∃ r, s.records.lookup identity.runId = some r ∧ r.Matches identity) ∨
        (s.records.lookup identity.runId = none ∧
          ∀ lease, s.leases.lookup identity.conversationId = some lease → lease.expiresAt ≤ now))
  | .renew lease _ => PortableLease driver lease ∧ storableText lease.conversationId = true
  | .release lease => PortableLease driver lease ∧ storableText lease.conversationId = true
  | .markTerminal lease outcome =>
    PortableLease driver lease ∧ OwnConversation s now lease ∧
      PortablePayload driver (s.ownsLease now lease = true) outcome.responsePayload ∧
      outcome.terminationReason.all storableText = true ∧
      outcome.errorCode.all storableText = true ∧ outcome.checkpointId.all storableText = true ∧
      -- a payload that is written is none or not empty
      (s.ownsLease now lease = true → outcome.responsePayload ≠ some [])
  | .markHistoryCommitted lease payload =>
    PortableLease driver lease ∧ OwnConversation s now lease ∧
      PortablePayload driver (s.ownsLease now lease = true) payload ∧
      -- the history is committed once
      (s.ownsLease now lease = true →
        ∀ r, s.records.lookup lease.runId = some r → r.historyCommittedAt = none)
  | .reconcileHistoryCommitted runId payload =>
    driver.Canonical runId ∧
      PortablePayload driver (s.records.lookup runId ≠ none) payload ∧
      -- the run has ended
      ∀ r, s.records.lookup runId = some r → r.status ∈ PostgresRunRepository.reconcilable
  | .revokeResumeTokens runId =>
    driver.Canonical runId ∧
      ∀ r, s.records.lookup runId = some r → r.resumeTokenVersion < maxInteger

end Portable

/-- The simulation relation at an instant of the clock. -/
structure Related (clock : Time) (memory : MemoryRunRepository)
    (database : PostgresRunRepository) : Prop where
  records : ∀ k, memory.records.lookup k = database.appRuns.lookup k
  tokens : ∀ c, memory.token c = database.lastToken c
  stored : ∀ c lease, memory.leases.lookup c = some lease →
    database.appConversationLeases.lookup c = some (PostgresRunRepository.rowOf lease)
  expired : ∀ c row, memory.leases.lookup c = none →
    database.appConversationLeases.lookup c = some row → row.leaseExpiresAt ≤ clock
  coherent : memory.Coherent

namespace Related

variable {clock now : Time} {m : MemoryRunRepository} {p : PostgresRunRepository}

lemma empty (clock : Time) : Related clock {} {} where
  records _ := rfl
  tokens _ := rfl
  stored := nofun
  expired := nofun
  coherent := MemoryRunRepository.coherent_empty

/-- The relation outlives the clock. -/
lemma mono (rel : Related clock m p) (le : clock ≤ now) : Related now m p :=
  { rel with expired := fun c row none hrow => Int.le_trans (rel.expired c row none hrow) le }

lemma sameRecords (rel : Related clock m p) : SameRecords m p := by
  intro k
  rw [rel.records k]
  cases p.appRuns.lookup k with
  | none => exact .none
  | some r => exact .some ⟨rfl, rfl, rfl, rfl, rfl, rfl⟩

/-- A record may be written on both sides. -/
lemma setRecord (rel : Related clock m p) {k : String} {r : RunRecord}
    (coherent : (m.setRecord k r).Coherent) : Related clock (m.setRecord k r) (p.setRun k r) where
  records k' := by
    simp only [MemoryRunRepository.setRecord_records, PostgresRunRepository.setRun,
      Dict.lookup_insert_ite, rel.records]
  tokens := rel.tokens
  stored := rel.stored
  expired := rel.expired
  coherent := coherent

/-- The row of a conversation is unexpired on one side when it is on the other. -/
lemma busy_iff (rel : Related now m p) (c : String) :
    (p.appConversationLeases.lookup c).any (fun row => now < row.leaseExpiresAt) =
      (m.leases.lookup c).any (fun lease => now < lease.expiresAt) := by
  cases hl : m.leases.lookup c with
  | none =>
    cases hrow : p.appConversationLeases.lookup c with
    | none => rfl
    | some row => simpa using rel.expired c row hl hrow
  | some lease =>
    rw [rel.stored c lease hl]
    rfl

/-- A row that is in force is a stored lease. -/
lemma leaseRow_eq (rel : Related now m p) (lease : RunLease) :
    p.leaseRow now lease.conversationId lease.runId lease.ownerId lease.fencingToken =
      m.ownsLease now lease := by
  simp only [PostgresRunRepository.leaseRow, MemoryRunRepository.ownsLease]
  cases hl : m.leases.lookup lease.conversationId with
  | none =>
    cases hrow : p.appConversationLeases.lookup lease.conversationId with
    | none => rfl
    | some row =>
      have : ¬ now < row.leaseExpiresAt := Int.not_lt.mpr (rel.expired _ row hl hrow)
      simp [this]
  | some current =>
    rw [rel.stored _ current hl]
    simp only [PostgresRunRepository.rowOf, sameOwner, (rel.coherent _ _ hl).conversation,
      decide_true, Bool.true_and]
    rfl

/-- A lease in force belongs to the conversation of its run, whose record names it. -/
lemma record_of_owns (rel : Related clock m p) {lease : RunLease} {r : RunRecord}
    (hr : m.records.lookup lease.runId = some r) (owns : m.ownsLease now lease = true) :
    r.conversationId = lease.conversationId ∧ r.leaseOwner = some lease.ownerId ∧
      r.fencingToken = some lease.fencingToken := by
  obtain ⟨current, hc, same, -⟩ := MemoryRunRepository.ownsLease_iff.mp owns
  obtain ⟨-, run, owner, token⟩ := sameOwner_iff.mp same
  obtain ⟨r', hr', rc, ro, rt⟩ := (rel.coherent _ _ hc).run
  rw [run, hr] at hr'
  cases hr'
  exact ⟨rc, owner ▸ ro, token ▸ rt⟩

/-- A lease in force has a run. -/
lemma run_of_owns (rel : Related clock m p) {lease : RunLease}
    (owns : m.ownsLease now lease = true) : ∃ r, m.records.lookup lease.runId = some r := by
  obtain ⟨current, hc, same, -⟩ := MemoryRunRepository.ownsLease_iff.mp owns
  obtain ⟨r, hr, -⟩ := (rel.coherent _ _ hc).run
  exact ⟨r, (sameOwner_iff.mp same).2.1 ▸ hr⟩

/-- The guard of the outcome updates is the guard of the process-local repository. -/
lemma ownsRun_eq (rel : Related now m p) {lease : RunLease} {r : RunRecord}
    (hr : m.records.lookup lease.runId = some r) (own : OwnConversation m now lease) :
    p.ownsRun now r lease.runId lease.ownerId lease.fencingToken = m.ownsLease now lease := by
  have row := rel.leaseRow_eq { lease with conversationId := r.conversationId }
  simp only at row
  simp only [PostgresRunRepository.ownsRun, row]
  cases owns : m.ownsLease now lease with
  | true =>
    obtain ⟨rc, ro, rt⟩ := rel.record_of_owns hr owns
    simp [rc, ro, rt, owns]
  | false =>
    rcases own r hr with rc | stale
    · simp [rc, owns]
    · simp [stale]

/-- Granting the same lease on both sides. -/
lemma grant (rel : Related now m p) {r : RunRecord} {lease : RunLease}
    (coherent : (m.grant r lease now).Coherent) :
    Related now (m.grant r lease now)
      ((p.setLease lease.conversationId (PostgresRunRepository.rowOf lease)).setRun lease.runId
        (r.acquired lease now)) where
  records k := by
    simp only [MemoryRunRepository.grant, PostgresRunRepository.setRun,
      PostgresRunRepository.setLease, Dict.lookup_insert_ite, rel.records]
  tokens c := by
    rw [MemoryRunRepository.token_grant]
    refine Eq.trans ?_ (congrFun (PostgresRunRepository.lastToken_setLease p lease.conversationId
      (PostgresRunRepository.rowOf lease)).symm c)
    simp only [Function.update_apply, rel.tokens]
    rfl
  stored c lease' := by
    simp only [MemoryRunRepository.grant, PostgresRunRepository.setRun,
      PostgresRunRepository.setLease, Dict.lookup_insert_ite]
    split
    · rintro ⟨⟩
      rfl
    · exact rel.stored c lease'
  expired c row := by
    simp only [MemoryRunRepository.grant, PostgresRunRepository.setRun,
      PostgresRunRepository.setLease, Dict.lookup_insert_ite]
    split
    · intro found
      cases found
    · exact rel.expired c row
  coherent := coherent

/-- Extending the lease in force on both sides. -/
lemma setLease (rel : Related now m p) {lease : RunLease} {expiresAt : Time}
    (owns : m.ownsLease now lease = true)
    (coherent : (m.setLease { lease with expiresAt }).Coherent) :
    Related now (m.setLease { lease with expiresAt })
      (p.setLease lease.conversationId
        (PostgresRunRepository.rowOf { lease with expiresAt })) where
  records := rel.records
  tokens c := by
    obtain ⟨current, hc, same, -⟩ := MemoryRunRepository.ownsLease_iff.mp owns
    refine (rel.tokens c).trans (congrFun (PostgresRunRepository.lastToken_setLease_same
      (rel.stored _ _ hc) ?_).symm c)
    exact (sameOwner_iff.mp same).2.2.2.symm
  stored c lease' := by
    simp only [MemoryRunRepository.setLease_leases, PostgresRunRepository.setLease,
      Dict.lookup_insert_ite]
    split
    · rintro ⟨⟩
      rfl
    · exact rel.stored c lease'
  expired c row := by
    simp only [MemoryRunRepository.setLease_leases, PostgresRunRepository.setLease,
      Dict.lookup_insert_ite]
    split
    · intro found
      cases found
    · exact rel.expired c row
  coherent := coherent

/-- Removing the stored lease on one side is expiring its row on the other. -/
lemma eraseLease (rel : Related now m p) {c : String} {row : LeaseRow}
    (hrow : p.appConversationLeases.lookup c = some row)
    (coherent : MemoryRunRepository.Coherent { m with leases := m.leases.erase c }) :
    Related now { m with leases := m.leases.erase c }
      (p.setLease c { row with leaseExpiresAt := now }) where
  records := rel.records
  tokens c' := (rel.tokens c').trans
    (congrFun (PostgresRunRepository.lastToken_expire hrow now).symm c')
  stored c' lease' := by
    simp only [PostgresRunRepository.setLease, Dict.lookup_insert_ite, Dict.lookup_erase_ite]
    split
    · intro found
      cases found
    · exact rel.stored c' lease'
  expired c' row' := by
    simp only [PostgresRunRepository.setLease, Dict.lookup_insert_ite, Dict.lookup_erase_ite]
    split
    · rintro - ⟨⟩
      exact Int.le_refl now
    · exact rel.expired c' row'
  coherent := coherent

/-- Expiring a row that no stored lease stands for. -/
lemma expireRow (rel : Related now m p) {c : String} {row : LeaseRow}
    (none : m.leases.lookup c = none) (hrow : p.appConversationLeases.lookup c = some row) :
    Related now m (p.setLease c { row with leaseExpiresAt := now }) where
  records := rel.records
  tokens c' := (rel.tokens c').trans
    (congrFun (PostgresRunRepository.lastToken_expire hrow now).symm c')
  stored c' lease' hl := by
    simp only [PostgresRunRepository.setLease, Dict.lookup_insert_ite]
    split
    · next e =>
      subst e
      rw [none] at hl
      cases hl
    · exact rel.stored c' lease' hl
  expired c' row' := by
    simp only [PostgresRunRepository.setLease, Dict.lookup_insert_ite]
    split
    · rintro - ⟨⟩
      exact Int.le_refl now
    · exact rel.expired c' row'
  coherent := rel.coherent

end Related

/-- Two effects end alike: both return, or both raise an error of one class, in related states. -/
inductive Alike (now : Time) {α β : Type} :
    Effect MemoryRunRepository α → Effect PostgresRunRepository β → Prop where
  | ok {m p a b} :
    Related now m p →
    Alike now (.ok a, m) (.ok b, p)
  | error {m p} {e e' : RepositoryError} :
    e.cls = e'.cls →
    Related now m p →
    Alike now (.error e, m) (.error e', p)

/-- Effects that end alike get replies with one outcome. -/
lemma Alike.reply {now : Time} {α β : Type} {x : Effect MemoryRunRepository α}
    {y : Effect PostgresRunRepository β} {f : α → Reply} {g : β → Reply} (h : Alike now x y)
    (hf : ∀ a, (f a).outcome = none) (hg : ∀ b, (g b).outcome = none) :
    (x.reply f).1.outcome = (y.reply g).1.outcome ∧
      Related now (x.reply f).2 (y.reply g).2 := by
  cases h with
  | ok rel => exact ⟨(hf _).trans (hg _).symm, rel⟩
  | error same rel => exact ⟨congrArg some same, rel⟩

section Methods

variable {driver : Driver} {now : Time} {m : MemoryRunRepository} {p : PostgresRunRepository}

lemma alike_createOrGet (rel : Related now m p) {identity : RunIdentity}
    (portable : Portable driver m now (.createOrGet identity)) :
    Alike now (MemoryRunRepository.createOrGet now identity m)
      (PostgresRunRepository.createOrGet driver now identity p) := by
  obtain ⟨uuid, conversation, thread, hash, schema, version, fresh⟩ := portable
  simp only [Driver.Canonical] at uuid
  have coherent : (MemoryRunRepository.createOrGet now identity m).2.Coherent :=
    rel.coherent.createOrGet rfl
  simp only [MemoryRunRepository.createOrGet, PostgresRunRepository.createOrGet, uuid,
    conversation, thread, hash, schema, version, and_self, not_true_eq_false, if_false,
    ← rel.records] at coherent ⊢
  cases hr : m.records.lookup identity.runId with
  | some r =>
    cases hv : validateRecordIdentity r identity with
    | error error =>
      simp only [hv]
      exact .error rfl rel
    | ok =>
      simp only [hv]
      exact .ok rel
  | none =>
    have unique : (p.appRuns.entries.any fun row =>
        row.2.executionThreadId = identity.executionThreadId) = false := by
      rw [List.any_eq_false]
      rintro ⟨k, r⟩ mem
      have := fresh hr k r (by rw [rel.records]; exact AList.mem_lookup_iff.mpr mem)
      simpa using this
    simp only [hr, unique] at coherent ⊢
    exact .ok (rel.setRecord coherent)

lemma alike_get (rel : Related now m p) {runId : String}
    (portable : Portable driver m now (.get runId)) :
    Alike now (MemoryRunRepository.get runId m) (PostgresRunRepository.get driver runId p) := by
  have uuid : driver.uuid runId = some runId := portable
  simp only [MemoryRunRepository.get, PostgresRunRepository.get, uuid]
  exact .ok rel

lemma alike_acquire (rel : Related now m p) {identity : RunIdentity} {ownerId : String}
    {ttlSeconds : Int} (portable : Portable driver m now (.acquire identity ownerId ttlSeconds)) :
    Alike now (MemoryRunRepository.acquire now identity ownerId ttlSeconds m)
      (PostgresRunRepository.acquire driver now identity ownerId ttlSeconds p) := by
  obtain ⟨uuid, owner, conversation, token, run⟩ := portable
  simp only [Driver.Canonical] at uuid owner
  have inRange : ¬ maxBigint < p.lastToken identity.conversationId + 1 := by
    rw [← rel.tokens]
    omega
  have coherent : (MemoryRunRepository.acquire now identity ownerId ttlSeconds m).2.Coherent :=
    rel.coherent.acquire rfl
  simp only [MemoryRunRepository.acquire, PostgresRunRepository.acquire, uuid, owner, conversation,
    not_true_eq_false, if_false, inRange, rel.busy_iff, ← rel.records] at coherent ⊢
  rcases run with ⟨r, hr, matching⟩ | ⟨none, free⟩
  · simp only [hr, validateRecordIdentity_ok.mpr matching] at coherent ⊢
    by_cases busy : (m.leases.lookup identity.conversationId).any
        (fun lease => now < lease.expiresAt) = true
    · rw [if_pos busy, if_pos busy]
      exact .error rfl rel
    · rw [if_neg busy] at coherent ⊢
      rw [if_neg busy]
      have granted : m.granted now identity ownerId ttlSeconds =
          ⟨identity.conversationId, identity.runId, ownerId,
            p.lastToken identity.conversationId + 1, now + seconds ttlSeconds⟩ := by
        rw [← rel.tokens]
        rfl
      rw [granted] at coherent ⊢
      exact .ok (rel.grant coherent)
  · have idle : (m.leases.lookup identity.conversationId).any
        (fun lease => now < lease.expiresAt) = false := by
      cases hl : m.leases.lookup identity.conversationId with
      | none => rfl
      | some lease => simpa using free lease hl
    simp only [none, idle]
    exact .error rfl rel

/-- The conversion of a portable lease. -/
lemma leaseParameters_of_portable {lease : RunLease} (portable : PortableLease driver lease) :
    driver.leaseParameters lease = some (lease.runId, lease.ownerId) := by
  obtain ⟨run, owner, token⟩ := portable
  simp only [Driver.Canonical] at run owner
  simp only [Driver.leaseParameters, run, owner, token, if_true]

lemma alike_renew (rel : Related now m p) {lease : RunLease} {ttlSeconds : Int}
    (portable : Portable driver m now (.renew lease ttlSeconds)) :
    Alike now (MemoryRunRepository.renew now lease ttlSeconds m)
      (PostgresRunRepository.renew driver now lease ttlSeconds p) := by
  obtain ⟨portable, conversation⟩ := portable
  have coherent : (MemoryRunRepository.renew now lease ttlSeconds m).2.Coherent :=
    rel.coherent.renew rfl
  simp only [MemoryRunRepository.renew, PostgresRunRepository.renew,
    leaseParameters_of_portable portable, conversation, not_true_eq_false, if_false,
    rel.leaseRow_eq] at coherent ⊢
  cases owns : m.ownsLease now lease with
  | false => exact .error rfl rel
  | true =>
    obtain ⟨r, hr⟩ := rel.run_of_owns owns
    obtain ⟨-, -, token⟩ := rel.record_of_owns hr owns
    simp only [owns, if_true, hr] at coherent ⊢
    have run : (p.setLease lease.conversationId (PostgresRunRepository.rowOf
        { lease with expiresAt := now + seconds ttlSeconds })).renewRun now lease.runId
          lease.fencingToken (now + seconds ttlSeconds) =
        (p.setLease lease.conversationId (PostgresRunRepository.rowOf
          { lease with expiresAt := now + seconds ttlSeconds })).setRun lease.runId
            (r.renewed (now + seconds ttlSeconds) now) := by
      rw [rel.records] at hr
      simp only [PostgresRunRepository.renewRun, PostgresRunRepository.setLease, hr, token, if_true]
    rw [run]
    exact .ok ((rel.setLease owns (rel.coherent.setLease owns)).setRecord coherent)

lemma alike_release (rel : Related now m p) {lease : RunLease}
    (portable : Portable driver m now (.release lease)) :
    Alike now (MemoryRunRepository.release lease m)
      (PostgresRunRepository.release driver now lease p) := by
  obtain ⟨portable, conversation⟩ := portable
  have coherent : (MemoryRunRepository.release lease m).2.Coherent := rel.coherent.release rfl
  simp only [MemoryRunRepository.release, PostgresRunRepository.release,
    leaseParameters_of_portable portable, conversation, not_true_eq_false, if_false] at coherent ⊢
  cases hl : m.leases.lookup lease.conversationId with
  | none =>
    cases hrow : p.appConversationLeases.lookup lease.conversationId with
    | none => exact .ok rel
    | some row =>
      simp only
      split
      · exact .ok (rel.expireRow hl hrow)
      · exact .ok rel
  | some current =>
    have hrow := rel.stored _ _ hl
    simp only [hl, hrow] at coherent ⊢
    have same : sameOwner current lease = true ↔
        (PostgresRunRepository.rowOf current).runId = lease.runId ∧
          (PostgresRunRepository.rowOf current).leaseOwner = lease.ownerId ∧
          (PostgresRunRepository.rowOf current).fencingToken = lease.fencingToken := by
      simp [sameOwner_iff, (rel.coherent _ _ hl).conversation, PostgresRunRepository.rowOf]
    by_cases own : sameOwner current lease = true
    · rw [if_pos own] at coherent ⊢
      rw [if_pos (same.mp own)]
      exact .ok (rel.eraseLease hrow coherent)
    · rw [if_neg own, if_neg (mt same.mpr own)]
      exact .ok rel

lemma alike_markTerminal (rel : Related now m p) {lease : RunLease} {outcome : Outcome}
    (portable : Portable driver m now (.markTerminal lease outcome)) :
    Alike now (MemoryRunRepository.markTerminal now lease outcome m)
      (PostgresRunRepository.markTerminal driver now lease outcome p) := by
  obtain ⟨portable, own, ⟨stored, accepted, same⟩, reason, code, checkpoint, nonempty⟩ := portable
  have coherent : (MemoryRunRepository.markTerminal now lease outcome m).2.Coherent :=
    rel.coherent.markTerminal rfl
  have parameters : PostgresRunRepository.outcomeParameters driver outcome = some stored := by
    simp only [PostgresRunRepository.outcomeParameters, accepted, reason, code, checkpoint,
      Bool.and_self, if_true]
  simp only [MemoryRunRepository.markTerminal, PostgresRunRepository.markTerminal,
    leaseParameters_of_portable portable, parameters, ← rel.records] at coherent ⊢
  cases owns : m.ownsLease now lease with
  | false =>
    cases hr : m.records.lookup lease.runId with
    | none => exact .error rfl rel
    | some r =>
      simp only [rel.ownsRun_eq hr own, owns]
      exact .error rfl rel
  | true =>
    obtain ⟨r, hr⟩ := rel.run_of_owns owns
    have kept : MemoryRunRepository.payloadOrNone outcome.responsePayload = stored := by
      rw [same owns]
      cases payload : outcome.responsePayload with
      | none => rfl
      | some object =>
        cases object with
        | nil => exact absurd payload (nonempty owns)
        | cons => rfl
    simp only [owns, if_true, hr, rel.ownsRun_eq hr own, kept] at coherent ⊢
    exact .ok (rel.setRecord coherent)

lemma alike_markHistoryCommitted (rel : Related now m p) {lease : RunLease}
    {payload : Option JsonObject}
    (portable : Portable driver m now (.markHistoryCommitted lease payload)) :
    Alike now (MemoryRunRepository.markHistoryCommitted now lease payload m)
      (PostgresRunRepository.markHistoryCommitted driver now lease payload p) := by
  obtain ⟨portable, own, ⟨stored, accepted, same⟩, once⟩ := portable
  have coherent : (MemoryRunRepository.markHistoryCommitted now lease payload m).2.Coherent :=
    rel.coherent.markHistoryCommitted rfl
  simp only [MemoryRunRepository.markHistoryCommitted, PostgresRunRepository.markHistoryCommitted,
    leaseParameters_of_portable portable, accepted, ← rel.records] at coherent ⊢
  cases owns : m.ownsLease now lease with
  | false =>
    cases hr : m.records.lookup lease.runId with
    | none => exact .error rfl rel
    | some r =>
      simp only [rel.ownsRun_eq hr own, owns]
      exact .error rfl rel
  | true =>
    obtain ⟨r, hr⟩ := rel.run_of_owns owns
    simp only [owns, if_true, hr, rel.ownsRun_eq hr own, same owns, once owns r hr,
      Option.getD_none] at coherent ⊢
    exact .ok (rel.setRecord coherent)

lemma alike_reconcileHistoryCommitted (rel : Related now m p) {runId : String}
    {payload : Option JsonObject}
    (portable : Portable driver m now (.reconcileHistoryCommitted runId payload)) :
    Alike now (MemoryRunRepository.reconcileHistoryCommitted now runId payload m)
      (PostgresRunRepository.reconcileHistoryCommitted driver now runId payload p) := by
  obtain ⟨uuid, ⟨stored, accepted, same⟩, ended⟩ := portable
  simp only [Driver.Canonical] at uuid
  have coherent : (MemoryRunRepository.reconcileHistoryCommitted now runId payload m).2.Coherent :=
    rel.coherent.reconcileHistoryCommitted rfl
  simp only [MemoryRunRepository.reconcileHistoryCommitted,
    PostgresRunRepository.reconcileHistoryCommitted, uuid, accepted, ← rel.records] at coherent ⊢
  cases hr : m.records.lookup runId with
  | none => exact .error rfl rel
  | some r =>
    simp only [hr, ended r hr, if_true, same (by simp [hr])] at coherent ⊢
    exact .ok (rel.setRecord coherent)

lemma alike_revokeResumeTokens (rel : Related now m p) {runId : String}
    (portable : Portable driver m now (.revokeResumeTokens runId)) :
    Alike now (MemoryRunRepository.revokeResumeTokens now runId m)
      (PostgresRunRepository.revokeResumeTokens driver now runId p) := by
  obtain ⟨uuid, inRange⟩ := portable
  simp only [Driver.Canonical] at uuid
  have coherent : (MemoryRunRepository.revokeResumeTokens now runId m).2.Coherent :=
    rel.coherent.revokeResumeTokens rfl
  simp only [MemoryRunRepository.revokeResumeTokens, PostgresRunRepository.revokeResumeTokens, uuid,
    ← rel.records] at coherent ⊢
  cases hr : m.records.lookup runId with
  | none => exact .error rfl rel
  | some r =>
    have := inRange r hr
    simp only [hr] at coherent ⊢
    rw [if_neg (by omega)]
    exact .ok (rel.setRecord coherent)

/-- The step lemma: a portable call in related states has one outcome and leads to related states. -/
lemma Related.step (rel : Related now m p) {call : Call} (portable : Portable driver m now call) :
    (MemoryRunRepository.methods.exec now call m).1.outcome =
        ((PostgresRunRepository.methods driver).exec now call p).1.outcome ∧
      Related now (MemoryRunRepository.methods.exec now call m).2
        ((PostgresRunRepository.methods driver).exec now call p).2 := by
  cases call with
  | createOrGet => exact (alike_createOrGet rel portable).reply (fun _ => rfl) (fun _ => rfl)
  | get => exact (alike_get rel portable).reply (fun _ => rfl) (fun _ => rfl)
  | acquire => exact (alike_acquire rel portable).reply (fun _ => rfl) (fun _ => rfl)
  | renew => exact (alike_renew rel portable).reply (fun _ => rfl) (fun _ => rfl)
  | release => exact (alike_release rel portable).reply (fun _ => rfl) (fun _ => rfl)
  | markTerminal => exact (alike_markTerminal rel portable).reply (fun _ => rfl) (fun _ => rfl)
  | markHistoryCommitted =>
    exact (alike_markHistoryCommitted rel portable).reply (fun _ => rfl) (fun _ => rfl)
  | reconcileHistoryCommitted =>
    exact (alike_reconcileHistoryCommitted rel portable).reply (fun _ => rfl) (fun _ => rfl)
  | revokeResumeTokens =>
    exact (alike_revokeResumeTokens rel portable).reply (fun _ => rfl) (fun _ => rfl)

end Methods

/-- Two calls agree, one in each repository: on success or the error class, and on the records that
    they leave. -/
def CallsAgree (driver : Driver) (e : Event (Time × MemoryRunRepository) TimedCall)
    (f : Event (Time × PostgresRunRepository) TimedCall) : Prop :=
  (MemoryRunRepository.methods.reply e).outcome =
      ((PostgresRunRepository.methods driver).reply f).outcome ∧
    SameRecords e.post.2 f.post.2

/-- A step of a history leads to one state. -/
lemma RunRepository.Step.deterministic {σ : Type} {repo : RunRepository σ} {s t t' : Time × σ}
    {timed : TimedCall} (h : repo.Step s timed t) (h' : repo.Step s timed t') : t = t' :=
  h.2.trans h'.2.symm

/-- The simulation relation on the states of two histories, which show the same clock. -/
def RelatedAt (m : Time × MemoryRunRepository) (p : Time × PostgresRunRepository) : Prop :=
  m.1 = p.1 ∧ Related m.1 m.2 p.2

/-- A portable call of one history is a call of the other, with which it agrees. -/
lemma RelatedAt.step {driver : Driver} {e : Event (Time × MemoryRunRepository) TimedCall}
    {p : Time × PostgresRunRepository} (h : RelatedAt e.pre p)
    (st : MemoryRunRepository.methods.Step e.pre e.label e.post)
    (portable : Portable driver e.pre.2 e.label.now e.label.call) :
    ∃ p', (PostgresRunRepository.methods driver).Step p e.label p' ∧ RelatedAt e.post p' ∧
      e.label = e.label ∧ CallsAgree driver e ⟨p, e.label, p'⟩ := by
  obtain ⟨clocks, rel⟩ := h
  obtain ⟨le, after⟩ := st
  obtain ⟨outcome, rel'⟩ := (rel.mono le).step portable
  refine ⟨_, ⟨clocks ▸ le, rfl⟩, ?_, rfl, outcome, ?_⟩
  · rw [after]
    exact ⟨rfl, rel'⟩
  · rw [after]
    exact rel'.sameRecords

end AgentRuntime.State
