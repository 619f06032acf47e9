import AgentRuntime.Data.Text
import AgentRuntime.Lib.Command
import AgentRuntime.Lib.Ledger

/-!
# The lifecycle of the backends

Port of `StateRuntime` of `state/runtime.py`, with `start` and `aclose` of the stores that it builds
(`state/postgres.py`, `state/redis.py`, `state/run_repository.py`, `state/minio.py`, `state/neo4j.py`). A
ledger keeps what was opened and by which call the use of it ended. Where a step of a start calls another
package, whether it raises is given from outside; the calls that close do not raise.
-/

namespace AgentRuntime.Lifecycle

/-- source `Settings.state_backend` -/
inductive StateBackend where
  | memory | redis | postgres
deriving DecidableEq, Repr

/-- source `Settings.run_repository_backend` -/
inductive RunRepositoryBackend where
  | memory | postgres
deriving DecidableEq, Repr

/-- source `Settings.checkpoint_backend` -/
inductive CheckpointBackend where
  | memory | postgres
deriving DecidableEq, Repr

/-- source `Settings.artifact_backend` -/
inductive ArtifactBackend where
  | disabled | minio
deriving DecidableEq, Repr

/-- The part of `Settings` that decides what is opened. -/
structure BackendSettings where
  stateBackend : StateBackend := .memory
  runRepositoryBackend : RunRepositoryBackend := .memory
  checkpointBackend : CheckpointBackend := .memory
  artifactBackend : ArtifactBackend := .disabled
  databaseUrl : String := ""
  postgresAutoSetup : Bool := true
  redisUrl : String := ""
  neo4jEnabled : Bool := false
  persistenceRequired : Bool := false

/-- What can be opened. -/
inductive Resource where
  | asyncpgPool | redisClient | checkpointPool | minioClient | neo4jDriver
deriving DecidableEq, Repr

/-- Who closes an asyncpg pool. -/
inductive PoolOwner where
  | stateRuntime | conversationStore | runRepository
deriving DecidableEq, Repr

/-- The calls that end the use of what was opened: `Pool.close`, `Redis.aclose`, `AsyncConnectionPool.close`,
    `AsyncDriver.close`, and `MinioArtifactStore.aclose`. -/
inductive Closing where
  | closePool (owner : PoolOwner)
  | closeClient
  | closeCheckpointPool
  | closeDriver
  | closeArtifacts
deriving DecidableEq, Repr

/-- The call closes something: `MinioArtifactStore.aclose` returns at once. -/
def Closing.closes : Closing → Bool
  | .closeArtifacts => false
  | _ => true

/-- What was opened, and the calls that ended the use of it. -/
abbrev Resources := Ledger Resource Closing

/-- An exception: `type(exc).__name__` and `str(exc)`. -/
structure Raised where
  typeName : String
  message : String
deriving DecidableEq, Repr

def runtimeError (message : String) : Raised := ⟨"RuntimeError", message⟩

/-- The steps of a start that call another package. -/
inductive Opening where
  | createPool (owner : PoolOwner)
  | createTables
  | migrate
  | fromUrl
  | ping
  | newCheckpointPool
  | openCheckpointPool
  | newSaver
  | setupCheckpoints
  | newMinio
  | makeBucket
  | newDriver
  | verifyConnectivity
deriving DecidableEq, Repr

/-- Which of these steps raise in a start. -/
abbrev Openings := Opening → Except Raised Unit

/-- The attributes by which `PostgresConversationStore` and `PostgresRunRepository` keep their pool. -/
structure PooledStore where
  pool : Option (Ref Resource.asyncpgPool)
  ownsPool : Bool
  started : Bool := false

namespace PooledStore

/-- The constructors of these stores. -/
def new (pool : Option (Ref Resource.asyncpgPool)) : PooledStore := { pool, ownsPool := pool.isNone }

variable (owner : PoolOwner) (openings : Openings)

/-- A store without a pool creates one. -/
def ensurePool : Command (PooledStore × Resources) Raised Unit := do
  let (store, resources) ← get
  match store.pool with
  | some _ => pure ()
  | none => do
    Command.attempt (openings (.createPool owner))
    set ({ store with pool := some (resources.fresh .asyncpgPool), ownsPool := true },
      resources.record .asyncpgPool)

/-- The pool is closed if the store has created it. -/
def closeOwnPool (store : PooledStore) (resources : Resources) : Resources :=
  match store.pool with
  | some pool => if store.ownsPool then resources.finish pool (.closePool owner) else resources
  | none => resources

/-- The handler of an exception in the middle of a start. -/
def abandon : PooledStore × Resources → PooledStore × Resources
  | (store, resources) =>
    ({ store with pool := if store.ownsPool then none else store.pool },
      closeOwnPool owner store resources)

/-- `start` of these stores, of which `tables` is what each does with the pool. -/
def start (tables : Except Raised Unit) : Command (PooledStore × Resources) Raised Unit := do
  let (store, _) ← get
  if store.started then pure ()
  else do
    ensurePool owner openings
    (Command.attempt tables).onFailure (abandon owner)
    modify fun (store, resources) => ({ store with started := true }, resources)

/-- `aclose` of these stores. -/
def aclose : PooledStore × Resources → PooledStore × Resources
  | (store, resources) =>
    ({ store with pool := none, started := false }, closeOwnPool owner store resources)

end PooledStore

/-- The attribute by which `RedisConversationStore` and `Neo4jConnectionManager` keep their client. -/
structure ClientStore (kind : Resource) where
  client : Option (Ref kind) := none

namespace ClientStore

variable {kind : Resource} (call : Closing)

/-- `aclose` of these. -/
def aclose : ClientStore kind × Resources → ClientStore kind × Resources
  | (store, resources) =>
    match store.client with
    | some client => ({ client := none }, resources.finish client call)
    | none => (store, resources)

/-- `start` of these: a client that is `created` and does not answer is closed. -/
def start (created answers : Except Raised Unit) : Command (ClientStore kind × Resources) Raised Unit := do
  let (store, resources) ← get
  match store.client with
  | some _ => pure ()
  | none => do
    Command.attempt created
    set (({ client := some (resources.fresh kind) } : ClientStore kind), resources.record kind)
    (Command.attempt answers).onFailure (aclose call)

end ClientStore

section Stores

variable (openings : Openings)

/-- source `PostgresConversationStore.start` -/
def PostgresConversationStore.start : Command (PooledStore × Resources) Raised Unit :=
  PooledStore.start .conversationStore openings (openings .createTables)

/-- source `PostgresConversationStore.aclose` -/
def PostgresConversationStore.aclose : PooledStore × Resources → PooledStore × Resources :=
  PooledStore.aclose .conversationStore

/-- source `PostgresRunRepository.start` -/
def PostgresRunRepository.start (autoSetup : Bool) : Command (PooledStore × Resources) Raised Unit :=
  PooledStore.start .runRepository openings (if autoSetup then openings .migrate else .ok ())

/-- source `PostgresRunRepository.aclose` -/
def PostgresRunRepository.aclose : PooledStore × Resources → PooledStore × Resources :=
  PooledStore.aclose .runRepository

/-- source `RedisConversationStore` -/
abbrev RedisConversationStore := ClientStore .redisClient

/-- source `RedisConversationStore.start` -/
def RedisConversationStore.start : Command (RedisConversationStore × Resources) Raised Unit :=
  ClientStore.start .closeClient (openings .fromUrl) (openings .ping)

/-- source `RedisConversationStore.aclose` -/
def RedisConversationStore.aclose : RedisConversationStore × Resources → RedisConversationStore × Resources :=
  ClientStore.aclose .closeClient

/-- source `Neo4jConnectionManager` -/
abbrev Neo4jConnectionManager := ClientStore .neo4jDriver

/-- source `Neo4jConnectionManager.start` -/
def Neo4jConnectionManager.start : Command (Neo4jConnectionManager × Resources) Raised Unit :=
  ClientStore.start .closeDriver (openings .newDriver) (openings .verifyConnectivity)

/-- source `Neo4jConnectionManager.aclose` -/
def Neo4jConnectionManager.aclose : Neo4jConnectionManager × Resources → Neo4jConnectionManager × Resources :=
  ClientStore.aclose .closeDriver

/-- source `MinioArtifactStore` -/
structure MinioArtifactStore where
  client : Ref Resource.minioClient

/-- source `MinioArtifactStore.aclose`, which leaves the client as it is -/
def MinioArtifactStore.aclose (store : MinioArtifactStore) (resources : Resources) : Resources :=
  resources.finish store.client .closeArtifacts

end Stores

/-- The conversation stores. The one in memory has neither `start` nor `aclose`. -/
inductive ConversationStore where
  | memory
  | postgres (store : PooledStore)
  | redis (store : RedisConversationStore)

namespace ConversationStore

/-- `start` of the store, where it has one. -/
def start (openings : Openings) : Command (ConversationStore × Resources) Raised Unit := do
  let s ← get
  match s with
  | (.memory, _) => pure ()
  | (.postgres store, _) =>
    (PostgresConversationStore.start openings).within (fun (_, resources) => (store, resources))
      fun (store, resources) _ => (.postgres store, resources)
  | (.redis store, _) =>
    (RedisConversationStore.start openings).within (fun (_, resources) => (store, resources))
      fun (store, resources) _ => (.redis store, resources)

/-- `aclose` of the store, where it has one. -/
def aclose : ConversationStore × Resources → ConversationStore × Resources
  | (.memory, resources) => (.memory, resources)
  | (.postgres store, resources) =>
    let (store, resources) := PostgresConversationStore.aclose (store, resources)
    (.postgres store, resources)
  | (.redis store, resources) =>
    let (store, resources) := RedisConversationStore.aclose (store, resources)
    (.redis store, resources)

end ConversationStore

/-- The run repositories. -/
inductive RunRepository where
  | memory (started : Bool)
  | postgres (store : PooledStore) (autoSetup : Bool)

namespace RunRepository

/-- `start` of the repository. -/
def start (openings : Openings) : Command (RunRepository × Resources) Raised Unit := do
  let s ← get
  match s with
  | (.memory _, resources) => set (RunRepository.memory true, resources)
  | (.postgres store autoSetup, _) =>
    (PostgresRunRepository.start openings autoSetup).within (fun (_, resources) => (store, resources))
      fun (store, resources) _ => (.postgres store autoSetup, resources)

/-- `aclose` of the repository. -/
def aclose : RunRepository × Resources → RunRepository × Resources
  | (.memory _, resources) => (.memory false, resources)
  | (.postgres store autoSetup, resources) =>
    let (store, resources) := PostgresRunRepository.aclose (store, resources)
    (.postgres store autoSetup, resources)

end RunRepository

/-- The checkpointers: `InMemorySaver`, and `AsyncPostgresSaver` over a pool of psycopg. -/
inductive Checkpointer where
  | inMemory
  | postgres (pool : Ref Resource.checkpointPool)

/-- source `StateRuntime`, with all that it and its stores have opened -/
structure StateRuntime where
  conversations : ConversationStore := .memory
  runs : RunRepository := .memory false
  checkpointer : Checkpointer := .inMemory
  artifacts : Option MinioArtifactStore := none
  neo4j : Option Neo4jConnectionManager := none
  checkpointPool : Option (Ref Resource.checkpointPool) := none
  postgresPool : Option (Ref Resource.asyncpgPool) := none
  started : Bool := false
  degradedReason : Option String := none
  neo4jDegradedReason : Option String := none
  resources : Resources := {}

namespace StateRuntime

section Start

variable (settings : BackendSettings) (openings : Openings)

/-- source `uses_asyncpg` -/
def usesAsyncpg : Bool :=
  settings.stateBackend = .postgres || settings.runRepositoryBackend = .postgres

/-- source `_start_postgres_pool` -/
def startPostgresPool : Command StateRuntime Raised Unit := do
  let s ← get
  if !usesAsyncpg settings || s.postgresPool.isSome then pure ()
  else if settings.databaseUrl = "" then
    throw (runtimeError "DATABASE_URL is required for PostgreSQL conversation or run storage")
  else do
    Command.attempt (openings (.createPool .stateRuntime))
    set { s with
      postgresPool := some (s.resources.fresh .asyncpgPool)
      resources := s.resources.record .asyncpgPool }

/-- source `_build_conversation_store` -/
def buildConversationStore (s : StateRuntime) : Except Raised ConversationStore :=
  match settings.stateBackend with
  | .postgres =>
    if settings.databaseUrl = "" then
      .error (runtimeError "DATABASE_URL is required for STATE_BACKEND=postgres")
    else .ok (.postgres (.new s.postgresPool))
  | .redis =>
    if settings.redisUrl = "" then .error (runtimeError "REDIS_URL is required for STATE_BACKEND=redis")
    else .ok (.redis {})
  | .memory => .ok .memory

/-- source `_build_run_repository` -/
def buildRunRepository (s : StateRuntime) : Except Raised RunRepository :=
  match settings.runRepositoryBackend with
  | .postgres =>
    if settings.databaseUrl = "" then
      .error (runtimeError "DATABASE_URL is required for RUN_REPOSITORY_BACKEND=postgres")
    else .ok (.postgres (.new s.postgresPool) settings.postgresAutoSetup)
  | .memory => .ok (.memory false)

/-- The conversation store is built and started. -/
def startConversations : Command StateRuntime Raised Unit := do
  let s ← get
  let conversations ← Command.attempt (buildConversationStore settings s)
  (ConversationStore.start openings).within (fun s => (conversations, s.resources))
    fun (conversations, resources) s => { s with conversations, resources }

/-- The run repository is built and started. -/
def startRuns : Command StateRuntime Raised Unit := do
  let s ← get
  let runs ← Command.attempt (buildRunRepository settings s)
  (RunRepository.start openings).within (fun s => (runs, s.resources))
    fun (runs, resources) s => { s with runs, resources }

/-- The pool of psycopg and its checkpointer. -/
def startCheckpointer : Command StateRuntime Raised Unit := do
  let s ← get
  if settings.checkpointBackend = .postgres then
    if settings.databaseUrl = "" then
      throw (runtimeError "DATABASE_URL is required for PostgreSQL checkpoints")
    else do
      let pool := s.resources.fresh .checkpointPool
      Command.attempt (openings .newCheckpointPool)
      set { s with checkpointPool := some pool, resources := s.resources.record .checkpointPool }
      Command.attempt (openings .openCheckpointPool)
      Command.attempt (openings .newSaver)
      modify fun s => { s with checkpointer := .postgres pool }
      Command.attempt (if settings.postgresAutoSetup then openings .setupCheckpoints else .ok ())
  else pure ()

/-- The artifact store. Its client is there from its constructor on. -/
def startArtifacts : Command StateRuntime Raised Unit := do
  let s ← get
  if settings.artifactBackend = .minio then do
    Command.attempt (openings .newMinio)
    set { s with
      artifacts := some ⟨s.resources.fresh .minioClient⟩
      resources := s.resources.record .minioClient }
    Command.attempt (openings .makeBucket)
  else pure ()

/-- source `f"{type(exc).__name__}: {str(exc).strip() or 'startup failed'}"` -/
def startupFailure (raised : Raised) : String :=
  let text := Text.strip raised.message
  raised.typeName ++ ": " ++ (if text = "" then "startup failed" else text)

/-- source `_start_neo4j` -/
def startNeo4j : Command StateRuntime Raised Unit := do
  let s ← get
  if !settings.neo4jEnabled || s.neo4j.isSome then pure ()
  else
    -- the manager is known to this method only until it has started
    match (Neo4jConnectionManager.start openings).perform ({}, s.resources) with
    | (.ok (), manager, resources) =>
      set { s with neo4j := some manager, neo4jDegradedReason := none, resources }
    | (.error raised, failed) => do
      let (_, resources) := Neo4jConnectionManager.aclose failed
      if settings.persistenceRequired then do
        set { s with resources }
        throw raised
      else set { s with neo4jDegradedReason := some (startupFailure raised), resources }

/-- The `try` block of `start`. -/
def startBackends : Command StateRuntime Raised Unit := do
  startPostgresPool settings openings
  startConversations settings openings
  startRuns settings openings
  startCheckpointer settings openings
  startArtifacts settings openings
  startNeo4j settings openings
  modify fun s => { s with started := true, degradedReason := none }

end Start

section Close

variable (s : StateRuntime)

def closeNeo4j : StateRuntime :=
  { s with
    neo4j := none
    resources := s.neo4j.elim s.resources fun manager =>
      (Neo4jConnectionManager.aclose (manager, s.resources)).2 }

def closeArtifacts : StateRuntime :=
  { s with
    artifacts := none
    resources := s.artifacts.elim s.resources fun store => store.aclose s.resources }

def closeRuns : StateRuntime :=
  let closed := RunRepository.aclose (s.runs, s.resources)
  { s with runs := closed.1, resources := closed.2 }

def closeConversations : StateRuntime :=
  let closed := ConversationStore.aclose (s.conversations, s.resources)
  { s with conversations := closed.1, resources := closed.2 }

def closeCheckpointPool : StateRuntime :=
  { s with
    checkpointPool := none
    resources := s.checkpointPool.elim s.resources fun pool =>
      s.resources.finish pool .closeCheckpointPool }

def closePostgresPool : StateRuntime :=
  { s with
    postgresPool := none
    resources := s.postgresPool.elim s.resources fun pool =>
      s.resources.finish pool (.closePool .stateRuntime) }

/-- source `aclose` -/
def aclose : StateRuntime :=
  { s.closeNeo4j.closeArtifacts.closeRuns.closeConversations.closeCheckpointPool.closePostgresPool with
    started := false }

/-- source `use_memory_fallback` -/
def useMemoryFallback (reason : String) : StateRuntime :=
  { s.aclose with
    conversations := .memory
    runs := .memory true
    checkpointer := .inMemory
    artifacts := none
    neo4j := none
    checkpointPool := none
    started := true
    degradedReason := some reason
    neo4jDegradedReason := none }

end Close

/-- source `start` -/
def start (settings : BackendSettings) (openings : Openings) : Command StateRuntime Raised Unit := do
  let s ← get
  if s.started then pure ()
  else (startBackends settings openings).onFailure aclose

end StateRuntime

/-- The calls of a `StateRuntime`. -/
inductive RuntimeCall where
  | start (openings : Openings)
  | useMemoryFallback (reason : String)
  | aclose

namespace StateRuntime

/-- What a call answers, and the state after it. -/
def perform (settings : BackendSettings) (s : StateRuntime) : RuntimeCall → Except Raised Unit × StateRuntime
  | .start openings => (start settings openings).perform s
  | .useMemoryFallback reason => (.ok (), s.useMemoryFallback reason)
  | .aclose => (.ok (), s.aclose)

/-- The state after some calls, one after the other. -/
def after (settings : BackendSettings) (s : StateRuntime) (calls : List RuntimeCall) : StateRuntime :=
  calls.foldl (fun s call => (s.perform settings call).2) s

end StateRuntime

end AgentRuntime.Lifecycle
