import AgentRuntime.State.Runtime
import Mathlib.Data.Multiset.OrderedMonoid
import Mathlib.Tactic.Abel

/-!
# What the backends leave open

Every call of a `StateRuntime` keeps its ledger balanced against the clients and pools that it refers to.
The stores over asyncpg borrow the pool of the runtime, so they hold nothing. A call that closes leaves
nothing that is referred to, and what was opened before it is in the ledger as ended, once for all.
-/

namespace AgentRuntime.Lifecycle
open Ledger (referred)

/-- The call that ends the use of what a runtime opens. -/
def Resource.ending : Resource → Closing
  | .asyncpgPool => .closePool .stateRuntime
  | .redisClient => .closeClient
  | .checkpointPool => .closeCheckpointPool
  | .minioClient => .closeArtifacts
  | .neo4jDriver => .closeDriver

/-- The ledger is balanced, and has everything of an earlier one. -/
structure Kept (base : Resources) (held : Multiset (Handle Resource)) (resources : Resources) : Prop where
  balanced : Ledger.Balanced Resource.ending held resources
  within : base.Within resources

namespace Kept

variable {base resources : Resources} {held : Multiset (Handle Resource)} {kind : Resource}

lemma congr {held' : Multiset (Handle Resource)} (kept : Kept base held resources) (same : held' = held) :
    Kept base held' resources := same ▸ kept

lemma record (kept : Kept base held resources) (kind : Resource) :
    Kept base (held + {(resources.fresh kind).handle}) (resources.record kind) where
  balanced := kept.balanced.record kind
  within := kept.within.record kind

lemma finish {r : Ref kind} (kept : Kept base (held + {r.handle}) resources) :
    Kept base held (resources.finish r kind.ending) where
  balanced := kept.balanced.finish
  within := kept.within.finish r kind.ending

/-- An attribute of the runtime is closed, where it is not `None`. -/
lemma close {α : Type} {slot : Option α} {closed : α → Resources} (content : α → Multiset (Handle Resource))
    (kept : Kept base (held + slot.elim 0 content) resources)
    (closes : ∀ a, Kept base (held + content a) resources → Kept base held (closed a)) :
    Kept base held (slot.elim resources closed) := by
  cases slot with
  | none => exact kept.congr (add_zero held).symm
  | some a => exact closes a kept

end Kept

section Stores

variable {base : Resources} {rest : Multiset (Handle Resource)} {openings : Openings}

section Client

variable {kind : Resource}

/-- Such a store holds its client, and closes it. -/
lemma ClientStore.aclose_kept (s : ClientStore kind × Resources)
    (kept : Kept base (rest + referred s.1.client) s.2) :
    (ClientStore.aclose kind.ending s).1.client = none ∧
    Kept base rest (ClientStore.aclose kind.ending s).2 := by
  rcases s with ⟨⟨client⟩, resources⟩
  cases client with
  | none => exact ⟨rfl, add_zero rest ▸ kept⟩
  | some client => exact ⟨rfl, kept.finish⟩

/-- A client that does not answer is closed before the failure goes on. -/
lemma ClientStore.start_kept (created answers : Except Raised Unit) :
    Command.Ends (fun s => Kept base (rest + referred s.1.client) s.2)
      (ClientStore.start kind.ending created answers : Command (ClientStore kind × Resources) Raised Unit)
      (fun _ s => Kept base (rest + referred s.1.client) s.2)
      fun s => Kept base (rest + referred s.1.client) s.2 := by
  apply Command.Ends.read
  rintro ⟨⟨client⟩, resources⟩ kept
  cases client with
  | some client =>
    apply Command.Ends.pure
    rintro _ rfl
    exact kept
  | none =>
    apply Command.Ends.attempt_bind
    · intro _ _
      apply Command.Ends.write_bind
      have opened : Kept base (rest + referred (some (resources.fresh kind))) (resources.record kind) :=
        (add_zero rest ▸ kept).record kind
      apply Command.Ends.onFailure
      apply Command.Ends.attempt
      · rintro _ _ rfl
        exact opened
      · rintro _ rfl
        exact (add_zero rest).symm ▸ opened.finish
    · rintro _ rfl
      exact kept

end Client

lemma Neo4jConnectionManager.start_kept :
    Command.Ends (fun s => Kept base (rest + referred s.1.client) s.2)
      (Neo4jConnectionManager.start openings)
      (fun _ s => Kept base (rest + referred s.1.client) s.2)
      fun s => Kept base (rest + referred s.1.client) s.2 :=
  ClientStore.start_kept _ _

/-- A store that borrows its pool neither opens nor closes one when it starts. -/
lemma PooledStore.start_kept (owner : PoolOwner) (tables : Except Raised Unit) :
    Command.Ends (fun s => (s.1.pool.isSome = true ∧ s.1.ownsPool = false) ∧ Kept base rest s.2)
      (PooledStore.start owner openings tables)
      (fun _ s => s.1.ownsPool = false ∧ Kept base rest s.2)
      fun s => s.1.ownsPool = false ∧ Kept base rest s.2 := by
  apply Command.Ends.read
  rintro ⟨⟨pool, ownsPool, started⟩, resources⟩ ⟨⟨given, borrowed⟩, kept⟩
  obtain ⟨pool, rfl⟩ := Option.isSome_iff_exists.mp given
  cases borrowed
  cases started with
  | true =>
    apply Command.Ends.pure
    rintro _ rfl
    exact ⟨rfl, kept⟩
  | false =>
    have nothing : Command.Ends (· = ((⟨some pool, false, false⟩, resources) : PooledStore × Resources))
        (PooledStore.ensurePool owner openings) (fun _ s => s = (⟨some pool, false, false⟩, resources))
        fun s => s.1.ownsPool = false ∧ Kept base rest s.2 := by
      apply Command.Ends.read
      rintro _ rfl
      exact .pure fun _ same => same
    apply nothing.bind
    intro _
    apply Command.Ends.bind
    · apply Command.Ends.onFailure
      apply Command.Ends.attempt
      · intro _ _ same
        exact same
      · rintro _ rfl
        exact ⟨rfl, kept⟩
    · intro _
      apply Command.Ends.update
      rintro _ rfl
      exact ⟨rfl, kept⟩

lemma PooledStore.aclose_kept (owner : PoolOwner) (s : PooledStore × Resources)
    (borrowed : s.1.ownsPool = false) (kept : Kept base rest s.2) :
    (PooledStore.aclose owner s).1.ownsPool = false ∧ Kept base rest (PooledStore.aclose owner s).2 := by
  rcases s with ⟨⟨pool, ownsPool, started⟩, resources⟩
  cases borrowed
  cases pool with
  | none => exact ⟨rfl, kept⟩
  | some pool => exact ⟨rfl, kept⟩

namespace ConversationStore

/-- What the store holds: its own client. -/
def held : ConversationStore → Multiset (Handle Resource)
  | .redis store => referred store.client
  | _ => 0

/-- The pool of the store, where it has one, is not its own. -/
def Borrows : ConversationStore → Prop
  | .postgres store => store.ownsPool = false
  | _ => True

/-- The store has been given the pool that it needs. -/
def Given : ConversationStore → Prop
  | .postgres store => store.pool.isSome = true ∧ store.ownsPool = false
  | _ => True

lemma start_kept :
    Command.Ends (fun s => s.1.Given ∧ Kept base (rest + s.1.held) s.2)
      (ConversationStore.start openings)
      (fun _ s => s.1.Borrows ∧ Kept base (rest + s.1.held) s.2)
      fun s => s.1.Borrows ∧ Kept base (rest + s.1.held) s.2 := by
  apply Command.Ends.read
  rintro ⟨store, resources⟩ ⟨given, kept⟩
  cases store with
  | memory =>
    apply Command.Ends.pure
    rintro _ rfl
    exact ⟨trivial, kept⟩
  | postgres store =>
    apply Command.Ends.within (PooledStore.start_kept .conversationStore _)
    · exact ⟨given, kept⟩
    · exact fun _ _ after => after
    · exact fun _ after => after
  | redis store =>
    apply Command.Ends.within (ClientStore.start_kept _ _)
    · exact kept
    · exact fun _ _ after => ⟨trivial, after⟩
    · exact fun _ after => ⟨trivial, after⟩

lemma aclose_kept (s : ConversationStore × Resources) (borrows : s.1.Borrows)
    (kept : Kept base (rest + s.1.held) s.2) :
    (ConversationStore.aclose s).1.Borrows ∧ (ConversationStore.aclose s).1.held = 0 ∧
    Kept base rest (ConversationStore.aclose s).2 := by
  rcases s with ⟨store, resources⟩
  cases store with
  | memory => exact ⟨trivial, rfl, add_zero rest ▸ kept⟩
  | postgres store =>
    obtain ⟨borrowed, closed⟩ :=
      PooledStore.aclose_kept .conversationStore (store, resources) borrows (add_zero rest ▸ kept)
    exact ⟨borrowed, rfl, closed⟩
  | redis store =>
    obtain ⟨gone, closed⟩ := ClientStore.aclose_kept (store, resources) kept
    refine ⟨trivial, ?_, closed⟩
    show referred (ClientStore.aclose Closing.closeClient (store, resources)).1.client = 0
    rw [show Closing.closeClient = Resource.ending .redisClient from rfl, gone]
    rfl

end ConversationStore

namespace RunRepository

/-- The pool of the repository, where it has one, is not its own. -/
def Borrows : RunRepository → Prop
  | .postgres store _ => store.ownsPool = false
  | .memory _ => True

/-- The repository has been given the pool that it needs. -/
def Given : RunRepository → Prop
  | .postgres store _ => store.pool.isSome = true ∧ store.ownsPool = false
  | .memory _ => True

lemma start_kept :
    Command.Ends (fun s => s.1.Given ∧ Kept base rest s.2) (RunRepository.start openings)
      (fun _ s => s.1.Borrows ∧ Kept base rest s.2) fun s => s.1.Borrows ∧ Kept base rest s.2 := by
  apply Command.Ends.read
  rintro ⟨runs, resources⟩ ⟨given, kept⟩
  cases runs with
  | memory started => exact .write ⟨trivial, kept⟩
  | postgres store autoSetup =>
    apply Command.Ends.within (PooledStore.start_kept .runRepository _)
    · exact ⟨given, kept⟩
    · exact fun _ _ after => after
    · exact fun _ after => after

lemma aclose_kept (s : RunRepository × Resources) (borrows : s.1.Borrows) (kept : Kept base rest s.2) :
    (RunRepository.aclose s).1.Borrows ∧ Kept base rest (RunRepository.aclose s).2 := by
  rcases s with ⟨runs, resources⟩
  cases runs with
  | memory started => exact ⟨trivial, kept⟩
  | postgres store autoSetup =>
    exact PooledStore.aclose_kept .runRepository (store, resources) borrows kept

end RunRepository

end Stores

namespace StateRuntime

/-- What the runtime holds, by itself and by its stores. -/
def held (s : StateRuntime) : Multiset (Handle Resource) :=
  (s.neo4j.elim 0 fun manager => referred manager.client) +
    (s.artifacts.elim 0 fun store => {store.client.handle}) +
    s.conversations.held + referred s.checkpointPool + referred s.postgresPool

/-- The ledger is balanced against what the runtime holds, and the stores borrow its pool. -/
structure Sound (base : Resources) (s : StateRuntime) : Prop where
  kept : Kept base s.held s.resources
  conversations : s.conversations.Borrows
  runs : s.runs.Borrows

/-- What the runtime holds apart from its conversation store. -/
lemma held_conversations (s : StateRuntime) :
    s.held = { s with conversations := .memory }.held + s.conversations.held := by
  simp only [held, ConversationStore.held]
  abel

section Close

variable {base : Resources} {s : StateRuntime}

lemma Sound.closeNeo4j (sound : Sound base s) : Sound base s.closeNeo4j := by
  refine ⟨?_, sound.conversations, sound.runs⟩
  apply Kept.close fun manager : Neo4jConnectionManager => referred manager.client
  · apply sound.kept.congr
    simp only [held, StateRuntime.closeNeo4j, Option.elim_none]
    abel
  · intro manager kept
    exact (ClientStore.aclose_kept (manager, s.resources) kept).2

lemma Sound.closeArtifacts (sound : Sound base s) : Sound base s.closeArtifacts := by
  refine ⟨?_, sound.conversations, sound.runs⟩
  apply Kept.close fun store : MinioArtifactStore => {store.client.handle}
  · apply sound.kept.congr
    simp only [held, StateRuntime.closeArtifacts, Option.elim_none]
    abel
  · intro store kept
    exact kept.finish

lemma Sound.closeRuns (sound : Sound base s) : Sound base s.closeRuns := by
  obtain ⟨borrows, kept⟩ := RunRepository.aclose_kept (s.runs, s.resources) sound.runs sound.kept
  exact ⟨kept, sound.conversations, borrows⟩

lemma Sound.closeConversations (sound : Sound base s) :
    Sound base s.closeConversations ∧ s.closeConversations.conversations.held = 0 := by
  obtain ⟨borrows, nothing, kept⟩ := ConversationStore.aclose_kept (s.conversations, s.resources)
    sound.conversations (sound.kept.congr s.held_conversations.symm)
  refine ⟨⟨?_, borrows, sound.runs⟩, nothing⟩
  apply kept.congr
  rw [held_conversations, StateRuntime.closeConversations, nothing]
  exact add_zero _

lemma Sound.closeCheckpointPool (sound : Sound base s) : Sound base s.closeCheckpointPool := by
  refine ⟨?_, sound.conversations, sound.runs⟩
  apply Kept.close fun pool => {pool.handle}
  · apply sound.kept.congr
    simp only [held, StateRuntime.closeCheckpointPool, referred, Option.elim_none]
    abel
  · intro pool kept
    exact kept.finish

lemma Sound.closePostgresPool (sound : Sound base s) : Sound base s.closePostgresPool := by
  refine ⟨?_, sound.conversations, sound.runs⟩
  apply Kept.close fun pool => {pool.handle}
  · apply sound.kept.congr
    simp only [held, StateRuntime.closePostgresPool, referred, Option.elim_none]
    abel
  · intro pool kept
    exact kept.finish

/-- After `aclose` the runtime holds nothing. -/
lemma Sound.aclose (sound : Sound base s) : Sound base s.aclose ∧ s.aclose.held = 0 := by
  obtain ⟨closed, nothing⟩ := sound.closeNeo4j.closeArtifacts.closeRuns.closeConversations
  have done := closed.closeCheckpointPool.closePostgresPool
  refine ⟨⟨done.kept, done.conversations, done.runs⟩, ?_⟩
  show 0 + 0 + s.closeNeo4j.closeArtifacts.closeRuns.closeConversations.conversations.held + 0 + 0 = 0
  rw [nothing]
  rfl

/-- After `use_memory_fallback` the runtime holds nothing. -/
lemma Sound.useMemoryFallback (sound : Sound base s) (reason : String) :
    Sound base (s.useMemoryFallback reason) ∧ (s.useMemoryFallback reason).held = 0 := by
  obtain ⟨closed, nothing⟩ := sound.aclose
  have held : (s.useMemoryFallback reason).held = 0 := rfl
  exact ⟨⟨closed.kept.congr (held.trans nothing.symm), trivial, trivial⟩, held⟩

end Close

section Start

variable {base : Resources} {settings : BackendSettings} {openings : Openings}

/-- What a start does not overwrite before it has come to it. -/
structure Unopened (s : StateRuntime) : Prop where
  checkpointPool : s.checkpointPool = none
  artifacts : s.artifacts = none

/-- The pool is there for the stores that need it. -/
def Pooled (settings : BackendSettings) (s : StateRuntime) : Prop :=
  usesAsyncpg settings = true → s.postgresPool.isSome = true

lemma startPostgresPool_sound :
    Command.Ends (fun s => Sound base s ∧ Unopened s ∧ s.conversations.held = 0)
      (startPostgresPool settings openings)
      (fun _ s => (Sound base s ∧ Unopened s ∧ s.conversations.held = 0) ∧ Pooled settings s)
      (Sound base) := by
  apply Command.Ends.read
  rintro s ⟨sound, unopened, nothing⟩
  split
  case isTrue there =>
    apply Command.Ends.pure
    rintro _ rfl
    refine ⟨⟨sound, unopened, nothing⟩, ?_⟩
    intro uses
    rwa [uses, Bool.not_true, Bool.false_or] at there
  case isFalse absent =>
    split
    · apply Command.Ends.throw
      rintro _ rfl
      exact sound
    · apply Command.Ends.attempt_bind
      · intro _ _
        apply Command.Ends.write
        refine ⟨⟨⟨?_, sound.conversations, sound.runs⟩, ⟨unopened.1, unopened.2⟩, nothing⟩,
          fun _ => rfl⟩
        have empty : s.postgresPool = none := by
          simp only [Bool.or_eq_true, not_or, Bool.not_eq_true, Option.isSome_eq_false_iff,
            Option.isNone_iff_eq_none] at absent
          exact absent.2
        apply (sound.kept.record .asyncpgPool).congr
        simp only [held, referred, empty, Option.elim_none, Option.elim_some]
        abel
      · rintro _ rfl
        exact sound

/-- A store that is built has the pool of the runtime. -/
lemma buildConversationStore_given {s : StateRuntime} {store : ConversationStore} (pooled : Pooled settings s)
    (built : buildConversationStore settings s = .ok store) : store.Given ∧ store.held = 0 := by
  rw [buildConversationStore] at built
  split at built
  case h_1 backend =>
    split at built
    · cases built
    · cases built
      have given : s.postgresPool.isSome = true := by
        apply pooled
        rw [usesAsyncpg, backend]
        rfl
      refine ⟨⟨given, ?_⟩, rfl⟩
      show s.postgresPool.isNone = false
      rwa [← Option.not_isSome, Bool.not_eq_false']
  case h_2 =>
    split at built
    · cases built
    · cases built
      exact ⟨trivial, rfl⟩
  case h_3 =>
    cases built
    exact ⟨trivial, rfl⟩

/-- A repository that is built has the pool of the runtime. -/
lemma buildRunRepository_given {s : StateRuntime} {runs : RunRepository} (pooled : Pooled settings s)
    (built : buildRunRepository settings s = .ok runs) : runs.Given := by
  rw [buildRunRepository] at built
  split at built
  case h_1 backend =>
    split at built
    · cases built
    · cases built
      have given : s.postgresPool.isSome = true := by
        apply pooled
        rw [usesAsyncpg, backend]
        exact Bool.or_true _
      refine ⟨given, ?_⟩
      show s.postgresPool.isNone = false
      rwa [← Option.not_isSome, Bool.not_eq_false']
  case h_2 =>
    cases built
    trivial

lemma startConversations_sound :
    Command.Ends (fun s => (Sound base s ∧ Unopened s ∧ s.conversations.held = 0) ∧ Pooled settings s)
      (startConversations settings openings)
      (fun _ s => (Sound base s ∧ Unopened s) ∧ Pooled settings s) (Sound base) := by
  apply Command.Ends.read
  rintro s ⟨⟨sound, unopened, nothing⟩, pooled⟩
  apply Command.Ends.attempt_bind
  · intro store built
    obtain ⟨given, fresh⟩ := buildConversationStore_given pooled built
    have apart : Kept base ({ s with conversations := .memory }.held + store.held) s.resources := by
      apply sound.kept.congr
      rw [fresh, ← nothing]
      exact s.held_conversations.symm
    have after (store : ConversationStore) (resources : Resources) (borrows : store.Borrows)
        (kept : Kept base ({ s with conversations := .memory }.held + store.held) resources) :
        Sound base { s with conversations := store, resources } :=
      ⟨kept.congr (held_conversations _), borrows, sound.runs⟩
    apply Command.Ends.within ConversationStore.start_kept
    · exact ⟨given, apart⟩
    · rintro _ ⟨store, resources⟩ ⟨borrows, kept⟩
      exact ⟨⟨after store resources borrows kept, ⟨unopened.1, unopened.2⟩⟩, pooled⟩
    · rintro ⟨store, resources⟩ ⟨borrows, kept⟩
      exact after store resources borrows kept
  · rintro _ rfl
    exact sound

lemma startRuns_sound :
    Command.Ends (fun s => (Sound base s ∧ Unopened s) ∧ Pooled settings s) (startRuns settings openings)
      (fun _ s => Sound base s ∧ Unopened s) (Sound base) := by
  apply Command.Ends.read
  rintro s ⟨⟨sound, unopened⟩, pooled⟩
  apply Command.Ends.attempt_bind
  · intro runs built
    have given := buildRunRepository_given pooled built
    apply Command.Ends.within RunRepository.start_kept
    · exact ⟨given, sound.kept⟩
    · rintro _ ⟨runs, resources⟩ ⟨borrows, kept⟩
      exact ⟨⟨kept, sound.conversations, borrows⟩, unopened.1, unopened.2⟩
    · rintro ⟨runs, resources⟩ ⟨borrows, kept⟩
      exact ⟨kept, sound.conversations, borrows⟩
  · rintro _ rfl
    exact sound

lemma startCheckpointer_sound :
    Command.Ends (fun s => Sound base s ∧ Unopened s) (startCheckpointer settings openings)
      (fun _ s => Sound base s ∧ s.artifacts = none) (Sound base) := by
  apply Command.Ends.read
  rintro s ⟨sound, unopened⟩
  split
  · split
    · apply Command.Ends.throw
      rintro _ rfl
      exact sound
    -- the pool is held from here on, whatever raises later
    · have kept : Kept base
          { s with
            checkpointPool := some (s.resources.fresh .checkpointPool)
            resources := s.resources.record .checkpointPool }.held
          (s.resources.record .checkpointPool) := by
        apply (sound.kept.record .checkpointPool).congr
        simp only [held, referred, unopened.checkpointPool, Option.elim_none, Option.elim_some]
        abel
      apply Command.Ends.attempt_bind
      · intro _ _
        apply Command.Ends.write_bind
        apply Command.Ends.attempt_bind
        · intro _ _
          apply Command.Ends.attempt_bind
          · intro _ _
            apply Command.Ends.update_bind
            apply Command.Ends.attempt
            · rintro _ _ rfl
              exact ⟨⟨kept, sound.conversations, sound.runs⟩, unopened.artifacts⟩
            · rintro _ rfl
              exact ⟨kept, sound.conversations, sound.runs⟩
          · rintro _ rfl
            exact ⟨kept, sound.conversations, sound.runs⟩
        · rintro _ rfl
          exact ⟨kept, sound.conversations, sound.runs⟩
      · rintro _ rfl
        exact sound
  · apply Command.Ends.pure
    rintro _ rfl
    exact ⟨sound, unopened.artifacts⟩

lemma startArtifacts_sound :
    Command.Ends (fun s => Sound base s ∧ s.artifacts = none) (startArtifacts settings openings)
      (fun _ => Sound base) (Sound base) := by
  apply Command.Ends.read
  rintro s ⟨sound, unopened⟩
  split
  · have kept : Kept base
        { s with
          artifacts := some ⟨s.resources.fresh .minioClient⟩
          resources := s.resources.record .minioClient }.held
        (s.resources.record .minioClient) := by
      apply (sound.kept.record .minioClient).congr
      simp only [held, unopened, Option.elim_none, Option.elim_some]
      abel
    apply Command.Ends.attempt_bind
    · intro _ _
      apply Command.Ends.write_bind
      apply Command.Ends.attempt
      · rintro _ _ rfl
        exact ⟨kept, sound.conversations, sound.runs⟩
      · rintro _ rfl
        exact ⟨kept, sound.conversations, sound.runs⟩
    · rintro _ rfl
      exact sound
  · apply Command.Ends.pure
    rintro _ rfl
    exact sound

lemma startNeo4j_sound :
    Command.Ends (Sound base) (startNeo4j settings openings) (fun _ => Sound base) (Sound base) := by
  apply Command.Ends.read
  intro s sound
  split
  · apply Command.Ends.pure
    rintro _ rfl
    exact sound
  case isFalse absent =>
    have empty : s.neo4j = none := by
      simp only [Bool.or_eq_true, not_or, Bool.not_eq_true, Option.isSome_eq_false_iff,
        Option.isNone_iff_eq_none] at absent
      exact absent.2
    have before : Kept base (s.held + referred (none : Option (Ref Resource.neo4jDriver))) s.resources :=
      sound.kept.congr (add_zero _)
    have started := (Neo4jConnectionManager.start_kept :
      Command.Ends _ (Neo4jConnectionManager.start openings) _ _) ({}, s.resources) before
    rcases performed : (Neo4jConnectionManager.start openings).perform ({}, s.resources) with
      ⟨answer, manager, resources⟩
    rw [performed] at started
    cases answer with
    | ok =>
      apply Command.Ends.write
      refine ⟨started.congr ?_, sound.conversations, sound.runs⟩
      simp only [held, empty, Option.elim_none, Option.elim_some]
      abel
    | error raised =>
      -- a manager that did not start is closed, and its error raised where persistence is required
      have closed := (ClientStore.aclose_kept (manager, resources) started).2
      dsimp only
      split
      · apply Command.Ends.write_bind
        apply Command.Ends.throw
        rintro _ rfl
        exact ⟨closed, sound.conversations, sound.runs⟩
      · apply Command.Ends.write
        exact ⟨closed, sound.conversations, sound.runs⟩

lemma startBackends_sound :
    Command.Ends (fun s => Sound base s ∧ Unopened s ∧ s.conversations.held = 0)
      (startBackends settings openings) (fun _ s => Sound base s ∧ s.started = true) (Sound base) := by
  apply startPostgresPool_sound.bind
  intro _
  apply startConversations_sound.bind
  intro _
  apply startRuns_sound.bind
  intro _
  apply startCheckpointer_sound.bind
  intro _
  apply startArtifacts_sound.bind
  intro _
  apply startNeo4j_sound.bind
  intro _
  apply Command.Ends.update
  intro s sound
  exact ⟨⟨sound.kept, sound.conversations, sound.runs⟩, rfl⟩

end Start

/-- Between two calls a runtime that has not started holds nothing. -/
structure Settled (base : Resources) (s : StateRuntime) : Prop extends Sound base s where
  stopped : s.started = false → s.held = 0

section Calls

variable {base : Resources} {settings : BackendSettings} {s : StateRuntime}

lemma Settled.init : Settled {} {} where
  kept := ⟨.empty, .refl⟩
  conversations := trivial
  runs := trivial
  stopped _ := rfl

/-- From a later call on, the ledger keeps what it has at that call. -/
lemma Settled.rebase (settled : Settled base s) : Settled s.resources s where
  kept := ⟨settled.kept.balanced, .refl⟩
  conversations := settled.conversations
  runs := settled.runs
  stopped := settled.stopped

/-- Where nothing is held, a start overwrites nothing. -/
lemma unopened_of_held (nothing : s.held = 0) : Unopened s ∧ s.conversations.held = 0 := by
  simp only [held, add_eq_zero] at nothing
  obtain ⟨⟨⟨⟨_, artifacts⟩, conversations⟩, checkpointPool⟩, _⟩ := nothing
  refine ⟨⟨Ledger.referred_eq_zero checkpointPool, ?_⟩, conversations⟩
  cases eq : s.artifacts with
  | none => rfl
  | some store =>
    rw [eq] at artifacts
    cases Multiset.singleton_ne_zero _ artifacts

/-- A start that raises has closed what it opened. -/
lemma start_settled (settings : BackendSettings) (openings : Openings) :
    Command.Ends (Settled base) (start settings openings) (fun _ => Settled base)
      fun s => Settled base s ∧ s.held = 0 := by
  apply Command.Ends.read
  intro s settled
  split
  case isTrue =>
    apply Command.Ends.pure
    rintro _ rfl
    exact settled
  case isFalse stopped =>
    have nothing := settled.stopped (Bool.not_eq_true _ ▸ stopped)
    apply Command.Ends.onFailure
    apply startBackends_sound.weaken
    · rintro _ rfl
      exact ⟨settled.toSound, unopened_of_held nothing⟩
    · intro _ s ⟨sound, started⟩
      refine ⟨sound, ?_⟩
      intro stopped
      rw [started] at stopped
      cases stopped
    · intro s sound
      obtain ⟨closed, nothing⟩ := sound.aclose
      exact ⟨⟨closed, fun _ => nothing⟩, nothing⟩

/-- The call closes what is open: `aclose`, `use_memory_fallback`, and a `start` that raises. -/
def closesAll : RuntimeCall → Except Raised Unit → Bool
  | .start _, .ok () => false
  | _, _ => true

lemma Settled.perform (settled : Settled base s) (settings : BackendSettings) (call : RuntimeCall) :
    Settled base (s.perform settings call).2 ∧
    (closesAll call (s.perform settings call).1 = true → (s.perform settings call).2.held = 0) := by
  cases call with
  | start openings =>
    have ends := start_settled settings openings s settled
    simp only [StateRuntime.perform]
    rcases performed : (start settings openings).perform s with ⟨answer, t⟩
    rw [performed] at ends
    cases answer with
    | ok => exact ⟨ends, nofun⟩
    | error raised => exact ⟨ends.1, fun _ => ends.2⟩
  | useMemoryFallback reason =>
    obtain ⟨sound, nothing⟩ := settled.useMemoryFallback reason
    exact ⟨⟨sound, fun _ => nothing⟩, fun _ => nothing⟩
  | aclose =>
    obtain ⟨sound, nothing⟩ := settled.aclose
    exact ⟨⟨sound, fun _ => nothing⟩, fun _ => nothing⟩

lemma Settled.after (settled : Settled base s) (calls : List RuntimeCall) :
    Settled base (s.after settings calls) := by
  induction calls generalizing s with
  | nil => exact settled
  | cons call calls ih => exact ih (settled.perform settings call).1

end Calls

/-- Whatever the settings, whichever steps of a start raise, and whatever calls come one after the other:
    what has been opened is held, or its use has ended once, by the call for its kind, for a pool of asyncpg
    that of the runtime itself; and after a call that closes, the use of everything that was opened before
    has ended, and does not end again later. -/
theorem ended_exactly_once (settings : BackendSettings) (before later : List RuntimeCall)
    (call : RuntimeCall) :
    let s := after settings {} before
    let t := (s.perform settings call).2
    let u := after settings t later
    (∀ h ∈ u.resources.opened,
      u.resources.endings h = [h.kind.ending] ∨ u.resources.endings h = [] ∧ h ∈ u.held) ∧
    (∀ e ∈ u.resources.ended, e.1 ∈ u.resources.opened ∧ e.2 = e.1.kind.ending) ∧
    (closesAll call (s.perform settings call).1 = true →
      ∀ h ∈ t.resources.opened, u.resources.endings h = [h.kind.ending]) := by
  intro s t u
  have settled : Settled {} s := Settled.init.after before
  obtain ⟨performed, closed⟩ := settled.perform settings call
  have rebased : Settled t.resources t := performed.rebase
  have final : Settled t.resources u := rebased.after later
  have balanced := final.kept.balanced
  refine ⟨?_, ?_, ?_⟩
  · intro h opened
    exact balanced.endings_or_held opened
  · intro e ended
    exact ⟨balanced.opened_of_ended ended, balanced.proper e ended⟩
  · intro closes h opened
    have nothing := closed closes
    have whole := rebased.kept.balanced
    rw [nothing] at whole
    exact whole.endings_later balanced final.kept.within opened

/-- Every backend, and the driver of Neo4j. -/
def sampleSettings : BackendSettings where
  stateBackend := .redis
  runRepositoryBackend := .postgres
  checkpointBackend := .postgres
  artifactBackend := .minio
  databaseUrl := "postgresql://app@db/app"
  redisUrl := "redis://cache:6379/0"
  neo4jEnabled := true

def allOpen : Openings := fun _ => .ok ()

def failing (opening : Opening) (raised : Raised) : Openings := fun other =>
  if other = opening then .error raised else .ok ()

/-- A runtime that is started and closed. Its second start finds no bucket, and ends in the fallback. -/
theorem ended_exactly_once_sample :
    let closed := after sampleSettings {} [.start allOpen, .aclose]
    let final := after sampleSettings closed
      [.start (failing .makeBucket ⟨"S3Error", "denied"⟩), .useMemoryFallback "denied"]
    closed.resources.opened.length = 5 ∧ final.resources.opened.length = 9 ∧
    ∀ h ∈ closed.resources.opened, final.resources.endings h = [h.kind.ending] :=
  ⟨rfl, rfl, (ended_exactly_once sampleSettings [.start allOpen] _ .aclose).2.2 rfl⟩

/-- A pool of psycopg that does not open: it is closed, and everything that was opened before it. -/
example :
    (after sampleSettings {} [.start (failing .openCheckpointPool ⟨"PoolTimeout", ""⟩)]).resources.ended.map
      Prod.snd = [.closeClient, .closeCheckpointPool, .closePool .stateRuntime] := by
  rfl

/-- The client of the artifact store is opened, and no call closes it. -/
theorem minio_client_not_closed :
    ¬ ∀ (settings : BackendSettings) (calls : List RuntimeCall),
      ∀ h ∈ (after settings {} (calls ++ [.aclose])).resources.opened,
        ((after settings {} (calls ++ [.aclose])).resources.endings h).countP Closing.closes = 1 := by
  intro closes
  have once := closes { artifactBackend := .minio } [.start allOpen] ⟨.minioClient, 0⟩
    (List.mem_singleton.mpr rfl)
  cases once

end StateRuntime

end AgentRuntime.Lifecycle
