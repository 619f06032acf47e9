import AgentRuntime.Inventory.Service
import AgentRuntime.Lib.Run

/-!
# Moves of the deployment

What a move does: what the call of a client does to the list that the client keeps, what it brings to the
load that waits for it, and where a load goes. At most one load gathers its parts at any time, and its calls
of the clients want a fresh list.
-/

namespace AgentRuntime.Inventory
open State Mcp Llm Transition

/-- The load gathers its parts, under the lock. -/
def LoadPhase.Gathers : LoadPhase → Prop
  | .gathering .. => True
  | _ => False

/-- The load waits for the lock. -/
def LoadPhase.Waits : LoadPhase → Prop
  | .waiting .. => True
  | _ => False

namespace Deployment

section Lists

variable (service : InventoryService) (s : Deployment)

/-- The list that the client of the source keeps. -/
def cachedList : Source → Option (List JsonObject)
  | .ollama => s.models.modelsCache
  | .mcp => s.traffic.client.toolsCache

/-- When the client of the source stored it. -/
def cachedAt : Source → Time
  | .ollama => s.models.modelsCachedAt
  | .mcp => s.traffic.client.toolsCachedAt

/-- The step brings the answer of the server to the request of the call. -/
def fetches (id : Nat) : SourceInput → Bool
  | .models input => (fetchedModels (s.listings id) input).isSome
  | .tools input => (service.mcp.fetched s.traffic.client (s.traffic.phases id) input).isSome

/-- The step answers the call from the list that the client keeps. -/
def hits (id : Nat) (now : Time) : SourceInput → Bool
  | .models input => service.ollama.hits s.models now (s.listings id) input
  | .tools input => service.mcp.hits s.traffic.client now (s.traffic.phases id) input

/-- Where a list comes from that arrives now. -/
def arrived (id : Nat) (now : Time) : Source → Origin
  | .ollama => { fetchedAt := now }
  | .mcp => { fetchedAt := now, sentIn := s.marks.sentIn id }

/-- The call of the client goes on and wants a fresh list. -/
def strict (id : Nat) : Source → Prop
  | .ollama => (s.listings id).strict
  | .mcp => (s.traffic.phases id).strict

end Lists

/-- A call of a client goes on: the loads and the service stay as they are, and so do the other calls. -/
structure Framed (s s' : Deployment) (id : Nat) (source : Source) (now : Time) : Prop where
  clock : s'.traffic.clock = now
  service : s'.service = s.service
  loads : s'.loads = s.loads
  phases : ∀ id', id' ≠ id ∨ source ≠ .mcp → s'.traffic.phases id' = s.traffic.phases id'
  listings : ∀ id', id' ≠ id ∨ source ≠ .ollama → s'.listings id' = s.listings id'
  lists : ∀ source', source' ≠ source → s'.cachedList source' = s.cachedList source' ∧
    s'.cachedAt source' = s.cachedAt source' ∧ s'.marks.cachedFrom source' = s.marks.cachedFrom source'

/-- What a call of a client does to the list that the client keeps: it stores the answer of the server, or
    it drops the list or leaves it. -/
inductive ListStep (s s' : Deployment) (id : Nat) (source : Source) (now : Time) : Bool → Prop where
  | stored {list : List JsonObject} :
    s'.cachedList source = some list →
    s'.cachedAt source = now →
    s'.marks.cachedFrom source = s.arrived id now source →
    ListStep s s' id source now true
  | kept :
    s'.cachedList source = none ∨
      s'.cachedList source = s.cachedList source ∧ s'.cachedAt source = s.cachedAt source →
    s'.marks.cachedFrom source = s.marks.cachedFrom source →
    ListStep s s' id source now false

/-- What a call of a client brings to the load that waits for it: nothing yet, an error, the list that the
    client keeps, or a list that arrives now. -/
inductive Brings (service : InventoryService) (s s' : Deployment) (id : Nat) (now : Time)
    (input : SourceInput) : Option (Except String (List JsonObject × Option Origin)) → Prop where
  | nothing :
    s'.strict id input.source →
    Brings service s s' id now input none
  | error {text : String} :
    Brings service s s' id now input (some (.error text))
  | cached {list : List JsonObject} :
    s.hits service id now input = true →
    s.cachedList input.source = some list →
    Brings service s s' id now input (some (.ok (list, some (s.marks.cachedFrom input.source))))
  | fetched {list : List JsonObject} :
    s.fetches service id input = true →
    Brings service s s' id now input (some (.ok (list, some (s.arrived id now input.source))))

section Calls

variable {service : InventoryService} {s s' : Deployment} {id : Nat} {now : Time} {input : SourceInput}

/-- The call of the MCP client goes on as a call of its traffic. -/
lemma callSource_tools {input : ClientInput}
    (called : s.callSource service id now (.tools input) = some s') :
    ∃ client phase, service.mcp.advance id s.traffic.client now (s.traffic.phases id) input =
        some (client, phase) ∧
      s' = { s with
        traffic := ⟨now, client, Function.update s.traffic.phases id phase⟩
        marks := s.marked service id input now phase } := by
  simp only [callSource, Traffic.take] at called
  split at called
  · obtain ⟨traffic, taken, rfl⟩ := Option.map_eq_some_iff.mp called
    obtain ⟨⟨client, phase⟩, advanced, rfl⟩ := Option.map_eq_some_iff.mp taken
    refine ⟨client, phase, advanced, ?_⟩
    simp only [Function.update_self]
  · cases called

/-- The call of the other client goes on. -/
lemma callSource_models {input : ListingInput}
    (called : s.callSource service id now (.models input) = some s') :
    ∃ models listing, service.ollama.advance id s.models now (s.listings id) input =
        some (models, listing) ∧
      s' = { s with
        traffic := { s.traffic with clock := now }
        models := models
        listings := Function.update s.listings id listing
        marks := { s.marks with
          cachedFrom :=
            match fetchedModels (s.listings id) input with
            | some _ => Function.update s.marks.cachedFrom .ollama { fetchedAt := now }
            | none => s.marks.cachedFrom } } := by
  obtain ⟨⟨models, listing⟩, advanced, rfl⟩ := Option.map_eq_some_iff.mp called
  exact ⟨models, listing, advanced, rfl⟩

lemma callSource_framed (called : s.callSource service id now input = some s') :
    Framed s s' id input.source now := by
  cases input with
  | models input =>
    obtain ⟨models, listing, -, rfl⟩ := callSource_models called
    refine ⟨rfl, rfl, rfl, fun _ _ => rfl, fun id' other => ?_, fun source' other => ?_⟩
    · exact Function.update_of_ne (other.resolve_right fun ne => ne rfl) _ _
    · cases source' with
      | ollama => exact absurd rfl other
      | mcp =>
        refine ⟨rfl, rfl, ?_⟩
        cases fetchedModels (s.listings id) input <;> rfl
  | tools input =>
    obtain ⟨client, phase, -, rfl⟩ := callSource_tools called
    refine ⟨rfl, rfl, rfl, fun id' other => ?_, fun _ _ => rfl, fun source' other => ?_⟩
    · exact Function.update_of_ne (other.resolve_right fun ne => ne rfl) _ _
    · cases source' with
      | mcp => exact absurd rfl other
      | ollama =>
        refine ⟨rfl, rfl, ?_⟩
        simp only [marked]
        cases service.mcp.fetched s.traffic.client (s.traffic.phases id) input <;> rfl

lemma callSource_lists (called : s.callSource service id now input = some s') :
    ListStep s s' id input.source now (s.fetches service id input) := by
  cases input with
  | models input =>
    obtain ⟨models, listing, advanced, rfl⟩ := callSource_models called
    cases advance_models advanced with
    | stored fetched cache cachedAt =>
      simp only [fetches, fetched, Option.isSome_some]
      exact .stored cache cachedAt rfl
    | kept fetched same =>
      simp only [fetches, fetched, Option.isSome_none]
      exact .kept (.inr same) rfl
  | tools input =>
    obtain ⟨client, phase, advanced, rfl⟩ := callSource_tools called
    cases advance_tools advanced with
    | stored fetched _ stores =>
      simp only [fetches, fetched, Option.isSome_some]
      refine .stored stores.cache stores.cachedAt ?_
      simp only [marked, fetched]
      rfl
    | kept fetched cache =>
      simp only [fetches, fetched, Option.isSome_none]
      refine .kept cache ?_
      simp only [marked, fetched]

lemma hits_unfetched {client : MCPClient} {c : ClientState} {phase : Mcp.Phase} {input : ClientInput}
    (hits : client.hits c now phase input = true) : client.fetched c phase input = none := by
  unfold MCPClient.hits at hits
  split at hits
  · rfl
  · rfl
  · cases hits

lemma hits_unfetched_models {ollama : OllamaClient} {m : ModelsState} {listing : Listing}
    {input : ListingInput} (hits : ollama.hits m now listing input = true) :
    fetchedModels listing input = none := by
  unfold OllamaClient.hits at hits
  split at hits
  · rfl
  · rfl
  · cases hits

/-- What the call of a load brings, when it goes on. -/
lemma brings_tools {input : ClientInput} {client : ClientState} {phase : Mcp.Phase}
    (phases : s'.traffic.phases id = phase)
    (step : StrictStep service.mcp s.traffic.client now (s.traffic.phases id) input (client, phase)) :
    Brings service s s' id now (.tools input)
      (s'.answer id (s.originOf service id now (.tools input)) .mcp) := by
  simp only [answer, phases]
  cases step with
  | goes strict =>
    have nothing : Brings service s s' id now (.tools input) none := .nothing (by
      rw [SourceInput.source, Deployment.strict, phases]
      exact strict)
    cases phase with
    | done => exact strict.elim
    | _ => exact nothing
  | fails failed =>
    cases failed
    exact .error
  | hit hits list done =>
    cases done
    simp only [originOf, hits_unfetched hits, hits, if_true]
    exact .cached hits list
  | fetched fetched done =>
    cases done
    simp only [originOf, fetched]
    exact .fetched (by simp only [fetches, fetched, Option.isSome_some])

lemma brings_models {input : ListingInput} {listing : Listing} (listings : s'.listings id = listing)
    (step : StrictListing service.ollama s.models now (s.listings id) input listing) :
    Brings service s s' id now (.models input)
      (s'.answer id (s.originOf service id now (.models input)) .ollama) := by
  simp only [answer, listings]
  cases step with
  | goes strict =>
    have nothing : Brings service s s' id now (.models input) none := .nothing (by
      rw [SourceInput.source, Deployment.strict, listings]
      exact strict)
    cases listing with
    | done => exact strict.elim
    | _ => exact nothing
  | fails failed =>
    cases failed
    exact .error
  | hit hits list done =>
    cases done
    simp only [originOf, hits_unfetched_models hits, hits, if_true]
    exact .cached hits list
  | fetched fetched done =>
    cases done
    simp only [originOf, fetched]
    exact .fetched (by simp only [fetches, fetched, Option.isSome_some])

/-- The call of a load starts, or goes on. -/
def Wants (s : Deployment) (id : Nat) (input : SourceInput) : Prop :=
  (∃ forceRefresh source, input = SourceInput.listing forceRefresh source) ∨ s.strict id input.source

theorem callSource_brings (wants : s.Wants id input)
    (called : s.callSource service id now input = some s') :
    Brings service s s' id now input
      (s'.answer id (s.originOf service id now input) input.source) := by
  cases input with
  | models input =>
    obtain ⟨models, listing, advanced, rfl⟩ := callSource_models called
    refine brings_models (Function.update_self _ _ _) ?_
    obtain ⟨forceRefresh, source, starts⟩ | strict := wants
    · cases source with
      | mcp => cases starts
      | ollama =>
        cases starts
        obtain ⟨idle, step⟩ := begin_listing advanced
        rw [idle]
        exact step
    · exact advance_listing strict advanced
  | tools input =>
    obtain ⟨client, phase, advanced, rfl⟩ := callSource_tools called
    refine @brings_tools _ _ _ _ _ _ client _ (Function.update_self _ _ _) ?_
    obtain ⟨forceRefresh, source, starts⟩ | strict := wants
    · cases source with
      | ollama => cases starts
      | mcp =>
        cases starts
        obtain ⟨idle, step⟩ := begin_strict advanced
        rw [idle]
        exact step
    · exact advance_strict strict advanced

end Calls

/-- The call of a client that the move lets go on for a load. -/
def partCall (service : InventoryService) (s : Deployment) : Move → Option (Nat × SourceInput)
  | .start id source =>
    match s.loads id with
    | .gathering forceRefresh _ _ =>
      if service.enabled source then some (id, SourceInput.listing forceRefresh source) else none
    | _ => none
  | .source id input =>
    match s.loads id with
    | .gathering .. => some (id, input)
    | _ => none
  | _ => none

/-- What a part of a load goes on with: the empty list of a source that is not asked, or what its call of
    the client brings. -/
inductive PartStep (service : InventoryService) (s : Deployment) (id : Nat) (source : Source)
    (now : Time) (move : Move) (part : Part) : Deployment →
      Option (Except String (List JsonObject × Option Origin)) → Prop where
  | disabled :
    PartStep service s id source now move part { s with traffic := { s.traffic with clock := now } }
      (some (.ok ([], some ⟨now, s.marks.invalidations⟩)))
  | called {input : SourceInput} {s' : Deployment} :
    input.source = source →
    s.partCall service move = some (id, input) →
    (∃ forceRefresh, input = SourceInput.listing forceRefresh source) ∨ part = .calling →
    s.callSource service id now input = some s' →
    PartStep service s id source now move part s'
      (s'.answer id (s.originOf service id now input) source)

/-- What a move does: a load returns the lists of the service, waits for the lock, starts to gather its
    parts, goes on with one of them or returns what they brought, or another call of a client goes on. -/
inductive Moved (service : InventoryService) (s : Deployment) (now : Time) (move : Move) :
    Deployment → Prop where
  | snapshot {id : Nat} {calledAt : Time} {lock : FifoLock Nat} :
    s.loads id = .idle ∧ s.traffic.phases id = .idle ∧ calledAt = now ∧ lock = s.service.lock ∨
      (∃ forceRefresh, s.loads id = .waiting forceRefresh calledAt) ∧ s.service.lock.Holds id ∧
        lock = s.service.lock.leave id →
    service.bothFresh s.service now = true →
    Moved service s now move
      (s.put id now lock (.done (InventoryService.snapshot s.service calledAt now)))
  | waits {id : Nat} {forceRefresh : Bool} :
    s.loads id = .idle →
    s.traffic.phases id = .idle →
    Moved service s now move (s.put id now (s.service.lock.join id) (.waiting forceRefresh now))
  | enters {id : Nat} {forceRefresh : Bool} {calledAt : Time} {lock : FifoLock Nat} :
    s.loads id = .idle ∧ s.traffic.phases id = .idle ∧ calledAt = now ∧ s.service.lock.queue = [] ∧
        lock = s.service.lock.join id ∨
      s.loads id = .waiting forceRefresh calledAt ∧ s.service.lock.Holds id ∧ lock = s.service.lock →
    Moved service s now move (s.put id now lock (.gathering forceRefresh calledAt fun _ => .pending))
  | other {id : Nat} {input : SourceInput} {s' : Deployment} :
    s.loads id = .idle →
    move = .source id input →
    s.callSource service id now input = some s' →
    Moved service s now move s'
  | part {id : Nat} {source : Source} {forceRefresh : Bool} {calledAt : Time} {parts : Source → Part}
      {s' : Deployment} {answer : Option (Except String (List JsonObject × Option Origin))} :
    s.loads id = .gathering forceRefresh calledAt parts →
    PartStep service s id source now move (parts source) s' answer →
    Moved service s now move (s'.resume service id source now answer)
  | finish {id : Nat} {forceRefresh : Bool} {calledAt : Time} {parts : Source → Part}
      {loaded : Source → Loaded} :
    s.loads id = .gathering forceRefresh calledAt parts →
    (∀ source, parts source = .done (loaded source)) →
    Moved service s now move (s.put id now (s.service.lock.leave id)
      (.done (InventoryService.gathered s.service calledAt now loaded)))

section Moves

variable {service : InventoryService} {s s' : Deployment} {now : Time} {move : Move}

lemma call_part {id : Nat} {input : SourceInput} {part : Part}
    (called : s.call service id now input = some s') (asks : s.partCall service move = some (id, input))
    (starts : (∃ forceRefresh, input = SourceInput.listing forceRefresh input.source) ∨
      part = .calling) :
    ∃ s₁ answer, PartStep service s id input.source now move part s₁ answer ∧
      s' = s₁.resume service id input.source now answer := by
  obtain ⟨s₁, goes, rfl⟩ := Option.map_eq_some_iff.mp called
  exact ⟨s₁, _, .called rfl asks starts goes, rfl⟩

lemma listing_source (forceRefresh : Bool) (source : Source) :
    (SourceInput.listing forceRefresh source).source = source := by
  cases source <;> rfl

lemma isCalling_iff {part : Part} : part.isCalling = true ↔ part = .calling := by
  cases part <;> simp [Part.isCalling]

/-- A move is one of these. -/
theorem move_cases (moved : s.move service now move = some s') : Moved service s now move s' := by
  cases move with
  | load id forceRefresh =>
    simp only [Deployment.move] at moved
    split at moved
    · next idle uncalled _ =>
      split at moved
      · next fresh =>
        cases moved
        exact .snapshot (.inl ⟨idle, uncalled, rfl, rfl⟩) (Bool.and_eq_true_iff.mp fresh).2
      · split at moved
        · next free =>
          cases moved
          exact .enters (.inl ⟨idle, uncalled, rfl, free, rfl⟩)
        · cases moved
          exact .waits idle uncalled
    · cases moved
  | woken id =>
    simp only [Deployment.move] at moved
    split at moved
    · next forceRefresh calledAt waiting =>
      split at moved
      · next holds =>
        split at moved
        -- another load has renewed the snapshot in the meantime
        · next fresh =>
          cases moved
          exact .snapshot (.inr ⟨⟨_, waiting⟩, holds, rfl⟩) (Bool.and_eq_true_iff.mp fresh).2
        · cases moved
          exact .enters (.inr ⟨waiting, holds, rfl⟩)
      · cases moved
    · cases moved
  | start id source =>
    simp only [Deployment.move] at moved
    split at moved
    · next forceRefresh calledAt parts gathering =>
      split at moved
      · split at moved
        · next enabled =>
          have asks : s.partCall service (.start id source) =
              some (id, SourceInput.listing forceRefresh source) := by
            simp only [partCall, gathering, enabled, if_true]
          have starts : (∃ force, SourceInput.listing forceRefresh source =
              SourceInput.listing force (SourceInput.listing forceRefresh source).source) ∨
              parts source = .calling := .inl ⟨forceRefresh, by rw [listing_source]⟩
          obtain ⟨s₁, answer, step, rfl⟩ := call_part moved asks starts
          rw [listing_source] at step ⊢
          exact .part gathering step
        · cases moved
          -- a source that is disabled is not asked
          exact .part gathering .disabled
      · cases moved
    · cases moved
  | source id input =>
    simp only [Deployment.move] at moved
    split at moved
    -- a call from elsewhere than a load
    · next idle => exact .other idle rfl moved
    · next gathering =>
      split at moved
      · next calling =>
        have waits := isCalling_iff.mp (Bool.and_eq_true_iff.mp calling).1
        have asks : s.partCall service (.source id input) = some (id, input) := by
          simp only [partCall, gathering]
        obtain ⟨s₁, answer, step, rfl⟩ := call_part moved asks (.inr waits)
        exact .part gathering step
      · cases moved
    · cases moved
  | finish id =>
    simp only [Deployment.move] at moved
    split at moved
    · next gathering =>
      split at moved
      · next models tools modelsDone toolsDone =>
        cases moved
        refine .finish gathering fun source => ?_
        cases source with
        | ollama => exact modelsDone
        | mcp => exact toolsDone
      · cases moved
    · cases moved

lemma Step.moved {go : Move × Time} (st : Step service s go s') :
    s.traffic.clock ≤ go.2 ∧ Moved service s go.2 go.1 s' := by
  have taken : s.take service go = some s' := st
  unfold take at taken
  split at taken
  · next later => exact ⟨later, move_cases taken⟩
  · cases taken

end Moves

section Order

variable {service : InventoryService} {s s' : Deployment} {now : Time} {move : Move}

/-- The loads pass the lock one after the other, and the calls of the one that gathers its parts want a
    fresh list. -/
structure Orderly (s : Deployment) : Prop where
  serves : s.service.lock.Serves (fun id => (s.loads id).Gathers) fun id => (s.loads id).Waits
  calls : ∀ id forceRefresh calledAt parts, s.loads id = .gathering forceRefresh calledAt parts →
    ∀ source, parts source = .calling → s.strict id source

lemma Orderly.start (clock : Time) : Orderly (start service clock) where
  serves := .empty (fun _ => id) fun _ => id
  calls := nofun

/-- Only one load gathers its parts. -/
lemma Orderly.unique (orderly : Orderly s) {id id' : Nat} (gathers : (s.loads id).Gathers)
    (gathers' : (s.loads id').Gathers) : id = id' :=
  orderly.serves.unique gathers gathers'

/-- A load goes to a place at which it waits for no client. -/
lemma Orderly.put (orderly : Orderly s) {id : Nat} {lock : FifoLock Nat} {phase : LoadPhase}
    (serves : lock.Serves (fun id' => (Function.update s.loads id phase id').Gathers)
      fun id' => (Function.update s.loads id phase id').Waits)
    (still : ∀ forceRefresh calledAt parts, phase = .gathering forceRefresh calledAt parts →
      ∀ source, parts source ≠ .calling) : Orderly (s.put id now lock phase) where
  serves := serves
  calls id' forceRefresh calledAt parts gathering source calling := by
    by_cases own : id' = id
    · subst own
      exact absurd calling (still _ _ _ ((Function.update_self ..).symm.trans gathering) source)
    · exact orderly.calls id' _ _ _ ((Function.update_of_ne own ..).symm.trans gathering) source calling

lemma PartStep.framed {id : Nat} {source : Source} {part : Part}
    {answer : Option (Except String (List JsonObject × Option Origin))}
    (step : PartStep service s id source now move part s' answer) : Framed s s' id source now := by
  cases step with
  | disabled => exact ⟨rfl, rfl, rfl, fun _ _ => rfl, fun _ _ => rfl, fun _ _ => ⟨rfl, rfl, rfl⟩⟩
  | called same _ _ goes => exact same ▸ callSource_framed goes

/-- The calls of the clients go on as they are, but for one. -/
lemma Framed.strict {id id' : Nat} {source source' : Source} (framed : Framed s s' id source now)
    (other : id' ≠ id ∨ source' ≠ source) : s'.strict id' source' ↔ s.strict id' source' := by
  cases source' with
  | ollama => rw [Deployment.strict, Deployment.strict, framed.listings id' (other.imp_right Ne.symm)]
  | mcp => rw [Deployment.strict, Deployment.strict, framed.phases id' (other.imp_right Ne.symm)]

/-- What a part of a load goes on to. -/
lemma resume_eq {id : Nat} {source : Source} {forceRefresh : Bool} {calledAt : Time}
    {parts : Source → Part} (gathering : s.loads id = .gathering forceRefresh calledAt parts)
    (answer : Option (Except String (List JsonObject × Option Origin))) :
    s.resume service id source now answer =
      match answer with
      | none =>
        { s with
          loads := Function.update s.loads id
            (.gathering forceRefresh calledAt (Function.update parts source .calling)) }
      | some answer =>
        { s with
          service := { s.service with
            sources := Function.update s.service.sources source
              (service.loaded (s.service.sources source) now answer).1 }
          loads := Function.update s.loads id (.gathering forceRefresh calledAt
            (Function.update parts source
              (.done (service.loaded (s.service.sources source) now answer).2))) } := by
  cases answer with
  | none => simp only [resume, gathering]
  | some answer => simp only [resume, gathering]

lemma Orderly.part (orderly : Orderly s) {id : Nat} {source : Source} {forceRefresh : Bool}
    {calledAt : Time} {parts : Source → Part}
    {answer : Option (Except String (List JsonObject × Option Origin))}
    (gathering : s.loads id = .gathering forceRefresh calledAt parts)
    (step : PartStep service s id source now move (parts source) s' answer) :
    Orderly (s'.resume service id source now answer) := by
  have framed := step.framed
  have gathering' : s'.loads id = .gathering forceRefresh calledAt parts :=
    (congrFun framed.loads id).trans gathering
  have serves (part : Part) : s'.service.lock.Serves
      (fun id' => (Function.update s'.loads id
        (.gathering forceRefresh calledAt (Function.update parts source part)) id').Gathers)
      fun id' => (Function.update s'.loads id
        (.gathering forceRefresh calledAt (Function.update parts source part)) id').Waits := by
    rw [framed.service, framed.loads]
    refine orderly.serves.congr fun id' => ?_
    by_cases own : id' = id
    · rw [own, Function.update_self, gathering]
      exact ⟨.rfl, .rfl⟩
    · rw [Function.update_of_ne own]
      exact ⟨.rfl, .rfl⟩
  have calls (part : Part) (strict : part = .calling → s'.strict id source) (id' : Nat)
      (forceRefresh' : Bool) (calledAt' : Time) (parts' : Source → Part)
      (gathering'' : Function.update s'.loads id (.gathering forceRefresh calledAt
        (Function.update parts source part)) id' = .gathering forceRefresh' calledAt' parts')
      (source' : Source) (calling : parts' source' = .calling) : s'.strict id' source' := by
    by_cases own : id' = id
    · subst own
      rw [Function.update_self] at gathering''
      cases gathering''
      by_cases same : source' = source
      · subst same
        rw [Function.update_self] at calling
        exact strict calling
      · rw [Function.update_of_ne same] at calling
        exact (framed.strict (.inr same)).mpr (orderly.calls _ _ _ _ gathering _ calling)
    · rw [Function.update_of_ne own, framed.loads] at gathering''
      exact (framed.strict (.inl own)).mpr (orderly.calls _ _ _ _ gathering'' _ calling)
  rw [resume_eq gathering']
  cases step with
  | disabled => exact ⟨serves _, calls _ nofun⟩
  | @called input _ same _ starts goes =>
    -- the call of the client is made for a load, which takes no stale list
    have wants : s.Wants id input := by
      obtain ⟨forceRefresh, starts⟩ | waits := starts
      · exact .inl ⟨forceRefresh, source, starts⟩
      · exact .inr (same ▸ orderly.calls _ _ _ _ gathering _ waits)
    have brings := callSource_brings wants goes
    rw [same] at brings
    cases answer' : s'.answer id (s.originOf service id now input) source with
    | none =>
      rw [answer'] at brings
      cases brings with
      | nothing strict => exact ⟨serves _, calls _ fun _ => same ▸ strict⟩
    | some answer => exact ⟨serves _, calls _ nofun⟩

theorem Orderly.step (orderly : Orderly s) (moved : Moved service s now move s') : Orderly s' := by
  have others {id : Nat} (phase : LoadPhase) (id' : Nat) (ne : id' ≠ id) :
      ((Function.update s.loads id phase id').Gathers ↔ (s.loads id').Gathers) ∧
        ((Function.update s.loads id phase id').Waits ↔ (s.loads id').Waits) := by
    rw [Function.update_of_ne ne]
    exact ⟨.rfl, .rfl⟩
  cases moved with
  | @snapshot id calledAt lock called fresh =>
    refine orderly.put ?_ nofun
    obtain ⟨idle, -, -, rfl⟩ | ⟨-, -, rfl⟩ := called
    -- answered without the lock, or with it
    · refine orderly.serves.congr fun id' => ?_
      by_cases own : id' = id
      · rw [own, Function.update_self, idle]
        exact ⟨.rfl, .rfl⟩
      · exact others _ _ own
    · refine orderly.serves.leave (others _) ?_
      rw [Function.update_self]
      exact ⟨False.elim, False.elim⟩
  | @waits id forceRefresh idle _ =>
    refine orderly.put ?_ nofun
    refine orderly.serves.join ?_ (others _) (.inr ?_)
    · rw [idle]
      exact ⟨False.elim, False.elim⟩
    · rw [Function.update_self]
      exact ⟨False.elim, trivial⟩
  | @enters id forceRefresh calledAt lock called =>
    refine orderly.put ?_ fun _ _ _ same => ?_
    · obtain ⟨idle, -, -, free, rfl⟩ | ⟨waiting, holds, rfl⟩ := called
      · refine orderly.serves.join ?_ (others _) (.inl ⟨free, ?_⟩)
        · rw [idle]
          exact ⟨False.elim, False.elim⟩
        · rw [Function.update_self]
          trivial
      · refine orderly.serves.enter holds (others _) ?_
        rw [Function.update_self]
        exact ⟨trivial, False.elim⟩
    · cases same
      exact nofun
  | @other id input s' idle _ called =>
    have framed := callSource_framed called
    refine ⟨?_, fun id' forceRefresh calledAt parts gathering source calling => ?_⟩
    · rw [framed.service, framed.loads]
      exact orderly.serves
    · rw [framed.loads] at gathering
      have ne : id' ≠ id := by
        rintro rfl
        cases idle.symm.trans gathering
      exact (framed.strict (.inl ne)).mpr (orderly.calls _ _ _ _ gathering _ calling)
  | part gathering step => exact orderly.part gathering step
  | @finish id forceRefresh calledAt parts loaded gathering done =>
    refine orderly.put ?_ nofun
    refine orderly.serves.leave (others _) ?_
    rw [Function.update_self]
    exact ⟨False.elim, False.elim⟩

end Order

end Deployment

end AgentRuntime.Inventory
