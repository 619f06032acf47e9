import AgentRuntime.Inventory.Loads
import AgentRuntime.Inventory.Staleness

/-!
# Invalidations of the tool list

The MCP client drops its tool list when the server notifies that it has changed, and when the session
expires. Nobody tells the service, which serves its own copy as long as it is fresh, and a request for a
tool list that is in flight at that moment brings the old list afterwards. Unless an invalidation meets
one of the two, no later call returns a list that was asked for before it.
-/

namespace AgentRuntime.Inventory
open State Mcp Llm Transition

/-- What a part of a load has got was asked for after the invalidations before the call. -/
def Loaded.Asked (loaded : Loaded) (startedIn : Nat) : Prop :=
  loaded.error = none → ∃ origin, loaded.origin = some origin ∧ startedIn ≤ origin.sentIn

/-- The list of the source was asked for after the last of these invalidations. -/
def SourceCache.Latest (source : SourceCache) (invalidations : Nat) : Prop :=
  ∃ origin, source.origin = some origin ∧ origin.sentIn = invalidations

namespace Deployment

/-- The client processes an invalidation while a request for a tool list is in flight, other than the one
    that is answered with the expiry, or while the service keeps a tool list that is fresh. -/
def Loses (service : InventoryService) (s : Deployment) (go : Move × Time) : Prop :=
  ∃ id input, go.1 = .source id (.tools input) ∧
    service.mcp.invalidates s.traffic.client (s.traffic.phases id) input = true ∧
    ((∃ id', (s.traffic.phases id').asking = true ∧
        ¬ (id' = id ∧ service.mcp.seesExpiry s.traffic.client (s.traffic.phases id) input = true)) ∨
      service.sourceFresh (s.service.sources .mcp) go.2 = true)

/-- A call returns no tool list that was asked for before an invalidation that the client had processed
    when the call was made. -/
structure Heeds (s : Deployment) : Prop where
  lists : ∀ id tools origin, s.traffic.phases id = .done (.ok (.tools tools)) →
    s.marks.listed id = some origin → s.marks.startedIn id ≤ origin.sentIn
  loads : ∀ id returned, s.loads id = .done returned → ¬ returned.inventory.Failed .mcp →
    ∃ origin, returned.origin .mcp = some origin ∧ s.marks.startedIn id ≤ origin.sentIn

section Client

variable {service : InventoryService} {s s' : Deployment} {id : Nat} {now : Time}

/-- The list of the client, and every list that is in flight, was asked for after the last invalidation. -/
structure Latest (s : Deployment) : Prop where
  cached : ∀ tools, s.traffic.client.toolsCache = some tools →
    (s.marks.cachedFrom .mcp).sentIn = s.marks.invalidations
  asking : ∀ id, (s.traffic.phases id).asking = true → s.marks.sentIn id = s.marks.invalidations
  started : ∀ id, s.marks.startedIn id ≤ s.marks.invalidations
  listed : ∀ id tools origin, s.traffic.phases id = .done (.ok (.tools tools)) →
    s.marks.listed id = some origin → s.marks.startedIn id ≤ origin.sentIn

lemma Latest.start (clock : Time) : Latest (start service clock) where
  cached := nofun
  asking _ := nofun
  started _ := Nat.le_refl _
  listed _ _ _ := nofun

/-- No request for a tool list is in flight when this call processes an invalidation, but for its own when
    that is the expiry. -/
def Alone (service : InventoryService) (s : Deployment) (id : Nat) (input : ClientInput) : Prop :=
  service.mcp.invalidates s.traffic.client (s.traffic.phases id) input = true →
    ∀ id', (s.traffic.phases id').asking = true →
      id' = id ∧ service.mcp.seesExpiry s.traffic.client (s.traffic.phases id) input = true

lemma opened_silent {client : MCPClient} {c : ClientState} {phase : Mcp.Phase} :
    client.invalidates c phase (.opened none) = false := by
  cases phase with
  | exchanging task stage exchange delivery => cases delivery <;> rfl
  | _ => rfl

lemma hits_silent {client : MCPClient} {c : ClientState} {phase : Mcp.Phase} {input : ClientInput}
    (hits : client.hits c now phase input = true) : client.invalidates c phase input = false := by
  unfold MCPClient.hits at hits
  split at hits
  · rfl
  · rfl
  · cases hits

/-- An answer that brings a list comes with no invalidation. -/
lemma Alone.silent {input : ClientInput} {tools : List JsonObject} (alone : s.Alone service id input)
    (fetched : service.mcp.fetched s.traffic.client (s.traffic.phases id) input = some tools)
    (asking : (s.traffic.phases id).asking = true) :
    service.mcp.invalidates s.traffic.client (s.traffic.phases id) input = false := by
  refine Bool.eq_false_iff.mpr fun heard => ?_
  cases (fetched_unexpired fetched).symm.trans (alone heard id asking).2

lemma invalidations_eq {input : ClientInput} {phase : Mcp.Phase}
    (silent : service.mcp.invalidates s.traffic.client (s.traffic.phases id) input = false) :
    (s.marked service id input now phase).invalidations = s.marks.invalidations := by
  simp only [marked, silent, Bool.false_eq_true, if_false, Nat.add_zero]

lemma le_invalidations {input : ClientInput} {phase : Mcp.Phase} :
    s.marks.invalidations ≤ (s.marked service id input now phase).invalidations := Nat.le_add_right _ _

/-- A call that no load makes starts after all the invalidations so far. -/
lemma startedIn_cases {input : ClientInput} {phase : Mcp.Phase} :
    (s.marked service id input now phase).startedIn = s.marks.startedIn ∨
      (s.marked service id input now phase).startedIn =
        Function.update s.marks.startedIn id s.marks.invalidations := by
  simp only [marked]
  cases s.loads id with
  | idle =>
    cases s.traffic.phases id with
    | idle => exact .inr rfl
    | _ => exact .inl rfl
  | _ => exact .inl rfl

lemma startedIn_le (latest : Latest s) {input : ClientInput} {phase : Mcp.Phase} (id' : Nat) :
    (s.marked service id input now phase).startedIn id' ≤ s.marks.invalidations := by
  obtain same | starts := @startedIn_cases service s id now input phase
  · rw [same]
    exact latest.started id'
  · rw [starts]
    by_cases own : id' = id
    · rw [own, Function.update_self]
    · rw [Function.update_of_ne own]
      exact latest.started id'

lemma startedIn_other {input : ClientInput} {phase : Mcp.Phase} {id' : Nat} (ne : id' ≠ id) :
    (s.marked service id input now phase).startedIn id' = s.marks.startedIn id' := by
  obtain same | starts := @startedIn_cases service s id now input phase
  · rw [same]
  · rw [starts, Function.update_of_ne ne]

lemma sentIn_eq {input : ClientInput} {phase : Mcp.Phase} (id' : Nat) :
    (s.marked service id input now phase).sentIn id' =
      if phase.asking && !(s.traffic.phases id).asking && id' = id then s.marks.invalidations
      else s.marks.sentIn id' := by
  simp only [marked]
  by_cases own : id' = id
  · subst own
    split
    · next begins => simp [begins]
    · next goes => simp [Bool.eq_false_iff.mpr goes]
  · split
    · simp [own]
    · simp [own]

lemma hits_some {client : MCPClient} {c : ClientState} {phase : Mcp.Phase} {input : ClientInput}
    (hits : client.hits c now phase input = true) : ∃ tools, c.toolsCache = some tools := by
  unfold MCPClient.hits at hits
  split at hits
  · exact ⟨_, toolsFresh_some hits⟩
  · exact ⟨_, toolsFresh_some hits⟩
  · cases hits

/-- The list that the client keeps was asked for after the last invalidation, when a call returns it. -/
lemma Latest.hit (latest : Latest s) {input : ClientInput} {phase : Mcp.Phase}
    (hits : service.mcp.hits s.traffic.client now (s.traffic.phases id) input = true) :
    (s.marks.cachedFrom .mcp).sentIn = (s.marked service id input now phase).invalidations := by
  obtain ⟨tools, cached⟩ := hits_some hits
  rw [invalidations_eq (hits_silent hits)]
  exact latest.cached tools cached

/-- So was a list that arrives. -/
lemma Latest.arrival (latest : Latest s) {input : ClientInput} {client : ClientState} {phase : Mcp.Phase}
    {tools : List JsonObject} (alone : s.Alone service id input)
    (advanced : service.mcp.advance id s.traffic.client now (s.traffic.phases id) input =
      some (client, phase))
    (fetched : service.mcp.fetched s.traffic.client (s.traffic.phases id) input = some tools) :
    s.marks.sentIn id = (s.marked service id input now phase).invalidations := by
  cases advance_tools advanced with
  | stored _ asking _ =>
    rw [invalidations_eq (alone.silent fetched asking)]
    exact latest.asking id asking
  | kept none => cases fetched.symm.trans none

/-- And so was every list that a call returns. -/
lemma Latest.origin (latest : Latest s) {input : ClientInput} {client : ClientState} {phase : Mcp.Phase}
    (alone : s.Alone service id input)
    (advanced : service.mcp.advance id s.traffic.client now (s.traffic.phases id) input =
      some (client, phase)) {origin : Origin}
    (returns : s.originOf service id now (.tools input) = some origin) :
    origin.sentIn = (s.marked service id input now phase).invalidations := by
  simp only [originOf] at returns
  cases fetched : service.mcp.fetched s.traffic.client (s.traffic.phases id) input with
  | some tools =>
    rw [fetched] at returns
    cases returns
    exact latest.arrival alone advanced fetched
  | none =>
    rw [fetched] at returns
    simp only at returns
    split at returns
    · next hits =>
      cases returns
      exact latest.hit hits
    · cases returns

/-- A call whose request is in flight behind a step that processes no invalidation. -/
lemma Alone.quiet {input : ClientInput} {client : ClientState} {phase : Mcp.Phase}
    (alone : s.Alone service id input)
    (advanced : service.mcp.advance id s.traffic.client now (s.traffic.phases id) input =
      some (client, phase)) {id' : Nat}
    (asking : (Function.update s.traffic.phases id phase id').asking = true) :
    service.mcp.invalidates s.traffic.client (s.traffic.phases id) input = false := by
  by_cases own : id' = id
  · subst own
    rw [Function.update_self] at asking
    cases advance_tools advanced with
    | stored _ _ stores =>
      have done : phase = _ := stores.returns
      rw [done] at asking
      cases asking
    | kept _ _ _ expires asks =>
      obtain before | opened := asks asking
      · refine Bool.eq_false_iff.mpr fun heard => ?_
        cases asking.symm.trans (expires (alone heard id' before).2)
      · rw [opened]
        exact opened_silent
  · rw [Function.update_of_ne own] at asking
    refine Bool.eq_false_iff.mpr fun heard => ?_
    exact own (alone heard id' asking).1

/-- A call of the MCP client keeps all this, unless it processes an invalidation while a request is in
    flight. -/
lemma Latest.callSource (latest : Latest s) {input : ClientInput} (alone : s.Alone service id input)
    (called : s.callSource service id now (.tools input) = some s') : Latest s' := by
  obtain ⟨client, phase, advanced, rfl⟩ := callSource_tools called
  have step := advance_tools advanced
  refine ⟨fun tools cached => ?_, fun id' asking => ?_, fun id' => ?_, fun id' tools origin done from' => ?_⟩
  · cases step with
    | stored fetched asking stores =>
      simp only [marked, fetched, Function.update_self]
      exact latest.arrival alone advanced fetched
    | kept fetched cache heard =>
      simp only [marked, fetched]
      cases invalid : service.mcp.invalidates s.traffic.client (s.traffic.phases id) input with
      | true => cases (heard invalid).symm.trans cached
      | false =>
        obtain none | ⟨same, -⟩ := cache
        · cases none.symm.trans cached
        · exact latest.cached tools (same.symm.trans cached)
  · have silent := alone.quiet advanced asking
    simp only at asking ⊢
    rw [sentIn_eq, invalidations_eq silent]
    split
    · rfl
    · next goes =>
      refine latest.asking id' ?_
      by_cases own : id' = id
      · subst own
        rw [Function.update_self] at asking
        simpa [asking] using goes
      · rwa [Function.update_of_ne own] at asking
  · exact (startedIn_le latest id').trans le_invalidations
  · simp only at done from' ⊢
    by_cases own : id' = id
    · subst own
      simp only [marked, Function.update_self] at from'
      have last : origin.sentIn = (s.marked service id' input now phase).invalidations :=
        latest.origin alone advanced from'
      rw [last]
      exact (startedIn_le latest id').trans le_invalidations
    · rw [Function.update_of_ne own] at done
      simp only [marked, Function.update_of_ne own] at from'
      rw [startedIn_other own]
      exact latest.listed id' tools origin done from'

end Client

section Runs

variable {service : InventoryService} {s s' : Deployment} {id : Nat} {now : Time} {move : Move}

/-- The list of the service, while it is fresh, was asked for after the last invalidation, and what a load
    has got or returned was asked for after the invalidations before its call. -/
structure Heeding (service : InventoryService) (s : Deployment) : Prop where
  orderly : Orderly s
  latest : Latest s
  source : service.sourceFresh (s.service.sources .mcp) s.traffic.clock = true →
    (s.service.sources .mcp).Latest s.marks.invalidations
  gathered : ∀ id forceRefresh calledAt parts loaded,
    s.loads id = .gathering forceRefresh calledAt parts → parts .mcp = .done loaded →
    loaded.Asked (s.marks.startedIn id)
  returned : ∀ id returned, s.loads id = .done returned → ¬ returned.inventory.Failed .mcp →
    ∃ origin, returned.origin .mcp = some origin ∧ s.marks.startedIn id ≤ origin.sentIn

lemma Heeding.start (clock : Time) : Heeding service (start service clock) where
  orderly := .start clock
  latest := .start clock
  source := nofun
  gathered := nofun
  returned := nofun

lemma sourceFresh_mono {source : SourceCache} {clock : Time} (later : clock ≤ now)
    (fresh : service.sourceFresh source now = true) : service.sourceFresh source clock = true := by
  obtain ⟨value, young⟩ := Bool.and_eq_true_iff.mp fresh
  refine Bool.and_eq_true_iff.mpr ⟨value, decide_eq_true ?_⟩
  exact Int.le_trans (Int.sub_le_sub_right later _) (of_decide_eq_true young)

section Puts

variable {lock : FifoLock Nat} {phase : LoadPhase}

lemma put_startedIn_other {id' : Nat} (ne : id' ≠ id) :
    (s.put id now lock phase).marks.startedIn id' = s.marks.startedIn id' := by
  simp only [put]
  cases s.loads id with
  | idle => exact Function.update_of_ne ne ..
  | _ => rfl

lemma put_startedIn_load (called : s.loads id ≠ .idle) :
    (s.put id now lock phase).marks.startedIn = s.marks.startedIn := by
  cases place : s.loads id with
  | idle => exact absurd place called
  | _ => simp only [put, place]

lemma put_startedIn_le (latest : Latest s) (id' : Nat) :
    (s.put id now lock phase).marks.startedIn id' ≤ s.marks.invalidations := by
  by_cases own : id' = id
  · subst own
    simp only [put]
    cases s.loads id' with
    | idle => simp only [Function.update_self, Nat.le_refl]
    | _ => exact latest.started id'
  · rw [put_startedIn_other own]
    exact latest.started id'

/-- A load goes to another place, with the lists as they are. -/
lemma Heeding.put (heeding : Heeding service s) (orderly : Orderly (s.put id now lock phase))
    (later : s.traffic.clock ≤ now) (uncalled : s.loads id = .idle → s.traffic.phases id = .idle)
    (gathered : ∀ forceRefresh calledAt parts, phase = .gathering forceRefresh calledAt parts →
      parts .mcp = .pending)
    (returned : ∀ returned, phase = .done returned → ¬ returned.inventory.Failed .mcp →
      ∃ origin, returned.origin .mcp = some origin ∧
        (s.put id now lock phase).marks.startedIn id ≤ origin.sentIn) :
    Heeding service (s.put id now lock phase) where
  orderly := orderly
  latest := {
    cached := heeding.latest.cached
    asking := heeding.latest.asking
    started := put_startedIn_le heeding.latest
    listed := fun id' tools origin done from' => by
      have before := heeding.latest.listed id' tools origin done from'
      by_cases own : id' = id
      · subst own
        have called : s.loads id' ≠ .idle := fun idle => by
          cases (uncalled idle).symm.trans done
        rwa [put_startedIn_load called]
      · rwa [put_startedIn_other own] }
  source fresh := heeding.source (sourceFresh_mono later fresh)
  gathered id' forceRefresh calledAt parts loaded gathers done := by
    by_cases own : id' = id
    · subst own
      have pending := gathered _ _ _ ((Function.update_self ..).symm.trans gathers)
      cases pending.symm.trans done
    · rw [put_startedIn_other own]
      exact heeding.gathered id' _ _ _ _ ((Function.update_of_ne own ..).symm.trans gathers) done
  returned id' returned' returns fine := by
    by_cases own : id' = id
    · subst own
      exact returned _ ((Function.update_self ..).symm.trans returns) fine
    · rw [put_startedIn_other own]
      exact heeding.returned id' _ ((Function.update_of_ne own ..).symm.trans returns) fine

end Puts

/-- The step processes no invalidation that gets lost. -/
lemma alone_of_kept {go : Move × Time} {input : ClientInput} (kept : ¬ s.Loses service go)
    (goes : go.1 = .source id (.tools input)) : s.Alone service id input := by
  intro heard id' asking
  by_contra other
  exact kept ⟨id, input, goes, heard, .inl ⟨id', asking, other⟩⟩

/-- A call of a client that loses no invalidation: what is kept of the lists, and what is brought. -/
structure Calls (service : InventoryService) (s s' : Deployment) (id : Nat) (now : Time)
    (input : SourceInput) : Prop where
  latest : Latest s'
  source : service.sourceFresh (s.service.sources .mcp) now = true →
    (s.service.sources .mcp).Latest s'.marks.invalidations
  startedIn : ∀ id', s.loads id' ≠ .idle → s'.marks.startedIn id' = s.marks.startedIn id'
  cached : input.source = .mcp → s.hits service id now input = true →
    (s.marks.cachedFrom .mcp).sentIn = s'.marks.invalidations
  arrived : input.source = .mcp → s.fetches service id input = true →
    (s.arrived id now .mcp).sentIn = s'.marks.invalidations

lemma Heeding.calls (heeding : Heeding service s) {input : SourceInput} (later : s.traffic.clock ≤ now)
    (alone : ∀ input', input = .tools input' → s.Alone service id input' ∧
      (service.mcp.invalidates s.traffic.client (s.traffic.phases id) input' = true →
        service.sourceFresh (s.service.sources .mcp) now = false))
    (called : s.callSource service id now input = some s') : Calls service s s' id now input := by
  cases input with
  | models input =>
    obtain ⟨models, listing, -, rfl⟩ := callSource_models called
    refine ⟨⟨fun tools cached => ?_, heeding.latest.asking, heeding.latest.started,
      heeding.latest.listed⟩, fun fresh => heeding.source (sourceFresh_mono later fresh), fun _ _ => rfl,
      nofun, nofun⟩
    simp only
    cases fetchedModels (s.listings id) input <;> exact heeding.latest.cached tools cached
  | tools input =>
    obtain ⟨alone, heard⟩ := alone input rfl
    have latest := heeding.latest.callSource alone called
    obtain ⟨client, phase, advanced, rfl⟩ := callSource_tools called
    refine ⟨latest, fun fresh => ?_, fun id' load => ?_, fun _ hits => heeding.latest.hit hits,
      fun _ fetches => ?_⟩
    · cases invalid : service.mcp.invalidates s.traffic.client (s.traffic.phases id) input with
      | true => cases fresh.symm.trans (heard invalid)
      | false =>
        rw [invalidations_eq invalid]
        exact heeding.source (sourceFresh_mono later fresh)
    · by_cases own : id' = id
      · subst own
        simp only [marked]
        cases place : s.loads id' with
        | idle => exact absurd place load
        | _ => rfl
      · exact startedIn_other own
    · obtain ⟨tools, fetched⟩ := Option.isSome_iff_exists.mp fetches
      exact heeding.latest.arrival alone advanced fetched

lemma call_silent {client : MCPClient} {c : ClientState} {phase : Mcp.Phase} {operation : Operation} :
    client.invalidates c phase (.call operation) = false := by
  cases phase with
  | exchanging task stage exchange delivery => cases delivery <;> rfl
  | _ => rfl

/-- The call of a part processes no invalidation that gets lost. -/
lemma partCall_kept {input : ClientInput} (kept : ¬ s.Loses service (move, now))
    (asks : s.partCall service move = some (id, .tools input)) : s.Alone service id input ∧
      (service.mcp.invalidates s.traffic.client (s.traffic.phases id) input = true →
        service.sourceFresh (s.service.sources .mcp) now = false) := by
  cases move with
  | start id' source =>
    simp only [partCall] at asks
    split at asks
    · split at asks
      · cases source with
        | ollama => cases asks
        | mcp =>
          cases asks
          refine ⟨fun heard => ?_, fun heard => ?_⟩
          · cases call_silent.symm.trans heard
          · cases call_silent.symm.trans heard
      · cases asks
    · cases asks
  | source id' input' =>
    simp only [partCall] at asks
    split at asks
    · cases asks
      refine ⟨alone_of_kept kept rfl, fun heard => Bool.eq_false_iff.mpr fun fresh => ?_⟩
      exact kept ⟨id, input, rfl, heard, .inr fresh⟩
    · cases asks
  | _ => cases asks

/-- A part of a load went on, and the tool list of the service is still the last one. -/
lemma Heeding.resumed (heeding : Heeding service s) {source : Source} {forceRefresh : Bool}
    {calledAt : Time} {parts : Source → Part} {part : Part} {cache : SourceCache}
    (orderly : Orderly s') (latest : Latest s')
    (startedIn : ∀ id', s.loads id' ≠ .idle → s'.marks.startedIn id' = s.marks.startedIn id')
    (gathering : s.loads id = .gathering forceRefresh calledAt parts)
    (loads : s'.loads = Function.update s.loads id
      (.gathering forceRefresh calledAt (Function.update parts source part)))
    (sources : s'.service.sources = Function.update s.service.sources source cache)
    (other : service.sourceFresh (s.service.sources .mcp) s'.traffic.clock = true →
      (s.service.sources .mcp).Latest s'.marks.invalidations)
    (own : source = .mcp → service.sourceFresh cache s'.traffic.clock = true →
      cache.Latest s'.marks.invalidations)
    (brought : source = .mcp → ∀ loaded, part = .done loaded →
      loaded.Asked (s'.marks.startedIn id)) :
    Heeding service s' where
  orderly := orderly
  latest := latest
  source := by
    rw [sources]
    by_cases same : source = .mcp
    · subst same
      rw [Function.update_self]
      exact own rfl
    · rw [Function.update_of_ne (Ne.symm same)]
      exact other
  gathered id' forceRefresh' calledAt' parts' loaded gathers done := by
    -- only the holder of the lock gathers
    have one : id' = id := by
      refine orderly.unique ?_ ?_
      · rw [gathers]
        trivial
      · rw [loads, Function.update_self]
        trivial
    rw [loads, one, Function.update_self] at gathers
    cases gathers
    rw [one]
    by_cases same : source = .mcp
    · subst same
      rw [Function.update_self] at done
      exact brought rfl loaded done
    · rw [Function.update_of_ne (Ne.symm same)] at done
      rw [startedIn id (by rw [gathering]; nofun)]
      exact heeding.gathered id _ _ _ loaded gathering done
  returned id' returned' returns fine := by
    rw [loads] at returns
    by_cases same : id' = id
    · rw [same, Function.update_self] at returns
      cases returns
    · rw [Function.update_of_ne same] at returns
      rw [startedIn id' (by rw [returns]; nofun)]
      exact heeding.returned id' returned' returns fine

lemma loaded_asked {cache : SourceCache} {invalidations startedIn : Nat}
    {answer : Except String (List JsonObject × Option Origin)}
    (source : service.sourceFresh cache now = true → cache.Latest invalidations)
    (started : startedIn ≤ invalidations)
    (list : ∀ items origin, answer = .ok (items, origin) → ∃ o, origin = some o ∧
      o.sentIn = invalidations) :
    (service.sourceFresh (service.loaded cache now answer).1 now = true →
        (service.loaded cache now answer).1.Latest invalidations) ∧
      (service.loaded cache now answer).2.Asked startedIn := by
  cases answer with
  | ok answer =>
    obtain ⟨items, origin⟩ := answer
    obtain ⟨origin, rfl, last⟩ := list items origin rfl
    exact ⟨fun _ => ⟨origin, rfl, last⟩, fun _ => ⟨origin, rfl, last.symm ▸ started⟩⟩
  | error text =>
    rw [InventoryService.loaded]
    split
    · exact ⟨source, fun origin => by cases origin⟩
    · exact ⟨source, fun origin => by cases origin⟩

/-- A part of a load goes on. -/
lemma Heeding.part (heeding : Heeding service s) {source : Source} {forceRefresh : Bool}
    {calledAt : Time} {parts : Source → Part}
    {answer : Option (Except String (List JsonObject × Option Origin))}
    (later : s.traffic.clock ≤ now) (kept : ¬ s.Loses service (move, now))
    (gathering : s.loads id = .gathering forceRefresh calledAt parts)
    (step : PartStep service s id source now move (parts source) s' answer) :
    Heeding service (s'.resume service id source now answer) := by
  have orderly := heeding.orderly.part gathering step
  have framed := step.framed
  have gathering' : s'.loads id = .gathering forceRefresh calledAt parts :=
    (congrFun framed.loads id).trans gathering
  -- what the call of the client keeps, and where a list that it brings comes from
  have calls : Latest s' ∧ (service.sourceFresh (s.service.sources .mcp) now = true →
        (s.service.sources .mcp).Latest s'.marks.invalidations) ∧
      (∀ id', s.loads id' ≠ .idle → s'.marks.startedIn id' = s.marks.startedIn id') ∧
      ∀ items origin, source = .mcp → answer = some (.ok (items, origin)) → ∃ o, origin = some o ∧
        o.sentIn = s'.marks.invalidations := by
    cases step with
    | disabled =>
      refine ⟨⟨heeding.latest.cached, heeding.latest.asking, heeding.latest.started,
        heeding.latest.listed⟩, fun fresh => heeding.source (sourceFresh_mono later fresh), fun _ _ => rfl,
        fun items origin _ same => ?_⟩
      cases same
      exact ⟨_, rfl, rfl⟩
    | @called input _ same asks starts goes =>
      have calls := heeding.calls later (fun input' tools => partCall_kept kept (tools ▸ asks)) goes
      refine ⟨calls.latest, calls.source, calls.startedIn, fun items origin mcp answered => ?_⟩
      have wants : s.Wants id input := by
        obtain ⟨forceRefresh, starts⟩ | waits := starts
        · exact .inl ⟨forceRefresh, source, starts⟩
        · exact .inr (same ▸ heeding.orderly.calls _ _ _ _ gathering _ waits)
      have brings := callSource_brings wants goes
      rw [same, answered] at brings
      cases brings with
      | cached hits list =>
        refine ⟨_, rfl, ?_⟩
        rw [same, mcp]
        exact calls.cached (same.trans mcp) hits
      | fetched fetches =>
        refine ⟨_, rfl, ?_⟩
        rw [same, mcp]
        exact calls.arrived (same.trans mcp) fetches
  obtain ⟨latest, fresh, startedIn, brought⟩ := calls
  have other : service.sourceFresh (s.service.sources .mcp) s'.traffic.clock = true →
      (s.service.sources .mcp).Latest s'.marks.invalidations := by
    rw [framed.clock]
    exact fresh
  rw [resume_eq gathering'] at orderly ⊢
  cases answer with
  | none =>
    have sources : s'.service.sources =
        Function.update s.service.sources source (s.service.sources source) := by
      rw [framed.service, Function.update_eq_self]
    refine heeding.resumed orderly ⟨latest.cached, latest.asking, latest.started, latest.listed⟩ startedIn
      gathering (by rw [framed.loads]) sources other (fun mcp => ?_) fun _ loaded done => ?_
    · rw [mcp]
      exact other
    · cases done
  | some answer =>
    have asked (mcp : source = .mcp) :
        (service.sourceFresh (service.loaded (s.service.sources source) now answer).1 now = true →
          (service.loaded (s.service.sources source) now answer).1.Latest s'.marks.invalidations) ∧
        (service.loaded (s.service.sources source) now answer).2.Asked (s'.marks.startedIn id) := by
      refine loaded_asked ?_ (latest.started id) fun items origin same =>
        brought items origin mcp (by rw [same])
      rw [mcp]
      exact fresh
    refine heeding.resumed orderly ⟨latest.cached, latest.asking, latest.started, latest.listed⟩ startedIn
      gathering (by rw [framed.loads]) (by rw [framed.service]) other (fun mcp => ?_)
      fun mcp loaded done => ?_
    · rw [framed.clock]
      exact (asked mcp).1
    · cases done
      rw [framed.service]
      exact (asked mcp).2

/-- A move that loses no invalidation keeps all this. -/
theorem Heeding.step (heeding : Heeding service s) {go : Move × Time} (st : Step service s go s')
    (kept : ¬ s.Loses service go) : Heeding service s' := by
  obtain ⟨later, moved⟩ := st.moved
  obtain ⟨move, now⟩ := go
  have orderly := heeding.orderly.step moved
  cases moved with
  | @snapshot id calledAt lock called both =>
    refine heeding.put orderly later (fun idle => ?_) nofun fun returned same _ => ?_
    · obtain ⟨-, uncalled, -⟩ | ⟨⟨forceRefresh, waiting⟩, -⟩ := called
      · exact uncalled
      · cases idle.symm.trans waiting
    · cases same
      have fresh := sourceFresh_mono later (Bool.and_eq_true_iff.mp both).2
      obtain ⟨origin, from', last⟩ := heeding.source fresh
      exact ⟨origin, from', last.symm ▸ put_startedIn_le heeding.latest id⟩
  | waits _ uncalled => exact heeding.put orderly later (fun _ => uncalled) nofun nofun
  | @enters id forceRefresh calledAt lock called =>
    refine heeding.put orderly later (fun idle => ?_) (fun _ _ _ same => ?_) nofun
    · obtain ⟨-, uncalled, -⟩ | ⟨waiting, -⟩ := called
      · exact uncalled
      · cases idle.symm.trans waiting
    · cases same
      rfl
  | @other id input s' idle goes called =>
    have framed := callSource_framed called
    have calls := heeding.calls later (fun input' tools => ⟨alone_of_kept kept (tools ▸ goes),
      fun heard => Bool.eq_false_iff.mpr fun fresh =>
        kept ⟨id, input', tools ▸ goes, heard, .inr fresh⟩⟩) called
    refine ⟨orderly, calls.latest, ?_, fun id' _ _ _ _ gathers done => ?_, fun id' _ returns fine => ?_⟩
    · rw [framed.service, framed.clock]
      exact calls.source
    · rw [framed.loads] at gathers
      rw [calls.startedIn id' (by rw [gathers]; nofun)]
      exact heeding.gathered id' _ _ _ _ gathers done
    · rw [framed.loads] at returns
      rw [calls.startedIn id' (by rw [returns]; nofun)]
      exact heeding.returned id' _ returns fine
  | part gathering step => exact heeding.part later kept gathering step
  | @finish id forceRefresh calledAt parts loaded gathering done =>
    have called : s.loads id ≠ .idle := by
      rw [gathering]
      nofun
    refine heeding.put orderly later (fun idle => absurd idle called) nofun fun returned same fine => ?_
    cases same
    rw [put_startedIn_load called]
    exact heeding.gathered id _ _ _ _ gathering (done .mcp) (gathered_failed fine)

/-- As long as no invalidation meets a request for a tool list in flight, nor a fresh list of the service, no
    call returns a list that was asked for before an invalidation that precedes the call. -/
theorem invalidations_heeded {clock : Time} {es : List (Event Deployment (Move × Time))}
    (run : Run (Step service) (start service clock) es s)
    (kept : ∀ e ∈ es, ¬ e.pre.Loses service e.label) : Heeds s := by
  have heeding : Heeding service s :=
    run.invariant (fun _ st kept heeding => heeding.step st kept) kept (.start clock)
  exact ⟨heeding.latest.listed, heeding.returned⟩

end Runs

section Samples

/-- The answer to a call of a tool, behind a notification that the tool list has changed. -/
def sampleChange (requestId : String) : SourceInput :=
  .tools (.answered (.response 200 [("content-type", "text/event-stream")]
    ("data: \x7b\"jsonrpc\": \"2.0\", \"method\": \"notifications/tools/list_changed\"\x7d\n\n" ++
      "data: \x7b\"jsonrpc\": \"2.0\", \"id\": " ++ requestId ++ ", \"result\": \x7b\x7d\x7d\n\n") ""))

/-- A call of a tool, up to its answer. -/
def sampleCall (id : Nat) (now : Time) : List (Move × Time) :=
  [(.source id (.tools (.call (.callTool (.str "search") .null))), now),
    (.source id (.tools (.opened none)), now)]

/-- The tool list changes after a load. -/
def changeBehindLoad : List (Move × Time) :=
  sampleLoad 0 (seconds 1) (sampleTools "1") ++ sampleCall 1 (seconds 2) ++
    [(.source 1 (sampleChange "2"), seconds 2), (.load 2 false, seconds 3)]

/-- The tool list changes while a request for it is in flight. -/
def changeInFlight : List (Move × Time) :=
  [(.source 0 (.tools (.call (.listTools false false))), seconds 1),
    (.source 0 (.tools (.opened none)), seconds 1)] ++ sampleCall 1 (seconds 1) ++
    [(.source 1 (sampleChange "2"), seconds 1), (.source 0 (sampleTools "1"), seconds 2),
      (.source 2 (.tools (.call (.listTools false false))), seconds 3)]

/-- The call has ended with a list. -/
def isListed : Mcp.Phase → Bool
  | .done (.ok (.tools _)) => true
  | _ => false

lemma listed_of_isListed {phase : Mcp.Phase} (listed : isListed phase = true) :
    ∃ tools, phase = .done (.ok (.tools tools)) := by
  unfold isListed at listed
  split at listed
  · exact ⟨_, rfl⟩
  · cases listed

/-- The service serves its list after the invalidation, and the client stores a list that was asked for
    before it. -/
theorem serves_dropped_tools :
    (¬ ∀ (es : List (Event Deployment (Move × Time))) (s : Deployment),
      Run (Step sampleService) (start sampleService (seconds 1)) es s →
        ∀ id returned, s.loads id = .done returned → ¬ returned.inventory.Failed .mcp →
          ∃ origin, returned.origin .mcp = some origin ∧ s.marks.startedIn id ≤ origin.sentIn) ∧
    ¬ ∀ (es : List (Event Deployment (Move × Time))) (s : Deployment),
      Run (Step sampleService) (start sampleService (seconds 1)) es s →
        ∀ id tools origin, s.traffic.phases id = .done (.ok (.tools tools)) →
          s.marks.listed id = some origin → s.marks.startedIn id ≤ origin.sentIn := by
  -- the two runs read the same answer of the server: one evaluation of both reads it once
  have check : (reached (take sampleService) (start sampleService (seconds 1)) changeBehindLoad).any
        (fun t => (returnedBy (t.loads 2)).map (fun returned => (returned.inventory.errors.length,
          (returned.origin .mcp).map Origin.sentIn)) = some (0, some 0) ∧
            t.marks.startedIn 2 = 1) = true ∧
      (reached (take sampleService) (start sampleService (seconds 1)) changeInFlight).any
        (fun t => isListed (t.traffic.phases 2) = true ∧
          (t.marks.listed 2).map Origin.sentIn = some 0 ∧ t.marks.startedIn 2 = 1) = true := by
    decide +kernel
  constructor
  · intro heeds
    obtain ⟨es, t, run, found⟩ := run_of_check check.1
    obtain ⟨served, started⟩ := decide_eq_true_iff.mp found
    obtain ⟨returned, returns, parts⟩ := Option.map_eq_some_iff.mp served
    obtain ⟨errors, sentIn⟩ := Prod.mk.inj parts
    have fine : ¬ returned.inventory.Failed .mcp := by
      rw [RuntimeInventory.Failed, List.eq_nil_of_length_eq_zero errors]
      exact List.not_mem_nil
    obtain ⟨origin, from', later⟩ := heeds _ t run 2 returned (returnedBy_some returns) fine
    rw [from'] at sentIn
    rw [started, Option.some.inj sentIn] at later
    cases later
  · intro heeds
    obtain ⟨es, t, run, found⟩ := run_of_check check.2
    obtain ⟨list, kept, started⟩ := decide_eq_true_iff.mp found
    obtain ⟨tools, done⟩ := listed_of_isListed list
    obtain ⟨origin, from', sentIn⟩ := Option.map_eq_some_iff.mp kept
    have later := heeds _ t run 2 tools origin done from'
    rw [started, sentIn] at later
    cases later

/-- Whom the move lets go on. -/
def mover : Move → Nat
  | .load id _ | .woken id | .start id _ | .source id _ | .finish id => id

lemma call_other {service : InventoryService} {s s' : Deployment} {id id' : Nat} {now : Time}
    {input : SourceInput} (called : s.call service id' now input = some s') (other : id ≠ id') :
    s'.traffic.phases id = s.traffic.phases id := by
  obtain ⟨t, goes, rfl⟩ := Option.map_eq_some_iff.mp called
  rw [← (callSource_framed goes).phases id (.inl other)]
  unfold resume
  split
  · split <;> rfl
  · rfl

/-- A move leaves the calls of the others as they are. -/
lemma Step.other {service : InventoryService} {s s' : Deployment} {go : Move × Time} {id : Nat}
    (st : Step service s go s') (other : id ≠ mover go.1) :
    s'.traffic.phases id = s.traffic.phases id := by
  obtain ⟨move, now⟩ := go
  have moved : s.move service now move = some s' := (Option.ite_none_right_eq_some.mp st).2
  cases move with
  | load id' forceRefresh =>
    simp only [Deployment.move] at moved
    split at moved
    · split_ifs at moved <;> cases moved <;> rfl
    · cases moved
  | woken id' =>
    simp only [Deployment.move] at moved
    split at moved
    · split_ifs at moved <;> cases moved <;> rfl
    · cases moved
  | start id' source =>
    simp only [Deployment.move] at moved
    split at moved
    · split at moved
      · split_ifs at moved
        · exact call_other moved other
        · cases moved
          unfold resume
          split <;> rfl
      · cases moved
    · cases moved
  | source id' input =>
    simp only [Deployment.move] at moved
    split at moved
    · exact (callSource_framed moved).phases id (.inl other)
    · split_ifs at moved
      exact call_other moved other
    · cases moved
  | finish id' =>
    simp only [Deployment.move] at moved
    split at moved
    · split at moved
      · cases moved
        rfl
      · cases moved
    · cases moved

/-- The move lets a call below the bound go on, and an invalidation that it brings meets no request for a
    tool list of such a call and no fresh list. -/
def heard (service : InventoryService) (bound : Nat) (s : Deployment) (go : Move × Time) : Bool :=
  decide (mover go.1 < bound) &&
    match go.1 with
    | .source id (.tools input) =>
      !service.mcp.invalidates s.traffic.client (s.traffic.phases id) input ||
        ((List.range bound).all fun id' => !(s.traffic.phases id').asking) &&
          !service.sourceFresh (s.service.sources .mcp) go.2
    | _ => true

/-- Where the calls of a run are all below a bound, the others ask for nothing. -/
lemma kept_of_heard {service : InventoryService} {bound : Nat} {clock : Time} {s : Deployment}
    {es : List (Event Deployment (Move × Time))} (run : Run (Step service) (start service clock) es s)
    (hears : ∀ e ∈ es, heard service bound e.pre e.label = true) : ∀ e ∈ es, ¬ e.pre.Loses service e.label := by
  intro e mem ⟨id, input, goes, invalidates, lost⟩
  have below : ∀ e ∈ es, mover e.label.1 < bound := fun e mem =>
    of_decide_eq_true (Bool.and_eq_true_iff.mp (hears e mem)).1
  have beyond : ∀ id', bound ≤ id' → e.pre.traffic.phases id' = .idle :=
    (run.invariant_mem (I := fun t => ∀ id', bound ≤ id' → t.traffic.phases id' = .idle)
      (fun e st below idle id' le =>
        (Step.other st (Nat.ne_of_gt (Nat.lt_of_lt_of_le below le))).trans (idle id' le))
      below (fun _ _ => rfl) mem).1
  have kept := (Bool.and_eq_true_iff.mp (hears e mem)).2
  rw [goes] at kept
  simp only [invalidates, Bool.not_true, Bool.false_or, Bool.and_eq_true, List.all_eq_true, List.mem_range,
    Bool.not_eq_true'] at kept
  obtain ⟨silent, old⟩ := kept
  obtain ⟨id', asking, -⟩ | fresh := lost
  · by_cases le : bound ≤ id'
    · rw [beyond id' le] at asking
      cases asking
    · cases (silent id' (Nat.lt_of_not_le le)).symm.trans asking
  · cases old.symm.trans fresh

/-- The tool list changes after the client has fetched it. A call and a load come afterwards: the call asks
    the server again, and the load finds the new list in the cache of the client. -/
def changeHeard : List (Move × Time) :=
  [(.source 0 (.tools (.call (.listTools false false))), seconds 1),
    (.source 0 (.tools (.opened none)), seconds 1), (.source 0 (sampleTools "1"), seconds 1)] ++
    sampleCall 1 (seconds 2) ++
    [(.source 1 (sampleChange "2"), seconds 2),
      (.source 2 (.tools (.call (.listTools false false))), seconds 3),
      (.source 2 (.tools (.opened none)), seconds 3), (.source 2 (sampleTools "3"), seconds 3),
      (.load 3 false, seconds 4), (.start 3 .ollama, seconds 4), (.source 3 sampleModels, seconds 4),
      (.start 3 .mcp, seconds 4), (.finish 3, seconds 4)]

theorem invalidations_heeded_sample : ∃ es s,
    Run (Step sampleService) (start sampleService (seconds 1)) es s ∧ s.marks.invalidations = 1 ∧
      isListed (s.traffic.phases 2) = true ∧
      (returnedBy (s.loads 3)).map (fun returned => (returned.inventory.errors.length,
        (returned.origin .mcp).map Origin.sentIn)) = some (0, some 1) ∧ Heeds s := by
  obtain ⟨es, s, run, hears, outcome⟩ := run_of_guarded (by decide +kernel :
    (reached (guarded (take sampleService) (heard sampleService 4)) (start sampleService (seconds 1))
      changeHeard).any (fun s => s.marks.invalidations = 1 ∧ isListed (s.traffic.phases 2) = true ∧
        (returnedBy (s.loads 3)).map (fun returned => (returned.inventory.errors.length,
          (returned.origin .mcp).map Origin.sentIn)) = some (0, some 1)) = true)
  obtain ⟨changed, listed, returned⟩ := of_decide_eq_true outcome
  exact ⟨es, s, run, changed, listed, returned, invalidations_heeded run (kept_of_heard run hears)⟩

end Samples

end Deployment

end AgentRuntime.Inventory
