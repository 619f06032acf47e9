import AgentRuntime.Inventory.Loads
import AgentRuntime.Mcp.Replay

/-!
# How old a list of the inventory is

The service stamps a list when a client returns it. The client may return a list of its own cache, and then
the stamp is newer than the list: the list is served for longer than it may be, and its age is given too
small. As long as no load is answered with such a list, every list is as new as its stamp says, and an
inventory meets both bounds.
-/

namespace AgentRuntime.Inventory
open State Mcp Llm Transition

/-- The inventory carries an error for the source. -/
def RuntimeInventory.Failed (inventory : RuntimeInventory) (source : Source) : Prop :=
  source.key ∈ inventory.errors.map Prod.fst

/-- A list without an error was fetched no longer than the time to live before the call, and no list is
    older than the age that is given. -/
structure Returned.Current (returned : Returned) (ttl : Time) : Prop where
  fetched : ∀ source, ¬ returned.inventory.Failed source → ∃ origin,
    returned.origin source = some origin ∧ returned.calledAt - origin.fetchedAt ≤ ttl
  age : ∀ source origin, returned.origin source = some origin →
    returned.returnedAt - origin.fetchedAt ≤ returned.inventory.ageSeconds

/-- The time to live of a list. -/
def InventoryService.ttl (service : InventoryService) : Time :=
  seconds service.mcp.settings.inventoryCacheTtlSeconds

/-- The list of the source is as new as its stamp. -/
def SourceCache.Stamped (source : SourceCache) : Prop :=
  source.value.isSome = true → 0 < source.cachedAt ∧
    ∃ origin, source.origin = some origin ∧ source.cachedAt ≤ origin.fetchedAt

/-- What a part of a load has brought is newer than the call, or it is an error, and its list is the one
    that the service keeps. -/
structure Loaded.Stamped (loaded : Loaded) (source : SourceCache) (calledAt : Time) : Prop where
  newer : loaded.error = none → ∃ origin, loaded.origin = some origin ∧ calledAt ≤ origin.fetchedAt
  kept : ∀ origin, loaded.origin = some origin →
    source.value.isSome = true ∧ source.origin = some origin

namespace Deployment

/-- A load is answered with a list that its client fetched earlier. -/
def restamps (service : InventoryService) (s : Deployment) (go : Move × Time) : Bool :=
  match s.partCall service go.1 with
  | some (id, input) => s.hits service id go.2 input && s.cachedAt input.source < go.2
  | none => false

section Sources

variable {service : InventoryService} {source : SourceCache} {now : Time}

lemma sourceAge_ge {origin : Origin} (stamped : source.Stamped) (value : source.value.isSome = true)
    (from' : source.origin = some origin) :
    now - origin.fetchedAt ≤ InventoryService.sourceAge source now := by
  obtain ⟨positive, origin', same, newer⟩ := stamped value
  cases from'.symm.trans same
  have known : (source.value.isNone || decide (source.cachedAt ≤ 0)) = false := by
    rw [Option.isNone_eq_false_iff.mpr value, Bool.false_or]
    exact decide_eq_false (Int.not_le.mpr positive)
  rw [InventoryService.sourceAge, known, if_neg Bool.false_ne_true]
  exact Int.le_trans (Int.sub_le_sub_left newer now) (Int.le_max_right _ _)

lemma age_ge {s : ServiceState} {origin : Origin} (source : Source)
    (stamped : (s.sources source).Stamped) (value : (s.sources source).value.isSome = true)
    (from' : (s.sources source).origin = some origin) :
    now - origin.fetchedAt ≤ InventoryService.age s now := by
  refine Int.le_trans (sourceAge_ge stamped value from') ?_
  cases source with
  | ollama => exact Int.le_max_left _ _
  | mcp => exact Int.le_max_right _ _

lemma fresh_of_both {s : ServiceState} (fresh : service.bothFresh s now = true) (source : Source) :
    (s.sources source).value.isSome = true ∧ now - (s.sources source).cachedAt ≤ service.ttl := by
  obtain ⟨ollama, mcp⟩ := Bool.and_eq_true_iff.mp fresh
  have one : service.sourceFresh (s.sources source) now = true := by
    cases source
    · exact ollama
    · exact mcp
  obtain ⟨value, young⟩ := Bool.and_eq_true_iff.mp one
  exact ⟨value, of_decide_eq_true young⟩

/-- Fresh lists of the service make a current inventory. -/
lemma snapshot_current {s : ServiceState} {calledAt : Time} (stamped : ∀ source, (s.sources source).Stamped)
    (fresh : service.bothFresh s now = true) (called : calledAt ≤ now) :
    (InventoryService.snapshot s calledAt now).Current service.ttl where
  fetched source _ := by
    obtain ⟨value, young⟩ := fresh_of_both fresh source
    obtain ⟨-, origin, from', newer⟩ := stamped source value
    refine ⟨origin, from', ?_⟩
    calc calledAt - origin.fetchedAt
        ≤ now - (s.sources source).cachedAt := Int.sub_le_sub called newer
      _ ≤ service.ttl := young
  age source origin from' := age_ge source (stamped source) (fresh_of_both fresh source).1 from'

lemma gathered_failed {s : ServiceState} {calledAt : Time} {loaded : Source → Loaded} {source : Source}
    (fine : ¬ (InventoryService.gathered s calledAt now loaded).inventory.Failed source) :
    (loaded source).error = none := by
  cases failed : (loaded source).error with
  | none => rfl
  | some error =>
    refine absurd ?_ fine
    refine List.mem_map.mpr ⟨(source.key, error), List.mem_filterMap.mpr ⟨source, ?_, ?_⟩, rfl⟩
    · cases source
      · exact .head _
      · exact .tail _ (.head _)
    · rw [failed]
      rfl

/-- What the parts of a load have brought makes a current inventory. -/
lemma gathered_current {s : ServiceState} {calledAt : Time} {loaded : Source → Loaded}
    (stamped : ∀ source, (s.sources source).Stamped)
    (parts : ∀ source, (loaded source).Stamped (s.sources source) calledAt) :
    (InventoryService.gathered s calledAt now loaded).Current service.ttl where
  fetched source fine := by
    obtain ⟨origin, from', newer⟩ := (parts source).newer (gathered_failed fine)
    refine ⟨origin, from', Int.le_trans (Int.sub_nonpos_of_le newer) ?_⟩
    exact Int.mul_nonneg (Int.natCast_nonneg _) (by decide)
  age source origin from' := by
    obtain ⟨value, from'⟩ := (parts source).kept origin from'
    exact age_ge source (stamped source) value from'

/-- A list that arrives is stamped, and it is newer than the call. -/
lemma loaded_ok {calledAt : Time} {list : List JsonObject} {origin : Origin} (clock : 0 < now)
    (called : calledAt ≤ now) (newer : now ≤ origin.fetchedAt) :
    (service.loaded source now (.ok (list, some origin))).1.Stamped ∧
      (service.loaded source now (.ok (list, some origin))).2.Stamped
        (service.loaded source now (.ok (list, some origin))).1 calledAt :=
  ⟨fun _ => ⟨clock, origin, rfl, newer⟩, fun _ => ⟨origin, rfl, Int.le_trans called newer⟩,
    fun _ same => ⟨rfl, same⟩⟩

lemma loaded_error {calledAt : Time} {text : String} (stamped : source.Stamped) :
    (service.loaded source now (.error text)).1.Stamped ∧
      (service.loaded source now (.error text)).2.Stamped
        (service.loaded source now (.error text)).1 calledAt := by
  rw [InventoryService.loaded]
  split
  · next usable =>
    exact ⟨stamped, nofun, fun _ from' => ⟨(Bool.and_eq_true_iff.mp usable).1, from'⟩⟩
  · exact ⟨stamped, nofun, nofun⟩

end Sources

section Runs

variable {service : InventoryService} {s s' : Deployment} {now : Time} {move : Move}

/-- Every list is as new as its stamp, and what was returned is current. -/
structure Fresh (service : InventoryService) (s : Deployment) : Prop where
  orderly : Orderly s
  clock : 0 < s.traffic.clock
  lists : ∀ source list, s.cachedList source = some list →
    s.cachedAt source ≤ (s.marks.cachedFrom source).fetchedAt
  sources : ∀ source, (s.service.sources source).Stamped
  waiting : ∀ id forceRefresh calledAt, s.loads id = .waiting forceRefresh calledAt →
    calledAt ≤ s.traffic.clock
  gathering : ∀ id forceRefresh calledAt parts, s.loads id = .gathering forceRefresh calledAt parts →
    calledAt ≤ s.traffic.clock ∧ ∀ source loaded, parts source = .done loaded →
      loaded.Stamped (s.service.sources source) calledAt
  returned : ∀ id returned, s.loads id = .done returned → returned.Current service.ttl

lemma Fresh.start {clock : Time} (positive : 0 < clock) : Fresh service (start service clock) where
  orderly := .start clock
  clock := positive
  lists source _ cached := by cases source <;> cases cached
  sources _ := nofun
  waiting := nofun
  gathering := nofun
  returned := nofun

/-- A load goes to another place, with the lists as they are. -/
lemma Fresh.put (fresh : Fresh service s) {id : Nat} {lock : FifoLock Nat} {phase : LoadPhase}
    (orderly : Orderly (s.put id now lock phase)) (later : s.traffic.clock ≤ now)
    (waiting : ∀ forceRefresh calledAt, phase = .waiting forceRefresh calledAt → calledAt ≤ now)
    (gathering : ∀ forceRefresh calledAt parts, phase = .gathering forceRefresh calledAt parts →
      calledAt ≤ now ∧ ∀ source, parts source = .pending)
    (returned : ∀ returned, phase = .done returned → returned.Current service.ttl) :
    Fresh service (s.put id now lock phase) where
  orderly := orderly
  clock := Int.lt_of_lt_of_le fresh.clock later
  lists source list cached := by cases source <;> exact fresh.lists _ list cached
  sources := fresh.sources
  waiting id' forceRefresh calledAt at' := by
    by_cases own : id' = id
    · subst own
      exact waiting _ _ ((Function.update_self ..).symm.trans at')
    · exact Int.le_trans (fresh.waiting id' _ _ ((Function.update_of_ne own ..).symm.trans at')) later
  gathering id' forceRefresh calledAt parts at' := by
    by_cases own : id' = id
    · subst own
      obtain ⟨called, pending⟩ := gathering _ _ _ ((Function.update_self ..).symm.trans at')
      refine ⟨called, fun source loaded done => ?_⟩
      cases (pending source).symm.trans done
    · obtain ⟨called, parts⟩ := fresh.gathering id' _ _ _ ((Function.update_of_ne own ..).symm.trans at')
      exact ⟨Int.le_trans called later, parts⟩
  returned id' returned' at' := by
    by_cases own : id' = id
    · subst own
      exact returned _ ((Function.update_self ..).symm.trans at')
    · exact fresh.returned id' _ ((Function.update_of_ne own ..).symm.trans at')

/-- The lists of the clients are as new as their stamps, after a call of a client went on. -/
lemma Fresh.callSource (fresh : Fresh service s) {id : Nat} {input : SourceInput}
    (called : s.callSource service id now input = some s') (source : Source) (list : List JsonObject)
    (cached : s'.cachedList source = some list) :
    s'.cachedAt source ≤ (s'.marks.cachedFrom source).fetchedAt := by
  by_cases own : source = input.source
  · subst own
    have step := callSource_lists called
    generalize s.fetches service id input = fetches at step
    cases step with
    | stored _ cachedAt from' =>
      rw [cachedAt, from']
      cases input.source <;> exact Int.le_refl _
    | kept list' from' =>
      rw [from']
      obtain none | ⟨same, cachedAt⟩ := list'
      · cases none.symm.trans cached
      · rw [cachedAt]
        exact fresh.lists _ _ (same.symm.trans cached)
  · obtain ⟨same, cachedAt, from'⟩ := (callSource_framed called).lists source own
    rw [cachedAt, from']
    exact fresh.lists _ _ (same.symm.trans cached)

/-- What a part of a load goes on with is as new as its stamp. -/
lemma Fresh.loaded (fresh : Fresh service s) {id : Nat} {source : Source} {forceRefresh : Bool}
    {calledAt : Time} {parts : Source → Part} {answer : Except String (List JsonObject × Option Origin)}
    (later : s.traffic.clock ≤ now) (honest : s.restamps service (move, now) = false)
    (gathering : s.loads id = .gathering forceRefresh calledAt parts)
    (step : PartStep service s id source now move (parts source) s' (some answer)) :
    (service.loaded (s.service.sources source) now answer).1.Stamped ∧
      (service.loaded (s.service.sources source) now answer).2.Stamped
        (service.loaded (s.service.sources source) now answer).1 calledAt := by
  have clock : 0 < now := Int.lt_of_lt_of_le fresh.clock later
  have called : calledAt ≤ now := Int.le_trans (fresh.gathering id _ _ _ gathering).1 later
  generalize answered : some answer = answer' at step
  cases step with
  | disabled =>
    cases answered
    exact loaded_ok clock called (Int.le_refl _)
  | @called input _ same asks starts goes =>
    have wants : s.Wants id input := by
      obtain ⟨forceRefresh, starts⟩ | waits := starts
      · exact .inl ⟨forceRefresh, source, starts⟩
      · exact .inr (same ▸ fresh.orderly.calls _ _ _ _ gathering _ waits)
    have brings := callSource_brings wants goes
    rw [same, ← answered] at brings
    cases brings with
    | error => exact loaded_error (fresh.sources source)
    | cached hits list =>
      refine loaded_ok clock called ?_
      refine Int.le_trans ?_ (fresh.lists _ _ list)
      by_contra early
      have restamped : s.restamps service (move, now) = true := by
        rw [restamps, asks]
        exact Bool.and_eq_true_iff.mpr ⟨hits, decide_eq_true (Int.not_le.mp early)⟩
      cases honest.symm.trans restamped
    | fetched => exact loaded_ok clock called (by cases input.source <;> exact Int.le_refl _)

/-- A part of a load went on, and its source is as new as its stamp. -/
lemma Fresh.resumed (fresh : Fresh service s) {id : Nat} {source : Source} {forceRefresh : Bool}
    {calledAt : Time} {parts : Source → Part} {part : Part} {cache : SourceCache}
    (later : s.traffic.clock ≤ now) (clock : s'.traffic.clock = now) (orderly : Orderly s')
    (gathering : s.loads id = .gathering forceRefresh calledAt parts)
    (lists : ∀ source list, s'.cachedList source = some list →
      s'.cachedAt source ≤ (s'.marks.cachedFrom source).fetchedAt)
    (loads : s'.loads = Function.update s.loads id
      (.gathering forceRefresh calledAt (Function.update parts source part)))
    (sources : s'.service.sources = Function.update s.service.sources source cache)
    (stamped : cache.Stamped) (brought : ∀ loaded, part = .done loaded → loaded.Stamped cache calledAt) :
    Fresh service s' where
  orderly := orderly
  clock := by
    rw [clock]
    exact Int.lt_of_lt_of_le fresh.clock later
  lists := lists
  sources source' := by
    rw [sources]
    by_cases own : source' = source
    · rw [own, Function.update_self]
      exact stamped
    · rw [Function.update_of_ne own]
      exact fresh.sources source'
  waiting id' forceRefresh' calledAt' waits := by
    rw [loads] at waits
    rw [clock]
    by_cases own : id' = id
    · rw [own, Function.update_self] at waits
      cases waits
    · rw [Function.update_of_ne own] at waits
      exact Int.le_trans (fresh.waiting _ _ _ waits) later
  gathering id' forceRefresh' calledAt' parts' gathers := by
    -- only the holder of the lock gathers
    have one : id' = id := by
      refine orderly.unique ?_ ?_
      · rw [gathers]
        trivial
      · rw [loads, Function.update_self]
        trivial
    rw [loads, one, Function.update_self] at gathers
    cases gathers
    obtain ⟨called, before⟩ := fresh.gathering id _ _ _ gathering
    rw [clock, sources]
    refine ⟨Int.le_trans called later, fun source' loaded done => ?_⟩
    by_cases own : source' = source
    · subst own
      rw [Function.update_self] at done ⊢
      exact brought loaded done
    · rw [Function.update_of_ne own] at done ⊢
      exact before source' loaded done
  returned id' returned' returns := by
    rw [loads] at returns
    by_cases own : id' = id
    · rw [own, Function.update_self] at returns
      cases returns
    · rw [Function.update_of_ne own] at returns
      exact fresh.returned _ _ returns

/-- A part of a load goes on. -/
lemma Fresh.part (fresh : Fresh service s) {id : Nat} {source : Source} {forceRefresh : Bool}
    {calledAt : Time} {parts : Source → Part}
    {answer : Option (Except String (List JsonObject × Option Origin))}
    (later : s.traffic.clock ≤ now) (honest : s.restamps service (move, now) = false)
    (gathering : s.loads id = .gathering forceRefresh calledAt parts)
    (step : PartStep service s id source now move (parts source) s' answer) :
    Fresh service (s'.resume service id source now answer) := by
  have orderly := fresh.orderly.part gathering step
  have framed := step.framed
  have gathering' : s'.loads id = .gathering forceRefresh calledAt parts :=
    (congrFun framed.loads id).trans gathering
  have lists : ∀ source list, s'.cachedList source = some list →
      s'.cachedAt source ≤ (s'.marks.cachedFrom source).fetchedAt := by
    cases step with
    | disabled =>
      intro source list cached
      cases source <;> exact fresh.lists _ list cached
    | called _ _ _ goes => exact fresh.callSource goes
  rw [resume_eq gathering'] at orderly ⊢
  cases answer with
  | none =>
    refine fresh.resumed later framed.clock orderly gathering lists (by rw [framed.loads]) ?_
      (fresh.sources source) fun _ done => ?_
    · rw [framed.service, Function.update_eq_self]
    · cases done
  | some answer =>
    obtain ⟨stamped, brought⟩ := fresh.loaded later honest gathering step
    refine fresh.resumed later framed.clock orderly gathering lists (by rw [framed.loads])
      (by rw [framed.service]) stamped fun loaded done => ?_
    cases done
    rw [framed.service]
    exact brought

/-- A move that answers no load with an old list keeps all this. -/
theorem Fresh.step (fresh : Fresh service s) {go : Move × Time} (st : Step service s go s')
    (honest : s.restamps service go = false) : Fresh service s' := by
  obtain ⟨later, moved⟩ := st.moved
  obtain ⟨move, now⟩ := go
  have orderly := fresh.orderly.step moved
  cases moved with
  | @snapshot id calledAt lock called both =>
    refine fresh.put orderly later nofun nofun fun returned same => ?_
    cases same
    refine snapshot_current fresh.sources both ?_
    obtain ⟨-, -, rfl, -⟩ | ⟨⟨forceRefresh, waiting⟩, -, -⟩ := called
    · exact Int.le_refl _
    · exact Int.le_trans (fresh.waiting _ _ _ waiting) later
  | waits =>
    refine fresh.put orderly later (fun _ _ same => ?_) nofun nofun
    cases same
    exact Int.le_refl _
  | enters called =>
    refine fresh.put orderly later nofun (fun _ _ _ same => ?_) nofun
    cases same
    refine ⟨?_, fun _ => rfl⟩
    obtain ⟨-, -, rfl, -⟩ | ⟨waiting, -, -⟩ := called
    · exact Int.le_refl _
    · exact Int.le_trans (fresh.waiting _ _ _ waiting) later
  | other _ _ called =>
    have framed := callSource_framed called
    exact {
      orderly := orderly
      clock := by
        rw [framed.clock]
        exact Int.lt_of_lt_of_le fresh.clock later
      lists := fresh.callSource called
      sources := by
        rw [framed.service]
        exact fresh.sources
      waiting := fun id' _ _ waits => by
        rw [framed.loads] at waits
        rw [framed.clock]
        exact Int.le_trans (fresh.waiting _ _ _ waits) later
      gathering := fun id' _ _ _ gathers => by
        rw [framed.loads] at gathers
        rw [framed.clock, framed.service]
        obtain ⟨called, parts⟩ := fresh.gathering _ _ _ _ gathers
        exact ⟨Int.le_trans called later, parts⟩
      returned := fun id' _ returns => by
        rw [framed.loads] at returns
        exact fresh.returned _ _ returns }
  | part gathering step => exact fresh.part later honest gathering step
  | finish gathering done =>
    refine fresh.put orderly later nofun nofun fun returned same => ?_
    cases same
    exact gathered_current fresh.sources fun source =>
      (fresh.gathering _ _ _ _ gathering).2 source _ (done source)

/-- As long as no load is answered with a list that its client fetched earlier, every inventory is
    current. -/
theorem inventory_current {clock : Time} {es : List (Event Deployment (Move × Time))}
    (run : Run (Step service) (start service clock) es s) (positive : 0 < clock)
    (honest : ∀ e ∈ es, e.pre.restamps service e.label = false) (id : Nat) (returned : Returned)
    (returns : s.loads id = .done returned) : returned.Current service.ttl := by
  have fresh : Fresh service s :=
    run.invariant (fun _ st honest fresh => fresh.step st honest) honest (.start positive)
  exact fresh.returned id returned returns

end Runs

section Samples

/-- An MCP client without sessions, below the service. -/
def sampleService : InventoryService where
  mcp :=
    { settings := { mcpEnabled := true, mcpSessionEnabled := false }
      floats := sampleFloats
      limits := { nesting := some 900 }
      pyRepr := fun _ => "" }

/-- The model server has no models. -/
def sampleModels : SourceInput := .models (.answered (.payload (.obj [("models", .arr [])])))

/-- The MCP server answers this request with a list without tools. -/
def sampleTools (requestId : String) : SourceInput :=
  .tools (.answered (.response 200 [("content-type", "application/json")]
    ("\x7b\"jsonrpc\": \"2.0\", \"id\": " ++ requestId ++ ", \"result\": \x7b\"tools\": []\x7d\x7d") ""))

/-- A load that asks both servers. -/
def sampleLoad (id : Nat) (now : Time) (tools : SourceInput) : List (Move × Time) :=
  [(.load id false, now), (.start id .ollama, now), (.source id sampleModels, now),
    (.start id .mcp, now), (.source id (.tools (.opened none)), now), (.source id tools, now),
    (.finish id, now)]

/-- A load of which the MCP server fails, one that finds the models in the cache of their client, and one
    that finds both lists in the cache of the service. -/
def staleLoads : List (Move × Time) :=
  sampleLoad 0 (seconds 1) (.tools (.answered (.timeout "ReadTimeout" ""))) ++
    [(.load 1 false, seconds 50), (.start 1 .ollama, seconds 50), (.start 1 .mcp, seconds 50),
      (.source 1 (.tools (.opened none)), seconds 50), (.source 1 (sampleTools "2"), seconds 50),
      (.finish 1, seconds 50), (.load 2 false, seconds 105)]

/-- What a load has returned. -/
def returnedBy : LoadPhase → Option Returned
  | .done returned => some returned
  | _ => none

lemma returnedBy_some {phase : LoadPhase} {returned : Returned} (same : returnedBy phase = some returned) :
    phase = .done returned := by
  cases phase with
  | done => exact congrArg _ (Option.some.inj same)
  | _ => cases same

/-- The models were fetched more than the time to live before, and nothing says so. -/
theorem serves_stale_models : ¬ ∀ (es : List (Event Deployment (Move × Time))) (s : Deployment),
    Run (Step sampleService) (start sampleService (seconds 1)) es s →
      ∀ id returned, s.loads id = .done returned → returned.Current sampleService.ttl := by
  intro current
  have run := play_run (by decide +kernel :
    possible (take sampleService) (start sampleService (seconds 1)) staleLoads = true)
  have fails : (returnedBy ((play (take sampleService) (start sampleService (seconds 1))
      staleLoads).2.loads 2)).map (fun returned => (returned.inventory.errors.length,
        (returned.origin .ollama).map Origin.fetchedAt, returned.calledAt)) =
          some (0, some (seconds 1), seconds 105) := by
    decide +kernel
  generalize (play (take sampleService) (start sampleService (seconds 1)) staleLoads).2 = t at run fails
  obtain ⟨returned, returns, parts⟩ := Option.map_eq_some_iff.mp fails
  obtain ⟨errors, parts⟩ := Prod.mk.inj parts
  obtain ⟨fetchedAt, calledAt⟩ := Prod.mk.inj parts
  have fine : ¬ returned.inventory.Failed .ollama := by
    rw [RuntimeInventory.Failed, List.eq_nil_of_length_eq_zero errors]
    exact nofun
  obtain ⟨origin, from', young⟩ :=
    (current _ t run 2 returned (returnedBy_some returns)).fetched .ollama fine
  rw [from'] at fetchedAt
  rw [calledAt, Option.some.inj fetchedAt] at young
  exact absurd young (by decide +kernel)

/-- A load that asks both servers, one that finds both lists in the cache of the service, and one much later,
    of which the MCP server fails. -/
def currentLoads : List (Move × Time) :=
  sampleLoad 0 (seconds 1) (sampleTools "1") ++ (.load 1 false, seconds 50) ::
    sampleLoad 2 (seconds 500) (.tools (.answered (.timeout "ReadTimeout" "")))

theorem inventory_current_sample : ∃ cached uncertain,
    ((play (take sampleService) (start sampleService (seconds 1)) currentLoads).2.loads 1 = .done cached ∧
      cached.Current sampleService.ttl) ∧
    ((play (take sampleService) (start sampleService (seconds 1)) currentLoads).2.loads 2 = .done uncertain ∧
      uncertain.inventory.errors.length = 1 ∧ uncertain.Current sampleService.ttl) := by
  have run := play_run (by decide +kernel : possible (take sampleService)
    (start sampleService (seconds 1)) currentLoads = true)
  have honest : ((play (take sampleService) (start sampleService (seconds 1)) currentLoads).1.all fun e =>
        !e.pre.restamps sampleService e.label) = true := by
    decide +kernel
  have hit : (returnedBy ((play (take sampleService) (start sampleService (seconds 1))
      currentLoads).2.loads 1)).map (fun returned => returned.inventory.errors.length) = some 0 := by
    decide +kernel
  have failing : (returnedBy ((play (take sampleService) (start sampleService (seconds 1))
      currentLoads).2.loads 2)).map (fun returned => returned.inventory.errors.length) = some 1 := by
    decide +kernel
  generalize play (take sampleService) (start sampleService (seconds 1)) currentLoads = played
    at run honest hit failing ⊢
  obtain ⟨cached, returns, -⟩ := Option.map_eq_some_iff.mp hit
  obtain ⟨uncertain, returns', errors⟩ := Option.map_eq_some_iff.mp failing
  have heeds (e : Event Deployment (Move × Time)) (mem : e ∈ played.1) :
      e.pre.restamps sampleService e.label = false := by
    have kept := List.all_eq_true.mp honest e mem
    rwa [Bool.not_eq_true'] at kept
  have positive : 0 < seconds 1 := by decide +kernel
  exact ⟨cached, uncertain, ⟨returnedBy_some returns,
      inventory_current run positive heeds 1 cached (returnedBy_some returns)⟩,
    returnedBy_some returns', errors,
    inventory_current run positive heeds 2 uncertain (returnedBy_some returns')⟩

end Samples

end Deployment

end AgentRuntime.Inventory
