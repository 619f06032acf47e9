import AgentRuntime.Graph.Services
import AgentRuntime.Llm.ModelList
import AgentRuntime.Mcp.ToolList

/-!
# The inventory of models and tools

Port of `InventoryService` in `services/inventory.py`: a cache of two lists above the two clients, each of
which keeps its list in a cache of its own. A call of `load` is cut at its awaits: the lock of the service,
and `asyncio.gather` of its two parts, each of which is a call of a client, with the number of the load.
The loads interleave with each other and with any other calls of the clients.

Beside what the code keeps stands where the lists come from (`Origin`, `Marks`): when a list was fetched,
and how many invalidations the MCP client had processed when the request for it was handed over.
-/

namespace AgentRuntime.Inventory
open State Mcp Llm

/-- The two sources of the inventory. -/
inductive Source where
  | ollama | mcp
deriving DecidableEq

/-- The key of the source among the errors. -/
def Source.key : Source → String
  | .ollama => "ollama"
  | .mcp => "mcp"

/-- Where a list comes from. The code does not keep this. -/
structure Origin where
  fetchedAt : Time
  sentIn : Nat := 0

/-- source `_SourceCache`, and where its list comes from -/
structure SourceCache where
  value : Option (List JsonObject) := none
  cachedAt : Time := 0
  origin : Option Origin := none

/-- source `RuntimeInventory`; the age is in microseconds -/
structure RuntimeInventory extends Graph.RuntimeInventory where
  errors : List (String × String) := []
  cached : Bool := false
  ageSeconds : Time := 0

/-- What `_load_models` and `_load_tools` return. -/
structure Loaded where
  items : List JsonObject
  error : Option String := none
  stale : Bool := false
  origin : Option Origin

/-- Where a part of a load stands. -/
inductive Part where
  | pending
  | calling
  | done (loaded : Loaded)

/-- What a load returns, and when. -/
structure Returned where
  inventory : RuntimeInventory
  calledAt : Time
  returnedAt : Time
  origin : Source → Option Origin

/-- Where a load stands. -/
inductive LoadPhase where
  | idle
  | waiting (forceRefresh : Bool) (calledAt : Time)
  | gathering (forceRefresh : Bool) (calledAt : Time) (parts : Source → Part)
  | done (returned : Returned)

/-- source `InventoryService`, what does not change -/
structure InventoryService where
  mcp : MCPClient
  llmBackend : String := "ollama"

/-- source `InventoryService`, what changes -/
structure ServiceState where
  lock : FifoLock Nat := {}
  sources : Source → SourceCache := fun _ => {}

namespace InventoryService

variable (service : InventoryService)

/-- The client of the model server has the same settings. -/
def ollama : OllamaClient where
  inventoryCacheTtlSeconds := service.mcp.settings.inventoryCacheTtlSeconds
  inventoryStaleIfErrorSeconds := service.mcp.settings.inventoryStaleIfErrorSeconds

/-- The source is asked at all. -/
def enabled : Source → Bool
  | .ollama => service.llmBackend = "ollama"
  | .mcp => service.mcp.settings.mcpEnabled

/-- source `_source_fresh` -/
def sourceFresh (source : SourceCache) (now : Time) : Bool :=
  source.value.isSome &&
    now - source.cachedAt ≤ seconds service.mcp.settings.inventoryCacheTtlSeconds

/-- source `_source_stale_usable` -/
def sourceStaleUsable (source : SourceCache) (now : Time) : Bool :=
  source.value.isSome &&
    now - source.cachedAt ≤ seconds service.mcp.settings.inventoryStaleIfErrorSeconds

/-- source `_both_fresh` -/
def bothFresh (s : ServiceState) (now : Time) : Bool :=
  service.sourceFresh (s.sources .ollama) now && service.sourceFresh (s.sources .mcp) now

/-- source `_source_age` -/
def sourceAge (source : SourceCache) (now : Time) : Time :=
  if source.value.isNone || source.cachedAt ≤ 0 then 0 else max 0 (now - source.cachedAt)

/-- The age of the older source. -/
def age (s : ServiceState) (now : Time) : Time :=
  max (sourceAge (s.sources .ollama) now) (sourceAge (s.sources .mcp) now)

/-- source `_snapshot`, as `load` calls it -/
def snapshot (s : ServiceState) (calledAt now : Time) : Returned where
  inventory :=
    { models := (s.sources .ollama).value.getD []
      tools := (s.sources .mcp).value.getD []
      cached := true
      ageSeconds := age s now }
  calledAt := calledAt
  returnedAt := now
  origin source := (s.sources source).origin

/-- source `_load_models` and `_load_tools`, from the end of the call of the client: its list, or the text
    of its error -/
def loaded (source : SourceCache) (now : Time) :
    Except String (List JsonObject × Option Origin) → SourceCache × Loaded
  | .ok (items, origin) => (⟨some items, now, origin⟩, { items := items, origin := origin })
  | .error error =>
    if service.sourceStaleUsable source now then
      (source, ⟨source.value.getD [], some error, true, source.origin⟩)
    else (source, ⟨[], some error, false, none⟩)

/-- The end of a load. The text of an error starts with the name of a type, so it is not empty. -/
def gathered (s : ServiceState) (calledAt now : Time) (parts : Source → Loaded) : Returned where
  inventory :=
    { models := (parts .ollama).items
      tools := (parts .mcp).items
      errors := [Source.ollama, .mcp].filterMap fun source =>
        (parts source).error.map fun error => (source.key, error)
      cached := (parts .ollama).stale || (parts .mcp).stale
      ageSeconds := age s now }
  calledAt := calledAt
  returnedAt := now
  origin source := (parts source).origin

end InventoryService

/-- What the code does not keep about the lists: how many invalidations of the tool list the MCP client has
    processed, how many of them before a call was made and before its last request for a tool list was
    handed over, where the lists that the clients keep come from, and the one that a call has returned. -/
structure Marks where
  invalidations : Nat := 0
  startedIn : Nat → Nat := fun _ => 0
  sentIn : Nat → Nat := fun _ => 0
  cachedFrom : Source → Origin := fun _ => { fetchedAt := 0 }
  listed : Nat → Option Origin := fun _ => none

/-- The service, the two clients, and everyone who calls them. -/
structure Deployment where
  traffic : Traffic
  models : ModelsState := {}
  listings : Nat → Listing := fun _ => .idle
  service : ServiceState := {}
  loads : Nat → LoadPhase := fun _ => .idle
  marks : Marks := {}

/-- What lets a call of a client go on. -/
inductive SourceInput where
  | models (input : ListingInput)
  | tools (input : ClientInput)

/-- Who goes on. -/
inductive Move where
  | load (id : Nat) (forceRefresh : Bool)
  | woken (id : Nat)
  | start (id : Nat) (source : Source)
  | source (id : Nat) (input : SourceInput)
  | finish (id : Nat)

namespace SourceInput

/-- The source that is called. -/
def source : SourceInput → Source
  | .models _ => .ollama
  | .tools _ => .mcp

/-- The call is cancelled. -/
def cancels : SourceInput → Bool
  | .models .cancelled | .tools .cancelled => true
  | _ => false

/-- The call that a part of a load makes. -/
def listing (forceRefresh : Bool) : Source → SourceInput
  | .ollama => .models (.call forceRefresh false)
  | .mcp => .tools (.call (.listTools forceRefresh false))

end SourceInput

/-- The part waits for its call of a client. -/
def Part.isCalling : Part → Bool
  | .calling => true
  | _ => false

namespace Deployment

variable (service : InventoryService)

/-- Nothing was called. -/
def start (clock : Time) : Deployment where
  traffic := .start service.mcp clock

/-- Where the list comes from that a call of a client returns in this step. -/
def originOf (s : Deployment) (id : Nat) (now : Time) : SourceInput → Option Origin
  | .models input =>
    match fetchedModels (s.listings id) input with
    | some _ => some { fetchedAt := now }
    | none =>
      if service.ollama.hits s.models now (s.listings id) input then some (s.marks.cachedFrom .ollama)
      else none
  | .tools input =>
    match service.mcp.fetched s.traffic.client (s.traffic.phases id) input with
    | some _ => some { fetchedAt := now, sentIn := s.marks.sentIn id }
    | none =>
      if service.mcp.hits s.traffic.client now (s.traffic.phases id) input then
        some (s.marks.cachedFrom .mcp)
      else none

/-- The marks after a call of the MCP client went on. -/
def marked (s : Deployment) (id : Nat) (input : ClientInput) (now : Time) (after : Mcp.Phase) : Marks where
  invalidations := s.marks.invalidations +
    if service.mcp.invalidates s.traffic.client (s.traffic.phases id) input then 1 else 0
  startedIn :=
    match s.loads id, s.traffic.phases id with
    | .idle, .idle => Function.update s.marks.startedIn id s.marks.invalidations
    | _, _ => s.marks.startedIn
  sentIn :=
    if after.asking && !(s.traffic.phases id).asking then
      Function.update s.marks.sentIn id s.marks.invalidations
    else s.marks.sentIn
  cachedFrom :=
    match service.mcp.fetched s.traffic.client (s.traffic.phases id) input with
    | some _ => Function.update s.marks.cachedFrom .mcp { fetchedAt := now, sentIn := s.marks.sentIn id }
    | none => s.marks.cachedFrom
  listed := Function.update s.marks.listed id (s.originOf service id now (.tools input))

/-- A call of a client goes on, where it can. -/
def callSource (s : Deployment) (id : Nat) (now : Time) : SourceInput → Option Deployment
  | .models input =>
    (service.ollama.advance id s.models now (s.listings id) input).map fun (models, listing) =>
      { s with
        traffic := { s.traffic with clock := now }
        models := models
        listings := Function.update s.listings id listing
        marks := { s.marks with
          cachedFrom :=
            match fetchedModels (s.listings id) input with
            | some _ => Function.update s.marks.cachedFrom .ollama { fetchedAt := now }
            | none => s.marks.cachedFrom } }
  | .tools input =>
    (s.traffic.take service.mcp ⟨id, input, now⟩).map fun traffic =>
      { s with traffic := traffic, marks := s.marked service id input now (traffic.phases id) }

/-- What the call of a client has returned, if it is over: its list, which comes from there, or the text of
    its error. -/
def answer (s : Deployment) (id : Nat) (origin : Option Origin) :
    Source → Option (Except String (List JsonObject × Option Origin))
  | .ollama =>
    match s.listings id with
    | .done (.ok models) => some (.ok (models, origin))
    | .done (.error error) => some (.error error.format)
    | _ => none
  | .mcp =>
    match s.traffic.phases id with
    | .done (.ok (.tools tools)) => some (.ok (tools, origin))
    | .done (.error error) => some (.error error.format)
    | _ => none

/-- A part of a load goes on with what its call of the client has returned. -/
def resume (s : Deployment) (id : Nat) (source : Source) (now : Time)
    (answer : Option (Except String (List JsonObject × Option Origin))) : Deployment :=
  match s.loads id with
  | .gathering forceRefresh calledAt parts =>
    match answer with
    | none =>
      let parts := Function.update parts source .calling
      { s with loads := Function.update s.loads id (.gathering forceRefresh calledAt parts) }
    | some answer =>
      let (cache, loaded) := service.loaded (s.service.sources source) now answer
      let parts := Function.update parts source (.done loaded)
      { s with
        service := { s.service with sources := Function.update s.service.sources source cache }
        loads := Function.update s.loads id (.gathering forceRefresh calledAt parts) }
  | _ => s

/-- A part of a load lets its call of the client go on. -/
def call (s : Deployment) (id : Nat) (now : Time) (input : SourceInput) : Option Deployment :=
  (s.callSource service id now input).map fun s' =>
    s'.resume service id input.source now (s'.answer id (s.originOf service id now input) input.source)

/-- A load goes to another place. -/
def put (s : Deployment) (id : Nat) (now : Time) (lock : FifoLock Nat) (phase : LoadPhase) :
    Deployment :=
  { s with
    traffic := { s.traffic with clock := now }
    service := { s.service with lock := lock }
    loads := Function.update s.loads id phase
    marks := { s.marks with
      startedIn :=
        match s.loads id with
        | .idle => Function.update s.marks.startedIn id s.marks.invalidations
        | _ => s.marks.startedIn } }

/-- The deployment after a move, where it is possible. A load is not cancelled while it gathers its two
    parts. -/
def move (s : Deployment) (now : Time) : Move → Option Deployment
  | .load id forceRefresh =>
    match s.loads id, s.traffic.phases id, s.listings id with
    | .idle, .idle, .idle =>
      if !forceRefresh && service.bothFresh s.service now then
        some (s.put id now s.service.lock (.done (InventoryService.snapshot s.service now now)))
      else if s.service.lock.queue = [] then
        some (s.put id now (s.service.lock.join id) (.gathering forceRefresh now fun _ => .pending))
      else some (s.put id now (s.service.lock.join id) (.waiting forceRefresh now))
    | _, _, _ => none
  | .woken id =>
    match s.loads id with
    | .waiting forceRefresh calledAt =>
      if s.service.lock.Holds id then
        if !forceRefresh && service.bothFresh s.service now then
          some (s.put id now (s.service.lock.leave id)
            (.done (InventoryService.snapshot s.service calledAt now)))
        else some (s.put id now s.service.lock (.gathering forceRefresh calledAt fun _ => .pending))
      else none
    | _ => none
  | .start id source =>
    match s.loads id with
    | .gathering forceRefresh _ parts =>
      match parts source with
      | .pending =>
        if service.enabled source then s.call service id now (SourceInput.listing forceRefresh source)
        else
          -- a source that is not asked has the empty list
          let s := { s with traffic := { s.traffic with clock := now } }
          some (s.resume service id source now (some (.ok ([], some ⟨now, s.marks.invalidations⟩))))
      | _ => none
    | _ => none
  | .source id input =>
    match s.loads id with
    | .idle => s.callSource service id now input
    | .gathering _ _ parts =>
      if (parts input.source).isCalling && !input.cancels then s.call service id now input else none
    | _ => none
  | .finish id =>
    match s.loads id with
    | .gathering _ calledAt parts =>
      match parts .ollama, parts .mcp with
      | .done models, .done tools =>
        let parts : Source → Loaded
          | .ollama => models
          | .mcp => tools
        some (s.put id now (s.service.lock.leave id)
          (.done (InventoryService.gathered s.service calledAt now parts)))
      | _, _ => none
    | _ => none

/-- One move, on a clock that does not go back. -/
def take (s : Deployment) (go : Move × Time) : Option Deployment :=
  if s.traffic.clock ≤ go.2 then s.move service go.2 go.1 else none

/-- A move. -/
def Step (s : Deployment) (go : Move × Time) (s' : Deployment) : Prop := s.take service go = some s'

end Deployment

end AgentRuntime.Inventory
