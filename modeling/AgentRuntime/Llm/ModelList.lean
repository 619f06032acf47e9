import AgentRuntime.Data.Json
import AgentRuntime.Data.Text
import AgentRuntime.Lib.FifoLock
import AgentRuntime.State.RunRecord

/-!
# The list of the installed models

Port of `OllamaClient.list_models`. The call is cut at its awaits: the lock of the list, and the request
`GET /api/tags`. What the HTTP client makes of the answer, its JSON value or the exception, is an input.
-/

namespace AgentRuntime.Llm
open Text State

/-- source `_format_exception`, and `_http_error_message` for an exception other than a status -/
def formatException (type message : String) : String :=
  let text := strip message
  if text = "" then type else type ++ ": " ++ text

/-- What a request for the models fails with: `OllamaError`, an exception that passes through, or a
    cancellation. -/
inductive ModelsError where
  | ollama (message : String)
  | raised (type message : String)
  | cancelled
deriving DecidableEq

/-- source `_format_exception` -/
def ModelsError.format : ModelsError → String
  | .ollama message => formatException "OllamaError" message
  | .raised type message => formatException type message
  | .cancelled => formatException "CancelledError" ""

/-- How the HTTP client ends the request: with the JSON value of a 2xx answer, with the exception that
    `raise_for_status` raises for another status, with an exception of its own or one of the JSON decoder,
    or with any other exception. -/
inductive TagsOutcome where
  | payload (value : Json)
  | status (statusCode : Nat) (text statusText : String)
  | failed (type message : String)
  | raised (type message : String)

/-- The name of the type of a JSON value that is not iterable. -/
def pyTypeName : Json → String
  | .bool _ => "bool"
  | .int _ => "int"
  | .float _ => "float"
  | _ => "NoneType"

/-- The objects of an array. -/
def objectsOf (items : List Json) : List JsonObject :=
  items.filterMap fun item =>
    match item with
    | .obj fields => some fields
    | _ => none

/-- The models of an answer, as `list_models` reads them. -/
def modelsOf : TagsOutcome → Except ModelsError (List JsonObject)
  | .payload (.obj payload) =>
    let models := (JsonObject.get? payload "models").getD .null
    if models.truthy then
      match models with
      | .arr items => .ok (objectsOf items)
      | .str _ | .obj _ => .ok []
      | value => .error (.raised "TypeError" ("'" ++ pyTypeName value ++ "' object is not iterable"))
    else .ok []
  | .payload _ => .error (.ollama "Ollama /api/tags returned a non-object payload.")
  | .status statusCode text statusText =>
    let line := (strip text).toList.map fun c => if c = '\n' then ' ' else c
    let body := String.ofList (line.take 500)
    let detail := if body = "" then "" else "; response=" ++ body
    .error (.ollama ("Ollama HTTP " ++ toString statusCode ++ ": " ++ statusText ++ detail))
  | .failed type message => .error (.ollama (formatException type message))
  | .raised type message => .error (.raised type message)

/-- The settings that `list_models` reads. -/
structure OllamaClient where
  inventoryCacheTtlSeconds : Nat := 60
  inventoryStaleIfErrorSeconds : Nat := 300

/-- source `_SharedOllamaRuntime`, the cache of the models -/
structure ModelsState where
  modelsLock : FifoLock Nat := {}
  modelsCache : Option (List JsonObject) := none
  modelsCachedAt : Time := 0

/-- Where a call of `list_models` stands. -/
inductive Listing where
  | idle
  | waiting (forceRefresh allowStale : Bool)
  | fetching (allowStale : Bool) (now : Time) (cached : Option (List JsonObject))
  | done (result : Except ModelsError (List JsonObject))

/-- What lets a call of `list_models` go on. -/
inductive ListingInput where
  | call (forceRefresh allowStale : Bool)
  | woken
  | answered (outcome : TagsOutcome)
  | cancelled

namespace OllamaClient

variable (ollama : OllamaClient)

/-- The check of `list_models`, before the lock and under it. -/
def modelsFresh (s : ModelsState) (now : Time) (forceRefresh : Bool) : Bool :=
  !forceRefresh && s.modelsCache.isSome &&
    now - s.modelsCachedAt ≤ seconds ollama.inventoryCacheTtlSeconds

variable (id : Nat)

/-- The call has the lock. -/
def enterModels (s : ModelsState) (now : Time) (forceRefresh allowStale : Bool) :
    ModelsState × Listing :=
  if ollama.modelsFresh s now forceRefresh then
    ({ s with modelsLock := s.modelsLock.leave id }, .done (.ok (s.modelsCache.getD [])))
  else (s, .fetching allowStale now s.modelsCache)

/-- source `list_models`, up to its first await -/
def listModels (s : ModelsState) (now : Time) (forceRefresh allowStale : Bool) :
    ModelsState × Listing :=
  if ollama.modelsFresh s now forceRefresh then (s, .done (.ok (s.modelsCache.getD [])))
  else
    let free := s.modelsLock.queue = []
    let s := { s with modelsLock := s.modelsLock.join id }
    if free then ollama.enterModels id s now forceRefresh allowStale
    else (s, .waiting forceRefresh allowStale)

/-- The request ends. Only `OllamaError`, to which the exceptions of the HTTP client and of the JSON
    decoder are turned, falls back on the old list. -/
def received (s : ModelsState) (now : Time) (allowStale : Bool) (start : Time)
    (cached : Option (List JsonObject)) (result : Except ModelsError (List JsonObject)) :
    ModelsState × Listing :=
  let s := { s with modelsLock := s.modelsLock.leave id }
  match result with
  | .ok models => ({ s with modelsCache := some models, modelsCachedAt := now }, .done (.ok models))
  | .error (.ollama message) =>
    match cached with
    | some models =>
      if allowStale &&
          start - s.modelsCachedAt ≤ seconds ollama.inventoryStaleIfErrorSeconds then
        (s, .done (.ok models))
      else (s, .done (.error (.ollama message)))
    | none => (s, .done (.error (.ollama message)))
  | .error error => (s, .done (.error error))

/-- A call goes on from its await, where it can. -/
def advance (s : ModelsState) (now : Time) : Listing → ListingInput → Option (ModelsState × Listing)
  | .idle, .call forceRefresh allowStale =>
    some (ollama.listModels id s now forceRefresh allowStale)
  | .waiting forceRefresh allowStale, .woken =>
    if s.modelsLock.Holds id then some (ollama.enterModels id s now forceRefresh allowStale) else none
  | .waiting _ _, .cancelled =>
    some ({ s with modelsLock := s.modelsLock.leave id }, .done (.error .cancelled))
  | .fetching allowStale start cached, .answered outcome =>
    some (ollama.received id s now allowStale start cached (modelsOf outcome))
  | .fetching allowStale start cached, .cancelled =>
    some (ollama.received id s now allowStale start cached (.error .cancelled))
  | _, _ => none

/-- The step answers the call from the cache. -/
def hits (s : ModelsState) (now : Time) : Listing → ListingInput → Bool
  | .idle, .call forceRefresh _ | .waiting forceRefresh _, .woken =>
    ollama.modelsFresh s now forceRefresh
  | _, _ => false

end OllamaClient

/-- The list with which the server answers the call in this step. -/
def fetchedModels : Listing → ListingInput → Option (List JsonObject)
  | .fetching _ _ _, .answered outcome => (modelsOf outcome).toOption
  | _, _ => none

/-- The call wants a list that is fresh. -/
def Listing.strict : Listing → Prop
  | .waiting _ allowStale | .fetching allowStale _ _ => allowStale = false
  | _ => False

section Effects

variable {ollama : OllamaClient} {id : Nat} {s : ModelsState} {now : Time} {listing : Listing}
variable {input : ListingInput} {result : ModelsState × Listing}

/-- The cache stays as it is. -/
def SameModels (s s' : ModelsState) : Prop :=
  s'.modelsCache = s.modelsCache ∧ s'.modelsCachedAt = s.modelsCachedAt

/-- What a step of a call does to the list: it stores the answer of the server, or it leaves the list as
    it is. -/
inductive ModelsStep (s : ModelsState) (now : Time) (listing : Listing) (input : ListingInput)
    (s' : ModelsState) : Prop where
  | stored {models : List JsonObject} :
    fetchedModels listing input = some models →
    s'.modelsCache = some models →
    s'.modelsCachedAt = now →
    ModelsStep s now listing input s'
  | kept :
    fetchedModels listing input = none →
    SameModels s s' →
    ModelsStep s now listing input s'

/-- A call that wants a fresh list goes on, fails, or returns the list of the client, or what the server
    answered. -/
inductive StrictListing (ollama : OllamaClient) (s : ModelsState) (now : Time) (listing : Listing)
    (input : ListingInput) (listing' : Listing) : Prop where
  | goes :
    listing'.strict →
    StrictListing ollama s now listing input listing'
  | fails {error : ModelsError} :
    listing' = .done (.error error) →
    StrictListing ollama s now listing input listing'
  | hit {models : List JsonObject} :
    ollama.hits s now listing input = true →
    s.modelsCache = some models →
    listing' = .done (.ok models) →
    StrictListing ollama s now listing input listing'
  | fetched {models : List JsonObject} :
    fetchedModels listing input = some models →
    listing' = .done (.ok models) →
    StrictListing ollama s now listing input listing'

lemma enterModels_same {forceRefresh allowStale : Bool} :
    SameModels s (ollama.enterModels id s now forceRefresh allowStale).1 := by
  unfold OllamaClient.enterModels
  split <;> exact ⟨rfl, rfl⟩

lemma received_error {allowStale : Bool} {start : Time} {cached : Option (List JsonObject)}
    {error : ModelsError} :
    SameModels s (ollama.received id s now allowStale start cached (.error error)).1 := by
  unfold OllamaClient.received
  cases error with
  | ollama message =>
    simp only
    cases cached with
    | none => exact ⟨rfl, rfl⟩
    | some models =>
      simp only
      split <;> exact ⟨rfl, rfl⟩
  | raised | cancelled => exact ⟨rfl, rfl⟩

/-- What a step of a call does to the list of the models. -/
theorem advance_models (advanced : ollama.advance id s now listing input = some result) :
    ModelsStep s now listing input result.1 := by
  unfold OllamaClient.advance at advanced
  split at advanced
  · cases advanced
    refine .kept rfl ?_
    unfold OllamaClient.listModels
    split
    · exact ⟨rfl, rfl⟩
    · dsimp only
      split
      · exact enterModels_same (s := { s with modelsLock := s.modelsLock.join id })
      · exact ⟨rfl, rfl⟩
  · split at advanced
    · cases advanced
      exact .kept rfl enterModels_same
    · cases advanced
  · cases advanced
    exact .kept rfl ⟨rfl, rfl⟩
  · next outcome =>
    cases advanced
    cases answer : modelsOf outcome with
    | ok models => exact .stored (by rw [fetchedModels, answer]; rfl) rfl rfl
    | error error => exact .kept (by rw [fetchedModels, answer]; rfl) received_error
  · cases advanced
    exact .kept rfl received_error
  · cases advanced

lemma modelsFresh_some {forceRefresh : Bool} (fresh : ollama.modelsFresh s now forceRefresh = true) :
    s.modelsCache = some (s.modelsCache.getD []) := by
  simp only [OllamaClient.modelsFresh, Bool.and_eq_true] at fresh
  obtain ⟨models, cache⟩ := Option.isSome_iff_exists.mp fresh.1.2
  rw [cache, Option.getD_some]

/-- A call that wants a fresh list starts. -/
lemma begin_listing {forceRefresh : Bool}
    (advanced : ollama.advance id s now listing (.call forceRefresh false) = some result) :
    listing = .idle ∧ StrictListing ollama s now .idle (.call forceRefresh false) result.2 := by
  cases listing with
  | idle =>
    refine ⟨rfl, ?_⟩
    cases advanced
    unfold OllamaClient.listModels
    split
    · next fresh => exact .hit fresh (modelsFresh_some fresh) rfl
    · next stale =>
      dsimp only
      split
      · unfold OllamaClient.enterModels
        split
        · next fresh => exact absurd fresh stale
        · exact .goes rfl
      · exact .goes rfl
  | _ => cases advanced

/-- A call that wants a fresh list goes on. -/
theorem advance_listing (wants : listing.strict)
    (advanced : ollama.advance id s now listing input = some result) :
    StrictListing ollama s now listing input result.2 := by
  unfold OllamaClient.advance at advanced
  split at advanced
  · exact wants.elim
  · split at advanced
    · cases advanced
      cases wants
      unfold OllamaClient.enterModels
      split
      · next fresh => exact .hit fresh (modelsFresh_some fresh) rfl
      · exact .goes rfl
    · cases advanced
  · cases advanced
    exact .fails rfl
  · next outcome =>
    cases advanced
    cases wants
    cases answer : modelsOf outcome with
    | ok models => exact .fetched (by rw [fetchedModels, answer]; rfl) rfl
    | error error =>
      apply StrictListing.fails
      show _ = Listing.done (.error error)
      unfold OllamaClient.received
      cases error with
      | ollama message =>
        simp only [Bool.false_and, Bool.false_eq_true, if_false]
        split <;> rfl
      | raised | cancelled => rfl
  · cases advanced
    exact .fails rfl
  · cases advanced

end Effects

end AgentRuntime.Llm
