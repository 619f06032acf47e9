import AgentRuntime.Graph.Services

/-!
# The model selector

Port of `ModelSelector` in `services/inventory.py`, with the settings that it reads and the capabilities
that `llm/model_registry.py` infers from a model's name. The lowering of letter case (`str.lower`) is a
parameter.
-/

namespace AgentRuntime
open Text

namespace Settings

/-- source `model_role_catalog` -/
def modelRoleCatalog (settings : Settings) : List (String × String) :=
  [("planner", settings.modelPlanner), ("simple", settings.modelSimple),
    ("general", settings.modelGeneral), ("search", settings.modelSearch),
    ("reasoning", settings.modelReasoning), ("fast_reasoning", settings.modelFastReasoning),
    ("heavy", settings.modelHeavy), ("synthesis", settings.modelSynthesis),
    ("writer", settings.modelWriter), ("classifier", settings.modelClassifier),
    ("vision", settings.modelVision), ("fallback", settings.modelFallback),
    ("embedding", settings.embeddingModel)]

/-- source `model_for_key` -/
def modelForKey (settings : Settings) (lower : String → String) (key : String) : String :=
  let role := lower (strip (if key = "" then "general" else key))
  (settings.modelRoleCatalog.lookup role).getD settings.modelGeneral

end Settings

namespace Graph

/-- source `RuntimeInventory.model_names` -/
def RuntimeInventory.modelNames (inventory : RuntimeInventory) : List String :=
  let name (item : JsonObject) : Option String :=
    match ((item.get? "name").filter Json.truthy).or (item.get? "model") with
    | some (.str name) => if name = "" then none else some name
    | _ => none
  (inventory.models.filterMap name).eraseDups

/-- source `ModelCapabilities`, without what only the admission of a model reads -/
structure ModelCapabilities where
  chat : Bool
  vision : Bool
  embedding : Bool

/-- source `capabilities_for` -/
def capabilitiesFor (lower : String → String) (model : String) : ModelCapabilities :=
  let name := lower (strip model)
  let embedding := decide (Contains name "embedding") || decide (Contains name "embed")
  { chat := !embedding
    vision := ["-vl", ":vl", "vision", "llava"].any fun token => Contains name token
    embedding }

namespace ModelSelector

variable (settings : Settings) (lower : String → String)

/-- source `_compatible` -/
def compatible (role model : String) : Bool :=
  let caps := capabilitiesFor lower model
  if role = "vision" then caps.vision
  else if role = "embedding" then caps.embedding
  else caps.chat && !caps.embedding

/-- source `_preferred_candidates` -/
def preferredCandidates (key : String) : List String :=
  let preferences : List (String × List String) :=
    [("planner", [settings.modelPlanner, settings.modelGeneral, settings.modelClassifier,
        settings.modelSearch]),
      ("simple", [settings.modelSimple, settings.modelGeneral, settings.modelFallback]),
      ("general", [settings.modelGeneral, settings.modelSimple, settings.modelSearch,
        settings.modelFallback]),
      ("search", [settings.modelSearch, settings.modelGeneral, settings.modelFallback]),
      ("reasoning", [settings.modelReasoning, settings.modelFastReasoning, settings.modelHeavy,
        settings.modelSearch]),
      ("fast_reasoning", [settings.modelFastReasoning, settings.modelReasoning,
        settings.modelGeneral, settings.modelFallback]),
      ("heavy", [settings.modelHeavy, settings.modelSynthesis, settings.modelReasoning,
        settings.modelSearch]),
      ("synthesis", [settings.modelSynthesis, settings.modelHeavy, settings.modelReasoning,
        settings.modelSearch]),
      ("writer", [settings.modelWriter, settings.modelGeneral, settings.modelSynthesis,
        settings.modelFallback]),
      ("classifier", [settings.modelClassifier, settings.modelGeneral, settings.modelSimple,
        settings.modelFallback]),
      ("vision", [settings.modelVision]),
      ("fallback", [settings.modelFallback, settings.modelGeneral])]
  let candidates := (preferences.lookup key).getD
    [settings.modelForKey lower key, settings.modelFallback]
  (candidates.filter fun candidate => candidate ≠ "").eraseDups

/-- The `RuntimeError` that no compatible installed model is available for the role. -/
structure NoCompatibleModel where
  role : String
deriving DecidableEq

/-- source `resolve`: without a list of live models the configured one, else a live one only -/
def resolve (key : String) (inventory : RuntimeInventory) : Except NoCompatibleModel String :=
  let role := if key = "" then "general" else key
  let configured := settings.modelForKey lower role
  let available := inventory.modelNames
  let usable (model : String) : Bool := available.contains model && compatible lower role model
  if available.isEmpty then .ok configured
  else
    match (preferredCandidates settings lower role).find? usable with
    | some candidate => .ok candidate
    | none =>
      if usable settings.modelFallback then .ok settings.modelFallback else .error ⟨role⟩

variable {settings lower}

/-- With a list of live models, what is resolved for a role is one of them, and compatible. -/
lemma resolve_live {key model : String} {inventory : RuntimeInventory}
    (listed : inventory.modelNames ≠ []) (named : key ≠ "")
    (resolved : resolve settings lower key inventory = .ok model) :
    model ∈ inventory.modelNames ∧ compatible lower key model = true := by
  simp only [resolve, if_neg named, List.isEmpty_iff, if_neg listed] at resolved
  split at resolved
  · next found =>
    cases resolved
    simpa using List.find?_some found
  · split at resolved
    · next usable =>
      cases resolved
      simpa using usable
    · cases resolved

end ModelSelector

/-- For the graph's roles, the compatible models are those that chat and do not embed. -/
lemma Role.compatible_iff {lower : String → String} {role : Role} {model : String} :
    ModelSelector.compatible lower role.text model = true ↔
      (capabilitiesFor lower model).embedding = false := by
  have role_ne : role.text ≠ "vision" ∧ role.text ≠ "embedding" := by
    cases role <;> decide
  simp [ModelSelector.compatible, role_ne, capabilitiesFor]

/-- No role has an empty text. -/
lemma Role.text_ne (role : Role) : role.text ≠ "" := by
  cases role <;> decide

end Graph

end AgentRuntime
