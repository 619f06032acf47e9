import AgentRuntime.Data.Text
import AgentRuntime.Graph.Schemas
import AgentRuntime.Settings
import AgentRuntime.Tools.Executor

/-!
# Services of the graph

The deterministic functions that the nodes call: the checks of a worker's output
(`services/answer_quality.py`), the grounding of claims (`services/claim_grounding.py`), the evidence
records (`services/evidence.py`) and the runtime router (`services/routing.py`). What the router decides
about tasks and tools and the reading of raw payloads are parameters of the graph, so what is proved
holds whatever they compute; the models that it selects are in `Selector.lean`.
-/

namespace AgentRuntime.Graph
open Text

/-- source `deterministic_output_issues` -/
def deterministicOutputIssues (text : String) (minimumChars : Nat := 20) : List String :=
  let clean := stripIf isSpace text.toList
  (if clean.length < minimumChars then ["answer_too_short"] else []) ++
    if 3 < count (clean.take 50) clean && 100 < clean.length then ["possible_repetition"] else []

section Grounding

/-- `by_id.get(evidence_id)`: the last record with an id counts. -/
def evidenceById (evidence : List EvidenceItem) (evidenceId : String) : Option EvidenceItem :=
  evidence.reverse.find? fun item => item.evidenceId = evidenceId

/-- The record supports claims of this run and task. -/
def validFor (runId taskId : String) (item : EvidenceItem) : Bool :=
  item.runId = runId && item.taskId = taskId && item.eligibleForClaimSupport &&
    item.toolStatus = .success

/-- The record is as fresh as the claim requires. -/
def freshFor (claim : Claim) (item : EvidenceItem) : Bool :=
  if claim.requiresCurrentEvidence then item.freshnessStatus = .current
  else item.freshnessStatus ≠ .stale

/-- The grounding of one claim, in the body of `ground_claims`. -/
def groundClaim (evidence : List EvidenceItem) (runId taskId : String) (index : Nat)
    (claim : Claim) : ClaimGroundingResult :=
  let requested := claim.evidenceIds.filterMap (evidenceById evidence)
  let valid := requested.filter (validFor runId taskId)
  let stale := valid.filter fun item => item.freshnessStatus = .stale
  let acceptable := valid.filter (freshFor claim)
  let status : GroundingStatus × String :=
    if claim.requiresCurrentEvidence && !stale.isEmpty && acceptable.isEmpty then
      (.stale, "All otherwise valid supporting evidence is stale or not current.")
    else if !acceptable.isEmpty && acceptable.length = claim.evidenceIds.length then
      (.supported, "Every referenced evidence record is valid for this run and task.")
    else if !acceptable.isEmpty then
      (.partiallySupported,
        "Some referenced evidence is missing, ineligible, stale, or foreign.")
    else (.unsupported, "No eligible same-run, same-task evidence supports the claim.")
  { claimId := match claim.claimId with
      | some claimId => if claimId = "" then "claim-" ++ toString index else claimId
      | none => "claim-" ++ toString index
    status := status.1
    supportingEvidenceIds := acceptable.map fun item => item.evidenceId
    explanation := status.2 }

/-- source `ground_claims`; claims are numbered from 1 -/
def groundClaims (claims : List Claim) (evidence : List EvidenceItem) (runId taskId : String) :
    List ClaimGroundingResult :=
  claims.zipIdx.map fun (claim, index) => groundClaim evidence runId taskId (index + 1) claim

end Grounding

/-- What reading a payload yields: its normalized text with its hash and its scan, and what was found
    in the data about where and when it was published. -/
structure Reading where
  text : String
  truncated : Bool := false
  hash : String
  sourceUri : Option String := none
  canonicalUri : Option String := none
  sourceTitle : Option String := none
  retrievedAt : Time
  publishedAt : Option Time := none
  rawArtifactUri : Option String := none
  freshness : FreshnessStatus := .unknown
  quality : SourceQuality := .unknown
  scan : InjectionScanStatus := .clean
  hash_given : hash ≠ "" := by decide

/-- What reading an empty text yields. -/
def emptyReading : Reading where
  text := ""
  hash := "e3b0c44298fc1c149afbf4c8996fb92427ae41e4649b934ca495991b7852b855"
  retrievedAt := 0

/-- How raw values are read: the payload and the data of a tool's result for a query, the content of
    an entry of the caller's context, and the id of the entry at a position. -/
structure EvidenceReader where
  result : (payload data : Json) → (query : String) → Reading
  content : Json → Reading
  entryId : JsonObject → Nat → String

/-- source `evidence_from_tool_result` -/
def evidenceFromToolResult (reader : EvidenceReader) (result : Tools.MCPToolResult)
    (evidenceId runId taskId : String) (queryId : Option String) (toolName query : String) :
    EvidenceItem :=
  let payload := if result.ok then result.data
    else .str (match result.error with
      | some error => if error = "" then "tool request failed" else error
      | none => "tool request failed")
  let reading := reader.result payload result.data query
  { evidenceId, runId, taskId, queryId
    toolName := some toolName
    sourceUri := reading.sourceUri
    canonicalUri := reading.canonicalUri
    sourceTitle := some (match reading.sourceTitle with
      | some title => if title = "" then toolName else title
      | none => toolName)
    retrievedAt := reading.retrievedAt
    publishedAt := reading.publishedAt
    rawArtifactUri := reading.rawArtifactUri
    normalizedText := reading.text
    contentHash := reading.hash
    trustClass := if result.ok then .retrievedExternal else .toolError
    freshnessStatus := if result.ok then reading.freshness else .unknown
    sourceQuality := if result.ok then reading.quality else .unverifiable
    injectionScanStatus := reading.scan
    truncated := reading.truncated
    toolStatus := if result.ok then .success else .failed
    eligibleForClaimSupport := result.ok
    metadata := [("query", .str query)]
    hash_given := reading.hash_given
    eligible_allowed := by
      intro ok
      simp [ok, mayBeEligible] }

/-- The record of one entry of the caller's context, in the body of `evidence_from_metadata`. -/
def contextRecord (reader : EvidenceReader) (runId taskId : String) (entry : Json) (index : Nat) :
    EvidenceItem :=
  let payload : JsonObject := match entry with
    | .obj fields => fields
    | entry => [("content", entry)]
  let reading := reader.content ((payload.get? "content").getD (.obj payload))
  { evidenceId := reader.entryId payload index
    runId, taskId
    sourceTitle := some "request_metadata"
    retrievedAt := reading.retrievedAt
    normalizedText := reading.text
    contentHash := reading.hash
    trustClass := .userSupplied
    injectionScanStatus := reading.scan
    truncated := reading.truncated
    toolStatus := .notApplicable
    metadata := payload.filter fun (key, _) =>
      !(["id", "evidence_id", "source", "content"].contains key)
    hash_given := reading.hash_given }

/-- source `evidence_from_metadata`: context of the caller never supports a claim -/
def evidenceFromMetadata (reader : EvidenceReader) (metadata : JsonObject)
    (runId taskId : String) : List EvidenceItem :=
  match metadata.get? "evidence" with
  | some (.arr entries) =>
    entries.zipIdx.map fun (entry, index) => contextRecord reader runId taskId entry (index + 1)
  | _ => []

/-- source `deduplicate_evidence`: the first record of each address and content -/
def deduplicateEvidence (items : List EvidenceItem) : List EvidenceItem :=
  let key (item : EvidenceItem) := (item.canonicalUri.getD "", item.contentHash)
  items.foldl (fun output item =>
    if (output.map key).contains (key item) then output else output ++ [item]) []

/-- The role a model is selected for. -/
inductive Role where
  | planner | search | reasoning | fastReasoning | simple | general | synthesis
deriving DecidableEq, Repr

/-- The text of a role, as the source names it. -/
def Role.text : Role → String
  | .planner => "planner"
  | .search => "search"
  | .reasoning => "reasoning"
  | .fastReasoning => "fast_reasoning"
  | .simple => "simple"
  | .general => "general"
  | .synthesis => "synthesis"

/-- source `TaskRoutingDecision` -/
structure TaskRoutingDecision where
  requiresExternalEvidence : Bool
  workerRole : Role
  verifierRole : Role
  reason : String
deriving DecidableEq, Repr

/-- source `ToolRoutingDecision`, without the score and the reason that are only logged -/
structure ToolRoutingDecision where
  name : String
  arguments : JsonObject

/-- The live models and tools (source `RuntimeInventory`). -/
structure RuntimeInventory where
  models : List JsonObject
  tools : List JsonObject

/-- source `RuntimeRouter`: the decisions it takes for the graph about tasks and tools -/
structure RuntimeRouter where
  classifyTask : (userRequest : String) → PlanTask → TaskRoutingDecision
  /-- the queries name the date at which they are built -/
  buildResearchQueries : (now : Time) → (userRequest : String) → PlanTask →
    (requiredActions : List String) → (limit : Nat) → List String
  selectTools : (userRequest : String) → PlanTask → (requiredActions : List String) →
    RuntimeInventory → (metadata : JsonObject) → (limit : Nat) → (query : String) →
    List ToolRoutingDecision
  queryFingerprint : String → String

end AgentRuntime.Graph
