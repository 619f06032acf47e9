import AgentRuntime.Data.Json
import AgentRuntime.State.RunRecord

/-!
# The graph's schemas

The validated values that cross the graph: plans, worker results, verification reports, evidence and
groundings (`schemas/*.py`). What a model returns reaches the graph only as a value of these types, so
what the source checks on construction is a field of the structure. Confidences are left out: the
graph writes them and reads none.
-/

namespace AgentRuntime.Graph

/-- source `PlanTask` -/
structure PlanTask where
  id : String
  objective : String
  requiredEvidence : List String := []
  completionCriteria : List String := []
  dependsOn : List String := []
deriving DecidableEq, Repr

/-- source `ExecutionPlan`: a goal and at least one task -/
structure ExecutionPlan where
  goal : String
  tasks : List PlanTask
  nonempty : tasks ≠ []
deriving DecidableEq

/-- source `Claim` -/
structure Claim where
  claimId : Option String := none
  text : String
  evidenceIds : List String := []
  uncertainty : Option String := none
  requiresCurrentEvidence : Bool := false
deriving DecidableEq, Repr

/-- source `WorkerResult` -/
structure WorkerResult where
  answer : String
  claims : List Claim := []
  assumptions : List String := []
  missingInformation : List String := []
deriving DecidableEq, Repr

/-- source `Verdict` -/
inductive Verdict where
  | pass | revise | research | replan | terminate
deriving DecidableEq, Repr

/-- The severity of an issue. -/
inductive Severity where
  | low | medium | high
deriving DecidableEq, Repr

/-- source `VerificationIssue` -/
structure VerificationIssue where
  code : String
  description : String
  severity : Severity := .medium
  claimId : Option String := none
  evidenceIds : List String := []
deriving DecidableEq, Repr

/-- source `VerificationReport` -/
structure VerificationReport where
  verdict : Verdict
  taskComplete : Bool
  issues : List VerificationIssue := []
  requiredActions : List String := []
deriving DecidableEq, Repr

/-- The verdict of a final verification. -/
inductive FinalVerdict where
  | pass | revise
deriving DecidableEq, Repr

/-- source `FinalVerificationReport`, with its validator `pass_requires_complete` as a field -/
structure FinalVerificationReport where
  verdict : FinalVerdict
  answerComplete : Bool
  issues : List VerificationIssue := []
  requiredActions : List String := []
  pass_requires_complete : verdict = .pass → answerComplete = true := by simp
deriving DecidableEq

/-- source `TrustClass` -/
inductive TrustClass where
  | retrievedExternal | userSupplied | internalSystem | derivedSummary | toolError | unknownLegacy
deriving DecidableEq, Repr

/-- source `FreshnessStatus` -/
inductive FreshnessStatus where
  | current | stale | unknown | notTimeSensitive
deriving DecidableEq, Repr

/-- source `SourceQuality` -/
inductive SourceQuality where
  | primaryAuthoritative | primaryNonAuthoritative | secondaryReputable | secondaryUnknown
  | userSupplied | unverifiable | unknown
deriving DecidableEq, Repr

/-- source `InjectionScanStatus` -/
inductive InjectionScanStatus where
  | notScanned | clean | suspicious | blocked
deriving DecidableEq, Repr

/-- source `ToolStatus` -/
inductive ToolStatus where
  | success | failed | timeout | notApplicable | unknown
deriving DecidableEq, Repr

/-- Evidence that may support claims neither comes from an untrusted class nor from a failed tool
    (source `enforce_non_supporting_failures`). -/
def mayBeEligible (trustClass : TrustClass) (toolStatus : ToolStatus) : Bool :=
  !(trustClass = .toolError || trustClass = .userSupplied || trustClass = .unknownLegacy)
    && !(toolStatus = .failed || toolStatus = .timeout)

/-- The declared fields of `EvidenceItem`, before its validator has run. -/
structure EvidenceFields where
  evidenceId : String
  runId : String := "legacy"
  taskId : String := "legacy"
  queryId : Option String := none
  toolName : Option String := none
  sourceUri : Option String := none
  canonicalUri : Option String := none
  sourceTitle : Option String := none
  retrievedAt : Time
  publishedAt : Option Time := none
  contentType : String := "text/plain"
  rawArtifactUri : Option String := none
  normalizedText : String := ""
  summary : String := ""
  contentHash : String := ""
  trustClass : TrustClass := .unknownLegacy
  freshnessStatus : FreshnessStatus := .unknown
  sourceQuality : SourceQuality := .unknown
  injectionScanStatus : InjectionScanStatus := .notScanned
  truncated : Bool := false
  toolStatus : ToolStatus := .unknown
  eligibleForClaimSupport : Bool := false
  metadata : JsonObject := []

/-- source `EvidenceItem`, with what its validator `enforce_non_supporting_failures` establishes as
    fields -/
structure EvidenceItem extends EvidenceFields where
  summary := normalizedText
  summary_given : summary = "" → normalizedText = "" := by simp
  hash_given : contentHash ≠ ""
  eligible_allowed : eligibleForClaimSupport = true → mayBeEligible trustClass toolStatus = true := by
    simp

/-- source `EvidenceItem.source`: the first of the title, the tool and the address that is not empty -/
def EvidenceItem.source (item : EvidenceItem) : String :=
  let given := [item.sourceTitle, item.toolName, item.sourceUri].filterMap fun text =>
    text.filter fun text => text ≠ ""
  given.headD "unknown"

/-- source `GroundingStatus`; no code path grades a claim `contradicted` -/
inductive GroundingStatus where
  | supported | partiallySupported | contradicted | stale | unsupported
deriving DecidableEq, Repr

/-- The text of a grounding status. -/
def GroundingStatus.text : GroundingStatus → String
  | .supported => "supported"
  | .partiallySupported => "partially_supported"
  | .contradicted => "contradicted"
  | .stale => "stale"
  | .unsupported => "unsupported"

/-- source `ClaimGroundingResult` -/
structure ClaimGroundingResult where
  claimId : String
  status : GroundingStatus
  supportingEvidenceIds : List String := []
  contradictoryEvidenceIds : List String := []
  explanation : String
deriving DecidableEq, Repr

end AgentRuntime.Graph
