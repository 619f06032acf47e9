import AgentRuntime.Graph.Build
import AgentRuntime.Graph.Deduplication

/-!
# The provenance of evidence

The graph keeps evidence in its state as JSON: every node reads the records with `model_validate` and
writes them back with `model_dump` (`_state_evidence` in `graph.py`, `schemas/evidence.py`). A pass
through that form gives the same records (`stateEvidence_dumped`), so what the three constructors and
the validator settled about a record stays: context of the caller and failed tool calls never support a
claim (`evidence_provenance`).
-/

namespace AgentRuntime.Graph

section Texts

def TrustClass.text : TrustClass → String
  | .retrievedExternal => "retrieved_external"
  | .userSupplied => "user_supplied"
  | .internalSystem => "internal_system"
  | .derivedSummary => "derived_summary"
  | .toolError => "tool_error"
  | .unknownLegacy => "unknown_legacy"

def TrustClass.all : List TrustClass :=
  [.retrievedExternal, .userSupplied, .internalSystem, .derivedSummary, .toolError, .unknownLegacy]

def FreshnessStatus.text : FreshnessStatus → String
  | .current => "current"
  | .stale => "stale"
  | .unknown => "unknown"
  | .notTimeSensitive => "not_time_sensitive"

def FreshnessStatus.all : List FreshnessStatus := [.current, .stale, .unknown, .notTimeSensitive]

def SourceQuality.text : SourceQuality → String
  | .primaryAuthoritative => "primary_authoritative"
  | .primaryNonAuthoritative => "primary_non_authoritative"
  | .secondaryReputable => "secondary_reputable"
  | .secondaryUnknown => "secondary_unknown"
  | .userSupplied => "user_supplied"
  | .unverifiable => "unverifiable"
  | .unknown => "unknown"

def SourceQuality.all : List SourceQuality :=
  [.primaryAuthoritative, .primaryNonAuthoritative, .secondaryReputable, .secondaryUnknown,
    .userSupplied, .unverifiable, .unknown]

def InjectionScanStatus.text : InjectionScanStatus → String
  | .notScanned => "not_scanned"
  | .clean => "clean"
  | .suspicious => "suspicious"
  | .blocked => "blocked"

def InjectionScanStatus.all : List InjectionScanStatus := [.notScanned, .clean, .suspicious, .blocked]

def ToolStatus.text : ToolStatus → String
  | .success => "success"
  | .failed => "failed"
  | .timeout => "timeout"
  | .notApplicable => "not_applicable"
  | .unknown => "unknown"

def ToolStatus.all : List ToolStatus := [.success, .failed, .timeout, .notApplicable, .unknown]

end Texts

section Validation

/-- What validation takes from outside the schema: the digest of a text that has none, and how values
    that JSON does not have, or that may be spelled in several ways, are written and read. -/
structure Validation where
  sha256 : String → String
  isoformat : Time → String
  datetime : Json → Option Time
  boolean : Json → Option Bool
  sha256_given : ∀ text, sha256 text ≠ ""
  datetime_isoformat : ∀ time, datetime (.str (isoformat time)) = some time
  boolean_bool : ∀ value, boolean (.bool value) = some value

/-- An optional text as JSON. -/
def jsonText : Option String → Json
  | some text => .str text
  | none => .null

/-- source `model_dump(mode="json")` of an `EvidenceItem` -/
def EvidenceItem.modelDump (validation : Validation) (item : EvidenceItem) : JsonObject :=
  [ ("evidence_id", .str item.evidenceId),
    ("run_id", .str item.runId),
    ("task_id", .str item.taskId),
    ("query_id", jsonText item.queryId),
    ("tool_name", jsonText item.toolName),
    ("source_uri", jsonText item.sourceUri),
    ("canonical_uri", jsonText item.canonicalUri),
    ("source_title", jsonText item.sourceTitle),
    ("retrieved_at", .str (validation.isoformat item.retrievedAt)),
    ("published_at", jsonText (item.publishedAt.map validation.isoformat)),
    ("content_type", .str item.contentType),
    ("raw_artifact_uri", jsonText item.rawArtifactUri),
    ("normalized_text", .str item.normalizedText),
    ("summary", .str item.summary),
    ("content_hash", .str item.contentHash),
    ("trust_class", .str item.trustClass.text),
    ("freshness_status", .str item.freshnessStatus.text),
    ("source_quality", .str item.sourceQuality.text),
    ("injection_scan_status", .str item.injectionScanStatus.text),
    ("truncated", .bool item.truncated),
    ("tool_status", .str item.toolStatus.text),
    ("eligible_for_claim_support", .bool item.eligibleForClaimSupport),
    ("metadata", .obj item.metadata) ]

/-- A field of type `str`. -/
def readText : Json → Option String
  | .str text => some text
  | _ => none

/-- A field of type `T | None`. -/
def readOptional {α : Type} (read : Json → Option α) : Json → Option (Option α)
  | .null => some none
  | value => (read value).map some

/-- A field of a `Literal` type. -/
def readLiteral {α : Type} (all : List α) (text : α → String) : Json → Option α
  | .str given => all.find? fun value => text value = given
  | _ => none

/-- A field of type `dict[str, Any]`. -/
def readObject : Json → Option JsonObject
  | .obj fields => some fields
  | _ => none

/-- A field of an object under the first of its names that is given, with its default. -/
def readField {α : Type} (object : JsonObject) (names : List String) (read : Json → Option α)
    (default : Option α) : Option α :=
  match names.findSome? fun name => object.get? name with
  | some value => read value
  | none => default

/-- The validation of the declared fields, each under its aliases; `now` is the default of
    `retrieved_at`. -/
def EvidenceFields.read (validation : Validation) (now : Time) (object : JsonObject) :
    Option EvidenceFields := do
  let evidenceId ← readField object ["evidence_id", "id"] readText none
  let runId ← readField object ["run_id"] readText (some "legacy")
  let taskId ← readField object ["task_id"] readText (some "legacy")
  let queryId ← readField object ["query_id"] (readOptional readText) (some none)
  let toolName ← readField object ["tool_name"] (readOptional readText) (some none)
  let sourceUri ← readField object ["source_uri"] (readOptional readText) (some none)
  let canonicalUri ← readField object ["canonical_uri"] (readOptional readText) (some none)
  let sourceTitle ← readField object ["source_title", "source"] (readOptional readText) (some none)
  let retrievedAt ← readField object ["retrieved_at"] validation.datetime (some now)
  let publishedAt ← readField object ["published_at"] (readOptional validation.datetime) (some none)
  let contentType ← readField object ["content_type"] readText (some "text/plain")
  let rawArtifactUri ← readField object ["raw_artifact_uri"] (readOptional readText) (some none)
  let normalizedText ← readField object ["normalized_text", "content"] readText (some "")
  let summary ← readField object ["summary"] readText (some "")
  let contentHash ← readField object ["content_hash"] readText (some "")
  let trustClass ← readField object ["trust_class"] (readLiteral TrustClass.all TrustClass.text)
    (some .unknownLegacy)
  let freshnessStatus ← readField object ["freshness_status"]
    (readLiteral FreshnessStatus.all FreshnessStatus.text) (some .unknown)
  let sourceQuality ← readField object ["source_quality"]
    (readLiteral SourceQuality.all SourceQuality.text) (some .unknown)
  let injectionScanStatus ← readField object ["injection_scan_status"]
    (readLiteral InjectionScanStatus.all InjectionScanStatus.text) (some .notScanned)
  let truncated ← readField object ["truncated"] validation.boolean (some false)
  let toolStatus ← readField object ["tool_status"] (readLiteral ToolStatus.all ToolStatus.text)
    (some .unknown)
  let eligibleForClaimSupport ← readField object ["eligible_for_claim_support"] validation.boolean
    (some false)
  let metadata ← readField object ["metadata"] readObject (some [])
  some
    { evidenceId, runId, taskId, queryId, toolName, sourceUri, canonicalUri, sourceTitle, retrievedAt
      publishedAt, contentType, rawArtifactUri, normalizedText, summary, contentHash, trustClass
      freshnessStatus, sourceQuality, injectionScanStatus, truncated, toolStatus
      eligibleForClaimSupport, metadata }

/-- source `enforce_non_supporting_failures` -/
def EvidenceFields.enforceNonSupportingFailures (validation : Validation) (fields : EvidenceFields) :
    EvidenceItem :=
  { fields with
    summary := if fields.summary = "" then fields.normalizedText else fields.summary
    contentHash :=
      if fields.contentHash = "" then validation.sha256 fields.normalizedText else fields.contentHash
    eligibleForClaimSupport :=
      fields.eligibleForClaimSupport && mayBeEligible fields.trustClass fields.toolStatus
    summary_given := by
      split
      · exact id
      · next given => exact fun empty => absurd empty given
    hash_given := by
      split
      · exact validation.sha256_given _
      · assumption
    eligible_allowed := fun eligible => (Bool.and_eq_true_iff.mp eligible).2 }

/-- source `EvidenceItem.model_validate`; `none` is a validation error -/
def EvidenceItem.modelValidate (validation : Validation) (now : Time) (raw : Json) :
    Option EvidenceItem := do
  let object ← readObject raw
  let fields ← EvidenceFields.read validation now object
  some (fields.enforceNonSupportingFailures validation)

/-- source `_state_evidence`: what does not validate is left out -/
def stateEvidence (validation : Validation) (now : Time) (evidence : List Json) :
    List EvidenceItem :=
  evidence.filterMap (EvidenceItem.modelValidate validation now)

/-- An optional text is read as it was written. -/
lemma readOptional_jsonText (given : Option String) :
    readOptional readText (jsonText given) = some given := by
  cases given <;> rfl

/-- An optional time is read as it was written. -/
lemma readOptional_isoformat (validation : Validation) (given : Option Time) :
    readOptional validation.datetime (jsonText (given.map validation.isoformat)) = some given := by
  cases given with
  | none => rfl
  | some time => simp [jsonText, readOptional, validation.datetime_isoformat]

/-- The value of a literal type is read from its text. -/
lemma readLiteral_trustClass (value : TrustClass) :
    readLiteral TrustClass.all TrustClass.text (.str value.text) = some value := by
  cases value <;> rfl

lemma readLiteral_freshnessStatus (value : FreshnessStatus) :
    readLiteral FreshnessStatus.all FreshnessStatus.text (.str value.text) = some value := by
  cases value <;> rfl

lemma readLiteral_sourceQuality (value : SourceQuality) :
    readLiteral SourceQuality.all SourceQuality.text (.str value.text) = some value := by
  cases value <;> rfl

lemma readLiteral_injectionScanStatus (value : InjectionScanStatus) :
    readLiteral InjectionScanStatus.all InjectionScanStatus.text (.str value.text) = some value := by
  cases value <;> rfl

lemma readLiteral_toolStatus (value : ToolStatus) :
    readLiteral ToolStatus.all ToolStatus.text (.str value.text) = some value := by
  cases value <;> rfl

/-- The declared fields are read from a dump as they were written. -/
lemma read_modelDump (validation : Validation) (now : Time) (item : EvidenceItem) :
    EvidenceFields.read validation now (item.modelDump validation) = some item.toEvidenceFields := by
  simp [EvidenceFields.read, EvidenceItem.modelDump, readField, readText, readObject,
    readOptional_jsonText, readOptional_isoformat, readLiteral_trustClass,
    readLiteral_freshnessStatus, readLiteral_sourceQuality, readLiteral_injectionScanStatus,
    readLiteral_toolStatus, validation.datetime_isoformat, validation.boolean_bool]

/-- The validator changes nothing in the fields of a record that it has passed. -/
lemma enforce_toEvidenceFields (validation : Validation) (item : EvidenceItem) :
    item.toEvidenceFields.enforceNonSupportingFailures validation = item := by
  obtain ⟨fields, summary_given, hash_given, eligible_allowed⟩ := item
  have summary : (if fields.summary = "" then fields.normalizedText else fields.summary) =
      fields.summary := by
    split
    · next empty => rw [summary_given empty, empty]
    · rfl
  have eligible : (fields.eligibleForClaimSupport &&
      mayBeEligible fields.trustClass fields.toolStatus) = fields.eligibleForClaimSupport := by
    cases given : fields.eligibleForClaimSupport with
    | false => rfl
    | true => rw [eligible_allowed given, Bool.true_and]
  simp only [EvidenceFields.enforceNonSupportingFailures, if_neg hash_given, summary, eligible]

/-- A record is read from its dump as it was. -/
theorem modelValidate_modelDump (validation : Validation) (now : Time) (item : EvidenceItem) :
    EvidenceItem.modelValidate validation now (.obj (item.modelDump validation)) = some item := by
  simp only [EvidenceItem.modelValidate, readObject, read_modelDump, enforce_toEvidenceFields,
    Option.bind_eq_bind, Option.bind_some]

/-- A pass of the evidence through the JSON form of the state changes nothing. -/
theorem stateEvidence_dumped (validation : Validation) (now : Time) (evidence : List EvidenceItem) :
    stateEvidence validation now (evidence.map fun item => .obj (item.modelDump validation)) =
      evidence := by
  rw [stateEvidence, List.filterMap_map]
  have each : EvidenceItem.modelValidate validation now ∘
      (fun item => Json.obj (item.modelDump validation)) = some :=
    funext fun item => modelValidate_modelDump validation now item
  rw [each, List.filterMap_some]

end Validation

section Grading

/-- The id resolves to this record: it is the last one that has the id. -/
def Resolves (evidence : List EvidenceItem) (evidenceId : String) (item : EvidenceItem) : Prop :=
  ∃ before after, evidence = before ++ item :: after ∧ item.evidenceId = evidenceId ∧
    ∀ later ∈ after, later.evidenceId ≠ evidenceId

/-- The record supports the claim: it is of this run and task, eligible, from a successful tool call,
    and as fresh as the claim requires. -/
structure Supports (runId taskId : String) (claim : Claim) (item : EvidenceItem) : Prop where
  run : item.runId = runId
  task : item.taskId = taskId
  eligible : item.eligibleForClaimSupport = true
  success : item.toolStatus = .success
  fresh : if claim.requiresCurrentEvidence then item.freshnessStatus = .current
    else item.freshnessStatus ≠ .stale

/-- The records that count towards the grade of a claim (`acceptable` in `ground_claims`). -/
def counted (evidence : List EvidenceItem) (runId taskId : String) (claim : Claim) :
    List EvidenceItem :=
  ((claim.evidenceIds.filterMap (evidenceById evidence)).filter (validFor runId taskId)).filter
    (freshFor claim)

variable {evidence : List EvidenceItem} {runId taskId : String} {claim : Claim}

/-- `by_id.get` finds the record that the id resolves to. -/
lemma evidenceById_eq_some {evidenceId : String} {item : EvidenceItem} :
    evidenceById evidence evidenceId = some item ↔ Resolves evidence evidenceId item := by
  simp only [evidenceById, List.find?_eq_some_iff_append, decide_eq_true_eq, Resolves]
  constructor
  · rintro ⟨same, later, earlier, split, others⟩
    refine ⟨earlier.reverse, later.reverse, ?_, same, fun item mem => ?_⟩
    · rw [← List.reverse_reverse evidence, split]
      simp
    · simpa using others item (List.mem_reverse.mp mem)
  · rintro ⟨earlier, later, rfl, same, others⟩
    refine ⟨same, later.reverse, earlier.reverse, by simp, fun item mem => ?_⟩
    simpa using others item (List.mem_reverse.mp mem)

/-- The two tests of `ground_claims` together say that the record supports the claim. -/
lemma supports_iff {item : EvidenceItem} :
    (validFor runId taskId item && freshFor claim item) = true ↔ Supports runId taskId claim item := by
  simp only [validFor, freshFor, Bool.and_eq_true, decide_eq_true_eq]
  constructor
  · rintro ⟨⟨⟨⟨run, task⟩, eligible⟩, success⟩, fresh⟩
    refine ⟨run, task, eligible, success, ?_⟩
    split at fresh <;> simp_all
  · rintro ⟨run, task, eligible, success, fresh⟩
    refine ⟨⟨⟨⟨run, task⟩, eligible⟩, success⟩, ?_⟩
    split at fresh <;> simp_all

/-- A record that counts supports the claim. -/
lemma supports_of_counted {item : EvidenceItem} (mem : item ∈ counted evidence runId taskId claim) :
    Supports runId taskId claim item ∧ item ∈ evidence := by
  simp only [counted, List.mem_filter, List.mem_filterMap] at mem
  obtain ⟨⟨⟨evidenceId, -, found⟩, valid⟩, fresh⟩ := mem
  refine ⟨supports_iff.mp (by rw [valid, fresh]; rfl), ?_⟩
  obtain ⟨before, after, rfl, -, -⟩ := evidenceById_eq_some.mp found
  simp

/-- As many records count as ids are given exactly when every id resolves to one that supports the
    claim. -/
lemma counted_length :
    (counted evidence runId taskId claim).length = claim.evidenceIds.length ↔
      ∀ evidenceId ∈ claim.evidenceIds, ∃ item, Resolves evidence evidenceId item ∧
        Supports runId taskId claim item := by
  have each : counted evidence runId taskId claim = claim.evidenceIds.filterMap fun evidenceId =>
      (evidenceById evidence evidenceId).filter fun item =>
        validFor runId taskId item && freshFor claim item := by
    rw [counted, List.filter_filter, List.filter_filterMap]
    congr 1
    funext evidenceId
    congr 1
    funext item
    exact Bool.and_comm _ _
  rw [each, List.filterMap_length_eq_length]
  refine forall₂_congr fun evidenceId _ => ?_
  simp only [Option.isSome_iff_exists, Option.filter_eq_some_iff, evidenceById_eq_some, supports_iff]

/-- Where no record counts, the grade is none of support. -/
lemma groundClaim_uncounted (index : Nat) (none : counted evidence runId taskId claim = []) :
    (groundClaim evidence runId taskId index claim).status = .stale ∨
      (groundClaim evidence runId taskId index claim).status = .unsupported := by
  simp only [counted] at none
  simp only [groundClaim, none, List.isEmpty_nil, Bool.not_true, Bool.false_and, Bool.and_true,
    Bool.false_eq_true, if_false]
  split
  · exact .inl rfl
  · exact .inr rfl

/-- Where a record counts, the grade is `supported` if as many count as ids are given, and
    `partially_supported` else. -/
lemma groundClaim_counted {index : Nat} (some : counted evidence runId taskId claim ≠ []) :
    (groundClaim evidence runId taskId index claim).status =
      if (counted evidence runId taskId claim).length = claim.evidenceIds.length then .supported
      else .partiallySupported := by
  have nonempty : (counted evidence runId taskId claim).isEmpty = false :=
    List.isEmpty_eq_false_iff.mpr some
  by_cases all : (counted evidence runId taskId claim).length = claim.evidenceIds.length
  · rw [if_pos all]
    simp only [counted] at nonempty all
    simp only [groundClaim, nonempty, all, Bool.and_false, Bool.not_false, Bool.true_and, if_true,
      Bool.false_eq_true, if_false, decide_true]
  · rw [if_neg all]
    simp only [counted] at nonempty all
    simp only [groundClaim, nonempty, all, Bool.and_false, Bool.not_false, if_true,
      Bool.false_eq_true, if_false, decide_false]

/-- The grade is one of support exactly when a record counts. -/
lemma groundClaim_supporting {index : Nat} :
    (groundClaim evidence runId taskId index claim).status = .supported ∨
      (groundClaim evidence runId taskId index claim).status = .partiallySupported ↔
      counted evidence runId taskId claim ≠ [] := by
  constructor
  · rintro graded none
    obtain other | other := groundClaim_uncounted index none
    all_goals
      rw [other] at graded
      obtain graded | graded := graded <;> cases graded
  · intro some
    rw [groundClaim_counted some]
    split
    · exact .inl rfl
    · exact .inr rfl

/-- The grade `supported`: there are ids, and every one resolves to a record that supports the claim. -/
lemma groundClaim_supported {index : Nat} :
    (groundClaim evidence runId taskId index claim).status = .supported ↔
      claim.evidenceIds ≠ [] ∧ ∀ evidenceId ∈ claim.evidenceIds, ∃ item,
        Resolves evidence evidenceId item ∧ Supports runId taskId claim item := by
  rw [← counted_length]
  constructor
  · intro graded
    have some := groundClaim_supporting.mp (.inl graded)
    rw [groundClaim_counted some] at graded
    split at graded
    · next all =>
      refine ⟨fun empty => some (List.length_eq_zero_iff.mp ?_), all⟩
      rw [all, empty, List.length_nil]
    · cases graded
  · rintro ⟨given, all⟩
    have some : counted evidence runId taskId claim ≠ [] := by
      intro none
      rw [none, List.length_nil, eq_comm, List.length_eq_zero_iff] at all
      exact given all
    rw [groundClaim_counted some, if_pos all]

end Grading

section History

/-- Where a record comes from: the caller's context, or a tool's result. -/
inductive Origin where
  | context
  | toolResult (ok : Bool)
deriving DecidableEq

/-- Records of this origin may support claims. -/
def Origin.supporting : Origin → Bool
  | .context => false
  | .toolResult ok => ok

/-- Lists of records that the graph can come to hold, each with its origin: records are built from
    request metadata and from results of tools, some are dropped, and all of them pass through the JSON
    form of the state. -/
inductive EvidenceHistory (validation : Validation) : List (EvidenceItem × Origin) → Prop where
  | nothing :
    EvidenceHistory validation []
  | context {entries : List (EvidenceItem × Origin)} (reader : EvidenceReader)
      (metadata : JsonObject) (runId taskId : String) :
    EvidenceHistory validation entries →
    EvidenceHistory validation
      (entries ++ (evidenceFromMetadata reader metadata runId taskId).map fun item => (item, .context))
  | toolResult {entries : List (EvidenceItem × Origin)} (reader : EvidenceReader)
      (result : Tools.MCPToolResult) (evidenceId runId taskId : String) (queryId : Option String)
      (toolName query : String) :
    EvidenceHistory validation entries →
    EvidenceHistory validation (entries ++
      [(evidenceFromToolResult reader result evidenceId runId taskId queryId toolName query,
        .toolResult result.ok)])
  | kept {entries entries' : List (EvidenceItem × Origin)} :
    EvidenceHistory validation entries →
    entries'.Sublist entries →
    EvidenceHistory validation entries'
  | reloaded {entries : List (EvidenceItem × Origin)} (now : Time) :
    EvidenceHistory validation entries →
    EvidenceHistory validation (entries.filterMap fun (item, origin) =>
      (EvidenceItem.modelValidate validation now (.obj (item.modelDump validation))).map
        fun item => (item, origin))

/-- Records of another origin than a successful tool call are not eligible. -/
lemma EvidenceHistory.ineligible {validation : Validation} {entries : List (EvidenceItem × Origin)}
    (history : EvidenceHistory validation entries) {item : EvidenceItem} {origin : Origin}
    (mem : (item, origin) ∈ entries) (other : origin.supporting = false) :
    item.eligibleForClaimSupport = false := by
  induction history with
  | nothing => cases mem
  | context reader metadata runId taskId _ ih =>
    obtain mem | mem := List.mem_append.mp mem
    · exact ih mem
    · obtain ⟨record, built, same⟩ := List.mem_map.mp mem
      cases same
      simp only [evidenceFromMetadata] at built
      split at built
      · obtain ⟨entry, -, rfl⟩ := List.mem_map.mp built
        rfl
      · cases built
  | toolResult reader result evidenceId runId taskId queryId toolName query _ ih =>
    obtain mem | mem := List.mem_append.mp mem
    · exact ih mem
    · rw [List.mem_singleton] at mem
      cases mem
      exact other
  | kept _ sublist ih => exact ih (sublist.subset mem)
  | reloaded now _ ih =>
    obtain ⟨⟨earlier, origin'⟩, inside, same⟩ := List.mem_filterMap.mp mem
    simp only [modelValidate_modelDump, Option.map_some, Option.some.injEq] at same
    cases same
    exact ih inside

/-- A claim is graded `supported` exactly when it has evidence ids and each resolves to a record that
    supports it, and records from the caller's context or from a failed tool call count for no claim. -/
theorem evidence_provenance {validation : Validation} {entries : List (EvidenceItem × Origin)}
    (history : EvidenceHistory validation entries) (claims : List Claim) (runId taskId : String)
    (index : Nat) (claim : Claim) (given : claims[index]? = some claim) :
    ∃ result, (groundClaims claims (entries.map Prod.fst) runId taskId)[index]? = some result ∧
      (result.status = .supported ↔ claim.evidenceIds ≠ [] ∧
        ∀ evidenceId ∈ claim.evidenceIds, ∃ item,
          Resolves (entries.map Prod.fst) evidenceId item ∧ Supports runId taskId claim item) ∧
      (result.status = .supported ∨ result.status = .partiallySupported ↔
        counted (entries.map Prod.fst) runId taskId claim ≠ []) ∧
      ∀ item origin, (item, origin) ∈ entries → origin.supporting = false →
        item ∉ counted (entries.map Prod.fst) runId taskId claim := by
  refine ⟨groundClaim (entries.map Prod.fst) runId taskId (index + 1) claim, ?_,
    groundClaim_supported, groundClaim_supporting, fun item origin mem other counts => ?_⟩
  · rw [groundClaims, List.getElem?_map, List.getElem?_zipIdx, given]
    simp
  · have eligible := (supports_of_counted counts).1.eligible
    rw [history.ineligible mem other] at eligible
    cases eligible

/-- Validation for examples: the epoch is spelled as it is, other times by their count. -/
def sampleValidation : Validation where
  sha256 _ := emptyReading.hash
  isoformat time :=
    if time = 0 then "1970-01-01T00:00:00Z"
    else String.ofList ((if time < 0 then '-' else '+') :: List.replicate time.natAbs '0')
  datetime
    | .str text => match text.toList with
      | '-' :: zeros => some (-zeros.length)
      | '+' :: zeros => some zeros.length
      | _ => if text = "1970-01-01T00:00:00Z" then some 0 else none
    | _ => none
  boolean
    | .bool value => some value
    | _ => none
  sha256_given _ := emptyReading.hash_given
  datetime_isoformat time := by
    by_cases epoch : time = 0
    · subst epoch
      decide +kernel
    · by_cases before : time < 0
      · simp [epoch, before, Int.ofNat_natAbs_of_nonpos (Int.le_of_lt before)]
      · simp [epoch, before, Int.natAbs_of_nonneg (Int.not_lt.mp before)]
  boolean_bool _ := rfl

/-- A note of the caller and the result of a tool, read back from the state. -/
def sampleEntries : List (EvidenceItem × Origin) :=
  (evidenceFromMetadata ⟨fun _ _ _ => emptyReading, fun _ => emptyReading, fun _ _ => "user-1"⟩
    [("evidence", .arr [.str ""])] "run" "request").map (fun item => (item, .context)) ++
  [(evidenceFromToolResult ⟨fun _ _ _ => emptyReading, fun _ => emptyReading, fun _ _ => "user-1"⟩
    { tool := "search", ok := true, data := .str "" } "research-t1-1-1" "run" "t1" none "search" "q",
    .toolResult true)]

lemma sampleEntries_history : EvidenceHistory sampleValidation sampleEntries := by
  refine .toolResult _ _ _ _ _ _ _ _ ?_
  rw [← List.nil_append (List.map _ _)]
  exact .context _ _ _ _ .nothing

theorem evidence_provenance_sample :
    ∃ result, (groundClaims [{ text := "a claim", evidenceIds := ["research-t1-1-1"] }]
        (sampleEntries.map Prod.fst) "run" "t1")[0]? = some result ∧
      (result.status = .supported ↔ ["research-t1-1-1"] ≠ [] ∧
        ∀ evidenceId ∈ ["research-t1-1-1"], ∃ item,
          Resolves (sampleEntries.map Prod.fst) evidenceId item ∧
          Supports "run" "t1" { text := "a claim", evidenceIds := ["research-t1-1-1"] } item) ∧
      (result.status = .supported ∨ result.status = .partiallySupported ↔
        counted (sampleEntries.map Prod.fst) "run" "t1"
          { text := "a claim", evidenceIds := ["research-t1-1-1"] } ≠ []) ∧
      ∀ item origin, (item, origin) ∈ sampleEntries → origin.supporting = false →
        item ∉ counted (sampleEntries.map Prod.fst) "run" "t1"
          { text := "a claim", evidenceIds := ["research-t1-1-1"] } :=
  evidence_provenance sampleEntries_history
    [{ text := "a claim", evidenceIds := ["research-t1-1-1"] }] "run" "t1" 0 _ rfl

end History

section Runs
open Orchestration Transition

/-- The list is one that the graph can come to hold. -/
def Collected (validation : Validation) (evidence : List EvidenceItem) : Prop :=
  ∃ entries, EvidenceHistory validation entries ∧ entries.map Prod.fst = evidence

variable {validation : Validation} {evidence : List EvidenceItem}

lemma Collected.nil : Collected validation [] := ⟨[], .nothing, rfl⟩

/-- The caller's context is collected. -/
lemma Collected.context (reader : EvidenceReader) (metadata : JsonObject) (runId taskId : String) :
    Collected validation (evidenceFromMetadata reader metadata runId taskId) := by
  refine ⟨_, .context reader metadata runId taskId .nothing, ?_⟩
  rw [List.nil_append, List.map_map]
  exact List.map_id _

/-- The record of a tool's result is added. -/
lemma Collected.toolResult (collected : Collected validation evidence) (reader : EvidenceReader)
    (result : Tools.MCPToolResult) (evidenceId runId taskId : String) (queryId : Option String)
    (toolName query : String) :
    Collected validation (evidence ++
      [evidenceFromToolResult reader result evidenceId runId taskId queryId toolName query]) := by
  obtain ⟨entries, history, rfl⟩ := collected
  refine ⟨_, history.toolResult reader result evidenceId runId taskId queryId toolName query, ?_⟩
  rw [List.map_append, List.map_singleton]

/-- Records may be dropped. -/
lemma Collected.kept (collected : Collected validation evidence) {some : List EvidenceItem}
    (sublist : some.Sublist evidence) : Collected validation some := by
  obtain ⟨entries, history, rfl⟩ := collected
  obtain ⟨entries', sublist', rfl⟩ := List.sublist_map_iff.mp sublist
  exact ⟨entries', history.kept sublist', rfl⟩

namespace ChatAgent

variable {agent : ChatAgent} {world : World} {state state' : AgentGraphState}
variable {budget budget' : ExecutionBudget} {round : ResearchRound}

/-- The candidates of a query add records of their results. -/
lemma tryCandidates_collected {queryIndex : Nat} {query : String} {tools : Nat → Tools.Environment}
    {candidates : List ToolRoutingDecision} {index : Nat} {findings findings' : Findings}
    (collected : Collected validation findings.evidence)
    (h : tryCandidates agent round queryIndex query tools candidates index findings budget =
      (.ok findings', budget')) :
    Collected validation findings'.evidence := by
  induction candidates generalizing index findings budget with
  | nil =>
    cases h
    exact collected
  | cons candidate rest ih =>
    simp only [tryCandidates] at h
    split at h
    · exact ih (by exact collected) h
    · exact ih (by exact collected) h
    · cases h
    · cases h
    · cases h
    · cases h
    · split at h
      · cases h
        exact collected.toolResult ..
      · exact ih (by exact collected) h

/-- The queries of a round add records of their results. -/
lemma runQueries_collected {candidates : String → List ToolRoutingDecision}
    {tools : Nat → Nat → Tools.Environment} {queries : List String} {index : Nat}
    {findings findings' : Findings} (collected : Collected validation findings.evidence)
    (h : runQueries agent round candidates tools queries index findings budget =
      (.ok findings', budget')) :
    Collected validation findings'.evidence := by
  induction queries generalizing index findings budget with
  | nil =>
    cases h
    exact collected
  | cons query rest ih =>
    simp only [runQueries] at h
    split at h
    · cases h
    · next tried => exact ih (tryCandidates_collected collected tried) h

/-- A research round leaves collected evidence. -/
lemma research_collected (collected : Collected validation state.evidence)
    (h : agent.research world state budget = (.ok state', budget')) :
    Collected validation state'.evidence := by
  simp only [research] at h
  split at h
  · cases h
    exact collected
  · split at h
    · cases h
      exact collected
    · split at h
      · cases h
      · split at h
        · cases h
          exact collected
        · cases h
        · next searched =>
          have found := runQueries_collected collected searched
          have concluded := (Prod.mk.inj h).1
          simp only [concludeResearch] at concluded
          split at concluded
          · cases concluded
          · split at concluded
            · cases concluded
              exact found
            · cases concluded
              exact found.kept (deduplicateEvidence_sublist _)

/-- Planning starts with the caller's context. -/
lemma plan_collected (collected : Collected validation state.evidence)
    (h : agent.plan world state budget = (.ok state', budget')) :
    Collected validation state'.evidence := by
  have adopted : ∀ {plan model},
      (state.planned plan model (evidenceFromMetadata agent.reader state.metadata state.evidenceRunId
        "request")).setNextAction agent.router = .ok state' →
        Collected validation state'.evidence := by
    intro plan model next
    obtain ⟨action, routing, rfl⟩ := AgentGraphState.setNextAction_ok next
    exact .context ..
  simp only [plan] at h
  split at h
  · cases h
    exact collected
  · split at h
    · exact adopted (Prod.mk.inj h).1
    · split at h
      · cases h
        exact collected
      · cases h
      · exact adopted (Prod.mk.inj h).1

/-- Another plan starts with no evidence. -/
lemma replan_collected (collected : Collected validation state.evidence)
    (h : agent.replan world state budget = (.ok state', budget')) :
    Collected validation state'.evidence := by
  have adopted : ∀ {plan model replans},
      (state.replanned plan model replans).setNextAction agent.router = .ok state' →
        Collected validation state'.evidence := by
    intro plan model replans next
    obtain ⟨action, routing, rfl⟩ := AgentGraphState.setNextAction_ok next
    exact .nil
  simp only [replan] at h
  split at h
  · cases h
    exact collected
  · split at h
    · split at h
      · cases h
      · exact adopted (Prod.mk.inj h).1
    · split at h
      · cases h
      · exact adopted (Prod.mk.inj h).1

/-- The next task starts with no evidence. -/
lemma advance_collected (h : agent.advance state budget = (.ok state', budget')) :
    Collected validation state'.evidence := by
  simp only [advance] at h
  split at h
  · cases h
  · split at h
    · obtain ⟨action, routing, rfl⟩ := AgentGraphState.setNextAction_ok (Prod.mk.inj h).1
      exact .nil
    · cases h
      exact .nil

/-- The nodes at the end of a run leave the evidence as it is. -/
lemma closing_evidence {node : Node}
    (closing : node = .finalize ∨ node = .verifyFinal ∨ node = .reviseFinal ∨ node = .terminate)
    (h : agent.run world state budget node = (.ok state', budget')) :
    state'.evidence = state.evidence := by
  obtain rfl | rfl | rfl | rfl := closing
  · simp only [run, finalize] at h
    split at h
    · cases h
      rfl
    · split at h
      · split at h
        · cases h
        · split at h <;> cases h <;> rfl
      · split at h <;> cases h
        rfl
  · simp only [run, verifyFinal] at h
    split at h
    · cases h
      rfl
    · split at h
      · cases h
        rfl
      · cases h
      · split at h <;> cases h <;> rfl
  · simp only [run, reviseFinal] at h
    split at h
    · cases h
      rfl
    · split at h
      · cases h
      · split at h <;> cases h <;> rfl
  · cases h
    rfl

/-- Every node leaves collected evidence. -/
lemma node_collected {node : Node} (collected : Collected validation state.evidence)
    (h : agent.run world state budget node = (.ok state', budget')) :
    Collected validation state'.evidence := by
  cases node with
  | plan => exact plan_collected collected h
  | research => exact research_collected collected h
  | worker =>
    obtain ⟨reason, -, rfl⟩ | ⟨result, model, rfl⟩ := worker_ok h
    all_goals exact collected
  | verify =>
    obtain ⟨exc, -, rfl⟩ | ⟨report, grounding, model, rfl, -⟩ := verify_ok h
    all_goals exact collected
  | revise =>
    obtain ⟨reason, -, rfl⟩ | ⟨result, model, rfl⟩ := revise_ok h
    all_goals exact collected
  | replan => exact replan_collected collected h
  | advance => exact advance_collected h
  | finalize => exact closing_evidence (.inl rfl) h ▸ collected
  | verifyFinal => exact closing_evidence (.inr (.inl rfl)) h ▸ collected
  | reviseFinal => exact closing_evidence (.inr (.inr (.inl rfl))) h ▸ collected
  | terminate => exact closing_evidence (.inr (.inr (.inr rfl))) h ▸ collected

/-- Whatever the world answers, the evidence of a run is a history of records from context and tools,
    so what is proved of histories holds of it. -/
theorem run_collected {c final : Configuration} {events : List (Event Configuration World)}
    (run : Run agent.Step c events final) (collected : Collected validation c.state.evidence) :
    Collected validation final.state.evidence := by
  have step : ∀ e : Event Configuration World, agent.Step e.pre e.label e.post → True →
      Collected validation e.pre.state.evidence → Collected validation e.post.state.evidence := by
    rintro ⟨c, world, c'⟩ st - collected
    obtain ⟨node, -, -, ⟨state, budget, returned, same⟩ | ⟨error, budget, -, same⟩⟩ := step_cases st
    all_goals
      dsimp only at same collected
      rw [same]
    · have kept := node_collected collected returned
      exact kept
    · exact collected
  exact run.invariant (I := fun c => Collected validation c.state.evidence) step
    (fun _ _ => trivial) collected

end ChatAgent

end Runs

end AgentRuntime.Graph
