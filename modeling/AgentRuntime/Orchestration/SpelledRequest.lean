import AgentRuntime.Orchestration.Hashable

/-!
# Requests that JSON can spell

Two models of the normalization stand side by side: the one over JSON values, and the one over what Python lets into
a request. Here they are connected: where no text of the metadata has a lone surrogate, an identity that the second
one gives is the one that the first one gives.
-/

namespace AgentRuntime.Orchestration
open State Text Python

section Agreement

variable {nfc : String → String} {nfcText : PyStr → PyStr} {frames : Nat}

lemma shownFields_map (fields : List (PyStr × MetadataValue)) :
    shownFields fields = fields.map fun field => (PyStr.shown field.1, field.2.shown) := by
  induction fields with
  | nil => rfl
  | cons field fields ih =>
    rw [List.map_cons, ← ih]
    rfl

lemma shown_inj {text text' : PyStr} (spelled : text.encodable = true) (spelled' : text'.encodable = true) :
    text.shown = text'.shown ↔ text = text' := by
  refine ⟨fun same => ?_, congrArg PyStr.shown⟩
  rw [← PyStr.ofString_shown spelled, same, PyStr.ofString_shown spelled']

/-- Setting a member of what JSON can spell. -/
lemma shownFields_set {key : PyStr} {value : MetadataValue} {object : List (PyStr × MetadataValue)}
    (spelled : key.encodable = true) (keys : ∀ field ∈ object, PyStr.encodable field.1 = true) :
    shownFields (Members.set key value object) = (shownFields object).set key.shown value.shown := by
  induction object with
  | nil => rfl
  | cons field object ih =>
    obtain ⟨k, v⟩ := field
    rw [List.forall_mem_cons] at keys
    rw [Members.set, shownFields, JsonObject.set]
    by_cases same : key = k
    · subst same
      rw [if_pos rfl, if_pos rfl]
      rfl
    · have apart : key.shown ≠ k.shown := fun shown => same ((shown_inj spelled keys.1).mp shown)
      rw [if_neg same, if_neg apart, ← ih keys.2]
      rfl

lemma nfc_shown (agrees : ∀ text, nfcText (.ofString text) = .ofString (nfc text)) {text : PyStr}
    (spelled : text.encodable = true) : nfc text.shown = (nfcText text).shown := by
  rw [← PyStr.ofString_shown spelled, agrees, PyStr.shown_ofString, PyStr.shown_ofString]

lemma canonicalSequence_shown {items canonicals : List MetadataValue}
    (ih : ∀ item ∈ items, ∀ canonical, canonicalValue nfcText frames item = .ok canonical →
      canonicalJsonValue nfc item.shown = .ok canonical.shown)
    (ok : canonicalSequence nfcText frames items = .ok canonicals) :
    canonicalItems nfc (shownItems items) = .ok (shownItems canonicals) := by
  induction items generalizing canonicals with
  | nil =>
    cases ok
    rfl
  | cons item items ih' =>
    rw [List.forall_mem_cons] at ih
    rw [canonicalSequence, Fallible.bind_eq_ok] at ok
    obtain ⟨canonical, first, ok⟩ := ok
    rw [Fallible.bind_eq_ok] at ok
    obtain ⟨others, ok, ⟨⟩⟩ := ok
    rw [shownItems, canonicalItems, ih.1 canonical first, ih' ih.2 ok]
    rfl

lemma canonicalMapping_shown (kept : ∀ text, (nfcText text).encodable = text.encodable)
    (agrees : ∀ text, nfcText (.ofString text) = .ofString (nfc text))
    {fields object members : List (PyStr × MetadataValue)}
    (ih : ∀ field ∈ fields, ∀ canonical, canonicalValue nfcText frames field.2 = .ok canonical →
      canonicalJsonValue nfc field.2.shown = .ok canonical.shown)
    (keys : ∀ field ∈ fields, PyStr.encodable field.1 = true)
    (old : ∀ field ∈ object, PyStr.encodable field.1 = true)
    (ok : canonicalMapping nfcText frames object fields = .ok members) :
    canonicalFields nfc (shownFields object) (shownFields fields) = .ok (shownFields members) := by
  induction fields generalizing object with
  | nil =>
    cases ok
    rfl
  | cons field fields ih' =>
    obtain ⟨key, value⟩ := field
    rw [List.forall_mem_cons] at ih keys
    rw [canonicalMapping, Fallible.bind_eq_ok] at ok
    obtain ⟨canonical, first, ok⟩ := ok
    have spelled : (nfcText key).encodable = true := (kept key).trans keys.1
    rw [shownFields, canonicalFields, ih.1 canonical first, nfc_shown agrees keys.1]
    show canonicalFields nfc ((shownFields object).set (nfcText key).shown canonical.shown) _ = _
    rw [← shownFields_set spelled old]
    exact ih' ih.2 keys.2 (Members.forall_keys_set (P := fun key => PyStr.encodable key = true) spelled old) ok

/-- What JSON can spell has the canonical form that it has as JSON. -/
lemma canonicalValue_shown (kept : ∀ text, (nfcText text).encodable = text.encodable)
    (agrees : ∀ text, nfcText (.ofString text) = .ofString (nfc text)) {value canonical : MetadataValue}
    (spelled : value.encodable = true) (ok : canonicalValue nfcText frames value = .ok canonical) :
    canonicalJsonValue nfc value.shown = .ok canonical.shown := by
  induction value using MetadataValue.ind generalizing frames canonical with
  | none | bool | int =>
    cases frames with
    | zero => cases ok
    | succ frames =>
      cases ok
      rfl
  | float bits =>
    obtain ⟨-, finite, rfl⟩ := canonicalValue_float.mp ok
    exact if_pos finite
  | str text =>
    obtain ⟨-, rfl⟩ := canonicalValue_str.mp ok
    rw [MetadataValue.shown, canonicalJsonValue, nfc_shown agrees spelled]
    rfl
  | sequence items ih =>
    obtain ⟨_, canonicals, rfl, converted, rfl⟩ := canonicalValue_sequence.mp ok
    rw [MetadataValue.encodable, encodableItems_iff] at spelled
    have items_ok := canonicalSequence_shown (fun item mem _ same => ih item mem (spelled item mem) same) converted
    rw [MetadataValue.shown, canonicalJsonValue, items_ok]
    rfl
  | mapping fields ih =>
    obtain ⟨_, members, rfl, converted, rfl⟩ := canonicalValue_mapping.mp ok
    rw [MetadataValue.encodable, encodableFields_iff] at spelled
    have fields_ok := canonicalMapping_shown kept agrees
      (fun field mem _ same => ih field mem (spelled field mem).2 same)
      (fun field mem => (spelled field mem).1) (List.forall_mem_nil _) converted
    rw [shownFields] at fields_ok
    rw [MetadataValue.shown, canonicalJsonValue, fields_ok]
    rfl
  | other type => exact absurd ok canonicalValue_other

end Agreement

namespace PythonService

variable {service : PythonService} {request : PythonRequest} {draws : Draws} {now : Int}
variable {hash token : String} {identity : RunIdentity}

lemma sanitized_shown (spelled : ∀ field ∈ request.metadata, PyStr.encodable field.1 = true) :
    shownFields (service.sanitizedMetadata request) =
      service.toRunIdentityService.sanitizedMetadata request.shown := by
  have injective : Function.Injective PyStr.ofString := fun x y same => by
    rw [← PyStr.shown_ofString x, same, PyStr.shown_ofString]
  rw [sanitizedMetadata, RunIdentityService.sanitizedMetadata, PythonRequest.shown, shownFields_map,
    shownFields_map, List.filter_map]
  congr 1
  apply List.filter_congr
  intro field mem
  have lower : service.lowerText field.1 = .ofString (service.lower (PyStr.shown field.1)) := by
    rw [← service.lowerText_ofString, PyStr.ofString_shown (spelled field mem)]
  simp only [lower, Function.comp_apply, List.mem_map_of_injective injective]

lemma encodedText_eq {value : MetadataValue} {text : String} (written : service.encodedText value = .ok text) :
    text = value.shown.dumps service.floatRepr := by
  rw [encodedText, Fallible.bind_eq_ok] at written
  obtain ⟨⟨⟩, -, written⟩ := written
  split at written
  · cases written
    rfl
  · cases written

/-- Of a request that JSON can spell, the hash is the one of the request as JSON. -/
lemma requestHash_shown (spelled : encodableFields request.metadata = true)
    (hashed : service.requestHash request = .ok hash) :
    service.toRunIdentityService.requestHash request.shown = .ok hash := by
  have hashable := requestHash_ok.mp ⟨hash, hashed⟩
  rw [encodableFields_iff] at spelled
  have sanitized : (MetadataValue.mapping (service.sanitizedMetadata request)).encodable = true :=
    encodableFields_iff.mpr fun field mem => spelled field (List.mem_of_mem_filter mem)
  rw [requestHash] at hashed
  split at hashed
  · next text written =>
    cases hashed
    rw [canonicalText, Fallible.bind_eq_ok] at written
    obtain ⟨metadata, converted, written⟩ := written
    have canonical :=
      canonicalValue_shown service.nfcText_encodable service.nfcText_ofString sanitized converted
    rw [MetadataValue.shown, sanitized_shown fun field mem => (spelled field mem).1] at canonical
    rw [RunIdentityService.requestHash, canonical, encodedText_eq written]
    have message :
        (service.nfcText (.ofString request.plain.message)).shown = service.nfc request.plain.message := by
      rw [service.nfcText_ofString, PyStr.shown_ofString]
    have key := PyStr.shown_ofString
    cases given : request.systemPrompt with
    | none =>
      simp only [canonicalRequest, PythonRequest.shown, given, MetadataValue.shown, shownFields, key, message,
        Option.map_none, bind, Except.bind, pure, Except.pure]
    | some prompt =>
      have normal := nfc_shown service.nfcText_ofString (hashable.prompt prompt given)
      simp only [canonicalRequest, PythonRequest.shown, given, MetadataValue.shown, shownFields, key, message,
        normal, Option.map_some, bind, Except.bind, pure, Except.pure]
  · cases hashed

/-- And so is its legacy hash. -/
lemma legacyRequestHash_shown (spelled : encodableFields request.metadata = true)
    (hashed : service.legacyRequestHash request = .ok hash) :
    service.toTokenService.legacyRequestHash request.shown = hash := by
  rw [encodableFields_iff] at spelled
  rw [legacyRequestHash] at hashed
  split at hashed
  · next text written =>
    cases hashed
    rw [TokenService.legacyRequestHash, ← sanitized_shown fun field mem => (spelled field mem).1,
      encodedText_eq written]
    have key := PyStr.shown_ofString
    cases given : request.systemPrompt with
    | none =>
      simp only [legacyRequest, PythonRequest.shown, given, MetadataValue.shown, shownFields, key,
        Option.map_none]
    | some prompt =>
      simp only [legacyRequest, PythonRequest.shown, given, MetadataValue.shown, shownFields, key,
        Option.map_some]
  · cases hashed

lemma decodeToken_shown {result : JsonObject × String} (decoded : service.decodeToken token = .ok result) :
    service.toTokenService.decodeToken token = .ok result := by
  rw [decodeToken] at decoded
  split at decoded
  · cases decoded
  · next encoded encodedSignature parts =>
    split at decoded
    · cases decoded
    · next text read =>
      split at decoded
      · cases decoded
      · cases decoded
      · next value loaded =>
        have payload : service.toTokenService.readPayload encoded = some value := by
          rw [payloadText, Option.bind_eq_bind, Option.bind_eq_some_iff] at read
          obtain ⟨raw, raw_eq, read⟩ := read
          rw [TokenService.readPayload, raw_eq, Option.bind_eq_bind, Option.bind_some, read]
          exact parse_of_loads loaded
        simp only [TokenService.decodeToken, parts, payload]
        split at decoded
        · cases decoded
        · next signed =>
          split at decoded
          · simp only [signed, decoded]
          · cases decoded
        · cases decoded

lemma identityFromPayload_shown {payload : JsonObject} {keyId : String}
    (spelled : encodableFields request.metadata = true)
    (accepted : service.identityFromPayload request hash now payload keyId = .ok identity) :
    service.toTokenService.identityFromPayload request.shown hash now payload keyId = .ok identity := by
  simp only [identityFromPayload, TokenService.identityFromFields, Fallible.bind_eq_ok, TokenService.require_ok]
    at accepted
  obtain ⟨format, format_eq, u, known, expires, expires_eq, u₁, alive, schema, schema_eq, u₂, own_schema,
    version, version_eq, u₃, own_version, u₄, -, u₅, filled, u₆, uuid, u₇, thread_of, u₈, own_namespace, expected,
    expected_eq, accepted⟩ := accepted
  simp only [TokenService.identityFromPayload, TokenService.identityFromFields, Fallible.bind_eq_ok,
    TokenService.require_ok]
  refine ⟨format, format_eq, u, known, expires, expires_eq, u₁, alive, schema, schema_eq, u₂, own_schema,
    version, version_eq, u₃, own_version, u₄, fun _ _ => trivial, u₅, filled, u₆, uuid, u₇, thread_of, u₈,
    own_namespace, expected, ?_, accepted⟩
  split at expected_eq
  · next first => rw [if_pos first, legacyRequestHash_shown spelled expected_eq]
  · next second => rw [if_neg second, expected_eq]

/-- What `normalize` gives a request that JSON can spell is what the service gives the request as JSON. -/
theorem normalize_shown (spelled : encodableFields request.metadata = true)
    (accepted : service.normalize request draws now = .ok identity) :
    service.toTokenService.normalize request.shown draws now = .ok identity := by
  rw [normalize] at accepted
  split at accepted
  · cases accepted
  · next hash hashed =>
    have same := requestHash_shown spelled hashed
    rw [TokenService.normalize]
    split at accepted
    · next resumes =>
      rw [Fallible.bind_eq_ok] at accepted
      obtain ⟨⟨payload, keyId⟩, decoded, accepted⟩ := accepted
      have resumes' : request.shown.resume = true := resumes
      rw [if_pos resumes', same]
      show (service.toTokenService.identityFromToken request.shown hash now) = _
      have presents : request.shown.resumeToken = request.plain.resumeToken := rfl
      rw [TokenService.identityFromToken, presents, decodeToken_shown decoded]
      exact identityFromPayload_shown spelled accepted
    · next fresh =>
      cases accepted
      have fresh' : ¬ request.shown.resume = true := fresh
      rw [if_neg fresh', RunIdentityService.freshIdentity]
      split
      · next none => cases none.symm.trans same
      · next hash' same' =>
        cases same'.symm.trans same
        rfl

end PythonService

end AgentRuntime.Orchestration
