import AgentRuntime.Orchestration.PythonRequest

/-!
# Which requests have a hash

A request has a hash when its metadata has a canonical form within the recursion limit, and when the `json` module
can write that form and UTF-8 encode it. Both are told from the metadata itself: a member that a later one
overwrites under the normal form of its key is converted and not written.
-/

namespace AgentRuntime.Orchestration
open State Text Python

section Canonical

/-- The value has a canonical form within the calls that are left. -/
inductive Convertible : Nat → MetadataValue → Prop where
  | none {frames} :
    Convertible (frames + 1) .none
  | bool {frames value} :
    Convertible (frames + 1) (.bool value)
  | int {frames value} :
    Convertible (frames + 1) (.int value)
  | float {frames bits} :
    isFinite bits = true →
    Convertible (frames + 1) (.float bits)
  | str {frames text} :
    Convertible (frames + 2) (.str text)
  | sequence {frames} {items : List MetadataValue} :
    (∀ item ∈ items, Convertible (frames + 1) item) →
    Convertible (frames + 2) (.sequence items)
  | mapping {frames} {fields : List (PyStr × MetadataValue)} :
    (∀ field ∈ fields, Convertible (frames + 1) field.2) →
    Convertible (frames + 2) (.mapping fields)

variable {nfc : PyStr → PyStr} {frames : Nat} {value canonical : MetadataValue} {items : List MetadataValue}
variable {fields object : List (PyStr × MetadataValue)}

lemma canonicalValue_float {bits : BitVec 64} : canonicalValue nfc frames (.float bits) = .ok canonical ↔
    1 ≤ frames ∧ isFinite bits = true ∧ canonical = .float bits := by
  cases frames with
  | zero => exact ⟨by rintro ⟨⟩, by rintro ⟨⟨⟩, -⟩⟩
  | succ frames =>
    rw [canonicalValue]
    split
    · next finite => simp [finite, eq_comm]
    · next infinite => simp [infinite]

lemma canonicalValue_str {text : PyStr} : canonicalValue nfc frames (.str text) = .ok canonical ↔
    2 ≤ frames ∧ canonical = .str (nfc text) := by
  obtain _ | _ | frames := frames
  · exact ⟨by rintro ⟨⟩, by rintro ⟨few, -⟩; omega⟩
  · exact ⟨by rintro ⟨⟩, by rintro ⟨few, -⟩; omega⟩
  · simp [canonicalValue, eq_comm]

lemma canonicalValue_sequence : canonicalValue nfc frames (.sequence items) = .ok canonical ↔
    ∃ inner canonicals, frames = inner + 2 ∧ canonicalSequence nfc (inner + 1) items = .ok canonicals ∧
      canonical = .sequence canonicals := by
  obtain _ | _ | frames := frames
  · exact ⟨by rintro ⟨⟩, by rintro ⟨_, _, ⟨⟩, -⟩⟩
  · exact ⟨by rintro ⟨⟩, by rintro ⟨_, _, ⟨⟩, -⟩⟩
  · rw [canonicalValue, Fallible.bind_eq_ok]
    constructor
    · rintro ⟨canonicals, same, ⟨⟩⟩
      exact ⟨frames, canonicals, rfl, same, rfl⟩
    · rintro ⟨_, canonicals, ⟨⟩, same, rfl⟩
      exact ⟨canonicals, same, rfl⟩

lemma canonicalValue_mapping : canonicalValue nfc frames (.mapping fields) = .ok canonical ↔
    ∃ inner members, frames = inner + 2 ∧ canonicalMapping nfc (inner + 1) [] fields = .ok members ∧
      canonical = .mapping members := by
  obtain _ | _ | frames := frames
  · exact ⟨by rintro ⟨⟩, by rintro ⟨_, _, ⟨⟩, -⟩⟩
  · exact ⟨by rintro ⟨⟩, by rintro ⟨_, _, ⟨⟩, -⟩⟩
  · rw [canonicalValue, Fallible.bind_eq_ok]
    constructor
    · rintro ⟨members, same, ⟨⟩⟩
      exact ⟨frames, members, rfl, same, rfl⟩
    · rintro ⟨_, members, ⟨⟩, same, rfl⟩
      exact ⟨members, same, rfl⟩

lemma canonicalValue_other {type : String} : canonicalValue nfc frames (.other type) ≠ .ok canonical := by
  obtain _ | _ | frames := frames
  · rintro ⟨⟩
  · rintro ⟨⟩
  · rintro ⟨⟩

lemma canonicalSequence_ok
    (ih : ∀ item ∈ items, (∃ canonical, canonicalValue nfc frames item = .ok canonical) ↔
      Convertible frames item) :
    (∃ canonicals, canonicalSequence nfc frames items = .ok canonicals) ↔
      ∀ item ∈ items, Convertible frames item := by
  induction items with
  | nil => simp [canonicalSequence]
  | cons item items ih' =>
    rw [List.forall_mem_cons] at ih
    rw [canonicalSequence, Fallible.bind_ok, List.forall_mem_cons, ← ih.1, ← ih' ih.2]
    simp [Fallible.bind_ok, pure, Except.pure]

lemma canonicalMapping_ok
    (ih : ∀ field ∈ fields,
      (∃ canonical, canonicalValue nfc frames field.2 = .ok canonical) ↔ Convertible frames field.2) :
    (∃ members, canonicalMapping nfc frames object fields = .ok members) ↔
      ∀ field ∈ fields, Convertible frames field.2 := by
  induction fields generalizing object with
  | nil => simp [canonicalMapping]
  | cons field fields ih' =>
    obtain ⟨key, value⟩ := field
    rw [List.forall_mem_cons] at ih
    rw [canonicalMapping, Fallible.bind_ok, List.forall_mem_cons, ← ih.1]
    constructor
    · rintro ⟨value', first, others⟩
      exact ⟨⟨value', first⟩, (ih' ih.2).mp others⟩
    · rintro ⟨⟨value', first⟩, others⟩
      exact ⟨value', first, (ih' ih.2).mpr others⟩

/-- Which values have a canonical form. -/
lemma canonicalValue_ok :
    (∃ canonical, canonicalValue nfc frames value = .ok canonical) ↔ Convertible frames value := by
  induction value using MetadataValue.ind generalizing frames with
  | none | bool | int =>
    cases frames with
    | zero => exact ⟨by rintro ⟨_, ⟨⟩⟩, by rintro ⟨⟩⟩
    | succ frames => exact ⟨fun _ => by constructor, fun _ => ⟨_, rfl⟩⟩
  | float bits =>
    simp only [canonicalValue_float]
    constructor
    · rintro ⟨_, enough, finite, -⟩
      obtain ⟨frames, rfl⟩ := Nat.exists_eq_add_of_le' enough
      exact .float finite
    · intro convertible
      cases convertible with
      | float finite => exact ⟨_, Nat.le_add_left 1 _, finite, rfl⟩
  | str text =>
    simp only [canonicalValue_str]
    constructor
    · rintro ⟨_, enough, -⟩
      obtain ⟨frames, rfl⟩ := Nat.exists_eq_add_of_le' enough
      exact .str
    · intro convertible
      cases convertible with
      | str => exact ⟨_, Nat.le_add_left 2 _, rfl⟩
  | sequence items ih =>
    simp only [canonicalValue_sequence]
    constructor
    · rintro ⟨_, inner, canonicals, rfl, same, -⟩
      exact .sequence ((canonicalSequence_ok fun item mem => ih item mem).mp ⟨canonicals, same⟩)
    · intro convertible
      cases convertible with
      | sequence convertible =>
        obtain ⟨canonicals, same⟩ := (canonicalSequence_ok fun item mem => ih item mem).mpr convertible
        exact ⟨_, _, canonicals, rfl, same, rfl⟩
  | mapping fields ih =>
    simp only [canonicalValue_mapping]
    constructor
    · rintro ⟨_, inner, members, rfl, same, -⟩
      exact .mapping ((canonicalMapping_ok fun field mem => ih field mem).mp ⟨members, same⟩)
    · intro convertible
      cases convertible with
      | mapping convertible =>
        obtain ⟨members, same⟩ := (canonicalMapping_ok fun field mem => ih field mem).mpr convertible
        exact ⟨_, _, members, rfl, same, rfl⟩
  | other type =>
    constructor
    · rintro ⟨canonical, same⟩
      exact absurd same canonicalValue_other
    · rintro ⟨⟩

/-- What holds of all items of a canonical form. -/
lemma canonicalSequence_forall {P : MetadataValue → Prop} {canonicals : List MetadataValue}
    (ok : canonicalSequence nfc frames items = .ok canonicals) :
    (∀ canonical ∈ canonicals, P canonical) ↔
      ∀ item ∈ items, ∃ canonical, canonicalValue nfc frames item = .ok canonical ∧ P canonical := by
  induction items generalizing canonicals with
  | nil =>
    cases ok
    simp
  | cons item items ih =>
    rw [canonicalSequence, Fallible.bind_eq_ok] at ok
    obtain ⟨canonical, first, ok⟩ := ok
    rw [Fallible.bind_eq_ok] at ok
    obtain ⟨others, ok, ⟨⟩⟩ := ok
    have this :
        (∃ canonical', canonicalValue nfc frames item = .ok canonical' ∧ P canonical') ↔ P canonical := by
      simp [first]
    rw [List.forall_mem_cons, List.forall_mem_cons, this, ih ok]

/-- What holds of all members of a canonical form: it holds of the ones that last, and of those that were there. -/
lemma canonicalMapping_forall {P : PyStr × MetadataValue → Prop} {members : List (PyStr × MetadataValue)}
    (distinct : (object.map Prod.fst).Nodup) (ok : canonicalMapping nfc frames object fields = .ok members) :
    (∀ member ∈ members, P member) ↔
      (∀ field ∈ Members.lasting nfc fields, ∃ value, canonicalValue nfc frames field.2 = .ok value ∧
        P (nfc field.1, value)) ∧
      ∀ member ∈ object, member.1 ∉ (fields.map fun field => nfc field.1) → P member := by
  induction fields generalizing object with
  | nil =>
    cases ok
    simp [Members.lasting]
  | cons field fields ih =>
    obtain ⟨key, value⟩ := field
    rw [canonicalMapping, Fallible.bind_eq_ok] at ok
    obtain ⟨canonical, first, others⟩ := ok
    rw [ih (Members.nodup_set distinct) others, Members.forall_set distinct, Members.lasting, List.map_cons]
    have kept : (∀ member ∈ object, member.1 ≠ nfc key → member.1 ∉ (fields.map fun field => nfc field.1) →
        P member) ↔
          ∀ member ∈ object, member.1 ∉ nfc key :: (fields.map fun field => nfc field.1) → P member := by
      simp only [List.mem_cons, not_or, and_imp]
    rw [kept]
    split
    · next overwritten => simp only [overwritten, not_true, false_imp_iff, true_and]
    · next lasts =>
      have this : (∃ value', canonicalValue nfc frames value = .ok value' ∧ P (nfc key, value')) ↔
          P (nfc key, canonical) := by simp [first]
      simp only [lasts, not_false_eq_true, true_imp_iff, List.forall_mem_cons, this]
      tauto

lemma canonicalMapping_lasting {P : PyStr × MetadataValue → Prop} {members : List (PyStr × MetadataValue)}
    (ok : canonicalMapping nfc frames [] fields = .ok members) :
    (∀ member ∈ members, P member) ↔
      ∀ field ∈ Members.lasting nfc fields, ∃ value, canonicalValue nfc frames field.2 = .ok value ∧
        P (nfc field.1, value) := by
  have distinct : (([] : List (PyStr × MetadataValue)).map Prod.fst).Nodup := List.nodup_nil
  rw [canonicalMapping_forall distinct ok]
  exact and_iff_left (List.forall_mem_nil _)

end Canonical

section Writing

/-- The canonical form of the value can be written within the limits and encoded. -/
inductive Writable (nfc : PyStr → PyStr) : JsonLimits → MetadataValue → Prop where
  | none {limits} :
    Writable nfc limits .none
  | bool {limits value} :
    Writable nfc limits (.bool value)
  | int {limits value} :
    limits.convert (digitCount value) = .ok () →
    Writable nfc limits (.int value)
  | float {limits bits} :
    Writable nfc limits (.float bits)
  | str {limits} {text : PyStr} :
    PyStr.encodable text = true →
    Writable nfc limits (.str text)
  | sequence {limits inner} {items : List MetadataValue} :
    limits.inside "array" = .ok inner →
    (∀ item ∈ items, Writable nfc inner item) →
    Writable nfc limits (.sequence items)
  | mapping {limits inner} {fields : List (PyStr × MetadataValue)} :
    limits.inside "object" = .ok inner →
    (∀ field ∈ Members.lasting nfc fields, PyStr.encodable field.1 = true) →
    (∀ field ∈ Members.lasting nfc fields, Writable nfc inner field.2) →
    Writable nfc limits (.mapping fields)

variable {nfc : PyStr → PyStr} {limits : JsonLimits}

lemma writtenItems_ok {items : List MetadataValue} :
    writtenItems limits items = .ok () ↔ ∀ item ∈ items, item.written limits = .ok () := by
  induction items with
  | nil => simp [writtenItems]
  | cons item items ih =>
    rw [writtenItems, Fallible.bind_eq_ok, List.forall_mem_cons, ← ih, Unique.exists_iff]

lemma encodableItems_iff {items : List MetadataValue} :
    encodableItems items = true ↔ ∀ item ∈ items, item.encodable = true := by
  induction items with
  | nil => simp [encodableItems]
  | cons item items ih => rw [encodableItems, Bool.and_eq_true, List.forall_mem_cons, ih]

lemma writtenFields_map (fields : List (PyStr × MetadataValue)) :
    writtenFields limits fields = fields.map fun field => (field.1, field.2.written limits) := by
  induction fields with
  | nil => rfl
  | cons field fields ih =>
    rw [List.map_cons, ← ih]
    rfl

lemma encodableFields_iff {fields : List (PyStr × MetadataValue)} :
    encodableFields fields = true ↔
      ∀ field ∈ fields, PyStr.encodable field.1 = true ∧ field.2.encodable = true := by
  induction fields with
  | nil => simp [encodableFields]
  | cons field fields ih =>
    obtain ⟨key, value⟩ := field
    rw [encodableFields, Bool.and_eq_true, Bool.and_eq_true, List.forall_mem_cons, ih]

lemma written_sequence {items : List MetadataValue} : (MetadataValue.sequence items).written limits = .ok () ↔
    ∃ inner, limits.inside "array" = .ok inner ∧ ∀ item ∈ items, item.written inner = .ok () := by
  rw [MetadataValue.written, Fallible.bind_eq_ok]
  simp only [Fallible.mapError_eq_ok, writtenItems_ok]

lemma written_mapping {fields : List (PyStr × MetadataValue)} :
    (MetadataValue.mapping fields).written limits = .ok () ↔
    ∃ inner, limits.inside "object" = .ok inner ∧ ∀ field ∈ fields, field.2.written inner = .ok () := by
  rw [MetadataValue.written, Fallible.bind_eq_ok]
  simp only [Fallible.mapError_eq_ok]
  refine exists_congr fun inner => and_congr_right fun _ => ?_
  rw [Fallible.bind_eq_ok]
  simp only [pure, Except.pure, and_true]
  rw [Fallible.mapM_ok]
  simp only [List.mem_mergeSort, writtenFields_map, List.forall_mem_map, Unique.exists_iff]

section Containers

variable {frames : Nat} {items canonicals : List MetadataValue} {fields members : List (PyStr × MetadataValue)}

/-- A list is written when its items are. -/
lemma canonicalSequence_written (converted : canonicalSequence nfc frames items = .ok canonicals)
    (ih : ∀ item ∈ items, ∀ limits canonical, canonicalValue nfc frames item = .ok canonical →
      (canonical.written limits = .ok () ∧ canonical.encodable = true ↔ Writable nfc limits item)) :
    (MetadataValue.sequence canonicals).written limits = .ok () ∧
        (MetadataValue.sequence canonicals).encodable = true ↔
      Writable nfc limits (.sequence items) := by
  rw [written_sequence, MetadataValue.encodable, encodableItems_iff]
  constructor
  · rintro ⟨⟨inner, inside, written⟩, encodable⟩
    have both := (canonicalSequence_forall converted).mp fun member mem =>
      And.intro (written member mem) (encodable member mem)
    refine .sequence inside fun item mem => ?_
    obtain ⟨canonical, same, writes⟩ := both item mem
    exact (ih item mem _ _ same).mp writes
  · intro writable
    cases writable with
    | @sequence _ inner _ inside writable =>
      have forms := (@canonicalSequence_forall _ _ _ (fun _ => True) _ converted).mp fun _ _ => trivial
      have both := (@canonicalSequence_forall _ _ _
        (fun member => member.written inner = .ok () ∧ member.encodable = true) _ converted).mpr ?_
      · exact ⟨⟨inner, inside, fun member mem => (both member mem).1⟩,
          fun member mem => (both member mem).2⟩
      · intro item mem
        obtain ⟨canonical, same, -⟩ := forms item mem
        exact ⟨canonical, same, (ih item mem _ _ same).mpr (writable item mem)⟩

/-- A dictionary is written when its members are, the ones that last. -/
lemma canonicalMapping_written (kept : ∀ text, (nfc text).encodable = text.encodable)
    (converted : canonicalMapping nfc frames [] fields = .ok members)
    (ih : ∀ field ∈ fields, ∀ limits canonical, canonicalValue nfc frames field.2 = .ok canonical →
      (canonical.written limits = .ok () ∧ canonical.encodable = true ↔ Writable nfc limits field.2)) :
    (MetadataValue.mapping members).written limits = .ok () ∧
        (MetadataValue.mapping members).encodable = true ↔
      Writable nfc limits (.mapping fields) := by
  rw [written_mapping, MetadataValue.encodable, encodableFields_iff]
  constructor
  · rintro ⟨⟨inner, inside, written⟩, encodable⟩
    have both := (canonicalMapping_lasting converted).mp fun member mem =>
      And.intro (written member mem) (encodable member mem)
    refine .mapping inside (fun field mem => ?_) fun field mem => ?_
    · obtain ⟨canonical, -, -, key, -⟩ := both field mem
      exact (kept field.1).symm.trans key
    · obtain ⟨canonical, same, writes, -, encodes⟩ := both field mem
      exact (ih field (Members.mem_of_lasting mem) _ _ same).mp ⟨writes, encodes⟩
  · intro writable
    cases writable with
    | @mapping _ inner _ inside keys writable =>
      have forms := (@canonicalMapping_lasting _ _ _ (fun _ => True) _ converted).mp fun _ _ => trivial
      have both := (@canonicalMapping_lasting _ _ _
        (fun member => member.2.written inner = .ok () ∧ PyStr.encodable member.1 = true ∧
          member.2.encodable = true) _ converted).mpr ?_
      · exact ⟨⟨inner, inside, fun member mem => (both member mem).1⟩,
          fun member mem => (both member mem).2⟩
      · intro field mem
        obtain ⟨canonical, same, -⟩ := forms field mem
        obtain ⟨writes, encodes⟩ := (ih field (Members.mem_of_lasting mem) _ _ same).mpr (writable field mem)
        exact ⟨canonical, same, writes, (kept field.1).trans (keys field mem), encodes⟩

end Containers

/-- Whether a canonical form can be written and encoded is told from the value itself. -/
lemma canonicalValue_written {frames : Nat} {value canonical : MetadataValue}
    (kept : ∀ text, (nfc text).encodable = text.encodable)
    (ok : canonicalValue nfc frames value = .ok canonical) :
    (canonical.written limits = .ok () ∧ canonical.encodable = true) ↔ Writable nfc limits value := by
  induction value using MetadataValue.ind generalizing frames limits canonical with
  | none =>
    cases frames with
    | zero => cases ok
    | succ frames =>
      cases ok
      exact ⟨fun _ => .none, fun _ => ⟨rfl, rfl⟩⟩
  | bool =>
    cases frames with
    | zero => cases ok
    | succ frames =>
      cases ok
      exact ⟨fun _ => .bool, fun _ => ⟨rfl, rfl⟩⟩
  | int =>
    cases frames with
    | zero => cases ok
    | succ frames =>
      cases ok
      constructor
      · rintro ⟨written, -⟩
        exact .int (Fallible.mapError_eq_ok.mp written)
      · intro writable
        cases writable with
        | int converts => exact ⟨Fallible.mapError_eq_ok.mpr converts, rfl⟩
  | float =>
    obtain ⟨-, -, rfl⟩ := canonicalValue_float.mp ok
    exact ⟨fun _ => .float, fun _ => ⟨rfl, rfl⟩⟩
  | str text =>
    obtain ⟨-, rfl⟩ := canonicalValue_str.mp ok
    constructor
    · rintro ⟨-, encodable⟩
      exact .str ((kept text).symm.trans encodable)
    · intro writable
      cases writable with
      | str encodable => exact ⟨rfl, (kept text).trans encodable⟩
  | sequence items ih =>
    obtain ⟨_, canonicals, rfl, converted, rfl⟩ := canonicalValue_sequence.mp ok
    exact canonicalSequence_written converted fun item mem limits canonical => ih item mem
  | mapping fields ih =>
    obtain ⟨_, members, rfl, converted, rfl⟩ := canonicalValue_mapping.mp ok
    exact canonicalMapping_written kept converted fun field mem limits canonical => ih field mem
  | other type => exact absurd ok canonicalValue_other

end Writing

namespace PythonService

variable {service : PythonService} {request : PythonRequest}

/-- What a request needs to have a hash. -/
structure Hashable (service : PythonService) (request : PythonRequest) : Prop where
  convertible : Convertible service.frames (.mapping (service.sanitizedMetadata request))
  prompt : ∀ prompt ∈ request.systemPrompt, PyStr.encodable prompt = true
  writable : ∃ inner, service.limits.inside "object" = .ok inner ∧
    Writable service.nfcText inner (.mapping (service.sanitizedMetadata request))

/-- The version of the hash has few digits. -/
lemma version_converts {inner : JsonLimits} (inside : service.limits.inside "object" = .ok inner) :
    inner.convert (digitCount service.requestHashVersion) = .ok () := by
  have kept : inner.digits = service.limits.digits := by
    rw [JsonLimits.inside] at inside
    split at inside
    · cases inside
      rfl
    · cases inside
    · cases inside
      rfl
  have few : digitCount service.requestHashVersion ≤ 640 := by
    have small : service.requestHashVersion < 10 ^ 4 := by
      have := service.hash_version.2
      omega
    rw [digitCount, Int.natAbs_natCast]
    exact Nat.le_trans ((Nat.length_toDigits_le_iff (by decide) (by decide)).mpr small) (by decide)
  rw [JsonLimits.convert, kept]
  split
  · rfl
  · next limit has => exact if_pos (Nat.le_trans few (service.digits_floor limit has))

/-- When the request's dictionary is written and encoded. -/
lemma canonicalRequest_written {metadata : MetadataValue} :
    ((service.canonicalRequest request metadata).written service.limits = .ok () ∧
      (service.canonicalRequest request metadata).encodable = true) ↔
    (∀ prompt ∈ request.systemPrompt, PyStr.encodable prompt = true) ∧
      ∃ inner, service.limits.inside "object" = .ok inner ∧ metadata.written inner = .ok () ∧
        metadata.encodable = true := by
  have message : (MetadataValue.str (service.nfcText (.ofString request.plain.message))).encodable = true := by
    rw [MetadataValue.encodable, service.nfcText_encodable, PyStr.encodable_ofString]
  have key := PyStr.encodable_ofString
  rw [canonicalRequest, written_mapping, MetadataValue.encodable, encodableFields_iff]
  simp only [List.forall_mem_cons]
  constructor
  · rintro ⟨⟨inner, inside, -, -, -, written, -⟩, -, -, ⟨-, prompt⟩, ⟨-, encodes⟩, -⟩
    refine ⟨?_, inner, inside, written, encodes⟩
    intro text given
    simp only [Option.mem_def.mp given, MetadataValue.encodable, service.nfcText_encodable] at prompt
    exact prompt
  · rintro ⟨prompt, inner, inside, written, encodes⟩
    refine ⟨⟨inner, inside, ?_, rfl, ?_, written, List.forall_mem_nil _⟩, ⟨key _, rfl⟩, ⟨key _, message⟩,
      ⟨key _, ?_⟩, ⟨key _, encodes⟩, List.forall_mem_nil _⟩
    · exact Fallible.mapError_eq_ok.mpr (version_converts inside)
    · cases request.systemPrompt with
      | none => rfl
      | some text => rfl
    · cases given : request.systemPrompt with
      | none => rfl
      | some text => exact (service.nfcText_encodable text).trans (prompt text given)

/-- Which values have a text. -/
lemma encodedText_ok {value : MetadataValue} : (∃ text, service.encodedText value = .ok text) ↔
    value.written service.limits = .ok () ∧ value.encodable = true := by
  rw [encodedText, Fallible.bind_ok]
  constructor
  · rintro ⟨⟨⟩, written, text, same⟩
    split at same
    · next encodable => exact ⟨written, encodable⟩
    · cases same
  · rintro ⟨written, encodable⟩
    exact ⟨(), written, _, if_pos encodable⟩

/-- Which requests have a hash. -/
lemma requestHash_ok : (∃ hash, service.requestHash request = .ok hash) ↔ service.Hashable request := by
  have texts : (∃ hash, service.requestHash request = .ok hash) ↔
      ∃ text, service.canonicalText request = .ok text := by
    rw [requestHash]
    cases service.canonicalText request with
    | ok text => simp
    | error type => simp
  rw [texts, canonicalText, Fallible.bind_ok]
  simp only [encodedText_ok]
  constructor
  · rintro ⟨metadata, converted, writes⟩
    obtain ⟨prompt, inner, inside, writes⟩ := canonicalRequest_written.mp writes
    exact ⟨canonicalValue_ok.mp ⟨metadata, converted⟩, prompt, inner, inside,
      (canonicalValue_written service.nfcText_encodable converted).mp writes⟩
  · intro hashable
    obtain ⟨metadata, converted⟩ := canonicalValue_ok.mpr hashable.convertible
    obtain ⟨inner, inside, writable⟩ := hashable.writable
    have writes := (canonicalValue_written service.nfcText_encodable converted).mpr writable
    exact ⟨metadata, converted, canonicalRequest_written.mpr ⟨hashable.prompt, inner, inside, writes⟩⟩

end PythonService

end AgentRuntime.Orchestration
