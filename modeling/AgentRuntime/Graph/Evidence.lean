import AgentRuntime.Graph.Services
import AgentRuntime.Graph.Uri
import AgentRuntime.Lib.Fallible

/-!
# Reading the results of tools

Port of the readers of `services/evidence.py`, with the exceptions that they raise on the data of a tool: the
search for an address, a date and a title in nested data, the normalized text and its hash, and
`evidence_from_tool_result`. What of Python's library is large, or depends on tables, is a parameter.
-/

namespace AgentRuntime.Graph
open Python Uri

/-- The last microsecond that a `datetime` can be at, counted from its first one. -/
def maxInstant : Int := 315537897600000000 - 1

/-- What `datetime.fromisoformat` yields: the microseconds from the first instant to the local time, and the
    offset of its time zone if it has one. -/
structure LocalTime where
  micros : Int
  offset : Option Int
  inRange : 0 ≤ micros ∧ micros ≤ maxInstant

/-- What the readers use of Python. -/
structure Interpreter extends Library where
  /-- the calls that the recursion limit leaves to a search -/
  frames : Nat
  /-- the nesting that `json.dumps` gets through -/
  dumpsNesting : Nat
  /-- the nesting that `str` gets through -/
  strNesting : Nat
  floatText : BitVec 64 → String
  /-- `str(value)` of what is no string -/
  str : Value → PyStr
  /-- nothing stands for the `ValueError` of `datetime.fromisoformat` -/
  fromisoformat : PyStr → Option LocalTime
  /-- `re.compile(pattern, re.I).search(text)` -/
  search : (pattern : String) → PyStr → Bool
  /-- `hashlib.sha256(text.encode("utf-8")).hexdigest()` -/
  sha256 : PyStr → String
  sha256_given : ∀ text, sha256 text ≠ ""

section Search

variable {α : Type}

/-- What reading the values in turn finds first. -/
def firstOf (read : Value → Except GraphError (Option α)) : List Value → Except GraphError (Option α)
  | [] => .ok none
  | value :: values =>
    match read value with
    | .ok none => firstOf read values
    | answer => answer

/-- What a dictionary has itself. -/
def directly (direct : List (PyStr × Value) → Option α) : Value → Option α
  | .obj fields => direct fields
  | _ => none

/-- A search of nested data, in the order of sources `_first_uri` and `_first_named_value`: what a dictionary
    has itself, else what is found first in the nested values. Every call takes one of the frames. -/
def firstFound (direct : List (PyStr × Value) → Option α) : Nat → Value → Except GraphError (Option α)
  | 0, _ => .error (.raised "RecursionError")
  | frames + 1, value =>
    match directly direct value with
    | some found => .ok (some found)
    | none => firstOf (firstFound direct frames) value.nested

/-- What `_first_uri` looks for in a dictionary. -/
def uriField (fields : List (PyStr × Value)) : Option PyStr :=
  ["url", "uri", "source_uri", "link"].findSome? fun key =>
    match Value.get? fields key with
    | some (.str text) => if text.strip.isEmpty then none else some text
    | _ => none

/-- What `_first_named_value` looks for in a dictionary: a value under one of the keys that is neither `None`
    nor the empty string. -/
def namedField (keys : List String) (fields : List (PyStr × Value)) : Option Value :=
  keys.findSome? fun key =>
    match Value.get? fields key with
    | some .null | some (.str []) => none
    | other => other

end Search

/-- The keys of a date of publication. -/
def dateKeys : List String := ["published_at", "published", "date_published", "date"]

/-- The keys of a title. -/
def titleKeys : List String := ["title", "source_title", "name"]

/-- The keys of the address of an artifact. -/
def artifactKeys : List String := ["raw_artifact_uri", "artifact_uri", "object_uri"]

namespace Interpreter

variable (python : Interpreter)

/-- source `_first_uri` -/
def firstUri (value : Value) : Except GraphError (Option PyStr) := firstFound uriField python.frames value

/-- source `_first_named_value` -/
def firstNamedValue (value : Value) (keys : List String) : Except GraphError (Option Value) :=
  firstFound (namedField keys) python.frames value

/-- The instants of `datetime` before 1970, which `Time` counts from. -/
def epoch : Int := 62135596800000000

/-- source `_parse_datetime`: subtracting the offset can leave the range of `datetime` -/
def parseDatetime : Option Value → Except GraphError (Option Time)
  | some (.str value) =>
    let text := value.strip
    if text.isEmpty then .ok none
    else
      match python.fromisoformat
        (text.flatMap fun c => if c = .ofNat 0x5a then PyStr.ofString "+00:00" else [c]) with
      | none => .ok none
      | some parsed =>
        let utc := parsed.micros - parsed.offset.getD 0
        if 0 ≤ utc ∧ utc ≤ maxInstant then .ok (some (utc - epoch))
        else .error (.raised "OverflowError")
  | _ => .ok none

/-- The text of a payload, in `normalize_text`. -/
def payloadText : Value → Except GraphError PyStr
  | .str text => .ok text
  | value =>
    if value.nesting ≤ python.dumpsNesting then .ok (dumps python.floatText value)
    else .error (.raised "RecursionError")

/-- The characters that `normalize_text` keeps. -/
def maxChars : Nat := 12000

/-- `" ".join(text.replace("\x00", " ").split())` -/
def collapsed (text : PyStr) : PyStr :=
  join " " (PyStr.splitSpace (text.replaceChar (.ofNat 0) Uri.space))

/-- source `normalize_text` -/
def normalizeText (value : Value) : Except GraphError (PyStr × Bool) :=
  match python.payloadText value with
  | .error error => .error error
  | .ok text => .ok ((collapsed text).take maxChars, decide (maxChars < (collapsed text).length))

/-- source `content_hash` -/
def contentHash (text : PyStr) : Except GraphError {hash : String // hash ≠ ""} :=
  if text.encodable then .ok ⟨python.sha256 text, python.sha256_given text⟩
  else .error (.raised "UnicodeEncodeError")

/-- source `_INJECTION_PATTERNS` -/
def injectionPatterns : List String :=
  ["ignore (?:(?:all|any|the|your) )?previous instructions", "system prompt", "developer message",
    "you are now", "call (this|the) tool"]

/-- source `scan_for_prompt_injection` -/
def scanForPromptInjection (text : PyStr) : InjectionScanStatus :=
  if injectionPatterns.any fun pattern => python.search pattern text then .suspicious else .clean

/-- A word of the source is in the text. -/
def mentions (text : PyStr) (word : String) : Bool := decide (PyStr.ofString word <:+: text)

/-- source `freshness_for_result` -/
def freshnessForResult (publishedAt : Option Time) (query : String) (retrievedAt : Time) : FreshnessStatus :=
  let lowered := python.lower (.ofString query)
  let timeSensitive := ["current", "latest", "today", "tomorrow", "weather", "news", "score", "schedule",
    "price", "president", "ceo"].any (mentions lowered)
  if !timeSensitive then .notTimeSensitive
  else
    match publishedAt with
    | none => .unknown
    | some publishedAt =>
      let days := if mentions lowered "weather" || mentions lowered "today" then 1 else 7
      if retrievedAt - publishedAt ≤ days * seconds 86400 then .current else .stale

/-- source `source_quality_for_uri` -/
def sourceQualityForUri : Option PyStr → SourceQuality
  | none | some [] => .secondaryUnknown
  | some uri =>
    match urlsplit python.toLibrary uri with
    | none => .secondaryUnknown
    | some parsed =>
      let host := python.lower (hostname python.toLibrary parsed)
      if PyStr.ofString ".gov" <:+ host ∨ host = .ofString "who.int" ∨ host = .ofString "un.org" then
        .primaryAuthoritative
      else if PyStr.ofString ".edu" <:+ host then .primaryNonAuthoritative
      else .secondaryUnknown

/-- `str(value)` -/
def strOf : Value → Except GraphError PyStr
  | .str text => .ok text
  | value => if value.nesting ≤ python.strNesting then .ok (python.str value) else .error (.raised "RecursionError")

/-- `str(value)` of a value that is truthy, or nothing -/
def strOfTruthy : Option Value → Except GraphError (Option PyStr)
  | some value => if value.truthy then (python.strOf value).map some else .ok none
  | none => .ok none

end Interpreter

/-- What the tool executor returns (source `MCPToolResult`), with the data as `json.loads` yields it. -/
structure ToolResult where
  ok : Bool
  data : Value
  error : Option PyStr := none

namespace ToolResult

/-- `error or "tool request failed"`, for the given text -/
def errorOr (result : ToolResult) (text : String) : PyStr :=
  match result.error with
  | none | some [] => .ofString text
  | some error => error

/-- What is normalized: the data, or the error of a failed tool. -/
def payload (result : ToolResult) : Value :=
  if result.ok then result.data else .str (result.errorOr "tool request failed")

end ToolResult

/-- What `evidence_from_tool_result` reads in a result before it builds the record. -/
def Interpreter.read (python : Interpreter) (now : Time) (result : ToolResult) (query : String) :
    Except GraphError Reading := do
  let (text, truncated) ← python.normalizeText result.payload
  let sourceUri ← python.firstUri result.data
  let canonicalUri ← canonicalizeUri python.toLibrary sourceUri
  let publishedAt ← python.parseDatetime (← python.firstNamedValue result.data dateKeys)
  let sourceTitle ← python.firstNamedValue result.data titleKeys
  let rawArtifactUri ← python.firstNamedValue result.data artifactKeys
  let sourceTitle ← python.strOfTruthy sourceTitle
  let rawArtifactUri ← python.strOfTruthy rawArtifactUri
  let hash ← python.contentHash text
  return {
    text := text.shown
    truncated := truncated
    hash := hash.val
    sourceUri := sourceUri.map PyStr.shown
    canonicalUri := canonicalUri.map PyStr.shown
    sourceTitle := sourceTitle.map PyStr.shown
    retrievedAt := now
    publishedAt := publishedAt
    rawArtifactUri := rawArtifactUri.map PyStr.shown
    freshness := python.freshnessForResult publishedAt query now
    quality := python.sourceQualityForUri sourceUri
    scan := python.scanForPromptInjection text
    hash_given := hash.property }

section Depth

variable {α : Type} (direct : List (PyStr × Value) → Option α)

mutual

/-- What a search without a limit finds. -/
def found : Value → Option α
  | .arr items => foundItems items
  | .obj fields => (direct fields).or (foundFields fields)
  | _ => none

def foundItems : List Value → Option α
  | [] => none
  | item :: items => (found item).or (foundItems items)

def foundFields : List (PyStr × Value) → Option α
  | [] => none
  | (_, value) :: fields => (found value).or (foundFields fields)

end

mutual

/-- The calls that a search makes within each other, up to where it finds something. -/
def searchDepth : Value → Nat
  | .arr items => 1 + searchDepthItems items
  | .obj fields => if (direct fields).isSome then 1 else 1 + searchDepthFields fields
  | _ => 1

def searchDepthItems : List Value → Nat
  | [] => 0
  | item :: items =>
    if (found direct item).isSome then searchDepth item else max (searchDepth item) (searchDepthItems items)

def searchDepthFields : List (PyStr × Value) → Nat
  | [] => 0
  | (_, value) :: fields =>
    if (found direct value).isSome then searchDepth value
    else max (searchDepth value) (searchDepthFields fields)

end

variable {direct}

lemma searchDepth_pos (value : Value) : 1 ≤ searchDepth direct value := by
  cases value with
  | arr items => exact Nat.le_add_right 1 _
  | obj fields =>
    rw [searchDepth]
    split
    · exact Nat.le_refl 1
    · exact Nat.le_add_right 1 _
  | _ => exact Nat.le_refl 1

/-- An answer, if the frames suffice. -/
def within (depth frames : Nat) (answer : Option α) : Except GraphError (Option α) :=
  if depth ≤ frames then .ok answer else .error (.raised "RecursionError")

lemma firstOf_items {frames : Nat} {read : Value → Except GraphError (Option α)}
    (reads : ∀ value, read value = within (searchDepth direct value) frames (found direct value))
    (items : List Value) :
    firstOf read items = within (searchDepthItems direct items) frames (foundItems direct items) := by
  induction items with
  | nil => rfl
  | cons item items ih =>
    simp only [firstOf, reads, foundItems, searchDepthItems]
    by_cases shallow : searchDepth direct item ≤ frames
    · cases answer : found direct item with
      | some x => simp [within, shallow]
      | none =>
        simp only [within, Option.none_or, Option.isSome_none, Bool.false_eq_true, if_false,
          Nat.max_le, shallow, true_and]
        exact ih
    · have deep : ¬ (if (found direct item).isSome then searchDepth direct item
          else max (searchDepth direct item) (searchDepthItems direct items)) ≤ frames := by
        split
        · exact shallow
        · exact fun le => shallow (Nat.le_trans (Nat.le_max_left _ _) le)
      simp only [within, if_neg shallow, if_neg deep]

lemma foundFields_values (fields : List (PyStr × Value)) :
    foundFields direct fields = foundItems direct (fields.map Prod.snd) ∧
      searchDepthFields direct fields = searchDepthItems direct (fields.map Prod.snd) := by
  induction fields with
  | nil => exact ⟨rfl, rfl⟩
  | cons field fields ih =>
    obtain ⟨key, value⟩ := field
    simp only [foundFields, searchDepthFields, List.map_cons, foundItems, searchDepthItems, ih.1, ih.2,
      and_self]

/-- A search with a limit finds what it would find without one, if its calls take no more than the frames. -/
lemma firstFound_within (frames : Nat) (value : Value) :
    firstFound direct frames value = within (searchDepth direct value) frames (found direct value) := by
  induction frames generalizing value with
  | zero => rw [firstFound, within, if_neg (Nat.not_le.mpr (searchDepth_pos value))]
  | succ frames ih =>
    have items (items : List Value) : firstOf (firstFound direct frames) items =
        within (1 + searchDepthItems direct items) (frames + 1) (foundItems direct items) := by
      rw [firstOf_items ih]
      simp only [within, Nat.add_comm 1, Nat.add_le_add_iff_right]
    cases value with
    | arr values => exact items values
    | obj fields =>
      obtain ⟨answer, depth⟩ := @foundFields_values α direct fields
      simp only [firstFound, directly, found, searchDepth]
      cases direct fields with
      | some x => simp [within]
      | none =>
        simp only [Option.none_or, Option.isSome_none, Bool.false_eq_true, if_false, answer, depth]
        exact items _
    | _ => rfl

lemma within_ok {depth frames : Nat} {answer : Option α} {P : Option α → Prop} :
    (∃ x, within depth frames answer = .ok x ∧ P x) ↔ depth ≤ frames ∧ P answer := by
  rw [within]
  split
  · next le => simp [le]
  · next gt => simp [gt]

end Depth

section Readable

variable {python : Interpreter}

/-- The characters of a payload. -/
def Interpreter.characters (python : Interpreter) : Value → PyStr
  | .str text => text
  | value => dumps python.floatText value

/-- The text of a payload that is kept: the first characters, with single spaces for all space. -/
def Interpreter.keptText (python : Interpreter) (payload : Value) : PyStr :=
  (Interpreter.collapsed (python.characters payload)).take Interpreter.maxChars

/-- The date is no text of a time that is out of range in UTC. -/
def Interpreter.DateInRange (python : Interpreter) (date : Option Value) : Prop :=
  ∀ text parsed, date = some (.str text) → text.strip ≠ [] →
    python.fromisoformat (text.strip.flatMap fun c =>
      if c = .ofNat 0x5a then PyStr.ofString "+00:00" else [c]) = some parsed →
    0 ≤ parsed.micros - parsed.offset.getD 0 ∧ parsed.micros - parsed.offset.getD 0 ≤ maxInstant

/-- The value, if it is there and truthy, is not nested too deeply for `str`. -/
def Interpreter.Printable (python : Interpreter) (value : Option Value) : Prop :=
  ∀ x, value = some x → x.truthy = true → x.nesting ≤ python.strNesting

/-- A result that is read without an exception. -/
structure Interpreter.Readable (python : Interpreter) (result : ToolResult) : Prop where
  /-- the payload is not nested too deeply -/
  payload : result.payload.nesting ≤ python.dumpsNesting
  /-- no search has to go too deep -/
  uriDepth : searchDepth uriField result.data ≤ python.frames
  dateDepth : searchDepth (namedField dateKeys) result.data ≤ python.frames
  titleDepth : searchDepth (namedField titleKeys) result.data ≤ python.frames
  artifactDepth : searchDepth (namedField artifactKeys) result.data ≤ python.frames
  /-- the first address has a good port and good parameters -/
  uri : Canonicalizable python.toLibrary (found uriField result.data)
  /-- the first date is in range -/
  date : python.DateInRange (found (namedField dateKeys) result.data)
  title : python.Printable (found (namedField titleKeys) result.data)
  artifact : python.Printable (found (namedField artifactKeys) result.data)
  /-- the text that is kept has no lone surrogates -/
  text : (python.keptText result.payload).encodable = true

namespace Interpreter

lemma payloadText_eq (value : Value) : python.payloadText value =
    if value.nesting ≤ python.dumpsNesting then .ok (python.characters value)
    else .error (.raised "RecursionError") := by
  cases value with
  | str text => exact (if_pos (Nat.zero_le _)).symm
  | _ => rfl

lemma normalizeText_ok {value : Value} {P : PyStr × Bool → Prop} :
    (∃ x, python.normalizeText value = .ok x ∧ P x) ↔ value.nesting ≤ python.dumpsNesting ∧
      P (python.keptText value, decide (maxChars < (collapsed (python.characters value)).length)) := by
  rw [normalizeText, payloadText_eq]
  by_cases le : value.nesting ≤ python.dumpsNesting
  · simp [le, keptText]
  · simp [le]

lemma parseDatetime_ok {date : Option Value} :
    (∃ x, python.parseDatetime date = .ok x) ↔ python.DateInRange date := by
  match date with
  | some (.str value) =>
    have here : python.DateInRange (some (.str value)) ↔ (value.strip ≠ [] → ∀ parsed,
        python.fromisoformat (value.strip.flatMap fun c =>
          if c = .ofNat 0x5a then PyStr.ofString "+00:00" else [c]) = some parsed →
        0 ≤ parsed.micros - parsed.offset.getD 0 ∧ parsed.micros - parsed.offset.getD 0 ≤ maxInstant) := by
      refine ⟨fun inRange given parsed => inRange value parsed rfl given, ?_⟩
      rintro inRange _ parsed ⟨⟩ given
      exact inRange given parsed
    rw [here]
    simp only [parseDatetime, List.isEmpty_iff]
    split
    · next empty => simp [empty]
    · next given =>
      split
      · next none => simp [none]
      · next parsed some =>
        split
        · next inRange => simpa [given, some] using inRange
        · next out =>
          simp only [reduceCtorEq, exists_false, some, false_iff]
          exact fun inRange => out (inRange given parsed rfl)
  | none | some .null | some (.bool _) | some (.int _) | some (.float _) | some (.arr _) | some (.obj _) =>
    exact ⟨fun _ => nofun, fun _ => ⟨none, rfl⟩⟩

lemma strOf_ok {x : Value} : (∃ text, python.strOf x = .ok text) ↔ x.nesting ≤ python.strNesting := by
  cases x with
  | str text => exact ⟨fun _ => Nat.zero_le _, fun _ => ⟨text, rfl⟩⟩
  | _ =>
    simp only [strOf]
    split
    · next le => exact ⟨fun _ => le, fun _ => ⟨_, rfl⟩⟩
    · next deep =>
      constructor
      · rintro ⟨_, raised⟩
        cases raised
      · intro le
        exact absurd le deep

lemma strOfTruthy_ok {value : Option Value} :
    (∃ x, python.strOfTruthy value = .ok x) ↔ python.Printable value := by
  cases value with
  | none =>
    constructor
    · intro _ x given
      cases given
    · intro _
      exact ⟨none, rfl⟩
  | some x =>
    have here : python.Printable (some x) ↔ (x.truthy = true → x.nesting ≤ python.strNesting) := by
      refine ⟨fun printable => printable x rfl, ?_⟩
      rintro printable _ ⟨⟩
      exact printable
    rw [here, strOfTruthy]
    cases x.truthy with
    | false =>
      constructor
      · intro _ given
        cases given
      · intro _
        exact ⟨none, rfl⟩
    | true =>
      rw [if_pos rfl, ← strOf_ok]
      constructor
      · rintro ⟨_, mapped⟩ _
        cases given : python.strOf x with
        | ok text => exact ⟨text, rfl⟩
        | error error =>
          rw [given] at mapped
          cases mapped
      · intro printable
        obtain ⟨text, given⟩ := printable rfl
        rw [given]
        exact ⟨some text, rfl⟩

lemma contentHash_ok {text : PyStr} : (∃ x, python.contentHash text = .ok x) ↔ text.encodable = true := by
  rw [contentHash]
  split
  · next encodable => simp [encodable]
  · next surrogate => simp [surrogate]

/-- When the readers return. -/
lemma read_ok {now : Time} {result : ToolResult} {query : String} :
    (∃ reading, python.read now result query = .ok reading) ↔ python.Readable result := by
  simp only [read, Fallible.bind_ok, normalizeText_ok, firstUri, firstNamedValue, firstFound_within, within_ok]
  constructor
  · rintro ⟨payload, uriDepth, _, uri, dateDepth, _, date, titleDepth, artifactDepth, _, title, _, artifact,
      _, hashed, -⟩
    exact {
      payload, uriDepth, dateDepth, titleDepth, artifactDepth
      uri := canonicalizeUri_ok.mp ⟨_, uri⟩
      date := parseDatetime_ok.mp ⟨_, date⟩
      title := strOfTruthy_ok.mp ⟨_, title⟩
      artifact := strOfTruthy_ok.mp ⟨_, artifact⟩
      text := contentHash_ok.mp ⟨_, hashed⟩ }
  · intro readable
    obtain ⟨canonical, uri⟩ := canonicalizeUri_ok.mpr readable.uri
    obtain ⟨published, date⟩ := parseDatetime_ok.mpr readable.date
    obtain ⟨shownTitle, title⟩ := strOfTruthy_ok.mpr readable.title
    obtain ⟨shownArtifact, artifact⟩ := strOfTruthy_ok.mpr readable.artifact
    obtain ⟨hash, hashed⟩ := contentHash_ok.mpr readable.text
    exact ⟨readable.payload, readable.uriDepth, canonical, uri, readable.dateDepth, published, date,
      readable.titleDepth, readable.artifactDepth, shownTitle, title, shownArtifact, artifact, hash, hashed,
      _, rfl⟩

end Interpreter

end Readable

end AgentRuntime.Graph
