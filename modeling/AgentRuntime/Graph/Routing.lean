import AgentRuntime.Graph.Models
import AgentRuntime.Lib.Fallible
import Mathlib.Algebra.Order.Ring.Int
import Mathlib.Data.List.Sort

/-!
# Selecting tools

Port of `select_tools` in `services/routing.py` with all that it calls: which tools of the live inventory may
be asked, how well each suits the query, and the arguments that are made up for its schema from the query
and the metadata of the request. What Python knows of characters is a parameter.
-/

namespace AgentRuntime.Graph
open Text

/-- What Python knows of characters, and `str` of a value that is no text. -/
structure PythonText where
  lower : String → String
  /-- `\w` -/
  isWord : Char → Bool
  /-- the value of a decimal digit -/
  digit : Char → Option Nat
  shown : Json → String

/-- source `ToolRoutingDecision` -/
structure RankedTool where
  name : String
  arguments : JsonObject
  score : Nat
  reason : String

/-- What the graph uses of a decision. -/
def RankedTool.decision (ranked : RankedTool) : ToolRoutingDecision := ⟨ranked.name, ranked.arguments⟩

/-- What `select_tools` is asked for, beside the inventory and the metadata. -/
structure ToolRequest where
  userRequest : String
  task : PlanTask
  requiredActions : List String
  query : String

namespace Routing

section Terms

/-- source `_CURRENT_TERMS` -/
def currentTerms : List String :=
  ["current", "currently", "latest", "live", "today", "tonight", "tomorrow", "yesterday", "recent",
    "recently", "now", "this week", "last night", "breaking"]

/-- source `_WRITE_MARKERS` -/
def writeMarkers : List String :=
  ["send", "create", "delete", "remove", "update", "modify", "write", "draft", "post", "publish", "book",
    "purchase", "order", "cancel", "forward", "reply"]

/-- `value.split()`, joined with single spaces -/
def collapsed (value : String) : String :=
  " ".intercalate (((value.toList.splitOnP isSpace).filter fun part => !part.isEmpty).map String.ofList)

/-- source `_contains_any` -/
def containsAny (text : String) (terms : List String) : Bool := terms.any fun term => Contains text term

variable (python : PythonText)

/-- source `_normalize` -/
def normalize (value : String) : String := collapsed (python.lower value)

/-- source `_read_only_candidate` -/
def readOnlyCandidate (name : String) : Bool :=
  let normalized := (python.lower name).toList.map fun c => if c = '-' then '_' else c
  let parts := (normalized.splitOnP fun c => !Tools.isNameChar c).map String.ofList
  !parts.any writeMarkers.contains

end Terms

section Score

/-- A rule of `_tool_score`: for some queries, the terms that count in the tool's name and description, what
    each counts, and the reason when one of some terms is there. -/
structure ScoreRule where
  applies : Bool
  terms : List String
  weight : Nat
  reasonTerms : List String
  reason : String

/-- source `_score_terms` -/
def scoreTerms (haystack : String) (terms : List String) (weight : Nat) : Nat :=
  ((terms.filter fun term => Contains haystack term).map fun _ => weight).sum

/-- The rules of `_tool_score` for a query. -/
def scoreRules (query : String) : List ScoreRule :=
  [ { applies := containsAny query ["weather", "forecast"]
      terms := ["weather", "forecast", "climate"]
      weight := 12
      reasonTerms := ["weather", "forecast"]
      reason := "weather capability" },
    { applies := containsAny query ["fifa", "football", "soccer", "match", "game", "score"]
      terms := ["sports", "football", "soccer", "fifa", "match", "score", "news"]
      weight := 10
      reasonTerms := ["sports", "football", "soccer", "news"]
      reason := "sports/news capability" },
    { applies := containsAny query currentTerms || containsAny query ["news"]
      terms := ["news", "search", "web", "scrape"]
      weight := 8
      reasonTerms := ["news", "search", "web"]
      reason := "fresh-information capability" },
    { applies := containsAny query ["critic", "reaction", "report", "source", "evidence"]
      terms := ["news", "search", "web", "scrape", "article"]
      weight := 7
      reasonTerms := ["news", "search", "scrape"]
      reason := "source-discovery capability" } ]

/-- source `_tool_score` -/
def toolScore (python : PythonText) (name description query : String) : Nat × List String :=
  let haystack := normalize python (name ++ " " ++ description)
  let rules := (scoreRules query).filter ScoreRule.applies
  let known := ["web_search_and_scrape", "web_search", "news_search"].contains name
  let score := (rules.map fun rule => scoreTerms haystack rule.terms rule.weight).sum +
    scoreTerms haystack ["search", "web", "news", "scrape", "fetch"] 3 + if known then 4 else 0
  let reasons := (rules.filter fun rule => containsAny haystack rule.reasonTerms).map ScoreRule.reason
  (score, reasons ++ if known then ["known read-only research fallback"] else [])

end Score

section Location

variable (python : PythonText)

/-- The words before a place. -/
def placeWords : List (List Char) := ["in".toList, "for".toList, "at".toList, "near".toList]

/-- The words of time that end a place. -/
def timeWords : List (List Char) :=
  ["today".toList, "tomorrow".toList, "yesterday".toList, "now".toList]

/-- What is behind a word and the blanks behind it; there must be a blank. -/
def behindBlanks : List Char → Option (List Char)
  | [] => none
  | c :: rest => if isSpace c then some (rest.dropWhile isSpace) else none

/-- What is behind one of the words, where the text begins with it. -/
def behindWord (words : List (List Char)) (text : List Char) : Option (List Char) :=
  (words.find? fun word => word.isPrefixOf text).map fun word => text.drop word.length

/-- `(?:[?.!,]|\s+(?:today|tomorrow|yesterday|now)\b|$)` matches here. -/
def endsPlace (text : List Char) : Bool :=
  text = [] || text = ['\n'] || (text.head?.any ['?', '.', '!', ','].contains) ||
    ((behindBlanks text).bind (behindWord timeWords)).any fun rest => !rest.head?.any python.isWord

/-- `[A-Za-z .'-]` -/
def isPlaceChar (c : Char) : Bool :=
  ('A' ≤ c && c ≤ 'Z') || ('a' ≤ c && c ≤ 'z') || [' ', '.', '\'', '-'].contains c

/-- `[A-Za-z .'-]+?`, up to the first character behind which the place can end -/
def placeRest : List Char → Option (List Char)
  | [] => none
  | c :: rest =>
    if !isPlaceChar c then none
    else if endsPlace python rest then some [c]
    else (placeRest rest).map (c :: ·)

/-- The place behind a word, where the text begins with one. -/
def placeHere (text : List Char) : Option (List Char) :=
  match (behindWord placeWords text).bind behindBlanks with
  | some (c :: rest) => if 'A' ≤ c && c ≤ 'Z' then (placeRest python rest).map (c :: ·) else none
  | _ => none

/-- `re.search`: the first place, where a word can begin -/
def searchPlace (afterWord : Bool) : List Char → Option (List Char)
  | [] => none
  | c :: rest =>
    match if afterWord then none else placeHere python (c :: rest) with
    | some place => some place
    | none => searchPlace (python.isWord c) rest

/-- source `_extract_location` -/
def extractLocation (query : String) : Option String :=
  (searchPlace python false query.toList).map fun place => String.ofList (stripIf isSpace place)

end Location

section Integers

/-- `int(text)`, where it raises no `ValueError` -/
def intOfText (python : PythonText) (text : String) : Option Int :=
  let body := stripIf isSpace text.toList
  let negative := body.head? = some '-'
  let unsigned := if body.head?.any ['-', '+'].contains then body.tail else body
  let groups := unsigned.splitOn '_'
  let digits := groups.flatten.filterMap python.digit
  if (groups.all fun group => !group.isEmpty && group.all fun c => (python.digit c).isSome) &&
      digits.length ≤ 4300 then
    let value : Int := digits.foldl (fun n digit => 10 * n + digit) 0
    some (if negative then -value else value)
  else none

/-- `int(value)` for a finite float -/
def truncated (bits : BitVec 64) : Int :=
  let exponent := (bits.extractLsb 62 52).toNat
  let significand := 2 ^ 52 + (bits.extractLsb 51 0).toNat
  let magnitude : Nat :=
    if exponent = 0 then 0
    else if 1075 ≤ exponent then significand * 2 ^ (exponent - 1075)
    else significand / 2 ^ (1075 - exponent)
  if bits.msb then -magnitude else magnitude

/-- `float(n)` for a positive number below 2^53 -/
def floatOfNat (n : Nat) : BitVec 64 :=
  let exponent := n.log2
  BitVec.ofNat 64 ((1023 + exponent) * 2 ^ 52 + (n * 2 ^ (52 - exponent) - 2 ^ 52))

/-- The value is an infinite float, for which `int` raises an `OverflowError`. -/
def infinite : Option Json → Bool
  | some (.float bits) => bits.extractLsb 62 0 = 0x7ff0000000000000#63
  | _ => false

/-- `int(value)`; nothing for a `TypeError` or a `ValueError` -/
def intOf (python : PythonText) : Option Json → Option Int
  | some (.bool value) => some (if value then 1 else 0)
  | some (.int value) => some value
  | some (.float bits) => if isFinite bits then some (truncated bits) else none
  | some (.str text) => intOfText python text
  | _ => none

/-- source `_safe_int`, which catches no `OverflowError` -/
def safeInt (python : PythonText) (value : Option Json) (default minimum maximum : Int) :
    Except GraphError Int :=
  if infinite value then .error (.raised "OverflowError")
  else .ok (max minimum (min maximum ((intOf python value).getD default)))

end Integers

section Arguments

variable (python : PythonText)

/-- `str(value or "")` -/
def textOf : Option Json → String
  | some (.str text) => text
  | some value => if value.truthy then python.shown value else ""
  | none => ""

/-- `first or second or {}`, if it is an object -/
def schemaOf (tool : JsonObject) : Option JsonObject :=
  let given (key : String) : Option Json := (tool.get? key).filter Json.truthy
  match (given "inputSchema").or (given "input_schema") with
  | none => some []
  | some (.obj schema) => some schema
  | some _ => none

/-- `schema.get("properties")`, if it is an object -/
def propertiesOf (schema : JsonObject) : JsonObject :=
  match schema.get? "properties" with
  | some (.obj properties) => properties
  | _ => []

/-- `schema.get("required")`, if it is a list -/
def requiredOf (schema : JsonObject) : List Json :=
  match schema.get? "required" with
  | some (.arr required) => required
  | _ => []

/-- `prop in required` -/
def lists (required : List Json) (prop : String) : Bool :=
  required.any fun
    | .str text => text = prop
    | _ => false

/-- The definition of a property, if it is an object. -/
def definitionOf : Json → JsonObject
  | .obj definition => definition
  | _ => []

/-- `"default" in definition` -/
def hasDefault (definition : Json) : Bool := ((definitionOf definition).get? "default").isSome

def queryNames : List String := ["query", "q", "search_query", "search", "text", "prompt"]

def countNames : List String := ["pages", "limit", "count", "max_results", "num_results"]

def officialNames : List String := ["prefer_official", "official_only"]

def placeNames : List String := ["location", "city", "place"]

/-- source `_fallback_required_value` -/
def fallbackRequiredValue (definition : JsonObject) (query : String) (pages : Int) : Option Json :=
  match definition.get? "type" with
  | none | some .null | some (.str "string") => some (.str query)
  | some (.str "integer") => some (.int pages)
  | some (.str "number") => some (.float (floatOfNat pages.toNat))
  | some (.str "boolean") => some (.bool true)
  | some _ => none

/-- What the metadata has under the name of a property, in lower case or as it is. -/
def fromMetadata (metadata : JsonObject) (prop : String) : Option Json :=
  match metadata.get? (python.lower prop) with
  | some value => some value
  | none => metadata.get? prop

/-- The value of a property in the loop of `_arguments_for_tool`, which can be left out; nothing when the
    property is required and there is none. -/
def propertyValue (query : String) (pages : Int) (metadata : JsonObject) (required : List Json)
    (prop : String) (definition : Json) : Option (Option Json) :=
  let name := python.lower prop
  if queryNames.contains name then some (some (.str query))
  else if countNames.contains name then some (some (.int pages))
  else if officialNames.contains name then some (some (.bool true))
  else if placeNames.contains name then
    match extractLocation python query with
    | some place => some (some (.str (if place = "" then query else place)))
    | none => some (some (.str query))
  else
    match fromMetadata python metadata prop with
    | some value => some (some value)
    | none =>
      if hasDefault definition then some none
      else if lists required prop then
        (fallbackRequiredValue (definitionOf definition) query pages).map some
      else some none

/-- The loop of `_arguments_for_tool`: a value that is `None` is left out as well. -/
def argumentsFrom (value : String → Json → Option (Option Json)) : JsonObject → JsonObject → Option JsonObject
  | [], arguments => some arguments
  | (prop, definition) :: properties, arguments =>
    match value prop definition with
    | none => none
    | some none | some (some .null) => argumentsFrom value properties arguments
    | some (some value') => argumentsFrom value properties (arguments.set prop value')

/-- source `_arguments_for_tool` -/
def argumentsForTool (tool : JsonObject) (query : String) (metadata : JsonObject) :
    Except GraphError (Option JsonObject) :=
  match schemaOf tool with
  | none => .ok none
  | some schema => do
    let pages ← safeInt python (metadata.get? "pages") 3 1 10
    let properties := propertiesOf schema
    let value := propertyValue python query pages metadata (requiredOf schema)
    match argumentsFrom value properties [] with
    | none => pure none
    | some arguments =>
      if properties = [] then
        pure (some [("query", .str query), ("pages", .int pages), ("prefer_official", .bool true)])
      else pure (some arguments)

end Arguments

section Selection

variable (python : PythonText)

/-- The text that the tools are selected for. -/
def resolvedQuery (request : ToolRequest) : String :=
  let query := strip request.query
  if query = "" then
    let actions := " ".intercalate (request.requiredActions.filter (· ≠ ""))
    strip (" ".intercalate ([request.task.objective, actions, request.userRequest].filter (· ≠ "")))
  else query

/-- `str(tool.get("name") or "").strip()` -/
def nameOf (tool : JsonObject) : String := strip (textOf python (tool.get? "name"))

/-- The tool has a name, and its name says that it only reads. -/
def named (tool : JsonObject) : Bool :=
  nameOf python tool ≠ "" && readOnlyCandidate python (nameOf python tool)

/-- How well the tool suits the query, and why. -/
def scoreOf (tool : JsonObject) (query : String) : Nat × List String :=
  toolScore python (nameOf python tool) (textOf python (tool.get? "description")) (normalize python query)

/-- The text of the reasons. -/
def reasonOf (reasons : List String) : String :=
  let reason := ", ".intercalate reasons
  if reason = "" then "generic read-only research tool" else reason

/-- The body of the loop in `select_tools` -/
def decideTool (tool : JsonObject) (query : String) (metadata : JsonObject) :
    Except GraphError (Option RankedTool) := do
  if named python tool then
    match ← argumentsForTool python tool query metadata with
    | none => pure none
    | some arguments =>
      let (score, reasons) := scoreOf python tool query
      if score = 0 then pure none
      else
        pure (some
          { name := nameOf python tool
            arguments := arguments
            score := score
            reason := reasonOf reasons })
  else pure none

/-- The better score comes first, and the names decide between equal ones. -/
def before (first second : RankedTool) : Prop :=
  second.score < first.score ∨ first.score = second.score ∧ first.name ≤ second.name

instance : DecidableRel before := fun _ _ => inferInstanceAs (Decidable (_ ∨ _))

/-- source `select_tools` -/
def selectTools (request : ToolRequest) (inventory : RuntimeInventory) (metadata : JsonObject)
    (limit : Nat) : Except GraphError (List RankedTool) := do
  let query := resolvedQuery request
  let decisions ← inventory.tools.mapM fun tool => decideTool python tool query metadata
  pure (((decisions.filterMap id).insertionSort before).take (max 1 limit))

end Selection

section Values

variable {python : PythonText} {query prop : String} {pages : Int} {metadata : JsonObject}
variable {required : List Json} {definition : Json}

/-- The property gets its value by its name. -/
def byName (python : PythonText) (prop : String) : Bool :=
  (queryNames ++ countNames ++ officialNames ++ placeNames).contains (python.lower prop)

/-- The value of a property that has one by its name. -/
lemma propertyValue_byName (query : String) (pages : Int) (metadata : JsonObject) (required : List Json)
    (definition : Json) (named : byName python prop = true) :
    ∃ value, propertyValue python query pages metadata required prop definition = some (some value) ∧
      value ≠ .null := by
  simp only [byName, List.contains_append, Bool.or_eq_true] at named
  simp only [propertyValue]
  split
  · exact ⟨_, rfl, Json.noConfusion⟩
  · next noQuery =>
    split
    · exact ⟨_, rfl, Json.noConfusion⟩
    · next noCount =>
      split
      · exact ⟨_, rfl, Json.noConfusion⟩
      · next noFlag =>
        split
        · split
          · exact ⟨_, rfl, Json.noConfusion⟩
          · exact ⟨_, rfl, Json.noConfusion⟩
        · next noPlace =>
          obtain ((query | count) | flag) | place := named
          · exact absurd query noQuery
          · exact absurd count noCount
          · exact absurd flag noFlag
          · exact absurd place noPlace

/-- The value of another property. -/
lemma propertyValue_other (other : byName python prop = false) :
    propertyValue python query pages metadata required prop definition =
      match fromMetadata python metadata prop with
      | some value => some (some value)
      | none =>
        if hasDefault definition then some none
        else if lists required prop then
          (fallbackRequiredValue (definitionOf definition) query pages).map some
        else some none := by
  simp only [byName, List.contains_append, Bool.or_eq_false_iff] at other
  obtain ⟨⟨⟨noQuery, noCount⟩, noFlag⟩, noPlace⟩ := other
  simp only [propertyValue, noQuery, noCount, noFlag, noPlace, Bool.false_eq_true, if_false]

lemma fallback_ne_null {value : Json} {fields : JsonObject}
    (falls : fallbackRequiredValue fields query pages = some value) : value ≠ .null := by
  unfold fallbackRequiredValue at falls
  split at falls
  all_goals
    cases falls
  all_goals
    exact Json.noConfusion

/-- A property is left out with `None` exactly when the metadata has it so. -/
lemma propertyValue_null_iff :
    propertyValue python query pages metadata required prop definition = some (some .null) ↔
      byName python prop = false ∧ fromMetadata python metadata prop = some .null := by
  cases named : byName python prop with
  | true =>
    obtain ⟨value, eq, ne⟩ := propertyValue_byName query pages metadata required definition named
    rw [eq]
    constructor
    · intro null
      cases null
      exact absurd rfl ne
    · rintro ⟨⟨⟩, -⟩
  | false =>
    rw [propertyValue_other named]
    cases fromMetadata python metadata prop with
    | some value => simp
    | none =>
      simp only [true_and, reduceCtorEq, iff_false]
      intro null
      split at null
      · cases null
      · split at null
        · obtain ⟨value, falls, eq⟩ := Option.map_eq_some_iff.mp null
          cases eq
          exact absurd rfl (fallback_ne_null falls)
        · cases null

/-- A required property without a default is not passed over. -/
lemma propertyValue_required (requires : lists required prop = true)
    (noDefault : hasDefault definition = false) :
    propertyValue python query pages metadata required prop definition ≠ some none := by
  intro skipped
  cases named : byName python prop with
  | true =>
    obtain ⟨value, eq, -⟩ := propertyValue_byName query pages metadata required definition named
    rw [eq] at skipped
    cases skipped
  | false =>
    rw [propertyValue_other named] at skipped
    cases found : fromMetadata python metadata prop with
    | some value =>
      rw [found] at skipped
      cases skipped
    | none =>
      rw [found] at skipped
      simp only [noDefault, requires, Bool.false_eq_true, if_false, if_true] at skipped
      obtain ⟨value, -, eq⟩ := Option.map_eq_some_iff.mp skipped
      cases eq

end Values

section Loop

variable {value : String → Json → Option (Option Json)} {properties arguments result : JsonObject}
variable {prop : String}

/-- The argument is there, and is not `None`. -/
def Given (arguments : JsonObject) (prop : String) : Prop :=
  ∃ value, arguments.get? prop = some value ∧ value ≠ .null

lemma Given.set {value : Json} (key : String) (given : Given arguments prop) (ne : value ≠ .null) :
    Given (arguments.set key value) prop := by
  obtain ⟨old, found, oldNe⟩ := given
  by_cases same : prop = key
  · subst same
    exact ⟨value, JsonObject.get?_set_self _ _ _, ne⟩
  · exact ⟨old, (JsonObject.get?_set_of_ne same).trans found, oldNe⟩

/-- What was given stays given. -/
lemma argumentsFrom_keeps (loop : argumentsFrom value properties arguments = some result)
    (given : Given arguments prop) : Given result prop := by
  induction properties generalizing arguments with
  | nil =>
    cases loop
    exact given
  | cons property properties ih =>
    obtain ⟨name, definition⟩ := property
    rw [argumentsFrom] at loop
    split at loop
    · cases loop
    · exact ih loop given
    · exact ih loop given
    · next value' notNull _ => exact ih loop (given.set name fun null => notNull (by rw [null]))

/-- A property with a value is given it. -/
lemma argumentsFrom_gives {definition value' : Json}
    (loop : argumentsFrom value properties arguments = some result) (mem : (prop, definition) ∈ properties)
    (eq : value prop definition = some (some value')) (ne : value' ≠ .null) : Given result prop := by
  induction properties generalizing arguments with
  | nil => cases mem
  | cons property properties ih =>
    obtain ⟨name, definition'⟩ := property
    rw [argumentsFrom] at loop
    cases mem with
    | head =>
      rw [eq] at loop
      split at loop
      · next none => cases none
      · next none => cases none
      · next null =>
        cases null
        exact absurd rfl ne
      · next some =>
        cases some
        exact argumentsFrom_keeps loop ⟨value', JsonObject.get?_set_self _ _ _, ne⟩
    | tail _ mem =>
      split at loop
      · cases loop
      · exact ih loop mem
      · exact ih loop mem
      · exact ih loop mem

/-- A property that has no value wherever it stands is not given. -/
lemma argumentsFrom_omits (loop : argumentsFrom value properties arguments = some result)
    (omitted : ∀ definition, value prop definition = some (some .null)) :
    result.get? prop = arguments.get? prop := by
  induction properties generalizing arguments with
  | nil =>
    cases loop
    rfl
  | cons property properties ih =>
    obtain ⟨name, definition⟩ := property
    rw [argumentsFrom] at loop
    split at loop
    · cases loop
    · exact ih loop
    · exact ih loop
    · next value' notNull eq =>
      have other : prop ≠ name := by
        intro same
        subst same
        rw [omitted definition] at eq
        cases eq
        exact notNull rfl
      exact (ih loop).trans (JsonObject.get?_set_of_ne other)

/-- There are arguments when no property lacks a value. -/
lemma argumentsFrom_isSome : (argumentsFrom value properties arguments).isSome = true ↔
    ∀ prop definition, (prop, definition) ∈ properties → value prop definition ≠ none := by
  induction properties generalizing arguments with
  | nil => simp [argumentsFrom]
  | cons property properties ih =>
    obtain ⟨name, definition⟩ := property
    rw [argumentsFrom]
    have others : (∀ prop definition', (prop, definition') ∈ (name, definition) :: properties →
        value prop definition' ≠ none) ↔ value name definition ≠ none ∧
          ∀ prop definition', (prop, definition') ∈ properties → value prop definition' ≠ none := by
      constructor
      · intro all
        exact ⟨all name definition (.head _), fun prop definition' mem => all _ _ (.tail _ mem)⟩
      · rintro ⟨first, rest⟩ prop definition' mem
        cases mem with
        | head => exact first
        | tail _ mem => exact rest _ _ mem
    rw [others]
    split
    · next none => simp [none]
    · next some => rw [ih]; simp [some]
    · next some => rw [ih]; simp [some]
    · next some => rw [ih]; simp [some]

end Loop

section Complete

variable (python : PythonText)

/-- Each property that the tool's schema requires, declares and gives no default has an argument. -/
def Complete (tool arguments : JsonObject) : Prop :=
  ∀ schema, schemaOf tool = some schema → ∀ prop definition,
    (prop, definition) ∈ propertiesOf schema → lists (requiredOf schema) prop = true →
      hasDefault definition = false → Given arguments prop

/-- A required property without a default, and with no value by its name, is `None` in the metadata. -/
def TakesNull (metadata tool : JsonObject) : Prop :=
  ∃ schema, schemaOf tool = some schema ∧ ∃ prop definition,
    (prop, definition) ∈ propertiesOf schema ∧ lists (requiredOf schema) prop = true ∧
      hasDefault definition = false ∧ byName python prop = false ∧
        fromMetadata python metadata prop = some .null

/-- Arguments can be made up for the tool: it has a schema, the number of pages is finite, and a property that
    is required, without a default, a value by its name or one in the metadata has a type with a value. -/
def Answerable (metadata tool : JsonObject) : Prop :=
  infinite (metadata.get? "pages") = false ∧ ∃ schema, schemaOf tool = some schema ∧
    ∀ prop definition, (prop, definition) ∈ propertiesOf schema →
      lists (requiredOf schema) prop = true → hasDefault definition = false →
        byName python prop = false → fromMetadata python metadata prop = none →
          (fallbackRequiredValue (definitionOf definition) "" 0).isSome = true

/-- The tool is read-only by its name and suits the query. -/
def Suits (query : String) (tool : JsonObject) : Prop :=
  named python tool = true ∧ 0 < (scoreOf python tool query).1

variable {python} {query prop : String} {metadata tool : JsonObject} {pages : Int}

/-- Whether there is a value for a type does not depend on what it is. -/
lemma fallback_isSome (fields : JsonObject) (query : String) (pages : Int) :
    (fallbackRequiredValue fields query pages).isSome = (fallbackRequiredValue fields "" 0).isSome := by
  unfold fallbackRequiredValue
  split
  all_goals simp only [Option.isSome_some, Option.isSome_none]

/-- When a property has no value. -/
lemma propertyValue_none_iff {required : List Json} {definition : Json} :
    propertyValue python query pages metadata required prop definition = none ↔
      lists required prop = true ∧ hasDefault definition = false ∧ byName python prop = false ∧
        fromMetadata python metadata prop = none ∧
          (fallbackRequiredValue (definitionOf definition) "" 0).isSome = false := by
  cases named : byName python prop with
  | true =>
    obtain ⟨value, eq, -⟩ := propertyValue_byName query pages metadata required definition named
    simp [eq]
  | false =>
    rw [propertyValue_other named]
    cases fromMetadata python metadata prop with
    | some value => simp
    | none =>
      cases hasDefault definition with
      | true => simp
      | false =>
        cases lists required prop with
        | false => simp
        | true =>
          rw [← fallback_isSome _ query pages]
          cases fallbackRequiredValue (definitionOf definition) query pages <;> simp

/-- The arguments of a tool with a schema, for a finite number of pages. -/
lemma argumentsForTool_schema (query : String) {schema : JsonObject} (given : schemaOf tool = some schema)
    (finite : infinite (metadata.get? "pages") = false) : ∃ pages, argumentsForTool python tool query metadata =
      .ok ((argumentsFrom (propertyValue python query pages metadata (requiredOf schema))
        (propertiesOf schema) []).map fun arguments =>
          if propertiesOf schema = [] then
            [("query", .str query), ("pages", .int pages), ("prefer_official", .bool true)]
          else arguments) := by
  refine ⟨max 1 (min 10 ((intOf python (metadata.get? "pages")).getD 3)), ?_⟩
  rw [argumentsForTool, given]
  simp only [safeInt, finite, Bool.false_eq_true, if_false, bind, Except.bind]
  cases argumentsFrom _ (propertiesOf schema) [] with
  | none => rfl
  | some arguments =>
    dsimp only
    split
    · rfl
    · rfl

/-- There are arguments exactly when each property has a value. -/
lemma argumentsForTool_isSome_iff (query : String) :
    (∃ arguments, argumentsForTool python tool query metadata = .ok (some arguments)) ↔
      Answerable python metadata tool := by
  rw [Answerable]
  cases given : schemaOf tool with
  | none =>
    constructor
    · rintro ⟨arguments, eq⟩
      rw [argumentsForTool, given] at eq
      cases eq
    · rintro ⟨-, schema, none, -⟩
      cases none
  | some schema =>
    cases finite : infinite (metadata.get? "pages") with
    | true =>
      constructor
      · rintro ⟨arguments, eq⟩
        rw [argumentsForTool, given] at eq
        simp only [safeInt, finite, if_true, bind, Except.bind] at eq
        cases eq
      · rintro ⟨none, -⟩
        cases none
    | false =>
      obtain ⟨pages, eq⟩ := argumentsForTool_schema query given finite
      have all : (argumentsFrom (propertyValue python query pages metadata (requiredOf schema))
          (propertiesOf schema) []).isSome = true ↔ _ := argumentsFrom_isSome
      have some : (∃ arguments, argumentsForTool python tool query metadata = .ok (some arguments)) ↔
          (argumentsFrom (propertyValue python query pages metadata (requiredOf schema))
            (propertiesOf schema) []).isSome = true := by
        rw [eq]
        cases argumentsFrom (propertyValue python query pages metadata (requiredOf schema))
          (propertiesOf schema) [] <;> simp
      rw [some, all]
      constructor
      · intro valued
        refine ⟨rfl, schema, rfl, ?_⟩
        intro prop definition mem requires noDefault other absent
        have has := valued prop definition mem
        rw [Ne, propertyValue_none_iff] at has
        by_contra lacks
        exact has ⟨requires, noDefault, other, absent, Bool.eq_false_iff.mpr lacks⟩
      · rintro ⟨-, _, given', typed⟩ prop definition mem none
        cases given'
        obtain ⟨requires, noDefault, other, absent, lacks⟩ := propertyValue_none_iff.mp none
        rw [typed prop definition mem requires noDefault other absent] at lacks
        cases lacks

/-- Arguments that were made up are complete unless the metadata has `None` for one of them. -/
lemma complete_iff {arguments : JsonObject}
    (made : argumentsForTool python tool query metadata = .ok (some arguments)) :
    Complete tool arguments ↔ ¬ TakesNull python metadata tool := by
  obtain ⟨finite, schema, given, -⟩ := (argumentsForTool_isSome_iff query).mp ⟨arguments, made⟩
  obtain ⟨pages, eq⟩ := argumentsForTool_schema query given finite
  rw [eq] at made
  obtain ⟨result, loop, shaped⟩ := Option.map_eq_some_iff.mp (Except.ok.inj made)
  constructor
  · rintro complete ⟨_, given', prop, definition, mem, requires, noDefault, other, null⟩
    cases given.symm.trans given'
    obtain ⟨value, found, -⟩ := complete schema given prop definition mem requires noDefault
    have nonempty : propertiesOf schema ≠ [] := List.ne_nil_of_mem mem
    rw [if_neg nonempty] at shaped
    subst shaped
    rw [argumentsFrom_omits loop fun definition => propertyValue_null_iff.mpr ⟨other, null⟩] at found
    cases found
  · intro none schema' given' prop definition mem requires noDefault
    cases given.symm.trans given'
    have nonempty : propertiesOf schema ≠ [] := List.ne_nil_of_mem mem
    rw [if_neg nonempty] at shaped
    subst shaped
    cases valued : propertyValue python query pages metadata (requiredOf schema) prop definition with
    | none =>
      have all := argumentsFrom_isSome.mp (Option.isSome_of_eq_some loop)
      exact absurd valued (all prop definition mem)
    | some value =>
      cases value with
      | none => exact absurd valued (propertyValue_required requires noDefault)
      | some value =>
        apply argumentsFrom_gives loop mem valued
        rintro rfl
        obtain ⟨other, null⟩ := propertyValue_null_iff.mp valued
        exact none ⟨schema, given, prop, definition, mem, requires, noDefault, other, null⟩

/-- The decision for a tool that suits the query, when there are arguments for it. -/
lemma decideTool_some_iff {decision : RankedTool} :
    decideTool python tool query metadata = .ok (some decision) ↔
      Suits python query tool ∧
        argumentsForTool python tool query metadata = .ok (some decision.arguments) ∧
        decision.name = nameOf python tool ∧ decision.score = (scoreOf python tool query).1 ∧
        decision.reason = reasonOf (scoreOf python tool query).2 := by
  rw [decideTool, Suits]
  cases named python tool with
  | false => simp [pure, Except.pure]
  | true =>
    simp only [if_true, true_and, bind, Except.bind]
    cases argumentsForTool python tool query metadata with
    | error error => simp
    | ok arguments =>
      cases arguments with
      | none => simp [pure, Except.pure]
      | some arguments =>
        dsimp only
        by_cases score : (scoreOf python tool query).1 = 0
        · simp [score, pure, Except.pure]
        · rw [if_neg score]
          obtain ⟨name, arguments', score', reason⟩ := decision
          simp only [pure, Except.pure, Except.ok.injEq, Option.some.injEq, RankedTool.mk.injEq]
          have positive := Nat.pos_of_ne_zero score
          constructor
          · rintro ⟨rfl, rfl, rfl, rfl⟩
            exact ⟨positive, rfl, rfl, rfl, rfl⟩
          · rintro ⟨-, rfl, rfl, rfl, rfl⟩
            exact ⟨rfl, rfl, rfl, rfl⟩

end Complete

section Selected

variable {python : PythonText} {request : ToolRequest} {inventory : RuntimeInventory}
variable {metadata tool : JsonObject} {limit : Nat}

/-- The decision is the one for the tool. -/
def IsFor (python : PythonText) (request : ToolRequest) (metadata tool : JsonObject)
    (decision : RankedTool) : Prop :=
  decideTool python tool (resolvedQuery request) metadata = .ok (some decision)

/-- Every decision is for a tool of the inventory. -/
lemma selectTools_from {decisions : List RankedTool}
    (selected : selectTools python request inventory metadata limit = .ok decisions) {decision : RankedTool}
    (mem : decision ∈ decisions) : ∃ tool ∈ inventory.tools, IsFor python request metadata tool decision := by
  rw [selectTools] at selected
  cases all : inventory.tools.mapM fun tool => decideTool python tool (resolvedQuery request) metadata with
  | error error =>
    rw [all] at selected
    cases selected
  | ok found =>
    rw [all] at selected
    simp only [bind, Except.bind, pure, Except.pure, Except.ok.injEq] at selected
    subst selected
    have sorted := List.mem_of_mem_take mem
    rw [List.mem_insertionSort] at sorted
    obtain ⟨result, mem', eq⟩ := List.mem_filterMap.mp sorted
    subst eq
    exact Fallible.mapM_mem all mem'

/-- Whether arguments are made up for a tool of the inventory. -/
def buildsArguments (python : PythonText) (inventory : RuntimeInventory) : Bool :=
  inventory.tools.any fun tool => named python tool && (schemaOf tool).isSome

/-- Only the number of pages can keep a tool from being decided on. -/
lemma decideTool_ok {query : String} : (∃ decision, decideTool python tool query metadata = .ok decision) ↔
    (named python tool && (schemaOf tool).isSome && infinite (metadata.get? "pages")) = false := by
  rw [decideTool]
  cases named python tool with
  | false => simp [pure, Except.pure]
  | true =>
    simp only [if_true, Bool.true_and]
    cases given : schemaOf tool with
    | none => simp [argumentsForTool, given, bind, Except.bind, pure, Except.pure]
    | some schema =>
      cases finite : infinite (metadata.get? "pages") with
      | true => simp [argumentsForTool, given, safeInt, finite, bind, Except.bind]
      | false =>
        obtain ⟨pages, eq⟩ := argumentsForTool_schema query given finite
        rw [eq]
        simp only [Option.isSome_some, Bool.and_false, iff_true, bind, Except.bind]
        cases argumentsFrom (propertyValue python query pages metadata (requiredOf schema))
          (propertiesOf schema) [] with
        | none => exact ⟨_, rfl⟩
        | some arguments =>
          simp only [Option.map_some]
          split
          · exact ⟨_, rfl⟩
          · exact ⟨_, rfl⟩

/-- Tools are selected unless the number of pages is infinite and arguments are made up for one. -/
lemma selectTools_ok : (∃ decisions, selectTools python request inventory metadata limit = .ok decisions) ↔
    (buildsArguments python inventory && infinite (metadata.get? "pages")) = false := by
  have loop : (∃ decisions, selectTools python request inventory metadata limit = .ok decisions) ↔
      ∃ found, (inventory.tools.mapM fun tool => decideTool python tool (resolvedQuery request) metadata) =
        .ok found := by
    rw [selectTools, Fallible.bind_ok]
    constructor
    · rintro ⟨found, all, -⟩
      exact ⟨found, all⟩
    · rintro ⟨found, all⟩
      exact ⟨found, all, _, rfl⟩
  rw [loop, Fallible.mapM_ok, buildsArguments]
  simp only [decideTool_ok]
  cases infinite (metadata.get? "pages") with
  | false => simp
  | true => simp

/-- A tool that suits the query is decided for when there are arguments for it. -/
lemma decideTool_of {query : String} {arguments : JsonObject} (suits : Suits python query tool)
    (made : argumentsForTool python tool query metadata = .ok (some arguments)) :
    ∃ decision, decideTool python tool query metadata = .ok (some decision) ∧
      decision.arguments = arguments := by
  obtain ⟨score, scored⟩ : ∃ score, score = scoreOf python tool query := ⟨_, rfl⟩
  refine ⟨⟨nameOf python tool, arguments, score.1, reasonOf score.2⟩, ?_, rfl⟩
  rw [decideTool_some_iff, ← scored]
  exact ⟨suits, made, rfl, rfl, rfl⟩

/-- Alone, a tool is selected when it is decided for. -/
lemma selectTools_alone {decision : RankedTool} (isFor : IsFor python request metadata tool decision) :
    selectTools python request ⟨[], [tool]⟩ metadata 1 = .ok [decision] := by
  rw [IsFor] at isFor
  simp only [selectTools, List.mapM_cons, List.mapM_nil, isFor]
  rfl

/-- Every decision is for a tool of the inventory, and its arguments have each property that the tool's schema
    requires, declares and gives no default exactly when the metadata has `None` for none of those without a
    value by their name. So the decisions for a tool are complete in every inventory exactly when it does not
    suit the query, no arguments can be made up for it, or the metadata has no such `None`. -/
theorem arguments_complete_iff (python : PythonText) (request : ToolRequest) (metadata : JsonObject) :
    (∀ inventory limit decisions,
      selectTools python request inventory metadata limit = .ok decisions → ∀ decision ∈ decisions,
        (∃ tool ∈ inventory.tools, IsFor python request metadata tool decision) ∧
        ∀ tool, IsFor python request metadata tool decision →
          (Complete tool decision.arguments ↔ ¬ TakesNull python metadata tool)) ∧
    ∀ tool,
      (∀ inventory limit decisions,
        selectTools python request inventory metadata limit = .ok decisions →
          ∀ decision ∈ decisions, IsFor python request metadata tool decision →
            Complete tool decision.arguments) ↔
      ¬ (Suits python (resolvedQuery request) tool ∧ Answerable python metadata tool ∧
        TakesNull python metadata tool) := by
  constructor
  · intro inventory limit decisions selected decision mem
    refine ⟨selectTools_from selected mem, ?_⟩
    intro tool isFor
    obtain ⟨-, made, -⟩ := decideTool_some_iff.mp isFor
    exact complete_iff made
  · intro tool
    constructor
    · rintro complete ⟨suits, answerable, null⟩
      obtain ⟨arguments, made⟩ := (argumentsForTool_isSome_iff (resolvedQuery request)).mpr answerable
      obtain ⟨decision, isFor, rfl⟩ := decideTool_of suits made
      have all := complete _ _ _ (selectTools_alone isFor) decision (.head _) isFor
      exact (complete_iff made).mp all null
    · intro sound inventory limit decisions _ decision _ isFor
      obtain ⟨suits, made, -⟩ := decideTool_some_iff.mp isFor
      apply (complete_iff made).mpr
      intro null
      exact sound ⟨suits, (argumentsForTool_isSome_iff _).mp ⟨_, made⟩, null⟩

/-- Python's characters, as far as ASCII has them. -/
def asciiText : PythonText where
  lower text := String.ofList (text.toList.map Char.toLower)
  isWord c := c.isAlphanum || c = '_'
  digit c := if c.isDigit then some (c.toNat - 48) else none
  shown _ := ""

/-- The schema of a search that requires a region. -/
def regionalSchema : JsonObject :=
  [("type", .str "object"),
    ("properties", .obj
      [("query", .obj [("type", .str "string")]), ("region", .obj [("type", .str "string")])]),
    ("required", .arr [.str "query", .str "region"])]

/-- A search tool that requires a region. -/
def regionalSearch : JsonObject := [("name", .str "web_search"), ("inputSchema", .obj regionalSchema)]

/-- A request for the latest news. -/
def newsRequest : ToolRequest where
  userRequest := "latest news"
  task := ⟨"news", "find news", [], [], []⟩
  requiredActions := []
  query := "latest news in New York today"

/-- For the latest news, the search is selected with whatever value the metadata has for the region. -/
lemma regionalSearch_selected (value : Json) : ∃ decision,
    selectTools asciiText newsRequest ⟨[], [regionalSearch]⟩ [("region", value)] 1 = .ok [decision] ∧
      IsFor asciiText newsRequest [("region", value)] regionalSearch decision := by
  have suits : Suits asciiText (resolvedQuery newsRequest) regionalSearch := by
    constructor
    · decide +kernel
    · decide +kernel
  have answerable : Answerable asciiText [("region", value)] regionalSearch := by
    refine ⟨rfl, regionalSchema, rfl, ?_⟩
    intro prop definition mem
    have strings : definition = .obj [("type", .str "string")] := by
      cases mem with
      | head => rfl
      | tail _ mem =>
        cases mem with
        | head => rfl
        | tail _ mem => cases mem
    subst strings
    intro _ _ _ _
    rfl
  obtain ⟨arguments, made⟩ := (argumentsForTool_isSome_iff (resolvedQuery newsRequest)).mpr answerable
  obtain ⟨decision, isFor, -⟩ := decideTool_of suits made
  exact ⟨decision, selectTools_alone isFor, isFor⟩

theorem arguments_complete_sample :
    ∃ decision, selectTools asciiText newsRequest ⟨[], [regionalSearch]⟩ [("region", .str "us")] 1 =
      .ok [decision] ∧ Complete regionalSearch decision.arguments := by
  obtain ⟨decision, selected, isFor⟩ := regionalSearch_selected (.str "us")
  refine ⟨decision, selected, ?_⟩
  have complete := (arguments_complete_iff asciiText newsRequest [("region", .str "us")]).1
    _ _ _ selected decision (.head _)
  apply (complete.2 regionalSearch isFor).mpr
  rintro ⟨-, -, prop, -, -, -, -, -, null⟩
  have absent (key : String) : JsonObject.get? [("region", .str "us")] key ≠ some .null := by
    rw [JsonObject.get?_cons]
    split
    · intro same
      cases same
    · intro found
      cases found
  rw [fromMetadata] at null
  split at null
  · next value found =>
    cases null
    exact absent _ found
  · exact absent _ null

/-- With `None` for the region in the metadata, the search is selected without one. -/
theorem region_missing :
    ¬ ∀ (python : PythonText) request inventory metadata limit decisions,
      selectTools python request inventory metadata limit = .ok decisions → ∀ decision ∈ decisions,
        ∃ tool ∈ inventory.tools, IsFor python request metadata tool decision ∧
          Complete tool decision.arguments := by
  intro complete
  obtain ⟨decision, selected, -⟩ := regionalSearch_selected .null
  obtain ⟨tool, mem, isFor, given⟩ := complete _ _ _ _ _ _ selected decision (.head _)
  cases List.mem_singleton.mp mem
  obtain ⟨-, made, -⟩ := decideTool_some_iff.mp isFor
  apply (complete_iff made).mp given
  refine ⟨regionalSchema, rfl, "region", .obj [("type", .str "string")], ?_, ?_, rfl, ?_, ?_⟩
  · exact .tail _ (.head _)
  · decide +kernel
  · decide +kernel
  · rfl

end Selected

end Routing

end AgentRuntime.Graph
