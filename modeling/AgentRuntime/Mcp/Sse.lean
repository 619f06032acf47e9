import AgentRuntime.Data.JsonCut
import AgentRuntime.Lib.Fallible
import AgentRuntime.Mcp.Protocol

/-!
# Server-sent events

Port of `mcp/sse.py` and of `encode_sse` in `graph.py`. The encoder writes JSON with its non-ASCII
characters as they are; the parser splits a text into lines where `str.splitlines` does, which is at more
characters than a stream of events knows. So an event survives the round trip exactly when neither its
name nor its JSON text has such a character, and the value is within the limits that the interpreter sets to
the digits of integers and to nesting, where the JSON module raises.
-/

namespace AgentRuntime.Mcp
open Text

/-- The characters at which `str.splitlines` breaks a text. -/
def isLineBreak (c : Char) : Bool :=
  let n := c.toNat
  (10 ≤ n && n ≤ 13) || (28 ≤ n && n ≤ 30) || n = 0x85 || n = 0x2028 || n = 0x2029

/-- The line breaks beyond ASCII: the next-line character and the line and paragraph separators. -/
def isWideBreak (c : Char) : Bool :=
  let n := c.toNat
  n = 0x85 || n = 0x2028 || n = 0x2029

/-- `text.splitlines()`; the two characters of a Windows line break are one. -/
def splitLines : List Char → List (List Char)
  | [] => []
  | '\r' :: '\n' :: rest => [] :: splitLines rest
  | c :: rest =>
    if isLineBreak c then [] :: splitLines rest
    else
      match splitLines rest with
      | [] => [[c]]
      | line :: lines => (c :: line) :: lines

/-- source `SSEEvent` -/
structure SSEEvent where
  event : Option String
  data : String
  eventId : Option String := none
deriving DecidableEq, Repr

/-- The value of a line from its separator on, less the blank that may follow the separator. -/
def lineValue : List Char → List Char
  | [] => []
  | _ :: ' ' :: value => value
  | _ :: value => value

/-- What `parse_sse` has read of the event that it is in. -/
structure EventFields where
  event : Option String := none
  eventId : Option String := none
  data : List String := []

namespace EventFields

/-- The event that a blank line ends, if it has data. -/
def flush (fields : EventFields) : List SSEEvent :=
  if fields.data = [] then []
  else [⟨fields.event, "\n".intercalate fields.data, fields.eventId⟩]

/-- One line of an event: `field, separator, value = line.partition(":")`. -/
def addLine (fields : EventFields) (line : List Char) : EventFields :=
  let field := line.takeWhile (· ≠ ':')
  let value := lineValue (line.dropWhile (· ≠ ':'))
  if field = "event".toList then { fields with event := some (String.ofList value) }
  else if field = "id".toList then
    if '\x00' ∈ value then fields else { fields with eventId := some (String.ofList value) }
  else if field = "data".toList then { fields with data := fields.data ++ [String.ofList value] }
  else fields

end EventFields

/-- The loop of `parse_sse`, from the fields of the event that is being read. -/
def parseLines (fields : EventFields) : List (List Char) → List SSEEvent
  | [] => fields.flush
  | raw :: lines =>
    let line := (raw.reverse.dropWhile (· = '\r')).reverse
    if line = [] then fields.flush ++ parseLines {} lines
    else if line.head? = some ':' then parseLines fields lines
    else parseLines (fields.addLine line) lines

/-- source `parse_sse` -/
def parseSse (text : String) : List SSEEvent := parseLines {} (splitLines text.toList)

/-- The text of an event with its name and its data. -/
def sseText (eventName data : String) : String := "event: " ++ eventName ++ "\ndata: " ++ data ++ "\n\n"

/-- source `encode_sse` -/
def encodeSse (limits : JsonLimits) (floats : FloatCodec) (eventName : String) (data : Json) :
    Except JsonError String :=
  (limits.dumps floats { ascii := false } data).map (sseText eventName)

/-- Lowering of a content type, which is ASCII. -/
def lowerType (contentType : String) : String := String.ofList (contentType.toList.map Char.toLower)

/-- A value that must be an object. -/
def messageOf : Json → Except McpError JsonObject
  | .obj fields => .ok fields
  | _ => .error (.protocol "MCP JSON response items must be JSON objects.")

/-- `json.loads` of one candidate, whose value must be an object or a list of objects; only a
    `JSONDecodeError` is translated -/
def decodeCandidate (limits : JsonLimits) (floats : FloatCodec) (candidate : String) :
    Except McpError (List JsonObject) :=
  match limits.loads floats candidate with
  | .error .decode => .error (.protocol ("MCP response contained invalid JSON: " ++
      String.ofList (candidate.toList.take 300)))
  | .error (.limit broken) => .error (.ofLimit broken)
  | .ok (.arr values) => values.mapM messageOf
  | .ok value => [value].mapM messageOf

/-- The texts of a stripped answer that are decoded: the data of its events, or the answer itself. -/
def candidatesOf (stripped contentType : String) : List String :=
  let begins (mark : String) : Bool := mark.toList.isPrefixOf stripped.toList
  let isSse := (Contains (lowerType contentType) "text/event-stream" : Bool) || begins "event:" ||
    begins "data:" || begins ":"
  if isSse then ((parseSse stripped).map SSEEvent.data).filter (· ≠ "[DONE]") else [stripped]

/-- source `decode_json_messages` -/
def decodeJsonMessages (limits : JsonLimits) (floats : FloatCodec) (text contentType : String) :
    Except McpError (List JsonObject) := do
  let stripped := strip text
  if stripped = "" then throw (.protocol "MCP response body was empty.")
  let candidates := candidatesOf stripped contentType
  if candidates = [] then throw (.protocol "MCP SSE response contained no JSON data events.")
  let messages ← candidates.mapM (decodeCandidate limits floats)
  if messages.flatten = [] then throw (.protocol "MCP response contained no JSON-RPC objects.")
  pure messages.flatten

/-- `str.splitlines` breaks the text nowhere. -/
def Unbroken (text : List Char) : Prop := ∀ c ∈ text, isLineBreak c = false

instance (text : List Char) : Decidable (Unbroken text) :=
  List.decidableBAll (fun c => isLineBreak c = false) text

section Lines

variable {line rest : List Char}

lemma splitLines_cons {c : Char} (whole : isLineBreak c = false) (rest : List Char) :
    splitLines (c :: rest) = match splitLines rest with
      | [] => [[c]]
      | line :: lines => (c :: line) :: lines := by
  rw [splitLines]
  · rw [if_neg (Bool.eq_false_iff.mp whole)]
  · rintro rest' rfl
    cases whole

/-- A line is split off at its break. -/
lemma splitLines_break {b : Char} (isBreak : isLineBreak b = true) (unbroken : Unbroken line)
    (rest : List Char) : ∃ rest', splitLines (line ++ b :: rest) = line :: splitLines rest' ∧
      (b ≠ '\r' → rest' = rest) := by
  induction line with
  | nil =>
    by_cases windows : b = '\r' ∧ ∃ more, rest = '\n' :: more
    · obtain ⟨rfl, more, rfl⟩ := windows
      exact ⟨more, by rw [List.nil_append, splitLines], fun other => absurd rfl other⟩
    · refine ⟨rest, ?_, fun _ => rfl⟩
      rw [List.nil_append, splitLines]
      · rw [if_pos isBreak]
      · rintro more rfl rfl
        exact windows ⟨rfl, more, rfl⟩
  | cons c line ih =>
    obtain ⟨rest', split, same⟩ := ih fun d mem => unbroken d (.tail _ mem)
    exact ⟨rest', by rw [List.cons_append, splitLines_cons (unbroken c (.head _)), split], same⟩

lemma splitLines_feed (unbroken : Unbroken line) (rest : List Char) :
    splitLines (line ++ '\n' :: rest) = line :: splitLines rest := by
  obtain ⟨rest', split, same⟩ := splitLines_break (b := '\n') rfl unbroken rest
  rw [split, same (by decide)]

/-- The last line of a text needs no break behind it. -/
lemma splitLines_last (unbroken : Unbroken line) (ne : line ≠ []) : splitLines line = [line] := by
  induction line with
  | nil => exact absurd rfl ne
  | cons c line ih =>
    rw [splitLines_cons (unbroken c (.head _))]
    cases line with
    | nil => rfl
    | cons d line => rw [ih (fun e mem => unbroken e (.tail _ mem)) (List.cons_ne_nil _ _)]

lemma splitLines_unbroken {text : List Char} : ∀ line ∈ splitLines text, Unbroken line := by
  fun_induction splitLines text with
  | case1 => exact List.forall_mem_nil _
  | case2 rest ih => exact List.forall_mem_cons.mpr ⟨List.forall_mem_nil _, ih⟩
  | case3 c rest _ _ ih => exact List.forall_mem_cons.mpr ⟨List.forall_mem_nil _, ih⟩
  | case4 c rest _ whole none ih =>
    intro line mem
    rw [List.mem_singleton.mp mem]
    exact List.forall_mem_singleton.mpr (Bool.eq_false_iff.mpr whole)
  | case5 c rest _ whole line lines split ih =>
    rw [split] at ih
    obtain ⟨first, others⟩ := List.forall_mem_cons.mp ih
    exact List.forall_mem_cons.mpr
      ⟨List.forall_mem_cons.mpr ⟨Bool.eq_false_iff.mpr whole, first⟩, others⟩

/-- An unbroken line ends in no carriage return. -/
lemma rstrip_unbroken (unbroken : Unbroken line) :
    (line.reverse.dropWhile (· = '\r')).reverse = line := by
  cases last : line.reverse with
  | nil => simpa using last.symm
  | cons c others =>
    have ne : c ≠ '\r' := by
      rintro rfl
      have mem : '\r' ∈ line := List.mem_reverse.mp (last ▸ List.mem_cons_self)
      cases unbroken _ mem
    rw [List.dropWhile_cons_of_neg (by simpa using ne), ← last, List.reverse_reverse]

end Lines

section Events

variable {fields : EventFields} {lines : List (List Char)} {value : List Char}

lemma unbroken_append {xs ys : List Char} : Unbroken (xs ++ ys) ↔ Unbroken xs ∧ Unbroken ys :=
  List.forall_mem_append

lemma parseLines_blank : parseLines fields ([] :: lines) = fields.flush ++ parseLines {} lines := rfl

lemma parseLines_event (unbroken : Unbroken value) :
    parseLines fields (("event: ".toList ++ value) :: lines) =
      parseLines { fields with event := some (String.ofList value) } lines := by
  have whole : Unbroken ("event: ".toList ++ value) := unbroken_append.mpr ⟨by decide, unbroken⟩
  rw [parseLines, rstrip_unbroken whole]
  rfl

lemma parseLines_data (unbroken : Unbroken value) :
    parseLines fields (("data: ".toList ++ value) :: lines) =
      parseLines { fields with data := fields.data ++ [String.ofList value] } lines := by
  have whole : Unbroken ("data: ".toList ++ value) := unbroken_append.mpr ⟨by decide, unbroken⟩
  rw [parseLines, rstrip_unbroken whole]
  rfl

lemma mem_lineValue {text : List Char} {c : Char} (mem : c ∈ lineValue text) : c ∈ text := by
  unfold lineValue at mem
  split at mem
  · exact mem
  · exact .tail _ (.tail _ mem)
  · exact .tail _ mem

/-- What was read of an event has no line break. -/
structure EventFields.Clean (fields : EventFields) : Prop where
  event : ∀ name ∈ fields.event, Unbroken name.toList
  data : ∀ text ∈ fields.data, Unbroken text.toList

lemma EventFields.Clean.empty : Clean {} where
  event := nofun
  data := nofun

lemma EventFields.addLine_data (fields : EventFields) (line : List Char) :
    ∃ more, (fields.addLine line).data = fields.data ++ more := by
  simp only [EventFields.addLine]
  split
  · exact ⟨[], (List.append_nil _).symm⟩
  · split
    · split <;> exact ⟨[], (List.append_nil _).symm⟩
    · split
      · exact ⟨_, rfl⟩
      · exact ⟨[], (List.append_nil _).symm⟩

lemma EventFields.Clean.addLine {line : List Char} (clean : fields.Clean) (unbroken : Unbroken line) :
    (fields.addLine line).Clean := by
  have value : Unbroken (lineValue (line.dropWhile (· ≠ ':'))) := fun c mem =>
    unbroken c ((List.dropWhile_sublist _).subset (mem_lineValue mem))
  simp only [EventFields.addLine]
  split
  · refine ⟨?_, clean.data⟩
    rintro _ ⟨⟩
    simpa using value
  · split
    · split
      · exact clean
      · exact ⟨clean.event, clean.data⟩
    · split
      · refine ⟨clean.event, List.forall_mem_append.mpr ⟨clean.data, ?_⟩⟩
        rw [List.forall_mem_singleton]
        simpa using value
      · exact clean

/-- The characters of joined lines are theirs, or line feeds between them. -/
lemma mem_joined {texts : List String} {c : Char} (mem : c ∈ ("\n".intercalate texts).toList) :
    c = '\n' ∨ ∃ text ∈ texts, c ∈ text.toList := by
  induction texts with
  | nil => simp at mem
  | cons text texts ih =>
    by_cases last : texts = []
    · rw [last, String.intercalate_singleton] at mem
      exact .inr ⟨text, .head _, mem⟩
    · rw [String.intercalate_cons_of_ne_nil last] at mem
      simp only [String.toList_append, List.mem_append] at mem
      obtain (first | feed) | more := mem
      · exact .inr ⟨text, .head _, first⟩
      · exact .inl (by simpa using feed)
      · obtain feed | ⟨text', mem', found⟩ := ih more
        · exact .inl feed
        · exact .inr ⟨text', .tail _ mem', found⟩

/-- The events of a text have no line break in their names, and only line feeds in their data. -/
lemma parseLines_clean (unbroken : ∀ line ∈ lines, Unbroken line) : ∀ {fields : EventFields},
    fields.Clean → ∀ e ∈ parseLines fields lines, (∀ name ∈ e.event, Unbroken name.toList) ∧
      ∀ c ∈ e.data.toList, isLineBreak c = true → c = '\n' := by
  have flushed : ∀ {fields : EventFields}, fields.Clean → ∀ e ∈ fields.flush,
      (∀ name ∈ e.event, Unbroken name.toList) ∧
        ∀ c ∈ e.data.toList, isLineBreak c = true → c = '\n' := by
    intro fields clean e mem
    simp only [EventFields.flush] at mem
    split at mem
    · cases mem
    · rw [List.mem_singleton.mp mem]
      refine ⟨clean.event, fun c mem isBreak => ?_⟩
      obtain feed | ⟨text, mem, found⟩ := mem_joined mem
      · exact feed
      · rw [clean.data text mem c found] at isBreak
        cases isBreak
  induction lines with
  | nil => exact fun {_} clean => flushed clean
  | cons raw lines ih =>
    intro fields clean e mem
    obtain ⟨first, others⟩ := List.forall_mem_cons.mp unbroken
    rw [parseLines, rstrip_unbroken first] at mem
    split at mem
    · obtain mem | mem := List.mem_append.mp mem
      · exact flushed clean e mem
      · exact ih others .empty e mem
    · split at mem
      · exact ih others clean e mem
      · exact ih others (clean.addLine first) e mem

end Events

section RoundTrip

variable {limits : JsonLimits} {floats : FloatCodec} {style : JsonStyle} {value : Json}

/-- JSON text has no line break but those beyond ASCII. -/
lemma written_break (valid : value.Valid) {c : Char} (mem : c ∈ value.write floats style)
    (isBreak : isLineBreak c = true) : 127 ≤ c.toNat ∧ style.ascii = false := by
  obtain ⟨low, high⟩ | ⟨raw, beyond⟩ := write_written valid c mem
  · simp only [isLineBreak, Bool.or_eq_true, Bool.and_eq_true, decide_eq_true_eq] at isBreak
    omega
  · exact ⟨beyond, raw⟩

/-- The text of the value is free of line breaks: it is written in ASCII, or no string of the value has
    a break beyond ASCII. -/
def Json.KeepsLines (style : JsonStyle) (value : Json) : Prop :=
  style.ascii = true ∨ ∀ text ∈ value.strings, ∀ c ∈ text.toList, isWideBreak c = false

instance (style : JsonStyle) (value : Json) : Decidable (Json.KeepsLines style value) :=
  decidable_of_iff (style.ascii || value.strings.all fun text => text.toList.all fun c => !isWideBreak c)
    (by simp [Json.KeepsLines])

lemma isWideBreak_iff (c : Char) : isWideBreak c = true ↔ isLineBreak c = true ∧ 127 ≤ c.toNat := by
  simp only [isWideBreak, isLineBreak, Bool.or_eq_true, Bool.and_eq_true, decide_eq_true_eq]
  omega

lemma unbroken_write_iff (floats : FloatCodec) (style : JsonStyle) (valid : value.Valid) :
    Unbroken (value.write floats style) ↔ Json.KeepsLines style value := by
  constructor
  · intro unbroken
    by_cases ascii : style.ascii = true
    · exact .inl ascii
    · refine .inr fun text mem c found => Bool.eq_false_iff.mpr fun wide => ?_
      obtain ⟨isBreak, beyond⟩ := (isWideBreak_iff c).mp wide
      have written : c ∈ value.write floats style := (mem_write_wide valid beyond).mpr
        ⟨by simpa using ascii, text, mem, found⟩
      rw [unbroken c written] at isBreak
      cases isBreak
  · intro keeps c mem
    refine Bool.eq_false_iff.mpr fun isBreak => ?_
    obtain ⟨beyond, raw⟩ := written_break valid mem isBreak
    obtain ⟨-, text, own, found⟩ := (mem_write_wide valid beyond).mp mem
    obtain ascii | narrow := keeps
    · rw [raw] at ascii
      cases ascii
    · have wide := narrow text own c found
      rw [(isWideBreak_iff c).mpr ⟨isBreak, beyond⟩] at wide
      cases wide

/-- The text of an event is parsed back exactly when neither its name nor its JSON text has a line break. -/
lemma parse_text_iff (valid : value.Valid) (name : String) :
    parseSse (sseText name (value.text floats { ascii := false })) =
        [⟨some name, value.text floats { ascii := false }, none⟩] ↔
      Unbroken name.toList ∧ Unbroken (value.text floats { ascii := false }).toList := by
  have encoded (data : String) : (sseText name data).toList = "event: ".toList ++ name.toList ++
      '\n' :: ("data: ".toList ++ data.toList ++ '\n' :: ['\n']) := by
    simp only [sseText, String.toList_append, List.append_assoc]
    rfl
  constructor
  · intro parsed
    have clean := parseLines_clean
      (@splitLines_unbroken (sseText name (value.text floats { ascii := false })).toList) .empty
    rw [show parseLines {} _ = parseSse (sseText name _) from rfl, parsed] at clean
    obtain ⟨event, data⟩ := clean _ (List.mem_singleton_self _)
    refine ⟨event name rfl, fun c mem => ?_⟩
    by_contra isBreak
    have isBreak : isLineBreak c = true := by simpa using isBreak
    have feed := data c mem isBreak
    have written : c ∈ value.write floats { ascii := false } := by simpa [Json.text] using mem
    have beyond := (written_break valid written isBreak).1
    rw [feed] at beyond
    exact absurd beyond (by decide)
  · rintro ⟨unbroken, unbroken'⟩
    have event : Unbroken ("event: ".toList ++ name.toList) :=
      unbroken_append.mpr ⟨by decide, unbroken⟩
    have data : Unbroken ("data: ".toList ++ (value.text floats { ascii := false }).toList) :=
      unbroken_append.mpr ⟨by decide, unbroken'⟩
    rw [parseSse, encoded, splitLines_feed event, splitLines_feed data, parseLines_event unbroken,
      parseLines_data unbroken']
    simp only [String.ofList_toList]
    rfl

/-- An event is encoded and parsed back exactly when its value is within the limits and neither its name nor
    its JSON text has a line break. -/
theorem parse_encoded_iff (valid : value.Valid) (name : String) :
    (encodeSse limits floats name value).map parseSse =
        .ok [⟨some name, value.text floats { ascii := false }, none⟩] ↔
      (Unbroken name.toList ∧ Unbroken (value.text floats { ascii := false }).toList) ∧
        value.check limits = .ok () := by
  rw [← parse_text_iff valid name, encodeSse, JsonLimits.dumps]
  cases value.check limits with
  | error error => simp [Except.map]
  | ok => simp [Except.map]

end RoundTrip

/-- A JSON object as a server sends it in an event: the event's name, if it has one, and the style in
    which the object is written. -/
structure SseMessage where
  event : Option String := none
  style : JsonStyle := {}
  object : JsonObject
  unbroken : ∀ name ∈ event, Unbroken name.toList
  valid : (Json.obj object).Valid

namespace SseMessage

/-- The JSON text of the object. -/
def text (floats : FloatCodec) (message : SseMessage) : List Char :=
  (Json.obj message.object).write floats message.style

/-- The event, without the blank line that ends it. -/
def block (floats : FloatCodec) (message : SseMessage) : List Char :=
  (match message.event with
    | none => []
    | some name => "event: ".toList ++ name.toList ++ ['\n']) ++
  ("data: ".toList ++ message.text floats)

end SseMessage

/-- The body of a response that sends the messages as consecutive events. -/
def sseBody (floats : FloatCodec) (messages : List SseMessage) : String :=
  String.ofList (messages.flatMap fun message => message.block floats ++ ['\n', '\n'])

section Streams

variable {limits : JsonLimits} {floats : FloatCodec} {message : SseMessage} {messages : List SseMessage}
  {fields : EventFields} {rest : List Char}

/-- The events after the first one, each behind the blank line that ends the one before it. -/
def followers (floats : FloatCodec) (messages : List SseMessage) : List Char :=
  messages.flatMap fun message => '\n' :: '\n' :: message.block floats

lemma sseBody_toList : (sseBody floats (message :: messages)).toList =
    message.block floats ++ followers floats messages ++ ['\n', '\n'] := by
  rw [sseBody, String.toList_ofList]
  induction messages generalizing message with
  | nil => rw [List.flatMap_singleton, followers, List.flatMap_nil, List.append_nil]
  | cons next messages ih =>
    rw [List.flatMap_cons, ih]
    simp only [followers, List.flatMap_cons, List.append_assoc, List.cons_append, List.nil_append]

lemma writeFields_last (floats : FloatCodec) (style : JsonStyle) (fields : List (String × Json)) :
    ∃ inner, writeFields floats style fields = inner ++ ['\x7d'] := by
  induction fields with
  | nil => exact ⟨[], rfl⟩
  | cons field fields ih =>
    obtain ⟨inner, last⟩ := ih
    exact ⟨_, by rw [writeFields, last, ← List.append_assoc]⟩

/-- The text of an object stands in braces. -/
lemma text_braces (floats : FloatCodec) (message : SseMessage) :
    ∃ inner, message.text floats = '\x7b' :: inner ++ ['\x7d'] := by
  rw [SseMessage.text]
  cases message.object with
  | nil => exact ⟨[], rfl⟩
  | cons field more =>
    obtain ⟨inner, last⟩ := writeFields_last floats message.style more
    exact ⟨_, by rw [Json.write, last, ← List.append_assoc, List.cons_append]⟩

lemma block_last (floats : FloatCodec) (message : SseMessage) :
    ∃ first middle, isSpace first = false ∧ message.block floats = first :: middle ++ ['\x7d'] := by
  obtain ⟨inner, text⟩ := text_braces floats message
  rw [SseMessage.block, text]
  cases message.event with
  | none => exact ⟨'d', _, rfl, by rw [List.nil_append, ← List.append_assoc]; rfl⟩
  | some name => exact ⟨'e', _, rfl, by simp only [← List.append_assoc]; rfl⟩

lemma followers_last (messages : List SseMessage) : followers floats messages = [] ∨
    ∃ middle, followers floats messages = middle ++ ['\x7d'] := by
  induction messages with
  | nil => exact .inl rfl
  | cons message messages ih =>
    obtain ⟨first, middle, -, block⟩ := block_last floats message
    rw [followers, List.flatMap_cons, ← followers, block]
    obtain none | ⟨others, last⟩ := ih
    · exact .inr ⟨_, by rw [none, List.append_nil, ← List.cons_append, ← List.cons_append]⟩
    · exact .inr ⟨_, by rw [last, ← List.append_assoc]⟩

/-- `strip` takes the last blank line from the body and nothing else. -/
lemma strip_sseBody (floats : FloatCodec) (message : SseMessage) (messages : List SseMessage) :
    (strip (sseBody floats (message :: messages))).toList =
      message.block floats ++ followers floats messages := by
  rw [strip, String.toList_ofList, sseBody_toList]
  obtain ⟨first, middle, solid, block⟩ := block_last floats message
  have blank : ∀ c ∈ ['\n', '\n'], isSpace c = true := List.all_eq_true.mp rfl
  obtain none | ⟨others, last⟩ := @followers_last floats messages
  · rw [none, List.append_nil, block]
    exact stripIf_append solid rfl blank
  · rw [block, last, ← List.append_assoc, List.cons_append, List.cons_append]
    exact stripIf_append solid rfl blank

/-- The event of a message whose text is not broken. -/
def SseMessage.read (floats : FloatCodec) (message : SseMessage) : SSEEvent :=
  ⟨message.event, String.ofList (message.text floats), none⟩

lemma parse_name (message : SseMessage) (rest : List Char) :
    parseLines {} (splitLines (message.block floats ++ rest)) =
      parseLines { event := message.event }
        (splitLines ("data: ".toList ++ message.text floats ++ rest)) := by
  rw [SseMessage.block]
  cases event : message.event with
  | none => rw [List.nil_append]
  | some name =>
    have unbroken := message.unbroken name event
    have line : Unbroken ("event: ".toList ++ name.toList) :=
      unbroken_append.mpr ⟨by decide, unbroken⟩
    have shape : "event: ".toList ++ name.toList ++ ['\n'] ++ ("data: ".toList ++
        message.text floats) ++ rest = "event: ".toList ++ name.toList ++
          '\n' :: ("data: ".toList ++ message.text floats ++ rest) := by
      simp only [List.append_assoc, List.cons_append, List.nil_append]
    rw [shape, splitLines_feed line, parseLines_event unbroken, String.ofList_toList]

/-- A stream of unbroken messages is read event by event. -/
lemma parse_messages (unbroken : ∀ m ∈ message :: messages, Unbroken (m.text floats)) :
    parseLines {} (splitLines (message.block floats ++ followers floats messages)) =
      (message :: messages).map (SseMessage.read floats) := by
  induction messages generalizing message with
  | nil =>
    have text := unbroken message (.head _)
    have line : Unbroken ("data: ".toList ++ message.text floats) :=
      unbroken_append.mpr ⟨by decide, text⟩
    rw [followers, List.flatMap_nil, parse_name, List.append_nil, splitLines_last line nofun,
      parseLines_data text]
    rfl
  | cons next messages ih =>
    have text := unbroken message (.head _)
    have line : Unbroken ("data: ".toList ++ message.text floats) :=
      unbroken_append.mpr ⟨by decide, text⟩
    rw [followers, List.flatMap_cons, ← followers, parse_name, List.cons_append, List.cons_append,
      splitLines_feed line, parseLines_data text]
    have blank := @splitLines_feed [] (List.forall_mem_nil _)
      (next.block floats ++ followers floats messages)
    rw [List.nil_append] at blank
    rw [blank, parseLines_blank, ih fun m mem => unbroken m (.tail _ mem)]
    rfl

/-- The data that was read of an event stays at the front of the event's data. -/
lemma parseLines_front {lines : List (List Char)} : ∀ {fields : EventFields} {text : String},
    fields.data.head? = some text →
    ∃ e ∈ parseLines fields lines, ∃ rest, e.data = String.ofList (text.toList ++ rest) ∧
      AfterCut rest := by
  have flushed : ∀ {fields : EventFields} {text : String}, fields.data.head? = some text →
      ∃ e ∈ fields.flush, ∃ rest, e.data = String.ofList (text.toList ++ rest) ∧ AfterCut rest := by
    intro fields text front
    obtain ⟨texts, data⟩ := List.head?_eq_some_iff.mp front
    rw [EventFields.flush, data, if_neg (List.cons_ne_nil _ _)]
    refine ⟨_, List.mem_singleton_self _, ?_⟩
    by_cases last : texts = []
    · exact ⟨[], by rw [last, String.intercalate_singleton, List.append_nil, String.ofList_toList],
        .inl rfl⟩
    · refine ⟨'\n' :: ("\n".intercalate texts).toList, ?_, .inr ⟨_, rfl⟩⟩
      rw [String.intercalate_cons_of_ne_nil last]
      simp [String.ext_iff]
  induction lines with
  | nil => exact fun {_ _} front => flushed front
  | cons raw lines ih =>
    intro fields text front
    rw [parseLines]
    split
    · obtain ⟨e, mem, found⟩ := flushed front
      exact ⟨e, List.mem_append_left _ mem, found⟩
    · split
      · exact ih front
      · obtain ⟨texts, data⟩ := List.head?_eq_some_iff.mp front
        obtain ⟨more, kept⟩ := fields.addLine_data (raw.reverse.dropWhile (· = '\r')).reverse
        exact ih (by rw [kept, data, List.cons_append, List.head?_cons])

lemma first_break {text : List Char} (broken : ¬ Unbroken text) :
    ∃ p b q, text = p ++ b :: q ∧ Unbroken p ∧ isLineBreak b = true := by
  induction text with
  | nil => exact absurd (List.forall_mem_nil _) broken
  | cons c text ih =>
    by_cases isBreak : isLineBreak c = true
    · exact ⟨[], c, text, rfl, List.forall_mem_nil _, isBreak⟩
    · have whole : isLineBreak c = false := by simpa using isBreak
      obtain ⟨p, b, q, rfl, unbroken, isBreak⟩ := ih fun unbroken =>
        broken (List.forall_mem_cons.mpr ⟨whole, unbroken⟩)
      exact ⟨c :: p, b, q, rfl, List.forall_mem_cons.mpr ⟨whole, unbroken⟩, isBreak⟩

/-- A message that is broken leaves an event whose data is no JSON text. -/
lemma parse_broken (broken : ¬ ∀ m ∈ message :: messages, Unbroken (m.text floats)) :
    ∃ e ∈ parseLines {} (splitLines (message.block floats ++ followers floats messages)),
      e.data ≠ "[DONE]" ∧ ∃ error, limits.loads floats e.data = .error error := by
  have cut : ∀ {message : SseMessage} (rest : List Char), ¬ Unbroken (message.text floats) →
      ∃ e ∈ parseLines {} (splitLines (message.block floats ++ rest)),
        e.data ≠ "[DONE]" ∧ ∃ error, limits.loads floats e.data = .error error := by
    intro message rest broken
    obtain ⟨p, b, q, text, unbroken, isBreak⟩ := first_break broken
    have beyond := (written_break message.valid (text ▸ List.mem_append_right _ (.head _)) isBreak).1
    have line : Unbroken ("data: ".toList ++ p) := unbroken_append.mpr ⟨by decide, unbroken⟩
    have shape : "data: ".toList ++ message.text floats ++ rest =
        "data: ".toList ++ p ++ b :: (q ++ rest) := by
      rw [text]
      simp only [List.append_assoc, List.cons_append]
    obtain ⟨rest', split, -⟩ := splitLines_break isBreak line (q ++ rest)
    rw [parse_name, shape, split, parseLines_data unbroken]
    obtain ⟨e, mem, after, data, end_⟩ := @parseLines_front (splitLines rest')
      { event := message.event, data := [String.ofList p] } _ rfl
    refine ⟨e, mem, ?_, ?_⟩
    · -- the text that was cut begins with a brace
      obtain ⟨inner, braces⟩ := text_braces floats message
      rw [data]
      cases p with
      | nil =>
        rw [text] at braces
        injection braces with brace _
        rw [brace] at isBreak
        cases isBreak
      | cons c p =>
        rw [text] at braces
        injection braces with brace _
        rw [brace]
        intro done
        have same := congrArg (fun text => text.toList.head?) done
        simp at same
    · rw [data, String.toList_ofList]
      exact loads_cut limits message.valid text beyond end_
  induction messages generalizing message with
  | nil => exact cut _ fun unbroken => broken (List.forall_mem_singleton.mpr unbroken)
  | cons next messages ih =>
    by_cases first : Unbroken (message.text floats)
    · have line : Unbroken ("data: ".toList ++ message.text floats) :=
        unbroken_append.mpr ⟨by decide, first⟩
      obtain ⟨e, mem, unread⟩ := @ih next fun others =>
        broken (List.forall_mem_cons.mpr ⟨first, others⟩)
      have blank := @splitLines_feed [] (List.forall_mem_nil _)
        (next.block floats ++ followers floats messages)
      rw [List.nil_append] at blank
      rw [followers, List.flatMap_cons, ← followers, parse_name, List.cons_append, List.cons_append,
        splitLines_feed line, parseLines_data first, blank, parseLines_blank]
      exact ⟨e, List.mem_append_right _ mem, unread⟩
    · exact cut _ first

/-- The error is about the text of an answer, or about a limit that it breaks. -/
def McpError.OfText (error : McpError) : Prop :=
  (∃ message, error = .protocol message) ∨ ∃ broken, error = .ofLimit broken

lemma McpError.OfText.ofAnswer {error : McpError} (own : error.OfText) : error.OfAnswer := by
  obtain ⟨message, rfl⟩ | ⟨broken, rfl⟩ := own
  · trivial
  · trivial

/-- What is wrong with the text of an answer is its fault. -/
lemma decodeJsonMessages_error {text contentType : String} {error : McpError}
    (failed : decodeJsonMessages limits floats text contentType = .error error) : error.OfText := by
  have item (value : Json) (failed : messageOf value = .error error) : error.OfText := by
    cases value with
    | obj fields => cases failed
    | _ =>
      cases failed
      exact .inl ⟨_, rfl⟩
  have candidate (text : String) (failed : decodeCandidate limits floats text = .error error) :
      error.OfText := by
    unfold decodeCandidate at failed
    split at failed
    · cases failed
      exact .inl ⟨_, rfl⟩
    · cases failed
      exact .inr ⟨_, rfl⟩
    · obtain ⟨value, -, failed⟩ := Fallible.mapM_error failed
      exact item value failed
    · obtain ⟨value, -, failed⟩ := Fallible.mapM_error failed
      exact item value failed
  unfold decodeJsonMessages at failed
  dsimp only at failed
  split at failed
  · cases failed
    exact .inl ⟨_, rfl⟩
  · generalize candidatesOf (strip text) contentType = candidates at failed
    split at failed
    · cases failed
      exact .inl ⟨_, rfl⟩
    · cases all : candidates.mapM (decodeCandidate limits floats) with
      | error error =>
        rw [all] at failed
        cases failed
        obtain ⟨text, -, failed⟩ := Fallible.mapM_error all
        exact candidate text failed
      | ok values =>
        rw [all] at failed
        simp only [bind, Except.bind] at failed
        split at failed
        · cases failed
          exact .inl ⟨_, rfl⟩
        · cases failed

/-- The data of the events that are to be decoded. -/
def candidates (floats : FloatCodec) (messages : List SseMessage) : List String :=
  ((parseSse (strip (sseBody floats messages))).map SSEEvent.data).filter (· ≠ "[DONE]")

lemma decode_stream (message : SseMessage) (messages : List SseMessage) :
    decodeJsonMessages limits floats (sseBody floats (message :: messages)) "text/event-stream" =
      if candidates floats (message :: messages) = [] then
        .error (.protocol "MCP SSE response contained no JSON data events.")
      else
        (candidates floats (message :: messages)).mapM (decodeCandidate limits floats) >>= fun decoded =>
          if decoded.flatten = [] then
            .error (.protocol "MCP response contained no JSON-RPC objects.")
          else .ok decoded.flatten := by
  have solid : strip (sseBody floats (message :: messages)) ≠ "" := by
    obtain ⟨first, middle, -, block⟩ := block_last floats message
    intro none
    have body := strip_sseBody floats message messages
    rw [none, block] at body
    cases body
  have lowered : lowerType "text/event-stream" = "text/event-stream" := by decide
  have stream : decide (Contains "text/event-stream" "text/event-stream") = true :=
    decide_eq_true (.refl _)
  unfold decodeJsonMessages candidates candidatesOf
  simp only [if_neg solid, lowered, stream, Bool.true_or, if_true]
  split <;> rfl

/-- A stream of events with the text of an object each is decoded exactly when no text is broken and each
    object is within the limits. -/
theorem decode_messages_iff (limits : JsonLimits) (floats : FloatCodec) {messages : List SseMessage}
    (ne : messages ≠ []) :
    decodeJsonMessages limits floats (sseBody floats messages) "text/event-stream" =
        .ok (messages.map SseMessage.object) ↔
      ∀ message ∈ messages, Unbroken (message.text floats) ∧
        (Json.obj message.object).check limits = .ok () := by
  obtain ⟨message, messages, rfl⟩ := List.exists_cons_of_ne_nil ne
  have texts (unbroken : ∀ m ∈ message :: messages, Unbroken (m.text floats)) :
      candidates floats (message :: messages) =
        (message :: messages).map fun m => String.ofList (m.text floats) := by
    rw [candidates, parseSse, strip_sseBody, parse_messages unbroken, List.map_map]
    refine List.filter_eq_self.mpr fun text mem => decide_eq_true ?_
    obtain ⟨m, -, rfl⟩ := List.mem_map.mp mem
    obtain ⟨inner, braces⟩ := text_braces floats m
    intro done
    have same := congrArg (fun text => text.toList.head?) done
    simp [SseMessage.read, braces] at same
  have reads (m : SseMessage) : limits.loads floats (String.ofList (m.text floats)) =
      ((Json.obj m.object).check limits).map fun _ => .obj m.object :=
    loads_text limits floats m.style m.valid
  rw [decode_stream]
  constructor
  · intro decoded
    have all (e : SSEEvent) (mem : e ∈ parseLines {} (splitLines (message.block floats ++
        followers floats messages))) (data : e.data ≠ "[DONE]") :
        ∃ value, decodeCandidate limits floats e.data = .ok value := by
      have read : e.data ∈ candidates floats (message :: messages) := by
        rw [candidates, parseSse, strip_sseBody]
        exact List.mem_filter.mpr ⟨List.mem_map_of_mem mem, decide_eq_true data⟩
      rw [if_neg (List.ne_nil_of_mem read)] at decoded
      cases all : (candidates floats (message :: messages)).mapM (decodeCandidate limits floats) with
      | error raised =>
        rw [all] at decoded
        cases decoded
      | ok values => exact Fallible.mapM_ok.mp ⟨_, all⟩ e.data read
    have unbroken : ∀ m ∈ message :: messages, Unbroken (m.text floats) := by
      by_contra broken
      -- the first half of a text that is cut is an event of its own
      obtain ⟨e, mem, data, error, unread⟩ := @parse_broken limits _ _ _ broken
      obtain ⟨value, ok⟩ := all e mem data
      rw [decodeCandidate, unread] at ok
      cases error with
      | decode => cases ok
      | limit broken => cases ok
    intro m mem
    refine ⟨unbroken m mem, ?_⟩
    have read : String.ofList (m.text floats) ∈ candidates floats (message :: messages) := by
      rw [texts unbroken]
      exact List.mem_map_of_mem mem
    rw [candidates, parseSse, strip_sseBody] at read
    obtain ⟨listed, data⟩ := List.mem_filter.mp read
    obtain ⟨e, parsed, same⟩ := List.mem_map.mp listed
    obtain ⟨value, ok⟩ := all e parsed (same ▸ of_decide_eq_true data)
    rw [same, decodeCandidate, reads] at ok
    cases checked : (Json.obj m.object).check limits with
    | ok => rfl
    | error error =>
      rw [checked] at ok
      cases error with
      | decode => cases ok
      | limit broken => cases ok
  · intro sound
    have unbroken : ∀ m ∈ message :: messages, Unbroken (m.text floats) := fun m mem => (sound m mem).1
    have values : (candidates floats (message :: messages)).mapM (decodeCandidate limits floats) =
        .ok ((message :: messages).map fun m => [m.object]) := by
      rw [texts unbroken, List.mapM_map]
      refine Fallible.mapM_values fun m mem => ?_
      rw [Function.comp_apply, decodeCandidate, reads, (sound m mem).2]
      rfl
    have objects : ((message :: messages).map fun m => [m.object]).flatten =
        (message :: messages).map SseMessage.object := by
      rw [← List.flatMap_def]
      exact List.flatMap_pure_eq_map _ _
    rw [if_neg (by rw [texts unbroken]; exact List.cons_ne_nil _ _), values]
    simp only [bind, Except.bind, objects]
    exact if_neg (List.cons_ne_nil _ _)

end Streams

/-- An event is parsed back, and a stream of objects decoded, exactly when no line break beyond ASCII
    stands in the JSON text as it is, and no integer and no nesting is beyond the limits of the interpreter. -/
theorem sse_round_trip_iff (limits : JsonLimits) (floats : FloatCodec) :
    (∀ (name : String) (value : Json), Unbroken name.toList → value.Valid →
      ((encodeSse limits floats name value).map parseSse =
          .ok [⟨some name, value.text floats { ascii := false }, none⟩] ↔
        Json.KeepsLines { ascii := false } value ∧ value.check limits = .ok ())) ∧
    ∀ messages : List SseMessage, messages ≠ [] →
      (decodeJsonMessages limits floats (sseBody floats messages) "text/event-stream" =
          .ok (messages.map SseMessage.object) ↔
        ∀ message ∈ messages, Json.KeepsLines message.style (.obj message.object) ∧
          (Json.obj message.object).check limits = .ok ()) := by
  constructor
  · intro name value unbroken valid
    rw [parse_encoded_iff valid, Json.text, String.toList_ofList, unbroken_write_iff _ _ valid]
    exact and_congr_left' (and_iff_right unbroken)
  · intro messages ne
    rw [decode_messages_iff limits floats ne]
    exact forall₂_congr fun message _ =>
      and_congr_left' (unbroken_write_iff floats message.style message.valid)

/-- A message whose text is written as it is, accents included. -/
def sampleMessage : SseMessage where
  event := some "message"
  style := { ascii := false }
  object := [("text", .str "déjà vu"), ("turn", .int 12)]
  unbroken := by
    rintro _ ⟨⟩
    decide
  valid := .obj (by decide) (List.forall_mem_cons.mpr ⟨.str, List.forall_mem_singleton.mpr .int⟩)

theorem sse_round_trip_sample :
    (encodeSse { nesting := some 900 } sampleFloats "token" (.str "déjà vu")).map parseSse =
        .ok [⟨some "token", "\"déjà vu\"", none⟩] ∧
      decodeJsonMessages { nesting := some 900 } sampleFloats (sseBody sampleFloats [sampleMessage])
        "text/event-stream" = .ok [[("text", .str "déjà vu"), ("turn", .int 12)]] :=
  ⟨((sse_round_trip_iff { nesting := some 900 } sampleFloats).1 "token" (.str "déjà vu") (by decide)
      .str).mpr (by decide),
    ((sse_round_trip_iff { nesting := some 900 } sampleFloats).2 [sampleMessage] nofun).mpr (by decide)⟩

/-- A line separator in a string cuts the JSON text in two. -/
theorem separator_cuts_event : ¬ ∀ (name : String) (value : Json), (∀ c ∈ name.toList, c.toNat < 127) →
    Unbroken name.toList → value.Valid →
    (encodeSse { nesting := some 900 } sampleFloats name value).map parseSse =
      .ok [⟨some name, value.text sampleFloats { ascii := false }, none⟩] := by
  intro survives
  have cut := survives "token" (.str "a\u2028b") (List.all_iff_forall_prop.mp rfl) (by decide) .str
  exact absurd cut (by decide +kernel)

end AgentRuntime.Mcp
