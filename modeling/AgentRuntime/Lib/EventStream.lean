import Mathlib.Data.List.Basic

/-!
# Streams of server-sent events

A reader of the event stream format, one character after the other. A line ends at a line feed, a carriage return
or the two together; a blank line dispatches the event that was read, if it has data, and what the end of the
stream leaves undispatched is lost. The reader is a function of the characters that have arrived, so a stream that
is cut off anywhere reads as the first events of the whole.
-/

namespace EventStream

/-- An event that was dispatched. -/
structure Event where
  type : List Char
  data : List Char
  id : List Char := []
deriving DecidableEq

/-- What a reader remembers: the line that it is in, and the fields of the event so far. -/
structure Reader where
  line : List Char := []
  afterReturn : Bool := false
  type : List Char := []
  data : List Char := []
  id : List Char := []

namespace Reader

/-- A field of the event; every line of data has a line feed of its own. -/
def field (r : Reader) (name value : List Char) : Reader :=
  if name = "event".toList then { r with type := value }
  else if name = "data".toList then { r with data := r.data ++ value ++ ['\n'] }
  else if name = "id".toList then if '\x00' ∈ value then r else { r with id := value }
  else r

@[simp] lemma field_event (r : Reader) (value : List Char) :
    r.field "event".toList value = { r with type := value } := if_pos rfl

@[simp] lemma field_data (r : Reader) (value : List Char) :
    r.field "data".toList value = { r with data := r.data ++ value ++ ['\n'] } := by
  rw [field, if_neg (by decide), if_pos rfl]

/-- The event that a blank line dispatches. -/
def dispatched (r : Reader) : List Event :=
  if r.data = [] then []
  else [⟨if r.type = [] then "message".toList else r.type, r.data.dropLast, r.id⟩]

/-- The value of a field, less one blank before it. -/
def value : List Char → List Char
  | _ :: ' ' :: rest => rest
  | _ :: rest => rest
  | [] => []

/-- The line ends. -/
def endLine (r : Reader) : Reader × List Event :=
  let fresh := { r with line := [] }
  match r.line with
  | [] => ({ fresh with type := [], data := [] }, r.dispatched)
  | ':' :: _ => (fresh, [])
  | line => (fresh.field (line.takeWhile (· ≠ ':')) (value (line.dropWhile (· ≠ ':'))), [])

/-- A character arrives. -/
def step (r : Reader) (c : Char) : Reader × List Event :=
  if c = '\n' then
    if r.afterReturn then ({ r with afterReturn := false }, []) else r.endLine
  else if c = '\r' then
    ({ r.endLine.1 with afterReturn := true }, r.endLine.2)
  else ({ r with line := r.line ++ [c], afterReturn := false }, [])

/-- Characters arrive. -/
def run (r : Reader) : List Char → Reader × List Event
  | [] => (r, [])
  | c :: text => ((run (r.step c).1 text).1, (r.step c).2 ++ (run (r.step c).1 text).2)

end Reader

/-- The events of a stream. -/
def read (text : List Char) : List Event := (Reader.run {} text).2

/-- A line with a field. -/
def fieldLine (name value : List Char) : List Char := name ++ ':' :: ' ' :: value ++ ['\n']

/-- An event as a server writes it. -/
def frame (type data : List Char) : List Char :=
  fieldLine "event".toList type ++ (fieldLine "data".toList data ++ ['\n'])

/-- The text stays on one line. -/
def OneLine (text : List Char) : Prop := ∀ c ∈ text, c ≠ '\n' ∧ c ≠ '\r'

instance (text : List Char) : Decidable (OneLine text) :=
  List.decidableBAll (fun c => c ≠ '\n' ∧ c ≠ '\r') text

namespace Reader

variable {r : Reader} {text text' type data line : List Char}

/-- A reader goes on where it is. -/
lemma run_append (r : Reader) (text text' : List Char) :
    run r (text ++ text') =
      ((run (run r text).1 text').1, (run r text).2 ++ (run (run r text).1 text').2) := by
  induction text generalizing r with
  | nil => rfl
  | cons c text ih =>
    simp only [List.cons_append, run, ih, List.append_assoc]

/-- What is no line break is read into the line. -/
lemma run_line (oneLine : OneLine line) (fresh : r.afterReturn = false) :
    run r line = ({ r with line := r.line ++ line }, []) := by
  induction line generalizing r with
  | nil => simp [run]
  | cons c line ih =>
    obtain ⟨noFeed, noReturn⟩ := oneLine c (.head _)
    have rest : OneLine line := fun c mem => oneLine c (.tail _ mem)
    have read : r.step c = ({ r with line := r.line ++ [c], afterReturn := false }, []) := by
      simp only [step, if_neg noFeed, if_neg noReturn]
    rw [run, read, ih rest rfl, fresh, List.append_assoc]
    rfl

/-- The reader is between two lines. -/
def Between (r : Reader) : Prop := r.line = [] ∧ r.afterReturn = false

/-- A whole line is read. -/
lemma run_lineFeed (oneLine : OneLine line) (between : r.Between) :
    run r (line ++ ['\n']) = ({ r with line := line }).endLine := by
  obtain ⟨empty, fresh⟩ := between
  rw [run_append, run_line oneLine fresh, empty]
  simp [run, step, fresh]

lemma takeWhile_field {name : List Char} (plain : ':' ∉ name) (rest : List Char) :
    (name ++ ':' :: rest).takeWhile (· ≠ ':') = name ∧
      (name ++ ':' :: rest).dropWhile (· ≠ ':') = ':' :: rest := by
  have other : ∀ c ∈ name, (decide (c ≠ ':')) = true := by
    intro c mem
    refine decide_eq_true ?_
    rintro rfl
    exact plain mem
  constructor
  · rw [List.takeWhile_append_of_pos other]
    simp
  · rw [List.dropWhile_append_of_pos other]
    simp

lemma oneLine_append : OneLine (text ++ text') ↔ OneLine text ∧ OneLine text' := List.forall_mem_append

/-- A line with a field is read. -/
lemma run_field (name : List Char) (name_ne : name ≠ []) (plain : ':' ∉ name) (named : OneLine name)
    (oneLine : OneLine line) (between : r.Between) :
    run r (fieldLine name line) = (r.field name line, []) := by
  have whole : OneLine (name ++ ':' :: ' ' :: line) := by
    have blank : OneLine [':', ' '] := by decide
    exact oneLine_append.mpr ⟨named, oneLine_append.mpr ⟨blank, oneLine⟩⟩
  rw [fieldLine, run_lineFeed whole between]
  have same : { r with line := [] } = r := by rw [← between.1]
  obtain ⟨taken, dropped⟩ := takeWhile_field plain (' ' :: line)
  simp only [endLine]
  split
  · next empty => cases (List.append_eq_nil_iff.mp empty).2
  · next rest comment =>
    cases name with
    | nil => exact absurd rfl name_ne
    | cons c name =>
      cases comment
      exact absurd (.head _) plain
  · rw [taken, dropped, same]
    rfl

/-- A blank line is read. -/
lemma run_blank (between : r.Between) : run r ['\n'] = ({ r with type := [], data := [] }, r.dispatched) := by
  have read := run_lineFeed (List.forall_mem_nil _) between
  obtain ⟨line, afterReturn, type, data, id⟩ := r
  obtain ⟨rfl, rfl⟩ := between
  exact read

/-- A frame is read as its event, and leaves nothing behind. -/
lemma run_frame (type_ne : type ≠ []) (oneLine : OneLine type) (oneLine' : OneLine data) (id : List Char) :
    run { id := id } (frame type data) = ({ id := id }, [⟨type, data, id⟩]) := by
  have between : Between { id := id } := ⟨rfl, rfl⟩
  have between' : Between { type := type, id := id } := ⟨rfl, rfl⟩
  have between'' : Between { type := type, data := data ++ ['\n'], id := id } := ⟨rfl, rfl⟩
  have first : run { id := id } (fieldLine "event".toList type) =
      ({ type := type, id := id }, []) := by
    rw [run_field "event".toList (by decide) (by decide) (by decide) oneLine between, field_event]
  have second : run { type := type, id := id } (fieldLine "data".toList data) =
      ({ type := type, data := data ++ ['\n'], id := id }, []) := by
    rw [run_field "data".toList (by decide) (by decide) (by decide) oneLine' between', field_data,
      List.nil_append]
  have third : run { type := type, data := data ++ ['\n'], id := id } ['\n'] =
      ({ id := id }, [⟨type, data, id⟩]) := by
    rw [run_blank between'', dispatched, if_neg (by simp), if_neg type_ne, List.dropLast_concat]
  rw [frame, run_append, first, run_append, second, third]
  rfl

end Reader

variable {events : List Event} {text text' : List Char}

/-- Frames read as their events. -/
theorem read_frames {frames : List (List Char × List Char)}
    (clean : ∀ f ∈ frames, f.1 ≠ [] ∧ OneLine f.1 ∧ OneLine f.2) :
    read (frames.flatMap fun f => frame f.1 f.2) = frames.map fun f => ⟨f.1, f.2, []⟩ := by
  suffices reads : Reader.run {} (frames.flatMap fun f => frame f.1 f.2) =
      ({}, frames.map fun f => ⟨f.1, f.2, []⟩) from congrArg Prod.snd reads
  induction frames with
  | nil => rfl
  | cons f frames ih =>
    obtain ⟨type_ne, oneLine, oneLine'⟩ := clean f (.head _)
    have read := Reader.run_frame type_ne oneLine oneLine' []
    rw [List.flatMap_cons, Reader.run_append, read, ih fun f mem => clean f (.tail _ mem)]
    rfl

/-- What has arrived of a stream reads as the first of its events. -/
theorem read_prefix (arrived : text <+: text') : read text <+: read text' := by
  obtain ⟨rest, rfl⟩ := arrived
  rw [read, read, Reader.run_append]
  exact List.prefix_append _ _

end EventStream
