import AgentRuntime.Data.JsonRoundTrip
import AgentRuntime.Lib.Ladder
import Mathlib.Algebra.Order.Ring.Int
import Mathlib.Data.List.DropRight

/-!
# Compacting prompts

Port of `_compact_payload` in `agents/base.py` and of the budgets that `invoke_json` gives it. A payload that is
too large loses all but the end of its history, and is then cut by one rung of a ladder after the other, until
it fits; the last rung is taken as it comes. What a rung leaves of a payload is as large as a measure of the
payload says, so each result is a fact about the ladder of these sizes.
-/

namespace AgentRuntime.Agents
open Ladder

/-- The style of `json.dumps(value, ensure_ascii=False)`. -/
def plainStyle : JsonStyle := { ascii := false, spaced := true }

/-- source `_json_chars` -/
def jsonChars (floats : FloatCodec) (value : Json) : Nat := (value.write floats plainStyle).length

/-- The limits of a rung: the characters of a string, and the items of a list. -/
structure Rung where
  maxStringChars : Nat
  maxItems : Nat

section Truncation

variable (rung : Rung)

/-- What is appended to a text that is cut. -/
def truncationMark : String := "…[truncated]"

/-- The text, or its beginning with the mark. -/
def truncateText (text : String) : String :=
  if text.length ≤ rung.maxStringChars then text
  else String.ofList (text.toList.take rung.maxStringChars) ++ truncationMark

mutual

/-- source `_truncate_value`; the items of a list are cut before the last of them are taken, which comes to the
    same -/
def truncateValue : Json → Json
  | .str text => .str (truncateText rung text)
  | .arr items => .arr ((truncateItems items).rtake rung.maxItems)
  | .obj fields => .obj (truncateFields fields)
  | value => value

def truncateItems : List Json → List Json
  | [] => []
  | item :: items => truncateValue item :: truncateItems items

def truncateFields : JsonObject → JsonObject
  | [] => []
  | (key, value) :: fields => (key, truncateValue value) :: truncateFields fields

end

end Truncation

/-- The rungs that `_compact_payload` tries in turn. -/
def ladder : List Rung := [⟨4000, 12⟩, ⟨2500, 8⟩, ⟨1500, 6⟩, ⟨800, 5⟩, ⟨400, 4⟩, ⟨200, 3⟩]

/-- The rung that it takes when none of them is enough. -/
def lastRung : Rung := ⟨120, 2⟩

/-- The payload with the last four messages of its history. -/
def trimmed (payload : JsonObject) : JsonObject :=
  match payload.get? "history" with
  | some (.arr history) => payload.set "history" (.arr (history.rtake 4))
  | _ => payload

/-- source `_compact_payload` -/
def compactPayload (floats : FloatCodec) (payload : JsonObject) (maxChars : Nat) : JsonObject × Bool :=
  if jsonChars floats (.obj payload) ≤ maxChars then (payload, false)
  else
    let original := trimmed payload
    match ladder.find? fun rung => jsonChars floats (.obj (truncateFields rung original)) ≤ maxChars with
    | some rung => (truncateFields rung original, true)
    | none => (truncateFields lastRung original, true)

section Budgets

/-- What the budgets read of the settings; the last field is `int(tokens * structured_prompt_chars_per_token)`. -/
structure PromptSettings where
  ollamaNumCtx : Nat
  structuredOutputReserveTokens : Nat
  chars : (tokens : Int) → Int

variable (floats : FloatCodec) (settings : PromptSettings)

/-- source `_structured_payload_budget_chars` -/
def structuredPayloadBudgetChars (system : String) (jsonSchema : Json) : Nat :=
  let numCtx := settings.ollamaNumCtx
  let reserve := min (max 256 settings.structuredOutputReserveTokens) (max 256 (numCtx / 2))
  let usableChars := settings.chars (max 512 ((numCtx : Int) - reserve))
  let fixedChars := system.length + jsonChars floats jsonSchema + 1800
  (max 2000 (usableChars - fixedChars)).toNat

/-- The budget of an attempt in `invoke_json`. Up to the cap of 3000, `int(base * 0.40)` is the whole part of two
    fifths. -/
def attemptBudget (base attempt : Nat) : Nat :=
  if attempt = 1 then base else max 1200 (min 3000 (2 * base / 5))

end Budgets

section Sizes

variable (floats : FloatCodec)

/-- The characters of a text in JSON. -/
def quotedChars (text : String) : Nat := (plainStyle.quote text).length

/-- The characters of a list or a dictionary, by those of its parts. -/
def listedChars (parts : List Nat) : Nat := if parts = [] then 2 else (parts.map (· + 2)).sum

variable (rung : Rung)

/-- The characters that a rung leaves of a text: those of its beginning, with the twelve of the mark. -/
def cutTextChars (text : String) : Nat :=
  if text.length ≤ rung.maxStringChars then quotedChars text
  else quotedChars (String.ofList (text.toList.take rung.maxStringChars)) + 12

mutual

/-- The characters that a rung leaves of a value. -/
def cutChars : Json → Nat
  | .str text => cutTextChars rung text
  | .arr items => listedChars ((cutItems items).rtake rung.maxItems)
  | .obj fields => listedChars (cutFields fields)
  | value => jsonChars floats value

def cutItems : List Json → List Nat
  | [] => []
  | item :: items => cutChars item :: cutItems items

def cutFields : JsonObject → List Nat
  | [] => []
  | (key, value) :: fields => (quotedChars key + 2 + cutChars value) :: cutFields fields

end

end Sizes

section Measure

variable {floats : FloatCodec} {rung : Rung}

lemma writeItems_length (items : List Json) : (writeItems floats plainStyle items).length =
    ((items.map (jsonChars floats)).map (· + 2)).sum + 1 := by
  induction items with
  | nil => rfl
  | cons item items ih =>
    simp only [writeItems, List.length_append, ih, List.map_cons, List.sum_cons]
    have comma : (plainStyle.separator ',').length = 2 := rfl
    rw [comma, jsonChars]
    omega

/-- The characters of a list. -/
lemma jsonChars_arr (items : List Json) :
    jsonChars floats (.arr items) = listedChars (items.map (jsonChars floats)) := by
  cases items with
  | nil => rfl
  | cons item items =>
    simp only [jsonChars, Json.write, List.length_cons, List.length_append, writeItems_length, listedChars,
      List.map_cons, List.sum_cons, reduceCtorEq, if_false]
    omega

/-- The characters of a field. -/
def fieldChars (floats : FloatCodec) (field : String × Json) : Nat :=
  quotedChars field.1 + 2 + jsonChars floats field.2

lemma writeFields_length (fields : JsonObject) : (writeFields floats plainStyle fields).length =
    ((fields.map (fieldChars floats)).map (· + 2)).sum + 1 := by
  induction fields with
  | nil => rfl
  | cons field fields ih =>
    obtain ⟨key, value⟩ := field
    simp only [writeFields, List.length_append, ih, List.map_cons, List.sum_cons, fieldChars]
    have comma : (plainStyle.separator ',').length = 2 := rfl
    have colon : (plainStyle.separator ':').length = 2 := rfl
    rw [comma, colon, jsonChars, quotedChars]
    omega

/-- The characters of a dictionary. -/
lemma jsonChars_obj (fields : JsonObject) :
    jsonChars floats (.obj fields) = listedChars (fields.map (fieldChars floats)) := by
  cases fields with
  | nil => rfl
  | cons field fields =>
    obtain ⟨key, value⟩ := field
    have colon : (plainStyle.separator ':').length = 2 := rfl
    simp only [jsonChars, Json.write, List.length_cons, List.length_append, writeFields_length, listedChars,
      List.map_cons, List.sum_cons, reduceCtorEq, if_false, fieldChars, colon, quotedChars]
    omega

/-- The mark adds twelve characters. -/
lemma quotedChars_mark (text : String) : quotedChars (text ++ truncationMark) = quotedChars text + 12 := by
  have mark : (truncationMark.toList.flatMap plainStyle.escape).length = 12 := by decide +kernel
  simp only [quotedChars, JsonStyle.quote, List.length_cons, List.length_append, String.toList_append,
    List.flatMap_append, List.length_nil, mark]

lemma cutTextChars_eq (text : String) :
    quotedChars (truncateText rung text) = cutTextChars rung text := by
  rw [truncateText, cutTextChars]
  split
  · rfl
  · exact quotedChars_mark _

mutual

/-- What a rung leaves of a value is as large as the measure says. -/
lemma cutChars_eq : ∀ value : Json, jsonChars floats (truncateValue rung value) = cutChars floats rung value
  | .null => rfl
  | .bool _ => rfl
  | .int _ => rfl
  | .float _ => rfl
  | .str text => cutTextChars_eq text
  | .arr items => by
    rw [truncateValue, cutChars, jsonChars_arr, ← cutItems_eq items, List.rtake, List.rtake, List.map_drop,
      List.length_map]
  | .obj fields => by
    rw [truncateValue, cutChars, jsonChars_obj, cutFields_eq fields]

lemma cutItems_eq : ∀ items : List Json,
    (truncateItems rung items).map (jsonChars floats) = cutItems floats rung items
  | [] => rfl
  | item :: items => by
    rw [truncateItems, cutItems, List.map_cons, cutChars_eq item, cutItems_eq items]

lemma cutFields_eq : ∀ fields : JsonObject,
    (truncateFields rung fields).map (fieldChars floats) = cutFields floats rung fields
  | [] => rfl
  | (key, value) :: fields => by
    rw [truncateFields, cutFields, List.map_cons, fieldChars, cutChars_eq value, cutFields_eq fields]

end

end Measure

section Compacted

variable (floats : FloatCodec) (payload : JsonObject)

/-- The characters that a rung leaves of the trimmed payload. -/
def rungChars (rung : Rung) : Nat := cutChars floats rung (.obj (trimmed payload))

/-- The sizes that are tried in turn: the payload as it is, and what each rung leaves of it. -/
def sizes : List Nat := jsonChars floats (.obj payload) :: ladder.map (rungChars floats payload)

/-- The size of the last resort. -/
def lastSize : Nat := rungChars floats payload lastRung

variable {floats payload} {maxChars : Nat}

/-- The size of what is prepared is picked from the ladder. -/
lemma compactPayload_chars : jsonChars floats (.obj (compactPayload floats payload maxChars).1) =
    pick (sizes floats payload) (lastSize floats payload) maxChars := by
  have left (rung : Rung) : jsonChars floats (.obj (truncateFields rung (trimmed payload))) =
      rungChars floats payload rung := cutChars_eq (.obj (trimmed payload))
  rw [compactPayload, sizes]
  by_cases fits : jsonChars floats (.obj payload) ≤ maxChars
  · rw [if_pos fits, pick_here fits]
  · rw [if_neg fits, pick_next fits, pick, List.find?_map]
    simp only [left, Function.comp_def]
    cases ladder.find? fun rung => rungChars floats payload rung ≤ maxChars with
    | none => exact left lastRung
    | some rung => exact left rung

/-- The payload is within the limit as it is, or one of the rungs brings it there. -/
def Compactable (floats : FloatCodec) (payload : JsonObject) (maxChars : Nat) : Prop :=
  (∃ size ∈ sizes floats payload, size ≤ maxChars) ∨ lastSize floats payload ≤ maxChars

/-- What is prepared is within the limit exactly when the payload is, as it is or cut by one of the rungs. -/
theorem compacted_fits_iff (floats : FloatCodec) (payload : JsonObject) (maxChars : Nat) :
    jsonChars floats (.obj (compactPayload floats payload maxChars).1) ≤ maxChars ↔
      Compactable floats payload maxChars := by
  rw [compactPayload_chars]
  exact pick_le_iff

/-- The size of what an attempt of `invoke_json` is prepared. -/
def attemptChars (floats : FloatCodec) (payload : JsonObject) (base attempt : Nat) : Nat :=
  jsonChars floats (.obj (compactPayload floats payload (attemptBudget base attempt)).1)

/-- A size is within the budget of the second attempt, or the last resort is no larger than the payload, and
    no larger than the first size within the budget of the first attempt. -/
def Shrinkable (floats : FloatCodec) (payload : JsonObject) (base : Nat) : Prop :=
  (∃ size ∈ sizes floats payload, size ≤ attemptBudget base 2) ∨
    lastSize floats payload ≤ jsonChars floats (.obj payload) ∧
      ∀ first, (sizes floats payload).find? (fun size => size ≤ base) = some first →
        lastSize floats payload ≤ first

lemma attemptBudget_le {base : Nat} (enough : 2000 ≤ base) : attemptBudget base 2 ≤ base := by
  simp only [attemptBudget, OfNat.ofNat_ne_one, if_false]
  omega

lemma le_structuredPayloadBudgetChars (settings : PromptSettings) (system : String) (jsonSchema : Json) :
    2000 ≤ structuredPayloadBudgetChars floats settings system jsonSchema := by
  simp only [structuredPayloadBudgetChars]
  omega

/-- The second attempt is prepared nothing larger than the first one, and neither anything larger than the
    payload, exactly when the payload is shrinkable. -/
theorem fallback_shrinks_iff (floats : FloatCodec) (settings : PromptSettings) (system : String)
    (jsonSchema : Json) (payload : JsonObject) :
    let base := structuredPayloadBudgetChars floats settings system jsonSchema
    let original := jsonChars floats (.obj payload)
    (attemptChars floats payload base 2 ≤ attemptChars floats payload base 1 ∧
      attemptChars floats payload base 1 ≤ original ∧ attemptChars floats payload base 2 ≤ original) ↔
        Shrinkable floats payload base := by
  intro base original
  have less : attemptBudget base 2 ≤ base := attemptBudget_le (le_structuredPayloadBudgetChars _ _ _)
  have one : attemptBudget base 1 = base := rfl
  simp only [attemptChars, compactPayload_chars, one]
  rw [pick_le_pick_iff less, last_le_pick, sizes, pick_le_first_iff, pick_le_first_iff, ← sizes, Shrinkable]
  by_cases fits : ∃ size ∈ sizes floats payload, size ≤ attemptBudget base 2
  · obtain ⟨size, mem, le⟩ := fits
    have both : ∃ size ∈ sizes floats payload, size ≤ base := ⟨size, mem, le.trans less⟩
    have smaller : ∃ size ∈ sizes floats payload, size ≤ attemptBudget base 2 := ⟨size, mem, le⟩
    simp only [smaller, both, true_or, and_self]
  · simp only [fits, false_or]
    constructor
    · rintro ⟨first, -, whole⟩
      exact ⟨whole, first⟩
    · rintro ⟨whole, first⟩
      exact ⟨first, .inr whole, whole⟩

end Compacted

section Samples

/-- A payload of fields with texts of one length. -/
def wideFields (count length : Nat) : JsonObject :=
  (List.range count).map fun i => (toString i, .str (String.ofList (List.replicate length 'x')))

/-- Settings for the smallest context, with three characters for a token. -/
def smallSettings : PromptSettings := ⟨2048, 1536, fun tokens => 3 * tokens⟩

/-- Ten fields with texts of 121 characters are beyond the budget of the second attempt, whatever the rung. -/
theorem wide_payload_exceeds :
    ¬ ∀ (floats : FloatCodec) (settings : PromptSettings) (system : String) (jsonSchema : Json)
        (attempt : Nat) (payload : JsonObject),
      let maxChars := attemptBudget (structuredPayloadBudgetChars floats settings system jsonSchema) attempt
      jsonChars floats (.obj (compactPayload floats payload maxChars).1) ≤ maxChars := by
  intro fits
  have fit := fits sampleFloats smallSettings "" (.obj []) 2 (wideFields 10 121)
  dsimp only at fit
  rw [compactPayload_chars] at fit
  revert fit
  decide +kernel

/-- Ten fields with texts of 121 characters are within the first budget; for the second one the last rung makes
    them longer. -/
theorem fallback_grows :
    ¬ ∀ (floats : FloatCodec) (settings : PromptSettings) (system : String) (jsonSchema : Json)
        (payload : JsonObject),
      let base := structuredPayloadBudgetChars floats settings system jsonSchema
      attemptChars floats payload base 2 ≤ attemptChars floats payload base 1 ∧
        attemptChars floats payload base 1 ≤ jsonChars floats (.obj payload) ∧
          attemptChars floats payload base 2 ≤ jsonChars floats (.obj payload) := by
  intro shrinks
  have smaller := (shrinks sampleFloats smallSettings "" (.obj []) (wideFields 10 121)).1
  rw [attemptChars, attemptChars, compactPayload_chars, compactPayload_chars] at smaller
  revert smaller
  decide +kernel

end Samples

end AgentRuntime.Agents
