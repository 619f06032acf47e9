import Mathlib.Tactic.Lemma

/-!
# JSON values

The values that `model_dump(mode="json")` produces and `json.dumps` writes: response payloads, tool
arguments and request metadata. An object is a list of fields in insertion order, as a Python `dict`
keeps them; a float is kept by its bits, since no modelled function computes with one.
-/

namespace AgentRuntime

/-- A JSON value, as Python's `json` module reads and writes it. -/
inductive Json where
  | null
  | bool (value : Bool)
  | int (value : Int)
  | float (bits : BitVec 64)
  | str (value : String)
  | arr (items : List Json)
  | obj (fields : List (String × Json))

/-- `math.isfinite(value)` -/
def isFinite (bits : BitVec 64) : Bool := bits.extractLsb 62 52 ≠ 0x7ff#11

/-- The fields of a JSON object, a `dict[str, Any]`. -/
abbrev JsonObject := List (String × Json)

namespace JsonObject

/-- `object.get(key)` -/
def get? (object : JsonObject) (key : String) : Option Json :=
  List.lookup key object

/-- `object[key] = value`: an existing field keeps its place. -/
def set (key : String) (value : Json) : JsonObject → JsonObject
  | [] => [(key, value)]
  | (k, v) :: fields => if key = k then (k, value) :: fields else (k, v) :: set key value fields

@[simp] lemma get?_nil (key : String) : get? [] key = none := rfl

@[simp] lemma get?_cons (key k : String) (v : Json) (fields : JsonObject) :
    get? ((k, v) :: fields) key = if key = k then some v else get? fields key := by
  simp only [get?, List.lookup_cons]
  split
  · next h => rw [if_pos (beq_iff_eq.mp h)]
  · next h => rw [if_neg (beq_eq_false_iff_ne.mp h)]

/-- Reading the field that was written. -/
@[simp] lemma get?_set_self (object : JsonObject) (key : String) (value : Json) :
    (object.set key value).get? key = some value := by
  induction object with
  | nil => simp [set]
  | cons field fields ih =>
    obtain ⟨k, v⟩ := field
    simp only [set]
    split
    · next e => simp [e]
    · next e => simp [e, ih]

/-- Reading another field than the one that was written. -/
lemma get?_set_of_ne {object : JsonObject} {key key' : String} {value : Json} (ne : key' ≠ key) :
    (object.set key value).get? key' = object.get? key' := by
  induction object with
  | nil => simp [set, ne]
  | cons field fields ih =>
    obtain ⟨k, v⟩ := field
    simp only [set]
    split
    · next e => simp [← e, ne]
    · next => simp [ih]

lemma sizeOf_get? {object : JsonObject} {key : String} {value : Json}
    (field : object.get? key = some value) : sizeOf value < sizeOf object := by
  induction object with
  | nil => cases field
  | cons head fields ih =>
    obtain ⟨k, v⟩ := head
    rw [get?_cons] at field
    split at field
    · cases field
      simp only [List.cons.sizeOf_spec, Prod.mk.sizeOf_spec]
      omega
    · have smaller := ih field
      simp only [List.cons.sizeOf_spec]
      omega

end JsonObject

section Dumps

/-- The text of a character in a JSON string, as `ensure_ascii=False` writes it. -/
def escape (c : Char) : String :=
  match c.toNat with
  | 34 => "\\\""
  | 92 => "\\\\"
  | 8 => "\\b"
  | 9 => "\\t"
  | 10 => "\\n"
  | 12 => "\\f"
  | 13 => "\\r"
  | n =>
    if n < 32 then "\\u00" ++ String.ofList [Nat.digitChar (n / 16), Nat.digitChar (n % 16)]
    else c.toString

/-- A text as a JSON string. -/
def quote (text : String) : String :=
  "\"" ++ String.join (text.toList.map escape) ++ "\""

-- `floatRepr` is Python's `repr` of a finite float
mutual

/-- `json.dumps(value, ensure_ascii=False, separators=(",", ":"), sort_keys=True)` -/
def Json.dumps (floatRepr : BitVec 64 → String) : Json → String
  | .null => "null"
  | .bool true => "true"
  | .bool false => "false"
  | .int value => toString value
  | .float bits => floatRepr bits
  | .str value => quote value
  | .arr items => "[" ++ ",".intercalate (dumpsItems floatRepr items) ++ "]"
  | .obj fields =>
    let sorted := (dumpsFields floatRepr fields).mergeSort fun a b => !decide (b.1 < a.1)
    "\x7b" ++ ",".intercalate (sorted.map fun (key, text) => quote key ++ ":" ++ text) ++ "\x7d"

def dumpsItems (floatRepr : BitVec 64 → String) : List Json → List String
  | [] => []
  | item :: items => item.dumps floatRepr :: dumpsItems floatRepr items

def dumpsFields (floatRepr : BitVec 64 → String) : JsonObject → List (String × String)
  | [] => []
  | (key, value) :: fields => (key, value.dumps floatRepr) :: dumpsFields floatRepr fields

end

end Dumps

/-- `bool(value)` -/
def Json.truthy : Json → Bool
  | .null => false
  | .bool value => value
  | .int value => value ≠ 0
  | .float bits => bits.extractLsb 62 0 ≠ 0
  | .str text => text ≠ ""
  | .arr items => !items.isEmpty
  | .obj fields => !fields.isEmpty

/-- The value is a number. -/
def Json.isNumber : Json → Bool
  | .int _ => true
  | .float _ => true
  | _ => false

/-- The values are the same but for the spelling of fractions and the order of fields, which a
    document column does not keep. -/
inductive Json.Same : Json → Json → Prop where
  | null :
    Same .null .null
  | bool {b} :
    Same (.bool b) (.bool b)
  | int {n} :
    Same (.int n) (.int n)
  | float {bits value} :
    value.isNumber = true →
    Same (.float bits) value
  | str {text} :
    Same (.str text) (.str text)
  | arr {xs ys : List Json} :
    xs.length = ys.length →
    (∀ (i : Nat) x y, xs[i]? = some x → ys[i]? = some y → Same x y) →
    Same (.arr xs) (.arr ys)
  | obj {xs ys : JsonObject} :
    (∀ key, xs.get? key = none ↔ ys.get? key = none) →
    (∀ key x y, xs.get? key = some x → ys.get? key = some y → Same x y) →
    Same (.obj xs) (.obj ys)

namespace Json.Same

theorem refl : (value : Json) → Same value value
  | .null => .null
  | .bool _ => .bool
  | .int _ => .int
  | .float _ => .float rfl
  | .str _ => .str
  | .arr items => by
    refine .arr (by rfl) fun i x y hx hy => ?_
    cases hx.symm.trans hy
    have smaller := List.sizeOf_lt_of_mem (List.mem_of_getElem? hx)
    exact refl x
  | .obj fields => by
    refine .obj (fun _ => Iff.rfl) fun key x y hx hy => ?_
    cases hx.symm.trans hy
    have smaller := JsonObject.sizeOf_get? hx
    exact refl x

variable {object stored : JsonObject}

lemma field (same : Same (.obj object) (.obj stored)) {key : String} {value : Json}
    (given : object.get? key = some value) :
    ∃ value', stored.get? key = some value' ∧ Same value value' := by
  cases same with
  | obj missing fields =>
    cases found : stored.get? key with
    | none =>
      rw [(missing key).mpr found] at given
      cases given
    | some value' => exact ⟨value', rfl, fields key value value' given found⟩

lemma text (same : Same (.obj object) (.obj stored)) {key text : String}
    (given : object.get? key = some (.str text)) : stored.get? key = some (.str text) := by
  obtain ⟨value', found, same⟩ := same.field given
  cases same
  exact found

/-- Objects with the same first key are the same when what they have there is, and the rest is. -/
lemma cons {key : String} {value value' : Json} (first : Same value value')
    (rest : Same (.obj object) (.obj stored)) :
    Same (.obj ((key, value) :: object)) (.obj ((key, value') :: stored)) := by
  cases rest with
  | obj missing fields =>
    refine .obj (fun k => ?_) fun k x y hx hy => ?_
    · rw [JsonObject.get?_cons, JsonObject.get?_cons]
      split
      · exact ⟨nofun, nofun⟩
      · exact missing k
    · rw [JsonObject.get?_cons] at hx hy
      split at hx
      · next own =>
        rw [if_pos own] at hy
        cases hx
        cases hy
        exact first
      · next other =>
        rw [if_neg other] at hy
        exact fields k x y hx hy

end Json.Same

end AgentRuntime
