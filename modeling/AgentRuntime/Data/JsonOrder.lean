import AgentRuntime.Data.JsonRoundTrip
import Mathlib.Data.List.Nodup
import Mathlib.Data.List.Perm.Basic

/-!
# The order of members

`json.dumps` with `sort_keys=True` writes the members of every object by key. Its text is the compact
text of the value with sorted members, so it tells the value up to the order of its members and nothing
less.
-/

namespace AgentRuntime

/-- Induction over a value: an array after its items, an object after its members. -/
@[elab_as_elim]
theorem Json.ind {P : Json → Prop} (null : P .null) (bool : ∀ value, P (.bool value))
    (int : ∀ value, P (.int value)) (float : ∀ bits, P (.float bits)) (str : ∀ text, P (.str text))
    (arr : ∀ items, (∀ item ∈ items, P item) → P (.arr items))
    (obj : ∀ fields : JsonObject, (∀ field ∈ fields, P field.2) → P (.obj fields)) :
    (value : Json) → P value
  | .null => null
  | .bool value => bool value
  | .int value => int value
  | .float bits => float bits
  | .str text => str text
  | .arr items => arr items fun item mem => by
    have smaller := List.sizeOf_lt_of_mem mem
    exact Json.ind null bool int float str arr obj item
  | .obj fields => obj fields fun field mem => by
    have smaller := List.sizeOf_lt_of_mem mem
    have part : sizeOf field.2 < sizeOf field := by
      obtain ⟨key, value⟩ := field
      simp only [Prod.mk.sizeOf_spec]
      omega
    exact Json.ind null bool int float str arr obj field.2

section Members

variable {α β : Type*}

/-- The order in which members are written. -/
def memberLe (a b : String × α) : Bool := !decide (b.1 < a.1)

lemma memberLe_iff (a b : String × α) : memberLe a b = true ↔ a.1 ≤ b.1 := by
  rw [memberLe, Bool.not_eq_true', decide_eq_false_iff_not, String.not_lt]

lemma pairwise_members (members : List (String × α)) :
    (members.mergeSort memberLe).Pairwise fun a b => memberLe a b = true := by
  refine List.pairwise_mergeSort (fun a b c => ?_) (fun a b => ?_) members
  · simp only [memberLe_iff]
    exact String.le_trans
  · rw [Bool.or_eq_true, memberLe_iff, memberLe_iff]
    exact String.le_total a.1 b.1

/-- Members with distinct keys have one order. -/
lemma sort_members {members members' : List (String × α)} (perm : members.Perm members')
    (distinct : (members.map Prod.fst).Nodup) :
    members.mergeSort memberLe = members'.mergeSort memberLe := by
  have perm' := (List.mergeSort_perm members memberLe).trans
    (perm.trans (List.mergeSort_perm members' memberLe).symm)
  refine perm'.eq_of_pairwise (fun a b ha hb ab ba => ?_) (pairwise_members members)
    (pairwise_members members')
  have ha : a ∈ members := List.mem_mergeSort.mp ha
  have hb : b ∈ members := perm.mem_iff.mpr (List.mem_mergeSort.mp hb)
  exact List.inj_on_of_nodup_map distinct ha hb
    (String.le_antisymm ((memberLe_iff a b).mp ab) ((memberLe_iff b a).mp ba))

/-- What keeps the keys of members can come before or after sorting them. -/
lemma map_sort_members (f : α → β) (members : List (String × α)) :
    (members.mergeSort memberLe).map (fun member => (member.1, f member.2)) =
      (members.map fun member => (member.1, f member.2)).mergeSort memberLe :=
  List.map_mergeSort fun _ _ _ _ => rfl

end Members

section Sorted

mutual

/-- The value with the members of each object by key. -/
def Json.sorted : Json → Json
  | .arr items => .arr (sortedItems items)
  | .obj fields => .obj ((sortedFields fields).mergeSort memberLe)
  | value => value

def sortedItems : List Json → List Json
  | [] => []
  | item :: items => item.sorted :: sortedItems items

def sortedFields : JsonObject → JsonObject
  | [] => []
  | (key, value) :: fields => (key, value.sorted) :: sortedFields fields

end

lemma sortedItems_map (items : List Json) : sortedItems items = items.map Json.sorted := by
  induction items with
  | nil => rfl
  | cons item items ih => rw [sortedItems, ih, List.map_cons]

lemma sortedFields_map (fields : JsonObject) :
    sortedFields fields = fields.map fun field => (field.1, field.2.sorted) := by
  induction fields with
  | nil => rfl
  | cons field fields ih => rw [sortedFields, ih, List.map_cons]

lemma sorted_arr (items : List Json) : (Json.arr items).sorted = .arr (items.map Json.sorted) := by
  rw [Json.sorted, sortedItems_map]

lemma sorted_obj (fields : JsonObject) : (Json.obj fields).sorted =
    .obj ((fields.map fun field => (field.1, field.2.sorted)).mergeSort memberLe) := by
  rw [Json.sorted, sortedFields_map]

lemma Json.Valid.sorted {value : Json} (valid : value.Valid) : value.sorted.Valid := by
  induction valid with
  | null => exact .null
  | bool => exact .bool
  | int => exact .int
  | float finite => exact .float finite
  | str => exact .str
  | arr _ ih =>
    rw [sorted_arr]
    refine .arr fun item' mem' => ?_
    obtain ⟨item, mem, rfl⟩ := List.mem_map.mp mem'
    exact ih item mem
  | @obj fields distinct _ ih =>
    have perm := List.mergeSort_perm (fields.map fun field => (field.1, field.2.sorted)) memberLe
    rw [sorted_obj]
    refine .obj ?_ fun field' mem' => ?_
    · rw [(perm.map Prod.fst).nodup_iff, List.map_map]
      exact distinct
    · obtain ⟨field, mem, rfl⟩ := List.mem_map.mp (perm.mem_iff.mp mem')
      exact ih field mem

end Sorted

section Text

variable (floats : FloatCodec)

/-- `ensure_ascii=False, separators=(",", ":")` -/
def JsonStyle.compact : JsonStyle := { ascii := false, spaced := false }

lemma toList_quote (text : String) : (quote text).toList = JsonStyle.compact.quote text := by
  have chars : (fun c => (escape c).toList) = JsonStyle.compact.escape := rfl
  simp only [quote, JsonStyle.quote, String.toList_append, String.toList_join, List.flatMap_map, chars]
  rfl

lemma writeItems_compact (items : List Json) : writeItems floats .compact items =
    (items.flatMap fun item => ',' :: item.write floats .compact) ++ [']'] := by
  induction items with
  | nil => rfl
  | cons item items ih =>
    have comma : JsonStyle.compact.separator ',' = [','] := rfl
    rw [writeItems, ih, List.flatMap_cons, comma]
    simp only [List.nil_append, List.cons_append, List.append_assoc]

lemma writeFields_compact (fields : JsonObject) : writeFields floats .compact fields =
    (fields.flatMap fun field => ',' :: (JsonStyle.compact.quote field.1 ++
      ':' :: field.2.write floats .compact)) ++ ['\x7d'] := by
  induction fields with
  | nil => rfl
  | cons field fields ih =>
    rw [writeFields, ih, List.flatMap_cons]
    simp [JsonStyle.separator, JsonStyle.compact]

lemma toList_commas (text : String) (texts : List String) :
    (",".intercalate (text :: texts)).toList =
      text.toList ++ texts.flatMap fun text => ',' :: text.toList := by
  induction texts generalizing text with
  | nil => simp
  | cons next texts ih =>
    rw [String.intercalate_cons_cons, String.toList_append, String.toList_append, ih,
      List.flatMap_cons]
    simp

lemma dumpsItems_map (items : List Json) :
    dumpsItems floats.repr items = items.map (Json.dumps floats.repr) := by
  induction items with
  | nil => rfl
  | cons item items ih => rw [dumpsItems, ih, List.map_cons]

lemma dumpsFields_map (fields : JsonObject) : dumpsFields floats.repr fields =
    fields.map fun field => (field.1, field.2.dumps floats.repr) := by
  induction fields with
  | nil => rfl
  | cons field fields ih => rw [dumpsFields, ih, List.map_cons]

lemma dumps_obj (fields : JsonObject) : (Json.obj fields).dumps floats.repr =
    "\x7b" ++ ",".intercalate ((fields.mergeSort memberLe).map fun field =>
      quote field.1 ++ ":" ++ field.2.dumps floats.repr) ++ "\x7d" := by
  have written : (Json.obj fields).dumps floats.repr = "\x7b" ++ ",".intercalate
      (((fields.map fun field => (field.1, field.2.dumps floats.repr)).mergeSort memberLe).map
        fun field => quote field.1 ++ ":" ++ field.2) ++ "\x7d" := by
    rw [Json.dumps, dumpsFields_map]
    rfl
  rw [written, ← map_sort_members, List.map_map]
  rfl

/-- Sorting while writing is writing what is sorted. -/
lemma dumps_sorted (value : Json) :
    value.dumps floats.repr = value.sorted.text floats .compact := by
  rw [← String.toList_inj, Json.text, String.toList_ofList]
  induction value using Json.ind with
  | null | int | float | str => first | rfl | exact toList_quote _
  | bool value => cases value <;> rfl
  | arr items ih =>
    rw [sorted_arr, Json.dumps, dumpsItems_map]
    cases items with
    | nil => rfl
    | cons item items =>
      have later : (items.map (Json.dumps floats.repr)).flatMap (fun text => ',' :: text.toList) =
          (items.map Json.sorted).flatMap fun item => ',' :: item.write floats .compact := by
        rw [List.flatMap_map, List.flatMap_map]
        refine List.flatMap_congr fun item mem => ?_
        rw [ih item (.tail _ mem)]
      rw [List.map_cons, List.map_cons, Json.write, writeItems_compact, String.toList_append,
        String.toList_append, toList_commas, ih item (.head _), later]
      simp
  | obj fields ih =>
    rw [sorted_obj, ← map_sort_members, dumps_obj]
    -- the members are sorted by their keys alone, so each one can be sorted inside first
    have ih : ∀ field ∈ fields.mergeSort memberLe,
        (field.2.dumps floats.repr).toList = field.2.sorted.write floats .compact :=
      fun field mem => ih field (List.mem_mergeSort.mp mem)
    generalize fields.mergeSort memberLe = members at ih
    have member : ∀ field ∈ members, (quote field.1 ++ ":" ++ field.2.dumps floats.repr).toList =
        JsonStyle.compact.quote field.1 ++ ':' :: field.2.sorted.write floats .compact := by
      intro field mem
      rw [String.toList_append, String.toList_append, toList_quote, ih field mem, List.append_assoc]
      rfl
    cases members with
    | nil => rfl
    | cons first members =>
      have later : (members.map fun field => quote field.1 ++ ":" ++ field.2.dumps floats.repr).flatMap
            (fun text => ',' :: text.toList) =
          (members.map fun field => (field.1, field.2.sorted)).flatMap fun field =>
            ',' :: (JsonStyle.compact.quote field.1 ++ ':' :: field.2.write floats .compact) := by
        rw [List.flatMap_map, List.flatMap_map]
        refine List.flatMap_congr fun field mem => ?_
        rw [member field (.tail _ mem)]
      have colon : JsonStyle.compact.separator ':' = [':'] := rfl
      rw [List.map_cons, List.map_cons, Json.write, writeFields_compact, String.toList_append,
        String.toList_append, toList_commas, member first (.head _), later, colon]
      simp

/-- Two values with one text are the same but for the order of their members. -/
theorem dumps_injective {x y : Json} (hx : x.Valid) (hy : y.Valid)
    (same : x.dumps floats.repr = y.dumps floats.repr) : x.sorted = y.sorted := by
  rw [dumps_sorted, dumps_sorted] at same
  have read := parse_text floats .compact hx.sorted
  rw [same, parse_text floats .compact hy.sorted] at read
  exact (Option.some.inj read).symm

end Text

end AgentRuntime
