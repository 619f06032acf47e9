import AgentRuntime.Data.JsonOrder
import AgentRuntime.Orchestration.RunIdentity

/-!
# The request hash

When two requests have one hash. The canonical form of metadata brings strings and keys into normal form
and sorts the members of every object. Keys that are one key in normal form are merged by it, and only
the value of the last one is left. The hash tells requests apart exactly where no keys are merged.
-/

namespace AgentRuntime.Orchestration
open State Text

section Values

variable (nfc : String → String)

/-- The values are equal up to the normal form of strings and keys, and up to the order of members: the
    members of one object can be matched with the ones of the other. -/
inductive Equal : Json → Json → Prop where
  | null :
    Equal .null .null
  | bool {value} :
    Equal (.bool value) (.bool value)
  | int {value} :
    Equal (.int value) (.int value)
  | float {bits} :
    Equal (.float bits) (.float bits)
  | str {text text'} :
    nfc text = nfc text' →
    Equal (.str text) (.str text')
  | arr {xs ys : List Json} :
    xs.length = ys.length →
    (∀ (i : Nat) x y, xs[i]? = some x → ys[i]? = some y → Equal x y) →
    Equal (.arr xs) (.arr ys)
  | obj {xs zs ys : JsonObject} :
    zs.Perm ys →
    xs.length = zs.length →
    (∀ (i : Nat) x z, xs[i]? = some x → zs[i]? = some z → nfc x.1 = nfc z.1) →
    (∀ (i : Nat) x z, xs[i]? = some x → zs[i]? = some z → Equal x.2 z.2) →
    Equal (.obj xs) (.obj ys)

/-- No two keys of an object are one key in normal form. -/
inductive Distinct : Json → Prop where
  | null :
    Distinct .null
  | bool {value} :
    Distinct (.bool value)
  | int {value} :
    Distinct (.int value)
  | float {bits} :
    Distinct (.float bits)
  | str {text} :
    Distinct (.str text)
  | arr {items : List Json} :
    (∀ item ∈ items, Distinct item) →
    Distinct (.arr items)
  | obj {fields : JsonObject} :
    (fields.map fun field => nfc field.1).Nodup →
    (∀ field ∈ fields, Distinct field.2) →
    Distinct (.obj fields)

mutual

/-- The value with its strings and keys in normal form. -/
def normal : Json → Json
  | .str text => .str (nfc text)
  | .arr items => .arr (normalItems items)
  | .obj fields => .obj (normalFields fields)
  | value => value

def normalItems : List Json → List Json
  | [] => []
  | item :: items => normal item :: normalItems items

def normalFields : JsonObject → JsonObject
  | [] => []
  | (key, value) :: fields => (nfc key, normal value) :: normalFields fields

end

/-- `object[key] = value`, where keys with one normal form are one key. -/
def setMerged (key : String) (value : Json) : JsonObject → JsonObject
  | [] => [(key, value)]
  | (k, v) :: fields =>
    if nfc key = nfc k then (k, value) :: fields else (k, v) :: setMerged key value fields

mutual

/-- The value that is left when keys are merged: one member for the keys with one normal form. -/
def merged : Json → Json
  | .arr items => .arr (mergedItems items)
  | .obj fields => .obj (mergedFields [] fields)
  | value => value

def mergedItems : List Json → List Json
  | [] => []
  | item :: items => merged item :: mergedItems items

def mergedFields (object : JsonObject) : JsonObject → JsonObject
  | [] => object
  | (key, value) :: fields => mergedFields (setMerged nfc key (merged value) object) fields

end

variable {nfc}

lemma normalItems_map (items : List Json) : normalItems nfc items = items.map (normal nfc) := by
  induction items with
  | nil => rfl
  | cons item items ih =>
    show normal nfc item :: normalItems nfc items = _
    rw [ih, List.map_cons]

lemma normal_arr (items : List Json) : normal nfc (.arr items) = .arr (items.map (normal nfc)) :=
  congrArg Json.arr (normalItems_map items)

lemma normalFields_cons (field : String × Json) (fields : JsonObject) :
    normalFields nfc (field :: fields) = (nfc field.1, normal nfc field.2) :: normalFields nfc fields :=
  rfl

lemma normalFields_map (fields : JsonObject) :
    normalFields nfc fields = fields.map fun field => (nfc field.1, normal nfc field.2) := by
  induction fields with
  | nil => rfl
  | cons field fields ih => rw [normalFields_cons, ih, List.map_cons]

lemma normal_obj (fields : JsonObject) : normal nfc (.obj fields) =
    .obj (fields.map fun field => (nfc field.1, normal nfc field.2)) :=
  congrArg Json.obj (normalFields_map fields)

lemma mergedItems_map (items : List Json) : mergedItems nfc items = items.map (merged nfc) := by
  induction items with
  | nil => rfl
  | cons item items ih =>
    show merged nfc item :: mergedItems nfc items = _
    rw [ih, List.map_cons]

lemma merged_arr (items : List Json) : merged nfc (.arr items) = .arr (items.map (merged nfc)) :=
  congrArg Json.arr (mergedItems_map items)

lemma merged_obj (fields : JsonObject) : merged nfc (.obj fields) = .obj (mergedFields nfc [] fields) :=
  rfl

lemma mergedFields_cons (field : String × Json) (object fields : JsonObject) :
    mergedFields nfc object (field :: fields) =
      mergedFields nfc (setMerged nfc field.1 (merged nfc field.2) object) fields := rfl

lemma setMerged_cons (key : String) (value : Json) (field : String × Json) (object : JsonObject) :
    setMerged nfc key value (field :: object) =
      if nfc key = nfc field.1 then (field.1, value) :: object
      else field :: setMerged nfc key value object := rfl

lemma normal_setMerged (key : String) (value : Json) (object : JsonObject) :
    normalFields nfc (setMerged nfc key value object) =
      (normalFields nfc object).set (nfc key) (normal nfc value) := by
  induction object with
  | nil => rfl
  | cons field object ih =>
    rw [setMerged_cons, normalFields_cons, JsonObject.set]
    split
    · rw [normalFields_cons]
    · rw [normalFields_cons, ih]

/-- The members after a key was set: the ones before, and the new one. -/
lemma mem_setMerged {key : String} {value : Json} {object : JsonObject} {field : String × Json}
    (mem : field ∈ setMerged nfc key value object) :
    field.2 = value ∧ (field.1 = key ∨ ∃ old ∈ object, old.1 = field.1) ∨ field ∈ object := by
  induction object with
  | nil =>
    cases List.mem_singleton.mp mem
    exact .inl ⟨rfl, .inl rfl⟩
  | cons head object ih =>
    rw [setMerged_cons] at mem
    split at mem
    · cases mem with
      | head => exact .inl ⟨rfl, .inr ⟨head, .head _, rfl⟩⟩
      | tail _ mem => exact .inr (.tail _ mem)
    · cases mem with
      | head => exact .inr (.head _)
      | tail _ mem =>
        obtain ⟨value, key | ⟨old, mem, key⟩⟩ | mem := ih mem
        · exact .inl ⟨value, .inl key⟩
        · exact .inl ⟨value, .inr ⟨old, .tail _ mem, key⟩⟩
        · exact .inr (.tail _ mem)

/-- The normal forms of the keys after a key was set. -/
lemma keys_setMerged (key : String) (value : Json) (object : JsonObject) :
    ((setMerged nfc key value object).map fun field => nfc field.1) =
      if nfc key ∈ object.map fun field => nfc field.1 then object.map fun field => nfc field.1
      else (object.map fun field => nfc field.1) ++ [nfc key] := by
  induction object with
  | nil => rfl
  | cons head object ih =>
    rw [setMerged_cons, List.map_cons]
    by_cases same : nfc key = nfc head.1
    · rw [if_pos same, if_pos (by rw [same]; exact .head _), List.map_cons]
    · rw [if_neg same, List.map_cons, ih]
      by_cases mem : nfc key ∈ object.map fun field => nfc field.1
      · rw [if_pos mem, if_pos (.tail _ mem)]
      · rw [if_neg mem, if_neg (by simp only [List.mem_cons, same, mem, or_self, not_false_eq_true])]
        rfl

/-- Where the members come from that are left when keys are merged. -/
lemma mem_mergedFields {fields object : JsonObject} {field : String × Json}
    (mem : field ∈ mergedFields nfc object fields) :
    (∃ old ∈ object ++ fields, old.1 = field.1) ∧
      ((∃ old ∈ object, old.2 = field.2) ∨ ∃ old ∈ fields, field.2 = merged nfc old.2) := by
  induction fields generalizing object with
  | nil =>
    exact ⟨⟨field, List.mem_append_left _ mem, rfl⟩, .inl ⟨field, mem, rfl⟩⟩
  | cons head fields ih =>
    rw [mergedFields_cons] at mem
    obtain ⟨⟨old, among, key⟩, value⟩ := ih mem
    constructor
    · obtain among | among := List.mem_append.mp among
      · obtain ⟨-, new | ⟨older, among, same⟩⟩ | among := mem_setMerged among
        · exact ⟨head, List.mem_append_right _ (.head _), new.symm.trans key⟩
        · exact ⟨older, List.mem_append_left _ among, same.trans key⟩
        · exact ⟨old, List.mem_append_left _ among, key⟩
      · exact ⟨old, List.mem_append_right _ (.tail _ among), key⟩
    · obtain ⟨old, among, same⟩ | ⟨old, among, same⟩ := value
      · obtain ⟨new, -⟩ | among := mem_setMerged among
        · exact .inr ⟨head, .head _, same.symm.trans new⟩
        · exact .inl ⟨old, among, same⟩
      · exact .inr ⟨old, .tail _ among, same⟩

lemma mergedFields_nodup {fields object : JsonObject}
    (distinct : (object.map fun field => nfc field.1).Nodup) :
    ((mergedFields nfc object fields).map fun field => nfc field.1).Nodup := by
  induction fields generalizing object with
  | nil => exact distinct
  | cons head fields ih =>
    rw [mergedFields_cons]
    apply ih
    rw [keys_setMerged]
    split
    · exact distinct
    · next fresh =>
      refine List.nodup_append.mpr ⟨distinct, List.nodup_singleton _, ?_⟩
      rintro key mem _ last rfl
      rw [List.mem_singleton.mp last] at mem
      exact fresh mem

lemma merged_distinct (value : Json) : Distinct nfc (merged nfc value) := by
  induction value using Json.ind with
  | null => exact .null
  | bool => exact .bool
  | int => exact .int
  | float => exact .float
  | str => exact .str
  | arr items ih =>
    rw [merged_arr]
    refine .arr fun item' mem' => ?_
    obtain ⟨item, mem, rfl⟩ := List.mem_map.mp mem'
    exact ih item mem
  | obj fields ih =>
    rw [merged_obj]
    refine .obj (mergedFields_nodup List.nodup_nil) fun field mem => ?_
    obtain ⟨-, ⟨old, none, -⟩ | ⟨old, mem, value⟩⟩ := mem_mergedFields mem
    · cases none
    · rw [value]
      exact ih old mem

lemma merged_valid {value : Json} (valid : value.Valid) : (merged nfc value).Valid := by
  induction valid with
  | null => exact .null
  | bool => exact .bool
  | int => exact .int
  | float finite => exact .float finite
  | str => exact .str
  | arr _ ih =>
    rw [merged_arr]
    refine .arr fun item' mem' => ?_
    obtain ⟨item, mem, rfl⟩ := List.mem_map.mp mem'
    exact ih item mem
  | @obj fields _ _ ih =>
    rw [merged_obj]
    refine .obj ?_ fun field mem => ?_
    · have distinct : ((mergedFields nfc [] fields).map fun field => nfc field.1).Nodup :=
        mergedFields_nodup List.nodup_nil
      have keys : ((mergedFields nfc [] fields).map fun field => nfc field.1) =
          ((mergedFields nfc [] fields).map Prod.fst).map nfc := by rw [List.map_map]; rfl
      rw [keys] at distinct
      exact distinct.of_map nfc
    · obtain ⟨-, ⟨old, none, -⟩ | ⟨old, mem, value⟩⟩ := mem_mergedFields mem
      · cases none
      · rw [value]
        exact ih old mem

/-- A fresh key is added at the end. -/
lemma setMerged_fresh {key : String} {value : Json} {object : JsonObject}
    (fresh : nfc key ∉ object.map fun field => nfc field.1) :
    setMerged nfc key value object = object ++ [(key, value)] := by
  induction object with
  | nil => rfl
  | cons head object ih =>
    rw [List.map_cons, List.mem_cons, not_or] at fresh
    rw [setMerged_cons, if_neg fresh.1, ih fresh.2, List.cons_append]

/-- Where no keys are merged, everything is left. -/
lemma merged_of_distinct {value : Json} (distinct : Distinct nfc value) :
    merged nfc value = value := by
  induction distinct with
  | null | bool | int | float | str => rfl
  | @arr items _ ih =>
    rw [merged_arr, List.map_congr_left ih, List.map_id']
  | @obj fields distinct _ ih =>
    have all : ∀ {fields object : JsonObject},
        ((object ++ fields).map fun field => nfc field.1).Nodup →
        (∀ field ∈ fields, merged nfc field.2 = field.2) →
          mergedFields nfc object fields = object ++ fields := by
      intro fields
      induction fields with
      | nil =>
        intro object _ _
        rw [mergedFields, List.append_nil]
      | cons head fields ih =>
        intro object distinct values
        have fresh : nfc head.1 ∉ object.map fun field => nfc field.1 := by
          rw [List.map_append] at distinct
          intro mem
          exact (List.nodup_append.mp distinct).2.2 _ mem _ (.head _) rfl
        rw [mergedFields_cons, values head (.head _), setMerged_fresh fresh]
        rw [List.append_cons] at distinct
        rw [List.append_cons object head fields]
        exact ih distinct fun field mem => values field (.tail _ mem)
    rw [merged_obj, @all fields [] distinct ih, List.nil_append]

/-- The canonical form of a value: what is left when keys are merged, in normal form. -/
lemma canonical_merged {value : Json} (valid : value.Valid) :
    canonicalJsonValue nfc value = .ok (normal nfc (merged nfc value)) := by
  induction valid with
  | null | bool | int | str => rfl
  | float finite =>
    rw [canonicalJsonValue, if_pos finite]
    rfl
  | @arr items _ ih =>
    have all : ∀ {items : List Json},
        (∀ item ∈ items, canonicalJsonValue nfc item = .ok (normal nfc (merged nfc item))) →
          canonicalItems nfc items = .ok (normalItems nfc (mergedItems nfc items)) := by
      intro items ih
      induction items with
      | nil => rfl
      | cons item items rest =>
        rw [canonicalItems, ih item (.head _), rest fun item mem => ih item (.tail _ mem)]
        rfl
    rw [canonicalJsonValue, all ih]
    rfl
  | @obj fields _ _ ih =>
    have all : ∀ {fields : JsonObject} (object : JsonObject),
        (∀ field ∈ fields, canonicalJsonValue nfc field.2 = .ok (normal nfc (merged nfc field.2))) →
          canonicalFields nfc (normalFields nfc object) fields =
            .ok (normalFields nfc (mergedFields nfc object fields)) := by
      intro fields
      induction fields with
      | nil =>
        intro object _
        rfl
      | cons head fields rest =>
        intro object ih
        rw [canonicalFields, ih head (.head _), mergedFields,
          ← rest _ fun field mem => ih field (.tail _ mem), normal_setMerged]
        rfl
    have run := all [] ih
    rw [normalFields] at run
    rw [canonicalJsonValue, run]
    rfl

/-- The normal form of a value with its members by key. -/
lemma sorted_normal_arr (items : List Json) : (normal nfc (.arr items)).sorted =
    .arr (items.map fun item => (normal nfc item).sorted) := by
  rw [normal_arr, sorted_arr, List.map_map]
  rfl

lemma sorted_normal_obj (fields : JsonObject) : (normal nfc (.obj fields)).sorted =
    .obj ((fields.map fun field => (nfc field.1, (normal nfc field.2).sorted)).mergeSort memberLe) := by
  rw [normal_obj, sorted_obj, List.map_map]
  rfl

lemma normal_valid {value : Json} (valid : value.Valid) (distinct : Distinct nfc value) :
    (normal nfc value).Valid := by
  induction distinct with
  | null => exact .null
  | bool => exact .bool
  | int => exact .int
  | float =>
    cases valid with
    | float finite => exact .float finite
  | str => exact .str
  | arr _ ih =>
    cases valid with
    | arr valid =>
      rw [normal_arr]
      refine .arr fun item' mem' => ?_
      obtain ⟨item, mem, rfl⟩ := List.mem_map.mp mem'
      exact ih item mem (valid item mem)
  | obj distinct _ ih =>
    cases valid with
    | obj _ valid =>
      rw [normal_obj]
      refine .obj ?_ fun field' mem' => ?_
      · rw [List.map_map]
        exact distinct
      · obtain ⟨field, mem, rfl⟩ := List.mem_map.mp mem'
        exact ih field mem (valid field mem)

/-- Lists with the same images in another order: the second can be put in the order of the first. -/
lemma perm_of_map_perm {α β : Type*} (f : α → β) {xs ys : List α}
    (perm : (xs.map f).Perm (ys.map f)) : ∃ zs : List α, zs.Perm ys ∧ xs.map f = zs.map f := by
  induction xs generalizing ys with
  | nil =>
    rw [List.map_nil, List.nil_perm, List.map_eq_nil_iff] at perm
    exact ⟨[], by rw [perm], rfl⟩
  | cons x xs ih =>
    obtain ⟨y, mem, image⟩ := List.mem_map.mp (perm.mem_iff.mp (List.mem_cons_self ..))
    obtain ⟨as, bs, rfl⟩ := List.append_of_mem mem
    have moved : (as ++ y :: bs).Perm (y :: (as ++ bs)) := List.perm_middle
    have rest := perm.trans (moved.map f)
    rw [List.map_cons, List.map_cons, image] at rest
    obtain ⟨zs, perm, images⟩ := ih rest.cons_inv
    refine ⟨y :: zs, (perm.cons y).trans moved.symm, ?_⟩
    rw [List.map_cons, List.map_cons, image, images]

/-- Values with one normal form are equal. -/
lemma equal_of_sorted {x y : Json} (same : (normal nfc x).sorted = (normal nfc y).sorted) :
    Equal nfc x y := by
  induction x using Json.ind generalizing y with
  | null => cases y <;> first | exact .null | cases same
  | bool => cases y <;> first | (cases same; exact .bool) | cases same
  | int => cases y <;> first | (cases same; exact .int) | cases same
  | float => cases y <;> first | (cases same; exact .float) | cases same
  | str =>
    cases y with
    | str => exact .str (Json.str.inj same)
    | _ => cases same
  | arr xs ih =>
    rw [sorted_normal_arr] at same
    cases y with
    | arr ys =>
      rw [sorted_normal_arr] at same
      have items := Json.arr.inj same
      refine .arr (by simpa using congrArg List.length items) fun i x y hx hy => ?_
      refine ih x (List.mem_of_getElem? hx) ?_
      have item := congrArg (fun items : List Json => items[i]?) items
      simp only [List.getElem?_map, hx, hy, Option.map_some] at item
      exact Option.some.inj item
    | _ => cases same
  | obj xs ih =>
    rw [sorted_normal_obj] at same
    cases y with
    | obj ys =>
      rw [sorted_normal_obj] at same
      -- sorting forgets the order of the members only
      have perm : (xs.map fun field => (nfc field.1, (normal nfc field.2).sorted)).Perm
          (ys.map fun field => (nfc field.1, (normal nfc field.2).sorted)) := by
        refine (List.mergeSort_perm _ memberLe).symm.trans ?_
        rw [Json.obj.inj same]
        exact List.mergeSort_perm _ memberLe
      obtain ⟨zs, perm, members⟩ := perm_of_map_perm _ perm
      have matched : ∀ (i : Nat) x z, xs[i]? = some x → zs[i]? = some z →
          nfc x.1 = nfc z.1 ∧ (normal nfc x.2).sorted = (normal nfc z.2).sorted := by
        intro i x z hx hz
        have member := congrArg (fun members : JsonObject => members[i]?) members
        simp only [List.getElem?_map, hx, hz, Option.map_some] at member
        exact Prod.mk.inj (Option.some.inj member)
      refine .obj perm (by simpa using congrArg List.length members) ?_ ?_
      · exact fun i x z hx hz => (matched i x z hx hz).1
      · exact fun i x z hx hz => ih x (List.mem_of_getElem? hx) (matched i x z hx hz).2
    | _ => cases same

/-- What matched members have in common, the lists of members have in common. -/
lemma map_matched {α β : Type*} {f : α → β} {xs zs : List α} (length : xs.length = zs.length)
    (matched : ∀ (i : Nat) x z, xs[i]? = some x → zs[i]? = some z → f x = f z) :
    xs.map f = zs.map f := by
  refine List.ext_getElem (by rw [List.length_map, List.length_map, length]) fun i hx hz => ?_
  rw [List.length_map] at hx hz
  rw [List.getElem_map, List.getElem_map]
  exact matched i _ _ (List.getElem?_eq_getElem hx) (List.getElem?_eq_getElem hz)

/-- Equal values merge keys both or neither. -/
lemma Equal.distinct {x y : Json} (equal : Equal nfc x y) (distinct : Distinct nfc y) :
    Distinct nfc x := by
  induction equal with
  | null => exact .null
  | bool => exact .bool
  | int => exact .int
  | float => exact .float
  | str => exact .str
  | @arr xs ys length _ ih =>
    cases distinct with
    | arr distinct =>
      refine .arr fun x mem => ?_
      obtain ⟨i, hx⟩ := List.getElem?_of_mem mem
      have bound : i < ys.length := length ▸ (List.getElem?_eq_some_iff.mp hx).1
      exact ih i x ys[i] hx (List.getElem?_eq_getElem bound) (distinct _ (List.getElem_mem bound))
  | @obj xs zs ys perm length keys _ ih =>
    cases distinct with
    | obj nodup distinct =>
      refine .obj ?_ fun x mem => ?_
      · rw [map_matched (f := fun field : String × Json => nfc field.1) length keys,
          (perm.map _).nodup_iff]
        exact nodup
      · obtain ⟨i, hx⟩ := List.getElem?_of_mem mem
        have bound : i < zs.length := length ▸ (List.getElem?_eq_some_iff.mp hx).1
        exact ih i x zs[i] hx (List.getElem?_eq_getElem bound)
          (distinct _ (perm.mem_iff.mp (List.getElem_mem bound)))

/-- Equal values in which no keys are merged have one normal form. -/
lemma Equal.sorted {x y : Json} (equal : Equal nfc x y) (distinct : Distinct nfc y) :
    (normal nfc x).sorted = (normal nfc y).sorted := by
  induction equal with
  | null | bool | int | float => rfl
  | str same => exact congrArg Json.str same
  | @arr xs ys length _ ih =>
    cases distinct with
    | arr distinct =>
      rw [sorted_normal_arr, sorted_normal_arr]
      refine congrArg Json.arr (map_matched length fun i x y hx hy => ?_)
      exact ih i x y hx hy (distinct y (List.mem_of_getElem? hy))
  | @obj xs zs ys perm length keys _ ih =>
    cases distinct with
    | obj nodup distinct =>
      have members : (xs.map fun field => (nfc field.1, (normal nfc field.2).sorted)) =
          zs.map fun field => (nfc field.1, (normal nfc field.2).sorted) := by
        refine map_matched length fun i x z hx hz => ?_
        have value := ih i x z hx hz (distinct z (perm.mem_iff.mp (List.mem_of_getElem? hz)))
        rw [keys i x z hx hz, value]
      rw [sorted_normal_obj, sorted_normal_obj, members]
      refine congrArg Json.obj (sort_members (perm.map _) ?_)
      rw [List.map_map, (perm.map _).nodup_iff]
      exact nodup

end Values

namespace RunIdentityService

variable {service : RunIdentityService}

/-- The payloads are equal up to normal forms and the order of members, without the reserved members. -/
structure SamePayload (service : RunIdentityService) (r r' : ChatRequest) : Prop where
  message : service.nfc r.message = service.nfc r'.message
  prompt : r.systemPrompt.map service.nfc = r'.systemPrompt.map service.nfc
  metadata : Equal service.nfc (.obj (service.sanitizedMetadata r)) (.obj (service.sanitizedMetadata r'))

/-- No two keys of an object in the metadata, reserved members aside, are one key in normal form. -/
def KeysDistinct (service : RunIdentityService) (r : ChatRequest) : Prop :=
  Distinct service.nfc (.obj (service.sanitizedMetadata r))

/-- No two texts have this digest. -/
def IdealAt (service : RunIdentityService) (digest : Except RequestError String) : Prop :=
  ∀ text text', .ok (service.sha256 text) = digest → .ok (service.sha256 text') = digest → text = text'

/-- What is hashed for a request. -/
def canonicalRequest (service : RunIdentityService) (r : ChatRequest) : Json :=
  .obj
    [("version", .int service.requestHashVersion),
     ("message", .str (service.nfc r.message)),
     ("system_prompt", match r.systemPrompt with
      | some prompt => .str (service.nfc prompt)
      | none => .null),
     ("metadata", normal service.nfc (merged service.nfc (.obj (service.sanitizedMetadata r))))]

lemma sanitized_valid {r : ChatRequest} (valid : (Json.obj r.metadata).Valid) :
    (Json.obj (service.sanitizedMetadata r)).Valid := by
  cases valid with
  | obj nodup valid =>
    have kept : List.Sublist (service.sanitizedMetadata r) r.metadata := List.filter_sublist
    exact .obj (nodup.sublist (kept.map _)) fun field mem => valid field (kept.mem mem)

lemma requestHash_eq {r : ChatRequest} (valid : (Json.obj r.metadata).Valid) :
    service.requestHash r = .ok (service.sha256 (requestHashDomain ++
      (service.canonicalRequest r).dumps service.floatRepr)) := by
  rw [requestHash, canonical_merged (sanitized_valid valid)]
  rfl

lemma canonicalRequest_valid {r : ChatRequest} (valid : (Json.obj r.metadata).Valid) :
    (service.canonicalRequest r).Valid := by
  have metadata : (normal service.nfc
      (merged service.nfc (.obj (service.sanitizedMetadata r)))).Valid :=
    normal_valid (merged_valid (sanitized_valid valid)) (merged_distinct _)
  have keys : ["version", "message", "system_prompt", "metadata"].Nodup := by decide
  refine .obj keys fun field mem => ?_
  simp only [List.mem_cons, List.not_mem_nil, or_false] at mem
  obtain rfl | rfl | rfl | rfl := mem
  · exact .int
  · exact .str
  · dsimp only
    split
    · exact .str
    · exact .null
  · exact metadata

/-- Objects with one sorted form have members with one sorted form. -/
lemma sorted_member {xs ys : JsonObject} (same : (Json.obj xs).sorted = (Json.obj ys).sorted)
    {key : String} {value : Json} (mem : (key, value) ∈ xs) :
    ∃ value', (key, value') ∈ ys ∧ value.sorted = value'.sorted := by
  rw [sorted_obj, sorted_obj] at same
  have perm : (xs.map fun field => (field.1, field.2.sorted)).Perm
      (ys.map fun field => (field.1, field.2.sorted)) := by
    refine (List.mergeSort_perm _ memberLe).symm.trans ?_
    rw [Json.obj.inj same]
    exact List.mergeSort_perm _ memberLe
  have here := perm.mem_iff.mp (List.mem_map_of_mem mem)
  obtain ⟨⟨key', value'⟩, mem', found⟩ := List.mem_map.mp here
  obtain ⟨rfl, sorted⟩ := Prod.mk.inj found
  exact ⟨value', mem', sorted.symm⟩

/-- The parts of what is hashed. -/
lemma canonicalRequest_sorted {r r' : ChatRequest} :
    (service.canonicalRequest r).sorted = (service.canonicalRequest r').sorted ↔
      service.nfc r.message = service.nfc r'.message ∧
      r.systemPrompt.map service.nfc = r'.systemPrompt.map service.nfc ∧
      (normal service.nfc (merged service.nfc (.obj (service.sanitizedMetadata r)))).sorted =
        (normal service.nfc (merged service.nfc (.obj (service.sanitizedMetadata r')))).sorted := by
  constructor
  · intro same
    refine ⟨?_, ?_, ?_⟩
    · obtain ⟨value, mem, message⟩ := sorted_member same (.tail _ (.head _))
      simp only [List.mem_cons, Prod.mk.injEq, String.reduceEq, false_and, true_and, false_or,
        List.not_mem_nil, or_false] at mem
      subst mem
      exact Json.str.inj message
    · obtain ⟨value, mem, prompt⟩ := sorted_member same (.tail _ (.tail _ (.head _)))
      simp only [List.mem_cons, Prod.mk.injEq, String.reduceEq, false_and, true_and, false_or,
        List.not_mem_nil, or_false] at mem
      subst mem
      cases given : r.systemPrompt with
      | none =>
        cases given' : r'.systemPrompt with
        | none => rfl
        | some => simp [given, given', Json.sorted] at prompt
      | some =>
        cases given' : r'.systemPrompt with
        | none => simp [given, given', Json.sorted] at prompt
        | some => simpa [given, given', Json.sorted] using prompt
    · obtain ⟨value, mem, metadata⟩ := sorted_member same (.tail _ (.tail _ (.tail _ (.head _))))
      simp only [List.mem_cons, Prod.mk.injEq, String.reduceEq, false_and, true_and, false_or,
        List.not_mem_nil, or_false] at mem
      subst mem
      exact metadata
  · rintro ⟨message, prompt, metadata⟩
    have prompt : (match r.systemPrompt with
        | some prompt => Json.str (service.nfc prompt)
        | none => .null) = match r'.systemPrompt with
        | some prompt => .str (service.nfc prompt)
        | none => .null := by
      cases given : r.systemPrompt <;> cases given' : r'.systemPrompt <;>
        simp_all
    rw [canonicalRequest, canonicalRequest, sorted_obj, sorted_obj]
    simp only [List.map_cons, List.map_nil, message, prompt, metadata]

/-- The hash is the same exactly for what is hashed in one order. -/
lemma requestHash_iff {floats : FloatCodec} (codec : service.floatRepr = floats.repr)
    {r r' : ChatRequest} (valid : (Json.obj r.metadata).Valid) (valid' : (Json.obj r'.metadata).Valid)
    (ideal : service.IdealAt (service.requestHash r)) :
    service.requestHash r = service.requestHash r' ↔
      (service.canonicalRequest r).sorted = (service.canonicalRequest r').sorted := by
  rw [requestHash_eq valid] at ideal ⊢
  rw [requestHash_eq valid', codec]
  constructor
  · intro same
    rw [codec] at ideal
    have texts := ideal _ _ rfl same.symm
    refine dumps_injective floats (canonicalRequest_valid valid) (canonicalRequest_valid valid') ?_
    rwa [← String.toList_inj, String.toList_append, String.toList_append, List.append_cancel_left_eq,
      String.toList_inj] at texts
  · intro same
    rw [dumps_sorted floats, dumps_sorted floats, same]

/-- The request with the metadata that is left when keys are merged. -/
def mergedRequest (service : RunIdentityService) (r : ChatRequest) : ChatRequest :=
  { r with metadata := mergedFields service.nfc [] (service.sanitizedMetadata r) }

lemma sanitized_mergedRequest (r : ChatRequest) : service.sanitizedMetadata (service.mergedRequest r) =
    mergedFields service.nfc [] (service.sanitizedMetadata r) := by
  refine List.filter_eq_self.mpr fun (key, value) mem => ?_
  obtain ⟨⟨⟨old, _⟩, among, rfl⟩, -⟩ := mem_mergedFields mem
  rw [List.nil_append] at among
  exact (List.mem_filter.mp among).2

/-- The hash tells a request apart from every other one in which no keys are merged exactly when none of
    its own are. -/
theorem request_hash_canonical_iff {floats : FloatCodec} (codec : service.floatRepr = floats.repr)
    (r : ChatRequest) (valid : (Json.obj r.metadata).Valid)
    (ideal : service.IdealAt (service.requestHash r)) :
    (∀ r' : ChatRequest, (Json.obj r'.metadata).Valid → service.KeysDistinct r' →
      (service.requestHash r = service.requestHash r' ↔ service.SamePayload r r')) ↔
    service.KeysDistinct r := by
  constructor
  · intro canonical
    -- the request that is left when the keys are merged has the same hash
    have other : merged service.nfc (.obj (service.sanitizedMetadata r)) =
        .obj (service.sanitizedMetadata (service.mergedRequest r)) := by
      rw [sanitized_mergedRequest, merged_obj]
    have distinct : service.KeysDistinct (service.mergedRequest r) := by
      rw [KeysDistinct, ← other]
      exact merged_distinct _
    have valid' : (Json.obj (service.mergedRequest r).metadata).Valid := by
      have left : (merged service.nfc (.obj (service.sanitizedMetadata r))).Valid :=
        merged_valid (sanitized_valid valid)
      rwa [merged_obj] at left
    have same : service.requestHash r = service.requestHash (service.mergedRequest r) := by
      refine (requestHash_iff codec valid valid' ideal).mpr (canonicalRequest_sorted.mpr ⟨rfl, rfl, ?_⟩)
      rw [← other, merged_of_distinct (merged_distinct _)]
    exact ((canonical _ valid' distinct).mp same).metadata.distinct distinct
  · intro distinct r' valid' distinct'
    rw [requestHash_iff codec valid valid' ideal, canonicalRequest_sorted, merged_of_distinct distinct,
      merged_of_distinct distinct']
    constructor
    · rintro ⟨message, prompt, metadata⟩
      exact ⟨message, prompt, equal_of_sorted metadata⟩
    · intro same
      exact ⟨same.message, same.prompt, same.metadata.sorted distinct'⟩

section Samples

/-- What is hashed for the requests of the examples. -/
def sampleCanonical : Json :=
  .obj [("version", .int 1), ("message", .str "hello"), ("system_prompt", .null),
    ("metadata", .obj [("é", .int 2)])]

/-- A service for examples. It knows the normal form of one text, and one digest. -/
def sampleService : RunIdentityService where
  checkpointNamespace := "execution-state-v1"
  stateSchemaVersion := 1
  requestHashVersion := 1
  activeKeyId := "primary"
  nfc text := if text = "e\u0301" then "é" else text
  lower text := String.ofList (text.toList.map Char.toLower)
  floatRepr := sampleFloats.repr
  sha256 text :=
    if text = requestHashDomain ++ sampleCanonical.dumps sampleFloats.repr then
      "7cdd113b6b4d0a824bbe82550f5f2071eb69431ed44cac1671dd3ece06e760fc"
    else String.ofList (List.replicate 64 '0')
  namespace_length := by decide +kernel
  schema_version := State.firstVersion
  hash_version := State.firstHashVersion
  key_length := by decide +kernel
  sha256_length := by
    intro text
    split
    · decide +kernel
    · rw [String.length_ofList, List.length_replicate]

def sampleHello (metadata : JsonObject) : ChatRequest where
  message := "hello"
  metadata := metadata
  message_length := by decide +kernel
  thread_valid _ none := by cases none
  conversation_valid _ none := by cases none
  run_valid _ none := by cases none
  ids_match _ none := by cases none
  token_valid _ none := by cases none
  resume_token := rfl

lemma sampleService_keeps {key : String} {value : Json} {fields : JsonObject}
    (other : sampleService.lower key ∉ reservedMetadataKeys) :
    sampleService.sanitizedMetadata (sampleHello ((key, value) :: fields)) =
      (key, value) :: sampleService.sanitizedMetadata (sampleHello fields) :=
  List.filter_cons_of_pos (by simpa using other)

lemma sampleService_drops {key : String} {value : Json} {fields : JsonObject}
    (reserved : sampleService.lower key ∈ reservedMetadataKeys) :
    sampleService.sanitizedMetadata (sampleHello ((key, value) :: fields)) =
      sampleService.sanitizedMetadata (sampleHello fields) :=
  List.filter_cons_of_neg (by simpa using reserved)

lemma canonical_sample {metadata : JsonObject}
    (left : normal sampleService.nfc (merged sampleService.nfc
      (.obj (sampleService.sanitizedMetadata (sampleHello metadata)))) = .obj [("é", .int 2)]) :
    sampleService.canonicalRequest (sampleHello metadata) = sampleCanonical := by
  have hello : sampleService.nfc "hello" = "hello" := rfl
  rw [canonicalRequest, left]
  show Json.obj [_, ("message", .str (sampleService.nfc "hello")), _, _] = _
  rw [hello]
  rfl

lemma ideal_sample {metadata : JsonObject} (valid : (Json.obj metadata).Valid)
    (canonical : sampleService.canonicalRequest (sampleHello metadata) = sampleCanonical) :
    sampleService.IdealAt (sampleService.requestHash (sampleHello metadata)) := by
  have known : ∀ text, sampleService.sha256 text = sampleService.sha256 (requestHashDomain ++
      sampleCanonical.dumps sampleFloats.repr) →
        text = requestHashDomain ++ sampleCanonical.dumps sampleFloats.repr := by
    intro text same
    by_contra other
    have zeros : sampleService.sha256 text = String.ofList (List.replicate 64 '0') := if_neg other
    have digest : sampleService.sha256 (requestHashDomain ++
        sampleCanonical.dumps sampleFloats.repr) =
          "7cdd113b6b4d0a824bbe82550f5f2071eb69431ed44cac1671dd3ece06e760fc" := if_pos rfl
    rw [zeros, digest] at same
    exact absurd same (by decide +kernel)
  rw [requestHash_eq (r := sampleHello metadata) valid, canonical]
  intro text text' h h'
  rw [known text (Except.ok.inj h), known text' (Except.ok.inj h')]

lemma nfc_composed : sampleService.nfc "é" = "é" := rfl

lemma nfc_combined : sampleService.nfc "e\u0301" = "é" := rfl

lemma keeps_composed : sampleService.lower "é" ∉ reservedMetadataKeys := by decide

lemma keeps_combined : sampleService.lower "e\u0301" ∉ reservedMetadataKeys := by decide

lemma sanitized_composed :
    sampleService.sanitizedMetadata (sampleHello [("é", .int 2)]) = [("é", .int 2)] := by
  rw [sampleService_keeps keeps_composed]
  rfl

lemma canonical_composed :
    sampleService.canonicalRequest (sampleHello [("é", .int 2)]) = sampleCanonical := by
  refine canonical_sample ?_
  rw [sanitized_composed]
  rfl

/-- Two keys that are one key in normal form: the hash is the one of the request without the first. -/
theorem merged_keys_collide : ¬ ∀ r r' : ChatRequest, (Json.obj r.metadata).Valid →
    (Json.obj r'.metadata).Valid → sampleService.IdealAt (sampleService.requestHash r) →
    (sampleService.requestHash r = sampleService.requestHash r' ↔ sampleService.SamePayload r r') := by
  intro canonical
  have sanitized : sampleService.sanitizedMetadata
      (sampleHello [("é", .int 1), ("e\u0301", .int 2)]) = [("é", .int 1), ("e\u0301", .int 2)] := by
    rw [sampleService_keeps keeps_composed, sampleService_keeps keeps_combined]
    rfl
  have both : sampleService.canonicalRequest (sampleHello [("é", .int 1), ("e\u0301", .int 2)]) =
      sampleCanonical := by
    refine canonical_sample ?_
    rw [sanitized]
    rfl
  have valid : (Json.obj [("é", .int 1), ("e\u0301", .int 2)]).Valid :=
    .obj (by decide +kernel) (by simp [Json.Valid.int])
  have valid' : (Json.obj [("é", .int 2)]).Valid := .obj (by decide +kernel) (by simp [Json.Valid.int])
  have same : sampleService.requestHash (sampleHello [("é", .int 1), ("e\u0301", .int 2)]) =
      sampleService.requestHash (sampleHello [("é", .int 2)]) := by
    rw [requestHash_eq (r := sampleHello _) valid, requestHash_eq (r := sampleHello _) valid', both,
      canonical_composed]
  have payload := ((canonical _ (sampleHello [("é", .int 2)]) valid valid'
    (ideal_sample valid both)).mp same).metadata
  rw [sanitized, sanitized_composed] at payload
  cases payload with
  | obj perm length => cases length.trans perm.length_eq

theorem request_hash_canonical_sample :
    sampleService.requestHash (sampleHello [("é", .int 2)]) =
      sampleService.requestHash (sampleHello [("Run_Id", .str "1"), ("e\u0301", .int 2)]) := by
  have sanitized : sampleService.sanitizedMetadata
      (sampleHello [("Run_Id", .str "1"), ("e\u0301", .int 2)]) = [("e\u0301", .int 2)] := by
    rw [sampleService_drops (by decide +kernel), sampleService_keeps keeps_combined]
    rfl
  have one {key : String} : Distinct sampleService.nfc (.obj [(key, .int 2)]) :=
    .obj (List.nodup_singleton _) (by simp [Distinct.int])
  have distinct : sampleService.KeysDistinct (sampleHello [("é", .int 2)]) := by
    rw [KeysDistinct, sanitized_composed]
    exact one
  have distinct' : sampleService.KeysDistinct
      (sampleHello [("Run_Id", .str "1"), ("e\u0301", .int 2)]) := by
    rw [KeysDistinct, sanitized]
    exact one
  have valid : (Json.obj [("é", .int 2)]).Valid := .obj (by decide +kernel) (by simp [Json.Valid.int])
  have valid' : (Json.obj [("Run_Id", .str "1"), ("e\u0301", .int 2)]).Valid :=
    .obj (by decide +kernel) (by simp [Json.Valid.int, Json.Valid.str])
  have codec : sampleService.floatRepr = sampleFloats.repr := rfl
  refine ((request_hash_canonical_iff codec _ valid
    (ideal_sample valid canonical_composed)).mpr distinct _ valid' distinct').mpr ⟨rfl, rfl, ?_⟩
  rw [sanitized_composed, sanitized]
  refine .obj (.refl _) rfl (fun i x z hx hz => ?_) (fun i x z hx hz => ?_)
  · rw [(List.mem_singleton.mp (List.mem_of_getElem? hx)), List.mem_singleton.mp (List.mem_of_getElem? hz)]
    exact nfc_composed.trans nfc_combined.symm
  · rw [(List.mem_singleton.mp (List.mem_of_getElem? hx)), List.mem_singleton.mp (List.mem_of_getElem? hz)]
    exact .int

end Samples

end RunIdentityService

end AgentRuntime.Orchestration
