import AgentRuntime.Graph.ContextBounds
import AgentRuntime.Lib.Firsts

/-!
# What the context leaves out

`build_context` leaves an item out when its own tags take all that the limits leave, and then stops: what
stands behind an item with a long id is left out as well, also where it would still fit.
-/

namespace AgentRuntime.Graph
open Firsts

/-- source `wrapper_chars` -/
def wrapperChars (item : EvidenceItem) : Int := (openingTag item.evidenceId).length + closingTag.length

/-- source `per_item` -/
def perItem (maxChars : Int) (maxItemChars : Option Int) : Int :=
  max 1 ((maxItemChars.filter (· ≠ 0)).getD (if maxChars = 0 then 1 else maxChars))

/-- The tags of the item leave no room for text. -/
def Crowded (perItem remaining : Int) (item : EvidenceItem) : Prop :=
  min remaining perItem ≤ wrapperChars item

/-- The characters that an item takes when there is room: its text between its tags, up to the limit for an
    item. -/
def demand (perItem : Int) (item : EvidenceItem) : Int :=
  min perItem (wrapperChars item + item.normalizedText.length)

/-- What the demand of the items leaves. -/
def leftover (perItem remaining : Int) (items : List EvidenceItem) : Int :=
  remaining - (items.map (demand perItem)).sum

/-- Behind these items the item is no duplicate, of them or of what was seen. -/
def NewAt (seen : List (String × String)) (before : List EvidenceItem) (item : EvidenceItem) : Prop :=
  contextKey item ∉ seen ∧ contextKey item ∉ before.map contextKey

/-- A loop that begins with these characters and these keys adds nothing for an item that is no duplicate
    only where the characters that remain at its turn leave no room for its text. -/
def OmitsCrowded (perItem remaining : Int) (seen : List (String × String)) (items : List EvidenceItem) :
    Prop :=
  ∀ before item after, items = before ++ item :: after → NewAt seen before item →
    fillContext perItem (before ++ [item]) remaining seen = fillContext perItem before remaining seen →
    Crowded perItem (remaining - contentChars (fillContext perItem before remaining seen)) item

/-- An item without room among these is followed only by items without room. -/
def Unhidden (perItem remaining : Int) (items : List EvidenceItem) : Prop :=
  ∀ before item after, items = before ++ item :: after →
    Crowded perItem (leftover perItem remaining before) item →
    ∀ later ∈ after, Crowded perItem (leftover perItem remaining before) later

section Room

variable {perItem remaining : Int} {item : EvidenceItem} {items : List EvidenceItem}

@[simp] lemma leftover_nil : leftover perItem remaining [] = remaining := Int.sub_zero remaining

@[simp] lemma leftover_cons :
    leftover perItem remaining (item :: items) = leftover perItem (remaining - demand perItem item) items := by
  rw [leftover, leftover, List.map_cons, List.sum_cons]
  omega

/-- The tags are as long as the id, and fifty-six characters longer. -/
lemma wrapperChars_length : wrapperChars item = item.evidenceId.length + 56 := by
  have fixed : openingStart.length + openingEnd.length + closingTag.length = 56 := by decide +kernel
  rw [wrapperChars, openingTag, String.length_append, String.length_append]
  omega

lemma wrapperChars_pos : 0 < wrapperChars item := by
  rw [wrapperChars_length]
  omega

lemma demand_nonneg (positive : 0 < perItem) : 0 ≤ demand perItem item := by
  have tags := @wrapperChars_pos item
  rw [demand]
  omega

lemma leftover_le (positive : 0 < perItem) : leftover perItem remaining items ≤ remaining := by
  induction items generalizing remaining with
  | nil => exact Int.le_of_eq leftover_nil
  | cons item items ih =>
    rw [leftover_cons]
    have nonneg := @demand_nonneg perItem item positive
    have le := @ih (remaining - demand perItem item)
    omega

lemma Crowded.mono {less : Int} (le : less ≤ remaining) (crowded : Crowded perItem remaining item) :
    Crowded perItem less item := by
  rw [Crowded] at crowded ⊢
  omega

lemma crowded_of_spent (spent : remaining ≤ 0) : Crowded perItem remaining item := by
  have tags := @wrapperChars_pos item
  rw [Crowded]
  omega

lemma Unhidden.of_crowded (positive : 0 < perItem) (all : ∀ item ∈ items, Crowded perItem remaining item) :
    Unhidden perItem remaining items := by
  rintro before item after rfl - later mem
  exact (all later (by simp [mem])).mono (leftover_le positive)

/-- The head and the rest. -/
lemma unhidden_cons :
    Unhidden perItem remaining (item :: items) ↔
      (Crowded perItem remaining item → ∀ later ∈ items, Crowded perItem remaining later) ∧
        Unhidden perItem (remaining - demand perItem item) items := by
  constructor
  · intro unhidden
    refine ⟨?_, ?_⟩
    · have head := unhidden [] item items rfl
      rwa [leftover_nil] at head
    · rintro before inner after rfl
      have inside := unhidden (item :: before) inner after rfl
      rwa [leftover_cons] at inside
  · rintro ⟨head, rest⟩ before inner after split
    cases before with
    | nil =>
      obtain ⟨rfl, rfl⟩ := List.cons.inj split
      rwa [leftover_nil]
    | cons first before =>
      obtain ⟨rfl, rfl⟩ := List.cons.inj split
      rw [leftover_cons]
      exact rest before inner after rfl

/-- Below zero it does not matter how much is left. -/
lemma unhidden_max (positive : 0 < perItem) :
    Unhidden perItem (max 0 remaining) items ↔ Unhidden perItem remaining items := by
  by_cases spent : remaining ≤ 0
  · have all (less : Int) (le : less ≤ 0) : Unhidden perItem less items :=
      .of_crowded positive fun _ _ => crowded_of_spent le
    exact ⟨fun _ => all remaining spent, fun _ => all _ (by omega)⟩
  · rw [Int.max_eq_right (by omega)]

end Room

section Loop

variable {perItem remaining : Int} {seen : List (String × String)} {item : EvidenceItem}
  {items : List EvidenceItem}

/-- The items that the loop has not seen, once each. -/
def unseen (seen : List (String × String)) (items : List EvidenceItem) : List EvidenceItem :=
  firsts contextKey (items.filter fun item => !seen.contains (contextKey item))

lemma unseen_seen (known : contextKey item ∈ seen) : unseen seen (item :: items) = unseen seen items := by
  rw [unseen, List.filter_cons_of_neg (by simpa using known), unseen]

lemma unseen_new (new : contextKey item ∉ seen) :
    unseen seen (item :: items) = item :: unseen (contextKey item :: seen) items := by
  rw [unseen, List.filter_cons_of_pos (by simpa using new), firsts_cons, List.filter_filter, unseen]
  have same (other : EvidenceItem) :
      (!(contextKey other == contextKey item) && !seen.contains (contextKey other)) =
        !(contextKey item :: seen).contains (contextKey other) := by
    rw [List.contains_cons, Bool.not_or]
  simp only [same]

lemma newAt_cons {first : EvidenceItem} {before : List EvidenceItem} :
    NewAt seen (first :: before) item ↔ NewAt (contextKey first :: seen) before item := by
  rw [NewAt, NewAt, List.map_cons, List.mem_cons, List.mem_cons, not_or, not_or]
  tauto

lemma newAt_seen {first : EvidenceItem} {before : List EvidenceItem} (known : contextKey first ∈ seen) :
    NewAt seen (first :: before) item ↔ NewAt seen before item := by
  rw [newAt_cons, NewAt, NewAt, List.mem_cons, not_or]
  refine ⟨fun new => ⟨new.1.2, new.2⟩, fun new => ⟨⟨fun same => new.1 (same ▸ known), new.1⟩, new.2⟩⟩

/-- The items that the loop has not seen are those that are new at some place. -/
lemma mem_unseen : item ∈ unseen seen items ↔
    ∃ before after, items = before ++ item :: after ∧ NewAt seen before item := by
  induction items generalizing seen with
  | nil => simp [unseen, firsts]
  | cons first items ih =>
    by_cases known : contextKey first ∈ seen
    · rw [unseen_seen known, ih]
      constructor
      · rintro ⟨before, after, rfl, new⟩
        exact ⟨first :: before, after, rfl, (newAt_seen known).mpr new⟩
      · rintro ⟨before, after, split, new⟩
        cases before with
        | nil =>
          obtain ⟨rfl, rfl⟩ := List.cons.inj split
          exact absurd known new.1
        | cons head before =>
          obtain ⟨rfl, rfl⟩ := List.cons.inj split
          exact ⟨before, after, rfl, (newAt_seen known).mp new⟩
    · rw [unseen_new known, List.mem_cons, ih]
      constructor
      · rintro (rfl | ⟨before, after, rfl, new⟩)
        · exact ⟨[], items, rfl, known, List.not_mem_nil⟩
        · exact ⟨first :: before, after, rfl, newAt_cons.mpr new⟩
      · rintro ⟨before, after, split, new⟩
        cases before with
        | nil => exact .inl (List.cons.inj split).1.symm
        | cons head before =>
          obtain ⟨rfl, rfl⟩ := List.cons.inj split
          exact .inr ⟨before, after, rfl, newAt_cons.mp new⟩

/-- The body of the loop, in the terms of this module. -/
lemma fillContext_cons :
    fillContext perItem (item :: items) remaining seen =
      if remaining ≤ 0 then []
      else if seen.contains (contextKey item) = true then fillContext perItem items remaining seen
      else if min remaining perItem ≤ wrapperChars item then []
      else
        let entry := contextEntry item (String.ofList (item.normalizedText.toList.take
          (min remaining perItem - wrapperChars item).toNat))
        entry :: fillContext perItem items (remaining - entry.content.length) (contextKey item :: seen) :=
  rfl

/-- The loop stops at an item without room. -/
lemma fillContext_crowded (new : contextKey item ∉ seen) (crowded : Crowded perItem remaining item) :
    fillContext perItem (item :: items) remaining seen = [] := by
  rw [fillContext_cons]
  split
  · rfl
  · rw [if_neg fun known => new (List.contains_iff_mem.mp known)]
    exact if_pos crowded

/-- A loop that stops at once leaves out all that follows. -/
lemma omitsCrowded_stop
    (stops : ∀ rest, fillContext perItem (item :: rest) remaining seen = []) :
    OmitsCrowded perItem remaining seen (item :: items) ↔
      ∀ later ∈ unseen seen (item :: items), Crowded perItem remaining later := by
  have nothing {before after : List EvidenceItem} {later : EvidenceItem}
      (split : item :: items = before ++ later :: after) :
      fillContext perItem before remaining seen = [] ∧
        fillContext perItem (before ++ [later]) remaining seen = [] := by
    cases before with
    | nil =>
      obtain ⟨rfl, -⟩ := List.cons.inj split
      exact ⟨rfl, stops []⟩
    | cons first before =>
      obtain ⟨rfl, -⟩ := List.cons.inj split
      exact ⟨stops before, stops (before ++ [later])⟩
  constructor
  · intro omits later mem
    obtain ⟨before, after, split, new⟩ := mem_unseen.mp mem
    obtain ⟨none, none'⟩ := nothing split
    have crowded := omits before later after split new (none'.trans none.symm)
    rwa [none, contentChars_nil, Int.sub_zero] at crowded
  · intro all before later after split new _
    rw [(nothing split).1, contentChars_nil, Int.sub_zero]
    exact all later (mem_unseen.mpr ⟨before, after, split, new⟩)

/-- A duplicate is passed over. -/
lemma omitsCrowded_seen (some : 0 < remaining) (known : contextKey item ∈ seen) :
    OmitsCrowded perItem remaining seen (item :: items) ↔ OmitsCrowded perItem remaining seen items := by
  have pass (items : List EvidenceItem) : fillContext perItem (item :: items) remaining seen =
      fillContext perItem items remaining seen := by
    rw [fillContext_cons, if_neg (by omega), if_pos (List.contains_iff_mem.mpr known)]
  constructor
  · rintro omits before later after rfl new same
    have crowded := omits (item :: before) later after rfl ((newAt_seen known).mpr new)
    rw [List.cons_append, pass, pass] at crowded
    exact crowded same
  · intro omits before later after split new same
    cases before with
    | nil =>
      obtain ⟨rfl, rfl⟩ := List.cons.inj split
      exact absurd known new.1
    | cons first before =>
      obtain ⟨rfl, rfl⟩ := List.cons.inj split
      rw [List.cons_append, pass, pass] at same
      rw [pass]
      exact omits before later after rfl ((newAt_seen known).mp new) same

/-- What an item that fits leaves. -/
lemma fillContext_fits (new : contextKey item ∉ seen) (fits : ¬ Crowded perItem remaining item) :
    ∃ entry : ContextEntry, (entry.content.length : Int) = min remaining (demand perItem item) ∧
      ∀ rest, fillContext perItem (item :: rest) remaining seen =
        entry :: fillContext perItem rest (remaining - entry.content.length) (contextKey item :: seen) := by
  have room : ¬ remaining ≤ 0 := fun spent => fits (crowded_of_spent spent)
  have body : ((min remaining perItem - wrapperChars item).toNat : Int) =
      min remaining perItem - wrapperChars item := by
    rw [Crowded] at fits
    omega
  refine ⟨contextEntry item (String.ofList (item.normalizedText.toList.take
    (min remaining perItem - wrapperChars item).toNat)), ?_, fun rest => ?_⟩
  · rw [contextEntry_content, wrapped_length, String.length_ofList, List.length_take,
      String.length_toList, demand]
    rw [wrapperChars] at body ⊢
    push_cast
    omega
  · rw [fillContext_cons, if_neg room, if_neg (fun known => new (List.contains_iff_mem.mp known))]
    exact if_neg fits

/-- Where the item fits, the loop goes on. -/
lemma omitsCrowded_fits (new : contextKey item ∉ seen)
    (fits : ¬ Crowded perItem remaining item) :
    OmitsCrowded perItem remaining seen (item :: items) ↔
      OmitsCrowded perItem (max 0 (remaining - demand perItem item)) (contextKey item :: seen) items := by
  obtain ⟨entry, length, goes⟩ := fillContext_fits new fits
  have left : remaining - entry.content.length = max 0 (remaining - demand perItem item) := by omega
  rw [← left]
  have behind (before : List EvidenceItem) :
      remaining - contentChars (fillContext perItem (item :: before) remaining seen) =
        remaining - entry.content.length - contentChars (fillContext perItem before
          (remaining - entry.content.length) (contextKey item :: seen)) := by
    rw [goes, contentChars_cons]
    omega
  constructor
  · rintro omits before later after rfl new' same
    have crowded := omits (item :: before) later after rfl (newAt_cons.mpr new')
    rw [behind] at crowded
    refine crowded ?_
    rw [List.cons_append, goes, goes, same]
  · intro omits before later after split new' same
    cases before with
    | nil =>
      obtain ⟨rfl, rfl⟩ := List.cons.inj split
      rw [List.nil_append, goes] at same
      cases same
    | cons first before =>
      obtain ⟨rfl, rfl⟩ := List.cons.inj split
      rw [List.cons_append, goes, goes] at same
      rw [behind]
      exact omits before later after rfl (newAt_cons.mp new') (List.cons.inj same).2

/-- The loop omits only what has no room exactly where no item without room hides one with room. -/
lemma omitsCrowded_iff (positive : 0 < perItem) :
    OmitsCrowded perItem remaining seen items ↔ Unhidden perItem remaining (unseen seen items) := by
  induction items generalizing remaining seen with
  | nil =>
    constructor
    · rintro - before item after split
      rw [unseen, List.filter_nil] at split
      cases before <;> cases split
    · rintro - before item after split
      cases before <;> cases split
  | cons item items ih =>
    by_cases spent : remaining ≤ 0
    · have stops (rest : List EvidenceItem) : fillContext perItem (item :: rest) remaining seen = [] := by
        rw [fillContext_cons, if_pos spent]
      have all (later : EvidenceItem) (_ : later ∈ unseen seen (item :: items)) :
          Crowded perItem remaining later := crowded_of_spent spent
      exact ⟨fun _ => .of_crowded positive all, fun _ => (omitsCrowded_stop stops).mpr all⟩
    · by_cases known : contextKey item ∈ seen
      · rw [omitsCrowded_seen (by omega) known, unseen_seen known]
        exact ih
      · by_cases crowded : Crowded perItem remaining item
        · rw [omitsCrowded_stop fun rest => fillContext_crowded known crowded]
          refine ⟨.of_crowded positive, fun unhidden later mem => ?_⟩
          rw [unseen_new known] at unhidden mem
          cases mem with
          | head => exact crowded
          | tail _ mem => exact (unhidden_cons.mp unhidden).1 crowded later mem
        · rw [omitsCrowded_fits known crowded, ih, unhidden_max positive, unseen_new known,
            unhidden_cons]
          exact ⟨fun rest => ⟨fun own => absurd own crowded, rest⟩, And.right⟩

end Loop

section Context

variable (items : List EvidenceItem) (maxChars : Int) (maxItemChars : Option Int)

/-- `build_context` leaves out an item that is no duplicate only where its tags leave no room for text, in the
    limits and behind the entries for the items before it. -/
def OmitsOnlyCrowded : Prop :=
  ∀ before item after, items = before ++ item :: after → contextKey item ∉ before.map contextKey →
    buildContext (before ++ [item]) maxChars maxItemChars = buildContext before maxChars maxItemChars →
    Crowded (perItem maxChars maxItemChars)
      (max 0 maxChars - contentChars (buildContext before maxChars maxItemChars)) item

variable {items maxChars maxItemChars}

lemma fillContext_prefix {perItem remaining : Int} {seen : List (String × String)}
    (before after : List EvidenceItem) :
    fillContext perItem before remaining seen <+: fillContext perItem (before ++ after) remaining seen := by
  induction before generalizing remaining seen with
  | nil => exact List.nil_prefix
  | cons item before ih =>
    rw [List.cons_append, fillContext_cons, fillContext_cons]
    split
    · exact List.nil_prefix
    · split
      · exact ih
      · split
        · exact List.nil_prefix
        · exact (List.prefix_cons_inj _).mpr ih

/-- What follows an item does not change what is made of it: the entries for the items before it stand at the
    beginning of the context. -/
lemma buildContext_prefix (before after : List EvidenceItem) :
    buildContext before maxChars maxItemChars <+: buildContext (before ++ after) maxChars maxItemChars :=
  fillContext_prefix before after

/-- Only items without room are left out exactly where, among the distinct items, every item behind one whose
    tags take all that the demand of the items before it leaves has no room there either. -/
theorem omitsOnlyCrowded_iff :
    OmitsOnlyCrowded items maxChars maxItemChars ↔
      Unhidden (perItem maxChars maxItemChars) (max 0 maxChars) (firsts contextKey items) := by
  have distinct : unseen [] items = firsts contextKey items := by
    rw [unseen]
    exact congrArg _ (List.filter_eq_self.mpr fun _ _ => rfl)
  rw [← distinct, ← omitsCrowded_iff (by rw [perItem]; omega)]
  refine forall_congr' fun before => forall_congr' fun item => forall_congr' fun after =>
    imp_congr Iff.rfl ?_
  rw [NewAt]
  simp only [List.not_mem_nil, not_false_eq_true, true_and]
  rfl

/-- An item of a caller that gave it an id of five hundred characters. -/
def longId : EvidenceItem :=
  { measuredItem with evidenceId := String.ofList (List.replicate 500 'x') }

lemma longId_length : longId.evidenceId.length = 500 :=
  String.length_ofList.trans List.length_replicate

/-- It hides the item behind it, within the limits of the settings. -/
theorem longId_hides :
    ¬ ∀ items maxChars maxItemChars, OmitsOnlyCrowded items maxChars maxItemChars := by
  intro omits
  have first : Crowded (perItem 16000 (some 500)) (max 0 16000) longId := by
    rw [Crowded, wrapperChars_length, longId_length]
    decide +kernel
  have second : ¬ Crowded (perItem 16000 (some 500)) (max 0 16000) measuredItem := by
    rw [Crowded, wrapperChars_length]
    decide +kernel
  have stops (rest : List EvidenceItem) : buildContext (longId :: rest) 16000 (some 500) = [] :=
    fillContext_crowded List.not_mem_nil first
  have new : contextKey measuredItem ∉ [longId].map contextKey := by
    rw [List.map_singleton, List.mem_singleton]
    intro same
    have length : measuredItem.evidenceId.length = 500 :=
      (congrArg (fun key => key.1.length) same).trans longId_length
    revert length
    decide +kernel
  have crowded := omits [longId, measuredItem] 16000 (some 500) [longId] measuredItem [] rfl new
    ((stops _).trans (stops _).symm)
  rw [stops, contentChars_nil, Int.sub_zero] at crowded
  exact second crowded

end Context

end AgentRuntime.Graph
