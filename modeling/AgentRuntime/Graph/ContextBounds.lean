import AgentRuntime.Graph.Context

/-!
# The limits of the context

What `build_context` makes of a list of evidence: the entries are items of the list in its order, no two of
them with one id and one text, each with the beginning of its text that fits; an entry is no longer than
the limit for an item, and all of them together no longer than the limit of the context, which is what
their metadata add up to.
-/

namespace AgentRuntime.Graph

/-- What tells an item from the others of a context. -/
def contextKey (item : EvidenceItem) : String × String := (item.evidenceId, item.normalizedText)

/-- An item of the context, with as much of its text as fits. -/
abbrev Excerpt := EvidenceItem × String

/-- The excerpt is the beginning of the item's text. -/
def Excerpt.Fits (excerpt : Excerpt) : Prop := excerpt.2.toList <+: excerpt.1.normalizedText.toList

def Excerpt.entry (excerpt : Excerpt) : ContextEntry := contextEntry excerpt.1 excerpt.2

/-- The characters of the contents. -/
def contentChars (entries : List ContextEntry) : Int :=
  (entries.map fun entry => (entry.content.length : Int)).sum

@[simp] lemma contentChars_nil : contentChars [] = 0 := rfl

@[simp] lemma contentChars_cons (entry : ContextEntry) (entries : List ContextEntry) :
    contentChars (entry :: entries) = entry.content.length + contentChars entries :=
  List.sum_cons

section Entries

variable (item : EvidenceItem) (body : String)

lemma contextEntry_chars :
    (contextEntry item body).metadata.get? "context_content_chars" =
      some (.int (contextEntry item body).content.length) := by
  rw [contextEntry, JsonObject.get?_set_of_ne (by decide), JsonObject.get?_set_of_ne (by decide),
    JsonObject.get?_set_self]

lemma contextEntry_truncated :
    (contextEntry item body).metadata.get? "context_truncated" =
      some (.bool (item.truncated || decide (body.length < item.normalizedText.length))) :=
  JsonObject.get?_set_self ..

/-- Whatever the metadata of its item say, an entry measures its content. -/
lemma measuredChars_entry :
    measuredChars (contextEntry item body) = (contextEntry item body).content.length := by
  rw [measuredChars, contextEntry_chars]
  exact if_pos (Int.natCast_nonneg _)

lemma wrapped_length :
    (wrapped item.evidenceId body).length =
      (openingTag item.evidenceId).length + body.length + closingTag.length := by
  rw [wrapped, String.length_append, String.length_append]

end Entries

section Loop

variable {perItem remaining : Int} {items : List EvidenceItem} {seen : List (String × String)}

/-- The beginning of a text of at most this many characters is at most that long. -/
lemma taken_length (text : String) {room : Int} (positive : 0 < room) :
    ((String.ofList (text.toList.take room.toNat)).length : Int) ≤ room := by
  have le : (String.ofList (text.toList.take room.toNat)).length ≤ room.toNat := by
    rw [String.length_ofList]
    exact List.length_take_le _ _
  omega

lemma taken_fits (item : EvidenceItem) (n : Nat) :
    Excerpt.Fits (item, String.ofList (item.normalizedText.toList.take n)) := by
  unfold Excerpt.Fits
  dsimp only
  rw [String.toList_ofList]
  exact List.take_prefix _ _

/-- The contents are no longer than the limit of the context, and none is longer than the one of an
    item. -/
lemma fillContext_limits (room : 0 ≤ remaining) :
    contentChars (fillContext perItem items remaining seen) ≤ remaining ∧
      ∀ entry ∈ fillContext perItem items remaining seen, (entry.content.length : Int) ≤ perItem := by
  have none : contentChars [] ≤ remaining ∧
      ∀ entry ∈ ([] : List ContextEntry), (entry.content.length : Int) ≤ perItem :=
    ⟨room, fun _ mem => absurd mem List.not_mem_nil⟩
  induction items generalizing remaining seen with
  | nil =>
    rw [fillContext]
    exact none
  | cons item items ih =>
    rw [fillContext]
    split
    · exact none
    · split
      · exact ih room none
      · dsimp only
        split
        · exact none
        · next wide =>
          have taken := taken_length item.normalizedText (Int.sub_pos_of_lt (Int.not_le.mp wide))
          generalize String.ofList (item.normalizedText.toList.take _) = body at taken ⊢
          have length := wrapped_length item body
          obtain ⟨total, each⟩ :=
            @ih (remaining - (wrapped item.evidenceId body).length)
              ((item.evidenceId, item.normalizedText) :: seen) (by omega)
              ⟨by rw [contentChars_nil]; omega, none.2⟩
          constructor
          · rw [contentChars_cons, contextEntry_content]
            omega
          · intro entry mem
            cases mem with
            | head =>
              rw [contextEntry_content]
              omega
            | tail _ mem => exact each entry mem

/-- The entries are excerpts of the items that were not seen, in their order and once each. -/
lemma fillContext_excerpts : ∃ chosen : List Excerpt,
    fillContext perItem items remaining seen = chosen.map Excerpt.entry ∧
      (chosen.map Prod.fst).Sublist items ∧
      ((chosen.map Prod.fst).map contextKey).Nodup ∧
      (∀ excerpt ∈ chosen, contextKey excerpt.1 ∉ seen) ∧ ∀ excerpt ∈ chosen, excerpt.Fits := by
  have none (items : List EvidenceItem) (seen : List (String × String)) :
      ∃ chosen : List Excerpt, ([] : List ContextEntry) = chosen.map Excerpt.entry ∧
        (chosen.map Prod.fst).Sublist items ∧ ((chosen.map Prod.fst).map contextKey).Nodup ∧
        (∀ excerpt ∈ chosen, contextKey excerpt.1 ∉ seen) ∧ ∀ excerpt ∈ chosen, excerpt.Fits :=
    ⟨[], rfl, List.nil_sublist _, .nil, fun _ mem => absurd mem List.not_mem_nil,
      fun _ mem => absurd mem List.not_mem_nil⟩
  induction items generalizing remaining seen with
  | nil =>
    rw [fillContext]
    exact none [] seen
  | cons item items ih =>
    rw [fillContext]
    split
    · exact none _ seen
    · split
      · obtain ⟨chosen, same, sub, rest⟩ := @ih remaining seen
        exact ⟨chosen, same, sub.cons item, rest⟩
      · next unseen =>
        dsimp only
        split
        · exact none _ seen
        · obtain ⟨chosen, same, sub, once, new, fits⟩ := ih
          refine ⟨(item, _) :: chosen, congrArg _ same, sub.cons_cons item, ?_, ?_, ?_⟩
          · refine List.nodup_cons.mpr ⟨fun again => ?_, once⟩
            obtain ⟨other, mem, key⟩ := List.mem_map.mp again
            obtain ⟨excerpt, inside, rfl⟩ := List.mem_map.mp mem
            exact new excerpt inside (key ▸ List.mem_cons_self)
          · intro excerpt mem
            cases mem with
            | head => exact fun known => unseen (List.contains_iff_mem.mpr known)
            | tail _ mem => exact fun known => new excerpt mem (List.mem_cons_of_mem _ known)
          · intro excerpt mem
            cases mem with
            | head => exact taken_fits item _
            | tail _ mem => exact fits excerpt mem

/-- The measured characters of entries are the ones of their contents. -/
lemma count_entries (chosen : List Excerpt) :
    contextCharacterCount (chosen.map Excerpt.entry) = contentChars (chosen.map Excerpt.entry) := by
  rw [contextCharacterCount, contentChars, List.map_map, List.map_map]
  exact congrArg List.sum (List.map_congr_left fun excerpt _ => measuredChars_entry _ _)

end Loop

/-- The context keeps to both limits, says exactly how long it is, and consists of excerpts of the items,
    in their order, of no two with one id and one text; an entry says that it is truncated exactly where
    its item was or the excerpt is shorter than the text. -/
theorem buildContext_bounded (items : List EvidenceItem) {maxChars maxItemChars : Int}
    (all : 0 ≤ maxChars) (each : 0 < maxItemChars) :
    contentChars (buildContext items maxChars (some maxItemChars)) ≤ maxChars ∧
    (∀ entry ∈ buildContext items maxChars (some maxItemChars),
      (entry.content.length : Int) ≤ maxItemChars) ∧
    contextCharacterCount (buildContext items maxChars (some maxItemChars)) =
      contentChars (buildContext items maxChars (some maxItemChars)) ∧
    ∃ chosen : List Excerpt,
      buildContext items maxChars (some maxItemChars) = chosen.map Excerpt.entry ∧
      (chosen.map Prod.fst).Sublist items ∧ ((chosen.map Prod.fst).map contextKey).Nodup ∧
      ∀ excerpt ∈ chosen, excerpt.Fits ∧
        ∃ truncated, excerpt.entry.metadata.get? "context_truncated" = some (.bool truncated) ∧
          (truncated = true ↔
            excerpt.1.truncated = true ∨ excerpt.2.length < excerpt.1.normalizedText.length) := by
  have same : buildContext items maxChars (some maxItemChars) =
      fillContext maxItemChars items maxChars [] := by
    rw [buildContext, Option.filter_some_pos (by simpa using (Int.ne_of_lt each).symm), Option.getD_some,
      Int.max_eq_right (show 1 ≤ maxItemChars from each), Int.max_eq_right all]
  rw [same]
  obtain ⟨total, limited⟩ := @fillContext_limits maxItemChars maxChars items [] all
  obtain ⟨chosen, entries, sub, once, -, fits⟩ := @fillContext_excerpts maxItemChars maxChars items []
  refine ⟨total, limited, ?_, chosen, entries, sub, once, fun excerpt mem => ?_⟩
  · rw [entries, count_entries]
  · refine ⟨fits excerpt mem, _, contextEntry_truncated _ _, ?_⟩
    rw [Bool.or_eq_true, decide_eq_true_iff]

/-- An item for examples: its metadata has a measure already. -/
def measuredItem : EvidenceItem where
  evidenceId := "e1"
  retrievedAt := 0
  normalizedText := "0123456789"
  contentHash := "84d89877f0d4041efb6bf91a16f0248f2fd573e6af05c19f96bedb9f882f7882"
  metadata := [("context_content_chars", .int 5)]
  hash_given := by decide

theorem buildContext_bounded_sample :
    contextCharacterCount (buildContext [measuredItem, measuredItem] 100 (some 64)) =
      contentChars (buildContext [measuredItem, measuredItem] 100 (some 64)) :=
  (buildContext_bounded [measuredItem, measuredItem] (by decide) (by decide)).2.2.1

end AgentRuntime.Graph
