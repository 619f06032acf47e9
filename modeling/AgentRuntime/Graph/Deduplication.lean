import AgentRuntime.Graph.Services
import AgentRuntime.Lib.Firsts

/-!
# Duplicate evidence

What `deduplicate_evidence` keeps of a list of evidence: the first item of each address and content. An
item that supports no claim may come first and then stands for one that does.
-/

namespace AgentRuntime.Graph
open Firsts

/-- The address and the content of an item. -/
def evidenceKey (item : EvidenceItem) : String × String :=
  (item.canonicalUri.getD "", item.contentHash)

lemma deduplicateEvidence_firsts (items : List EvidenceItem) :
    deduplicateEvidence items = firsts evidenceKey items := rfl

/-- Removing duplicates only drops records. -/
lemma deduplicateEvidence_sublist (items : List EvidenceItem) :
    (deduplicateEvidence items).Sublist items := firsts_sublist evidenceKey items

/-- The records without the duplicates: in the same order, one for each key, and one that supports claims
    for each key of such a record. -/
structure KeepsSupport (items : List EvidenceItem) : Prop where
  order : (deduplicateEvidence items).Sublist items
  once : ((deduplicateEvidence items).map evidenceKey).Nodup
  keys : ∀ item ∈ items, ∃ kept ∈ deduplicateEvidence items, evidenceKey kept = evidenceKey item
  support : ∀ item ∈ items, item.eligibleForClaimSupport = true →
    ∃ kept ∈ deduplicateEvidence items, evidenceKey kept = evidenceKey item ∧
      kept.eligibleForClaimSupport = true

/-- The claim support is kept exactly where no record that supports claims stands behind one that does
    not and is the first with its address and content. -/
theorem keepsSupport_iff (items : List EvidenceItem) :
    KeepsSupport items ↔
      ∀ item ∈ items, item.eligibleForClaimSupport = true → ∀ first,
        items.find? (fun other => evidenceKey other == evidenceKey item) = some first →
          first.eligibleForClaimSupport = true := by
  constructor
  · intro keeps item mem eligible first found
    obtain ⟨kept, inside, same, supports⟩ := keeps.support item mem eligible
    rw [deduplicateEvidence_firsts] at inside
    have own := find?_of_mem_firsts inside
    rw [same, found] at own
    cases own
    exact supports
  · intro unshadowed
    refine ⟨deduplicateEvidence_sublist items, firsts_nodup _ _, fun item mem => ?_, fun item mem eligible => ?_⟩
    · obtain ⟨first, kept, same, -⟩ := exists_first evidenceKey mem
      exact ⟨first, kept, same⟩
    · obtain ⟨first, kept, same, found⟩ := exists_first evidenceKey mem
      exact ⟨first, kept, same, unshadowed item mem eligible first found⟩

section Samples

/-- What reading this text yields, wherever it stands. -/
def berlin : Reading where
  text := "Berlin is the capital of Germany."
  hash := "8d0c82fb9500a56e75760a0ea565326fda7ea2eaa23a1cf91896c5e5f25d62ba"
  retrievedAt := 0
  freshness := .notTimeSensitive
  quality := .secondaryUnknown

/-- A reader of that text; the caller's context has no id. -/
def berlinReader : EvidenceReader where
  result _ _ _ := berlin
  content _ := berlin
  entryId _ index := "user-" ++ toString index

/-- The text in the caller's context, and the same text as the result of a tool. -/
def berlinTwice : List EvidenceItem :=
  evidenceFromMetadata berlinReader
      [("evidence", .arr [.str "Berlin is the capital of Germany."])] "run" "request" ++
    [evidenceFromToolResult berlinReader
      { tool := "search", ok := true, data := .str "Berlin is the capital of Germany.", error := none }
      "research-t1-1-1" "run" "t1" none "search" "capital of Germany"]

/-- What a tool finds is dropped for the same text of the caller. -/
theorem support_dropped : ¬ ∀ items, KeepsSupport items := by
  intro keeps
  have eligible : ∃ item ∈ berlinTwice, item.eligibleForClaimSupport = true := by decide +kernel
  have dropped : ∀ item ∈ deduplicateEvidence berlinTwice, item.eligibleForClaimSupport = false := by
    decide +kernel
  obtain ⟨item, mem, supports⟩ := eligible
  obtain ⟨kept, inside, -, supports⟩ := (keeps berlinTwice).support item mem supports
  cases supports.symm.trans (dropped kept inside)

end Samples

end AgentRuntime.Graph
