import AgentRuntime.Data.Text

/-!
# Tool policies

Port of `tools/policies.py`: the side-effect level of a tool, resolved from its name. Known tools have
an explicit policy; a discovered tool is classified by the words of its normalized name, and is
restricted unless a read word and no write word is among them.
-/

namespace AgentRuntime.Tools
open Text

/-- What running a tool may change (source `SideEffectLevel`). -/
inductive SideEffectLevel where
  | readOnly | externalRead | reversibleWrite | externalCommunication | restricted
deriving DecidableEq, Repr

/-- The policy of a tool (source `ToolPolicy`). -/
structure ToolPolicy where
  level : SideEffectLevel
  known : Bool := true
  cacheable : Bool := false
deriving DecidableEq, Repr

/-- source `ToolPolicy.read_only` -/
def ToolPolicy.readOnly (policy : ToolPolicy) : Bool :=
  policy.level = .readOnly || policy.level = .externalRead

/-- source `POLICIES` -/
def POLICIES : List (String × ToolPolicy) :=
  [("mail_search", { level := .externalRead }),
    ("mail_create_draft", { level := .reversibleWrite }),
    ("mail_send_draft", { level := .externalCommunication })]

/-- source `_WRITE_TOKENS` -/
def writeTokens : List String :=
  ["create", "update", "delete", "remove", "send", "publish", "post", "write", "modify", "forward",
    "reply", "book", "purchase", "order", "upload", "put", "patch"]

/-- source `_READ_TOKENS` -/
def readTokens : List String :=
  ["search", "read", "get", "list", "find", "lookup", "query", "fetch", "scrape", "news", "weather",
    "status", "inventory", "inspect", "describe"]

/-- The characters of `[a-z0-9]`. -/
def isNameChar (c : Char) : Bool := ('a' ≤ c && c ≤ 'z') || ('0' ≤ c && c ≤ '9')

/-- The normalized name of a tool: runs of other characters become one underscore, and the ends have
    none. Letter case is mapped by `lower`. -/
def normalizedName (lower : String → String) (tool : String) : List Char :=
  stripIf (· = '_') (subRuns isNameChar '_' false (lower (strip tool)).toList)

/-- The words of a tool's normalized name. -/
def policyTokens (lower : String → String) (tool : String) : List String :=
  parts '_' (normalizedName lower tool)

/-- The policy of a tool without an explicit one, from its words. -/
def tokenPolicy (tokens : List String) : ToolPolicy :=
  if tokens.any writeTokens.contains then { level := .restricted, known := false }
  else if tokens.any readTokens.contains then { level := .externalRead, known := false }
  else { level := .restricted, known := false }

/-- Resolve a fail-closed policy for explicit and dynamically discovered tools
    (source `policy_for`). -/
def policyFor (lower : String → String) (tool : String) : ToolPolicy :=
  match POLICIES.lookup (String.ofList (normalizedName lower tool)) with
  | some explicit => explicit
  | none => tokenPolicy (policyTokens lower tool)

/-- The words say that a tool only reads: a read word, and no write word. -/
def ReadsOnly (tokens : List String) : Prop :=
  (∃ token ∈ tokens, token ∈ readTokens) ∧ ∀ token ∈ tokens, token ∉ writeTokens

/-- A classified tool is read-only when its words say so. -/
lemma tokenPolicy_readOnly {tokens : List String} :
    (tokenPolicy tokens).readOnly = true ↔ ReadsOnly tokens := by
  simp only [tokenPolicy, ReadsOnly]
  split
  · next writes =>
    obtain ⟨token, mem, writes⟩ := List.any_eq_true.mp writes
    constructor
    · intro h
      cases h
    · rintro ⟨-, safe⟩
      exact absurd (List.contains_iff_mem.mp writes) (safe token mem)
  · next safe =>
    have safe : ∀ token ∈ tokens, token ∉ writeTokens := by
      intro token mem writes
      exact safe (List.any_eq_true.mpr ⟨token, mem, List.contains_iff_mem.mpr writes⟩)
    split
    · next reads =>
      obtain ⟨token, mem, reads⟩ := List.any_eq_true.mp reads
      exact ⟨fun _ => ⟨⟨token, mem, List.contains_iff_mem.mp reads⟩, safe⟩, fun _ => rfl⟩
    · next other =>
      constructor
      · intro h
        cases h
      · rintro ⟨⟨token, mem, reads⟩, -⟩
        exact absurd (List.any_eq_true.mpr ⟨token, mem, List.contains_iff_mem.mpr reads⟩) other

/-- The explicit policies say what the words of their names say. -/
lemma policies_readOnly :
    ∀ entry ∈ POLICIES, entry.2.readOnly = (tokenPolicy (parts '_' entry.1.toList)).readOnly := by
  decide +kernel

/-- The policy of a tool is read-only when its name's words say so, also where it is explicit. -/
lemma explicit_readOnly {name : List Char} {policy : ToolPolicy}
    (h : POLICIES.lookup (String.ofList name) = some policy) :
    policy.readOnly = (tokenPolicy (parts '_' name)).readOnly := by
  obtain ⟨before, after, mem, -⟩ := List.lookup_eq_some_iff.mp h
  have entry := policies_readOnly (String.ofList name, policy) (by simp [mem])
  rw [entry, String.toList_ofList]

/-- A tool is read-only exactly when the words of its name say so, whether or not it has an explicit
    policy. -/
theorem policyFor_readOnly {lower : String → String} {tool : String} :
    (policyFor lower tool).readOnly = true ↔ ReadsOnly (policyTokens lower tool) := by
  rw [← tokenPolicy_readOnly]
  simp only [policyFor]
  split
  · next explicit h => rw [explicit_readOnly h, policyTokens]
  · rfl

end AgentRuntime.Tools
