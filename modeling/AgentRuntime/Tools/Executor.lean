import AgentRuntime.Data.Json
import AgentRuntime.Orchestration.ExecutionMeter
import AgentRuntime.Tools.Policies

/-!
# The tool executor

Port of `tools/executor.py`: `ToolExecutor.execute` resolves the policy of a tool, decides by word
lists of its own whether the tool is a safe read, and only then waits for a slot, meters the attempt
and calls the MCP client. What the world does during a call (the wait, the client's answer, the
metering inside the client) is `Environment`.
-/

namespace AgentRuntime.Tools
open Orchestration Text

/-- source `_READ_ONLY_MARKERS` -/
def readOnlyMarkers : List String :=
  ["calculate", "convert", "explain", "extract", "fetch", "get", "health", "list", "lookup", "news",
    "query", "quote", "read", "scrape", "search", "status", "time", "weather"]

/-- source `_WRITE_MARKERS` -/
def writeMarkers : List String :=
  ["approve", "create", "delete", "draft", "execute", "modify", "patch", "post", "publish", "remove",
    "run", "send", "trigger", "update", "upload", "write"]

/-- The words of a tool name between hyphens and underscores (source `_tool_name_tokens`). -/
def toolNameTokens (lower : String → String) (name : String) : List String :=
  parts '_' ((lower name).toList.map fun c => if c = '-' then '_' else c)

/-- `bool(getattr(policy, "confirmation_required", False))`: no policy has the attribute. -/
def confirmationRequired (_ : ToolPolicy) : Bool := false

/-- source `_is_explicitly_safe_read` -/
def isExplicitlySafeRead (lower : String → String) (name : String) (policy : ToolPolicy) : Bool :=
  if confirmationRequired policy then false
  else if (toolNameTokens lower name).any writeMarkers.contains then false
  else (toolNameTokens lower name).any readOnlyMarkers.contains

/-- What a tool returned (source `MCPToolResult`). -/
structure MCPToolResult where
  tool : String
  ok : Bool
  data : Json
  error : Option String := none

/-- What `execute` raises: a refusal by policy (with its specialization for write-capable tools), a
    refusal of the meter, a timeout, a cancellation, or an error of the client. -/
inductive ToolError where
  | executionDenied (message : String)
  | approvalRequired (message : String)
  | budgetExceeded (exc : BudgetExceeded)
  | timeout
  | cancelled
  | client (type : String)

/-- The error is a `ToolExecutionDenied`, or its subclass. -/
def ToolError.isExecutionDenied : ToolError → Bool
  | .executionDenied _ | .approvalRequired _ => true
  | _ => false

/-- How the wait for a slot ended. -/
inductive Wait where
  | admitted (waited : Int)
  | timedOut
  | cancelled

/-- How the client's call ended: with a result, by cancellation, by the deadline of the scope (which
    cancels the call and turns into a timeout outside), with an error of the named type, or with an
    exception that is no `Exception`, which no handler of `execute` sees. -/
inductive Answer where
  | returned (result : MCPToolResult)
  | cancelled
  | deadline
  | timedOut
  | raised (type : String)
  | exited (type : String)

/-- One exchange of a client that meters its own attempts, with the time at which it is begun. -/
structure Exchange where
  now : Time
  success : Bool
  timedOut : Bool

/-- What an exchange counts: nothing when the meter refuses it. -/
def Exchange.metered (exchange : Exchange) (budget : ExecutionBudget) : ExecutionBudget :=
  match budget.beginToolAttempt exchange.now with
  | .error _ => budget
  | .ok budget => budget.finishToolAttempt exchange.success exchange.timedOut

/-- What happens around one execution. -/
structure Environment where
  /-- the client meters its own physical attempts -/
  attemptsMetered : Bool
  wait : Wait
  now : Time
  answer : Answer
  /-- the exchanges that the client meters itself -/
  exchanges : List Exchange

/-- What an execution leaves: its result, the budget, and the calls made on the MCP client. -/
structure Execution where
  result : Except ToolError MCPToolResult
  budget : ExecutionBudget
  calls : List (String × JsonObject)

/-- The metering of an attempt that was begun here. -/
def finishAttempt (env : Environment) (success timedOut : Bool) (budget : ExecutionBudget) :
    ExecutionBudget :=
  if env.attemptsMetered then budget else budget.finishToolAttempt success timedOut

/-- The call of the client inside `execute`, with the budget as the attempt was begun. -/
def callTool (env : Environment) (name : String) (arguments : JsonObject)
    (budget : ExecutionBudget) : Execution :=
  let calls := [(name, arguments)]
  let budget := env.exchanges.foldl (fun budget exchange => exchange.metered budget) budget
  match env.answer with
  | .returned result => ⟨.ok result, finishAttempt env result.ok false budget, calls⟩
  | .cancelled => ⟨.error .cancelled, finishAttempt env false false budget.recordCancellation, calls⟩
  | .deadline => ⟨.error .timeout, finishAttempt env false false budget.recordCancellation, calls⟩
  | .timedOut => ⟨.error .timeout, finishAttempt env false true budget, calls⟩
  | .raised type => ⟨.error (.client type), finishAttempt env false false budget, calls⟩
  | .exited type => ⟨.error (.client type), budget, calls⟩

/-- The part of `execute` after the decision: the wait for a slot, the metering and the call. -/
def invoke (env : Environment) (name : String) (arguments : JsonObject) (budget : ExecutionBudget) :
    Execution :=
  match env.wait with
  | .timedOut => ⟨.error .timeout, budget, []⟩
  | .cancelled => ⟨.error .cancelled, budget, []⟩
  | .admitted waited =>
    let budget := budget.addQueueWait waited
    if env.attemptsMetered then callTool env name arguments budget
    else
      match budget.beginToolAttempt env.now with
      | .error exc => ⟨.error (.budgetExceeded exc), budget, []⟩
      | .ok budget => callTool env name arguments budget

/-- source `ToolExecutor.execute`; the caller's metadata is dropped at once -/
def execute (lower : String → String) (env : Environment) (name : String) (arguments : JsonObject)
    (_metadata : JsonObject) (budget : ExecutionBudget) : Execution :=
  let policy := policyFor lower name
  if confirmationRequired policy then
    ⟨.error (.approvalRequired
      (name ++ " is write-capable and server-issued approval is not implemented")), budget, []⟩
  else if !isExplicitlySafeRead lower name policy then
    ⟨.error (.executionDenied (name ++ " is not classified as an approved read-only tool")),
      budget, []⟩
  else invoke env name arguments budget

/-- The words between hyphens and underscores let the executor run a tool. -/
def Admitted (tokens : List String) : Prop :=
  (∃ token ∈ tokens, token ∈ readOnlyMarkers) ∧ ∀ token ∈ tokens, token ∉ writeMarkers

/-- The decision of the executor is about words of the name only, whatever the policy. -/
lemma isExplicitlySafeRead_iff {lower : String → String} {name : String} {policy : ToolPolicy} :
    isExplicitlySafeRead lower name policy = true ↔ Admitted (toolNameTokens lower name) := by
  simp only [isExplicitlySafeRead, confirmationRequired, Admitted, Bool.false_eq_true, if_false]
  split
  · next writes =>
    obtain ⟨token, mem, writes⟩ := List.any_eq_true.mp writes
    constructor
    · intro h
      cases h
    · rintro ⟨-, safe⟩
      exact absurd (List.contains_iff_mem.mp writes) (safe token mem)
  · next safe =>
    constructor
    · intro reads
      obtain ⟨token, mem, reads⟩ := List.any_eq_true.mp reads
      refine ⟨⟨token, mem, List.contains_iff_mem.mp reads⟩, fun token mem writes => ?_⟩
      exact safe (List.any_eq_true.mpr ⟨token, mem, List.contains_iff_mem.mpr writes⟩)
    · rintro ⟨⟨token, mem, reads⟩, -⟩
      exact List.any_eq_true.mpr ⟨token, mem, List.contains_iff_mem.mpr reads⟩

section Execute

variable {lower : String → String} {env : Environment} {name : String}
variable {arguments metadata : JsonObject} {budget : ExecutionBudget}

/-- An admitted tool is invoked. -/
lemma execute_admitted (admitted : Admitted (toolNameTokens lower name)) :
    execute lower env name arguments metadata budget = invoke env name arguments budget := by
  have safe : isExplicitlySafeRead lower name (policyFor lower name) = true :=
    isExplicitlySafeRead_iff.mpr admitted
  simp [execute, confirmationRequired, safe]

/-- A tool that is not admitted is denied, before anything is called or counted. -/
lemma execute_denied (refused : ¬ Admitted (toolNameTokens lower name)) :
    execute lower env name arguments metadata budget =
      ⟨.error (.executionDenied
        (name ++ " is not classified as an approved read-only tool")), budget, []⟩ := by
  have other : isExplicitlySafeRead lower name (policyFor lower name) = false := by
    rw [Bool.eq_false_iff]
    exact fun safe => refused (isExplicitlySafeRead_iff.mp safe)
  simp [execute, confirmationRequired, other]

/-- Once a tool is admitted, nothing that happens is a denial. -/
lemma invoke_not_denied {error : ToolError}
    (h : (invoke env name arguments budget).result = .error error) :
    error.isExecutionDenied = false := by
  have call : ∀ {budget}, (callTool env name arguments budget).result = .error error →
      error.isExecutionDenied = false := by
    intro budget h
    simp only [callTool] at h
    split at h <;> cases h <;> rfl
  simp only [invoke] at h
  split at h
  · cases h
    rfl
  · cases h
    rfl
  · split at h
    · exact call h
    · split at h
      · cases h
        rfl
      · exact call h

end Execute

/-- The policy boundary of the executor for one tool name, whatever the arguments, the metadata, the
    budget and the world: the client is called only when the policy of the tool is read-only; a tool
    that is not classified as a safe read is denied; and a denial calls and counts nothing. -/
def PolicyRespected (lower : String → String) (name : String) : Prop :=
  ∀ env arguments metadata budget,
    let execution := execute lower env name arguments metadata budget
    (execution.calls ≠ [] → (policyFor lower name).readOnly = true) ∧
    (isExplicitlySafeRead lower name (policyFor lower name) = false →
      ∃ error, execution.result = .error error ∧ error.isExecutionDenied = true) ∧
    (∀ error, execution.result = .error error → error.isExecutionDenied = true →
      execution.calls = [] ∧ execution.budget = budget)

/-- A world in which the client is called: a slot is free and the client meters its own attempts. -/
def openWorld (name : String) : Environment where
  attemptsMetered := true
  wait := .admitted 0
  now := 0
  answer := .returned ⟨name, true, .null, none⟩
  exchanges := []

/-- The executor respects the policy of a tool exactly when its name's hyphen and underscore words
    have no read marker or a write marker, or its policy words have a read word and no write word. -/
theorem policyRespected_iff {lower : String → String} {name : String} :
    PolicyRespected lower name ↔
      (∀ token ∈ toolNameTokens lower name, token ∉ readOnlyMarkers) ∨
      (∃ token ∈ toolNameTokens lower name, token ∈ writeMarkers) ∨
      ((∃ token ∈ policyTokens lower name, token ∈ readTokens) ∧
        ∀ token ∈ policyTokens lower name, token ∉ writeTokens) := by
  constructor
  · intro respected
    by_cases admitted : Admitted (toolNameTokens lower name)
    · have called := (respected (openWorld name) [] []
        (.fresh 0 1 0 0 0)).1
      rw [execute_admitted admitted] at called
      exact .inr (.inr (policyFor_readOnly.mp (called (by simp [invoke, callTool, openWorld]))))
    · rw [Admitted, not_and_or] at admitted
      rcases admitted with noRead | writes
      · exact .inl fun token mem reads => noRead ⟨token, mem, reads⟩
      · refine .inr (.inl (by_contra fun safe => writes fun token mem marker => ?_))
        exact safe ⟨token, mem, marker⟩
  · intro condition env arguments metadata budget
    by_cases admitted : Admitted (toolNameTokens lower name)
    · rw [execute_admitted admitted]
      refine ⟨fun _ => ?_, fun other => ?_, fun error h denied => ?_⟩
      · obtain ⟨⟨token, mem, reads⟩, safe⟩ := admitted
        rcases condition with noRead | ⟨token, mem, writes⟩ | readsOnly
        · exact absurd reads (noRead token mem)
        · exact absurd writes (safe token mem)
        · exact policyFor_readOnly.mpr readsOnly
      · rw [isExplicitlySafeRead_iff.mpr admitted] at other
        cases other
      · rw [invoke_not_denied h] at denied
        cases denied
    · rw [execute_denied admitted]
      exact ⟨fun called => absurd rfl called, fun _ => ⟨_, rfl, rfl⟩, fun _ _ _ => ⟨rfl, rfl⟩⟩

/-- Lowering of ASCII letters, which is all that `str.lower` does to an ASCII name. -/
def asciiLower (text : String) : String := String.ofList (text.toList.map Char.toLower)

/-- The executor runs a discovered tool that replies to mails, which the policy restricts. -/
theorem policy_not_respected : ¬ PolicyRespected asciiLower "mail_reply_read" := by
  intro respected
  have called := (respected (openWorld "mail_reply_read") [] [] (.fresh 0 1 0 0 0)).1
  exact absurd (called (by decide +kernel)) (by decide +kernel)

end AgentRuntime.Tools
