import AgentRuntime.State.RunRecord

/-!
# The execution meter

Port of `orchestration/execution_meter.py`: the counters of one request, the limits of its budget, and
the operations that check a limit before they count. An operation that may exceed the budget raises
`BudgetExceeded` and then leaves every counter as it was. Seconds that the source keeps as floats are
counted in microseconds.
-/

namespace AgentRuntime.Orchestration

/-- Raised before an operation that would exceed the request budget (source `BudgetExceeded`). -/
structure BudgetExceeded where
  message : String
deriving DecidableEq, Repr

/-- The counters and the deadline of a request (source `ExecutionMeterState`). -/
structure ExecutionMeterState where
  logicalModelOperations : Nat := 0
  physicalModelAttempts : Nat := 0
  modelSuccesses : Nat := 0
  modelFailures : Nat := 0
  fallbackAttempts : Nat := 0
  toolAttempts : Nat := 0
  toolSuccesses : Nat := 0
  toolFailures : Nat := 0
  toolTimeouts : Nat := 0
  verifierRounds : Nat := 0
  revisionRounds : Nat := 0
  finalRevisionRounds : Nat := 0
  researchRounds : Nat := 0
  replans : Nat := 0
  promptTokens : Nat := 0
  generatedTokens : Nat := 0
  queueWait : Int := 0
  cancellationCount : Nat := 0
  startedAt : Time
  deadlineAt : Time
deriving DecidableEq, Repr

/-- Request-scoped execution meter with its limits (source `ExecutionBudget`). -/
structure ExecutionBudget where
  maxModelCalls : Nat
  maxToolCalls : Nat
  maxVerifierRounds : Nat
  state : ExecutionMeterState
deriving DecidableEq, Repr

namespace ExecutionBudget

/-- A fresh meter, started now (source `ExecutionBudget.__init__` without a state). -/
def fresh (now maxDuration : Time) (maxModelCalls maxToolCalls maxVerifierRounds : Nat) :
    ExecutionBudget where
  maxModelCalls := maxModelCalls
  maxToolCalls := maxToolCalls
  maxVerifierRounds := maxVerifierRounds
  state := { startedAt := now, deadlineAt := now + maxDuration }

/-- source `ExecutionBudget.check` -/
def check (now : Time) (budget : ExecutionBudget) : Except BudgetExceeded Unit :=
  if budget.state.deadlineAt ≤ now then .error ⟨"execution deadline exceeded"⟩
  else if budget.maxModelCalls < budget.state.physicalModelAttempts then
    .error ⟨"model call budget exceeded"⟩
  else if budget.maxToolCalls < budget.state.toolAttempts then
    .error ⟨"tool call budget exceeded"⟩
  else if budget.maxVerifierRounds < budget.state.verifierRounds then
    .error ⟨"maximum verifier rounds exceeded"⟩
  else .ok ()

/-- source `ExecutionBudget.record_logical_model_operation` -/
def recordLogicalModelOperation (now : Time) (budget : ExecutionBudget) :
    Except BudgetExceeded ExecutionBudget :=
  match budget.check now with
  | .error exc => .error exc
  | .ok () => .ok { budget with
      state.logicalModelOperations := budget.state.logicalModelOperations + 1 }

/-- source `ExecutionBudget.begin_model_attempt`, with the number of attempts that the operation in
    scope has made; the attempt is a fallback when it is not the operation's first. -/
def beginModelAttempt (now : Time) (operationAttempts : Nat) (budget : ExecutionBudget) :
    Except BudgetExceeded ExecutionBudget :=
  match budget.check now with
  | .error exc => .error exc
  | .ok () =>
    if budget.maxModelCalls ≤ budget.state.physicalModelAttempts then
      .error ⟨"model call budget exceeded"⟩
    else .ok { budget with
      state.physicalModelAttempts := budget.state.physicalModelAttempts + 1
      state.fallbackAttempts := budget.state.fallbackAttempts + if 0 < operationAttempts then 1 else 0 }

/-- source `ExecutionBudget.finish_model_attempt` -/
def finishModelAttempt (success : Bool) (promptTokens generatedTokens : Nat)
    (budget : ExecutionBudget) : ExecutionBudget :=
  { budget with
    state.modelSuccesses := budget.state.modelSuccesses + if success then 1 else 0
    state.modelFailures := budget.state.modelFailures + if success then 0 else 1
    state.promptTokens := budget.state.promptTokens + promptTokens
    state.generatedTokens := budget.state.generatedTokens + generatedTokens }

/-- source `ExecutionBudget.begin_tool_attempt` -/
def beginToolAttempt (now : Time) (budget : ExecutionBudget) :
    Except BudgetExceeded ExecutionBudget :=
  match budget.check now with
  | .error exc => .error exc
  | .ok () =>
    if budget.maxToolCalls ≤ budget.state.toolAttempts then .error ⟨"tool call budget exceeded"⟩
    else .ok { budget with state.toolAttempts := budget.state.toolAttempts + 1 }

/-- source `ExecutionBudget.finish_tool_attempt` -/
def finishToolAttempt (success timedOut : Bool) (budget : ExecutionBudget) : ExecutionBudget :=
  { budget with
    state.toolSuccesses := budget.state.toolSuccesses + if success then 1 else 0
    state.toolFailures := budget.state.toolFailures + if success then 0 else 1
    state.toolTimeouts := budget.state.toolTimeouts + if timedOut then 1 else 0 }

/-- source `ExecutionBudget.add_queue_wait` -/
def addQueueWait (wait : Int) (budget : ExecutionBudget) : ExecutionBudget :=
  { budget with state.queueWait := budget.state.queueWait + max 0 wait }

/-- source `ExecutionBudget.record_cancellation` -/
def recordCancellation (budget : ExecutionBudget) : ExecutionBudget :=
  { budget with state.cancellationCount := budget.state.cancellationCount + 1 }

/-- A check passes within the deadline and the three limits. -/
lemma check_ok {now : Time} {budget : ExecutionBudget} :
    budget.check now = .ok () ↔
      now < budget.state.deadlineAt ∧ budget.state.physicalModelAttempts ≤ budget.maxModelCalls ∧
        budget.state.toolAttempts ≤ budget.maxToolCalls ∧
        budget.state.verifierRounds ≤ budget.maxVerifierRounds := by
  simp only [check]
  split_ifs with h1 h2 h3 h4
  · simp [Int.not_lt.mpr h1]
  · simp [Nat.not_le.mpr h2]
  · simp [Nat.not_le.mpr h3]
  · simp [Nat.not_le.mpr h4]
  · simp only [true_iff]
    exact ⟨Int.not_le.mp h1, Nat.not_lt.mp h2, Nat.not_lt.mp h3, Nat.not_lt.mp h4⟩

/-- Every refusal of a check has a text. -/
lemma check_message {now : Time} {budget : ExecutionBudget} {exc : BudgetExceeded}
    (h : budget.check now = .error exc) : exc.message ≠ "" := by
  simp only [check] at h
  split_ifs at h <;> cases h <;> decide

/-- The refusal of an operation has a text. -/
lemma recordLogicalModelOperation_message {now : Time} {budget : ExecutionBudget}
    {exc : BudgetExceeded} (h : budget.recordLogicalModelOperation now = .error exc) :
    exc.message ≠ "" := by
  simp only [recordLogicalModelOperation] at h
  split at h
  · next refused =>
    cases h
    exact check_message refused
  · cases h

/-- A model attempt is begun below the limit of model calls. -/
lemma beginModelAttempt_ok {now : Time} {attempts : Nat} {budget budget' : ExecutionBudget}
    (h : budget.beginModelAttempt now attempts = .ok budget') :
    budget.state.physicalModelAttempts < budget.maxModelCalls ∧ budget' = { budget with
      state.physicalModelAttempts := budget.state.physicalModelAttempts + 1
      state.fallbackAttempts :=
        budget.state.fallbackAttempts + if 0 < attempts then 1 else 0 } := by
  simp only [beginModelAttempt] at h
  split at h
  · cases h
  · split at h
    · cases h
    · next below =>
      cases h
      exact ⟨Nat.not_le.mp below, rfl⟩

/-- A tool attempt is begun below the limit of tool calls. -/
lemma beginToolAttempt_ok {now : Time} {budget budget' : ExecutionBudget}
    (h : budget.beginToolAttempt now = .ok budget') :
    budget.state.toolAttempts < budget.maxToolCalls ∧
      budget' = { budget with state.toolAttempts := budget.state.toolAttempts + 1 } := by
  simp only [beginToolAttempt] at h
  split at h
  · cases h
  · split at h
    · cases h
    · next below =>
      cases h
      exact ⟨Nat.not_le.mp below, rfl⟩

/-- An operation is opened by counting it. -/
lemma recordLogicalModelOperation_ok {now : Time} {budget budget' : ExecutionBudget}
    (h : budget.recordLogicalModelOperation now = .ok budget') :
    budget' = { budget with
      state.logicalModelOperations := budget.state.logicalModelOperations + 1 } := by
  simp only [recordLogicalModelOperation] at h
  split at h
  · cases h
  · cases h
    rfl

/-- The refusal of a model attempt has a text. -/
lemma beginModelAttempt_message {now : Time} {attempts : Nat} {budget : ExecutionBudget}
    {exc : BudgetExceeded} (h : budget.beginModelAttempt now attempts = .error exc) :
    exc.message ≠ "" := by
  simp only [beginModelAttempt] at h
  split at h
  · next refused =>
    cases h
    exact check_message refused
  · split_ifs at h
    cases h
    decide

/-- The refusal of a tool attempt has a text. -/
lemma beginToolAttempt_message {now : Time} {budget : ExecutionBudget} {exc : BudgetExceeded}
    (h : budget.beginToolAttempt now = .error exc) : exc.message ≠ "" := by
  simp only [beginToolAttempt] at h
  split at h
  · next refused =>
    cases h
    exact check_message refused
  · split_ifs at h
    cases h
    decide

end ExecutionBudget

end AgentRuntime.Orchestration
