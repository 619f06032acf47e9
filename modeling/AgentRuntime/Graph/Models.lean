import AgentRuntime.Graph.Services
import Mathlib.Logic.Relation

/-!
# Model operations

One logical model operation of a node: `_invoke_model` opens it on the meter, and inside it a role
agent (`agents/base.py`) calls the model server once for text, or for a validated value once and at most
once more on a fallback model. Each call is one metered attempt (`OllamaClient.chat`). What the
server answers is the input of an operation; what an operation can do to the meter is `Frame`.
-/

namespace AgentRuntime.Graph
open Orchestration Text

/-- What a node raises, or what is raised inside it: a refusal of the meter, a structured output that
    no model produced, a cancellation, or an exception of the named type. -/
inductive GraphError where
  | budgetExceeded (exc : BudgetExceeded)
  | structuredOutput (schema : String) (attemptedModels : List String)
  | cancelled
  | raised (type : String)
deriving DecidableEq

/-- source `type(exc).__name__` -/
def GraphError.typeName : GraphError → String
  | .budgetExceeded _ => "BudgetExceeded"
  | .structuredOutput _ _ => "StructuredOutputError"
  | .cancelled => "CancelledError"
  | .raised type => type

/-- How one call of the model server ended: no client to call it with, content that validates, empty
    or invalid content, an error (which may come after a well-formed answer), a cancellation, or an error
    that is raised before the meter counts the end of the attempt. -/
inductive ModelReply (α : Type) where
  | unavailable (type : String)
  | valid (value : α)
  | invalid
  | raised (type : String) (answered : Bool)
  | cancelled
  | uncounted (type : String)

/-- One call of the model server, with the time at which its attempt is begun. -/
structure ModelAttempt (α : Type) where
  now : Time
  reply : ModelReply α
  promptTokens : Nat := 0
  generatedTokens : Nat := 0

/-- The answers to a model operation: the time at which it is opened, and its calls in order. -/
structure Operation (α : Type) where
  now : Time
  attempt : Nat → ModelAttempt α

/-- A result with the meter as it was left. -/
abbrev Metered (α : Type) := Except GraphError α × ExecutionBudget

/-- source `OllamaClient.chat`: the content, or `none` when it is empty or does not validate -/
def chat {α : Type} (attempt : ModelAttempt α) (operationAttempts : Nat) (budget : ExecutionBudget) :
    Metered (Option α) :=
  match attempt.reply with
  | .unavailable type => (.error (.raised type), budget)
  | reply =>
    match budget.beginModelAttempt attempt.now operationAttempts with
    | .error exc => (.error (.budgetExceeded exc), budget)
    | .ok budget =>
      let finish (success : Bool) :=
        budget.finishModelAttempt success attempt.promptTokens attempt.generatedTokens
      match reply with
      | .valid value => (.ok (some value), finish true)
      | .invalid => (.ok none, finish true)
      | .raised type answered => (.error (.raised type), finish answered)
      | .cancelled => (.error .cancelled, finish false)
      | .uncounted type | .unavailable type => (.error (.raised type), budget)

/-- The primary model and at most one fallback (source `_structured_models`). -/
def structuredModels (settings : Settings) (model : String) : List String :=
  let candidates := [strip settings.modelGeneral, strip settings.modelFallback]
  model :: (candidates.filter fun candidate => candidate ≠ "" && candidate ≠ model).take 1

/-- The loop of `invoke_json` over the models that are left, after `attempts` calls. -/
def invokeJsonFrom {α : Type} (schema : String) (models : List String)
    (attempt : Nat → ModelAttempt α) : List String → Nat → ExecutionBudget → Metered α
  | [], _, budget => (.error (.structuredOutput schema models), budget)
  | _ :: rest, attempts, budget =>
    match chat (attempt attempts) attempts budget with
    | (.error error, budget) => (.error error, budget)
    | (.ok (some value), budget) => (.ok value, budget)
    | (.ok none, budget) => invokeJsonFrom schema models attempt rest (attempts + 1) budget

/-- source `StructuredAgent.invoke_json` -/
def invokeJson {α : Type} (settings : Settings) (schema model : String)
    (attempt : Nat → ModelAttempt α) (budget : ExecutionBudget) : Metered α :=
  let models := structuredModels settings model
  invokeJsonFrom schema models attempt models 0 budget

/-- source `StructuredAgent.invoke_text` -/
def invokeText (attempt : Nat → ModelAttempt String) (budget : ExecutionBudget) : Metered String :=
  match chat (attempt 0) 0 budget with
  | (.error error, budget) => (.error error, budget)
  | (.ok content, budget) => (.ok (content.getD ""), budget)

/-- source `_invoke_model`: the operation is opened on the meter, then run -/
def invokeModel {α : Type} (now : Time) (run : ExecutionBudget → Metered α)
    (budget : ExecutionBudget) : Metered α :=
  match budget.recordLogicalModelOperation now with
  | .error exc => (.error (.budgetExceeded exc), budget)
  | .ok budget => run budget

/-- A structured operation of a role agent: `_invoke_model` around `invoke_json`. -/
def structuredOperation {α : Type} (settings : Settings) (schema model : String) (op : Operation α) :
    ExecutionBudget → Metered α :=
  invokeModel op.now (invokeJson settings schema model op.attempt)

/-- The text operation of the synthesizer: `_invoke_model` around `invoke_text`. -/
def textOperation (op : Operation String) : ExecutionBudget → Metered String :=
  invokeModel op.now (invokeText op.attempt)

/-- The reason that a node records when no model produced the structured output. -/
def structuredOutputReason (what : String) (attemptedModels : List String) : String :=
  what ++ " could not produce valid structured output after " ++ toString attemptedModels.length ++
    " bounded attempt(s)"

section Frame

/-- What calls leave as it was: the limits of the meter and the rounds of the verifier. -/
structure Frame (before after : ExecutionBudget) : Prop where
  maxVerifierRounds : after.maxVerifierRounds = before.maxVerifierRounds
  verifierRounds : after.state.verifierRounds = before.state.verifierRounds

/-- Doing nothing keeps the frame. -/
lemma Frame.refl (budget : ExecutionBudget) : Frame budget budget := ⟨rfl, rfl⟩

/-- Frames compose. -/
lemma Frame.trans {b1 b2 b3 : ExecutionBudget} (h1 : Frame b1 b2) (h2 : Frame b2 b3) :
    Frame b1 b3 :=
  ⟨h2.maxVerifierRounds.trans h1.maxVerifierRounds, h2.verifierRounds.trans h1.verifierRounds⟩

/-- One operation of the meter other than counting a round of the verifier. -/
inductive MeterOp (budget : ExecutionBudget) : ExecutionBudget → Prop where
  | record {now : Time} {budget' : ExecutionBudget} :
    budget.recordLogicalModelOperation now = .ok budget' → MeterOp budget budget'
  | beginModel {now : Time} {attempts : Nat} {budget' : ExecutionBudget} :
    budget.beginModelAttempt now attempts = .ok budget' → MeterOp budget budget'
  | finishModel (success : Bool) (promptTokens generatedTokens : Nat) :
    MeterOp budget (budget.finishModelAttempt success promptTokens generatedTokens)
  | beginTool {now : Time} {budget' : ExecutionBudget} :
    budget.beginToolAttempt now = .ok budget' → MeterOp budget budget'
  | finishTool (success timedOut : Bool) : MeterOp budget (budget.finishToolAttempt success timedOut)
  | queueWait (wait : Int) : MeterOp budget (budget.addQueueWait wait)
  | cancellation : MeterOp budget budget.recordCancellation
  | rounds (revision finalRevision research replans : Nat) : MeterOp budget { budget with
      state.revisionRounds := revision
      state.finalRevisionRounds := finalRevision
      state.researchRounds := research
      state.replans := replans }

/-- The operations among them that a tool call makes. -/
inductive ToolOp (budget : ExecutionBudget) : ExecutionBudget → Prop where
  | begin {now : Time} {budget' : ExecutionBudget} :
    budget.beginToolAttempt now = .ok budget' → ToolOp budget budget'
  | finish (success timedOut : Bool) : ToolOp budget (budget.finishToolAttempt success timedOut)
  | queueWait (wait : Int) : ToolOp budget (budget.addQueueWait wait)
  | cancellation : ToolOp budget budget.recordCancellation

/-- What happens to the meter in a call or a node: its operations, in any number and order. -/
abbrev Meters : ExecutionBudget → ExecutionBudget → Prop := Relation.ReflTransGen MeterOp

/-- What happens to the meter in tool calls. -/
abbrev ToolMeters : ExecutionBudget → ExecutionBudget → Prop := Relation.ReflTransGen ToolOp

lemma ToolMeters.meters {before after : ExecutionBudget} (meters : ToolMeters before after) :
    Meters before after := by
  refine Relation.ReflTransGen.mono (fun budget budget' op => ?_) _ _ meters
  cases op with
  | begin begun => exact .beginTool begun
  | finish success timedOut => exact .finishTool success timedOut
  | queueWait wait => exact .queueWait wait
  | cancellation => exact .cancellation

/-- Tool calls are no attempts of models. -/
lemma ToolMeters.models {before after : ExecutionBudget} (meters : ToolMeters before after) :
    after.state.physicalModelAttempts = before.state.physicalModelAttempts := by
  induction meters with
  | refl => rfl
  | tail _ op ih =>
    rw [← ih]
    cases op with
    | begin begun =>
      obtain ⟨-, rfl⟩ := ExecutionBudget.beginToolAttempt_ok begun
      rfl
    | _ => rfl

/-- The operations keep the frame. -/
lemma Meters.frame {before after : ExecutionBudget} (meters : Meters before after) :
    Frame before after := by
  induction meters with
  | refl => exact .refl before
  | tail _ op ih =>
    refine ih.trans ?_
    cases op with
    | record recorded =>
      rw [ExecutionBudget.recordLogicalModelOperation_ok recorded]
      exact ⟨rfl, rfl⟩
    | beginModel begun =>
      rw [(ExecutionBudget.beginModelAttempt_ok begun).2]
      exact ⟨rfl, rfl⟩
    | beginTool begun =>
      rw [(ExecutionBudget.beginToolAttempt_ok begun).2]
      exact ⟨rfl, rfl⟩
    | _ => exact ⟨rfl, rfl⟩

/-- What calls do to the attempts: they keep the limits, take no attempt back, and stay within the limits
    once the attempts are. -/
structure Spends (before after : ExecutionBudget) : Prop where
  maxModelCalls : after.maxModelCalls = before.maxModelCalls
  maxToolCalls : after.maxToolCalls = before.maxToolCalls
  models_le : before.state.physicalModelAttempts ≤ after.state.physicalModelAttempts
  tools_le : before.state.toolAttempts ≤ after.state.toolAttempts
  models_within : before.state.physicalModelAttempts ≤ before.maxModelCalls →
    after.state.physicalModelAttempts ≤ before.maxModelCalls
  tools_within : before.state.toolAttempts ≤ before.maxToolCalls →
    after.state.toolAttempts ≤ before.maxToolCalls

lemma Spends.refl (budget : ExecutionBudget) : Spends budget budget :=
  ⟨rfl, rfl, Nat.le_refl _, Nat.le_refl _, id, id⟩

lemma Spends.trans {b1 b2 b3 : ExecutionBudget} (h1 : Spends b1 b2) (h2 : Spends b2 b3) :
    Spends b1 b3 where
  maxModelCalls := h2.maxModelCalls.trans h1.maxModelCalls
  maxToolCalls := h2.maxToolCalls.trans h1.maxToolCalls
  models_le := h1.models_le.trans h2.models_le
  tools_le := h1.tools_le.trans h2.tools_le
  models_within within := by
    have := h2.models_within
    rw [h1.maxModelCalls] at this
    exact this (h1.models_within within)
  tools_within within := by
    have := h2.tools_within
    rw [h1.maxToolCalls] at this
    exact this (h1.tools_within within)

/-- The operations begin an attempt below its limit only. -/
lemma Meters.spends {before after : ExecutionBudget} (meters : Meters before after) :
    Spends before after := by
  induction meters with
  | refl => exact .refl before
  | tail _ op ih =>
    refine ih.trans ?_
    cases op with
    | record recorded =>
      rw [ExecutionBudget.recordLogicalModelOperation_ok recorded]
      exact ⟨rfl, rfl, Nat.le_refl _, Nat.le_refl _, id, id⟩
    | beginModel begun =>
      obtain ⟨below, rfl⟩ := ExecutionBudget.beginModelAttempt_ok begun
      exact ⟨rfl, rfl, Nat.le_succ _, Nat.le_refl _, fun _ => below, id⟩
    | beginTool begun =>
      obtain ⟨below, rfl⟩ := ExecutionBudget.beginToolAttempt_ok begun
      exact ⟨rfl, rfl, Nat.le_refl _, Nat.le_succ _, id, fun _ => below⟩
    | _ => exact ⟨rfl, rfl, Nat.le_refl _, Nat.le_refl _, id, id⟩

lemma chat_meters {α : Type} (attempt : ModelAttempt α) (attempts : Nat) (budget : ExecutionBudget) :
    Meters budget (chat attempt attempts budget).2 := by
  obtain ⟨now, reply, promptTokens, generatedTokens⟩ := attempt
  cases reply <;> simp only [chat]
  case unavailable => exact .refl
  all_goals
    split
    · exact .refl
    · next begun => first
      | exact .tail (.single (.beginModel begun)) (.finishModel ..)
      | exact .single (.beginModel begun)

lemma invokeJsonFrom_meters {α : Type} (schema : String) (models : List String)
    (attempt : Nat → ModelAttempt α) (rest : List String) (attempts : Nat)
    (budget : ExecutionBudget) :
    Meters budget (invokeJsonFrom schema models attempt rest attempts budget).2 := by
  induction rest generalizing attempts budget with
  | nil => exact .refl
  | cons model rest ih =>
    have step := chat_meters (attempt attempts) attempts budget
    simp only [invokeJsonFrom]
    split
    · next h => rwa [h] at step
    · next h => rwa [h] at step
    · next h =>
      rw [h] at step
      exact step.trans (ih _ _)

lemma invokeModel_meters {α : Type} {now : Time} {run : ExecutionBudget → Metered α}
    {budget : ExecutionBudget} (h : ∀ b, Meters b (run b).2) :
    Meters budget (invokeModel now run budget).2 := by
  simp only [invokeModel]
  split
  · exact .refl
  · next opened => exact .head (.record opened) (h _)

lemma structuredOperation_meters {α : Type} (settings : Settings) (schema model : String)
    (op : Operation α) (budget : ExecutionBudget) :
    Meters budget (structuredOperation settings schema model op budget).2 :=
  invokeModel_meters fun _ => invokeJsonFrom_meters ..

lemma textOperation_meters (op : Operation String) (budget : ExecutionBudget) :
    Meters budget (textOperation op budget).2 := by
  refine invokeModel_meters fun b => ?_
  have step := chat_meters (op.attempt 0) 0 b
  simp only [invokeText]
  split
  · next h => rwa [h] at step
  · next h => rwa [h] at step

lemma exchanges_meters (exchanges : List Tools.Exchange) (budget : ExecutionBudget) :
    ToolMeters budget (exchanges.foldl (fun budget exchange => exchange.metered budget) budget) := by
  induction exchanges generalizing budget with
  | nil => exact .refl
  | cons exchange rest ih =>
    refine Relation.ReflTransGen.trans ?_ (ih _)
    simp only [Tools.Exchange.metered]
    split
    · exact .refl
    · next begun => exact .tail (.single (.begin begun)) (.finish ..)

lemma callTool_meters (env : Tools.Environment) (name : String) (arguments : JsonObject)
    (budget : ExecutionBudget) : ToolMeters budget (Tools.callTool env name arguments budget).budget := by
  have finish : ∀ success timedOut b, ToolMeters b (Tools.finishAttempt env success timedOut b) := by
    intro success timedOut b
    simp only [Tools.finishAttempt]
    split
    · exact .refl
    · exact .single (.finish ..)
  refine (exchanges_meters env.exchanges budget).trans ?_
  simp only [Tools.callTool]
  split
  · exact finish _ _ _
  · exact .head .cancellation (finish _ _ _)
  · exact .head .cancellation (finish _ _ _)
  · exact finish _ _ _
  · exact finish _ _ _
  · exact .refl

lemma execute_meters (lower : String → String) (env : Tools.Environment) (name : String)
    (arguments metadata : JsonObject) (budget : ExecutionBudget) :
    ToolMeters budget (Tools.execute lower env name arguments metadata budget).budget := by
  have invoke : ToolMeters budget (Tools.invoke env name arguments budget).budget := by
    simp only [Tools.invoke]
    split
    · exact .refl
    · exact .refl
    · split
      · exact .head (.queueWait _) (callTool_meters ..)
      · split
        · exact .single (.queueWait _)
        · next begun => exact .head (.queueWait _) (.head (.begin begun) (callTool_meters ..))
  simp only [Tools.execute]
  split_ifs
  · exact .refl
  · exact .refl
  · exact invoke

/-- An answer of the model server is an attempt. -/
lemma chat_spends {α : Type} {attempt : ModelAttempt α} {attempts : Nat}
    {budget budget' : ExecutionBudget} {content : Option α}
    (h : chat attempt attempts budget = (.ok content, budget')) :
    budget.state.physicalModelAttempts + 1 ≤ budget'.state.physicalModelAttempts := by
  obtain ⟨now, reply, promptTokens, generatedTokens⟩ := attempt
  cases reply <;> simp only [chat] at h
  case unavailable => cases h
  all_goals
    split at h
    · cases h
    · next begun =>
      obtain ⟨-, rfl⟩ := ExecutionBudget.beginModelAttempt_ok begun
      cases h
      try exact Nat.le_refl _

/-- A call of the model server is one attempt at most. -/
lemma chat_attempts {α : Type} (attempt : ModelAttempt α) (attempts : Nat) (budget : ExecutionBudget) :
    (chat attempt attempts budget).2.state.physicalModelAttempts ≤
      budget.state.physicalModelAttempts + 1 := by
  obtain ⟨now, reply, promptTokens, generatedTokens⟩ := attempt
  cases reply <;> simp only [chat]
  case unavailable => exact Nat.le_succ _
  all_goals
    split
    · exact Nat.le_succ _
    · next begun =>
      obtain ⟨-, rfl⟩ := ExecutionBudget.beginModelAttempt_ok begun
      exact Nat.le_refl _

/-- A value of a structured operation takes at least one attempt. -/
lemma structuredOperation_spends {α : Type} {settings : Settings} {schema model : String}
    {op : Operation α} {budget budget' : ExecutionBudget} {value : α}
    (h : structuredOperation settings schema model op budget = (.ok value, budget')) :
    budget.state.physicalModelAttempts + 1 ≤ budget'.state.physicalModelAttempts := by
  have loop : ∀ {models rest attempts budget},
      invokeJsonFrom schema models op.attempt rest attempts budget = (.ok value, budget') →
        budget.state.physicalModelAttempts + 1 ≤ budget'.state.physicalModelAttempts := by
    intro models rest
    induction rest with
    | nil => exact fun h => nomatch h
    | cons model rest ih =>
      intro attempts budget h
      simp only [invokeJsonFrom] at h
      split at h
      · cases h
      · next called =>
        cases h
        exact chat_spends called
      · next called => exact (chat_spends called).trans ((Nat.le_succ _).trans (ih h))
  simp only [structuredOperation, invokeModel] at h
  split at h
  · cases h
  · next opened =>
    rw [ExecutionBudget.recordLogicalModelOperation_ok opened] at h
    have counted := loop h
    exact counted

end Frame

section Refusals

/-- A refusal inside a call has a text. -/
lemma chat_message {α : Type} {attempt : ModelAttempt α} {attempts : Nat}
    {budget budget' : ExecutionBudget} {exc : BudgetExceeded}
    (h : chat attempt attempts budget = (.error (.budgetExceeded exc), budget')) :
    exc.message ≠ "" := by
  obtain ⟨now, reply, promptTokens, generatedTokens⟩ := attempt
  cases reply <;> simp only [chat] at h
  case unavailable => cases h
  all_goals
    split at h
    · next refused =>
      cases h
      exact ExecutionBudget.beginModelAttempt_message refused
    · cases h

/-- A refusal in the loop over the models has a text. -/
lemma invokeJsonFrom_message {α : Type} {schema : String} {models rest : List String}
    {attempt : Nat → ModelAttempt α} {attempts : Nat} {budget budget' : ExecutionBudget}
    {exc : BudgetExceeded}
    (h : invokeJsonFrom schema models attempt rest attempts budget =
      (.error (.budgetExceeded exc), budget')) :
    exc.message ≠ "" := by
  induction rest generalizing attempts budget with
  | nil => cases h
  | cons model rest ih =>
    simp only [invokeJsonFrom] at h
    split at h
    · next called =>
      cases h
      exact chat_message called
    · cases h
    · exact ih h

/-- A refusal in a structured operation has a text. -/
lemma structuredOperation_message {α : Type} {settings : Settings} {schema model : String}
    {op : Operation α} {budget budget' : ExecutionBudget} {exc : BudgetExceeded}
    (h : structuredOperation settings schema model op budget =
      (.error (.budgetExceeded exc), budget')) :
    exc.message ≠ "" := by
  simp only [structuredOperation, invokeModel] at h
  split at h
  · next refused =>
    cases h
    exact ExecutionBudget.recordLogicalModelOperation_message refused
  · exact invokeJsonFrom_message h

/-- The executor raises a refusal of the meter only where it meters the attempt itself. -/
lemma execute_refused {lower : String → String} {env : Tools.Environment} {name : String}
    {arguments metadata : JsonObject} {budget : ExecutionBudget} {exc : BudgetExceeded}
    (h : (Tools.execute lower env name arguments metadata budget).result =
      .error (.budgetExceeded exc)) :
    env.attemptsMetered = false ∧
      ∃ budget : ExecutionBudget, budget.beginToolAttempt env.now = .error exc := by
  have call : ∀ b, (Tools.callTool env name arguments b).result ≠ .error (.budgetExceeded exc) := by
    intro b called
    simp only [Tools.callTool] at called
    split at called <;> cases called
  simp only [Tools.execute] at h
  split_ifs at h
  · cases h
  · cases h
  · simp only [Tools.invoke] at h
    split at h
    · cases h
    · cases h
    · split at h
      · exact absurd h (call _)
      · next manual =>
        split at h
        · next refused =>
          cases h
          exact ⟨Bool.not_eq_true _ ▸ manual, _, refused⟩
        · exact absurd h (call _)

/-- A refused tool call has a text. -/
lemma execute_message {lower : String → String} {env : Tools.Environment} {name : String}
    {arguments metadata : JsonObject} {budget : ExecutionBudget} {exc : BudgetExceeded}
    (h : (Tools.execute lower env name arguments metadata budget).result =
      .error (.budgetExceeded exc)) :
    exc.message ≠ "" := by
  obtain ⟨-, _, refused⟩ := execute_refused h
  exact ExecutionBudget.beginToolAttempt_message refused

end Refusals

end AgentRuntime.Graph
