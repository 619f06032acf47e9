import AgentRuntime.Graph.Research
import AgentRuntime.Mcp.MeteredCall
import AgentRuntime.Mcp.Replay

/-!
# Tool budget exhaustion in a research round

Which tools a research round tries, and what it makes of a refusal of the meter. Where the executor
meters an attempt, its refusal reaches the node, which stops the run with it. The MCP client meters its
own attempts, and there the refusal comes back as the result of a failed tool: the node counts a failure
and tries the next candidate.
-/

namespace AgentRuntime.Graph
open Orchestration Mcp Transition

/-- A tool that is tried: what surrounds the call, and the meter before it. -/
structure ToolTrial where
  env : Tools.Environment
  name : String
  arguments : JsonObject
  budget : ExecutionBudget

/-- The refusal of the meter, if it refuses an attempt of the trial. -/
def ToolTrial.refusal (lower : String → String) (trial : ToolTrial) : Option BudgetExceeded :=
  refusalOf lower trial.env trial.name trial.budget

/-- The tools that are tried for one query (`tryCandidates`). -/
def candidateTrials (agent : ChatAgent) (round : ResearchRound) (tools : Nat → Tools.Environment) :
    List ToolRoutingDecision → Nat → ExecutionBudget → List ToolTrial
  | [], _, _ => []
  | candidate :: rest, index, budget =>
    let execution := Tools.execute agent.lower (tools index) candidate.name candidate.arguments
      round.metadata budget
    let others := candidateTrials agent round tools rest (index + 1) execution.budget
    ⟨tools index, candidate.name, candidate.arguments, budget⟩ ::
      match execution.result with
      | .error (.executionDenied _) | .error (.approvalRequired _) => others
      | .error _ => []
      | .ok result => if result.ok then [] else others

/-- The tools that are tried for the queries (`runQueries`). -/
def queryTrials (agent : ChatAgent) (round : ResearchRound)
    (candidates : String → List ToolRoutingDecision) (tools : Nat → Nat → Tools.Environment) :
    List String → Nat → Findings → ExecutionBudget → List ToolTrial
  | [], _, _, _ => []
  | query :: rest, index, findings, budget =>
    candidateTrials agent round (tools index) (candidates query) 0 budget ++
      match tryCandidates agent round index query (tools index) (candidates query) 0 findings budget with
      | (.error _, _) => []
      | (.ok findings, budget) =>
        queryTrials agent round candidates tools rest (index + 1) findings budget

/-- A move leads to research only without a reason to stop. -/
lemma Move.enters_research {V F : Nat} {terminates fails : Prop} {c c' : Control}
    (m : Move V F terminates fails c c') (position : c'.position = .node .research) :
    c'.stopped = false := by
  cases m with
  | plan | verify | advance => rfl
  | _ => cases position

namespace ChatAgent

/-- The tools that an execution of `_research` tries. -/
def researchTrials (agent : ChatAgent) (world : World) (state : AgentGraphState)
    (budget : ExecutionBudget) : List ToolTrial :=
  let rounds := state.researchRounds + 1
  let budget := setResearchRounds rounds budget
  if !agent.settings.mcpEnabled then []
  else if agent.settings.agentMaxResearchRounds < rounds then []
  else
    match state.currentTask with
    | .error _ => []
    | .ok task =>
      let requiredActions := match state.verification with
        | some report => report.requiredActions
        | none => []
      let round : ResearchRound :=
        { runId := state.evidenceRunId
          taskId := if task.id = "" then "task-" ++ toString state.taskIndex else task.id
          rounds := rounds
          metadata := state.metadata }
      let queries := agent.router.buildResearchQueries world.now state.message task requiredActions
        agent.settings.researchMaxQueriesPerTask
      let candidates (query : String) := agent.router.selectTools state.message task requiredActions
        state.inventory state.metadata 3 query
      queryTrials agent round candidates world.tools queries 1 ⟨state.evidence, [], []⟩ budget

/-- Every tool of the round is called through the client. -/
def CallsThrough (client : MCPClient) (trials : List ToolTrial) : Prop :=
  ∀ trial ∈ trials, MadeBy client trial.name trial.arguments trial.budget trial.env

/-- A refusal of the meter ends the round: nothing is tried after it, and the node returns a state that
    is stopped with the reason of the meter. -/
def ReportsRefusal (agent : ChatAgent) (world : World) (state : AgentGraphState)
    (budget : ExecutionBudget) : Prop :=
  ∀ before trial after exc, agent.researchTrials world state budget = before ++ trial :: after →
    trial.refusal agent.lower = some exc →
      after = [] ∧ ∃ state', (agent.research world state budget).1 = .ok state' ∧
        state'.terminationReason = some exc.message

end ChatAgent

section Trials

variable {agent : ChatAgent} {round : ResearchRound} {budget : ExecutionBudget} {client : MCPClient}

/-- After a refused attempt the next candidate is tried. -/
theorem candidateTrials_refused {tools : Nat → Tools.Environment} {candidate : ToolRoutingDecision}
    {rest : List ToolRoutingDecision} {index : Nat} {exc : BudgetExceeded}
    (made : MadeBy client candidate.name candidate.arguments budget (tools index))
    (refused : refusalOf agent.lower (tools index) candidate.name budget = some exc) :
    candidateTrials agent round tools (candidate :: rest) index budget =
      ⟨tools index, candidate.name, candidate.arguments, budget⟩ ::
        candidateTrials agent round tools rest (index + 1)
          (Tools.execute agent.lower (tools index) candidate.name candidate.arguments round.metadata
            budget).budget := by
  have failed : (Tools.execute agent.lower (tools index) candidate.name candidate.arguments
      round.metadata budget).result = .ok (failedTool candidate.name (.budgetExceeded exc.message)) :=
    made.refused refused
  simp [candidateTrials, failed, failedTool]

/-- No refusal ends the candidates of a query whose tools meter their own attempts. -/
lemma tryCandidates_not_exceeded {queryIndex : Nat} {query : String} {tools : Nat → Tools.Environment}
    {candidates : List ToolRoutingDecision} {index : Nat} {findings : Findings} {exc : BudgetExceeded}
    (metered : ∀ trial ∈ candidateTrials agent round tools candidates index budget,
      trial.env.attemptsMetered = true) :
    (tryCandidates agent round queryIndex query tools candidates index findings budget).1 ≠
      .error (.exceeded exc) := by
  induction candidates generalizing index findings budget with
  | nil => exact nofun
  | cons candidate rest ih =>
    rw [candidateTrials, List.forall_mem_cons] at metered
    obtain ⟨first, others⟩ := metered
    intro h
    simp only [tryCandidates] at h
    split at h
    · next denied =>
      simp only [denied] at others
      exact ih others h
    · next denied =>
      simp only [denied] at others
      exact ih others h
    · next refused =>
      rw [(execute_refused refused).1] at first
      cases first
    · cases h
    · cases h
    · cases h
    · next result returned =>
      split at h
      · cases h
      · next ineligible =>
        simp only [returned, if_neg (show ¬ result.ok = true from ineligible)] at others
        exact ih others h

lemma runQueries_not_exceeded {candidates : String → List ToolRoutingDecision}
    {tools : Nat → Nat → Tools.Environment} {queries : List String} {index : Nat}
    {findings : Findings} {exc : BudgetExceeded}
    (metered : ∀ trial ∈ queryTrials agent round candidates tools queries index findings budget,
      trial.env.attemptsMetered = true) :
    (runQueries agent round candidates tools queries index findings budget).1 ≠
      .error (.exceeded exc) := by
  induction queries generalizing index findings budget with
  | nil => exact nofun
  | cons query rest ih =>
    rw [queryTrials, List.forall_mem_append] at metered
    obtain ⟨first, others⟩ := metered
    intro h
    simp only [runQueries] at h
    split at h
    · next stop budget tried =>
      cases h
      exact tryCandidates_not_exceeded first (congrArg Prod.fst tried)
    · next findings budget tried =>
      simp only [tried] at others
      exact ih others h

/-- Where the executor meters the attempts itself, its refusal is what it raises. -/
lemma execute_manual {lower : String → String} {env : Tools.Environment} {name : String}
    {arguments metadata : JsonObject} {exc : BudgetExceeded} (manual : env.attemptsMetered = false)
    (none : env.exchanges = []) (refused : refusalOf lower env name budget = some exc) :
    (Tools.execute lower env name arguments metadata budget).result = .error (.budgetExceeded exc) := by
  simp only [refusalOf, manual, none, refusalIn, Bool.false_eq_true, if_false] at refused
  split at refused
  · next safe =>
    rw [Tools.execute_admitted (Tools.isExplicitlySafeRead_iff.mp safe)]
    split at refused
    · next waited admitted =>
      simp only [Tools.invoke, admitted, manual, Bool.false_eq_true, if_false]
      cases begun : (budget.addQueueWait waited).beginToolAttempt env.now with
      | error exceeded =>
        rw [begun] at refused
        cases refused
        rfl
      | ok budget =>
        rw [begun] at refused
        cases refused
    · cases refused
    · cases refused
  · cases refused

/-- A refusal that the executor raises ends the candidates of a query. -/
lemma tryCandidates_exceeded {queryIndex : Nat} {query : String} {tools : Nat → Tools.Environment}
    {candidates : List ToolRoutingDecision} {index : Nat} {findings : Findings} {exc : BudgetExceeded}
    {before after : List ToolTrial} {trial : ToolTrial}
    (split : candidateTrials agent round tools candidates index budget = before ++ trial :: after)
    (manual : trial.env.attemptsMetered = false) (none : trial.env.exchanges = [])
    (refused : trial.refusal agent.lower = some exc) :
    after = [] ∧
      (tryCandidates agent round queryIndex query tools candidates index findings budget).1 =
        .error (.exceeded exc) := by
  induction candidates generalizing index findings budget before with
  | nil => cases before <;> cases split
  | cons candidate rest ih =>
    rw [candidateTrials] at split
    cases before with
    | nil =>
      obtain ⟨rfl, others⟩ := List.cons.inj split
      have raised : (Tools.execute agent.lower (tools index) candidate.name candidate.arguments
          round.metadata budget).result = .error (.budgetExceeded exc) :=
        execute_manual manual none refused
      simp only [raised] at others
      refine ⟨others.symm, ?_⟩
      simp only [tryCandidates, raised]
    | cons first before =>
      obtain ⟨-, others⟩ := List.cons.inj split
      simp only [tryCandidates]
      split at others
      · next denied =>
        simp only [denied]
        exact ih others
      · next denied =>
        simp only [denied]
        exact ih others
      · cases before <;> cases others
      · next result returned =>
        split at others
        · cases before <;> cases others
        · next failed =>
          simp only [returned]
          rw [if_neg (show ¬ (evidenceFromToolResult agent.reader result _ _ _ _ _ _).eligibleForClaimSupport
            = true from failed)]
          exact ih others

lemma runQueries_exceeded {candidates : String → List ToolRoutingDecision}
    {tools : Nat → Nat → Tools.Environment} {queries : List String} {index : Nat}
    {findings : Findings} {exc : BudgetExceeded} {before after : List ToolTrial} {trial : ToolTrial}
    (split : queryTrials agent round candidates tools queries index findings budget =
      before ++ trial :: after)
    (manual : trial.env.attemptsMetered = false) (none : trial.env.exchanges = [])
    (refused : trial.refusal agent.lower = some exc) :
    after = [] ∧ (runQueries agent round candidates tools queries index findings budget).1 =
      .error (.exceeded exc) := by
  induction queries generalizing index findings budget before with
  | nil => cases before <;> cases split
  | cons query rest ih =>
    rw [queryTrials, List.append_eq_append_iff] at split
    simp only [runQueries]
    obtain ⟨before', rfl, others⟩ | ⟨first, split, others⟩ := split
    · cases tried : tryCandidates agent round index query (tools index) (candidates query) 0 findings
          budget with
      | mk outcome budget' =>
        rw [tried] at others
        cases outcome with
        | error stop => cases before' <;> cases others
        | ok findings' => exact ih others
    · cases first with
      | nil =>
        rw [List.nil_append] at others
        cases tried : tryCandidates agent round index query (tools index) (candidates query) 0 findings
            budget with
        | mk outcome budget' =>
          rw [tried] at others
          cases outcome with
          | error stop => cases others
          | ok findings' =>
            rw [← List.nil_append (trial :: after)] at others
            exact ih others.symm
      | cons trial' first =>
        obtain ⟨rfl, rest⟩ := List.cons.inj others
        have exceeded : first = [] ∧ (tryCandidates agent round index query (tools index)
            (candidates query) 0 findings budget).1 = .error (.exceeded exc) :=
          tryCandidates_exceeded split manual none refused
        obtain ⟨rfl, ended⟩ := exceeded
        cases tried : tryCandidates agent round index query (tools index) (candidates query) 0 findings
            budget with
        | mk outcome budget' =>
          rw [tried] at ended rest
          obtain rfl : outcome = _ := ended
          exact ⟨by simpa using rest, rfl⟩

end Trials

/-- The reason with which `_research` stops when no tool found anything. -/
def noEvidenceReason : String :=
  "all compatible read-only MCP research attempts failed; no current evidence was retrieved"

/-- The meter's refusals have texts of their own. -/
lemma beginToolAttempt_text {now : Time} {budget : ExecutionBudget} {exc : BudgetExceeded}
    (h : budget.beginToolAttempt now = .error exc) :
    exc.message ≠ "" ∧ exc.message ≠ noEvidenceReason := by
  simp only [ExecutionBudget.beginToolAttempt, ExecutionBudget.check] at h
  split at h
  · next refused =>
    cases h
    split_ifs at refused <;> cases refused <;> exact ⟨by decide, by decide⟩
  · split_ifs at h
    cases h
    exact ⟨by decide, by decide⟩

lemma refusalIn_text {exchanges : List Tools.Exchange} {budget : ExecutionBudget}
    {exc : BudgetExceeded} (h : refusalIn exchanges budget = some exc) :
    exc.message ≠ "" ∧ exc.message ≠ noEvidenceReason := by
  induction exchanges generalizing budget with
  | nil => cases h
  | cons exchange rest ih =>
    simp only [refusalIn] at h
    split at h
    · next refused =>
      cases h
      exact beginToolAttempt_text refused
    · exact ih h

lemma refusalOf_text {lower : String → String} {env : Tools.Environment} {name : String}
    {budget : ExecutionBudget} {exc : BudgetExceeded} (h : refusalOf lower env name budget = some exc) :
    exc.message ≠ "" ∧ exc.message ≠ noEvidenceReason := by
  simp only [refusalOf] at h
  split at h
  · split at h
    · split at h
      · exact refusalIn_text h
      · split at h
        · next refused =>
          cases h
          exact beginToolAttempt_text refused
        · exact refusalIn_text h
    · cases h
    · cases h
  · cases h

namespace ChatAgent

variable {agent : ChatAgent} {world : World} {state state' : AgentGraphState} {budget : ExecutionBudget}

lemma concludeResearch_reason {round : ResearchRound} {queries : List String} {findings : Findings}
    (h : concludeResearch state round queries findings = .ok state') :
    state'.terminationReason = some noEvidenceReason ∨
      state'.terminationReason = state.terminationReason := by
  simp only [concludeResearch] at h
  split at h
  · cases h
  · split at h
    · cases h
      exact .inl rfl
    · cases h
      exact .inr rfl

/-- A round whose tools meter their own attempts is stopped for want of evidence only. -/
lemma research_reason
    (metered : ∀ trial ∈ agent.researchTrials world state budget, trial.env.attemptsMetered = true)
    (tried : agent.researchTrials world state budget ≠ [])
    (h : (agent.research world state budget).1 = .ok state') :
    state'.terminationReason = some noEvidenceReason ∨
      state'.terminationReason = state.terminationReason := by
  simp only [researchTrials] at metered tried
  simp only [research] at h
  split at h
  · next disabled =>
    simp only [disabled, if_true] at tried
    exact absurd rfl tried
  · next enabled =>
    simp only [enabled, Bool.false_eq_true, if_false] at metered tried
    split at h
    · next exceeded =>
      simp only [exceeded, if_true] at tried
      exact absurd rfl tried
    · next within =>
      simp only [within, if_false] at metered
      split at h
      · cases h
      · next task current =>
        simp only [current] at metered
        split at h
        · next exc budget' exceeded =>
          exact absurd (congrArg Prod.fst exceeded) (runQueries_not_exceeded metered)
        · cases h
        · exact concludeResearch_reason h

/-- A research round whose tools are called through the client reports a refusal of the meter exactly
    when the meter refuses nothing. -/
theorem reportsRefusal_iff {client : MCPClient} (going : state.stopped = false)
    (through : CallsThrough client (agent.researchTrials world state budget)) :
    agent.ReportsRefusal world state budget ↔
      ∀ trial ∈ agent.researchTrials world state budget, trial.refusal agent.lower = none := by
  constructor
  · intro reports trial mem
    rw [Option.eq_none_iff_forall_ne_some]
    intro exc refused
    obtain ⟨before, after, split⟩ := List.append_of_mem mem
    obtain ⟨-, state', returned, reason⟩ := reports before trial after exc split refused
    obtain ⟨nonempty, other⟩ := refusalOf_text refused
    have metered := fun trial mem => (through trial mem).metered
    obtain stopped | kept := research_reason metered (List.ne_nil_of_mem mem) returned
    · rw [reason] at stopped
      exact other (Option.some.inj stopped)
    · have still : state'.stopped = false := by
        rw [AgentGraphState.stopped, kept]
        exact going
      rw [AgentGraphState.stopped, reason] at still
      exact nonempty (by simpa using still)
  · intro none before trial after exc split refused
    rw [none trial (split ▸ List.mem_append_right _ (.head _))] at refused
    cases refused

/-- Where the executor meters the attempts of a round itself, a refusal of the meter is reported. -/
theorem reportsRefusal_manual
    (manual : ∀ trial ∈ agent.researchTrials world state budget,
      trial.env.attemptsMetered = false ∧ trial.env.exchanges = []) :
    agent.ReportsRefusal world state budget := by
  intro before trial after exc split refused
  obtain ⟨manual, none⟩ := manual trial (split ▸ List.mem_append_right _ (.head _))
  simp only [researchTrials] at split
  simp only [research]
  split at split
  · cases before <;> cases split
  · next enabled =>
    simp only [enabled, Bool.false_eq_true, if_false]
    split at split
    · cases before <;> cases split
    · next within =>
      simp only [within, if_false]
      cases current : state.currentTask with
      | error error =>
        simp only [current] at split
        cases before <;> cases split
      | ok task =>
        simp only [current] at split ⊢
        obtain ⟨last, exceeded⟩ := runQueries_exceeded split manual none refused
        refine ⟨last, state.stop exc.message, ?_, rfl⟩
        split
        · next stopped =>
          cases (congrArg Prod.fst stopped).symm.trans exceeded
          rfl
        · next escaped => cases (congrArg Prod.fst escaped).symm.trans exceeded
        · next concluded => cases (congrArg Prod.fst concluded).symm.trans exceeded

/-- In an invocation of the graph, research is entered with no reason to stop. -/
lemma research_going {now : Time} {events : List (Event Configuration World)} {final : Configuration}
    {e : Event Configuration World} (run : Run agent.Step (agent.start state now) events final)
    (mem : e ∈ events) (position : e.pre.position = .node .research) : e.pre.state.stopped = false := by
  have entered := run.invariant_mem
    (I := fun c : Configuration => c.position = .node .research → c.state.stopped = false)
    (G := fun _ => True) (fun _ st _ _ => st.move.enters_research) (fun _ _ => trivial) nofun mem
  exact entered.1 position

section Samples

/-- An agent for examples that may make one tool attempt and looks for two things. -/
def oneAttemptAgent : ChatAgent :=
  let agent := sampleAgent { sampleSettings .echo with
    mcpEnabled := true
    executionMaxToolCalls := 1
    toolCalls_le := by decide }
  { agent with router :=
    { agent.router with
      classifyTask := fun _ _ => ⟨true, .general, .fastReasoning, "sample"⟩
      buildResearchQueries := fun _ _ _ _ _ => ["first", "second"]
      selectTools := fun _ _ _ _ _ _ _ => [⟨"search", []⟩] } }

/-- A call of the tool that fails in this way, in its first exchange. -/
def failingCall (error : McpError) : Tools.Environment where
  attemptsMetered := true
  wait := .admitted 0
  now := 0
  answer := .returned (failedTool "search" error)
  exchanges := [⟨0, false, false⟩]

/-- The error of the first call: the server does not answer. -/
def unanswered : McpError := .transport "MCP HTTP timeout (ReadTimeout): "

/-- The server does not answer the first call, and the meter refuses the second one. -/
def exhaustedWorld : World :=
  { sampleWorld 0 ⟨.pass, true, [], []⟩ ⟨.pass, true, [], [], fun _ => rfl⟩ with
    tools := fun query _ => if query = 1 then failingCall unanswered
      else failingCall (.budgetExceeded "tool call budget exceeded") }

/-- The invocation behind its plan. -/
def plannedSample : Configuration :=
  oneAttemptAgent.after (fun _ _ => exhaustedWorld)
    (oneAttemptAgent.start (sampleState oneAttemptAgent.settings) 0) 1

lemma unanswered_made {budget budget' : ExecutionBudget}
    (begun : (budget.addQueueWait 0).beginToolAttempt 0 = .ok budget') :
    MadeBy Traffic.sampleClient "search" [] budget (failingCall unanswered) := by
  refine ⟨rfl, fun waited admitted => ?_⟩
  cases admitted
  have passes {phase phase' : Phase} {input : ClientInput}
      (goes : (Traffic.sampleClient.advance 0 Traffic.sampleClient.fresh 0 phase input).map Prod.snd =
        some phase') : Traffic.sampleClient.Passes 0 0 phase input phase' := by
    obtain ⟨⟨s', _⟩, advanced, rfl⟩ := Option.map_eq_some_iff.mp goes
    exact ⟨_, s', advanced⟩
  exact ⟨0, Traffic.sampleClient.fresh, 0, _,
    .tail (.tail (.tail .refl (.begin rfl rfl begun)) (.send rfl rfl (.inl rfl) (passes rfl)))
      (.finish rfl rfl (.inr ⟨.timeout "ReadTimeout" "", rfl⟩) (passes rfl)), rfl, rfl⟩

lemma refused_made {budget : ExecutionBudget} {exc : BudgetExceeded}
    (refused : (budget.addQueueWait 0).beginToolAttempt 0 = .error exc) :
    MadeBy Traffic.sampleClient "search" [] budget (failingCall (.budgetExceeded exc.message)) := by
  refine ⟨rfl, fun waited admitted => ?_⟩
  cases admitted
  exact ⟨0, Traffic.sampleClient.fresh, 0, _,
    .tail .refl (.refuse rfl rfl refused ⟨Traffic.sampleClient.fresh, _, rfl⟩), rfl, rfl⟩

/-- The call that is not answered. -/
def firstTrial : ToolTrial :=
  ⟨failingCall unanswered, "search", [], setResearchRounds 1 plannedSample.budget⟩

/-- The call that is refused. -/
def secondTrial : ToolTrial :=
  ⟨failingCall (.budgetExceeded "tool call budget exceeded"), "search", [],
    Tools.Exchange.metered ⟨0, false, false⟩ (firstTrial.budget.addQueueWait 0)⟩

lemma sample_trials : oneAttemptAgent.researchTrials exhaustedWorld plannedSample.state
    plannedSample.budget = [firstTrial, secondTrial] := rfl

lemma sample_through : CallsThrough Traffic.sampleClient (oneAttemptAgent.researchTrials exhaustedWorld
    plannedSample.state plannedSample.budget) := by
  rw [sample_trials]
  intro trial mem
  simp only [List.mem_cons, List.not_mem_nil, or_false] at mem
  obtain rfl | rfl := mem
  · exact unanswered_made rfl
  · have refused : (secondTrial.budget.addQueueWait 0).beginToolAttempt 0 =
        .error ⟨"tool call budget exceeded"⟩ := by decide +kernel
    exact refused_made refused

/-- The node gives up for want of evidence, although the meter has refused its second call. -/
theorem refusal_not_reported : ¬ ∀ (agent : ChatAgent) (client : MCPClient) (world : World)
    (state : AgentGraphState) (budget : ExecutionBudget), state.stopped = false →
      CallsThrough client (agent.researchTrials world state budget) →
      agent.ReportsRefusal world state budget := by
  intro claim
  have reports := claim _ _ _ _ _ (by decide +kernel) sample_through
  obtain ⟨-, state', returned, reason⟩ := reports [firstTrial] secondTrial []
    ⟨"tool call budget exceeded"⟩ sample_trials (by decide +kernel)
  have gives_up : (oneAttemptAgent.research exhaustedWorld plannedSample.state
      plannedSample.budget).1.toOption.bind AgentGraphState.terminationReason =
        some noEvidenceReason := by decide +kernel
  rw [returned] at gives_up
  exact absurd (reason.symm.trans gives_up) (by decide)

theorem reportsRefusal_iff_sample :
    oneAttemptAgent.ReportsRefusal exhaustedWorld plannedSample.state plannedSample.budget ↔
      ∀ trial ∈ oneAttemptAgent.researchTrials exhaustedWorld plannedSample.state plannedSample.budget,
        trial.refusal oneAttemptAgent.lower = none :=
  reportsRefusal_iff (by decide +kernel) sample_through

end Samples

end ChatAgent

end AgentRuntime.Graph
