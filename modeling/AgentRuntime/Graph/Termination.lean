import AgentRuntime.Graph.Build

/-!
# Terminating twice

`_terminate` writes the partial response into the field that the candidate response is read from. So a
state that is terminated again quotes its own partial response as a candidate. A run whose `_finalize`
fails is such a state: `_finalize` terminates it, and its edge leads on to `terminate`.
-/

namespace AgentRuntime.Graph
open Orchestration Transition Text

section PartialResponse

variable {state : AgentGraphState} {text : String}

/-- The text begins with a character that `strip` keeps. -/
def StartsSolid (text : String) : Prop := ∃ c rest, text.toList = c :: rest ∧ isSpace c = false

lemma StartsSolid.append (solid : StartsSolid text) (after : String) : StartsSolid (text ++ after) := by
  obtain ⟨c, rest, same, solid⟩ := solid
  exact ⟨c, rest ++ after.toList, by rw [String.toList_append, same, List.cons_append], solid⟩

lemma StartsSolid.intercalate {texts : List String} (separator : String) (nonempty : texts ≠ [])
    (solid : ∀ text ∈ texts, StartsSolid text) : StartsSolid (separator.intercalate texts) := by
  cases texts with
  | nil => exact absurd rfl nonempty
  | cons text texts =>
    have first : StartsSolid text := solid text (.head _)
    by_cases last : texts = []
    · subst last
      rw [String.intercalate_singleton]
      exact first
    · rw [String.intercalate_cons_of_ne_nil last, String.append_assoc]
      exact first.append _

lemma completedSections_solid {items : List TaskResult} : ∀ {index : Nat},
    ∀ text ∈ completedSections index items, StartsSolid text := by
  induction items with
  | nil =>
    intro index text mem
    cases mem
  | cons item items ih =>
    intro index text mem
    rw [completedSections, List.mem_append, completedSection] at mem
    rcases mem with here | later
    · split at here
      · cases here
      · rw [List.mem_singleton.mp here, String.append_assoc, String.append_assoc]
        apply StartsSolid.append
        exact ⟨'C', _, rfl, rfl⟩
    · exact ih text later

/-- Every section of a partial response begins with its heading. -/
lemma partialSections_solid : ∀ text ∈ partialSections state, StartsSolid text := by
  intro text mem
  simp only [partialSections, List.mem_append] at mem
  rcases mem with (completed | candidate) | current
  · exact completedSections_solid text completed
  · rw [candidateSection] at candidate
    split at candidate
    · cases candidate
    · rw [List.mem_singleton.mp candidate]
      apply StartsSolid.append
      exact ⟨'C', _, rfl, rfl⟩
  · rw [currentSection] at current
    split at current
    · rw [List.mem_singleton.mp current]
      apply StartsSolid.append
      exact ⟨'I', _, rfl, rfl⟩
    · cases current

/-- A partial response begins with a heading and ends with a full stop. -/
lemma partialResponse_shape (state : AgentGraphState) :
    ∃ c rest, (partialResponse state).toList = c :: rest ++ ['.'] ∧ isSpace c = false := by
  have ends : ∃ body, StartsSolid body ∧ partialResponse state = body ++ "." := by
    simp only [partialResponse]
    split
    · refine ⟨_, ?_, rfl⟩
      apply StartsSolid.append
      exact ⟨'E', _, rfl, rfl⟩
    · next nonempty =>
      have joined := StartsSolid.intercalate "\n\n" nonempty partialSections_solid
      have stop : ". Treat any in-progress output as unverified." =
        ". Treat any in-progress output as unverified" ++ "." := rfl
      rw [stop, ← String.append_assoc, ← String.append_assoc]
      refine ⟨_, ?_, rfl⟩
      rw [String.append_assoc]
      exact joined.append _
  obtain ⟨body, ⟨c, rest, same, solid⟩, response⟩ := ends
  refine ⟨c, rest, ?_, solid⟩
  rw [response, String.toList_append, same]
  rfl

/-- The partial response is not empty. -/
lemma partialResponse_ne (state : AgentGraphState) : partialResponse state ≠ "" := by
  obtain ⟨c, rest, shape, -⟩ := partialResponse_shape state
  intro empty
  rw [empty] at shape
  cases shape

/-- A partial response has no blanks around it. -/
lemma strip_partialResponse (state : AgentGraphState) :
    strip (partialResponse state) = partialResponse state := by
  obtain ⟨c, rest, shape, solid⟩ := partialResponse_shape state
  have bare : stripIf isSpace (c :: rest ++ ['.'] ++ []) = c :: rest ++ ['.'] :=
    stripIf_append solid rfl (List.forall_mem_nil _)
  rw [List.append_nil, ← shape] at bare
  rw [strip, bare, String.ofList_toList]

/-- Each section stands in the partial response. -/
lemma section_in_response (mem : text ∈ partialSections state) :
    Contains (partialResponse state) text := by
  simp only [partialResponse]
  split
  · next empty =>
    rw [empty] at mem
    cases mem
  · have joined := (Contains.intercalate "\n\n" mem).around ""
    simp only [String.empty_append] at joined
    exact joined _

/-- A partial response that is terminated again stands in the new one, under a heading. -/
lemma terminate_grows (agent : ChatAgent) (state : AgentGraphState) :
    (agent.terminate state).response.length <
      (agent.terminate (agent.terminate state)).response.length := by
  show (partialResponse state).length < (partialResponse (agent.terminate state)).length
  let quoted := "Candidate final answer (not fully verified):\n" ++ partialResponse state
  have candidate : candidateSection (partialResponse state) = [quoted] := by
    rw [candidateSection, strip_partialResponse, if_neg (partialResponse_ne state)]
  have mem : quoted ∈ partialSections (agent.terminate state) := by
    apply List.mem_append_left
    apply List.mem_append_right
    show quoted ∈ candidateSection (partialResponse state)
    rw [candidate]
    exact .head _
  have within := (section_in_response mem).length_le
  rw [String.length_toList, String.length_toList, String.length_append] at within
  have heading : 0 < "Candidate final answer (not fully verified):\n".length := by decide +kernel
  omega

end PartialResponse

namespace ChatAgent

variable {agent : ChatAgent} {world : World} {state failed : AgentGraphState}
variable {budget : ExecutionBudget}

/-- The state that `_finalize` terminates by itself, if it fails: there is a reason to stop already, or
    the synthesis fails. -/
def finalizeFails (agent : ChatAgent) (world : World) (state : AgentGraphState)
    (budget : ExecutionBudget) : Option AgentGraphState :=
  if state.stopped then some state
  else if agent.settings.llmBackend = .ollama ∧ 1 < state.taskResults.length then
    match agent.selectModel .synthesis state.inventory with
    | .error _ => none
    | .ok _ =>
      match (textOperation world.texts budget).1 with
      | .error .cancelled => none
      | .error error => some (state.stop ("final synthesis failed: " ++ error.typeName))
      | .ok _ => none
  else none

/-- A failing `_finalize` terminates its state, which has a reason to stop. -/
lemma finalize_fails (fails : agent.finalizeFails world state budget = some failed) :
    (agent.finalize world state budget).1 = .ok (agent.terminate failed) ∧ failed.stopped = true := by
  simp only [finalizeFails] at fails
  simp only [finalize]
  split at fails
  · next stopped =>
    cases fails
    rw [if_pos stopped]
    exact ⟨rfl, stopped⟩
  · next going =>
    rw [if_neg going]
    split at fails
    · next synthesizes =>
      rw [if_pos synthesizes]
      cases selected : agent.selectModel .synthesis state.inventory with
      | error error =>
        rw [selected] at fails
        cases fails
      | ok model =>
        rw [selected] at fails
        dsimp only at fails ⊢
        generalize textOperation world.texts budget = operation at fails ⊢
        rcases operation with ⟨result, budget'⟩
        cases result with
        | ok response => cases fails
        | error error =>
          cases error with
          | cancelled => cases fails
          | _ =>
            cases fails
            refine ⟨rfl, ?_⟩
            rw [AgentGraphState.stop_stopped, decide_eq_true_iff]
            exact failureReason_ne "final synthesis failed: " _ (by decide)
    · cases fails

/-- A run that fails in `_finalize` goes on to `terminate`, where it is terminated again. -/
lemma finalize_fails_final {c final : Configuration} {events : List (Event Configuration World)}
    {e : Event Configuration World} (run : Run agent.Step c events final) (mem : e ∈ events)
    (position : e.pre.position = .node .finalize)
    (fails : agent.finalizeFails e.label e.pre.state e.pre.budget = some failed)
    (finished : final.position = .finished) :
    final.state.response = (agent.terminate (agent.terminate failed)).response := by
  obtain ⟨before, after, rfl⟩ := List.append_of_mem mem
  obtain ⟨_, -, rest⟩ := run.split
  obtain ⟨rfl, st, rest⟩ := rest.head
  obtain ⟨returns, stopped⟩ := finalize_fails fails
  obtain ⟨node, position', -, ⟨state, budget, returned, post⟩ | ⟨error, budget, raised, -⟩⟩ :=
    step_cases st
  · rw [position] at position'
    cases position'
    cases (congrArg Prod.fst returned).symm.trans returns
    have routed : agent.edge .finalize (agent.terminate failed) = .node .terminate := by
      exact edge_stopped stopped (by decide) (by decide) (by decide)
    rw [routed] at post
    have there : e.post.position = .node .terminate := by rw [post]
    obtain ⟨rfl, rfl⟩ | ⟨_, _, rfl⟩ := run_terminate rest there
    · rw [there] at finished
      cases finished
    · rw [post]
      rfl
  · rw [position] at position'
    cases position'
    cases (congrArg Prod.fst raised).symm.trans returns

/-- To terminate a state again always changes its response: the new one quotes the old one. So does every
    run that fails in `_finalize`. -/
theorem terminates_twice (agent : ChatAgent) :
    (∀ state : AgentGraphState,
      (agent.terminate (agent.terminate state)).response ≠ (agent.terminate state).response) ∧
    ∀ (c final : Configuration) (events : List (Event Configuration World)),
      Run agent.Step c events final → ∀ e ∈ events, e.pre.position = .node .finalize →
      ∀ failed, agent.finalizeFails e.label e.pre.state e.pre.budget = some failed →
      final.position = .finished →
      final.state.response ≠ (agent.terminate failed).response := by
  have grows (state : AgentGraphState) :
      (agent.terminate (agent.terminate state)).response ≠ (agent.terminate state).response := by
    intro same
    have longer := terminate_grows agent state
    rw [same] at longer
    exact absurd longer (Nat.lt_irrefl _)
  refine ⟨grows, ?_⟩
  intro c final events run e mem position failed fails finished
  rw [finalize_fails_final run mem position fails finished]
  exact grows failed

/-- The synthesis of more than one result fails when the model operation raises. -/
lemma finalizeFails_raised {model type : String} (going : state.stopped = false)
    (ollama : agent.settings.llmBackend = .ollama) (several : 1 < state.taskResults.length)
    (selected : agent.selectModel .synthesis state.inventory = .ok model)
    (raised : (textOperation world.texts budget).1 = .error (.raised type)) :
    agent.finalizeFails world state budget =
      some (state.stop ("final synthesis failed: " ++ type)) := by
  rw [finalizeFails, if_neg (Bool.eq_false_iff.mp going), if_pos ⟨ollama, several⟩, selected]
  dsimp only
  rw [raised]
  rfl

/-- The synthesizer fails in `_finalize`, after two tasks. -/
def failingSynthesis (n : Nat) (_ : Configuration) : World :=
  let world := sampleWorld 1 ⟨.pass, true, [], []⟩ ⟨.pass, true, [], [], fun _ => rfl⟩
  if n = 7 then
    { world with texts := ⟨0, fun _ => { now := 0, reply := .raised "OllamaError" false }⟩ }
  else world

/-- The run that fails there answers with a partial response that quotes a partial response. -/
theorem terminates_twice_sample :
    let agent := sampleAgent (sampleSettings .ollama)
    let start := agent.start (sampleState (sampleSettings .ollama)) 0
    let final := agent.after failingSynthesis start 9
    let stopped := (agent.after failingSynthesis start 7).state.stop
      ("final synthesis failed: " ++ "OllamaError")
    (agent.terminate (agent.terminate stopped)).response ≠ (agent.terminate stopped).response ∧
      final.state.response ≠ (agent.terminate stopped).response := by
  intro agent start final stopped
  have run : Run agent.Step start (agent.trace failingSynthesis start 9) final :=
    trace_run _ _ 8 (by decide +kernel)
  let late := agent.after failingSynthesis start 7
  have selected : agent.selectModel .synthesis late.state.inventory = .ok "gemma4:12b-it-qat" := by
    decide +kernel
  have fails : agent.finalizeFails (failingSynthesis 7 late) late.state late.budget = some stopped :=
    finalizeFails_raised (by decide +kernel) (by decide +kernel) (by decide +kernel) selected
      (by decide +kernel)
  obtain ⟨always, runs⟩ := terminates_twice agent
  refine ⟨always stopped, ?_⟩
  apply runs start final _ run _ (mem_trace failingSynthesis start (show 7 < 9 by decide))
  · decide +kernel
  · exact fails
  · decide +kernel

/-- So a state with a reason to stop is not left as it is when it is terminated again. -/
theorem terminate_not_idempotent :
    ¬ ∀ (agent : ChatAgent) (state : AgentGraphState), state.stopped = true →
      (agent.terminate (agent.terminate state)).response = (agent.terminate state).response := by
  intro claim
  let agent := sampleAgent (sampleSettings .ollama)
  let state := (sampleState (sampleSettings .ollama)).stop "final synthesis failed: OllamaError"
  have longer := terminate_grows agent state
  rw [claim agent state (by decide +kernel)] at longer
  exact absurd longer (Nat.lt_irrefl _)

end ChatAgent

end AgentRuntime.Graph
