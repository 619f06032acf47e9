import AgentRuntime.Graph.Control

/-!
# Work after a reason to stop

Once a node has recorded a reason to stop, only `terminate` should run. Every edge that asks for the
reason sees to that; the edge out of `revise_final` does not ask. So an invocation that is over respected
every recorded reason exactly when no final revision failed in it.
-/

namespace AgentRuntime.Graph
open Orchestration Transition

/-- After a step that leaves a reason to stop, every later step executes `terminate` and calls
    nothing. -/
def StopsAfterReason (events : List (Event Configuration World)) : Prop :=
  ∀ before e after, events = before ++ e :: after → e.post.state.stopped = true →
    ∀ e' ∈ after, e'.pre.position = .node .terminate ∧ e'.post.budget = e'.pre.budget

/-- The step executes a final revision that fails. -/
def FailedRevision (agent : ChatAgent) (e : Event Configuration World) : Prop :=
  e.pre.position = .node .reviseFinal ∧ agent.RevisionFails e.label e.pre.state e.pre.budget

section Moves

variable {V F : Nat} {terminates fails : Prop} {c c' : Control}

/-- A final revision is entered only while the run goes on. -/
lemma Move.revises (m : Move V F terminates fails c c')
    (position : c'.position = .node .reviseFinal) : c'.stopped = false := by
  cases m with
  | revisionFails | reviseFinal | stop | raise | terminate => cases position
  | _ => rfl

/-- A move that leaves a reason to stop leads to `terminate` or ends the run, unless it is a final
    revision that fails. -/
lemma Move.halts (m : Move V F terminates fails c c') (stopped : c'.stopped = true)
    (going : c.position = .node .reviseFinal → c.stopped = false ∧ ¬ fails) :
    c'.position = .node .terminate ∨ c'.position = .finished ∨
      ∃ error, c'.position = .aborted error := by
  cases m with
  | raise => exact .inr (.inr ⟨_, rfl⟩)
  | stop => exact .inl rfl
  | revisionFails fails => exact absurd fails (going rfl).2
  | reviseFinal =>
    have idle := (going rfl).1
    simp only at idle stopped
    rw [stopped] at idle
    cases idle
  | terminate => exact .inr (.inl rfl)
  | _ => cases stopped

end Moves

namespace ChatAgent

variable {agent : ChatAgent} {world : World} {state state' : AgentGraphState} {now : Time}
variable {c c' : Configuration} {events : List (Event Configuration World)} {final : Configuration}

/-- From `terminate`, a run executes that node at most, and it calls nothing. -/
lemma terminate_only (run : Run agent.Step c events final)
    (position : c.position = .node .terminate) :
    ∀ e ∈ events, e.pre.position = .node .terminate ∧ e.post.budget = e.pre.budget := by
  obtain ⟨rfl, -⟩ | ⟨world, rfl, rfl⟩ := run_terminate run position
  · exact List.forall_mem_nil _
  · intro e mem
    rw [List.mem_singleton] at mem
    subst mem
    exact ⟨position, rfl⟩

/-- A failed revision leaves a reason to stop, and leads to the final verification. -/
lemma Step.failed_revision (st : agent.Step c world c') (position : c.position = .node .reviseFinal)
    (fails : RevisionFails agent world c.state c.budget) :
    c'.state.stopped = true ∧ c'.position = .node .verifyFinal := by
  obtain ⟨node, at_node, -, ⟨state, budget, returned, rfl⟩ | ⟨error, budget, raised, rfl⟩⟩ :=
    step_cases st
  · rw [position] at at_node
    cases at_node
    obtain ⟨-, -, stopped⟩ | ⟨succeeds, -⟩ := reviseFinal_ok returned
    · exact ⟨stopped, rfl⟩
    · exact absurd fails succeeds
  · rw [position] at at_node
    cases at_node
    exact absurd fails (reviseFinal_error raised).2

/-- A failed revision in a run that is over is followed by a final verification, after the reason to
    stop. -/
lemma not_stopsAfterReason (run : Run agent.Step c events final) (ended : final.ended = true)
    {e : Event Configuration World} (mem : e ∈ events) (failed : FailedRevision agent e) :
    ¬ StopsAfterReason events := by
  intro stops
  obtain ⟨stopped, position⟩ := (run.step_of_mem mem).failed_revision failed.1 failed.2
  obtain ⟨before, after, rfl⟩ := List.append_of_mem mem
  obtain ⟨middle, -, rest⟩ := run.split
  obtain ⟨rfl, -, rest⟩ := rest.head
  cases after with
  | nil =>
    cases rest
    simp [Configuration.ended, position] at ended
  | cons e' after =>
    have terminates := (stops before e (e' :: after) rfl stopped e' (.head _)).1
    rw [rest.head.1, position] at terminates
    cases terminates

/-- In an invocation that is over, only `terminate` was executed after every recorded reason to stop,
    and nothing was called any more, exactly when no final revision failed: its check was not refused
    and its synthesis did not raise. -/
theorem stops_after_reason_iff (run : Run agent.Step (agent.start state now) events final)
    (ended : final.ended = true) :
    StopsAfterReason events ↔ ∀ e ∈ events, ¬ FailedRevision agent e := by
  constructor
  · exact fun stops e mem failed => not_stopsAfterReason run ended mem failed stops
  · rintro succeed before e after rfl stopped
    have idle : e.pre.position = .node .reviseFinal → e.pre.state.stopped = false := by
      refine (run.invariant_mem (I := fun c => c.position = .node .reviseFinal →
        c.state.stopped = false) (G := fun _ => True) ?_ (fun _ _ => trivial) nofun
        (List.mem_append_right _ (.head _))).1
      exact fun e st _ _ position => st.move.revises position
    have st := run.step_of_mem (List.mem_append_right before (.head after))
    obtain ⟨middle, -, rest⟩ := run.split
    have rest := rest.head.2.2
    obtain terminate | ended := st.move.halts stopped fun position =>
      ⟨idle position, fun fails =>
        succeed e (List.mem_append_right _ (.head _)) ⟨position, fails⟩⟩
    · exact terminate_only rest terminate
    · rw [(run_over rest ended).1]
      exact List.forall_mem_nil _

/-- An answer to two tasks is revised at the end, and then the deadline has passed. -/
def lateVerification (n : Nat) (_ : Configuration) : World :=
  let world := sampleWorld 1 ⟨.pass, true, [], []⟩ ⟨.revise, false, [], [], nofun⟩
  if n < 10 then world else { world with now := seconds 1000 }

/-- A final revision is due. -/
def revisesNext (c : Configuration) : Bool :=
  match c.position with
  | .node .reviseFinal => true
  | _ => false

/-- The final revision succeeds; the check of the last verification is refused, and only `terminate` follows. -/
theorem stops_after_reason_iff_deadline :
    let agent := sampleAgent (sampleSettings .ollama)
    let events := agent.trace lateVerification (agent.start (sampleState (sampleSettings .ollama)) 0) 12
    (∃ e ∈ events, e.post.state.stopped = true ∧ e.post.ended = false) ∧ StopsAfterReason events := by
  intro agent events
  have run : Run agent.Step (agent.start (sampleState (sampleSettings .ollama)) 0) events
      (agent.after lateVerification (agent.start (sampleState (sampleSettings .ollama)) 0) 12) :=
    trace_run _ _ 11 (by decide +kernel)
  have succeeds : (events.all fun e => !revisesNext e.pre || !e.post.state.stopped) = true := by
    decide +kernel
  refine ⟨⟨_, mem_trace lateVerification _ (show 10 < 12 by decide), by decide +kernel, by decide +kernel⟩, ?_⟩
  refine (stops_after_reason_iff run (by decide +kernel)).mpr ?_
  intro e mem failed
  have stopped := ((run.step_of_mem mem).failed_revision failed.1 failed.2).1
  have going := List.all_eq_true.mp succeeds e mem
  rw [revisesNext, failed.1, stopped] at going
  cases going

/-- The synthesizer fails in the final revision of an answer to two tasks. -/
def failingRevision (n : Nat) (_ : Configuration) : World :=
  let world := sampleWorld 1 ⟨.pass, true, [], []⟩ ⟨.revise, false, [], [], nofun⟩
  if n = 9 then
    { world with texts := ⟨0, fun _ => { now := 0, reply := .raised "OllamaError" false }⟩ }
  else world

/-- After that failure, the final verifier is called once more. -/
theorem works_after_reason :
    ¬ ∀ (agent : ChatAgent) (state : AgentGraphState) (now : Time)
      (events : List (Event Configuration World)) (final : Configuration),
      Run agent.Step (agent.start state now) events final → StopsAfterReason events := by
  intro claim
  let agent := sampleAgent (sampleSettings .ollama)
  let start := agent.start (sampleState (sampleSettings .ollama)) 0
  have run : Run agent.Step start (agent.trace failingRevision start 12)
      (agent.after failingRevision start 12) := trace_run _ _ 11 (by decide +kernel)
  refine not_stopsAfterReason run (by decide +kernel)
    (mem_trace failingRevision start (show 9 < 12 by decide)) ⟨by decide +kernel, .inr ?_⟩
    (claim _ _ _ _ _ run)
  exact ⟨⟨"gemma4:12b-it-qat", by decide +kernel⟩, .raised "OllamaError", by decide +kernel,
    by decide⟩

end ChatAgent

end AgentRuntime.Graph
