import AgentRuntime.Api.Chat
import AgentRuntime.Lib.EventStream
import AgentRuntime.Orchestration.Answers

/-!
# What a stream tells

At every moment a stream has sent the first of what it has to tell, and when it comes to its end it has told the
result of its handler. A client that reads the body with any reader of event streams gets the events as they were
sent, however much of the body has arrived.
-/

namespace AgentRuntime.Api
open State Orchestration Transition

section Shape

variable {agent : ChatRuntimeAgent} (requests : Nat → Request) (opening : Opening) (handler : Nat)

/-- What was sent, wherever the stream is: the announcements so far; what the request was refused with; less than
    the whole, to a client that left; or the whole. -/
inductive Tells (s : Streamed agent) : Prop where
  | opening :
    s.stage = .opening →
    s.sent = [] →
    s.task = false →
    Tells s
  | started :
    s.stage = .started →
    opening.refused = none →
    s.sent = [requestStarted opening (requests handler).identity] →
    s.task = false →
    Tells s
  | polling {count} :
    s.stage = .polling →
    opening.refused = none →
    s.sent = announced opening (requests handler).identity count →
    (s.task = true → 0 < count) →
    Tells s
  | sleeping {count} :
    s.stage = .sleeping →
    opening.refused = none →
    s.sent = announced opening (requests handler).identity count →
    Tells s
  | refused {error} :
    s.stage = .closed →
    opening.refused = some error →
    s.sent = errorItems error →
    Tells s
  | cut {count} :
    s.stage = .closed →
    (opening.refused ≠ none → s.sent = []) →
    s.sent <+: announced opening (requests handler).identity count →
    Tells s
  | ended {count result} :
    s.stage = .closed →
    opening.refused = none →
    0 < count →
    s.system.phases handler = .done result →
    s.sent = announced opening (requests handler).identity count ++ ending result →
    Tells s

/-- The handler of the stream waits until its task is created, and the stream tells what it should. -/
structure Telling (s : Streamed agent) : Prop where
  waiting : s.task = false → s.system.phases handler = .start
  tells : Tells requests opening handler s

variable {requests opening handler} {s s' final : Streamed agent} {system : System agent} {t : Turn}

/-- A result stays. -/
lemma done_stays {t t' : System agent} (st : System.Step requests t turn t') {i : Nat}
    {result : Except RequestError ChatResponse} (done : t.phases i = .done result) :
    t'.phases i = .done result := by
  obtain ⟨p', gate', advanced, phases, -⟩ := System.step_advance st
  obtain ⟨rfl, own⟩ | ⟨-, other⟩ := phase_cases phases i
  · rw [own]
    have action := System.step_action st (by rw [done]; rfl)
    rw [action, done] at advanced
    exact (Prod.mk.inj advanced).1.symm
  · rw [other, done]

/-- The other handlers do not matter to what the stream tells. -/
lemma Tells.turn (tells : Tells requests opening handler s) (st : System.Step requests s.system t system) :
    Tells requests opening handler { s with system } := by
  cases tells with
  | opening stage sent task => exact .opening stage sent task
  | started stage accepted sent task => exact .started stage accepted sent task
  | polling stage accepted sent task => exact .polling stage accepted sent task
  | sleeping stage accepted sent => exact .sleeping stage accepted sent
  | refused stage refused sent => exact .refused stage refused sent
  | cut stage refused sent => exact .cut stage refused sent
  | ended stage accepted some done sent => exact .ended stage accepted some (done_stays st done) sent

/-- A stream that is closed has told the first of what it had to tell. -/
lemma Tells.close (tells : Tells requests opening handler s) :
    Tells requests opening handler { s with stage := .closed } := by
  have announcing {count : Nat} (accepted : opening.refused = none)
      (sent : s.sent <+: announced opening (requests handler).identity count) :
      Tells requests opening handler { s with stage := .closed } :=
    .cut rfl (fun refused => absurd accepted refused) sent
  cases tells with
  | opening _ sent =>
    have none : s.sent <+: announced opening (requests handler).identity 0 := by
      rw [sent]
      exact List.nil_prefix
    exact .cut rfl (fun _ => sent) none
  | started _ accepted sent =>
    have first : s.sent <+: announced opening (requests handler).identity 0 := by
      rw [sent, announced]
      exact List.prefix_append [_] _
    exact announcing accepted first
  | polling _ accepted sent => exact announcing accepted ⟨[], (List.append_nil _).trans sent⟩
  | sleeping _ accepted sent => exact announcing accepted ⟨[], (List.append_nil _).trans sent⟩
  | refused _ refused sent => exact .refused rfl refused sent
  | cut _ refused sent => exact .cut rfl refused sent
  | ended _ accepted some done sent => exact .ended rfl accepted some done sent

lemma announced_working (identity : RunIdentity) (count : Nat) :
    announced opening identity count ++ [working identity] = announced opening identity (count + 1) := by
  rw [announced, announced, List.replicate_succ', List.cons_append, List.cons_append]

/-- An event that is sent, or is not since the client has left. -/
lemma Tells.emit (tells : Tells requests opening handler s) (disconnected : Bool) {item : Item} {stage : Stage}
    (sent : Tells requests opening handler { s with sent := s.sent ++ [item], stage }) :
    Tells requests opening handler (s.emit disconnected item stage) := by
  cases disconnected with
  | true => exact tells.close
  | false => exact sent

lemma Telling.next (telling : Telling requests opening handler s) (disconnected : Bool) :
    Telling requests opening handler (s.next requests opening handler disconnected) := by
  obtain ⟨waiting, tells⟩ := telling
  have emitted {item : Item} {stage : Stage}
      (sent : Tells requests opening handler { s with sent := s.sent ++ [item], stage }) :
      Telling requests opening handler (s.emit disconnected item stage) := by
    refine ⟨?_, tells.emit disconnected sent⟩
    cases disconnected <;> exact waiting
  cases tells with
  | opening stage sent task =>
    simp only [Streamed.next, stage]
    cases refused : opening.refused with
    | none =>
      apply emitted
      exact .started rfl refused (by rw [sent]; rfl) task
    | some error =>
      refine ⟨waiting, .refused rfl refused ?_⟩
      show s.sent ++ _ = _
      rw [sent, List.nil_append]
  | started stage accepted sent task =>
    simp only [Streamed.next, stage]
    apply emitted
    have both : s.sent ++ [planningStarted (requests handler).identity] =
        announced opening (requests handler).identity 0 := by
      rw [sent]
      rfl
    refine .polling rfl accepted both ?_
    intro created
    cases task.symm.trans created
  | @polling count stage accepted sent task =>
    simp only [Streamed.next, stage]
    -- a handler is done only after its task was created, at the first event of the loop
    have created {result : Except RequestError ChatResponse} (done : s.system.phases handler = .done result) :
        0 < count := by
      refine task ?_
      cases none : s.task with
      | true => rfl
      | false => cases (waiting none).symm.trans done
    split
    · next response done =>
      apply emitted
      exact .ended rfl accepted (created done) done (by rw [sent]; rfl)
    · next error done =>
      refine ⟨waiting, .ended rfl accepted (created done) done ?_⟩
      show s.sent ++ _ = _
      rw [sent]
      rfl
    · refine ⟨?_, .sleeping rfl accepted sent⟩
      intro absent
      cases absent
  | sleeping stage accepted sent =>
    simp only [Streamed.next, stage]
    apply emitted
    exact .polling rfl accepted (by rw [sent, announced_working]) (fun _ => Nat.succ_pos _)
  | refused stage refused sent =>
    simp only [Streamed.next, stage]
    exact ⟨waiting, .refused stage refused sent⟩
  | cut stage refused sent =>
    simp only [Streamed.next, stage]
    exact ⟨waiting, .cut stage refused sent⟩
  | ended stage accepted some done sent =>
    simp only [Streamed.next, stage]
    exact ⟨waiting, .ended stage accepted some done sent⟩

variable {now : Time} {events : List (Event (Streamed agent) Move)}

lemma Telling.start (now : Time) : Telling requests opening handler (Streamed.start agent now) where
  waiting _ := rfl
  tells := .opening rfl rfl rfl

lemma Telling.step {move : Move} (telling : Telling requests opening handler s)
    (st : Streamed.Step requests opening handler s move s') : Telling requests opening handler s' := by
  cases st with
  | @turn t system st created =>
    refine ⟨?_, telling.tells.turn st⟩
    intro absent
    obtain ⟨p', gate', -, phases, -⟩ := System.step_advance st
    show system.phases handler = .start
    rw [phases, Function.update_of_ne, telling.waiting absent]
    rintro rfl
    cases absent.symm.trans (created rfl)
  | next => exact telling.next _
  | cancel => exact ⟨telling.waiting, telling.tells.close⟩

/-- The stream itself does nothing to the handlers. -/
lemma Streamed.next_system (s : Streamed agent) (disconnected : Bool) :
    (s.next requests opening handler disconnected).system = s.system := by
  have emitted (item : Item) (stage : Stage) : (s.emit disconnected item stage).system = s.system := by
    cases disconnected <;> rfl
  simp only [Streamed.next]
  split
  · split
    · exact emitted _ _
    · rfl
  · exact emitted _ _
  · split
    · exact emitted _ _
    · rfl
    · rfl
  · exact emitted _ _
  · rfl

/-- The move is one at which the handler goes on. -/
def movesOn (i : Nat) (e : Event (Streamed agent) Move) : Bool :=
  match e.label with
  | .turn turn => turn.handler = i && turn.action = .resume
  | _ => false

/-- The handlers of a run with a stream are a run of their own. -/
lemma Streamed.system_run (run : Run (Streamed.Step requests opening handler) s events final) :
    ∃ turns, Run (System.Step requests) s.system turns final.system ∧
      ∀ i, turns.countP (goesOn i) = events.countP (movesOn i) := by
  induction run with
  | nil => exact ⟨[], .nil, fun _ => rfl⟩
  | @cons s move s' events final st _ ih =>
    obtain ⟨turns, run, counts⟩ := ih
    cases st with
    | @turn t _ st =>
      refine ⟨⟨_, t, _⟩ :: turns, .cons st run, ?_⟩
      intro i
      rw [List.countP_cons, List.countP_cons, counts]
      rfl
    | next =>
      rw [Streamed.next_system] at run
      refine ⟨turns, run, ?_⟩
      intro i
      rw [counts, List.countP_cons]
      rfl
    | cancel =>
      refine ⟨turns, run, ?_⟩
      intro i
      rw [counts, List.countP_cons]
      rfl

lemma Telling.run (run : Run (Streamed.Step requests opening handler) (.start agent now) events final) :
    Telling requests opening handler final :=
  run.invariant (I := Telling requests opening handler) (G := fun _ => True)
    (fun _ st _ telling => telling.step st) (fun _ _ => trivial) (.start now)

end Shape

section Reading

variable {agent : ChatRuntimeAgent} {requests : Nat → Request} {opening : Opening} {handler : Nat}
variable {now : Time} {events : List (Event (Streamed agent) Move)} {final : Streamed agent}

/-- What a client makes of an event that it has read. -/
def received (floats : FloatCodec) (event : EventStream.Event) : List Char × Option Json :=
  (event.type, Json.parse floats (String.ofList event.data))

/-- An event that was sent, as the client is to see it. -/
def Item.told (item : Item) : List Char × Option Json := (item.event.toList, some (.obj item.data))

/-- An event whose name is a word and whose data is JSON. -/
structure Item.Clean (item : Item) : Prop where
  named : item.event.toList ≠ []
  oneLine : EventStream.OneLine item.event.toList
  valid : Json.Valid (.obj item.data)

lemma sseText_frame (floats : FloatCodec) (name : String) (value : Json) :
    (Mcp.sseText name (value.text floats { ascii := false })).toList =
      EventStream.frame name.toList (value.write floats { ascii := false }) := by
  have event : "event: ".toList = "event".toList ++ [':', ' '] := by decide
  have data : "\ndata: ".toList = '\n' :: ("data".toList ++ [':', ' ']) := by decide
  have blank : "\n\n".toList = ['\n', '\n'] := by decide
  simp only [Mcp.sseText, Json.text, String.toList_append, String.toList_ofList, event, data, blank,
    EventStream.frame, EventStream.fieldLine, List.append_assoc, List.cons_append, List.nil_append]

/-- JSON text stays on one line. -/
lemma oneLine_write (floats : FloatCodec) {style : JsonStyle} {value : Json} (valid : value.Valid) :
    EventStream.OneLine (value.write floats style) := by
  have unbroken (c : Char) (low : c.toNat < 127) (isBreak : Mcp.isLineBreak c = true) :
      c ∉ value.write floats style := by
    intro mem
    have beyond := (Mcp.written_break valid mem isBreak).1
    omega
  intro c mem
  constructor
  · rintro rfl
    exact unbroken _ (by decide) (by decide) mem
  · rintro rfl
    exact unbroken _ (by decide) (by decide) mem

/-- A client reads the events that were sent. -/
lemma read_body (floats : FloatCodec) {items : List Item} (clean : ∀ item ∈ items, item.Clean) :
    (EventStream.read (body floats items)).map (received floats) = items.map Item.told := by
  let written (item : Item) : List Char × List Char :=
    (item.event.toList, Json.write floats { ascii := false } (.obj item.data))
  have frames : body floats items = (items.map written).flatMap fun f => EventStream.frame f.1 f.2 := by
    rw [body, List.flatMap_map]
    exact List.flatMap_congr fun item _ => sseText_frame floats item.event (.obj item.data)
  rw [frames, EventStream.read_frames, List.map_map, List.map_map]
  · refine List.map_congr_left ?_
    intro item mem
    have back := parse_text floats { ascii := false } (clean item mem).valid
    exact Prod.ext rfl back
  · intro f writes
    obtain ⟨item, mem, rfl⟩ := List.mem_map.mp writes
    exact ⟨(clean item mem).named, (clean item mem).oneLine, oneLine_write floats (clean item mem).valid⟩

lemma announced_clean (identity : RunIdentity) (count : Nat) :
    ∀ item ∈ announced opening identity count, item.Clean := by
  intro item mem
  rcases List.mem_cons.mp mem with rfl | mem
  · refine ⟨by simp [requestStarted], by simp only [requestStarted]; decide, .obj (by simp [requestStarted]) ?_⟩
    simp only [requestStarted, List.forall_mem_cons]
    exact ⟨.str, .str, .str, .str, .bool, .str, .int, List.forall_mem_nil _⟩
  rcases List.mem_cons.mp mem with rfl | mem
  · refine ⟨by simp [planningStarted], by simp only [planningStarted]; decide, .obj (by simp [planningStarted]) ?_⟩
    simp only [planningStarted, List.forall_mem_cons]
    exact ⟨.str, .str, List.forall_mem_nil _⟩
  · cases List.eq_of_mem_replicate mem
    refine ⟨by simp [working], by simp only [working]; decide, .obj (by simp [working]) ?_⟩
    simp only [working, List.forall_mem_cons]
    exact ⟨.str, .str, .str, List.forall_mem_nil _⟩

lemma errorItems_clean (error : RequestError) : ∀ item ∈ errorItems error, item.Clean := by
  have generic : Item.Clean { event := "error", data := [("message", .str safeError)] } := by
    refine ⟨by simp, by decide, .obj (by simp) ?_⟩
    simp only [List.forall_mem_cons]
    exact ⟨.str, List.forall_mem_nil _⟩
  intro item mem
  cases error with
  | cancelled => cases mem
  | raised type =>
    cases List.mem_singleton.mp mem
    exact generic
  | repository error =>
    cases error with
    | identity cls message =>
      cases List.mem_singleton.mp mem
      have oneLine : EventStream.OneLine "error".toList := by decide
      refine ⟨by simp, oneLine, .obj (by simp) ?_⟩
      simp only [List.forall_mem_cons]
      exact ⟨.str, .int, .str, List.forall_mem_nil _⟩
    | keyError key =>
      cases List.mem_singleton.mp mem
      exact generic
    | database =>
      cases List.mem_singleton.mp mem
      exact generic

lemma completed_clean {response : ChatResponse} (valid : Json.Valid (.obj response.metadata)) :
    (completed response).Clean := by
  have dumped : Json.Valid (.obj response.modelDump) := by
    refine .obj (by simp [ChatResponse.modelDump]) ?_
    simp only [ChatResponse.modelDump, List.forall_mem_cons]
    refine ⟨.str, .str, .str, .str, .str, .str, ?_, valid, List.forall_mem_nil _⟩
    cases response.model with
    | none => exact .null
    | some model => exact .str
  refine ⟨by simp [completed], by simp only [completed]; decide, .obj (by simp [completed]) ?_⟩
  simp only [completed, List.forall_mem_cons]
  exact ⟨dumped, List.forall_mem_nil _⟩

lemma completed_inj {response response' : ChatResponse} (same : completed response = completed response') :
    response = response' := by
  have dumped : response.modelDump = response'.modelDump := by
    simpa [completed] using same
  obtain ⟨thread, conversation, run, execution, text, backend, model, metadata⟩ := response
  obtain ⟨thread', conversation', run', execution', text', backend', model', metadata'⟩ := response'
  simp only [ChatResponse.modelDump, List.cons.injEq, Prod.mk.injEq, true_and, Json.str.injEq, Json.obj.injEq,
    and_true] at dumped
  obtain ⟨rfl, rfl, rfl, rfl, rfl, rfl, models, rfl⟩ := dumped
  cases model with
  | none =>
    cases model' with
    | none => rfl
    | some model' => cases models
  | some model =>
    cases model' with
    | none => cases models
    | some model' =>
      cases models
      rfl

/-- Only the end speaks of a response. -/
lemma completed_not_announced {identity : RunIdentity} {count : Nat} (response : ChatResponse) :
    completed response ∉ announced opening identity count := by
  intro mem
  have named : ∀ item ∈ announced opening identity count, item.event ≠ "completed" := by
    intro item mem
    rcases List.mem_cons.mp mem with rfl | mem
    · exact (by decide : "request_started" ≠ "completed")
    rcases List.mem_cons.mp mem with rfl | mem
    · exact (by decide : "planning_started" ≠ "completed")
    · cases List.eq_of_mem_replicate mem
      exact (by decide : "working" ≠ "completed")
  exact named _ mem rfl

lemma completed_not_error {error : RequestError} (response : ChatResponse) :
    completed response ∉ errorItems error := by
  intro mem
  have named : ∀ item ∈ errorItems error, item.event = "error" := by
    intro item mem
    simp only [errorItems] at mem
    split at mem
    · rw [List.mem_singleton.mp mem]
    · cases mem
    · rw [List.mem_singleton.mp mem]
  exact absurd (named _ mem) (by decide : "completed" ≠ "error")

/-- A response that is sent is the result of the handler. -/
lemma Tells.completed (tells : Tells requests opening handler final) {response : ChatResponse}
    (mem : completed response ∈ final.sent) : final.system.phases handler = .done (.ok response) := by
  have early {count : Nat} (sent : final.sent <+: announced opening (requests handler).identity count) : False :=
    completed_not_announced response (sent.subset mem)
  cases tells with
  | opening _ sent =>
    rw [sent] at mem
    cases mem
  | started _ _ sent =>
    have first : final.sent <+: announced opening (requests handler).identity 0 := by
      rw [sent, announced]
      exact List.prefix_append [_] _
    exact (early first).elim
  | polling _ _ sent => exact (early ⟨[], (List.append_nil _).trans sent⟩).elim
  | sleeping _ _ sent => exact (early ⟨[], (List.append_nil _).trans sent⟩).elim
  | refused _ _ sent => exact absurd (sent ▸ mem) (completed_not_error response)
  | cut _ _ sent => exact (early sent).elim
  | @ended count result _ _ _ done sent =>
    rw [sent] at mem
    rcases List.mem_append.mp mem with announced | last
    · exact absurd announced (completed_not_announced response)
    · cases result with
      | error error => exact absurd last (completed_not_error response)
      | ok response' =>
        rw [done, completed_inj (List.mem_singleton.mp last)]

/-- What a stream may have sent, with its handler in this phase: of a request that is refused the error; otherwise
    the run, the planning and signs of life; and at the very end, after one of them at least, the result. -/
inductive Transcript (opening : Opening) (identity : RunIdentity) (phase : Phase) : Stage → List Item → Prop where
  | refused {error stage sent} :
    opening.refused = some error →
    sent <+: errorItems error →
    Transcript opening identity phase stage sent
  | begun {count stage sent} :
    opening.refused = none →
    sent <+: announced opening identity count →
    Transcript opening identity phase stage sent
  | whole {count result} :
    opening.refused = none →
    0 < count →
    phase = .done result →
    Transcript opening identity phase .closed (announced opening identity count ++ ending result)

lemma Tells.transcript (tells : Tells requests opening handler final) :
    Transcript opening (requests handler).identity (final.system.phases handler) final.stage final.sent := by
  have refused {error : RequestError} (refused : opening.refused = some error) (none : final.sent = []) :
      Transcript opening (requests handler).identity (final.system.phases handler) final.stage final.sent := by
    refine .refused refused ?_
    rw [none]
    exact List.nil_prefix
  cases tells with
  | opening _ sent =>
    cases accepted : opening.refused with
    | some error => exact refused accepted sent
    | none =>
      have first : final.sent <+: announced opening (requests handler).identity 0 := by
        rw [sent]
        exact List.nil_prefix
      exact .begun accepted first
  | started _ accepted sent =>
    have first : final.sent <+: announced opening (requests handler).identity 0 := by
      rw [sent, announced]
      exact List.prefix_append [_] _
    exact .begun accepted first
  | polling _ accepted sent => exact .begun accepted ⟨[], (List.append_nil _).trans sent⟩
  | sleeping _ accepted sent => exact .begun accepted ⟨[], (List.append_nil _).trans sent⟩
  | refused _ refused sent => exact .refused refused ⟨[], (List.append_nil _).trans sent⟩
  | cut _ none sent =>
    cases accepted : opening.refused with
    | some error => exact refused accepted (none (by rw [accepted]; simp))
    | none => exact .begun accepted sent
  | ended stage accepted some done sent =>
    rw [stage, sent]
    exact .whole accepted some done

/-- What a stream sends, at every moment, whoever else is handled, and whether or not the client leaves. A response
    that is sent is the one that the stream's handler returned, and of the conversation of its request. -/
theorem stream_tells (run : Run (Streamed.Step requests opening handler) (.start agent now) events final) :
    Transcript opening (requests handler).identity (final.system.phases handler) final.stage final.sent ∧
    ∀ response, completed response ∈ final.sent → final.system.phases handler = .done (.ok response) ∧
      response.conversationId = (requests handler).identity.conversationId := by
  have tells := (Telling.run run).tells
  refine ⟨tells.transcript, ?_⟩
  intro response mem
  have done := tells.completed mem
  obtain ⟨turns, system, -⟩ := Streamed.system_run run
  have reply : (final.system.phases handler).reply? = some response := by rw [done]; rfl
  exact ⟨done, (Sourced.run system).conversation reply⟩

/-- Everything that is sent is clean, if the metadata of the response is. -/
lemma Transcript.clean {identity : RunIdentity} {phase : Phase} {stage : Stage} {sent : List Item}
    (transcript : Transcript opening identity phase stage sent)
    (valid : ∀ response, phase = .done (.ok response) → Json.Valid (.obj response.metadata)) :
    ∀ item ∈ sent, item.Clean := by
  intro item mem
  cases transcript with
  | refused _ first => exact errorItems_clean _ item (first.subset mem)
  | begun _ first => exact announced_clean _ _ item (first.subset mem)
  | @whole count result _ _ done =>
    rcases List.mem_append.mp mem with announced | last
    · exact announced_clean _ _ item announced
    · cases result with
      | error error => exact errorItems_clean _ item last
      | ok response =>
        cases List.mem_singleton.mp last
        exact completed_clean (valid response done)

/-- A client that reads what has arrived of the body gets the first events that were sent, each with its data; and
    all of them when all has arrived. -/
theorem stream_reads (floats : FloatCodec)
    (run : Run (Streamed.Step requests opening handler) (.start agent now) events final)
    (valid : ∀ response, final.system.phases handler = .done (.ok response) → Json.Valid (.obj response.metadata))
    {arrived : List Char} (part : arrived <+: body floats final.sent) :
    (EventStream.read arrived).map (received floats) <+: final.sent.map Item.told ∧
      (arrived = body floats final.sent →
        (EventStream.read arrived).map (received floats) = final.sent.map Item.told) := by
  have whole := read_body floats ((Telling.run run).tells.transcript.clean valid)
  refine ⟨?_, ?_⟩
  · rw [← whole]
    exact (EventStream.read_prefix part).map _
  · rintro rfl
    exact whole

lemma Streamed.next_closed {s : Streamed agent} (closed : s.stage = .closed) {disconnected : Bool} :
    s.next requests opening handler disconnected = s := by
  simp only [Streamed.next, closed]

/-- When the stream's handler has gone on often enough and the client stays, the stream sends the result within two
    more awaits. -/
theorem stream_ends (run : Run (Streamed.Step requests opening handler) (.start agent now) events final)
    (often : 14 ≤ events.countP (movesOn handler)) (staying : final.stage ≠ .closed) :
    ∃ count result, final.system.phases handler = .done result ∧
      ((final.next requests opening handler false).next requests opening handler false).sent =
        announced opening (requests handler).identity count ++ ending result := by
  obtain ⟨turns, system, counts⟩ := Streamed.system_run run
  have rank := rank_run system handler
  have first : ((Streamed.start agent now).system.phases handler).rank = 14 := rfl
  have zero : (final.system.phases handler).rank = 0 := by
    rw [counts] at rank
    omega
  obtain ⟨result, done⟩ := done_of_rank zero
  have telling := Telling.run run
  have created : final.task = true := by
    cases absent : final.task with
    | true => rfl
    | false => cases (telling.waiting absent).symm.trans done
  have polled {s : Streamed agent} (stage : s.stage = .polling) (done : s.system.phases handler = .done result) :
      (s.next requests opening handler false).stage = .closed ∧
        (s.next requests opening handler false).sent = s.sent ++ ending result := by
    simp only [Streamed.next, stage, done]
    cases result with
    | ok response => exact ⟨rfl, rfl⟩
    | error error => exact ⟨rfl, rfl⟩
  cases telling.tells with
  | opening _ _ absent => cases absent.symm.trans created
  | started _ _ _ absent => cases absent.symm.trans created
  | @polling count stage _ sent =>
    obtain ⟨closed, ended⟩ := polled stage done
    refine ⟨count, result, done, ?_⟩
    rw [Streamed.next_closed closed, ended, sent]
  | @sleeping count stage _ sent =>
    have woken : final.next requests opening handler false =
        final.emit false (working (requests handler).identity) .polling := by
      simp only [Streamed.next, stage]
    have polling : (final.emit false (working (requests handler).identity) .polling).stage = .polling := rfl
    obtain ⟨-, ended⟩ := polled polling done
    refine ⟨count + 1, result, done, ?_⟩
    rw [woken, ended, ← announced_working, ← sent]
    rfl
  | refused closed => exact absurd closed staying
  | cut closed => exact absurd closed staying
  | ended closed => exact absurd closed staying

end Reading

section Samples

/-- A token for examples; no client reads it. -/
def sampleOpening : Opening where
  resumeToken := "token"
  tokenTtlSeconds := 3600

/-- The stream of the first request of the examples goes on. -/
def sampleNext (s : Streamed sampleRuntime) : Streamed sampleRuntime :=
  s.next sampleRequest sampleOpening 0 false

abbrev SampleStep : Streamed sampleRuntime → Move → Streamed sampleRuntime → Prop :=
  Streamed.Step sampleRequest sampleOpening 0

/-- A stream that sleeps, next to a handler that has not gone on. -/
def sampleSleeping : Streamed sampleRuntime :=
  sampleNext (sampleNext (sampleNext (.start sampleRuntime 0)))

lemma sampleNext_step (s : Streamed sampleRuntime) : SampleStep s (.next false) (sampleNext s) := .next

lemma sampleSleeping_run : ∃ events, Run SampleStep (.start sampleRuntime 0) events sampleSleeping :=
  ⟨_, .cons (sampleNext_step _) (.cons (sampleNext_step _) (.single (sampleNext_step _)))⟩

/-- The stream after its handler has gone on to its end. -/
def sampleWaiting : Streamed sampleRuntime := { sampleSleeping with system := firstAfter 14 }

lemma sampleWaiting_run : ∃ events, Run SampleStep (.start sampleRuntime 0) events sampleWaiting ∧
    14 ≤ events.countP (movesOn 0) := by
  obtain ⟨events, opened⟩ := sampleSleeping_run
  have handled : Run SampleStep sampleSleeping _ sampleWaiting :=
    (first_run 14).map (I := fun _ => True) (fun system => { sampleSleeping with system })
      (fun e => .turn e.label) (fun e st _ => ⟨trivial, .turn st fun _ => rfl⟩) trivial
  refine ⟨_, opened.append handled, ?_⟩
  have turns : 14 ≤ (firstEvents 14).countP (goesOn 0) := by
    rw [firstEvents, countP_history]
    decide
  rw [List.countP_append, List.countP_map]
  exact turns.trans (Nat.le_add_left _ _)

/-- The stream after it has told the result. -/
theorem stream_ends_sample : ∃ count result, (firstAfter 14).phases 0 = .done result ∧
    (sampleNext (sampleNext sampleWaiting)).sent =
      announced sampleOpening (sampleRequest 0).identity count ++ ending result := by
  obtain ⟨events, run, often⟩ := sampleWaiting_run
  exact stream_ends run often (by decide)

/-- The stream at its end. -/
def sampleEnded : Streamed sampleRuntime := sampleNext (sampleNext sampleWaiting)

lemma sampleEnded_run : ∃ events, Run SampleStep (.start sampleRuntime 0) events sampleEnded := by
  obtain ⟨events, run, -⟩ := sampleWaiting_run
  exact ⟨_, run.append (.cons (sampleNext_step _) (.single (sampleNext_step _)))⟩

/-- It has told the response that the handler returned. -/
lemma sampleEnded_tells : ∃ response, sampleEnded.system.phases 0 = .done (.ok response) ∧
    response.metadata = [("persistence", .obj [("history_persisted", .bool true)])] ∧ sampleEnded.stage = .closed ∧
    sampleEnded.sent = announced sampleOpening (sampleRequest 0).identity 1 ++ [completed response] :=
  ⟨_, rfl, rfl, rfl, rfl⟩

lemma sampleEnded_valid : ∀ response, sampleEnded.system.phases 0 = .done (.ok response) →
    Json.Valid (.obj response.metadata) := by
  obtain ⟨response, done, metadata, -⟩ := sampleEnded_tells
  intro response' done'
  cases done.symm.trans done'
  rw [metadata]
  refine .obj (List.nodup_singleton _) (List.forall_mem_singleton.mpr ?_)
  exact .obj (List.nodup_singleton _) (List.forall_mem_singleton.mpr .bool)

/-- Without the last character that was sent, a client reads the first events. -/
theorem stream_reads_sample : ∃ arrived c, body sampleFloats sampleEnded.sent = arrived ++ [c] ∧
    (EventStream.read arrived).map (received sampleFloats) <+: sampleEnded.sent.map Item.told ∧
    (EventStream.read (arrived ++ [c])).map (received sampleFloats) = sampleEnded.sent.map Item.told := by
  obtain ⟨events, run⟩ := sampleEnded_run
  have reads {arrived : List Char} (part : arrived <+: body sampleFloats sampleEnded.sent) :=
    stream_reads sampleFloats run sampleEnded_valid part
  have all := (reads List.prefix_rfl).2 rfl
  obtain nothing | ⟨arrived, c, whole⟩ := List.eq_nil_or_concat (body sampleFloats sampleEnded.sent)
  · obtain ⟨response, -, -, -, sent⟩ := sampleEnded_tells
    have none : EventStream.read [] = [] := rfl
    rw [nothing, none, sent] at all
    cases all
  · rw [List.concat_eq_append] at whole
    rw [whole] at all
    exact ⟨arrived, c, whole, (reads ⟨[c], whole.symm⟩).1, all⟩

theorem stream_tells_sample : sampleEnded.stage = .closed ∧
    Transcript sampleOpening (sampleRequest 0).identity (sampleEnded.system.phases 0) .closed sampleEnded.sent ∧
    ∃ response, completed response ∈ sampleEnded.sent ∧ response.conversationId = "support" := by
  obtain ⟨events, run⟩ := sampleEnded_run
  obtain ⟨response, done, -, closed, sent⟩ := sampleEnded_tells
  obtain ⟨transcript, told⟩ := stream_tells run
  have mem : completed response ∈ sampleEnded.sent := by
    rw [sent]
    exact List.mem_append_right _ (.head _)
  rw [closed] at transcript
  exact ⟨closed, transcript, response, mem, (told response mem).2⟩

end Samples

end AgentRuntime.Api
