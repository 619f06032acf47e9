import AgentRuntime.Mcp.Traffic

/-!
# No replay of tool calls

A call of a tool hands its request to the HTTP client at most once, and a refresh of the tool list at most
twice, the second time with the credentials of a session that replaced an expired one. The HTTP client
itself sends a message again only for a redirect that it follows.
-/

namespace AgentRuntime.Mcp
open State Transition

/-- How often a message of the call with this method went out. -/
def transmitted (method : String) (id : Nat) (sent : List Transmission) : Nat :=
  sent.countP fun t => t.call = id && isText method (t.post.payload.get? "method")

/-- How often a message of the call with this method was handed to the HTTP client. -/
def handedOver (method : String) (id : Nat) (sent : List Transmission) : Nat :=
  sent.countP fun t => t.call = id && !t.redirected && isText method (t.post.payload.get? "method")

/-- The HTTP client keeps the body of a message for this redirect. -/
def keepsBody : ClientInput → Bool
  | .redirected statusCode => statusCode = 307 || statusCode = 308
  | _ => false

/-- The message on its way has this method. -/
def carries (method : String) : Phase → Bool
  | .exchanging _ _ exchange _ => isText method (exchange.post.payload.get? "method")
  | _ => false

/-- The redirects with which the HTTP client sent a message of the call again. -/
def followed (method : String) (id : Nat) (es : List (Event Traffic Resumption)) : Nat :=
  es.countP fun e => e.label.id = id && keepsBody e.label.input && carries method (e.pre.phases id)

section Counts

variable {expired : Nat → Prop} {own : List Transmission} {generation : Nat}

/-- Whatever a call is at, it has handed over two requests at most, and two for a tool list only. -/
lemma Standing.atMost {phase : Phase} (stands : Standing expired own generation phase) :
    SentAtMost expired own := by
  have once {task : Task} {why : Purpose} (sent : SentFor expired own task why) :
      SentAtMost expired own := sent.atMost
  cases phase with
  | idle | waitingTools | closing => exact .inl stands
  | waitingSession => exact once stands.1
  | done => exact stands
  | exchanging task stage exchange delivery =>
    obtain ⟨-, stands⟩ := stands
    cases stage with
    | initializing | notifying => exact once stands.1
    | sending =>
      obtain ⟨-, -, -, sent⟩ := stands
      split at sent
      · obtain ⟨t, sent, -⟩ := sent
        exact .inr (.inl ⟨t, sent⟩)
      · exact .inl sent
    | resending =>
      obtain ⟨first, second, -, resent, sent⟩ := stands
      split at sent
      · exact .inr (.inr ⟨first, second, sent, resent⟩)
      · exact .inr (.inl ⟨first, sent⟩)

lemma isText_unique {text text' : String} {value : Option Json} (h : isText text value = true)
    (h' : isText text' value = true) : text = text' := by
  unfold isText at h h'
  split at h
  · rw [← of_decide_eq_true h, ← of_decide_eq_true h']
  · cases h

/-- The requests of a call are counted among the messages that it handed over. -/
lemma handedOver_requestsOf {method : String} (known : method = "tools/list" ∨ method = "tools/call")
    (id : Nat) (sent : List Transmission) : handedOver method id sent =
      (requestsOf id sent).countP fun t => isText method (t.post.payload.get? "method") := by
  rw [handedOver, requestsOf, List.countP_filter]
  refine List.countP_congr fun t _ => ?_
  have request : isText method (t.post.payload.get? "method") = true →
      isRequest t.post.payload = true := by
    intro text
    obtain rfl | rfl := known
    · rw [isRequest, text, Bool.true_or]
    · rw [isRequest, text, Bool.or_true]
  simp only [Bool.and_eq_true]
  constructor
  · rintro ⟨⟨call, first⟩, text⟩
    exact ⟨text, ⟨call, first⟩, request text⟩
  · rintro ⟨text, ⟨call, first⟩, -⟩
    exact ⟨⟨call, first⟩, text⟩

lemma SentAtMost.calls (sent : SentAtMost expired own) :
    (own.countP fun t => isText "tools/call" (t.post.payload.get? "method")) ≤ 1 := by
  obtain rfl | ⟨t, rfl⟩ | ⟨first, second, rfl, resent⟩ := sent
  · exact Nat.zero_le _
  · exact List.countP_le_length
  · have other {t : Transmission} (list : isText "tools/list" (t.post.payload.get? "method") = true) :
        isText "tools/call" (t.post.payload.get? "method") = false := by
      refine Bool.eq_false_iff.mpr fun call => ?_
      exact absurd (isText_unique list call) (by decide)
    simp [other resent.list, other resent.list']

lemma SentAtMost.lists (sent : SentAtMost expired own) :
    (own.countP fun t => isText "tools/list" (t.post.payload.get? "method")) ≤ 2 := by
  refine List.countP_le_length.trans ?_
  obtain rfl | ⟨t, rfl⟩ | ⟨first, second, rfl, -⟩ := sent
  · exact Nat.zero_le _
  · exact Nat.le_succ _
  · exact Nat.le_refl _

end Counts

namespace Traffic

variable {client : MCPClient} {clock : Time} {es : List (Event Traffic Resumption)} {s : Traffic}

lemma Inv.sends {past : List (Event Traffic Resumption)} {e : Event Traffic Resumption}
    (inv : Inv client past e.pre) (st : Step client e.pre e.label e.post) :
    Sends client e.label.id e.pre.client (e.pre.phases e.label.id) e.label.input
      e.post.client.sent := by
  have stands : Standing (fun _ => True) (requestsOf e.label.id e.pre.client.sent)
      e.pre.client.session.generation (e.pre.phases e.label.id) :=
    (inv e.label.id).mono (fun _ _ => trivial) (Nat.le_refl _)
  exact (advance_goes stands (fun _ _ _ _ _ _ _ _ _ _ _ => trivial) st.advanced.1).sends

/-- A message goes out when it is handed over, and again for each redirect that is followed with it. -/
lemma transmitted_le (run : Run (Step client) (start client clock) es s) (method : String) (id : Nat) :
    transmitted method id s.client.sent ≤
      handedOver method id s.client.sent + followed method id es := by
  let bounded (past : List (Event Traffic Resumption)) (s : Traffic) : Prop :=
    Inv client past s ∧ transmitted method id s.client.sent ≤
      handedOver method id s.client.sent + followed method id past
  suffices all : bounded es s from all.2
  refine run.invariant_history (I := bounded) ?_ ⟨.start clock, Nat.zero_le _⟩
  rintro past e st ⟨inv, bound⟩
  refine ⟨inv.step st, ?_⟩
  have sends := inv.sends st
  have later : followed method id (past ++ [e]) = followed method id past +
      if (e.label.id = id && keepsBody e.label.input && carries method (e.pre.phases id)) = true then 1
      else 0 := by
    rw [followed, List.countP_append, List.countP_singleton]
    rfl
  rw [later]
  generalize phase : e.pre.phases e.label.id = p at sends
  generalize input : e.label.input = i at sends
  generalize e.post.client.sent = sent at sends
  cases sends with
  | nothing => omega
  | @handed _ _ exchange =>
    simp only [transmitted, handedOver, List.countP_append, List.countP_singleton, Bool.not_false,
      Bool.and_true] at bound ⊢
    omega
  | @redirected _ _ exchange statusCode _ code =>
    have kept : keepsBody (.redirected statusCode) = true := by
      rw [keepsBody]
      simpa using code
    rw [kept]
    simp only [transmitted, handedOver, List.countP_append, List.countP_singleton, Bool.not_true,
      Bool.and_false, Bool.false_and, Bool.false_eq_true, if_false, Bool.and_true] at bound ⊢
    by_cases own : e.label.id = id
    · rw [← own] at bound ⊢
      rw [phase, carries]
      omega
    · simp only [own, decide_false, Bool.false_and, Bool.false_eq_true, if_false]
      omega

lemma advance_redirected {id : Nat} {s : ClientState} {now : Time} {phase : Phase}
    {statusCode : Nat} {result : ClientState × Phase}
    (advanced : client.advance id s now phase (.redirected statusCode) = some result) :
    client.settings.mcpFollowRedirects = true := by
  cases phase with
  | exchanging task stage exchange delivery =>
    cases delivery with
    | queued => cases advanced
    | inFlight withBody =>
      rw [MCPClient.advance] at advanced
      split at advanced
      · next follow => exact (Bool.and_eq_true_iff.mp follow).1
      · cases advanced
  | _ => cases advanced

lemma followed_none (run : Run (Step client) (start client clock) es s)
    (off : client.settings.mcpFollowRedirects = false) (method : String) (id : Nat) :
    followed method id es = 0 := by
  refine List.countP_eq_zero.mpr fun e mem again => ?_
  have advanced := (run.step_of_mem mem : Step client e.pre e.label e.post).advanced.1
  simp only [Bool.and_eq_true] at again
  obtain ⟨⟨-, keeps⟩, -⟩ := again
  unfold keepsBody at keeps
  split at keeps
  · next statusCode input =>
    rw [input] at advanced
    cases off.symm.trans (advance_redirected advanced)
  · cases keeps

/-- A tool list is asked for a second time behind an expiry that the call has seen. -/
lemma second_list {xs ys : List (Event Traffic Resumption)} {f : Event Traffic Resumption} {id : Nat}
    (run : Run (Step client) (start client clock) (xs ++ f :: ys) s)
    (once : handedOver "tools/list" id f.pre.client.sent = 1)
    (twice : handedOver "tools/list" id f.post.client.sent = 2) : ∃ e ∈ xs, ∃ observed second,
      SeesExpiry client id observed e ∧ f.post.client.sent = f.pre.client.sent ++ [second] ∧
        second.post.initialized = true ∧ observed < second.post.generation := by
  obtain ⟨t, before, after⟩ := run.split
  obtain ⟨rfl, st, -⟩ := after.head
  have inv := Inv.run before
  have sends := inv.sends st
  have atMost := (inv.step st id).atMost
  rw [handedOver_requestsOf (.inl rfl)] at once twice
  generalize f.pre.phases f.label.id = p at sends
  generalize input : f.label.input = i at sends
  generalize f.post.client.sent = sent at sends twice atMost ⊢
  cases sends with
  | nothing => omega
  | redirected =>
    rw [requestsOf, List.filter_append] at twice
    simp only [List.filter_singleton, Bool.not_true, Bool.and_false, Bool.false_and, cond_false,
      List.append_nil] at twice
    rw [requestsOf] at once
    omega
  | @handed task stage exchange =>
    rw [requestsOf, List.filter_append, ← requestsOf, List.filter_singleton] at twice atMost
    rw [cond_eq_ite] at twice atMost
    split at twice
    · next own =>
      rw [if_pos own] at atMost
      -- two requests of the call, the second of which is the message that is handed over
      obtain none | ⟨t, one⟩ | ⟨first, second, both, resent⟩ := atMost
      · rw [none] at twice
        cases twice
      · rw [one] at twice
        exact absurd twice (Nat.ne_of_lt (Nat.lt_succ_of_le List.countP_le_length))
      · have last := (List.append_inj' (both.trans (List.singleton_append (l := [second])).symm) rfl).2
        injection last with same _
        subst same
        obtain ⟨e, mem, sees⟩ := resent.expired
        obtain mem | now := List.mem_append.mp mem
        · exact ⟨e, mem, first.post.generation, _, sees, rfl, resent.initialized, resent.newer⟩
        · rw [List.mem_singleton.mp now] at sees
          obtain ⟨_, _, _, _, _, _, _, _, _, answered, _⟩ := sees
          cases input.symm.trans answered
    · rw [List.append_nil] at twice
      omega

/-- A tool is called at most once for each call, and a tool list is asked for at most twice, the second time
    with the credentials of an initialized session that is newer than one that the call saw expire. What
    goes out beyond that goes out for a redirect. -/
theorem requests_bounded (run : Run (Step client) (start client clock) es s) (id : Nat) :
    handedOver "tools/call" id s.client.sent ≤ 1 ∧ handedOver "tools/list" id s.client.sent ≤ 2 ∧
    (∀ xs f ys, es = xs ++ f :: ys → handedOver "tools/list" id f.pre.client.sent = 1 →
      handedOver "tools/list" id f.post.client.sent = 2 → ∃ e ∈ xs, ∃ observed second,
        SeesExpiry client id observed e ∧ f.post.client.sent = f.pre.client.sent ++ [second] ∧
          second.post.initialized = true ∧ observed < second.post.generation) ∧
    transmitted "tools/call" id s.client.sent ≤ 1 + followed "tools/call" id es ∧
    transmitted "tools/list" id s.client.sent ≤ 2 + followed "tools/list" id es ∧
    (client.settings.mcpFollowRedirects = false → ∀ method, followed method id es = 0) := by
  have atMost := (Inv.run run id).atMost
  have calls : handedOver "tools/call" id s.client.sent ≤ 1 := by
    rw [handedOver_requestsOf (.inr rfl)]
    exact atMost.calls
  have lists : handedOver "tools/list" id s.client.sent ≤ 2 := by
    rw [handedOver_requestsOf (.inl rfl)]
    exact atMost.lists
  refine ⟨calls, lists, ?_, ?_, ?_, fun off method => followed_none run off method id⟩
  · rintro xs f ys rfl once twice
    exact second_list run once twice
  · exact (transmitted_le run _ id).trans (Nat.add_le_add_right calls _)
  · exact (transmitted_le run _ id).trans (Nat.add_le_add_right lists _)

section Samples

/-- A client for examples, without sessions. -/
def sampleClient : MCPClient where
  settings := { mcpSessionEnabled := false }
  floats := sampleFloats
  limits := { nesting := some 900 }
  pyRepr _ := ""

/-- A call of a tool whose request is redirected. -/
def redirectedCall : List Resumption :=
  [⟨1, .call (.callTool (.str "write_note") .null), 0⟩, ⟨1, .opened none, 0⟩, ⟨1, .redirected 307, 0⟩]

/-- A redirect sends the request of a tool a second time. -/
theorem redirect_calls_twice : ¬ ∀ (es : List (Event Traffic Resumption)) (s : Traffic),
    Run (Step sampleClient) (start sampleClient 0) es s →
      ∀ id, transmitted "tools/call" id s.client.sent ≤ 1 := by
  intro once
  have run := play_run
    (by decide +kernel : possible (take sampleClient) (start sampleClient 0) redirectedCall = true)
  have twice : transmitted "tools/call" 1
      (play (take sampleClient) (start sampleClient 0) redirectedCall).2.client.sent = 2 := by
    decide +kernel
  exact absurd (once _ _ run 1) (by rw [twice]; decide)

/-- A client for examples, with sessions. -/
def sampleSessionClient : MCPClient where
  settings := {}
  floats := sampleFloats
  limits := { nesting := some 900 }
  pyRepr _ := ""

/-- The server's answer to a request of a client: a JSON document. -/
def sampleAnswer (id : Nat) (result : Json) (headers : Headers) : ClientInput :=
  .answered (.response 200 (("content-type", "application/json") :: headers)
    ((Json.obj [("jsonrpc", .str "2.0"), ("id", .int id), ("result", result)]).text sampleFloats {}) "")

/-- A session is granted. -/
def sampleGrant (id : Nat) (sessionId : String) : ClientInput :=
  sampleAnswer id (.obj [("protocolVersion", .str "2025-06-18")]) [("mcp-session-id", sessionId)]

def sampleAccepted : ClientInput := .answered (.response 202 [] "" "")

def sampleGone (statusCode : Nat) : ClientInput := .answered (.response statusCode [] "" "gone")

/-- A refresh of the tool list is on its way in a first session. -/
def sampleRefresh : List Resumption :=
  [⟨0, .call (.listTools false true), 0⟩, ⟨0, .opened none, 0⟩, ⟨0, sampleGrant 1 "session-1", 0⟩,
   ⟨0, .opened none, 0⟩, ⟨0, sampleAccepted, 0⟩, ⟨0, .opened none, 0⟩]

/-- Its session expires, and it sends its request again in another one. -/
def sampleRecovery : List Resumption :=
  [⟨0, .opened none, 0⟩, ⟨0, sampleGrant 3 "session-2", 0⟩, ⟨0, .opened none, 0⟩,
   ⟨0, sampleAccepted, 0⟩, ⟨0, .opened none, 0⟩,
   ⟨0, sampleAnswer 4 (.obj [("tools", .arr [])]) [], 0⟩]

/-- The moves up to the end of the second handshake. -/
def sampleRenewal : List Resumption := sampleRefresh ++ ⟨0, sampleGone 404, 0⟩ :: sampleRecovery.take 4

/-- A refresh asks for its tool list again in a second session, and then the request of a tool is redirected. -/
theorem requests_bounded_sample :
    let before := play (take sampleSessionClient) (start sampleSessionClient 0) sampleRenewal
    let resent := (take sampleSessionClient before.2 ⟨0, .opened none, 0⟩).getD before.2
    let final := (play (take sampleSessionClient) (start sampleSessionClient 0)
      (sampleRenewal ++ ⟨0, .opened none, 0⟩ :: redirectedCall)).2
    handedOver "tools/list" 0 before.2.client.sent = 1 ∧ handedOver "tools/list" 0 resent.client.sent = 2 ∧
      (∃ e ∈ before.1, ∃ observed second, SeesExpiry sampleSessionClient 0 observed e ∧
        resent.client.sent = before.2.client.sent ++ [second] ∧ second.post.initialized = true ∧
        observed < second.post.generation) ∧
      handedOver "tools/call" 1 final.client.sent ≤ 1 ∧ transmitted "tools/call" 1 final.client.sent = 2 := by
  intro before resent final
  obtain ⟨can, once, twice, again⟩ : possible (take sampleSessionClient) (start sampleSessionClient 0)
        (sampleRenewal ++ ⟨0, .opened none, 0⟩ :: redirectedCall) = true ∧
      handedOver "tools/list" 0 before.2.client.sent = 1 ∧ handedOver "tools/list" 0 resent.client.sent = 2 ∧
      transmitted "tools/call" 1 final.client.sent = 2 := by
    decide +kernel
  let after := (play (take sampleSessionClient) resent redirectedCall).1
  have run : Run (Step sampleSessionClient) (start sampleSessionClient 0)
      (before.1 ++ ⟨before.2, ⟨0, .opened none, 0⟩, resent⟩ :: after) final := play_run_at can
  clear_value final after resent before
  obtain ⟨-, -, second, -⟩ := requests_bounded run 0
  obtain ⟨calls, -⟩ := requests_bounded run 1
  exact ⟨once, twice, second before.1 _ after rfl once twice, calls, again⟩

end Samples

end Traffic

end AgentRuntime.Mcp
