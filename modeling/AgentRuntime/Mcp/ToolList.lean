import AgentRuntime.Mcp.Traffic

/-!
# The tool list of the client

What a call does to the tool list that the client keeps. The answer to a request for a tool list is
stored; a notification that the list has changed, and an expired session, drop the list; no other step
but an explicit invalidation touches it.
-/

namespace AgentRuntime.Mcp

/-- The call has handed over its request for a tool list, and the answer is awaited or still read. -/
def Phase.asking : Phase → Bool
  | .exchanging (.listTools ..) (.sending _) exchange delivery
  | .exchanging (.listTools ..) .resending exchange delivery => exchange.handed delivery
  | _ => false

/-- The task may end with a list that its request did not bring, or it is no request for a list. -/
def Task.lenient : Task → Prop
  | .listTools allowStale .. => allowStale = true
  | _ => True

/-- Where a call stands behind its first check, when it has this task. -/
def Phase.ofTask (task : Task) : Phase → Prop
  | .waitingSession task' _ | .exchanging task' _ _ _ => task' = task
  | .done (.ok _) => task.lenient
  | .done (.error _) => True
  | _ => False

/-- What the answer to an exchange comes to: a reply to a request of the server, or the end of the
    exchange. -/
inductive Conclusion where
  | replies (exchange : Exchange)
  | ends (result : Except McpError (Json × Headers))

namespace MCPClient

variable (client : MCPClient)

/-- The messages of an answer are read on, up to the next one that is replied to. -/
def readOn (s : ClientState) (exchange : Exchange) (reading : Reading) : ClientState × Conclusion :=
  match client.readMessages s reading.remaining with
  | (s, some (payload, remaining)) =>
    (s, .replies { exchange with
      reply := some (client.postOf s payload true, { reading with remaining := remaining }) })
  | (s, none) => (s, .ends (client.resultOf exchange reading))

/-- What the end of an exchange of the HTTP client comes to. -/
def conclusion (s : ClientState) (exchange : Exchange) (outcome : HttpOutcome) :
    ClientState × Conclusion :=
  match client.decodePost exchange.post.allowEmpty outcome with
  | .error error => (s, .ends (.error error))
  | .ok (messages, headers) =>
    match exchange.reply, exchange.requestId with
    | some (_, reading), _ => client.readOn s { exchange with reply := none } reading
    | none, none => (s, .ends (.ok (.null, headers)))
    | none, some _ =>
      if messages = [] then
        (s, .ends (.error (.protocol
          ("MCP method " ++ exchange.method ++ " returned an empty response."))))
      else
        client.readOn s exchange { messages := messages, remaining := messages, headers := headers }

/-- A notification that the tool list has changed is among the messages, before the next one that is
    replied to. -/
def announces : List JsonObject → Bool
  | [] => false
  | message :: messages =>
    isText "notifications/tools/list_changed" (message.get? "method") ||
      match client.replyTo message with
      | some _ => false
      | none => announces messages

/-- The messages that are read when the exchange of the HTTP client ends. -/
def messagesRead (exchange : Exchange) (outcome : HttpOutcome) : List JsonObject :=
  match client.decodePost exchange.post.allowEmpty outcome, exchange.reply, exchange.requestId with
  | .ok _, some (_, reading), _ => reading.remaining
  | .ok (messages, _), none, some _ => messages
  | _, _, _ => []

/-- The end of the exchange says that the session has expired. -/
def expires (s : ClientState) (exchange : Exchange) (outcome : HttpOutcome) : Stage → Bool
  | .sending _ =>
    match client.conclusion s exchange outcome with
    | (s, .ends (.error (.httpStatus statusCode _))) =>
      client.settings.mcpSessionEnabled && s.session.state.sessionId.isSome &&
        (statusCode = 404 || statusCode = 410)
    | _ => false
  | _ => false

/-- The step processes a notification that the tool list has changed. -/
def hears : Phase → ClientInput → Bool
  | .exchanging _ _ exchange (.inFlight _), .answered outcome =>
    client.announces (client.messagesRead exchange outcome)
  | _, _ => false

/-- The step processes the expiry of the session. -/
def seesExpiry (s : ClientState) : Phase → ClientInput → Bool
  | .exchanging _ stage exchange (.inFlight _), .answered outcome =>
    client.expires s exchange outcome stage
  | _, _ => false

/-- The step invalidates the tool list. -/
def invalidates (s : ClientState) (phase : Phase) (input : ClientInput) : Bool :=
  client.hears phase input || client.seesExpiry s phase input

/-- The tool list with which the step answers the request of the call. -/
def fetched (s : ClientState) : Phase → ClientInput → Option (List JsonObject)
  | .exchanging (.listTools ..) (.sending _) exchange (.inFlight _), .answered outcome
  | .exchanging (.listTools ..) .resending exchange (.inFlight _), .answered outcome =>
    match (client.conclusion s exchange outcome).2 with
    | .ends result => ((result.map Prod.fst).bind (toolsOf client.pyRepr)).toOption
    | .replies _ => none
  | _, _ => none

end MCPClient

section Effects

variable {client : MCPClient} {id : Nat} {s : ClientState} {now : Time} {task : Task} {stage : Stage}
variable {exchange : Exchange} {outcome : HttpOutcome}

/-- A step is what its answer comes to. -/
lemma answered_eq : client.answered id s now task stage exchange outcome =
    match client.conclusion s exchange outcome with
    | (s, .replies exchange) => (s, .exchanging task stage exchange .queued)
    | (s, .ends result) => client.settle id s now task stage result := by
  have read_eq (exchange : Exchange) (reading : Reading) :
      client.read id s now task stage exchange reading =
        match client.readOn s exchange reading with
        | (s, .replies exchange) => (s, .exchanging task stage exchange .queued)
        | (s, .ends result) => client.settle id s now task stage result := by
    simp only [MCPClient.read, MCPClient.readOn]
    obtain ⟨s', _ | ⟨payload, remaining⟩⟩ := client.readMessages s reading.remaining <;> rfl
  simp only [MCPClient.answered, MCPClient.conclusion]
  cases client.decodePost exchange.post.allowEmpty outcome with
  | error => rfl
  | ok answer =>
    obtain ⟨messages, headers⟩ := answer
    simp only
    cases exchange.reply with
    | some reply => exact read_eq _ reply.2
    | none =>
      cases exchange.requestId with
      | none => rfl
      | some requestId =>
        by_cases empty : messages = []
        · simp only [if_pos empty]
        · simp only [if_neg empty]
          exact read_eq _ _

/-- The list of the client is dropped or stays, and no request for one is handed over. -/
structure Calm (s : ClientState) (result : ClientState × Phase) : Prop where
  cache : result.1.toolsCache = none ∨
    result.1.toolsCache = s.toolsCache ∧ result.1.toolsCachedAt = s.toolsCachedAt
  asks : result.2.asking = false

/-- And the call goes on with its task, or ends. -/
structure Keeps (s : ClientState) (task : Task) (result : ClientState × Phase) : Prop extends
    Calm s result where
  goes : result.2.ofTask task

/-- The list is stored, and the call returns it. -/
structure Stores (now : Time) (tools : List JsonObject) (result : ClientState × Phase) : Prop where
  cache : result.1.toolsCache = some tools
  cachedAt : result.1.toolsCachedAt = now
  returns : result.2 = .done (.ok (.tools tools))

lemma Calm.before {s' : ClientState} {result : ClientState × Phase} (calm : Calm s result)
    (cache : s.toolsCache = none ∨
      s.toolsCache = s'.toolsCache ∧ s.toolsCachedAt = s'.toolsCachedAt) : Calm s' result := by
  refine ⟨?_, calm.asks⟩
  obtain dropped | ⟨same, time⟩ := calm.cache
  · exact .inl dropped
  · obtain none | ⟨same', time'⟩ := cache
    · exact .inl (same.trans none)
    · exact .inr ⟨same.trans same', time.trans time'⟩

lemma Keeps.before {s' : ClientState} {result : ClientState × Phase} (keeps : Keeps s task result)
    (cache : s.toolsCache = none ∨
      s.toolsCache = s'.toolsCache ∧ s.toolsCachedAt = s'.toolsCachedAt) : Keeps s' task result :=
  ⟨keeps.toCalm.before cache, keeps.goes⟩

/-- From a client without a list, none is left. -/
lemma Calm.none {result : ClientState × Phase} (calm : Calm s result) (none : s.toolsCache = none) :
    result.1.toolsCache = .none :=
  calm.cache.elim id fun same => same.1.trans none

lemma Calm.done (result : Except McpError ClientResult) : Calm s (s, .done result) :=
  ⟨.inr ⟨rfl, rfl⟩, rfl⟩

/-- A call that ends without an answer to a request for a tool list keeps the list. -/
lemma finish_keeps {result : Except McpError Json}
    (unanswered : ∀ tools, result.bind (toolsOf client.pyRepr) = .ok tools →
      ∀ allowStale start oldCache oldCachedAt,
        task ≠ .listTools allowStale start oldCache oldCachedAt) :
    Keeps s task (client.finish id s now task result) := by
  have ended (result : Except McpError ClientResult) (other : task.lenient) :
      Keeps s task (s, .done result) := by
    refine ⟨.done result, ?_⟩
    cases result
    · trivial
    · exact other
  have failed (lock : FifoLock Nat) (error : McpError) :
      Keeps s task ({ s with toolsLock := lock }, .done (.error error)) :=
    ⟨⟨.inr ⟨rfl, rfl⟩, rfl⟩, trivial⟩
  unfold MCPClient.finish
  split
  · exact ended _ trivial
  · dsimp only
    split
    · next answered => exact absurd rfl (unanswered _ answered _ _ _ _)
    · exact failed _ _
    · split
      · split
        · next stale => exact ⟨⟨.inr ⟨rfl, rfl⟩, rfl⟩, (Bool.and_eq_true_iff.mp stale).1⟩
        · exact failed _ _
      · exact failed _ _
  · split
    · exact ended _ trivial
    · exact ended _ trivial
    · exact ended _ trivial

lemma finish_stores {allowStale : Bool} {start oldCachedAt : Time}
    {oldCache : Option (List JsonObject)} {result : Except McpError Json} {tools : List JsonObject}
    (answered : result.bind (toolsOf client.pyRepr) = .ok tools) :
    Stores now tools
      (client.finish id s now (.listTools allowStale start oldCache oldCachedAt) result) := by
  simp only [MCPClient.finish, answered]
  exact ⟨rfl, rfl, rfl⟩

lemma finish_error {error : McpError} : Keeps s task (client.finish id s now task (.error error)) :=
  finish_keeps nofun

lemma send_keeps {method : String} {params : JsonObject} {notification : Bool} :
    Keeps s task (client.sendForSession s task stage method params notification) := by
  have queued (exchange : Exchange) (none : exchange.reply = .none) :
      (Phase.exchanging task stage exchange .queued).asking = false := by
    have unsent : exchange.handed .queued = false := by
      rw [Exchange.handed, none]
      rfl
    cases task <;> cases stage <;> first
      | exact unsent
      | rfl
  unfold MCPClient.sendForSession
  split
  · exact ⟨⟨.inr ⟨rfl, rfl⟩, queued _ rfl⟩, rfl⟩
  · exact ⟨⟨.inr ⟨rfl, rfl⟩, queued _ rfl⟩, rfl⟩

lemma proceed_keeps {why : Purpose} : Keeps s task (client.proceed id s now task why) := by
  unfold MCPClient.proceed
  split
  · exact finish_keeps nofun
  · exact send_keeps
  · exact finish_error
  · exact send_keeps

lemma enterSession_keeps {why : Purpose} :
    Keeps s task (client.enterSession id s now task why) := by
  unfold MCPClient.enterSession
  split
  · exact proceed_keeps.before (.inr ⟨rfl, rfl⟩)
  · exact send_keeps.before (.inr ⟨rfl, rfl⟩)

lemma acquireSession_keeps {why : Purpose} :
    Keeps s task (client.acquireSession id s now task why) := by
  unfold MCPClient.acquireSession
  dsimp only
  split
  · exact enterSession_keeps.before (.inr ⟨rfl, rfl⟩)
  · exact ⟨⟨.inr ⟨rfl, rfl⟩, rfl⟩, rfl⟩

lemma rpc_keeps : Keeps s task (client.rpc id s now task) := by
  unfold MCPClient.rpc
  split
  · unfold MCPClient.ensureInitialized
    split
    · exact proceed_keeps
    · exact acquireSession_keeps
  · exact proceed_keeps

lemma failHandshake_keeps {error : McpError} :
    Keeps s task (client.failHandshake id s now task error) :=
  finish_error.before (.inr ⟨rfl, rfl⟩)

/-- The stage is one of the request of the call. -/
def Stage.requests : Stage → Prop
  | .sending _ | .resending => True
  | _ => False

/-- An exchange that ends without an answer to a request for a tool list keeps the list. -/
lemma settle_keeps {result : Except McpError (Json × Headers)}
    (unanswered : stage.requests →
      ∀ tools, (result.map Prod.fst).bind (toolsOf client.pyRepr) = .ok tools →
        ∀ allowStale start oldCache oldCachedAt,
          task ≠ .listTools allowStale start oldCache oldCachedAt) :
    Keeps s task (client.settle id s now task stage result) := by
  unfold MCPClient.settle
  split
  · split
    · exact send_keeps.before (.inr ⟨rfl, rfl⟩)
    · exact failHandshake_keeps
  · split
    · exact proceed_keeps.before (.inr ⟨rfl, rfl⟩)
    · exact failHandshake_keeps
  · have ended : Keeps s task (client.finish id s now task (result.map Prod.fst)) :=
      finish_keeps (unanswered trivial)
    split
    · dsimp only
      split
      · exact acquireSession_keeps.before (.inl rfl)
      · exact finish_error
    · exact ended
  · exact finish_keeps (unanswered trivial)

lemma settle_error_keeps {error : McpError} :
    Keeps s task (client.settle id s now task stage (.error error)) :=
  settle_keeps fun _ _ answered => nomatch answered

/-- The list is dropped, or it stays. -/
structure CacheAfter (s : ClientState) (dropped : Bool) (s' : ClientState) : Prop where
  none : dropped = true → s'.toolsCache = .none
  same : dropped = false → s'.toolsCache = s.toolsCache ∧ s'.toolsCachedAt = s.toolsCachedAt

lemma CacheAfter.refl (s : ClientState) : CacheAfter s false s := ⟨nofun, fun _ => ⟨rfl, rfl⟩⟩

lemma readMessages_cache (client : MCPClient) (s : ClientState) (messages : List JsonObject) :
    CacheAfter s (client.announces messages) (client.readMessages s messages).1 := by
  induction messages generalizing s with
  | nil => exact .refl s
  | cons message messages ih =>
    simp only [MCPClient.announces, MCPClient.readMessages]
    by_cases changed : isText "notifications/tools/list_changed" (message.get? "method") = true
    · simp only [changed, Bool.true_or, if_true]
      refine ⟨fun _ => ?_, fun announces => by cases announces⟩
      cases client.replyTo message with
      | some payload => rfl
      | none =>
        have later := ih (MCPClient.invalidate s)
        cases announced : client.announces messages with
        | true => exact later.none announced
        | false => exact (later.same announced).1
    · simp only [changed, Bool.false_or, Bool.false_eq_true, if_false]
      cases client.replyTo message with
      | some payload => exact .refl s
      | none => exact ih s

lemma readOn_cache (client : MCPClient) (s : ClientState) (exchange : Exchange) (reading : Reading) :
    CacheAfter s (client.announces reading.remaining) (client.readOn s exchange reading).1 := by
  have read := readMessages_cache client s reading.remaining
  simp only [MCPClient.readOn]
  generalize client.readMessages s reading.remaining = answer at read ⊢
  obtain ⟨s', _ | ⟨payload, remaining⟩⟩ := answer <;> exact read

/-- An answer leaves the list as it is, unless a notification in it says that it has changed. -/
lemma conclusion_cache (client : MCPClient) (s : ClientState) (exchange : Exchange)
    (outcome : HttpOutcome) :
    CacheAfter s (client.announces (client.messagesRead exchange outcome))
      (client.conclusion s exchange outcome).1 := by
  simp only [MCPClient.conclusion, MCPClient.messagesRead]
  cases client.decodePost exchange.post.allowEmpty outcome with
  | error => exact .refl s
  | ok answer =>
    obtain ⟨messages, headers⟩ := answer
    simp only
    cases exchange.reply with
    | some reply => exact readOn_cache client s _ reply.2
    | none =>
      cases exchange.requestId with
      | none => exact .refl s
      | some requestId =>
        by_cases empty : messages = []
        · simp only [if_pos empty]
          rw [empty]
          exact .refl s
        · simp only [if_neg empty]
          exact readOn_cache client s exchange ⟨messages, messages, headers⟩

/-- What a step does to the list: it stores the answer to the request of its call, or it drops the list or
    leaves it. A request is handed over only where the meter lets a message go. -/
inductive ToolStep (client : MCPClient) (s : ClientState) (now : Time) (phase : Phase)
    (input : ClientInput) (result : ClientState × Phase) : Prop where
  | stored {tools : List JsonObject} :
    client.fetched s phase input = some tools →
    phase.asking = true →
    Stores now tools result →
    ToolStep client s now phase input result
  | kept :
    client.fetched s phase input = none →
    result.1.toolsCache = none ∨
      result.1.toolsCache = s.toolsCache ∧ result.1.toolsCachedAt = s.toolsCachedAt →
    (client.invalidates s phase input = true → result.1.toolsCache = none) →
    (client.seesExpiry s phase input = true → result.2.asking = false) →
    (result.2.asking = true → phase.asking = true ∨ input = .opened none) →
    ToolStep client s now phase input result

variable {phase : Phase} {input : ClientInput} {result : ClientState × Phase}

/-- A step that answers no request and hears of no change. -/
lemma Calm.step (calm : Calm s result) (fetched : client.fetched s phase input = .none)
    (silent : client.invalidates s phase input = false) :
    ToolStep client s now phase input result := by
  refine .kept fetched calm.cache (fun heard => ?_) (fun _ => calm.asks) fun asking => ?_
  · rw [silent] at heard
    cases heard
  · rw [calm.asks] at asking
    cases asking

lemma enterTools_calm {forceRefresh allowStale : Bool} :
    Calm s (client.enterTools id s now forceRefresh allowStale) := by
  unfold MCPClient.enterTools
  split
  · exact ⟨.inr ⟨rfl, rfl⟩, rfl⟩
  · exact rpc_keeps.toCalm

lemma begin_calm {operation : Operation} : Calm s (client.begin id s now operation) := by
  cases operation with
  | start =>
    rw [MCPClient.begin]
    split
    · exact rpc_keeps.toCalm
    · exact .done _
  | initializeSession => exact rpc_keeps.toCalm
  | listTools forceRefresh allowStale =>
    show Calm s (client.listTools id s now forceRefresh allowStale)
    unfold MCPClient.listTools
    split
    · exact .done _
    · dsimp only
      split
      · exact enterTools_calm.before (.inr ⟨rfl, rfl⟩)
      · exact ⟨.inr ⟨rfl, rfl⟩, rfl⟩
  | callTool name arguments =>
    show Calm s (client.callTool id s now name arguments)
    unfold MCPClient.callTool
    split
    · split
      · exact .done _
      · split
        · exact rpc_keeps.toCalm
        · exact rpc_keeps.toCalm
        · exact .done _
    · exact .done _
  | invalidateToolsCache => exact ⟨.inl rfl, rfl⟩
  | aclose => exact ⟨.inr ⟨rfl, rfl⟩, rfl⟩

lemma close_calm {deleted : Bool} : Calm s (MCPClient.close s deleted outcome) := by
  unfold MCPClient.close
  split
  · exact .done _
  · split
    · exact ⟨.inl rfl, rfl⟩
    · exact ⟨.inr ⟨rfl, rfl⟩, rfl⟩

lemma asking_inFlight {exchange' : Exchange} {delivery : Delivery} {withBody : Bool}
    (asking : (Phase.exchanging task stage exchange' delivery).asking = true) :
    (Phase.exchanging task stage exchange (.inFlight withBody)).asking = true := by
  cases task <;> cases stage <;> first
    | exact handed_inFlight ..
    | cases asking

/-- An expired session drops the list, and the call recovers it before it asks again. -/
lemma settle_expires {conclusion : Except McpError (Json × Headers)} {s' : ClientState}
    (concluded : client.conclusion s exchange outcome = (s', .ends conclusion))
    (expires : client.expires s exchange outcome stage = true) :
    (client.settle id s' now task stage conclusion).1.toolsCache = none ∧
      (client.settle id s' now task stage conclusion).2.asking = false := by
  cases stage with
  | sending observed =>
    simp only [MCPClient.expires, concluded] at expires
    split at expires
    · next statusCode message same =>
      cases same
      have keeps : Keeps (MCPClient.invalidate s') task
          (client.settle id s' now task (.sending observed) (.error (.httpStatus statusCode message))) := by
        simp only [MCPClient.settle, expires, if_true]
        exact acquireSession_keeps
      exact ⟨keeps.toCalm.none rfl, keeps.asks⟩
    · cases expires
  | _ => cases expires

/-- The end of the request of a call for a tool list. -/
lemma settle_request {allowStale : Bool} {start oldCachedAt : Time}
    {oldCache : Option (List JsonObject)} {answer : Json × Headers} (request : stage.requests) :
    client.settle id s now (.listTools allowStale start oldCache oldCachedAt) stage (.ok answer) =
      client.finish id s now (.listTools allowStale start oldCache oldCachedAt) (.ok answer.1) := by
  cases stage with
  | initializing | notifying => exact request.elim
  | sending | resending => rfl

/-- What the end of an exchange brings to a call for a tool list. -/
lemma fetched_ends {withBody : Bool} {s' : ClientState} {conclusion : Except McpError (Json × Headers)}
    {tools : List JsonObject}
    (concluded : client.conclusion s exchange outcome = (s', .ends conclusion)) :
    client.fetched s (.exchanging task stage exchange (.inFlight withBody)) (.answered outcome) =
        some tools ↔
      ((conclusion.map Prod.fst).bind (toolsOf client.pyRepr) = .ok tools ∧ stage.requests ∧
        ∃ allowStale start oldCache oldCachedAt, task = .listTools allowStale start oldCache oldCachedAt) := by
  have brings : ((conclusion.map Prod.fst).bind (toolsOf client.pyRepr)).toOption = some tools ↔
      (conclusion.map Prod.fst).bind (toolsOf client.pyRepr) = .ok tools := by
    cases (conclusion.map Prod.fst).bind (toolsOf client.pyRepr) with
    | error => exact ⟨nofun, nofun⟩
    | ok found => exact ⟨fun same => congrArg _ (Option.some.inj same), fun same => by cases same; rfl⟩
  cases task with
  | listTools =>
    cases stage with
    | initializing | notifying => exact ⟨nofun, fun found => found.2.1.elim⟩
    | sending | resending =>
      simp only [MCPClient.fetched, concluded, brings]
      exact ⟨fun ok => ⟨ok, trivial, _, _, _, _, rfl⟩, And.left⟩
  | initializeSession | callTool => exact ⟨nofun, fun ⟨_, _, _, _, _, _, other⟩ => nomatch other⟩

/-- An answer that brings a list does not say that the session has expired. -/
lemma fetched_unexpired {phase : Phase} {input : ClientInput} {tools : List JsonObject}
    (fetched : client.fetched s phase input = some tools) :
    client.seesExpiry s phase input = false := by
  unfold MCPClient.seesExpiry
  split
  · next task stage exchange withBody outcome =>
    cases stage with
    | sending observed =>
      rw [MCPClient.expires]
      split
      · next concluded =>
        obtain ⟨ok, -⟩ := (fetched_ends concluded).mp fetched
        cases ok
      · rfl
    | _ => rfl
  · rfl

/-- The end of an exchange that brings no list. -/
lemma ends_keeps {withBody : Bool} {s' : ClientState} {conclusion : Except McpError (Json × Headers)}
    (concluded : client.conclusion s exchange outcome = (s', .ends conclusion))
    (fetched : client.fetched s (.exchanging task stage exchange (.inFlight withBody))
      (.answered outcome) = none) : Keeps s' task (client.settle id s' now task stage conclusion) := by
  refine settle_keeps fun request tools ok allowStale start oldCache oldCachedAt list => ?_
  have brought : client.fetched s (.exchanging task stage exchange (.inFlight withBody))
      (.answered outcome) = some tools :=
    (fetched_ends concluded).mpr ⟨ok, request, allowStale, start, oldCache, oldCachedAt, list⟩
  rw [fetched] at brought
  cases brought

/-- The end of an exchange: the answer to the request of the call is stored. -/
lemma answered_tools {withBody : Bool} :
    ToolStep client s now (.exchanging task stage exchange (.inFlight withBody)) (.answered outcome)
      (client.answered id s now task stage exchange outcome) := by
  have cache := conclusion_cache client s exchange outcome
  have kept {s' : ClientState} (cache : CacheAfter s
      (client.announces (client.messagesRead exchange outcome)) s') :
      s'.toolsCache = none ∨ s'.toolsCache = s.toolsCache ∧ s'.toolsCachedAt = s.toolsCachedAt := by
    cases announced : client.announces (client.messagesRead exchange outcome) with
    | true => exact .inl (cache.none announced)
    | false => exact .inr (cache.same announced)
  rw [answered_eq]
  cases concluded : client.conclusion s exchange outcome with
  | mk s' conclusion =>
    rw [concluded] at cache
    cases conclusion with
    -- a request of the server is replied to, and the exchange goes on
    | replies exchange' =>
      have goesOn : client.expires s exchange outcome stage = false := by
        cases stage <;> simp only [MCPClient.expires, concluded]
      refine .kept ?_ (kept cache) (fun heard => ?_) (fun expires => ?_)
        fun asking => .inl (asking_inFlight asking)
      · cases task <;> cases stage <;> simp only [MCPClient.fetched, concluded]
      · rw [MCPClient.invalidates, MCPClient.seesExpiry, goesOn, Bool.or_false] at heard
        exact cache.none heard
      · rw [MCPClient.seesExpiry, goesOn] at expires
        cases expires
    | ends conclusion =>
      simp only
      cases fetched : client.fetched s (.exchanging task stage exchange (.inFlight withBody))
          (.answered outcome) with
      | some tools =>
        obtain ⟨ok, request, allowStale, start, oldCache, oldCachedAt, rfl⟩ :=
          (fetched_ends concluded).mp fetched
        have asking : (Phase.exchanging (.listTools allowStale start oldCache oldCachedAt) stage exchange
            (.inFlight withBody)).asking = true := by
          cases stage with
          | initializing | notifying => exact request.elim
          | sending | resending => exact handed_inFlight ..
        refine .stored fetched asking ?_
        cases conclusion with
        | error => cases ok
        | ok answer =>
          rw [settle_request request]
          exact finish_stores ok
      | none =>
        -- the answer brings no list
        have keeps : Keeps s' task (client.settle id s' now task stage conclusion) :=
          ends_keeps concluded fetched
        refine .kept fetched (keeps.before (kept cache)).cache (fun heard => ?_) (fun expires => ?_)
          fun asking => ?_
        · obtain announced | expires := Bool.or_eq_true_iff.mp heard
          · exact keeps.toCalm.none (cache.none announced)
          · exact (settle_expires concluded expires).1
        · exact keeps.asks
        · rw [keeps.asks] at asking
          cases asking

/-- What a step of a call does to the list of the client. -/
theorem advance_tools (advanced : client.advance id s now phase input = some result) :
    ToolStep client s now phase input result := by
  unfold MCPClient.advance at advanced
  split at advanced
  · cases advanced
    exact begin_calm.step rfl rfl
  -- a call that waits for the lock of the tool list
  · split at advanced
    · cases advanced
      exact enterTools_calm.step rfl rfl
    · cases advanced
  · cases advanced
    exact Calm.step ⟨.inr ⟨rfl, rfl⟩, rfl⟩ rfl rfl
  -- a call that waits for the lock of the session
  · split at advanced
    · cases advanced
      exact enterSession_keeps.toCalm.step rfl rfl
    · cases advanced
  · cases advanced
    refine Calm.step ?_ rfl rfl
    exact finish_error.toCalm.before (.inr ⟨rfl, rfl⟩)
  -- a message is handed over, refused by the meter, redirected, answered or given up
  · cases advanced
    exact .kept (by simp [MCPClient.fetched]) (.inr ⟨rfl, rfl⟩) nofun nofun fun _ => .inr rfl
  · cases advanced
    exact settle_error_keeps.toCalm.step (by simp [MCPClient.fetched]) rfl
  · split at advanced
    · cases advanced
      unfold MCPClient.redirect
      dsimp only
      refine .kept (by simp [MCPClient.fetched]) ?_ nofun nofun
        fun asking => .inl (asking_inFlight asking)
      split <;> exact .inr ⟨rfl, rfl⟩
    · cases advanced
  · cases advanced
    exact answered_tools
  · cases advanced
    exact settle_error_keeps.toCalm.step (by simp [MCPClient.fetched])
      (by simp [MCPClient.invalidates, MCPClient.hears, MCPClient.seesExpiry])
  -- the client is closed
  · cases advanced
    exact close_calm.step rfl rfl
  · cases advanced
    exact Calm.step ⟨.inr ⟨rfl, rfl⟩, rfl⟩ rfl rfl
  · cases advanced

/-- The call wants a list that is fresh. -/
def Phase.strict : Phase → Prop
  | .waitingTools _ allowStale => allowStale = false
  | .waitingSession task _ | .exchanging task _ _ _ => ¬ task.lenient
  | _ => False

/-- The step answers a request for a tool list from the cache. -/
def MCPClient.hits (client : MCPClient) (s : ClientState) (now : Time) : Phase → ClientInput → Bool
  | .idle, .call (.listTools forceRefresh _) => client.toolsFresh s now forceRefresh
  | .waitingTools forceRefresh _, .woken => client.toolsFresh s now forceRefresh
  | _, _ => false

/-- A call that wants a fresh list goes on, fails, or returns the list of the client, or what the server
    answered. -/
inductive StrictStep (client : MCPClient) (s : ClientState) (now : Time) (phase : Phase)
    (input : ClientInput) (result : ClientState × Phase) : Prop where
  | goes :
    result.2.strict →
    StrictStep client s now phase input result
  | fails {error : McpError} :
    result.2 = .done (.error error) →
    StrictStep client s now phase input result
  | hit {tools : List JsonObject} :
    client.hits s now phase input = true →
    s.toolsCache = some tools →
    result.2 = .done (.ok (.tools tools)) →
    StrictStep client s now phase input result
  | fetched {tools : List JsonObject} :
    client.fetched s phase input = some tools →
    result.2 = .done (.ok (.tools tools)) →
    StrictStep client s now phase input result

lemma Keeps.strict {s' : ClientState} (keeps : Keeps s' task result) (wants : ¬ task.lenient) :
    StrictStep client s now phase input result := by
  have goes := keeps.goes
  revert goes
  cases phase' : result.2 with
  | waitingSession task' why =>
    rintro rfl
    refine .goes ?_
    rw [phase']
    exact wants
  | exchanging task' stage exchange delivery =>
    rintro rfl
    refine .goes ?_
    rw [phase']
    exact wants
  | done answer =>
    cases answer with
    | ok => exact fun lenient => absurd lenient wants
    | error error => exact fun _ => .fails phase'
  | _ => exact False.elim

lemma toolsFresh_some {forceRefresh : Bool} (fresh : client.toolsFresh s now forceRefresh = true) :
    s.toolsCache = some (s.toolsCache.getD []) := by
  simp only [MCPClient.toolsFresh, Bool.and_eq_true] at fresh
  obtain ⟨tools, cache⟩ := Option.isSome_iff_exists.mp fresh.1.2
  rw [cache, Option.getD_some]

lemma enterTools_strict {forceRefresh : Bool}
    (hits : client.toolsFresh s now forceRefresh = true → client.hits s now phase input = true) :
    StrictStep client s now phase input (client.enterTools id s now forceRefresh false) := by
  unfold MCPClient.enterTools
  split
  · next fresh => exact .hit (hits fresh) (toolsFresh_some fresh) rfl
  · exact rpc_keeps.strict Bool.false_ne_true

/-- A call that wants a fresh list starts. -/
lemma begin_strict {forceRefresh : Bool}
    (advanced : client.advance id s now phase (.call (.listTools forceRefresh false)) = some result) :
    phase = .idle ∧
      StrictStep client s now .idle (.call (.listTools forceRefresh false)) result := by
  cases phase with
  | idle =>
    refine ⟨rfl, ?_⟩
    cases advanced
    show StrictStep client s now .idle _ (client.listTools id s now forceRefresh false)
    unfold MCPClient.listTools
    split
    · next fresh => exact .hit fresh (toolsFresh_some fresh) rfl
    · next stale =>
      dsimp only
      split
      · unfold MCPClient.enterTools
        split
        · next fresh => exact absurd fresh stale
        · exact rpc_keeps.strict Bool.false_ne_true
      · exact .goes rfl
  | exchanging task stage exchange delivery => cases delivery <;> cases advanced
  | _ => cases advanced

lemma answered_strict {withBody : Bool} (wants : ¬ task.lenient) :
    StrictStep client s now (.exchanging task stage exchange (.inFlight withBody)) (.answered outcome)
      (client.answered id s now task stage exchange outcome) := by
  cases fetched : client.fetched s (.exchanging task stage exchange (.inFlight withBody))
      (.answered outcome) with
  | some tools =>
    have step : ToolStep client s now (.exchanging task stage exchange (.inFlight withBody))
        (.answered outcome) (client.answered id s now task stage exchange outcome) := answered_tools
    cases step with
    | stored found _ stores =>
      cases fetched.symm.trans found
      exact .fetched fetched stores.returns
    | kept none => cases fetched.symm.trans none
  | none =>
    rw [answered_eq]
    cases concluded : client.conclusion s exchange outcome with
    | mk s' conclusion =>
      cases conclusion with
      | replies exchange' => exact .goes wants
      | ends conclusion => exact (ends_keeps concluded fetched).strict wants

/-- A call that wants a fresh list goes on. -/
theorem advance_strict (wants : phase.strict)
    (advanced : client.advance id s now phase input = some result) :
    StrictStep client s now phase input result := by
  unfold MCPClient.advance at advanced
  split at advanced
  · exact wants.elim
  · split at advanced
    · cases advanced
      cases wants
      exact enterTools_strict fun fresh => fresh
    · cases advanced
  · cases advanced
    exact .fails rfl
  · split at advanced
    · cases advanced
      exact enterSession_keeps.strict wants
    · cases advanced
  · cases advanced
    exact finish_error.strict wants
  · cases advanced
    exact .goes wants
  · cases advanced
    exact settle_error_keeps.strict wants
  · split at advanced
    · cases advanced
      exact .goes wants
    · cases advanced
  · cases advanced
    exact answered_strict wants
  · cases advanced
    exact settle_error_keeps.strict wants
  · exact wants.elim
  · exact wants.elim
  · cases advanced

end Effects

end AgentRuntime.Mcp
