import AgentRuntime.Mcp.Client
import AgentRuntime.Mcp.SingleFlight

/-!
# Handshakes that fail

The session manager with its callers, and with an `aclose` that resets it at any moment. A handshake
publishes the session that the server offers before it notifies the server. When it fails the session is
reset, unless it is cancelled there: a cancellation is no `Exception`, and the half of the session that was
published stays behind.
-/

namespace AgentRuntime.Mcp
open Transition

/-- What is done with a session manager: a caller goes on, or its client is closed. -/
inductive Use where
  | go (go : Go)
  | reset

namespace Sessions

variable (pyRepr : Json → String)

/-- The sessions after they were used, where that can be. -/
def use (s : Sessions) : Use → Option Sessions
  | .go go => s.take pyRepr go
  | .reset => some { s with manager := s.manager.reset }

def Used (s : Sessions) (u : Use) (s' : Sessions) : Prop := s.use pyRepr u = some s'

variable {pyRepr}

/-- A handshake ends with an error. -/
def FailsHandshake (e : Event Sessions Use) : Prop :=
  ∃ go error, e.label = .go go ∧ (e.pre.callers go.id).Inside ∧
    e.post.callers go.id = .done (.error error)

/-- A handshake is cancelled at its second await, while the session that it published is there. -/
def Abandons (e : Event Sessions Use) : Prop :=
  ∃ go why, e.label = .go go ∧ e.pre.callers go.id = .notifying why ∧
    e.post.callers go.id = .done (.error .cancelled) ∧
    e.pre.manager.state.protocolVersion.isSome = true

/-- What a caller in its handshake finds. -/
def Finds (state : MCPSessionState) : Caller → Prop
  | .initializing _ => state = {}
  | .notifying _ => state = {} ∨ state.protocolVersion.isSome = true
  | _ => True

/-- The session is pristine before a handshake publishes one, and pristine or complete between the
    handshakes. -/
structure Clean (s : Sessions) : Prop where
  inv : s.Inv
  finds : ∀ id, Finds s.manager.state (s.callers id)
  quiet : (∀ id, ¬ (s.callers id).Inside) → s.manager.state = {} ∨ s.manager.state.initialized = true

lemma Clean.start {manager : MCPSessionManager} (free : manager.lock = {})
    (pristine : manager.state = {}) : (start manager).Clean where
  inv := .start free
  finds _ := trivial
  quiet _ := .inl pristine

lemma finds_outside {state : MCPSessionState} {caller : Caller} (outside : ¬ caller.Inside) :
    Finds state caller := by
  cases caller with
  | initializing | notifying => exact absurd trivial outside
  | _ => exact trivial

/-- A reset of the session leaves nothing of it, whoever is in a handshake. -/
lemma Clean.reset {s : Sessions} (clean : Clean s) :
    Clean { s with manager := s.manager.reset } where
  inv :=
    { serves := clean.inv.serves
      waited := fun id observed waits => Nat.le_succ_of_le (clean.inv.waited id observed waits)
      entered := fun id observed inside why =>
        Nat.lt_succ_of_lt (clean.inv.entered id observed inside why) }
  finds id := by
    cases h : s.callers id with
    | initializing => rw [Finds]; rfl
    | notifying => exact .inl rfl
    | _ => exact trivial
  quiet _ := .inl rfl

section Moves

variable {m m' : MCPSessionManager} {id : Nat} {caller caller' : Caller} {input : Wakeup}

open MCPSessionManager

lemma received_version {result : Json} {headers : Headers}
    (received : m.initializeReceived pyRepr result headers = .ok m') :
    m'.state.protocolVersion.isSome = true := by
  unfold initializeReceived at received
  split at received
  · split at received
    · split at received
      · cases received
      · split at received
        · cases received
        · cases received
          rfl
    · cases received
  · cases received

/-- A move outside of the handshakes leaves the session, or begins a handshake with a pristine one. -/
lemma move_outside (move : Move pyRepr m id caller input m' caller') (outside : ¬ caller.Inside) :
    (m'.state = m.state ∧ ¬ caller'.Inside) ∨
      ∃ why, caller' = .initializing why ∧
        (m.state = {} ∨ m.state.initialized = true → m'.state = {}) := by
  have turned {m1 why} (turn : Turn m id caller input m1 why) : m1.state = m.state := by
    cases turn <;> rfl
  cases move with
  | served | queued | gaveUp => exact .inl ⟨rfl, fun h => h⟩
  | reused turn =>
    have same := turned turn
    exact .inl ⟨same, fun h => h⟩
  | @entered _ _ m1 why turn other =>
    refine .inr ⟨why, rfl, fun before => ?_⟩
    cases why with
    | ensure =>
      rw [MCPSessionManager.serves, turned turn] at other
      obtain pristine | initialized := before
      · exact (turned turn).trans pristine
      · cases initialized.symm.trans other
    | recover => rfl
  | received | succeeded => exact absurd trivial outside
  | failed handshake => obtain rfl | rfl := handshake <;> exact absurd trivial outside

/-- A move in a handshake publishes a session, completes it, or fails. -/
lemma move_inside (move : Move pyRepr m id caller input m' caller') (inside : caller.Inside) :
    (∃ why, caller' = .notifying why ∧ m'.state.protocolVersion.isSome = true) ∨
      (¬ caller'.Inside ∧ m'.state.initialized = true) ∨
      ∃ error, caller' = .done (.error error) := by
  cases move with
  | served | queued | gaveUp => exact inside.elim
  | reused turn => cases turn <;> exact inside.elim
  | entered turn => cases turn <;> exact inside.elim
  | @received why result headers manager' received =>
    exact .inl ⟨why, rfl, received_version received⟩
  | @failed _ _ _ error => exact .inr (.inr ⟨error, rfl⟩)
  | succeeded => exact .inr (.inl ⟨fun h => h, rfl⟩)

/-- A handshake that fails resets the session, and one that is cancelled leaves it as it was. -/
lemma move_fails {error : McpError} (move : Move pyRepr m id caller input m' (.done (.error error)))
    (inside : caller.Inside) : m'.state = if error = .cancelled then m.state else {} := by
  cases move with
  | gaveUp => exact inside.elim
  | failed =>
    cases error with
    | cancelled => exact (if_pos rfl).symm
    | _ => exact (if_neg nofun).symm

end Moves

/-- The caller that moved left its handshake with a session that is pristine or complete. -/
lemma Clean.left {s' : Sessions} {go : Go} (inv : s'.Inv)
    (alone : ∀ id, id ≠ go.id → ¬ (s'.callers id).Inside) (left : ¬ (s'.callers go.id).Inside)
    (state : s'.manager.state = {} ∨ s'.manager.state.initialized = true) : Clean s' where
  inv := inv
  finds id := by
    by_cases own : id = go.id
    · exact finds_outside (own ▸ left)
    · exact finds_outside (alone id own)
  quiet _ := state

/-- The caller that moved is in its handshake, and finds what it is to find there. -/
lemma Clean.inside {s' : Sessions} {go : Go} (inv : s'.Inv)
    (inside : (s'.callers go.id).Inside) (finds : Finds s'.manager.state (s'.callers go.id)) :
    Clean s' where
  inv := inv
  finds id := by
    by_cases own : id = go.id
    · exact own ▸ finds
    · exact finds_outside fun other => own (inv.serves.unique other inside)
  quiet none := absurd inside (none go.id)

/-- A handshake that fails leaves a pristine session. -/
lemma Clean.failed {s s' : Sessions} {go : Go} {error : McpError} (clean : Clean s)
    (st : Step pyRepr s go s') (kept : ¬ Abandons ⟨s, .go go, s'⟩)
    (inside : (s.callers go.id).Inside) (failed : s'.callers go.id = .done (.error error)) :
    s'.manager.state = {} := by
  obtain ⟨move, -⟩ := st.move
  rw [failed] at move
  rw [move_fails move inside]
  split
  · next cancelled =>
    -- a cancellation leaves what the handshake has found or published
    have found := clean.finds go.id
    cases h : s.callers go.id with
    | initializing => rwa [h] at found
    | notifying why =>
      rw [h] at found
      exact found.resolve_right fun version => kept ⟨go, why, rfl, h, cancelled ▸ failed, version⟩
    | _ =>
      rw [h] at inside
      exact inside.elim
  · rfl

lemma Clean.step {s s' : Sessions} {go : Go} (clean : Clean s) (st : Step pyRepr s go s')
    (kept : ¬ Abandons ⟨s, .go go, s'⟩) : Clean s' := by
  obtain ⟨move, others⟩ := st.move
  have inv := clean.inv.step st
  by_cases inside : (s.callers go.id).Inside
  · have alone : ∀ id, id ≠ go.id → ¬ (s'.callers id).Inside := by
      intro id ne other
      rw [others id ne] at other
      exact ne (clean.inv.serves.unique other inside)
    obtain ⟨why, notifying, version⟩ | ⟨left, complete⟩ | ⟨error, failed⟩ := move_inside move inside
    · refine .inside inv (by rw [notifying]; trivial) ?_
      rw [notifying]
      exact .inr version
    · exact .left inv alone left (.inr complete)
    · refine .left inv alone ?_ (.inl (clean.failed st kept inside failed))
      rw [failed]
      exact fun h => h
  · obtain ⟨same, outside⟩ | ⟨why, entered, pristine⟩ := move_outside move inside
    · refine ⟨inv, fun id => ?_, fun none => ?_⟩
      · by_cases own : id = go.id
        · exact finds_outside (own ▸ outside)
        · rw [others id own, same]
          exact clean.finds id
      · rw [same]
        refine clean.quiet fun id => ?_
        by_cases own : id = go.id
        · exact own ▸ inside
        · rw [← others id own]
          exact none id
    · have now : (s'.callers go.id).Inside := by
        rw [entered]
        trivial
      refine .inside inv now ?_
      rw [entered]
      refine pristine (clean.quiet fun id => ?_)
      by_cases own : id = go.id
      · exact own ▸ inside
      · intro other
        rw [← others id own] at other
        exact own (inv.serves.unique other now)

lemma Clean.used {s s' : Sessions} {u : Use} (clean : Clean s) (used : Used pyRepr s u s')
    (kept : ¬ Abandons ⟨s, u, s'⟩) : Clean s' := by
  cases u with
  | go go => exact clean.step used kept
  | reset =>
    cases used
    exact clean.reset

/-- Where a handshake is abandoned, the session that it published stays. -/
lemma Abandons.published {e : Event Sessions Use} (used : Used pyRepr e.pre e.label e.post)
    (abandons : Abandons e) : FailsHandshake e ∧ e.post.manager.state ≠ {} := by
  obtain ⟨go, why, label, notifying, cancelled, version⟩ := abandons
  rw [label] at used
  have inside : (e.pre.callers go.id).Inside := by
    rw [notifying]
    trivial
  have st : Step pyRepr e.pre go e.post := used
  obtain ⟨move, -⟩ := st.move
  rw [cancelled] at move
  refine ⟨⟨go, _, label, inside, cancelled⟩, fun pristine => ?_⟩
  rw [move_fails move inside, if_pos rfl] at pristine
  rw [pristine] at version
  cases version

/-- Every handshake that fails leaves a pristine session, and every request to initialize a session goes
    out without one, exactly where no handshake is cancelled between the moment when it has published the
    session and its end. -/
theorem failures_pristine (protocolVersion clientName clientVersion : String)
    (supportedVersions : List String) {es : List (Event Sessions Use)} {s : Sessions}
    (run : Run (Used pyRepr)
      (start (.new protocolVersion clientName clientVersion supportedVersions)) es s) :
    (∀ e ∈ es,
      (FailsHandshake e → e.post.manager.state = {}) ∧
      ∀ go why, e.label = .go go → e.post.callers go.id = .initializing why →
        ∀ (client : MCPClient) (c : ClientState) (payload : JsonObject),
          c.session = e.post.manager → (client.postOf c payload false).sessionId = none) ↔
    ∀ e ∈ es, ¬ Abandons e := by
  constructor
  · intro pristine e mem abandons
    obtain ⟨fails, published⟩ := abandons.published (run.step_of_mem mem)
    exact published ((pristine e mem).1 fails)
  · intro kept e mem
    obtain ⟨before, -⟩ := run.invariant_mem (G := fun e => ¬ Abandons e)
      (fun _ st kept clean => Clean.used clean st kept) kept (.start rfl rfl) mem
    have after := before.used (run.step_of_mem mem) (kept e mem)
    constructor
    · rintro ⟨go, error, label, inside, failed⟩
      obtain ⟨pre, label', post⟩ := e
      cases label
      exact before.failed (run.step_of_mem mem) (kept _ mem) inside failed
    · rintro go why - initializing client c payload session
      have found := after.finds go.id
      rw [initializing] at found
      rw [MCPClient.postOf, session, found]

section Samples

/-- The caller notifies the server. -/
def notifies : Caller → Bool
  | .notifying _ => true
  | _ => false

/-- The caller was cancelled. -/
def cancelled : Caller → Bool
  | .done (.error .cancelled) => true
  | _ => false

lemma notifies_iff {caller : Caller} : notifies caller = true ↔ ∃ why, caller = .notifying why := by
  cases caller <;> simp [notifies]

lemma cancelled_iff {caller : Caller} :
    cancelled caller = true ↔ caller = .done (.error .cancelled) := by
  constructor
  · intro h
    unfold cancelled at h
    split at h
    · rfl
    · cases h
  · rintro rfl
    rfl

/-- The use of the sessions abandons a handshake of this caller. -/
def abandonsOf (e : Event Sessions Use) : Use → Bool
  | .go go => notifies (e.pre.callers go.id) && cancelled (e.post.callers go.id) &&
      e.pre.manager.state.protocolVersion.isSome
  | .reset => false

instance (e : Event Sessions Use) : Decidable (Abandons e) :=
  decidable_of_iff (abandonsOf e e.label = true) <| by
    constructor
    · intro h
      cases label : e.label with
      | reset =>
        rw [label] at h
        cases h
      | go go =>
        rw [label, abandonsOf, Bool.and_eq_true, Bool.and_eq_true, notifies_iff, cancelled_iff] at h
        obtain ⟨⟨⟨why, notifying⟩, cancelled⟩, version⟩ := h
        exact ⟨go, why, label, notifying, cancelled, version⟩
    · rintro ⟨go, why, label, notifying, cancelled, version⟩
      rw [label, abandonsOf, Bool.and_eq_true, Bool.and_eq_true, notifies_iff, cancelled_iff]
      exact ⟨⟨⟨why, notifying⟩, cancelled⟩, version⟩

/-- A use of the sessions, for examples. -/
def sampleUse : Sessions → Use → Option Sessions := use fun _ => ""

/-- The answer of a server that grants a session in this version. -/
def grants (version : String) : Wakeup :=
  .answered (.ok (.obj [("protocolVersion", .str version)], [("mcp-session-id", "s1")]))

/-- A handshake that is cancelled while it notifies the server. -/
def cancelledHandshake : List Use :=
  [.go ⟨0, .call .ensure⟩, .go ⟨0, grants "2025-06-18"⟩, .go ⟨0, .cancelled⟩]

/-- A handshake of a server with a version that the client does not know, and the next one. -/
def refusedHandshake : List Use :=
  [.go ⟨0, .call .ensure⟩, .go ⟨0, grants "1"⟩, .go ⟨1, .call .ensure⟩]

/-- A handshake that is cancelled leaves the session that it published. -/
theorem cancelled_keeps_session : ¬ ∀ (es : List (Event Sessions Use)) (s : Sessions),
    Run (Used fun _ => "") sampleSessions es s →
      ∀ e ∈ es, FailsHandshake e → e.post.manager.state = {} := by
  intro pristine
  have run := play_run
    (by decide +kernel : possible sampleUse sampleSessions cancelledHandshake = true)
  obtain ⟨e, mem, abandons⟩ :
      ∃ e ∈ (play sampleUse sampleSessions cancelledHandshake).1, Abandons e := by
    decide +kernel
  obtain ⟨fails, published⟩ := abandons.published (run.step_of_mem mem)
  exact published (pristine _ _ run e mem fails)

theorem failures_pristine_sample :
    possible sampleUse sampleSessions refusedHandshake = true ∧
    ∀ e ∈ (play sampleUse sampleSessions refusedHandshake).1,
      FailsHandshake e → e.post.manager.state = {} := by
  have can : possible sampleUse sampleSessions refusedHandshake = true := by decide +kernel
  have run := play_run can
  have kept : ∀ e ∈ (play sampleUse sampleSessions refusedHandshake).1, ¬ Abandons e := by
    decide +kernel
  apply And.intro can
  intro e mem
  exact ((failures_pristine "2025-06-18" "client" "1" [] run).mpr kept e mem).1

end Samples

end Sessions

end AgentRuntime.Mcp
