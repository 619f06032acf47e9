import AgentRuntime.Orchestration.Effects

/-!
# Requests come to an end

What every request of a system comes to, whatever the repository, the graph and the other requests do: a handler
that goes on often enough ends, and the gates of the processes hold exactly the conversations of the handlers
that are inside.
-/

namespace AgentRuntime.Orchestration
open State Transition

section Rank

/-- The number of awaits that are ahead of a handler at most. -/
def Phase.rank : Phase → Nat
  | .start => 14
  | .reading => 13
  | .migrating => 12
  | .creating resumeMigrated => if resumeMigrated then 11 else 12
  | .inspecting _ => 11
  | .acquiring => 10
  | .preparing _ _ => 9
  | .executing _ _ => 8
  | .locating _ _ => 7
  | .persisting _ _ _ => 6
  | .appending _ _ => 5
  | .committing _ _ => 4
  | .interrupting _ _ _ => 3
  | .replaying _ => 3
  | .reconciling _ => 2
  | .releasing _ _ => 2
  | .leaving _ => 1
  | .done _ => 0

lemma rank_unwind (lease : RunLease) (terminalPersisted : Bool) (error : RequestError) :
    (unwind lease terminalPersisted error).rank ≤ 3 := by
  simp only [unwind]
  split
  · exact Nat.le_refl 3
  · exact Nat.le_succ 2
  · split
    · exact Nat.le_succ 2
    · exact Nat.le_refl 3

variable {agent : ChatRuntimeAgent} {request : Request} {input : Input} {t t' : agent.store.σ} {p p' : Phase}

lemma rank_afterLookup (record : RunRecord) (created resumeMigrated : Bool) :
    (afterLookup request record created resumeMigrated input).rank ≤ if resumeMigrated then 10 else 11 := by
  simp only [afterLookup]
  split
  · split <;> simp [Phase.rank]
  · split <;> simp [Phase.rank]
  · split <;> simp [Phase.rank]
  · split <;> simp [Phase.rank]

lemma rank_afterInspection (created checkpointExists : Bool) :
    (afterInspection request created checkpointExists).rank ≤ 10 := by
  simp only [afterInspection]
  split
  · simp [Phase.rank]
  · split <;> simp [Phase.rank]

/-- Inside the gate every await brings a handler forward. -/
lemma rank_resume (h : resume agent request input t p = (p', t')) (entered : p ≠ .start)
    (staying : ∀ result, p ≠ .leaving result) (working : ∀ result, p ≠ .done result) : p'.rank < p.rank := by
  have unwound := rank_unwind
  have looked := @rank_afterLookup request input
  have inspected := @rank_afterInspection request
  cases p with
  | start => exact absurd rfl entered
  | leaving result => exact absurd rfl (staying result)
  | done result => exact absurd rfl (working result)
  | _ =>
    simp only [resume] at h
    repeat' split at h
    all_goals
      obtain ⟨rfl, -⟩ := Prod.mk.inj h
      simp only [Phase.rank]
      grind [Phase.rank]

lemma rank_heartbeat (h : heartbeat agent input t p = (p', t')) : p'.rank ≤ p.rank := by
  have unwound := rank_unwind
  cases p with
  | preparing lease current =>
    simp only [heartbeat] at h
    split at h
    · obtain ⟨rfl, -⟩ := Prod.mk.inj h
      exact (unwound _ _ _).trans (by simp [Phase.rank])
    · obtain ⟨rfl, -⟩ := Prod.mk.inj h
      exact Nat.le_refl _
  | executing lease current =>
    simp only [heartbeat] at h
    split at h
    · obtain ⟨rfl, -⟩ := Prod.mk.inj h
      exact (unwound _ _ _).trans (by simp [Phase.rank])
    · obtain ⟨rfl, -⟩ := Prod.mk.inj h
      exact Nat.le_refl _
  | _ =>
    obtain ⟨rfl, -⟩ := Prod.mk.inj h
    exact Nat.le_refl _

variable {gate gate' : ConversationGate}

/-- The ways in which a handler goes on: at the gate, out of it, not at all, or inside. -/
lemma advance_resume_cases (h : advance agent request .resume input gate t p = (p', gate', t')) :
    (p = .start ∧ gate.enter request.identity = none ∧ (∃ result, p' = .done result) ∧ gate' = gate) ∨
    (p = .start ∧ gate.enter request.identity = some gate' ∧
      p' = if request.identity.resumed then .reading else .creating false) ∨
    (∃ result, p = .leaving result ∧ p' = .done result ∧ gate' = gate.leave request.identity) ∨
    (∃ result, p = .done result ∧ p' = .done result ∧ gate' = gate) ∨
    (p ≠ .start ∧ (∀ result, p ≠ .leaving result) ∧ (∀ result, p ≠ .done result) ∧ gate' = gate ∧
      resume agent request input t p = (p', t')) := by
  cases p with
  | start =>
    simp only [advance] at h
    split at h
    · next busy =>
      obtain ⟨rfl, rest⟩ := Prod.mk.inj h
      exact .inl ⟨rfl, busy, ⟨_, rfl⟩, (Prod.mk.inj rest).1.symm⟩
    · next free =>
      obtain ⟨rfl, rest⟩ := Prod.mk.inj h
      obtain ⟨rfl, -⟩ := Prod.mk.inj rest
      exact .inr (.inl ⟨rfl, free, rfl⟩)
  | leaving result =>
    obtain ⟨rfl, rest⟩ := Prod.mk.inj h
    exact .inr (.inr (.inl ⟨result, rfl, rfl, (Prod.mk.inj rest).1.symm⟩))
  | done result =>
    obtain ⟨rfl, rest⟩ := Prod.mk.inj h
    exact .inr (.inr (.inr (.inl ⟨result, rfl, rfl, (Prod.mk.inj rest).1.symm⟩)))
  | _ =>
    rw [advance] at h
    · obtain ⟨moved, rest⟩ := Prod.mk.inj h
      obtain ⟨same, kept⟩ := Prod.mk.inj rest
      exact .inr (.inr (.inr (.inr ⟨by simp, by simp, by simp, same.symm, Prod.ext moved kept⟩)))
    · simp
    · simp

/-- Whoever goes on comes nearer to the end, or is there. -/
lemma rank_advance (h : advance agent request .resume input gate t p = (p', gate', t')) :
    p'.rank ≤ p.rank - 1 := by
  obtain ⟨rfl, -, ⟨result, rfl⟩, -⟩ | ⟨rfl, -, rfl⟩ | ⟨result, rfl, rfl, -⟩ | ⟨result, rfl, rfl, -⟩ |
    ⟨entered, staying, working, -, moved⟩ := advance_resume_cases h
  · exact Nat.zero_le _
  · split <;> simp [Phase.rank]
  · exact Nat.zero_le _
  · exact Nat.zero_le _
  · have less := rank_resume moved entered staying working
    omega

end Rank

section Turns

variable {agent : ChatRuntimeAgent} {requests : Nat → Request} {s s' final : System agent} {turn : Turn}

/-- A turn moves one handler, through the gate of its process. -/
lemma System.step_advance (st : System.Step requests s turn s') : ∃ p' gate',
    advance agent (requests turn.handler) turn.action turn.input (s.gates (requests turn.handler).process) s.store
      (s.phases turn.handler) = (p', gate', s'.store) ∧
    s'.phases = Function.update s.phases turn.handler p' ∧
    s'.gates = Function.update s.gates (requests turn.handler).process gate' := by
  obtain ⟨-, -, rfl⟩ := st
  exact ⟨_, _, rfl, rfl, rfl⟩

/-- The turn is one at which the handler goes on. -/
def goesOn (i : Nat) (e : Event (System agent) Turn) : Bool :=
  e.label.handler = i && e.label.action = .resume

lemma rank_step (st : System.Step requests s turn s') (i : Nat) :
    (s'.phases i).rank ≤ (s.phases i).rank - if goesOn i ⟨s, turn, s'⟩ then 1 else 0 := by
  obtain ⟨p', gate', advanced, phases, -⟩ := System.step_advance st
  rw [phases, Function.update_apply]
  by_cases own : i = turn.handler
  · subst own
    rw [if_pos rfl]
    cases action : turn.action with
    | resume =>
      rw [action] at advanced
      simpa [goesOn, action] using rank_advance advanced
    | heartbeat =>
      rw [action] at advanced
      have moved : heartbeat agent turn.input s.store (s.phases turn.handler) = (p', s'.store) :=
        Prod.ext (Prod.mk.inj advanced).1 (Prod.mk.inj (Prod.mk.inj advanced).2).2
      simpa [goesOn, action] using rank_heartbeat moved
  · rw [if_neg own]
    simp [goesOn, Ne.symm own]

/-- Every turn of a handler counts. -/
lemma rank_run {events : List (Event (System agent) Turn)} (run : Run (System.Step requests) s events final)
    (i : Nat) : (final.phases i).rank ≤ (s.phases i).rank - events.countP (goesOn i) := by
  induction run with
  | nil => exact Nat.le_refl _
  | @cons s turn s' events final st _ ih =>
    have first := rank_step st i
    rw [List.countP_cons]
    omega

lemma done_of_rank {p : Phase} (zero : p.rank = 0) : ∃ result, p = .done result := by
  cases p with
  | done result => exact ⟨result, rfl⟩
  | creating resumeMigrated => cases resumeMigrated <;> cases zero
  | _ => cases zero

end Turns

section Gates

/-- The handler is inside the gate of its process. -/
def Phase.inside : Phase → Bool
  | .start => false
  | .done _ => false
  | _ => true

variable {agent : ChatRuntimeAgent} {request : Request} {input : Input} {t t' : agent.store.σ} {p p' : Phase}

lemma inside_unwind (lease : RunLease) (terminalPersisted : Bool) (error : RequestError) :
    (unwind lease terminalPersisted error).inside = true := by
  simp only [unwind]
  split
  · rfl
  · rfl
  · split <;> rfl

lemma inside_afterLookup (record : RunRecord) (created resumeMigrated : Bool) :
    (afterLookup request record created resumeMigrated input).inside = true := by
  simp only [afterLookup]
  split
  · rfl
  · rfl
  · rfl
  · split <;> rfl

lemma inside_afterInspection (created checkpointExists : Bool) :
    (afterInspection request created checkpointExists).inside = true := by
  simp only [afterInspection]
  split
  · rfl
  · split <;> rfl

/-- An await inside the gate ends inside the gate. -/
lemma inside_resume (h : resume agent request input t p = (p', t')) (entered : p ≠ .start)
    (working : ∀ result, p ≠ .done result) : p'.inside = true := by
  have unwound := inside_unwind
  have looked := @inside_afterLookup request input
  have inspected := @inside_afterInspection request
  cases p with
  | start => exact absurd rfl entered
  | done result => exact absurd rfl (working result)
  | leaving result =>
    obtain ⟨rfl, -⟩ := Prod.mk.inj h
    rfl
  | _ =>
    simp only [resume] at h
    repeat' split at h
    all_goals
      obtain ⟨rfl, -⟩ := Prod.mk.inj h
      first | rfl | exact unwound _ _ _ | exact looked _ _ _ | exact inspected _ _

lemma inside_heartbeat (h : heartbeat agent input t p = (p', t')) : p'.inside = p.inside := by
  cases p with
  | preparing lease current =>
    simp only [heartbeat] at h
    split at h
    · obtain ⟨rfl, -⟩ := Prod.mk.inj h
      exact inside_unwind _ _ _
    · obtain ⟨rfl, -⟩ := Prod.mk.inj h
      rfl
  | executing lease current =>
    simp only [heartbeat] at h
    split at h
    · obtain ⟨rfl, -⟩ := Prod.mk.inj h
      exact inside_unwind _ _ _
    · obtain ⟨rfl, -⟩ := Prod.mk.inj h
      rfl
  | _ =>
    obtain ⟨rfl, -⟩ := Prod.mk.inj h
    rfl

variable {gate gate' : ConversationGate} {action : Action}

/-- What a turn does at the gate: nothing, or it enters, or it leaves. -/
lemma advance_gate (h : advance agent request action input gate t p = (p', gate', t')) :
    (p'.inside = p.inside ∧ gate' = gate) ∨
    (p.inside = false ∧ p'.inside = true ∧ gate.enter request.identity = some gate') ∨
    (p.inside = true ∧ p'.inside = false ∧ gate' = gate.leave request.identity) := by
  cases action with
  | heartbeat =>
    obtain ⟨moved, rest⟩ := Prod.mk.inj h
    obtain ⟨same, kept⟩ := Prod.mk.inj rest
    exact .inl ⟨inside_heartbeat (Prod.ext moved kept), same.symm⟩
  | resume =>
    obtain ⟨rfl, -, ⟨result, rfl⟩, rfl⟩ | ⟨rfl, free, rfl⟩ | ⟨result, rfl, rfl, rfl⟩ | ⟨result, rfl, rfl, rfl⟩ |
      ⟨entered, staying, working, rfl, moved⟩ := advance_resume_cases h
    · exact .inl ⟨rfl, rfl⟩
    · refine .inr (.inl ⟨rfl, ?_, free⟩)
      split <;> rfl
    · exact .inr (.inr ⟨rfl, rfl, rfl⟩)
    · exact .inl ⟨rfl, rfl⟩
    · refine .inl ⟨?_, rfl⟩
      have before : p.inside = true := by
        cases p with
        | start => exact absurd rfl entered
        | done result => exact absurd rfl (working result)
        | _ => rfl
      rw [inside_resume moved entered working, before]

end Gates

section Exclusion

variable {agent : ChatRuntimeAgent} {requests : Nat → Request} {s s' final : System agent} {turn : Turn}

/-- The handler is inside the gate of the process, for the conversation. -/
def Inside (requests : Nat → Request) (s : System agent) (i process : Nat) (conversationId : String) : Prop :=
  (s.phases i).inside = true ∧ (requests i).process = process ∧
    (requests i).identity.conversationId = conversationId

/-- The gate of every process holds the conversations of the handlers inside, each of one run. -/
structure Gated (requests : Nat → Request) (s : System agent) : Prop where
  owner : ∀ process conversationId runId, (s.gates process).lookup conversationId = some runId ↔
    ∃ i, Inside requests s i process conversationId ∧ (requests i).identity.runId = runId
  alone : ∀ i j process conversationId, Inside requests s i process conversationId →
    Inside requests s j process conversationId → i = j

lemma Gated.start (now : Time) : Gated requests (System.start agent now) where
  owner process conversationId runId := by
    constructor
    · intro none
      cases none
    · rintro ⟨i, ⟨entered, -⟩, -⟩
      cases entered
  alone i j process conversationId h _ := by cases h.1

/-- Nobody is inside for a conversation that has no owner. -/
lemma Gated.nobody (gated : Gated requests s) {process : Nat} {conversationId : String}
    (none : (s.gates process).lookup conversationId = none) (i : Nat) :
    ¬ Inside requests s i process conversationId := by
  intro inside
  rw [(gated.owner process conversationId _).mpr ⟨i, inside, rfl⟩] at none
  cases none

lemma Gated.entered (gated : Gated requests s) {h : Nat} {gate' : ConversationGate}
    (free : (s.gates (requests h).process).enter (requests h).identity = some gate')
    (insides : ∀ i process conversationId, Inside requests s' i process conversationId ↔
      (i = h ∧ process = (requests h).process ∧ conversationId = (requests h).identity.conversationId) ∨
        Inside requests s i process conversationId)
    (gates : s'.gates = Function.update s.gates (requests h).process gate') : Gated requests s' := by
  obtain ⟨none, rfl⟩ : (s.gates (requests h).process).lookup (requests h).identity.conversationId = none ∧
      (s.gates (requests h).process).insert (requests h).identity.conversationId (requests h).identity.runId =
        gate' := by
    simpa only [ConversationGate.enter, Option.isSome_iff_ne_none, ite_not, Option.ite_none_right_eq_some,
      Option.some.injEq] using free
  have nobody := gated.nobody none
  -- the gate has an owner for a conversation exactly when one handler is inside
  refine ⟨?_, ?_⟩
  · intro process conversationId runId
    simp only [insides, gates, Function.update_apply]
    by_cases own : process = (requests h).process ∧ conversationId = (requests h).identity.conversationId
    · obtain ⟨rfl, rfl⟩ := own
      rw [if_pos rfl, Dict.lookup_insert_ite, if_pos rfl]
      constructor
      · rintro ⟨⟩
        exact ⟨h, .inl ⟨rfl, rfl, rfl⟩, rfl⟩
      · rintro ⟨i, ⟨rfl, -⟩ | inside, rfl⟩
        · rfl
        · exact absurd inside (nobody i)
    · have kept : (if process = (requests h).process then (s.gates (requests h).process).insert
          (requests h).identity.conversationId (requests h).identity.runId else s.gates process).lookup
            conversationId = (s.gates process).lookup conversationId := by
        split
        · next same =>
          rw [Dict.lookup_insert_ite, if_neg (fun same' => own ⟨same, same'⟩), same]
        · rfl
      rw [kept, gated.owner]
      simp [own]
  · intro i j process conversationId hi hj
    rw [insides] at hi hj
    rcases hi with ⟨rfl, rfl, rfl⟩ | hi
    · rcases hj with ⟨rfl, -⟩ | hj
      · rfl
      · exact absurd hj (nobody j)
    · rcases hj with ⟨rfl, rfl, rfl⟩ | hj
      · exact absurd hi (nobody i)
      · exact gated.alone i j process conversationId hi hj

lemma Gated.left (gated : Gated requests s) {h : Nat}
    (inside : Inside requests s h (requests h).process (requests h).identity.conversationId)
    (insides : ∀ i process conversationId, Inside requests s' i process conversationId ↔
      i ≠ h ∧ Inside requests s i process conversationId)
    (gates : s'.gates = Function.update s.gates (requests h).process
      ((s.gates (requests h).process).leave (requests h).identity)) : Gated requests s' := by
  have owned := (gated.owner _ _ _).mpr ⟨h, inside, rfl⟩
  rw [ConversationGate.leave, if_pos owned] at gates
  refine ⟨?_, ?_⟩
  · intro process conversationId runId
    simp only [insides, gates, Function.update_apply]
    by_cases own : process = (requests h).process ∧ conversationId = (requests h).identity.conversationId
    · obtain ⟨rfl, rfl⟩ := own
      rw [if_pos rfl, Dict.lookup_erase_ite, if_pos rfl]
      constructor
      · intro none
        cases none
      · rintro ⟨i, ⟨other, inside'⟩, -⟩
        exact absurd (gated.alone i h _ _ inside' inside) other
    · have kept : (if process = (requests h).process then (s.gates (requests h).process).erase
          (requests h).identity.conversationId else s.gates process).lookup conversationId =
            (s.gates process).lookup conversationId := by
        split
        · next same =>
          rw [Dict.lookup_erase_ite, if_neg (fun same' => own ⟨same, same'⟩), same]
        · rfl
      rw [kept, gated.owner]
      constructor
      · rintro ⟨i, inside', same⟩
        refine ⟨i, ⟨?_, inside'⟩, same⟩
        rintro rfl
        exact own ⟨inside'.2.1.symm, inside'.2.2.symm⟩
      · rintro ⟨i, ⟨-, inside'⟩, same⟩
        exact ⟨i, inside', same⟩
  · intro i j process conversationId hi hj
    rw [insides] at hi hj
    exact gated.alone i j process conversationId hi.2 hj.2

lemma Gated.step (gated : Gated requests s) (st : System.Step requests s turn s') : Gated requests s' := by
  obtain ⟨p', gate', advanced, phases, gates⟩ := System.step_advance st
  set h := turn.handler
  have other {i : Nat} (ne : i ≠ h) : s'.phases i = s.phases i := by
    rw [phases, Function.update_of_ne ne]
  have own : s'.phases h = p' := by rw [phases, Function.update_self]
  obtain ⟨same, rfl⟩ | ⟨outside, entered, free⟩ | ⟨inside, left, rfl⟩ := advance_gate advanced
  · -- nothing happens at a gate
    have insides : Inside requests s' = Inside requests s := by
      funext i process conversationId
      by_cases moved : i = h
      · rw [Inside, Inside, moved, own, same]
      · rw [Inside, Inside, other moved]
    rw [Function.update_eq_self] at gates
    refine ⟨?_, ?_⟩
    · rw [insides, gates]
      exact gated.owner
    · rw [insides]
      exact gated.alone
  · refine gated.entered free ?_ gates
    intro i process conversationId
    by_cases moved : i = h
    · simp only [Inside, moved, own, entered, outside, true_and, Bool.false_eq_true, false_and, or_false]
      simp only [eq_comm]
    · simp only [Inside, other moved, moved, false_and, false_or]
  · refine gated.left ⟨inside, rfl, rfl⟩ ?_ gates
    intro i process conversationId
    by_cases moved : i = h
    · simp [Inside, moved, own, left]
    · simp [Inside, other moved, moved]

lemma Gated.run {now : Time} {events : List (Event (System agent) Turn)}
    (run : Run (System.Step requests) (.start agent now) events final) : Gated requests final :=
  run.invariant (fun _ st _ gated => gated.step st) (fun _ _ => trivial) (.start now)

variable {now : Time} {events : List (Event (System agent) Turn)}

/-- In every process, a conversation is held exactly while a handler is inside for it, for the run of that handler,
    and never for two. -/
theorem gates_exact (run : Run (System.Step requests) (.start agent now) events final) (process : Nat)
    (conversationId : String) :
    (∀ runId, (final.gates process).lookup conversationId = some runId ↔
      ∃ i, Inside requests final i process conversationId ∧ (requests i).identity.runId = runId) ∧
    ∀ i j, Inside requests final i process conversationId → Inside requests final j process conversationId →
      i = j := by
  have gated := Gated.run run
  exact ⟨gated.owner process conversationId, fun i j => gated.alone i j process conversationId⟩

/-- A handler that has not gone on is still at the gate. -/
lemma start_run {i : Nat} (run : Run (System.Step requests) s events final) (waiting : s.phases i = .start)
    (idle : events.countP (goesOn i) = 0) : final.phases i = .start := by
  induction run with
  | nil => exact waiting
  | @cons s turn s' events final st _ ih =>
    rw [List.countP_cons] at idle
    apply ih
    · obtain ⟨p', gate', -, phases, -⟩ := System.step_advance st
      rw [phases, Function.update_of_ne, waiting]
      rintro rfl
      have action := System.step_action st (by rw [waiting]; rfl)
      simp [goesOn, action] at idle
    · omega

/-- When every handler that has gone on has done so fourteen times, each of them has ended, whatever the
    repository, the graph and the checkpoints answered and whoever was cancelled; and no process holds a
    conversation. -/
theorem requests_drain (run : Run (System.Step requests) (.start agent now) events final)
    (turns : ∀ i, events.countP (goesOn i) = 0 ∨ 14 ≤ events.countP (goesOn i)) :
    (∀ i, events.countP (goesOn i) ≠ 0 → ∃ result, final.phases i = .done result) ∧
      ∀ process conversationId, (final.gates process).lookup conversationId = none := by
  have ended (i : Nat) (moved : events.countP (goesOn i) ≠ 0) : ∃ result, final.phases i = .done result := by
    have enough := (turns i).resolve_left moved
    have rank := rank_run run i
    have first : ((System.start agent now).phases i).rank = 14 := rfl
    exact done_of_rank (by omega)
  refine ⟨ended, ?_⟩
  intro process conversationId
  cases held : (final.gates process).lookup conversationId with
  | none => rfl
  | some runId =>
    obtain ⟨i, ⟨inside, -⟩, -⟩ := ((Gated.run run).owner process conversationId runId).mp held
    by_cases moved : events.countP (goesOn i) = 0
    · rw [start_run run rfl moved] at inside
      cases inside
    · obtain ⟨result, done⟩ := ended i moved
      rw [done] at inside
      cases inside

end Exclusion

section Samples

/-- The first request of the examples goes on some times. -/
def firstTurns (count : Nat) : List Turn := sampleTurns (List.replicate count 0)

def firstEvents (count : Nat) : List (Event (System sampleRuntime) Turn) :=
  System.history sampleRequest (.start sampleRuntime 0) (firstTurns count)

def firstAfter (count : Nat) : System sampleRuntime :=
  System.after sampleRequest (.start sampleRuntime 0) (firstTurns count)

lemma mem_firstTurns {count : Nat} {turn : Turn} (mem : turn ∈ firstTurns count) :
    turn = { handler := 0, input := sampleInput } := by
  obtain ⟨handler, replicated, rfl⟩ := List.mem_map.mp mem
  cases List.eq_of_mem_replicate replicated
  rfl

lemma first_run (count : Nat) :
    Run (System.Step sampleRequest) (.start sampleRuntime 0) (firstEvents count) (firstAfter count) := by
  refine System.run_history _ _ _ ?_ ?_
  · have zeros : (firstTurns count).map (fun turn => turn.input.now) = List.replicate count 0 := by
      rw [firstTurns, sampleTurns, List.map_map, List.map_replicate]
      rfl
    rw [zeros]
    have same : (System.start sampleRuntime 0).clock :: List.replicate count 0 =
        List.replicate (count + 1) (0 : Time) := rfl
    rw [same]
    exact List.pairwise_replicate.mpr (.inr (Int.le_refl 0))
  · intro turn mem
    rw [mem_firstTurns mem]

lemma countP_history (s : System sampleRuntime) (turns : List Turn) (i : Nat) :
    (System.history sampleRequest s turns).countP (goesOn i) =
      turns.countP fun turn => turn.handler = i && turn.action = .resume := by
  induction turns generalizing s with
  | nil => rfl
  | cons turn turns ih => rw [System.history, List.countP_cons, List.countP_cons, ih, goesOn]

example : ((firstAfter 5).gates 0).lookup "support" =
    some "11111111-1111-4111-8111-111111111111" :=
  ((gates_exact (first_run 5) 0 "support").1 _).mpr ⟨0, ⟨by decide, rfl, rfl⟩, rfl⟩

theorem requests_drain_sample : (∃ result, (firstAfter 14).phases 0 = .done result) ∧
    ((firstAfter 14).gates 0).lookup "support" = none := by
  have turns (i : Nat) : (firstEvents 14).countP (goesOn i) = 0 ∨ 14 ≤ (firstEvents 14).countP (goesOn i) := by
    rw [firstEvents, countP_history]
    cases i with
    | zero => exact .inr (by decide)
    | succ i =>
      refine .inl (List.countP_eq_zero.mpr ?_)
      intro turn mem
      rw [mem_firstTurns mem]
      simp
  obtain ⟨ended, free⟩ := requests_drain (first_run 14) turns
  refine ⟨ended 0 ?_, free 0 "support"⟩
  rw [firstEvents, countP_history]
  decide

end Samples

end AgentRuntime.Orchestration
