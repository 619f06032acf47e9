import Mathlib.Data.Set.Insert
import Mathlib.Tactic.Lemma

/-!
# Commands on a store

A command reads and writes a store and gives an answer, or fails; what it wrote before it failed stays
written. What a command touches is said with the keys of the store: which ones it can write, and which
ones its answer and its writes depend on. Commands that touch different keys do not notice each other.
-/

/-- A command on a store `σ`, which can fail with an `ε`. -/
abbrev Command (σ ε : Type) := ExceptT ε (StateM σ)

namespace Command

variable {σ τ ε α β κ ν : Type}

/-- The command that a function is. -/
def ofFunction (f : σ → Except ε α × σ) : Command σ ε α := fun s => f s

/-- What the command answers on a store, and the store after it. -/
def perform (c : Command σ ε α) (s : σ) : Except ε α × σ := c s

@[simp] lemma perform_ofFunction (f : σ → Except ε α × σ) (s : σ) : (ofFunction f).perform s = f s := rfl

@[simp] lemma perform_pure (a : α) (s : σ) : perform (pure a : Command σ ε α) s = (.ok a, s) := rfl

@[simp] lemma perform_throw (e : ε) (s : σ) :
    perform (throw e : Command σ ε α) s = (.error e, s) := rfl

lemma perform_bind (c : Command σ ε α) (next : α → Command σ ε β) (s : σ) :
    (c >>= next).perform s =
      match c.perform s with
      | (.ok a, s') => (next a).perform s'
      | (.error e, s') => (.error e, s') := by
  change (ExceptT.bindCont next (c s).1) (c s).2 = _
  rcases h : c.perform s with ⟨answer, s'⟩
  have here : c s = (answer, s') := h
  rw [here]
  cases answer <;> rfl

lemma discard_eq (c : Command σ ε α) : discard c = c >>= fun _ => pure () := by
  rw [discard, LawfulFunctor.map_const, Function.comp_apply, ← bind_pure_comp]

/-- The command that answers this or fails with this, and writes nothing. -/
def attempt (answer : Except ε α) : Command σ ε α := ofFunction fun s => (answer, s)

/-- A command on a part of the store. -/
def within (look : σ → τ) (put : τ → σ → σ) (c : Command τ ε α) : Command σ ε α :=
  ofFunction fun s =>
    let (answer, t) := c.perform (look s)
    (answer, put t s)

/-- A command with something to do in the store before a failure of it goes on. -/
def onFailure (c : Command σ ε α) (cleanup : σ → σ) : Command σ ε α :=
  ofFunction fun s =>
    match c.perform s with
    | (.ok a, s') => (.ok a, s')
    | (.error e, s') => (.error e, cleanup s')

/-- The commands of a transaction: a failure of one does not keep the others from being performed, and the
    first one is the failure of the transaction. -/
def transaction : List (Command σ ε Unit) → Command σ ε Unit
  | [] => pure ()
  | c :: cs => ofFunction fun s =>
    let (answer, s') := c.perform s
    let (others, s'') := (transaction cs).perform s'
    match answer with
    | .ok () => (others, s'')
    | .error e => (.error e, s'')

section Returns

/-- From a store where `pre` holds the command succeeds, and `post` holds of its answer and the store after it. -/
def Returns (pre : σ → Prop) (c : Command σ ε α) (post : α → σ → Prop) : Prop :=
  ∀ s, pre s → ∃ a s', c.perform s = (.ok a, s') ∧ post a s'

variable {pre : σ → Prop} {c : Command σ ε α} {next : α → Command σ ε β} {mid : α → σ → Prop}

lemma Returns.pure {post : α → σ → Prop} (a : α) (holds : ∀ s, pre s → post a s) :
    Returns pre (pure a : Command σ ε α) post := fun s before => ⟨a, s, rfl, holds s before⟩

lemma Returns.bind {post : β → σ → Prop} (first : Returns pre c mid)
    (rest : ∀ a, Returns (mid a) (next a) post) : Returns pre (c >>= next) post := by
  intro s before
  obtain ⟨a, s', eq, between⟩ := first s before
  rw [perform_bind, eq]
  exact rest a s' between

lemma Returns.discard {post : σ → Prop} (first : Returns pre c fun _ => post) :
    Returns pre (discard c : Command σ ε Unit) fun _ => post := by
  rw [discard_eq]
  exact first.bind fun _ => .pure () fun _ after => after

/-- Nothing is left to do in an empty transaction. -/
lemma Returns.transaction_nil {post : σ → Prop} :
    Returns post (transaction [] : Command σ ε Unit) fun _ => post :=
  .pure () fun _ after => after

/-- A transaction whose first command succeeds is as good as the rest of it. -/
lemma Returns.transaction_cons {c : Command σ ε Unit} {cs : List (Command σ ε Unit)}
    {between post : σ → Prop} (first : Returns pre c fun _ => between)
    (rest : Returns between (transaction cs) fun _ => post) :
    Returns pre (transaction (c :: cs)) fun _ => post := by
  intro s before
  obtain ⟨_, s', eq, mid⟩ := first s before
  obtain ⟨_, s'', eq', after⟩ := rest s' mid
  refine ⟨(), s'', ?_, after⟩
  rw [transaction, perform_ofFunction, eq]
  dsimp only
  rw [eq']

end Returns

section Ends

/-- From a store where `pre` holds the command succeeds, and `post` holds of its answer and the store after
    it, or it fails, and `failed` holds of the store after it. -/
def Ends (pre : σ → Prop) (c : Command σ ε α) (post : α → σ → Prop) (failed : σ → Prop) : Prop :=
  ∀ s, pre s →
    match c.perform s with
    | (.ok a, s') => post a s'
    | (.error _, s') => failed s'

variable {pre failed : σ → Prop} {post : α → σ → Prop} {c : Command σ ε α} {mid : α → σ → Prop}

lemma Ends.pure {a : α} (holds : ∀ s, pre s → post a s) : Ends pre (pure a : Command σ ε α) post failed :=
  holds

lemma Ends.throw {e : ε} (holds : ∀ s, pre s → failed s) :
    Ends pre (throw e : Command σ ε α) post failed := holds

/-- The rule of consequence. -/
lemma Ends.weaken {pre' failed' : σ → Prop} {post' : α → σ → Prop} (ends : Ends pre' c post' failed')
    (before : ∀ s, pre s → pre' s) (succeeds : ∀ a s, post' a s → post a s)
    (fails : ∀ s, failed' s → failed s) : Ends pre c post failed := by
  intro s holds
  have after := ends s (before s holds)
  rcases h : c.perform s with ⟨answer, s'⟩
  rw [h] at after
  cases answer with
  | ok a => exact succeeds a s' after
  | error e => exact fails s' after

lemma Ends.bind {post : β → σ → Prop} {next : α → Command σ ε β} (first : Ends pre c mid failed)
    (rest : ∀ a, Ends (mid a) (next a) post failed) : Ends pre (c >>= next) post failed := by
  intro s before
  have between := first s before
  rw [perform_bind]
  rcases h : c.perform s with ⟨answer, s'⟩
  rw [h] at between
  cases answer with
  | ok a => exact rest a s' between
  | error e => exact between

/-- A command that begins by reading the store. -/
lemma Ends.read {next : σ → Command σ ε α} (rest : ∀ s, pre s → Ends (· = s) (next s) post failed) :
    Ends pre (get >>= next) post failed := fun s before => rest s before s rfl

lemma Ends.write {post : Unit → σ → Prop} {t : σ} (holds : post () t) :
    Ends pre (set t : Command σ ε Unit) post failed := fun _ _ => holds

lemma Ends.write_bind {next : Unit → Command σ ε α} {t : σ} (rest : Ends (· = t) (next ()) post failed) :
    Ends pre ((set t : Command σ ε Unit) >>= next) post failed := fun _ _ => rest t rfl

lemma Ends.update {post : Unit → σ → Prop} {f : σ → σ} (holds : ∀ s, pre s → post () (f s)) :
    Ends pre (modify f : Command σ ε Unit) post failed := holds

lemma Ends.update_bind {next : Unit → Command σ ε α} {f : σ → σ} {s : σ}
    (rest : Ends (· = f s) (next ()) post failed) :
    Ends (· = s) ((modify f : Command σ ε Unit) >>= next) post failed := by
  rintro _ rfl
  exact rest _ rfl

lemma Ends.attempt {answer : Except ε α} (succeeds : ∀ a s, pre s → post a s)
    (fails : ∀ s, pre s → failed s) : Ends pre (Command.attempt answer) post failed := by
  intro s before
  cases answer with
  | ok a => exact succeeds a s before
  | error e => exact fails s before

lemma Ends.attempt_bind {answer : Except ε β} {next : β → Command σ ε α}
    (rest : ∀ b, answer = .ok b → Ends pre (next b) post failed) (fails : ∀ s, pre s → failed s) :
    Ends pre (Command.attempt answer >>= next) post failed := by
  intro s before
  cases answer with
  | ok b => exact rest b rfl s before
  | error e => exact fails s before

lemma Ends.within {look : σ → τ} {put : τ → σ → σ} {c : Command τ ε α} {part : τ → Prop}
    {post' : α → τ → Prop} {failed' : τ → Prop} {s : σ} (inner : Ends part c post' failed')
    (before : part (look s)) (succeeds : ∀ a t, post' a t → post a (put t s))
    (fails : ∀ t, failed' t → failed (put t s)) :
    Ends (· = s) (c.within look put) post failed := by
  rintro _ rfl
  have after := inner _ before
  rw [Command.within, perform_ofFunction]
  rcases h : c.perform (look _) with ⟨answer, t⟩
  rw [h] at after
  cases answer with
  | ok a => exact succeeds a t after
  | error e => exact fails t after

lemma Ends.onFailure {cleanup : σ → σ} (ends : Ends pre c post fun s => failed (cleanup s)) :
    Ends pre (c.onFailure cleanup) post failed := by
  intro s before
  have after := ends s before
  rw [Command.onFailure, perform_ofFunction]
  rcases h : c.perform s with ⟨answer, s'⟩
  rw [h] at after
  cases answer with
  | ok a => exact after
  | error e => exact after

end Ends

section Footprints

variable (look : κ → σ → ν)

/-- The command changes only what is at these keys. -/
def Writes (keys : Set κ) (c : Command σ ε α) : Prop :=
  ∀ s k, k ∉ keys → look k (c.perform s).2 = look k s

/-- The answer of the command, and what is at these keys after it, depend only on what was at these keys. -/
def Reads (keys : Set κ) (c : Command σ ε α) : Prop :=
  ∀ s s', (∀ k ∈ keys, look k s = look k s') →
    (c.perform s).1 = (c.perform s').1 ∧ ∀ k ∈ keys, look k (c.perform s).2 = look k (c.perform s').2

/-- From a store where the property holds, the command leaves one where it holds, and fails with these
    errors only. -/
def Keeps (good : σ → Prop) (errors : Set ε) (c : Command σ ε α) : Prop :=
  ∀ s, good s → (∀ e, (c.perform s).1 = .error e → e ∈ errors) ∧ good (c.perform s).2

variable {look} {keys keys' : Set κ} {good : σ → Prop} {errors : Set ε}
variable {c : Command σ ε α} {next : α → Command σ ε β}

lemma Writes.pure (a : α) : Writes look keys (pure a : Command σ ε α) := fun _ _ _ => rfl

lemma Writes.throw (e : ε) : Writes look keys (throw e : Command σ ε α) := fun _ _ _ => rfl

lemma Writes.mono (writes : Writes look keys c) (sub : keys ⊆ keys') : Writes look keys' c :=
  fun s k out => writes s k fun mem => out (sub mem)

lemma Writes.bind (writes : Writes look keys c) (rest : ∀ a, Writes look keys (next a)) :
    Writes look keys (c >>= next) := by
  intro s k out
  have first := writes s k out
  rw [perform_bind]
  rcases h : c.perform s with ⟨answer, s'⟩
  rw [h] at first
  cases answer with
  | ok a => exact (rest a s' k out).trans first
  | error e => exact first

lemma Reads.pure (a : α) : Reads look keys (pure a : Command σ ε α) := fun _ _ same => ⟨rfl, same⟩

lemma Reads.throw (e : ε) : Reads look keys (throw e : Command σ ε α) := fun _ _ same => ⟨rfl, same⟩

lemma Reads.bind (reads : Reads look keys c) (rest : ∀ a, Reads look keys (next a)) :
    Reads look keys (c >>= next) := by
  intro s s' same
  obtain ⟨answers, after⟩ := reads s s' same
  rw [perform_bind, perform_bind]
  rcases h : c.perform s with ⟨answer, t⟩
  rcases h' : c.perform s' with ⟨answer', t'⟩
  rw [h, h'] at answers after
  cases answers
  cases answer with
  | ok a => exact rest a t t' after
  | error e => exact ⟨rfl, after⟩

lemma Keeps.pure (a : α) : Keeps good errors (pure a : Command σ ε α) := fun _ holds => ⟨nofun, holds⟩

lemma Keeps.throw {e : ε} (mem : e ∈ errors) : Keeps good errors (throw e : Command σ ε α) :=
  fun _ holds => ⟨by rintro _ ⟨⟩; exact mem, holds⟩

lemma Keeps.bind (keeps : Keeps good errors c) (rest : ∀ a, Keeps good errors (next a)) :
    Keeps good errors (c >>= next) := by
  intro s holds
  obtain ⟨fails, after⟩ := keeps s holds
  rw [perform_bind]
  rcases h : c.perform s with ⟨answer, s'⟩
  rw [h] at fails after
  cases answer with
  | ok a => exact rest a s' after
  | error e =>
    refine ⟨?_, after⟩
    rintro _ ⟨⟩
    exact fails e rfl

lemma Writes.discard (writes : Writes look keys c) : Writes look keys (discard c : Command σ ε Unit) := by
  rw [discard_eq]
  exact writes.bind fun _ => .pure ()

lemma Reads.discard (reads : Reads look keys c) : Reads look keys (discard c : Command σ ε Unit) := by
  rw [discard_eq]
  exact reads.bind fun _ => .pure ()

lemma Keeps.discard (keeps : Keeps good errors c) :
    Keeps good errors (discard c : Command σ ε Unit) := by
  rw [discard_eq]
  exact keeps.bind fun _ => .pure ()

section Transaction

variable {cs : List (Command σ ε Unit)}

lemma Writes.transaction (writes : ∀ c ∈ cs, Writes look keys c) : Writes look keys (transaction cs) := by
  induction cs with
  | nil => exact .pure ()
  | cons c cs ih =>
    intro s k out
    have first := writes c List.mem_cons_self s k out
    have others := ih (fun c mem => writes c (List.mem_cons_of_mem _ mem)) (c.perform s).2 k out
    rw [Command.transaction, perform_ofFunction]
    rcases h : c.perform s with ⟨answer, s'⟩
    rw [h] at first others
    cases answer <;> exact others.trans first

lemma Reads.transaction (reads : ∀ c ∈ cs, Reads look keys c) : Reads look keys (transaction cs) := by
  induction cs with
  | nil => exact .pure ()
  | cons c cs ih =>
    intro s s' same
    obtain ⟨answers, after⟩ := reads c List.mem_cons_self s s' same
    have others := ih (fun c mem => reads c (List.mem_cons_of_mem _ mem)) _ _ after
    rw [Command.transaction, perform_ofFunction, perform_ofFunction]
    rcases h : c.perform s with ⟨answer, t⟩
    rcases h' : c.perform s' with ⟨answer', t'⟩
    rw [h, h'] at answers others
    cases answers
    cases answer with
    | ok => exact others
    | error e => exact ⟨rfl, others.2⟩

lemma Keeps.transaction (keeps : ∀ c ∈ cs, Keeps good errors c) :
    Keeps good errors (transaction cs) := by
  induction cs with
  | nil => exact .pure ()
  | cons c cs ih =>
    intro s holds
    obtain ⟨fails, after⟩ := keeps c List.mem_cons_self s holds
    have others := ih (fun c mem => keeps c (List.mem_cons_of_mem _ mem)) _ after
    rw [Command.transaction, perform_ofFunction]
    rcases h : c.perform s with ⟨answer, s'⟩
    rw [h] at fails others
    cases answer with
    | ok => exact others
    | error e =>
      refine ⟨?_, others.2⟩
      rintro _ ⟨⟩
      exact fails e rfl

end Transaction

end Footprints

end Command
