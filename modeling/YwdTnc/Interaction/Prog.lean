import Mathlib.Data.List.Basic

/-!
# Programs that talk to an environment

`Prog A ε σ α` is a sequential program over a mutable state `σ`. It may issue
queries `q : Q`, which the environment answers with a value of `A q` or with an
exception of type `ε`; it may raise exceptions of its own and it ends with a
value of `α`. The answers come from a finite script, one answering function
for each query in turn, so a program is a total function and every behaviour
of the environment, however it depends on the history, is some script. When
the script is used up the program is `pending`: the query it waits on is in the
trace, without an answer.

`Runs p s o s' t` says that some script takes `p` from `s` to the outcome `o`
in the state `s'` with the trace `t` of issued queries. The inversion rules
below take a run of a composed program apart, so that a proof about a program
never unfolds the combinators.
-/

namespace Interaction

/-- How a run of a program ends. -/
inductive Outcome (ε α : Type*) where
  | returned (a : α)
  | raised (e : ε)
  | pending
  deriving DecidableEq

def Outcome.isReturned {ε α : Type*} : Outcome ε α → Bool
  | returned _ => true
  | _ => false

/-- The end of a run that has a result. -/
def Outcome.ofExcept {ε α : Type*} : Except ε α → Outcome ε α
  | .ok a => returned a
  | .error e => raised e

/-- One issued query with the answer it got; `none` while it is unanswered. -/
structure Call {Q : Type*} (A : Q → Type*) (ε : Type*) where
  query : Q
  answer : Option (Except ε (A query))

/-- The script of the environment: the `n`-th function answers the `n`-th
query, whatever that query is. -/
abbrev Script {Q : Type*} (A : Q → Type*) (ε : Type*) :=
  List ((q : Q) → Except ε (A q))

/-- What a run leaves behind. -/
structure Result {Q : Type*} (A : Q → Type*) (ε σ α : Type*) where
  outcome : Outcome ε α
  state : σ
  rest : Script A ε
  trace : List (Call A ε)

structure Prog {Q : Type*} (A : Q → Type*) (ε σ α : Type*) where
  run : σ → Script A ε → Result A ε σ α

namespace Prog

universe v

variable {Q : Type*} {A : Q → Type*} {ε σ τ : Type*} {α β : Type v}

def ret (a : α) : Prog A ε σ α := ⟨fun s env => ⟨.returned a, s, env, []⟩⟩

/-- Sequencing: the continuation runs only after a normal return. -/
def andThen (p : Prog A ε σ α) (f : α → Prog A ε σ β) : Prog A ε σ β where
  run s env :=
    match p.run s env with
    | ⟨.returned a, s', env', t⟩ =>
        let r := (f a).run s' env'
        ⟨r.outcome, r.state, r.rest, t ++ r.trace⟩
    | ⟨.raised e, s', env', t⟩ => ⟨.raised e, s', env', t⟩
    | ⟨.pending, s', env', t⟩ => ⟨.pending, s', env', t⟩

instance : Monad (Prog A ε σ) where
  pure := ret
  bind := andThen

def raise (e : ε) : Prog A ε σ α := ⟨fun s env => ⟨.raised e, s, env, []⟩⟩

/-- Run `p`; on an exception go on with the handler, in the state the
exception left behind. -/
def except (p : Prog A ε σ α) (h : ε → Prog A ε σ α) : Prog A ε σ α where
  run s env :=
    match p.run s env with
    | ⟨.returned a, s', env', t⟩ => ⟨.returned a, s', env', t⟩
    | ⟨.raised e, s', env', t⟩ =>
        let r := (h e).run s' env'
        ⟨r.outcome, r.state, r.rest, t ++ r.trace⟩
    | ⟨.pending, s', env', t⟩ => ⟨.pending, s', env', t⟩

/-- The outcome of `p` as a value: an exception is returned, not raised. -/
def attempt (p : Prog A ε σ α) : Prog A ε σ (Except ε α) where
  run s env :=
    match p.run s env with
    | ⟨.returned a, s', env', t⟩ => ⟨.returned (.ok a), s', env', t⟩
    | ⟨.raised e, s', env', t⟩ => ⟨.returned (.error e), s', env', t⟩
    | ⟨.pending, s', env', t⟩ => ⟨.pending, s', env', t⟩

/-- Run `p`, then apply `f` to the state, after a return and after an
exception alike. -/
def ensuring (p : Prog A ε σ α) (f : σ → σ) : Prog A ε σ α where
  run s env :=
    match p.run s env with
    | ⟨.returned a, s', env', t⟩ => ⟨.returned a, f s', env', t⟩
    | ⟨.raised e, s', env', t⟩ => ⟨.raised e, f s', env', t⟩
    | ⟨.pending, s', env', t⟩ => ⟨.pending, s', env', t⟩

def get : Prog A ε σ σ := ⟨fun s env => ⟨.returned s, s, env, []⟩⟩

def modify (f : σ → σ) : Prog A ε σ Unit :=
  ⟨fun s env => ⟨.returned (), f s, env, []⟩⟩

/-- Issue one query. -/
def call (q : Q) : Prog A ε σ (A q) where
  run s env :=
    match env with
    | [] => ⟨.pending, s, [], [⟨q, none⟩]⟩
    | answer :: env' =>
        match answer q with
        | .ok a => ⟨.returned a, s, env', [⟨q, some (.ok a)⟩]⟩
        | .error e => ⟨.raised e, s, env', [⟨q, some (.error e)⟩]⟩

/-- Return the value of an `Except` or raise its error. -/
def ofExcept (x : Except ε α) : Prog A ε σ α :=
  match x with
  | .ok a => ret a
  | .error e => raise e

/-- Run a program on a part of the state. -/
def zoom (view : σ → τ) (put : σ → τ → σ) (p : Prog A ε τ α) : Prog A ε σ α where
  run s env :=
    let r := p.run (view s) env
    ⟨r.outcome, put s r.state, r.rest, r.trace⟩

/-- Repeat `body` until it returns a result. Every round of a loop that waits
for its environment issues a query, so the length of the script bounds the
number of rounds; a loop that goes on beyond it is `pending`. -/
def iterate (body : Prog A ε σ (Option β)) : Prog A ε σ β :=
  ⟨fun s env => (go (env.length + 1)).run s env⟩
where
  go : ℕ → Prog A ε σ β
    | 0 => ⟨fun s env => ⟨.pending, s, env, []⟩⟩
    | n + 1 => andThen body fun
        | some b => ret b
        | none => go n

/-! ### Runs and their inversion -/

/-- Some script of the environment makes `p` go from `s` to `s'` with the
outcome `o` and the trace `t`. -/
def Runs (p : Prog A ε σ α) (s : σ) (o : Outcome ε α) (s' : σ)
    (t : List (Call A ε)) : Prop :=
  ∃ env rest, p.run s env = ⟨o, s', rest, t⟩

theorem Runs.of_eq {p : Prog A ε σ α} {s : σ} {env : Script A ε}
    {r : Result A ε σ α} (h : p.run s env = r) :
    Runs p s r.outcome r.state r.trace :=
  ⟨env, r.rest, h⟩

/-- A run with the script `env` that comes to its end. -/
theorem Runs.of_isReturned {p : Prog A ε σ α} {s : σ} {env : Script A ε}
    (h : (p.run s env).outcome.isReturned = true) :
    ∃ a, (p.run s env).outcome = .returned a ∧
      Runs p s (.returned a) (p.run s env).state (p.run s env).trace := by
  have hrun : Runs p s (p.run s env).outcome (p.run s env).state (p.run s env).trace :=
    Runs.of_eq rfl
  cases houtcome : (p.run s env).outcome with
  | returned a =>
      rw [houtcome] at hrun
      exact ⟨a, rfl, hrun⟩
  | raised e =>
      rw [houtcome] at h
      cases h
  | pending =>
      rw [houtcome] at h
      cases h

theorem runs_ret {a : α} {s s' : σ} {o : Outcome ε α} {t : List (Call A ε)} :
    Runs (ret a) s o s' t ↔ o = .returned a ∧ s' = s ∧ t = [] := by
  constructor
  · rintro ⟨env, rest, h⟩
    cases h
    exact ⟨rfl, rfl, rfl⟩
  · rintro ⟨rfl, rfl, rfl⟩
    exact ⟨[], [], rfl⟩

theorem runs_pure {a : α} {s s' : σ} {o : Outcome ε α} {t : List (Call A ε)} :
    Runs (pure a) s o s' t ↔ o = .returned a ∧ s' = s ∧ t = [] :=
  runs_ret

theorem runs_raise {e : ε} {s s' : σ} {o : Outcome ε α} {t : List (Call A ε)} :
    Runs (raise e) s o s' t ↔ o = .raised e ∧ s' = s ∧ t = [] := by
  constructor
  · rintro ⟨env, rest, h⟩
    cases h
    exact ⟨rfl, rfl, rfl⟩
  · rintro ⟨rfl, rfl, rfl⟩
    exact ⟨[], [], rfl⟩

theorem runs_get {s s' : σ} {o : Outcome ε σ} {t : List (Call A ε)} :
    Runs get s o s' t ↔ o = .returned s ∧ s' = s ∧ t = [] := by
  constructor
  · rintro ⟨env, rest, h⟩
    cases h
    exact ⟨rfl, rfl, rfl⟩
  · rintro ⟨rfl, rfl, rfl⟩
    exact ⟨[], [], rfl⟩

theorem runs_modify {f : σ → σ} {s s' : σ} {o : Outcome ε Unit}
    {t : List (Call A ε)} :
    Runs (modify f) s o s' t ↔ o = .returned () ∧ s' = f s ∧ t = [] := by
  constructor
  · rintro ⟨env, rest, h⟩
    cases h
    exact ⟨rfl, rfl, rfl⟩
  · rintro ⟨rfl, rfl, rfl⟩
    exact ⟨[], [], rfl⟩

/-- A query is answered with a value, answered with an exception, or still
open. -/
theorem Runs.call_cases {q : Q} {s s' : σ} {o : Outcome ε (A q)}
    {t : List (Call A ε)} (h : Runs (call q) s o s' t) :
    s' = s ∧
      ((∃ a, o = .returned a ∧ t = [⟨q, some (.ok a)⟩]) ∨
        (∃ e, o = .raised e ∧ t = [⟨q, some (.error e)⟩]) ∨
        (o = .pending ∧ t = [⟨q, none⟩])) := by
  obtain ⟨env, rest, h⟩ := h
  cases env with
  | nil =>
      cases h
      exact ⟨rfl, .inr (.inr ⟨rfl, rfl⟩)⟩
  | cons answer env =>
      simp only [call] at h
      split at h
      · cases h
        exact ⟨rfl, .inl ⟨_, rfl, rfl⟩⟩
      · cases h
        exact ⟨rfl, .inr (.inl ⟨_, rfl, rfl⟩)⟩

/-- A run of a sequence: either the first program returns and the second one
runs on, or the first program ends the run. -/
theorem Runs.andThen_cases {p : Prog A ε σ α} {f : α → Prog A ε σ β} {s s' : σ}
    {o : Outcome ε β} {t : List (Call A ε)} (h : Runs (andThen p f) s o s' t) :
    (∃ a s₁ t₁ t₂, Runs p s (.returned a) s₁ t₁ ∧ Runs (f a) s₁ o s' t₂ ∧
        t = t₁ ++ t₂) ∨
      (∃ e, Runs p s (.raised e) s' t ∧ o = .raised e) ∨
      (Runs p s .pending s' t ∧ o = .pending) := by
  obtain ⟨env, rest, h⟩ := h
  simp only [andThen] at h
  rcases hp : p.run s env with ⟨o₁, s₁, env₁, t₁⟩
  rw [hp] at h
  cases o₁ with
  | returned a =>
      rcases hf : (f a).run s₁ env₁ with ⟨o₂, s₂, env₂, t₂⟩
      simp only [hf] at h
      cases h
      exact .inl ⟨a, s₁, t₁, t₂, ⟨env, env₁, hp⟩, ⟨env₁, rest, hf⟩, rfl⟩
  | raised e =>
      cases h
      exact .inr (.inl ⟨e, ⟨env, rest, hp⟩, rfl⟩)
  | pending =>
      cases h
      exact .inr (.inr ⟨⟨env, rest, hp⟩, rfl⟩)

theorem Runs.bind_cases {p : Prog A ε σ α} {f : α → Prog A ε σ β} {s s' : σ}
    {o : Outcome ε β} {t : List (Call A ε)} (h : Runs (p >>= f) s o s' t) :
    (∃ a s₁ t₁ t₂, Runs p s (.returned a) s₁ t₁ ∧ Runs (f a) s₁ o s' t₂ ∧
        t = t₁ ++ t₂) ∨
      (∃ e, Runs p s (.raised e) s' t ∧ o = .raised e) ∨
      (Runs p s .pending s' t ∧ o = .pending) :=
  h.andThen_cases

theorem Runs.except_cases {p : Prog A ε σ α} {g : ε → Prog A ε σ α} {s s' : σ}
    {o : Outcome ε α} {t : List (Call A ε)} (h : Runs (except p g) s o s' t) :
    (∃ a, Runs p s (.returned a) s' t ∧ o = .returned a) ∨
      (∃ e s₁ t₁ t₂, Runs p s (.raised e) s₁ t₁ ∧ Runs (g e) s₁ o s' t₂ ∧
        t = t₁ ++ t₂) ∨
      (Runs p s .pending s' t ∧ o = .pending) := by
  obtain ⟨env, rest, h⟩ := h
  simp only [except] at h
  rcases hp : p.run s env with ⟨o₁, s₁, env₁, t₁⟩
  rw [hp] at h
  cases o₁ with
  | returned a =>
      cases h
      exact .inl ⟨a, ⟨env, rest, hp⟩, rfl⟩
  | raised e =>
      rcases hg : (g e).run s₁ env₁ with ⟨o₂, s₂, env₂, t₂⟩
      simp only [hg] at h
      cases h
      exact .inr (.inl ⟨e, s₁, t₁, t₂, ⟨env, env₁, hp⟩, ⟨env₁, rest, hg⟩, rfl⟩)
  | pending =>
      cases h
      exact .inr (.inr ⟨⟨env, rest, hp⟩, rfl⟩)

theorem Runs.attempt_cases {p : Prog A ε σ α} {s s' : σ}
    {o : Outcome ε (Except ε α)} {t : List (Call A ε)}
    (h : Runs (attempt p) s o s' t) :
    (∃ a, Runs p s (.returned a) s' t ∧ o = .returned (.ok a)) ∨
      (∃ e, Runs p s (.raised e) s' t ∧ o = .returned (.error e)) ∨
      (Runs p s .pending s' t ∧ o = .pending) := by
  obtain ⟨env, rest, h⟩ := h
  simp only [attempt] at h
  rcases hp : p.run s env with ⟨o₁, s₁, env₁, t₁⟩
  rw [hp] at h
  cases o₁ with
  | returned a =>
      cases h
      exact .inl ⟨a, ⟨env, rest, hp⟩, rfl⟩
  | raised e =>
      cases h
      exact .inr (.inl ⟨e, ⟨env, rest, hp⟩, rfl⟩)
  | pending =>
      cases h
      exact .inr (.inr ⟨⟨env, rest, hp⟩, rfl⟩)

theorem Runs.ensuring_cases {p : Prog A ε σ α} {f : σ → σ} {s s' : σ}
    {o : Outcome ε α} {t : List (Call A ε)} (h : Runs (ensuring p f) s o s' t) :
    (∃ s₁, Runs p s o s₁ t ∧ o ≠ .pending ∧ s' = f s₁) ∨
      (Runs p s .pending s' t ∧ o = .pending) := by
  obtain ⟨env, rest, h⟩ := h
  simp only [ensuring] at h
  rcases hp : p.run s env with ⟨o₁, s₁, env₁, t₁⟩
  rw [hp] at h
  cases o₁ with
  | returned a =>
      cases h
      exact .inl ⟨s₁, ⟨env, rest, hp⟩, by simp, rfl⟩
  | raised e =>
      cases h
      exact .inl ⟨s₁, ⟨env, rest, hp⟩, by simp, rfl⟩
  | pending =>
      cases h
      exact .inr ⟨⟨env, rest, hp⟩, rfl⟩

theorem runs_ofExcept_ok {a : α} {s s' : σ} {o : Outcome ε α}
    {t : List (Call A ε)} :
    Runs (ofExcept (.ok a)) s o s' t ↔ o = .returned a ∧ s' = s ∧ t = [] :=
  runs_ret

theorem runs_ofExcept_error {e : ε} {s s' : σ} {o : Outcome ε α}
    {t : List (Call A ε)} :
    Runs (ofExcept (.error e)) s o s' t ↔ o = .raised e ∧ s' = s ∧ t = [] :=
  runs_raise

theorem Runs.zoom_cases {view : σ → τ} {put : σ → τ → σ} {p : Prog A ε τ α}
    {s s' : σ} {o : Outcome ε α} {t : List (Call A ε)}
    (h : Runs (zoom view put p) s o s' t) :
    ∃ s₁, Runs p (view s) o s₁ t ∧ s' = put s s₁ := by
  obtain ⟨env, rest, h⟩ := h
  simp only [zoom] at h
  rcases hp : p.run (view s) env with ⟨o₁, s₁, env₁, t₁⟩
  rw [hp] at h
  cases h
  exact ⟨s₁, ⟨env, _, hp⟩, rfl⟩

theorem Runs.get_bind {σ : Type v} {f : σ → Prog A ε σ β} {s s' : σ}
    {o : Outcome ε β} {t : List (Call A ε)} (h : Runs (get >>= f) s o s' t) :
    Runs (f s) s o s' t := by
  rcases h.bind_cases with ⟨a, s₁, t₁, t₂, hget, hrest, rfl⟩ | ⟨e, hget, -⟩ | ⟨hget, -⟩
  · obtain ⟨ho, rfl, rfl⟩ := runs_get.1 hget
    cases ho
    exact hrest
  · cases (runs_get.1 hget).1
  · cases (runs_get.1 hget).1

theorem Runs.modify_bind {β : Type} {f : σ → σ} {g : Unit → Prog A ε σ β} {s s' : σ}
    {o : Outcome ε β} {t : List (Call A ε)} (h : Runs (modify f >>= g) s o s' t) :
    Runs (g ()) (f s) o s' t := by
  rcases h.bind_cases with ⟨a, s₁, t₁, t₂, hmodify, hrest, rfl⟩ | ⟨e, hmodify, -⟩ |
    ⟨hmodify, -⟩
  · obtain ⟨-, rfl, rfl⟩ := runs_modify.1 hmodify
    exact hrest
  · cases (runs_modify.1 hmodify).1
  · cases (runs_modify.1 hmodify).1

theorem Runs.ofExcept_ok_bind {a : α} {f : α → Prog A ε σ β} {s s' : σ} {o : Outcome ε β}
    {t : List (Call A ε)} (h : Runs (ofExcept (.ok a) >>= f) s o s' t) :
    Runs (f a) s o s' t := by
  rcases h.bind_cases with ⟨b, s₁, t₁, t₂, hok, hrest, rfl⟩ | ⟨e, hok, -⟩ | ⟨hok, -⟩
  · obtain ⟨ho, rfl, rfl⟩ := runs_ofExcept_ok.1 hok
    cases ho
    exact hrest
  · cases (runs_ofExcept_ok.1 hok).1
  · cases (runs_ofExcept_ok.1 hok).1

/-- `try p` with what follows it on either exit. -/
theorem Runs.attempt_bind_cases {ε : Type v} {p : Prog A ε σ α}
    {f : Except ε α → Prog A ε σ β} {s s' : σ} {o : Outcome ε β} {t : List (Call A ε)}
    (h : Runs (attempt p >>= f) s o s' t) :
    (∃ a s₁ t₁ t₂, Runs p s (.returned a) s₁ t₁ ∧ Runs (f (.ok a)) s₁ o s' t₂ ∧
        t = t₁ ++ t₂) ∨
      (∃ e s₁ t₁ t₂, Runs p s (.raised e) s₁ t₁ ∧ Runs (f (.error e)) s₁ o s' t₂ ∧
        t = t₁ ++ t₂) ∨
      (Runs p s .pending s' t ∧ o = .pending) := by
  rcases h.bind_cases with ⟨r, s₁, t₁, t₂, hp, hrest, rfl⟩ | ⟨e, hp, -⟩ | ⟨hp, rfl⟩
  · rcases hp.attempt_cases with ⟨a, hrun, ho⟩ | ⟨e, hrun, ho⟩ | ⟨-, ho⟩
    · cases ho
      exact .inl ⟨a, s₁, t₁, t₂, hrun, hrest, rfl⟩
    · cases ho
      exact .inr (.inl ⟨e, s₁, t₁, t₂, hrun, hrest, rfl⟩)
    · cases ho
  · rcases hp.attempt_cases with ⟨a, -, ho⟩ | ⟨e, -, ho⟩ | ⟨-, ho⟩
    · cases ho
    · cases ho
    · cases ho
  · rcases hp.attempt_cases with ⟨a, -, ho⟩ | ⟨e, -, ho⟩ | ⟨hrun, -⟩
    · cases ho
    · cases ho
    · exact .inr (.inr ⟨hrun, rfl⟩)

/-! ### Runs that return -/

theorem Runs.bind_returned {p : Prog A ε σ α} {f : α → Prog A ε σ β} {s s' : σ}
    {b : β} {t : List (Call A ε)} (h : Runs (p >>= f) s (.returned b) s' t) :
    ∃ a s₁ t₁ t₂, Runs p s (.returned a) s₁ t₁ ∧
      Runs (f a) s₁ (.returned b) s' t₂ ∧ t = t₁ ++ t₂ := by
  rcases h.bind_cases with hrun | ⟨e, -, ho⟩ | ⟨-, ho⟩
  · exact hrun
  · cases ho
  · cases ho

theorem Runs.call_returned {q : Q} {s s' : σ} {a : A q} {t : List (Call A ε)}
    (h : Runs (call q) s (.returned a) s' t) :
    s' = s ∧ t = [⟨q, some (.ok a)⟩] := by
  rcases h.call_cases with ⟨hs, ⟨a', ho, ht⟩ | ⟨e, ho, -⟩ | ⟨ho, -⟩⟩
  · cases ho
    exact ⟨hs, ht⟩
  · cases ho
  · cases ho

theorem Runs.ofExcept_returned {x : Except ε α} {s s' : σ} {a : α}
    {t : List (Call A ε)} (h : Runs (ofExcept x) s (.returned a) s' t) :
    x = .ok a ∧ s' = s ∧ t = [] := by
  cases x with
  | ok a' =>
      obtain ⟨ho, hs, ht⟩ := runs_ofExcept_ok.1 h
      cases ho
      exact ⟨rfl, hs, ht⟩
  | error e =>
      obtain ⟨ho, -, -⟩ := runs_ofExcept_error.1 h
      cases ho

/-- The runs of a loop, one constructor for each way a round can end. The last
one is a loop that has run past its script. -/
inductive Rounds (body : Prog A ε σ (Option β)) :
    σ → Outcome ε β → σ → List (Call A ε) → Prop
  | done {s s' : σ} {b : β} {t : List (Call A ε)}
      (h : Runs body s (.returned (some b)) s' t) :
      Rounds body s (.returned b) s' t
  | again {s s₁ s' : σ} {o : Outcome ε β} {t₁ t₂ : List (Call A ε)}
      (h : Runs body s (.returned none) s₁ t₁) (hrest : Rounds body s₁ o s' t₂) :
      Rounds body s o s' (t₁ ++ t₂)
  | raised {s s' : σ} {e : ε} {t : List (Call A ε)}
      (h : Runs body s (.raised e) s' t) :
      Rounds body s (.raised e) s' t
  | pending {s s' : σ} {t : List (Call A ε)} (h : Runs body s .pending s' t) :
      Rounds body s .pending s' t
  | outOfScript {s : σ} : Rounds body s .pending s []

theorem rounds_of_go {body : Prog A ε σ (Option β)} (n : ℕ) :
    ∀ {s s' : σ} {o : Outcome ε β} {t : List (Call A ε)},
      Runs (iterate.go body n) s o s' t → Rounds body s o s' t := by
  induction n with
  | zero =>
      rintro s s' o t ⟨env, rest, h⟩
      cases h
      exact .outOfScript
  | succ n ih =>
      intro s s' o t h
      rcases Runs.andThen_cases h with
        ⟨r, s₁, t₁, t₂, hbody, hrest, rfl⟩ | ⟨e, hbody, rfl⟩ | ⟨hbody, rfl⟩
      · cases r with
        | none => exact .again hbody (ih hrest)
        | some b =>
            obtain ⟨rfl, rfl, rfl⟩ := runs_ret.1 hrest
            rw [List.append_nil]
            exact .done hbody
      · exact .raised hbody
      · exact .pending hbody

theorem Runs.iterate_rounds {body : Prog A ε σ (Option β)} {s s' : σ}
    {o : Outcome ε β} {t : List (Call A ε)} (h : Runs (iterate body) s o s' t) :
    Rounds body s o s' t := by
  obtain ⟨env, rest, h⟩ := h
  exact rounds_of_go (env.length + 1) ⟨env, rest, h⟩

/-! ### Programs that issue only some queries -/

/-- Every query `p` ever issues, answered or not, satisfies `P`. -/
def CallsOnly (P : Q → Prop) (p : Prog A ε σ α) : Prop :=
  ∀ s o s' t, Runs p s o s' t → ∀ c ∈ t, P c.query

variable {P : Q → Prop}

theorem CallsOnly.mono {P' : Q → Prop} {p : Prog A ε σ α} (hp : CallsOnly P p)
    (h : ∀ q, P q → P' q) : CallsOnly P' p :=
  fun s o s' t hrun c hc => h _ (hp s o s' t hrun c hc)

theorem callsOnly_ret (a : α) : CallsOnly P (ret a : Prog A ε σ α) := by
  intro s o s' t h
  obtain ⟨-, -, rfl⟩ := runs_ret.1 h
  simp

theorem callsOnly_raise (e : ε) : CallsOnly P (raise e : Prog A ε σ α) := by
  intro s o s' t h
  obtain ⟨-, -, rfl⟩ := runs_raise.1 h
  simp

theorem callsOnly_get : CallsOnly P (get : Prog A ε σ σ) := by
  intro s o s' t h
  obtain ⟨-, -, rfl⟩ := runs_get.1 h
  simp

theorem callsOnly_modify (f : σ → σ) :
    CallsOnly P (modify f : Prog A ε σ Unit) := by
  intro s o s' t h
  obtain ⟨-, -, rfl⟩ := runs_modify.1 h
  simp

theorem callsOnly_ofExcept (x : Except ε α) :
    CallsOnly P (ofExcept x : Prog A ε σ α) := by
  cases x with
  | ok a => exact callsOnly_ret a
  | error e => exact callsOnly_raise e

theorem callsOnly_call {q : Q} (hq : P q) :
    CallsOnly P (call q : Prog A ε σ (A q)) := by
  intro s o s' t h c hc
  obtain ⟨-, ⟨a, -, rfl⟩ | ⟨e, -, rfl⟩ | ⟨-, rfl⟩⟩ := h.call_cases
  all_goals
    rw [List.mem_singleton.1 hc]
    exact hq

theorem CallsOnly.bind {p : Prog A ε σ α} {f : α → Prog A ε σ β}
    (hp : CallsOnly P p) (hf : ∀ a, CallsOnly P (f a)) :
    CallsOnly P (p >>= f) := by
  intro s o s' t h c hc
  rcases h.bind_cases with ⟨a, s₁, t₁, t₂, h₁, h₂, rfl⟩ | ⟨e, h₁, -⟩ | ⟨h₁, -⟩
  · rcases List.mem_append.1 hc with hc | hc
    · exact hp _ _ _ _ h₁ c hc
    · exact hf a _ _ _ _ h₂ c hc
  · exact hp _ _ _ _ h₁ c hc
  · exact hp _ _ _ _ h₁ c hc

theorem CallsOnly.attempt {p : Prog A ε σ α} (hp : CallsOnly P p) :
    CallsOnly P (attempt p) := by
  intro s o s' t h c hc
  rcases h.attempt_cases with ⟨a, h₁, -⟩ | ⟨e, h₁, -⟩ | ⟨h₁, -⟩
  all_goals exact hp _ _ _ _ h₁ c hc

theorem CallsOnly.ensuring {p : Prog A ε σ α} {f : σ → σ} (hp : CallsOnly P p) :
    CallsOnly P (ensuring p f) := by
  intro s o s' t h c hc
  rcases h.ensuring_cases with ⟨s₁, h₁, -, -⟩ | ⟨h₁, -⟩
  all_goals exact hp _ _ _ _ h₁ c hc

theorem CallsOnly.zoom {view : σ → τ} {put : σ → τ → σ} {p : Prog A ε τ α}
    (hp : CallsOnly P p) : CallsOnly P (zoom view put p) := by
  intro s o s' t h c hc
  obtain ⟨s₁, h₁, -⟩ := h.zoom_cases
  exact hp _ _ _ _ h₁ c hc

theorem CallsOnly.iterate {body : Prog A ε σ (Option β)}
    (hbody : CallsOnly P body) : CallsOnly P (iterate body) := by
  intro s o s' t h
  have hrounds := h.iterate_rounds
  clear h
  induction hrounds with
  | done h => exact hbody _ _ _ _ h
  | again h hrest ih =>
      intro c hc
      rcases List.mem_append.1 hc with hc | hc
      · exact hbody _ _ _ _ h c hc
      · exact ih c hc
  | raised h => exact hbody _ _ _ _ h
  | pending h => exact hbody _ _ _ _ h
  | outOfScript => simp

/-! ### Programs that change only some of the state -/

/-- Every run of `p`, however it ends, relates its states by `Rel`. -/
def Within (Rel : σ → σ → Prop) (p : Prog A ε σ α) : Prop :=
  ∀ s o s' t, Runs p s o s' t → Rel s s'

/-- A relation that programs can be composed under. -/
structure Composable (Rel : σ → σ → Prop) : Prop where
  refl : ∀ s, Rel s s
  trans : ∀ {a b c}, Rel a b → Rel b c → Rel a c

section Within

variable {Rel : σ → σ → Prop} (hRel : Composable Rel)

include hRel

theorem within_ret (a : α) : Within Rel (ret a : Prog A ε σ α) := by
  intro s o s' t h
  obtain ⟨-, rfl, -⟩ := runs_ret.1 h
  exact hRel.refl _

theorem within_raise (e : ε) : Within Rel (raise e : Prog A ε σ α) := by
  intro s o s' t h
  obtain ⟨-, rfl, -⟩ := runs_raise.1 h
  exact hRel.refl _

theorem within_call (q : Q) : Within Rel (call q : Prog A ε σ (A q)) := by
  intro s o s' t h
  obtain ⟨rfl, -⟩ := h.call_cases
  exact hRel.refl _

theorem within_ofExcept (x : Except ε α) :
    Within Rel (ofExcept x : Prog A ε σ α) := by
  cases x with
  | ok a => exact within_ret hRel a
  | error e => exact within_raise hRel e

omit hRel in
theorem within_modify {f : σ → σ} (hf : ∀ s, Rel s (f s)) :
    Within Rel (modify f : Prog A ε σ Unit) := by
  intro s o s' t h
  obtain ⟨-, rfl, -⟩ := runs_modify.1 h
  exact hf s

theorem Within.bind {p : Prog A ε σ α} {f : α → Prog A ε σ β} (hp : Within Rel p)
    (hf : ∀ a, Within Rel (f a)) : Within Rel (p >>= f) := by
  intro s o s' t h
  rcases h.bind_cases with ⟨a, s₁, t₁, t₂, h₁, h₂, -⟩ | ⟨e, h₁, -⟩ | ⟨h₁, -⟩
  · exact hRel.trans (hp _ _ _ _ h₁) (hf a _ _ _ _ h₂)
  · exact hp _ _ _ _ h₁
  · exact hp _ _ _ _ h₁

theorem Within.iterate {body : Prog A ε σ (Option β)} (hbody : Within Rel body) :
    Within Rel (iterate body) := by
  intro s o s' t h
  have hrounds := h.iterate_rounds
  clear h
  induction hrounds with
  | done h => exact hbody _ _ _ _ h
  | again h hrest ih => exact hRel.trans (hbody _ _ _ _ h) ih
  | raised h => exact hbody _ _ _ _ h
  | pending h => exact hbody _ _ _ _ h
  | outOfScript => exact hRel.refl _

end Within

/-- A loop that returns does so with its last round. -/
theorem Rounds.returned {body : Prog A ε σ (Option β)} {s s' : σ} {b : β}
    {t : List (Call A ε)} (h : Rounds body s (.returned b) s' t) :
    ∃ s₁ t₁ t₂, Runs body s₁ (.returned (some b)) s' t₂ ∧ t = t₁ ++ t₂ := by
  generalize ho : Outcome.returned b = o at h
  induction h with
  | @done s s' b' t h =>
      cases ho
      exact ⟨s, [], t, h, rfl⟩
  | again h hrest ih =>
      obtain ⟨s₁, t₁, t₂, hlast, rfl⟩ := ih ho
      exact ⟨s₁, _, t₂, hlast, (List.append_assoc _ _ _).symm⟩
  | raised h => cases ho
  | pending h => cases ho
  | outOfScript => cases ho

/-! ### Positions in a trace -/

section Positions

variable {C : Type*} {P : C → Prop} {A B u v : List C} {c c₀ : C}

/-- What satisfies `P` stands behind a front part in which nothing does. -/
theorem split_behind (h : A ++ B = u ++ c :: v) (hA : ∀ d ∈ A, ¬ P d) (hc : P c) :
    ∃ u', u = A ++ u' ∧ B = u' ++ c :: v := by
  rcases List.append_eq_append_iff.1 h with ⟨u', hu, hB⟩ | ⟨w, hA', hw⟩
  · exact ⟨u', hu, hB⟩
  · cases w with
    | nil =>
        refine ⟨[], ?_, hw.symm⟩
        rw [hA', List.append_nil, List.append_nil]
    | cons d w =>
        obtain ⟨rfl, -⟩ := List.cons_eq_cons.1 hw
        exact absurd hc (hA c (by simp [hA']))

/-- The only element that satisfies `P` splits a list in one way. -/
theorem only_split (h : A ++ c₀ :: B = u ++ c :: v) (hA : ∀ d ∈ A, ¬ P d)
    (hB : ∀ d ∈ B, ¬ P d) (hc : P c) : u = A ∧ c = c₀ ∧ v = B := by
  obtain ⟨u', rfl, hB'⟩ := split_behind h hA hc
  cases u' with
  | nil =>
      obtain ⟨rfl, rfl⟩ := List.cons_eq_cons.1 hB'
      exact ⟨List.append_nil A, rfl, rfl⟩
  | cons d u' =>
      obtain ⟨-, rfl⟩ := List.cons_eq_cons.1 hB'
      exact absurd hc (hB c (by simp))

end Positions

end Prog

end Interaction
