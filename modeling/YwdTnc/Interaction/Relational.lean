import YwdTnc.Interaction.Prog

/-!
# Programs that behave alike

Two programs behave alike under a relation of their states when, started in
related states with the same script, they end in the same way, with the same
trace and in related states. There is one rule for each way of composing
programs.
-/

namespace Interaction

namespace Prog

universe v

variable {Q : Type*} {A : Q → Type*} {ε σ τ σ' τ' : Type*} {α β : Type v}

/-- The results of two programs on one script agree up to `Rel`. -/
structure SameResult (Rel : σ → τ → Prop) (r : Result A ε σ α) (r' : Result A ε τ α) :
    Prop where
  outcome : r.outcome = r'.outcome
  state : Rel r.state r'.state
  rest : r.rest = r'.rest
  trace : r.trace = r'.trace

theorem SameResult.eq {Rel : σ → τ → Prop} {o : Outcome ε α} {s : σ} {rest : Script A ε}
    {u : List (Call A ε)} {r : Result A ε τ α} (h : SameResult Rel ⟨o, s, rest, u⟩ r) :
    ∃ t, Rel s t ∧ r = ⟨o, t, rest, u⟩ := by
  obtain ⟨o', t, rest', u'⟩ := r
  obtain ⟨rfl, hstate, rfl, rfl⟩ := h
  exact ⟨t, hstate, rfl⟩

def Alike (Rel : σ → τ → Prop) (p : Prog A ε σ α) (q : Prog A ε τ α) : Prop :=
  ∀ s t env, Rel s t → SameResult Rel (p.run s env) (q.run t env)

variable {Rel : σ → τ → Prop}

/-- Where one program ends, the other ends the same way. -/
theorem Alike.run_eq {p : Prog A ε σ α} {q : Prog A ε τ α} (hp : Alike Rel p q) {s s' : σ}
    {t : τ} {env rest : Script A ε} {o : Outcome ε α} {u : List (Call A ε)} (h : Rel s t)
    (hrun : p.run s env = ⟨o, s', rest, u⟩) :
    ∃ t', Rel s' t' ∧ q.run t env = ⟨o, t', rest, u⟩ := by
  have hsame := hp s t env h
  rw [hrun] at hsame
  exact hsame.eq

theorem alike_eq (p : Prog A ε σ α) : Alike Eq p p := by
  rintro s _ env rfl
  exact ⟨rfl, rfl, rfl, rfl⟩

theorem alike_ret (a : α) : Alike Rel (ret a : Prog A ε σ α) (ret a) :=
  fun _ _ _ h => ⟨rfl, h, rfl, rfl⟩

theorem alike_pure (a : α) : Alike Rel (pure a : Prog A ε σ α) (pure a) := alike_ret a

theorem alike_raise (e : ε) : Alike Rel (raise e : Prog A ε σ α) (raise e) :=
  fun _ _ _ h => ⟨rfl, h, rfl, rfl⟩

theorem alike_modify {f : σ → σ} {g : τ → τ} (h : ∀ s t, Rel s t → Rel (f s) (g t)) :
    Alike Rel (modify f : Prog A ε σ Unit) (modify g) :=
  fun s t _ hst => ⟨rfl, h s t hst, rfl, rfl⟩

theorem alike_ofExcept (x : Except ε α) :
    Alike Rel (ofExcept x : Prog A ε σ α) (ofExcept x) := by
  cases x with
  | ok a => exact alike_ret a
  | error e => exact alike_raise e

theorem alike_call (q : Q) : Alike Rel (call q : Prog A ε σ (A q)) (call q) := by
  intro s t env h
  cases env with
  | nil => exact ⟨rfl, h, rfl, rfl⟩
  | cons answer env =>
      simp only [call]
      cases answer q with
      | ok a => exact ⟨rfl, h, rfl, rfl⟩
      | error e => exact ⟨rfl, h, rfl, rfl⟩

theorem Alike.andThen {p : Prog A ε σ α} {q : Prog A ε τ α} {f : α → Prog A ε σ β}
    {g : α → Prog A ε τ β} (hp : Alike Rel p q) (hf : ∀ a, Alike Rel (f a) (g a)) :
    Alike Rel (andThen p f) (andThen q g) := by
  intro s t env h
  rcases hrun : p.run s env with ⟨o, s', env', u⟩
  obtain ⟨t', hstate, hrun'⟩ := hp.run_eq h hrun
  simp only [Prog.andThen, hrun, hrun']
  cases o with
  | returned a =>
      obtain ⟨houtcome, hstate, hrest, htrace⟩ := hf a s' t' env' hstate
      exact ⟨houtcome, hstate, hrest, congrArg _ htrace⟩
  | raised e => exact ⟨rfl, hstate, rfl, rfl⟩
  | pending => exact ⟨rfl, hstate, rfl, rfl⟩

theorem Alike.bind {p : Prog A ε σ α} {q : Prog A ε τ α} {f : α → Prog A ε σ β}
    {g : α → Prog A ε τ β} (hp : Alike Rel p q) (hf : ∀ a, Alike Rel (f a) (g a)) :
    Alike Rel (p >>= f) (q >>= g) :=
  hp.andThen hf

/-- Programs that read their states first go on from related ones. -/
theorem alike_get_bind {σ τ : Type v} {Rel : σ → τ → Prop} {f : σ → Prog A ε σ β}
    {g : τ → Prog A ε τ β} (h : ∀ s t, Rel s t → Alike Rel (f s) (g t)) :
    Alike Rel (get >>= f) (get >>= g) :=
  fun s t env hst => h s t hst s t env hst

theorem Alike.attempt {p : Prog A ε σ α} {q : Prog A ε τ α} (hp : Alike Rel p q) :
    Alike Rel (Prog.attempt p) (Prog.attempt q) := by
  intro s t env h
  rcases hrun : p.run s env with ⟨o, s', env', u⟩
  obtain ⟨t', hstate, hrun'⟩ := hp.run_eq h hrun
  simp only [Prog.attempt, hrun, hrun']
  cases o with
  | returned a => exact ⟨rfl, hstate, rfl, rfl⟩
  | raised e => exact ⟨rfl, hstate, rfl, rfl⟩
  | pending => exact ⟨rfl, hstate, rfl, rfl⟩

theorem Alike.ensuring {p : Prog A ε σ α} {q : Prog A ε τ α} {f : σ → σ} {g : τ → τ}
    (hp : Alike Rel p q) (hf : ∀ s t, Rel s t → Rel (f s) (g t)) :
    Alike Rel (Prog.ensuring p f) (Prog.ensuring q g) := by
  intro s t env h
  rcases hrun : p.run s env with ⟨o, s', env', u⟩
  obtain ⟨t', hstate, hrun'⟩ := hp.run_eq h hrun
  simp only [Prog.ensuring, hrun, hrun']
  cases o with
  | returned a => exact ⟨rfl, hf s' t' hstate, rfl, rfl⟩
  | raised e => exact ⟨rfl, hf s' t' hstate, rfl, rfl⟩
  | pending => exact ⟨rfl, hstate, rfl, rfl⟩

theorem Alike.zoom {Part : σ' → τ' → Prop} {view : σ → σ'} {view' : τ → τ'}
    {put : σ → σ' → σ} {put' : τ → τ' → τ} {p : Prog A ε σ' α} {q : Prog A ε τ' α}
    (hp : Alike Part p q) (hview : ∀ s t, Rel s t → Part (view s) (view' t))
    (hput : ∀ s t x y, Rel s t → Part x y → Rel (put s x) (put' t y)) :
    Alike Rel (Prog.zoom view put p) (Prog.zoom view' put' q) := by
  intro s t env h
  obtain ⟨houtcome, hstate, hrest, htrace⟩ := hp _ _ env (hview s t h)
  exact ⟨houtcome, hput s t _ _ h hstate, hrest, htrace⟩

/-- Loops go through the same number of rounds. -/
theorem Alike.iterate {p : Prog A ε σ (Option β)} {q : Prog A ε τ (Option β)}
    (hp : Alike Rel p q) : Alike Rel (Prog.iterate p) (Prog.iterate q) := by
  have hgo : ∀ n, Alike Rel (iterate.go p n) (iterate.go q n) := by
    intro n
    induction n with
    | zero => exact fun s t env h => ⟨rfl, h, rfl, rfl⟩
    | succ n ih =>
        refine Alike.andThen hp fun b => ?_
        cases b with
        | none => exact ih
        | some b => exact alike_ret b
  exact fun s t env h => hgo (env.length + 1) s t env h

end Prog

end Interaction
