import YwdTnc.Interaction.Prog

/-!
# Programs in an environment that does not change

An environment that answers every query always the same is one function. `Yields answer p s
x s'` says that `p`, once it was answered often enough, has the result `x` in the state `s'`.
A program has one result at most, and there is one rule for each way of composing programs
that leave the state alone.
-/

namespace Interaction

namespace Prog

universe v

variable {Q : Type*} {A : Q → Type*} {ε σ : Type*} {α β : Type v}
  {answer : (q : Q) → Except ε (A q)}

/-- Answered by `answer`, the program ends with the result `x` in the state `s'`. -/
def Yields (answer : (q : Q) → Except ε (A q)) (p : Prog A ε σ α) (s : σ) (x : Except ε α)
    (s' : σ) : Prop :=
  ∃ n t, ∀ rest, p.run s (List.replicate n answer ++ rest) = ⟨.ofExcept x, s', rest, t⟩

theorem outcome_ofExcept_inj {x y : Except ε α} (h : Outcome.ofExcept x = Outcome.ofExcept y) :
    x = y := by
  cases x with
  | error e =>
      cases y with
      | error e' => cases h; rfl
      | ok b => cases h
  | ok a =>
      cases y with
      | error e' => cases h
      | ok b => cases h; rfl

/-- A result is the only one. -/
theorem Yields.unique {p : Prog A ε σ α} {s s₁ s₂ : σ} {x y : Except ε α}
    (hx : Yields answer p s x s₁) (hy : Yields answer p s y s₂) : x = y ∧ s₁ = s₂ := by
  obtain ⟨m, t, hm⟩ := hx
  obtain ⟨n, t', hn⟩ := hy
  have hrun := hm (List.replicate n answer)
  rw [List.replicate_append_replicate, Nat.add_comm, ← List.replicate_append_replicate,
    hn] at hrun
  have houtcome := congrArg Result.outcome hrun
  exact ⟨(outcome_ofExcept_inj houtcome).symm, (congrArg Result.state hrun).symm⟩

theorem Yields.runs {p : Prog A ε σ α} {s s' : σ} {x : Except ε α}
    (h : Yields answer p s x s') : ∃ t, Runs p s (.ofExcept x) s' t := by
  obtain ⟨n, t, hn⟩ := h
  exact ⟨t, _, _, hn []⟩

theorem yields_ret (a : α) (s : σ) : Yields answer (ret a : Prog A ε σ α) s (.ok a) s :=
  ⟨0, [], fun _ => rfl⟩

theorem yields_raise (e : ε) (s : σ) :
    Yields answer (raise e : Prog A ε σ α) s (.error e) s :=
  ⟨0, [], fun _ => rfl⟩

theorem yields_ofExcept (x : Except ε α) (s : σ) :
    Yields answer (ofExcept x : Prog A ε σ α) s x s := by
  cases x with
  | error e => exact yields_raise e s
  | ok a => exact yields_ret a s

theorem yields_call (q : Q) (s : σ) : Yields answer (call q : Prog A ε σ (A q)) s (answer q) s := by
  refine ⟨1, [⟨q, some (answer q)⟩], fun rest => ?_⟩
  simp only [call, List.replicate_one, List.singleton_append]
  cases answer q with
  | error e => rfl
  | ok a => rfl

theorem Yields.bind_ok {p : Prog A ε σ α} {f : α → Prog A ε σ β} {s s' : σ} {a : α}
    {y : Except ε β} (hp : Yields answer p s (.ok a) s) (hf : Yields answer (f a) s y s') :
    Yields answer (p >>= f) s y s' := by
  obtain ⟨m, t, hm⟩ := hp
  obtain ⟨n, t', hn⟩ := hf
  refine ⟨m + n, t ++ t', fun rest => ?_⟩
  change (andThen p f).run s _ = _
  rw [← List.replicate_append_replicate, List.append_assoc]
  simp only [andThen, hm]
  simp only [Outcome.ofExcept, hn]

theorem Yields.bind_error {p : Prog A ε σ α} {f : α → Prog A ε σ β} {s s' : σ} {e : ε}
    (hp : Yields answer p s (.error e) s') : Yields answer (p >>= f) s (.error e) s' := by
  obtain ⟨n, t, hn⟩ := hp
  refine ⟨n, t, fun rest => ?_⟩
  change (andThen p f).run s _ = _
  simp only [andThen, hn]
  rfl

/-- A sequence has the result of the sequence of its results. -/
theorem Yields.bind {p : Prog A ε σ α} {f : α → Prog A ε σ β} {s : σ} {x : Except ε α}
    {g : α → Except ε β} (hp : Yields answer p s x s) (hf : ∀ a, Yields answer (f a) s (g a) s) :
    Yields answer (p >>= f) s (x >>= g) s := by
  cases x with
  | error e => exact hp.bind_error
  | ok a => exact hp.bind_ok (hf a)

/-- The outcome of a program as a value. -/
theorem Yields.attempt {p : Prog A ε σ α} {s : σ} {x : Except ε α}
    (hp : Yields answer p s x s) : Yields answer (attempt p) s (.ok x) s := by
  obtain ⟨n, t, hn⟩ := hp
  refine ⟨n, t, fun rest => ?_⟩
  simp only [Prog.attempt, hn]
  cases x with
  | error e => rfl
  | ok a => rfl

end Prog

end Interaction
