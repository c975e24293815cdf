import YwdTnc.Interaction.Prog

/-!
# What a program has done when it returns

`Leaves pre p post` is about the runs of `p` that return: the calls of a run join those that were
made before, and `post` may speak of the value, the state and all the calls. A run that raises or
waits is no concern of it, so what follows a failure that nobody catches need not be looked at.
There is one rule for each way of composing programs, and one for loops with an invariant of the
state and of the calls (`leaves_iterate`).
-/

namespace Interaction

namespace Prog

universe v

variable {Q : Type*} {A : Q → Type*} {ε σ : Type*} {α β : Type v}

def Leaves (pre : σ → List (Call A ε) → Prop) (p : Prog A ε σ α)
    (post : α → σ → List (Call A ε) → Prop) : Prop :=
  ∀ s a s' t u, pre s u → Runs p s (.returned a) s' t → post a s' (u ++ t)

variable {pre : σ → List (Call A ε) → Prop} {post : α → σ → List (Call A ε) → Prop}

theorem Leaves.weaken {pre' : σ → List (Call A ε) → Prop}
    {post' : α → σ → List (Call A ε) → Prop} {p : Prog A ε σ α} (h : Leaves pre' p post')
    (hpre : ∀ s u, pre s u → pre' s u) (hpost : ∀ a s u, post' a s u → post a s u) :
    Leaves pre p post :=
  fun s a s' t u hs hrun => hpost _ _ _ (h s a s' t u (hpre s u hs) hrun)

/-- What holds of the calls so far and goes on to hold. -/
theorem Leaves.keep {p : Prog A ε σ α} (h : Leaves pre p post) {W : List (Call A ε) → Prop}
    (hW : ∀ u t, W u → W (u ++ t)) :
    Leaves (fun s u => W u ∧ pre s u) p fun a s u => W u ∧ post a s u :=
  fun s a s' t u hs hrun => ⟨hW u t hs.1, h s a s' t u hs.2 hrun⟩

theorem leaves_pure {a : α} (h : ∀ s u, pre s u → post a s u) :
    Leaves pre (pure a : Prog A ε σ α) post := by
  intro s b s' t u hs hrun
  obtain ⟨ho, rfl, rfl⟩ := runs_pure.1 hrun
  cases ho
  rw [List.append_nil]
  exact h _ u hs

theorem leaves_raise (e : ε) : Leaves pre (raise e : Prog A ε σ α) post := by
  intro s b s' t u hs hrun
  obtain ⟨ho, -, -⟩ := runs_raise.1 hrun
  cases ho

theorem leaves_get {post : σ → σ → List (Call A ε) → Prop} (h : ∀ s u, pre s u → post s s u) :
    Leaves pre (get : Prog A ε σ σ) post := by
  intro s b s' t u hs hrun
  obtain ⟨ho, rfl, rfl⟩ := runs_get.1 hrun
  cases ho
  rw [List.append_nil]
  exact h _ u hs

theorem leaves_modify {f : σ → σ} {post : Unit → σ → List (Call A ε) → Prop}
    (h : ∀ s u, pre s u → post () (f s) u) :
    Leaves pre (modify f : Prog A ε σ Unit) post := by
  intro s b s' t u hs hrun
  obtain ⟨-, rfl, rfl⟩ := runs_modify.1 hrun
  rw [List.append_nil]
  exact h s u hs

theorem leaves_call {q : Q} {post : A q → σ → List (Call A ε) → Prop}
    (h : ∀ s u a, pre s u → post a s (u ++ [⟨q, some (.ok a)⟩])) :
    Leaves pre (call q : Prog A ε σ (A q)) post := by
  intro s a s' t u hs hrun
  obtain ⟨rfl, rfl⟩ := hrun.call_returned
  exact h _ u a hs

theorem leaves_ofExcept {x : Except ε α} (h : ∀ s u a, x = .ok a → pre s u → post a s u) :
    Leaves pre (ofExcept x : Prog A ε σ α) post := by
  intro s a s' t u hs hrun
  obtain ⟨hx, rfl, rfl⟩ := hrun.ofExcept_returned
  rw [List.append_nil]
  exact h _ u a hx hs

theorem Leaves.bind {p : Prog A ε σ α} {f : α → Prog A ε σ β}
    {M : α → σ → List (Call A ε) → Prop} {post : β → σ → List (Call A ε) → Prop}
    (hp : Leaves pre p M) (hf : ∀ a, Leaves (M a) (f a) post) : Leaves pre (p >>= f) post := by
  intro s b s' t u hs hrun
  obtain ⟨a, s₁, t₁, t₂, h₁, h₂, rfl⟩ := hrun.bind_returned
  rw [← List.append_assoc]
  exact hf a s₁ b s' t₂ _ (hp s a s₁ t₁ u hs h₁) h₂

/-- What follows a `try` is told apart by its outcome; the handler begins anywhere. -/
theorem Leaves.attempt_bind {ε : Type v} {A : Q → Type*} {pre : σ → List (Call A ε) → Prop}
    {p : Prog A ε σ α} {f : Except ε α → Prog A ε σ β} {M : α → σ → List (Call A ε) → Prop}
    {post : β → σ → List (Call A ε) → Prop} (hp : Leaves pre p M)
    (hok : ∀ a, Leaves (M a) (f (.ok a)) post)
    (herror : ∀ e, Leaves (fun _ _ => True) (f (.error e)) post) :
    Leaves pre (attempt p >>= f) post := by
  intro s b s' t u hs hrun
  rcases hrun.attempt_bind_cases with
    ⟨a, s₁, t₁, t₂, h₁, h₂, rfl⟩ | ⟨e, s₁, t₁, t₂, -, h₂, rfl⟩ | ⟨-, ho⟩
  · rw [← List.append_assoc]
    exact hok a s₁ b s' t₂ _ (hp s a s₁ t₁ u hs h₁) h₂
  · rw [← List.append_assoc]
    exact herror e s₁ b s' t₂ _ trivial h₂
  · cases ho

/-- A call whose failure is caught. -/
theorem leaves_attempt_call {ε : Type v} {Q : Type*} {A : Q → Type v}
    {pre : σ → List (Call A ε) → Prop} {q : Q}
    {post : Except ε (A q) → σ → List (Call A ε) → Prop}
    (h : ∀ s u x, pre s u → post x s (u ++ [⟨q, some x⟩])) :
    Leaves pre (attempt (call q) : Prog A ε σ (Except ε (A q))) post := by
  intro s x s' t u hs hrun
  rcases hrun.attempt_cases with ⟨a, hcall, ho⟩ | ⟨e, hcall, ho⟩ | ⟨-, ho⟩
  · cases ho
    obtain ⟨rfl, rfl⟩ := hcall.call_returned
    exact h _ u _ hs
  · cases ho
    obtain ⟨rfl, ⟨_, ho, -⟩ | ⟨_, ho, rfl⟩ | ⟨ho, -⟩⟩ := hcall.call_cases
    · cases ho
    · cases ho
      exact h _ u _ hs
    · cases ho
  · cases ho

/-- A loop whose rounds keep an invariant until the one that ends it. -/
theorem leaves_iterate {body : Prog A ε σ (Option α)} {I : σ → List (Call A ε) → Prop}
    (hbody : Leaves I body fun
      | none => I
      | some a => post a) : Leaves I (iterate body) post := by
  intro s a s' t u hs hrun
  have hrounds := hrun.iterate_rounds
  clear hrun
  generalize ho : Outcome.returned a = o at hrounds
  induction hrounds generalizing u with
  | done h =>
      cases ho
      exact hbody _ _ _ _ u hs h
  | again h hrest ih =>
      rw [← List.append_assoc]
      exact ih _ (hbody _ _ _ _ u hs h) ho
  | raised | pending | outOfScript => cases ho

/-- A loop without an end. -/
theorem leaves_forever :
    Leaves pre (iterate (pure none) : Prog A ε σ α) post := by
  have hnever : Leaves pre (iterate (pure none) : Prog A ε σ α) fun _ _ _ => False :=
    leaves_iterate (leaves_pure fun s t h => h)
  exact hnever.weaken (fun _ _ h => h) fun _ _ _ h => h.elim

end Prog

end Interaction
