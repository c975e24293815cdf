import YwdTnc.Interaction.Prog

/-!
# Programs and their history

What a program may ask can depend on what was answered before. `Guarded P h s p` says
that `p`, run from `s` after the history `h`, asks nothing but what `P` permits after the
history up to it. `Succeeded` finds a part of a program, with the value it returned, in a
history. `Mirrors` compares two programs whose exceptions may differ.
-/

namespace Interaction

namespace Prog

variable {Q : Type*} {A : Q → Type*} {ε : Type} {σ : Type*} {α β : Type}

/-- `try p finally f`. -/
def finallyDo (p : Prog A ε σ α) (f : Prog A ε σ Unit) : Prog A ε σ α := do
  match ← attempt p with
  | .error e =>
      f
      raise e
  | .ok a =>
      f
      return a

theorem Runs.finallyDo_cases {p : Prog A ε σ α} {f : Prog A ε σ Unit} {s s' : σ}
    {o : Outcome ε α} {t : List (Call A ε)} (h : Runs (finallyDo p f) s o s' t) :
    (∃ a s₁ t₁ t₂, Runs p s (.returned a) s₁ t₁ ∧ Runs (f >>= fun _ => ret a) s₁ o s' t₂ ∧
        t = t₁ ++ t₂) ∨
      (∃ e s₁ t₁ t₂, Runs p s (.raised e) s₁ t₁ ∧ Runs (f >>= fun _ => raise e) s₁ o s' t₂ ∧
        t = t₁ ++ t₂) ∨
      (Runs p s .pending s' t ∧ o = .pending) :=
  h.attempt_bind_cases

theorem Runs.finallyDo_returned {p : Prog A ε σ α} {f : Prog A ε σ Unit} {s s' : σ} {a : α}
    {t : List (Call A ε)} (h : Runs (finallyDo p f) s (.returned a) s' t) :
    ∃ s₁ t₁ t₂, Runs p s (.returned a) s₁ t₁ ∧ Runs f s₁ (.returned ()) s' t₂ ∧
      t = t₁ ++ t₂ := by
  rcases h.finallyDo_cases with ⟨b, s₁, t₁, t₂, hp, hend, rfl⟩ | ⟨e, s₁, t₁, t₂, hp, hend, rfl⟩ |
    ⟨-, ho⟩
  · obtain ⟨u, s₂, t₃, t₄, hf, hret, rfl⟩ := hend.bind_returned
    obtain ⟨ho, rfl, rfl⟩ := runs_ret.1 hret
    cases ho
    rw [List.append_nil]
    exact ⟨s₁, t₁, t₃, hp, hf, rfl⟩
  · obtain ⟨u, s₂, t₃, t₄, hf, hraise, rfl⟩ := hend.bind_returned
    cases (runs_raise.1 hraise).1
  · cases ho

/-! ### What a history contains -/

/-- `p` returned `a` somewhere in the history. -/
def Succeeded (p : Prog A ε σ α) (a : α) (h : List (Call A ε)) : Prop :=
  ∃ u v w s s', h = u ++ v ++ w ∧ Runs p s (.returned a) s' v

theorem Runs.succeeded {p : Prog A ε σ α} {a : α} {s s' : σ} {v : List (Call A ε)}
    (h : Runs p s (.returned a) s' v) (u w : List (Call A ε)) : Succeeded p a (u ++ v ++ w) :=
  ⟨u, v, w, s, s', rfl, h⟩

theorem Succeeded.append {p : Prog A ε σ α} {a : α} {h : List (Call A ε)}
    (hp : Succeeded p a h) (h' : List (Call A ε)) : Succeeded p a (h ++ h') := by
  obtain ⟨u, v, w, s, s', rfl, hrun⟩ := hp
  exact ⟨u, v, w ++ h', s, s', by simp only [List.append_assoc], hrun⟩

theorem Succeeded.prepend {p : Prog A ε σ α} {a : α} {h : List (Call A ε)}
    (hp : Succeeded p a h) (h' : List (Call A ε)) : Succeeded p a (h' ++ h) := by
  obtain ⟨u, v, w, s, s', rfl, hrun⟩ := hp
  exact ⟨h' ++ u, v, w, s, s', by simp only [List.append_assoc], hrun⟩

/-! ### Queries that need a history -/

def Guarded (P : List (Call A ε) → Q → Prop) (h : List (Call A ε)) (s : σ)
    (p : Prog A ε σ α) : Prop :=
  ∀ o s' t, Runs p s o s' t → ∀ u c v, t = u ++ c :: v → P (h ++ u) c.query

variable {P : List (Call A ε) → Q → Prop} {h : List (Call A ε)} {s : σ}

/-- A program without queries. -/
theorem guarded_of_silent {p : Prog A ε σ α} (hp : ∀ o s' t, Runs p s o s' t → t = []) :
    Guarded P h s p := by
  intro o s' t hrun u c v ht
  rw [hp o s' t hrun] at ht
  simp at ht

theorem guarded_ret (a : α) : Guarded P h s (ret a : Prog A ε σ α) :=
  guarded_of_silent fun _ _ _ hrun => (runs_ret.1 hrun).2.2

theorem guarded_raise (e : ε) : Guarded P h s (raise e : Prog A ε σ α) :=
  guarded_of_silent fun _ _ _ hrun => (runs_raise.1 hrun).2.2

theorem guarded_call {A : Q → Type} {P : List (Call A ε) → Q → Prop} {h : List (Call A ε)} {q : Q}
    (hq : P h q) : Guarded P h s (call q : Prog A ε σ (A q)) := by
  intro o s' t hrun u c v ht
  obtain ⟨-, ⟨a, -, rfl⟩ | ⟨e, -, rfl⟩ | ⟨-, rfl⟩⟩ := hrun.call_cases
  all_goals
    cases u with
    | nil =>
        rw [List.nil_append, List.cons.injEq] at ht
        rw [← ht.1, List.append_nil]
        exact hq
    | cons d u => simp at ht

/-- Queries that are permitted after every history. -/
theorem CallsOnly.guarded {K : Q → Prop} {p : Prog A ε σ α} (hp : CallsOnly K p)
    (hK : ∀ h q, K q → P h q) : Guarded P h s p := by
  intro o s' t hrun u c v ht
  refine hK _ _ (hp _ _ _ _ hrun c ?_)
  rw [ht]
  exact List.mem_append_right _ (List.mem_cons_self ..)

/-- A split of `a ++ b` is a split of `a` or of `b`. -/
theorem append_eq_split {γ : Type*} {a b u v : List γ} {c : γ} (h : a ++ b = u ++ c :: v) :
    (∃ w, a = u ++ c :: w) ∨ ∃ w, u = a ++ w ∧ b = w ++ c :: v := by
  rcases List.append_eq_append_iff.1 h with ⟨w, rfl, hw⟩ | ⟨w, rfl, hw⟩
  · exact .inr ⟨w, rfl, hw⟩
  · cases w with
    | nil => exact .inr ⟨[], by simp, by simpa using hw.symm⟩
    | cons d w =>
        rw [List.cons_append, List.cons.injEq] at hw
        obtain ⟨rfl, -⟩ := hw
        exact .inl ⟨w, rfl⟩

theorem Guarded.bind {p : Prog A ε σ α} {f : α → Prog A ε σ β} (hp : Guarded P h s p)
    (hf : ∀ a s' t, Runs p s (.returned a) s' t → Guarded P (h ++ t) s' (f a)) :
    Guarded P h s (p >>= f) := by
  intro o s' t hrun u c v ht
  rcases hrun.bind_cases with ⟨a, s₁, t₁, t₂, h₁, h₂, rfl⟩ | ⟨e, h₁, -⟩ | ⟨h₁, -⟩
  · rcases append_eq_split ht with ⟨w, hw⟩ | ⟨w, rfl, hw⟩
    · exact hp _ _ _ h₁ u c w hw
    · rw [← List.append_assoc]
      exact hf a s₁ t₁ h₁ _ _ _ h₂ w c v hw
  · exact hp _ _ _ h₁ u c v ht
  · exact hp _ _ _ h₁ u c v ht

theorem Guarded.except {p : Prog A ε σ α} {g : ε → Prog A ε σ α} (hp : Guarded P h s p)
    (hg : ∀ e s' t, Runs p s (.raised e) s' t → Guarded P (h ++ t) s' (g e)) :
    Guarded P h s (Prog.except p g) := by
  intro o s' t hrun u c v ht
  rcases hrun.except_cases with ⟨a, h₁, -⟩ | ⟨e, s₁, t₁, t₂, h₁, h₂, rfl⟩ | ⟨h₁, -⟩
  · exact hp _ _ _ h₁ u c v ht
  · rcases append_eq_split ht with ⟨w, hw⟩ | ⟨w, rfl, hw⟩
    · exact hp _ _ _ h₁ u c w hw
    · rw [← List.append_assoc]
      exact hg e s₁ t₁ h₁ _ _ _ h₂ w c v hw
  · exact hp _ _ _ h₁ u c v ht

theorem Guarded.attempt {p : Prog A ε σ α} (hp : Guarded P h s p) :
    Guarded P h s (Prog.attempt p) := by
  intro o s' t hrun u c v ht
  rcases hrun.attempt_cases with ⟨a, hp', -⟩ | ⟨e, hp', -⟩ | ⟨hp', -⟩
  all_goals exact hp _ _ _ hp' u c v ht

theorem Guarded.finallyDo {p : Prog A ε σ α} {f : Prog A ε σ Unit} (hp : Guarded P h s p)
    (hf : ∀ o s' t, Runs p s o s' t → Guarded P (h ++ t) s' f) :
    Guarded P h s (Prog.finallyDo p f) := by
  refine hp.attempt.bind fun r s' t hrun => ?_
  have hend : Guarded P (h ++ t) s' f := by
    rcases hrun.attempt_cases with ⟨a, hp', -⟩ | ⟨e, hp', -⟩ | ⟨hp', -⟩
    all_goals exact hf _ _ _ hp'
  cases r with
  | error e => exact hend.bind fun _ _ _ _ => guarded_raise e
  | ok a => exact hend.bind fun _ _ _ _ => guarded_ret a

theorem CallsOnly.finallyDo {K : Q → Prop} {p : Prog A ε σ α} {f : Prog A ε σ Unit}
    (hp : CallsOnly K p) (hf : CallsOnly K f) : CallsOnly K (Prog.finallyDo p f) := by
  refine hp.attempt.bind fun r => ?_
  cases r with
  | error e => exact hf.bind fun _ => callsOnly_raise e
  | ok a => exact hf.bind fun _ => callsOnly_ret a

/-! ### Programs that ask the same -/

/-- Two results that differ in the exception at most. -/
inductive Mirrored : Result A ε σ α → Result A ε σ α → Prop
  | returned (a : α) (s : σ) (rest : Script A ε) (t : List (Call A ε)) :
      Mirrored ⟨.returned a, s, rest, t⟩ ⟨.returned a, s, rest, t⟩
  | raised (e e' : ε) (s : σ) (rest : Script A ε) (t : List (Call A ε)) :
      Mirrored ⟨.raised e, s, rest, t⟩ ⟨.raised e', s, rest, t⟩
  | pending (s : σ) (rest : Script A ε) (t : List (Call A ε)) :
      Mirrored ⟨.pending, s, rest, t⟩ ⟨.pending, s, rest, t⟩

theorem Mirrored.refl (r : Result A ε σ α) : Mirrored r r := by
  obtain ⟨o, s, rest, t⟩ := r
  cases o with
  | returned a => exact .returned a s rest t
  | raised e => exact .raised e e s rest t
  | pending => exact .pending s rest t

/-- The same calls in front of two results. -/
theorem Mirrored.after {r r' : Result A ε σ α} (h : Mirrored r r') (t : List (Call A ε)) :
    Mirrored ⟨r.outcome, r.state, r.rest, t ++ r.trace⟩
      ⟨r'.outcome, r'.state, r'.rest, t ++ r'.trace⟩ := by
  cases h with
  | returned a s rest t' => exact .returned a s rest (t ++ t')
  | raised e e' s rest t' => exact .raised e e' s rest (t ++ t')
  | pending s rest t' => exact .pending s rest (t ++ t')

/-- On every script the two programs ask the same and end alike, but for the
exceptions that they raise. -/
def Mirrors (p q : Prog A ε σ α) : Prop := ∀ s env, Mirrored (p.run s env) (q.run s env)

theorem Mirrors.refl (p : Prog A ε σ α) : Mirrors p p := fun s env => .refl (p.run s env)

theorem Mirrors.bind {p q : Prog A ε σ α} {f g : α → Prog A ε σ β} (hp : Mirrors p q)
    (hf : ∀ a, Mirrors (f a) (g a)) : Mirrors (p >>= f) (q >>= g) := by
  intro s env
  have hsame := hp s env
  change Mirrored ((andThen p f).run s env) ((andThen q g).run s env)
  simp only [andThen]
  generalize p.run s env = r at hsame ⊢
  generalize q.run s env = r' at hsame ⊢
  cases hsame with
  | returned a s' rest t => exact (hf a s' rest).after t
  | raised e e' s' rest t => exact .raised e e' s' rest t
  | pending s' rest t => exact .pending s' rest t

/-- A common beginning. -/
theorem Mirrors.after {p : Prog A ε σ α} {f g : α → Prog A ε σ β}
    (hf : ∀ a, Mirrors (f a) (g a)) : Mirrors (p >>= f) (p >>= g) :=
  (Mirrors.refl p).bind hf

theorem bind_assoc {γ : Type} (p : Prog A ε σ α) (f : α → Prog A ε σ β) (g : β → Prog A ε σ γ) :
    p >>= f >>= g = p >>= fun a => f a >>= g := by
  change andThen (andThen p f) g = andThen p fun a => andThen (f a) g
  simp only [andThen, mk.injEq]
  funext s env
  generalize p.run s env = r
  obtain ⟨o, s', rest, t⟩ := r
  cases o with
  | returned a =>
      dsimp only
      generalize (f a).run s' rest = r
      obtain ⟨o', s'', rest', t'⟩ := r
      cases o' with
      | returned b => simp only [List.append_assoc]
      | raised e => rfl
      | pending => rfl
  | raised e => rfl
  | pending => rfl

/-- A program that looks at the exception of its first part, and one that does not. -/
theorem Mirrors.attempt_bind {p : Prog A ε σ α} {f : Except ε α → Prog A ε σ β}
    {g : α → Prog A ε σ β} (hok : ∀ a, Mirrors (f (.ok a)) (g a))
    (herror : ∀ e, Mirrors (f (.error e)) (raise e)) : Mirrors (attempt p >>= f) (p >>= g) := by
  intro s env
  change Mirrored ((andThen (Prog.attempt p) f).run s env) ((andThen p g).run s env)
  simp only [andThen, Prog.attempt]
  generalize p.run s env = r
  obtain ⟨o, s', rest, t⟩ := r
  cases o with
  | returned a => exact (hok a s' rest).after t
  | raised e =>
      have hend := (herror e s' rest).after t
      simpa [raise] using hend
  | pending => exact .pending s' rest t

theorem mirrors_raise (e e' : ε) : Mirrors (raise e : Prog A ε σ α) (raise e') :=
  fun s env => .raised e e' s env []

theorem Mirrors.finallyDo {p q : Prog A ε σ α} (hp : Mirrors p q) (f : Prog A ε σ Unit) :
    Mirrors (Prog.finallyDo p f) (Prog.finallyDo q f) := by
  intro s env
  have hsame := hp s env
  change Mirrored ((andThen (Prog.attempt p) _).run s env)
    ((andThen (Prog.attempt q) _).run s env)
  simp only [andThen, Prog.attempt]
  generalize p.run s env = r at hsame ⊢
  generalize q.run s env = r' at hsame ⊢
  cases hsame with
  | returned a s' rest t => exact (Mirrors.refl (f >>= fun _ => ret a) s' rest).after t
  | raised e e' s' rest t =>
      have hend : Mirrors (f >>= fun _ => (raise e : Prog A ε σ α)) (f >>= fun _ => raise e') :=
        .after fun _ => mirrors_raise e e'
      exact (hend s' rest).after t
  | pending s' rest t => exact .pending s' rest t

/-- Handlers that ask nothing. -/
theorem Mirrors.trace_except {p q : Prog A ε σ α} (hp : Mirrors p q) {g g' : ε → Prog A ε σ α}
    (hg : ∀ e s env, ((g e).run s env).trace = []) (hg' : ∀ e s env, ((g' e).run s env).trace = [])
    (s : σ) (env : Script A ε) :
    ((Prog.except p g).run s env).trace = ((Prog.except q g').run s env).trace := by
  have hsame := hp s env
  simp only [Prog.except]
  generalize p.run s env = r at hsame ⊢
  generalize q.run s env = r' at hsame ⊢
  cases hsame with
  | returned a s' rest t => rfl
  | raised e e' s' rest t =>
      dsimp only
      rw [hg, hg']
  | pending s' rest t => rfl

end Prog

end Interaction
