import YwdTnc.Interaction.Prog

/-!
# Programs in an environment that keeps its promises

An environment with states `W` is a partial function: `env w c` is its state
after the answered query `c`, and `none` when it does not answer like that.
`Triple env pre p post` says that `p`, started where `pre` holds, never raises
as long as the environment answers, and that `post` holds when it returns. There
is one rule for each way of composing programs.
-/

namespace Interaction

abbrev Environment {Q : Type*} (A : Q → Type*) (ε W : Type*) :=
  W → Call A ε → Option W

/-- The state of the environment after a trace, if it answers like that. -/
def Environment.run {Q : Type*} {A : Q → Type*} {ε W : Type*} (env : Environment A ε W) :
    W → List (Call A ε) → Option W
  | w, [] => some w
  | w, c :: t => (env w c).bind fun w' => env.run w' t

namespace Environment

variable {Q : Type*} {A : Q → Type*} {ε W : Type*} {env : Environment A ε W}

theorem run_cons (w : W) (c : Call A ε) (t : List (Call A ε)) :
    env.run w (c :: t) = (env w c).bind fun w' => env.run w' t :=
  rfl

theorem run_append (w : W) (t t' : List (Call A ε)) :
    env.run w (t ++ t') = (env.run w t).bind fun w' => env.run w' t' := by
  induction t generalizing w with
  | nil => rfl
  | cons c t ih =>
      rw [List.cons_append, run_cons, run_cons, Option.bind_assoc]
      congr 1
      funext w'
      exact ih w'

theorem run_append_some {w w' : W} {t t' : List (Call A ε)}
    (h : env.run w (t ++ t') = some w') :
    ∃ w₁, env.run w t = some w₁ ∧ env.run w₁ t' = some w' := by
  rw [run_append, Option.bind_eq_some_iff] at h
  exact h

theorem run_singleton {w w' : W} {c : Call A ε} (h : env.run w [c] = some w') :
    env w c = some w' := by
  rw [run_cons, Option.bind_eq_some_iff] at h
  obtain ⟨w₁, hc, hnil⟩ := h
  rw [hc]
  exact hnil

end Environment

namespace Prog

universe v

variable {Q : Type*} {A : Q → Type*} {ε W σ τ : Type*} {α β : Type v}

def Triple (env : Environment A ε W) (pre : σ → W → Prop) (p : Prog A ε σ α)
    (post : α → σ → W → Prop) : Prop :=
  ∀ s o s' t w w', pre s w → Runs p s o s' t → env.run w t = some w' →
    (∀ e, o ≠ .raised e) ∧ ∀ a, o = .returned a → post a s' w'

variable {env : Environment A ε W} {pre : σ → W → Prop} {post : α → σ → W → Prop}

/-- What a run that is over proves of its end. -/
theorem Triple.returned {p : Prog A ε σ α} (h : Triple env pre p post) {s s' : σ} {a : α}
    {t : List (Call A ε)} {w w' : W} (hpre : pre s w) (hrun : Runs p s (.returned a) s' t)
    (henv : env.run w t = some w') : post a s' w' :=
  (h _ _ _ _ _ _ hpre hrun henv).2 a rfl

theorem Triple.not_raised {p : Prog A ε σ α} (h : Triple env pre p post) {s s' : σ} {e : ε}
    {t : List (Call A ε)} {w w' : W} (hpre : pre s w) (hrun : Runs p s (.raised e) s' t)
    (henv : env.run w t = some w') : False :=
  (h _ _ _ _ _ _ hpre hrun henv).1 e rfl

theorem Triple.weaken {pre' : σ → W → Prop} {post' : α → σ → W → Prop} {p : Prog A ε σ α}
    (h : Triple env pre' p post') (hpre : ∀ s w, pre s w → pre' s w)
    (hpost : ∀ a s w, post' a s w → post a s w) : Triple env pre p post := by
  intro s o s' t w w' hs hrun henv
  obtain ⟨hraised, hreturned⟩ := h _ _ _ _ _ _ (hpre s w hs) hrun henv
  exact ⟨hraised, fun a ha => hpost a s' w' (hreturned a ha)⟩

theorem triple_ret {a : α} (h : ∀ s w, pre s w → post a s w) :
    Triple env pre (ret a) post := by
  intro s o s' t w w' hs hrun henv
  obtain ⟨rfl, rfl, rfl⟩ := runs_ret.1 hrun
  cases henv
  refine ⟨fun e => nofun, fun a' ha' => ?_⟩
  cases ha'
  exact h _ _ hs

theorem triple_pure {a : α} (h : ∀ s w, pre s w → post a s w) :
    Triple env pre (pure a) post :=
  triple_ret h

theorem triple_get {post : σ → σ → W → Prop} (h : ∀ s w, pre s w → post s s w) :
    Triple env pre (get : Prog A ε σ σ) post := by
  intro s o s' t w w' hs hrun henv
  obtain ⟨rfl, rfl, rfl⟩ := runs_get.1 hrun
  cases henv
  refine ⟨fun e => nofun, fun a ha => ?_⟩
  cases ha
  exact h _ _ hs

theorem triple_modify {f : σ → σ} {post : Unit → σ → W → Prop}
    (h : ∀ s w, pre s w → post () (f s) w) :
    Triple env pre (modify f : Prog A ε σ Unit) post := by
  intro s o s' t w w' hs hrun henv
  obtain ⟨rfl, rfl, rfl⟩ := runs_modify.1 hrun
  cases henv
  exact ⟨fun e => nofun, fun _ _ => h _ _ hs⟩

/-- A query, from what the environment answers to it. -/
theorem triple_call {q : Q} {post : A q → σ → W → Prop}
    (h : ∀ s w answer w', pre s w → env w ⟨q, some answer⟩ = some w' →
      ∃ a, answer = .ok a ∧ post a s w') :
    Triple env pre (call q : Prog A ε σ (A q)) post := by
  intro s o s' t w w' hs hrun henv
  obtain ⟨rfl, ⟨a, rfl, rfl⟩ | ⟨e, rfl, rfl⟩ | ⟨rfl, rfl⟩⟩ := hrun.call_cases
  · obtain ⟨a', ha', hpost⟩ := h _ _ _ _ hs (Environment.run_singleton henv)
    cases ha'
    refine ⟨fun e => nofun, fun a' ha' => ?_⟩
    cases ha'
    exact hpost
  · obtain ⟨a', ha', -⟩ := h _ _ _ _ hs (Environment.run_singleton henv)
    cases ha'
  · exact ⟨fun e => nofun, fun a ha => nomatch ha⟩

theorem triple_ofExcept {x : Except ε α} (h : ∀ s w, pre s w → ∃ a, x = .ok a ∧ post a s w) :
    Triple env pre (ofExcept x) post := by
  intro s o s' t w w' hs hrun henv
  obtain ⟨a, rfl, hpost⟩ := h s w hs
  obtain ⟨rfl, rfl, rfl⟩ := runs_ofExcept_ok.1 hrun
  cases henv
  refine ⟨fun e => nofun, fun a' ha' => ?_⟩
  cases ha'
  exact hpost

theorem Triple.bind {p : Prog A ε σ α} {f : α → Prog A ε σ β} {M : α → σ → W → Prop}
    {post : β → σ → W → Prop} (hp : Triple env pre p M)
    (hf : ∀ a, Triple env (M a) (f a) post) : Triple env pre (p >>= f) post := by
  intro s o s' t w w' hs hrun henv
  rcases hrun.bind_cases with ⟨a, s₁, t₁, t₂, h₁, h₂, rfl⟩ | ⟨e, h₁, -⟩ | ⟨-, rfl⟩
  · obtain ⟨w₁, henv₁, henv₂⟩ := Environment.run_append_some henv
    exact hf a _ _ _ _ _ _ (hp.returned hs h₁ henv₁) h₂ henv₂
  · exact (hp.not_raised hs h₁ henv).elim
  · exact ⟨fun e => nofun, fun a ha => nomatch ha⟩

/-- A `try` whose body does not raise goes on with the value. -/
theorem Triple.attempt_bind {ε : Type v} {env : Environment A ε W} {p : Prog A ε σ α}
    {f : Except ε α → Prog A ε σ β} {M : α → σ → W → Prop} {post : β → σ → W → Prop}
    (hp : Triple env pre p M) (hf : ∀ a, Triple env (M a) (f (.ok a)) post) :
    Triple env pre (Prog.attempt p >>= f) post := by
  intro s o s' t w w' hs hrun henv
  rcases hrun.attempt_bind_cases with
    ⟨a, s₁, t₁, t₂, h₁, h₂, rfl⟩ | ⟨e, s₁, t₁, t₂, h₁, -, rfl⟩ | ⟨-, rfl⟩
  · obtain ⟨w₁, henv₁, henv₂⟩ := Environment.run_append_some henv
    exact hf a _ _ _ _ _ _ (hp.returned hs h₁ henv₁) h₂ henv₂
  · obtain ⟨w₁, henv₁, -⟩ := Environment.run_append_some henv
    exact (hp.not_raised hs h₁ henv₁).elim
  · exact ⟨fun e => nofun, fun a ha => nomatch ha⟩

theorem Triple.ensuring {p : Prog A ε σ α} {f : σ → σ}
    (h : Triple env pre p fun a s w => post a (f s) w) :
    Triple env pre (Prog.ensuring p f) post := by
  intro s o s' t w w' hs hrun henv
  rcases hrun.ensuring_cases with ⟨s₁, h₁, -, rfl⟩ | ⟨-, rfl⟩
  · exact h _ _ _ _ _ _ hs h₁ henv
  · exact ⟨fun e => nofun, fun a ha => nomatch ha⟩

theorem triple_zoom {view : σ → τ} {put : σ → τ → σ} {p : Prog A ε τ α}
    (h : ∀ s w, pre s w →
      Triple env (fun x w' => x = view s ∧ w' = w) p fun a x w' => post a (put s x) w') :
    Triple env pre (zoom view put p) post := by
  intro s o s' t w w' hs hrun henv
  obtain ⟨x, hp, rfl⟩ := hrun.zoom_cases
  exact h s w hs _ _ _ _ _ _ ⟨rfl, rfl⟩ hp henv

theorem Triple.modify_bind {β : Type} {f : σ → σ} {g : Unit → Prog A ε σ β}
    {post : β → σ → W → Prop} (hf : ∀ s w, pre s w → pre (f s) w)
    (hg : Triple env pre (g ()) post) : Triple env pre (modify f >>= g) post := by
  intro s o s' t w w' hs hrun henv
  exact hg _ _ _ _ _ _ (hf s w hs) hrun.modify_bind henv

/-- A program that reads its state first goes on from the state it is in. -/
theorem Triple.get_bind {σ : Type v} {env : Environment A ε W} {pre : σ → W → Prop}
    {f : σ → Prog A ε σ β} {post : β → σ → W → Prop}
    (h : ∀ s, Triple env (fun s' w => s' = s ∧ pre s w) (f s) post) :
    Triple env pre (get >>= f) post := by
  intro s o s' t w w' hs hrun henv
  exact h s _ _ _ _ _ _ ⟨rfl, hs⟩ hrun.get_bind henv

/-- A query that the environment never refuses is answered, and the program goes on, or it is
open. -/
theorem Runs.call_bind_cases {A : Q → Type v} {env : Environment A ε W} {q : Q}
    {f : A q → Prog A ε σ β} {s s' : σ} {o : Outcome ε β} {t : List (Call A ε)} {w w' : W}
    (hq : ∀ w e, env w ⟨q, some (.error e)⟩ = none) (h : Runs (call q >>= f) s o s' t)
    (henv : env.run w t = some w') :
    (∃ a w₁ u, env w ⟨q, some (.ok a)⟩ = some w₁ ∧ Runs (f a) s o s' u ∧
        env.run w₁ u = some w' ∧ t = ⟨q, some (.ok a)⟩ :: u) ∨
      o = .pending ∧ t = [⟨q, none⟩] := by
  have hrefused : ∀ e, env.run w [⟨q, some (.error e)⟩] ≠ some w' := by
    intro e hrun
    rw [Environment.run_cons, hq] at hrun
    cases hrun
  rcases h.bind_cases with ⟨a, s₁, t₁, u, hcall, hrest, rfl⟩ | ⟨e, hcall, -⟩ | ⟨hcall, rfl⟩
  · obtain ⟨rfl, rfl⟩ := hcall.call_returned
    obtain ⟨w₁, hw₁, hu⟩ := Environment.run_append_some henv
    exact .inl ⟨a, w₁, u, Environment.run_singleton hw₁, hrest, hu, rfl⟩
  · obtain ⟨-, ⟨a, ho, -⟩ | ⟨e', -, rfl⟩ | ⟨ho, -⟩⟩ := hcall.call_cases
    · cases ho
    · exact absurd henv (hrefused e')
    · cases ho
  · obtain ⟨-, ⟨a, ho, -⟩ | ⟨e', ho, -⟩ | ⟨-, rfl⟩⟩ := hcall.call_cases
    · cases ho
    · cases ho
    · exact .inr ⟨rfl, rfl⟩

/-- What every answer of the environment keeps is kept by every program. -/
theorem Triple.keeping {p : Prog A ε σ α} {K : W → Prop} (h : Triple env pre p post)
    (hK : ∀ w t w', K w → env.run w t = some w' → K w') :
    Triple env (fun s w => pre s w ∧ K w) p fun a s w => post a s w ∧ K w := by
  intro s o s' t w w' hs hrun henv
  obtain ⟨hraised, hreturned⟩ := h _ _ _ _ _ _ hs.1 hrun henv
  exact ⟨hraised, fun a ha => ⟨hreturned a ha, hK w t w' hs.2 henv⟩⟩

/-- What a round of a loop leaves behind: the invariant, or the result. -/
def afterRound (inv : σ → W → Prop) (post : β → σ → W → Prop) :
    Option β → σ → W → Prop
  | none => inv
  | some b => post b

/-- The rule of a loop: `inv` is kept by every round but the last one. -/
theorem triple_iterate {body : Prog A ε σ (Option β)} {inv : σ → W → Prop}
    {post : β → σ → W → Prop} (h : Triple env inv body (afterRound inv post)) :
    Triple env inv (iterate body) post := by
  intro s o s' t w w' hs hrun henv
  have hrounds := hrun.iterate_rounds
  clear hrun
  induction hrounds generalizing w with
  | done hlast =>
      refine ⟨fun e => nofun, fun b hb => ?_⟩
      cases hb
      exact h.returned hs hlast henv
  | again hround hrest ih =>
      obtain ⟨w₁, henv₁, henv₂⟩ := Environment.run_append_some henv
      exact ih w₁ (h.returned hs hround henv₁) henv₂
  | raised hlast => exact (h.not_raised hs hlast henv).elim
  | pending hlast => exact ⟨fun e => nofun, fun a ha => nomatch ha⟩
  | outOfScript => exact ⟨fun e => nofun, fun a ha => nomatch ha⟩

end Prog

end Interaction
