import YwdTnc.Interaction.Threads

/-!
# What a program upholds

`Upholds K Inv p Post` is about every run of `p`, however it ends and whatever it is
answered: from a state with `Inv` it ends in one with `Inv`, it asks nothing but what `K`
permits, and a value it returns has `Post`. Threads whose turns uphold the same invariant
keep it in every run, in any order of their turns.
-/

namespace Interaction

namespace Prog

universe v

variable {Q : Type*} {A : Q → Type*} {ε σ τ : Type*} {α β : Type v} {K : Q → Prop}
  {Inv : σ → Prop} {Post : α → Prop}

def Upholds (K : Q → Prop) (Inv : σ → Prop) (p : Prog A ε σ α) (Post : α → Prop) : Prop :=
  ∀ s o s' t, Inv s → Runs p s o s' t →
    Inv s' ∧ (∀ c ∈ t, K c.query) ∧ ∀ a, o = .returned a → Post a

theorem Upholds.weaken {p : Prog A ε σ α} {Post' : α → Prop} (hp : Upholds K Inv p Post)
    (hpost : ∀ a, Post a → Post' a) : Upholds K Inv p Post' := by
  intro s o s' t hs hrun
  obtain ⟨hs', hasks, hreturned⟩ := hp s o s' t hs hrun
  exact ⟨hs', hasks, fun a ho => hpost a (hreturned a ho)⟩

theorem Upholds.mono {p : Prog A ε σ α} {K' : Q → Prop} (hp : Upholds K Inv p Post)
    (hK : ∀ q, K q → K' q) : Upholds K' Inv p Post := by
  intro s o s' t hs hrun
  obtain ⟨hs', hasks, hreturned⟩ := hp s o s' t hs hrun
  exact ⟨hs', fun c hc => hK _ (hasks c hc), hreturned⟩

/-- A program that is bound by its queries alone. -/
theorem CallsOnly.upholds {p : Prog A ε σ α} (hp : CallsOnly K p) :
    Upholds K (fun _ => True) p fun _ => True :=
  fun s o s' t _ hrun => ⟨trivial, hp s o s' t hrun, fun _ _ => trivial⟩

theorem upholds_ret {a : α} (ha : Post a) : Upholds K Inv (ret a : Prog A ε σ α) Post := by
  intro s o s' t hs hrun
  obtain ⟨rfl, rfl, rfl⟩ := runs_ret.1 hrun
  refine ⟨hs, by simp, fun b hb => ?_⟩
  cases hb
  exact ha

theorem upholds_raise (e : ε) : Upholds K Inv (raise e : Prog A ε σ α) Post := by
  intro s o s' t hs hrun
  obtain ⟨rfl, rfl, rfl⟩ := runs_raise.1 hrun
  exact ⟨hs, by simp, fun b hb => nomatch hb⟩

theorem upholds_modify {f : σ → σ} (hf : ∀ s, Inv s → Inv (f s)) :
    Upholds K Inv (modify f : Prog A ε σ Unit) fun _ => True := by
  intro s o s' t hs hrun
  obtain ⟨-, rfl, rfl⟩ := runs_modify.1 hrun
  exact ⟨hf s hs, by simp, fun _ _ => trivial⟩

theorem upholds_call {q : Q} (hq : K q) :
    Upholds K Inv (call q : Prog A ε σ (A q)) fun _ => True :=
  fun s o s' t hs hrun =>
    ⟨hrun.call_cases.1 ▸ hs, callsOnly_call hq s o s' t hrun, fun _ _ => trivial⟩

theorem upholds_ofExcept {x : Except ε α} (hx : ∀ a, x = .ok a → Post a) :
    Upholds K Inv (ofExcept x : Prog A ε σ α) Post := by
  cases x with
  | ok a => exact upholds_ret (hx a rfl)
  | error e => exact upholds_raise e

theorem Upholds.bind {p : Prog A ε σ α} {f : α → Prog A ε σ β} {Post' : β → Prop}
    (hp : Upholds K Inv p Post) (hf : ∀ a, Post a → Upholds K Inv (f a) Post') :
    Upholds K Inv (p >>= f) Post' := by
  intro s o s' t hs hrun
  rcases hrun.bind_cases with ⟨a, s₁, t₁, t₂, h₁, h₂, rfl⟩ | ⟨e, h₁, rfl⟩ | ⟨h₁, rfl⟩
  · obtain ⟨hs₁, hasks₁, hpost⟩ := hp _ _ _ _ hs h₁
    obtain ⟨hs', hasks₂, hreturned⟩ := hf a (hpost a rfl) _ _ _ _ hs₁ h₂
    refine ⟨hs', fun c hc => ?_, hreturned⟩
    rcases List.mem_append.1 hc with hc | hc
    · exact hasks₁ c hc
    · exact hasks₂ c hc
  · obtain ⟨hs', hasks, -⟩ := hp _ _ _ _ hs h₁
    exact ⟨hs', hasks, fun b hb => nomatch hb⟩
  · obtain ⟨hs', hasks, -⟩ := hp _ _ _ _ hs h₁
    exact ⟨hs', hasks, fun b hb => nomatch hb⟩

/-- The state that is read is one with the invariant. -/
theorem Upholds.get_bind {σ : Type v} {Inv : σ → Prop} {f : σ → Prog A ε σ α}
    (hf : ∀ s, Inv s → Upholds K Inv (f s) Post) : Upholds K Inv (get >>= f) Post :=
  fun s o s' t hs hrun => hf s hs s o s' t hs hrun.get_bind

theorem Upholds.attempt {p : Prog A ε σ α} (hp : Upholds K Inv p Post) :
    Upholds K Inv (Prog.attempt p) fun r => ∀ a, r = .ok a → Post a := by
  intro s o s' t hs hrun
  rcases hrun.attempt_cases with ⟨a, hp', rfl⟩ | ⟨e, hp', rfl⟩ | ⟨hp', rfl⟩
  · obtain ⟨hs', hasks, hpost⟩ := hp _ _ _ _ hs hp'
    refine ⟨hs', hasks, fun r hr b hb => ?_⟩
    cases hr
    cases hb
    exact hpost a rfl
  · obtain ⟨hs', hasks, -⟩ := hp _ _ _ _ hs hp'
    refine ⟨hs', hasks, fun r hr b hb => ?_⟩
    cases hr
    cases hb
  · obtain ⟨hs', hasks, -⟩ := hp _ _ _ _ hs hp'
    exact ⟨hs', hasks, fun r hr => nomatch hr⟩

theorem Upholds.ensuring {p : Prog A ε σ α} {f : σ → σ} (hp : Upholds K Inv p Post)
    (hf : ∀ s, Inv s → Inv (f s)) : Upholds K Inv (Prog.ensuring p f) Post := by
  intro s o s' t hs hrun
  rcases hrun.ensuring_cases with ⟨s₁, hp', -, rfl⟩ | ⟨hp', rfl⟩
  · obtain ⟨hs₁, hasks, hpost⟩ := hp _ _ _ _ hs hp'
    exact ⟨hf s₁ hs₁, hasks, hpost⟩
  · exact hp _ _ _ _ hs hp'

/-- A part of the state with an invariant of its own. -/
theorem Upholds.zoom {view : σ → τ} {put : σ → τ → σ} {p : Prog A ε τ α} {Inv' : τ → Prop}
    (hp : Upholds K Inv' p Post) (hview : ∀ s, Inv s → Inv' (view s))
    (hput : ∀ s b, Inv s → Inv' b → Inv (put s b)) :
    Upholds K Inv (Prog.zoom view put p) Post := by
  intro s o s' t hs hrun
  obtain ⟨b, hp', rfl⟩ := hrun.zoom_cases
  obtain ⟨hb, hasks, hpost⟩ := hp _ _ _ _ (hview s hs) hp'
  exact ⟨hput s b hs hb, hasks, hpost⟩

end Prog

namespace ThreadCode

open Prog

variable {Q : Type*} {A : Q → Type*} {ε S L I Tid : Type*} [DecidableEq Tid]
  {code : ThreadCode A ε S L I} {initial : Threads Tid S L → Prop} {K : Q → Prop}
  {Inv : S → Prop} {P : L → Prop}

/-- An invariant of the shared state and one of the local states. -/
structure Holds (Inv : S → Prop) (P : L → Prop) (x : Threads Tid S L) : Prop where
  shared : Inv x.shared
  thread : ∀ t, P (x.thread t)

/-- What one turn preserves, and what it asks. -/
theorem step_upholds (hturn : ∀ l i, P l → Upholds K Inv (code.turn l i) P)
    (hhalted : P code.halted) {x x' : Threads Tid S L} {e : Turn A ε Tid L I}
    (hx : Holds Inv P x) (hstep : code.Step x e x') :
    Holds Inv P x' ∧ ∀ c ∈ e.trace, K c.query := by
  obtain ⟨hrun, hthread⟩ := hstep
  obtain ⟨hshared, hasks, hreturned⟩ :=
    hturn _ e.input (hx.thread e.tid) _ _ _ _ hx.shared hrun
  have hnext : P (code.next e.outcome) := by
    cases ho : e.outcome with
    | returned l => exact hreturned l ho
    | raised err => exact hhalted
    | pending => exact hhalted
  refine ⟨⟨hshared, fun t => ?_⟩, hasks⟩
  rw [hthread]
  by_cases ht : t = e.tid
  · rw [ht, Function.update_self]
    exact hnext
  · rw [Function.update_of_ne ht]
    exact hx.thread t

/-- What a whole run preserves, and what it asks. -/
theorem run_upholds (hturn : ∀ l i, P l → Upholds K Inv (code.turn l i) P)
    (hhalted : P code.halted) {x x' : Threads Tid S L} {es : List (Turn A ε Tid L I)}
    (hx : Holds Inv P x) (hrun : (code.system initial).Run x es x') :
    Holds Inv P x' ∧ ∀ e ∈ es, ∀ c ∈ e.trace, K c.query := by
  induction hrun with
  | nil x => exact ⟨hx, by simp⟩
  | @cons x x₁ x' e es hstep hrest ih =>
      obtain ⟨hx₁, hasks⟩ := step_upholds hturn hhalted hx hstep
      obtain ⟨hx', hrest⟩ := ih hx₁
      refine ⟨hx', fun e' he' => ?_⟩
      rcases List.mem_cons.1 he' with rfl | he'
      · exact hasks
      · exact hrest e' he'

end ThreadCode

end Interaction
