import YwdTnc.Interaction.Prog

/-!
# Programs that end

A run uses one answer of its script for each query that is answered, and it is pending only
when the script is used up, as long as every round of a loop asks something. A bound on the
answers that a program uses therefore makes it end on every longer script.
-/

namespace Interaction

namespace Prog

universe v

variable {Q : Type*} {A : Q → Type*} {ε σ : Type*} {α β : Type v}

/-- The answered queries of a trace. -/
def answered (t : List (Call A ε)) : ℕ := t.countP fun c => c.answer.isSome

@[simp] theorem answered_nil : answered ([] : List (Call A ε)) = 0 := rfl

@[simp] theorem answered_append (t t' : List (Call A ε)) :
    answered (t ++ t') = answered t + answered t' := List.countP_append

@[simp] theorem answered_cons_some (q : Q) (x : Except ε (A q)) (t : List (Call A ε)) :
    answered (⟨q, some x⟩ :: t) = answered t + 1 := List.countP_cons_of_pos rfl

@[simp] theorem answered_cons_none (q : Q) (t : List (Call A ε)) :
    answered (⟨q, none⟩ :: t) = answered t := List.countP_cons_of_neg (by simp)

/-- What a run from this state leaves of this script. -/
structure Uses (p : Prog A ε σ α) (s : σ) (env : Script A ε) : Prop where
  used : answered (p.run s env).trace + (p.run s env).rest.length = env.length
  pending : (p.run s env).outcome = .pending → (p.run s env).rest = []

/-- Every run uses its script and is pending only at the end of it. -/
def Exhausts (p : Prog A ε σ α) : Prop := ∀ s env, Uses p s env

/-- A program that uses few answers is over when the script is longer. -/
theorem Exhausts.not_pending {p : Prog A ε σ α} (h : Exhausts p) {s : σ} {env : Script A ε}
    {n : ℕ} (hfew : answered (p.run s env).trace ≤ n) (hlong : n < env.length) :
    (p.run s env).outcome ≠ .pending := by
  intro hpending
  have hused := (h s env).used
  rw [(h s env).pending hpending, List.length_nil] at hused
  omega

theorem exhausts_ret (a : α) : Exhausts (ret a : Prog A ε σ α) := fun _ env =>
  ⟨Nat.zero_add env.length, fun h => nomatch h⟩

theorem exhausts_raise (e : ε) : Exhausts (raise e : Prog A ε σ α) := fun _ env =>
  ⟨Nat.zero_add env.length, fun h => nomatch h⟩

theorem exhausts_modify (f : σ → σ) : Exhausts (modify f : Prog A ε σ Unit) := fun _ env =>
  ⟨Nat.zero_add env.length, fun h => nomatch h⟩

theorem exhausts_call (q : Q) : Exhausts (call q : Prog A ε σ (A q)) := by
  intro s env
  cases env with
  | nil => exact ⟨rfl, fun _ => rfl⟩
  | cons answer env =>
      cases hanswer : answer q with
      | ok a =>
          constructor
          · simp [call, hanswer, Nat.add_comm]
          · simp [call, hanswer]
      | error e =>
          constructor
          · simp [call, hanswer, Nat.add_comm]
          · simp [call, hanswer]

/-- The rule of a sequence, at one state and script. -/
theorem Uses.andThen {p : Prog A ε σ α} {f : α → Prog A ε σ β} {s : σ} {env : Script A ε}
    (hp : Uses p s env)
    (hf : ∀ a, (p.run s env).outcome = .returned a →
      Uses (f a) (p.run s env).state (p.run s env).rest) : Uses (andThen p f) s env := by
  obtain ⟨hused, hpending⟩ := hp
  rcases hrun : p.run s env with ⟨o, s₁, env₁, t₁⟩
  rw [hrun] at hused hpending hf
  cases o with
  | returned a =>
      obtain ⟨hused', hpending'⟩ := hf a rfl
      constructor
      · simp only [Prog.andThen, hrun, answered_append]
        dsimp only at hused hused'
        omega
      · simp only [Prog.andThen, hrun]
        exact hpending'
  | raised e =>
      constructor
      · simpa only [Prog.andThen, hrun] using hused
      · simp [Prog.andThen, hrun]
  | pending =>
      constructor
      · simpa only [Prog.andThen, hrun] using hused
      · simp only [Prog.andThen, hrun]
        exact fun _ => hpending rfl

theorem Exhausts.bind {p : Prog A ε σ α} {f : α → Prog A ε σ β} (hp : Exhausts p)
    (hf : ∀ a, Exhausts (f a)) : Exhausts (p >>= f) := fun s env =>
  (hp s env).andThen fun a _ => hf a _ _

/-- The induction on the rounds that are left: each of them takes an answer away, so there are
enough for the script. -/
theorem uses_go {body : Prog A ε σ (Option β)} (hbody : Exhausts body)
    (hasks : ∀ s s₁ t, Runs body s (.returned none) s₁ t → 0 < answered t) (n : ℕ) :
    ∀ {s : σ} {env : Script A ε}, env.length < n → Uses (iterate.go body n) s env := by
  induction n with
  | zero =>
      intro s env hlength
      omega
  | succ n ih =>
      intro s env hlength
      refine (hbody s env).andThen fun result hresult => ?_
      cases result with
      | some b => exact exhausts_ret b _ _
      | none =>
          apply ih
          have hused := (hbody s env).used
          have hpos := hasks s (body.run s env).state (body.run s env).trace
            (hresult ▸ Runs.of_eq rfl)
          omega

/-- The rule of a loop. -/
theorem Exhausts.iterate {body : Prog A ε σ (Option β)} (hbody : Exhausts body)
    (hasks : ∀ s s₁ t, Runs body s (.returned none) s₁ t → 0 < answered t) :
    Exhausts (iterate body) := fun _ env =>
  have huses := uses_go hbody hasks (env.length + 1) (Nat.lt_succ_self _)
  ⟨huses.used, huses.pending⟩

end Prog

end Interaction
