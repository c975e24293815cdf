import YwdTnc.Interaction.Environment
import YwdTnc.Interaction.Transition
import Mathlib.Logic.Function.Basic

/-!
# Threads over a shared state

Any number of threads with local states `L` over one shared state `S`. A turn of
a thread is a program over the shared state, chosen by the local state and an
input; it is not interrupted, and the value it returns is the next local state.
Turns are taken in any order. A thread whose program raises, or waits for its
environment for ever, is halted.
-/

namespace Interaction

structure ThreadCode {Q : Type*} (A : Q → Type*) (ε S L I : Type*) where
  turn : L → I → Prog A ε S L
  halted : L

structure Threads (Tid S L : Type*) where
  shared : S
  thread : Tid → L

/-- One turn: who took it, with which input, and what came of it. -/
structure Turn {Q : Type*} (A : Q → Type*) (ε Tid L I : Type*) where
  tid : Tid
  input : I
  outcome : Outcome ε L
  trace : List (Call A ε)

namespace ThreadCode

open Prog

variable {Q : Type*} {A : Q → Type*} {ε S L I Tid W : Type*} [DecidableEq Tid]

def next (code : ThreadCode A ε S L I) : Outcome ε L → L
  | .returned l => l
  | .raised _ | .pending => code.halted

def Step (code : ThreadCode A ε S L I) (s : Threads Tid S L) (e : Turn A ε Tid L I)
    (s' : Threads Tid S L) : Prop :=
  Runs (code.turn (s.thread e.tid) e.input) s.shared e.outcome s'.shared e.trace ∧
    s'.thread = Function.update s.thread e.tid (code.next e.outcome)

def system (code : ThreadCode A ε S L I) (initial : Threads Tid S L → Prop) :
    System (Threads Tid S L) (Turn A ε Tid L I) where
  initial := initial
  step := code.Step

/-- The threads in an environment that keeps its promises and answers every
query, so that every turn comes to its end. -/
def within (code : ThreadCode A ε S L I) (env : Environment A ε W)
    (initial : Threads Tid S L × W → Prop) :
    System (Threads Tid S L × W) (Turn A ε Tid L I) where
  initial := initial
  step x e x' := code.Step x.1 e x'.1 ∧ e.outcome ≠ .pending ∧
    env.run x.2 e.trace = some x'.2

variable {code : ThreadCode A ε S L I} {env : Environment A ε W}
  {initial : Threads Tid S L × W → Prop}

/-- A condition on turns: on the shared state, the local state and the input. -/
def meets (guard : S → L → I → Prop) (x : Threads Tid S L × W) (e : Turn A ε Tid L I) :
    Prop :=
  guard x.1.shared (x.1.thread e.tid) e.input

/-- What every turn keeps, of the shared state and of the local states, holds in
every state that turns meeting the condition reach. -/
theorem within_invariant {Inv : S → W → Prop} {P : L → Prop} {guard : S → L → I → Prop}
    (hinitial : ∀ x, initial x → Inv x.1.shared x.2 ∧ ∀ t, P (x.1.thread t))
    (hturn : ∀ l i, P l → Triple env (fun s w => Inv s w ∧ guard s l i) (code.turn l i)
      fun l' s w => Inv s w ∧ P l')
    {x : Threads Tid S L × W}
    (h : ((code.within env initial).restrict (meets guard)).Reachable x) :
    Inv x.1.shared x.2 ∧ ∀ t, P (x.1.thread t) := by
  refine h.invariant hinitial ?_
  rintro x e x' - ⟨hinv, hlocal⟩ ⟨⟨⟨hrun, hthread⟩, hover, henv⟩, hguard⟩
  obtain ⟨hraised, hreturned⟩ := hturn _ e.input (hlocal e.tid) _ _ _ _ _ _
    ⟨hinv, hguard⟩ hrun henv
  cases houtcome : e.outcome with
  | returned l =>
      obtain ⟨hinv', hl⟩ := hreturned l houtcome
      refine ⟨hinv', fun t => ?_⟩
      rw [hthread, houtcome]
      by_cases ht : t = e.tid
      · rw [ht, Function.update_self]
        exact hl
      · rw [Function.update_of_ne ht]
        exact hlocal t
  | raised err => exact absurd houtcome (hraised err)
  | pending => exact absurd houtcome hover

/-! ### Playing turns -/

/-- A turn with its answers, if it comes to its end and the environment answers
like that. -/
def playTurn (code : ThreadCode A ε S L I) (env : Environment A ε W)
    (x : Threads Tid S L × W) (t : Tid) (i : I) (script : Script A ε) :
    Option (Threads Tid S L × W) :=
  let r := (code.turn (x.1.thread t) i).run x.1.shared script
  match r.outcome with
  | .pending => none
  | o =>
      (env.run x.2 r.trace).map fun w =>
        (⟨r.state, Function.update x.1.thread t (code.next o)⟩, w)

/-- Turns one after the other, each of which must pass the check `ok`. -/
def play (code : ThreadCode A ε S L I) (env : Environment A ε W) (ok : S → L → I → Bool) :
    Threads Tid S L × W → List (Tid × I × Script A ε) → Option (Threads Tid S L × W)
  | x, [] => some x
  | x, (t, i, script) :: rest =>
      if ok x.1.shared (x.1.thread t) i then
        (code.playTurn env x t i script).bind fun x' => code.play env ok x' rest
      else none

theorem step_of_playTurn (initial : Threads Tid S L × W → Prop)
    {x x' : Threads Tid S L × W} {t : Tid} {i : I} {script : Script A ε}
    (h : code.playTurn env x t i script = some x') :
    ∃ e : Turn A ε Tid L I, e.tid = t ∧ e.input = i ∧
      (code.within env initial).step x e x' := by
  unfold playTurn at h
  generalize hr : (code.turn (x.1.thread t) i).run x.1.shared script = r at h
  have hrun := Runs.of_eq hr
  dsimp only at h
  have hover : r.outcome ≠ .pending := by
    intro hpending
    rw [hpending] at h
    cases h
  have hmap : (env.run x.2 r.trace).map (fun w =>
      ((⟨r.state, Function.update x.1.thread t (code.next r.outcome)⟩, w) :
        Threads Tid S L × W)) = some x' := by
    cases houtcome : r.outcome with
    | returned l =>
        rw [houtcome] at h
        exact h
    | raised e =>
        rw [houtcome] at h
        exact h
    | pending => exact absurd houtcome hover
  rw [Option.map_eq_some_iff] at hmap
  obtain ⟨w, henv, rfl⟩ := hmap
  exact ⟨⟨t, i, r.outcome, r.trace⟩, rfl, rfl, ⟨hrun, rfl⟩, hover, henv⟩

theorem reachable_of_play (guard : S → L → I → Prop) {ok : S → L → I → Bool}
    (hok : ∀ s l i, ok s l i = true → guard s l i)
    {turns : List (Tid × I × Script A ε)} : ∀ {x x' : Threads Tid S L × W},
      ((code.within env initial).restrict (meets guard)).Reachable x →
        code.play env ok x turns = some x' →
          ((code.within env initial).restrict (meets guard)).Reachable x' := by
  induction turns with
  | nil =>
      intro x x' hx h
      cases h
      exact hx
  | cons turn turns ih =>
      intro x x' hx h
      obtain ⟨t, i, script⟩ := turn
      rw [play] at h
      split at h
      case isFalse => cases h
      case isTrue hpassed =>
        rw [Option.bind_eq_some_iff] at h
        obtain ⟨x₁, hturn, hrest⟩ := h
        obtain ⟨e, rfl, rfl, hstep⟩ := step_of_playTurn initial hturn
        exact ih (hx.step ⟨hstep, hok _ _ _ hpassed⟩) hrest

/-! ### Turns without an environment -/

/-- The turn of a thread on a script, and the threads after it. -/
def take (code : ThreadCode A ε S L I) (x : Threads Tid S L) (t : Tid) (i : I)
    (script : Script A ε) : Turn A ε Tid L I × Threads Tid S L :=
  let r := (code.turn (x.thread t) i).run x.shared script
  (⟨t, i, r.outcome, r.trace⟩, ⟨r.state, Function.update x.thread t (code.next r.outcome)⟩)

def takes (code : ThreadCode A ε S L I) (x : Threads Tid S L) :
    List (Tid × I × Script A ε) → List (Turn A ε Tid L I) × Threads Tid S L
  | [] => ([], x)
  | (t, i, script) :: rest =>
      let (e, x') := code.take x t i script
      let (es, x'') := code.takes x' rest
      (e :: es, x'')

theorem run_takes (initial : Threads Tid S L → Prop) (turns : List (Tid × I × Script A ε)) :
    ∀ x : Threads Tid S L,
      (code.system initial).Run x (code.takes x turns).1 (code.takes x turns).2 := by
  induction turns with
  | nil => exact .nil
  | cons turn turns ih =>
      intro x
      obtain ⟨t, i, script⟩ := turn
      have hstep : code.Step x (code.take x t i script).1 (code.take x t i script).2 :=
        ⟨Runs.of_eq rfl, rfl⟩
      exact .cons hstep (ih _)

end ThreadCode

end Interaction
