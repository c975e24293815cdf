import Mathlib.Data.Nat.Notation

/-!
# Labelled transition systems

A system of states `S` and labelled steps `L`, as a model of threads that take
their atomic steps in any order. What holds initially and is preserved by every
step holds of every reachable state; `restrict` keeps the steps that meet a
condition, and a run of the restricted system is a run of the system.
-/

namespace Interaction

structure System (S L : Type*) where
  initial : S → Prop
  step : S → L → S → Prop

namespace System

variable {S L : Type*} (sys : System S L)

inductive Reachable : S → Prop
  | initial {s : S} (h : sys.initial s) : Reachable s
  | step {s s' : S} {l : L} (h : Reachable s) (hstep : sys.step s l s') : Reachable s'

/-- A finite run with its labels, the first one in front. -/
inductive Run : S → List L → S → Prop
  | nil (s : S) : Run s [] s
  | cons {s s' s'' : S} {l : L} {ls : List L} (hstep : sys.step s l s')
      (h : Run s' ls s'') : Run s (l :: ls) s''

variable {sys}

/-- The induction over reachable states. -/
theorem Reachable.invariant {I : S → Prop} (hinitial : ∀ s, sys.initial s → I s)
    (hstep : ∀ s l s', sys.Reachable s → I s → sys.step s l s' → I s') {s : S}
    (h : sys.Reachable s) : I s := by
  induction h with
  | initial h => exact hinitial _ h
  | step h hs ih => exact hstep _ _ _ h ih hs

/-- The induction over runs, with the labels so far as part of what is kept. -/
theorem Run.traced {I : List L → S → Prop}
    (hstep : ∀ ls s l s', I ls s → sys.step s l s' → I (ls ++ [l]) s') {s s' : S}
    {before ls : List L} (h : sys.Run s ls s') (hbefore : I before s) : I (before ++ ls) s' := by
  induction h generalizing before with
  | nil s =>
      rw [List.append_nil]
      exact hbefore
  | @cons s s' s'' l ls hs _ ih =>
      have hnext := ih (hstep before s l s' hbefore hs)
      rw [List.append_assoc] at hnext
      exact hnext

/-- A run taken apart at one of its labels. -/
theorem Run.split {s s' : S} {before after : List L} {l : L}
    (h : sys.Run s (before ++ l :: after) s') :
    ∃ s₁ s₂, sys.Run s before s₁ ∧ sys.step s₁ l s₂ ∧ sys.Run s₂ after s' := by
  induction before generalizing s with
  | nil =>
      cases h with
      | cons hs hrest => exact ⟨s, _, .nil s, hs, hrest⟩
  | cons l' before ih =>
      cases h with
      | cons hs hrest =>
          obtain ⟨s₁, s₂, hbefore, hl, hafter⟩ := ih hrest
          exact ⟨s₁, s₂, .cons hs hbefore, hl, hafter⟩

variable (sys)

/-- The steps of `sys` that meet `guard`. -/
def restrict (guard : S → L → Prop) : System S L where
  initial := sys.initial
  step s l s' := sys.step s l s' ∧ guard s l

variable {sys}

theorem Reachable.of_restrict {guard : S → L → Prop} {s : S}
    (h : (sys.restrict guard).Reachable s) : sys.Reachable s := by
  induction h with
  | initial h => exact .initial h
  | step h hs ih => exact ih.step hs.1

theorem Run.of_restrict {guard : S → L → Prop} {s s' : S} {ls : List L}
    (h : (sys.restrict guard).Run s ls s') : sys.Run s ls s' := by
  induction h with
  | nil s => exact .nil s
  | cons hstep _ ih => exact .cons hstep.1 ih

end System

end Interaction
