import YwdTnc.Interaction.Transition
import Mathlib.Data.List.Basic

/-!
# Projections of transition systems

A component of a system as a system of its own: the projection of a state is the state of the
component, and a step is either a step of the component or leaves it where it is. The labels
that the component takes no part in disappear from a run (`Projection.run`), and what holds of
every run of the component holds of it within the system.
-/

namespace Interaction

namespace System

theorem Run.append {S L : Type*} {sys : System S L} {s s' s'' : S} {ls ls' : List L}
    (h : sys.Run s ls s') (h' : sys.Run s' ls' s'') : sys.Run s (ls ++ ls') s'' := by
  induction h with
  | nil s => exact h'
  | cons hstep _ ih => exact .cons hstep (ih h')

/-- The induction over runs from their beginning. -/
theorem Run.traced_nil {S L : Type*} {sys : System S L} {I : List L → S → Prop}
    (hstep : ∀ ls s l s', I ls s → sys.step s l s' → I (ls ++ [l]) s') {s s' : S} {ls : List L}
    (h : sys.Run s ls s') (hs : I [] s) : I ls s' := by
  have hrun := Run.traced hstep h hs
  rwa [List.nil_append] at hrun

theorem Reachable.run {S L : Type*} {sys : System S L} {s s' : S} {ls : List L}
    (hs : sys.Reachable s) (h : sys.Run s ls s') : sys.Reachable s' := by
  induction h with
  | nil s => exact hs
  | cons hstep _ ih => exact ih (hs.step hstep)

/-- A step of the component, or none. -/
def Follows {S L : Type*} (sys : System S L) (s : S) : Option L → S → Prop
  | some l, s' => sys.step s l s'
  | none, s' => s' = s

theorem follows_none {S L : Type*} {sys : System S L} {s s' : S} (h : s' = s) :
    sys.Follows s none s' :=
  h

/-- A step of the component that meets a condition. -/
theorem Follows.restrict {S L : Type*} {sys : System S L} {guard : S → L → Prop} {s s' : S}
    {l : Option L} (h : sys.Follows s l s') (hguard : ∀ l', l = some l' → guard s l') :
    (sys.restrict guard).Follows s l s' := by
  cases l with
  | none => exact h
  | some l => exact ⟨h, hguard l rfl⟩

structure Projection {S L S' L' : Type*} (sys : System S L) (sys' : System S' L') where
  state : S → S'
  label : L → Option L'
  initial : ∀ s, sys.initial s → sys'.initial (state s)
  step : ∀ s l s', sys.Reachable s → sys.step s l s' →
    sys'.Follows (state s) (label l) (state s')

namespace Projection

variable {S L S' L' : Type*} {sys : System S L} {sys' : System S' L'}

theorem run (p : Projection sys sys') {s s' : S} {ls : List L} (hs : sys.Reachable s)
    (h : sys.Run s ls s') : sys'.Run (p.state s) (ls.filterMap p.label) (p.state s') := by
  induction h with
  | nil s => exact .nil _
  | @cons s s₁ s₂ l ls hstep _ ih =>
      have hrest := ih (hs.step hstep)
      have hfollows := p.step s l s₁ hs hstep
      cases hl : p.label l with
      | none =>
          rw [hl] at hfollows
          rw [List.filterMap_cons_none hl, ← show p.state s₁ = p.state s from hfollows]
          exact hrest
      | some l' =>
          rw [hl] at hfollows
          rw [List.filterMap_cons_some hl]
          exact .cons hfollows hrest

end Projection

end System

end Interaction
