import YwdTnc.Interaction.Projection

/-!
# What a system can always get to

A variant of a system is a number that some step makes smaller wherever the goal is not
reached. From there on the goal is at most that many steps away (`leads_of_variant`).
-/

namespace Interaction

namespace System

/-- The states of `goal` can be reached from `s` in at most `bound` steps. -/
def Leads {S L : Type*} (sys : System S L) (s : S) (bound : ℕ) (goal : S → Prop) : Prop :=
  ∃ ls s', sys.Run s ls s' ∧ ls.length ≤ bound ∧ goal s'

variable {S L : Type*} {sys : System S L} {s : S} {goal : S → Prop}

theorem Leads.of_goal (h : goal s) (bound : ℕ) : sys.Leads s bound goal :=
  ⟨[], s, .nil s, Nat.zero_le _, h⟩

theorem Leads.cons {s' : S} {l : L} {bound : ℕ} (hstep : sys.step s l s')
    (h : sys.Leads s' bound goal) : sys.Leads s (bound + 1) goal := by
  obtain ⟨ls, s'', hrun, hlength, hgoal⟩ := h
  exact ⟨l :: ls, s'', .cons hstep hrun, Nat.succ_le_succ hlength, hgoal⟩

theorem Leads.mono {bound bound' : ℕ} (h : sys.Leads s bound goal) (hle : bound ≤ bound') :
    sys.Leads s bound' goal := by
  obtain ⟨ls, s', hrun, hlength, hgoal⟩ := h
  exact ⟨ls, s', hrun, Nat.le_trans hlength hle, hgoal⟩

/-- The rule of variants: an invariant, and a step that makes the variant smaller. -/
theorem leads_of_variant {I : S → Prop} (variant : S → ℕ)
    (hstep : ∀ s, I s → goal s ∨ ∃ l s', sys.step s l s' ∧ I s' ∧ variant s' < variant s)
    (hs : I s) : sys.Leads s (variant s) goal := by
  generalize hn : variant s = n
  induction n using Nat.strongRecOn generalizing s with
  | _ n ih =>
      rcases hstep s hs with hgoal | ⟨l, s', hs', hinv, hless⟩
      · exact .of_goal hgoal n
      · rw [hn] at hless
        exact (Leads.cons hs' (ih _ hless hinv rfl)).mono hless

end System

end Interaction
