import YwdTnc.Interaction.Prog
import YwdTnc.Interaction.Projection

/-!
# Systems that answer a program

A program makes calls and a transition system answers them, taking steps of its own before and
between the answers. `Serves s t ls s'` says that the system, from `s` on, has answered the
trace `t` and has got to `s'` over the labels `ls`. A trace is taken apart with the run that
answers it (`append_cases`, `cons_cases`), and what the steps and the answers keep is kept by
the whole service (`invariant`).
-/

namespace Interaction

universe u

/-- `answers s c ls s'` says that the call `c` is answered from `s` on, over the labels `ls`. -/
structure Server (S L : Type*) {Q : Type*} (A : Q → Type u) (ε : Type*) where
  system : System S L
  /-- The steps that no call asks for. -/
  spontaneous : S → L → Prop
  answers : S → Call A ε → List L → S → Prop
  run_of_answers : ∀ {s c ls s'}, answers s c ls s' → system.Run s ls s'

namespace Server

variable {S L Q : Type*} {A : Q → Type u} {ε : Type*} (server : Server S L A ε)

inductive Serves : S → List (Call A ε) → List L → S → Prop
  | nil (s : S) : Serves s [] [] s
  | step {s s₁ s' : S} {t : List (Call A ε)} {l : L} {ls : List L}
      (hstep : server.system.step s l s₁) (hspontaneous : server.spontaneous s l)
      (h : Serves s₁ t ls s') : Serves s t (l :: ls) s'
  | call {s s₁ s' : S} {c : Call A ε} {t : List (Call A ε)} {ls ls' : List L}
      (hanswers : server.answers s c ls s₁) (h : Serves s₁ t ls' s') :
      Serves s (c :: t) (ls ++ ls') s'

variable {server} {s s' : S} {t t' : List (Call A ε)} {ls : List L}

theorem Serves.run (h : server.Serves s t ls s') : server.system.Run s ls s' := by
  induction h with
  | nil s => exact .nil s
  | step hstep _ _ ih => exact .cons hstep ih
  | call hanswers _ ih => exact (server.run_of_answers hanswers).append ih

/-- Two traces one behind the other are answered one behind the other. -/
theorem Serves.append_cases (h : server.Serves s (t ++ t') ls s') :
    ∃ ls₁ ls₂ s₁, ls = ls₁ ++ ls₂ ∧ server.Serves s t ls₁ s₁ ∧ server.Serves s₁ t' ls₂ s' := by
  generalize hboth : t ++ t' = both at h
  induction h generalizing t with
  | nil s =>
      obtain ⟨rfl, rfl⟩ := List.append_eq_nil_iff.mp hboth
      exact ⟨[], [], s, rfl, .nil s, .nil s⟩
  | step hstep hspontaneous _ ih =>
      obtain ⟨ls₁, ls₂, s₁, rfl, hfirst, hsecond⟩ := ih hboth
      exact ⟨_ :: ls₁, ls₂, s₁, rfl, .step hstep hspontaneous hfirst, hsecond⟩
  | @call s s₁ s' c rest ls ls' hanswers hserves ih =>
      cases t with
      | nil =>
          rw [List.nil_append] at hboth
          exact ⟨[], ls ++ ls', s, rfl, .nil s, hboth ▸ .call hanswers hserves⟩
      | cons c' t =>
          cases hboth
          obtain ⟨ls₁, ls₂, s₂, rfl, hfirst, hsecond⟩ := ih rfl
          exact ⟨ls ++ ls₁, ls₂, s₂, (List.append_assoc _ _ _).symm, .call hanswers hfirst, hsecond⟩

/-- A call is answered behind steps that nobody has asked for. -/
theorem Serves.cons_cases {c : Call A ε} (h : server.Serves s (c :: t) ls s') :
    ∃ before answer after s₁ s₂, ls = before ++ answer ++ after ∧
      (server.system.restrict server.spontaneous).Run s before s₁ ∧
      server.answers s₁ c answer s₂ ∧ server.Serves s₂ t after s' := by
  generalize hcalls : c :: t = calls at h
  induction h with
  | nil s => cases hcalls
  | step hstep hspontaneous _ ih =>
      obtain ⟨before, answer, after, s₁, s₂, rfl, hbefore, hanswers, hafter⟩ := ih hcalls
      exact ⟨_ :: before, answer, after, s₁, s₂, rfl, .cons ⟨hstep, hspontaneous⟩ hbefore, hanswers,
        hafter⟩
  | call hanswers hserves =>
      cases hcalls
      exact ⟨[], _, _, _, _, rfl, .nil _, hanswers, hserves⟩

/-- Without calls the system goes on by itself. -/
theorem Serves.of_nil (h : server.Serves s [] ls s') :
    (server.system.restrict server.spontaneous).Run s ls s' := by
  generalize hcalls : ([] : List (Call A ε)) = calls at h
  induction h with
  | nil s => exact .nil s
  | step hstep hspontaneous _ ih => exact .cons ⟨hstep, hspontaneous⟩ (ih hcalls)
  | call => cases hcalls

/-- What its own steps and the answers to these calls keep. -/
theorem Serves.invariant {I : S → Prop}
    (hstep : ∀ s l s', I s → server.system.step s l s' → server.spontaneous s l → I s')
    (hcall : ∀ s c ls s', c ∈ t → I s → server.answers s c ls s' → I s')
    (h : server.Serves s t ls s') (hs : I s) : I s' := by
  induction h with
  | nil s => exact hs
  | step hs₁ hspontaneous _ ih => exact ih hcall (hstep _ _ _ hs hs₁ hspontaneous)
  | @call s s₁ s' c t ls ls' hanswers _ ih =>
      exact ih (fun s c' ls s' hc => hcall s c' ls s' (List.mem_cons_of_mem c hc))
        (hcall _ _ _ _ List.mem_cons_self hs hanswers)

/-- What holds of the labels of its own steps and of these answers. -/
theorem Serves.labels {P : L → Prop} (hstep : ∀ s l, server.spontaneous s l → P l)
    (hcall : ∀ s c ls s', c ∈ t → server.answers s c ls s' → ∀ l ∈ ls, P l)
    (h : server.Serves s t ls s') : ∀ l ∈ ls, P l := by
  induction h with
  | nil s => exact fun l hl => nomatch hl
  | step hs₁ hspontaneous _ ih =>
      intro l hl
      rcases List.mem_cons.mp hl with rfl | hl
      · exact hstep _ _ hspontaneous
      · exact ih hcall l hl
  | @call s s₁ s' c t ls ls' hanswers _ ih =>
      intro l hl
      rcases List.mem_append.mp hl with hl | hl
      · exact hcall _ _ _ _ List.mem_cons_self hanswers l hl
      · exact ih (fun s c' ls s' hc => hcall s c' ls s' (List.mem_cons_of_mem c hc)) l hl

end Server

end Interaction
