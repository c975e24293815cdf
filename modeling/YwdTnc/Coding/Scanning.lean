import Mathlib.Data.List.Basic
import Mathlib.Data.Nat.Notation

/-!
# Scanning for a first result

A machine that reads a stream letter by letter and stops at its first result. It
can be stopped and continued anywhere, two machines that make the same steps find
the same, and what holds of the machine along the way holds of the letters that it
has read.
-/

namespace Coding

variable {σ α β : Type*} (step : σ → α → σ × Option β)

/-- Read letters until there is a result. -/
def scan (s : σ) : List α → σ × Option β
  | [] => (s, none)
  | x :: xs =>
      match step s x with
      | (s', none) => scan s' xs
      | (s', some b) => (s', some b)

@[simp] theorem scan_nil (s : σ) : scan step s [] = (s, none) := rfl

theorem scan_append (s : σ) (xs ys : List α) :
    scan step s (xs ++ ys) =
      match scan step s xs with
      | (s', none) => scan step s' ys
      | (s', some b) => (s', some b) := by
  induction xs generalizing s with
  | nil => rfl
  | cons x xs ih =>
      rw [List.cons_append, scan, scan]
      rcases step s x with ⟨s', _ | b⟩
      · exact ih s'
      · rfl

variable {step} {step' : σ → α → σ × Option β}

/-- `Seen xs s` says what the machine is in after the letters `xs` without a result,
and `Found xs b` what it has found after them. -/
theorem scan_cases (Seen : List α → σ → Prop) (Found : List α → β → Prop)
    (next : ∀ xs s x s', Seen xs s → step s x = (s', none) → Seen (xs ++ [x]) s')
    (found : ∀ xs s x s' b, Seen xs s → step s x = (s', some b) → Found (xs ++ [x]) b)
    (ys : List α) : ∀ {xs : List α} {s : σ}, Seen xs s →
      (∃ s', scan step s ys = (s', none) ∧ Seen (xs ++ ys) s') ∨
        ∃ s' b zs, scan step s ys = (s', some b) ∧ zs <+: ys ∧ Found (xs ++ zs) b := by
  induction ys with
  | nil =>
      intro xs s h
      exact .inl ⟨s, rfl, by rwa [List.append_nil]⟩
  | cons y ys ih =>
      intro xs s h
      rw [scan]
      rcases hstep : step s y with ⟨s', _ | b⟩
      · rcases ih (next xs s y s' h hstep) with ⟨s'', hscan, hseen⟩ | ⟨s'', b, zs, hscan, hzs, hb⟩
        · exact .inl ⟨s'', hscan, by simpa using hseen⟩
        · refine .inr ⟨s'', b, y :: zs, hscan, ?_, by simpa using hb⟩
          rwa [List.cons_prefix_cons, eq_self, true_and]
      · refine .inr ⟨s', b, [y], rfl, ?_, found xs s y s' b h hstep⟩
        exact ⟨ys, rfl⟩

/-- Two machines that make the same steps from the states that they reach. -/
theorem scan_congr (Reached : σ → Prop) (same : ∀ s x, Reached s → step s x = step' s x)
    (next : ∀ s x s', Reached s → step s x = (s', none) → Reached s') (xs : List α) {s : σ}
    (h : Reached s) : scan step s xs = scan step' s xs := by
  induction xs generalizing s with
  | nil => rfl
  | cons x xs ih =>
      rw [scan, scan, ← same s x h]
      rcases hstep : step s x with ⟨s', _ | b⟩
      · exact ih (next s x s' h hstep)
      · rfl

end Coding
