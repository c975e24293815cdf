import Mathlib.Logic.Basic

/-!
# Computations that fail only in allowed ways

`FailsOnly P x` says that `x` returns, or fails with an error that `P` allows. A sequence
fails only in allowed ways when its parts do, and a later part may use what the earlier
ones returned.
-/

namespace Coding

universe u v

variable {ε : Type u} {α β : Type v} {P : ε → Prop}

def FailsOnly (P : ε → Prop) (x : Except ε α) : Prop := ∀ e, x = .error e → P e

theorem failsOnly_ok (a : α) : FailsOnly P (.ok a : Except ε α) := fun _ h => nomatch h

theorem failsOnly_error {e : ε} (h : P e) : FailsOnly P (.error e : Except ε α) := by
  intro e' he
  cases he
  exact h

theorem FailsOnly.bind {x : Except ε α} {f : α → Except ε β} (hx : FailsOnly P x)
    (hf : ∀ a, x = .ok a → FailsOnly P (f a)) : FailsOnly P (x >>= f) := by
  cases x with
  | error e => exact failsOnly_error (hx e rfl)
  | ok a => exact hf a rfl

theorem FailsOnly.ite {x y : Except ε α} {c : Prop} [Decidable c] (hx : c → FailsOnly P x)
    (hy : ¬ c → FailsOnly P y) : FailsOnly P (if c then x else y) := by
  by_cases h : c
  · simpa [h] using hx h
  · simpa [h] using hy h

theorem FailsOnly.mono {Q : ε → Prop} {x : Except ε α} (h : FailsOnly P x)
    (hPQ : ∀ e, P e → Q e) : FailsOnly Q x := fun e he => hPQ e (h e he)

end Coding
