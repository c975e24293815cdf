import Mathlib.Data.Nat.Notation
import Mathlib.Tactic.Ring

/-!
# Little-endian words

Numbers as fixed numbers of octets, the lowest octet first, as binary headers
hold them.
-/

namespace Coding

/-- The lowest `width` octets of a number. -/
def packLE : ℕ → ℕ → List (BitVec 8)
  | 0, _ => []
  | width + 1, n => BitVec.ofNat 8 n :: packLE width (n / 256)

def unpackLE : List (BitVec 8) → ℕ
  | [] => 0
  | byte :: bytes => byte.toNat + 256 * unpackLE bytes

@[simp] theorem packLE_length (width n : ℕ) : (packLE width n).length = width := by
  induction width generalizing n with
  | zero => rfl
  | succ width ih => rw [packLE, List.length_cons, ih]

/-- A number that fits is read back. -/
theorem unpackLE_packLE (width : ℕ) {n : ℕ} (h : n < 256 ^ width) :
    unpackLE (packLE width n) = n := by
  induction width generalizing n with
  | zero =>
      rw [pow_zero] at h
      rw [packLE, unpackLE]
      omega
  | succ width ih =>
      have hrest : n / 256 < 256 ^ width := by
        rw [Nat.div_lt_iff_lt_mul (by decide), ← pow_succ]
        exact h
      rw [packLE, unpackLE, ih hrest, BitVec.toNat_ofNat]
      omega

end Coding
