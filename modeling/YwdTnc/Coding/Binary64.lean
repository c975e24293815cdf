import Mathlib.Data.Int.Log
import Mathlib.Data.Rat.Floor
import Mathlib.Tactic.Linarith
import Mathlib.Tactic.NormNum
import Mathlib.Tactic.Positivity
import Mathlib.Tactic.FieldSimp
import Mathlib.Tactic.Ring

/-!
# Binary floating point as rationals

A binary64 number is the rational that it stands for. `toBinary64` rounds a rational to
the nearest one with 53 significant bits, ties to even; overflow and the gradual underflow
below the normal range are left out. `shortestDecimal` is the decimal with the fewest
digits that rounds back, and a decimal of at most 15 digits is read and printed unchanged.
-/

namespace Coding

/-! ### Rounding to integers -/

/-- The nearest integer, and the even one of two. -/
def roundHalfEven (q : ℚ) : ℤ :=
  if q - ⌊q⌋ < 1 / 2 then ⌊q⌋
  else if 1 / 2 < q - ⌊q⌋ then ⌊q⌋ + 1
  else if ⌊q⌋ % 2 = 0 then ⌊q⌋
  else ⌊q⌋ + 1

theorem abs_sub_roundHalfEven_le (q : ℚ) : |q - roundHalfEven q| ≤ 1 / 2 := by
  have hlow : 0 ≤ q - ⌊q⌋ := sub_nonneg.mpr (Int.floor_le q)
  have hhigh : q - ⌊q⌋ < 1 := by
    have hlt := Int.lt_floor_add_one q
    linarith
  unfold roundHalfEven
  rw [abs_le]
  split
  · constructor <;> linarith
  split
  · push_cast
    constructor <;> linarith
  split
  · constructor <;> linarith
  · push_cast
    constructor <;> linarith

/-- An integer nearer than one half is the nearest. -/
theorem roundHalfEven_eq {q : ℚ} {n : ℤ} (h : |q - n| < 1 / 2) : roundHalfEven q = n := by
  have hround := abs_sub_roundHalfEven_le q
  rw [abs_le] at hround
  rw [abs_lt] at h
  have hlow : ((roundHalfEven q : ℤ) : ℚ) - n < 1 := by linarith
  have hhigh : (-1 : ℚ) < ((roundHalfEven q : ℤ) : ℚ) - n := by linarith
  have hlow' : roundHalfEven q - n < 1 := by exact_mod_cast hlow
  have hhigh' : -1 < roundHalfEven q - n := by exact_mod_cast hhigh
  omega

/-! ### Rounding to 53 bits -/

/-- The distance of neighbouring numbers around `q`. -/
def spacing (q : ℚ) : ℚ := 2 ^ (Int.log 2 |q| - 52)

def toBinary64 (q : ℚ) : ℚ := roundHalfEven (q / spacing q) * spacing q

theorem spacing_pos (q : ℚ) : 0 < spacing q := zpow_pos (by norm_num) _

theorem spacing_le {q : ℚ} (hq : q ≠ 0) : spacing q ≤ |q| / 2 ^ 52 := by
  have hlog : (2 : ℚ) ^ Int.log 2 |q| ≤ |q| := by
    exact_mod_cast Int.zpow_log_le_self (b := 2) (by norm_num) (abs_pos.mpr hq)
  unfold spacing
  rw [zpow_sub₀ (by norm_num : (2 : ℚ) ≠ 0)]
  exact div_le_div_of_nonneg_right hlog (by positivity)

theorem abs_sub_toBinary64_le (q : ℚ) : |q - toBinary64 q| ≤ |q| / 2 ^ 53 := by
  by_cases hq : q = 0
  · subst hq
    simp [toBinary64, roundHalfEven]
  have hpos := spacing_pos q
  have hround := abs_sub_roundHalfEven_le (q / spacing q)
  have hscale : q - toBinary64 q = (q / spacing q - roundHalfEven (q / spacing q)) * spacing q := by
    unfold toBinary64
    field_simp
  rw [hscale, abs_mul, abs_of_pos hpos]
  have hspacing := spacing_le hq
  calc |q / spacing q - roundHalfEven (q / spacing q)| * spacing q
      ≤ 1 / 2 * (|q| / 2 ^ 52) := mul_le_mul hround hspacing hpos.le (by norm_num)
    _ = |q| / 2 ^ 53 := by ring

/-- `n` over `10 ^ decimals` in digits; there is at least one decimal. -/
def fixedDigits (decimals n : ℕ) : List Char :=
  let fraction := Nat.toDigits 10 (n % 10 ^ decimals)
  Nat.toDigits 10 (n / 10 ^ decimals) ++
    '.' :: (List.replicate (decimals - fraction.length) '0' ++ fraction)

/-- `f"{x:.3f}"` for three decimals. -/
def formatFixed (decimals : ℕ) (x : ℚ) : List Char :=
  (if x < 0 then ['-'] else []) ++ fixedDigits decimals (roundHalfEven (|x| * 10 ^ decimals)).toNat

/-- The decimal with `n` significant digits that is nearest to `x` and rounds back to it,
if there is one. -/
def readsBack (x : ℚ) (n : ℕ) : Option ℚ :=
  let unit : ℚ := 10 ^ (Int.log 10 |x| + 1 - n)
  ([roundHalfEven (x / unit), ⌊x / unit⌋, ⌈x / unit⌉].map fun k : ℤ => (k : ℚ) * unit).find?
    fun d => toBinary64 d = x

/-- The shortest decimal that rounds to `x`; 17 digits are enough. -/
def shortestDecimal (x : ℚ) : ℚ :=
  ((List.range' 1 17).findSome? (readsBack x)).getD x

theorem readsBack_eq_some {x d : ℚ} {n : ℕ} (h : readsBack x n = some d) :
    toBinary64 d = x ∧ ∃ k : ℤ, d = k * 10 ^ (Int.log 10 |x| + 1 - n) := by
  have hfind := List.find?_some h
  obtain ⟨k, -, rfl⟩ := List.mem_map.mp (List.mem_of_find?_eq_some h)
  exact ⟨of_decide_eq_true hfind, k, rfl⟩

/-- A decimal on the grid of 15 digits is not found far from `x`. -/
theorem abs_sub_lt_of_toBinary64 {c d : ℚ} {scale : ℚ} (hd : |d| < scale)
    (h : toBinary64 c = toBinary64 d) : |c - d| < scale / 2 ^ 51 := by
  have hc := abs_sub_toBinary64_le c
  have hd' := abs_sub_toBinary64_le d
  rw [h] at hc
  have hscale : 0 < scale := lt_of_le_of_lt (abs_nonneg d) hd
  have hsplit : |c - d| ≤ |c| / 2 ^ 53 + |d| / 2 ^ 53 := by
    calc |c - d| = |(c - toBinary64 d) - (d - toBinary64 d)| := by ring_nf
      _ ≤ |c - toBinary64 d| + |d - toBinary64 d| := abs_sub _ _
      _ ≤ _ := add_le_add hc hd'
  have htriangle : |c| ≤ |c - d| + |d| := by
    calc |c| = |(c - d) + d| := by ring_nf
      _ ≤ _ := abs_add_le _ _
  have hclose : |c - d| * (1 - 1 / 2 ^ 53) ≤ scale * (2 / 2 ^ 53) := by linarith
  norm_num at hclose ⊢
  linarith

/-- Two decimals on the grid of 15 digits that round to one number are the same. -/
theorem eq_of_toBinary64 {unit : ℚ} {m k : ℤ} (hunit : 0 < unit) (hm : |m * unit| < unit * 10 ^ 15)
    (h : toBinary64 (k * unit) = toBinary64 (m * unit)) : k = m := by
  have hclose := abs_sub_lt_of_toBinary64 hm h
  have hfactor : (k : ℚ) * unit - m * unit = (k - m) * unit := by ring
  rw [hfactor, abs_mul, abs_of_pos hunit] at hclose
  have hone : |(k : ℚ) - m| < 1 := by
    by_contra hge
    rw [not_lt] at hge
    have hscaled : unit ≤ |(k : ℚ) - m| * unit := le_mul_of_one_le_left hunit.le hge
    norm_num at hclose
    linarith
  rw [abs_lt] at hone
  have hlow : -1 < k - m := by exact_mod_cast hone.1
  have hhigh : k - m < 1 := by exact_mod_cast hone.2
  omega

theorem roundHalfEven_toBinary64_div {unit : ℚ} {m : ℤ} (hunit : 0 < unit)
    (hm : |m * unit| < unit * 10 ^ 15) : roundHalfEven (toBinary64 (m * unit) / unit) = m := by
  apply roundHalfEven_eq
  have hnear := abs_sub_toBinary64_le (m * unit)
  have hfactor : toBinary64 (m * unit) / unit - m = (toBinary64 (m * unit) - m * unit) / unit := by
    field_simp
  rw [hfactor, abs_div, abs_of_pos hunit, div_lt_iff₀ hunit, abs_sub_comm]
  norm_num at hnear hm ⊢
  linarith

/-- A decimal of at most 15 digits survives the way through a binary64 number. -/
theorem shortestDecimal_toBinary64 {d : ℚ} {e : ℤ} (hlow : 0 < d) (hhigh : d < 10 ^ (e + 1))
    (hdigits : ∃ m : ℤ, d = m * 10 ^ (e - 14)) (hlog : Int.log 10 |toBinary64 d| = e) :
    shortestDecimal (toBinary64 d) = d := by
  obtain ⟨m, rfl⟩ := hdigits
  have hunit : (0 : ℚ) < 10 ^ (e - 14) := zpow_pos (by norm_num) _
  have hscale : (10 : ℚ) ^ (e + 1) = 10 ^ (e - 14) * 10 ^ 15 := by
    rw [← zpow_natCast, ← zpow_add₀ (by norm_num : (10 : ℚ) ≠ 0)]
    congr 1
    push_cast
    ring
  have hm : |m * (10 : ℚ) ^ (e - 14)| < 10 ^ (e - 14) * 10 ^ 15 := by
    rwa [abs_of_pos hlow, ← hscale]
  -- with at most 15 digits nothing else rounds to the same number
  have hunique : ∀ n ∈ List.range' 1 15, ∀ c,
      readsBack (toBinary64 (m * 10 ^ (e - 14))) n = some c → c = m * 10 ^ (e - 14) := by
    intro n hn c hc
    obtain ⟨hround, k, rfl⟩ := readsBack_eq_some hc
    rw [hlog] at hround ⊢
    have hn' : n ≤ 15 := by
      rw [List.mem_range'_1] at hn
      omega
    have hgrid : (10 : ℚ) ^ (e + 1 - n) = 10 ^ (15 - n) * 10 ^ (e - 14) := by
      rw [← zpow_natCast, ← zpow_add₀ (by norm_num : (10 : ℚ) ≠ 0)]
      congr 1
      push_cast [hn']
      ring
    have hcoarse : (k : ℚ) * 10 ^ (e + 1 - n) =
        ((k * 10 ^ (15 - n) : ℤ) : ℚ) * (10 : ℚ) ^ (e - 14) := by
      rw [hgrid]
      push_cast
      ring
    rw [hcoarse] at hround ⊢
    rw [eq_of_toBinary64 hunit hm hround]
  have hfound : readsBack (toBinary64 (m * 10 ^ (e - 14))) 15 =
      some ((m : ℚ) * 10 ^ (e - 14)) := by
    have hfine : e + 1 - ((15 : ℕ) : ℤ) = e - 14 := by
      push_cast
      ring
    unfold readsBack
    rw [hlog, hfine]
    dsimp only
    rw [List.map_cons, roundHalfEven_toBinary64_div hunit hm]
    exact List.find?_cons_of_pos (by simp)
  obtain ⟨c, hc⟩ : ∃ c, (List.range' 1 15).findSome?
      (readsBack (toBinary64 (m * 10 ^ (e - 14)))) = some c := by
    rw [← Option.isSome_iff_exists, List.findSome?_isSome_iff]
    exact ⟨15, by decide, by rw [hfound]; rfl⟩
  have hvalue : c = m * 10 ^ (e - 14) := by
    obtain ⟨n, hn, hreads⟩ := List.exists_of_findSome?_eq_some hc
    exact hunique n hn c hreads
  have hsplit : List.range' 1 17 = List.range' 1 15 ++ List.range' 16 2 := by decide
  unfold shortestDecimal
  rw [hsplit, List.findSome?_append, hc, hvalue]
  rfl

end Coding
