import Mathlib.Data.List.Basic
import Mathlib.Data.Nat.Notation
import Mathlib.Order.Basic
import Mathlib.Logic.Function.Iterate

/-!
# Shift registers

A register of `w` bits with the taps `poly`: a shift moves it down by one place and adds the
taps when a one falls out, and a bit is fed by adding it to the lowest place before a shift.
Everything is linear over the field of two elements. A register that can be shifted back
detects every error pattern within `w` places, one with an odd number of taps every pattern
with an odd number of ones. A register without taps into which bits slide at the low end is a
window on the last `w` of them.
-/

namespace Coding

variable {w : ℕ}

/-- One bit in the lowest place. -/
def lowBit (w : ℕ) (bit : Bool) : BitVec w := (BitVec.ofBool bit).setWidth w

def shift (poly s : BitVec w) : BitVec w :=
  if s.getLsbD 0 then (s >>> 1) ^^^ poly else s >>> 1

def feed (poly s : BitVec w) (bits : List Bool) : BitVec w :=
  bits.foldl (fun s bit => shift poly (s ^^^ lowBit w bit)) s

/-- The bits in the lowest places, the first in the lowest. -/
def pack (w : ℕ) : List Bool → BitVec w
  | [] => 0#w
  | bit :: bits => lowBit w bit ^^^ pack w bits <<< 1

@[simp] theorem feed_nil (poly s : BitVec w) : feed poly s [] = s := rfl

theorem feed_cons (poly s : BitVec w) (bit : Bool) (bits : List Bool) :
    feed poly s (bit :: bits) = feed poly (shift poly (s ^^^ lowBit w bit)) bits := rfl

theorem feed_append (poly s : BitVec w) (bits bits' : List Bool) :
    feed poly s (bits ++ bits') = feed poly (feed poly s bits) bits' :=
  List.foldl_append

@[simp] theorem lowBit_false : lowBit w false = 0#w := by
  simp [lowBit]

theorem lowBit_xor (a b : Bool) : lowBit w (a ^^ b) = lowBit w a ^^^ lowBit w b := by
  simp only [lowBit, BitVec.ofBool_xor_ofBool.symm, BitVec.setWidth_xor]

theorem getLsbD_lowBit (bit : Bool) {i : ℕ} (hi : i < w) :
    (lowBit w bit).getLsbD i = (decide (i = 0) && bit) := by
  simp only [lowBit, BitVec.getLsbD_setWidth, BitVec.getLsbD_ofBool, hi, decide_true,
    Bool.true_and]

/-! ### Linearity -/

theorem shift_zero (poly : BitVec w) : shift poly 0#w = 0#w := by
  simp [shift]

theorem shift_xor (poly a b : BitVec w) :
    shift poly (a ^^^ b) = shift poly a ^^^ shift poly b := by
  unfold shift
  rw [BitVec.getLsbD_xor, BitVec.ushiftRight_xor_distrib]
  cases ha : a.getLsbD 0 with
  | false =>
      cases hb : b.getLsbD 0 with
      | false => rfl
      | true => exact BitVec.xor_assoc _ _ _
  | true =>
      cases hb : b.getLsbD 0 with
      | false =>
          have hcomm : a >>> 1 ^^^ b >>> 1 ^^^ poly = a >>> 1 ^^^ poly ^^^ b >>> 1 := by ac_rfl
          exact hcomm
      | true =>
          have hcancel : a >>> 1 ^^^ poly ^^^ (b >>> 1 ^^^ poly) =
              a >>> 1 ^^^ b >>> 1 ^^^ (poly ^^^ poly) := by ac_rfl
          rw [BitVec.xor_self, BitVec.xor_zero] at hcancel
          exact hcancel.symm

theorem feed_xor (poly : BitVec w) : ∀ (bits errors : List Bool) (s t : BitVec w),
    bits.length = errors.length →
      feed poly (s ^^^ t) (List.zipWith xor bits errors) =
        feed poly s bits ^^^ feed poly t errors
  | [], [], _, _, _ => rfl
  | bit :: bits, error :: errors, s, t, h => by
      have hswap : s ^^^ t ^^^ lowBit w (bit ^^ error) =
          (s ^^^ lowBit w bit) ^^^ (t ^^^ lowBit w error) := by
        rw [lowBit_xor]
        ac_rfl
      rw [List.zipWith_cons_cons, feed_cons, feed_cons, feed_cons, hswap, shift_xor]
      exact feed_xor poly bits errors _ _ (Nat.succ.inj h)

/-! ### A window of bits -/

theorem getLsbD_pack (bits : List Bool) {i : ℕ} (hi : i < w) :
    (pack w bits).getLsbD i = bits.getD i false := by
  induction bits generalizing i with
  | nil => simp [pack]
  | cons bit bits ih =>
      rw [pack, BitVec.getLsbD_xor, getLsbD_lowBit bit hi, BitVec.getLsbD_shiftLeft]
      cases i with
      | zero => simp
      | succ i => simp [hi, ih (i := i) (by omega)]

theorem shift_pack (poly : BitVec w) {bits : List Bool} (h : bits.length < w) :
    shift poly (pack w bits <<< 1) = pack w bits := by
  have hlow : (pack w bits <<< 1).getLsbD 0 = false := by simp
  rw [shift, hlow, if_neg Bool.false_ne_true]
  apply BitVec.eq_of_getLsbD_eq
  intro i hi
  rw [BitVec.getLsbD_ushiftRight, BitVec.getLsbD_shiftLeft]
  by_cases htop : 1 + i < w
  · simp [htop]
  · have hout : bits.length ≤ i := by omega
    rw [getLsbD_pack bits hi, List.getD_eq_getElem?_getD, List.getElem?_eq_none hout]
    simp [htop]

/-- Feeding at most `w` bits is adding them all at once and shifting as often. -/
theorem feed_eq_shift_pack (poly : BitVec w) :
    ∀ (bits : List Bool) (s : BitVec w), bits.length ≤ w →
      feed poly s bits = (shift poly)^[bits.length] (s ^^^ pack w bits)
  | [], s, _ => by simp [pack]
  | bit :: bits, s, h => by
      have hlt : bits.length < w := h
      have hstep : shift poly (s ^^^ pack w (bit :: bits)) =
          shift poly (s ^^^ lowBit w bit) ^^^ pack w bits := by
        rw [pack, ← BitVec.xor_assoc, shift_xor, shift_pack poly hlt]
      rw [feed_cons, feed_eq_shift_pack poly bits _ (Nat.le_of_lt hlt), List.length_cons,
        Function.iterate_succ_apply, hstep]

/-! ### Shifting back -/

/-- A shift loses nothing when the highest tap is set. -/
theorem shift_eq_zero {poly s : BitVec w} (hpoly : poly.getLsbD (w - 1) = true)
    (h : shift poly s = 0#w) : s = 0#w := by
  have hbits : ∀ i, (shift poly s).getLsbD i = false := by
    intro i
    rw [h]
    exact BitVec.getLsbD_zero
  unfold shift at hbits
  cases hlow : s.getLsbD 0 with
  | true =>
      have htop := hbits (w - 1)
      have hbeyond : s.getLsbD (1 + (w - 1)) = false :=
        BitVec.getLsbD_of_ge _ _ (by omega)
      rw [hlow, if_pos rfl, BitVec.getLsbD_xor, BitVec.getLsbD_ushiftRight, hbeyond,
        hpoly] at htop
      cases htop
  | false =>
      apply BitVec.eq_of_getLsbD_eq
      intro i hi
      rw [BitVec.getLsbD_zero]
      cases i with
      | zero => exact hlow
      | succ i =>
          have hnext := hbits i
          rw [hlow, if_neg Bool.false_ne_true, BitVec.getLsbD_ushiftRight,
            Nat.add_comm] at hnext
          exact hnext

theorem iterate_shift_eq_zero {poly s : BitVec w} (hpoly : poly.getLsbD (w - 1) = true) (n : ℕ)
    (h : (shift poly)^[n] s = 0#w) : s = 0#w := by
  induction n generalizing s with
  | zero => exact h
  | succ n ih => exact shift_eq_zero hpoly (ih h)

theorem iterate_shift_xor (poly a b : BitVec w) (n : ℕ) :
    (shift poly)^[n] (a ^^^ b) = (shift poly)^[n] a ^^^ (shift poly)^[n] b := by
  induction n generalizing a b with
  | zero => rfl
  | succ n ih => rw [Function.iterate_succ_apply, shift_xor, ih]; rfl

theorem iterate_shift_injective {poly : BitVec w} (hpoly : poly.getLsbD (w - 1) = true) (n : ℕ) :
    Function.Injective (shift poly)^[n] := by
  intro a b h
  have hzero : (shift poly)^[n] (a ^^^ b) = 0#w := by
    rw [iterate_shift_xor, h, BitVec.xor_self]
  exact BitVec.xor_eq_zero_iff.mp (iterate_shift_eq_zero hpoly n hzero)

theorem feed_zeros (poly s : BitVec w) (n : ℕ) :
    feed poly s (List.replicate n false) = (shift poly)^[n] s := by
  induction n generalizing s with
  | zero => rfl
  | succ n ih =>
      rw [List.replicate_succ, feed_cons, lowBit_false, BitVec.xor_zero, ih]
      rfl

/-- A register that started empty and was fed a pattern that is not zero but within `w`
places is not empty. -/
theorem feed_burst_ne_zero {poly : BitVec w} (hpoly : poly.getLsbD (w - 1) = true)
    (before after : ℕ) {window : List Bool} (hlength : window.length ≤ w)
    (hne : true ∈ window) :
    feed poly 0#w (List.replicate before false ++ window ++ List.replicate after false) ≠ 0#w := by
  have hempty : (shift poly)^[before] 0#w = 0#w := Function.iterate_fixed (shift_zero poly) _
  rw [feed_append, feed_append, feed_zeros, feed_zeros, hempty,
    feed_eq_shift_pack poly window _ hlength, BitVec.zero_xor]
  intro hzero
  have hpack := iterate_shift_eq_zero hpoly _ (iterate_shift_eq_zero hpoly _ hzero)
  obtain ⟨i, hi, htrue⟩ := List.getElem_of_mem hne
  have hbit := getLsbD_pack window (Nat.lt_of_lt_of_le hi hlength)
  rw [hpack, List.getD_eq_getElem?_getD, List.getElem?_eq_getElem hi, htrue,
    BitVec.getLsbD_zero] at hbit
  cases hbit

/-- A pattern has its ones in `n` consecutive places. -/
def Within (n : ℕ) (pattern : List Bool) : Prop :=
  ∃ start, ∀ i, pattern[i]? = some true → start ≤ i ∧ i < start + n

/-- Such a pattern is zeros, at most `n` bits and zeros again. -/
theorem Within.split {n : ℕ} {pattern : List Bool} (h : Within n pattern) :
    ∃ before window after, window.length ≤ n ∧
      pattern = List.replicate before false ++ window ++ List.replicate after false := by
  obtain ⟨start, hones⟩ := h
  have hbefore : ∀ bit ∈ pattern.take start, bit = false := by
    intro bit hbit
    obtain ⟨i, hi⟩ := List.mem_iff_getElem?.mp hbit
    cases bit with
    | false => rfl
    | true =>
        rw [List.getElem?_take] at hi
        split at hi
        case isTrue hlt => exact absurd (hones i hi).1 (by omega)
        case isFalse => cases hi
  have hafter : ∀ bit ∈ (pattern.drop start).drop n, bit = false := by
    intro bit hbit
    obtain ⟨i, hi⟩ := List.mem_iff_getElem?.mp hbit
    cases bit with
    | false => rfl
    | true =>
        rw [List.drop_drop, List.getElem?_drop] at hi
        exact absurd (hones _ hi).2 (by omega)
  refine ⟨(pattern.take start).length, (pattern.drop start).take n,
    ((pattern.drop start).drop n).length, List.length_take_le _ _, ?_⟩
  rw [← List.eq_replicate_of_mem hbefore, ← List.eq_replicate_of_mem hafter, List.append_assoc,
    List.take_append_drop, List.take_append_drop]

theorem feed_within_ne_zero {poly : BitVec w} (hpoly : poly.getLsbD (w - 1) = true)
    {pattern : List Bool} (h : Within w pattern) (hne : true ∈ pattern) :
    feed poly 0#w pattern ≠ 0#w := by
  obtain ⟨before, window, after, hlength, rfl⟩ := h.split
  refine feed_burst_ne_zero hpoly before after hlength ?_
  simpa using hne

/-! ### Parity -/

/-- Whether the number of ones is odd. -/
def parity (bits : List Bool) : Bool := bits.foldr xor false

def bits (s : BitVec w) : List Bool := (List.range w).map fun i => s.getLsbD i

@[simp] theorem parity_cons (bit : Bool) (bits : List Bool) :
    parity (bit :: bits) = (bit ^^ parity bits) := rfl

theorem parity_append (xs ys : List Bool) : parity (xs ++ ys) = (parity xs ^^ parity ys) := by
  induction xs with
  | nil => simp [parity]
  | cons x xs ih => rw [List.cons_append, parity_cons, parity_cons, ih, Bool.xor_assoc]

theorem parity_map_xor (is : List ℕ) (f g : ℕ → Bool) :
    parity (is.map fun i => f i ^^ g i) = (parity (is.map f) ^^ parity (is.map g)) := by
  induction is with
  | nil => rfl
  | cons i is ih =>
      simp only [List.map_cons, parity_cons, ih]
      cases f i <;> cases g i <;> simp

theorem parity_eq_true_iff (bits : List Bool) : parity bits = true ↔ bits.count true % 2 = 1 := by
  induction bits with
  | nil => simp [parity]
  | cons bit bits ih =>
      rw [parity_cons, List.count_cons]
      cases hbits : parity bits with
      | true =>
          have hodd := ih.mp hbits
          cases bit with
          | true => simp; omega
          | false => simpa using hodd
      | false =>
          have heven : ¬ bits.count true % 2 = 1 := by
            rw [← ih, hbits]
            exact Bool.false_ne_true
          cases bit with
          | true => simp; omega
          | false => simpa using heven

theorem parity_bits_xor (a b : BitVec w) :
    parity (bits (a ^^^ b)) = (parity (bits a) ^^ parity (bits b)) := by
  simp only [bits, ← parity_map_xor, BitVec.getLsbD_xor]

theorem parity_bits_shiftRight (s : BitVec w) :
    parity (bits (s >>> 1)) = (s.getLsbD 0 ^^ parity (bits s)) := by
  cases w with
  | zero => rw [BitVec.of_length_zero (x := s)]; rfl
  | succ n =>
      have hbeyond : s.getLsbD (1 + n) = false := BitVec.getLsbD_of_ge _ _ (by omega)
      have hright : bits (s >>> 1) =
          (List.range n).map (fun i => s.getLsbD (i + 1)) ++ [false] := by
        rw [bits, List.range_succ, List.map_append, List.map_singleton,
          BitVec.getLsbD_ushiftRight, hbeyond]
        simp only [BitVec.getLsbD_ushiftRight, Nat.add_comm 1]
      have hleft : bits s = s.getLsbD 0 :: (List.range n).map (fun i => s.getLsbD (i + 1)) := by
        rw [bits, List.range_succ_eq_map, List.map_cons, List.map_map]
        rfl
      have hlast : parity [false] = false := rfl
      rw [hright, hleft, parity_append, hlast, parity_cons, ← Bool.xor_assoc, Bool.xor_self,
        Bool.xor_false, Bool.false_xor]

/-- An odd number of taps keeps the parity of the register. -/
theorem parity_shift {poly : BitVec w} (hpoly : parity (bits poly) = true) (s : BitVec w) :
    parity (bits (shift poly s)) = parity (bits s) := by
  unfold shift
  cases hlow : s.getLsbD 0 with
  | true =>
      rw [if_pos rfl, parity_bits_xor, parity_bits_shiftRight, hpoly, hlow]
      cases parity (bits s) <;> rfl
  | false =>
      rw [if_neg Bool.false_ne_true, parity_bits_shiftRight, hlow, Bool.false_xor]

theorem parity_bits_zero : parity (bits 0#w) = false := by
  rw [← Bool.xor_self (parity (bits 0#w)), ← parity_bits_xor, BitVec.xor_self]

theorem parity_bits_lowBit (hw : 0 < w) (bit : Bool) : parity (bits (lowBit w bit)) = bit := by
  cases w with
  | zero => exact absurd hw (Nat.lt_irrefl 0)
  | succ n =>
      have hshift : lowBit (n + 1) bit >>> 1 = 0#(n + 1) := by
        apply BitVec.eq_of_getLsbD_eq
        intro i hi
        rw [BitVec.getLsbD_ushiftRight, BitVec.getLsbD_zero]
        by_cases hin : 1 + i < n + 1
        · rw [getLsbD_lowBit bit hin]
          simp
        · exact BitVec.getLsbD_of_ge _ _ (by omega)
      have h := parity_bits_shiftRight (lowBit (n + 1) bit)
      rw [hshift, parity_bits_zero, getLsbD_lowBit bit hw] at h
      have hbit : bit = parity (bits (lowBit (n + 1) bit)) := by simpa using h
      exact hbit.symm

theorem parity_feed {poly : BitVec w} (hw : 0 < w) (hpoly : parity (bits poly) = true)
    (input : List Bool) (s : BitVec w) :
    parity (bits (feed poly s input)) = (parity (bits s) ^^ parity input) := by
  induction input generalizing s with
  | nil => simp [parity]
  | cons bit input ih =>
      rw [feed_cons, ih, parity_shift hpoly, parity_bits_xor, parity_bits_lowBit hw, parity_cons,
        Bool.xor_assoc]

/-- A register that started empty and was fed an odd number of ones is not empty. -/
theorem feed_odd_ne_zero {poly : BitVec w} (hw : 0 < w) (hpoly : parity (bits poly) = true)
    {input : List Bool} (hodd : parity input = true) : feed poly 0#w input ≠ 0#w := by
  intro hzero
  have h := parity_feed hw hpoly input 0#w
  rw [hzero, parity_bits_zero, hodd] at h
  cases h

/-! ### Sliding windows -/

/-- A bit pushed in at the lowest place; the highest one falls out. -/
def slide (s : BitVec w) (bit : Bool) : BitVec w := s <<< 1 ||| lowBit w bit

theorem foldl_slide (s : BitVec w) (bits : List Bool) :
    bits.foldl slide s = s <<< bits.length ||| bits.foldl slide 0#w := by
  induction bits generalizing s with
  | nil => simp
  | cons bit bits ih =>
      rw [List.foldl_cons, List.foldl_cons, ih, ih (slide 0#w bit), List.length_cons, slide, slide,
        BitVec.zero_shiftLeft, BitVec.zero_or, BitVec.shiftLeft_or_distrib, BitVec.or_assoc,
        Nat.add_comm, BitVec.shiftLeft_add]

/-- The register holds the last `w` bits and nothing else. -/
theorem foldl_slide_drop (s : BitVec w) {bits : List Bool} (h : w ≤ bits.length) :
    bits.foldl slide s = (bits.drop (bits.length - w)).foldl slide 0#w := by
  have hlength : (bits.drop (bits.length - w)).length = w := by
    rw [List.length_drop]
    omega
  conv_lhs => rw [← List.take_append_drop (bits.length - w) bits, List.foldl_append, foldl_slide,
    hlength, BitVec.shiftLeft_eq_zero (Nat.le_refl w), BitVec.zero_or]

end Coding
