import Mathlib.Data.List.Basic
import Mathlib.Data.List.Induction
import Mathlib.Tactic.Ring

/-!
# Bit stuffing

Zero insertion after every run of `n` ones, as link protocols use it to keep
their flag, a longer run of ones, out of the data. `stuffFrom n k` and
`unstuffFrom n k` work on the rest of a stream of which the last `k` bits were
ones; `stuff` and `unstuff` start after a zero.
-/

namespace Coding

/-- Insert a zero after every run of `n` ones, `k` ones having gone before. -/
def stuffFrom (n : ℕ) : ℕ → List Bool → List Bool
  | _, [] => []
  | k, true :: bits =>
      if k + 1 = n then true :: false :: stuffFrom n 0 bits
      else true :: stuffFrom n (k + 1) bits
  | _, false :: bits => false :: stuffFrom n 0 bits

/-- Drop the zero after every run of `n` ones; `none` where it is missing. -/
def unstuffFrom (n : ℕ) : ℕ → List Bool → Option (List Bool)
  | _, [] => some []
  | k, true :: bits =>
      if k + 1 = n then
        match bits with
        | false :: rest => (unstuffFrom n 0 rest).map (true :: ·)
        | _ => none
      else (unstuffFrom n (k + 1) bits).map (true :: ·)
  | _, false :: bits => (unstuffFrom n 0 bits).map (false :: ·)

def stuff (n : ℕ) (bits : List Bool) : List Bool := stuffFrom n 0 bits

def unstuff (n : ℕ) (bits : List Bool) : Option (List Bool) := unstuffFrom n 0 bits

/-- The number of ones at the end of a stream after one more bit. -/
def onesAfter (k : ℕ) (bit : Bool) : ℕ := if bit then k + 1 else 0

@[simp] theorem onesAfter_true (k : ℕ) : onesAfter k true = k + 1 := rfl

@[simp] theorem onesAfter_false (k : ℕ) : onesAfter k false = 0 := rfl

theorem unstuffFrom_stuffFrom (n k : ℕ) (bits : List Bool) :
    unstuffFrom n k (stuffFrom n k bits) = some bits := by
  induction bits generalizing k with
  | nil => rfl
  | cons bit bits ih =>
      cases bit with
      | false => simp [stuffFrom, unstuffFrom, ih]
      | true =>
          by_cases hfull : k + 1 = n
          · simp [stuffFrom, unstuffFrom, hfull, ih]
          · rw [stuffFrom, if_neg hfull, unstuffFrom.eq_def]
            simp [hfull, ih]

/-- Unstuffing undoes stuffing. -/
theorem unstuff_stuff (n : ℕ) (bits : List Bool) :
    unstuff n (stuff n bits) = some bits :=
  unstuffFrom_stuffFrom n 0 bits

theorem length_le_length_stuffFrom (n k : ℕ) (bits : List Bool) :
    bits.length ≤ (stuffFrom n k bits).length := by
  induction bits generalizing k with
  | nil => exact Nat.le_refl _
  | cons bit bits ih =>
      cases bit with
      | false => simpa [stuffFrom] using ih 0
      | true =>
          by_cases hfull : k + 1 = n
          · have hrest := ih 0
            simp only [stuffFrom, hfull, if_true, List.length_cons]
            omega
          · simpa [stuffFrom, hfull] using ih (k + 1)

/-- The induction a reader of stuffed bits follows. `P k out` says of the
stuffed stream `out`, read after `k < n` ones, what is to be shown; a stuffed
run of ones is read together with the zero behind it. -/
theorem stuffFrom_induction {n : ℕ} {P : ℕ → List Bool → Prop}
    (nil : ∀ k, k < n → P k [])
    (zero : ∀ k out, k < n → P 0 out → P k (false :: out))
    (one : ∀ k out, k + 1 < n → P (k + 1) out → P k (true :: out))
    (run : ∀ out, P 0 out → P (n - 1) (true :: false :: out))
    (bits : List Bool) : ∀ k, k < n → P k (stuffFrom n k bits) := by
  induction bits with
  | nil => exact nil
  | cons bit bits ih =>
      intro k hk
      cases bit with
      | false => exact zero k _ hk (ih 0 (by omega))
      | true =>
          by_cases hfull : k + 1 = n
          · have hk' : k = n - 1 := by omega
            rw [stuffFrom, if_pos hfull, hk']
            exact run _ (ih 0 (by omega))
          · rw [stuffFrom, if_neg hfull]
            exact one k _ (by omega) (ih (k + 1) (by omega))

/-- Stuffing undoes unstuffing, where that succeeds. -/
theorem stuffFrom_of_unstuffFrom {n : ℕ} {bits out : List Bool} : ∀ {k : ℕ},
    unstuffFrom n k bits = some out → stuffFrom n k out = bits := by
  induction bits using List.twoStepInduction generalizing out with
  | nil =>
      intro k h
      cases h
      rfl
  | singleton bit =>
      intro k h
      cases bit with
      | false =>
          cases h
          rfl
      | true =>
          by_cases hfull : k + 1 = n
          · simp [unstuffFrom, hfull] at h
          · simp only [unstuffFrom, if_neg hfull, Option.map_some, Option.some.injEq] at h
            rw [← h, stuffFrom, if_neg hfull, stuffFrom]
  | cons_cons bit next bits ih ih' =>
      intro k h
      cases bit with
      | false =>
          simp only [unstuffFrom, Option.map_eq_some_iff] at h
          obtain ⟨rest, hrest, rfl⟩ := h
          rw [stuffFrom, ih' next hrest]
      | true =>
          by_cases hfull : k + 1 = n
          · cases next with
            | true => simp [unstuffFrom, hfull] at h
            | false =>
                rw [unstuffFrom, if_pos hfull, Option.map_eq_some_iff] at h
                obtain ⟨rest, hrest, rfl⟩ := h
                rw [stuffFrom, if_pos hfull, ih hrest]
          · rw [unstuffFrom.eq_def] at h
            simp only [if_neg hfull, Option.map_eq_some_iff] at h
            obtain ⟨rest, hrest, rfl⟩ := h
            rw [stuffFrom, if_neg hfull, ih' next hrest]

theorem stuff_of_unstuff {n : ℕ} {bits out : List Bool} (h : unstuff n bits = some out) :
    stuff n out = bits :=
  stuffFrom_of_unstuffFrom h

/-- Every inserted zero is paid for by `n` ones, of which `k` have gone before. -/
theorem length_stuffFrom_le {n k : ℕ} (hk : k < n) (bits : List Bool) :
    (stuffFrom n k bits).length ≤ bits.length + (k + bits.length) / n := by
  induction bits generalizing k with
  | nil => exact Nat.le_add_right _ _
  | cons bit bits ih =>
      cases bit with
      | false =>
          have hrest := ih (k := 0) (by omega)
          have hmono : (0 + bits.length) / n ≤ (k + (bits.length + 1)) / n :=
            Nat.div_le_div_right (by omega)
          simp only [stuffFrom, List.length_cons]
          omega
      | true =>
          by_cases hfull : k + 1 = n
          · have hrest := ih (k := 0) (by omega)
            have hpaid : (k + (bits.length + 1)) / n = (0 + bits.length) / n + 1 := by
              rw [show k + (bits.length + 1) = 0 + bits.length + n by omega,
                Nat.add_div_right _ (by omega)]
            simp only [stuffFrom, if_pos hfull, List.length_cons]
            omega
          · have hrest := ih (k := k + 1) (by omega)
            rw [show k + 1 + bits.length = k + (bits.length + 1) by omega] at hrest
            simp only [stuffFrom, if_neg hfull, List.length_cons]
            omega

/-! ### Flags -/

/-- The flag that stuffing with `n` keeps out of the data. -/
def flag (n : ℕ) : List Bool := false :: (List.replicate (n + 1) true ++ [false])

/-- A flag stands in `bits` at the offset `i`. -/
def FlagAt (n : ℕ) (bits : List Bool) (i : ℕ) : Prop := flag n <+: bits.drop i

def flags (n count : ℕ) : List Bool := (List.replicate count (flag n)).flatten

@[simp] theorem length_flag (n : ℕ) : (flag n).length = n + 3 := by
  simp [flag]

@[simp] theorem length_flags (n count : ℕ) : (flags n count).length = count * (n + 3) := by
  simp [flags]

@[simp] theorem flags_zero (n : ℕ) : flags n 0 = [] := rfl

theorem flags_succ (n count : ℕ) : flags n (count + 1) = flag n ++ flags n count := by
  rw [flags, List.replicate_succ, List.flatten_cons, ← flags]

theorem flagAt_cons_succ (n : ℕ) (bit : Bool) (bits : List Bool) (i : ℕ) :
    FlagAt n (bit :: bits) (i + 1) ↔ FlagAt n bits i := Iff.rfl

theorem not_flagAt_true (n : ℕ) (bits : List Bool) : ¬ FlagAt n (true :: bits) 0 := by
  simp [FlagAt, flag]

/-- A flag behind a zero begins with a run of ones. -/
theorem run_of_flagAt {n : ℕ} {bits : List Bool} (h : FlagAt n (false :: bits) 0) :
    List.replicate (n + 1) true <+: bits := by
  rw [FlagAt, List.drop_zero, flag, List.cons_prefix_cons] at h
  exact (List.prefix_append _ _).trans h.2

theorem not_flagAt_nil (n i : ℕ) : ¬ FlagAt n [] i := by
  simp [FlagAt, flag]

/-- A stream that begins with a zero begins with no run of ones. -/
theorem not_run_of_head {n : ℕ} {bits : List Bool} (h : bits.head? = some false) :
    ¬ List.replicate (n + 1) true <+: bits := by
  cases bits with
  | nil => cases h
  | cons bit bits =>
      rw [List.head?_cons, Option.some.injEq] at h
      simp [h, List.replicate_succ]

/-- No flag begins inside a run of ones. -/
theorem flagAt_ones (n count : ℕ) (bits : List Bool) (i : ℕ) :
    FlagAt n (List.replicate count true ++ bits) i ↔ ∃ j, i = count + j ∧ FlagAt n bits j := by
  induction count generalizing i with
  | zero => simp
  | succ count ih =>
      rw [List.replicate_succ, List.cons_append]
      cases i with
      | zero =>
          refine iff_of_false (not_flagAt_true n _) ?_
          rintro ⟨j, hj, -⟩
          omega
      | succ i =>
          rw [flagAt_cons_succ, ih]
          refine exists_congr fun j => and_congr_left fun _ => ?_
          omega

/-- Behind a flag the next one begins at the earliest where this one ends. -/
theorem flagAt_flag_append {n : ℕ} {bits : List Bool}
    (h : ¬ List.replicate (n + 1) true <+: bits) (i : ℕ) :
    FlagAt n (flag n ++ bits) i ↔ i = 0 ∨ ∃ j, i = n + 3 + j ∧ FlagAt n bits j := by
  cases i with
  | zero => simp [FlagAt]
  | succ i =>
      have hcons : flag n ++ bits =
          false :: (List.replicate (n + 1) true ++ (false :: bits)) := by simp [flag]
      rw [hcons, flagAt_cons_succ, flagAt_ones]
      constructor
      · rintro ⟨j, rfl, hflag⟩
        cases j with
        | zero => exact absurd (run_of_flagAt hflag) h
        | succ j => exact .inr ⟨j, by omega, hflag⟩
      · rintro (hzero | ⟨j, hi, hflag⟩)
        · omega
        · exact ⟨j + 1, by omega, hflag⟩

theorem flagAt_length_add (n : ℕ) (xs ys : List Bool) (i : ℕ) :
    FlagAt n (xs ++ ys) (xs.length + i) ↔ FlagAt n ys i := by
  rw [FlagAt, FlagAt, ← List.drop_drop, List.drop_left]

/-- Stuffed data with a zero behind it begins with no run of `n + 1` ones, and no
flag begins in it. -/
theorem stuff_append_unflagged {n : ℕ} (hn : 0 < n) (bits : List Bool) {rest : List Bool}
    (hrest : rest.head? = some false) :
    ¬ List.replicate (n + 1) true <+: stuff n bits ++ rest ∧
      ∀ i < (stuff n bits).length, ¬ FlagAt n (stuff n bits ++ rest) i := by
  -- after `k` ones the stream does not complete a run of `n + 1`
  refine stuffFrom_induction (n := n) (P := fun k out =>
    ¬ List.replicate (n + 1 - k) true <+: out ++ rest ∧
      ∀ i < out.length, ¬ FlagAt n (out ++ rest) i) ?nil ?zero ?one ?run bits 0 hn
  case nil =>
    intro k hk
    refine ⟨?_, fun i hi => absurd hi (Nat.not_lt_zero i)⟩
    rw [show n + 1 - k = n - k + 1 by omega]
    exact not_run_of_head hrest
  case zero =>
    rintro k out hk ⟨hrun, hflags⟩
    refine ⟨?_, fun i hi => ?_⟩
    · rw [show n + 1 - k = n - k + 1 by omega]
      exact not_run_of_head rfl
    · cases i with
      | zero => exact fun hflag => hrun (run_of_flagAt hflag)
      | succ i => exact hflags i (Nat.lt_of_succ_lt_succ hi)
  case one =>
    rintro k out hk ⟨hrun, hflags⟩
    refine ⟨?_, fun i hi => ?_⟩
    · rw [show n + 1 - k = n + 1 - (k + 1) + 1 by omega, List.replicate_succ, List.cons_append,
        List.cons_prefix_cons]
      exact fun h => hrun h.2
    · cases i with
      | zero => exact not_flagAt_true n _
      | succ i => exact hflags i (Nat.lt_of_succ_lt_succ hi)
  case run =>
    rintro out ⟨hrun, hflags⟩
    refine ⟨?_, fun i hi => ?_⟩
    · rw [show n + 1 - (n - 1) = 2 by omega]
      simp [List.replicate_succ]
    · match i with
      | 0 => exact not_flagAt_true n _
      | 1 => exact fun hflag => hrun (run_of_flagAt hflag)
      | i + 2 => exact hflags i (Nat.lt_of_succ_lt_succ (Nat.lt_of_succ_lt_succ hi))

theorem flagAt_stuff_append {n : ℕ} (hn : 0 < n) (bits : List Bool) {rest : List Bool}
    (hrest : rest.head? = some false) (i : ℕ) :
    FlagAt n (stuff n bits ++ rest) i ↔
      ∃ j, i = (stuff n bits).length + j ∧ FlagAt n rest j := by
  constructor
  · intro hflag
    have hle : (stuff n bits).length ≤ i := Nat.le_of_not_lt fun hlt =>
      (stuff_append_unflagged hn bits hrest).2 i hlt hflag
    obtain ⟨j, rfl⟩ := Nat.exists_eq_add_of_le hle
    exact ⟨j, rfl, (flagAt_length_add n _ rest j).mp hflag⟩
  · rintro ⟨j, rfl, hflag⟩
    exact (flagAt_length_add n _ rest j).mpr hflag

theorem head_flags {n count : ℕ} (h : 1 ≤ count) : (flags n count).head? = some false := by
  obtain ⟨count, rfl⟩ := Nat.exists_eq_add_of_le' h
  rw [flags_succ]
  rfl

theorem flagAt_flags_append {n : ℕ} (count : ℕ) {bits : List Bool}
    (h : ¬ List.replicate (n + 1) true <+: bits) (i : ℕ) :
    FlagAt n (flags n count ++ bits) i ↔
      (∃ j < count, i = j * (n + 3)) ∨ ∃ j, i = count * (n + 3) + j ∧ FlagAt n bits j := by
  induction count generalizing i with
  | zero => simp
  | succ count ih =>
      have hrun : ¬ List.replicate (n + 1) true <+: flags n count ++ bits := by
        cases count with
        | zero => exact h
        | succ count => exact not_run_of_head (by rw [flags_succ]; rfl)
      rw [flags_succ, List.append_assoc, flagAt_flag_append hrun]
      constructor
      · rintro (rfl | ⟨j, rfl, hflag⟩)
        · exact .inl ⟨0, Nat.succ_pos _, (Nat.zero_mul _).symm⟩
        · rcases (ih j).mp hflag with ⟨m, hm, rfl⟩ | ⟨m, rfl, hrest⟩
          · exact .inl ⟨m + 1, Nat.succ_lt_succ hm, by ring⟩
          · exact .inr ⟨m, by ring, hrest⟩
      · rintro (⟨j, hj, rfl⟩ | ⟨j, rfl, hflag⟩)
        · cases j with
          | zero => exact .inl (Nat.zero_mul _)
          | succ j =>
              exact .inr ⟨j * (n + 3), by ring,
                (ih _).mpr (.inl ⟨j, Nat.lt_of_succ_lt_succ hj, rfl⟩)⟩
        · exact .inr ⟨count * (n + 3) + j, by ring, (ih _).mpr (.inr ⟨j, rfl, hflag⟩)⟩

/-- The flags of a burst are the ones around its stuffed body. -/
theorem flagAt_burst {n : ℕ} (hn : 0 < n) (opening : ℕ) {closing : ℕ} (hclosing : 1 ≤ closing)
    (bits : List Bool) (i : ℕ) :
    FlagAt n (flags n opening ++ stuff n bits ++ flags n closing) i ↔
      (∃ j < opening, i = j * (n + 3)) ∨
        ∃ j < closing, i = opening * (n + 3) + (stuff n bits).length + j * (n + 3) := by
  have hhead : (flags n closing).head? = some false := head_flags hclosing
  have hclose : ∀ j, FlagAt n (flags n closing) j ↔ ∃ m < closing, j = m * (n + 3) := by
    intro j
    have hrun : ¬ List.replicate (n + 1) true <+: [] := by simp
    have h := flagAt_flags_append closing hrun j
    simpa [not_flagAt_nil] using h
  rw [List.append_assoc,
    flagAt_flags_append opening (stuff_append_unflagged hn bits hhead).1]
  refine or_congr_right ⟨?_, ?_⟩
  · rintro ⟨j, rfl, hflag⟩
    obtain ⟨m, rfl, hclosed⟩ := (flagAt_stuff_append hn bits hhead j).mp hflag
    obtain ⟨p, hp, rfl⟩ := (hclose m).mp hclosed
    exact ⟨p, hp, by rw [Nat.add_assoc]⟩
  · rintro ⟨p, hp, rfl⟩
    refine ⟨_, Nat.add_assoc _ _ _, ?_⟩
    exact (flagAt_stuff_append hn bits hhead _).mpr ⟨_, rfl, (hclose _).mpr ⟨p, hp, rfl⟩⟩

end Coding
