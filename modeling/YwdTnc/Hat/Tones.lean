import YwdTnc.Hat.AX25AFSKTX
import YwdTnc.Phy.StreamingDecoder

/-!
# The tones of the modem and the metric of the decoder

The decoder correlates twelve samples with a mark and with a space. A tone of the modem begins in
any phase, but its twelve samples change at a few phases only (`forall_toneWindow`), so that the
sign of the metric over a whole tone is a matter of these windows: the metric of the source tells
the tones of the modem apart in whatever phase they begin (`tellsTones_metricForPattern`).
-/

namespace YwdTnc

open Coding CAX25AFSKTX

/-! ### Windows over a tone -/

/-- The correlation window over a tone. -/
def toneWindow (increment phase : BitVec 32) : BitVec CORR_WINDOW :=
  (oscillate phase (List.replicate CORR_WINDOW increment)).foldl slide 0

/-- The metric of a mark is negative and that of a space positive, in whatever phase they begin. -/
structure TellsTones (metricTable : BitVec CORR_WINDOW → ℚ) : Prop where
  mark : ∀ phase, metricTable (toneWindow MARK_INC phase) < 0
  space : ∀ phase, 0 < metricTable (toneWindow SPACE_INC phase)

/-- Nothing of the window changes from the phase `first` up to the phase `last`. -/
def SameWindow (increment : BitVec 32) (first last : ℕ) : Prop :=
  ∀ i < CORR_WINDOW,
    (first + i * increment.toNat) / 2 ^ 31 = (last + i * increment.toNat) / 2 ^ 31

instance (increment : BitVec 32) (first last : ℕ) : Decidable (SameWindow increment first last) :=
  inferInstanceAs (Decidable (∀ i < CORR_WINDOW, _))

theorem SameWindow.toneWindow_eq {increment : BitVec 32} {first last phase : ℕ}
    (h : SameWindow increment first last) (hfirst : first ≤ phase) (hlast : phase ≤ last) :
    toneWindow increment (BitVec.ofNat 32 phase) =
      toneWindow increment (BitVec.ofNat 32 first) := by
  unfold toneWindow
  rw [oscillate_replicate, oscillate_replicate]
  refine congrArg (List.foldl slide 0) (List.map_congr_left fun i hi => ?_)
  have hsame := h i (List.mem_range.mp hi)
  have hlow : (first + i * increment.toNat) / 2 ^ 31 ≤ (phase + i * increment.toNat) / 2 ^ 31 :=
    Nat.div_le_div_right (Nat.add_le_add_right hfirst _)
  have hhigh : (phase + i * increment.toNat) / 2 ^ 31 ≤ (last + i * increment.toNat) / 2 ^ 31 :=
    Nat.div_le_div_right (Nat.add_le_add_right hlast _)
  rw [show (phase + i * increment.toNat) / 2 ^ 31 = (first + i * increment.toNat) / 2 ^ 31 by omega]

/-- A number below the last cut lies between two cuts. -/
theorem exists_between (cuts : List ℕ) : ∀ {first n : ℕ}, first ≤ n →
    n < (first :: cuts).getLast (List.cons_ne_nil _ _) →
    ∃ span ∈ (first :: cuts).zip cuts, span.1 ≤ n ∧ n < span.2 := by
  induction cuts with
  | nil => exact fun hfirst hlast => absurd hlast (not_lt.mpr hfirst)
  | cons second cuts ih =>
      intro first n hfirst hlast
      rcases lt_or_ge n second with hn | hn
      · exact ⟨(first, second), List.mem_cons_self, hfirst, hn⟩
      · rw [List.getLast_cons_cons] at hlast
        obtain ⟨span, hspan, hbetween⟩ := ih hn hlast
        exact ⟨span, List.mem_cons_of_mem _ hspan, hbetween⟩

/-- What holds of the windows between any two cuts holds of the tone in every phase. -/
theorem forall_toneWindow {increment : BitVec 32}
    (P : BitVec CORR_WINDOW → Prop) (cuts : List ℕ)
    (hlast : (0 :: cuts).getLast (List.cons_ne_nil _ _) = 2 ^ 32)
    (h : ∀ span ∈ (0 :: cuts).zip cuts, SameWindow increment span.1 (span.2 - 1) ∧
      P (toneWindow increment (BitVec.ofNat 32 span.1))) (phase : BitVec 32) :
    P (toneWindow increment phase) := by
  obtain ⟨span, hspan, hfirst, hbelow⟩ :=
    exists_between cuts (Nat.zero_le phase.toNat) (by rw [hlast]; exact phase.isLt)
  obtain ⟨hsame, hP⟩ := h span hspan
  have hwindow := hsame.toneWindow_eq hfirst (Nat.le_sub_one_of_lt hbelow)
  rw [BitVec.ofNat_toNat, BitVec.setWidth_eq] at hwindow
  rwa [hwindow]

/-- The phases at which the window of a mark changes. -/
def MARK_CUTS : List ℕ :=
  [268435456, 536870912, 805306368, 1073741824, 1342177280, 1610612736, 1879048192, 2147483648,
   2415919104, 2684354560, 2952790016, 3221225472, 3489660928, 3758096384, 4026531840, 4294967296]

/-- The phases at which the window of a space changes. -/
def SPACE_CUTS : List ℕ :=
  [178956972, 357913944, 671088641, 850045613, 1029002585, 1163220310, 1342177282, 1521134254,
   1655351979, 1834308951, 2013265923, 2147483648, 2326440620, 2505397592, 2818572289, 2997529261,
   3176486233, 3310703958, 3489660930, 3668617902, 3802835627, 3981792599, 4160749571, 4294967296]

theorem tellsTones_metricForPattern : TellsTones metricForPattern where
  mark := @forall_toneWindow MARK_INC (metricForPattern · < 0) MARK_CUTS rfl (by decide +kernel)
  space := @forall_toneWindow SPACE_INC (0 < metricForPattern ·) SPACE_CUTS rfl (by decide +kernel)

end YwdTnc
