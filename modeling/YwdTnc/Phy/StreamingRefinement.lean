import YwdTnc.Phy.StreamingDecoder
import Mathlib.Tactic.Linarith
import Mathlib.Tactic.FieldSimp

/-!
# The streaming decoder decides what the plain one decides

While the periods of the bank are between 15 and 64 samples, the window of a symbol is over
when the symbol ends and begins less than 40 samples before (`Timely`), so both rings still
hold what the symbol needs (`Tracks`). A hypothesis moves on by its period and is never
overdue, so the heap hands over what the scan finds (`DueQueue.drain_eq_scan`).
-/

namespace YwdTnc

open Coding

/-! ### Transitions -/

theorem transitions_append_cons (before : List Bool) (a : Bool) (after : List Bool) :
    transitions (before ++ a :: after) =
      transitions (before ++ [a]) + transitions (a :: after) := by
  induction before with
  | nil => simp [transitions]
  | cons b before ih =>
      cases before with
      | nil => simp [transitions]
      | cons c before =>
          simp only [List.cons_append, transitions] at ih ⊢
          rw [ih, Nat.add_assoc]

/-- The transition that a sample adds. -/
def transitionTo (raw : Bool) : Option Bool → ℕ
  | some previous => if raw ≠ previous then 1 else 0
  | none => 0

theorem transitions_concat (samples : List Bool) (raw : Bool) :
    transitions (samples ++ [raw]) =
      transitions samples + transitionTo raw samples.getLast? := by
  rcases List.eq_nil_or_concat samples with rfl | ⟨before, previous, rfl⟩
  · rfl
  · rw [List.concat_eq_append, List.append_assoc, List.singleton_append, transitions_append_cons]
    simp [transitions, transitionTo, eq_comm]

namespace PlainDecoder

theorem scanHypotheses_eq_scan {n : ℕ} (metricTable : BitVec CORR_WINDOW → ℚ)
    (samples : List Bool) (r : Reception n) :
    scanHypotheses metricTable samples r =
      DueQueue.scan (fun r order => (r.hypothesis order).symbolEnd)
        (classifyHypothesis metricTable samples) samples.length r := rfl

theorem feedSamples_samples {n : ℕ} (metricTable : BitVec CORR_WINDOW → ℚ) (p : PlainDecoder n)
    (samples : List Bool) :
    (p.feedSamples metricTable samples).samples = p.samples ++ samples := by
  induction samples generalizing p with
  | nil => exact (List.append_nil _).symm
  | cons raw samples ih =>
      have hrest := ih (p.feedSample metricTable raw)
      rw [feedSample, List.append_assoc, List.singleton_append] at hrest
      exact hrest

/-- The transitions within a slice, from the transitions up to its two ends. -/
theorem transitions_slice {samples : List Bool} {start stop : ℤ} (hstart : 0 ≤ start)
    (hlt : start < stop) (hstop : stop ≤ samples.length) :
    transitions (samples.take stop.toNat) =
      transitions (samples.take (start + 1).toNat) + transitions (slice samples start stop) := by
  obtain ⟨i, rfl⟩ := Int.eq_ofNat_of_zero_le hstart
  obtain ⟨k, rfl⟩ := Int.eq_ofNat_of_zero_le (le_trans hstart hlt.le)
  have hi : i < samples.length := by omega
  have hcons : slice samples i k = samples[i] :: (samples.drop (i + 1)).take (k - i - 1) := by
    have hk : ((k : ℤ) - i).toNat = k - i - 1 + 1 := by omega
    rw [slice, hk, Int.toNat_natCast, List.drop_eq_getElem_cons hi, List.take_succ_cons]
  have hleft : samples.take ((i : ℤ) + 1).toNat = samples.take i ++ [samples[i]] := by
    have hi' : ((i : ℤ) + 1).toNat = i + 1 := by omega
    rw [hi', List.take_succ_eq_append_getElem hi]
  have hright : samples.take (k : ℤ).toNat = samples.take i ++ slice samples i k := by
    have hk : k = i + (k - i) := by omega
    have hk' : ((k : ℤ) - i).toNat = k - i := by omega
    rw [slice, hk', Int.toNat_natCast, Int.toNat_natCast]
    conv_lhs => rw [hk, List.take_add]
  rw [hright, hleft, hcons, transitions_append_cons]

/-- A window within the samples is not changed by one more sample. -/
theorem windowAt_concat {samples : List Bool} {start : ℤ} (raw : Bool) (hstart : 0 ≤ start)
    (hwithin : start + CORR_WINDOW ≤ samples.length) :
    windowAt (samples ++ [raw]) start = windowAt samples start := by
  have hlength : CORR_WINDOW ≤ (samples.drop start.toNat).length := by
    rw [List.length_drop]
    omega
  rw [windowAt, windowAt, List.drop_append_of_le_length (by omega),
    List.take_append_of_le_length hlength]

theorem windowAt_last {samples : List Bool} (h : CORR_WINDOW ≤ samples.length) :
    windowAt samples (samples.length - CORR_WINDOW) = samples.foldl slide 0 := by
  have hstart : ((samples.length : ℤ) - CORR_WINDOW).toNat = samples.length - CORR_WINDOW := by
    omega
  rw [windowAt, hstart, List.take_of_length_le (by rw [List.length_drop]; omega)]
  exact (foldl_slide_drop 0 h).symm

end PlainDecoder

namespace SampleHistory

open PlainDecoder

variable {metricTable : BitVec CORR_WINDOW → ℚ} {samples : List Bool} {h : SampleHistory}

/-- The history is that of the samples. -/
structure Tracks (metricTable : BitVec CORR_WINDOW → ℚ) (samples : List Bool)
    (h : SampleHistory) : Prop where
  sampleIndex : h.sampleIndex + 1 = samples.length
  register : h.metricRegister = samples.foldl slide 0
  count : h.metricSampleCount = samples.length
  total : h.transitionsTotal = transitions samples
  previous : h.previousRaw = samples.getLast?
  metrics : h.metrics.Retains (fun i => metricTable (windowAt samples i)) 0
    (samples.length - CORR_WINDOW + 1)
  transitionPrefix : h.transitionPrefix.Retains
    (fun i => (transitions (samples.take i.toNat) : ℤ)) 1 (samples.length + 1)

theorem tracks_init : Tracks metricTable [] init where
  sampleIndex := rfl
  register := rfl
  count := rfl
  total := rfl
  previous := rfl
  metrics := TaggedRing.retains_of_le (by decide)
  transitionPrefix := TaggedRing.retains_of_le (by decide)

theorem feedSample_eq (raw : Bool) :
    h.feedSample metricTable raw =
      let total := h.transitionsTotal + transitionTo raw h.previousRaw
      { h with
        sampleIndex := h.sampleIndex + 1
        transitionsTotal := total
        previousRaw := some raw
        transitionPrefix := h.transitionPrefix.store (h.sampleIndex + 1 + 1) total
        : SampleHistory }.storeMetric metricTable raw := by
  unfold SampleHistory.feedSample
  cases hprevious : h.previousRaw with
  | none => simp [transitionTo, storeTransitionPrefix]
  | some previous =>
      by_cases hraw : raw = previous
      · simp [transitionTo, storeTransitionPrefix, hraw]
      · simp [transitionTo, storeTransitionPrefix, hraw]

/-- The running count of transitions with one more sample. -/
theorem Tracks.total_concat (ht : Tracks metricTable samples h) (raw : Bool) :
    h.transitionsTotal + transitionTo raw h.previousRaw =
      (transitions (samples ++ [raw]) : ℤ) := by
  rw [transitions_concat, ht.total, ht.previous, Nat.cast_add]

theorem Tracks.register_concat (ht : Tracks metricTable samples h) (raw : Bool) :
    slide h.metricRegister raw = (samples ++ [raw]).foldl slide 0 := by
  rw [ht.register, List.foldl_append, List.foldl_cons, List.foldl_nil]

/-- The count is stored behind those of the samples before. -/
theorem Tracks.transitionPrefix_concat (ht : Tracks metricTable samples h) (raw : Bool) :
    (h.transitionPrefix.store (h.sampleIndex + 1 + 1)
        (h.transitionsTotal + transitionTo raw h.previousRaw)).Retains
      (fun i => (transitions ((samples ++ [raw]).take i.toNat) : ℤ)) 1
      ((samples ++ [raw]).length + 1) := by
  have hlength : (samples ++ [raw]).length = samples.length + 1 := by simp
  have hold := ht.transitionPrefix.congr
    (g := fun i => (transitions ((samples ++ [raw]).take i.toNat) : ℤ)) fun i _ hi => by
      rw [List.take_append_of_le_length (by omega)]
  have hvalue : (transitions ((samples ++ [raw]).take ((samples.length : ℤ) + 1).toNat) : ℤ) =
      h.transitionsTotal + transitionTo raw h.previousRaw := by
    rw [ht.total_concat, List.take_of_length_le (by omega)]
  have hnew := hold.store
  rw [hvalue] at hnew
  rwa [ht.sampleIndex, hlength, Nat.cast_add_one]

/-- The metric of the last window is stored behind those of the windows before. -/
theorem Tracks.metrics_concat (ht : Tracks metricTable samples h) (raw : Bool)
    (henough : CORR_WINDOW ≤ samples.length + 1) :
    (h.metrics.store (h.sampleIndex + 1 - CORR_WINDOW + 1)
        (metricTable (slide h.metricRegister raw))).Retains
      (fun i => metricTable (windowAt (samples ++ [raw]) i)) 0
      ((samples ++ [raw]).length - CORR_WINDOW + 1) := by
  have hlength : (samples ++ [raw]).length = samples.length + 1 := by simp
  have hlast : windowAt (samples ++ [raw]) (samples.length - CORR_WINDOW + 1) =
      slide h.metricRegister raw := by
    have hwindow : windowAt (samples ++ [raw]) ((samples ++ [raw]).length - CORR_WINDOW) =
        (samples ++ [raw]).foldl slide 0 := windowAt_last (by omega)
    rw [hlength, Nat.cast_add_one, add_sub_right_comm] at hwindow
    rw [hwindow, ht.register_concat]
  have hold := ht.metrics.congr (g := fun i => metricTable (windowAt (samples ++ [raw]) i))
    fun i hlow hi => by rw [windowAt_concat raw hlow (by omega)]
  have hnew := hold.store
  rw [hlast] at hnew
  have hnext : ((samples ++ [raw]).length : ℤ) - CORR_WINDOW + 1 =
      samples.length - CORR_WINDOW + 1 + 1 := by omega
  rwa [hnext, ht.sampleIndex]

theorem Tracks.feedSample (ht : Tracks metricTable samples h) (raw : Bool) :
    Tracks metricTable (samples ++ [raw]) (h.feedSample metricTable raw) := by
  have hlength : (samples ++ [raw]).length = samples.length + 1 := by simp
  have hregister := ht.register_concat raw
  have htotal := ht.total_concat raw
  have hprefix := ht.transitionPrefix_concat raw
  have hindex := ht.sampleIndex
  rw [feedSample_eq]
  unfold storeMetric
  dsimp only
  split
  case isTrue hfew =>
    rw [ht.count] at hfew
    refine ⟨?_, hregister, ?_, htotal, ?_, TaggedRing.retains_of_le ?_, hprefix⟩
    · simp [hindex]
    · simp [ht.count]
    · simp
    · omega
  case isFalse henough =>
    rw [ht.count] at henough
    refine ⟨?_, hregister, ?_, htotal, ?_, ht.metrics_concat raw (by omega), hprefix⟩
    · simp [hindex]
    · simp [ht.count]
    · simp

/-- The metric of a window that ended within the last 128 samples is found. -/
theorem Tracks.metricAt (ht : Tracks metricTable samples h) {start : ℤ} (hstart : 0 ≤ start)
    (hwithin : start + CORR_WINDOW ≤ samples.length)
    (hnear : samples.length < start + HISTORY_SIZE) :
    h.metricAt start = some (metricTable (windowAt samples start)) := by
  have hlow : (CORR_WINDOW : ℤ) = 12 := rfl
  have hsize : (HISTORY_SIZE : ℤ) = 128 := rfl
  exact ht.metrics.lookup hstart (by omega) (by omega)

theorem Tracks.transitionCount (ht : Tracks metricTable samples h) {start stop : ℤ}
    (hstart : 0 ≤ start) (hlt : start + 2 ≤ stop) (hstop : stop = samples.length)
    (hnear : samples.length < start + HISTORY_SIZE) :
    h.transitionCount start stop = transitions (slice samples start stop) ∧
      h.transitionMiss start stop = false := by
  have hsize : (HISTORY_SIZE : ℤ) = 128 := rfl
  have hleft : h.transitionValue (start + 1) =
      some (transitions (samples.take (start + 1).toNat) : ℤ) :=
    ht.transitionPrefix.lookup (by omega) (by omega) (by omega)
  have hright : h.transitionValue stop = some (transitions (samples.take stop.toNat) : ℤ) :=
    ht.transitionPrefix.lookup (by omega) (by omega) (by omega)
  have hslice := transitions_slice hstart (by omega) hstop.le
  constructor
  · simp only [SampleHistory.transitionCount, hleft, hright]
    rw [if_neg (by omega), hslice]
    push_cast
    omega
  · simp [transitionMiss, hleft, hright]

end SampleHistory

namespace Hypothesis

variable {hyp : Hypothesis}

theorem boundary_within (hyp : Hypothesis) :
    hyp.nextSymbolEnd - hyp.period - 1 / 2 ≤ hyp.boundary ∧
      hyp.boundary ≤ hyp.nextSymbolEnd - hyp.period + 1 / 2 :=
  ⟨le_pyRound _, pyRound_le _⟩

theorem symbolEnd_within (hyp : Hypothesis) :
    hyp.nextSymbolEnd - 1 / 2 ≤ hyp.symbolEnd ∧ hyp.symbolEnd ≤ hyp.nextSymbolEnd + 1 / 2 :=
  ⟨le_pyRound _, pyRound_le _⟩

/-- The window of 12 samples lies in the middle of the symbol. -/
theorem centered_within (hyp : Hypothesis) :
    hyp.boundary + (hyp.period - 12) / 2 - 1 / 2 ≤ hyp.centered ∧
      hyp.centered ≤ hyp.boundary + (hyp.period - 12) / 2 + 1 / 2 := by
  have hlow := le_pyRound (hyp.boundary + (hyp.period - CORR_WINDOW) * (1 / 2))
  have hhigh := pyRound_le (hyp.boundary + (hyp.period - CORR_WINDOW) * (1 / 2))
  have hwindow : (CORR_WINDOW : ℚ) = 12 := rfl
  rw [← centered, hwindow] at hlow hhigh
  constructor
  · linarith
  · linarith

/-- The hypothesis has a period that the rings are made for, and its symbol begins within
the samples. -/
structure Timely (hyp : Hypothesis) : Prop where
  low : 15 ≤ hyp.period
  high : hyp.period ≤ 64
  within : hyp.period ≤ hyp.nextSymbolEnd

theorem Timely.boundary_nonneg (h : hyp.Timely) : 0 ≤ hyp.boundary :=
  pyRound_nonneg (by linarith [h.within])

theorem Timely.boundary_near (h : hyp.Timely) :
    hyp.boundary + 2 ≤ hyp.symbolEnd ∧ hyp.symbolEnd < hyp.boundary + HISTORY_SIZE := by
  obtain ⟨hlow, hhigh, -⟩ := h
  obtain ⟨hboundary, hboundary'⟩ := hyp.boundary_within
  obtain ⟨hsymbol, hsymbol'⟩ := hyp.symbolEnd_within
  constructor
  · have hcast : ((hyp.boundary + 2 : ℤ) : ℚ) ≤ hyp.symbolEnd := by
      push_cast
      linarith
    exact_mod_cast hcast
  · have hcast : (hyp.symbolEnd : ℚ) < ((hyp.boundary + 128 : ℤ) : ℚ) := by
      push_cast
      linarith
    exact_mod_cast hcast

theorem Timely.centered_nonneg (h : hyp.Timely) : 0 ≤ hyp.centered := by
  have hboundary : (0 : ℚ) ≤ hyp.boundary := by exact_mod_cast h.boundary_nonneg
  have hwindow : (CORR_WINDOW : ℚ) = 12 := rfl
  refine pyRound_nonneg ?_
  rw [hwindow]
  linarith [h.low]

/-- The correlation window is over when the symbol ends, and not for long. -/
theorem Timely.centered_near (h : hyp.Timely) :
    hyp.centered + CORR_WINDOW ≤ hyp.symbolEnd ∧
      hyp.symbolEnd < hyp.centered + HISTORY_SIZE := by
  obtain ⟨hlow, hhigh, -⟩ := h
  obtain ⟨hboundary, hboundary'⟩ := hyp.boundary_within
  obtain ⟨hsymbol, hsymbol'⟩ := hyp.symbolEnd_within
  obtain ⟨hcentered, hcentered'⟩ := hyp.centered_within
  constructor
  · have hcast : ((hyp.centered + 12 : ℤ) : ℚ) ≤ hyp.symbolEnd := by
      push_cast
      linarith
    exact_mod_cast hcast
  · have hcast : (hyp.symbolEnd : ℚ) < ((hyp.centered + 128 : ℤ) : ℚ) := by
      push_cast
      linarith
    exact_mod_cast hcast

/-- A hypothesis as `__init__` makes it, with a period that the rings are made for. -/
structure InBand (hyp : Hypothesis) : Prop where
  low : 15 ≤ hyp.period
  high : hyp.period ≤ 64
  phase : 0 ≤ hyp.phase
  first : hyp.nextSymbolEnd = hyp.phase + hyp.period

/-- The sample at which a hypothesis ends its symbols, the first of them the symbol 0. -/
def symbolEndAt (hyp : Hypothesis) (j : ℕ) : ℤ := pyRound (hyp.phase + (j + 1) * hyp.period)

/-- One period on, the symbol end has moved. -/
theorem pyRound_add_lt {period : ℚ} (hlow : 15 ≤ period) (x : ℚ) :
    pyRound x < pyRound (x + period) := by
  have h₁ := pyRound_le x
  have h₂ := le_pyRound (x + period)
  have hcast : (pyRound x : ℚ) < pyRound (x + period) := by linarith
  exact_mod_cast hcast

theorem InBand.symbolEndAt_lt (h : hyp.InBand) {i j : ℕ} (hij : i < j) :
    hyp.symbolEndAt i < hyp.symbolEndAt j := by
  refine strictMono_nat_of_lt_succ (fun j => ?_) hij
  have hnext : hyp.phase + ((j + 1 : ℕ) + 1) * hyp.period =
      hyp.phase + (j + 1) * hyp.period + hyp.period := by
    push_cast
    ring
  rw [symbolEndAt, symbolEndAt, hnext]
  exact pyRound_add_lt h.low _

theorem length_bank (bauds phases : List ℚ) :
    (bank bauds phases).length = bauds.length * phases.length := by
  simp [bank]

theorem mem_bank {bauds phases : List ℚ} (hmem : hyp ∈ bank bauds phases) :
    ∃ baud ∈ bauds, ∃ phase ∈ phases, hyp.period = SAMPLE_RATE / baud ∧ hyp.phase = phase ∧
      hyp.nextSymbolEnd = hyp.phase + hyp.period := by
  obtain ⟨baud, hbaud, hin⟩ := List.mem_flatMap.mp hmem
  obtain ⟨phase, hphase, rfl⟩ := List.mem_map.mp hin
  exact ⟨baud, hbaud, phase, hphase, rfl, rfl, rfl⟩

end Hypothesis

/-! ### One decision -/

namespace Receiver

theorem emitBit_timing (r : Receiver) (bit : Bool) (bitSample : ℤ) :
    (r.emitBit bit bitSample).hyp.nextSymbolEnd = r.hyp.nextSymbolEnd ∧
      (r.emitBit bit bitSample).hyp.period = r.hyp.period := by
  have hbuffer : ((r.shiftBit bit).bufferBit bit).hyp.nextSymbolEnd = r.hyp.nextSymbolEnd ∧
      ((r.shiftBit bit).bufferBit bit).hyp.period = r.hyp.period := by
    unfold bufferBit
    split
    · exact ⟨rfl, rfl⟩
    · dsimp only
      split <;> exact ⟨rfl, rfl⟩
  unfold emitBit
  dsimp only
  split
  · exact hbuffer
  · exact hbuffer

theorem classify_timing (r : Receiver) (selector : Bool) :
    (r.classify selector).hyp.nextSymbolEnd = r.hyp.nextSymbolEnd + r.hyp.period ∧
      (r.classify selector).hyp.period = r.hyp.period := by
  obtain ⟨hend, hperiod⟩ := emitBit_timing (r.select selector)
    (bitOfSelector r.hyp.previousSelector selector) (max 0 (pyRound r.hyp.nextSymbolEnd - 1))
  exact ⟨congrArg₂ (· + ·) hend hperiod, hperiod⟩

end Receiver

namespace Reception

variable {n : ℕ} {r : Reception n} {order order' : Fin n}

/-- The decisions of one hypothesis. -/
def decisionsOf (r : Reception n) (order : Fin n) : List Decision :=
  r.decisions.filter (·.order = order)

theorem classify_other (h : order' ≠ order) (sampleCount : ℤ) (norm : ℚ) (zc : ℤ) :
    (r.classify order sampleCount norm zc).hypothesis order' = r.hypothesis order' ∧
      (r.classify order sampleCount norm zc).decisionsOf order' = r.decisionsOf order' := by
  have hne : (order : ℕ) ≠ order' := fun heq => h (Fin.ext heq.symm)
  constructor
  · exact Vector.getElem_set_ne order.isLt order'.isLt hne
  · simp [decisionsOf, classify, hne]

theorem skip_other (h : order' ≠ order) :
    (r.skip order).hypothesis order' = r.hypothesis order' :=
  Vector.getElem_set_ne order.isLt order'.isLt fun heq => h (Fin.ext heq.symm)

theorem classify_self (r : Reception n) (order : Fin n) (sampleCount : ℤ) (norm : ℚ) (zc : ℤ) :
    ((r.classify order sampleCount norm zc).hypothesis order).nextSymbolEnd =
        (r.hypothesis order).nextSymbolEnd + (r.hypothesis order).period ∧
      ((r.classify order sampleCount norm zc).hypothesis order).period =
        (r.hypothesis order).period ∧
      ((r.classify order sampleCount norm zc).decisionsOf order).map (·.sampleCount) =
        (r.decisionsOf order).map (·.sampleCount) ++ [sampleCount] := by
  obtain ⟨hend, hperiod⟩ := Receiver.classify_timing (r.receiver order) (selectorOf norm zc)
  have hself : (r.classify order sampleCount norm zc).hypothesis order =
      ((r.receiver order).classify (selectorOf norm zc)).hyp :=
    Vector.getElem_set_self order.isLt
  refine ⟨?_, ?_, ?_⟩
  · rw [hself]
    exact hend
  · rw [hself]
    exact hperiod
  · simp [decisionsOf, classify]

end Reception

/-! ### One hypothesis through the run -/

/-- The hypothesis that began as `start` has classified its first `m` symbols, each when it
had ended, and waits for the next one. -/
structure OnTime {n : ℕ} (start : Hypothesis) (now : ℤ) (r : Reception n) (order : Fin n)
    (m : ℕ) : Prop where
  period : (r.hypothesis order).period = start.period
  nextSymbolEnd : (r.hypothesis order).nextSymbolEnd = start.phase + (m + 1) * start.period
  times : (r.decisionsOf order).map (·.sampleCount) = (List.range m).map start.symbolEndAt
  past : ∀ j < m, start.symbolEndAt j ≤ now

namespace OnTime

variable {n m : ℕ} {start : Hypothesis} {now later : ℤ} {r : Reception n} {order order' : Fin n}

theorem timely (h : OnTime start now r order m) (hband : start.InBand) :
    (r.hypothesis order).Timely where
  low := h.period ▸ hband.low
  high := h.period ▸ hband.high
  within := by
    have hlow := hband.low
    have hphase := hband.phase
    have hpast : 0 ≤ (m : ℚ) * start.period := mul_nonneg (Nat.cast_nonneg m) (by linarith)
    rw [h.period, h.nextSymbolEnd]
    linarith

theorem symbolEnd (h : OnTime start now r order m) :
    (r.hypothesis order).symbolEnd = start.symbolEndAt m := by
  rw [Hypothesis.symbolEnd, h.nextSymbolEnd, Hypothesis.symbolEndAt]

theorem mono (h : OnTime start now r order m) (hle : now ≤ later) :
    OnTime start later r order m :=
  { h with past := fun j hj => le_trans (h.past j hj) hle }

theorem classify_other (h : OnTime start now r order' m) (hne : order' ≠ order)
    (sampleCount : ℤ) (norm : ℚ) (zc : ℤ) :
    OnTime start now (r.classify order sampleCount norm zc) order' m := by
  obtain ⟨hhyp, hdecisions⟩ := Reception.classify_other (r := r) hne sampleCount norm zc
  constructor
  · rw [hhyp, h.period]
  · rw [hhyp, h.nextSymbolEnd]
  · rw [hdecisions, h.times]
  · exact h.past

theorem classify_self (h : OnTime start now r order m)
    (hdue : (r.hypothesis order).symbolEnd = now) (norm : ℚ) (zc : ℤ) :
    OnTime start now (r.classify order now norm zc) order (m + 1) := by
  obtain ⟨hend, hperiod, htimes⟩ := Reception.classify_self r order now norm zc
  have hnow : start.symbolEndAt m = now := by rw [← h.symbolEnd, hdue]
  constructor
  · rw [hperiod, h.period]
  · rw [hend, h.nextSymbolEnd, h.period]
    push_cast
    ring
  · rw [htimes, h.times, List.range_succ, List.map_append, List.map_singleton, hnow]
  · intro j hj
    rcases Nat.lt_succ_iff_lt_or_eq.mp hj with hlt | rfl
    · exact h.past j hlt
    · exact hnow.le

end OnTime

/-! ### The heap -/

namespace StreamingBell202Decoder

variable {n : ℕ} {metricTable : BitVec CORR_WINDOW → ℚ} {samples : List Bool}
  {d : StreamingBell202Decoder n} {order order' : Fin n}

theorem classifyHypothesis_history :
    (d.classifyHypothesis order).history = d.history := by
  unfold classifyHypothesis
  dsimp only
  split <;> rfl

theorem classifyHypothesis_schedule (schedule : List (ℤ ×ₗ Fin n)) :
    classifyHypothesis { d with schedule } order =
      { d.classifyHypothesis order with schedule } := by
  unfold classifyHypothesis
  dsimp only
  split <;> rfl

theorem dueTime_other (h : order' ≠ order) :
    (d.classifyHypothesis order).dueTime order' = d.dueTime order' := by
  unfold classifyHypothesis dueTime
  dsimp only
  split
  · rw [Reception.skip_other h]
  · rw [(Reception.classify_other h _ _ _).1]

/-- The loop of `_classify_due_symbols` drains a queue of due times. -/
theorem classifyDueSymbols_eq_drain (fuel : ℕ) (d : StreamingBell202Decoder n)
    (schedule : List (ℤ ×ₗ Fin n)) :
    classifyDueSymbols fuel { d with schedule } =
      (DueQueue.drain dueTime classifyHypothesis (d.history.sampleIndex + 1) fuel
        (schedule, d)).map fun s => { s.2 with schedule := s.1 } := by
  induction fuel generalizing d schedule with
  | zero => rfl
  | succ fuel ih =>
      cases schedule with
      | nil => rfl
      | cons entry schedule =>
          simp only [classifyDueSymbols, DueQueue.drain]
          split
          · have hrest := ih (d.classifyHypothesis (ofLex entry).2)
              (DueQueue.push (toLex ((d.classifyHypothesis (ofLex entry).2).dueTime
                (ofLex entry).2, (ofLex entry).2)) schedule)
            rw [congrArg SampleHistory.sampleIndex classifyHypothesis_history] at hrest
            rw [classifyHypothesis_schedule]
            exact hrest
          · rfl

/-- When a symbol ends at the last sample, everything that it needs is in the rings. -/
theorem classifyHypothesis_eq_plain (ht : SampleHistory.Tracks metricTable samples d.history)
    (htimely : (d.reception.hypothesis order).Timely) (hdue : d.dueTime order = samples.length) :
    d.classifyHypothesis order =
      { d with
        reception := PlainDecoder.classifyHypothesis metricTable samples d.reception order } := by
  have hend : (d.reception.hypothesis order).symbolEnd = samples.length := hdue
  obtain ⟨hover, hnear⟩ := htimely.centered_near
  obtain ⟨hlong, hnear'⟩ := htimely.boundary_near
  have hmetric := ht.metricAt htimely.centered_nonneg (by omega) (by omega)
  obtain ⟨hcount, hmiss⟩ := ht.transitionCount htimely.boundary_nonneg hlong hend (by omega)
  unfold classifyHypothesis PlainDecoder.classifyHypothesis
  simp only [hmetric, hcount, hmiss, ht.sampleIndex]
  rfl

/-- What stays true while the symbols that end at the last sample are classified. -/
structure Current (metricTable : BitVec CORR_WINDOW → ℚ) (start : Fin n → Hypothesis)
    (samples : List Bool) (d : StreamingBell202Decoder n) : Prop where
  tracks : SampleHistory.Tracks metricTable samples d.history
  missed : d.missed = 0
  onTime : ∀ order, ∃ m, OnTime (start order) samples.length d.reception order m

variable {start : Fin n → Hypothesis}

theorem Current.classifyHypothesis_eq (h : Current metricTable start samples d)
    (hband : ∀ order, (start order).InBand) (hdue : d.dueTime order = samples.length) :
    d.classifyHypothesis order =
      { d with
        reception := PlainDecoder.classifyHypothesis metricTable samples d.reception order } := by
  obtain ⟨m, honTime⟩ := h.onTime order
  exact classifyHypothesis_eq_plain h.tracks (honTime.timely (hband order)) hdue

theorem putsOff (hband : ∀ order, (start order).InBand) :
    DueQueue.PutsOff dueTime classifyHypothesis (Current metricTable start samples)
      samples.length where
  keeps := by
    intro d order h hdue
    rw [h.classifyHypothesis_eq hband hdue]
    refine ⟨h.tracks, h.missed, fun order' => ?_⟩
    obtain ⟨m, honTime⟩ := h.onTime order'
    by_cases horder : order' = order
    · subst horder
      exact ⟨m + 1, honTime.classify_self hdue _ _⟩
    · exact ⟨m, honTime.classify_other horder _ _ _⟩
  other := fun d order order' hne => dueTime_other hne
  later := by
    intro d order h hdue
    obtain ⟨m, honTime⟩ := h.onTime order
    have hnext := fun norm zc => (honTime.classify_self hdue norm zc).symbolEnd
    rw [h.classifyHypothesis_eq hband hdue, ← hdue]
    calc d.dueTime order = (start order).symbolEndAt m := honTime.symbolEnd
      _ < (start order).symbolEndAt (m + 1) :=
          (hband order).symbolEndAt_lt (Nat.lt_succ_self m)
      _ = _ := (hnext _ _).symm

/-- With no symbol overdue, the loop does what the scan of the bank does. -/
theorem Current.classifyDueSymbols (h : Current metricTable start samples d)
    (hband : ∀ order, (start order).InBand) (hqueued : DueQueue.Queued dueTime d.schedule d)
    (hdue : ∀ order, samples.length ≤ d.dueTime order) {fuel : ℕ} (hfuel : n < fuel) :
    ∃ d', classifyDueSymbols fuel d = some d' ∧ Current metricTable start samples d' ∧
      d'.reception = PlainDecoder.scanHypotheses metricTable samples d.reception ∧
      DueQueue.Queued dueTime d'.schedule d' ∧ ∀ order, samples.length < d'.dueTime order := by
  obtain ⟨schedule, hdrain, hqueued', hcurrent, hlater⟩ :=
    DueQueue.drain_eq_scan (putsOff hband) h hqueued hdue hfuel
  have hscan : (DueQueue.scan dueTime classifyHypothesis samples.length d).reception =
      PlainDecoder.scanHypotheses metricTable samples d.reception := by
    rw [PlainDecoder.scanHypotheses_eq_scan]
    exact DueQueue.map_scan (f := reception) (putsOff hband) h hdue (fun _ _ => rfl)
      fun d order h hdue => by rw [h.classifyHypothesis_eq hband hdue]
  have hloop := classifyDueSymbols_eq_drain fuel d d.schedule
  rw [h.tracks.sampleIndex, hdrain] at hloop
  generalize DueQueue.scan dueTime classifyHypothesis samples.length d = scanned at *
  exact ⟨{ scanned with schedule }, hloop, ⟨hcurrent.tracks, hcurrent.missed, hcurrent.onTime⟩,
    hscan, hqueued'.congr fun _ => rfl, hlater⟩

/-! ### The run -/

/-- Between two samples: the decoders have decided the same, and nothing is overdue. -/
structure Agrees (metricTable : BitVec CORR_WINDOW → ℚ) (start : Fin n → Hypothesis)
    (d : StreamingBell202Decoder n) (p : PlainDecoder n) : Prop where
  current : Current metricTable start p.samples d
  reception : d.reception = p.reception
  queued : DueQueue.Queued dueTime d.schedule d
  later : ∀ order, (p.samples.length : ℤ) < d.dueTime order

variable {p : PlainDecoder n} {fuel : ℕ}

theorem Agrees.feedSample (h : Agrees metricTable start d p)
    (hband : ∀ order, (start order).InBand) (hfuel : n < fuel) (raw : Bool) :
    ∃ d', d.feedSample metricTable fuel raw = some d' ∧
      Agrees metricTable start d' (p.feedSample metricTable raw) := by
  have hlength : ((p.samples ++ [raw]).length : ℤ) = p.samples.length + 1 := by simp
  have hcurrent : Current metricTable start (p.samples ++ [raw])
      { d with history := d.history.feedSample metricTable raw } := by
    refine ⟨h.current.tracks.feedSample raw, h.current.missed, fun order => ?_⟩
    obtain ⟨m, honTime⟩ := h.current.onTime order
    exact ⟨m, honTime.mono (by omega)⟩
  have hdue : ∀ order, ((p.samples ++ [raw]).length : ℤ) ≤ d.dueTime order := by
    intro order
    rw [hlength]
    exact h.later order
  obtain ⟨d', hloop, hcurrent', hreception, hqueued, hlater⟩ :=
    hcurrent.classifyDueSymbols hband (h.queued.congr fun _ => rfl) hdue hfuel
  refine ⟨d', hloop, hcurrent', ?_, hqueued, hlater⟩
  rw [hreception]
  exact congrArg (PlainDecoder.scanHypotheses metricTable (p.samples ++ [raw])) h.reception

theorem Agrees.feedSamples (h : Agrees metricTable start d p)
    (hband : ∀ order, (start order).InBand) (hfuel : n < fuel) (samples : List Bool) :
    ∃ d', d.feedSamples metricTable fuel samples = some d' ∧
      Agrees metricTable start d' (p.feedSamples metricTable samples) := by
  induction samples generalizing d p with
  | nil => exact ⟨d, rfl, h⟩
  | cons raw samples ih =>
      obtain ⟨next, hnext, hagrees⟩ := h.feedSample hband hfuel raw
      obtain ⟨d', hrun, hagrees'⟩ := ih hagrees
      refine ⟨d', ?_, hagrees'⟩
      rw [StreamingBell202Decoder.feedSamples, List.foldlM_cons, hnext]
      exact hrun

/-- A call of `feed` returns what the plain decoder returns. -/
theorem Agrees.feed (h : Agrees metricTable start d p)
    (hband : ∀ order, (start order).InBand) (hfuel : n < fuel) (packed : Bytes) :
    ∃ d', d.feed metricTable fuel packed = some ((p.feed metricTable packed).1, d') ∧
      Agrees metricTable start d' (p.feed metricTable packed).2 := by
  have hcleared : Agrees metricTable start
      { d with
        packedBytes := d.packedBytes + packed.length
        reception := { d.reception with fresh := [] } }
      { p with reception := { p.reception with fresh := [] } } := by
    refine ⟨⟨h.current.tracks, h.current.missed, fun order => ?_⟩, ?_,
      h.queued.congr fun _ => rfl, h.later⟩
    · obtain ⟨m, honTime⟩ := h.current.onTime order
      exact ⟨m, ⟨honTime.period, honTime.nextSymbolEnd, honTime.times, honTime.past⟩⟩
    · rw [h.reception]
  obtain ⟨d', hrun, hagrees⟩ := hcleared.feedSamples hband hfuel (packed.flatMap BYTE_BITS)
  refine ⟨d', ?_, hagrees⟩
  unfold StreamingBell202Decoder.feed
  dsimp only
  rw [hrun]
  simp only [Option.bind_eq_bind, Option.bind_some, hagrees.reception]
  rfl

theorem Agrees.feedCalls (h : Agrees metricTable start d p)
    (hband : ∀ order, (start order).InBand) (hfuel : n < fuel) (calls : List Bytes) :
    ∃ d', d.feedCalls metricTable fuel calls = some ((p.feedCalls metricTable calls).1, d') ∧
      Agrees metricTable start d' (p.feedCalls metricTable calls).2 := by
  induction calls generalizing d p with
  | nil => exact ⟨d, rfl, h⟩
  | cons packed calls ih =>
      obtain ⟨next, hnext, hagrees⟩ := h.feed hband hfuel packed
      obtain ⟨d', hrun, hagrees'⟩ := ih hagrees
      refine ⟨d', ?_, hagrees'⟩
      simp only [StreamingBell202Decoder.feedCalls, hnext, Option.bind_eq_bind, Option.bind_some,
        hrun]
      rfl

theorem agrees_ofBank {bank : List Hypothesis} (hband : ∀ hyp ∈ bank, hyp.InBand) :
    Agrees metricTable (bank.get) (ofBank bank) (PlainDecoder.ofBank bank) := by
  have hin : ∀ order : Fin bank.length, (bank.get order).InBand := fun order =>
    hband _ (List.getElem_mem order.isLt)
  have honTime : ∀ order : Fin bank.length,
      OnTime (bank.get order) 0 (Reception.ofBank bank) order 0 := by
    intro order
    refine ⟨rfl, ?_, rfl, nofun⟩
    have hfirst : bank[order].nextSymbolEnd = bank[order].phase + bank[order].period :=
      (hin order).first
    have hone : ((0 : ℕ) : ℚ) + 1 = 1 := by norm_num
    rw [hone, one_mul]
    exact hfirst
  have hqueued : DueQueue.Queued dueTime _ (ofBank bank) := DueQueue.queued_fill _
  refine ⟨⟨SampleHistory.tracks_init, rfl, fun order => ⟨0, honTime order⟩⟩, rfl,
    hqueued.congr fun _ => rfl, fun order => ?_⟩
  have htimely := (honTime order).timely (hin order)
  have hboundary := htimely.boundary_nonneg
  have hlong := htimely.boundary_near.1
  have hdue : (0 : ℤ) < ((Reception.ofBank bank).hypothesis order).symbolEnd := by omega
  exact hdue

/-- Each hypothesis has classified the symbols that have ended, each at its end. -/
theorem Agrees.once (h : Agrees metricTable start d p)
    (hband : ∀ order, (start order).InBand) (order : Fin n) :
    ∃ m, (d.reception.decisionsOf order).map (·.sampleCount) =
        (List.range m).map (start order).symbolEndAt ∧
      ∀ j, j < m ↔ (start order).symbolEndAt j ≤ p.samples.length := by
  obtain ⟨m, honTime⟩ := h.current.onTime order
  refine ⟨m, honTime.times, fun j => ⟨honTime.past j, fun hended => ?_⟩⟩
  by_contra hnot
  have hlater := h.later order
  have hdue : d.dueTime order = (start order).symbolEndAt m := honTime.symbolEnd
  rcases (not_lt.mp hnot).lt_or_eq with hlt | rfl
  · have hmono := (hband order).symbolEndAt_lt hlt
    omega
  · omega

theorem init_ok {bauds phases : List ℚ} (hbauds : bauds ≠ []) (hphases : phases ≠ [])
    (hpositive : ∀ baud ∈ bauds, 0 < baud) :
    init bauds phases = .ok (ofBank (Hypothesis.bank bauds phases)) := by
  have hnone : ¬ ∃ value ∈ bauds, value ≤ 0 := by simpa using hpositive
  simp [init, hbauds, hphases, hnone]

section Bank

variable {bauds phases : List ℚ}
  (hperiods : ∀ baud ∈ bauds, 15 ≤ SAMPLE_RATE / baud ∧ SAMPLE_RATE / baud ≤ 64)
  (hphase : ∀ phase ∈ phases, 0 ≤ phase)

include hperiods

theorem baud_pos {baud : ℚ} (hbaud : baud ∈ bauds) : 0 < baud := by
  by_contra hnot
  have hrate : (0 : ℚ) ≤ SAMPLE_RATE := by norm_num [SAMPLE_RATE]
  have hperiod := div_nonpos_of_nonneg_of_nonpos hrate (not_lt.mp hnot)
  linarith [(hperiods baud hbaud).1]

include hphase

theorem inBand_bank {hyp : Hypothesis} (hmem : hyp ∈ Hypothesis.bank bauds phases) :
    hyp.InBand := by
  obtain ⟨baud, hbaud, phase, hin, hperiod, hhypPhase, hfirst⟩ := Hypothesis.mem_bank hmem
  constructor
  · rw [hperiod]
    exact (hperiods baud hbaud).1
  · rw [hperiod]
    exact (hperiods baud hbaud).2
  · rw [hhypPhase]
    exact hphase phase hin
  · exact hfirst

/-- Whatever calls of `feed` it gets, the decoder returns what the plain one returns. -/
theorem feedCalls_eq_plain (hbauds : bauds ≠ []) (hphases : phases ≠ []) {fuel : ℕ}
    (hfuel : bauds.length * phases.length < fuel) (metricTable : BitVec CORR_WINDOW → ℚ)
    (calls : List Bytes) :
    ∃ d d', init bauds phases = .ok d ∧ d.feedCalls metricTable fuel calls =
      some (((PlainDecoder.ofBank (Hypothesis.bank bauds phases)).feedCalls metricTable calls).1,
        d') := by
  have hband : ∀ hyp ∈ Hypothesis.bank bauds phases, hyp.InBand := fun hyp =>
    inBand_bank hperiods hphase
  rw [← Hypothesis.length_bank] at hfuel
  obtain ⟨d', hrun, -⟩ := (agrees_ofBank hband).feedCalls
    (fun order => hband _ (List.getElem_mem order.isLt)) hfuel calls
  exact ⟨_, d', init_ok hbauds hphases fun baud => baud_pos hperiods, hrun⟩

/-- After any samples the decoder has taken the decisions of the plain one, and found the same
frames. No lookup has missed, and each hypothesis has classified the symbols that have ended,
once each, at the sample at which they end. -/
theorem feedSamples_eq_plain (hbauds : bauds ≠ []) (hphases : phases ≠ []) {fuel : ℕ}
    (hfuel : bauds.length * phases.length < fuel) (metricTable : BitVec CORR_WINDOW → ℚ)
    (samples : List Bool) :
    ∃ d d', init bauds phases = .ok d ∧ d.feedSamples metricTable fuel samples = some d' ∧
      d'.reception = ((PlainDecoder.ofBank (Hypothesis.bank bauds phases)).feedSamples
        metricTable samples).reception ∧
      d'.missed = 0 ∧
      ∀ order : Fin (Hypothesis.bank bauds phases).length,
        ∃ m, (d'.reception.decisionsOf order).map (·.sampleCount) =
            (List.range m).map ((Hypothesis.bank bauds phases).get order).symbolEndAt ∧
          ∀ j, j < m ↔
            ((Hypothesis.bank bauds phases).get order).symbolEndAt j ≤ samples.length := by
  have hband : ∀ hyp ∈ Hypothesis.bank bauds phases, hyp.InBand := fun hyp =>
    inBand_bank hperiods hphase
  have hin : ∀ order : Fin (Hypothesis.bank bauds phases).length,
      ((Hypothesis.bank bauds phases).get order).InBand := fun order =>
    hband _ (List.getElem_mem order.isLt)
  rw [← Hypothesis.length_bank] at hfuel
  obtain ⟨d', hrun, hagrees⟩ := (agrees_ofBank hband).feedSamples hin hfuel samples
  refine ⟨_, d', init_ok hbauds hphases fun baud => baud_pos hperiods, hrun, hagrees.reception,
    hagrees.current.missed, fun order => ?_⟩
  have honce := hagrees.once hin order
  rwa [PlainDecoder.feedSamples_samples] at honce

end Bank

/-- The samples of a mark and of a space. -/
def toneSamples : List Bool :=
  [false, false, false, false, false, false, false, false, true, true, true, true, true, true,
    true, true, false, false, false, false, true, true, true, true, true, false, false, false,
    false, true, true, true, true, false]

/-- One hypothesis hears the mark and the space, the other one symbol between them. -/
theorem feedSamples_eq_plain_tones :
    ∃ d d', init [1200] [0, 4] = .ok d ∧
      d.feedSamples metricForPattern 3 toneSamples = some d' ∧ d'.missed = 0 ∧
      d'.reception.decisions.map
          (fun decision => (decision.order, decision.sampleCount, decision.zc, decision.selector)) =
        [(0, 16, 1, false), (1, 20, 2, false), (0, 32, 3, true)] := by
  obtain ⟨d, d', hinit, hrun, hreception, hmissed, -⟩ :=
    @feedSamples_eq_plain [1200] [0, 4] (by decide +kernel) (by decide +kernel) (by simp) (by simp)
      3 (by decide) metricForPattern toneSamples
  refine ⟨d, d', hinit, hrun, hmissed, ?_⟩
  rw [hreception]
  decide +kernel

/-- The frozen bank has periods of about 16 samples. -/
theorem period_default : ∀ baud ∈ DEFAULT_BAUDS,
    15 ≤ SAMPLE_RATE / baud ∧ SAMPLE_RATE / baud ≤ 64 := by
  intro baud hmem
  obtain ⟨value, hvalue, rfl⟩ := List.mem_map.mp hmem
  obtain ⟨hlow, hhigh⟩ := List.mem_range'_1.mp hvalue
  have hlow' : (1196 : ℚ) ≤ value := by exact_mod_cast hlow
  have hhigh' : (value : ℚ) < 1205 := by exact_mod_cast hhigh
  have hpos : (0 : ℚ) < value := by linarith
  rw [SAMPLE_RATE, le_div_iff₀ hpos, div_le_iff₀ hpos]
  constructor <;> linarith

theorem phase_default : ∀ phase ∈ DEFAULT_PHASES, 0 ≤ phase := by
  intro phase hmem
  obtain ⟨value, -, rfl⟩ := List.mem_map.mp hmem
  exact Nat.cast_nonneg value

end StreamingBell202Decoder

end YwdTnc
