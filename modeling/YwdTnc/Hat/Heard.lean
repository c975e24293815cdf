import YwdTnc.Hat.Runs
import YwdTnc.Hat.Tones
import YwdTnc.Phy.Hearing

/-!
# The waveform as the receiver hears it

A symbol of the modem is sixteen samples of a tone, which begins in any phase. A mark changes its
level at most twice within them and a space at least three times, so that the decoder decides
every symbol right as long as the metrics of the two tones have their signs (`TellsTones`), even
where a metric is within the indifference. The samples of the modem are the symbols of its burst.
-/

namespace YwdTnc

open Coding CAX25AFSKTX

theorem transitions_eq (samples : List Bool) : transitions samples = levelChanges samples := by
  induction samples with
  | nil => rfl
  | cons first samples ih =>
      cases samples with
      | nil => rfl
      | cons second samples => rw [transitions, levelChanges, ih]

theorem selectorOf_of_neg {norm : ℚ} {zc : ℤ} (hnorm : norm < 0) (hzc : zc < 3) :
    selectorOf norm zc = false := by
  unfold selectorOf
  split_ifs
  · exact decide_eq_false (not_lt.mpr hnorm.le)
  · exact decide_eq_false (not_le.mpr hzc)

theorem selectorOf_of_pos {norm : ℚ} {zc : ℤ} (hnorm : 0 < norm) (hzc : 3 ≤ zc) :
    selectorOf norm zc = true := by
  unfold selectorOf
  split_ifs
  · exact decide_eq_true hnorm
  · exact decide_eq_true hzc

namespace CAX25AFSKTX

/-- The samples of a symbol. -/
theorem blockAt_waveform {selectors : List Bool} {k : ℕ} {selector : Bool}
    (h : selectors[k]? = some selector) :
    ∃ phase, blockAt 0 (waveform selectors) k =
      oscillate phase (List.replicate SAMPLES_PER_SYMBOL (increment selector)) := by
  refine ⟨phaseAfter 0 ((increments selectors).take (SAMPLES_PER_SYMBOL * k)), ?_⟩
  have hsymbol : ((increments selectors).drop (SAMPLES_PER_SYMBOL * k)).take SAMPLES_PER_SYMBOL =
      List.replicate SAMPLES_PER_SYMBOL (increment selector) := by
    rw [increments, ← List.map_drop, ← List.map_take, take_drop_hold _ h, List.map_replicate]
  rw [blockAt, Nat.zero_add, waveform]
  change ((oscillate 0 _).drop (SAMPLES_PER_SYMBOL * k)).take SAMPLES_PER_SYMBOL = _
  rw [drop_oscillate, take_oscillate, hsymbol]

theorem window_block (increment phase : BitVec 32) :
    (((oscillate phase (List.replicate SAMPLES_PER_SYMBOL increment)).drop 2).take
      CORR_WINDOW).foldl slide 0 = toneWindow increment (phase + increment + increment) := by
  rw [drop_oscillate, take_oscillate]
  rfl

/-- The level changes within a symbol. -/
theorem transitions_block {increment : BitVec 32} (h : increment.toNat < 2 ^ 31)
    (phase : BitVec 32) :
    transitions (oscillate phase (List.replicate SAMPLES_PER_SYMBOL increment)) =
      (phase.toNat % 2 ^ 31 + 15 * increment.toNat) / 2 ^ 31 := by
  have hsymbol : List.replicate SAMPLES_PER_SYMBOL increment =
      List.replicate 15 increment ++ [increment] := rfl
  have hall : ∀ x ∈ List.replicate 15 increment, x.toNat < 2 ^ 31 := by
    intro x hx
    rwa [List.eq_of_mem_replicate hx]
  rw [transitions_eq, hsymbol, levelChanges_oscillate phase _ hall, List.map_replicate,
    List.sum_replicate_nat]

theorem increment_false : increment false = MARK_INC := rfl

theorem increment_true : increment true = SPACE_INC := rfl

theorem symbolOf_block {metricTable : BitVec CORR_WINDOW → ℚ} (h : TellsTones metricTable)
    (selector : Bool) (phase : BitVec 32) :
    symbolOf metricTable
      (oscillate phase (List.replicate SAMPLES_PER_SYMBOL (increment selector))) = selector := by
  have hhalf : phase.toNat % 2 ^ 31 < 2 ^ 31 := Nat.mod_lt _ (by decide)
  rw [symbolOf, window_block]
  cases selector with
  | false =>
      refine selectorOf_of_neg (h.mark _) ?_
      have hcount := transitions_block (by decide : MARK_INC.toNat < 2 ^ 31) phase
      rw [show MARK_INC.toNat = 268435456 from rfl] at hcount
      rw [increment_false, hcount]
      omega
  | true =>
      refine selectorOf_of_pos (h.space _) ?_
      have hcount := transitions_block (by decide : SPACE_INC.toNat < 2 ^ 31) phase
      rw [show SPACE_INC.toNat = 492131669 from rfl] at hcount
      rw [increment_true, hcount]
      omega

/-- Every symbol of a burst is decided right. -/
theorem symbolOf_waveform {metricTable : BitVec CORR_WINDOW → ℚ} (h : TellsTones metricTable)
    (selectors : List Bool) (k : ℕ) (hk : k < selectors.length) :
    symbolOf metricTable (blockAt 0 (waveform selectors) k) = selectors[k] := by
  obtain ⟨phase, hblock⟩ := blockAt_waveform (List.getElem?_eq_getElem hk)
  rw [hblock, symbolOf_block h]

end CAX25AFSKTX

/-- A burst is short enough for the buffer of the decoder. -/
theorem stuffed_le_of_selectors {frame : Bytes} {preFlags postFlags : ℕ} {initialTone : Bool}
    {selectors : List Bool} (hne : frame ≠ []) (hpre : 1 ≤ preFlags) (hpost : 1 ≤ postFlags)
    (hselectors : frameToSelectors frame preFlags postFlags initialTone = .ok selectors)
    (hfits : selectors.length ≤ CAX25AFSKTX.MAX_SELECTORS) :
    (stuffBits (byteBitsLsb frame)).length + 8 ≤ MAX_STUFFED_BITS := by
  rw [frameToSelectors_eq initialTone hne hpre hpost] at hselectors
  cases hselectors
  rw [nrziEncode_length, List.length_append, List.length_append, flags_length] at hfits
  unfold CAX25AFSKTX.MAX_SELECTORS at hfits
  unfold MAX_STUFFED_BITS
  omega

namespace Hat

section Heard

variable {timerClock : ℕ} {hat₀ hat : Hat} {events : List HatEvent}

/-- While no octet is dropped, nothing is missing. -/
theorem delivered_whole (hinitial : Initial hat₀)
    (hrun : (packetSystem timerClock).Run hat₀ events hat)
    (hwhole : hat.ax25AFSKRX.droppedBytes = 0) :
    ∃ pending, ((captureAccount events).delivered ++ undelivered hat).flatMap BYTE_BITS ++ pending =
      (captureAccount events).bits ∧ pending.length = hat.ax25AFSKRX.partialBits ∧
        hat.ax25AFSKRX.partialBits < 8 := by
  obtain ⟨octets, pending, lost, hpacked⟩ :=
    (Capture.accounts_run (capture_run hinitial hrun)).packed
  have hdropped : hat.ax25AFSKRX.droppedBytes = min lost 65535 := hpacked.dropped
  have hlost : lost = 0 := by omega
  have hall := hpacked.stored.eq_of_length (by rw [← hpacked.lost_eq, hlost]; rfl)
  have hbits : octets.flatMap BYTE_BITS ++ pending = (captureAccount events).bits :=
    hpacked.bits_eq
  refine ⟨pending, ?_, hpacked.pending_length, hpacked.partialBits_lt⟩
  have hassoc : (captureAccount events).delivered ++ undelivered hat = octets :=
    (List.append_assoc _ _ _).symm.trans hall
  rw [hassoc, hbits]

/-- While no octet is dropped, the host has got the samples from the first one on. -/
theorem delivered_prefix (hinitial : Initial hat₀)
    (hrun : (packetSystem timerClock).Run hat₀ events hat)
    (hwhole : hat.ax25AFSKRX.droppedBytes = 0) :
    (captureAccount events).delivered.flatMap BYTE_BITS <+: (captureAccount events).bits := by
  obtain ⟨pending, hbits, -⟩ := delivered_whole hinitial hrun hwhole
  rw [← hbits, List.flatMap_append, List.append_assoc]
  exact List.prefix_append _ _

theorem length_flatMap_BYTE_BITS (octets : Bytes) :
    (octets.flatMap BYTE_BITS).length = 8 * octets.length := by
  rw [List.length_flatMap]
  simp [BYTE_BITS, Nat.mul_comm]

end Heard

end Hat

end YwdTnc
