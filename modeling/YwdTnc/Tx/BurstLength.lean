import YwdTnc.Tx.Broker
import Mathlib.Order.Bounds.Defs
import Mathlib.Tactic.Linarith

/-!
# The length of a burst

How many selectors a frame takes, known before it is serialized: eight for every
flag and every octet, and at most one more for every five bits of the frame.
-/

namespace YwdTnc

open Coding

/-- The opening flags of a TXDELAY are the fewest, but at least one, that last as long
as requested. -/
theorem isLeast_txdelayFlags (units : ℕ) :
    IsLeast {n : ℕ | 1 ≤ n ∧ (10 * units / 1000 : ℚ) ≤ durationSeconds (HDLC_FLAG_BITS * n)}
      (txdelayFlags units) := by
  have hlasts : ∀ n : ℕ, (10 * units / 1000 : ℚ) ≤ durationSeconds (HDLC_FLAG_BITS * n) ↔
      units * 12 ≤ n * HDLC_FLAG_BITS := by
    intro n
    unfold durationSeconds HDLC_FLAG_BITS BELL202_BAUD
    rw [← Nat.cast_le (α := ℚ)]
    push_cast
    constructor
    · intro h
      linarith
    · intro h
      linarith
  constructor
  · exact ⟨one_le_txdelayFlags units, (hlasts _).mpr (le_txdelayFlags units)⟩
  · rintro n ⟨hpos, hduration⟩
    have hfits := (hlasts n).mp hduration
    unfold txdelayFlags
    unfold HDLC_FLAG_BITS at hfits ⊢
    omega

namespace TXBroker

theorem burstSelectors_bounds (preFlags : ℕ) (frame : Bytes) :
    8 * (preFlags + 3 + frame.length) ≤ burstSelectors preFlags frame ∧
      burstSelectors preFlags frame ≤
        8 * (preFlags + 3 + frame.length) + 8 * frame.length / 5 := by
  have hlower := length_le_length_stuffFrom 5 0 (byteBitsLsb frame)
  have hupper := length_stuffFrom_le (n := 5) (k := 0) (by decide) (byteBitsLsb frame)
  rw [byteBitsLsb_length] at hlower hupper
  rw [Nat.zero_add] at hupper
  unfold burstSelectors stuffBits stuff P5_POST_FLAGS
  constructor <;> omega

/-- The length of a burst is known up to one selector for every five bits of its
frame, and this decides the preparation of most frames beforehand. -/
theorem prepareFrame_burstLength (units : ℕ) (profile : TXDelayProfile)
    (hunits : resolveTxdelay units = .ok profile) (frame : Bytes) (hlength : 3 ≤ frame.length)
    (hfcs : verifyFcs frame = true) :
    let lower := 8 * (profile.preFlags + 3 + frame.length)
    let upper := lower + 8 * frame.length / 5
    (∃ selectors, frameToSelectors frame profile.preFlags P5_POST_FLAGS P5_INITIAL_TONE =
        .ok selectors ∧ lower ≤ selectors.length ∧ selectors.length ≤ upper) ∧
      (upper ≤ MAX_SELECTORS →
        ∃ prepared, prepareFrame profile.preFlags frame = .ok prepared) ∧
      (MAX_SELECTORS < lower →
        ∃ message, prepareFrame profile.preFlags frame =
          .error ⟨.txBrokerFrameRejected, message⟩) ∧
      IsLeast {n : ℕ | 1 ≤ n ∧ (10 * units / 1000 : ℚ) ≤ durationSeconds (HDLC_FLAG_BITS * n)}
        profile.preFlags := by
  intro lower upper
  have hprofile : profile = txdelayProfile units := by
    unfold resolveTxdelay at hunits
    split at hunits
    · exact (Except.ok.inj hunits).symm
    · cases hunits
  have hpre : 1 ≤ profile.preFlags := by
    rw [hprofile]
    exact one_le_txdelayFlags units
  have hframe : frame ≠ [] := by
    rintro rfl
    exact absurd hlength (by decide)
  obtain ⟨hlower, hupper⟩ := burstSelectors_bounds profile.preFlags frame
  refine ⟨?_, fun hfits => ?_, fun hlong => ?_, ?_⟩
  · obtain ⟨selectors, hselectors, hcount⟩ := serialize_length hframe hpre
    rw [← hcount] at hlower hupper
    exact ⟨selectors, hselectors, hlower, hupper⟩
  · exact (prepareFrame_ok_iff hlength hfcs hpre).mpr (le_trans hupper hfits)
  · rcases prepareFrame_cases hlength hfcs hpre with ⟨hshort, -⟩ | ⟨-, hrejected⟩
    · exact absurd (le_trans hlower hshort) (not_le.mpr hlong)
    · exact hrejected
  · rw [hprofile]
    exact isLeast_txdelayFlags units

/-- A ready report at the default TXDELAY. -/
theorem prepareFrame_burstLength_receiveReady :
    ∃ selectors, frameToSelectors (appendFcs receiveReady) 45 P5_POST_FLAGS P5_INITIAL_TONE =
        .ok selectors ∧
      8 * (45 + 3 + (appendFcs receiveReady).length) ≤ selectors.length ∧
      selectors.length ≤ 8 * (45 + 3 + (appendFcs receiveReady).length) +
        8 * (appendFcs receiveReady).length / 5 :=
  (prepareFrame_burstLength 30 (txdelayProfile 30) (resolveTxdelay_ok (by decide))
    (appendFcs receiveReady) (by decide) (verifyFcs_appendFcs receiveReady)).1

end TXBroker

end YwdTnc
