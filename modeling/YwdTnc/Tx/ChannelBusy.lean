import YwdTnc.Basic
import Mathlib.Data.Rat.Defs
import Mathlib.Algebra.Order.Field.Rat
import Mathlib.Tactic.Linarith

/-!
# The channel-busy detector

One raw RSSI magnitude per observation, lower meaning a stronger signal. A
magnitude at or below `BUSY_ASSERT_RAW_MAX` makes the channel busy at once; it
is clear again after a full `RECENT_RX_HOLD_SECONDS` of observations at or above
`CLEAR_RELEASE_RAW_MIN`. Times are exact rationals here and below.
-/

namespace YwdTnc

def BUSY_ASSERT_RAW_MAX : ℤ := 83
def CLEAR_RELEASE_RAW_MIN : ℤ := 90
def RECENT_RX_HOLD_SECONDS : ℚ := 1 / 4

inductive ChannelBusyState where
  | unknown
  | busy
  | recentRx
  | clear
  deriving DecidableEq, Repr

structure ChannelBusyDecision where
  state : ChannelBusyState
  rawMagnitude : ℤ
  channelBusy : Bool
  recentRx : Bool
  clearCandidateSince : Option ℚ
  lastBusyAt : Option ℚ
  reason : String

structure RSSIChannelBusyDetector where
  state : ChannelBusyState
  lastNow : ℚ
  clearCandidateSince : Option ℚ
  lastBusyAt : Option ℚ
  lastDecision : Option ChannelBusyDecision

namespace RSSIChannelBusyDetector

def init (startedAt : ℚ) : Except PyError RSSIChannelBusyDetector :=
  if startedAt < 0 then .error (.valueError "started_at must be >= 0")
  else .ok
    { state := .unknown, lastNow := startedAt, clearCandidateSince := none
      lastBusyAt := none, lastDecision := none }

def record (detector : RSSIChannelBusyDetector) (raw : ℤ) (reason : String) :
    RSSIChannelBusyDetector × Except PyError ChannelBusyDecision :=
  let decision : ChannelBusyDecision :=
    { state := detector.state
      rawMagnitude := raw
      channelBusy := detector.state ≠ .clear
      recentRx := detector.state = .busy ∨ detector.state = .recentRx
      clearCandidateSince := detector.clearCandidateSince
      lastBusyAt := detector.lastBusyAt
      reason }
  ({ detector with lastDecision := some decision }, .ok decision)

/-- The branches of `observe` on an observation in order and in range: the new
state with the reason to record. -/
def advance (detector : RSSIChannelBusyDetector) (now : ℚ) (raw : ℤ) :
    RSSIChannelBusyDetector × String :=
  let detector := { detector with lastNow := now }
  if raw ≤ BUSY_ASSERT_RAW_MAX then
    ({ detector with
        state := .busy, lastBusyAt := some now, clearCandidateSince := none },
      "RSSI at/below busy-assert threshold")
  else if raw < CLEAR_RELEASE_RAW_MIN then
    -- the hysteresis band keeps a clear channel clear and releases no other
    (if detector.state ≠ .clear then { detector with clearCandidateSince := none }
      else detector,
      "RSSI inside hysteresis band; retained prior safe state")
  else if detector.state = .clear then
    (detector, "RSSI remains on clear-release side")
  else
    match detector.clearCandidateSince with
    | none =>
        ({ detector with clearCandidateSince := some now, state := .recentRx },
          "clear-release side observed; recent-RX hold started")
    | some since =>
        if now - since < RECENT_RX_HOLD_SECONDS then
          ({ detector with state := .recentRx },
            "clear-release side sustained; recent-RX hold not complete")
        else
          ({ detector with state := .clear },
            "clear-release side sustained for full recent-RX hold")

def observe (detector : RSSIChannelBusyDetector) (now : ℚ) (raw : ℤ) :
    RSSIChannelBusyDetector × Except PyError ChannelBusyDecision :=
  if now < detector.lastNow then
    (detector, .error (.valueError "now must be monotonic for one detector instance"))
  else if ¬ (0 ≤ raw ∧ raw ≤ 255) then
    (detector, .error (.valueError "raw_magnitude must be 0..255"))
  else
    (detector.advance now raw).1.record raw (detector.advance now raw).2

/-- What an accepted observation can do to the state and to the start of the
release side. -/
inductive Advances (detector : RSSIChannelBusyDetector) (now : ℚ) (raw : ℤ) :
    ChannelBusyState → Option ℚ → Prop
  | busy {state : ChannelBusyState} (hraw : raw < CLEAR_RELEASE_RAW_MIN)
      (hstate : state ≠ .clear) : Advances detector now raw state none
  | remain (hraw : BUSY_ASSERT_RAW_MAX < raw) (hstate : detector.state = .clear) :
      Advances detector now raw .clear detector.clearCandidateSince
  | start (hraw : CLEAR_RELEASE_RAW_MIN ≤ raw) (hstate : detector.state ≠ .clear)
      (hsince : detector.clearCandidateSince = none) :
      Advances detector now raw .recentRx (some now)
  | hold {since : ℚ} (hraw : CLEAR_RELEASE_RAW_MIN ≤ raw)
      (hstate : detector.state ≠ .clear)
      (hsince : detector.clearCandidateSince = some since) :
      Advances detector now raw .recentRx (some since)
  | release {since : ℚ} (hraw : CLEAR_RELEASE_RAW_MIN ≤ raw)
      (hstate : detector.state ≠ .clear)
      (hsince : detector.clearCandidateSince = some since)
      (hlong : RECENT_RX_HOLD_SECONDS ≤ now - since) :
      Advances detector now raw .clear (some since)

theorem advance_lastNow (detector : RSSIChannelBusyDetector) (now : ℚ) (raw : ℤ) :
    (detector.advance now raw).1.lastNow = now := by
  unfold advance
  dsimp only
  repeat' split
  all_goals rfl

theorem advance_advances (detector : RSSIChannelBusyDetector) (now : ℚ) (raw : ℤ) :
    Advances detector now raw (detector.advance now raw).1.state
      (detector.advance now raw).1.clearCandidateSince := by
  unfold advance
  by_cases hlow : raw ≤ BUSY_ASSERT_RAW_MAX
  · have hraw : raw < CLEAR_RELEASE_RAW_MIN := lt_of_le_of_lt hlow (by decide)
    rw [if_pos hlow]
    exact .busy hraw nofun
  rw [if_neg hlow]
  have hguard : BUSY_ASSERT_RAW_MAX < raw := not_le.mp hlow
  by_cases hstate : detector.state = .clear
  · have hremain : Advances detector now raw .clear detector.clearCandidateSince :=
      .remain hguard hstate
    by_cases hband : raw < CLEAR_RELEASE_RAW_MIN
    · simp only [hband, hstate, ne_eq, not_true_eq_false, if_true, if_false]
      exact hremain
    · simp only [hband, hstate, if_true, if_false]
      exact hremain
  · by_cases hband : raw < CLEAR_RELEASE_RAW_MIN
    · simp only [hband, hstate, ne_eq, not_false_eq_true, if_true]
      exact .busy hband hstate
    · have hraw : CLEAR_RELEASE_RAW_MIN ≤ raw := not_lt.mp hband
      simp only [hband, hstate, if_false]
      cases hsince : detector.clearCandidateSince with
      | none => exact .start hraw hstate hsince
      | some since =>
          by_cases hshort : now - since < RECENT_RX_HOLD_SECONDS
          · simp only [hshort, if_true]
            exact .hold hraw hstate hsince
          · simp only [hshort, if_false]
            exact .release hraw hstate hsince (not_lt.mp hshort)

/-- An observation in order and in range is accepted, and the decision calls
every channel busy that is not clear. -/
theorem observe_spec {detector : RSSIChannelBusyDetector} {now : ℚ} {raw : ℤ}
    (hnow : detector.lastNow ≤ now) (hraw : 0 ≤ raw ∧ raw ≤ 255) :
    ∃ detector' decision, detector.observe now raw = (detector', .ok decision) ∧
      detector'.lastNow = now ∧
      (decision.channelBusy = true ↔ detector'.state ≠ .clear) ∧
      Advances detector now raw detector'.state detector'.clearCandidateSince := by
  unfold observe
  rw [if_neg (not_lt.mpr hnow), if_neg (not_not.mpr hraw)]
  exact ⟨_, _, rfl, advance_lastNow detector now raw, decide_eq_true_iff,
    advance_advances detector now raw⟩

theorem observe_error_cls {detector detector' : RSSIChannelBusyDetector} {now : ℚ}
    {raw : ℤ} {e : PyError} (h : detector.observe now raw = (detector', .error e)) :
    e.cls = .valueError := by
  unfold observe at h
  split at h
  · cases h
    rfl
  · split at h
    · cases h
      rfl
    · cases h

end RSSIChannelBusyDetector

end YwdTnc
