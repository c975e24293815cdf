import YwdTnc.Interaction.Environment
import YwdTnc.Modem.Port
import Mathlib.Algebra.Order.Field.Rat

/-!
# A healthy modem

The port as an environment: every operation succeeds with healthy values, the
clock never goes back, and a well-formed burst is accepted and drains. How long
a burst drains is left open up to `drainSeconds`, counted from the first look at
the clock after it: a clock that shows more is not read while the transmitter
is still found busy.
-/

namespace YwdTnc

open Interaction Prog

/-- `ACTIVE_RX_FLAGS`: what the status of an active receiver shows. -/
def ACTIVE_RX_FLAGS : ℕ := 0x0D

/-- `draining since sent`: the clock was first read at `since`; `sent` is set
when the last RF status showed no selectors left. -/
inductive BurstState where
  | idle
  | accepted
  | draining (since : ℚ) (sent : Bool)
  deriving DecidableEq

structure ModemState where
  rxActive : Bool
  burst : BurstState
  clock : ℚ
  deriving DecidableEq

/-- The bursts that `rf_tx_tones_request` accepts. -/
def WellFormedBurst (selectorCount : ℕ) (packedSelectors : Bytes) : Prop :=
  1 ≤ selectorCount ∧ selectorCount ≤ MAX_SELECTORS ∧
    packedSelectors.length = (selectorCount + 7) / 8

instance (selectorCount : ℕ) (packedSelectors : Bytes) :
    Decidable (WellFormedBurst selectorCount packedSelectors) :=
  inferInstanceAs (Decidable (_ ∧ _ ∧ _))

namespace ModemState

/-- The receiver as it is at rest: packet RX is active and nothing is sent. -/
structure Listening (m : ModemState) : Prop where
  rxActive : m.rxActive = true
  idle : m.burst = .idle

/-- The status of a receiver: exactly the active flags, or neither the active nor
the transmit flag. -/
def rxHealthy (m : ModemState) (status : RX3Status) : Bool :=
  status.droppedBytes = 0 &&
    if m.rxActive then status.flags = ACTIVE_RX_FLAGS
    else status.flags &&& 1 = 0 && status.flags &&& 2 = 0

/-- The state after a reading of the clock. -/
def readClock (drainSeconds : ℚ) (m : ModemState) (now : ℚ) : Option ModemState :=
  if m.clock ≤ now then
    match m.burst with
    | .idle => some { m with clock := now }
    | .accepted => some { m with clock := now, burst := .draining now false }
    | .draining since _ =>
        if now < since + drainSeconds then some { m with clock := now } else none
  else none

def readStatus (m : ModemState) (status : RFStatus) : Option ModemState :=
  match m.burst with
  | .idle => if status.remainingSelectors = 0 then some m else none
  | .accepted => some m
  | .draining since _ =>
      some { m with burst := .draining since (status.remainingSelectors = 0) }

/-- Transmitter idle after the last selector: the burst has drained. -/
def readDiagnostics (m : ModemState) (diag : RFDiagnostics) : Option ModemState :=
  match m.burst with
  | .idle => if diag.txActive = 0 then some m else none
  | .accepted => some m
  | .draining since sent =>
      some { m with burst :=
        if sent = true ∧ diag.txActive = 0 then .idle else .draining since false }

/-- The state after a query that succeeds with this value, if the value is healthy. -/
def answered {R : Type} (drainSeconds : ℚ) (m : ModemState) :
    (q : PortQuery) → PortQuery.Answer R q → Option ModemState
  | .rxStatus _, status => if m.rxHealthy status then some m else none
  | .rxStop _, _ => some { m with rxActive := false }
  | .rxStart _, _ => some { m with rxActive := true }
  | .rfStatus _, status => m.readStatus status
  | .rfDiagnostics _, diag => m.readDiagnostics diag
  | .transmitSelectorBurst count packed _, _ =>
      if WellFormedBurst count packed then some { m with burst := .accepted } else none
  | .monotonic, now => m.readClock drainSeconds now
  | .rxRssi _, rssi => if rssi.rawMagnitude ≤ 255 then some m else none
  | .getVersion _, _ | .setRxFrequency _ _, _ | .applyTxProfile _ _ _, _
  | .armRxModemIo _, _ | .rxRead _ _, _ | .submitFrame _ _, _ | .sleep _, _ => some m

end ModemState

/-- Only a burst that is not well formed may fail. -/
def healthyModem (R : Type) (drainSeconds : ℚ) :
    Environment (PortQuery.Answer R) PyError ModemState
  | m, ⟨q, some (.ok a)⟩ => m.answered drainSeconds q a
  | m, ⟨.transmitSelectorBurst count packed _, some (.error _)⟩ =>
      if WellFormedBurst count packed then none else some m
  | _, _ => none

section Rules

variable {R σ : Type} {drainSeconds : ℚ} {pre : σ → ModemState → Prop}

/-- A query that is no burst succeeds, with a healthy value. -/
theorem triple_port {q : PortQuery} (hq : ¬ q.isBurst)
    {post : PortQuery.Answer R q → σ → ModemState → Prop}
    (h : ∀ s m a m', pre s m → m.answered drainSeconds q a = some m' → post a s m') :
    Triple (healthyModem R drainSeconds) pre (call q : PortProg R σ _) post := by
  refine triple_call fun s m answer m' hpre henv => ?_
  cases answer with
  | ok a => exact ⟨a, rfl, h s m a m' hpre henv⟩
  | error e =>
      cases q with
      | transmitSelectorBurst => exact absurd trivial hq
      | _ => cases henv

/-- A well-formed burst is accepted. -/
theorem triple_burst {count : ℕ} {packed : Bytes} {timeout : ℚ}
    {post : Unit → σ → ModemState → Prop} (hburst : WellFormedBurst count packed)
    (h : ∀ s m, pre s m → post () s { m with burst := .accepted }) :
    Triple (healthyModem R drainSeconds) pre
      (Port.transmitSelectorBurst count packed timeout) post := by
  refine triple_call fun s m answer m' hpre henv => ?_
  cases answer with
  | ok a =>
      simp only [healthyModem, ModemState.answered, hburst, if_true, Option.some.injEq] at henv
      rw [← henv]
      exact ⟨(), rfl, h s m hpre⟩
  | error e =>
      simp only [healthyModem, hburst, if_true] at henv
      cases henv

end Rules

/-! ### The clock -/

theorem clock_le_answered {R : Type} {drainSeconds : ℚ} {m m' : ModemState} {q : PortQuery}
    {a : PortQuery.Answer R q} (h : m.answered drainSeconds q a = some m') :
    m.clock ≤ m'.clock := by
  cases q with
  | monotonic =>
      simp only [ModemState.answered, ModemState.readClock] at h
      split at h
      case isFalse => cases h
      case isTrue hle =>
        split at h
        · cases h
          exact hle
        · cases h
          exact hle
        · split at h
          · cases h
            exact hle
          · cases h
  | rfStatus =>
      simp only [ModemState.answered, ModemState.readStatus] at h
      split at h
      · split at h
        · cases h
          exact le_refl _
        · cases h
      · cases h
        exact le_refl _
      · cases h
        exact le_refl _
  | rfDiagnostics =>
      simp only [ModemState.answered, ModemState.readDiagnostics] at h
      split at h
      · split at h
        · cases h
          exact le_refl _
        · cases h
      · cases h
        exact le_refl _
      · cases h
        exact le_refl _
  | rxStatus | rxRssi | transmitSelectorBurst =>
      simp only [ModemState.answered] at h
      split at h
      · cases h
        exact le_refl _
      · cases h
  | _ =>
      cases h
      exact le_refl _

theorem clock_le_run {R : Type} {drainSeconds : ℚ} {t : List (PortCall R)} :
    ∀ {m m' : ModemState}, (healthyModem R drainSeconds).run m t = some m' →
      m.clock ≤ m'.clock := by
  induction t with
  | nil =>
      intro m m' h
      cases h
      exact le_refl _
  | cons c t ih =>
      intro m m' h
      rw [Environment.run_cons, Option.bind_eq_some_iff] at h
      obtain ⟨m₁, hc, ht⟩ := h
      refine le_trans ?_ (ih ht)
      obtain ⟨q, _ | _ | a⟩ := c
      · cases q <;> cases hc
      · cases q with
        | transmitSelectorBurst count packed timeout =>
            simp only [healthyModem] at hc
            split at hc
            · cases hc
            · cases hc
              exact le_refl _
        | _ => cases hc
      · exact clock_le_answered hc

end YwdTnc
