import YwdTnc.Basic
import Mathlib.Data.Rat.Defs

/-!
# The TXDELAY policy

A KISS TXDELAY octet counts units of 10 ms. It is rounded up to whole opening
flags, and there is always at least one of them.
-/

namespace YwdTnc

def KISS_TXDELAY_MAX : ℕ := 255
def KISS_TXDELAY_DEFAULT : ℕ := 30
def BELL202_BAUD : ℕ := 1200
def HDLC_FLAG_BITS : ℕ := 8

/-- The preamble of one TXDELAY value. -/
structure TXDelayProfile where
  units : ℕ
  requestedSeconds : ℚ
  preFlags : ℕ
  effectiveSeconds : ℚ
  roundingOverrunSeconds : ℚ
  deriving DecidableEq

/-- The opening flags of `units`: 10 ms are twelve selectors. -/
def txdelayFlags (units : ℕ) : ℕ :=
  max 1 ((units * 12 + HDLC_FLAG_BITS - 1) / HDLC_FLAG_BITS)

/-- The profile of a TXDELAY octet. -/
def txdelayProfile (units : ℕ) : TXDelayProfile :=
  let requestedSeconds : ℚ := units * (1 / 100)
  let effectiveSeconds : ℚ := (txdelayFlags units * HDLC_FLAG_BITS : ℕ) / BELL202_BAUD
  { units, requestedSeconds, preFlags := txdelayFlags units, effectiveSeconds
    roundingOverrunSeconds := effectiveSeconds - requestedSeconds }

def resolveTxdelay (units : ℕ) : Except PyError TXDelayProfile :=
  if units ≤ KISS_TXDELAY_MAX then .ok (txdelayProfile units)
  else .error (.valueError "TXDELAY must be 0..255 in 10 ms units")

theorem resolveTxdelay_ok {units : ℕ} (h : units ≤ KISS_TXDELAY_MAX) :
    resolveTxdelay units = .ok (txdelayProfile units) :=
  if_pos h

theorem one_le_txdelayFlags (units : ℕ) : 1 ≤ txdelayFlags units :=
  Nat.le_max_left _ _

/-- The preamble is never shorter than requested. -/
theorem le_txdelayFlags (units : ℕ) : units * 12 ≤ txdelayFlags units * HDLC_FLAG_BITS := by
  unfold txdelayFlags HDLC_FLAG_BITS
  omega

end YwdTnc
