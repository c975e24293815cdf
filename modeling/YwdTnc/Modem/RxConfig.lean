import YwdTnc.Coding.Words
import YwdTnc.Modem.Protocol

/-!
# Radio setup for reception

The two setup requests of the receive path: one guarded simplex frequency at the lowest
power, and the fixed modem-I/O configuration. `FrequencySetting` reads a `SET_FREQ`
payload back.
-/

namespace YwdTnc

open Coding Protocol

/-- Simplex, DMR enabled for the initialization of the I/O, idle state. -/
def RX_MODEM_IO_CONFIG : Bytes := [0x80, 0x02, 0x00, 0x00, 0x00, 120, 1, 0, 0, 50, 50, 50, 50]

/-- The amateur bands of the firmware without the satellite ranges. -/
def validateRxFrequencyHz (hz : ℤ) : Except PyError ℤ :=
  if ¬ (144000000 ≤ hz ∧ hz < 148000000 ∨ 219000000 ≤ hz ∧ hz < 225000000 ∨
      420000000 ≤ hz ∧ hz < 475000000 ∨ 842000000 ≤ hz ∧ hz < 950000000) then
    .error (.valueError
      "frequency is outside the qualified MMDVM_HS amateur-band guard ranges")
  else if 145800000 ≤ hz ∧ hz ≤ 146000000 ∨ 435000000 ≤ hz ∧ hz ≤ 438000000 then
    .error (.valueError "frequency is inside a protected satellite/ISS range")
  else .ok hz

/-- The payload of `SET_FREQ` with one frequency for both directions. -/
def simplexPayload (hz : ℕ) (power : Byte) : Bytes :=
  [0x00] ++ packLE 4 hz ++ packLE 4 hz ++ [power]

def setRxFrequencyRequest (frequencyHz : ℤ) : Except PyError Bytes :=
  match validateRxFrequencyHz frequencyHz with
  | .error e => .error e
  | .ok hz => buildFrame SET_FREQ (simplexPayload hz.toNat 1)

def armRxModemIoRequest : Except PyError Bytes := buildFrame SET_CONFIG RX_MODEM_IO_CONFIG

/-! ### Reading a setting back -/

structure FrequencySetting where
  rxHz : ℕ
  txHz : ℕ
  power : ℕ
  deriving DecidableEq

/-- The fields of a `SET_FREQ` payload. -/
def readSetFreq (payload : Bytes) : Option FrequencySetting :=
  if payload.length = 10 then
    some {
      rxHz := unpackLE ((payload.drop 1).take 4)
      txHz := unpackLE ((payload.drop 5).take 4)
      power := (payload.getD 9 0).toNat }
  else none

theorem readSetFreq_simplexPayload {hz : ℕ} (h : hz < 256 ^ 4) (power : Byte) :
    readSetFreq (simplexPayload hz power) = some ⟨hz, hz, power.toNat⟩ := by
  have hword := unpackLE_packLE 4 h
  have hlength := packLE_length 4 hz
  rw [simplexPayload]
  generalize packLE 4 hz = word at hword hlength ⊢
  match word, hlength with
  | [a, b, c, d], _ => simp [readSetFreq, hword]

theorem validateRxFrequencyHz_ok {frequencyHz hz : ℤ}
    (h : validateRxFrequencyHz frequencyHz = .ok hz) :
    hz = frequencyHz ∧ 0 ≤ hz ∧ hz < 950000000 := by
  unfold validateRxFrequencyHz at h
  split at h
  · cases h
  case isFalse hband =>
    split at h
    · cases h
    · cases h
      refine ⟨rfl, ?_⟩
      omega

/-- A receive frequency comes with the lowest power. -/
theorem setRxFrequencyRequest_payload {frequencyHz : ℤ} {request : Bytes}
    (h : setRxFrequencyRequest frequencyHz = .ok request) :
    ∃ payload, buildFrame SET_FREQ payload = .ok request ∧
      readSetFreq payload = some ⟨frequencyHz.toNat, frequencyHz.toNat, 1⟩ := by
  unfold setRxFrequencyRequest at h
  cases hvalid : validateRxFrequencyHz frequencyHz with
  | error e =>
      rw [hvalid] at h
      cases h
  | ok hz =>
      rw [hvalid] at h
      obtain ⟨rfl, hpos, hlt⟩ := validateRxFrequencyHz_ok hvalid
      refine ⟨_, h, ?_⟩
      rw [readSetFreq_simplexPayload (by omega)]
      rfl

end YwdTnc
