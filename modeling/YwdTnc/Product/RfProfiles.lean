import YwdTnc.Modem.RxConfig
import YwdTnc.Product.Constants

/-!
# The RF profiles of the product

The owner of the product knows two transmit profiles. It builds the request of a profile
only for these, and hands every operation to the transport as one request of its own:
`PortQuery.request` is that request, or the exception that keeps it from being built.
-/

namespace YwdTnc

open Coding Protocol

def validateTxProfile (frequencyHz power : ℤ) : Except PyError (ℤ × ℤ) :=
  if (frequencyHz, power) ∈ PERMITTED_TX_PROFILES then .ok (frequencyHz, power)
  else .error (.valueError ("unsupported TX profile; permitted profiles are " ++
    "145.050 MHz / power-200 and 144.390 MHz / power-200"))

def buildTxProfileRequest (frequencyHz power : ℤ) : Except PyError Bytes :=
  match validateTxProfile frequencyHz power with
  | .error e => .error e
  | .ok (hz, power) =>
      buildFrame SET_FREQ (simplexPayload hz.toNat (BitVec.ofNat 8 power.toNat))

/-- The transport request of an operation of the owner. The clock, the sleeper and an
injected submitter have none. -/
def PortQuery.request : PortQuery → Option (Except PyError Bytes)
  | .getVersion _ => some getVersionRequest
  | .setRxFrequency frequencyHz _ => some (setRxFrequencyRequest frequencyHz)
  | .applyTxProfile frequencyHz power _ => some (buildTxProfileRequest frequencyHz power)
  | .armRxModemIo _ => some armRxModemIoRequest
  | .rxRead maximum _ => some (rxReadRequest maximum)
  | .rxRssi _ => some rxRssiRequest
  | .rxStatus _ => some rxStatusRequest
  | .rxStop _ => some rxStopRequest
  | .rxStart _ => some rxStartRequest
  | .rfStatus _ => some rfStatusRequest
  | .rfDiagnostics _ => some rfDiagRequest
  | .transmitSelectorBurst selectorCount packed _ =>
      some (rfTxTonesRequest selectorCount packed)
  | .submitFrame _ _ | .monotonic | .sleep _ => none

/-- What a query hands to the transport. -/
def PortQuery.handed (q : PortQuery) : Option Bytes :=
  match q.request with
  | some (.ok request) => some request
  | _ => none

/-! ### Requests that matter to RF -/

/-- `YWD_RF` with `RF_TX_TONES`. -/
def KeysTransmitter (request : Bytes) : Prop :=
  ∃ burst, Protocol.parseFrame request none = .ok ⟨YWD_RF, RF_TX_TONES :: burst⟩

/-- `SET_FREQ` with a payload. -/
def SetsFrequency (request payload : Bytes) : Prop :=
  Protocol.parseFrame request none = .ok ⟨SET_FREQ, payload⟩

/-- The operations that tune the radio. -/
def PortQuery.isTuning : PortQuery → Prop
  | .setRxFrequency _ _ | .applyTxProfile _ _ _ => True
  | _ => False

theorem parseFrame_built {command : Byte} {payload request : Bytes}
    (h : buildFrame command payload = .ok request) :
    Protocol.parseFrame request none = .ok ⟨command, payload⟩ :=
  (parseFrame_buildFrame h none (by simp)).1

/-- A built request is that of its command. -/
theorem SetsFrequency.of_built {command : Byte} {payload payload' request : Bytes}
    (h : SetsFrequency request payload') (hbuilt : buildFrame command payload = .ok request) :
    command = SET_FREQ ∧ payload = payload' := by
  rw [SetsFrequency, parseFrame_built hbuilt, Except.ok.injEq, Frame.mk.injEq] at h
  exact h

theorem KeysTransmitter.of_built {command : Byte} {payload request : Bytes}
    (h : KeysTransmitter request) (hbuilt : buildFrame command payload = .ok request) :
    command = YWD_RF ∧ payload.head? = some RF_TX_TONES := by
  obtain ⟨burst, h⟩ := h
  rw [parseFrame_built hbuilt, Except.ok.injEq, Frame.mk.injEq] at h
  obtain ⟨hcommand, rfl⟩ := h
  exact ⟨hcommand, rfl⟩

theorem profile_nonneg {frequencyHz power : ℤ}
    (h : (frequencyHz, power) ∈ PERMITTED_TX_PROFILES) : 0 ≤ frequencyHz ∧ 0 ≤ power := by
  simp only [PERMITTED_TX_PROFILES, List.mem_cons, Prod.mk.injEq, List.not_mem_nil,
    or_false] at h
  obtain ⟨rfl, rfl⟩ | ⟨rfl, rfl⟩ := h
  all_goals decide

/-- A permitted profile is transmitted as it is. -/
theorem buildTxProfileRequest_payload {frequencyHz power : ℤ} {request : Bytes}
    (h : buildTxProfileRequest frequencyHz power = .ok request) :
    (frequencyHz, power) ∈ PERMITTED_TX_PROFILES ∧
      ∃ payload, buildFrame SET_FREQ payload = .ok request ∧
        readSetFreq payload = some ⟨frequencyHz.toNat, frequencyHz.toNat, power.toNat⟩ := by
  unfold buildTxProfileRequest validateTxProfile at h
  by_cases hpermitted : (frequencyHz, power) ∈ PERMITTED_TX_PROFILES
  · rw [if_pos hpermitted] at h
    refine ⟨hpermitted, _, h, ?_⟩
    simp only [PERMITTED_TX_PROFILES, List.mem_cons, Prod.mk.injEq, List.not_mem_nil,
      or_false] at hpermitted
    obtain ⟨rfl, rfl⟩ | ⟨rfl, rfl⟩ := hpermitted
    all_goals exact readSetFreq_simplexPayload (by decide) _
  · rw [if_neg hpermitted] at h
    cases h

theorem PortQuery.request_of_handed {q : PortQuery} {request : Bytes}
    (h : q.handed = some request) : q.request = some (.ok request) := by
  unfold handed at h
  split at h
  case h_1 hrequest =>
    cases h
    exact hrequest
  case h_2 => cases h

/-- Only the tuning operations set a frequency, and only a burst keys the transmitter. -/
theorem PortQuery.handed_built {q : PortQuery} {request : Bytes}
    (h : q.handed = some request) :
    ∃ command payload, buildFrame command payload = .ok request ∧
      (command = SET_FREQ → q.isTuning) ∧
        (command = YWD_RF → payload.head? = some RF_TX_TONES → q.isBurst) := by
  have hrequest := request_of_handed h
  cases q with
  | getVersion | armRxModemIo | rxRssi | rxStatus | rxStop | rxStart =>
      exact ⟨_, _, Option.some.inj hrequest, fun hcommand => absurd hcommand (by decide),
        fun hcommand _ => absurd hcommand (by decide)⟩
  | rfStatus | rfDiagnostics =>
      exact ⟨_, _, Option.some.inj hrequest, fun hcommand => absurd hcommand (by decide),
        fun _ hhead => absurd hhead (by decide)⟩
  | setRxFrequency frequencyHz timeout =>
      obtain ⟨payload, hbuilt, -⟩ := setRxFrequencyRequest_payload (Option.some.inj hrequest)
      exact ⟨_, payload, hbuilt, fun _ => trivial, fun hcommand => absurd hcommand (by decide)⟩
  | applyTxProfile frequencyHz power timeout =>
      obtain ⟨-, payload, hbuilt, -⟩ := buildTxProfileRequest_payload (Option.some.inj hrequest)
      exact ⟨_, payload, hbuilt, fun _ => trivial, fun hcommand => absurd hcommand (by decide)⟩
  | rxRead maximum timeout =>
      have hread := Option.some.inj hrequest
      unfold rxReadRequest at hread
      split at hread
      · cases hread
      · exact ⟨_, _, hread, fun hcommand => absurd hcommand (by decide),
          fun hcommand _ => absurd hcommand (by decide)⟩
  | transmitSelectorBurst selectorCount packed timeout =>
      have hburst := Option.some.inj hrequest
      unfold rfTxTonesRequest at hburst
      split at hburst
      · cases hburst
      split at hburst
      · cases hburst
      · exact ⟨_, _, hburst, fun hcommand => absurd hcommand (by decide), fun _ _ => trivial⟩
  | submitFrame | monotonic | sleep => cases hrequest

end YwdTnc
