import YwdTnc.Product.RfProfiles

/-!
# The configuration of the appliance

What `validate_config` accepts: a supported target, a receive frequency in an amateur band,
packet parameters in their ranges, and transmission only with a permitted profile.
-/

namespace YwdTnc

structure ListenerConfig where
  enabled : Bool
  listen : String
  port : ℤ
  allowWildcardBind : Bool

structure TNCConfig where
  target : String
  device : String
  frequencyHz : ℤ
  txPower : ℤ
  txEnabled : Bool
  txdelay : ℤ
  persist : ℤ
  slottime : ℤ
  kiss : ListenerConfig
  agw : ListenerConfig
  monitor : ListenerConfig
  agwRawOnly : Bool
  requiredIdentity : String

/-- `if not ok: raise TNCConfigurationError(message)`. -/
def requireConfig (ok : Prop) [Decidable ok] (message : String) : Except PyError Unit :=
  if ok then .ok () else .error ⟨.tncConfigurationError, message⟩

def validateConfig (config : TNCConfig) : Except PyError Unit := do
  requireConfig (config.target = PRODUCT_TARGET)
    ("hardware.target must be '" ++ PRODUCT_TARGET ++ "'")
  requireConfig ("/dev/".toList <+: config.device.toList)
    "radio.device must be an absolute /dev path"
  match validateRxFrequencyHz config.frequencyHz with
  | .error e => .error ⟨.tncConfigurationError, e.message⟩
  | .ok _ => .ok ()
  requireConfig (0 ≤ config.txPower ∧ config.txPower ≤ 255) "radio.tx_power must be 0..255"
  requireConfig (0 ≤ config.txdelay ∧ config.txdelay ≤ 255) "packet TXDELAY must be 0..255"
  requireConfig (0 ≤ config.persist ∧ config.persist ≤ 255) "packet.persist must be 0..255"
  requireConfig (1 ≤ config.slottime ∧ config.slottime ≤ 255)
    "packet SLOTTIME must be 1..255"
  requireConfig (config.kiss.enabled = true ∨ config.agw.enabled = true)
    "at least one of KISS or AGW must be enabled"
  requireConfig (config.agwRawOnly = true)
    "initial AGW support is raw-only and requires agw.raw_only=true"
  requireConfig (config.requiredIdentity = QUALIFIED_FIRMWARE_IDENTITY)
    "firmware.required_identity does not match the qualified AX25R4 image"
  requireConfig (config.txEnabled = true →
      (config.frequencyHz, config.txPower) ∈ PERMITTED_TX_PROFILES)
    ("TX is restricted to the supported profiles: " ++
      "145.050 MHz / power-200 (physically qualified) or " ++
      "144.390 MHz / power-200 (APRS operational profile)")

end YwdTnc
