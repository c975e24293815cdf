import YwdTnc.Coding.TomlLines
import YwdTnc.Coding.Utf8
import YwdTnc.Product.Config
import YwdTnc.Unicode
import Mathlib.Data.Rat.Floor

/-!
# The configuration file

`load_config`: a file is decoded, read as TOML, and turned into a configuration that
`validate_config` accepts. What the code calls outside the repository is one record, the
`ConfigLibrary`.
-/

namespace YwdTnc

open Coding

def isAsciiSpace (c : Char) : Bool :=
  9 ≤ c.toNat && c.toNat ≤ 13 || 28 ≤ c.toNat && c.toNat ≤ 32

/-- Text whose ASCII blanks are those of `str.isspace`. -/
structure SpacedUnicode extends Unicode where
  isSpace_ascii : ∀ c, isAscii c = true → isSpace c = isAsciiSpace c

/-- What is read of an `ipaddress.ip_address`. -/
structure IPAddress where
  version : ℕ
  isMulticast : Bool
  isUnspecified : Bool
  isLoopback : Bool
  isPrivate : Bool

/-- The text functions, `tomllib.loads`, the text of a `UnicodeDecodeError`, and
`ipaddress.ip_address`, which may raise a `ValueError`. -/
structure ConfigLibrary where
  unicode : SpacedUnicode
  loads : List Char → Except PyError TomlTable
  decodeError : Bytes → String
  ipAddress : String → Option IPAddress

theorem bind_eq_ok {α β : Type} {x : Except PyError α} {f : α → Except PyError β} {b : β}
    (h : (x >>= f) = .ok b) : ∃ a, x = .ok a ∧ f a = .ok b := by
  cases x with
  | error e => cases h
  | ok a => exact ⟨a, rfl, h⟩

theorem eq_ok_of_toOption {α : Type} {result : Except PyError α} {a : α}
    (h : result.toOption = some a) : result = .ok a := by
  cases result with
  | error e => cases h
  | ok b => rw [Option.some.inj h]

def tomlDecodeError (message : String) : PyError := ⟨.other "TOMLDecodeError", message⟩

def configError (message : String) : PyError := ⟨.tncConfigurationError, message⟩

namespace ConfigFile

/-! ### Fields -/

def table (root : TomlTable) (name : String) : Except PyError TomlTable :=
  match root.get name.toList with
  | some (.table entries) => .ok entries
  | _ => .error (configError ("missing or invalid [" ++ name ++ "] table"))

def bool (entries : TomlTable) (key : String) : Except PyError Bool :=
  match entries.get key.toList with
  | some (.boolean b) => .ok b
  | _ => .error (configError (key ++ " must be true or false"))

/-- `default=False`. -/
def optionalBool (entries : TomlTable) (key : String) : Except PyError Bool :=
  match entries.get key.toList with
  | none => .ok false
  | some (.boolean b) => .ok b
  | some _ => .error (configError (key ++ " must be true or false"))

def int (entries : TomlTable) (key : String) : Except PyError ℤ :=
  match entries.get key.toList with
  | some (.integer n) => .ok n
  | _ => .error (configError (key ++ " must be an integer"))

/-! ### The frequency -/

/-- `validate_rx_frequency_hz(int(hz_value))` for a decimal. -/
def wholeFrequencyHz (hzValue : ℚ) : Except PyError ℤ :=
  if hzValue ≠ ⌊hzValue⌋ then
    .error (configError "radio.frequency_mhz must resolve to an integer Hz value")
  else match validateRxFrequencyHz ⌊hzValue⌋ with
  | .error e => .error (configError e.message)
  | .ok hz => .ok hz

/-- A float is read through its shortest decimal; `Decimal` keeps 28 digits, so that the
product with a million is exact for every float and every integer that passes the guards.
The text of an integer has at most 4300 digits. -/
def frequencyHz : Option TomlValue → Except PyError ℤ
  | some (.integer n) =>
      if 10 ^ 4300 ≤ n.natAbs then
        .error (.valueError ("Exceeds the limit (4300 digits) for integer string conversion; " ++
          "use sys.set_int_max_str_digits() to increase the limit"))
      else wholeFrequencyHz (n * 1000000)
  | some (.float (.finite x)) => wholeFrequencyHz (shortestDecimal x * 1000000)
  | some (.float (.infinite _)) =>
      .error ⟨.other "OverflowError", "cannot convert Infinity to integer"⟩
  | some (.float .nan) =>
      .error (configError "radio.frequency_mhz must resolve to an integer Hz value")
  | _ => .error (configError "radio.frequency_mhz must be numeric")

/-! ### Accepted fields -/

theorem wholeFrequencyHz_valid {q : ℚ} {hz : ℤ} (h : wholeFrequencyHz q = .ok hz) :
    q = hz ∧ validateRxFrequencyHz hz = .ok hz := by
  unfold wholeFrequencyHz at h
  split at h
  · cases h
  case isFalse hwhole =>
    rw [not_not] at hwhole
    cases hvalid : validateRxFrequencyHz ⌊q⌋ with
    | error e => simp [hvalid] at h
    | ok found =>
        have hfound := (validateRxFrequencyHz_ok hvalid).1
        simp only [hvalid, Except.ok.injEq] at h
        rw [← h, hfound]
        exact ⟨hwhole, by rw [hvalid, hfound]⟩

end ConfigFile

namespace ConfigLibrary

open ConfigFile

variable (lib : ConfigLibrary)

/-- `text.strip()`. -/
def strip (text : String) : String := String.ofList (lib.unicode.strip text.toList)

def string (entries : TomlTable) (key : String) : Except PyError String :=
  match entries.get key.toList with
  | some (.string text) => .ok (lib.strip text)
  | _ => .error (configError (key ++ " must be a string"))

/-! ### Listeners -/

def listener (entries : TomlTable) (label : String) : Except PyError ListenerConfig := do
  let enabled ← bool entries "enabled"
  let listen ← lib.string entries "listen"
  let port ← int entries "port"
  let allowWildcardBind ← optionalBool entries "allow_wildcard_bind"
  requireConfig (1 ≤ port ∧ port ≤ 65535) (label ++ ".port must be 1..65535")
  let config : ListenerConfig := ⟨enabled, listen, port, allowWildcardBind⟩
  match lib.ipAddress listen with
  | none => .error (configError (label ++
      ".listen must be an IPv4 loopback/private address or explicitly authorized 0.0.0.0"))
  | some address =>
      requireConfig (address.version = 4) (label ++ ".listen must be IPv4")
      requireConfig (address.isMulticast = false)
        (label ++ ".listen may not be a multicast address")
      if address.isUnspecified = true then
        requireConfig (listen = "0.0.0.0" ∧ allowWildcardBind = true)
          (label ++ ".listen=0.0.0.0 requires " ++ label ++ ".allow_wildcard_bind=true")
        return config
      requireConfig (address.isLoopback = true ∨ address.isPrivate = true)
        (label ++ ".listen must be an IPv4 loopback/private address; " ++
          "public binds are not permitted")
      return config

/-- Configurations from before the monitor have none. -/
def monitorListener (root : TomlTable) : Except PyError ListenerConfig :=
  match root.get "monitor".toList with
  | none => .ok ⟨false, "127.0.0.1", 8002, false⟩
  | some (.table entries) => lib.listener entries "monitor"
  | some _ => .error (configError "missing or invalid [monitor] table")

/-! ### `load_config` -/

/-- The part of `load_config` that reads a `[radio]` table. -/
def radioConfig (radio : TomlTable) : Except PyError (String × ℤ × ℤ × Bool) := do
  let device ← lib.string radio "device"
  let frequencyHz ← frequencyHz (radio.get "frequency_mhz".toList)
  let txPower ← int radio "tx_power"
  let txEnabled ← bool radio "tx_enabled"
  return (device, frequencyHz, txPower, txEnabled)

/-- `load_config` behind the reading of the file. -/
def configOfRoot (root : TomlTable) : Except PyError TNCConfig := do
  let hardware ← table root "hardware"
  let radio ← table root "radio"
  let packet ← table root "packet"
  let kiss ← table root "kiss"
  let agw ← table root "agw"
  let monitor ← lib.monitorListener root
  let firmware ← table root "firmware"
  let baud ← int packet "baud"
  requireConfig (baud = 1200) "packet.baud must remain 1200"
  let txdelayMs ← int packet "txdelay_ms"
  let slottimeMs ← int packet "slottime_ms"
  requireConfig (0 ≤ txdelayMs ∧ txdelayMs ≤ 2550 ∧ txdelayMs % 10 = 0)
    "packet.txdelay_ms must be 0..2550 in 10 ms increments"
  requireConfig (10 ≤ slottimeMs ∧ slottimeMs ≤ 2550 ∧ slottimeMs % 10 = 0)
    "packet.slottime_ms must be 10..2550 in 10 ms increments"
  let allowAutomaticFlash ← bool firmware "allow_automatic_flash"
  requireConfig (allowAutomaticFlash = false) "automatic firmware flashing is not permitted"
  let target ← lib.string hardware "target"
  let (device, frequencyHz, txPower, txEnabled) ← lib.radioConfig radio
  let persist ← int packet "persist"
  let kiss ← lib.listener kiss "kiss"
  let agwListener ← lib.listener agw "agw"
  let agwRawOnly ← bool agw "raw_only"
  let requiredIdentity ← lib.string firmware "required_identity"
  let config : TNCConfig := {
    target, device, frequencyHz, txPower, txEnabled
    txdelay := txdelayMs / 10
    persist
    slottime := slottimeMs / 10
    kiss, agw := agwListener, monitor, agwRawOnly, requiredIdentity }
  validateConfig config
  return config

/-- `tomllib.load` of an open file. -/
def load (bytes : Bytes) : Except PyError TomlTable :=
  match decodeUtf8 bytes with
  | none => .error ⟨.other "UnicodeDecodeError", lib.decodeError bytes⟩
  | some text => lib.loads text

/-- `load_config`; a file that cannot be opened or read is an `OSError`. -/
def loadConfig (path : String) (file : Except PyError Bytes) : Except PyError TNCConfig :=
  let unreadable (e : PyError) :=
    configError ("cannot load configuration " ++ path ++ ": " ++ e.message)
  match file with
  | .error e => .error (unreadable e)
  | .ok bytes =>
      match lib.load bytes with
      | .error e => .error (if e.cls = .other "TOMLDecodeError" then unreadable e else e)
      | .ok root => lib.configOfRoot root

/-! ### What an accepted file says -/

variable {lib}

/-- The settings of the radio in an accepted document. -/
structure RadioRead (radio : TomlTable) (config : TNCConfig) : Prop where
  frequency : frequencyHz (radio.get "frequency_mhz".toList) = .ok config.frequencyHz
  power : int radio "tx_power" = .ok config.txPower
  enabled : bool radio "tx_enabled" = .ok config.txEnabled

theorem radioConfig_ok {radio : TomlTable} {device : String} {frequency power : ℤ}
    {enabled : Bool} (h : lib.radioConfig radio = .ok (device, frequency, power, enabled)) :
    frequencyHz (radio.get "frequency_mhz".toList) = .ok frequency ∧
      int radio "tx_power" = .ok power ∧ bool radio "tx_enabled" = .ok enabled := by
  obtain ⟨device', -, hfrequency⟩ := bind_eq_ok h
  obtain ⟨frequency', hfrequency, hpower⟩ := bind_eq_ok hfrequency
  obtain ⟨power', hpower, henabled⟩ := bind_eq_ok hpower
  obtain ⟨enabled', henabled, hresult⟩ := bind_eq_ok henabled
  cases hresult
  exact ⟨hfrequency, hpower, henabled⟩

theorem configOfRoot_ok {root : TomlTable} {config : TNCConfig}
    (h : lib.configOfRoot root = .ok config) :
    ∃ radio, table root "radio" = .ok radio ∧ RadioRead radio config ∧
      validateConfig config = .ok () := by
  unfold configOfRoot at h
  obtain ⟨hardware, -, h⟩ := bind_eq_ok h
  obtain ⟨radio, hradio, h⟩ := bind_eq_ok h
  obtain ⟨packet, -, h⟩ := bind_eq_ok h
  obtain ⟨kiss, -, h⟩ := bind_eq_ok h
  obtain ⟨agw, -, h⟩ := bind_eq_ok h
  obtain ⟨monitor, -, h⟩ := bind_eq_ok h
  obtain ⟨firmware, -, h⟩ := bind_eq_ok h
  obtain ⟨baud, -, h⟩ := bind_eq_ok h
  obtain ⟨-, -, h⟩ := bind_eq_ok h
  obtain ⟨txdelayMs, -, h⟩ := bind_eq_ok h
  obtain ⟨slottimeMs, -, h⟩ := bind_eq_ok h
  obtain ⟨-, -, h⟩ := bind_eq_ok h
  obtain ⟨-, -, h⟩ := bind_eq_ok h
  obtain ⟨flash, -, h⟩ := bind_eq_ok h
  obtain ⟨-, -, h⟩ := bind_eq_ok h
  obtain ⟨target, -, h⟩ := bind_eq_ok h
  obtain ⟨⟨device, frequency, power, enabled⟩, hsettings, h⟩ := bind_eq_ok h
  obtain ⟨persist, -, h⟩ := bind_eq_ok h
  obtain ⟨kissListener, -, h⟩ := bind_eq_ok h
  obtain ⟨agwListener, -, h⟩ := bind_eq_ok h
  obtain ⟨rawOnly, -, h⟩ := bind_eq_ok h
  obtain ⟨identity, -, h⟩ := bind_eq_ok h
  obtain ⟨⟨⟩, hvalid, h⟩ := bind_eq_ok h
  cases h
  obtain ⟨hfrequency, hpower, henabled⟩ := radioConfig_ok hsettings
  exact ⟨radio, hradio, ⟨hfrequency, hpower, henabled⟩, hvalid⟩

end ConfigLibrary

end YwdTnc
