import YwdTnc.Coding.Failures
import YwdTnc.Product.LineReader

/-!
# How `load_config` fails

Every check of `load_config` raises a `TNCConfigurationError`, and its callers catch
nothing else. The frequency is converted before it is checked, and of the exceptions of the
conversion only `InvalidOperation` and the `ValueError` of the range check are caught: the
text of an integer that is too long and the integer of an infinity raise others.
-/

namespace YwdTnc

open Coding

def IsConfigurationError (e : PyError) : Prop := e.cls = .tncConfigurationError

/-- A configuration that `validate_config` accepts, or a `TNCConfigurationError`. -/
def FailsProperly : Except PyError TNCConfig → Prop
  | .ok config => validateConfig config = .ok ()
  | .error e => IsConfigurationError e

/-- A value that is no infinity, and no integer of more than 4300 digits. -/
def Convertible : Option TomlValue → Prop
  | some (.integer n) => n.natAbs < 10 ^ 4300
  | some (.float (.infinite _)) => False
  | _ => True

theorem requireConfig_failsOnly (ok : Prop) [Decidable ok] (message : String) :
    FailsOnly IsConfigurationError (requireConfig ok message) :=
  FailsOnly.ite (fun _ => failsOnly_ok _) fun _ => failsOnly_error rfl

theorem requireConfig_ok {ok : Prop} [Decidable ok] {message : String} {u : Unit}
    (h : requireConfig ok message = .ok u) : ok := by
  by_contra hnot
  simp [requireConfig, hnot] at h

theorem validateConfig_failsOnly (config : TNCConfig) :
    FailsOnly IsConfigurationError (validateConfig config) := by
  refine (requireConfig_failsOnly _ _).bind fun _ _ => ?_
  refine (requireConfig_failsOnly _ _).bind fun _ _ => ?_
  dsimp only
  split
  case h_1 e _ =>
      refine FailsOnly.bind (failsOnly_error ?_) fun _ h => nomatch h
      rfl
  case h_2 hz _ =>
      refine (failsOnly_ok ()).bind fun _ _ => ?_
      iterate 7 refine (requireConfig_failsOnly _ _).bind fun _ _ => ?_
      exact requireConfig_failsOnly _ _

namespace ConfigFile

/-! ### Fields -/

theorem table_failsOnly (root : TomlTable) (name : String) :
    FailsOnly IsConfigurationError (table root name) := by
  unfold table
  split
  · exact failsOnly_ok _
  · exact failsOnly_error rfl

theorem bool_failsOnly (entries : TomlTable) (key : String) :
    FailsOnly IsConfigurationError (bool entries key) := by
  unfold bool
  split
  · exact failsOnly_ok _
  · exact failsOnly_error rfl

theorem optionalBool_failsOnly (entries : TomlTable) (key : String) :
    FailsOnly IsConfigurationError (optionalBool entries key) := by
  unfold optionalBool
  split
  · exact failsOnly_ok _
  · exact failsOnly_ok _
  · exact failsOnly_error rfl

theorem int_failsOnly (entries : TomlTable) (key : String) :
    FailsOnly IsConfigurationError (int entries key) := by
  unfold int
  split
  · exact failsOnly_ok _
  · exact failsOnly_error rfl

/-! ### The frequency -/

theorem wholeFrequencyHz_failsOnly (hzValue : ℚ) :
    FailsOnly IsConfigurationError (wholeFrequencyHz hzValue) := by
  unfold wholeFrequencyHz
  apply FailsOnly.ite
  · intro _
    exact failsOnly_error rfl
  · intro _
    split
    · exact failsOnly_error rfl
    · exact failsOnly_ok _

/-- The frequency fails like every other field when its value can be converted, and in
another way when it cannot. -/
theorem frequencyHz_failsOnly_iff (value : Option TomlValue) :
    FailsOnly IsConfigurationError (frequencyHz value) ↔ Convertible value := by
  unfold frequencyHz
  split
  case h_1 n =>
      by_cases hlong : 10 ^ 4300 ≤ n.natAbs
      · simp only [hlong, if_true, Convertible]
        constructor
        · intro h
          cases h _ rfl
        · intro h
          omega
      · simp only [hlong, if_false, Convertible]
        exact ⟨fun _ => by omega, fun _ => wholeFrequencyHz_failsOnly _⟩
  case h_2 => exact ⟨fun _ => trivial, fun _ => wholeFrequencyHz_failsOnly _⟩
  case h_3 => exact ⟨fun h => (nomatch h _ rfl), fun h => h.elim⟩
  case h_4 => exact ⟨fun _ => trivial, fun _ => failsOnly_error rfl⟩
  case h_5 hinteger hfinite hinfinite hnan =>
      refine ⟨fun _ => ?_, fun _ => failsOnly_error rfl⟩
      cases value with
      | none => trivial
      | some value =>
          cases value with
          | integer n => exact (hinteger n rfl).elim
          | float x =>
              cases x with
              | finite x => trivial
              | infinite negative => exact (hinfinite _ rfl).elim
              | nan => trivial
          | _ => trivial

end ConfigFile

namespace ConfigLibrary

open ConfigFile

variable (lib : ConfigLibrary)

theorem string_failsOnly (entries : TomlTable) (key : String) :
    FailsOnly IsConfigurationError (lib.string entries key) := by
  unfold string
  split
  · exact failsOnly_ok _
  · exact failsOnly_error rfl

theorem listener_failsOnly (entries : TomlTable) (label : String) :
    FailsOnly IsConfigurationError (lib.listener entries label) := by
  refine (bool_failsOnly _ _).bind fun enabled _ => ?_
  refine (lib.string_failsOnly _ _).bind fun listen _ => ?_
  refine (int_failsOnly _ _).bind fun port _ => ?_
  refine (optionalBool_failsOnly _ _).bind fun allowWildcardBind _ => ?_
  refine (requireConfig_failsOnly _ _).bind fun _ _ => ?_
  dsimp only
  split
  case h_1 => exact failsOnly_error rfl
  case h_2 address _ =>
      refine (requireConfig_failsOnly _ _).bind fun _ _ => ?_
      refine (requireConfig_failsOnly _ _).bind fun _ _ => ?_
      refine FailsOnly.ite (fun _ => ?_) fun _ => ?_
      · exact (requireConfig_failsOnly _ _).bind fun _ _ => failsOnly_ok _
      · exact (requireConfig_failsOnly _ _).bind fun _ _ => failsOnly_ok _

theorem monitorListener_failsOnly (root : TomlTable) :
    FailsOnly IsConfigurationError (lib.monitorListener root) := by
  unfold monitorListener
  split
  · exact failsOnly_ok _
  · exact lib.listener_failsOnly _ _
  · exact failsOnly_error rfl

/-! ### The checks before the frequency -/

/-- The document passes every check that `load_config` makes before it reads the frequency. -/
structure PassesUntilFrequency (root radio : TomlTable) : Prop where
  hardware : ∃ hardware target, table root "hardware" = .ok hardware ∧
    lib.string hardware "target" = .ok target
  radioTable : table root "radio" = .ok radio
  device : ∃ device, lib.string radio "device" = .ok device
  packet : ∃ packet txdelayMs slottimeMs, table root "packet" = .ok packet ∧
    int packet "baud" = .ok 1200 ∧ int packet "txdelay_ms" = .ok txdelayMs ∧
    int packet "slottime_ms" = .ok slottimeMs ∧
    (0 ≤ txdelayMs ∧ txdelayMs ≤ 2550 ∧ txdelayMs % 10 = 0) ∧
    (10 ≤ slottimeMs ∧ slottimeMs ≤ 2550 ∧ slottimeMs % 10 = 0)
  kiss : ∃ kiss, table root "kiss" = .ok kiss
  agw : ∃ agw, table root "agw" = .ok agw
  monitor : ∃ monitor, lib.monitorListener root = .ok monitor
  firmware : ∃ firmware, table root "firmware" = .ok firmware ∧
    bool firmware "allow_automatic_flash" = .ok false

/-- A configuration error, or what the conversion of the frequency raises. -/
def IsRefusal (root : TomlTable) (e : PyError) : Prop :=
  IsConfigurationError e ∨ ∃ radio, lib.PassesUntilFrequency root radio ∧
    frequencyHz (radio.get "frequency_mhz".toList) = .error e

theorem configOfRoot_failsOnly (root : TomlTable) :
    FailsOnly (lib.IsRefusal root) (lib.configOfRoot root) := by
  have proper : ∀ {α : Type} {x : Except PyError α}, FailsOnly IsConfigurationError x →
      FailsOnly (lib.IsRefusal root) x := fun h => h.mono fun _ => .inl
  refine (proper (table_failsOnly _ _)).bind fun hardware hhardware => ?_
  refine (proper (table_failsOnly _ _)).bind fun radio hradio => ?_
  refine (proper (table_failsOnly _ _)).bind fun packet hpacket => ?_
  refine (proper (table_failsOnly _ _)).bind fun kiss hkiss => ?_
  refine (proper (table_failsOnly _ _)).bind fun agw hagw => ?_
  refine (proper (lib.monitorListener_failsOnly _)).bind fun monitor hmonitor => ?_
  refine (proper (table_failsOnly _ _)).bind fun firmware hfirmware => ?_
  refine (proper (int_failsOnly _ _)).bind fun baud hbaud => ?_
  refine (proper (requireConfig_failsOnly _ _)).bind fun _ hrate => ?_
  refine (proper (int_failsOnly _ _)).bind fun txdelayMs htxdelay => ?_
  refine (proper (int_failsOnly _ _)).bind fun slottimeMs hslottime => ?_
  refine (proper (requireConfig_failsOnly _ _)).bind fun _ hdelay => ?_
  refine (proper (requireConfig_failsOnly _ _)).bind fun _ hslot => ?_
  refine (proper (bool_failsOnly _ _)).bind fun flash hflash => ?_
  refine (proper (requireConfig_failsOnly _ _)).bind fun _ hforbidden => ?_
  refine (proper (lib.string_failsOnly _ _)).bind fun target htarget => ?_
  refine FailsOnly.bind ?_ fun settings _ => ?_
  · refine (proper (lib.string_failsOnly _ _)).bind fun device hdevice => ?_
    refine FailsOnly.bind ?_ fun hz _ => ?_
    · -- The one step that can fail in another way.
      intro e he
      have hbaud' := requireConfig_ok hrate
      have hflash' := requireConfig_ok hforbidden
      subst hbaud' hflash'
      exact .inr ⟨radio,
        { hardware := ⟨hardware, target, hhardware, htarget⟩
          radioTable := hradio
          device := ⟨device, hdevice⟩
          packet := ⟨packet, txdelayMs, slottimeMs, hpacket, hbaud, htxdelay, hslottime,
            requireConfig_ok hdelay, requireConfig_ok hslot⟩
          kiss := ⟨kiss, hkiss⟩
          agw := ⟨agw, hagw⟩
          monitor := ⟨monitor, hmonitor⟩
          firmware := ⟨firmware, hfirmware, hflash⟩ }, he⟩
    · refine (proper (int_failsOnly _ _)).bind fun power _ => ?_
      exact (proper (bool_failsOnly _ _)).bind fun enabled _ => failsOnly_ok _
  refine (proper (int_failsOnly _ _)).bind fun persist _ => ?_
  refine (proper (lib.listener_failsOnly _ _)).bind fun kissListener _ => ?_
  refine (proper (lib.listener_failsOnly _ _)).bind fun agwListener _ => ?_
  refine (proper (bool_failsOnly _ _)).bind fun rawOnly _ => ?_
  refine (proper (lib.string_failsOnly _ _)).bind fun identity _ => ?_
  exact (proper (validateConfig_failsOnly _)).bind fun _ _ => failsOnly_ok _

variable {lib}

/-- What the conversion of the frequency raises goes through to the caller. -/
theorem configOfRoot_error {root radio : TomlTable} (h : lib.PassesUntilFrequency root radio)
    {e : PyError} (he : frequencyHz (radio.get "frequency_mhz".toList) = .error e) :
    lib.configOfRoot root = .error e := by
  obtain ⟨hardware, target, hhardware, htarget⟩ := h.hardware
  obtain ⟨device, hdevice⟩ := h.device
  obtain ⟨packet, txdelayMs, slottimeMs, hpacket, hbaud, htxdelay, hslottime, hdelay, hslot⟩ :=
    h.packet
  obtain ⟨kiss, hkiss⟩ := h.kiss
  obtain ⟨agw, hagw⟩ := h.agw
  obtain ⟨monitor, hmonitor⟩ := h.monitor
  obtain ⟨firmware, hfirmware, hflash⟩ := h.firmware
  have hok : ∀ {α β : Type} (a : α) (f : α → Except PyError β), (Except.ok a >>= f) = f a :=
    fun _ _ => rfl
  have herror : ∀ {α β : Type} (f : α → Except PyError β), (Except.error e >>= f) = .error e :=
    fun _ => rfl
  simp only [configOfRoot, radioConfig, hhardware, h.radioTable, hpacket, hkiss, hagw, hmonitor,
    hfirmware, hbaud, htxdelay, hslottime, hflash, htarget, hdevice, he, requireConfig, hdelay,
    hslot, and_self, if_true, hok, herror]

theorem configOfRoot_failsProperly_iff (root : TomlTable) :
    FailsProperly (lib.configOfRoot root) ↔
      ∀ radio, lib.PassesUntilFrequency root radio →
        Convertible (radio.get "frequency_mhz".toList) := by
  constructor
  · intro hproper radio hradio
    rw [← frequencyHz_failsOnly_iff]
    intro e he
    simpa only [configOfRoot_error hradio he, FailsProperly] using hproper
  · intro hconvertible
    cases hconfig : lib.configOfRoot root with
    | ok config =>
        obtain ⟨radio, -, -, hvalid⟩ := configOfRoot_ok hconfig
        exact hvalid
    | error e =>
        rcases lib.configOfRoot_failsOnly root e hconfig with he | ⟨radio, hradio, he⟩
        · exact he
        · exact (frequencyHz_failsOnly_iff _).mpr (hconvertible radio hradio) e he

/-- A document that is read makes `load_config` fail only in its own way if and only if,
where the checks before it pass, its frequency can be converted. -/
theorem loadConfig_failsProperly_iff {path : String} {bytes : Bytes} {root : TomlTable}
    (hload : lib.load bytes = .ok root) :
    FailsProperly (lib.loadConfig path (.ok bytes)) ↔
      ∀ radio, lib.PassesUntilFrequency root radio →
        Convertible (radio.get "frequency_mhz".toList) := by
  simpa only [loadConfig, hload] using configOfRoot_failsProperly_iff root

theorem not_failsProperly {path : String} {bytes : Bytes} {root : TomlTable} {e : PyError}
    (hload : lib.load bytes = .ok root) (hconfig : lib.configOfRoot root = .error e)
    (hcls : e.cls ≠ .tncConfigurationError) :
    ¬ FailsProperly (lib.loadConfig path (.ok bytes)) := by
  simp only [loadConfig, hload, hconfig, FailsProperly, IsConfigurationError]
  exact hcls

theorem load_encodeUtf8 (text : List Char) : lib.load (encodeUtf8 text) = lib.loads text := by
  simp [load, decodeUtf8_encodeUtf8]

end ConfigLibrary

/-! ### An infinite frequency -/

open ConfigLibrary

/-- The small reader of values, and an infinity. -/
def readValueOrInfinity (text : List Char) : Option TomlValue :=
  if text = " inf".toList then some (.float (.infinite false)) else readValue text

def infinityLibrary : ConfigLibrary where
  unicode := .latin1
  loads text :=
    match ((splitLines (replaceCrlf text)).mapM readLine).bind
        (readDocument readValueOrInfinity) with
    | some root => .ok root
    | none => .error (tomlDecodeError "Invalid statement")
  decodeError := lineLibrary.decodeError
  ipAddress := lineLibrary.ipAddress

/-- Whether a result is an exception of a class. -/
def Raised (cls : ExcClass) : Except PyError TNCConfig → Bool
  | .ok _ => false
  | .error e => e.cls = cls

theorem infinity_raised :
    Raised (.other "OverflowError") (infinityLibrary.loads (exampleText "inf" "\n") >>=
      infinityLibrary.configOfRoot) = true := by
  decide +kernel

/-- The document is read, and its frequency is not converted. -/
theorem exists_root_of_raised {text : List Char}
    (h : Raised (.other "OverflowError") (infinityLibrary.loads text >>=
      infinityLibrary.configOfRoot) = true) :
    ∃ root e, infinityLibrary.load (encodeUtf8 text) = .ok root ∧
      infinityLibrary.configOfRoot root = .error e ∧ e.cls = .other "OverflowError" := by
  rw [load_encodeUtf8]
  cases hloads : infinityLibrary.loads text with
  | error e =>
      -- The only error of the reader is another one.
      have he : e = tomlDecodeError "Invalid statement" := by
        simp only [infinityLibrary] at hloads
        split at hloads
        · cases hloads
        · cases hloads
          rfl
      rw [hloads, he] at h
      cases h
  | ok root =>
      rw [hloads] at h
      cases hconfig : infinityLibrary.configOfRoot root with
      | ok config =>
          simp [bind, Except.bind, hconfig, Raised] at h
      | error e =>
          exact ⟨root, e, rfl, hconfig, by simpa [bind, Except.bind, hconfig, Raised] using h⟩

theorem loadConfig_failsProperly_iff_infinity :
    ∃ root, infinityLibrary.load (encodeUtf8 (exampleText "inf" "\n")) = .ok root ∧
      (FailsProperly (infinityLibrary.loadConfig "config.toml"
        (.ok (encodeUtf8 (exampleText "inf" "\n")))) ↔
        ∀ radio, infinityLibrary.PassesUntilFrequency root radio →
          Convertible (radio.get "frequency_mhz".toList)) := by
  obtain ⟨root, e, hload, -, -⟩ := exists_root_of_raised infinity_raised
  exact ⟨root, hload, loadConfig_failsProperly_iff hload⟩

/-- The example with an infinite frequency is read, and ends with an `OverflowError`. -/
theorem loadConfig_infinity_overflows :
    ∃ root, infinityLibrary.load (encodeUtf8 (exampleText "inf" "\n")) = .ok root ∧
      ¬ FailsProperly (infinityLibrary.loadConfig "config.toml"
        (.ok (encodeUtf8 (exampleText "inf" "\n")))) := by
  obtain ⟨root, e, hload, hconfig, hcls⟩ := exists_root_of_raised infinity_raised
  exact ⟨root, hload, not_failsProperly hload hconfig (by simp [hcls])⟩

end YwdTnc
