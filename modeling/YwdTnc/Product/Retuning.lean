import YwdTnc.Product.LineReader
import YwdTnc.Product.ProfileCli
import YwdTnc.Product.RadioLines

/-!
# Retuning by rewriting

`rx-only` writes the frequency of the configuration back with three decimals of a megahertz.
What is read again is that frequency if and only if it is a whole number of kilohertz. It
writes to the lines that look like the settings of the table `radio`; these are the settings
of the document, unless they stand in a string over several lines or in another table.
-/

namespace YwdTnc

open Coding ConfigFile ConfigLibrary

/-! ### Printing and reading a frequency -/

/-- The digits that are printed. -/
def printedKhz (frequencyHz : ℤ) : ℤ := roundHalfEven (toBinary64 (frequencyHz / 1000000) * 10 ^ 3)

/-- Three decimals are nearer than one kilohertz. -/
theorem abs_printedKhz_sub_lt {hz : ℤ} (hlow : 0 ≤ hz) (hhigh : hz < 950000000) :
    |(printedKhz hz : ℚ) - hz / 1000| < 1 / 2 + 1 / 2 ^ 30 := by
  have hnear := abs_sub_toBinary64_le ((hz : ℚ) / 1000000)
  have hround := abs_sub_roundHalfEven_le (toBinary64 ((hz : ℚ) / 1000000) * 10 ^ 3)
  have hpos : (0 : ℚ) ≤ hz := by exact_mod_cast hlow
  have hlt : (hz : ℚ) < 950000000 := by exact_mod_cast hhigh
  rw [abs_of_nonneg (by positivity : (0 : ℚ) ≤ hz / 1000000)] at hnear
  rw [abs_le] at hnear hround
  unfold printedKhz
  rw [abs_lt]
  norm_num at hnear hround ⊢
  constructor <;> linarith

/-- A whole number of kilohertz is printed as it is. -/
theorem printedKhz_of_dvd {hz : ℤ} (hlow : 0 ≤ hz) (hhigh : hz < 950000000) (h : 1000 ∣ hz) :
    1000 * printedKhz hz = hz := by
  obtain ⟨khz, rfl⟩ := h
  have hclose := abs_printedKhz_sub_lt hlow hhigh
  have hquotient : ((1000 * khz : ℤ) : ℚ) / 1000 = khz := by
    push_cast
    ring
  rw [hquotient, abs_lt] at hclose
  norm_num at hclose
  have hlow' : (-1 : ℚ) < (printedKhz (1000 * khz) : ℚ) - khz := by linarith [hclose.1]
  have hhigh' : (printedKhz (1000 * khz) : ℚ) - khz < 1 := by linarith [hclose.2]
  have hlow'' : -1 < printedKhz (1000 * khz) - khz := by exact_mod_cast hlow'
  have hhigh'' : printedKhz (1000 * khz) - khz < 1 := by exact_mod_cast hhigh'
  omega

/-- A hundred to a thousand megahertz with three decimals are read back as they are
written. -/
theorem shortestDecimal_of_khz {khz : ℤ} (hlow : 144000 ≤ khz) (hhigh : khz ≤ 950000) :
    shortestDecimal (toBinary64 (khz / 1000)) = khz / 1000 := by
  have hlow' : (144000 : ℚ) ≤ khz := by exact_mod_cast hlow
  have hhigh' : (khz : ℚ) ≤ 950000 := by exact_mod_cast hhigh
  have hpos : (0 : ℚ) < khz / 1000 := by positivity
  have hnear := abs_sub_toBinary64_le ((khz : ℚ) / 1000)
  rw [abs_of_pos hpos, abs_le] at hnear
  norm_num at hnear
  apply shortestDecimal_toBinary64 (e := 2) hpos
  · norm_num
    linarith
  · refine ⟨khz * 10 ^ 9, ?_⟩
    push_cast
    norm_num
    ring
  · have hbinary : 0 < toBinary64 ((khz : ℚ) / 1000) := by linarith
    rw [abs_of_pos hbinary]
    apply le_antisymm
    · have hlog := (Int.lt_zpow_iff_log_lt (b := 10) (x := 3) (by norm_num) hbinary).mp (by
        norm_num
        linarith)
      omega
    · exact (Int.zpow_le_iff_le_log (b := 10) (by norm_num) hbinary).mp (by
        norm_num
        linarith)

theorem validateRxFrequencyHz_range {hz : ℤ} (h : validateRxFrequencyHz hz = .ok hz) :
    144000000 ≤ hz ∧ hz < 950000000 := by
  unfold validateRxFrequencyHz at h
  split at h
  · cases h
  case isFalse hband =>
    rw [not_not] at hband
    omega

theorem printedKhz_range {hz : ℤ} (h : validateRxFrequencyHz hz = .ok hz) :
    144000 ≤ printedKhz hz ∧ printedKhz hz ≤ 950000 := by
  obtain ⟨hlow, hhigh⟩ := validateRxFrequencyHz_range h
  have hclose := abs_printedKhz_sub_lt (by omega) hhigh
  have hlow' : (144000000 : ℚ) ≤ hz := by exact_mod_cast hlow
  have hhigh' : (hz : ℚ) < 950000000 := by exact_mod_cast hhigh
  rw [abs_lt] at hclose
  norm_num at hclose
  have hbelow : (143999 : ℚ) < printedKhz hz := by linarith [hclose.1]
  have habove : (printedKhz hz : ℚ) < 950001 := by linarith [hclose.2]
  have hbelow' : 143999 < printedKhz hz := by exact_mod_cast hbelow
  have habove' : printedKhz hz < 950001 := by exact_mod_cast habove
  omega

/-- The frequency of a printed text. -/
theorem frequencyHz_of_khz {khz : ℤ} (hlow : 144000 ≤ khz) (hhigh : khz ≤ 950000) :
    frequencyHz (some (.float (.finite (toBinary64 (khz / 1000))))) =
      wholeFrequencyHz ((1000 * khz : ℤ) : ℚ) := by
  have hproduct : (khz : ℚ) / 1000 * 1000000 = ((1000 * khz : ℤ) : ℚ) := by
    push_cast
    ring
  simp only [frequencyHz, shortestDecimal_of_khz hlow hhigh, hproduct]

theorem wholeFrequencyHz_of_valid {hz : ℤ} (h : validateRxFrequencyHz hz = .ok hz) :
    wholeFrequencyHz (hz : ℚ) = .ok hz := by
  unfold wholeFrequencyHz
  rw [Int.floor_intCast, if_neg (by simp), h]

/-- What reading a printed frequency gives. -/
theorem frequencyHz_printed_iff {hz : ℤ} (h : validateRxFrequencyHz hz = .ok hz) :
    frequencyHz (some (.float (.finite (toBinary64 (printedKhz hz / 1000))))) = .ok hz ↔
      1000 ∣ hz := by
  obtain ⟨hlow, hhigh⟩ := printedKhz_range h
  rw [frequencyHz_of_khz hlow hhigh]
  constructor
  · intro hread
    have hsame := (wholeFrequencyHz_valid hread).1
    exact ⟨printedKhz hz, by exact_mod_cast hsame.symm⟩
  · intro hdvd
    obtain ⟨hpos, hlt⟩ := validateRxFrequencyHz_range h
    rw [printedKhz_of_dvd (by omega) hlt hdvd]
    exact wholeFrequencyHz_of_valid h

section

variable {loads : List Char → Except PyError TomlTable} {settings : RadioSettings}

/-- The values that the texts of a profile are read as. -/
def printedValue (settings : RadioSettings) : RadioKey → TomlValue
  | .frequencyMhz => .float (.finite (toBinary64 (printedKhz settings.frequencyHz / 1000)))
  | .txPower => .integer settings.txPower
  | .txEnabled => .boolean settings.txEnabled

/-- Settings as a configuration has them. -/
structure RadioSettings.Valid (settings : RadioSettings) : Prop where
  frequency : validateRxFrequencyHz settings.frequencyHz = .ok settings.frequencyHz
  power_nonneg : 0 ≤ settings.txPower
  power_le : settings.txPower ≤ 255

end

section

variable {lib : ConfigLibrary} {settings : RadioSettings}

end

/-! ### The lines that the switcher finds -/

/-- The table `radio` of a document. -/
def radioOf (lib : ConfigLibrary) (text : List Char) : Option TomlTable :=
  match lib.loads text with
  | .error _ => none
  | .ok root => (table root "radio").toOption

/-- The table `radio` of a document into which the switcher has written some settings. -/
def switchedRadio (lib : ConfigLibrary) (text : List Char) (settings : RadioSettings) :
    Option TomlTable :=
  match rewriteRadioSettings lib.unicode.toUnicode (universalNewlines text) settings with
  | .error _ => none
  | .ok text' => radioOf lib text'

/-- The line that the switcher finds for a key is the document's own setting: whatever is
written there is what the document has. -/
def OwnSetting (lib : ConfigLibrary) (text : List Char) (key : RadioKey) : Prop :=
  ∀ settings radio, settings.Valid → switchedRadio lib text settings = some radio →
    radio.get key.name.toList = some (printedValue settings key)

/-- The line that the switcher finds for a key is another one: whatever is written there, the
document has what it had. -/
def ForeignSetting (lib : ConfigLibrary) (text : List Char) (key : RadioKey) : Prop :=
  ∀ settings radio radio₀, settings.Valid → switchedRadio lib text settings = some radio →
    radioOf lib text = some radio₀ → radio.get key.name.toList = radio₀.get key.name.toList

section

variable {lib : ConfigLibrary} {config config' : TNCConfig}

section Switched

variable {text : List Char} {radio radio₀ : TomlTable}
  (hsettings : RadioSettings.Valid ⟨config.frequencyHz, config.txPower, false⟩)
  (hswitched : switchedRadio lib text ⟨config.frequencyHz, config.txPower, false⟩ = some radio)
  (horiginal : radioOf lib text = some radio₀) (hread₀ : RadioRead radio₀ config)

include hsettings hswitched

theorem OwnSetting.frequency (h : OwnSetting lib text .frequencyMhz) :
    frequencyHz (radio.get "frequency_mhz".toList) = .ok config.frequencyHz ↔
      1000 ∣ config.frequencyHz := by
  have hvalue := h _ radio hsettings hswitched
  rw [RadioKey.name] at hvalue
  rw [hvalue]
  exact frequencyHz_printed_iff hsettings.frequency

theorem OwnSetting.power (h : OwnSetting lib text .txPower) :
    int radio "tx_power" = .ok config.txPower := by
  have hvalue := h _ radio hsettings hswitched
  rw [RadioKey.name] at hvalue
  rw [int, hvalue]
  rfl

theorem OwnSetting.enabled (h : OwnSetting lib text .txEnabled) :
    bool radio "tx_enabled" = .ok false := by
  have hvalue := h _ radio hsettings hswitched
  rw [RadioKey.name] at hvalue
  rw [ConfigFile.bool, hvalue]
  rfl

include horiginal hread₀

theorem ForeignSetting.frequency (h : ForeignSetting lib text .frequencyMhz) :
    frequencyHz (radio.get "frequency_mhz".toList) = .ok config.frequencyHz := by
  have hvalue := h _ radio radio₀ hsettings hswitched horiginal
  rw [RadioKey.name] at hvalue
  rw [hvalue]
  exact hread₀.frequency

theorem ForeignSetting.power (h : ForeignSetting lib text .txPower) :
    int radio "tx_power" = .ok config.txPower := by
  have hvalue := h _ radio radio₀ hsettings hswitched horiginal
  rw [RadioKey.name] at hvalue
  rw [int, hvalue]
  exact hread₀.power

theorem ForeignSetting.enabled (h : ForeignSetting lib text .txEnabled) :
    bool radio "tx_enabled" = .ok false ↔ config.txEnabled = false := by
  have hvalue := h _ radio radio₀ hsettings hswitched horiginal
  rw [RadioKey.name] at hvalue
  have hsame : bool radio "tx_enabled" = bool radio₀ "tx_enabled" := by
    rw [ConfigFile.bool, hvalue]
    rfl
  rw [hsame, hread₀.enabled, Except.ok.injEq]

end Switched

end

end YwdTnc
