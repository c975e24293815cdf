import YwdTnc.Product.LineReader
import YwdTnc.Product.RadioSettings

/-!
# Switching the RF profile

`apply_profile` reads the configuration file, rewrites its radio settings, validates the
candidate, keeps the old file as a backup and installs the new one. When the restart of the
service fails it writes the old text back. The files are explicit; what the host may refuse
is an input, and what is written is written.
-/

namespace YwdTnc

open Coding

/-- The content and the permission bits of a file. -/
structure HostFile where
  bytes : Bytes
  mode : ℕ
  deriving DecidableEq

/-- The configuration file and the backup beside it. -/
structure ProfileFiles where
  config : HostFile
  backup : Option HostFile
  deriving DecidableEq

/-- What the host answers. A refused copy says what it left as the backup; the file of the
candidate has a name or is refused. -/
structure ProfileHost where
  openConfig : Except PyError Unit
  readConfig : Except PyError Unit
  candidateFile : Except PyError String
  openCandidate : Except PyError Unit
  stat : Except PyError Unit
  copy2 : Except (PyError × Option HostFile) Unit
  restart : Except PyError Unit
  restartAgain : Except PyError Unit

def profileSettings (current : TNCConfig) (profile : String) : Except PyError RadioSettings :=
  if profile = "rx-only" then .ok ⟨current.frequencyHz, current.txPower, false⟩
  else if profile = "packet" then .ok ⟨QUALIFIED_TX_FREQUENCY_HZ, QUALIFIED_TX_POWER, true⟩
  else if profile = "aprs" then .ok ⟨APRS_TX_FREQUENCY_HZ, APRS_TX_POWER, true⟩
  else .error (.valueError ("unknown RF profile: " ++ profile))

theorem profileSettings_rxOnly (current : TNCConfig) :
    profileSettings current "rx-only" = .ok ⟨current.frequencyHz, current.txPower, false⟩ :=
  if_pos rfl

/-- `config_path.read_text(encoding="utf-8")`. -/
def readText (lib : ConfigLibrary) (file : Except PyError Bytes) : Except PyError (List Char) := do
  let bytes ← file
  match decodeUtf8 bytes with
  | none => throw ⟨.other "UnicodeDecodeError", lib.decodeError bytes⟩
  | some text => return universalNewlines text

def validateCandidate (lib : ConfigLibrary) (host : ProfileHost) (text : List Char) :
    Except PyError TNCConfig := do
  let name ← host.candidateFile
  lib.loadConfig name (host.openCandidate.map fun _ => encodeUtf8 text)

/-- What `apply_profile` has in hand before it touches a file. -/
structure Candidate where
  config : TNCConfig
  original : List Char
  text : List Char

def prepareProfile (lib : ConfigLibrary) (host : ProfileHost) (path profile : String)
    (bytes : Bytes) : Except PyError Candidate := do
  let current ← lib.loadConfig path (host.openConfig.map fun _ => bytes)
  let settings ← profileSettings current profile
  let original ← readText lib (host.readConfig.map fun _ => bytes)
  let text ← rewriteRadioSettings lib.unicode.toUnicode original settings
  let config ← validateCandidate lib host text
  return ⟨config, original, text⟩

/-- `_atomic_write` of the configuration file. -/
def ProfileFiles.atomicWrite (files : ProfileFiles) (text : List Char) (mode : ℕ) :
    ProfileFiles :=
  { files with config := ⟨encodeUtf8 text, mode⟩ }

/-- From the copy on. -/
def installProfile (host : ProfileHost) (restart : Bool) (candidate : Candidate)
    (files : ProfileFiles) : Except PyError TNCConfig × ProfileFiles :=
  let mode := files.config.mode
  match host.copy2 with
  | .error (e, left) => (.error e, { files with backup := left })
  | .ok _ =>
      let copied := { files with backup := some files.config }
      let installed := copied.atomicWrite candidate.text mode
      if restart then
        match host.restart with
        | .ok _ => (.ok candidate.config, installed)
        | .error e =>
            let restored := installed.atomicWrite candidate.original mode
            match host.restartAgain with
            | .error e' => (.error e', restored)
            | .ok _ => (.error e, restored)
      else (.ok candidate.config, installed)

def applyProfile (lib : ConfigLibrary) (host : ProfileHost) (path profile : String)
    (restart : Bool) (files : ProfileFiles) : Except PyError TNCConfig × ProfileFiles :=
  match prepareProfile lib host path profile files.config.bytes with
  | .error e => (.error e, files)
  | .ok candidate =>
      match host.stat with
      | .error e => (.error e, files)
      | .ok _ => installProfile host restart candidate files

/-! ### What a change reads -/

theorem readText_ok {lib : ConfigLibrary} {opened : Except PyError Unit} {bytes : Bytes}
    {original : List Char} (h : readText lib (opened.map fun _ => bytes) = .ok original) :
    ∃ text, decodeUtf8 bytes = some text ∧ original = universalNewlines text := by
  obtain ⟨read, hfile, hread⟩ := bind_eq_ok h
  cases opened with
  | error e => cases hfile
  | ok _ =>
      cases hfile
      cases hdecode : decodeUtf8 bytes with
      | none => simp [hdecode] at hread
      | some text =>
          simp only [hdecode] at hread
          cases hread
          exact ⟨text, rfl, rfl⟩

theorem prepareProfile_ok {lib : ConfigLibrary} {host : ProfileHost} {path profile : String}
    {bytes : Bytes} {candidate : Candidate}
    (h : prepareProfile lib host path profile bytes = .ok candidate) :
    ∃ current settings text,
      lib.loadConfig path (host.openConfig.map fun _ => bytes) = .ok current ∧
        profileSettings current profile = .ok settings ∧
          decodeUtf8 bytes = some text ∧ candidate.original = universalNewlines text ∧
            rewriteRadioSettings lib.unicode.toUnicode (universalNewlines text) settings =
              .ok candidate.text ∧
              validateCandidate lib host candidate.text = .ok candidate.config := by
  obtain ⟨current, hload, hrest⟩ := bind_eq_ok h
  obtain ⟨settings, hsettings, hrest⟩ := bind_eq_ok hrest
  obtain ⟨original, hread, hrest⟩ := bind_eq_ok hrest
  obtain ⟨rewritten, hrewrite, hrest⟩ := bind_eq_ok hrest
  obtain ⟨config, hvalidate, hrest⟩ := bind_eq_ok hrest
  cases hrest
  obtain ⟨text, hdecode, rfl⟩ := readText_ok hread
  exact ⟨current, settings, text, hload, hsettings, hdecode, rfl, hrewrite, hvalidate⟩

/-! ### What a change leaves behind -/

/-- Whether a result is a configuration with a frequency, a power and a switch. -/
def IsTuned (result : Except PyError TNCConfig) (frequencyHz txPower : ℤ) (txEnabled : Bool) :
    Bool :=
  match result with
  | .error _ => false
  | .ok config => config.frequencyHz = frequencyHz && config.txPower = txPower &&
      config.txEnabled = txEnabled

theorem exists_of_isTuned {result : Except PyError TNCConfig} {frequencyHz txPower : ℤ}
    {txEnabled : Bool} (h : IsTuned result frequencyHz txPower txEnabled = true) :
    ∃ config, result = .ok config ∧ config.frequencyHz = frequencyHz ∧
      config.txPower = txPower ∧ config.txEnabled = txEnabled := by
  cases result with
  | error e => cases h
  | ok config =>
      simp only [IsTuned, Bool.and_eq_true, decide_eq_true_eq] at h
      exact ⟨config, rfl, h.1.1, h.1.2, h.2⟩

theorem example_tuned :
    IsTuned (lineLoads (exampleText "145.0125" "\n") >>= lineLibrary.configOfRoot)
      145012500 200 false = true := by
  decide +kernel

theorem example_rewritten :
    rewriteRadioSettings lineLibrary.unicode.toUnicode (exampleText "145.0125" "\n")
      ⟨145012500, 200, false⟩ = .ok (exampleText "145.012" "\n") := by
  apply eq_ok_of_toOption
  decide +kernel

theorem example_retuned :
    IsTuned (lineLoads (exampleText "145.012" "\n") >>= lineLibrary.configOfRoot)
      145012000 200 false = true := by
  decide +kernel

/-- Both line ends of a file are read alike. -/
theorem example_newlines {lineEnd : String} (h : lineEnd = "\n" ∨ lineEnd = "\r\n") :
    replaceCrlf (exampleText "145.0125" lineEnd) = exampleText "145.0125" "\n" ∧
      universalNewlines (exampleText "145.0125" lineEnd) = exampleText "145.0125" "\n" := by
  rcases h with rfl | rfl <;> decide +kernel

/-- A host that grants everything but perhaps the restart. -/
def ProfileHost.granting (restart : Except PyError Unit) : ProfileHost where
  openConfig := .ok ()
  readConfig := .ok ()
  candidateFile := .ok "/tmp/candidate.toml"
  openCandidate := .ok ()
  stat := .ok ()
  copy2 := .ok ()
  restart := restart
  restartAgain := .ok ()

theorem prepareProfile_granting {lib : ConfigLibrary} {restart : Except PyError Unit}
    {path profile : String} {text text' : List Char} {current config : TNCConfig}
    {settings : RadioSettings}
    (hload : lib.loadConfig path (.ok (encodeUtf8 text)) = .ok current)
    (hsettings : profileSettings current profile = .ok settings)
    (hrewrite : rewriteRadioSettings lib.unicode.toUnicode (universalNewlines text) settings =
      .ok text')
    (hvalidate : lib.loadConfig "/tmp/candidate.toml" (.ok (encodeUtf8 text')) = .ok config) :
    prepareProfile lib (.granting restart) path profile (encodeUtf8 text) =
      .ok ⟨config, universalNewlines text, text'⟩ := by
  have hread : readText lib (.ok (encodeUtf8 text)) = .ok (universalNewlines text) := by
    simp only [readText, bind, Except.bind, decodeUtf8_encodeUtf8]
    rfl
  simp only [prepareProfile, ProfileHost.granting, Except.map, hload, hsettings, hread, hrewrite,
    validateCandidate, hvalidate, bind, Except.bind]
  rfl

theorem applyProfile_granting {lib : ConfigLibrary} {path profile : String}
    {candidate : Candidate} (files : ProfileFiles)
    (hrestart : ∀ restart, prepareProfile lib (.granting restart) path profile
      files.config.bytes = .ok candidate) :
    applyProfile lib (.granting (.ok ())) path profile true files =
        (.ok candidate.config,
          ⟨⟨encodeUtf8 candidate.text, files.config.mode⟩, some files.config⟩) ∧
      ∀ e, applyProfile lib (.granting (.error e)) path profile true files =
        (.error e, ⟨⟨encodeUtf8 candidate.original, files.config.mode⟩, some files.config⟩) := by
  constructor
  · unfold applyProfile
    rw [hrestart]
    rfl
  · intro e
    unfold applyProfile
    rw [hrestart]
    rfl

theorem loadConfig_lineLibrary (path : String) {text : List Char} {config : TNCConfig}
    (h : (lineLoads text >>= lineLibrary.configOfRoot) = .ok config) :
    lineLibrary.loadConfig path (.ok (encodeUtf8 text)) = .ok config := by
  obtain ⟨root, hloads, hconfig⟩ := bind_eq_ok h
  have hload : lineLibrary.loads text = .ok root := hloads
  simp only [ConfigLibrary.loadConfig, ConfigLibrary.load, decodeUtf8_encodeUtf8, hload]
  exact hconfig

/-- The example as a file. -/
def exampleFiles (lineEnd : String) : ProfileFiles :=
  ⟨⟨encodeUtf8 (exampleText "145.0125" lineEnd), 0o644⟩, none⟩

/-- What `rx-only` does to the example: its file is a document of lines with one frequency,
and the candidate has another. -/
structure ExampleChange (lineEnd : String) (config : TNCConfig) (candidate : Candidate) : Prop where
  loads : ∃ root, lineLoads (exampleText "145.0125" lineEnd) = .ok root
  load : ∀ path, lineLibrary.loadConfig path
    (.ok (encodeUtf8 (exampleText "145.0125" lineEnd))) = .ok config
  frequency : config.frequencyHz = 145012500
  original : candidate.original = exampleText "145.0125" "\n"
  retuned : candidate.config.frequencyHz = 145012000
  prepared : ∀ restart path, prepareProfile lineLibrary (.granting restart) path "rx-only"
    (encodeUtf8 (exampleText "145.0125" lineEnd)) = .ok candidate

theorem exampleChange (lineEnd : String) (h : lineEnd = "\n" ∨ lineEnd = "\r\n") :
    ∃ config candidate, ExampleChange lineEnd config candidate := by
  obtain ⟨config, hconfig, hfrequency, hpower, -⟩ := exists_of_isTuned example_tuned
  obtain ⟨config', hconfig', hretuned, -⟩ := exists_of_isTuned example_retuned
  obtain ⟨hcrlf, huniversal⟩ := example_newlines h
  have hlines : lineLoads (exampleText "145.0125" lineEnd) =
      lineLoads (exampleText "145.0125" "\n") :=
    lineLoads_congr (hcrlf.trans (example_newlines (.inl rfl)).1.symm)
  rw [← hlines] at hconfig
  obtain ⟨root, hroot, -⟩ := bind_eq_ok hconfig
  have hrewrite : rewriteRadioSettings lineLibrary.unicode.toUnicode
      (exampleText "145.0125" "\n") ⟨config.frequencyHz, config.txPower, false⟩ =
        .ok (exampleText "145.012" "\n") := by
    rw [hfrequency, hpower]
    exact example_rewritten
  rw [← huniversal] at hrewrite
  have hload := fun path => loadConfig_lineLibrary path hconfig
  exact ⟨config, ⟨config', _, _⟩, {
    loads := ⟨root, hroot⟩
    load := hload
    frequency := hfrequency
    original := huniversal
    retuned := hretuned
    prepared := fun restart path => prepareProfile_granting (hload path)
      (profileSettings_rxOnly config) hrewrite
      (loadConfig_lineLibrary "/tmp/candidate.toml" hconfig') }⟩

end YwdTnc
