import YwdTnc.Firmware.Profile
import Mathlib.Data.List.Sort

/-!
# The qualified firmware tool

The tool probes the running firmware, captures a stock backup, or writes the qualified
image. It talks to the ROM bootloader through two helpers: one that drives the control
lines, and `stm32flash`.
-/

namespace YwdTnc

open Interaction Prog Host

/-- Where the tool is installed: `sys.executable` and `ROOT`. -/
structure Installation where
  python : Python
  executable : String
  root : String

namespace Installation

def profilePath (i : Installation) : String := i.root ++ "/firmware/product-ax25r4.json"

def targets (i : Installation) : String := i.root ++ "/firmware/targets.json"

def hatControl (i : Installation) : String := i.root ++ "/firmware/hat_control.py"

def probe (i : Installation) : String := i.root ++ "/firmware/probe_hat.py"

def runtimeVendorManifest (i : Installation) : String :=
  i.root ++ "/qualification/fwm3-runtime-vendor-manifest.json"

end Installation

inductive FlashMode where
  | probe
  | backup
  | flash
  deriving DecidableEq

/-- The arguments of the command line. -/
structure FlashArgs where
  mode : FlashMode
  device : String
  firmware : String
  stockBackupDir : String
  authorize : String
  forceReflash : Bool

/-! ### The bootloader -/

/-- `Version` or `Device ID`, blanks, a colon, blanks and a hexadecimal number, at the
beginning of a text. -/
def labelledHexAt (label text : List Char) : Option (List Char) :=
  if label <+: text then
    match (text.drop label.length).dropWhile isSpace with
    | ':' :: rest =>
        match rest.dropWhile isSpace with
        | '0' :: 'x' :: digits =>
            let digits := digits.takeWhile isHexDigit
            if digits.isEmpty then none else some ('0' :: 'x' :: digits)
        | _ => none
    | _ => none
  else none

/-- The first one in a text. -/
def labelledHex (label : List Char) : List Char → Option (List Char)
  | [] => labelledHexAt label []
  | c :: text => (labelledHexAt label (c :: text)).or (labelledHex label text)

/-- `grab`. -/
def grab (label text : String) : String :=
  match labelledHex label.toList text.toList with
  | some found => (String.ofList found).toLower
  | none => ""

structure Bootloader where
  device : String
  targetId : String
  expectedVersion : String
  expectedDevice : String

namespace Bootloader

def init (device targetId expectedVersion expectedDevice : String) : HostProg Bootloader := do
  modify fun s => { s with bootloaderActive := false }
  return ⟨device, targetId, expectedVersion.toLower, expectedDevice.toLower⟩

/-- The control-line helper with one of its operations. -/
def control (i : Installation) (boot : Bootloader) (operation : String) : List String :=
  [i.executable, i.hatControl, operation, "--targets", i.targets, "--target", boot.targetId]

def enter (i : Installation) (boot : Bootloader) : HostProg Unit := do
  let _ ← run (boot.control i "bootloader-entry")
  modify fun s => { s with bootloaderActive := true }
  sleep (1 / 2)
  let info ← run ["stm32flash", "-b", "115200", boot.device]
  let text := info.stdout ++ info.stderr
  let version := grab "Version" text
  let deviceId := grab "Device ID" text
  raiseUnless (version = boot.expectedVersion ∧ deviceId = boot.expectedDevice)
    (.flashError ("STM32 bootloader identity mismatch: version=" ++
      (if version = "" then "UNKNOWN" else version) ++ " device=" ++
      (if deviceId = "" then "UNKNOWN" else deviceId)))

def restartApplication (i : Installation) (boot : Bootloader) : HostProg Unit := do
  let s ← get
  if s.bootloaderActive then
    let _ ← run (boot.control i "application-restart")
    modify fun s => { s with bootloaderActive := false }
    sleep (3 / 2)

def cleanup (i : Installation) (boot : Bootloader) : HostProg Unit := do
  let s ← get
  if s.bootloaderActive then
    let _ ← runUnchecked (boot.control i "application-restart")
    modify fun s => { s with bootloaderActive := false }
    sleep (1 / 2)

end Bootloader

namespace QualifiedFlash

def BACKUP_ROOT : String := "/var/lib/ywd-mmdvm-tnc/firmware-backups"

def LEGACY_BACKUP_ROOT : String := "/var/lib/ywd-1278/firmware-backups"

def KNOWN_MODEM_UNITS : List String :=
  ["ywd-mmdvm-tnc.service", "ywd-1278.service", "MMDVMHost.service", "mmdvmhost.service",
    "ywd-mmdvmhost.service", "ywd-hotspot-mmdvmhost.service"]

/-! ### Before anything is touched -/

def requireRoot : HostProg Unit := do
  raiseUnless ((← geteuid) = 0) (.flashError "run with sudo/root")

def requireTool : List String → HostProg Unit
  | [] => return ()
  | name :: names => do
      raiseUnless (← which name) (.flashError ("missing required tool: " ++ name))
      requireTool names

def requireTools : HostProg Unit :=
  requireTool ["python3", "stm32flash", "pinctrl", "fuser", "systemctl"]

/-- A manifest of the repository; `message` is the text for one that cannot be read. -/
def loadManifest (path message : String) : HostProg Json := do
  match ← attempt (readJson path) with
  | .error e =>
      raise (if e.isUnreadable then .flashError (message ++ ": " ++ e.message) else e)
  | .ok data => return data

/-- One of the support files, with the entries by path. -/
def verifySupportFile (i : Installation) (entries : List (String × Json)) (rel : String) :
    HostProg Unit := do
  match entries.reverse.lookup rel with
  | some (.obj entry) =>
      let path := i.root ++ "/" ++ rel
      raiseUnless (← isFile path)
        (.flashError ("qualified in-repo support file is missing: " ++ rel))
      let digest ← sha256File i.python path
      raiseUnless (Json.isStr digest (entry.lookup "sha256"))
        (.flashError ("qualified in-repo support digest mismatch: " ++ rel))
  | _ => raise (.flashError ("qualified support provenance is missing " ++ rel))

def verifyCorePin (i : Installation) (expected : String) : HostProg Unit := do
  let data ← loadManifest i.runtimeVendorManifest
    "cannot load in-repo runtime/support provenance"
  let actual := Json.textOrEmpty i.python (← ofExcept (data.get "source_commit"))
  raiseUnless (actual = expected)
    (.flashError ("qualified source provenance mismatch: expected " ++ expected ++ ", got " ++
      (if actual = "" then "UNKNOWN" else actual)))
  let files ← ofExcept ((← ofExcept (data.get "support_files")).getD (.list [])).items
  let entries ← ofExcept (files.mapM fun item =>
    (item.get "path").map fun path => ((path.getD .null).text i.python, item))
  verifySupportFile i entries "firmware/hat_control.py"
  verifySupportFile i entries "firmware/probe_hat.py"
  verifySupportFile i entries "firmware/targets.json"

def loadTarget (i : Installation) (targetId : String) : HostProg Json := do
  let data ← loadManifest i.targets "cannot load pinned target manifest"
  let items ← ofExcept ((← ofExcept (data.get "targets")).getD (.list [])).items
  let ids ← ofExcept (items.mapM fun item => item.get "id")
  match (items.zip ids).filter fun entry => Json.isStr targetId entry.2 with
  | [entry] => return entry.1
  | _ => raise (.flashError "qualified hardware target is missing or ambiguous")

/-! ### The owners of the modem -/

def uartBusy (device : String) : HostProg Bool := do
  let proc ← runUnchecked ["fuser", device]
  return proc.returncode = 0

def stopOwners : List String → HostProg Unit
  | [] => return ()
  | unit :: units => do
      let state ← runUnchecked ["systemctl", "is-active", "--quiet", unit]
      if state.returncode = 0 then
        modify fun s => { s with stopped := s.stopped ++ [unit] }
        let _ ← runUnchecked ["systemctl", "stop", unit]
      stopOwners units

def startOwners : List String → HostProg Unit
  | [] => return ()
  | unit :: units => do
      let _ ← runUnchecked ["systemctl", "start", unit]
      startOwners units

/-- `with stopped_known_modem_owners(device, restore=restore): body`. -/
def stoppedKnownModemOwners {α : Type} (device : String) (restore : Bool)
    (body : HostProg α) : HostProg α := do
  modify fun s => { s with stopped := [] }
  finallyDo (do
      stopOwners KNOWN_MODEM_UNITS
      sleep (1 / 4)
      if ← uartBusy device then
        let details ← runUnchecked ["fuser", "-v", device]
        raise (.flashError
          ("UART still has an unknown owner after stopping known modem services: " ++
            device ++ "\n" ++ details.stdout ++ details.stderr))
      body)
    (do
      let s ← get
      if restore then startOwners s.stopped)

/-! ### The running firmware -/

def probeIdentity (i : Installation) (device targetId : String) : HostProg String := do
  let proc ← run [i.executable, i.probe, "--device", device, "--targets", i.targets,
    "--no-application-release", "--json"]
  let result ← match ← attempt (jsonLoads proc.stdout) with
    | .error e =>
        raise (if e.cls = .jsonDecodeError then
          .flashError "safe HAT probe did not return JSON" else e)
    | .ok result => ofExcept result.fields
  raiseUnless (Json.isSingleton targetId (result.lookup "matched_target_ids"))
    (.flashError "running HAT identity does not uniquely match the qualified target")
  raiseUnless (Json.isBool false (result.lookup "rf_configured") ∧
      Json.isBool false (result.lookup "flash_written"))
    (.flashError "safe HAT probe returned unsafe state markers")
  match result.lookup "identity" with
  | some (.str identity) =>
      raiseUnless (identity ≠ "") (.flashError "running HAT identity is empty")
      return identity
  | _ => raise (.flashError "running HAT identity is empty")

def stockIdentity (target : Json) (identity : String) : Except FirmwareExc Bool := do
  (Json.orEmpty (← target.get "stock_identities")).contains identity

def acceptedIdentity (python : Python) (target : Json) (identity : String) :
    Except FirmwareExc Bool := do
  let exact := Json.orEmpty (← target.get "accepted_running_identities")
  let identityPrefix := Json.textOrEmpty python (← target.get "ywd1278_identity_prefix")
  if ← exact.contains identity then return true
  return decide (identityPrefix ≠ "" ∧ identityPrefix.toList <+: identity.toList)

/-! ### The stock backup -/

def backupManifest (profile : FirmwareProfile) (device identity digest : String)
    (captured : ℤ) : List (String × Json) :=
  [("schema", .int 2),
    ("product", .str "YWD-MMDVM-TNC"),
    ("target_id", .str profile.targetId),
    ("captured_identity", .str identity),
    ("device", .str device),
    ("flash_base", .str profile.flashBase),
    ("flash_size_bytes", .int profile.stockFlashSizeBytes),
    ("sha256", .str digest),
    ("read_passes", .int 2),
    ("two_pass_byte_identical", .bool true),
    ("stock_sha256_expected", .str profile.stockFlashSha256),
    ("stock_sha256_match", .bool true),
    ("expected_bootloader_version", .str profile.expectedBootloaderVersion),
    ("expected_device_id", .str profile.expectedDeviceId),
    ("captured_unix", .int captured),
    ("option_bytes_read_or_written", .bool false),
    ("flash_written", .bool false)]

/-- `stm32flash -r` of the first `size` bytes of main flash. -/
def readFlash (profile : FirmwareProfile) (device output : String) (size : ℕ) : List String :=
  ["stm32flash", "-b", "115200", "-r", output, "-S",
    profile.flashBase ++ ":" ++ toString size, device]

/-- The body of the `try` of `make_stock_backup`. -/
def captureStock (i : Installation) (profile : FirmwareProfile) (device identity : String)
    (directory : String) (boot : Bootloader) : HostProg Unit := do
  let a := directory ++ "/read-a.bin"
  let b := directory ++ "/read-b.bin"
  let image := directory ++ "/original-flash.bin"
  boot.enter i
  let _ ← run (readFlash profile device a profile.stockFlashSizeBytes)
  chmod a 0o600
  let _ ← run (readFlash profile device b profile.stockFlashSizeBytes)
  chmod b 0o600
  raiseUnless ((← readBytes a) = (← readBytes b))
    (.flashError "two independent stock main-flash reads were not byte-identical")
  let digest ← sha256File i.python a
  raiseUnless ((← stSize a) = profile.stockFlashSizeBytes)
    (.flashError "stock backup size mismatch")
  raiseUnless (digest = profile.stockFlashSha256) (.flashError
    "stock backup SHA256 does not match the physically qualified golden stock image")
  copy2 a image
  chmod image 0o600
  let captured ← unixTime
  writeJson (directory ++ "/manifest.json") (backupManifest profile device identity digest captured)
  chmod (directory ++ "/manifest.json") 0o600

def makeStockBackup (i : Installation) (profile : FirmwareProfile) (target : Json)
    (device identity : String) : HostProg String := do
  raiseUnless (← ofExcept (stockIdentity target identity)) (.flashError
    "protected rollback backup may be captured only from exact allowlisted stock firmware")
  let timestamp ← localtime
  let directory := BACKUP_ROOT ++ "/" ++ profile.targetId ++ "/" ++ timestamp
  mkdir directory false
  chmod directory 0o700
  let boot ← Bootloader.init device profile.targetId profile.expectedBootloaderVersion
    profile.expectedDeviceId
  finallyDo (captureStock i profile device identity directory boot) (boot.cleanup i)
  unlink (directory ++ "/read-a.bin")
  unlink (directory ++ "/read-b.bin")
  let _ ← verifyStockBackup i.python profile directory
  return directory

def onlyDirs : List String → HostProg (List String)
  | [] => return []
  | path :: paths => do
      let keep ← isDir path
      let rest ← onlyDirs paths
      return if keep then path :: rest else rest

def candidatesIn (base : String) : HostProg (List String) := do
  if ← isDir base then onlyDirs (← iterdir base) else return []

def withMtimes : List String → HostProg (List (ℚ × String))
  | [] => return []
  | path :: paths => do
      let mtime ← stMtime path
      let rest ← withMtimes paths
      return (mtime, path) :: rest

def firstVerified (i : Installation) (profile : FirmwareProfile) :
    List String → HostProg (Option String)
  | [] => return none
  | candidate :: candidates => do
      match ← attempt (verifyStockBackup i.python profile candidate) with
      | .ok _ => return some candidate
      | .error e =>
          if e.cls = .firmwareProfileError then firstVerified i profile candidates else raise e

/-- The youngest candidate that passes. -/
def findVerifiedStockBackup (i : Installation) (profile : FirmwareProfile) :
    HostProg (Option String) := do
  let current ← candidatesIn (BACKUP_ROOT ++ "/" ++ profile.targetId)
  let legacy ← candidatesIn (LEGACY_BACKUP_ROOT ++ "/" ++ profile.targetId)
  let dated ← withMtimes (current ++ legacy)
  let sorted := dated.mergeSort fun a b => decide (b.1 ≤ a.1)
  firstVerified i profile (sorted.map Prod.snd)

/-! ### Writing the image -/

def readbackProduct (i : Installation) (profile : FirmwareProfile) (device output : String) :
    HostProg String := do
  let _ ← run (readFlash profile device output profile.programmedReadbackBytes)
  chmod output 0o600
  verifyProgrammedReadback i.python profile output

def readyRecord (profile : FirmwareProfile) (identity : String) (backupDir : Option String)
    (flashWritten : Bool) (created : ℤ) : List (String × Json) :=
  [("schema", .int 1),
    ("product", .str "YWD-MMDVM-TNC"),
    ("series", .str "AX25R4"),
    ("status", .str "FIRMWARE-READY"),
    ("target_id", .str profile.targetId),
    ("artifact_sha256", .str profile.artifactSha256),
    ("programmed_readback_sha256", .str profile.programmedReadbackSha256),
    ("runtime_identity", .str identity),
    ("stock_backup_dir", .str (backupDir.getD "")),
    ("stock_backup_verified", .bool backupDir.isSome),
    ("flash_written_this_run", .bool flashWritten),
    ("tx_enabled_during_flash", .bool false),
    ("automatic_flash_enabled", .bool false),
    ("option_bytes_written", .bool false),
    ("service_enabled_by_firmware_tool", .bool false),
    ("created_unix", .int created)]

/-- The directory of a path. -/
def parent (path : String) : String :=
  match path.toList.reverse.dropWhile (· ≠ '/') with
  | [] => "."
  | [_] => "/"
  | _ :: directory => String.ofList directory.reverse

def writeReadyRecord (profile : FirmwareProfile) (identity : String)
    (backupDir : Option String) (flashWritten : Bool) : HostProg Unit := do
  mkdir (parent profile.stateRecord) true
  let created ← unixTime
  writeJson profile.stateRecord (readyRecord profile identity backupDir flashWritten created)
  chmod profile.stateRecord 0o600

/-- `stm32flash -w`, with verification. -/
def writeFlash (firmware device : String) : List String :=
  ["stm32flash", "-b", "115200", "-w", firmware, "-v", device]

/-- `input(..).strip()`. -/
def input : HostProg String := do
  match ← confirmation with
  | none => raise ⟨.eofError, "EOF when reading a line"⟩
  | some line => return strip line

/-- The choice of the rollback backup in `main`. -/
def selectBackup (i : Installation) (args : FlashArgs) (profile : FirmwareProfile)
    (target : Json) (identity : String) : HostProg (Option String) := do
  if args.stockBackupDir ≠ "" then
    let _ ← verifyStockBackup i.python profile args.stockBackupDir
    return some args.stockBackupDir
  else if ← ofExcept (stockIdentity target identity) then
    let directory ← makeStockBackup i profile target args.device identity
    return some directory
  else findVerifiedStockBackup i profile

/-- The body of the inner `try` of `main`; it returns `flash_written`. -/
def program (i : Installation) (args : FlashArgs) (profile : FirmwareProfile)
    (firmware identity : String) (backupDir : Option String) (boot : Bootloader)
    (readbackPath : String) : HostProg Bool := do
  if identity = profile.expectedIdentity ∧ args.forceReflash = false then
    boot.enter i
    let _ ← readbackProduct i profile args.device readbackPath
    boot.restartApplication i
    return false
  else
    match backupDir with
    | none => raise (.flashError
        "a verified stock rollback backup is required before any main-flash write")
    | some directory =>
        let _ ← verifyStockBackup i.python profile directory
        let response ← input
        raiseUnless (response = profile.finalWriteConfirmation)
          (.flashError "firmware write cancelled")
        boot.enter i
        let _ ← run (writeFlash firmware args.device)
        let _ ← readbackProduct i profile args.device readbackPath
        boot.restartApplication i
        return true

/-- The rest of `main` in flash mode. -/
def flash (i : Installation) (args : FlashArgs) (profile : FirmwareProfile) (target : Json)
    (firmware identity : String) : HostProg ℕ := do
  raiseUnless (args.authorize = profile.flashAuthorizationToken)
    (.flashError ("flash mode requires --authorize " ++ profile.flashAuthorizationToken))
  let _ ← verifyArtifact i.python profile firmware
  let backupDir ← selectBackup i args profile target identity
  let boot ← Bootloader.init args.device profile.targetId profile.expectedBootloaderVersion
    profile.expectedDeviceId
  let readbackPath ← mkstemp
  let flashWritten ← finallyDo
    (program i args profile firmware identity backupDir boot readbackPath)
    (do
      boot.cleanup i
      unlink readbackPath)
  let postIdentity ← probeIdentity i args.device profile.targetId
  raiseUnless (postIdentity = profile.expectedIdentity)
    (.flashError ("post-operation runtime identity mismatch: " ++ postIdentity))
  writeReadyRecord profile postIdentity backupDir flashWritten
  return 0

/-- The image to write. -/
def firmwarePath (i : Installation) (args : FlashArgs) (profile : FirmwareProfile) : String :=
  if args.firmware ≠ "" then args.firmware else i.root ++ "/" ++ profile.artifactRelativePath

/-- The body of the `with` of `main`. -/
def operate (i : Installation) (args : FlashArgs) (profile : FirmwareProfile) (target : Json) :
    HostProg ℕ := do
  let identity ← probeIdentity i args.device profile.targetId
  raiseUnless (← ofExcept (acceptedIdentity i.python target identity))
    (.flashError "running firmware identity is outside the allowlisted target lineage")
  match args.mode with
  | .probe => return 0
  | .backup =>
      let _ ← makeStockBackup i profile target args.device identity
      return 0
  | .flash => flash i args profile target (firmwarePath i args profile) identity

def main (i : Installation) (args : FlashArgs) : HostProg ℕ :=
  except (do
      requireRoot
      requireTools
      raiseUnless (args.forceReflash = true → args.mode = .flash)
        (.flashError "--force-reflash is valid only with flash mode")
      let profile ← loadProfile i.profilePath
      verifyCorePin i profile.qualifiedCoreCommit
      let target ← loadTarget i profile.targetId
      raiseUnless (← pathExists args.device)
        (.flashError ("modem UART does not exist: " ++ args.device))
      stoppedKnownModemOwners args.device (args.mode ≠ .flash) (operate i args profile target))
    fun e => if e.isReported then return 20 else raise e

end QualifiedFlash

end YwdTnc
