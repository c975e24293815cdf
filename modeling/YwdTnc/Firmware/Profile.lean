import YwdTnc.Firmware.Shell
import YwdTnc.Product.Constants

/-!
# The firmware profile and the checks of its files

`load_profile` refuses every profile that departs from the qualified product. The three
checks compare a file with the profile: the artifact before it is written, a stock backup
before anything is written over it, and the flash as it was read back.
-/

namespace YwdTnc

open Interaction Prog Host

structure FirmwareProfile where
  qualifiedCoreCommit : String
  qualifiedCoreTree : String
  targetId : String
  expectedIdentity : String
  vendorBuildScript : String
  artifactRelativePath : String
  artifactSizeBytes : ℕ
  artifactSha256 : String
  flashBase : String
  programmedReadbackBytes : ℕ
  programmedReadbackSha256 : String
  stockFlashSizeBytes : ℕ
  stockFlashSha256 : String
  expectedBootloaderVersion : String
  expectedDeviceId : String
  flashAuthorizationToken : String
  finalWriteConfirmation : String
  stateRecord : String
  confirmation_ne : finalWriteConfirmation ≠ ""

namespace FirmwareProfile

/-- `if not ok: raise FirmwareProfileError(message)`. -/
def require (ok : Prop) [Decidable ok] (message : String) : Except FirmwareExc Unit :=
  if ok then .ok () else .error (.profileError message)

/-- `_required_str`. -/
def requiredStr (data : List (String × Json)) (key : String) :
    Except FirmwareExc {s : String // s ≠ ""} :=
  match data.lookup key with
  | some (.str s) =>
      if h : s ≠ "" then .ok ⟨s, h⟩
      else .error (.profileError ("profile field " ++ key ++ " must be a non-empty string"))
  | _ => .error (.profileError ("profile field " ++ key ++ " must be a non-empty string"))

/-- `_required_int`. -/
def requiredInt (data : List (String × Json)) (key : String) : Except FirmwareExc ℕ :=
  match data.lookup key with
  | some (.int n) =>
      if 0 < n then .ok n.toNat
      else .error (.profileError ("profile field " ++ key ++ " must be a positive integer"))
  | _ => .error (.profileError ("profile field " ++ key ++ " must be a positive integer"))

def exactSafety : List (String × Bool) :=
  [("automatic_flash_enabled", false),
    ("requires_exact_core_pin", true),
    ("requires_exact_target", true),
    ("requires_exact_artifact_hash", true),
    ("requires_verified_stock_backup_before_write", true),
    ("requires_programmed_readback", true),
    ("requires_exact_runtime_identity", true),
    ("option_bytes_permitted", false),
    ("tx_must_remain_disabled_during_flash", true),
    ("installer_may_flash", false),
    ("service_may_auto_flash", false)]

def requireSafety (safety : List (String × Json)) : List (String × Bool) → Except FirmwareExc Unit
  | [] => .ok ()
  | (key, expected) :: rest => do
      require (Json.isBool expected (safety.lookup key)) ("unsafe firmware profile: safety." ++ key)
      requireSafety safety rest

def requireDigest (label digest : String) : Except FirmwareExc Unit :=
  require (digest.length = 64 ∧ digest.toList.all (· ∈ "0123456789abcdef".toList))
    ("invalid " ++ label ++ " SHA256")

/-- `load_profile` after the file has been read. -/
def ofFields (data : List (String × Json)) : Except FirmwareExc FirmwareProfile := do
  require (Json.isInt 1 (data.lookup "schema")) "unsupported firmware profile schema"
  require (Json.isStr "YWD-MMDVM-TNC" (data.lookup "product") ∧
    Json.isStr "AX25R4" (data.lookup "series")) "unexpected firmware product/series"
  let safety ← match data.lookup "safety" with
    | some (.obj safety) => Except.ok safety
    | _ => .error (.profileError "missing firmware safety object")
  requireSafety safety exactSafety
  let artifactSha := (← requiredStr data "artifact_sha256").1.toLower
  let readbackSha := (← requiredStr data "programmed_readback_sha256").1.toLower
  let stockSha := (← requiredStr data "stock_flash_sha256").1.toLower
  requireDigest "artifact" artifactSha
  requireDigest "programmed readback" readbackSha
  requireDigest "stock" stockSha
  require (artifactSha = readbackSha) "artifact and programmed-readback SHA256 must match"
  let artifactSize ← requiredInt data "artifact_size_bytes"
  let readbackSize ← requiredInt data "programmed_readback_bytes"
  require (artifactSize = readbackSize) "artifact and programmed-readback sizes must match"
  let _ ← requiredStr data "product"
  let _ ← requiredStr data "series"
  let commit ← requiredStr data "qualified_core_commit"
  let tree ← requiredStr data "qualified_core_tree"
  let targetId ← requiredStr data "target_id"
  let identity ← requiredStr data "expected_identity"
  let buildScript ← requiredStr data "vendor_build_script"
  let artifactPath ← requiredStr data "artifact_relative_path"
  let flashBase ← requiredStr data "flash_base"
  let stockSize ← requiredInt data "stock_flash_size_bytes"
  let version ← requiredStr data "expected_bootloader_version"
  let deviceId ← requiredStr data "expected_device_id"
  let token ← requiredStr data "flash_authorization_token"
  let confirmation ← requiredStr data "final_write_confirmation"
  let stateRecord ← requiredStr data "state_record"
  let profile : FirmwareProfile :=
    { qualifiedCoreCommit := commit.1
      qualifiedCoreTree := tree.1
      targetId := targetId.1
      expectedIdentity := identity.1
      vendorBuildScript := buildScript.1
      artifactRelativePath := artifactPath.1
      artifactSizeBytes := artifactSize
      artifactSha256 := artifactSha
      flashBase := flashBase.1
      programmedReadbackBytes := readbackSize
      programmedReadbackSha256 := readbackSha
      stockFlashSizeBytes := stockSize
      stockFlashSha256 := stockSha
      expectedBootloaderVersion := version.1.toLower
      expectedDeviceId := deviceId.1.toLower
      flashAuthorizationToken := token.1
      finalWriteConfirmation := confirmation.1
      stateRecord := stateRecord.1
      confirmation_ne := confirmation.2 }
  require (profile.qualifiedCoreCommit = QUALIFIED_CORE_COMMIT)
    "firmware profile core pin does not match product core pin"
  require (profile.qualifiedCoreTree = QUALIFIED_CORE_TREE)
    "firmware profile core tree does not match product core tree"
  require (profile.vendorBuildScript = "firmware/build-qualified-inrepo.py")
    "qualified in-repo firmware build path changed"
  require ("firmware/out/0c-p2-rssi-ax25r4-".toList <+: profile.artifactRelativePath.toList)
    "qualified in-repo firmware artifact path changed"
  require (profile.targetId = PRODUCT_TARGET)
    "firmware profile target does not match product target"
  require (profile.expectedIdentity = QUALIFIED_FIRMWARE_IDENTITY)
    "firmware profile identity does not match product identity"
  require (profile.flashBase.toLower = "0x08000000") "qualified STM32 flash base changed"
  require (profile.expectedBootloaderVersion = "0x22")
    "qualified STM32 bootloader version changed"
  require (profile.expectedDeviceId = "0x0410") "qualified STM32 device ID changed"
  return profile

end FirmwareProfile

/-- `_load_json`. -/
def loadJson (path : String) : HostProg (List (String × Json)) := do
  match ← attempt (readJson path) with
  | .error e =>
      raise (if e.isUnreadable then
        .profileError ("cannot load firmware profile " ++ path ++ ": " ++ e.message) else e)
  | .ok (.obj fields) => return fields
  | .ok _ => raise (.profileError "firmware profile root must be an object")

def loadProfile (path : String) : HostProg FirmwareProfile := do
  let data ← loadJson path
  ofExcept (FirmwareProfile.ofFields data)

def verifyArtifact (python : Python) (profile : FirmwareProfile) (firmware : String) :
    HostProg String := do
  raiseUnless (← isFile firmware)
    (.profileError ("firmware artifact not found: " ++ firmware))
  let size ← stSize firmware
  raiseUnless (size = profile.artifactSizeBytes)
    (.profileError ("firmware size mismatch: expected " ++ toString profile.artifactSizeBytes ++
      ", got " ++ toString size))
  let digest ← sha256File python firmware
  raiseUnless (digest = profile.artifactSha256)
    (.profileError ("firmware SHA256 mismatch: expected " ++ profile.artifactSha256 ++
      ", got " ++ digest))
  return digest

/-- `image.is_file()` is asked only when the manifest is a file. -/
def hasBackupFiles (manifest image : String) : HostProg Bool := do
  if ← isFile manifest then isFile image else return false

def verifyStockBackup (python : Python) (profile : FirmwareProfile) (directory : String) :
    HostProg String := do
  let manifest := directory ++ "/manifest.json"
  let image := directory ++ "/original-flash.bin"
  raiseUnless (← hasBackupFiles manifest image)
    (.profileError "stock backup requires manifest.json and original-flash.bin")
  let data ← loadJson manifest
  raiseUnless (Json.isStr profile.targetId (data.lookup "target_id"))
    (.profileError "stock backup target mismatch")
  raiseUnless (Json.isInt 2 (data.lookup "read_passes") ∧
      Json.isBool true (data.lookup "two_pass_byte_identical"))
    (.profileError "stock backup lacks verified two-pass identity")
  raiseUnless (Json.isFalseOrNone (data.lookup "option_bytes_read_or_written"))
    (.profileError "stock backup touched option bytes")
  raiseUnless (Json.isFalseOrNone (data.lookup "flash_written"))
    (.profileError "stock backup unexpectedly records a flash write")
  let geometry ← ofExcept (((data.lookup "flash_size_bytes").getD (.int (-1))).toInt python)
  raiseUnless (geometry = profile.stockFlashSizeBytes)
    (.profileError "stock backup flash geometry mismatch")
  let digest ← sha256File python image
  let size ← stSize image
  raiseUnless (size = profile.stockFlashSizeBytes)
    (.profileError "stock backup image size mismatch")
  raiseUnless (digest = profile.stockFlashSha256)
    (.profileError "stock backup SHA256 does not match qualified stock image")
  raiseUnless ((((data.lookup "sha256").getD (.str "")).text python).toLower = digest)
    (.profileError "stock backup manifest SHA256 mismatch")
  raiseUnless ((data.lookup "stock_sha256_match").isNone ∨
      Json.isBool true (data.lookup "stock_sha256_match"))
    (.profileError "stock backup manifest does not prove stock SHA256 match")
  return digest

def verifyProgrammedReadback (python : Python) (profile : FirmwareProfile) (path : String) :
    HostProg String := do
  raiseUnless (← isFile path) (.profileError ("programmed readback not found: " ++ path))
  let size ← stSize path
  raiseUnless (size = profile.programmedReadbackBytes)
    (.profileError "programmed readback size mismatch")
  let digest ← sha256File python path
  raiseUnless (digest = profile.programmedReadbackSha256)
    (.profileError ("programmed readback SHA256 mismatch: expected " ++
      profile.programmedReadbackSha256 ++ ", got " ++ digest))
  return digest

end YwdTnc
