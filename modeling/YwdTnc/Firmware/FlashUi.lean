import YwdTnc.Firmware.QualifiedFlash

/-!
# The public front end

The front end calls the helpers of the qualified tool, in a decision flow of its own. It
reads the confirmation of a write from a terminal only: from the standard input when that
is one, and otherwise from `/dev/tty`. Its log and what it shows are left out;
`quiet_run` and `quiet_call` differ from plain calls in nothing else.
-/

namespace YwdTnc

open Interaction Prog Host

namespace FlashUi

/-- `read_interactive_confirmation`. -/
def readInteractiveConfirmation (stdinIsTty : Bool) : HostProg String := do
  match ← attempt confirmation with
  | .ok line => return strip (line.getD "")
  | .error e =>
      raise (if stdinIsTty = false ∧ e.cls = .osError then
        .flashError "interactive firmware confirmation requires a TTY" else e)

/-- The choice of the rollback backup in `main`. -/
def selectBackup (i : Installation) (args : FlashArgs) (profile : FirmwareProfile)
    (target : Json) (identity : String) : HostProg (Option String) := do
  if args.stockBackupDir ≠ "" then
    let _ ← verifyStockBackup i.python profile args.stockBackupDir
    return some args.stockBackupDir
  else if ← ofExcept (QualifiedFlash.stockIdentity target identity) then
    let directory ← QualifiedFlash.makeStockBackup i profile target args.device identity
    return some directory
  else QualifiedFlash.findVerifiedStockBackup i profile

/-- The body of the inner `try` of `main`; it returns `flash_written`. -/
def program (i : Installation) (stdinIsTty : Bool) (args : FlashArgs) (profile : FirmwareProfile)
    (firmware identity : String) (backupDir : Option String) (boot : Bootloader)
    (readback : String) : HostProg Bool := do
  if identity = profile.expectedIdentity ∧ args.forceReflash = false then
    boot.enter i
    let _ ← QualifiedFlash.readbackProduct i profile args.device readback
    boot.restartApplication i
    return false
  else
    match backupDir with
    | none => raise (.flashError
        "a verified stock rollback backup is required before any main-flash write")
    | some directory =>
        let _ ← verifyStockBackup i.python profile directory
        let response ← readInteractiveConfirmation stdinIsTty
        raiseUnless (response = profile.finalWriteConfirmation)
          (.flashError "firmware write cancelled")
        boot.enter i
        let _ ← run ["stm32flash", "-b", "115200", "-w", firmware, "-v", args.device]
        let _ ← QualifiedFlash.readbackProduct i profile args.device readback
        boot.restartApplication i
        return true

/-- The rest of `main` in flash mode. -/
def flash (i : Installation) (stdinIsTty : Bool) (args : FlashArgs) (profile : FirmwareProfile)
    (target : Json) (firmware identity : String) : HostProg ℕ := do
  raiseUnless (args.authorize = profile.flashAuthorizationToken)
    (.flashError ("flash mode requires --authorize " ++ profile.flashAuthorizationToken))
  let _ ← verifyArtifact i.python profile firmware
  let backupDir ← selectBackup i args profile target identity
  let boot ← Bootloader.init args.device profile.targetId profile.expectedBootloaderVersion
    profile.expectedDeviceId
  let readback ← mkstemp
  let flashWritten ← finallyDo
    (program i stdinIsTty args profile firmware identity backupDir boot readback)
    (do
      boot.cleanup i
      unlink readback)
  let postIdentity ← QualifiedFlash.probeIdentity i args.device profile.targetId
  raiseUnless (postIdentity = profile.expectedIdentity)
    (.flashError ("post-operation runtime identity mismatch: " ++ postIdentity))
  QualifiedFlash.writeReadyRecord profile postIdentity backupDir flashWritten
  return 0

/-- The body of the `with` of `main`. -/
def operate (i : Installation) (stdinIsTty : Bool) (args : FlashArgs) (profile : FirmwareProfile)
    (target : Json) (firmware : String) : HostProg ℕ := do
  let identity ← QualifiedFlash.probeIdentity i args.device profile.targetId
  raiseUnless (← ofExcept (QualifiedFlash.acceptedIdentity i.python target identity))
    (.flashError "running firmware identity is outside the qualified target lineage")
  match args.mode with
  | .probe => return 0
  | .backup =>
      let _ ← QualifiedFlash.makeStockBackup i profile target args.device identity
      return 0
  | .flash => flash i stdinIsTty args profile target firmware identity

def main (i : Installation) (stdinIsTty : Bool) (args : FlashArgs) : HostProg ℕ :=
  except (do
      QualifiedFlash.requireRoot
      QualifiedFlash.requireTools
      raiseUnless (args.forceReflash = true → args.mode = .flash)
        (.flashError "--force-reflash is valid only with flash mode")
      let profile ← loadProfile i.profilePath
      QualifiedFlash.verifyCorePin i profile.qualifiedCoreCommit
      let target ← QualifiedFlash.loadTarget i profile.targetId
      raiseUnless (← pathExists args.device)
        (.flashError ("modem UART does not exist: " ++ args.device))
      let firmware :=
        if args.firmware ≠ "" then args.firmware else i.root ++ "/" ++ profile.artifactRelativePath
      QualifiedFlash.stoppedKnownModemOwners args.device (args.mode ≠ .flash)
        (operate i stdinIsTty args profile target firmware))
    fun e => if e.isReported then return 20 else raise e

end FlashUi

end YwdTnc
