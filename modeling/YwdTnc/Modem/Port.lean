import YwdTnc.Basic
import YwdTnc.Interaction.Prog
import Mathlib.Algebra.Group.Nat.Defs
import Mathlib.Data.Rat.Defs

/-!
# The modem port

The typed operations of the modem owner, and the injected clock, sleeper and
submitter, as the queries of a program. Every operation may return any value of
its type or raise an exception.
-/

namespace YwdTnc

open Interaction

def MAX_SELECTORS : ℕ := 1920

structure VersionResponse where
  protocolVersion : ℕ
  identity : String
  deriving DecidableEq

structure RFStatus where
  flags : ℕ
  remainingSelectors : ℕ
  mode : ℕ
  deriving DecidableEq

structure RFDiagnostics where
  interruptCount : ℕ
  keyups : ℕ
  generatedSamples : ℕ
  txActive : ℕ
  deriving DecidableEq

structure RX3Status where
  flags : ℕ
  availableBytes : ℕ
  samples : ℕ
  droppedBytes : ℕ
  deriving DecidableEq

structure RXRSSI where
  rawMagnitude : ℕ
  deriving DecidableEq

inductive PortQuery where
  | getVersion (timeout : ℚ)
  | setRxFrequency (frequencyHz : ℤ) (timeout : ℚ)
  | applyTxProfile (frequencyHz power : ℤ) (timeout : ℚ)
  | armRxModemIo (timeout : ℚ)
  | rxRead (maximum : ℕ) (timeout : ℚ)
  | rxRssi (timeout : ℚ)
  | rxStatus (timeout : ℚ)
  | rxStop (timeout : ℚ)
  | rxStart (timeout : ℚ)
  | rfStatus (timeout : ℚ)
  | rfDiagnostics (timeout : ℚ)
  | transmitSelectorBurst (selectorCount : ℕ) (packedSelectors : Bytes) (timeout : ℚ)
  | submitFrame (frameWithFcs : Bytes) (timeout : ℚ)
  | monotonic
  | sleep (delay : ℚ)
  deriving DecidableEq

/-- The types of the answers; `R` is what an injected submitter returns. -/
abbrev PortQuery.Answer (R : Type) : PortQuery → Type
  | .getVersion _ => VersionResponse
  | .setRxFrequency _ _ | .applyTxProfile _ _ _ | .armRxModemIo _ => Unit
  | .rxRead _ _ => Bytes
  | .rxRssi _ => RXRSSI
  | .rxStatus _ => RX3Status
  | .rxStop _ | .rxStart _ => Unit
  | .rfStatus _ => RFStatus
  | .rfDiagnostics _ => RFDiagnostics
  | .transmitSelectorBurst _ _ _ => Unit
  | .submitFrame _ _ => R
  | .monotonic => ℚ
  | .sleep _ => Unit

/-- A call of the port with its answer. -/
abbrev PortCall (R : Type) := Call (PortQuery.Answer R) PyError

abbrev PortProg (R σ α : Type) := Prog (PortQuery.Answer R) PyError σ α

namespace Port

variable {R σ : Type}

def getVersion (timeout : ℚ) : PortProg R σ VersionResponse :=
  Prog.call (PortQuery.getVersion timeout)

def setRxFrequency (frequencyHz : ℤ) (timeout : ℚ) : PortProg R σ Unit :=
  Prog.call (PortQuery.setRxFrequency frequencyHz timeout)

def applyTxProfile (frequencyHz power : ℤ) (timeout : ℚ) : PortProg R σ Unit :=
  Prog.call (PortQuery.applyTxProfile frequencyHz power timeout)

def armRxModemIo (timeout : ℚ) : PortProg R σ Unit :=
  Prog.call (PortQuery.armRxModemIo timeout)

def rxRead (maximum : ℕ) (timeout : ℚ) : PortProg R σ Bytes :=
  Prog.call (PortQuery.rxRead maximum timeout)

def rxRssi (timeout : ℚ) : PortProg R σ RXRSSI := Prog.call (PortQuery.rxRssi timeout)

def rxStatus (timeout : ℚ) : PortProg R σ RX3Status := Prog.call (PortQuery.rxStatus timeout)

def rxStop (timeout : ℚ) : PortProg R σ Unit := Prog.call (PortQuery.rxStop timeout)

def rxStart (timeout : ℚ) : PortProg R σ Unit := Prog.call (PortQuery.rxStart timeout)

def rfStatus (timeout : ℚ) : PortProg R σ RFStatus := Prog.call (PortQuery.rfStatus timeout)

def rfDiagnostics (timeout : ℚ) : PortProg R σ RFDiagnostics :=
  Prog.call (PortQuery.rfDiagnostics timeout)

def transmitSelectorBurst (selectorCount : ℕ) (packedSelectors : Bytes) (timeout : ℚ) :
    PortProg R σ Unit :=
  Prog.call (PortQuery.transmitSelectorBurst selectorCount packedSelectors timeout)

/-- An injected submitter. -/
def submitFrame (frameWithFcs : Bytes) (timeout : ℚ) : PortProg R σ R :=
  Prog.call (PortQuery.submitFrame frameWithFcs timeout)

def monotonic : PortProg R σ ℚ := Prog.call PortQuery.monotonic

def sleep (delay : ℚ) : PortProg R σ Unit := Prog.call (PortQuery.sleep delay)

end Port

namespace PortQuery

/-- The queries of the half-duplex lifecycle before the submitter. -/
def isHandoff : PortQuery → Prop
  | .rxStatus _ | .rxStop _ => True
  | _ => False

/-- The queries of the lifecycle after the submitter. -/
def isRestore : PortQuery → Prop
  | .monotonic | .sleep _ | .rfStatus _ | .rfDiagnostics _ | .rxStart _
  | .rxStatus _ => True
  | _ => False

/-- The queries of the wait for an idle transmitter. -/
def isIdleWait : PortQuery → Prop
  | .monotonic | .sleep _ | .rfStatus _ | .rfDiagnostics _ => True
  | _ => False

def isSubmit : PortQuery → Prop
  | .submitFrame _ _ => True
  | _ => False

def isRxStart : PortQuery → Prop
  | .rxStart _ => True
  | _ => False

def isBurst : PortQuery → Prop
  | .transmitSelectorBurst _ _ _ => True
  | _ => False

theorem isHandoff_other : (q : PortQuery) → q.isHandoff → ¬ q.isSubmit ∧ ¬ q.isRxStart
  | .rxStatus _, _ | .rxStop _, _ => ⟨id, id⟩

theorem isRestore_not_submit : (q : PortQuery) → q.isRestore → ¬ q.isSubmit
  | .monotonic, _ | .sleep _, _ | .rfStatus _, _ | .rfDiagnostics _, _ | .rxStart _, _
  | .rxStatus _, _ => id

theorem isIdleWait_restore : (q : PortQuery) → q.isIdleWait → q.isRestore ∧ ¬ q.isRxStart
  | .monotonic, _ | .sleep _, _ | .rfStatus _, _ | .rfDiagnostics _, _ => ⟨trivial, id⟩

theorem isHandoff_not_burst : (q : PortQuery) → q.isHandoff → ¬ q.isBurst
  | .rxStatus _, _ | .rxStop _, _ => id

theorem isRestore_not_burst : (q : PortQuery) → q.isRestore → ¬ q.isBurst
  | .monotonic, _ | .sleep _, _ | .rfStatus _, _ | .rfDiagnostics _, _ | .rxStart _, _
  | .rxStatus _, _ => id

end PortQuery

end YwdTnc
