import Mathlib.Data.Nat.Notation

/-!
# Bytes and exceptions

What every layer of the TNC shares: `bytes` values as lists of octets, and the
exceptions that the Python code raises, catches and tells apart. `PyError`
ranges over the subclasses of `Exception`; the exceptions outside it
(`KeyboardInterrupt`, `SystemExit`) end the process and are not modelled.
-/

namespace YwdTnc

abbrev Byte := BitVec 8

abbrev Bytes := List Byte

/-- The exception classes that the modelled code raises or catches by name;
`other` stands for any further subclass of `Exception` raised by injected
code. -/
inductive ExcClass where
  | valueError
  | typeError
  | runtimeError
  | timeoutError
  | kissDataAdmissionError
  | kissDataFrameRejected
  | kissDataQueueFull
  | kissDataTimeError
  | channelAccessRandomnessRequired
  | halfDuplexError
  | halfDuplexLatched
  | halfDuplexPreTransmitError
  | halfDuplexDownstreamError
  | halfDuplexPostTransmitError
  | txBrokerError
  | txBrokerDisabled
  | txBrokerNotRunning
  | txBrokerQueueFull
  | txBrokerFrameRejected
  | txBrokerBusy
  | modemOwnerError
  | modemOwnerNotRunning
  | modemOwnerQueueFull
  | sustainedTNCRuntimeError
  | tncConfigurationError
  | tncEngineError
  | other (name : String)
  deriving DecidableEq, Repr

namespace ExcClass

/-- `type(exc).__name__`. -/
def name : ExcClass → String
  | valueError => "ValueError"
  | typeError => "TypeError"
  | runtimeError => "RuntimeError"
  | timeoutError => "TimeoutError"
  | kissDataAdmissionError => "KISSDataAdmissionError"
  | kissDataFrameRejected => "KISSDataFrameRejected"
  | kissDataQueueFull => "KISSDataQueueFull"
  | kissDataTimeError => "KISSDataTimeError"
  | channelAccessRandomnessRequired => "ChannelAccessRandomnessRequired"
  | halfDuplexError => "HalfDuplexError"
  | halfDuplexLatched => "HalfDuplexLatched"
  | halfDuplexPreTransmitError => "HalfDuplexPreTransmitError"
  | halfDuplexDownstreamError => "HalfDuplexDownstreamError"
  | halfDuplexPostTransmitError => "HalfDuplexPostTransmitError"
  | txBrokerError => "TXBrokerError"
  | txBrokerDisabled => "TXBrokerDisabled"
  | txBrokerNotRunning => "TXBrokerNotRunning"
  | txBrokerQueueFull => "TXBrokerQueueFull"
  | txBrokerFrameRejected => "TXBrokerFrameRejected"
  | txBrokerBusy => "TXBrokerBusy"
  | modemOwnerError => "ModemOwnerError"
  | modemOwnerNotRunning => "ModemOwnerNotRunning"
  | modemOwnerQueueFull => "ModemOwnerQueueFull"
  | sustainedTNCRuntimeError => "SustainedTNCRuntimeError"
  | tncConfigurationError => "TNCConfigurationError"
  | tncEngineError => "TNCEngineError"
  | other name => name

/-- `isinstance(exc, TXBrokerError)`. -/
def isTXBrokerError : ExcClass → Bool
  | txBrokerError | txBrokerDisabled | txBrokerNotRunning | txBrokerQueueFull
  | txBrokerFrameRejected | txBrokerBusy => true
  | _ => false

end ExcClass

/-- A raised exception: its class and its text. -/
structure PyError where
  cls : ExcClass
  message : String
  deriving DecidableEq, Repr

namespace PyError

def valueError (message : String) : PyError := ⟨.valueError, message⟩

/-- The text `TypeName: message` that the counters and observations keep. -/
def describe (e : PyError) : String := e.cls.name ++ ": " ++ e.message

end PyError

/-- `{n:02x}`. -/
def hex02Lower (n : ℕ) : String :=
  let digits := Nat.toDigits 16 n
  String.ofList (if digits.length < 2 then '0' :: digits else digits)

/-- `{n:02X}`. -/
def hex02 (n : ℕ) : String :=
  let digits := (Nat.toDigits 16 n).map Char.toUpper
  String.ofList (if digits.length < 2 then '0' :: digits else digits)

end YwdTnc
