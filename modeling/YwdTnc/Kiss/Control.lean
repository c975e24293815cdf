import YwdTnc.Kiss.Framing
import YwdTnc.Tx.Csma
import YwdTnc.Tx.TxDelay
import Mathlib.Data.Int.Notation

/-!
# KISS parameters

The session's parameter state and its commands, and the transmit context that a
DATA message captures from it. A session holds valid parameters by
construction; an accepted command replaces them as a whole and counts one more
generation.
-/

namespace YwdTnc

def KISS_PORT : ℕ := 0
def DEFAULT_SLOTTIME : ℕ := 10
def DEFAULT_FULLDUPLEX : ℕ := 0

structure TNCParameterSnapshot where
  generation : ℤ
  txdelay : ℕ
  persist : ℕ
  slottime : ℕ
  fullduplex : ℕ
  port : ℕ
  deriving DecidableEq, Repr

namespace TNCParameterSnapshot

def default : TNCParameterSnapshot where
  generation := 0
  txdelay := KISS_TXDELAY_DEFAULT
  persist := DEFAULT_PERSIST
  slottime := DEFAULT_SLOTTIME
  fullduplex := DEFAULT_FULLDUPLEX
  port := KISS_PORT

/-- What the session checks of its parameters. -/
structure Valid (parameters : TNCParameterSnapshot) : Prop where
  port : parameters.port = KISS_PORT
  txdelay : parameters.txdelay ≤ KISS_TXDELAY_MAX
  persist : parameters.persist ≤ 255
  one_le_slottime : 1 ≤ parameters.slottime
  slottime : parameters.slottime ≤ 255
  fullduplex : parameters.fullduplex = 0

end TNCParameterSnapshot

/-- One captured parameter generation. `capture_tx_context` is the only place
that builds a context, so its three parts belong together. -/
structure TNCTransmitContext where
  parameters : TNCParameterSnapshot
  txdelayProfile : TXDelayProfile
  csmaParameters : CSMAParameters
  profile_eq : txdelayProfile = YwdTnc.txdelayProfile parameters.txdelay
  persist_eq : csmaParameters.persist = parameters.persist
  slottime_eq : csmaParameters.slotTime10ms = parameters.slottime
  txdelay_le : parameters.txdelay ≤ KISS_TXDELAY_MAX

/-- The context of the default parameters. -/
def TNCTransmitContext.default : TNCTransmitContext where
  parameters := .default
  txdelayProfile := YwdTnc.txdelayProfile KISS_TXDELAY_DEFAULT
  csmaParameters :=
    ⟨DEFAULT_PERSIST, DEFAULT_SLOTTIME, DEFAULT_MAX_WAIT_SECONDS, DEFAULT_PERSIST_le, by decide,
      by decide, DEFAULT_MAX_WAIT_SECONDS_pos⟩
  profile_eq := rfl
  persist_eq := rfl
  slottime_eq := rfl
  txdelay_le := by decide

structure TNCControlCounters where
  kissMessagesReceived : ℕ
  kissParameterUpdates : ℕ
  kissParameterRejections : ℕ
  kissMalformedFrames : ℕ
  kissUnknownCommands : ℕ
  kissUnsupportedPorts : ℕ
  kissFullDuplexRejected : ℕ
  kissSlotTimeRejected : ℕ
  kissDataTxRejected : ℕ
  deriving DecidableEq, Repr

def TNCControlCounters.zero : TNCControlCounters := ⟨0, 0, 0, 0, 0, 0, 0, 0, 0⟩

inductive ControlDisposition where
  | parameterUpdated
  | dataRejected
  | malformed
  | unsupportedPort
  | unknownCommand
  | parameterRejected
  deriving DecidableEq, Repr

structure TNCControlResult where
  disposition : ControlDisposition
  port : ℕ
  command : ℕ
  previous : TNCParameterSnapshot
  current : TNCParameterSnapshot
  reason : String

def TNCControlResult.updated (result : TNCControlResult) : Bool :=
  result.disposition = .parameterUpdated

/-- The parameter state of a TNC; its parameters passed the checks of the
constructor or of the command that set them. -/
structure TNCSessionState where
  parameters : TNCParameterSnapshot
  counters : TNCControlCounters
  valid : parameters.Valid

namespace TNCSessionState

def init (initial : TNCParameterSnapshot) : Except PyError TNCSessionState :=
  if hport : initial.port = KISS_PORT then
    if htxdelay : initial.txdelay ≤ KISS_TXDELAY_MAX then
      if hpersist : initial.persist ≤ 255 then
        if hslot : 1 ≤ initial.slottime ∧ initial.slottime ≤ 255 then
          if hfullduplex : initial.fullduplex = 0 then
            .ok ⟨initial, .zero, hport, htxdelay, hpersist, hslot.1, hslot.2,
              hfullduplex⟩
          else .error (.valueError
            "FULLDUPLEX must be 0 on the simplex half-duplex target")
        else .error (.valueError "slot_time_10ms must be 1..255")
      else .error (.valueError "persist must be 0..255")
    else .error (.valueError "TXDELAY must be 0..255 in 10 ms units")
  else .error (.valueError "only KISS port 0 is supported")

/-- A session right after its construction with the default parameters. -/
def default : TNCSessionState where
  parameters := .default
  counters := .zero
  valid := ⟨rfl, by decide, by decide, by decide, by decide, rfl⟩

def captureTxContext (session : TNCSessionState) (maxWaitSeconds : ℚ) :
    Except PyError TNCTransmitContext :=
  let parameters := session.parameters
  if hwait : 0 < maxWaitSeconds then
    .ok
      { parameters
        txdelayProfile := txdelayProfile parameters.txdelay
        csmaParameters :=
          ⟨parameters.persist, parameters.slottime, maxWaitSeconds,
            session.valid.persist, session.valid.one_le_slottime,
            session.valid.slottime, hwait⟩
        profile_eq := rfl
        persist_eq := rfl
        slottime_eq := rfl
        txdelay_le := session.valid.txdelay }
  else .error (.valueError "max_wait_seconds must be positive")

/-- `_result`: a message that leaves the parameters alone. -/
def rejected (session : TNCSessionState) (counters : TNCControlCounters)
    (disposition : ControlDisposition) (message : KISSMessage) (reason : String) :
    TNCSessionState × TNCControlResult :=
  ({ session with counters },
    { disposition, port := message.port, command := message.command
      previous := session.parameters, current := session.parameters, reason })

/-- The end of `apply`: publish a new generation. Its revalidation cannot fail,
which is the proof that the new session carries. -/
def updated (session : TNCSessionState) (counters : TNCControlCounters)
    (message : KISSMessage) (field : String) (current : TNCParameterSnapshot)
    (valid : current.Valid) : TNCSessionState × TNCControlResult :=
  ({ parameters := current
     counters := { counters with
       kissParameterUpdates := counters.kissParameterUpdates + 1 }
     valid },
    { disposition := .parameterUpdated, port := message.port
      command := message.command, previous := session.parameters, current
      reason := "KISS parameter " ++ field ++ " updated atomically" })

/-- The value of a parameter command, by its command number. -/
def applyValue (session : TNCSessionState) (counters : TNCControlCounters)
    (message : KISSMessage) (byte : Byte) : TNCSessionState × TNCControlResult :=
  let value := byte.toNat
  have hvalue : value ≤ 255 := Nat.le_of_lt_succ byte.isLt
  let previous := session.parameters
  let next := { previous with generation := previous.generation + 1 }
  if message.command = TXDELAY then
    session.updated counters message "TXDELAY" { next with txdelay := value }
      { session.valid with txdelay := hvalue }
  else if message.command = PERSIST then
    session.updated counters message "PERSIST" { next with persist := value }
      { session.valid with persist := hvalue }
  else if message.command = SLOTTIME then
    if hzero : value = 0 then
      session.rejected
        { counters with
          kissSlotTimeRejected := counters.kissSlotTimeRejected + 1
          kissParameterRejections := counters.kissParameterRejections + 1 }
        .parameterRejected message
        "SLOTTIME=0 is rejected because the qualified CSMA scheduler requires a non-zero clear slot"
    else
      session.updated counters message "SLOTTIME" { next with slottime := value }
        { session.valid with
          one_le_slottime := Nat.one_le_iff_ne_zero.mpr hzero, slottime := hvalue }
  else
    if hzero : value ≠ 0 then
      session.rejected
        { counters with
          kissFullDuplexRejected := counters.kissFullDuplexRejected + 1
          kissParameterRejections := counters.kissParameterRejections + 1 }
        .parameterRejected message
        "FULLDUPLEX must remain 0 on the simplex half-duplex target"
    else
      session.updated counters message "FULLDUPLEX" { next with fullduplex := value }
        { session.valid with fullduplex := not_not.mp hzero }

def apply (session : TNCSessionState) (message : KISSMessage) :
    TNCSessionState × TNCControlResult :=
  let counters := { session.counters with
    kissMessagesReceived := session.counters.kissMessagesReceived + 1 }
  if message.port ≠ KISS_PORT then
    session.rejected
      { counters with kissUnsupportedPorts := counters.kissUnsupportedPorts + 1 }
      .unsupportedPort message "only KISS port 0 is supported"
  else if message.command = DATA then
    session.rejected
      { counters with kissDataTxRejected := counters.kissDataTxRejected + 1 }
      .dataRejected message
      "KISS DATA transmit ingress remains disconnected in 0C-P6"
  else if ¬ (message.command = TXDELAY ∨ message.command = PERSIST ∨
      message.command = SLOTTIME ∨ message.command = FULLDUPLEX) then
    session.rejected
      { counters with kissUnknownCommands := counters.kissUnknownCommands + 1 }
      .unknownCommand message "unsupported KISS control command ignored"
  else
    match message.frame with
    | [byte] => session.applyValue counters message byte
    | _ =>
        session.rejected
          { counters with
            kissMalformedFrames := counters.kissMalformedFrames + 1
            kissParameterRejections := counters.kissParameterRejections + 1 }
          .malformed message
          "supported KISS parameter command requires exactly one payload byte"

/-- Account for frames that the incremental decoder discarded. -/
def noteMalformedStreamFrames (session : TNCSessionState) (count : ℕ) :
    TNCSessionState :=
  if count = 0 then session
  else { session with counters := { session.counters with
    kissMalformedFrames := session.counters.kissMalformedFrames + count } }

end TNCSessionState

end YwdTnc
