import YwdTnc.Hat.AX25AFSKRX
import YwdTnc.Hat.AX25AFSKTX
import YwdTnc.Hat.Burst

/-!
# The host commands of the modem

The switch cases that the firmware adds to `SerialPort.cpp`: the control and echo commands,
the transmit namespace `YWD_RF` and the receive namespace `YWD_RX`. A case gets the whole host
frame, however malformed behind its command octet, and answers with a frame of its own. Two
answers take several accesses of the capture: a read of its ring and its status (`Reply`).
-/

namespace YwdTnc

open Coding CAX25AFSKTX

inductive MMDVMState where
  | idle
  | ax25
  /-- The modes of the stock firmware. -/
  | other (code : Byte)
  deriving DecidableEq

/-- `uint8_t(m_modemState)`. -/
def MMDVMState.code : MMDVMState → Byte
  | .idle => 0
  | .ax25 => 8
  | .other code => code

/-- What the main program is about. -/
inductive HatMain where
  | idle
  | writing (rest : List Bool) (count : ℕ) (wasTX : Bool)
  | reading (call : ReadCall)
  | reporting (call : StatusCall)
  deriving DecidableEq

structure Hat where
  modemState : MMDVMState
  tx : Bool
  ywdRFReady : Bool
  ax25AFSKTX : CAX25AFSKTX
  ax25AFSKRX : CAX25AFSKRX
  txBuffer : List Bool
  ywdAx25SampleEdges : ℕ
  /-- Register 15 selects the raw slicer. -/
  rawSlicer : Bool
  /-- TIM2 is running. -/
  sampleTimer : Bool
  main : HatMain
  deriving DecidableEq

namespace SerialPort

def MMDVM_FRAME_START : Byte := 0xE0
def MMDVM_YWD_CONTROL : Byte := 0x56
def MMDVM_YWD_DATA : Byte := 0x57
def MMDVM_YWD_RF : Byte := 0x58
def MMDVM_YWD_RX : Byte := 0x59
def MMDVM_ACK : Byte := 0x70
def MMDVM_NAK : Byte := 0x7F

def YWD_CTRL_PING : Byte := 0x01
def YWD_CTRL_GET_CAPS : Byte := 0x02
def YWD_CTRL_GET_INFO : Byte := 0x03

def YWD_DATA_MAX : ℕ := 32
def YWD_KIND_TEXT : ℕ := 1
def YWD_KIND_BLOB : ℕ := 3

def YWD_RF_GET_STATUS : Byte := 0x01
def YWD_RF_TX_TONES : Byte := 0x02
def YWD_RF_ABORT : Byte := 0x03
def YWD_RF_EXIT : Byte := 0x04
def YWD_RF_GET_DIAG : Byte := 0x05
def YWD_RF_MAX_TONES : ℕ := 1920

def YWD_RX_START : Byte := 0x01
def YWD_RX_READ : Byte := 0x02
def YWD_RX_STOP : Byte := 0x03
def YWD_RX_STATUS : Byte := 0x04
def YWD_RX_RSSI : Byte := 0x05
def YWD_RX_MAX_READ : ℕ := 200

/-- The answer of a switch case. -/
inductive Reply where
  | frame (bytes : Bytes)
  /-- The octets that `ax25AFSKRX.read` is going to return. -/
  | read (maxLength : ℕ)
  /-- The status of the capture, behind its flags. -/
  | status (flags : Byte)
  deriving DecidableEq

/-- `m_buffer[i]`; the cases look at no octet behind `m_len`. -/
def octet (buffer : Bytes) (i : ℕ) : Byte := buffer.getD i 0

/-- A reply: the start octet, its length, the command and the rest. -/
def replyFrame (command : Byte) (payload : Bytes) : Bytes :=
  MMDVM_FRAME_START :: BitVec.ofNat 8 (3 + payload.length) :: command :: payload

def sendACK (buffer : Bytes) : Reply := .frame (replyFrame MMDVM_ACK [octet buffer 2])

def sendNAK (buffer : Bytes) (err : ℕ) : Reply :=
  .frame (replyFrame MMDVM_NAK [octet buffer 2, BitVec.ofNat 8 err])

/-- The two octets of a count, the low one first. -/
def littleEndian16 (n : ℕ) : Bytes := [BitVec.ofNat 8 n, BitVec.ofNat 8 (n >>> 8)]

def littleEndian32 (n : ℕ) : Bytes :=
  [BitVec.ofNat 8 n, BitVec.ofNat 8 (n >>> 8), BitVec.ofNat 8 (n >>> 16),
    BitVec.ofNat 8 (n >>> 24)]

/-- The bits of a flag octet. -/
def flag (value : Byte) (condition : Bool) : Byte := if condition then value else 0

def PONG : Bytes := [0x50, 0x4F, 0x4E, 0x47]

/-- `YWD-1278-AX25R4`, and the zero that ends the string. -/
def INFO : Bytes :=
  [0x59, 0x57, 0x44, 0x2D, 0x31, 0x32, 0x37, 0x38, 0x2D, 0x41, 0x58, 0x32, 0x35, 0x52, 0x34, 0x00]

def ywdControl (buffer : Bytes) : Reply :=
  if buffer.length = 3 then .frame (replyFrame MMDVM_YWD_CONTROL PONG)
  else if buffer.length ≠ 4 then sendNAK buffer 4
  else if octet buffer 3 = YWD_CTRL_PING then
    .frame (replyFrame MMDVM_YWD_CONTROL (YWD_CTRL_PING :: PONG))
  else if octet buffer 3 = YWD_CTRL_GET_CAPS then
    .frame (replyFrame MMDVM_YWD_CONTROL
      [YWD_CTRL_GET_CAPS, 1, BitVec.ofNat 8 YWD_DATA_MAX, 0x0F, 0x07, 0x00])
  else if octet buffer 3 = YWD_CTRL_GET_INFO then
    .frame (replyFrame MMDVM_YWD_CONTROL (YWD_CTRL_GET_INFO :: INFO))
  else sendNAK buffer 4

/-- The echo of a validated frame. -/
def ywdData (buffer : Bytes) : Reply :=
  if buffer.length < 6 then sendNAK buffer 4
  else
    let kind := (octet buffer 4).toNat
    let payloadLen := (octet buffer 5).toNat
    if YWD_DATA_MAX < payloadLen ∨ buffer.length ≠ 6 + payloadLen ∨ kind < YWD_KIND_TEXT ∨
        YWD_KIND_BLOB < kind then sendNAK buffer 4
    else
      .frame (replyFrame MMDVM_YWD_DATA
        (octet buffer 3 :: octet buffer 4 :: octet buffer 5 :: (buffer.drop 6).take payloadLen))

/-! ### Transmit -/

def rfGetStatus (hat : Hat) (buffer : Bytes) : Reply :=
  if buffer.length ≠ 4 then sendNAK buffer 4
  else
    let flags := flag 0x01 hat.ax25AFSKTX.busy ||| flag 0x02 hat.tx |||
      flag 0x04 (hat.modemState = .ax25) ||| flag 0x08 hat.ywdRFReady
    .frame (replyFrame MMDVM_YWD_RF ([YWD_RF_GET_STATUS, 1, flags] ++
      littleEndian16 hat.ax25AFSKTX.remaining ++ [hat.modemState.code]))

/-- The selector count of a `TX_TONES` frame. -/
def bitCountOf (buffer : Bytes) : ℕ := (octet buffer 4).toNat ||| (octet buffer 5).toNat <<< 8

def rfTxTones (hat : Hat) (buffer : Bytes) : Hat × Reply :=
  if hat.ax25AFSKRX.active then (hat, sendNAK buffer 5)
  else if buffer.length < 7 ∨ !hat.ywdRFReady then
    (hat, sendNAK buffer (if hat.ywdRFReady then 4 else 5))
  else
    let bitCount := bitCountOf buffer
    let packedLen := (bitCount + 7) / 8
    if bitCount = 0 ∨ YWD_RF_MAX_TONES < bitCount ∨ 240 < packedLen ∨
        buffer.length ≠ 6 + packedLen then (hat, sendNAK buffer 4)
    else if hat.modemState ≠ .idle ∧ hat.modemState ≠ .ax25 then (hat, sendNAK buffer 5)
    else
      let entered := hat.modemState = .idle
      let written := hat.ax25AFSKTX.writeSelectors hat.tx ((buffer.drop 6).take packedLen) bitCount
      if written.2 = 0 then
        ({ hat with modemState := .ax25, ax25AFSKTX := written.1, ywdAx25SampleEdges := 0 },
          sendACK buffer)
      else
        ({ hat with modemState := if entered ∧ !hat.tx then .idle else .ax25 },
          sendNAK buffer written.2)

def rfAbort (hat : Hat) (buffer : Bytes) : Hat × Reply :=
  if buffer.length ≠ 4 then (hat, sendNAK buffer 4)
  else ({ hat with ax25AFSKTX := hat.ax25AFSKTX.abort }, sendACK buffer)

def rfExit (hat : Hat) (buffer : Bytes) : Hat × Reply :=
  if buffer.length ≠ 4 then (hat, sendNAK buffer 4)
  else if hat.ax25AFSKTX.busy ∨ hat.tx ∨ hat.ax25AFSKRX.active then (hat, sendNAK buffer 5)
  else ({ hat with ax25AFSKTX := hat.ax25AFSKTX.abort, modemState := .idle }, sendACK buffer)

def rfGetDiag (hat : Hat) (buffer : Bytes) : Reply :=
  if buffer.length ≠ 4 then sendNAK buffer 4
  else
    .frame (replyFrame MMDVM_YWD_RF (YWD_RF_GET_DIAG :: littleEndian16 hat.ywdAx25SampleEdges ++
      BitVec.ofNat 8 hat.ax25AFSKTX.keyups :: littleEndian16 hat.ax25AFSKTX.samplesQueued ++
      [if hat.tx then 1 else 0]))

def ywdRF (hat : Hat) (buffer : Bytes) : Hat × Reply :=
  if buffer.length < 4 then (hat, sendNAK buffer 4)
  else if octet buffer 3 = YWD_RF_GET_STATUS then (hat, rfGetStatus hat buffer)
  else if octet buffer 3 = YWD_RF_TX_TONES then rfTxTones hat buffer
  else if octet buffer 3 = YWD_RF_ABORT then rfAbort hat buffer
  else if octet buffer 3 = YWD_RF_EXIT then rfExit hat buffer
  else if octet buffer 3 = YWD_RF_GET_DIAG then (hat, rfGetDiag hat buffer)
  else (hat, sendNAK buffer 4)

/-! ### Receive -/

/-- TIM2 makes 19200 samples a second or is not started. -/
def timerStarts (timerClock : ℕ) : Bool := timerClock / 19200 ≠ 0 ∧ timerClock % 19200 = 0

def rxStart (timerClock : ℕ) (hat : Hat) (buffer : Bytes) : Hat × Reply :=
  if buffer.length ≠ 4 then (hat, sendNAK buffer 4)
  else if !hat.ywdRFReady ∨ hat.tx ∨ hat.ax25AFSKTX.busy ∨ hat.ax25AFSKRX.active ∨
      (hat.modemState ≠ .idle ∧ hat.modemState ≠ .ax25) then (hat, sendNAK buffer 5)
  else
    ({ hat with
        ax25AFSKRX := hat.ax25AFSKRX.reset.start
        modemState := .ax25
        rawSlicer := true
        sampleTimer := hat.sampleTimer || timerStarts timerClock }, sendACK buffer)

def rxRead (hat : Hat) (buffer : Bytes) : Hat × Reply :=
  if buffer.length ≠ 5 ∨ octet buffer 4 = 0 ∨ YWD_RX_MAX_READ < (octet buffer 4).toNat then
    (hat, sendNAK buffer 4)
  else ({ hat with main := .reading (.begin (octet buffer 4).toNat) }, .read (octet buffer 4).toNat)

def rxStop (hat : Hat) (buffer : Bytes) : Hat × Reply :=
  if buffer.length ≠ 4 then (hat, sendNAK buffer 4)
  else
    let stopped :=
      if hat.ax25AFSKRX.active then
        { hat with sampleTimer := false, ax25AFSKRX := hat.ax25AFSKRX.stop, rawSlicer := false }
      else hat
    ({ stopped with modemState :=
        if hat.modemState = .ax25 ∧ !hat.tx ∧ !hat.ax25AFSKTX.busy then .idle
        else hat.modemState }, sendACK buffer)

def rxStatus (hat : Hat) (buffer : Bytes) : Hat × Reply :=
  if buffer.length ≠ 4 then (hat, sendNAK buffer 4)
  else
    let flags := flag 0x01 hat.ax25AFSKRX.active ||| flag 0x02 hat.tx |||
      flag 0x04 hat.ywdRFReady ||| flag 0x08 (hat.modemState = .ax25)
    ({ hat with main := .reporting ⟨flags, .flags⟩ }, .status flags)

/-- `rssi` is what `io.readRSSI` would return. -/
def rxRssi (rssi : ℕ) (hat : Hat) (buffer : Bytes) : Reply :=
  if buffer.length ≠ 4 then sendNAK buffer 4
  else if !hat.ax25AFSKRX.active ∨ hat.tx ∨ hat.ax25AFSKTX.busy ∨ hat.modemState ≠ .ax25 then
    sendNAK buffer 5
  else .frame (replyFrame MMDVM_YWD_RX (YWD_RX_RSSI :: littleEndian16 rssi))

def ywdRX (timerClock rssi : ℕ) (hat : Hat) (buffer : Bytes) : Hat × Reply :=
  if buffer.length < 4 then (hat, sendNAK buffer 4)
  else if octet buffer 3 = YWD_RX_START then rxStart timerClock hat buffer
  else if octet buffer 3 = YWD_RX_READ then rxRead hat buffer
  else if octet buffer 3 = YWD_RX_STOP then rxStop hat buffer
  else if octet buffer 3 = YWD_RX_STATUS then rxStatus hat buffer
  else if octet buffer 3 = YWD_RX_RSSI then (hat, rxRssi rssi hat buffer)
  else (hat, sendNAK buffer 4)

/-- The reply to a read that has returned. -/
def readReply (out : Bytes) : Bytes :=
  replyFrame MMDVM_YWD_RX (YWD_RX_READ :: BitVec.ofNat 8 out.length :: out)

/-- The reply to a status request, revision 3. -/
def statusReply (status : CaptureStatus) : Bytes :=
  replyFrame MMDVM_YWD_RX ([YWD_RX_STATUS, 3, status.flags] ++ littleEndian16 status.available ++
    littleEndian32 status.samples.toNat ++ littleEndian16 status.droppedBytes)

/-- The four cases of the switch; any other command belongs to the stock firmware. -/
def ywdCommand (timerClock rssi : ℕ) (hat : Hat) (buffer : Bytes) : Option (Hat × Reply) :=
  if octet buffer 2 = MMDVM_YWD_CONTROL then some (hat, ywdControl buffer)
  else if octet buffer 2 = MMDVM_YWD_DATA then some (hat, ywdData buffer)
  else if octet buffer 2 = MMDVM_YWD_RF then some (ywdRF hat buffer)
  else if octet buffer 2 = MMDVM_YWD_RX then some (ywdRX timerClock rssi hat buffer)
  else none

/-! ### What a command can do -/

/-- What a command has done, as its reply shows it. -/
inductive Effect where
  | none
  | load (packed : Bytes) (bitCount : ℕ)
  | abort
  | start
  | stop
  | read (maxLength : ℕ)
  | status (flags : Byte)
  deriving DecidableEq

/-- The octets of the selectors in a `TX_TONES` frame. -/
def packedOf (buffer : Bytes) : Bytes := (buffer.drop 6).take ((bitCountOf buffer + 7) / 8)

def effect (buffer : Bytes) : Reply → Effect
  | .read maxLength => .read maxLength
  | .status flags => .status flags
  | .frame bytes =>
      if .frame bytes = sendACK buffer then
        if octet buffer 2 = MMDVM_YWD_RF then
          if octet buffer 3 = YWD_RF_TX_TONES then .load (packedOf buffer) (bitCountOf buffer)
          else .abort
        else if octet buffer 3 = YWD_RX_START then .start
        else .stop
      else .none

/-- A command leaves the modem as it is, or does one of these things. -/
inductive Commanded (timerClock : ℕ) (hat : Hat) : Effect → Hat → Prop
  | none : Commanded timerClock hat .none hat
  /-- A refused burst that has found the transmitter keyed by the stock firmware. -/
  | entered (hinactive : hat.ax25AFSKRX.active = false) (htx : hat.tx = true)
      (hmode : hat.modemState = .idle) :
      Commanded timerClock hat .none { hat with modemState := .ax25 }
  | load {engine' : CAX25AFSKTX} {packed : Bytes} {bitCount : ℕ}
      (hready : hat.ywdRFReady = true) (hinactive : hat.ax25AFSKRX.active = false)
      (hload : hat.ax25AFSKTX.writeSelectors hat.tx packed bitCount = (engine', 0)) :
      Commanded timerClock hat (.load packed bitCount)
        { hat with modemState := .ax25, ax25AFSKTX := engine', ywdAx25SampleEdges := 0 }
  | abort : Commanded timerClock hat .abort { hat with ax25AFSKTX := hat.ax25AFSKTX.abort }
  | exit (hbusy : hat.ax25AFSKTX.busy = false) (htx : hat.tx = false)
      (hinactive : hat.ax25AFSKRX.active = false) :
      Commanded timerClock hat .abort
        { hat with ax25AFSKTX := hat.ax25AFSKTX.abort, modemState := .idle }
  | start (hready : hat.ywdRFReady = true) (htx : hat.tx = false)
      (hbusy : hat.ax25AFSKTX.busy = false) (hinactive : hat.ax25AFSKRX.active = false) :
      Commanded timerClock hat .start
        { hat with
          ax25AFSKRX := hat.ax25AFSKRX.reset.start
          modemState := .ax25
          rawSlicer := true
          sampleTimer := hat.sampleTimer || timerStarts timerClock }
  | stop {mode : MMDVMState}
      (hmode : mode = hat.modemState ∨
        mode = .idle ∧ hat.tx = false ∧ hat.ax25AFSKTX.busy = false) :
      Commanded timerClock hat .stop
        { hat with
          ax25AFSKRX := hat.ax25AFSKRX.stop
          modemState := mode
          rawSlicer := if hat.ax25AFSKRX.active then false else hat.rawSlicer
          sampleTimer := if hat.ax25AFSKRX.active then false else hat.sampleTimer }
  | read {maxLength : ℕ} (hmax : maxLength ≤ YWD_RX_MAX_READ) :
      Commanded timerClock hat (.read maxLength) { hat with main := .reading (.begin maxLength) }
  | status (flags : Byte) :
      Commanded timerClock hat (.status flags) { hat with main := .reporting ⟨flags, .flags⟩ }

section Effects

variable {timerClock rssi : ℕ} {hat hat' : Hat} {buffer : Bytes} {reply : Reply}

/-- Only an acknowledgement looks like one. -/
theorem effect_frame {command : Byte} (h : command ≠ MMDVM_ACK) (payload : Bytes) :
    effect buffer (.frame (replyFrame command payload)) = .none := by
  refine if_neg fun hack => h ?_
  simp only [sendACK, replyFrame, Reply.frame.injEq, List.cons.injEq] at hack
  exact hack.2.2.1

@[simp] theorem effect_nak (err : ℕ) : effect buffer (sendNAK buffer err) = .none :=
  effect_frame (by decide) _

theorem effect_ack :
    effect buffer (sendACK buffer) =
      if octet buffer 2 = MMDVM_YWD_RF then
        if octet buffer 3 = YWD_RF_TX_TONES then .load (packedOf buffer) (bitCountOf buffer)
        else .abort
      else if octet buffer 3 = YWD_RX_START then .start
      else .stop :=
  if_pos rfl

theorem effect_ack_rf (hcommand : octet buffer 2 = MMDVM_YWD_RF) :
    effect buffer (sendACK buffer) =
      if octet buffer 3 = YWD_RF_TX_TONES then .load (packedOf buffer) (bitCountOf buffer)
      else .abort := by
  rw [effect_ack, if_pos hcommand]

theorem effect_ack_rx (hcommand : octet buffer 2 = MMDVM_YWD_RX) :
    effect buffer (sendACK buffer) =
      if octet buffer 3 = YWD_RX_START then .start else .stop := by
  rw [effect_ack, if_neg (by rw [hcommand]; decide)]

theorem Commanded.of_none (h : effect buffer reply = .none) :
    Commanded timerClock hat (effect buffer reply) hat := by
  rw [h]
  exact .none

theorem ywdControl_effect (buffer : Bytes) : effect buffer (ywdControl buffer) = .none := by
  unfold ywdControl
  split_ifs
  all_goals first | exact effect_nak _ | exact effect_frame (by decide) _

theorem ywdData_effect (buffer : Bytes) : effect buffer (ywdData buffer) = .none := by
  unfold ywdData
  dsimp only
  split_ifs
  all_goals first | exact effect_nak _ | exact effect_frame (by decide) _

theorem rfTxTones_commanded (hcommand : octet buffer 2 = MMDVM_YWD_RF)
    (hsub : octet buffer 3 = YWD_RF_TX_TONES) :
    Commanded timerClock hat (effect buffer (rfTxTones hat buffer).2) (rfTxTones hat buffer).1 := by
  unfold rfTxTones
  split
  case isTrue => exact .of_none (effect_nak _)
  case isFalse hinactive =>
    split
    case isTrue => exact .of_none (effect_nak _)
    case isFalse hready =>
      dsimp only
      split
      case isTrue => exact .of_none (effect_nak _)
      case isFalse hcount =>
        split
        case isTrue => exact .of_none (effect_nak _)
        case isFalse hmode =>
          rw [not_or, Bool.not_eq_true'] at hready
          rw [Bool.not_eq_true] at hinactive
          have hready : hat.ywdRFReady = true := by simpa using hready.2
          split
          case isTrue haccepted =>
            rw [effect_ack_rf hcommand, if_pos hsub]
            exact .load hready hinactive (Prod.ext rfl haccepted)
          case isFalse hrefused =>
            rw [effect_nak]
            by_cases hkeyed : hat.modemState = .idle ∧ hat.tx = true
            · have hentered : (if hat.modemState = .idle ∧ (!hat.tx) = true then MMDVMState.idle
                  else .ax25) = .ax25 := by
                simp [hkeyed]
              rw [hentered]
              exact .entered hinactive hkeyed.2 hkeyed.1
            · have hsame : (if hat.modemState = .idle ∧ (!hat.tx) = true then MMDVMState.idle
                  else .ax25) = hat.modemState := by
                by_cases hidle : hat.modemState = .idle
                · have htx : hat.tx = false := by simpa [hidle] using hkeyed
                  rw [if_pos ⟨hidle, by rw [htx]; rfl⟩, hidle]
                · rw [if_neg fun h => hidle h.1]
                  rw [not_and, not_not] at hmode
                  exact (hmode hidle).symm
              rw [hsame]
              exact .none

theorem ywdRF_commanded (hcommand : octet buffer 2 = MMDVM_YWD_RF) :
    Commanded timerClock hat (effect buffer (ywdRF hat buffer).2) (ywdRF hat buffer).1 := by
  unfold ywdRF
  split
  case isTrue => exact .of_none (effect_nak _)
  case isFalse hlong =>
    split
    case isTrue =>
      refine .of_none ?_
      unfold rfGetStatus
      split_ifs
      · exact effect_nak _
      · exact effect_frame (by decide) _
    case isFalse =>
      split
      case isTrue hsub => exact rfTxTones_commanded hcommand hsub
      case isFalse hsub =>
        split
        case isTrue =>
          unfold rfAbort
          split_ifs
          · exact .of_none (effect_nak _)
          · rw [effect_ack_rf hcommand, if_neg hsub]
            exact .abort
        case isFalse =>
          split
          case isTrue =>
            unfold rfExit
            split
            case isTrue => exact .of_none (effect_nak _)
            case isFalse =>
              split
              case isTrue => exact .of_none (effect_nak _)
              case isFalse hquiet =>
                rw [effect_ack_rf hcommand, if_neg hsub]
                simp only [not_or, Bool.not_eq_true] at hquiet
                exact .exit hquiet.1 hquiet.2.1 hquiet.2.2
          case isFalse =>
            split
            case isTrue =>
              refine .of_none ?_
              unfold rfGetDiag
              split
              · exact effect_nak _
              · exact effect_frame (by decide) _
            case isFalse => exact .of_none (effect_nak _)

theorem rxStop_commanded (hcommand : octet buffer 2 = MMDVM_YWD_RX)
    (hsub : octet buffer 3 = YWD_RX_STOP) :
    Commanded timerClock hat (effect buffer (rxStop hat buffer).2) (rxStop hat buffer).1 := by
  unfold rxStop
  split
  case isTrue => exact .of_none (effect_nak _)
  case isFalse =>
    rw [effect_ack_rx hcommand, if_neg (by rw [hsub]; decide)]
    have hmode : ∀ mode : MMDVMState,
        mode = (if hat.modemState = .ax25 ∧ !hat.tx ∧ !hat.ax25AFSKTX.busy then .idle
          else hat.modemState) →
        mode = hat.modemState ∨
          mode = .idle ∧ hat.tx = false ∧ hat.ax25AFSKTX.busy = false := by
      intro mode hmode
      split at hmode
      case isTrue hquiet => exact .inr ⟨hmode, by simpa using hquiet.2.1, by simpa using hquiet.2.2⟩
      case isFalse => exact .inl hmode
    have hstop : Commanded timerClock hat .stop _ := .stop (hmode _ rfl)
    cases hactive : hat.ax25AFSKRX.active with
    | true =>
        simp only [hactive, if_true] at hstop ⊢
        exact hstop
    | false =>
        have hsame : hat.ax25AFSKRX.stop = hat.ax25AFSKRX := by
          rw [CAX25AFSKRX.stop, ← hactive]
        simp only [hactive, Bool.false_eq_true, if_false, hsame] at hstop ⊢
        exact hstop

theorem ywdRX_commanded (hcommand : octet buffer 2 = MMDVM_YWD_RX) :
    Commanded timerClock hat (effect buffer (ywdRX timerClock rssi hat buffer).2)
      (ywdRX timerClock rssi hat buffer).1 := by
  unfold ywdRX
  split
  case isTrue => exact .of_none (effect_nak _)
  case isFalse hlong =>
    split
    case isTrue hsub =>
      unfold rxStart
      split
      case isTrue => exact .of_none (effect_nak _)
      case isFalse =>
        split
        case isTrue => exact .of_none (effect_nak _)
        case isFalse hfree =>
          rw [effect_ack_rx hcommand, if_pos hsub]
          simp only [not_or, Bool.not_eq_true, Bool.not_eq_false'] at hfree
          exact .start hfree.1 hfree.2.1 hfree.2.2.1 hfree.2.2.2.1
    case isFalse =>
      split
      case isTrue =>
        unfold rxRead
        split
        case isTrue => exact .of_none (effect_nak _)
        case isFalse hmax => exact .read (by omega)
      case isFalse =>
        split
        case isTrue hsub => exact rxStop_commanded hcommand hsub
        case isFalse =>
          split
          case isTrue =>
            unfold rxStatus
            split
            case isTrue => exact .of_none (effect_nak _)
            case isFalse => exact .status _
          case isFalse =>
            split
            case isTrue =>
              refine .of_none ?_
              unfold rxRssi
              split_ifs
              · exact effect_nak _
              · exact effect_nak _
              · exact effect_frame (by decide) _
            case isFalse => exact .of_none (effect_nak _)

theorem ywdCommand_commanded (h : ywdCommand timerClock rssi hat buffer = some (hat', reply)) :
    Commanded timerClock hat (effect buffer reply) hat' := by
  unfold ywdCommand at h
  split at h
  · cases h
    exact .of_none (ywdControl_effect buffer)
  · split at h
    · cases h
      exact .of_none (ywdData_effect buffer)
    · split at h
      case isTrue hcommand =>
        have heffect := @ywdRF_commanded timerClock hat buffer hcommand
        rw [Option.some.injEq] at h
        rw [h] at heffect
        exact heffect
      case isFalse =>
        split at h
        case isTrue hcommand =>
          have heffect := @ywdRX_commanded timerClock rssi hat buffer hcommand
          rw [Option.some.injEq] at h
          rw [h] at heffect
          exact heffect
        case isFalse => cases h

end Effects

end SerialPort

end YwdTnc
