import YwdTnc.Hat.Runs
import YwdTnc.Modem.Healthy
import YwdTnc.Modem.Responses

/-!
# What the owner is told

One exchange between the modem owner and the modem: the request arrives, the modem answers at
once or behind the accesses of a read or of a status, and the owner parses the reply. In every
run of the packet modem the parsed answer is what the modem has been or has done (`Told`): its
state and counters, the octets of the ring, and an acknowledgement of a START or a burst
exactly when the modem was free (`Free`).
-/

namespace YwdTnc

open Coding Interaction SerialPort CAX25AFSKTX

/-! ### Replies as frames -/

namespace SerialPort

theorem buildFrame_replyFrame {command : Byte} {payload : Bytes} (h : payload.length ≤ 252) :
    Protocol.buildFrame command payload = .ok (replyFrame command payload) :=
  Protocol.buildFrame_ok h

theorem parseFrame_replyFrame {command : Byte} {payload : Bytes} (h : payload.length ≤ 252) :
    Protocol.parseFrame (replyFrame command payload) (some command) = .ok ⟨command, payload⟩ :=
  (Protocol.parseFrame_buildFrame (buildFrame_replyFrame h) (some command)
    fun _ he => (Option.some.inj he).symm).1

/-- A reply of another command is not parsed. -/
theorem parseFrame_replyFrame_ne {command expected : Byte} {payload : Bytes}
    (h : payload.length ≤ 252) (hne : command ≠ expected) :
    ∃ e, Protocol.parseFrame (replyFrame command payload) (some expected) = .error e := by
  cases hframe : Protocol.parseFrame (replyFrame command payload) (some expected) with
  | error e => exact ⟨e, rfl⟩
  | ok frame =>
      obtain ⟨hany, hcommand⟩ := Protocol.parseFrame_some_ok hframe
      rw [(Protocol.parseFrame_buildFrame (buildFrame_replyFrame h) none (by simp)).1,
        Except.ok.injEq] at hany
      rw [← hany] at hcommand
      exact absurd hcommand hne

theorem uint16_littleEndian16 (n : ℕ) :
    Protocol.uint16 (BitVec.ofNat 8 n) (BitVec.ofNat 8 (n >>> 8)) = n % 2 ^ 16 := by
  rw [Protocol.uint16_eq, BitVec.toNat_ofNat, BitVec.toNat_ofNat, Nat.shiftRight_eq_div_pow]
  omega

theorem uint32_littleEndian32 (n : BitVec 32) :
    Protocol.uint32 (BitVec.ofNat 8 n.toNat) (BitVec.ofNat 8 (n.toNat >>> 8))
      (BitVec.ofNat 8 (n.toNat >>> 16)) (BitVec.ofNat 8 (n.toNat >>> 24)) = n.toNat := by
  have hlt := n.isLt
  simp only [Protocol.uint32_eq, BitVec.toNat_ofNat, Nat.shiftRight_eq_div_pow]
  omega

theorem parseAck_replyFrame (command : Byte) :
    Protocol.parseAck (replyFrame MMDVM_ACK [command]) command = .ok () := by
  unfold Protocol.parseAck
  rw [show Protocol.ACK = MMDVM_ACK from rfl, parseFrame_replyFrame (by simp)]
  exact if_neg (not_not.mpr rfl)

/-- A refusal is no acknowledgement, and no response of another kind. -/
theorem parseFrame_nak (expected : Byte) (hne : expected ≠ MMDVM_NAK) (command err : Byte) :
    ∃ e, Protocol.parseFrame (replyFrame MMDVM_NAK [command, err]) (some expected) = .error e :=
  parseFrame_replyFrame_ne (by simp) hne.symm

theorem parseAck_nak (command err expected : Byte) :
    ∃ e, Protocol.parseAck (replyFrame MMDVM_NAK [command, err]) expected = .error e := by
  obtain ⟨e, he⟩ := parseFrame_nak Protocol.ACK (by decide) command err
  exact ⟨e, by rw [Protocol.parseAck, he]⟩

end SerialPort

namespace Hat

/-! ### What the modem shows -/

def rfStatus (hat : Hat) : RFStatus where
  flags := (flag 0x01 hat.ax25AFSKTX.busy ||| flag 0x02 hat.tx |||
    flag 0x04 (hat.modemState = .ax25) ||| flag 0x08 hat.ywdRFReady).toNat
  remainingSelectors := hat.ax25AFSKTX.remaining
  mode := hat.modemState.code.toNat

def rfDiagnostics (hat : Hat) : RFDiagnostics where
  interruptCount := hat.ywdAx25SampleEdges
  keyups := hat.ax25AFSKTX.keyups
  generatedSamples := hat.ax25AFSKTX.samplesQueued
  txActive := if hat.tx then 1 else 0

def rxFlags (hat : Hat) : Byte :=
  flag 0x01 hat.ax25AFSKRX.active ||| flag 0x02 hat.tx ||| flag 0x04 hat.ywdRFReady |||
    flag 0x08 (hat.modemState = .ax25)

end Hat

def CaptureStatus.shown (status : CaptureStatus) : RX3Status where
  flags := status.flags.toNat
  availableBytes := status.available
  samples := status.samples.toNat
  droppedBytes := status.droppedBytes

namespace Hat

/-- A modem that accepts a START and a burst. -/
structure Free (hat : Hat) : Prop where
  ready : hat.ywdRFReady = true
  tx : hat.tx = false
  engine : hat.ax25AFSKTX.active = false
  capture : hat.ax25AFSKRX.active = false
  mode : hat.modemState = .idle ∨ hat.modemState = .ax25

theorem free_iff (hat : Hat) :
    hat.Free ↔ ¬ (!hat.ywdRFReady ∨ hat.tx ∨ hat.ax25AFSKTX.busy ∨ hat.ax25AFSKRX.active ∨
      (hat.modemState ≠ .idle ∧ hat.modemState ≠ .ax25)) := by
  constructor
  · rintro ⟨hready, htx, hengine, hcapture, hmode⟩
    simp only [CAX25AFSKTX.busy, hready, htx, hengine, hcapture]
    rcases hmode with hmode | hmode <;> simp [hmode]
  · intro h
    simp only [not_or, CAX25AFSKTX.busy, Bool.not_eq_true, Bool.not_eq_false'] at h
    obtain ⟨hready, htx, hengine, hcapture, hmode⟩ := h
    exact ⟨hready, htx, hengine, hcapture, by tauto⟩

instance (hat : Hat) : Decidable hat.Free := decidable_of_iff' _ hat.free_iff

def started (timerClock : ℕ) (hat : Hat) : Hat :=
  { hat with
    ax25AFSKRX := hat.ax25AFSKRX.reset.start
    modemState := .ax25
    rawSlicer := true
    sampleTimer := hat.sampleTimer || timerStarts timerClock }

def stopped (hat : Hat) : Hat :=
  { (if hat.ax25AFSKRX.active then
      { hat with sampleTimer := false, ax25AFSKRX := hat.ax25AFSKRX.stop, rawSlicer := false }
    else hat) with
    modemState := if hat.modemState = .ax25 ∧ !hat.tx ∧ !hat.ax25AFSKTX.busy then .idle
      else hat.modemState }

def loaded (hat : Hat) (packed : Bytes) (bitCount : ℕ) : Hat :=
  { hat with
    modemState := .ax25
    ax25AFSKTX := hat.ax25AFSKTX.load packed bitCount
    ywdAx25SampleEdges := 0 }

/-! ### The commands of the owner -/

section Commands

variable (timerClock rssi : ℕ) (hat : Hat)

theorem command_rfStatus :
    ywdCommand timerClock rssi hat [0xE0, 4, 0x58, 0x01] =
      some (hat, .frame (replyFrame MMDVM_YWD_RF ([YWD_RF_GET_STATUS, 1,
        flag 0x01 hat.ax25AFSKTX.busy ||| flag 0x02 hat.tx |||
          flag 0x04 (hat.modemState = .ax25) ||| flag 0x08 hat.ywdRFReady] ++
        littleEndian16 hat.ax25AFSKTX.remaining ++ [hat.modemState.code]))) :=
  rfl

theorem command_rfDiagnostics :
    ywdCommand timerClock rssi hat [0xE0, 4, 0x58, 0x05] =
      some (hat, .frame (replyFrame MMDVM_YWD_RF (YWD_RF_GET_DIAG ::
        littleEndian16 hat.ywdAx25SampleEdges ++
        BitVec.ofNat 8 hat.ax25AFSKTX.keyups :: littleEndian16 hat.ax25AFSKTX.samplesQueued ++
        [if hat.tx then 1 else 0]))) :=
  rfl

theorem command_rxStart :
    ywdCommand timerClock rssi hat [0xE0, 4, 0x59, 0x01] =
      some (if hat.Free then
          (hat.started timerClock, .frame (replyFrame MMDVM_ACK [MMDVM_YWD_RX]))
        else (hat, .frame (replyFrame MMDVM_NAK [MMDVM_YWD_RX, 5]))) := by
  change some (rxStart timerClock hat [0xE0, 4, 0x59, 0x01]) = _
  rw [rxStart, if_neg (by decide)]
  by_cases hfree : hat.Free
  · rw [if_pos hfree, if_neg (hat.free_iff.mp hfree)]
    rfl
  · rw [if_neg hfree, if_pos (not_not.mp (hat.free_iff.not.mp hfree))]
    rfl

theorem command_rxStop :
    ywdCommand timerClock rssi hat [0xE0, 4, 0x59, 0x03] =
      some (hat.stopped, .frame (replyFrame MMDVM_ACK [MMDVM_YWD_RX])) :=
  rfl

theorem command_rxStatus :
    ywdCommand timerClock rssi hat [0xE0, 4, 0x59, 0x04] =
      some ({ hat with main := .reporting ⟨hat.rxFlags, .flags⟩ }, .status hat.rxFlags) :=
  rfl

theorem command_rxRssi :
    ywdCommand timerClock rssi hat [0xE0, 4, 0x59, 0x05] =
      some (hat, .frame (if hat.ax25AFSKRX.active ∧ ¬ hat.tx ∧ ¬ hat.ax25AFSKTX.busy ∧
          hat.modemState = .ax25 then
        replyFrame MMDVM_YWD_RX (YWD_RX_RSSI :: littleEndian16 rssi)
      else replyFrame MMDVM_NAK [MMDVM_YWD_RX, 5])) := by
  change some (hat, rxRssi rssi hat [0xE0, 4, 0x59, 0x05]) = _
  rw [rxRssi, if_neg (by decide)]
  by_cases hon : hat.ax25AFSKRX.active ∧ ¬ hat.tx ∧ ¬ hat.ax25AFSKTX.busy ∧ hat.modemState = .ax25
  · rw [if_pos hon, if_neg (by simp_all)]
  · rw [if_neg hon, if_pos (by rw [Bool.not_eq_true', ← Bool.not_eq_true]; tauto)]
    rfl

theorem command_rxRead {maximum : ℕ} (hpos : 1 ≤ maximum) (hmax : maximum ≤ YWD_RX_MAX_READ) :
    ywdCommand timerClock rssi hat [0xE0, 5, 0x59, 0x02, BitVec.ofNat 8 maximum] =
      some ({ hat with main := .reading (.begin maximum) }, .read maximum) := by
  unfold YWD_RX_MAX_READ at hmax
  have hoctet : (BitVec.ofNat 8 maximum).toNat = maximum := by
    rw [BitVec.toNat_ofNat]
    omega
  have hne : BitVec.ofNat 8 maximum ≠ 0 := by
    intro hzero
    rw [hzero] at hoctet
    have hnone : (0 : Byte).toNat = 0 := rfl
    omega
  change some (rxRead hat [0xE0, 5, 0x59, 0x02, BitVec.ofNat 8 maximum]) = _
  have hfourth : octet [0xE0, 5, 0x59, 0x02, BitVec.ofNat 8 maximum] 4 =
      BitVec.ofNat 8 maximum := rfl
  unfold rxRead YWD_RX_MAX_READ
  rw [hfourth, hoctet, if_neg]
  rintro (hlength | hzero | hlong)
  · exact hlength rfl
  · exact hne hzero
  · omega

end Commands

/-- A free modem takes a burst that is well formed; any other refuses it with error 5. -/
theorem writeSelectors_of_free {hat : Hat} {packed : Bytes} {count : ℕ}
    (hburst : WellFormedBurst count packed)
    (hmode : hat.modemState = .idle ∨ hat.modemState = .ax25)
    (hready : hat.ywdRFReady = true) (hcapture : hat.ax25AFSKRX.active = false) :
    hat.ax25AFSKTX.writeSelectors hat.tx packed count =
      if hat.Free then (hat.ax25AFSKTX.load packed count, 0) else (hat.ax25AFSKTX, 5) := by
  obtain ⟨hpos, hmax, hlength⟩ := hburst
  by_cases hfree : hat.Free
  · rw [if_pos hfree, hfree.tx]
    exact writeSelectors_of_wellFormed hfree.engine hpos hmax hlength
  · have hbusy : hat.ax25AFSKTX.active = true ∨ hat.tx = true := by
      by_contra hquiet
      rw [not_or, Bool.not_eq_true, Bool.not_eq_true] at hquiet
      exact hfree ⟨hready, hquiet.2, hquiet.1, hcapture, hmode⟩
    unfold YwdTnc.MAX_SELECTORS at hmax
    unfold CAX25AFSKTX.writeSelectors CAX25AFSKTX.MAX_SELECTORS MAX_PACKED
    dsimp only
    rw [if_neg hfree, if_neg (by omega), if_neg (by omega), if_pos (by simpa using hbusy)]

/-- The tone request of the owner, octet by octet. -/
theorem rfTxTonesRequest_octets {count : ℕ} {packed request : Bytes}
    (hrequest : Protocol.rfTxTonesRequest count packed = .ok request) :
    WellFormedBurst count packed ∧ ∃ total lo hi,
      request =
        MMDVM_FRAME_START :: total :: MMDVM_YWD_RF :: YWD_RF_TX_TONES :: lo :: hi :: packed ∧
      Protocol.uint16 lo hi = count := by
  unfold Protocol.rfTxTonesRequest at hrequest
  split at hrequest
  · cases hrequest
  case isFalse hcount =>
    split at hrequest
    · cases hrequest
    case isFalse hlength =>
      rw [not_not] at hcount hlength
      have hshort : count < 2 ^ 16 := lt_of_le_of_lt hcount.2 (by decide)
      obtain ⟨lo, hi, hbytes, hword⟩ := Protocol.uint16_uint16Bytes hshort
      rw [hbytes] at hrequest
      unfold Protocol.buildFrame at hrequest
      dsimp only at hrequest
      split at hrequest
      · cases hrequest
      · cases hrequest
        exact ⟨⟨hcount.1, hcount.2, hlength⟩, _, lo, hi, rfl, hword⟩

theorem command_burst {timerClock rssi : ℕ} {hat : Hat} (hhalf : HalfDuplex hat) {count : ℕ}
    {packed request : Bytes} (hrequest : Protocol.rfTxTonesRequest count packed = .ok request) :
    ywdCommand timerClock rssi hat request =
      some (if hat.Free then
          (hat.loaded packed count, .frame (replyFrame MMDVM_ACK [MMDVM_YWD_RF]))
        else (hat, .frame (replyFrame MMDVM_NAK [MMDVM_YWD_RF, 5]))) := by
  obtain ⟨hburst, total, lo, hi, rfl, hword⟩ := rfTxTonesRequest_octets hrequest
  have hlength := hburst.2.2
  have hmax : count ≤ 1920 := hburst.2.1
  have hpos := hburst.1
  have htx : hat.tx = true → hat.modemState = .ax25 := hhalf.tx
  generalize hrequest : MMDVM_FRAME_START :: total :: MMDVM_YWD_RF :: YWD_RF_TX_TONES :: lo :: hi ::
    packed = request
  have hcount : bitCountOf request = count := by
    rw [← hrequest]
    exact hword
  have hpacked : (request.drop 6).take ((count + 7) / 8) = packed := by
    rw [← hrequest, ← hlength]
    exact List.take_length
  have hsix : request.length = 6 + packed.length := by
    rw [← hrequest]
    simp only [List.length_cons]
    omega
  have hnak : sendNAK request 5 = .frame (replyFrame MMDVM_NAK [MMDVM_YWD_RF, 5]) := by
    rw [← hrequest]
    rfl
  have hack : sendACK request = .frame (replyFrame MMDVM_ACK [MMDVM_YWD_RF]) := by
    rw [← hrequest]
    rfl
  have hcase : ywdCommand timerClock rssi hat request = some (rfTxTones hat request) := by
    rw [← hrequest]
    rfl
  rw [hcase]
  congr 1
  unfold rfTxTones
  rw [hnak, hack]
  by_cases hcapture : hat.ax25AFSKRX.active = true
  · rw [if_pos hcapture, if_neg fun hfree => absurd (hfree.capture ▸ hcapture) (by decide)]
  · rw [if_neg hcapture]
    rw [Bool.not_eq_true] at hcapture
    by_cases hready : hat.ywdRFReady = true
    · rw [if_neg (by simp [hready]; omega)]
      dsimp only
      rw [hcount, hpacked, if_neg (by unfold YWD_RF_MAX_TONES; omega)]
      by_cases hmode : hat.modemState = .idle ∨ hat.modemState = .ax25
      · rw [if_neg (by tauto), writeSelectors_of_free hburst hmode hready hcapture]
        by_cases hfree : hat.Free
        · rw [if_pos hfree, if_pos rfl, if_pos hfree]
          rfl
        · rw [if_neg hfree, if_neg (Nat.succ_ne_zero 4), if_neg hfree, hnak]
          -- a transmitter that is keyed is in this mode already
          have hsame : (if hat.modemState = .idle ∧ (!hat.tx) = true then MMDVMState.idle
              else .ax25) = hat.modemState := by
            rcases hmode with hidle | hax25
            · have hoff : hat.tx = false := by
                rw [← Bool.not_eq_true]
                exact fun hon => absurd (hidle.symm.trans (htx hon)) (by decide)
              rw [if_pos ⟨hidle, by rw [hoff]; rfl⟩, hidle]
            · rw [if_neg fun hidle => absurd (hax25.symm.trans hidle.1) (by decide), hax25]
          rw [hsame]
      · rw [if_pos (by tauto), if_neg fun hfree => hmode hfree.mode]
    · rw [if_pos (.inr (by simpa using hready)), if_neg hready,
        if_neg fun hfree => hready hfree.ready, hnak]

/-! ### Exchanges -/

theorem request_unique {q : PortQuery} {request request' : Bytes}
    (h : q.request = some (.ok request)) (h' : q.request = some (.ok request')) :
    request = request' :=
  Except.ok.inj (Option.some.inj (h.symm.trans h'))

/-- What the modem does by itself. -/
def internal (_ : Hat) (event : HatEvent) : Prop := ∀ buffer reply, event ≠ .command buffer reply

def internalSystem (timerClock : ℕ) : System Hat HatEvent :=
  (packetSystem timerClock).restrict internal

/-- A request that is answered with `response`, after the events that its answer takes. -/
inductive Exchange (timerClock : ℕ) (hat : Hat) (request : Bytes) :
    List HatEvent → Bytes → Hat → Prop
  | frame {hat' : Hat} {rssi : ℕ} {response : Bytes} (hidle : hat.main = .idle)
      (h : ywdCommand timerClock rssi hat request = some (hat', .frame response)) :
      Exchange timerClock hat request [.command request (.frame response)] response hat'
  | read {hat₁ hat₂ hat' : Hat} {rssi maxLength : ℕ} {events : List HatEvent} {out : Bytes}
      (hidle : hat.main = .idle)
      (h : ywdCommand timerClock rssi hat request = some (hat₁, .read maxLength))
      (hrun : (internalSystem timerClock).Run hat₁ events hat₂)
      (hreturned : Step timerClock hat₂ (.returned out) hat') :
      Exchange timerClock hat request
        (.command request (.read maxLength) :: (events ++ [.returned out])) (readReply out) hat'
  | status {hat₁ hat₂ hat' : Hat} {rssi : ℕ} {flags : Byte} {events : List HatEvent}
      {status : CaptureStatus} (hidle : hat.main = .idle)
      (h : ywdCommand timerClock rssi hat request = some (hat₁, .status flags))
      (hrun : (internalSystem timerClock).Run hat₁ events hat₂)
      (hreported : Step timerClock hat₂ (.reported status) hat') :
      Exchange timerClock hat request
        (.command request (.status flags) :: (events ++ [.reported status])) (statusReply status)
        hat'

theorem Exchange.run {timerClock : ℕ} {hat hat' : Hat} {request response : Bytes}
    {events : List HatEvent} (h : Exchange timerClock hat request events response hat') :
    (packetSystem timerClock).Run hat events hat' := by
  cases h with
  | frame hidle hcommand => exact .cons ⟨.command hidle hcommand, trivial⟩ (.nil _)
  | read hidle hcommand hrun hreturned =>
      exact .cons ⟨.command hidle hcommand, trivial⟩
        (hrun.of_restrict.append (.cons ⟨hreturned, trivial⟩ (.nil _)))
  | status hidle hcommand hrun hreported =>
      exact .cons ⟨.command hidle hcommand, trivial⟩
        (hrun.of_restrict.append (.cons ⟨hreported, trivial⟩ (.nil _)))

/-! ### What an answer tells -/

/-- The modem took the request of an operation and answered it at once. -/
def AtOnce (q : PortQuery) (events : List HatEvent) : Prop :=
  ∃ request response, q.request = some (.ok request) ∧
    events = [.command request (.frame response)]

/-- The owner's answer to an operation, against what the modem was and has done: it took the
request once, and but for a read and a status nothing else happened. -/
inductive Told (R : Type) (timerClock : ℕ) (hat : Hat) (events : List HatEvent) (hat' : Hat) :
    (q : PortQuery) → Except PyError (PortQuery.Answer R q) → Prop
  | rfStatus {timeout : ℚ} (hsame : hat' = hat) (honce : AtOnce (.rfStatus timeout) events) :
      Told R timerClock hat events hat' (.rfStatus timeout) (.ok hat.rfStatus)
  | rfDiagnostics {timeout : ℚ} (hsame : hat' = hat)
      (honce : AtOnce (.rfDiagnostics timeout) events) :
      Told R timerClock hat events hat' (.rfDiagnostics timeout) (.ok hat.rfDiagnostics)
  | rxRssi {timeout : ℚ} {raw : ℕ} (hactive : hat.ax25AFSKRX.active = true) (hraw : raw < 2 ^ 16)
      (hsame : hat' = hat) (honce : AtOnce (.rxRssi timeout) events) :
      Told R timerClock hat events hat' (.rxRssi timeout) (.ok ⟨raw⟩)
  | noRssi {timeout : ℚ} {e : PyError} (hinactive : hat.ax25AFSKRX.active = false)
      (hsame : hat' = hat) (honce : AtOnce (.rxRssi timeout) events) :
      Told R timerClock hat events hat' (.rxRssi timeout) (.error e)
  | rxStart {timeout : ℚ} (hfree : hat.Free) (hstarted : hat' = hat.started timerClock)
      (honce : AtOnce (.rxStart timeout) events) :
      Told R timerClock hat events hat' (.rxStart timeout) (.ok ())
  | startRefused {timeout : ℚ} {e : PyError} (hbusy : ¬ hat.Free) (hsame : hat' = hat)
      (honce : AtOnce (.rxStart timeout) events) :
      Told R timerClock hat events hat' (.rxStart timeout) (.error e)
  | rxStop {timeout : ℚ} (hstopped : hat' = hat.stopped) (honce : AtOnce (.rxStop timeout) events) :
      Told R timerClock hat events hat' (.rxStop timeout) (.ok ())
  | burst {count : ℕ} {packed : Bytes} {timeout : ℚ} (hfree : hat.Free)
      (hburst : WellFormedBurst count packed) (hloaded : hat' = hat.loaded packed count)
      (honce : AtOnce (.transmitSelectorBurst count packed timeout) events) :
      Told R timerClock hat events hat' (.transmitSelectorBurst count packed timeout) (.ok ())
  | burstRefused {count : ℕ} {packed : Bytes} {timeout : ℚ} {e : PyError} (hbusy : ¬ hat.Free)
      (hsame : hat' = hat) (honce : AtOnce (.transmitSelectorBurst count packed timeout) events) :
      Told R timerClock hat events hat' (.transmitSelectorBurst count packed timeout) (.error e)
  | rxRead {maximum : ℕ} {timeout : ℚ} {request out : Bytes} {inner : List HatEvent} {hat₂ : Hat}
      (hrequest : Protocol.rxReadRequest maximum = .ok request)
      (honce : events = .command request (.read maximum) :: (inner ++ [.returned out]))
      (hinner : (internalSystem timerClock).Run { hat with main := .reading (.begin maximum) }
        inner hat₂)
      (hreturned : Step timerClock hat₂ (.returned out) hat') (hout : out.length ≤ maximum) :
      Told R timerClock hat events hat' (.rxRead maximum timeout) (.ok out)
  | rxStatus {timeout : ℚ} {request : Bytes} {status : CaptureStatus} {inner : List HatEvent}
      {hat₂ : Hat} (hrequest : Protocol.rxStatusRequest = .ok request)
      (honce : events =
        .command request (.status hat.rxFlags) :: (inner ++ [.reported status]))
      (hinner : (internalSystem timerClock).Run
        { hat with main := .reporting ⟨hat.rxFlags, .flags⟩ } inner hat₂)
      (hreported : Step timerClock hat₂ (.reported status) hat')
      (hflags : status.flags = hat.rxFlags) :
      Told R timerClock hat events hat' (.rxStatus timeout) (.ok status.shown)

/-! ### Every answer is told -/

theorem readAccess_maxLength {rx rx' : CAX25AFSKRX} {call call' : ReadCall}
    (h : call.access rx = (rx', .inl call')) : call'.maxLength = call.maxLength := by
  rcases call with ⟨maxLength, out, _ | head | tail | ⟨tail, octet⟩⟩
  all_goals simp only [ReadCall.access] at h
  · split at h <;> cases h
    rfl
  · split at h <;> cases h
    rfl
  · cases h
    rfl
  · cases h
    rfl

theorem statusAccess_flags {rx : CAX25AFSKRX} {call call' : StatusCall}
    (h : call.access rx = .inl call') : call'.flags = call.flags := by
  rcases call with ⟨flags, _ | head | available | ⟨available, samples⟩⟩
  all_goals cases h
  all_goals rfl

/-- A read keeps its length and a status its flags, and neither begins by itself. -/
theorem internal_main {timerClock : ℕ} {hat hat' : Hat} {event : HatEvent}
    (h : (internalSystem timerClock).step hat event hat') :
    (∀ call', hat'.main = .reading call' →
        ∃ call, hat.main = .reading call ∧ call'.maxLength = call.maxLength) ∧
      ∀ call', hat'.main = .reporting call' →
        ∃ call, hat.main = .reporting call ∧ call'.flags = call.flags := by
  obtain ⟨⟨hstep, hstock⟩, hinternal⟩ := h
  cases hstep with
  | command => exact absurd rfl (hinternal _ _)
  | stock => exact hstock.elim
  | @refill space hidle hmode hspace =>
      have hmain : (hat.refilled space).main = .idle ∨
          ∃ rest count wasTX, (hat.refilled space).main = .writing rest count wasTX := by
        unfold refilled
        dsimp only
        split
        · exact .inl rfl
        · exact .inr ⟨_, _, _, rfl⟩
      rcases hmain with hmain | ⟨rest, count, wasTX, hmain⟩
      · rw [hmain]
        exact ⟨nofun, nofun⟩
      · rw [hmain]
        exact ⟨nofun, nofun⟩
  | put | written | returned | reported => exact ⟨nofun, nofun⟩
  | release hidle | clock hidle =>
      exact ⟨fun call h => ⟨call, h, rfl⟩, fun call h => ⟨call, h, rfl⟩⟩
  | tick bit =>
      obtain ⟨-, -, -, hmain, -, -⟩ := sampleTimerInterrupt_frame hat bit
      rw [hmain]
      exact ⟨fun call h => ⟨call, h, rfl⟩, fun call h => ⟨call, h, rfl⟩⟩
  | @readAccess rx' call call' hmain haccess =>
      refine ⟨fun call'' h => ⟨call, hmain, ?_⟩, nofun⟩
      cases h
      exact readAccess_maxLength haccess
  | @statusAccess call call' hmain haccess =>
      refine ⟨nofun, fun call'' h => ⟨call, hmain, ?_⟩⟩
      cases h
      exact statusAccess_flags haccess

theorem internal_run_main {timerClock : ℕ} {hat hat' : Hat} {events : List HatEvent}
    (h : (internalSystem timerClock).Run hat events hat') :
    (∀ call', hat'.main = .reading call' →
        ∃ call, hat.main = .reading call ∧ call'.maxLength = call.maxLength) ∧
      ∀ call', hat'.main = .reporting call' →
        ∃ call, hat.main = .reporting call ∧ call'.flags = call.flags := by
  induction h with
  | nil hat => exact ⟨fun call h => ⟨call, h, rfl⟩, fun call h => ⟨call, h, rfl⟩⟩
  | cons hstep _ ih =>
      obtain ⟨hread, hstatus⟩ := internal_main hstep
      refine ⟨fun call' hmain => ?_, fun call' hmain => ?_⟩
      · obtain ⟨call₁, hmain₁, hlength₁⟩ := ih.1 call' hmain
        obtain ⟨call, hmain₀, hlength⟩ := hread call₁ hmain₁
        exact ⟨call, hmain₀, hlength₁.trans hlength⟩
      · obtain ⟨call₁, hmain₁, hflags₁⟩ := ih.2 call' hmain
        obtain ⟨call, hmain₀, hflags⟩ := hstatus call₁ hmain₁
        exact ⟨call, hmain₀, hflags₁.trans hflags⟩

/-- An answer that is sent at once. -/
theorem Exchange.frame_of {timerClock : ℕ} {hat hat' : Hat} {request response : Bytes}
    {events : List HatEvent} (h : Exchange timerClock hat request events response hat')
    (honce : ∀ rssi, ∃ hat₁ bytes,
      ywdCommand timerClock rssi hat request = some (hat₁, .frame bytes)) :
    events = [.command request (.frame response)] ∧
      ∃ rssi, ywdCommand timerClock rssi hat request = some (hat', .frame response) := by
  cases h with
  | frame hidle hcommand => exact ⟨rfl, _, hcommand⟩
  | @read _ _ _ rssi _ _ _ hidle hcommand =>
      obtain ⟨hat₁, bytes, hframe⟩ := honce rssi
      rw [hcommand] at hframe
      cases hframe
  | @status _ _ _ rssi _ _ _ hidle hcommand =>
      obtain ⟨hat₁, bytes, hframe⟩ := honce rssi
      rw [hcommand] at hframe
      cases hframe

theorem parseRfStatus_reply {flags mode : Byte} {remaining : ℕ} (h : remaining < 2 ^ 16) :
    Protocol.parseRfStatus (replyFrame MMDVM_YWD_RF
      ([YWD_RF_GET_STATUS, 1, flags] ++ littleEndian16 remaining ++ [mode])) =
        .ok ⟨flags.toNat, remaining, mode.toNat⟩ := by
  rw [Protocol.parseRfStatus, show Protocol.YWD_RF = MMDVM_YWD_RF from rfl,
    parseFrame_replyFrame (by simp [littleEndian16])]
  simp only [littleEndian16, List.cons_append, List.nil_append]
  rw [if_neg (by decide), uint16_littleEndian16, Nat.mod_eq_of_lt h]

theorem parseRfDiagnostics_reply {keyups edges samples : ℕ} {txActive : Byte}
    (hedges : edges < 2 ^ 16) (hkeyups : keyups < 2 ^ 8) (hsamples : samples < 2 ^ 16) :
    Protocol.parseRfDiagnostics (replyFrame MMDVM_YWD_RF (YWD_RF_GET_DIAG ::
      littleEndian16 edges ++ BitVec.ofNat 8 keyups :: littleEndian16 samples ++ [txActive])) =
        .ok ⟨edges, keyups, samples, txActive.toNat⟩ := by
  rw [Protocol.parseRfDiagnostics, show Protocol.YWD_RF = MMDVM_YWD_RF from rfl,
    parseFrame_replyFrame (by simp [littleEndian16])]
  simp only [littleEndian16, List.cons_append, List.nil_append]
  rw [if_neg (by decide), uint16_littleEndian16, uint16_littleEndian16,
    Nat.mod_eq_of_lt hedges, Nat.mod_eq_of_lt hsamples, BitVec.toNat_ofNat,
    Nat.mod_eq_of_lt hkeyups]

theorem parseRxRssi_reply (rssi : ℕ) :
    Protocol.parseRxRssi (replyFrame MMDVM_YWD_RX (YWD_RX_RSSI :: littleEndian16 rssi)) =
      .ok ⟨rssi % 2 ^ 16⟩ := by
  rw [Protocol.parseRxRssi, show Protocol.YWD_RX = MMDVM_YWD_RX from rfl,
    parseFrame_replyFrame (by simp [littleEndian16])]
  simp only [littleEndian16]
  rw [if_neg (by decide), uint16_littleEndian16]

theorem parseRxRead_reply {out : Bytes} (h : out.length ≤ YWD_RX_MAX_READ) :
    Protocol.parseRxRead (readReply out) = .ok out := by
  unfold YWD_RX_MAX_READ at h
  rw [Protocol.parseRxRead, show Protocol.YWD_RX = MMDVM_YWD_RX from rfl, readReply,
    parseFrame_replyFrame (by simp; omega)]
  dsimp only
  rw [if_neg (by decide), if_neg]
  rw [not_not, BitVec.toNat_ofNat]
  omega

theorem parseRx3Status_reply {status : CaptureStatus} (havailable : status.available < 2 ^ 16)
    (hdropped : status.droppedBytes < 2 ^ 16) :
    Protocol.parseRx3Status (statusReply status) = .ok status.shown := by
  rw [Protocol.parseRx3Status, show Protocol.YWD_RX = MMDVM_YWD_RX from rfl, statusReply,
    parseFrame_replyFrame (by simp [littleEndian16, littleEndian32])]
  simp only [littleEndian16, littleEndian32, List.cons_append, List.nil_append]
  rw [if_neg (by decide), uint16_littleEndian16, uint16_littleEndian16,
    uint32_littleEndian32, Nat.mod_eq_of_lt havailable, Nat.mod_eq_of_lt hdropped]
  rfl

section Answers

variable {R : Type} {timerClock : ℕ} {hat₀ hat hat' : Hat} {past events : List HatEvent}
  {request response : Bytes}

theorem counters_fit (hinitial : Initial hat₀)
    (hpast : (packetSystem timerClock).Run hat₀ past hat) :
    hat.ax25AFSKTX.remaining < 2 ^ 16 ∧ hat.ax25AFSKTX.keyups < 2 ^ 8 ∧
      hat.ax25AFSKTX.samplesQueued < 2 ^ 16 ∧ hat.ywdAx25SampleEdges < 2 ^ 16 := by
  have haccounts := burst_accounts hinitial hpast
  refine ⟨?_, ?_, ?_, ?_⟩
  · have hmax : hat.ax25AFSKTX.bitCount ≤ CAX25AFSKTX.MAX_SELECTORS :=
      haccounts.playing.bitCount_le
    unfold CAX25AFSKTX.MAX_SELECTORS at hmax
    rw [CAX25AFSKTX.remaining]
    split <;> omega
  · have hkeyups : hat.ax25AFSKTX.keyups = (burstAccount past).keyups := haccounts.keyups_eq
    cases haccounts.keying with
    | before hnone => omega
    | behind hone => omega
  · have hqueued : hat.ax25AFSKTX.samplesQueued + (burstMain hat.main).uncounted =
        ((burstAccount past).put ++ (burstMain hat.main).rest).length := haccounts.queued
    have hle : ((burstAccount past).put ++ (burstMain hat.main).rest).length ≤ 65535 :=
      haccounts.put_length_le
    omega
  · have hedges : hat.ywdAx25SampleEdges = min (burstAccount past).clocks 65535 :=
      haccounts.edges
    omega

theorem halfDuplex_run (hinitial : Initial hat₀)
    (hpast : (packetSystem timerClock).Run hat₀ past hat) : HalfDuplex hat :=
  halfDuplex_reachable ((System.Reachable.initial hinitial).run hpast)

theorem exclusive_run (hinitial : Initial hat₀)
    (hpast : (packetSystem timerClock).Run hat₀ past hat) : Exclusive hat :=
  exclusive_reachable ((System.Reachable.initial hinitial).run hpast).of_restrict

theorem told_rxRssi {timeout : ℚ} (hhalf : HalfDuplex hat) (hexclusive : Exclusive hat)
    (hexchange : Exchange timerClock hat [0xE0, 4, 0x59, 0x05] events response hat') :
    Told R timerClock hat events hat' (.rxRssi timeout) (Protocol.parseRxRssi response) := by
  obtain ⟨honce, rssi, hcommand⟩ :=
    hexchange.frame_of fun rssi => ⟨hat, _, command_rxRssi timerClock rssi hat⟩
  rw [command_rxRssi, Option.some.injEq, Prod.mk.injEq, Reply.frame.injEq] at hcommand
  obtain ⟨rfl, rfl⟩ := hcommand
  by_cases hactive : hat.ax25AFSKRX.active = true
  · obtain ⟨htx, hmode⟩ := hhalf.receiving hactive
    rw [if_pos ⟨hactive, by rw [htx]; decide,
      by rw [CAX25AFSKTX.busy, hexclusive.engine hactive]; decide,
      hmode⟩, parseRxRssi_reply]
    exact .rxRssi hactive (Nat.mod_lt _ (by decide)) rfl ⟨_, _, rfl, honce⟩
  · rw [if_neg fun hon => hactive hon.1]
    obtain ⟨e, he⟩ := parseFrame_nak Protocol.YWD_RX (by decide) MMDVM_YWD_RX 5
    rw [Protocol.parseRxRssi, he]
    exact .noRssi (Bool.not_eq_true _ ▸ hactive) rfl ⟨_, _, rfl, honce⟩

theorem told_rxStart {timeout : ℚ}
    (hexchange : Exchange timerClock hat [0xE0, 4, 0x59, 0x01] events response hat') :
    Told R timerClock hat events hat' (.rxStart timeout)
      (Protocol.parseAck response Protocol.YWD_RX) := by
  by_cases hfree : hat.Free
  · obtain ⟨honce, rssi, hcommand⟩ := hexchange.frame_of fun rssi => ⟨_, _, by
      rw [command_rxStart, if_pos hfree]⟩
    rw [command_rxStart, if_pos hfree, Option.some.injEq, Prod.mk.injEq,
      Reply.frame.injEq] at hcommand
    obtain ⟨rfl, rfl⟩ := hcommand
    rw [show Protocol.YWD_RX = MMDVM_YWD_RX from rfl, parseAck_replyFrame]
    exact .rxStart hfree rfl ⟨_, _, rfl, honce⟩
  · obtain ⟨honce, rssi, hcommand⟩ := hexchange.frame_of fun rssi => ⟨_, _, by
      rw [command_rxStart, if_neg hfree]⟩
    rw [command_rxStart, if_neg hfree, Option.some.injEq, Prod.mk.injEq,
      Reply.frame.injEq] at hcommand
    obtain ⟨rfl, rfl⟩ := hcommand
    obtain ⟨e, he⟩ := parseAck_nak MMDVM_YWD_RX 5 Protocol.YWD_RX
    rw [he]
    exact .startRefused hfree rfl ⟨_, _, rfl, honce⟩

theorem told_burst {count : ℕ} {packed : Bytes} {timeout : ℚ} (hhalf : HalfDuplex hat)
    (hrequest : Protocol.rfTxTonesRequest count packed = .ok request)
    (hexchange : Exchange timerClock hat request events response hat') :
    Told R timerClock hat events hat' (.transmitSelectorBurst count packed timeout)
      (Protocol.parseAck response Protocol.YWD_RF) := by
  by_cases hfree : hat.Free
  · obtain ⟨honce, rssi, hcommand⟩ := hexchange.frame_of fun rssi => ⟨_, _, by
      rw [command_burst hhalf hrequest, if_pos hfree]⟩
    rw [command_burst hhalf hrequest, if_pos hfree, Option.some.injEq, Prod.mk.injEq,
      Reply.frame.injEq] at hcommand
    obtain ⟨rfl, rfl⟩ := hcommand
    rw [show Protocol.YWD_RF = MMDVM_YWD_RF from rfl, parseAck_replyFrame]
    exact .burst hfree (rfTxTonesRequest_octets hrequest).1 rfl
      ⟨_, _, congrArg some hrequest, honce⟩
  · obtain ⟨honce, rssi, hcommand⟩ := hexchange.frame_of fun rssi => ⟨_, _, by
      rw [command_burst hhalf hrequest, if_neg hfree]⟩
    rw [command_burst hhalf hrequest, if_neg hfree, Option.some.injEq, Prod.mk.injEq,
      Reply.frame.injEq] at hcommand
    obtain ⟨rfl, rfl⟩ := hcommand
    obtain ⟨e, he⟩ := parseAck_nak MMDVM_YWD_RF 5 Protocol.YWD_RF
    rw [he]
    exact .burstRefused hfree rfl ⟨_, _, congrArg some hrequest, honce⟩

/-- A read that the modem has answered. -/
theorem rxRead_exchanged {maximum : ℕ} (hinitial : Initial hat₀)
    (hpast : (packetSystem timerClock).Run hat₀ past hat)
    (hrequest : Protocol.rxReadRequest maximum = .ok request)
    (hexchange : Exchange timerClock hat request events response hat') :
    ∃ inner out hat₂, events = .command request (.read maximum) :: (inner ++ [.returned out]) ∧
      (internalSystem timerClock).Run { hat with main := .reading (.begin maximum) } inner hat₂ ∧
      Step timerClock hat₂ (.returned out) hat' ∧ out.length ≤ maximum ∧
      Protocol.parseRxRead response = .ok out := by
  unfold Protocol.rxReadRequest at hrequest
  split at hrequest
  · cases hrequest
  case isFalse hrange =>
    obtain ⟨hpos, hmax⟩ := not_not.mp hrange
    obtain rfl : request = [0xE0, 5, 0x59, 0x02, BitVec.ofNat 8 maximum] :=
      (Except.ok.inj hrequest).symm
    cases hexchange with
    | frame hidle hcommand =>
        rw [command_rxRead _ _ _ hpos hmax] at hcommand
        cases hcommand
    | status hidle hcommand =>
        rw [command_rxRead _ _ _ hpos hmax] at hcommand
        cases hcommand
    | @read hat₁ hat₂ _ rssi maxLength inner out hidle hcommand hrun hreturned =>
        have hbefore : (packetSystem timerClock).Run hat₀ (past ++ .command _ _ :: _) hat₂ :=
          hpast.append (.cons ⟨.command hidle hcommand, trivial⟩ hrun.of_restrict)
        have hkeeps := Capture.keeps_run (capture_run hinitial hbefore)
        rw [command_rxRead _ _ _ hpos hmax, Option.some.injEq, Prod.mk.injEq] at hcommand
        obtain ⟨rfl, hreply⟩ := hcommand
        cases hreply
        have hstep := hreturned
        cases hreturned with
        | returned hmain haccess =>
            obtain ⟨call₀, hcall₀, hlength⟩ := (internal_run_main hrun).1 _ hmain
            cases hcall₀
            unfold captureState at hkeeps
            rw [hmain] at hkeeps
            have hout := hkeeps.returned haccess
            rw [← hkeeps.2.1, hlength] at hout
            exact ⟨inner, out, hat₂, rfl, hrun, hstep, hout.2,
              parseRxRead_reply (le_trans hout.2 hmax)⟩

theorem told_rxRead {maximum : ℕ} {timeout : ℚ} (hinitial : Initial hat₀)
    (hpast : (packetSystem timerClock).Run hat₀ past hat)
    (hrequest : Protocol.rxReadRequest maximum = .ok request)
    (hexchange : Exchange timerClock hat request events response hat') :
    Told R timerClock hat events hat' (.rxRead maximum timeout)
      (Protocol.parseRxRead response) := by
  obtain ⟨inner, out, hat₂, honce, hinner, hreturned, hout, hparse⟩ :=
    rxRead_exchanged hinitial hpast hrequest hexchange
  rw [hparse]
  exact .rxRead hrequest honce hinner hreturned hout

theorem statusReturn {rx : CAX25AFSKRX} {call : StatusCall} {status : CaptureStatus}
    (h : call.access rx = .inr status) :
    status.flags = call.flags ∧ status.droppedBytes = rx.droppedBytes := by
  rcases call with ⟨flags, _ | head | available | ⟨available, samples⟩⟩
  · cases h
  · cases h
  · cases h
  · cases h
    exact ⟨rfl, rfl⟩

/-- A report that the modem has answered. -/
theorem rxStatus_exchanged (hinitial : Initial hat₀)
    (hpast : (packetSystem timerClock).Run hat₀ past hat)
    (hexchange : Exchange timerClock hat [0xE0, 4, 0x59, 0x04] events response hat') :
    ∃ inner status hat₂,
      events =
        .command [0xE0, 4, 0x59, 0x04] (.status hat.rxFlags) :: (inner ++ [.reported status]) ∧
      (internalSystem timerClock).Run { hat with main := .reporting ⟨hat.rxFlags, .flags⟩ } inner
        hat₂ ∧
      Step timerClock hat₂ (.reported status) hat' ∧ status.flags = hat.rxFlags ∧
      Protocol.parseRx3Status response = .ok status.shown := by
  cases hexchange with
  | frame hidle hcommand =>
      rw [command_rxStatus] at hcommand
      cases hcommand
  | read hidle hcommand =>
      rw [command_rxStatus] at hcommand
      cases hcommand
  | @status hat₁ hat₂ _ rssi flags inner status hidle hcommand hrun hreported =>
      have hbefore : (packetSystem timerClock).Run hat₀ (past ++ .command _ _ :: _) hat₂ :=
        hpast.append (.cons ⟨.command hidle hcommand, trivial⟩ hrun.of_restrict)
      have hkeeps := Capture.keeps_run (capture_run hinitial hbefore)
      obtain ⟨octets, pending, lost, hpacked⟩ :=
        (Capture.accounts_run (capture_run hinitial hbefore)).packed
      rw [command_rxStatus, Option.some.injEq, Prod.mk.injEq] at hcommand
      obtain ⟨rfl, hreply⟩ := hcommand
      cases hreply
      have hstep := hreported
      cases hreported with
      | reported hmain haccess =>
          obtain ⟨call₀, hcall₀, hflags⟩ := (internal_run_main hrun).2 _ hmain
          cases hcall₀
          obtain ⟨hshown, hdropped⟩ := statusReturn haccess
          unfold captureState at hkeeps
          rw [hmain] at hkeeps
          have havailable := hkeeps.reported haccess
          have hcount := SpscRing.count_lt hat₂.ax25AFSKRX.buffer
          have hlost : hat₂.ax25AFSKRX.droppedBytes = min lost 65535 := hpacked.dropped
          exact ⟨inner, status, hat₂, rfl, hrun, hstep, hshown.trans hflags,
            parseRx3Status_reply (by omega) (by omega)⟩

theorem told_rxStatus {timeout : ℚ} (hinitial : Initial hat₀)
    (hpast : (packetSystem timerClock).Run hat₀ past hat)
    (hexchange : Exchange timerClock hat [0xE0, 4, 0x59, 0x04] events response hat') :
    Told R timerClock hat events hat' (.rxStatus timeout)
      (Protocol.parseRx3Status response) := by
  obtain ⟨inner, status, hat₂, honce, hinner, hreported, hflags, hparse⟩ :=
    rxStatus_exchanged hinitial hpast hexchange
  rw [hparse]
  exact .rxStatus rfl honce hinner hreported hflags

theorem octet_built {command : Byte} {payload : Bytes}
    (h : Protocol.buildFrame command payload = .ok request) : octet request 2 = command := by
  unfold Protocol.buildFrame at h
  dsimp only at h
  split at h
  · cases h
  · cases h
    rfl

/-- A frame that no case of the packet modem takes. -/
theorem not_exchange {command : Byte} {payload : Bytes}
    (hrequest : Protocol.buildFrame command payload = .ok request)
    (hother : command ∉ [MMDVM_YWD_CONTROL, MMDVM_YWD_DATA, MMDVM_YWD_RF, MMDVM_YWD_RX]) :
    ¬ Exchange timerClock hat request events response hat' := by
  simp only [List.mem_cons, List.not_mem_nil, or_false, not_or] at hother
  have hnone : ∀ rssi, ywdCommand timerClock rssi hat request = none := by
    intro rssi
    rw [ywdCommand, octet_built hrequest, if_neg hother.1, if_neg hother.2.1, if_neg hother.2.2.1,
      if_neg hother.2.2.2]
  rintro (⟨hidle, hcommand⟩ | ⟨hidle, hcommand⟩ | ⟨hidle, hcommand⟩)
  all_goals
    rw [hnone] at hcommand
    cases hcommand

/-- However the interrupts fall between the accesses of an answer: whenever the modem answers an
operation of the owner, the value or the exception that the owner makes of the reply is what the
modem was and has done. -/
theorem told_of_exchange (hinitial : Initial hat₀)
    (hpast : (packetSystem timerClock).Run hat₀ past hat) {q : PortQuery}
    (hrequest : q.request = some (.ok request))
    (hexchange : Exchange timerClock hat request events response hat') :
    Told R timerClock hat events hat' q (q.parseResponse R response) := by
  have hhalf := halfDuplex_run hinitial hpast
  have hexclusive := exclusive_run hinitial hpast
  obtain ⟨hremaining, hkeyups, hsamples, hedges⟩ := counters_fit hinitial hpast
  cases q with
  | getVersion | armRxModemIo =>
      exact absurd hexchange (not_exchange (Option.some.inj hrequest) (by decide))
  | setRxFrequency frequencyHz timeout =>
      obtain ⟨payload, hbuilt, -⟩ := setRxFrequencyRequest_payload (Option.some.inj hrequest)
      exact absurd hexchange (not_exchange hbuilt (by decide))
  | applyTxProfile frequencyHz power timeout =>
      obtain ⟨-, payload, hbuilt, -⟩ := buildTxProfileRequest_payload (Option.some.inj hrequest)
      exact absurd hexchange (not_exchange hbuilt (by decide))
  | rxRead maximum timeout =>
      exact told_rxRead hinitial hpast (Option.some.inj hrequest) hexchange
  | rxRssi timeout =>
      obtain rfl : request = [0xE0, 4, 0x59, 0x05] := request_unique hrequest rfl
      exact told_rxRssi hhalf hexclusive hexchange
  | rxStatus timeout =>
      obtain rfl : request = [0xE0, 4, 0x59, 0x04] := request_unique hrequest rfl
      exact told_rxStatus hinitial hpast hexchange
  | rxStop timeout =>
      obtain rfl : request = [0xE0, 4, 0x59, 0x03] := request_unique hrequest rfl
      obtain ⟨honce, rssi, hcommand⟩ :=
        hexchange.frame_of fun rssi => ⟨_, _, command_rxStop _ rssi hat⟩
      rw [command_rxStop, Option.some.injEq, Prod.mk.injEq, Reply.frame.injEq] at hcommand
      obtain ⟨rfl, rfl⟩ := hcommand
      rw [PortQuery.parseResponse, show Protocol.YWD_RX = MMDVM_YWD_RX from rfl,
        parseAck_replyFrame]
      exact .rxStop rfl ⟨_, _, rfl, honce⟩
  | rxStart timeout =>
      obtain rfl : request = [0xE0, 4, 0x59, 0x01] := request_unique hrequest rfl
      exact told_rxStart hexchange
  | rfStatus timeout =>
      obtain rfl : request = [0xE0, 4, 0x58, 0x01] := request_unique hrequest rfl
      obtain ⟨honce, rssi, hcommand⟩ :=
        hexchange.frame_of fun rssi => ⟨_, _, command_rfStatus timerClock rssi hat⟩
      rw [command_rfStatus, Option.some.injEq, Prod.mk.injEq, Reply.frame.injEq] at hcommand
      obtain ⟨rfl, rfl⟩ := hcommand
      rw [PortQuery.parseResponse, parseRfStatus_reply hremaining]
      exact .rfStatus rfl ⟨_, _, rfl, honce⟩
  | rfDiagnostics timeout =>
      obtain rfl : request = [0xE0, 4, 0x58, 0x05] := request_unique hrequest rfl
      obtain ⟨honce, rssi, hcommand⟩ :=
        hexchange.frame_of fun rssi => ⟨_, _, command_rfDiagnostics timerClock rssi hat⟩
      rw [command_rfDiagnostics, Option.some.injEq, Prod.mk.injEq, Reply.frame.injEq] at hcommand
      obtain ⟨rfl, rfl⟩ := hcommand
      have hactive : (if hat.tx then (1 : Byte) else 0).toNat = (if hat.tx then 1 else 0) := by
        split <;> rfl
      rw [PortQuery.parseResponse, parseRfDiagnostics_reply hedges hkeyups hsamples, hactive]
      exact .rfDiagnostics rfl ⟨_, _, rfl, honce⟩
  | transmitSelectorBurst count packed timeout =>
      exact told_burst hhalf (Option.some.inj hrequest) hexchange
  | submitFrame | monotonic | sleep => cases hrequest

end Answers

end Hat

end YwdTnc
