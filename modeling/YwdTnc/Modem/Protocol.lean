import YwdTnc.Modem.Port

/-!
# The host protocol of the modem

Encoding and decoding of the MMDVM host frames, without any device I/O: a start
octet, one octet for the length of the whole frame, a command and its payload.
The requests are those of the YWD firmware; `Port` lists the operations of the
modem owner that send them.
-/

namespace YwdTnc

namespace Protocol

def START : Byte := 0xE0
def GET_VERSION : Byte := 0x00
def SET_CONFIG : Byte := 0x02
def SET_FREQ : Byte := 0x04
def ACK : Byte := 0x70
def YWD_RF : Byte := 0x58
def YWD_RX : Byte := 0x59

def RF_GET_STATUS : Byte := 0x01
def RF_TX_TONES : Byte := 0x02
def RF_GET_DIAG : Byte := 0x05

def RX_START : Byte := 0x01
def RX_READ : Byte := 0x02
def RX_STOP : Byte := 0x03
def RX_STATUS : Byte := 0x04
def RX_RSSI : Byte := 0x05

def MAX_FRAME_BYTES : ℕ := 255
def MAX_RX_READ_BYTES : ℕ := 200

structure Frame where
  command : Byte
  payload : Bytes
  deriving DecidableEq

/-- `lo | hi << 8`. -/
def uint16 (lo hi : Byte) : ℕ := lo.toNat ||| hi.toNat <<< 8

/-- The two octets of a count, the low one first. -/
def uint16Bytes (n : ℕ) : Bytes := [BitVec.ofNat 8 (n &&& 0xFF), BitVec.ofNat 8 (n >>> 8 &&& 0xFF)]

/-- `build_frame`; the length octet counts all octets of the frame. -/
def buildFrame (command : Byte) (payload : Bytes) : Except PyError Bytes :=
  let total := 3 + payload.length
  if MAX_FRAME_BYTES < total then
    .error (.valueError "MMDVM host frame exceeds one-byte length field")
  else .ok (START :: BitVec.ofNat 8 total :: command :: payload)

def parseFrame (data : Bytes) (expectedCommand : Option Byte) : Except PyError Frame :=
  match data with
  | start :: declared :: command :: payload =>
      if start ≠ START then .error (.valueError "invalid MMDVM frame start byte")
      else if declared.toNat < 3 then .error (.valueError "invalid MMDVM frame length")
      else if declared.toNat ≠ data.length then
        .error (.valueError ("MMDVM frame length mismatch: declared=" ++
          toString declared.toNat ++ " actual=" ++ toString data.length))
      else
        match expectedCommand with
        | none => .ok { command, payload }
        | some expected =>
            if command ≠ expected then
              .error (.valueError ("unexpected MMDVM response command 0x" ++
                hex02 command.toNat ++ "; expected 0x" ++ hex02 expected.toNat))
            else .ok { command, payload }
  | _ => .error (.valueError "truncated MMDVM host frame")

def getVersionRequest : Except PyError Bytes := buildFrame GET_VERSION []

def rfStatusRequest : Except PyError Bytes := buildFrame YWD_RF [RF_GET_STATUS]

def rfDiagRequest : Except PyError Bytes := buildFrame YWD_RF [RF_GET_DIAG]

/-- The request that keys the transmitter with a packed selector burst. -/
def rfTxTonesRequest (selectorCount : ℕ) (packedSelectors : Bytes) : Except PyError Bytes :=
  if ¬ (1 ≤ selectorCount ∧ selectorCount ≤ MAX_SELECTORS) then
    .error (.valueError ("selector_count must be 1.." ++ toString MAX_SELECTORS))
  else if packedSelectors.length ≠ (selectorCount + 7) / 8 then
    .error (.valueError ("packed selector length mismatch: expected=" ++
      toString ((selectorCount + 7) / 8) ++ " actual=" ++ toString packedSelectors.length))
  else buildFrame YWD_RF (RF_TX_TONES :: uint16Bytes selectorCount ++ packedSelectors)

def rxStartRequest : Except PyError Bytes := buildFrame YWD_RX [RX_START]

def rxStopRequest : Except PyError Bytes := buildFrame YWD_RX [RX_STOP]

def rxStatusRequest : Except PyError Bytes := buildFrame YWD_RX [RX_STATUS]

def rxRssiRequest : Except PyError Bytes := buildFrame YWD_RX [RX_RSSI]

def rxReadRequest (maximum : ℕ) : Except PyError Bytes :=
  if ¬ (1 ≤ maximum ∧ maximum ≤ MAX_RX_READ_BYTES) then
    .error (.valueError ("maximum RX read must be 1.." ++ toString MAX_RX_READ_BYTES))
  else buildFrame YWD_RX [RX_READ, BitVec.ofNat 8 maximum]

/-- The RSSI magnitude of a response, as the modem's uint16. -/
def parseRxRssi (data : Bytes) : Except PyError RXRSSI :=
  match parseFrame data (some YWD_RX) with
  | .error e => .error e
  | .ok frame =>
      match frame.payload with
      | [subcommand, lo, hi] =>
          if subcommand ≠ RX_RSSI then
            .error (.valueError "malformed YWD_RX/RSSI response")
          else .ok { rawMagnitude := uint16 lo hi }
      | _ => .error (.valueError "malformed YWD_RX/RSSI response")

/-! ### Round trips -/

theorem buildFrame_ok {command : Byte} {payload : Bytes} (h : payload.length ≤ 252) :
    buildFrame command payload =
      .ok (START :: BitVec.ofNat 8 (3 + payload.length) :: command :: payload) := by
  have hfits : ¬ MAX_FRAME_BYTES < 3 + payload.length := by
    unfold MAX_FRAME_BYTES
    omega
  rw [buildFrame, if_neg hfits]

/-- A frame that can be built is read back whole, by a reader that expects its
command or none. -/
theorem parseFrame_buildFrame {command : Byte} {payload data : Bytes}
    (h : buildFrame command payload = .ok data) (expected : Option Byte)
    (hexpected : ∀ e, expected = some e → e = command) :
    parseFrame data expected = .ok { command, payload } ∧ data.length ≤ MAX_FRAME_BYTES := by
  unfold buildFrame at h
  by_cases hlong : MAX_FRAME_BYTES < 3 + payload.length
  · simp only [hlong, if_true] at h
    cases h
  simp only [hlong, if_false] at h
  cases h
  unfold MAX_FRAME_BYTES at hlong
  have hdeclared : (BitVec.ofNat 8 (3 + payload.length)).toNat = 3 + payload.length := by
    rw [BitVec.toNat_ofNat]
    omega
  have hlength : (START :: BitVec.ofNat 8 (3 + payload.length) :: command :: payload).length =
      3 + payload.length := by
    simp only [List.length_cons]
    omega
  refine ⟨?_, by rw [hlength, MAX_FRAME_BYTES]; omega⟩
  have hshort : ¬ 3 + payload.length < 3 := by omega
  unfold parseFrame
  simp only [ne_eq, not_true_eq_false, if_false, hdeclared, hshort, hlength]
  cases expected with
  | none => rfl
  | some e =>
      have he : e = command := hexpected e rfl
      subst he
      simp only [not_true_eq_false, if_false]

theorem uint16_lt (lo hi : Byte) : uint16 lo hi < 2 ^ 16 := by
  have hlo : lo.toNat < 2 ^ 16 := lt_trans lo.isLt (by decide)
  have hhi : hi.toNat <<< 8 < 2 ^ 16 := by
    rw [Nat.shiftLeft_eq]
    have := hi.isLt
    omega
  exact Nat.or_lt_two_pow hlo hhi

/-- A count is read back from its two octets. -/
theorem uint16_uint16Bytes {n : ℕ} (h : n < 2 ^ 16) :
    ∃ lo hi, uint16Bytes n = [lo, hi] ∧ uint16 lo hi = n := by
  refine ⟨_, _, rfl, ?_⟩
  have hlo : (BitVec.ofNat 8 (n &&& 0xFF)).toNat = n % 2 ^ 8 := by
    rw [BitVec.toNat_ofNat, show (0xFF : ℕ) = 2 ^ 8 - 1 from rfl, Nat.and_two_pow_sub_one_eq_mod]
    omega
  have hhi : (BitVec.ofNat 8 (n >>> 8 &&& 0xFF)).toNat = n / 2 ^ 8 := by
    rw [BitVec.toNat_ofNat, show (0xFF : ℕ) = 2 ^ 8 - 1 from rfl, Nat.and_two_pow_sub_one_eq_mod,
      Nat.shiftRight_eq_div_pow]
    omega
  rw [uint16, hlo, hhi, Nat.or_comm, ← Nat.shiftLeft_add_eq_or_of_lt (Nat.mod_lt n (by decide)),
    Nat.shiftLeft_eq]
  omega

/-- A reading that can be parsed is the uint16 of the response's last octets. -/
theorem parseRxRssi_lt {data : Bytes} {rssi : RXRSSI} (h : parseRxRssi data = .ok rssi) :
    rssi.rawMagnitude < 2 ^ 16 := by
  unfold parseRxRssi at h
  split at h
  · cases h
  · split at h
    · split at h
      · cases h
      · cases h
        exact uint16_lt _ _
    · cases h

/-- The tone request of a burst of at most `MAX_SELECTORS` selectors. -/
theorem rfTxTonesRequest_ok {selectorCount : ℕ} {packed : Bytes} (hpos : 1 ≤ selectorCount)
    (hmax : selectorCount ≤ MAX_SELECTORS) (hlength : packed.length = (selectorCount + 7) / 8) :
    ∃ data, rfTxTonesRequest selectorCount packed = .ok data ∧
      buildFrame YWD_RF (RF_TX_TONES :: uint16Bytes selectorCount ++ packed) = .ok data := by
  rw [rfTxTonesRequest, if_neg (not_not.mpr ⟨hpos, hmax⟩), if_neg (not_not.mpr hlength)]
  have hbound : (RF_TX_TONES :: uint16Bytes selectorCount ++ packed).length ≤ 252 := by
    unfold MAX_SELECTORS at hmax
    simp only [List.length_cons, List.length_append, uint16Bytes, List.length_nil, hlength]
    omega
  exact ⟨_, buildFrame_ok hbound, buildFrame_ok hbound⟩

end Protocol

end YwdTnc
