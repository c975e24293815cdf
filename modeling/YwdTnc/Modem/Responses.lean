import YwdTnc.Product.RfProfiles

/-!
# The responses of the modem

What the owner makes of the answer to a request: an acknowledgement of the expected command,
or the fields of a typed response. `PortQuery.parseResponse` is what its `_dispatch` does with
the response of a transport.
-/

namespace YwdTnc

namespace Protocol

def RX_PROTOCOL_REVISION : Byte := 3

def parseAck (data : Bytes) (expectedCommand : Byte) : Except PyError Unit :=
  match parseFrame data (some ACK) with
  | .error e => .error e
  | .ok frame =>
      if frame.payload ≠ [expectedCommand] then
        .error (.valueError "ACK does not match the expected command")
      else .ok ()

/-- The ASCII characters that `str.strip` removes. -/
def isAsciiSpace (byte : Byte) : Bool :=
  9 ≤ byte.toNat && byte.toNat ≤ 13 || 28 ≤ byte.toNat && byte.toNat ≤ 32

/-- `raw.decode("ascii", "strict")`. -/
def decodeAscii (raw : Bytes) : Except PyError Bytes :=
  match raw.findIdx? fun byte => 128 ≤ byte.toNat with
  | none => .ok raw
  | some index => .error ⟨.other "UnicodeDecodeError", "'ascii' codec can't decode byte 0x" ++
      hex02Lower (raw.getD index 0).toNat ++ " in position " ++ toString index ++
      ": ordinal not in range(128)"⟩

def parseVersionResponse (data : Bytes) : Except PyError VersionResponse :=
  match parseFrame data (some GET_VERSION) with
  | .error e => .error e
  | .ok frame =>
      match frame.payload with
      | protocolVersion :: second :: rest =>
          match decodeAscii ((second :: rest).takeWhile (· ≠ 0)) with
          | .error e => .error e
          | .ok raw =>
              let identity := ((raw.dropWhile isAsciiSpace).reverse.dropWhile isAsciiSpace).reverse
              if identity = [] then
                .error (.valueError "GET_VERSION response identity is empty")
              else .ok ⟨protocolVersion.toNat,
                String.ofList (identity.map fun byte => Char.ofNat byte.toNat)⟩
      | _ => .error (.valueError "GET_VERSION response is missing protocol/identity data")

def parseRfStatus (data : Bytes) : Except PyError RFStatus :=
  match parseFrame data (some YWD_RF) with
  | .error e => .error e
  | .ok frame =>
      match frame.payload with
      | [subcommand, revision, flags, lo, hi, mode] =>
          if [subcommand, revision] ≠ [RF_GET_STATUS, 1] then
            .error (.valueError "malformed YWD_RF/GET_STATUS response")
          else .ok ⟨flags.toNat, uint16 lo hi, mode.toNat⟩
      | _ => .error (.valueError "malformed YWD_RF/GET_STATUS response")

def parseRfDiagnostics (data : Bytes) : Except PyError RFDiagnostics :=
  match parseFrame data (some YWD_RF) with
  | .error e => .error e
  | .ok frame =>
      match frame.payload with
      | [subcommand, edgesLo, edgesHi, keyups, samplesLo, samplesHi, txActive] =>
          if subcommand ≠ RF_GET_DIAG then
            .error (.valueError "malformed YWD_RF/GET_DIAG response")
          else .ok ⟨uint16 edgesLo edgesHi, keyups.toNat, uint16 samplesLo samplesHi,
            txActive.toNat⟩
      | _ => .error (.valueError "malformed YWD_RF/GET_DIAG response")

/-- The four octets of a count, the low one first. -/
def uint32 (b₀ b₁ b₂ b₃ : Byte) : ℕ :=
  b₀.toNat ||| b₁.toNat <<< 8 ||| b₂.toNat <<< 16 ||| b₃.toNat <<< 24

def parseRx3Status (data : Bytes) : Except PyError RX3Status :=
  match parseFrame data (some YWD_RX) with
  | .error e => .error e
  | .ok frame =>
      match frame.payload with
      | [subcommand, revision, flags, availableLo, availableHi, s₀, s₁, s₂, s₃, droppedLo,
          droppedHi] =>
          if [subcommand, revision] ≠ [RX_STATUS, RX_PROTOCOL_REVISION] then
            .error (.valueError "malformed YWD_RX/STATUS revision-3 response")
          else .ok ⟨flags.toNat, uint16 availableLo availableHi, uint32 s₀ s₁ s₂ s₃,
            uint16 droppedLo droppedHi⟩
      | _ => .error (.valueError "malformed YWD_RX/STATUS revision-3 response")

def parseRxRead (data : Bytes) : Except PyError Bytes :=
  match parseFrame data (some YWD_RX) with
  | .error e => .error e
  | .ok frame =>
      match frame.payload with
      | subcommand :: count :: payload =>
          if subcommand ≠ RX_READ then .error (.valueError "malformed YWD_RX/READ response")
          else if count.toNat ≠ payload.length then
            .error (.valueError ("YWD_RX/READ byte-count mismatch: declared=" ++
              toString count.toNat ++ " actual=" ++ toString payload.length))
          else .ok payload
      | _ => .error (.valueError "malformed YWD_RX/READ response")

/-- A frame of the expected command is one of any command. -/
theorem parseFrame_some_ok {data : Bytes} {expected : Byte} {frame : Frame}
    (h : parseFrame data (some expected) = .ok frame) :
    parseFrame data none = .ok frame ∧ frame.command = expected := by
  unfold parseFrame at h ⊢
  split at h
  · dsimp only at h ⊢
    split_ifs at h ⊢ with hstart hshort hlength hcommand
    cases h
    exact ⟨rfl, not_not.mp hcommand⟩
  · cases h

/-! ### Numbers that are read back -/

theorem octets_or_shiftLeft (lo : Byte) (rest : ℕ) :
    lo.toNat ||| rest <<< 8 = lo.toNat + 256 * rest := by
  rw [Nat.or_comm, ← Nat.shiftLeft_add_eq_or_of_lt lo.isLt, Nat.shiftLeft_eq]
  omega

theorem uint16_eq (lo hi : Byte) : uint16 lo hi = lo.toNat + 256 * hi.toNat :=
  octets_or_shiftLeft lo hi.toNat

theorem uint32_eq (b₀ b₁ b₂ b₃ : Byte) :
    uint32 b₀ b₁ b₂ b₃ =
      b₀.toNat + 256 * (b₁.toNat + 256 * (b₂.toNat + 256 * b₃.toNat)) := by
  have hnested : uint32 b₀ b₁ b₂ b₃ =
      b₀.toNat ||| (b₁.toNat ||| (b₂.toNat ||| b₃.toNat <<< 8) <<< 8) <<< 8 := by
    rw [uint32, Nat.shiftLeft_or_distrib, Nat.shiftLeft_or_distrib, Nat.shiftLeft_or_distrib,
      ← Nat.shiftLeft_add, ← Nat.shiftLeft_add, ← Nat.shiftLeft_add, Nat.or_assoc, Nat.or_assoc]
  rw [hnested, octets_or_shiftLeft, octets_or_shiftLeft, octets_or_shiftLeft]

end Protocol

open Protocol

/-- What `_dispatch` makes of the response of a query that has a request. -/
def PortQuery.parseResponse (R : Type) :
    (q : PortQuery) → Bytes → Except PyError (PortQuery.Answer R q)
  | .getVersion _, response => parseVersionResponse response
  | .setRxFrequency _ _, response => parseAck response SET_FREQ
  | .applyTxProfile _ _ _, response => parseAck response SET_FREQ
  | .armRxModemIo _, response => parseAck response SET_CONFIG
  | .rxRead _ _, response => parseRxRead response
  | .rxRssi _, response => parseRxRssi response
  | .rxStatus _, response => parseRx3Status response
  | .rxStop _, response => parseAck response YWD_RX
  | .rxStart _, response => parseAck response YWD_RX
  | .rfStatus _, response => parseRfStatus response
  | .rfDiagnostics _, response => parseRfDiagnostics response
  | .transmitSelectorBurst _ _ _, response => parseAck response YWD_RF
  | .submitFrame _ _, _ | .monotonic, _ | .sleep _, _ =>
      .error ⟨.runtimeError, "unsupported owner operation"⟩

end YwdTnc
