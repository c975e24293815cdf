import YwdTnc.Basic

/-!
# The AX.25 codec

Addresses, the frame check sequence and the parser of one-octet-control
modulo-8 frames, as the host service uses them. A frame body carries no FCS on
the KISS side; `appendFcs` adds it once, on admission.
-/

namespace YwdTnc

def AX25_UI : Byte := 0x03

/-- One callsign/SSID address with its C/H flag. -/
structure Address where
  callsign : String
  ssid : ℕ
  flag : Bool
  deriving DecidableEq, Repr

/-! ### Frame check sequence -/

/-- One of the eight shifts of `crc_x25` for an octet. -/
def crcShift (crc : BitVec 16) : BitVec 16 :=
  if crc.getLsbD 0 then (crc >>> 1) ^^^ 0x8408 else crc >>> 1

def crcByte (crc : BitVec 16) (byte : Byte) : BitVec 16 :=
  Nat.repeat crcShift 8 (crc ^^^ byte.setWidth 16)

/-- The AX.25 FCS value (CRC-16/X-25) of `data`. -/
def crcX25 (data : Bytes) : BitVec 16 :=
  data.foldl crcByte 0xFFFF ^^^ 0xFFFF

def appendFcs (data : Bytes) : Bytes :=
  data ++ [(crcX25 data).setWidth 8, (crcX25 data >>> 8).setWidth 8]

/-- Whether the last two octets are the little-endian FCS of the others. -/
def verifyFcs (frame : Bytes) : Bool :=
  if frame.length < 2 then false
  else
    match frame.drop (frame.length - 2) with
    | [low, high] =>
        crcX25 (frame.take (frame.length - 2)) =
          high.setWidth 16 <<< 8 ||| low.setWidth 16
    | _ => false

theorem appendFcs_length (data : Bytes) :
    (appendFcs data).length = data.length + 2 := by
  simp [appendFcs]

/-- The frame that `appendFcs` builds passes the check. -/
theorem verifyFcs_appendFcs (data : Bytes) : verifyFcs (appendFcs data) = true := by
  have hbytes : ∀ crc : BitVec 16,
      crc = (BitVec.setWidth 8 (crc >>> 8)).setWidth 16 <<< 8 |||
        (BitVec.setWidth 8 crc).setWidth 16 := by
    intro crc
    apply BitVec.eq_of_getLsbD_eq
    intro i hi
    by_cases hlow : i < 8
    · simp [BitVec.getLsbD_setWidth, hi, hlow]
    · have hi' : i - 8 < 8 := by omega
      have hsum : 8 + (i - 8) = i := by omega
      simp [BitVec.getLsbD_setWidth, hi, hlow, hi', hsum]
  have hlen : (appendFcs data).length - 2 = data.length := by
    rw [appendFcs_length]
    omega
  unfold verifyFcs
  rw [if_neg (by rw [appendFcs_length]; omega), hlen]
  simp only [appendFcs, List.drop_left', List.take_left', decide_eq_true_iff]
  exact hbytes _

/-! ### Addresses -/

/-- `str.rstrip` on the characters of a callsign field, which are letters,
digits and spaces. -/
def rstrip (chars : List Char) : List Char :=
  (chars.reverse.dropWhile (· = ' ')).reverse

/-- The character check of `decode_address`, with its `seen_space` flag. -/
def callsignChars : List Char → Bool → Bool
  | [], _ => true
  | char :: chars, seenSpace =>
      if char = ' ' then callsignChars chars true
      else if seenSpace || !char.isAlphanum || char.toUpper ≠ char then false
      else callsignChars chars seenSpace

/-- Decode one seven-octet address field to the address and its `last` bit. -/
def decodeAddress (field : Bytes) : Except PyError (Address × Bool) :=
  match field with
  | [b₀, b₁, b₂, b₃, b₄, b₅, b₆] =>
      let shifted := [b₀, b₁, b₂, b₃, b₄, b₅]
      if shifted.any (fun byte => byte.getLsbD 0) then
        .error (.valueError "invalid AX.25 shifted callsign field")
      else if b₆ &&& 0x60 ≠ 0x60 then
        .error (.valueError "invalid AX.25 SSID reserved bits")
      else
        let chars := shifted.map fun byte : Byte => Char.ofNat (byte >>> 1 &&& 0x7F).toNat
        if ¬ callsignChars chars false then
          .error (.valueError "invalid AX.25 callsign characters")
        else
          let callsign := rstrip chars
          if callsign = [] then .error (.valueError "empty AX.25 callsign")
          else
            .ok
              (⟨String.ofList callsign, (b₆ >>> 1 &&& 0x0F).toNat, b₆.getLsbD 7⟩,
                b₆.getLsbD 0)
  | _ => .error (.valueError "AX.25 address field must be seven bytes")

/-- The loop of `_decode_addresses`, on what is left of the data. -/
def decodeAddressesFrom (addresses : List Address) (offset : ℕ) :
    Bytes → Except PyError (List Address × ℕ)
  | b₀ :: b₁ :: b₂ :: b₃ :: b₄ :: b₅ :: b₆ :: rest =>
      match decodeAddress [b₀, b₁, b₂, b₃, b₄, b₅, b₆] with
      | .error e => .error e
      | .ok (address, last) =>
          let addresses' := addresses ++ [address]
          if last then .ok (addresses', offset + 7)
          else if addresses'.length > 10 then
            .error (.valueError "unreasonably long AX.25 address list")
          else decodeAddressesFrom addresses' (offset + 7) rest
  | _ => .error (.valueError "truncated AX.25 address list")

def decodeAddresses (data : Bytes) : Except PyError (List Address × ℕ) :=
  match decodeAddressesFrom [] 0 data with
  | .error e => .error e
  | .ok (addresses, offset) =>
      if addresses.length < 2 then
        .error (.valueError
          "AX.25 frame requires destination and source addresses")
      else .ok (addresses, offset)

/-! ### Frames -/

/-- What `parse_frame` returns. -/
structure ParsedFrame where
  destination : Address
  source : Address
  path : List Address
  control : Byte
  frameClass : String
  frameType : String
  pollFinal : Bool
  ns : Option ℕ
  nr : Option ℕ
  pid : Option Byte
  info : Bytes
  deriving DecidableEq, Repr

def hexDigit (n : ℕ) : Char :=
  if n < 10 then Char.ofNat (n + 48) else Char.ofNat (n + 55)

/-- Two upper-case hexadecimal digits, as `:02X` prints an octet. -/
def hexByte (byte : Byte) : String :=
  String.ofList [hexDigit (byte.toNat / 16), hexDigit (byte.toNat % 16)]

/-- `S_FRAME_NAMES`, by the two-bit supervisory code. -/
def sFrameName (code : ℕ) : String :=
  match code with
  | 0 => "RR"
  | 1 => "RNR"
  | 2 => "REJ"
  | _ => "SREJ"

/-- `U_FRAME_NAMES`, with the fallback of its `get`. -/
def uFrameName (code : Byte) : String :=
  if code = 0x03 then "UI"
  else if code = 0x0F then "DM"
  else if code = 0x2F then "SABM"
  else if code = 0x43 then "DISC"
  else if code = 0x63 then "UA"
  else if code = 0x6F then "SABME"
  else if code = 0x87 then "FRMR"
  else if code = 0xAF then "XID"
  else if code = 0xE3 then "TEST"
  else "U-0x" ++ hexByte code

/-- The part of `parse_frame` after the control octet; `rest` is what follows
it. -/
def parseControl (destination source : Address) (path : List Address)
    (control : Byte) (rest : Bytes) : Except PyError ParsedFrame :=
  let parsed : ParsedFrame :=
    { destination, source, path, control, frameClass := "", frameType := "",
      pollFinal := false, ns := none, nr := none, pid := none, info := [] }
  if control.getLsbD 0 = false then
    match rest with
    | [] => .error (.valueError "I frame missing PID")
    | pid :: info =>
        .ok { parsed with
          frameClass := "I"
          frameType := "I"
          ns := some (control >>> 1 &&& 0x07).toNat
          pollFinal := control.getLsbD 4
          nr := some (control >>> 5 &&& 0x07).toNat
          pid := some pid
          info := info }
  else if control &&& 0x03 = 0x01 then
    .ok { parsed with
      frameClass := "S"
      frameType := sFrameName (control >>> 2 &&& 0x03).toNat
      pollFinal := control.getLsbD 4
      nr := some (control >>> 5 &&& 0x07).toNat
      info := rest }
  else
    let uCode := control &&& 0xEF
    let unnumbered : ParsedFrame :=
      { parsed with
        frameClass := "U"
        frameType := uFrameName uCode
        pollFinal := control.getLsbD 4 }
    if uCode = AX25_UI then
      match rest with
      | [] => .error (.valueError "UI frame missing PID")
      | pid :: info => .ok { unnumbered with pid := some pid, info := info }
    else .ok { unnumbered with info := rest }

/-- `parse_frame` on the frame without its FCS. -/
def parseBody (data : Bytes) : Except PyError ParsedFrame :=
  if data.length < 15 then .error (.valueError "AX.25 frame too short")
  else
    match decodeAddresses data with
    | .error e => .error e
    | .ok (destination :: source :: path, offset) =>
        match data.drop offset with
        | [] => .error (.valueError "missing AX.25 control field")
        | control :: rest => parseControl destination source path control rest
    | .ok _ =>
        -- `decodeAddresses` returns at least two addresses
        .error (.valueError "AX.25 frame requires destination and source addresses")

def parseFrame (frame : Bytes) (hasFcs : Bool) : Except PyError ParsedFrame :=
  if hasFcs then
    if ¬ verifyFcs frame then .error (.valueError "bad AX.25 FCS")
    else parseBody (frame.take (frame.length - 2))
  else parseBody frame

/-- An accepted body has at least two addresses and a control octet. -/
theorem length_of_parseFrame {data : Bytes} {parsed : ParsedFrame}
    (h : parseFrame data false = .ok parsed) : 15 ≤ data.length := by
  refine Nat.le_of_not_lt fun hlt => ?_
  have hshort : parseFrame data false =
      .error (.valueError "AX.25 frame too short") :=
    if_pos hlt
  rw [hshort] at h
  cases h

/-- A receive-ready frame from `N0CALL` to `APRS`, one of the shortest bodies. -/
def receiveReady : Bytes :=
  [0x82, 0xa0, 0xa4, 0xa6, 0x40, 0x40, 0xe0, 0x9c, 0x60, 0x86, 0x82, 0x98, 0x98,
    0x61, 0x01]

def receiveReadyParsed : ParsedFrame where
  destination := ⟨"APRS", 0, true⟩
  source := ⟨"N0CALL", 0, false⟩
  path := []
  control := 0x01
  frameClass := "S"
  frameType := "RR"
  pollFinal := false
  ns := none
  nr := some 0
  pid := none
  info := []

theorem parseFrame_receiveReady :
    parseFrame receiveReady false = .ok receiveReadyParsed := by
  rfl

end YwdTnc
