import YwdTnc.Basic

/-!
# KISS framing

The one-shot codec `encode`/`decode` and the incremental `KISSStreamDecoder`
of the KISS service. The two decoders are written independently: `decode` gives
up at the first malformed octet, the stream decoder discards the current frame
and takes up again at the next FEND.
-/

namespace YwdTnc

def FEND : Byte := 0xC0
def FESC : Byte := 0xDB
def TFEND : Byte := 0xDC
def TFESC : Byte := 0xDD

/-! KISS low-nibble command identifiers. -/

def DATA : ℕ := 0x00
def TXDELAY : ℕ := 0x01
def PERSIST : ℕ := 0x02
def SLOTTIME : ℕ := 0x03
def FULLDUPLEX : ℕ := 0x05

structure KISSMessage where
  port : ℕ
  command : ℕ
  frame : Bytes
  deriving DecidableEq, Repr

/-- The message of an unescaped body: the type octet carries the port in its
high nibble and the command in its low one. -/
def KISSMessage.ofBody (typeByte : Byte) (frame : Bytes) : KISSMessage where
  port := (typeByte >>> 4 &&& 0x0F).toNat
  command := (typeByte &&& 0x0F).toNat
  frame := frame

def escapeByte (byte : Byte) : Bytes :=
  if byte = FEND then [FESC, TFEND]
  else if byte = FESC then [FESC, TFESC]
  else [byte]

def encode (frame : Bytes) (port command : ℕ) : Except PyError Bytes :=
  if ¬ port ≤ 15 then .error (.valueError "KISS port must be 0..15")
  else if ¬ command ≤ 15 then .error (.valueError "KISS command must be 0..15")
  else
    let body := BitVec.ofNat 8 (port <<< 4 ||| command) :: frame
    .ok ([FEND] ++ body.flatMap escapeByte ++ [FEND])

/-- One turn of the loop of `decode`, on its variables `raw` and `escaped`. -/
def decodeByte (st : Bytes × Bool) (byte : Byte) : Except PyError (Bytes × Bool) :=
  match st with
  | (raw, true) =>
      if byte = TFEND then .ok (raw ++ [FEND], false)
      else if byte = TFESC then .ok (raw ++ [FESC], false)
      else .error (.valueError "invalid KISS escape sequence")
  | (raw, false) =>
      if byte = FESC then .ok (raw, true)
      else if byte = FEND then
        .error (.valueError "unexpected FEND inside KISS frame")
      else .ok (raw ++ [byte], false)

/-- The loop of `decode` over the octets between the two FENDs. -/
def unescape (segment : Bytes) : Except PyError (Bytes × Bool) :=
  segment.foldlM decodeByte ([], false)

/-- The end of `decode`, on the final values of `raw` and `escaped`. -/
def finishDecode : Bytes × Bool → Except PyError KISSMessage
  | (typeByte :: frame, false) => .ok (.ofBody typeByte frame)
  | _ => .error (.valueError "truncated KISS frame")

def decode (packet : Bytes) : Except PyError KISSMessage :=
  if packet.length < 3 ∨ packet.head? ≠ some FEND ∨ packet.getLast? ≠ some FEND then
    .error (.valueError "KISS frame must start and end with FEND")
  else unescape (packet.drop 1).dropLast >>= finishDecode

structure KISSStreamDecoder where
  maxBodyBytes : ℕ
  raw : Bytes
  escaped : Bool
  discard : Bool
  discardedFrames : ℕ
  deriving DecidableEq, Repr

namespace KISSStreamDecoder

def init (maxBodyBytes : ℕ) : Except PyError KISSStreamDecoder :=
  if maxBodyBytes < 1 then .error (.valueError "max_body_bytes must be positive")
  else .ok ⟨maxBodyBytes, [], false, false, 0⟩

def reset (d : KISSStreamDecoder) : KISSStreamDecoder :=
  { d with raw := [], escaped := false, discard := false }

def append (d : KISSStreamDecoder) (byte : Byte) : KISSStreamDecoder :=
  if d.maxBodyBytes ≤ d.raw.length then
    { d with discard := true, discardedFrames := d.discardedFrames + 1 }
  else { d with raw := d.raw ++ [byte] }

/-- The FEND branch of `feed`: the message of the frame it ends, if any. -/
def feedFend (d : KISSStreamDecoder) : KISSStreamDecoder × Option KISSMessage :=
  match d.raw, d.discard, d.escaped with
  | typeByte :: frame, false, false => (d.reset, some (.ofBody typeByte frame))
  | _, false, true =>
      ({ d with discardedFrames := d.discardedFrames + 1 }.reset, none)
  | _, _, _ => (d.reset, none)

/-- The other branches of `feed`, for an octet inside a frame. -/
def feedInside (d : KISSStreamDecoder) (byte : Byte) : KISSStreamDecoder :=
  if d.discard then d
  else if d.escaped then
    if byte = TFEND then { d.append FEND with escaped := false }
    else if byte = TFESC then { d.append FESC with escaped := false }
    else
      { d with
        discard := true
        discardedFrames := d.discardedFrames + 1
        escaped := false }
  else if byte = FESC then { d with escaped := true }
  else d.append byte

def feedByte (d : KISSStreamDecoder) (byte : Byte) :
    KISSStreamDecoder × Option KISSMessage :=
  if byte = FEND then d.feedFend else (d.feedInside byte, none)

def feed (d : KISSStreamDecoder) : Bytes → KISSStreamDecoder × List KISSMessage
  | [] => (d, [])
  | byte :: data =>
      let (d', out) := d.feedByte byte
      let (d'', outs) := feed d' data
      (d'', out.toList ++ outs)

/-- Several `feed` calls on one decoder, with all the messages they return. -/
def feedChunks (d : KISSStreamDecoder) :
    List Bytes → KISSStreamDecoder × List KISSMessage
  | [] => (d, [])
  | chunk :: chunks =>
      let (d', out) := d.feed chunk
      let (d'', outs) := feedChunks d' chunks
      (d'', out ++ outs)

end KISSStreamDecoder

end YwdTnc
