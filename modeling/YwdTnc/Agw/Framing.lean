import YwdTnc.Basic
import YwdTnc.Coding.Records
import YwdTnc.Coding.Words
import YwdTnc.Kiss.Framing

/-!
# AGW framing

Raw AX.25 mode of the AGW network protocol: a header of 36 octets with the
length of the data behind it, little-endian. The stream decoder collects frames
from a TCP stream; its loop is the one of a stream of records, and `AGWHandler`
stops at the first header it raises on.
-/

namespace YwdTnc

open Coding

def HEADER_BYTES : ℕ := 36
def MAX_DATA_BYTES : ℕ := 4096
def RAW_MONITOR : Bytes := [0x6B]
def RAW_FRAME : Bytes := [0x4B]

structure AGWHeader where
  port : ℕ
  dataKind : Bytes
  pid : ℕ
  callFrom : Bytes
  callTo : Bytes
  dataLength : ℕ
  reserved : ℕ
  deriving DecidableEq

structure AGWFrame where
  header : AGWHeader
  data : Bytes
  deriving DecidableEq

/-- `_call`: a callsign field, padded to ten octets. -/
def callField (value : Bytes) : Except PyError Bytes :=
  if 10 < value.length then .error (.valueError "AGW callsign field exceeds 10 bytes")
  else .ok (value ++ List.replicate (10 - value.length) 0)

def encodeFrame (dataKind data : Bytes) (port pid : ℕ) (callFrom callTo : Bytes) :
    Except PyError Bytes :=
  if dataKind.length ≠ 1 then
    .error (.valueError "AGW DataKind must be exactly one byte")
  else if ¬ (port ≤ 255 ∧ pid ≤ 255) then
    .error (.valueError "AGW port/PID must fit in one byte")
  else if MAX_DATA_BYTES < data.length then .error (.valueError "AGW payload is too large")
  else do
    let callFrom ← callField callFrom
    let callTo ← callField callTo
    return [BitVec.ofNat 8 port, 0, 0, 0] ++ dataKind ++ [0, BitVec.ofNat 8 pid, 0] ++ callFrom ++
      callTo ++ packLE 4 data.length ++ packLE 4 0 ++ data

/-- `rstrip(b"\x00")`. -/
def stripZeros (value : Bytes) : Bytes := (value.reverse.dropWhile (· = 0)).reverse

def decodeHeader (data : Bytes) : Except PyError AGWHeader :=
  if data.length ≠ HEADER_BYTES then
    .error (.valueError ("AGW header must be exactly " ++ toString HEADER_BYTES ++ " bytes"))
  else
    let length := unpackLE ((data.drop 28).take 4)
    if MAX_DATA_BYTES < length then
      .error (.valueError "AGW payload length exceeds safety limit")
    else .ok
      { port := (data.getD 0 0).toNat
        dataKind := (data.drop 4).take 1
        pid := (data.getD 6 0).toNat
        callFrom := stripZeros ((data.drop 8).take 10)
        callTo := stripZeros ((data.drop 18).take 10)
        dataLength := length
        reserved := unpackLE ((data.drop 32).take 4) }

/-- One turn of the loop of `feed`: the frame at the front of the buffer, if it is
complete. -/
def nextFrame (buffer : Bytes) : Except PyError (Option AGWFrame) :=
  if buffer.length < HEADER_BYTES then .ok none
  else
    match decodeHeader (buffer.take HEADER_BYTES) with
    | .error e => .error e
    | .ok header =>
        let total := HEADER_BYTES + header.dataLength
        if buffer.length < total then .ok none
        else .ok (some { header, data := (buffer.take total).drop HEADER_BYTES })

def AGWFrame.size (frame : AGWFrame) : ℕ := HEADER_BYTES + frame.header.dataLength

/-! ### The loop of the decoder -/

/-- The exits of one turn of the loop. -/
inductive NextFrame (buffer : Bytes) : Except PyError (Option AGWFrame) → Prop
  | short (hshort : buffer.length < HEADER_BYTES) : NextFrame buffer (.ok none)
  | malformed {e : PyError} (hlong : HEADER_BYTES ≤ buffer.length)
      (hheader : decodeHeader (buffer.take HEADER_BYTES) = .error e) :
      NextFrame buffer (.error e)
  | waits {header : AGWHeader} (hlong : HEADER_BYTES ≤ buffer.length)
      (hheader : decodeHeader (buffer.take HEADER_BYTES) = .ok header)
      (hshort : buffer.length < HEADER_BYTES + header.dataLength) :
      NextFrame buffer (.ok none)
  | found {header : AGWHeader}
      (hheader : decodeHeader (buffer.take HEADER_BYTES) = .ok header)
      (hlong : HEADER_BYTES + header.dataLength ≤ buffer.length) :
      NextFrame buffer (.ok (some
        ⟨header, (buffer.take (HEADER_BYTES + header.dataLength)).drop HEADER_BYTES⟩))

theorem nextFrame_cases (buffer : Bytes) : NextFrame buffer (nextFrame buffer) := by
  unfold nextFrame
  by_cases hshort : buffer.length < HEADER_BYTES
  · rw [if_pos hshort]
    exact .short hshort
  rw [if_neg hshort]
  cases hheader : decodeHeader (buffer.take HEADER_BYTES) with
  | error e => exact .malformed (not_lt.mp hshort) hheader
  | ok header =>
      by_cases hwait : buffer.length < HEADER_BYTES + header.dataLength
      · simp only [hwait, if_true]
        exact .waits (not_lt.mp hshort) hheader hwait
      · simp only [hwait, if_false]
        exact .found hheader (not_lt.mp hwait)

theorem nextFrame_found {buffer : Bytes} {header : AGWHeader}
    (hheader : decodeHeader (buffer.take HEADER_BYTES) = .ok header)
    (hlong : HEADER_BYTES + header.dataLength ≤ buffer.length) :
    nextFrame buffer = .ok (some
      ⟨header, (buffer.take (HEADER_BYTES + header.dataLength)).drop HEADER_BYTES⟩) := by
  have hfull : ¬ buffer.length < HEADER_BYTES := by omega
  rw [nextFrame, if_neg hfull, hheader]
  exact if_neg (not_lt.mpr hlong)

theorem nextFrame_malformed {buffer : Bytes} {e : PyError}
    (hlong : HEADER_BYTES ≤ buffer.length)
    (hheader : decodeHeader (buffer.take HEADER_BYTES) = .error e) :
    nextFrame buffer = .error e := by
  rw [nextFrame, if_neg (not_lt.mpr hlong), hheader]

/-- A stream of AGW frames as a stream of records. -/
def agwFrames : RecordCode Byte AGWFrame PyError where
  header := HEADER_BYTES
  size := AGWFrame.size
  next := nextFrame
  header_pos := by decide
  short := fun xs h => if_pos h
  header_le := fun _ _ _ => Nat.le_add_right _ _
  size_le := by
    intro xs b h
    have hcases := nextFrame_cases xs
    rw [h] at hcases
    cases hcases with
    | found hheader hlong => exact hlong
  found_take := by
    intro xs b h
    have hcases := nextFrame_cases xs
    rw [h] at hcases
    cases hcases with
    | @found header hheader hlong =>
        have htake : ((xs.take (HEADER_BYTES + header.dataLength)).take HEADER_BYTES) =
            xs.take HEADER_BYTES := by
          rw [List.take_take, Nat.min_eq_left (Nat.le_add_right _ _)]
        have hlength : (xs.take (HEADER_BYTES + header.dataLength)).length =
            HEADER_BYTES + header.dataLength := by
          rw [List.length_take, Nat.min_eq_left hlong]
        have hfound := @nextFrame_found (xs.take (HEADER_BYTES + header.dataLength)) header
          (htake ▸ hheader) hlength.ge
        rw [List.take_take, Nat.min_self] at hfound
        exact hfound
  found_append := by
    intro xs ys b h
    have hcases := nextFrame_cases xs
    rw [h] at hcases
    cases hcases with
    | @found header hheader hlong =>
        have hhead : (xs ++ ys).take HEADER_BYTES = xs.take HEADER_BYTES :=
          List.take_append_of_le_length (le_trans (Nat.le_add_right _ _) hlong)
        have hall : (xs ++ ys).take (HEADER_BYTES + header.dataLength) =
            xs.take (HEADER_BYTES + header.dataLength) := List.take_append_of_le_length hlong
        have hlength : HEADER_BYTES + header.dataLength ≤ (xs ++ ys).length := by
          rw [List.length_append]
          omega
        rw [nextFrame_found (hhead ▸ hheader) hlength, hall]
  error_take := by
    intro xs e h
    have hcases := nextFrame_cases xs
    rw [h] at hcases
    cases hcases with
    | malformed hlong hheader =>
        have hlength : HEADER_BYTES ≤ (xs.take HEADER_BYTES).length := by
          rw [List.length_take, Nat.min_eq_left hlong]
        refine nextFrame_malformed hlength ?_
        rw [List.take_take, Nat.min_self]
        exact hheader
  error_append := by
    intro xs ys e h
    have hcases := nextFrame_cases xs
    rw [h] at hcases
    cases hcases with
    | malformed hlong hheader =>
        have hhead : (xs ++ ys).take HEADER_BYTES = xs.take HEADER_BYTES :=
          List.take_append_of_le_length hlong
        refine nextFrame_malformed ?_ (hhead ▸ hheader)
        rw [List.length_append]
        omega

structure AGWStreamDecoder where
  buffer : Bytes
  deriving DecidableEq

namespace AGWStreamDecoder

def init : AGWStreamDecoder := ⟨[]⟩

/-- `feed`. Frames read before a malformed header have left the buffer, but the
exception takes the place of the list they were collected in. -/
def feed (d : AGWStreamDecoder) (data : Bytes) :
    AGWStreamDecoder × Except PyError (List AGWFrame) :=
  let r := agwFrames.drain (d.buffer ++ data)
  (⟨r.rest⟩,
    match r.error with
    | some e => .error e
    | none => .ok r.records)

end AGWStreamDecoder

end YwdTnc
