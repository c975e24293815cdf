import YwdTnc.Basic
import YwdTnc.Coding.SpscRing

/-!
# The receive capture of the modem

`CAX25AFSKRX` of the firmware. A timer interrupt packs the sampled bits, the first one in the
highest place, into octets of a ring; the main program takes them out with `read`. All fields
are volatile, and the interrupt may come between any two accesses of the main program: `read`
and the status handler are given access by access (`ReadCall.access`, `StatusCall.access`),
while `sample`, which nothing interrupts, is one step.
-/

namespace YwdTnc

open Coding

structure CAX25AFSKRX where
  /-- `m_buffer`, `m_head` and `m_tail`. -/
  buffer : SpscRing 512 Byte
  partialOctet : Byte
  partialBits : ℕ
  active : Bool
  samples : BitVec 32
  droppedBytes : ℕ
  deriving DecidableEq

namespace CAX25AFSKRX

def BUFFER_SIZE : ℕ := 512

def init : CAX25AFSKRX where
  buffer := ⟨Vector.replicate 512 0, 0, 0⟩
  partialOctet := 0
  partialBits := 0
  active := false
  samples := 0
  droppedBytes := 0

def reset (rx : CAX25AFSKRX) : CAX25AFSKRX :=
  { rx with
    buffer := { rx.buffer with head := 0, tail := 0 }
    partialOctet := 0
    partialBits := 0
    samples := 0
    droppedBytes := 0 }

def start (rx : CAX25AFSKRX) : CAX25AFSKRX := { rx with active := true }

def stop (rx : CAX25AFSKRX) : CAX25AFSKRX := { rx with active := false }

/-- The end of `sample`: a whole octet is stored, or counted as dropped. -/
def storeOctet (rx : CAX25AFSKRX) : CAX25AFSKRX :=
  let rx :=
    if rx.buffer.Full then
      { rx with
        droppedBytes := if rx.droppedBytes < 65535 then rx.droppedBytes + 1 else rx.droppedBytes }
    else { rx with buffer := rx.buffer.push rx.partialOctet }
  { rx with partialOctet := 0, partialBits := 0 }

def sample (rx : CAX25AFSKRX) (bit : Byte) : CAX25AFSKRX :=
  if rx.active then
    let rx := { rx with samples := rx.samples + 1 }
    let rx :=
      if bit &&& 0x01 ≠ 0 then
        { rx with partialOctet := rx.partialOctet ||| BitVec.ofNat 8 (0x80 >>> rx.partialBits) }
      else rx
    let rx := { rx with partialBits := rx.partialBits + 1 }
    if rx.partialBits < 8 then rx else rx.storeOctet
  else rx

/-- `available`, when nothing comes between its two reads. -/
def available (rx : CAX25AFSKRX) : ℕ := rx.buffer.count

end CAX25AFSKRX

/-! ### The main program, access by access -/

/-- The last access of `read`. -/
inductive ReadPoint where
  /-- The test of the loop is next. -/
  | test
  | head (head : Fin 512)
  | tail (tail : Fin 512)
  | octet (tail : Fin 512) (octet : Byte)
  deriving DecidableEq

/-- A call of `read`, with what it has written to `out`. -/
structure ReadCall where
  maxLength : ℕ
  out : Bytes
  point : ReadPoint
  deriving DecidableEq

def ReadCall.begin (maxLength : ℕ) : ReadCall := ⟨maxLength, [], .test⟩

/-- The next access of a call of `read`, or its return. -/
def ReadCall.access (rx : CAX25AFSKRX) (call : ReadCall) : CAX25AFSKRX × (ReadCall ⊕ Bytes) :=
  match call.point with
  | .test =>
      if call.out.length < call.maxLength then
        (rx, .inl { call with point := .head rx.buffer.head })
      else (rx, .inr call.out)
  | .head head =>
      let tail := rx.buffer.tail
      if tail = head then (rx, .inr call.out) else (rx, .inl { call with point := .tail tail })
  | .tail tail => (rx, .inl { call with point := .octet tail rx.buffer.slots[tail] })
  | .octet tail octet =>
      ({ rx with buffer := { rx.buffer with tail := SpscRing.next tail } },
        .inl { call with out := call.out ++ [octet], point := .test })

/-- What the status handler has read of the capture. -/
inductive StatusPoint where
  | flags
  | head (head : Fin 512)
  | available (available : ℕ)
  | samples (available : ℕ) (samples : BitVec 32)
  deriving DecidableEq

/-- A reply of the status handler, before it is written out. -/
structure CaptureStatus where
  flags : Byte
  available : ℕ
  samples : BitVec 32
  droppedBytes : ℕ
  deriving DecidableEq

/-- A run of the status handler, behind its flags. -/
structure StatusCall where
  flags : Byte
  point : StatusPoint
  deriving DecidableEq

/-- `available` of two indices that have been read one after the other. -/
def availableOf (head tail : Fin 512) : ℕ :=
  if tail.val ≤ head.val then head.val - tail.val else CAX25AFSKRX.BUFFER_SIZE - tail.val + head.val

def StatusCall.access (rx : CAX25AFSKRX) (call : StatusCall) : StatusCall ⊕ CaptureStatus :=
  match call.point with
  | .flags => .inl { call with point := .head rx.buffer.head }
  | .head head => .inl { call with point := .available (availableOf head rx.buffer.tail) }
  | .available available => .inl { call with point := .samples available rx.samples }
  | .samples available samples => .inr ⟨call.flags, available, samples, rx.droppedBytes⟩

end YwdTnc
