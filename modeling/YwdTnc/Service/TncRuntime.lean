import YwdTnc.Interaction.Threads
import YwdTnc.Kiss.Dispatch
import YwdTnc.Kiss.TxBackend
import YwdTnc.Modem.Healthy
import YwdTnc.Phy.Bell202Rx

/-!
# The sustained TNC runtime

The worker thread of `SustainedTNCRuntime` and the client threads of the backend
over one shared `Tnc`. A turn of a thread goes as far as its next point of
contact with the other threads: the stop flag, the queue, the session. The
queue's lock is held through a whole operation, so an operation is one turn, with
its reading of the clock inside. Which frames the decoder finds in a chunk, the
random octets and the clients' messages are inputs.
-/

namespace YwdTnc

open Interaction Prog

def RX_FIFO_DRAIN_READ_LIMIT : ℕ := 4

/-- The arguments of the runtime, and its owner's default time-out. -/
structure RuntimeConfig where
  expectedIdentity : String
  readMaximum : ℕ
  statusIntervalSeconds : ℚ
  transactionTimeoutSeconds : ℚ
  one_le_readMaximum : 1 ≤ readMaximum
  readMaximum_le : readMaximum ≤ 200
  statusInterval_pos : 0 < statusIntervalSeconds

/-- The arguments the engine passes. -/
def RuntimeConfig.engine (expectedIdentity : String) : RuntimeConfig where
  expectedIdentity := expectedIdentity
  readMaximum := 200
  statusIntervalSeconds := 1 / 4
  transactionTimeoutSeconds := 3 / 2
  one_le_readMaximum := by decide
  readMaximum_le := by decide
  statusInterval_pos := by decide +kernel

structure SustainedTNCRuntime where
  identity : String
  rxReads : ℕ
  packedBytes : ℕ
  decodedFrames : ℕ
  statusChecks : ℕ
  rssiSamples : ℕ
  txDispatches : ℕ
  accessTimeouts : ℕ
  decoderResets : ℕ
  stop : Bool
  failure : Option PyError

def SustainedTNCRuntime.init : SustainedTNCRuntime :=
  ⟨"", 0, 0, 0, 0, 0, 0, 0, 0, false, none⟩

/-- What the threads share. -/
structure Tnc where
  backend : ModemTNCBackend
  path : TransmitPath
  runtime : SustainedTNCRuntime

def Tnc.init (queue : QueueConfig) (session : TNCSessionState) (transmitEnabled : Bool)
    (broker : TXBrokerConfig) : Tnc where
  backend := .init session transmitEnabled
  path := .init queue (.init transmitEnabled broker)
  runtime := .init

/-- The frames that the Bell-202 decoder finds in a chunk. Each of them was handed
over by one of its hypotheses. -/
structure Decoding where
  fresh : Bytes → List Bytes
  sound : ∀ packed, ∀ frame ∈ fresh packed,
    ∃ afterFlag, Receiver.candidate afterFlag = some frame

def Decoding.none : Decoding := ⟨fun _ => [], fun _ _ h => nomatch h⟩

namespace SustainedTNCRuntime

variable {R : Type}

def update (f : SustainedTNCRuntime → SustainedTNCRuntime) : PortProg R Tnc Unit :=
  modify fun s => { s with runtime := f s.runtime }

def checkHealth (r : SustainedTNCRuntime) : Except PyError Unit :=
  match r.failure with
  | some _ => .error ⟨.sustainedTNCRuntimeError, "sustained TNC runtime failed"⟩
  | none => .ok ()

def requireActiveStatus (status : RX3Status) : Except PyError Unit :=
  if status.flags ≠ ACTIVE_RX_FLAGS then
    .error ⟨.sustainedTNCRuntimeError,
      "packet RX flags changed: expected=0x" ++ hex02Lower ACTIVE_RX_FLAGS ++
        " actual=0x" ++ hex02Lower status.flags⟩
  else if status.droppedBytes ≠ 0 then
    .error ⟨.sustainedTNCRuntimeError,
      "packet RX FIFO dropped " ++ toString status.droppedBytes ++ " packed bytes"⟩
  else .ok ()

/-- `rx_status`, `_record_status_check` and `_require_active_status`. -/
def checkStatus (timeout : ℚ) : PortProg R Tnc Unit := do
  let status ← Port.rxStatus timeout
  update fun r => { r with statusChecks := r.statusChecks + 1 }
  ofExcept (requireActiveStatus status)

/-- `start` up to the new thread. -/
def start (config : RuntimeConfig) (timeout : ℚ) : PortProg R Tnc Unit := do
  let version ← Port.getVersion timeout
  if version.identity ≠ config.expectedIdentity then
    raise ⟨.sustainedTNCRuntimeError, "packet firmware identity mismatch: expected='" ++
      config.expectedIdentity ++ "' actual='" ++ version.identity ++ "'"⟩
  else
    checkStatus timeout
    update fun r => { r with identity := version.identity }

/-- `_publish`, less the events; the FCS is part of the parsed frame. -/
def publish (frame : Bytes) : PortProg R Tnc Unit := do
  let _ ← ofExcept (parseFrame frame true)
  update fun r => { r with decodedFrames := r.decodedFrames + 1 }

def publishAll : List Bytes → PortProg R Tnc Unit
  | [] => return ()
  | frame :: frames => do
      publish frame
      publishAll frames

def consume (decoding : Decoding) (packed : Bytes) : PortProg R Tnc Unit := do
  update fun r => { r with packedBytes := r.packedBytes + packed.length }
  publishAll (decoding.fresh packed)

/-- The queue's `observe_rssi`, at a time read under its lock. -/
def observeRssi (parameters : HalfDuplexParameters) (raw : ℕ) (source : RandomByteSource) :
    PortProg R Tnc (KISSDataQueueObservation TXReceipt) := do
  let now ← Port.monotonic
  let s ← get
  let (queue, result) ← zoom (fun s => s.path.submitter)
    (fun s submitter => { s with path := { s.path with submitter } })
    (TransmitPath.observeRssi parameters s.path.queue now raw source)
  modify fun s => { s with path := { s.path with queue } }
  ofExcept result

end SustainedTNCRuntime

/-- Where the worker stands in `_run`; `drained` is after `_drain_rx_fifo`,
`checked` after the periodic status check. -/
inductive Worker where
  | starting
  | looping (nextStatus : ℚ)
  | draining (nextStatus : ℚ) (reads : ℕ)
  | drained (nextStatus : ℚ)
  | checked (nextStatus : ℚ)
  | sampled (nextStatus : ℚ) (rawMagnitude : ℕ)
  | observed (nextStatus : ℚ) (observation : KISSDataQueueObservation TXReceipt)
  | resting (nextStatus : ℚ)
  | finished

namespace Worker

variable {R : Type}

open SustainedTNCRuntime

/-- What `_run` does with an observation. -/
def act (config : RuntimeConfig) (nextStatus : ℚ)
    (observation : KISSDataQueueObservation TXReceipt) : PortProg R Tnc Worker :=
  match observation.requestState with
  | some .timedOut => do
      update fun r => { r with accessTimeouts := r.accessTimeouts + 1 }
      return .resting nextStatus
  | some .downstreamFailed =>
      raise ⟨.sustainedTNCRuntimeError,
        "P7 contextual downstream failed; request is terminal and service is fail-latched: " ++
          observation.downstreamError⟩
  | some .dispatched =>
      if observation.downstreamCalled then do
        update fun r => { r with
          txDispatches := r.txDispatches + 1
          decoderResets := r.decoderResets + 1 }
        checkStatus config.transactionTimeoutSeconds
        let now ← Port.monotonic
        return .resting (now + config.statusIntervalSeconds)
      else return .resting nextStatus
  | _ => return .resting nextStatus

/-- The body of `_run`. -/
def body (config : RuntimeConfig) (parameters : HalfDuplexParameters)
    (source : RandomByteSource) (decoding : Decoding) : Worker → PortProg R Tnc Worker
  | starting => do
      let now ← Port.monotonic
      return looping (now + config.statusIntervalSeconds)
  | looping nextStatus => do
      let s ← get
      if s.runtime.stop = true then return finished
      else return draining nextStatus RX_FIFO_DRAIN_READ_LIMIT
  | draining nextStatus 0 => return drained nextStatus
  | draining nextStatus (reads + 1) => do
      let s ← get
      if s.runtime.stop = true then return drained nextStatus
      else
        let chunk ← Port.rxRead config.readMaximum config.transactionTimeoutSeconds
        update fun r => { r with rxReads := r.rxReads + 1 }
        -- an empty chunk is a partial read too
        if chunk = [] then return drained nextStatus
        else
          consume decoding chunk
          if chunk.length < config.readMaximum then return drained nextStatus
          else return draining nextStatus reads
  | drained nextStatus => do
      let now ← Port.monotonic
      if nextStatus ≤ now then
        checkStatus config.transactionTimeoutSeconds
        return checked (now + config.statusIntervalSeconds)
      else return checked nextStatus
  | checked nextStatus => do
      let s ← get
      if s.path.queue.queue.length = 0 then return resting nextStatus
      else
        let rssi ← Port.rxRssi config.transactionTimeoutSeconds
        update fun r => { r with rssiSamples := r.rssiSamples + 1 }
        return sampled nextStatus rssi.rawMagnitude
  | sampled nextStatus rawMagnitude => do
      let observation ← observeRssi parameters rawMagnitude source
      return observed nextStatus observation
  | observed nextStatus observation => act config nextStatus observation
  | resting nextStatus => return looping nextStatus
  | finished => return finished

/-- A turn: `_run` records the first exception and stops. -/
def turn (config : RuntimeConfig) (parameters : HalfDuplexParameters)
    (source : RandomByteSource) (decoding : Decoding) (w : Worker) :
    PortProg R Tnc Worker := do
  match ← attempt (body config parameters source decoding w) with
  | .ok w => return w
  | .error e =>
      update fun r => { r with failure := some e, stop := true }
      return finished

end Worker

/-- A message on its way through `reject_client_message`. -/
inductive Submission where
  | received (message : KISSMessage)
  | captured (frameNoFcs : Bytes) (context : TNCTransmitContext)
  | entering (frameNoFcs : Bytes) (context : TNCTransmitContext)

namespace Submission

variable {R : Type}

/-- The queue's `enqueue`, at a time read under its lock, and the accounting. -/
def enqueue (frameNoFcs : Bytes) (context : TNCTransmitContext) :
    PortProg R Tnc KISSDataIngressResult := do
  let now ← Port.monotonic
  let s ← get
  let (queue, result) := s.path.queue.enqueue frameNoFcs context now
  let (backend, result) := s.backend.afterEnqueue result
  modify fun s => { s with backend, path := { s.path with queue } }
  ofExcept result

/-- A turn; `none` when the message is dealt with. The time read after the
capture is the `now` that the queue does not use. -/
def turn : Submission → PortProg R Tnc (Option Submission)
  | received message => do
      let s ← get
      let (backend, next) := s.backend.rejectClientMessage message
        s.path.queue.config.requestTimeoutSeconds
      modify fun s => { s with backend }
      match ← ofExcept next with
      | .handled _ => return none
      | .data frameNoFcs context => return some (captured frameNoFcs context)
  | captured frameNoFcs context => do
      let _ ← Port.monotonic
      return some (entering frameNoFcs context)
  | entering frameNoFcs context => do
      let _ ← enqueue frameNoFcs context
      return none

end Submission

end YwdTnc
