import YwdTnc.Interaction.Transition
import YwdTnc.Kiss.Conservation
import Mathlib.Logic.Function.Basic

/-!
# Monitor events of the transmit path

The monitor keeps a second queue of the admitted requests, in a tracker beside
the admission queue, and names the request of a lifecycle event by the
tracker's head. Clients admit a body and add it to the tracker in two steps;
the scheduler takes the tracker's head before it asks the admission queue to
advance. Client threads and the scheduler take their steps in any order, except
that no body is admitted while the queue's lock is held by a transmission.
-/

namespace YwdTnc

open Interaction

/-- `frame_fields`: the octets of a body and what parsing made of them. -/
structure FrameFields where
  frameBytes : ℕ
  frameHex : String
  parsed : Except PyError ParsedFrame

def frameFields (frameNoFcs : Bytes) : FrameFields where
  frameBytes := frameNoFcs.length
  frameHex := String.join (frameNoFcs.map hexByte)
  parsed := parseFrame frameNoFcs false

structure TrackedTXRequest where
  requestId : ℕ
  frame : FrameFields
  txdelay : ℕ
  persist : ℕ
  slottime : ℕ
  parameterGeneration : ℤ
  rawRssi : Option ℤ

structure TXRequestTracker where
  pending : List ℕ
  records : ℕ → Option TrackedTXRequest
  currentId : Option ℕ

namespace TXRequestTracker

def init : TXRequestTracker := ⟨[], fun _ => none, none⟩

/-- The record of an admitted body. -/
def record (receipt : KISSDataRequestReceipt) (frameNoFcs : Bytes) : TrackedTXRequest where
  requestId := receipt.requestId
  frame := frameFields frameNoFcs
  txdelay := receipt.txdelay
  persist := receipt.persist
  slottime := receipt.slottime
  parameterGeneration := receipt.parameterGeneration
  rawRssi := none

def add (tracker : TXRequestTracker) (receipt : KISSDataRequestReceipt)
    (frameNoFcs : Bytes) : TXRequestTracker :=
  { tracker with
    pending := tracker.pending ++ [receipt.requestId]
    records := Function.update tracker.records receipt.requestId
      (some (record receipt frameNoFcs)) }

def beginObservation (tracker : TXRequestTracker) (rawRssi : ℤ) :
    Except PyError (TXRequestTracker × Option TrackedTXRequest) :=
  match tracker.pending with
  | [] => .ok ({ tracker with currentId := none }, none)
  | requestId :: _ =>
      match tracker.records requestId with
      | none => .error ⟨.other "KeyError", toString requestId⟩
      | some old =>
          let record := { old with rawRssi := some rawRssi }
          .ok ({ tracker with
              records := Function.update tracker.records requestId (some record)
              currentId := some requestId }, some record)

def current (tracker : TXRequestTracker) : Option TrackedTXRequest :=
  tracker.currentId.bind tracker.records

def clearCurrent (tracker : TXRequestTracker) : TXRequestTracker :=
  { tracker with currentId := none }

def finish (tracker : TXRequestTracker) : Option ℕ → TXRequestTracker
  | none => tracker
  | some requestId =>
      { pending := tracker.pending.erase requestId
        records := Function.update tracker.records requestId none
        currentId :=
          if tracker.currentId = some requestId then none else tracker.currentId }

end TXRequestTracker

/-- The lifecycle events that name a request; `queued` stands apart. -/
inductive TXEvent where
  | channelClear
  | dispatched
  | complete
  | failed
  | timeout
  deriving DecidableEq

/-- The events that end a request. -/
def TXEvent.terminal : TXEvent → Bool
  | complete | failed | timeout => true
  | channelClear | dispatched => false

namespace MonitoredAdmissionQueue

inductive ClientState where
  | idle
  | admitted (receipt : KISSDataRequestReceipt) (frameNoFcs : Bytes)
  | added (record : TrackedTXRequest)

/-- `record` is what `begin_observation` returned; a transmission reads the
current record again. `advanced` is the head the admission queue worked on. -/
inductive SchedulerState (R : Type) where
  | idle
  | begun (record : Option TrackedTXRequest) (raw : ℤ)
  | clearing (record : Option TrackedTXRequest) (now : ℚ) (request : Request)
      (access : ChannelAccessObservation)
  | transmitting (record current : Option TrackedTXRequest) (now : ℚ) (request : Request)
      (access : ChannelAccessObservation) (dispatched : Bool)
  | observed (record : Option TrackedTXRequest) (observation : KISSDataQueueObservation R)
      (advanced : Option Admission)
  | reported (observation : KISSDataQueueObservation R) (advanced : Option Admission)
  | finished

/-- The scheduler is inside the lock of the admission queue. -/
def SchedulerState.locked {R : Type} : SchedulerState R → Bool
  | clearing _ _ _ _ | transmitting _ _ _ _ _ _ => true
  | _ => false

structure State (Tid R : Type) where
  queue : KISSDataAdmissionQueue
  tracker : TXRequestTracker
  client : Tid → ClientState
  scheduler : SchedulerState R

/-- `advancing` is the scheduler's call of the admission queue. -/
inductive Event (Tid : Type) where
  | admitted (t : Tid) (receipt : KISSDataRequestReceipt)
  | rejected (t : Tid) (e : PyError)
  | added (t : Tid) (requestId : ℕ)
  | queued (t : Tid) (record : TrackedTXRequest)
  | begun
  | advancing (now : ℚ) (source : RandomByteSource)
  | published (event : TXEvent) (record : Option TrackedTXRequest)
      (advanced : Option Admission)
  | internal

/-- The states of a request that the monitor takes off its list. -/
def terminalState : Option KISSDataRequestState → Bool
  | some .dispatched | some .timedOut | some .downstreamFailed => true
  | _ => false

variable {Tid R : Type} [DecidableEq Tid]

def State.setClient (s : State Tid R) (t : Tid) (c : ClientState) : State Tid R :=
  { s with client := Function.update s.client t c }

inductive Step : State Tid R → Event Tid → State Tid R → Prop
  /-- `enqueue` of a client. -/
  | enqueues {s : State Tid R} {t : Tid} {frameNoFcs : Bytes} {context : TNCTransmitContext}
      {now : ℚ} {queue : KISSDataAdmissionQueue} {receipt : KISSDataRequestReceipt}
      (h : s.client t = .idle) (hfree : s.scheduler.locked = false)
      (henqueue : s.queue.enqueue frameNoFcs context now = (queue, .ok receipt)) :
      Step s (.admitted t receipt)
        { s.setClient t (.admitted receipt frameNoFcs) with queue }
  | reject {s : State Tid R} {t : Tid} {frameNoFcs : Bytes} {context : TNCTransmitContext}
      {now : ℚ} {queue : KISSDataAdmissionQueue} {e : PyError}
      (h : s.client t = .idle) (hfree : s.scheduler.locked = false)
      (henqueue : s.queue.enqueue frameNoFcs context now = (queue, .error e)) :
      Step s (.rejected t e) { s with queue }
  | add {s : State Tid R} {t : Tid} {receipt : KISSDataRequestReceipt} {frameNoFcs : Bytes}
      (h : s.client t = .admitted receipt frameNoFcs) :
      Step s (.added t receipt.requestId)
        { s.setClient t (.added (TXRequestTracker.record receipt frameNoFcs)) with
          tracker := s.tracker.add receipt frameNoFcs }
  | queued {s : State Tid R} {t : Tid} {record : TrackedTXRequest}
      (h : s.client t = .added record) :
      Step s (.queued t record) (s.setClient t .idle)
  /-- `observe_rssi` of the scheduler. -/
  | begin {s : State Tid R} {raw : ℤ} {tracker : TXRequestTracker}
      {record : Option TrackedTXRequest} (h : s.scheduler = .idle)
      (hbegin : s.tracker.beginObservation raw = .ok (tracker, record)) :
      Step s .begun { s with tracker, scheduler := .begun record raw }
  | beginFails {s : State Tid R} {raw : ℤ} {e : PyError} (h : s.scheduler = .idle)
      (hbegin : s.tracker.beginObservation raw = .error e) :
      Step s .begun s
  | observe {s : State Tid R} {record : Option TrackedTXRequest} {raw : ℤ} {now : ℚ}
      {source : RandomByteSource} {queue : KISSDataAdmissionQueue}
      {observation : KISSDataQueueObservation R} (h : s.scheduler = .begun record raw)
      (hprepare : s.queue.prepare now raw source = (queue, .done (.ok observation))) :
      Step s (.advancing now source)
        { s with queue, scheduler := .observed record observation s.queue.waiting.head? }
  | observeRaises {s : State Tid R} {record : Option TrackedTXRequest} {raw : ℤ} {now : ℚ}
      {source : RandomByteSource} {queue : KISSDataAdmissionQueue} {e : PyError}
      (h : s.scheduler = .begun record raw)
      (hprepare : s.queue.prepare (R := R) now raw source = (queue, .done (.error e))) :
      Step s (.advancing now source) { s with queue, scheduler := .finished }
  | submit {s : State Tid R} {record : Option TrackedTXRequest} {raw : ℤ} {now now' : ℚ}
      {source : RandomByteSource} {queue : KISSDataAdmissionQueue} {request : Request}
      {access : ChannelAccessObservation} (h : s.scheduler = .begun record raw)
      (hprepare : s.queue.prepare (R := R) now raw source =
        (queue, .submit now' request access)) :
      Step s (.advancing now source)
        { s with queue, scheduler := .clearing record now' request access }
  /-- `submit_frame` of the monitored lifecycle and of the monitored router. -/
  | channelClear {s : State Tid R} {record : Option TrackedTXRequest} {now : ℚ}
      {request : Request} {access : ChannelAccessObservation}
      (h : s.scheduler = .clearing record now request access) :
      Step s (.published .channelClear s.tracker.current (some request.admission))
        { s with
          scheduler := .transmitting record s.tracker.current now request access false }
  | dispatched {s : State Tid R} {record current : Option TrackedTXRequest} {now : ℚ}
      {request : Request} {access : ChannelAccessObservation}
      (h : s.scheduler = .transmitting record current now request access false) :
      Step s (.published .dispatched s.tracker.current (some request.admission))
        { s with scheduler := .transmitting record current now request access true }
  | complete {s : State Tid R} {record current : Option TrackedTXRequest} {now : ℚ}
      {request : Request} {access : ChannelAccessObservation} {dispatched : Bool}
      {result : R} (h : s.scheduler = .transmitting record current now request access dispatched) :
      Step s (.published .complete current (some request.admission))
        { s with
          queue := (s.queue.finish now request access (.ok result)).1
          scheduler := .observed record (s.queue.finish now request access (.ok result)).2
            (some request.admission) }
  | fail {s : State Tid R} {record current : Option TrackedTXRequest} {now : ℚ}
      {request : Request} {access : ChannelAccessObservation} {dispatched : Bool}
      {e : PyError} (h : s.scheduler = .transmitting record current now request access dispatched) :
      Step s (.published .failed current (some request.admission))
        { s with
          queue := (s.queue.finish (R := R) now request access (.error e)).1
          scheduler := .observed record
            (s.queue.finish (R := R) now request access (.error e)).2 (some request.admission) }
  /-- What `observe_rssi` does with the observation. -/
  | timeout {s : State Tid R} {record : Option TrackedTXRequest}
      {observation : KISSDataQueueObservation R} {advanced : Option Admission}
      (h : s.scheduler = .observed record observation advanced)
      (hstate : observation.requestState = some .timedOut) :
      Step s (.published .timeout record advanced)
        { s with scheduler := .reported observation advanced }
  | noTimeout {s : State Tid R} {record : Option TrackedTXRequest}
      {observation : KISSDataQueueObservation R} {advanced : Option Admission}
      (h : s.scheduler = .observed record observation advanced)
      (hstate : observation.requestState ≠ some .timedOut) :
      Step s .internal { s with scheduler := .reported observation advanced }
  | finish {s : State Tid R} {observation : KISSDataQueueObservation R}
      {advanced : Option Admission} (h : s.scheduler = .reported observation advanced) :
      Step s .internal
        { s with
          tracker :=
            if terminalState observation.requestState then
              s.tracker.finish observation.requestId
            else s.tracker
          scheduler := .finished }
  | clear {s : State Tid R} (h : s.scheduler = .finished) :
      Step s .internal { s with tracker := s.tracker.clearCurrent, scheduler := .idle }

def system (Tid R : Type) [DecidableEq Tid] (config : QueueConfig) :
    System (State Tid R) (Event Tid) where
  initial s := s = ⟨.init config, .init, fun _ => .idle, .idle⟩
  step := Step

end MonitoredAdmissionQueue

end YwdTnc
