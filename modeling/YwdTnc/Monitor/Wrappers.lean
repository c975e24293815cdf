import YwdTnc.Kiss.Dispatch
import YwdTnc.Monitor.TxTracker

/-!
# The monitored transmit path

The three wrappers of the monitor around the admission queue, the contextual
submitter and the router. They share one tracker and one hub; here the hub is the
list of what the wrappers have published. A wrapper calls what it wraps and
publishes what came of it, under the tracker's current request.
-/

namespace YwdTnc

open Interaction Prog

inductive TXStage where
  | queued
  | channelClear
  | dispatched
  | complete
  | failed
  | timeout
  deriving DecidableEq, Repr

/-- A published event with the fields of its request and its own ones. -/
structure PublishedTX where
  stage : TXStage
  request : Option TrackedTXRequest
  receipt : Option TXReceipt
  error : Option String
  reason : Option String

namespace PublishedTX

/-- An event without fields of its own. -/
def plain (stage : TXStage) (request : Option TrackedTXRequest) : PublishedTX :=
  ⟨stage, request, none, none, none⟩

def requestId (event : PublishedTX) : Option ℕ := event.request.map TrackedTXRequest.requestId

end PublishedTX

/-- The tracker and the hub. -/
structure TXMonitor where
  tracker : TXRequestTracker
  published : List PublishedTX

namespace TXMonitor

def init : TXMonitor := ⟨.init, []⟩

def publish (monitor : TXMonitor) (event : PublishedTX) : TXMonitor :=
  { monitor with published := monitor.published ++ [event] }

end TXMonitor

/-- What the wrappers have below the half-duplex coordinator. -/
structure MonitoredStack where
  armed : ArmedContextAdapter
  monitor : TXMonitor

namespace MonitoredStack

variable {R : Type}

def update (f : TXMonitor → TXMonitor) : PortProg R MonitoredStack Unit :=
  modify fun s => { s with monitor := f s.monitor }

end MonitoredStack

/-- `MonitoredContextualRouter.submit_frame`. -/
def MonitoredContextualRouter.submitFrame {R : Type} (frameWithFcs : Bytes)
    (context : TNCTransmitContext) (timeout : Option ℚ) :
    PortProg R MonitoredStack TXReceipt := do
  let receipt ← zoom (fun s => s.armed.router)
    (fun s router => { s with armed := { s.armed with router } })
    (ContextualTXDelayRouter.submitFrame frameWithFcs context timeout)
  MonitoredStack.update fun monitor =>
    monitor.publish ⟨.dispatched, monitor.tracker.current, some receipt, none, none⟩
  return receipt

namespace MonitoredStack

variable {R : Type}

/-- The adapter's `submit_frame` over the monitored router. -/
def submitFrame (frameWithFcs : Bytes) (timeout : ℚ) : PortProg R MonitoredStack TXReceipt := do
  let s ← get
  match s.armed.context with
  | none =>
      raise ⟨.runtimeError, "P4e downstream called without an armed P7 context"⟩
  | some context =>
      MonitoredContextualRouter.submitFrame frameWithFcs context (some timeout)

def arm (context : TNCTransmitContext) : PortProg R MonitoredStack Unit :=
  zoom armed (fun s armed => { s with armed }) (ArmedContextAdapter.arm context)

def disarm (s : MonitoredStack) : MonitoredStack := { s with armed := s.armed.disarm }

end MonitoredStack

/-- The contextual submitter over the monitored router. -/
abbrev MonitoredSubmitter := HalfDuplexSnapshot × MonitoredStack

namespace MonitoredSubmitter

variable {R : Type}

/-- `ContextualHalfDuplexSubmitter.submit_frame`. -/
def contextual (parameters : HalfDuplexParameters) (frameWithFcs : Bytes)
    (context : TNCTransmitContext) (timeout : Option ℚ) :
    PortProg R MonitoredSubmitter TXReceipt := do
  PersistentHalfDuplexSubmitter.inner (MonitoredStack.arm context)
  ensuring (PersistentHalfDuplexSubmitter.submitFrame parameters MonitoredStack.submitFrame
      frameWithFcs timeout)
    fun s => (s.1, s.2.disarm)

def update (f : TXMonitor → TXMonitor) : PortProg R MonitoredSubmitter Unit :=
  modify fun s => (s.1, { s.2 with monitor := f s.2.monitor })

def publish (event : PublishedTX) : PortProg R MonitoredSubmitter Unit :=
  update fun monitor => monitor.publish event

end MonitoredSubmitter

/-- `MonitoredContextualLifecycle.submit_frame`. -/
def MonitoredContextualLifecycle.submitFrame {R : Type} (parameters : HalfDuplexParameters)
    (frameWithFcs : Bytes) (context : TNCTransmitContext) (timeout : Option ℚ) :
    PortProg R MonitoredSubmitter TXReceipt := do
  let s ← get
  let record := s.2.monitor.tracker.current
  MonitoredSubmitter.publish (.plain .channelClear record)
  match ← attempt (MonitoredSubmitter.contextual parameters frameWithFcs context timeout) with
  | .error e =>
      MonitoredSubmitter.publish ⟨.failed, record, none, some e.describe, none⟩
      raise e
  | .ok result =>
      MonitoredSubmitter.publish (.plain .complete record)
      return result

/-- The queue with everything below it. -/
structure MonitoredPath where
  queue : KISSDataAdmissionQueue
  submitter : MonitoredSubmitter

namespace MonitoredPath

variable {R : Type}

def monitor (s : MonitoredPath) : TXMonitor := s.submitter.2.monitor

def setMonitor (s : MonitoredPath) (monitor : TXMonitor) : MonitoredPath :=
  { s with submitter := (s.submitter.1, { s.submitter.2 with monitor }) }

def init (config : QueueConfig) (router : ContextualTXDelayRouter) : MonitoredPath where
  queue := .init config
  submitter := (.init, ⟨.init router, .init⟩)

/-- `MonitoredAdmissionQueue.enqueue`. -/
def enqueue (s : MonitoredPath) (frameNoFcs : Bytes) (context : TNCTransmitContext) (now : ℚ) :
    MonitoredPath × Except PyError KISSDataRequestReceipt :=
  match s.queue.enqueue frameNoFcs context now with
  | (queue, .error e) => ({ s with queue }, .error e)
  | (queue, .ok receipt) =>
      let monitor := { s.monitor with tracker := s.monitor.tracker.add receipt frameNoFcs }
      let record := TXRequestTracker.record receipt frameNoFcs
      ({ s with queue }.setMonitor (monitor.publish (.plain .queued (some record))), .ok receipt)

/-- The queue's `observe_rssi` over the monitored lifecycle. -/
def delegate (parameters : HalfDuplexParameters) (queue : KISSDataAdmissionQueue) (now : ℚ)
    (raw : ℤ) (source : RandomByteSource) : PortProg R MonitoredSubmitter
      (KISSDataAdmissionQueue × Except PyError (KISSDataQueueObservation TXReceipt)) :=
  queue.observeRssi (fun frameWithFcs context timeout => attempt
    (MonitoredContextualLifecycle.submitFrame parameters frameWithFcs context
      (some timeout))) now raw source

/-- What the wrapper does with an observation. -/
def account (record : Option TrackedTXRequest)
    (observation : KISSDataQueueObservation TXReceipt) (monitor : TXMonitor) : TXMonitor :=
  let monitor :=
    if observation.requestState = some .timedOut then
      monitor.publish ⟨.timeout, record, none, none, some observation.reason⟩
    else monitor
  if MonitoredAdmissionQueue.terminalState observation.requestState then
    { monitor with tracker := monitor.tracker.finish observation.requestId }
  else monitor

/-- The body of the `try` of `MonitoredAdmissionQueue.observe_rssi`. -/
def observe (parameters : HalfDuplexParameters) (record : Option TrackedTXRequest)
    (queue : KISSDataAdmissionQueue) (now : ℚ) (raw : ℤ) (source : RandomByteSource) :
    PortProg R MonitoredSubmitter
      (KISSDataAdmissionQueue × Except PyError (KISSDataQueueObservation TXReceipt)) := do
  let (queue, result) ← delegate parameters queue now raw source
  match result with
  | .error e => return (queue, .error e)
  | .ok observation =>
      MonitoredSubmitter.update (account record observation)
      return (queue, .ok observation)

/-- `MonitoredAdmissionQueue.observe_rssi`. -/
def observeRssi (parameters : HalfDuplexParameters) (queue : KISSDataAdmissionQueue) (now : ℚ)
    (raw : ℤ) (source : RandomByteSource) : PortProg R MonitoredSubmitter
      (KISSDataAdmissionQueue × Except PyError (KISSDataQueueObservation TXReceipt)) := do
  let s ← get
  let (tracker, record) ← ofExcept (s.2.monitor.tracker.beginObservation raw)
  MonitoredSubmitter.update fun monitor => { monitor with tracker }
  ensuring (observe parameters record queue now raw source)
    fun s => (s.1, { s.2 with
      monitor := { s.2.monitor with tracker := s.2.monitor.tracker.clearCurrent } })

end MonitoredPath

end YwdTnc
