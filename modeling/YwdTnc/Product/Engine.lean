import YwdTnc.Product.Config
import YwdTnc.Service.Handlers

/-!
# The engine

`TNCEngine` over one modem: the thread of its caller, the worker of its runtime and the
handlers of its clients. `start` brings the modem up, composes the transmit path and the
runtime, and opens the listeners; `_cleanup` takes them down step by step. What the host
does (threads, sockets, the owner's own thread) is an input of a turn.
-/

namespace YwdTnc

open Interaction Prog

inductive Listener where
  | kiss
  | agw
  | monitor
  deriving DecidableEq

def TNCConfig.listener (config : TNCConfig) : Listener → ListenerConfig
  | .kiss => config.kiss
  | .agw => config.agw
  | .monitor => config.monitor

/-- The operations of the host, each of which may raise. -/
inductive HostOperation where
  | startOwner
  | ownerRunning
  | stopOwner
  | bind (l : Listener)
  | isAlive (l : Listener)
  | shutDown (l : Listener)
  | joinWorker
  | stopBrokers

abbrev HostOutcomes := HostOperation → Except PyError Bool

/-- What the threads of an engine share. The transmit path, the backend and the runtime
are there once `start` has made them; a listener is served once its server was started. -/
structure EngineState where
  tnc : Option Tnc
  identity : String
  owner : Bool
  started : Bool
  stopped : Bool
  rxStarted : Bool
  workerStarted : Bool
  serving : Listener → Bool

namespace EngineState

/-- An engine right after its construction. -/
def init : EngineState := ⟨none, "", false, false, false, false, false, fun _ => false⟩

/-- `tx_queue_depth` of the snapshot. -/
def txQueueDepth (s : EngineState) : ℕ :=
  match s.tnc with
  | none => 0
  | some tnc => tnc.path.queue.queue.length

variable {R α : Type}

/-- A program on the parts that `start` has made. -/
def onTnc (p : PortProg R Tnc α) : PortProg R EngineState (Option α) := do
  let s ← get
  match s.tnc with
  | none => return none
  | some tnc =>
      let a ← zoom (fun s : EngineState => s.tnc.getD tnc)
        (fun s tnc => { s with tnc := some tnc }) p
      return some a

end EngineState

namespace TNCEngine

variable {R : Type}

def engineError (message : String) : PyError := ⟨.tncEngineError, message⟩

/-! ### `start` -/

def requireIdentity (config : TNCConfig) (version : VersionResponse) : Except PyError Unit :=
  if version.identity ≠ config.requiredIdentity then
    .error (engineError ("packet firmware identity mismatch: expected='" ++
      config.requiredIdentity ++ "' actual='" ++ version.identity ++ "'"))
  else if version.identity ≠ QUALIFIED_FIRMWARE_IDENTITY then
    .error (engineError "runtime identity is outside the qualified AX25R4 lineage")
  else .ok ()

def requireIdle (status : RFStatus) (diag : RFDiagnostics) : Except PyError Unit :=
  if status.remainingSelectors ≠ 0 ∨ diag.txActive ≠ 0 then
    .error (engineError "modem RF path is not idle before startup")
  else .ok ()

/-- The one tuning of a run. -/
def tune (config : TNCConfig) : PortProg R EngineState Unit :=
  if config.txEnabled = true then
    Port.applyTxProfile config.frequencyHz config.txPower (3 / 2)
  else Port.setRxFrequency config.frequencyHz (3 / 2)

/-- The parameters of the session; they are in their ranges in a valid configuration. -/
def initialParameters (config : TNCConfig) : TNCParameterSnapshot :=
  { TNCParameterSnapshot.default with
    txdelay := config.txdelay.toNat
    persist := config.persist.toNat
    slottime := config.slottime.toNat }

/-- From the router to the runtime. -/
def compose (config : TNCConfig) : PortProg R EngineState Unit := do
  let session ← ofExcept (TNCSessionState.init (initialParameters config))
  modify fun s => { s with tnc := some (.init .engine session config.txEnabled .engine) }

def startRuntime (config : TNCConfig) : PortProg R EngineState Unit := do
  let _ ← EngineState.onTnc
    (SustainedTNCRuntime.start (.engine config.requiredIdentity) (3 / 2))
  modify fun s => { s with workerStarted := true }

/-- `start` up to the listeners. -/
def bringUp (config : TNCConfig) (host : HostOutcomes) : PortProg R EngineState Unit := do
  modify fun s => { s with owner := true }
  let _ ← ofExcept (host .startOwner)
  let version ← Port.getVersion (3 / 2)
  ofExcept (requireIdentity config version)
  modify fun s => { s with identity := version.identity }
  let status ← Port.rfStatus (3 / 2)
  let diag ← Port.rfDiagnostics (3 / 2)
  ofExcept (requireIdle status diag)
  tune config
  Port.armRxModemIo (3 / 2)
  Port.rxStart (3 / 2)
  modify fun s => { s with rxStarted := true }
  compose config
  startRuntime config

/-- `start_server_thread` and its two siblings. -/
def openListener (config : TNCConfig) (host : HostOutcomes) (l : Listener) :
    PortProg R EngineState Unit := do
  let listener := config.listener l
  let name := match l with
    | .kiss => "KISS"
    | .agw => "AGW"
    | .monitor => "monitor"
  if listener.enabled = true then
    if ¬ (0 ≤ listener.port ∧ listener.port ≤ 65535) then
      raise (.valueError (name ++ " TCP port must be 0..65535"))
    else
      let _ ← ofExcept (host (.bind l))
      modify fun s => { s with serving := Function.update s.serving l true }

/-! ### `check_health` -/

def checkListener (config : TNCConfig) (host : HostOutcomes) (l : Listener) (message : String) :
    PortProg R EngineState Unit := do
  let s ← get
  if (config.listener l).enabled = true then
    if s.serving l = true then
      if (← ofExcept (host (.isAlive l))) = true then return ()
      else raise (engineError message)
    else raise (engineError message)

def checkHealth (config : TNCConfig) (host : HostOutcomes) : PortProg R EngineState Unit := do
  let s ← get
  match s.owner, s.tnc with
  | true, some tnc =>
      if (← ofExcept (host .ownerRunning)) = true then
        ofExcept tnc.runtime.checkHealth
        checkListener config host .kiss "KISS listener is not running"
        checkListener config host .agw "AGW listener is not running"
        checkListener config host .monitor "monitor listener is not running"
      else raise (engineError "modem owner is not running")
  | _, _ => raise (engineError "TNC engine is not started")

/-! ### `_cleanup` -/

/-- The steps of `_cleanup`; `stop` of the runtime is two of them, the worker goes on
between its flag and its end. -/
inductive CleanupStep where
  | closeListener (l : Listener)
  | signalRuntime
  | joinRuntime
  | closeRouter
  | stopRx
  | stopOwner

def cleanupSteps : List CleanupStep :=
  [.closeListener .monitor, .closeListener .agw, .closeListener .kiss, .signalRuntime,
    .joinRuntime, .closeRouter, .stopRx, .stopOwner]

def joinRuntime (host : HostOutcomes) : PortProg R EngineState Unit := do
  let s ← get
  match s.tnc with
  | none => return ()
  | some tnc =>
      if s.workerStarted = true then
        let _ ← ofExcept (host .joinWorker)
      ofExcept tnc.runtime.checkHealth

def closeRouter (host : HostOutcomes) : PortProg R EngineState Unit := do
  let s ← get
  match s.tnc with
  | none => return ()
  | some _ =>
      let _ ← EngineState.onTnc (modify fun s => { s with path := { s.path with
        submitter := (s.path.submitter.1,
          { s.path.submitter.2 with router := s.path.submitter.2.router.close }) } })
      let _ ← ofExcept (host .stopBrokers)

def CleanupStep.run (host : HostOutcomes) : CleanupStep → PortProg R EngineState Unit
  | .closeListener l => do
      let s ← get
      if s.serving l = true then
        ensuring (do let _ ← ofExcept (host (.shutDown l)))
          fun s => { s with serving := Function.update s.serving l false }
  | .signalRuntime => do
      let _ ← EngineState.onTnc (SustainedTNCRuntime.update fun r => { r with stop := true })
  | .joinRuntime => TNCEngine.joinRuntime host
  | .closeRouter => TNCEngine.closeRouter host
  | .stopRx => do
      let s ← get
      if s.owner = true ∧ s.rxStarted = true then
        ensuring (Port.rxStop (3 / 2)) fun s => { s with rxStarted := false }
  | .stopOwner => do
      let s ← get
      if s.owner = true then
        let _ ← ofExcept (host .stopOwner)

/-! ### The thread of the caller -/

inductive EngineCall where
  | start
  | checkHealth
  | stop

/-- Where the caller of the engine stands: between two calls, with the result of the last
one; in `start` before the listeners that are left; in `_cleanup`, with the errors so far
and the exception of a failed `start`. -/
inductive Main where
  | resting (result : Except PyError Unit)
  | opening (listeners : List Listener)
  | cleaning (steps : List CleanupStep) (errors : List PyError) (raised : Option PyError)

/-- What `_cleanup` is the end of: a failed `start`, or `stop`. -/
def cleaned (errors : List PyError) : Option PyError → Except PyError Unit
  | some e => .error e
  | none =>
      if errors = [] then .ok ()
      else .error (engineError "one or more TNC shutdown operations failed")

namespace Main

def call (config : TNCConfig) (host : HostOutcomes) : EngineCall → PortProg R EngineState Main
  | .start => do
      let s ← get
      if s.started = true then
        return resting (.error (engineError "TNC engine cannot be restarted"))
      else
        modify fun s => { s with started := true }
        match ← attempt (bringUp config host) with
        | .ok () => return opening [.kiss, .agw, .monitor]
        | .error e => return cleaning cleanupSteps [] (some e)
  | .checkHealth => do
      let result ← attempt (TNCEngine.checkHealth config host)
      return resting result
  | .stop => do
      let s ← get
      if s.stopped = true then return resting (.ok ())
      else
        modify fun s => { s with stopped := true }
        return cleaning cleanupSteps [] none

def turn (config : TNCConfig) (host : HostOutcomes) (next : EngineCall) :
    Main → PortProg R EngineState Main
  | resting _ => call config host next
  | opening [] => do
      match ← attempt (TNCEngine.checkHealth config host) with
      | .ok () => return resting (.ok ())
      | .error e => return cleaning cleanupSteps [] (some e)
  | opening (l :: listeners) => do
      match ← attempt (openListener config host l) with
      | .ok () => return opening listeners
      | .error e => return cleaning cleanupSteps [] (some e)
  | cleaning [] errors raised => return resting (cleaned errors raised)
  | cleaning (step :: steps) errors raised => do
      match ← attempt (step.run host) with
      | .ok () => return cleaning steps errors raised
      | .error e => return cleaning steps (errors ++ [e]) raised

end Main

/-! ### The threads -/

inductive EngineThread (C : Type) where
  | main
  | worker
  | client (c : C)
  deriving DecidableEq

inductive EngineLocal where
  | main (m : Main)
  | worker (w : Worker)
  | client (h : Handler)
  | halted

/-- What a turn takes from outside, of which each thread uses its own part. -/
structure EngineInput where
  call : EngineCall
  host : HostOutcomes
  randomByte : Except PyError ℤ
  decoding : Decoding
  listener : Listener
  data : Option Bytes

/-- The decoder of a connection to a listener that is served. -/
def accept (s : EngineState) (l : Listener) : Option ConnectionDecoder :=
  if s.serving l = true then
    match l with
    | .kiss => (KISSStreamDecoder.init MAX_BODY_BYTES).toOption.map .kiss
    | .agw => some (.agw .init)
    | .monitor => none
  else none

def turn (config : TNCConfig) (l : EngineLocal) (input : EngineInput) :
    PortProg R EngineState EngineLocal :=
  match l with
  | .main m => do
      let m ← m.turn config input.host input.call
      return .main m
  | .worker w => do
      let s ← get
      if s.workerStarted = true then
        let next ← EngineState.onTnc (w.turn (.engine config.requiredIdentity) .default
          (some input.randomByte) input.decoding)
        return .worker (next.getD w)
      else return .worker w
  | .client h => do
      let s ← get
      let next ← EngineState.onTnc (h.turn (accept s input.listener) input.data)
      return .client (next.getD h)
  | .halted => return .halted

def code (R : Type) (config : TNCConfig) :
    ThreadCode (PortQuery.Answer R) PyError EngineState EngineLocal EngineInput where
  turn := turn config
  halted := .halted

/-- An engine that was just constructed: its configuration has been accepted, and no
method has been called. -/
structure Initial {C : Type} (config : TNCConfig)
    (x : Threads (EngineThread C) EngineState EngineLocal) : Prop where
  accepted : validateConfig config = .ok ()
  shared : x.shared = .init
  main : x.thread .main = .main (.resting (.ok ()))
  worker : x.thread .worker = .worker .starting
  client : ∀ c, x.thread (.client c) = .client .closed

/-- The engine with any number of clients. -/
def system (R C : Type) [DecidableEq C] (config : TNCConfig) :
    System (Threads (EngineThread C) EngineState EngineLocal)
      (Turn (PortQuery.Answer R) PyError (EngineThread C) EngineLocal EngineInput) :=
  (code R config).system (Initial config)

/-- The requests that a run hands to the transport. -/
def handed {R C : Type} (es : List (Turn (PortQuery.Answer R) PyError (EngineThread C)
    EngineLocal EngineInput)) : List Bytes :=
  (es.flatMap Turn.trace).filterMap fun c => c.query.handed

end TNCEngine

end YwdTnc
