import YwdTnc.Interaction.Returning
import YwdTnc.Modem.Healthy
import YwdTnc.Monitor.FrameText
import YwdTnc.Phy.Returned

/-!
# The receive runtime

`RXOnlyPacketRuntime`: a `start` that takes the modem to an active capture, a worker that reads the
capture into the streaming decoder and publishes what it finds, and a `stop` that ends the capture,
reads it empty and checks what is left. The worker and the caller of `stop` do not overlap, as
`stop` joins the worker first; how often the worker finds the stop flag clear is an input. A
`stop` that returns has read everything, and whatever has been read has gone through the decoder
(`session_stopped`).
-/

namespace YwdTnc

open Interaction Prog

def IDLE_RX_FLAGS : ℕ := 0x04

def ARMED_IDLE_RF_FLAGS : ℕ := 0x08

structure PacketEvent where
  frameNoFcs : Bytes
  source : String
  destination : String
  frameType : String
  deriving DecidableEq

/-- The arguments of the runtime as the constructor accepts them, and its owner's default
time-out. -/
structure RXRuntimeConfig where
  expectedIdentity : String
  frequencyHz : Option ℤ
  readMaximum : ℕ
  idleSleepSeconds : ℚ
  statusIntervalSeconds : ℚ
  transactionTimeoutSeconds : ℚ
  frequency_pos : ∀ frequency ∈ frequencyHz, 0 < frequency
  one_le_readMaximum : 1 ≤ readMaximum
  readMaximum_le : readMaximum ≤ 200
  idleSleep_nonneg : 0 ≤ idleSleepSeconds
  statusInterval_pos : 0 < statusIntervalSeconds

def DEFAULT_READ_MAXIMUM : ℕ := 200
def DEFAULT_IDLE_SLEEP_SECONDS : ℚ := 1 / 500
def DEFAULT_STATUS_INTERVAL_SECONDS : ℚ := 1

def RXRuntimeConfig.default (expectedIdentity : String) (transactionTimeoutSeconds : ℚ) :
    RXRuntimeConfig where
  expectedIdentity := expectedIdentity
  frequencyHz := none
  readMaximum := DEFAULT_READ_MAXIMUM
  idleSleepSeconds := DEFAULT_IDLE_SLEEP_SECONDS
  statusIntervalSeconds := DEFAULT_STATUS_INTERVAL_SECONDS
  transactionTimeoutSeconds := transactionTimeoutSeconds
  frequency_pos := by simp
  one_le_readMaximum := by decide
  readMaximum_le := by decide
  idleSleep_nonneg := by decide +kernel
  statusInterval_pos := by decide +kernel

/-- `StreamingBell202Decoder()`. -/
abbrev FrozenDecoder : Type :=
  StreamingBell202Decoder (Hypothesis.bank DEFAULT_BAUDS DEFAULT_PHASES).length

/-- No sample ends more than one symbol of each hypothesis. -/
def DECODER_STEPS : ℕ := 145

structure RXOnlyPacketRuntime where
  decoder : FrozenDecoder
  identity : String
  readTransactions : ℕ
  packedBytes : ℕ
  decodedFrames : ℕ
  statusChecks : ℕ
  firmwareSamples : ℕ
  fifoAvailable : ℕ
  fifoDropped : ℕ
  failure : Option PyError
  rxStarted : Bool
  /-- The events that the backend has been given. -/
  published : List PacketEvent

def RXRuntimeError (message : String) : PyError := ⟨.other "RXRuntimeError", message⟩

/-- The event of a parsed frame. -/
def PacketEvent.of (frame : Bytes) (parsed : ParsedFrame) : PacketEvent where
  frameNoFcs := frame.take (frame.length - 2)
  source := parsed.source.text
  destination := parsed.destination.text
  frameType := parsed.frameType

namespace RXOnlyPacketRuntime

def init : RXOnlyPacketRuntime where
  decoder := .ofBank (Hypothesis.bank DEFAULT_BAUDS DEFAULT_PHASES)
  identity := ""
  readTransactions := 0
  packedBytes := 0
  decodedFrames := 0
  statusChecks := 0
  firmwareSamples := 0
  fifoAvailable := 0
  fifoDropped := 0
  failure := none
  rxStarted := false
  published := []

variable {R : Type} (metricTable : BitVec CORR_WINDOW → ℚ) (config : RXRuntimeConfig)

def recordStatus (status : RX3Status) : PortProg R RXOnlyPacketRuntime Unit :=
  modify fun s => { s with
    statusChecks := s.statusChecks + 1
    firmwareSamples := status.samples
    fifoAvailable := status.availableBytes
    fifoDropped := status.droppedBytes }

/-- A status report, which is recorded and held against `require`. -/
def checkStatus (require : RX3Status → Except PyError Unit) (timeout : ℚ) :
    PortProg R RXOnlyPacketRuntime Unit := do
  let status ← Port.rxStatus timeout
  recordStatus status
  ofExcept (require status)

def requireNoDrops (status : RX3Status) : Except PyError Unit :=
  if status.droppedBytes ≠ 0 then
    .error (RXRuntimeError
      ("packet RX FIFO dropped " ++ toString status.droppedBytes ++ " packed bytes"))
  else .ok ()

def requireActiveStatus (status : RX3Status) : Except PyError Unit :=
  if status.flags ≠ ACTIVE_RX_FLAGS then
    .error (RXRuntimeError ("packet RX flags changed: expected=0x" ++
      hex02Lower ACTIVE_RX_FLAGS ++ " actual=0x" ++ hex02Lower status.flags))
  else requireNoDrops status

/-- A frame that does not parse ends the call. -/
def publish (item : StreamingFrame) : PortProg R RXOnlyPacketRuntime Unit := do
  let parsed ← ofExcept (parseFrame item.frame true)
  modify fun s => { s with
    published := s.published ++ [.of item.frame parsed]
    decodedFrames := s.decodedFrames + 1 }

def publishAll : List StreamingFrame → PortProg R RXOnlyPacketRuntime Unit
  | [] => return ()
  | item :: items => do
      publish item
      publishAll items

/-- `self._decoder.feed(packed)`; its loop over the due symbols would go on without an end if the
steps did not suffice. -/
def feedDecoder (packed : Bytes) : PortProg R RXOnlyPacketRuntime (List StreamingFrame) := do
  let s ← get
  match s.decoder.feed metricTable DECODER_STEPS packed with
  | some (fresh, decoder) => do
      modify fun s => { s with decoder }
      return fresh
  | none => iterate (return none)

def consume (packed : Bytes) : PortProg R RXOnlyPacketRuntime Unit := do
  let fresh ← feedDecoder metricTable packed
  modify fun s => { s with packedBytes := s.packedBytes + packed.length }
  publishAll fresh

/-- A read of the capture that is counted. -/
def readChunk (timeout : ℚ) : PortProg R RXOnlyPacketRuntime Bytes := do
  let chunk ← Port.rxRead config.readMaximum timeout
  modify fun s => { s with readTransactions := s.readTransactions + 1 }
  return chunk

def safeQuiesce (timeout : ℚ) : PortProg R RXOnlyPacketRuntime Unit := do
  let s ← get
  if s.rxStarted then do
    let _ ← attempt (Port.rxStop timeout)
    modify fun s => { s with rxStarted := false }
  else return ()

/-- The part of `start` that the stock firmware answers, and the check of the armed modem. -/
def configure (timeout : ℚ) : PortProg R RXOnlyPacketRuntime Unit := do
  let version ← Port.getVersion timeout
  if version.identity ≠ config.expectedIdentity then
    raise (RXRuntimeError ("packet firmware identity mismatch: expected='" ++
      config.expectedIdentity ++ "' actual='" ++ version.identity ++ "'"))
  else do
    modify fun s => { s with identity := version.identity }
    match config.frequencyHz with
    | none => return ()
    | some frequencyHz => do
        Port.setRxFrequency frequencyHz timeout
        Port.armRxModemIo timeout
        let rf ← Port.rfStatus timeout
        if rf.flags ≠ ARMED_IDLE_RF_FLAGS ∨ rf.remainingSelectors ≠ 0 ∨ rf.mode ≠ 0 then
          raise (RXRuntimeError ("modem IO did not enter armed idle before packet RX: flags=0x" ++
            hex02Lower rf.flags ++ " remaining=" ++ toString rf.remainingSelectors ++ " mode=" ++
            toString rf.mode))
        else return ()

/-- The part of `start` from `rx_start` on. -/
def activate (timeout : ℚ) : PortProg R RXOnlyPacketRuntime Unit := do
  Port.rxStart timeout
  modify fun s => { s with rxStarted := true }
  checkStatus requireActiveStatus timeout

/-- `start` behind the owner's, up to the new thread. -/
def start (timeout : ℚ) : PortProg R RXOnlyPacketRuntime Unit := do
  match ← attempt (do configure config timeout; activate timeout) with
  | .ok () => return ()
  | .error e => do
      safeQuiesce timeout
      raise e

/-- What a round does with the chunk that it has read. -/
def handle (chunk : Bytes) : PortProg R RXOnlyPacketRuntime Unit :=
  if chunk ≠ [] then consume metricTable chunk
  else if config.idleSleepSeconds ≠ 0 then Port.sleep config.idleSleepSeconds
  else return ()

/-- The status check of a round, once it is due. -/
def checkDue (nextStatus : ℚ) : PortProg R RXOnlyPacketRuntime ℚ := do
  let now ← Port.monotonic
  if nextStatus ≤ now then do
    checkStatus requireActiveStatus config.transactionTimeoutSeconds
    return now + config.statusIntervalSeconds
  else return nextStatus

/-- A round of the loop of `_run`, from `next_status` to the next one. -/
def round (nextStatus : ℚ) : PortProg R RXOnlyPacketRuntime ℚ := do
  let chunk ← readChunk config config.transactionTimeoutSeconds
  handle metricTable config chunk
  checkDue config nextStatus

/-- The loop, which has found the stop flag clear `n` times when it ends. -/
def rounds : ℕ → ℚ → PortProg R RXOnlyPacketRuntime Unit
  | 0, _ => return ()
  | n + 1, nextStatus => do
      let nextStatus ← round metricTable config nextStatus
      rounds n nextStatus

/-- The worker, `_run`. -/
def run (n : ℕ) : PortProg R RXOnlyPacketRuntime Unit := do
  let now ← Port.monotonic
  match ← attempt (rounds metricTable config n (now + config.statusIntervalSeconds)) with
  | .ok () => return ()
  | .error e => do
      modify fun s => { s with failure := some e }
      safeQuiesce 1

/-- A round of the loop of `_stop_and_drain`. -/
def drainRound (timeout : ℚ) : PortProg R RXOnlyPacketRuntime (Option Unit) := do
  let chunk ← readChunk config timeout
  if chunk = [] then return some ()
  else do
    consume metricTable chunk
    return none

def requireIdleStatus (status : RX3Status) : Except PyError Unit :=
  if status.flags ≠ IDLE_RX_FLAGS then
    .error (RXRuntimeError
      ("packet RX did not return to armed idle: flags=0x" ++ hex02Lower status.flags))
  else if status.availableBytes ≠ 0 then
    .error (RXRuntimeError
      ("packet RX FIFO not empty after stop: " ++ toString status.availableBytes ++ " bytes"))
  else requireNoDrops status

def stopAndDrain (timeout : ℚ) : PortProg R RXOnlyPacketRuntime Unit := do
  let s ← get
  if s.rxStarted then do
    Port.rxStop timeout
    modify fun s => { s with rxStarted := false }
    iterate (drainRound metricTable config timeout)
    checkStatus requireIdleStatus timeout
  else return ()

/-- `stop` behind the join, less the owner's. -/
def stop (timeout : ℚ) : PortProg R RXOnlyPacketRuntime Unit := do
  match ← attempt (stopAndDrain metricTable config timeout) with
  | .ok () => do
      let s ← get
      if s.failure.isSome then raise (RXRuntimeError "RX runtime failed") else return ()
  | .error _ => do
      let s ← get
      raise (RXRuntimeError
        (if s.failure.isSome then "RX runtime failed" else "RX runtime cleanup failed"))

/-- A runtime from its start to its stop, whose worker goes round `n` times. -/
def session (startTimeout : ℚ) (n : ℕ) (stopTimeout : ℚ) :
    PortProg R RXOnlyPacketRuntime Unit := do
  start config startTimeout
  run metricTable config n
  stop metricTable config stopTimeout

end RXOnlyPacketRuntime

/-! ### What has gone through the decoder -/

/-- A call that returned a value and that leaves the modem's modes alone, except for STOP. -/
structure PortQuery.Receives {R : Type} (c : PortCall R) : Prop where
  query : match c.query with
    | .rxRead _ _ | .rxStatus _ | .rxStop _ | .monotonic | .sleep _ => True
    | _ => False
  answered : ∃ a, c.answer = some (.ok a)

/-- The octets that a call has read. -/
def octetsOf {R : Type} : PortCall R → Bytes
  | ⟨.rxRead _ _, some (.ok chunk)⟩ => chunk
  | _ => []

def octetsRead {R : Type} (t : List (PortCall R)) : Bytes := t.flatMap octetsOf

@[simp] theorem octetsRead_append {R : Type} (t t' : List (PortCall R)) :
    octetsRead (t ++ t') = octetsRead t ++ octetsRead t' :=
  List.flatMap_append

namespace RXOnlyPacketRuntime

/-- The event of a frame that the decoder has returned. -/
def Announces (item : StreamingFrame) (event : PacketEvent) : Prop :=
  ∃ parsed, parseFrame item.frame true = .ok parsed ∧ event = .of item.frame parsed

theorem mem_of_announces {items : List StreamingFrame} {events : List PacketEvent}
    {item : StreamingFrame} {parsed : ParsedFrame} (h : List.Forall₂ Announces items events)
    (hitem : item ∈ items) (hparse : parseFrame item.frame true = .ok parsed) :
    .of item.frame parsed ∈ events := by
  induction h with
  | nil => cases hitem
  | cons hfirst _ ih =>
      rcases List.mem_cons.mp hitem with rfl | hitem
      · obtain ⟨parsed', hparse', rfl⟩ := hfirst
        cases hparse.symm.trans hparse'
        exact List.mem_cons_self
      · exact List.mem_cons_of_mem _ (ih hitem)

/-- The decoder has had the chunks `calls`, and all that it has returned is published but for the
frames `due`. -/
structure Decoded (metricTable : BitVec CORR_WINDOW → ℚ) (calls : List Bytes)
    (due : List StreamingFrame) (s : RXOnlyPacketRuntime) : Prop where
  fed : ∃ returned done, init.decoder.feedCalls metricTable DECODER_STEPS calls =
      some (returned, s.decoder) ∧
    returned.flatten = done ++ due ∧ List.Forall₂ Announces done s.published
  packedBytes : s.packedBytes = calls.flatten.length
  decodedFrames : s.decodedFrames = s.published.length

section Leaves

variable {R : Type} {metricTable : BitVec CORR_WINDOW → ℚ} {config : RXRuntimeConfig}

/-- The calls behind START have been answered, and of the octets read all but `chunk` have gone
through the decoder. -/
structure Feeds (metricTable : BitVec CORR_WINDOW → ℚ) (started : Bool) (chunk : Bytes)
    (s : RXOnlyPacketRuntime) (t : List (PortCall R)) : Prop where
  started_eq : s.rxStarted = started
  receives : ∀ c ∈ t, PortQuery.Receives c
  decoded : ∃ calls, calls.flatten ++ chunk = octetsRead t ∧ Decoded metricTable calls [] s

/-- A call that reads nothing. -/
theorem Feeds.call {started : Bool} {chunk : Bytes} {s : RXOnlyPacketRuntime}
    {t : List (PortCall R)} (h : Feeds metricTable started chunk s t) {c : PortCall R}
    (hc : PortQuery.Receives c) (hnone : octetsOf c = []) :
    Feeds metricTable started chunk s (t ++ [c]) := by
  obtain ⟨hstarted, hreceives, calls, hoctets, hdecoded⟩ := h
  refine ⟨hstarted, fun c' hc' => ?_, calls, ?_, hdecoded⟩
  · rcases List.mem_append.mp hc' with hc' | hc'
    · exact hreceives c' hc'
    · rwa [List.mem_singleton.mp hc']
  · rw [hoctets, octetsRead_append]
    simp [octetsRead, hnone]

theorem publishAll_leaves {calls : List Bytes} {P : RXOnlyPacketRuntime → List (PortCall R) → Prop}
    (hP : ∀ s t published decodedFrames, P s t →
      P { s with published := published, decodedFrames := decodedFrames } t)
    (items : List StreamingFrame) :
    Leaves (fun s t => Decoded metricTable calls items s ∧ P s t) (publishAll (R := R) items)
      fun _ s t => Decoded metricTable calls [] s ∧ P s t := by
  induction items with
  | nil => exact leaves_pure fun s t h => h
  | cons item items ih =>
      refine Leaves.bind (M := fun _ s t => Decoded metricTable calls items s ∧ P s t) ?_
        fun _ => ih
      refine Leaves.bind (M := fun parsed s t => parseFrame item.frame true = .ok parsed ∧
        Decoded metricTable calls (item :: items) s ∧ P s t)
        (leaves_ofExcept fun s t parsed hparsed h => ⟨hparsed, h⟩) fun parsed => ?_
      refine leaves_modify fun s t h => ?_
      obtain ⟨hparsed, ⟨⟨returned, done, hfed, hreturned, hdone⟩, hpacked, hcount⟩, hs⟩ := h
      refine ⟨⟨⟨returned, done ++ [item], hfed, ?_, ?_⟩, hpacked, ?_⟩, hP s t _ _ hs⟩
      · rw [hreturned, List.append_assoc, List.singleton_append]
      · exact List.rel_append hdone (.cons ⟨parsed, hparsed, rfl⟩ .nil)
      · simp [hcount]

theorem feedDecoder_leaves {pre : RXOnlyPacketRuntime → List (PortCall R) → Prop}
    (packed : Bytes) :
    Leaves pre (feedDecoder metricTable packed) fun fresh s' t => ∃ s decoder, pre s t ∧
      s.decoder.feed metricTable DECODER_STEPS packed = some (fresh, decoder) ∧
      s' = { s with decoder := decoder } := by
  unfold feedDecoder
  refine Leaves.bind (M := fun a s t => a = s ∧ pre s t)
    (leaves_get fun s t h => And.intro rfl h) fun a => ?_
  cases hfeed : a.decoder.feed metricTable DECODER_STEPS packed with
  | none =>
      exact leaves_forever
  | some found =>
      obtain ⟨fresh, decoder⟩ := found
      refine Leaves.bind (M := fun _ s' t => ∃ s decoder, pre s t ∧
        s.decoder.feed metricTable DECODER_STEPS packed = some (fresh, decoder) ∧
        s' = { s with decoder := decoder })
        (leaves_modify fun s t h => ?_) fun _ => leaves_pure fun s t h => h
      obtain ⟨rfl, hs⟩ := h
      exact ⟨a, decoder, hs, hfeed, rfl⟩

theorem consume_leaves {started : Bool} (packed : Bytes) :
    Leaves (Feeds (R := R) metricTable started packed) (consume metricTable packed)
      fun _ => Feeds metricTable started [] := by
  refine (feedDecoder_leaves packed).bind fun fresh => ?_
  refine Leaves.bind (M := fun _ s t => ∃ calls, Decoded metricTable calls fresh s ∧
    s.rxStarted = started ∧ (∀ c ∈ t, PortQuery.Receives c) ∧ calls.flatten = octetsRead t)
    (leaves_modify fun s' t h => ?_) fun _ => ?_
  · obtain ⟨s, decoder, hs, hfeed, rfl⟩ := h
    obtain ⟨hstarted, hreceives, calls, hoctets, ⟨returned, done, hcalls, hreturned, hdone⟩,
      hpacked, hcount⟩ := hs
    refine ⟨calls ++ [packed], ⟨⟨returned ++ [fresh], done, ?_, ?_, hdone⟩, ?_, hcount⟩, hstarted,
      hreceives, ?_⟩
    · rw [StreamingBell202Decoder.feedCalls_concat metricTable packed hcalls, hfeed]
      rfl
    · rw [List.append_nil] at hreturned
      rw [List.flatten_append, hreturned, List.flatten_singleton]
    · rw [hpacked, List.flatten_append, List.flatten_singleton, List.length_append]
    · rw [List.flatten_append, List.flatten_singleton, hoctets]
  · intro s a s' t u ⟨calls, hdecoded, hs⟩ hrun
    obtain ⟨hdecoded', hstarted', hreceives', hoctets'⟩ :=
      publishAll_leaves (P := fun s t => s.rxStarted = started ∧
        (∀ c ∈ t, PortQuery.Receives c) ∧ calls.flatten = octetsRead t)
        (fun s t published decodedFrames h => h) fresh s a s' t u ⟨hdecoded, hs⟩ hrun
    exact ⟨hstarted', hreceives', calls, by rw [List.append_nil, hoctets'], hdecoded'⟩

/-- A status report has just come in. -/
def Reported (W : List (PortCall R) → Prop) (timeout : ℚ) (status : RX3Status)
    (t : List (PortCall R)) : Prop :=
  ∃ t', W t' ∧ t = t' ++ [⟨.rxStatus timeout, some (.ok status)⟩]

theorem checkStatus_leaves {started : Bool} {chunk : Bytes} {W : List (PortCall R) → Prop}
    (require : RX3Status → Except PyError Unit) (timeout : ℚ) :
    Leaves (fun s t => W t ∧ Feeds (R := R) metricTable started chunk s t)
      (checkStatus require timeout)
      fun _ s t => Feeds metricTable started chunk s t ∧
        ∃ status, Reported W timeout status t ∧ require status = .ok () := by
  refine Leaves.bind
    (M := fun status s t => Feeds metricTable started chunk s t ∧ Reported W timeout status t)
    (leaves_call fun s t status h => ⟨h.2.call ⟨trivial, status, rfl⟩ rfl, t, h.1, rfl⟩)
    fun status => ?_
  refine Leaves.bind
    (M := fun _ s t => Feeds metricTable started chunk s t ∧ Reported W timeout status t)
    (leaves_modify fun s t h => ?_) fun _ =>
      leaves_ofExcept fun s t a hrequire h => ⟨h.1, status, h.2, hrequire⟩
  obtain ⟨⟨hstarted, hreceives, calls, hoctets, hfed, hpacked, hcount⟩, ht⟩ := h
  exact ⟨⟨hstarted, hreceives, calls, hoctets, hfed, hpacked, hcount⟩, ht⟩

theorem readChunk_leaves {started : Bool} {timeout : ℚ} :
    Leaves (Feeds (R := R) metricTable started []) (readChunk config timeout)
      fun chunk => Feeds metricTable started chunk := by
  refine Leaves.bind (M := fun chunk => Feeds metricTable started chunk)
    (leaves_call fun s t chunk h => ?_) fun chunk => ?_
  · obtain ⟨hstarted, hreceives, calls, hoctets, hdecoded⟩ := h
    refine ⟨hstarted, fun c hc => ?_, calls, ?_, hdecoded⟩
    · rcases List.mem_append.mp hc with hc | hc
      · exact hreceives c hc
      · rw [List.mem_singleton.mp hc]
        exact ⟨trivial, chunk, rfl⟩
    · rw [List.append_nil] at hoctets
      rw [hoctets, octetsRead_append]
      simp [octetsRead, octetsOf]
  · refine Leaves.bind (M := fun _ => Feeds metricTable started chunk)
      (leaves_modify fun s t h => ?_) fun _ => leaves_pure fun s t h => h
    obtain ⟨hstarted, hreceives, calls, hoctets, hfed, hpacked, hcount⟩ := h
    exact ⟨hstarted, hreceives, calls, hoctets, hfed, hpacked, hcount⟩

theorem handle_leaves (chunk : Bytes) :
    Leaves (Feeds (R := R) metricTable true chunk) (handle metricTable config chunk)
      fun _ => Feeds metricTable true [] := by
  unfold handle
  split_ifs with hchunk hsleep
  · exact consume_leaves chunk
  · exact leaves_call fun s t a h => (not_not.mp hchunk ▸ h).call ⟨trivial, a, rfl⟩ rfl
  · exact leaves_pure fun s t h => not_not.mp hchunk ▸ h

theorem checkDue_leaves (nextStatus : ℚ) :
    Leaves (Feeds (R := R) metricTable true []) (checkDue config nextStatus)
      fun _ => Feeds metricTable true [] := by
  refine Leaves.bind (M := fun _ => Feeds metricTable true [])
    (leaves_call fun s t now h => h.call ⟨trivial, now, rfl⟩ rfl) fun now => ?_
  split_ifs with hdue
  · exact ((checkStatus_leaves (W := fun _ => True) _ _).weaken (fun s t h => ⟨trivial, h⟩)
      fun _ s t h => h.1).bind fun _ => leaves_pure fun s t h => h
  · exact leaves_pure fun s t h => h

theorem round_leaves (nextStatus : ℚ) :
    Leaves (Feeds (R := R) metricTable true []) (round metricTable config nextStatus)
      fun _ => Feeds metricTable true [] :=
  readChunk_leaves.bind fun chunk => (handle_leaves chunk).bind fun _ => checkDue_leaves nextStatus

theorem rounds_leaves (n : ℕ) : ∀ nextStatus,
    Leaves (Feeds (R := R) metricTable true []) (rounds metricTable config n nextStatus)
      fun _ => Feeds metricTable true [] := by
  induction n with
  | zero => exact fun nextStatus => leaves_pure fun s t h => h
  | succ n ih => exact fun nextStatus => (round_leaves nextStatus).bind ih

theorem safeQuiesce_leaves (timeout : ℚ) :
    Leaves (fun s (_ : List (PortCall R)) => s.failure.isSome) (safeQuiesce timeout)
      fun _ s _ => s.failure.isSome ∧ s.rxStarted = false := by
  refine Leaves.bind (M := fun a s _ => a = s ∧ s.failure.isSome)
    (leaves_get fun s t h => ⟨rfl, h⟩) fun a => ?_
  split_ifs with hstarted
  · exact Leaves.bind (M := fun _ s _ => s.failure.isSome)
      (leaves_attempt_call fun s t x h => h.2) fun _ => leaves_modify fun s t h => ⟨h, rfl⟩
  · refine leaves_pure fun s t h => ?_
    obtain ⟨rfl, hfailure⟩ := h
    exact ⟨hfailure, eq_false_of_ne_true hstarted⟩

/-- What the worker leaves behind: it has failed and ended the capture, or all that it has read
has gone through the decoder. -/
def Ran (metricTable : BitVec CORR_WINDOW → ℚ) (s : RXOnlyPacketRuntime)
    (t : List (PortCall R)) : Prop :=
  (s.failure.isSome ∧ s.rxStarted = false) ∨ Feeds metricTable true [] s t

theorem run_leaves (n : ℕ) :
    Leaves (Feeds (R := R) metricTable true []) (run metricTable config n)
      fun _ => Ran metricTable := by
  refine Leaves.bind (M := fun _ => Feeds metricTable true [])
    (leaves_call fun s t now h => h.call ⟨trivial, now, rfl⟩ rfl) fun now => ?_
  refine (rounds_leaves n _).attempt_bind (fun _ => leaves_pure fun s t h => .inr h) fun e => ?_
  refine Leaves.bind (M := fun _ s _ => s.failure.isSome)
    (leaves_modify fun s t _ => rfl) fun _ => ?_
  exact (safeQuiesce_leaves 1).weaken (fun s t h => h) fun _ s t h => .inl h

/-- A capture that has been ended in good order: everything that it read has gone through the
decoder and has been published, behind STOP the ring was read until a read came back empty, and the
last report shows that it is empty and that no octet was dropped. -/
structure Stopped (metricTable : BitVec CORR_WINDOW → ℚ) (timeout : ℚ) (s : RXOnlyPacketRuntime)
    (t : List (PortCall R)) : Prop where
  receives : ∀ c ∈ t, PortQuery.Receives c
  decoded : ∃ calls, calls.flatten = octetsRead t ∧ Decoded metricTable calls [] s
  drained : ∃ before behind status, t = before ++ ⟨.rxStop timeout, some (.ok ())⟩ ::
      (behind ++ [⟨.rxStatus timeout, some (.ok status)⟩]) ∧
    status.availableBytes = 0 ∧ status.droppedBytes = 0

theorem requireIdleStatus_ok {status : RX3Status} (h : requireIdleStatus status = .ok ()) :
    status.availableBytes = 0 ∧ status.droppedBytes = 0 := by
  unfold requireIdleStatus requireNoDrops at h
  split_ifs at h with hflags havailable hdropped
  exact ⟨not_not.mp havailable, not_not.mp hdropped⟩

theorem drain_leaves (timeout : ℚ) :
    Leaves (Feeds (R := R) metricTable false []) (iterate (drainRound metricTable config timeout))
      fun _ => Feeds metricTable false [] := by
  refine leaves_iterate (readChunk_leaves.bind fun chunk => ?_)
  split_ifs with hchunk
  · exact leaves_pure fun s t h => hchunk ▸ h
  · exact (consume_leaves chunk).bind fun _ => leaves_pure fun s t h => h

/-- STOP has been answered. -/
def Ended (timeout : ℚ) (t : List (PortCall R)) : Prop :=
  ∃ before behind, t = before ++ ⟨.rxStop timeout, some (.ok ())⟩ :: behind

theorem Ended.append {timeout : ℚ} {t : List (PortCall R)} (h : Ended timeout t)
    (t' : List (PortCall R)) : Ended timeout (t ++ t') := by
  obtain ⟨before, behind, rfl⟩ := h
  exact ⟨before, behind ++ t', by simp⟩

theorem stopAndDrain_leaves (timeout : ℚ) :
    Leaves (Ran (R := R) metricTable) (stopAndDrain metricTable config timeout)
      fun _ s t => s.failure.isSome ∨ Stopped metricTable timeout s t := by
  refine Leaves.bind (M := fun a s t => a = s ∧ Ran metricTable s t)
    (leaves_get fun s t h => ⟨rfl, h⟩) fun a => ?_
  split_ifs with hstarted
  · refine Leaves.bind (M := fun _ s t => Feeds metricTable true [] s t ∧
      ∃ before, t = before ++ [⟨.rxStop timeout, some (.ok ())⟩])
      (leaves_call fun s t a h => ?_) fun _ => ?_
    · obtain ⟨rfl, ⟨-, hended⟩ | h⟩ := h
      · exact absurd (hended.symm.trans hstarted) (by decide)
      · exact ⟨h.call ⟨trivial, a, rfl⟩ rfl, t, rfl⟩
    refine Leaves.bind (M := fun _ s t => Ended timeout t ∧ Feeds metricTable false [] s t)
      (leaves_modify fun s t h => ?_) fun _ =>
        ((drain_leaves timeout).keep fun u t h => h.append t).bind fun _ => ?_
    · obtain ⟨⟨-, hreceives, calls, hoctets, hfed, hpacked, hcount⟩, before, rfl⟩ := h
      exact ⟨⟨before, [], rfl⟩, rfl, hreceives, calls, hoctets, hfed, hpacked, hcount⟩
    refine (checkStatus_leaves _ _).weaken (fun s t h => h) fun _ s t h => .inr ?_
    obtain ⟨⟨-, hreceives, calls, hoctets, hdecoded⟩, status, ⟨_, ⟨before, behind, rfl⟩, ht⟩,
      hrequire⟩ := h
    refine ⟨hreceives, ⟨calls, ?_, hdecoded⟩, before, behind, status, ?_,
      requireIdleStatus_ok hrequire⟩
    · rw [← hoctets, List.append_nil]
    · rw [ht, List.append_assoc, List.cons_append]
  · refine leaves_pure fun s t h => ?_
    obtain ⟨rfl, ⟨hfailure, -⟩ | h⟩ := h
    · exact .inl hfailure
    · exact absurd h.started_eq hstarted

theorem stop_leaves (timeout : ℚ) :
    Leaves (Ran (R := R) metricTable) (stop metricTable config timeout)
      fun _ => Stopped metricTable timeout := by
  refine (stopAndDrain_leaves timeout).attempt_bind (fun _ => ?_) fun e => ?_
  · refine Leaves.bind (M := fun a s t => a = s ∧
      (s.failure.isSome ∨ Stopped metricTable timeout s t))
      (leaves_get fun s t h => ⟨rfl, h⟩) fun a => ?_
    split_ifs with hfailure
    · exact leaves_raise _
    · refine leaves_pure fun s t h => ?_
      obtain ⟨rfl, h⟩ := h
      exact h.resolve_left hfailure
  · have hread : Leaves (fun _ (_ : List (PortCall R)) => True) get
        fun _ (_ : RXOnlyPacketRuntime) _ => True := leaves_get fun s t h => h
    exact hread.bind fun a => leaves_raise _

/-- A runtime that has decoded nothing. -/
structure Fresh (s : RXOnlyPacketRuntime) : Prop where
  decoder_eq : s.decoder = init.decoder
  packedBytes_eq : s.packedBytes = 0
  decodedFrames_eq : s.decodedFrames = 0
  published_eq : s.published = []

theorem Fresh.feeds {s : RXOnlyPacketRuntime} (h : Fresh s) (hstarted : s.rxStarted = true) :
    Feeds (R := R) metricTable true [] s [] where
  started_eq := hstarted
  receives := List.forall_mem_nil _
  decoded := ⟨[], rfl, {
    fed := ⟨[], [], by rw [h.decoder_eq]; rfl, rfl, by rw [h.published_eq]; exact .nil⟩
    packedBytes := h.packedBytes_eq
    decodedFrames := by rw [h.decodedFrames_eq, h.published_eq]; rfl }⟩

/-- Not a START among the calls. -/
def Unstarted (t : List (PortCall R)) : Prop := ∀ c ∈ t, ∀ timeout, c.query ≠ .rxStart timeout

theorem Unstarted.call {t : List (PortCall R)} (h : Unstarted t) {c : PortCall R}
    (hc : ∀ timeout, c.query ≠ .rxStart timeout) : Unstarted (t ++ [c]) := by
  intro c' hc'
  rcases List.mem_append.mp hc' with hc' | hc'
  · exact h c' hc'
  · rwa [List.mem_singleton.mp hc']

theorem configure_leaves (timeout : ℚ) :
    Leaves (fun s (t : List (PortCall R)) => Fresh s ∧ Unstarted t) (configure config timeout)
      fun _ s t => Fresh s ∧ Unstarted t := by
  refine Leaves.bind (M := fun _ s t => Fresh s ∧ Unstarted t)
    (leaves_call fun s t a h => ⟨h.1, h.2.call fun _ hq => by cases hq⟩) fun version => ?_
  split_ifs with hidentity
  · exact leaves_raise _
  refine Leaves.bind (M := fun _ s t => Fresh s ∧ Unstarted t)
    (leaves_modify fun s t h => ⟨⟨h.1.1, h.1.2, h.1.3, h.1.4⟩, h.2⟩) fun _ => ?_
  cases config.frequencyHz with
  | none => exact leaves_pure fun s t h => h
  | some frequencyHz =>
      refine Leaves.bind (M := fun _ s t => Fresh s ∧ Unstarted t)
        (leaves_call fun s t a h => ⟨h.1, h.2.call fun _ hq => by cases hq⟩) fun _ => ?_
      refine Leaves.bind (M := fun _ s t => Fresh s ∧ Unstarted t)
        (leaves_call fun s t a h => ⟨h.1, h.2.call fun _ hq => by cases hq⟩) fun _ => ?_
      refine Leaves.bind (M := fun _ s t => Fresh s ∧ Unstarted t)
        (leaves_call fun s t a h => ⟨h.1, h.2.call fun _ hq => by cases hq⟩) fun rf => ?_
      split_ifs with hrf
      · exact leaves_raise _
      · exact leaves_pure fun s t h => h

/-- Behind the answer to START. -/
theorem activate_leaves (timeout : ℚ) :
    Leaves (fun s (t : List (PortCall R)) => Fresh s ∧ t = [])
      (do
        modify fun s => { s with rxStarted := true }
        checkStatus requireActiveStatus timeout)
      fun _ => Feeds metricTable true [] := by
  refine Leaves.bind (M := fun _ s t => True ∧ Feeds metricTable true [] s t)
    (leaves_modify fun s t h => ?_) fun _ =>
      (checkStatus_leaves (W := fun _ => True) _ _).weaken (fun s t h => h) fun _ s t h => h.1
  obtain ⟨h, rfl⟩ := h
  exact ⟨trivial, Fresh.feeds ⟨h.1, h.2, h.3, h.4⟩ rfl⟩

/-- The calls of a start from START on. -/
theorem start_returned {timeout : ℚ} {s s' : RXOnlyPacketRuntime} {t : List (PortCall R)}
    (hfresh : Fresh s) (hrun : Runs (start config timeout) s (.returned ()) s' t) :
    ∃ setup behind, t = setup ++ ⟨.rxStart timeout, some (.ok ())⟩ :: behind ∧
      Unstarted setup ∧ Feeds metricTable true [] s' behind := by
  rcases hrun.attempt_bind_cases with
    ⟨a, s₁, t₁, t₂, h₁, h₂, rfl⟩ | ⟨e, s₁, t₁, t₂, -, h₂, rfl⟩ | ⟨-, ho⟩
  · obtain ⟨-, rfl, rfl⟩ := runs_pure.1 h₂
    obtain ⟨_, s₂, setup, t₃, hconfigure, hactivate, rfl⟩ := h₁.bind_returned
    obtain ⟨_, s₃, t₄, behind, hstart, hstatus, rfl⟩ := hactivate.bind_returned
    obtain ⟨rfl, rfl⟩ := hstart.call_returned
    obtain ⟨hbegun, hsetup⟩ :=
      configure_leaves timeout s _ s₃ setup [] ⟨hfresh, List.forall_mem_nil _⟩ hconfigure
    exact ⟨setup, behind, by simp, hsetup,
      activate_leaves timeout s₃ () _ behind [] ⟨hbegun, rfl⟩ hstatus⟩
  · obtain ⟨_, s₂, t₃, t₄, -, hraise, -⟩ := h₂.bind_returned
    obtain ⟨ho, -, -⟩ := runs_raise.1 hraise
    cases ho
  · cases ho

theorem session_leaves {startTimeout stopTimeout : ℚ} {n : ℕ} {s' : RXOnlyPacketRuntime}
    {t : List (PortCall R)}
    (hrun : Runs (session metricTable config startTimeout n stopTimeout) init (.returned ()) s' t) :
    ∃ setup behind, t = setup ++ ⟨.rxStart startTimeout, some (.ok ())⟩ :: behind ∧
      Unstarted setup ∧ Stopped metricTable stopTimeout s' behind := by
  obtain ⟨_, s₁, t₁, t₂, hstart, hrest, rfl⟩ := hrun.bind_returned
  obtain ⟨setup, behind, rfl, hsetup, hfeeds⟩ := start_returned ⟨rfl, rfl, rfl, rfl⟩ hstart
  have hstopped := ((run_leaves n).bind fun _ => stop_leaves stopTimeout)
    s₁ () s' t₂ behind hfeeds hrest
  exact ⟨setup, behind ++ t₂, by simp, hsetup, hstopped⟩

/-- A runtime that has been started and stopped, and whose worker has gone round any number of
times in between: there is only one START among its calls. -/
theorem session_stopped {startTimeout stopTimeout : ℚ} {n : ℕ} {s' : RXOnlyPacketRuntime}
    {setup behind : List (PortCall R)}
    (hrun : Runs (session metricTable config startTimeout n stopTimeout) init (.returned ()) s'
      (setup ++ ⟨.rxStart startTimeout, some (.ok ())⟩ :: behind)) :
    Stopped metricTable stopTimeout s' behind := by
  obtain ⟨setup', behind', ht, hsetup, hstopped⟩ := session_leaves hrun
  have hbefore : (⟨.rxStart startTimeout, some (.ok ())⟩ : PortCall R) ∉ setup' :=
    fun h => hsetup _ h startTimeout rfl
  have hbehind : (⟨.rxStart startTimeout, some (.ok ())⟩ : PortCall R) ∉ behind' :=
    fun h => (hstopped.receives _ h).query
  obtain ⟨-, -, rfl⟩ := (List.append_cons_inj_of_notMem hbefore hbehind).mp ht.symm
  exact hstopped

end Leaves

end RXOnlyPacketRuntime

end YwdTnc
