import YwdTnc.Ax25.Codec
import YwdTnc.Kiss.Control
import YwdTnc.Tx.ChannelAccess

/-!
# The DATA admission queue

A bounded queue of AX.25 requests. Admission checks a body, appends its FCS and
captures the transmit context; an RSSI observation advances the head request
only, and a request whose access attempt is ready is handed to the submitter
once. The submitter is injected: `observeRssi` runs in any monad that has its
calls, and the parts of it before and after that call are functions of their
own.
-/

namespace YwdTnc

inductive KISSDataRequestState where
  | queued
  | access
  | dispatched
  | timedOut
  | downstreamFailed
  deriving DecidableEq, Repr

structure KISSDataRequestReceipt where
  requestId : ℕ
  frameBytesNoFcs : ℕ
  frameBytesWithFcs : ℕ
  parameterGeneration : ℤ
  txdelay : ℕ
  persist : ℕ
  slottime : ℕ
  enqueuedAt : ℚ
  deadlineAt : ℚ
  deriving DecidableEq

structure KISSDataQueueObservation (R : Type) where
  now : ℚ
  requestId : Option ℕ
  requestState : Option KISSDataRequestState
  parameterGeneration : Option ℤ
  access : Option ChannelAccessObservation
  downstreamCalled : Bool
  downstreamResult : Option R
  downstreamError : String
  reason : String

/-- `_Request`. The receipt names the parameters of the captured context. -/
structure Request where
  receipt : KISSDataRequestReceipt
  frameWithFcs : Bytes
  context : TNCTransmitContext
  attempt : Option ShadowChannelAccessAttempt
  txdelay_eq : receipt.txdelay = context.parameters.txdelay
  persist_eq : receipt.persist = context.parameters.persist
  slottime_eq : receipt.slottime = context.parameters.slottime

/-- The constructor arguments of the queue, as it accepts them. -/
structure QueueConfig where
  queueCapacity : ℕ
  requestTimeoutSeconds : ℚ
  downstreamTimeoutSeconds : ℚ
  one_le_capacity : 1 ≤ queueCapacity
  requestTimeout_pos : 0 < requestTimeoutSeconds
  downstreamTimeout_pos : 0 < downstreamTimeoutSeconds

theorem QueueConfig.transactionTimeout_pos : (0 : ℚ) < 3 / 2 := by decide +kernel

/-- The arguments the engine passes. -/
def QueueConfig.engine : QueueConfig where
  queueCapacity := 4
  requestTimeoutSeconds := 30
  downstreamTimeoutSeconds := 3 / 2
  one_le_capacity := by decide
  requestTimeout_pos := by decide +kernel
  downstreamTimeout_pos := transactionTimeout_pos

structure KISSDataAdmissionQueue where
  config : QueueConfig
  queue : List Request
  nextRequestId : ℕ
  lastNow : ℚ
  acceptedRequests : ℕ
  invalidRejections : ℕ
  queueFullRejections : ℕ
  dispatchedRequests : ℕ
  timedOutRequests : ℕ
  downstreamFailures : ℕ

namespace KISSDataAdmissionQueue

def init (config : QueueConfig) : KISSDataAdmissionQueue where
  config := config
  queue := []
  nextRequestId := 1
  lastNow := 0
  acceptedRequests := 0
  invalidRejections := 0
  queueFullRejections := 0
  dispatchedRequests := 0
  timedOutRequests := 0
  downstreamFailures := 0

/-- `_accept_now`; `lastNow` is updated by the caller on success. -/
def acceptNow (q : KISSDataAdmissionQueue) (now : ℚ) : Except PyError ℚ :=
  if now < 0 then .error ⟨.kissDataTimeError, "now must be >= 0"⟩
  else if now < q.lastNow then
    .error ⟨.kissDataTimeError, "now must be monotonic for one P7 queue instance"⟩
  else .ok now

/-- The request that admission builds for a body it accepts. -/
def admitted (q : KISSDataAdmissionQueue) (frameNoFcs : Bytes)
    (context : TNCTransmitContext) (now : ℚ) : Request where
  receipt :=
    { requestId := q.nextRequestId
      frameBytesNoFcs := frameNoFcs.length
      frameBytesWithFcs := (appendFcs frameNoFcs).length
      parameterGeneration := context.parameters.generation
      txdelay := context.parameters.txdelay
      persist := context.parameters.persist
      slottime := context.parameters.slottime
      enqueuedAt := now
      deadlineAt := now + q.config.requestTimeoutSeconds }
  frameWithFcs := appendFcs frameNoFcs
  context := context
  attempt := none
  txdelay_eq := rfl
  persist_eq := rfl
  slottime_eq := rfl

def enqueue (q : KISSDataAdmissionQueue) (frameNoFcs : Bytes)
    (context : TNCTransmitContext) (now : ℚ) :
    KISSDataAdmissionQueue × Except PyError KISSDataRequestReceipt :=
  match q.acceptNow now with
  | .error e => (q, .error e)
  | .ok now =>
      let q := { q with lastNow := now }
      match parseFrame frameNoFcs false with
      | .error e =>
          ({ q with invalidRejections := q.invalidRejections + 1 },
            .error ⟨.kissDataFrameRejected,
              "invalid AX.25 KISS DATA body: " ++ e.message⟩)
      | .ok _ =>
          if q.config.queueCapacity ≤ q.queue.length then
            ({ q with queueFullRejections := q.queueFullRejections + 1 },
              .error ⟨.kissDataQueueFull,
                "KISS DATA queue is full (capacity=" ++
                  toString q.config.queueCapacity ++ ")"⟩)
          else
            let request := q.admitted frameNoFcs context now
            ({ q with
                nextRequestId := q.nextRequestId + 1
                queue := q.queue ++ [request]
                acceptedRequests := q.acceptedRequests + 1 },
              .ok request.receipt)

variable {R : Type}

/-- `_terminal`, and the observations of a request that goes on. -/
def report (now : ℚ) (request : Request) (state : KISSDataRequestState)
    (access : Option ChannelAccessObservation) (reason : String) :
    KISSDataQueueObservation R where
  now := now
  requestId := some request.receipt.requestId
  requestState := some state
  parameterGeneration := some request.receipt.parameterGeneration
  access := access
  downstreamCalled := false
  downstreamResult := none
  downstreamError := ""
  reason := reason

/-- The observation of an empty queue. -/
def reportIdle (now : ℚ) : KISSDataQueueObservation R where
  now := now
  requestId := none
  requestState := none
  parameterGeneration := none
  access := none
  downstreamCalled := false
  downstreamResult := none
  downstreamError := ""
  reason := "no queued KISS DATA request"

/-- `observe_rssi` up to the submitter: it is over, or the head request is ready
to be submitted. -/
inductive Prepared (R : Type) where
  | done (result : Except PyError (KISSDataQueueObservation R))
  | submit (now : ℚ) (request : Request) (access : ChannelAccessObservation)

/-- The parameters of a new attempt for the head request. -/
def attemptParameters (request : Request) (now : ℚ)
    (hnow : now < request.receipt.deadlineAt) : CSMAParameters :=
  let captured := request.context.csmaParameters
  { captured with
    maxWaitSeconds := min captured.maxWaitSeconds (request.receipt.deadlineAt - now)
    maxWait_pos := lt_min captured.maxWait_pos (sub_pos.mpr hnow) }

/-- The head request's attempt, made on its first observation. -/
def headAttempt (request : Request) (now : ℚ)
    (hnow : now < request.receipt.deadlineAt) :
    Except PyError ShadowChannelAccessAttempt :=
  match request.attempt with
  | some attempt => .ok attempt
  | none => ShadowChannelAccessAttempt.init now (attemptParameters request now hnow)

/-- `observe_rssi` from the access observation to the submitter. -/
def route (q : KISSDataAdmissionQueue) (now : ℚ) (request : Request)
    (rest : List Request) (access : ChannelAccessObservation) :
    KISSDataAdmissionQueue × Prepared R :=
  match access.csma.state with
  | .timedOut =>
      ({ q with queue := rest, timedOutRequests := q.timedOutRequests + 1 },
        .done (.ok (report now request .timedOut (some access)
          "captured P6 channel-access policy timed out")))
  | .ready => (q, .submit now request access)
  | _ =>
      (q, .done (.ok (report now request .access (some access)
        "KISS DATA request remains gated by qualified channel access")))

def prepare (q : KISSDataAdmissionQueue) (now : ℚ) (raw : ℤ)
    (source : RandomByteSource) : KISSDataAdmissionQueue × Prepared R :=
  match q.acceptNow now with
  | .error e => (q, .done (.error e))
  | .ok now =>
      let q := { q with lastNow := now }
      match q.queue with
      | [] => (q, .done (.ok (reportIdle now)))
      | request :: rest =>
          if hnow : now < request.receipt.deadlineAt then
            match headAttempt request now hnow with
            | .error e => (q, .done (.error e))
            | .ok attempt =>
                let (attempt, result) := attempt.observeRssi now raw source
                let request := { request with attempt := some attempt }
                let q := { q with queue := request :: rest }
                match result with
                | .error e => (q, .done (.error e))
                | .ok access => q.route now request rest access
          else
            ({ q with queue := rest, timedOutRequests := q.timedOutRequests + 1 },
              .done (.ok (report now request .timedOut none
                "bounded total KISS DATA request lifetime expired before dispatch")))

/-- `observe_rssi` from the submitter on: the head request leaves the queue,
whether it was accepted downstream or not. -/
def finish (q : KISSDataAdmissionQueue) (now : ℚ) (request : Request)
    (access : ChannelAccessObservation) (result : Except PyError R) :
    KISSDataAdmissionQueue × KISSDataQueueObservation R :=
  let q := { q with queue := q.queue.tail }
  match result with
  | .error e =>
      ({ q with downstreamFailures := q.downstreamFailures + 1 },
        { report (R := R) now request .downstreamFailed (some access)
            "contextual downstream failed; request is terminal and is not retried" with
          downstreamCalled := true
          downstreamError := e.describe })
  | .ok result =>
      ({ q with dispatchedRequests := q.dispatchedRequests + 1 },
        { report (R := R) now request .dispatched (some access)
            "captured P6 channel access reached READY; request dispatched exactly once" with
          downstreamCalled := true
          downstreamResult := some result })

def observeRssi {m : Type → Type} [Monad m]
    (submitFrame : Bytes → TNCTransmitContext → ℚ → m (Except PyError R))
    (q : KISSDataAdmissionQueue) (now : ℚ) (raw : ℤ) (source : RandomByteSource) :
    m (KISSDataAdmissionQueue × Except PyError (KISSDataQueueObservation R)) :=
  match q.prepare now raw source with
  | (q, .done result) => pure (q, result)
  | (q, .submit now request access) => do
      let result ← submitFrame request.frameWithFcs request.context
        q.config.downstreamTimeoutSeconds
      let (q, observation) := q.finish now request access result
      pure (q, .ok observation)

/-! ### What a call can do -/

/-- The times that `acceptNow` lets through. -/
def Accepts (q : KISSDataAdmissionQueue) (now : ℚ) : Prop :=
  0 ≤ now ∧ q.lastNow ≤ now

theorem acceptNow_cases (q : KISSDataAdmissionQueue) (now : ℚ) :
    (∃ e, q.acceptNow now = .error e ∧ e.cls = .kissDataTimeError ∧ ¬ q.Accepts now) ∨
      (q.acceptNow now = .ok now ∧ q.Accepts now) := by
  unfold acceptNow Accepts
  by_cases hneg : now < 0
  · rw [if_pos hneg]
    exact .inl ⟨_, rfl, rfl, fun h => absurd h.1 (not_le.mpr hneg)⟩
  · rw [if_neg hneg]
    by_cases hlate : now < q.lastNow
    · rw [if_pos hlate]
      exact .inl ⟨_, rfl, rfl, fun h => absurd h.2 (not_le.mpr hlate)⟩
    · rw [if_neg hlate]
      exact .inr ⟨rfl, not_lt.mp hneg, not_lt.mp hlate⟩

/-- The exits of `enqueue`. -/
inductive Enqueues (q : KISSDataAdmissionQueue) (frameNoFcs : Bytes)
    (context : TNCTransmitContext) (now : ℚ) :
    KISSDataAdmissionQueue → Except PyError KISSDataRequestReceipt → Prop
  | late {e : PyError} (hlate : ¬ q.Accepts now) (hcls : e.cls = .kissDataTimeError) :
      Enqueues q frameNoFcs context now q (.error e)
  | invalid {e : PyError} (hnow : q.Accepts now)
      (hcls : e.cls = .kissDataFrameRejected)
      (hparse : ∀ parsed, parseFrame frameNoFcs false ≠ .ok parsed) :
      Enqueues q frameNoFcs context now
        { q with lastNow := now, invalidRejections := q.invalidRejections + 1 }
        (.error e)
  | full {e : PyError} {parsed : ParsedFrame} (hnow : q.Accepts now)
      (hcls : e.cls = .kissDataQueueFull)
      (hparse : parseFrame frameNoFcs false = .ok parsed)
      (hfull : q.config.queueCapacity ≤ q.queue.length) :
      Enqueues q frameNoFcs context now
        { q with lastNow := now, queueFullRejections := q.queueFullRejections + 1 }
        (.error e)
  | admits {parsed : ParsedFrame} (hnow : q.Accepts now)
      (hparse : parseFrame frameNoFcs false = .ok parsed)
      (hroom : q.queue.length < q.config.queueCapacity) :
      Enqueues q frameNoFcs context now
        { q with
          lastNow := now
          nextRequestId := q.nextRequestId + 1
          queue := q.queue ++ [q.admitted frameNoFcs context now]
          acceptedRequests := q.acceptedRequests + 1 }
        (.ok (q.admitted frameNoFcs context now).receipt)

theorem enqueue_enqueues (q : KISSDataAdmissionQueue) (frameNoFcs : Bytes)
    (context : TNCTransmitContext) (now : ℚ) :
    Enqueues q frameNoFcs context now (q.enqueue frameNoFcs context now).1
      (q.enqueue frameNoFcs context now).2 := by
  unfold enqueue
  rcases q.acceptNow_cases now with ⟨e, haccept, hcls, hlate⟩ | ⟨haccept, hnow⟩
  · rw [haccept]
    exact .late hlate hcls
  rw [haccept]
  cases hparse : parseFrame frameNoFcs false with
  | error e => exact .invalid hnow rfl fun parsed h => by rw [hparse] at h; cases h
  | ok parsed =>
      by_cases hfull : q.config.queueCapacity ≤ q.queue.length
      · simp only [hfull, if_true]
        exact .full hnow rfl hparse hfull
      · simp only [hfull, if_false]
        exact .admits hnow hparse (not_le.mp hfull)

/-- The exits of `observe_rssi` before the submitter. -/
inductive Prepares (q : KISSDataAdmissionQueue) (now : ℚ) (raw : ℤ)
    (source : RandomByteSource) : KISSDataAdmissionQueue → Prepared R → Prop
  | late {e : PyError} (hlate : ¬ q.Accepts now) (hcls : e.cls = .kissDataTimeError) :
      Prepares q now raw source q (.done (.error e))
  | idle (hnow : q.Accepts now) (hqueue : q.queue = []) :
      Prepares q now raw source { q with lastNow := now }
        (.done (.ok (reportIdle now)))
  | expired {request : Request} {rest : List Request} {reason : String}
      (hnow : q.Accepts now) (hqueue : q.queue = request :: rest)
      (hdeadline : request.receipt.deadlineAt ≤ now) :
      Prepares q now raw source
        { q with
          lastNow := now, queue := rest, timedOutRequests := q.timedOutRequests + 1 }
        (.done (.ok (report now request .timedOut none reason)))
  | raised {request : Request} {rest : List Request} {e : PyError}
      {attempt attempt' : ShadowChannelAccessAttempt} (hnow : q.Accepts now)
      (hqueue : q.queue = request :: rest) (hdeadline : now < request.receipt.deadlineAt)
      (hattempt : headAttempt request now hdeadline = .ok attempt)
      (hobserve : attempt.observeRssi now raw source = (attempt', .error e)) :
      Prepares q now raw source
        { q with
          lastNow := now
          queue := { request with attempt := some attempt' } :: rest }
        (.done (.error e))
  | waits {request : Request} {rest : List Request} {reason : String}
      {attempt attempt' : ShadowChannelAccessAttempt}
      {access : ChannelAccessObservation} (hnow : q.Accepts now)
      (hqueue : q.queue = request :: rest) (hdeadline : now < request.receipt.deadlineAt)
      (hattempt : headAttempt request now hdeadline = .ok attempt)
      (hobserve : attempt.observeRssi now raw source = (attempt', .ok access))
      (hstate : access.csma.state = .waitClear ∨ access.csma.state = .waitSlot) :
      Prepares q now raw source
        { q with
          lastNow := now
          queue := { request with attempt := some attempt' } :: rest }
        (.done (.ok (report now { request with attempt := some attempt' } .access
          (some access) reason)))
  | timesOut {request : Request} {rest : List Request} {reason : String}
      {attempt attempt' : ShadowChannelAccessAttempt}
      {access : ChannelAccessObservation} (hnow : q.Accepts now)
      (hqueue : q.queue = request :: rest) (hdeadline : now < request.receipt.deadlineAt)
      (hattempt : headAttempt request now hdeadline = .ok attempt)
      (hobserve : attempt.observeRssi now raw source = (attempt', .ok access))
      (hstate : access.csma.state = .timedOut) :
      Prepares q now raw source
        { q with
          lastNow := now, queue := rest, timedOutRequests := q.timedOutRequests + 1 }
        (.done (.ok (report now { request with attempt := some attempt' } .timedOut
          (some access) reason)))
  | submits {request : Request} {rest : List Request}
      {attempt attempt' : ShadowChannelAccessAttempt}
      {access : ChannelAccessObservation} (hnow : q.Accepts now)
      (hqueue : q.queue = request :: rest) (hdeadline : now < request.receipt.deadlineAt)
      (hattempt : headAttempt request now hdeadline = .ok attempt)
      (hobserve : attempt.observeRssi now raw source = (attempt', .ok access))
      (hstate : access.csma.state = .ready) :
      Prepares q now raw source
        { q with
          lastNow := now
          queue := { request with attempt := some attempt' } :: rest }
        (.submit now { request with attempt := some attempt' } access)

/-- An attempt can always be made at an accepted time. -/
theorem headAttempt_ok {request : Request} {now : ℚ} (hnow : 0 ≤ now)
    (hdeadline : now < request.receipt.deadlineAt) :
    ∃ attempt, headAttempt request now hdeadline = .ok attempt := by
  unfold headAttempt
  cases request.attempt with
  | some attempt => exact ⟨attempt, rfl⟩
  | none =>
      obtain ⟨attempt, hinit, -⟩ := ShadowChannelAccessAttempt.init_ok hnow
        (attemptParameters request now hdeadline)
      exact ⟨attempt, hinit⟩

theorem prepare_prepares (q : KISSDataAdmissionQueue) (now : ℚ) (raw : ℤ)
    (source : RandomByteSource) :
    Prepares (R := R) q now raw source (q.prepare (R := R) now raw source).1
      (q.prepare now raw source).2 := by
  unfold prepare
  rcases q.acceptNow_cases now with ⟨e, haccept, hcls, hlate⟩ | ⟨haccept, hnow⟩
  · rw [haccept]
    exact .late hlate hcls
  rw [haccept]
  cases hqueue : q.queue with
  | nil =>
      have hidle : Prepares (R := R) q now raw source { q with lastNow := now }
          (.done (.ok (reportIdle now))) := .idle hnow hqueue
      simpa only [hqueue] using hidle
  | cons request rest =>
      by_cases hdeadline : now < request.receipt.deadlineAt
      · obtain ⟨attempt, hattempt⟩ := headAttempt_ok hnow.1 hdeadline
        simp only [hdeadline, dite_true, hattempt]
        cases hobserve : attempt.observeRssi now raw source with
        | mk attempt' result =>
            cases result with
            | error e => exact .raised hnow hqueue hdeadline hattempt hobserve
            | ok access =>
                simp only [route]
                cases hstate : access.csma.state with
                | waitClear =>
                    exact .waits hnow hqueue hdeadline hattempt hobserve (.inl hstate)
                | waitSlot =>
                    exact .waits hnow hqueue hdeadline hattempt hobserve (.inr hstate)
                | ready => exact .submits hnow hqueue hdeadline hattempt hobserve hstate
                | timedOut =>
                    exact .timesOut hnow hqueue hdeadline hattempt hobserve hstate
      · simp only [hdeadline, dite_false]
        exact .expired hnow hqueue (not_lt.mp hdeadline)

/-! ### What all exits have in common -/

theorem Enqueues.lastNow_le {q q' : KISSDataAdmissionQueue} {frameNoFcs : Bytes}
    {context : TNCTransmitContext} {now clock : ℚ}
    {result : Except PyError KISSDataRequestReceipt}
    (h : q.Enqueues frameNoFcs context now q' result) (hlast : q.lastNow ≤ clock)
    (hnow : now ≤ clock) : q'.lastNow ≤ clock := by
  cases h with
  | late hlate hcls => exact hlast
  | invalid haccepts hcls hparse => exact hnow
  | full haccepts hcls hparse hfull => exact hnow
  | admits haccepts hparse hroom => exact hnow

theorem Prepares.lastNow_le {q q' : KISSDataAdmissionQueue} {now clock : ℚ} {raw : ℤ}
    {source : RandomByteSource} {prepared : Prepared R}
    (h : q.Prepares now raw source q' prepared) (hlast : q.lastNow ≤ clock)
    (hnow : now ≤ clock) : q'.lastNow ≤ clock := by
  cases h with
  | late hlate hcls => exact hlast
  | idle | expired | raised | waits | timesOut | submits => exact hnow

/-- A request handed to the submitter is still the head of the queue. -/
theorem Prepares.submit_head {q q' : KISSDataAdmissionQueue} {now now' : ℚ} {raw : ℤ}
    {source : RandomByteSource} {request : Request}
    {access : ChannelAccessObservation}
    (h : q.Prepares (R := R) now raw source q' (.submit now' request access)) :
    ∃ rest, q'.queue = request :: rest := by
  cases h with
  | submits => exact ⟨_, rfl⟩

end KISSDataAdmissionQueue

end YwdTnc
