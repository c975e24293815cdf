import YwdTnc.Ax25.Codec
import YwdTnc.Tx.ChannelAccess

/-!
# The channel-access queue

The bounded queue from which the admission queue of the KISS side was made. It takes
frames that carry their FCS, gives every request the default access parameters and
hands a request whose attempt is ready to the submitter once.
-/

namespace YwdTnc

inductive AccessRequestState where
  | queued
  | access
  | dispatched
  | timedOut
  | downstreamFailed
  deriving DecidableEq, Repr

def AccessRequestState.value : AccessRequestState → String
  | queued => "queued"
  | access => "access"
  | dispatched => "dispatched"
  | timedOut => "timed-out"
  | downstreamFailed => "downstream-failed"

structure AccessRequestReceipt where
  requestId : ℕ
  frameBytes : ℕ
  enqueuedAt : ℚ
  deadlineAt : ℚ
  deriving DecidableEq

structure AccessQueueObservation (R : Type) where
  now : ℚ
  requestId : Option ℕ
  requestState : Option AccessRequestState
  access : Option ChannelAccessObservation
  downstreamCalled : Bool
  downstreamResult : Option R
  downstreamError : String
  reason : String

structure AccessQueueSnapshot where
  queueDepth : ℕ
  queueCapacity : ℕ
  activeRequestId : Option ℕ
  nextRequestId : ℕ
  acceptedRequests : ℕ
  invalidRejections : ℕ
  queueFullRejections : ℕ
  dispatchedRequests : ℕ
  timedOutRequests : ℕ
  downstreamFailures : ℕ
  deriving DecidableEq

/-- `_Request`. -/
structure AccessRequest where
  receipt : AccessRequestReceipt
  frame : Bytes
  attempt : Option ShadowChannelAccessAttempt

structure BoundedChannelAccessQueue where
  queueCapacity : ℕ
  requestTimeoutSeconds : ℚ
  downstreamTimeoutSeconds : ℚ
  queue : List AccessRequest
  nextRequestId : ℕ
  lastNow : ℚ
  acceptedRequests : ℕ
  invalidRejections : ℕ
  queueFullRejections : ℕ
  dispatchedRequests : ℕ
  timedOutRequests : ℕ
  downstreamFailures : ℕ

namespace BoundedChannelAccessQueue

def init (queueCapacity : ℤ) (requestTimeoutSeconds downstreamTimeoutSeconds : ℚ) :
    Except PyError BoundedChannelAccessQueue :=
  if queueCapacity < 1 then .error (.valueError "queue_capacity must be at least 1")
  else if requestTimeoutSeconds ≤ 0 then
    .error (.valueError "request_timeout_seconds must be positive")
  else if downstreamTimeoutSeconds ≤ 0 then
    .error (.valueError "downstream_timeout_seconds must be positive")
  else
    .ok
      { queueCapacity := queueCapacity.toNat
        requestTimeoutSeconds, downstreamTimeoutSeconds
        queue := []
        nextRequestId := 1
        lastNow := 0
        acceptedRequests := 0
        invalidRejections := 0
        queueFullRejections := 0
        dispatchedRequests := 0
        timedOutRequests := 0
        downstreamFailures := 0 }

def snapshot (q : BoundedChannelAccessQueue) : AccessQueueSnapshot where
  queueDepth := q.queue.length
  queueCapacity := q.queueCapacity
  activeRequestId :=
    match q.queue with
    | [] => none
    | request :: _ => if request.attempt.isSome then some request.receipt.requestId else none
  nextRequestId := q.nextRequestId
  acceptedRequests := q.acceptedRequests
  invalidRejections := q.invalidRejections
  queueFullRejections := q.queueFullRejections
  dispatchedRequests := q.dispatchedRequests
  timedOutRequests := q.timedOutRequests
  downstreamFailures := q.downstreamFailures

/-- `_accept_now`; `lastNow` is updated by the caller on success. -/
def acceptNow (q : BoundedChannelAccessQueue) (now : ℚ) : Except PyError ℚ :=
  if now < 0 then .error ⟨.other "AccessQueueTimeError", "now must be >= 0"⟩
  else if now < q.lastNow then
    .error ⟨.other "AccessQueueTimeError",
      "now must be monotonic for one scheduler instance"⟩
  else .ok now

def enqueue (q : BoundedChannelAccessQueue) (frameWithFcs : Bytes) (now : ℚ) :
    BoundedChannelAccessQueue × Except PyError AccessRequestReceipt :=
  match q.acceptNow now with
  | .error e => (q, .error e)
  | .ok now =>
      let q := { q with lastNow := now }
      if frameWithFcs.length < 3 ∨ ¬ verifyFcs frameWithFcs then
        ({ q with invalidRejections := q.invalidRejections + 1 },
          .error ⟨.other "AccessQueueFrameRejected", "AX.25 frame must include a valid FCS"⟩)
      else if q.queueCapacity ≤ q.queue.length then
        ({ q with queueFullRejections := q.queueFullRejections + 1 },
          .error ⟨.other "AccessQueueFull",
            "channel-access queue is full (capacity=" ++ toString q.queueCapacity ++ ")"⟩)
      else
        let receipt : AccessRequestReceipt :=
          { requestId := q.nextRequestId
            frameBytes := frameWithFcs.length
            enqueuedAt := now
            deadlineAt := now + q.requestTimeoutSeconds }
        ({ q with
            nextRequestId := q.nextRequestId + 1
            queue := q.queue ++ [{ receipt, frame := frameWithFcs, attempt := none }]
            acceptedRequests := q.acceptedRequests + 1 },
          .ok receipt)

/-- The parameters of a new attempt, with `remaining` seconds to go. -/
def attemptParameters (remaining : ℚ) (hremaining : 0 < remaining) : CSMAParameters where
  persist := DEFAULT_PERSIST
  slotTime10ms := DEFAULT_SLOT_TIME_10MS
  maxWaitSeconds := min DEFAULT_MAX_WAIT_SECONDS remaining
  persist_le := DEFAULT_PERSIST_le
  one_le_slot := one_le_DEFAULT_SLOT_TIME_10MS
  slot_le := DEFAULT_SLOT_TIME_10MS_le
  maxWait_pos := lt_min DEFAULT_MAX_WAIT_SECONDS_pos hremaining

/-- The head request's attempt, made on its first observation. -/
def headAttempt (request : AccessRequest) (now : ℚ)
    (hnow : now < request.receipt.deadlineAt) : Except PyError ShadowChannelAccessAttempt :=
  match request.attempt with
  | some attempt => .ok attempt
  | none =>
      ShadowChannelAccessAttempt.init now
        (attemptParameters (request.receipt.deadlineAt - now) (sub_pos.mpr hnow))

variable {R : Type}

/-- The observations of a head request that is not submitted. -/
def report (now : ℚ) (request : AccessRequest) (state : AccessRequestState)
    (access : Option ChannelAccessObservation) (reason : String) :
    AccessQueueObservation R where
  now := now
  requestId := some request.receipt.requestId
  requestState := some state
  access := access
  downstreamCalled := false
  downstreamResult := none
  downstreamError := ""
  reason := reason

def observeRssi {m : Type → Type} [Monad m] (submitFrame : Bytes → ℚ → m (Except PyError R))
    (q : BoundedChannelAccessQueue) (now : ℚ) (raw : ℤ) (source : RandomByteSource) :
    m (BoundedChannelAccessQueue × Except PyError (AccessQueueObservation R)) :=
  match q.acceptNow now with
  | .error e => pure (q, .error e)
  | .ok now =>
      let q := { q with lastNow := now }
      match q.queue with
      | [] =>
          pure (q, .ok
            { now, requestId := none, requestState := none, access := none
              downstreamCalled := false, downstreamResult := none, downstreamError := ""
              reason := "no queued transmit request" })
      | request :: rest =>
          if hnow : now < request.receipt.deadlineAt then
            match headAttempt request now hnow with
            | .error e => pure (q, .error e)
            | .ok attempt =>
                let (attempt, result) := attempt.observeRssi now raw source
                let request := { request with attempt := some attempt }
                let q := { q with queue := request :: rest }
                match result with
                | .error e => pure (q, .error e)
                | .ok access =>
                    match access.csma.state with
                    | .timedOut =>
                        pure ({ q with
                            queue := rest, timedOutRequests := q.timedOutRequests + 1 },
                          .ok (report now request .timedOut (some access)
                            "qualified P1 channel-access attempt timed out"))
                    | .ready => do
                        match ← submitFrame request.frame q.downstreamTimeoutSeconds with
                        | .error e =>
                            pure ({ q with
                                queue := rest
                                downstreamFailures := q.downstreamFailures + 1 },
                              .ok { report (R := R) now request .downstreamFailed (some access)
                                  ("downstream submitter failed; request is terminal " ++
                                    "and is not retried") with
                                downstreamCalled := true
                                downstreamError := e.describe })
                        | .ok result =>
                            pure ({ q with
                                queue := rest
                                dispatchedRequests := q.dispatchedRequests + 1 },
                              .ok { report (R := R) now request .dispatched (some access)
                                  ("qualified channel access reached READY; request " ++
                                    "dispatched exactly once") with
                                downstreamCalled := true
                                downstreamResult := some result })
                    | _ =>
                        pure (q, .ok (report now request .access (some access)
                          "request remains gated by qualified channel access"))
          else
            pure ({ q with queue := rest, timedOutRequests := q.timedOutRequests + 1 },
              .ok (report now request .timedOut none
                "bounded total request lifetime expired before dispatch"))

end BoundedChannelAccessQueue

end YwdTnc
