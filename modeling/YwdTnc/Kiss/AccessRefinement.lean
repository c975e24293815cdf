import YwdTnc.Kiss.QueueCalls
import YwdTnc.Tx.AccessQueue

/-!
# The admission queue refines the channel-access queue

The two queues side by side under the same calls: the admission queue takes a body
with a captured context, the channel-access queue the body with its FCS. What a caller
and the submitter see of a run is a list of `QueueEvent`s. While every captured context
has the default access parameters, `asAccess` maps each state of the one queue to the
state of the other.
-/

namespace YwdTnc

def KISSDataRequestState.value : KISSDataRequestState → String
  | queued => "queued"
  | access => "access"
  | dispatched => "dispatched"
  | timedOut => "timed-out"
  | downstreamFailed => "downstream-failed"

structure KISSDataQueueSnapshot where
  queueDepth : ℕ
  queueCapacity : ℕ
  activeRequestId : Option ℕ
  nextRequestId : ℕ
  acceptedRequests : ℕ
  invalidRejections : ℕ
  queueFullRejections : ℕ
  dispatchedRequests : ℕ
  timedOutRequests : ℕ
  downstreamFailures : ℕ
  deriving DecidableEq

/-- The two snapshot classes have the same fields. -/
def KISSDataQueueSnapshot.asAccess (snapshot : KISSDataQueueSnapshot) : AccessQueueSnapshot where
  queueDepth := snapshot.queueDepth
  queueCapacity := snapshot.queueCapacity
  activeRequestId := snapshot.activeRequestId
  nextRequestId := snapshot.nextRequestId
  acceptedRequests := snapshot.acceptedRequests
  invalidRejections := snapshot.invalidRejections
  queueFullRejections := snapshot.queueFullRejections
  dispatchedRequests := snapshot.dispatchedRequests
  timedOutRequests := snapshot.timedOutRequests
  downstreamFailures := snapshot.downstreamFailures

def KISSDataAdmissionQueue.snapshot (q : KISSDataAdmissionQueue) : KISSDataQueueSnapshot where
  queueDepth := q.queue.length
  queueCapacity := q.config.queueCapacity
  activeRequestId :=
    match q.queue with
    | [] => none
    | request :: _ => if request.attempt.isSome then some request.receipt.requestId else none
  nextRequestId := q.nextRequestId
  acceptedRequests := q.acceptedRequests
  invalidRejections := q.invalidRejections
  queueFullRejections := q.queueFullRejections
  dispatchedRequests := q.dispatchedRequests
  timedOutRequests := q.timedOutRequests
  downstreamFailures := q.downstreamFailures

/-! ### What is seen of a run -/

/-- Why a call raised, up to the exception classes of the two modules. -/
inductive Refusal where
  | time
  | frame
  | full
  | raised (e : PyError)

def PyError.refusal (e : PyError) : Refusal :=
  if e.cls = .kissDataTimeError ∨ e.cls = .other "AccessQueueTimeError" then .time
  else if e.cls = .kissDataFrameRejected ∨ e.cls = .other "AccessQueueFrameRejected" then .frame
  else if e.cls = .kissDataQueueFull ∨ e.cls = .other "AccessQueueFull" then .full
  else .raised e

/-- What a call gives its caller: the fields that both receipts and both observations
have. -/
inductive QueueOutcome (R : Type) where
  | refused (refusal : Refusal)
  | enqueued (requestId frameBytes : ℕ) (enqueuedAt deadlineAt : ℚ)
  | observed (now : ℚ) (requestId : Option ℕ) (requestState : Option String)
      (access : Option ChannelAccessObservation) (downstreamCalled : Bool)
      (downstreamResult : Option R) (downstreamError : String)

/-- A call of a run: its outcome, the frames submitted during it with their timeout, and
the snapshot after it. -/
structure QueueEvent (R : Type) where
  outcome : QueueOutcome R
  submitted : List (Bytes × ℚ)
  snapshot : AccessQueueSnapshot

/-- A submitter that does `result` and keeps what it was given. -/
def submitter {R : Type} (result : Except PyError R) (frame : Bytes) (timeout : ℚ) :
    StateM (List (Bytes × ℚ)) (Except PyError R) :=
  modifyGet fun submitted => (result, submitted ++ [(frame, timeout)])

variable {R : Type}

namespace KISSDataAdmissionQueue

def outcomeOfReceipt : Except PyError KISSDataRequestReceipt → QueueOutcome R
  | .error e => .refused e.refusal
  | .ok receipt =>
      .enqueued receipt.requestId receipt.frameBytesWithFcs receipt.enqueuedAt receipt.deadlineAt

def outcomeOfObservation : Except PyError (KISSDataQueueObservation R) → QueueOutcome R
  | .error e => .refused e.refusal
  | .ok observation =>
      .observed observation.now observation.requestId
        (observation.requestState.map KISSDataRequestState.value) observation.access
        observation.downstreamCalled observation.downstreamResult observation.downstreamError

/-- One call with what is seen of it. -/
def event (q : KISSDataAdmissionQueue) : QueueCall R → KISSDataAdmissionQueue × QueueEvent R
  | .enqueue frameNoFcs context now =>
      let (q, result) := q.enqueue frameNoFcs context now
      (q, ⟨outcomeOfReceipt result, [], q.snapshot.asAccess⟩)
  | .observe now raw source result =>
      let ((q, result), submitted) :=
        (q.observeRssi (fun frame _ timeout => submitter result frame timeout) now raw source).run
          []
      (q, ⟨outcomeOfObservation result, submitted, q.snapshot.asAccess⟩)

def events (q : KISSDataAdmissionQueue) : List (QueueCall R) → List (QueueEvent R)
  | [] => []
  | c :: cs => (q.event c).2 :: (q.event c).1.events cs

end KISSDataAdmissionQueue

namespace BoundedChannelAccessQueue

def outcomeOfReceipt : Except PyError AccessRequestReceipt → QueueOutcome R
  | .error e => .refused e.refusal
  | .ok receipt =>
      .enqueued receipt.requestId receipt.frameBytes receipt.enqueuedAt receipt.deadlineAt

def outcomeOfObservation : Except PyError (AccessQueueObservation R) → QueueOutcome R
  | .error e => .refused e.refusal
  | .ok observation =>
      .observed observation.now observation.requestId
        (observation.requestState.map AccessRequestState.value) observation.access
        observation.downstreamCalled observation.downstreamResult observation.downstreamError

/-- The same call of this queue: it enqueues the body with its FCS appended. -/
def event (q : BoundedChannelAccessQueue) :
    QueueCall R → BoundedChannelAccessQueue × QueueEvent R
  | .enqueue frameNoFcs _ now =>
      let (q, result) := q.enqueue (appendFcs frameNoFcs) now
      (q, ⟨outcomeOfReceipt result, [], q.snapshot⟩)
  | .observe now raw source result =>
      let ((q, result), submitted) := (q.observeRssi (submitter result) now raw source).run []
      (q, ⟨outcomeOfObservation result, submitted, q.snapshot⟩)

def events (q : BoundedChannelAccessQueue) : List (QueueCall R) → List (QueueEvent R)
  | [] => []
  | c :: cs => (q.event c).2 :: (q.event c).1.events cs

end BoundedChannelAccessQueue

/-! ### The simulation -/

/-- The access parameters of the channel-access queue. -/
def TNCTransmitContext.Plain (context : TNCTransmitContext) : Prop :=
  context.csmaParameters.persist = DEFAULT_PERSIST ∧
    context.csmaParameters.slotTime10ms = DEFAULT_SLOT_TIME_10MS ∧
    context.csmaParameters.maxWaitSeconds = DEFAULT_MAX_WAIT_SECONDS

/-- A call that both queues can be given. -/
def QueueCall.Plain : QueueCall R → Prop
  | .enqueue frameNoFcs context _ =>
      (∃ parsed, parseFrame frameNoFcs false = .ok parsed) ∧ context.Plain
  | .observe _ _ _ _ => True

def Request.asAccess (request : Request) : AccessRequest where
  receipt :=
    { requestId := request.receipt.requestId
      frameBytes := request.receipt.frameBytesWithFcs
      enqueuedAt := request.receipt.enqueuedAt
      deadlineAt := request.receipt.deadlineAt }
  frame := request.frameWithFcs
  attempt := request.attempt

namespace KISSDataAdmissionQueue

def asAccess (q : KISSDataAdmissionQueue) : BoundedChannelAccessQueue where
  queueCapacity := q.config.queueCapacity
  requestTimeoutSeconds := q.config.requestTimeoutSeconds
  downstreamTimeoutSeconds := q.config.downstreamTimeoutSeconds
  queue := q.queue.map Request.asAccess
  nextRequestId := q.nextRequestId
  lastNow := q.lastNow
  acceptedRequests := q.acceptedRequests
  invalidRejections := q.invalidRejections
  queueFullRejections := q.queueFullRejections
  dispatchedRequests := q.dispatchedRequests
  timedOutRequests := q.timedOutRequests
  downstreamFailures := q.downstreamFailures

/-- Every captured context has the parameters of the other queue. -/
def Plain (q : KISSDataAdmissionQueue) : Prop :=
  ∀ request ∈ q.queue, request.context.Plain

theorem plain_iff {q : KISSDataAdmissionQueue} :
    q.Plain ↔ ∀ admission ∈ q.waiting, admission.2.2.Plain := by
  unfold Plain waiting
  rw [List.forall_mem_map]
  rfl

theorem snapshot_asAccess (q : KISSDataAdmissionQueue) :
    q.asAccess.snapshot = q.snapshot.asAccess := by
  unfold BoundedChannelAccessQueue.snapshot snapshot asAccess KISSDataQueueSnapshot.asAccess
  rw [List.length_map]
  cases q.queue with
  | nil => rfl
  | cons request rest => rfl

/-- The clocks agree, and a call that comes too early is refused by both. -/
theorem acceptNow_asAccess (q : KISSDataAdmissionQueue) (now : ℚ) :
    (∃ e e', q.acceptNow now = .error e ∧ q.asAccess.acceptNow now = .error e' ∧
        e.refusal = .time ∧ e'.refusal = .time) ∨
      (q.acceptNow now = .ok now ∧ q.asAccess.acceptNow now = .ok now) := by
  have hlast : q.asAccess.lastNow = q.lastNow := rfl
  unfold acceptNow BoundedChannelAccessQueue.acceptNow
  rw [hlast]
  by_cases hneg : now < 0
  · rw [if_pos hneg, if_pos hneg]
    exact .inl ⟨_, _, rfl, rfl, rfl, rfl⟩
  · rw [if_neg hneg, if_neg hneg]
    by_cases hlate : now < q.lastNow
    · rw [if_pos hlate, if_pos hlate]
      exact .inl ⟨_, _, rfl, rfl, rfl, rfl⟩
    · rw [if_neg hlate, if_neg hlate]
      exact .inr ⟨rfl, rfl⟩

theorem attemptParameters_asAccess {request : Request} (h : request.context.Plain) {now : ℚ}
    (hnow : now < request.receipt.deadlineAt) :
    attemptParameters request now hnow =
      BoundedChannelAccessQueue.attemptParameters (request.receipt.deadlineAt - now)
        (sub_pos.mpr hnow) := by
  obtain ⟨hpersist, hslot, hwait⟩ := h
  unfold attemptParameters BoundedChannelAccessQueue.attemptParameters
  simp only [hpersist, hslot, hwait]

theorem headAttempt_asAccess {request : Request} (h : request.context.Plain) {now : ℚ}
    (hnow : now < request.receipt.deadlineAt) :
    BoundedChannelAccessQueue.headAttempt request.asAccess now hnow =
      headAttempt request now hnow := by
  have hattempt : request.asAccess.attempt = request.attempt := rfl
  unfold headAttempt BoundedChannelAccessQueue.headAttempt
  rw [attemptParameters_asAccess h hnow, hattempt]
  rfl

/-- A body that parses has room for an address and more. -/
theorem length_of_parseFrame {frameNoFcs : Bytes} {parsed : ParsedFrame}
    (h : parseFrame frameNoFcs false = .ok parsed) : frameNoFcs ≠ [] := by
  rintro rfl
  cases h

theorem event_enqueue_asAccess (q : KISSDataAdmissionQueue) {frameNoFcs : Bytes}
    {parsed : ParsedFrame} (hparse : parseFrame frameNoFcs false = .ok parsed)
    (context : TNCTransmitContext) (now : ℚ) :
    q.asAccess.event (.enqueue frameNoFcs context now : QueueCall R) =
      ((q.event (.enqueue frameNoFcs context now : QueueCall R)).1.asAccess,
        (q.event (.enqueue frameNoFcs context now : QueueCall R)).2) := by
  have hvalid : ¬ ((appendFcs frameNoFcs).length < 3 ∨ ¬ verifyFcs (appendFcs frameNoFcs)) := by
    have hpos : 0 < frameNoFcs.length := List.length_pos_iff.mpr (length_of_parseFrame hparse)
    rw [verifyFcs_appendFcs, appendFcs_length]
    rintro (hshort | hfcs)
    · omega
    · exact hfcs rfl
  unfold event BoundedChannelAccessQueue.event enqueue BoundedChannelAccessQueue.enqueue
  rcases q.acceptNow_asAccess now with ⟨e, e', hq, hp, hrefusal, hrefusal'⟩ | ⟨hq, hp⟩
  · simp only [hq, hp, outcomeOfReceipt, BoundedChannelAccessQueue.outcomeOfReceipt, hrefusal,
      hrefusal', snapshot_asAccess]
  have hlength : q.asAccess.queue.length = q.queue.length := List.length_map _
  have hcapacity : q.asAccess.queueCapacity = q.config.queueCapacity := rfl
  simp only [hq, hp, hparse, hvalid, if_false, hlength, hcapacity]
  by_cases hfull : q.config.queueCapacity ≤ q.queue.length
  · simp only [hfull, if_true, ← snapshot_asAccess]
    rfl
  · simp only [hfull, if_false, ← snapshot_asAccess]
    simp only [asAccess, List.map_append]
    rfl

/-- Around any submitter the two queues do the same with an observation. -/
theorem Plain.observeRssi_asAccess {m : Type → Type} [Monad m] [LawfulMonad m]
    (submitFrame : Bytes → ℚ → m (Except PyError R)) {q : KISSDataAdmissionQueue} (h : q.Plain)
    (now : ℚ) (raw : ℤ) (source : RandomByteSource) :
    (fun r => (r.1, BoundedChannelAccessQueue.outcomeOfObservation r.2)) <$>
        q.asAccess.observeRssi submitFrame now raw source =
      (fun r => (r.1.asAccess, outcomeOfObservation r.2)) <$>
        q.observeRssi (fun frame _ timeout => submitFrame frame timeout) now raw source := by
  unfold observeRssi prepare BoundedChannelAccessQueue.observeRssi
  rcases q.acceptNow_asAccess now with ⟨e, e', hq, hp, hrefusal, hrefusal'⟩ | ⟨hq, hp⟩
  · simp only [hq, hp, map_pure, outcomeOfObservation,
      BoundedChannelAccessQueue.outcomeOfObservation, hrefusal, hrefusal']
  simp only [hq, hp]
  cases hqueue : q.queue with
  | nil =>
      have hqueue' : q.asAccess.queue = [] := by rw [asAccess, hqueue]; rfl
      simp only [hqueue', map_pure]
      rfl
  | cons request rest =>
      have hqueue' : q.asAccess.queue = request.asAccess :: rest.map Request.asAccess := by
        rw [asAccess, hqueue]; rfl
      have hplain : request.context.Plain := h request (by rw [hqueue]; exact List.mem_cons_self)
      have hreceipt : request.asAccess.receipt.deadlineAt = request.receipt.deadlineAt := rfl
      simp only [hqueue', hreceipt]
      by_cases hdeadline : now < request.receipt.deadlineAt
      · simp only [hdeadline, dite_true, headAttempt_asAccess hplain hdeadline]
        cases hattempt : headAttempt request now hdeadline with
        | error e =>
            simp only [map_pure]
            rfl
        | ok attempt =>
            simp only []
            rcases attempt.observeRssi now raw source with ⟨attempt', e | access⟩
            · simp only [map_pure]
              rfl
            · simp only [route]
              cases hstate : access.csma.state with
              | waitClear =>
                  simp only [map_pure]
                  rfl
              | waitSlot =>
                  simp only [map_pure]
                  rfl
              | ready =>
                  simp only [map_bind, map_pure]
                  refine congrArg (submitFrame _ _ >>= ·) (funext fun result => ?_)
                  cases result with
                  | error e => exact map_pure _ _
                  | ok r => exact map_pure _ _
              | timedOut =>
                  simp only [map_pure]
                  rfl
      · simp only [hdeadline, dite_false, map_pure]
        rfl

theorem Plain.event_asAccess {q : KISSDataAdmissionQueue} (h : q.Plain) {c : QueueCall R}
    (hc : c.Plain) : q.asAccess.event c = ((q.event c).1.asAccess, (q.event c).2) := by
  cases c with
  | enqueue frameNoFcs context now =>
      obtain ⟨⟨parsed, hparse⟩, -⟩ := hc
      exact q.event_enqueue_asAccess hparse context now
  | observe now raw source result =>
      have hmap := congrArg (·.run []) (h.observeRssi_asAccess (submitter result) now raw source)
      simp only [StateT.run_map] at hmap
      simp only [event, BoundedChannelAccessQueue.event]
      generalize (q.asAccess.observeRssi (submitter result) now raw source).run [] = ran at hmap ⊢
      generalize (q.observeRssi (fun frame _ timeout => submitter result frame timeout) now raw
        source).run [] = ran' at hmap ⊢
      obtain ⟨⟨p, observed⟩, submitted⟩ := ran
      obtain ⟨⟨q', observed'⟩, submitted'⟩ := ran'
      change ((p, BoundedChannelAccessQueue.outcomeOfObservation observed), submitted) =
        ((q'.asAccess, outcomeOfObservation observed'), submitted') at hmap
      rw [Prod.mk.injEq, Prod.mk.injEq] at hmap
      obtain ⟨⟨rfl, houtcome⟩, rfl⟩ := hmap
      dsimp only
      rw [houtcome, snapshot_asAccess]

/-- The state after a call, without what is seen of it. -/
theorem event_fst (q : KISSDataAdmissionQueue) (c : QueueCall R) :
    (q.event c).1 = (q.call c).1 := by
  cases c with
  | enqueue frameNoFcs context now => rfl
  | observe now raw source result =>
      rcases hcase : q.prepare (R := R) now raw source with ⟨q', observed | ⟨now', request, access⟩⟩
      · simp only [event, observeRssi, call, hcase]
        rfl
      · simp only [event, observeRssi, call, hcase]
        rfl

theorem Plain.event {q : KISSDataAdmissionQueue} (h : q.Plain) {c : QueueCall R}
    (hc : c.Plain) : (q.event c).1.Plain := by
  rw [event_fst]
  obtain ⟨-, -, hwaiting⟩ := (q.call_calls c).waiting_cases
  rw [plain_iff] at h ⊢
  rcases hwaiting with ⟨hsame, -⟩ | ⟨htail, -⟩ | ⟨frameNoFcs, context, now, rfl, -, -, -, happend⟩
  · rw [hsame]
    exact h
  · rw [htail]
    exact fun admission hmem => h admission (List.mem_of_mem_tail hmem)
  · rw [happend]
    intro admission hmem
    rcases List.mem_append.mp hmem with hold | hnew
    · exact h admission hold
    · rw [List.mem_singleton.mp hnew]
      exact hc.2

theorem Plain.events_asAccess {q : KISSDataAdmissionQueue} (h : q.Plain)
    {cs : List (QueueCall R)} (hcs : ∀ c ∈ cs, c.Plain) : q.asAccess.events cs = q.events cs := by
  induction cs generalizing q with
  | nil => rfl
  | cons c cs ih =>
      have hc : c.Plain := hcs c List.mem_cons_self
      have hrest : ∀ c' ∈ cs, c'.Plain := fun c' hmem => hcs c' (List.mem_cons_of_mem c hmem)
      rw [events, BoundedChannelAccessQueue.events, h.event_asAccess hc]
      dsimp only
      rw [ih (h.event hc) hrest]

theorem init_asAccess (config : QueueConfig) :
    BoundedChannelAccessQueue.init config.queueCapacity config.requestTimeoutSeconds
      config.downstreamTimeoutSeconds = .ok (init config).asAccess := by
  have hcapacity : ¬ (config.queueCapacity : ℤ) < 1 := by
    have hone := config.one_le_capacity
    omega
  unfold BoundedChannelAccessQueue.init
  rw [if_neg hcapacity, if_neg (not_le.mpr config.requestTimeout_pos),
    if_neg (not_le.mpr config.downstreamTimeout_pos)]
  rfl

/-- Two queues of one capacity and one pair of timeouts, from their construction on:
nothing that a caller or the submitter sees tells them apart. -/
theorem init_events (config : QueueConfig) (p : BoundedChannelAccessQueue)
    (hp : BoundedChannelAccessQueue.init config.queueCapacity config.requestTimeoutSeconds
      config.downstreamTimeoutSeconds = .ok p)
    (cs : List (QueueCall R)) (hcs : ∀ c ∈ cs, c.Plain) :
    (init config).snapshot.asAccess = p.snapshot ∧ (init config).events cs = p.events cs := by
  rw [init_asAccess, Except.ok.injEq] at hp
  subst hp
  have hplain : (init config).Plain := fun request hmem => absurd hmem List.not_mem_nil
  exact ⟨((init config).snapshot_asAccess).symm, (hplain.events_asAccess hcs).symm⟩

/-- A request that is refused in time, admitted, observed on a clear channel and
dispatched. -/
def dispatchedRun : List (QueueCall Unit) :=
  [.enqueue receiveReady .default (-1), .enqueue receiveReady .default 0,
    .observe 0 143 none (.ok ()), .observe (1 / 4) 143 none (.ok ()),
    .observe (7 / 20) 143 (some (.ok 7)) (.ok ()), .observe 1 143 none (.ok ())]

theorem plain_dispatchedRun : ∀ c ∈ dispatchedRun, c.Plain := by
  have hparse : ∃ parsed, parseFrame receiveReady false = .ok parsed := ⟨_, rfl⟩
  have hcontext : TNCTransmitContext.default.Plain := ⟨rfl, rfl, rfl⟩
  intro c hmem
  unfold dispatchedRun at hmem
  simp only [List.mem_cons, List.not_mem_nil, or_false] at hmem
  rcases hmem with rfl | rfl | rfl | rfl | rfl | rfl
  · exact ⟨hparse, hcontext⟩
  · exact ⟨hparse, hcontext⟩
  all_goals exact trivial

theorem init_events_dispatchedRun :
    ∃ p, BoundedChannelAccessQueue.init 4 30 (3 / 2) = .ok p ∧
      (init .engine).snapshot.asAccess = p.snapshot ∧
      (init .engine).events dispatchedRun = p.events dispatchedRun :=
  ⟨_, init_asAccess .engine,
    init_events .engine _ (init_asAccess .engine) dispatchedRun plain_dispatchedRun⟩

example : ((init .engine).events dispatchedRun).map (·.submitted) =
    [[], [], [], [], [(appendFcs receiveReady, 3 / 2)], []] := by
  decide +kernel

end KISSDataAdmissionQueue

end YwdTnc
