import YwdTnc.Kiss.TxPath

/-!
# Conservation of admitted requests

The counters, the ids and the requests of the admission queue agree after every
call, whichever of its exits the call takes.
-/

namespace YwdTnc

/-- What admission fixes of a request: receipt, frame and context. -/
abbrev Admission := KISSDataRequestReceipt × Bytes × TNCTransmitContext

namespace Admission

def id (a : Admission) : ℕ := a.1.requestId

def frameWithFcs (a : Admission) : Bytes := a.2.1

def context (a : Admission) : TNCTransmitContext := a.2.2

end Admission

/-- Everything of a request but its access attempt. -/
def Request.admission (request : Request) : Admission :=
  (request.receipt, request.frameWithFcs, request.context)

def Request.id (request : Request) : ℕ := request.receipt.requestId

namespace KISSDataAdmissionQueue

/-- The requests of the queue, as they were admitted. -/
def waiting (q : KISSDataAdmissionQueue) : List Admission :=
  q.queue.map Request.admission

/-- Every admitted request is queued or accounted for, and the queued ones are
the last ones admitted, in order. -/
structure Conserved (q : KISSDataAdmissionQueue) : Prop where
  depth_le : q.queue.length ≤ q.config.queueCapacity
  accepted : q.acceptedRequests = q.queue.length + q.dispatchedRequests +
    q.timedOutRequests + q.downstreamFailures
  ids : ∃ first, q.queue.map Request.id = List.range' first q.queue.length ∧
    first + q.queue.length = q.nextRequestId
  headOnly : ∀ request ∈ q.queue.tail, request.attempt = none

theorem conserved_init (config : QueueConfig) : (init config).Conserved where
  depth_le := Nat.zero_le _
  accepted := rfl
  ids := ⟨1, rfl, rfl⟩
  headOnly := by
    intro request hmem
    cases hmem

/-- Only the head's attempt and the last-seen time changed. -/
theorem Conserved.advance {q : KISSDataAdmissionQueue} (h : q.Conserved)
    {request request' : Request} {rest : List Request} (now : ℚ)
    (hqueue : q.queue = request :: rest)
    (hadmission : request'.admission = request.admission) :
    { q with lastNow := now, queue := request' :: rest }.Conserved := by
  obtain ⟨hdepth, haccepted, ⟨first, hids, hnext⟩, hhead⟩ := h
  rw [hqueue] at hdepth haccepted hids hnext hhead
  have hid : request'.id = request.id := congrArg (·.1.requestId) hadmission
  constructor
  · exact hdepth
  · exact haccepted
  · refine ⟨first, ?_, hnext⟩
    rw [List.map_cons, hid]
    exact hids
  · exact hhead

/-- The head left the queue and one of the terminal counters took it. -/
theorem Conserved.leave {q : KISSDataAdmissionQueue} (h : q.Conserved)
    {request : Request} {rest : List Request} (now : ℚ)
    (hqueue : q.queue = request :: rest) (dispatched timedOut failed : ℕ)
    (hone : dispatched + timedOut + failed = 1) :
    { q with
      lastNow := now
      queue := rest
      dispatchedRequests := q.dispatchedRequests + dispatched
      timedOutRequests := q.timedOutRequests + timedOut
      downstreamFailures := q.downstreamFailures + failed }.Conserved := by
  obtain ⟨hdepth, haccepted, ⟨first, hids, hnext⟩, hhead⟩ := h
  rw [hqueue, List.length_cons] at hdepth haccepted hids hnext
  rw [hqueue, List.tail_cons] at hhead
  constructor
  · exact Nat.le_of_succ_le hdepth
  · simp only [haccepted]
    omega
  · refine ⟨first + 1, ?_, ?_⟩
    · rw [List.map_cons, List.range'_succ, List.cons.injEq] at hids
      exact hids.2
    · rw [Nat.add_comm rest.length 1, ← Nat.add_assoc] at hnext
      exact hnext
  · intro request' hmem
    exact hhead request' (List.mem_of_mem_tail hmem)

theorem Conserved.enqueue {q q' : KISSDataAdmissionQueue} (h : q.Conserved)
    {frameNoFcs : Bytes} {context : TNCTransmitContext} {now : ℚ}
    {result : Except PyError KISSDataRequestReceipt}
    (henqueue : q.Enqueues frameNoFcs context now q' result) : q'.Conserved := by
  obtain ⟨hdepth, haccepted, ⟨first, hids, hnext⟩, hhead⟩ := h
  cases henqueue with
  | late hlate hcls => exact ⟨hdepth, haccepted, ⟨first, hids, hnext⟩, hhead⟩
  | invalid hnow hcls hparse => exact ⟨hdepth, haccepted, ⟨first, hids, hnext⟩, hhead⟩
  | full hnow hcls hparse hfull =>
      exact ⟨hdepth, haccepted, ⟨first, hids, hnext⟩, hhead⟩
  | admits hnow hparse hroom =>
      constructor
      · simp only [List.length_append, List.length_singleton]
        exact hroom
      · simp only [List.length_append, List.length_singleton, haccepted]
        omega
      · refine ⟨first, ?_, ?_⟩
        · simp only [List.map_append, List.map_singleton, List.length_append,
            List.length_singleton, hids, List.range'_concat, Nat.one_mul]
          rw [hnext]
          rfl
        · simp only [List.length_append, List.length_singleton]
          omega
      · intro request hmem
        cases hqueue : q.queue with
        | nil =>
            rw [hqueue] at hmem
            cases hmem
        | cons head rest =>
            simp only [hqueue, List.cons_append, List.tail_cons, List.mem_append,
              List.mem_singleton] at hmem
            rcases hmem with hmem | rfl
            · apply hhead
              rw [hqueue]
              exact hmem
            · rfl

theorem Conserved.prepare {q q' : KISSDataAdmissionQueue} (h : q.Conserved) {R : Type}
    {now : ℚ} {raw : ℤ} {source : RandomByteSource} {prepared : Prepared R}
    (hprepare : q.Prepares now raw source q' prepared) : q'.Conserved := by
  cases hprepare with
  | late hlate hcls => exact h
  | idle hnow hqueue => exact ⟨h.depth_le, h.accepted, h.ids, h.headOnly⟩
  | expired hnow hqueue hdeadline => exact h.leave now hqueue 0 1 0 rfl
  | raised hnow hqueue hdeadline hattempt hobserve => exact h.advance now hqueue rfl
  | waits hnow hqueue hdeadline hattempt hobserve hstate =>
      exact h.advance now hqueue rfl
  | timesOut hnow hqueue hdeadline hattempt hobserve hstate =>
      exact h.leave now hqueue 0 1 0 rfl
  | submits hnow hqueue hdeadline hattempt hobserve hstate =>
      exact h.advance now hqueue rfl

theorem Conserved.finish {q : KISSDataAdmissionQueue} (h : q.Conserved) {R : Type}
    {request : Request} {rest : List Request} (hqueue : q.queue = request :: rest)
    (now : ℚ) (access : ChannelAccessObservation) (result : Except PyError R) :
    (q.finish now request access result).1.Conserved := by
  have hleft : q.queue.tail = rest := by
    rw [hqueue, List.tail_cons]
  cases result with
  | error e =>
      have hleave := h.leave q.lastNow hqueue 0 0 1 rfl
      simp only [KISSDataAdmissionQueue.finish, hleft]
      exact hleave
  | ok result =>
      have hleave := h.leave q.lastNow hqueue 1 0 0 rfl
      simp only [KISSDataAdmissionQueue.finish, hleft]
      exact hleave

/-! ### Requests enter at the tail and leave at the head -/

/-- The admitted requests of `q'` are those of `q`, or lack its head, or have one
more at the end. -/
def Fifo (q q' : KISSDataAdmissionQueue) : Prop :=
  q'.queue.map Request.admission = q.queue.map Request.admission ∨
    q'.queue.map Request.admission = (q.queue.map Request.admission).tail ∨
    ∃ request, q'.queue.map Request.admission =
      q.queue.map Request.admission ++ [request]

theorem fifo_enqueue {q q' : KISSDataAdmissionQueue} {frameNoFcs : Bytes}
    {context : TNCTransmitContext} {now : ℚ}
    {result : Except PyError KISSDataRequestReceipt}
    (h : q.Enqueues frameNoFcs context now q' result) : q.Fifo q' := by
  cases h with
  | late | invalid | full => exact .inl rfl
  | admits hnow hparse hroom =>
      refine .inr (.inr ⟨(q.admitted frameNoFcs context now).admission, ?_⟩)
      rw [List.map_append, List.map_singleton]

theorem fifo_prepare {q q' : KISSDataAdmissionQueue} {R : Type} {now : ℚ} {raw : ℤ}
    {source : RandomByteSource} {prepared : Prepared R}
    (h : q.Prepares now raw source q' prepared) : q.Fifo q' := by
  cases h with
  | late | idle => exact .inl rfl
  | expired hnow hqueue hdeadline =>
      refine .inr (.inl ?_)
      rw [hqueue, List.map_cons, List.tail_cons]
  | raised hnow hqueue hdeadline hattempt hobserve =>
      refine .inl ?_
      rw [hqueue]
      rfl
  | waits hnow hqueue hdeadline hattempt hobserve hstate =>
      refine .inl ?_
      rw [hqueue]
      rfl
  | timesOut hnow hqueue hdeadline hattempt hobserve hstate =>
      refine .inr (.inl ?_)
      rw [hqueue, List.map_cons, List.tail_cons]
  | submits hnow hqueue hdeadline hattempt hobserve hstate =>
      refine .inl ?_
      rw [hqueue]
      rfl

theorem fifo_finish (q : KISSDataAdmissionQueue) {R : Type} (now : ℚ)
    (request : Request) (access : ChannelAccessObservation) (result : Except PyError R) :
    q.Fifo (q.finish now request access result).1 := by
  have hqueue : (q.finish now request access result).1.queue = q.queue.tail := by
    cases result with
    | error e => rfl
    | ok result => rfl
  refine .inr (.inl ?_)
  rw [hqueue, List.map_tail]

/-- A rejected enqueue in time changes its own counter and the last-seen time. -/
theorem rejected_enqueue {q q' : KISSDataAdmissionQueue} {frameNoFcs : Bytes}
    {context : TNCTransmitContext} {now : ℚ} {e : PyError} (hnow : q.Accepts now)
    (h : q.Enqueues frameNoFcs context now q' (.error e)) :
    (e.cls = .kissDataFrameRejected ∧
      q' = { q with lastNow := now, invalidRejections := q.invalidRejections + 1 }) ∨
    (e.cls = .kissDataQueueFull ∧
      q' = { q with
        lastNow := now, queueFullRejections := q.queueFullRejections + 1 }) := by
  cases h with
  | late hlate hcls => exact absurd hnow hlate
  | invalid hnow hcls hparse => exact .inl ⟨hcls, rfl⟩
  | full hnow hcls hparse hfull => exact .inr ⟨hcls, rfl⟩

/-! ### The waiting requests -/

section Waiting

variable {q q' : KISSDataAdmissionQueue} {R : Type}

theorem waiting_enqueue {frameNoFcs : Bytes} {context : TNCTransmitContext} {now : ℚ}
    {result : Except PyError KISSDataRequestReceipt}
    (h : q.Enqueues frameNoFcs context now q' result) :
    (∃ e, result = .error e ∧ q'.waiting = q.waiting ∧
      q'.nextRequestId = q.nextRequestId) ∨
    ∃ a : Admission, result = .ok a.1 ∧ a.id = q.nextRequestId ∧
      a.frameWithFcs = appendFcs frameNoFcs ∧ q'.waiting = q.waiting ++ [a] ∧
      q'.nextRequestId = q.nextRequestId + 1 := by
  cases h with
  | late | invalid | full => exact .inl ⟨_, rfl, rfl, rfl⟩
  | admits hnow hparse hroom =>
      refine .inr ⟨(q.admitted frameNoFcs context now).admission, rfl, rfl, rfl, ?_, rfl⟩
      simp only [waiting, List.map_append, List.map_singleton]

theorem waiting_enqueue_ok {frameNoFcs : Bytes} {context : TNCTransmitContext} {now : ℚ}
    {receipt : KISSDataRequestReceipt} (h : q.Enqueues frameNoFcs context now q' (.ok receipt)) :
    ∃ a : Admission, a.1 = receipt ∧ a.id = q.nextRequestId ∧
      a.frameWithFcs = appendFcs frameNoFcs ∧ q'.waiting = q.waiting ++ [a] ∧
      q'.nextRequestId = q.nextRequestId + 1 := by
  rcases waiting_enqueue h with ⟨e, herror, -⟩ | ⟨a, hreceipt, hrest⟩
  · cases herror
  · exact ⟨a, (Except.ok.inj hreceipt).symm, hrest⟩

theorem waiting_enqueue_error {frameNoFcs : Bytes} {context : TNCTransmitContext} {now : ℚ}
    {e : PyError} (h : q.Enqueues frameNoFcs context now q' (.error e)) :
    q'.waiting = q.waiting ∧ q'.nextRequestId = q.nextRequestId := by
  rcases waiting_enqueue h with ⟨e, -, hsame⟩ | ⟨a, hreceipt, -⟩
  · exact hsame
  · cases hreceipt

theorem nextRequestId_prepare {now : ℚ} {raw : ℤ} {source : RandomByteSource}
    {prepared : Prepared R} (h : q.Prepares now raw source q' prepared) :
    q'.nextRequestId = q.nextRequestId := by
  cases h <;> rfl

theorem waiting_prepare_error {now : ℚ} {raw : ℤ} {source : RandomByteSource}
    {e : PyError} (h : q.Prepares (R := R) now raw source q' (.done (.error e))) :
    q'.waiting = q.waiting := by
  cases h with
  | late => rfl
  | raised hnow hqueue =>
      simp only [waiting, hqueue, List.map_cons]
      rfl

/-- The queue after a body was admitted. -/
def admits (q : KISSDataAdmissionQueue) (frameNoFcs : Bytes) (context : TNCTransmitContext)
    (now : ℚ) : KISSDataAdmissionQueue :=
  { q with
    lastNow := now
    nextRequestId := q.nextRequestId + 1
    queue := q.queue ++ [q.admitted frameNoFcs context now]
    acceptedRequests := q.acceptedRequests + 1 }

/-- A well-formed body is admitted while there is room. -/
theorem enqueue_admits {frameNoFcs : Bytes} {context : TNCTransmitContext} {now : ℚ}
    {parsed : ParsedFrame} (hnow : q.Accepts now)
    (hparse : parseFrame frameNoFcs false = .ok parsed)
    (hroom : q.queue.length < q.config.queueCapacity) :
    q.enqueue frameNoFcs context now =
      (q.admits frameNoFcs context now, .ok (q.admitted frameNoFcs context now).receipt) := by
  have hexit := q.enqueue_enqueues frameNoFcs context now
  generalize q.enqueue frameNoFcs context now = exit at hexit ⊢
  obtain ⟨q', result⟩ := exit
  cases hexit with
  | late hlate => exact absurd hnow hlate
  | invalid _ _ hinvalid => exact absurd hparse (hinvalid parsed)
  | full _ _ _ hfull => exact absurd hroom (not_lt.mpr hfull)
  | admits => rfl

/-- A request that is past its deadline leaves the queue. -/
theorem prepare_expired (q : KISSDataAdmissionQueue) (R : Type) (now : ℚ) (raw : ℤ)
    (source : RandomByteSource) {request : Request} {rest : List Request} (hnow : q.Accepts now)
    (hqueue : q.queue = request :: rest) (hdeadline : request.receipt.deadlineAt ≤ now) :
    ∃ reason, q.prepare (R := R) now raw source =
      ({ q with
          lastNow := now, queue := rest, timedOutRequests := q.timedOutRequests + 1 },
        .done (.ok (report now request .timedOut none reason))) := by
  have hexit := q.prepare_prepares (R := R) now raw source
  generalize q.prepare (R := R) now raw source = exit at hexit ⊢
  obtain ⟨q', prepared⟩ := exit
  have hhead : ∀ {request' rest'}, q.queue = request' :: rest' →
      ¬ now < request'.receipt.deadlineAt := by
    intro request' rest' hqueue'
    rw [hqueue, List.cons.injEq] at hqueue'
    rw [← hqueue'.1]
    exact not_lt.mpr hdeadline
  cases hexit with
  | late hlate => exact absurd hnow hlate
  | idle _ hempty =>
      rw [hqueue] at hempty
      cases hempty
  | expired _ hqueue' =>
      rw [hqueue, List.cons.injEq] at hqueue'
      obtain ⟨rfl, rfl⟩ := hqueue'
      exact ⟨_, rfl⟩
  | raised _ hqueue' hbefore | waits _ hqueue' hbefore | timesOut _ hqueue' hbefore
  | submits _ hqueue' hbefore => exact absurd hbefore (hhead hqueue')

theorem finish_eq (q : KISSDataAdmissionQueue) (now : ℚ) (request : Request)
    (access : ChannelAccessObservation) (result : Except PyError R) :
    (q.finish now request access result).1.waiting = q.waiting.tail ∧
      (q.finish now request access result).1.nextRequestId = q.nextRequestId := by
  cases result with
  | error e => exact ⟨List.map_tail, rfl⟩
  | ok result => exact ⟨List.map_tail, rfl⟩

theorem finish_ok (q : KISSDataAdmissionQueue) (now : ℚ) (request : Request)
    (access : ChannelAccessObservation) (r : R) :
    (q.finish now request access (.ok r)).1.lastNow = q.lastNow ∧
      (q.finish now request access (.ok r)).1.downstreamFailures = q.downstreamFailures :=
  ⟨rfl, rfl⟩

/-- A submitted request is one of the waiting ones, and no failure is counted yet. -/
theorem prepare_submit {now now' : ℚ} {raw : ℤ} {source : RandomByteSource}
    {request : Request} {access : ChannelAccessObservation}
    (h : q.Prepares (R := R) now raw source q' (.submit now' request access)) :
    request.admission ∈ q.waiting ∧ q'.waiting = q.waiting ∧
      q'.downstreamFailures = q.downstreamFailures := by
  cases h with
  | @submits request' rest attempt attempt' _ hnow hqueue =>
      refine ⟨?_, ?_, rfl⟩
      · rw [waiting, hqueue, List.map_cons]
        exact List.mem_cons_self ..
      · simp only [waiting, hqueue, List.map_cons]
        rfl

/-- An observation that does not reach the submitter fails no request. -/
theorem prepare_done {now : ℚ} {raw : ℤ} {source : RandomByteSource}
    {observation : KISSDataQueueObservation R}
    (h : q.Prepares now raw source q' (.done (.ok observation))) :
    observation.requestState ≠ some .dispatched ∧
      observation.requestState ≠ some .downstreamFailed ∧
      q'.downstreamFailures = q.downstreamFailures := by
  cases h with
  | idle | expired | waits | timesOut => exact ⟨nofun, nofun, rfl⟩

end Waiting

end KISSDataAdmissionQueue

end YwdTnc
