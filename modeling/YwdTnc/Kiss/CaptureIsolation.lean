import YwdTnc.Interaction.Isolation
import YwdTnc.Kiss.Dispatch
import YwdTnc.Kiss.TxBackend
import YwdTnc.Tx.Generations

/-!
# Isolation of captured parameters

The TX-enabled backend over the admission queue and the stack below it, with any
number of clients. A parameter message changes the live session only, and a
request carries the parameters of its capture, so two runs in which the same
parameters are in force at every capture admit, time out and submit the same
requests, whatever else their clients did to the session.
-/

namespace YwdTnc

open Interaction Prog

/-! ### The queue less its generations -/

def KISSDataRequestReceipt.unlabelled (receipt : KISSDataRequestReceipt) :
    KISSDataRequestReceipt :=
  { receipt with parameterGeneration := 0 }

def KISSDataQueueObservation.unlabelled {R : Type} (observation : KISSDataQueueObservation R) :
    KISSDataQueueObservation R :=
  { observation with parameterGeneration := observation.parameterGeneration.map fun _ => 0 }

def Request.unlabelled (request : Request) : Request :=
  { request with
    receipt := request.receipt.unlabelled
    context := request.context.unlabelled }

namespace KISSDataAdmissionQueue

variable {R : Type}

def unlabelled (q : KISSDataAdmissionQueue) : KISSDataAdmissionQueue :=
  { q with queue := q.queue.map Request.unlabelled }

def Prepared.unlabelled : Prepared R → Prepared R
  | .done result => .done (result.map KISSDataQueueObservation.unlabelled)
  | .submit now request access => .submit now request.unlabelled access

/-- The submitter call that is due: the frame and its opening flags. -/
def Prepared.submission? : Prepared R → Option (Bytes × ℕ)
  | .done _ => none
  | .submit _ request _ => some (request.frameWithFcs, request.context.preFlags)

theorem Prepared.submission?_unlabelled (prepared : Prepared R) :
    prepared.unlabelled.submission? = prepared.submission? := by
  cases prepared with
  | done result => rfl
  | submit now request access => rfl

/-- Admission stores the generation of its context and does not look at it. -/
theorem enqueue_unlabelled (q : KISSDataAdmissionQueue) (frameNoFcs : Bytes)
    (context : TNCTransmitContext) (now : ℚ) :
    q.unlabelled.enqueue frameNoFcs context.unlabelled now =
      ((q.enqueue frameNoFcs context now).1.unlabelled,
        (q.enqueue frameNoFcs context now).2.map KISSDataRequestReceipt.unlabelled) := by
  have haccept : q.unlabelled.acceptNow now = q.acceptNow now := rfl
  have hlength : q.unlabelled.queue.length = q.queue.length := List.length_map ..
  unfold enqueue
  rw [haccept]
  cases q.acceptNow now with
  | error e => rfl
  | ok now =>
      dsimp only
      cases parseFrame frameNoFcs false with
      | error e => rfl
      | ok parsed =>
          dsimp only
          have hiff : q.unlabelled.config.queueCapacity ≤ q.unlabelled.queue.length ↔
              q.config.queueCapacity ≤ q.queue.length := by
            rw [hlength]
            rfl
          by_cases hfull : q.config.queueCapacity ≤ q.queue.length
          · rw [if_pos (hiff.mpr hfull), if_pos hfull]
            rfl
          · rw [if_neg (fun h => hfull (hiff.mp h)), if_neg hfull]
            simp only [unlabelled, List.map_append, List.map_singleton]
            rfl

theorem route_unlabelled (q : KISSDataAdmissionQueue) (now : ℚ) (request : Request)
    (rest : List Request) (access : ChannelAccessObservation) :
    q.unlabelled.route (R := R) now request.unlabelled (rest.map Request.unlabelled) access =
      ((q.route (R := R) now request rest access).1.unlabelled,
        (q.route now request rest access).2.unlabelled) := by
  unfold route
  cases access.csma.state <;> rfl

/-- An observation reads the times, the frame and the attempt of its head. -/
theorem prepare_unlabelled (q : KISSDataAdmissionQueue) (now : ℚ) (raw : ℤ)
    (source : RandomByteSource) :
    q.unlabelled.prepare (R := R) now raw source =
      ((q.prepare (R := R) now raw source).1.unlabelled,
        (q.prepare now raw source).2.unlabelled) := by
  have haccept : q.unlabelled.acceptNow now = q.acceptNow now := rfl
  unfold prepare
  rw [haccept]
  cases q.acceptNow now with
  | error e => rfl
  | ok now =>
      dsimp only
      cases hqueue : q.queue with
      | nil =>
          have hmap : q.unlabelled.queue = [] := by
            rw [unlabelled, hqueue]
            rfl
          rw [hmap]
          simp only [unlabelled, hqueue]
          rfl
      | cons request rest =>
          have hmap : q.unlabelled.queue =
              request.unlabelled :: rest.map Request.unlabelled := by
            rw [unlabelled, hqueue]
            rfl
          rw [hmap]
          dsimp only
          by_cases hdeadline : now < request.receipt.deadlineAt
          · have hsame : now < request.unlabelled.receipt.deadlineAt := hdeadline
            have hhead : headAttempt request.unlabelled now hsame =
                headAttempt request now hdeadline := rfl
            rw [dif_pos hsame, dif_pos hdeadline, hhead]
            cases headAttempt request now hdeadline with
            | error e =>
                simp only [unlabelled, hqueue]
                rfl
            | ok attempt =>
                dsimp only
                rcases attempt.observeRssi now raw source with ⟨attempt', result⟩
                cases result with
                | error e => rfl
                | ok access =>
                    exact route_unlabelled
                      { q with
                        lastNow := now
                        queue := { request with attempt := some attempt' } :: rest }
                      now { request with attempt := some attempt' } rest access
          · have hsame : ¬ now < request.unlabelled.receipt.deadlineAt := hdeadline
            rw [dif_neg hsame, dif_neg hdeadline]
            rfl

theorem finish_unlabelled (q : KISSDataAdmissionQueue) (now : ℚ) (request : Request)
    (access : ChannelAccessObservation) (result : Except PyError R) :
    q.unlabelled.finish now request.unlabelled access result =
      ((q.finish now request access result).1.unlabelled,
        (q.finish now request access result).2.unlabelled) := by
  have htail : q.unlabelled.queue.tail = q.queue.tail.map Request.unlabelled := by
    rw [unlabelled, List.map_tail]
  unfold finish
  rw [htail]
  cases result with
  | error e => rfl
  | ok r => rfl

end KISSDataAdmissionQueue

namespace TransmitPath

variable {R : Type}

theorem observeRssi_done (parameters : HalfDuplexParameters) {q q₁ : KISSDataAdmissionQueue}
    {now : ℚ} {raw : ℤ} {source : RandomByteSource}
    {result : Except PyError (KISSDataQueueObservation TXReceipt)}
    (hprepare : q.prepare now raw source = (q₁, .done result)) :
    observeRssi (R := R) parameters q now raw source = ret (q₁, result) := by
  rw [observeRssi, KISSDataAdmissionQueue.observeRssi, hprepare]
  rfl

theorem observeRssi_submit (parameters : HalfDuplexParameters) {q q₁ : KISSDataAdmissionQueue}
    {now now' : ℚ} {raw : ℤ} {source : RandomByteSource} {request : Request}
    {access : ChannelAccessObservation}
    (hprepare : q.prepare (R := TXReceipt) now raw source =
      (q₁, .submit now' request access)) :
    observeRssi (R := R) parameters q now raw source =
      andThen (attempt (ContextualHalfDuplexSubmitter.submitFrame parameters
          request.frameWithFcs request.context (some q₁.config.downstreamTimeoutSeconds)))
        fun result => ret ((q₁.finish now' request access result).1,
          .ok (q₁.finish now' request access result).2) := by
  rw [observeRssi, KISSDataAdmissionQueue.observeRssi, hprepare]
  rfl

/-- Observations that end the same way, but for generations. -/
inductive SameOutcome :
    Outcome PyError (KISSDataAdmissionQueue × Except PyError (KISSDataQueueObservation TXReceipt)) →
    Outcome PyError (KISSDataAdmissionQueue × Except PyError (KISSDataQueueObservation TXReceipt)) →
      Prop
  | returned {q q' : KISSDataAdmissionQueue}
      {result result' : Except PyError (KISSDataQueueObservation TXReceipt)}
      (hqueue : q.unlabelled = q'.unlabelled)
      (hresult : result.map KISSDataQueueObservation.unlabelled =
        result'.map KISSDataQueueObservation.unlabelled) :
      SameOutcome (.returned (q, result)) (.returned (q', result'))
  | raised (e : PyError) : SameOutcome (.raised e) (.raised e)
  | pending : SameOutcome .pending .pending

/-- An observation of two queues and stacks that differ in generations. -/
theorem observeRssi_seen (parameters : HalfDuplexParameters) {q q' : KISSDataAdmissionQueue}
    (hqueue : q.unlabelled = q'.unlabelled) {submitter submitter' : ContextualHalfDuplexSubmitter}
    (hsubmitter : submitter.unlabelled = submitter'.unlabelled) (now : ℚ) (raw : ℤ)
    (source : RandomByteSource) (answers : Script (PortQuery.Answer R) PyError) :
    let r := (observeRssi parameters q now raw source).run submitter answers
    let r' := (observeRssi parameters q' now raw source).run submitter' answers
    SameOutcome r.outcome r'.outcome ∧ r.state.unlabelled = r'.state.unlabelled ∧
      r.trace = r'.trace := by
  have hprepare := q.prepare_unlabelled (R := TXReceipt) now raw source
  rw [hqueue, q'.prepare_unlabelled, Prod.mk.injEq] at hprepare
  obtain ⟨hnext, hprepared⟩ := hprepare
  rcases hs : q.prepare (R := TXReceipt) now raw source with ⟨q₁, result | ⟨now₁, request, access⟩⟩
  · rcases ht : q'.prepare (R := TXReceipt) now raw source with ⟨q₁', result' | ⟨_, _, _⟩⟩
    · rw [hs, ht] at hnext hprepared
      injection hprepared with hresult
      rw [observeRssi_done parameters hs, observeRssi_done parameters ht]
      exact ⟨.returned hnext.symm hresult.symm, hsubmitter, rfl⟩
    · rw [hs, ht] at hprepared
      cases hprepared
  · rcases ht : q'.prepare (R := TXReceipt) now raw source with
      ⟨q₁', result' | ⟨now₁', request', access'⟩⟩
    · rw [hs, ht] at hprepared
      cases hprepared
    · rw [hs, ht] at hnext hprepared
      injection hprepared with hnow hrequest haccess
      subst hnow haccess
      have hframe : request'.frameWithFcs = request.frameWithFcs := by
        have h := congrArg Request.frameWithFcs hrequest
        exact h
      have hcontext : request.context.unlabelled = request'.context.unlabelled := by
        have h := congrArg Request.context hrequest
        exact h.symm
      have hconfig : q₁'.config = q₁.config := by
        have h := congrArg KISSDataAdmissionQueue.config hnext
        exact h
      have hsame := (ContextualHalfDuplexSubmitter.submitFrame_alike (R := R) parameters
        request.frameWithFcs hcontext (some q₁.config.downstreamTimeoutSeconds)).attempt
        submitter submitter' answers
        (ContextualHalfDuplexSubmitter.unlabelled_eq_iff.mp hsubmitter)
      rw [observeRssi_submit parameters hs, observeRssi_submit parameters ht, hframe, hconfig]
      dsimp only [andThen]
      rcases hrun : (attempt (ContextualHalfDuplexSubmitter.submitFrame (R := R) parameters
        request.frameWithFcs request.context
          (some q₁.config.downstreamTimeoutSeconds))).run submitter answers with
        ⟨o, final, rest, calls⟩
      rw [hrun] at hsame
      obtain ⟨final', hfinal, hrun'⟩ := hsame.eq
      rw [hrun']
      have hfinal' := ContextualHalfDuplexSubmitter.unlabelled_eq_iff.mpr hfinal
      cases o with
      | returned result =>
          have hfinish := q₁.finish_unlabelled now₁' request access' result
          rw [← hnext, ← hrequest, q₁'.finish_unlabelled, Prod.mk.injEq] at hfinish
          exact ⟨.returned hfinish.1.symm (congrArg Except.ok hfinish.2.symm), hfinal', rfl⟩
      | raised e => exact ⟨.raised e, hfinal', rfl⟩
      | pending => exact ⟨.pending, hfinal', rfl⟩

end TransmitPath

def KISSDataIngressResult.unlabelled (result : KISSDataIngressResult) : KISSDataIngressResult :=
  { result with receipt := result.receipt.map KISSDataRequestReceipt.unlabelled }

/-- What a backend reports of an admission is a function of the queue's result. -/
theorem ModemTNCBackend.afterEnqueue_unlabelled (b b' : ModemTNCBackend)
    (result : Except PyError KISSDataRequestReceipt) :
    (b.afterEnqueue (result.map KISSDataRequestReceipt.unlabelled)).2 =
      (b'.afterEnqueue result).2.map KISSDataIngressResult.unlabelled := by
  cases result with
  | ok receipt => rfl
  | error e =>
      simp only [Except.map, afterEnqueue, TNCTransmitBackend.afterEnqueue]
      split <;> rfl

/-- DATA on port 0. Every other message is for the live session only. -/
def KISSMessage.isData (message : KISSMessage) : Bool :=
  message.port = 0 ∧ message.command = DATA

/-! ### The backend over the queue and the stack -/

/-- The backend, the queue and the stack below it. A client that has captured a
context is on its way into the queue with its body; an observation that waits
for the modem for ever keeps the queue's lock. -/
structure DataPath (C : Type) where
  backend : ModemTNCBackend
  path : TransmitPath
  captured : C → Option (Bytes × TNCTransmitContext)
  wedged : Bool

/-- What the clients and the scheduler do, with the clock readings, the reading
of the radio, the random octet and the answers of the modem that they get. -/
inductive DataPathEvent (R C : Type) where
  | message (client : C) (message : KISSMessage)
  | enqueue (client : C) (now : ℚ)
  | observe (now : ℚ) (raw : ℤ) (source : RandomByteSource)
      (answers : Script (PortQuery.Answer R) PyError)

/-- What comes of it. An observation tells which frame it hands to the submitter,
with how many opening flags, and what is asked of the modem. -/
inductive DataPathReport (R : Type) where
  | handled
  | raised (e : PyError)
  | captured (context : TNCTransmitContext)
  | enqueued (result : Except PyError KISSDataIngressResult)
  | observed (submission : Option (Bytes × ℕ))
      (outcome : Outcome PyError (Except PyError (KISSDataQueueObservation TXReceipt)))
      (calls : List (PortCall R))
  | blocked

namespace DataPath

variable {R C : Type} [DecidableEq C]

def init (config : QueueConfig) (session : TNCSessionState) (router : ContextualTXDelayRouter) :
    DataPath C where
  backend := .init session true
  path := .init config router
  captured _ := none
  wedged := false

/-- `reject_client_message` up to the queue. -/
def message (s : DataPath C) (client : C) (message : KISSMessage) :
    DataPath C × DataPathReport R :=
  match s.captured client with
  | some _ => (s, .blocked)
  | none =>
      match s.backend.rejectClientMessage message s.path.queue.config.requestTimeoutSeconds with
      | (backend, .error e) => ({ s with backend }, .raised e)
      | (backend, .ok (.handled _)) => ({ s with backend }, .handled)
      | (backend, .ok (.data frameNoFcs context)) =>
          ({ s with
              backend
              captured := Function.update s.captured client (some (frameNoFcs, context)) },
            .captured context)

/-- The rest of it, at the time `now`. -/
def enqueue (s : DataPath C) (client : C) (now : ℚ) : DataPath C × DataPathReport R :=
  match s.captured client with
  | none => (s, .blocked)
  | some (frameNoFcs, context) =>
      if s.wedged then (s, .blocked)
      else
        let (queue, result) := s.path.queue.enqueue frameNoFcs context now
        let (backend, result) := s.backend.afterEnqueue result
        ({ s with
            backend
            path := { s.path with queue }
            captured := Function.update s.captured client none },
          .enqueued result)

/-- What an observation leaves behind. -/
def settle (s : DataPath C) (submission : Option (Bytes × ℕ)) :
    Result (PortQuery.Answer R) PyError ContextualHalfDuplexSubmitter
        (KISSDataAdmissionQueue × Except PyError (KISSDataQueueObservation TXReceipt)) →
      DataPath C × DataPathReport R
  | ⟨.returned (queue, result), submitter, _, calls⟩ =>
      ({ s with path := { queue, submitter } }, .observed submission (.returned result) calls)
  | ⟨.raised e, submitter, _, calls⟩ =>
      ({ s with path := { s.path with submitter } }, .observed submission (.raised e) calls)
  | ⟨.pending, submitter, _, calls⟩ =>
      ({ s with path := { s.path with submitter }, wedged := true },
        .observed submission .pending calls)

/-- `observe_rssi`, with the submitter's calls answered by `answers`. -/
def observe (parameters : HalfDuplexParameters) (s : DataPath C) (now : ℚ) (raw : ℤ)
    (source : RandomByteSource) (answers : Script (PortQuery.Answer R) PyError) :
    DataPath C × DataPathReport R :=
  if s.wedged then (s, .blocked)
  else
    s.settle (s.path.queue.prepare (R := TXReceipt) now raw source).2.submission?
      ((TransmitPath.observeRssi parameters s.path.queue now raw source).run
        s.path.submitter answers)

def machine (R C : Type) [DecidableEq C] (parameters : HalfDuplexParameters) :
    Machine (DataPath C) (DataPathEvent R C) (DataPathReport R) where
  step s
    | .message client message => s.message client message
    | .enqueue client now => s.enqueue client now
    | .observe now raw source answers => s.observe parameters now raw source answers

/-! ### What the two runs share -/

def visible : DataPathEvent R C → Bool
  | .message _ message => message.isData
  | .enqueue _ _ | .observe _ _ _ _ => true

/-- TXDELAY, PERSIST and SLOTTIME as they are in force at a capture. -/
def inForce (s : DataPath C) : DataPathEvent R C → Option (ℕ × ℕ × ℕ)
  | .message client message =>
      if message.isData ∧ (s.captured client).isNone then
        let parameters := s.backend.session.parameters
        some (parameters.txdelay, parameters.persist, parameters.slottime)
      else none
  | .enqueue _ _ | .observe _ _ _ _ => none

/-- The state less its session and its generations. -/
def core (s : DataPath C) : DataPath C where
  backend := .init .default s.backend.transmitEnabled
  path := ⟨s.path.queue.unlabelled, s.path.submitter.unlabelled⟩
  captured client := (s.captured client).map fun body => (body.1, body.2.unlabelled)
  wedged := s.wedged

end DataPath

/-- A report less the generations in it. -/
def DataPathReport.unlabelled {R : Type} : DataPathReport R → DataPathReport R
  | .handled => .handled
  | .raised e => .raised e
  | .captured context => .captured context.unlabelled
  | .enqueued result => .enqueued (result.map KISSDataIngressResult.unlabelled)
  | .observed submission (.returned result) calls =>
      .observed submission (.returned (result.map KISSDataQueueObservation.unlabelled)) calls
  | .observed submission (.raised e) calls => .observed submission (.raised e) calls
  | .observed submission .pending calls => .observed submission .pending calls
  | .blocked => .blocked

namespace ModemTNCBackend

/-- Every message but DATA on port 0 ends in the control plane. -/
theorem rejectClientMessage_control (b : ModemTNCBackend) {message : KISSMessage}
    (hcontrol : message.isData = false) (timeout : ℚ) :
    ∃ b' result, b.rejectClientMessage message timeout = (b', .ok (.handled result)) ∧
      b'.transmitEnabled = b.transmitEnabled := by
  have hother : ¬ (message.port = 0 ∧ message.command = DATA) := by
    rw [KISSMessage.isData, decide_eq_false_iff_not] at hcontrol
    exact hcontrol
  have hsuper : message.command ≠ DATA ∨ message.port ≠ 0 := by
    rw [not_and_or] at hother
    exact hother.symm
  rw [rejectClientMessage, if_neg hother, TNCTransmitBackend.rejectClientMessage,
    if_pos hsuper]
  exact ⟨_, _, rfl, rfl⟩

/-- A disabled backend refuses DATA. -/
theorem rejectClientMessage_disabled (b : ModemTNCBackend) {message : KISSMessage}
    (hdata : message.isData = true) (hdisabled : b.transmitEnabled = false) (timeout : ℚ) :
    ∃ b' result, b.rejectClientMessage message timeout = (b', .ok (.handled result)) ∧
      b'.transmitEnabled = b.transmitEnabled := by
  rw [KISSMessage.isData, decide_eq_true_iff] at hdata
  rw [rejectClientMessage, if_pos hdata, if_pos hdisabled]
  exact ⟨_, _, rfl, rfl⟩

/-- An enabled backend captures the parameters in force. -/
theorem rejectClientMessage_data (b : ModemTNCBackend) {message : KISSMessage}
    (hdata : message.isData = true) (henabled : b.transmitEnabled = true) {timeout : ℚ}
    (htimeout : 0 < timeout) :
    ∃ b' context, b.rejectClientMessage message timeout =
        (b', .ok (.data message.frame context)) ∧
      b'.transmitEnabled = b.transmitEnabled ∧ context.parameters = b.session.parameters ∧
      context.csmaParameters.maxWaitSeconds = timeout := by
  rw [KISSMessage.isData, decide_eq_true_iff] at hdata
  have hother : ¬ (message.command ≠ DATA ∨ message.port ≠ 0) := by
    rw [not_or, not_not, not_not]
    exact hdata.symm
  obtain ⟨context, hcapture, hparameters, hwait⟩ := b.session.captureTxContext_ok htimeout
  rw [rejectClientMessage, if_pos hdata, if_neg (by rw [henabled]; exact nofun),
    TNCTransmitBackend.rejectClientMessage, if_neg hother]
  dsimp only
  rw [hcapture]
  exact ⟨_, context, rfl, rfl, hparameters, hwait⟩

end ModemTNCBackend

namespace DataPath

variable {R C : Type}

/-- Two states with the same core. -/
structure SameCore (s t : DataPath C) : Prop where
  transmitEnabled : s.backend.transmitEnabled = t.backend.transmitEnabled
  queue : s.path.queue.unlabelled = t.path.queue.unlabelled
  submitter : s.path.submitter.unlabelled = t.path.submitter.unlabelled
  captured : ∀ client, (s.captured client).map (fun body => (body.1, body.2.unlabelled)) =
    (t.captured client).map fun body => (body.1, body.2.unlabelled)
  wedged : s.wedged = t.wedged

theorem core_eq_iff {s t : DataPath C} : s.core = t.core ↔ SameCore s t := by
  constructor
  · intro h
    exact ⟨congrArg (fun x => x.backend.transmitEnabled) h, congrArg (fun x => x.path.queue) h,
      congrArg (fun x => x.path.submitter) h,
      fun client => congrFun (congrArg (fun x => x.captured) h) client,
      congrArg (fun x => x.wedged) h⟩
  · rintro ⟨henabled, hqueue, hsubmitter, hcaptured, hwedged⟩
    simp only [core, henabled, hqueue, hsubmitter, hcaptured, hwedged]

theorem SameCore.config_eq {s t : DataPath C} (h : SameCore s t) :
    s.path.queue.config = t.path.queue.config :=
  congrArg (fun q => q.config) h.queue

/-- A client is on its way into the queue in both states or in neither. -/
theorem SameCore.captured_cases {s t : DataPath C} (h : SameCore s t) (client : C) :
    (s.captured client = none ∧ t.captured client = none) ∨
      ∃ frameNoFcs context context', context.unlabelled = context'.unlabelled ∧
        s.captured client = some (frameNoFcs, context) ∧
        t.captured client = some (frameNoFcs, context') := by
  have hclient := h.captured client
  cases hs : s.captured client with
  | none =>
      rw [hs, Option.map_none, eq_comm, Option.map_eq_none_iff] at hclient
      exact .inl ⟨rfl, hclient⟩
  | some body =>
      obtain ⟨frameNoFcs, context⟩ := body
      rw [hs, Option.map_some, eq_comm, Option.map_eq_some_iff] at hclient
      obtain ⟨⟨frame', context'⟩, ht, heq⟩ := hclient
      obtain ⟨rfl, hcontext⟩ := Prod.mk.inj heq
      exact .inr ⟨frame', context, context', hcontext.symm, rfl, ht⟩

/-! ### The steps -/

variable [DecidableEq C]

/-- A client that moves on in both states. -/
theorem SameCore.captured_update {s t : DataPath C} (h : SameCore s t) (client : C)
    {body body' : Option (Bytes × TNCTransmitContext)}
    (hbody : body.map (fun body => (body.1, body.2.unlabelled)) =
      body'.map fun body => (body.1, body.2.unlabelled)) (c : C) :
    (Function.update s.captured client body c).map (fun body => (body.1, body.2.unlabelled)) =
      (Function.update t.captured client body' c).map
        fun body => (body.1, body.2.unlabelled) := by
  by_cases hc : c = client
  · subst hc
    rw [Function.update_self, Function.update_self]
    exact hbody
  · rw [Function.update_of_ne hc, Function.update_of_ne hc]
    exact h.captured c

/-- A parameter message leaves the core alone. -/
theorem message_hidden (s : DataPath C) (client : C) {m : KISSMessage}
    (hcontrol : m.isData = false) : SameCore (s.message (R := R) client m).1 s := by
  unfold message
  split
  case h_1 => exact ⟨rfl, rfl, rfl, fun _ => rfl, rfl⟩
  case h_2 =>
    obtain ⟨b', result, hreject, henabled⟩ := s.backend.rejectClientMessage_control hcontrol
      s.path.queue.config.requestTimeoutSeconds
    rw [hreject]
    exact ⟨henabled, rfl, rfl, fun _ => rfl, rfl⟩

/-- A capture under the same parameters. -/
theorem message_seen {s t : DataPath C} (h : SameCore s t) (client : C) {m : KISSMessage}
    (hdata : m.isData = true)
    (hforce : s.inForce (R := R) (.message client m) = t.inForce (R := R) (.message client m)) :
    SameCore (s.message (R := R) client m).1 (t.message (R := R) client m).1 ∧
      (s.message (R := R) client m).2.unlabelled =
        (t.message (R := R) client m).2.unlabelled := by
  unfold message
  rcases h.captured_cases client with ⟨hs, ht⟩ | ⟨frame, context, context', -, hs, ht⟩
  · rw [hs, ht]
    dsimp only
    cases henabled : s.backend.transmitEnabled with
    | false =>
        have henabled' : t.backend.transmitEnabled = false := by
          rw [← h.transmitEnabled, henabled]
        obtain ⟨b, result, hreject, hb⟩ :=
          s.backend.rejectClientMessage_disabled hdata henabled
            s.path.queue.config.requestTimeoutSeconds
        obtain ⟨b', result', hreject', hb'⟩ :=
          t.backend.rejectClientMessage_disabled hdata henabled'
            t.path.queue.config.requestTimeoutSeconds
        rw [hreject, hreject']
        refine ⟨{ h with transmitEnabled := ?_ }, rfl⟩
        rw [hb, hb', henabled, henabled']
    | true =>
        have henabled' : t.backend.transmitEnabled = true := by
          rw [← h.transmitEnabled, henabled]
        obtain ⟨b, context, hreject, hb, hparameters, hwait⟩ :=
          s.backend.rejectClientMessage_data hdata henabled
            s.path.queue.config.requestTimeout_pos
        obtain ⟨b', context', hreject', hb', hparameters', hwait'⟩ :=
          t.backend.rejectClientMessage_data hdata henabled'
            t.path.queue.config.requestTimeout_pos
        have hlabel : context.unlabelled = context'.unlabelled := by
          simp only [inForce, hdata, hs, ht, Option.isNone_none, and_self, if_true,
            Option.some.injEq, Prod.mk.injEq, ← hparameters, ← hparameters'] at hforce
          refine TNCTransmitContext.unlabelled_eq hforce.1 hforce.2.1 hforce.2.2 ?_
          rw [hwait, hwait', h.config_eq]
        have hbody : (some (m.frame, context)).map (fun body => (body.1, body.2.unlabelled)) =
            (some (m.frame, context')).map fun body => (body.1, body.2.unlabelled) :=
          congrArg (fun x => some (m.frame, x)) hlabel
        rw [hreject, hreject']
        refine ⟨{ h with
          transmitEnabled := ?_, captured := h.captured_update client hbody }, ?_⟩
        · rw [hb, hb', henabled, henabled']
        · exact congrArg DataPathReport.captured hlabel
  · rw [hs, ht]
    exact ⟨h, rfl⟩

/-- The queue admits the same body under the same label. -/
theorem enqueue_seen {s t : DataPath C} (h : SameCore s t) (client : C) (now : ℚ) :
    SameCore (s.enqueue (R := R) client now).1 (t.enqueue (R := R) client now).1 ∧
      (s.enqueue (R := R) client now).2.unlabelled =
        (t.enqueue (R := R) client now).2.unlabelled := by
  unfold enqueue
  rcases h.captured_cases client with ⟨hs, ht⟩ | ⟨frame, context, context', hlabel, hs, ht⟩
  · rw [hs, ht]
    exact ⟨h, rfl⟩
  rw [hs, ht]
  dsimp only
  cases hwedged : s.wedged with
  | true =>
      rw [← h.wedged, hwedged]
      exact ⟨h, rfl⟩
  | false =>
      rw [← h.wedged, hwedged]
      have hadmit := s.path.queue.enqueue_unlabelled frame context now
      have hadmit' := t.path.queue.enqueue_unlabelled frame context' now
      rw [h.queue, hlabel, hadmit', Prod.mk.injEq] at hadmit
      obtain ⟨hqueue, hresult⟩ := hadmit
      refine ⟨{ h with
        queue := hqueue.symm, captured := h.captured_update client rfl, wedged := rfl }, ?_⟩
      refine congrArg DataPathReport.enqueued ?_
      rw [← s.backend.afterEnqueue_unlabelled s.backend,
        ← s.backend.afterEnqueue_unlabelled t.backend, hresult]

omit [DecidableEq C] in
/-- An observation advances the same head by the same reading. -/
theorem observe_seen (parameters : HalfDuplexParameters) {s t : DataPath C} (h : SameCore s t)
    (now : ℚ) (raw : ℤ) (source : RandomByteSource)
    (answers : Script (PortQuery.Answer R) PyError) :
    SameCore (s.observe parameters now raw source answers).1
        (t.observe parameters now raw source answers).1 ∧
      (s.observe parameters now raw source answers).2.unlabelled =
        (t.observe parameters now raw source answers).2.unlabelled := by
  unfold observe
  cases hwedged : s.wedged with
  | true =>
      rw [← h.wedged, hwedged]
      exact ⟨h, rfl⟩
  | false =>
      rw [← h.wedged, hwedged]
      obtain ⟨houtcome, hstate, htrace⟩ := TransmitPath.observeRssi_seen parameters h.queue
        h.submitter now raw source answers
      have hsubmission : (s.path.queue.prepare (R := TXReceipt) now raw source).2.submission? =
          (t.path.queue.prepare (R := TXReceipt) now raw source).2.submission? := by
        have hprepare := s.path.queue.prepare_unlabelled (R := TXReceipt) now raw source
        rw [h.queue, t.path.queue.prepare_unlabelled, Prod.mk.injEq] at hprepare
        have hsame := congrArg KISSDataAdmissionQueue.Prepared.submission? hprepare.2
        rw [KISSDataAdmissionQueue.Prepared.submission?_unlabelled,
          KISSDataAdmissionQueue.Prepared.submission?_unlabelled] at hsame
        exact hsame.symm
      rw [hsubmission]
      generalize (TransmitPath.observeRssi parameters s.path.queue now raw source).run
        s.path.submitter answers = r at houtcome hstate htrace ⊢
      generalize (TransmitPath.observeRssi parameters t.path.queue now raw source).run
        t.path.submitter answers = r' at houtcome hstate htrace ⊢
      obtain ⟨o, submitter, rest, calls⟩ := r
      obtain ⟨o', submitter', rest', calls'⟩ := r'
      cases htrace
      cases houtcome with
      | returned hqueue hresult =>
          refine ⟨{ h with queue := hqueue, submitter := hstate }, ?_⟩
          exact congrArg (fun x => DataPathReport.observed _ (.returned x) calls) hresult
      | raised e => exact ⟨{ h with submitter := hstate }, rfl⟩
      | pending => exact ⟨{ h with submitter := hstate, wedged := rfl }, rfl⟩

/-! ### Two runs -/

/-- The session is unobservable but for the parameters in force at a capture. -/
theorem isolates (parameters : HalfDuplexParameters) :
    (machine R C parameters).Isolates visible inForce core DataPathReport.unlabelled := by
  constructor
  · intro s e hvisible
    cases e with
    | message client m => exact core_eq_iff.mpr (s.message_hidden client hvisible)
    | enqueue | observe => cases hvisible
  · intro s e hvisible
    cases e with
    | message client m =>
        have hcontrol : m.isData = false := hvisible
        simp only [inForce, hcontrol, Bool.false_eq_true, false_and, if_false]
    | enqueue | observe => rfl
  · intro s t e hcore
    cases e with
    | message client m =>
        rcases (core_eq_iff.mp hcore).captured_cases client with
          ⟨hs, ht⟩ | ⟨frame, context, context', -, hs, ht⟩
        · simp only [inForce, hs, ht]
          split <;> rfl
        · simp only [inForce, hs, ht, Option.isNone_some, Bool.false_eq_true, and_false,
            if_false]
    | enqueue | observe => rfl
  · intro s t e hvisible hcore hforce
    have h := core_eq_iff.mp hcore
    rw [core_eq_iff]
    cases e with
    | message client m => exact message_seen h client hvisible hforce
    | enqueue client now => exact enqueue_seen h client now
    | observe now raw source answers => exact observe_seen parameters h now raw source answers

/-- Two runs of the TX-enabled backend over the same queue and stack, from any
sessions, with the same DATA messages, clock readings, RSSI values, random octets
and answers of the modem in the same order. The other messages are arbitrary,
but TXDELAY, PERSIST and SLOTTIME are the same at every capture. Then the runs
report the same of every capture, admission and observation: receipts, request
states, access decisions, submitter calls with their frames and opening flags,
and calls of the modem, all but the generations. -/
theorem run_isolated (parameters : HalfDuplexParameters) (config : QueueConfig)
    (router : ContextualTXDelayRouter) (session session' : TNCSessionState)
    (es es' : List (DataPathEvent R C)) (hevents : es.filter visible = es'.filter visible)
    (hforce :
      (machine R C parameters).readings inForce (init config session router) es =
        (machine R C parameters).readings inForce (init config session' router) es') :
    ((machine R C parameters).outputs visible (init config session router) es).map
        DataPathReport.unlabelled =
      ((machine R C parameters).outputs visible (init config session' router) es').map
        DataPathReport.unlabelled :=
  (isolates parameters).outputs_eq rfl hevents hforce

/-- One client's body, alone and among another client's updates. -/
def quietRun : List (DataPathEvent Unit Bool) :=
  [.message true ⟨0, DATA, receiveReady⟩, .enqueue true 0, .observe 0 40 none []]

def updatedRun : List (DataPathEvent Unit Bool) :=
  [.message false ⟨0, TXDELAY, [9]⟩, .message false ⟨0, TXDELAY, [30]⟩,
    .message true ⟨0, DATA, receiveReady⟩, .message false ⟨0, SLOTTIME, [1]⟩,
    .enqueue true 0, .message false ⟨0, PERSIST, [255]⟩, .observe 0 40 none []]

/-- Two updates before the capture that cancel out, and two after it. -/
theorem run_isolated_four_updates :
    ((machine Unit Bool .default).outputs visible
        (init .engine .default (.init true .engine)) quietRun).map
        DataPathReport.unlabelled =
      ((machine Unit Bool .default).outputs visible
        (init .engine .default (.init true .engine)) updatedRun).map
        DataPathReport.unlabelled :=
  run_isolated .default .engine (.init true .engine) .default .default quietRun updatedRun
    rfl rfl

end DataPath

end YwdTnc
