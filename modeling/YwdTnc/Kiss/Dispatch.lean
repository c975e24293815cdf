import YwdTnc.Interaction.Transition
import YwdTnc.Kiss.Conservation
import YwdTnc.Tx.Transmission

/-!
# From admission to the modem

The admission queue over the contextual half-duplex submitter, the router and
its brokers, with a modem port that answers anything. A run is a sequence of
calls of `enqueue` and `observe_rssi`. The bursts of a run are the
serializations of some of the admitted bodies, in the order of admission and
each at most once, and an observation reports `dispatched` exactly when the
burst of its request completed.
-/

namespace YwdTnc

open Interaction Prog

namespace Admission

/-- The burst of an admitted request: its frame behind the flags of its captured
TXDELAY. -/
def serialize (a : Admission) : Except PyError (ℕ × Bytes) :=
  match resolveTxdelay a.context.parameters.txdelay with
  | .error e => .error e
  | .ok profile => TXBroker.serialize profile.preFlags a.frameWithFcs

theorem serialize_eq (a : Admission) :
    a.serialize = TXBroker.serialize a.context.preFlags a.frameWithFcs := by
  rw [serialize, resolveTxdelay_ok a.context.txdelay_le]
  rfl

end Admission

/-- The queue with the components below it. -/
structure TransmitPath where
  queue : KISSDataAdmissionQueue
  submitter : ContextualHalfDuplexSubmitter

/-- The calls of a run, with their results. -/
inductive PathEvent (R : Type) where
  | enqueue (frameNoFcs : Bytes) (context : TNCTransmitContext)
      (result : Except PyError KISSDataRequestReceipt)
  | observe (result : Except PyError (KISSDataQueueObservation TXReceipt))
      (trace : List (PortCall R))

namespace TransmitPath

variable {R : Type}

def init (config : QueueConfig) (router : ContextualTXDelayRouter) : TransmitPath where
  queue := .init config
  submitter := .init router

/-- `observe_rssi` of the queue; an exception of the submitter is a value to it. -/
def observeRssi (parameters : HalfDuplexParameters) (queue : KISSDataAdmissionQueue)
    (now : ℚ) (raw : ℤ) (source : RandomByteSource) :
    PortProg R ContextualHalfDuplexSubmitter
      (KISSDataAdmissionQueue × Except PyError (KISSDataQueueObservation TXReceipt)) :=
  queue.observeRssi (fun frameWithFcs context timeout => attempt
    (ContextualHalfDuplexSubmitter.submitFrame parameters frameWithFcs context
      (some timeout))) now raw source

inductive Step (parameters : HalfDuplexParameters) :
    TransmitPath → PathEvent R → TransmitPath → Prop
  | enqueue {s : TransmitPath} {frameNoFcs : Bytes} {context : TNCTransmitContext} {now : ℚ} :
      Step parameters s
        (.enqueue frameNoFcs context (s.queue.enqueue frameNoFcs context now).2)
        { s with queue := (s.queue.enqueue frameNoFcs context now).1 }
  | observe {s : TransmitPath} {now : ℚ} {raw : ℤ} {source : RandomByteSource}
      {queue : KISSDataAdmissionQueue}
      {result : Except PyError (KISSDataQueueObservation TXReceipt)}
      {submitter : ContextualHalfDuplexSubmitter} {t : List (PortCall R)}
      (h : Runs (observeRssi parameters s.queue now raw source) s.submitter
        (.returned (queue, result)) submitter t) :
      Step parameters s (.observe result t) { queue, submitter }

/-- The path from its construction on. -/
def system (R : Type) (config : QueueConfig) (parameters : HalfDuplexParameters)
    (router : ContextualTXDelayRouter) : System TransmitPath (PathEvent R) where
  initial s := s = init config router
  step := Step parameters

/-! ### What a run admits and transmits -/

/-- The admissions of a run, in order; the frame of an admitted body is the body
with its FCS. -/
def admitted : List (PathEvent R) → List Admission
  | [] => []
  | .enqueue frameNoFcs context (.ok receipt) :: es =>
      (receipt, appendFcs frameNoFcs, context) :: admitted es
  | .enqueue _ _ (.error _) :: es => admitted es
  | .observe _ _ :: es => admitted es

/-- The bursts that a run asks the modem for, in order. -/
def transmitted : List (PathEvent R) → List (ℕ × Bytes)
  | [] => []
  | .enqueue _ _ _ :: es => transmitted es
  | .observe _ t :: es => bursts t ++ transmitted es

/-- An observation reports `dispatched` exactly when the burst of its request
completed. -/
def Truthful (admissions : List Admission) : PathEvent R → Prop
  | .observe (.ok observation) t =>
      observation.requestState = some .dispatched ↔
        ∃ a ∈ admissions, observation.requestId = some a.id ∧
          Completed a.context.preFlags a.frameWithFcs t
  | _ => True

/-! ### One observation -/

/-- What one observation can do. -/
inductive Observes (q q' : KISSDataAdmissionQueue) :
    Except PyError (KISSDataQueueObservation TXReceipt) → List (PortCall R) → Prop
  | quiet {result : Except PyError (KISSDataQueueObservation TXReceipt)}
      (hnext : q'.nextRequestId = q.nextRequestId)
      (hqueue : q'.waiting.Sublist q.waiting)
      (hresult : ∀ observation, result = .ok observation →
        observation.requestState ≠ some .dispatched) :
      Observes q q' result []
  | submits {a : Admission} {o : Outcome PyError TXReceipt} {t : List (PortCall R)}
      {observation : KISSDataQueueObservation TXReceipt}
      (hnext : q'.nextRequestId = q.nextRequestId) (hqueue : q.waiting = a :: q'.waiting)
      (htransmits : Transmits a.context.preFlags a.frameWithFcs o t)
      (hid : observation.requestId = some a.id)
      (hstate : observation.requestState = some .dispatched ↔ ∃ r, o = .returned r) :
      Observes q q' (.ok observation) t

/-- An observation that does not reach the submitter. -/
theorem quiet_of_done {q q' : KISSDataAdmissionQueue} {now : ℚ} {raw : ℤ}
    {source : RandomByteSource}
    {result : Except PyError (KISSDataQueueObservation TXReceipt)}
    (h : q.Prepares now raw source q' (.done result)) :
    Observes (R := R) q q' result [] := by
  have hhead : ∀ {request request' : Request} {rest : List Request},
      q.queue = request :: rest → request'.admission = request.admission →
      (List.map Request.admission (request' :: rest)).Sublist q.waiting := by
    intro request request' rest hqueue hadmission
    rw [KISSDataAdmissionQueue.waiting, hqueue, List.map_cons, List.map_cons, hadmission]
  have htail : ∀ {request : Request} {rest : List Request}, q.queue = request :: rest →
      (List.map Request.admission rest).Sublist q.waiting := by
    intro request rest hqueue
    rw [KISSDataAdmissionQueue.waiting, hqueue, List.map_cons]
    exact List.sublist_cons_self _ _
  cases h with
  | late =>
      refine .quiet rfl (List.Sublist.refl _) ?_
      rintro observation ⟨⟩
  | idle =>
      refine .quiet rfl (List.Sublist.refl _) ?_
      rintro observation ⟨⟩ hreceipt
      cases hreceipt
  | expired hnow hqueue | timesOut hnow hqueue =>
      refine .quiet rfl (htail hqueue) ?_
      rintro observation ⟨⟩ hreceipt
      cases hreceipt
  | raised hnow hqueue =>
      refine .quiet rfl (hhead hqueue rfl) ?_
      rintro observation ⟨⟩
  | waits hnow hqueue =>
      refine .quiet rfl (hhead hqueue rfl) ?_
      rintro observation ⟨⟩ hreceipt
      cases hreceipt

/-- The head that was handed to the submitter leaves the queue with the report. -/
theorem observes_finish {q q₁ : KISSDataAdmissionQueue} {now now' : ℚ} {raw : ℤ}
    {source : RandomByteSource} {request : Request} {access : ChannelAccessObservation}
    {o : Outcome PyError TXReceipt} {t : List (PortCall R)}
    (hprepare : q.Prepares (R := TXReceipt) now raw source q₁ (.submit now' request access))
    (htransmits : Transmits request.context.preFlags request.frameWithFcs o t)
    (result : Except PyError TXReceipt)
    (hresult : (∃ r, result = .ok r) ↔ ∃ r, o = .returned r) :
    Observes q (q₁.finish now' request access result).1
      (.ok (q₁.finish now' request access result).2) t := by
  cases hprepare with
  | @submits request₀ rest attempt attempt' access hnow hqueue =>
      have hwaiting : q.waiting = request₀.admission :: rest.map Request.admission := by
        rw [KISSDataAdmissionQueue.waiting, hqueue, List.map_cons]
      cases result with
      | error e =>
          refine .submits rfl hwaiting htransmits rfl ?_
          rw [← hresult]
          constructor
          · intro hreceipt
            cases hreceipt
          · rintro ⟨r, hr⟩
            cases hr
      | ok r =>
          refine .submits rfl hwaiting htransmits rfl ?_
          rw [← hresult]
          exact ⟨fun _ => ⟨r, rfl⟩, fun _ => rfl⟩

theorem observeRssi_observes {parameters : HalfDuplexParameters}
    {q q' : KISSDataAdmissionQueue} {now : ℚ} {raw : ℤ} {source : RandomByteSource}
    {result : Except PyError (KISSDataQueueObservation TXReceipt)}
    {s s' : ContextualHalfDuplexSubmitter} {t : List (PortCall R)}
    (h : Runs (observeRssi parameters q now raw source) s (.returned (q', result)) s' t) :
    Observes q q' result t := by
  have hprepares := q.prepare_prepares (R := TXReceipt) now raw source
  unfold observeRssi KISSDataAdmissionQueue.observeRssi at h
  rcases hprepare : q.prepare (R := TXReceipt) now raw source with ⟨q₁, prepared⟩
  rw [hprepare] at h hprepares
  cases prepared with
  | done result₁ =>
      obtain ⟨ho, -, rfl⟩ := runs_pure.1 h
      cases ho
      exact quiet_of_done hprepares
  | submit now' request access =>
      rcases h.attempt_bind_cases with
        ⟨r, s₁, t₁, t₂, hsubmit, hend, rfl⟩ | ⟨e, s₁, t₁, t₂, hsubmit, hend, rfl⟩ |
        ⟨-, ho⟩
      · obtain ⟨ho, -, rfl⟩ := runs_pure.1 hend
        cases ho
        rw [List.append_nil]
        refine observes_finish hprepares
          (ContextualHalfDuplexSubmitter.submitFrame_transmits (by simp) hsubmit) (.ok r) ?_
        exact ⟨fun _ => ⟨r, rfl⟩, fun _ => ⟨r, rfl⟩⟩
      · obtain ⟨ho, -, rfl⟩ := runs_pure.1 hend
        cases ho
        rw [List.append_nil]
        refine observes_finish hprepares
          (ContextualHalfDuplexSubmitter.submitFrame_transmits (by simp) hsubmit) (.error e) ?_
        exact ⟨fun ⟨r, hr⟩ => (nomatch hr), fun ⟨r, hr⟩ => (nomatch hr)⟩
      · cases ho

/-! ### Runs -/

theorem Step.enqueue_cases {parameters : HalfDuplexParameters} {s s' : TransmitPath}
    {frameNoFcs : Bytes} {context : TNCTransmitContext}
    {result : Except PyError KISSDataRequestReceipt}
    (h : Step (R := R) parameters s (.enqueue frameNoFcs context result) s') :
    (∃ receipt, result = .ok receipt ∧ receipt.requestId = s.queue.nextRequestId ∧
        s'.queue.nextRequestId = s.queue.nextRequestId + 1 ∧
        s'.queue.waiting =
          s.queue.waiting ++ [(receipt, appendFcs frameNoFcs, context)]) ∨
      (∃ e, result = .error e ∧ s'.queue.nextRequestId = s.queue.nextRequestId ∧
        s'.queue.waiting = s.queue.waiting) := by
  generalize hevent : PathEvent.enqueue frameNoFcs context result = event at h
  cases h with
  | @enqueue frameNoFcs' context' now =>
      cases hevent
      have henqueue := s.queue.enqueue_enqueues frameNoFcs context now
      generalize (s.queue.enqueue frameNoFcs context now).2 = result at henqueue
      generalize (s.queue.enqueue frameNoFcs context now).1 = q' at henqueue
      cases henqueue with
      | late | invalid | full => exact .inr ⟨_, rfl, rfl, rfl⟩
      | admits =>
          refine .inl ⟨_, rfl, rfl, rfl, ?_⟩
          rw [KISSDataAdmissionQueue.waiting, List.map_append, List.map_singleton]
          rfl
  | observe => cases hevent

theorem Step.observe_observes {parameters : HalfDuplexParameters} {s s' : TransmitPath}
    {result : Except PyError (KISSDataQueueObservation TXReceipt)}
    {t : List (PortCall R)} (h : Step parameters s (.observe result t) s') :
    Observes s.queue s'.queue result t := by
  cases h with
  | observe h => exact observeRssi_observes h

section Run

variable {config : QueueConfig} {parameters : HalfDuplexParameters}
  {router : ContextualTXDelayRouter} {s s' : TransmitPath} {es : List (PathEvent R)}

/-- What a run transmits comes from the requests that wait at its beginning and
the ones it admits. -/
theorem run_transmitted (h : (system R config parameters router).Run s es s') :
    ∃ sent : List Admission, sent.Sublist (s.queue.waiting ++ admitted es) ∧
      sent.map Admission.serialize = (transmitted es).map .ok := by
  induction h with
  | nil s => exact ⟨[], List.nil_sublist _, rfl⟩
  | @cons s s₁ s' e es hstep hrun ih =>
      obtain ⟨sent, hsent, hbursts⟩ := ih
      cases e with
      | enqueue frameNoFcs context result =>
          rcases Step.enqueue_cases hstep with
            ⟨receipt, rfl, -, -, hwaiting⟩ | ⟨e, rfl, -, hwaiting⟩
          · refine ⟨sent, ?_, hbursts⟩
            rw [hwaiting, List.append_assoc] at hsent
            exact hsent
          · refine ⟨sent, ?_, hbursts⟩
            rw [hwaiting] at hsent
            exact hsent
      | observe result t =>
          cases Step.observe_observes hstep with
          | quiet hnext hqueue hresult =>
              exact ⟨sent, hsent.trans (hqueue.append_right _), hbursts⟩
          | @submits a o t observation hnext hqueue htransmits hid hstate =>
              rcases htransmits.once with hnone | ⟨burst, hserialize, hone⟩
              · refine ⟨sent, ?_, ?_⟩
                · rw [hqueue]
                  exact hsent.cons a
                · rw [transmitted, hnone]
                  exact hbursts
              · refine ⟨a :: sent, ?_, ?_⟩
                · rw [hqueue]
                  exact hsent.cons_cons a
                · rw [transmitted, hone, List.map_cons, Admission.serialize_eq, hserialize,
                    hbursts]
                  rfl

/-- The ids of admitted requests count on from the next one. -/
theorem run_ids (h : (system R config parameters router).Run s es s') :
    (admitted es).map Admission.id =
      List.range' s.queue.nextRequestId (admitted es).length := by
  induction h with
  | nil s => rfl
  | @cons s s₁ s' e es hstep hrun ih =>
      cases e with
      | enqueue frameNoFcs context result =>
          rcases Step.enqueue_cases hstep with
            ⟨receipt, rfl, hid, hnext, -⟩ | ⟨e, rfl, hnext, -⟩
          · rw [hnext] at ih
            rw [admitted, List.map_cons, ih, List.length_cons, List.range'_succ]
            rw [← hid]
            rfl
          · rw [hnext] at ih
            exact ih
      | observe result t =>
          have hnext : s₁.queue.nextRequestId = s.queue.nextRequestId := by
            cases Step.observe_observes hstep with
            | quiet hnext => exact hnext
            | submits hnext => exact hnext
          rw [hnext] at ih
          exact ih

theorem Observes.truthful {q q' : KISSDataAdmissionQueue} {admissions : List Admission}
    {result : Except PyError (KISSDataQueueObservation TXReceipt)}
    {t : List (PortCall R)} (h : Observes q q' result t)
    (hwaiting : ∀ a ∈ q.waiting, a ∈ admissions) :
    Truthful admissions (.observe result t) := by
  cases h with
  | quiet hnext hqueue hresult =>
      cases result with
      | error e => trivial
      | ok observation =>
          refine ⟨fun h => absurd h (hresult observation rfl), ?_⟩
          rintro ⟨a, -, -, hcompleted⟩
          obtain ⟨u, c, v, ht, -⟩ := hcompleted.recovered
          simp at ht
  | @submits a o t observation hnext hqueue htransmits hid hstate =>
      refine ⟨fun h => ?_, ?_⟩
      · exact ⟨a, hwaiting a (by simp [hqueue]), hid, htransmits.completed (hstate.1 h)⟩
      · rintro ⟨b, -, -, hcompleted⟩
        exact hstate.2 (htransmits.returned hcompleted.recovered)

/-- The requests of a queue after a call waited before it or were admitted by it. -/
theorem Step.waiting_mem {e : PathEvent R} (h : Step parameters s e s') :
    ∀ a ∈ s'.queue.waiting, a ∈ s.queue.waiting ++ admitted [e] := by
  intro a ha
  cases e with
  | enqueue frameNoFcs context result =>
      rcases Step.enqueue_cases h with ⟨receipt, rfl, -, -, hwaiting⟩ | ⟨e, rfl, -, hwaiting⟩
      · rw [hwaiting] at ha
        exact ha
      · rw [hwaiting] at ha
        exact List.mem_append_left _ ha
  | observe result t =>
      refine List.mem_append_left _ ?_
      cases Step.observe_observes h with
      | quiet hnext hqueue => exact hqueue.mem ha
      | submits hnext hqueue =>
          rw [hqueue]
          exact List.mem_cons_of_mem _ ha

theorem run_truthful {admissions : List Admission}
    (h : (system R config parameters router).Run s es s')
    (hmem : ∀ a ∈ s.queue.waiting ++ admitted es, a ∈ admissions) :
    ∀ e ∈ es, Truthful admissions e := by
  induction h with
  | nil s =>
      intro e he
      cases he
  | @cons s s₁ s' e es hstep hrun ih =>
      have hsplit : admitted (e :: es) = admitted [e] ++ admitted es := by
        cases e with
        | enqueue frameNoFcs context result => cases result <;> rfl
        | observe => rfl
      rw [hsplit, ← List.append_assoc] at hmem
      intro e' he'
      rcases List.mem_cons.1 he' with rfl | he'
      · cases e' with
        | enqueue => trivial
        | observe result t =>
            refine (Step.observe_observes hstep).truthful fun a ha => ?_
            exact hmem a (List.mem_append_left _ (List.mem_append_left _ ha))
      · refine ih (fun a ha => hmem a ?_) e' he'
        rcases List.mem_append.1 ha with ha | ha
        · exact List.mem_append_left _ (Step.waiting_mem hstep a ha)
        · exact List.mem_append_right _ ha

/-- Faithful transmission in every run: the bursts are the serializations of a
subsequence of the admitted requests, whose ids are distinct, and an observation
reports `dispatched` exactly when the burst of its request completed. -/
theorem run_faithful (config : QueueConfig) (parameters : HalfDuplexParameters)
    (router : ContextualTXDelayRouter) (s s' : TransmitPath) (es : List (PathEvent R))
    (hinitial : (system R config parameters router).initial s)
    (h : (system R config parameters router).Run s es s') :
    (∃ sent : List Admission, sent.Sublist (admitted es) ∧
      sent.map Admission.serialize = (transmitted es).map .ok) ∧
    (admitted es).map Admission.id = List.range' 1 (admitted es).length ∧
    ∀ e ∈ es, Truthful (admitted es) e := by
  cases hinitial
  refine ⟨run_transmitted h, run_ids h, run_truthful h ?_⟩
  exact fun a ha => ha

end Run

/-! ### A run that sends one frame -/

/-- A healthy modem, with `rx` as its RX status. -/
def healthyAnswer (rx : RX3Status) : (q : PortQuery) → Except PyError (PortQuery.Answer Unit q)
  | .getVersion _ => .ok ⟨0, ""⟩
  | .setRxFrequency _ _ | .applyTxProfile _ _ _ | .armRxModemIo _ => .ok ()
  | .rxRead _ _ => .ok []
  | .rxRssi _ => .ok ⟨100⟩
  | .rxStatus _ => .ok rx
  | .rxStop _ | .rxStart _ | .sleep _ => .ok ()
  | .rfStatus _ => .ok ⟨0, 0, 0⟩
  | .rfDiagnostics _ => .ok ⟨0, 0, 0, 0⟩
  | .transmitSelectorBurst _ _ _ => .ok ()
  | .submitFrame _ _ => .ok ()
  | .monotonic => .ok 0

/-- The answers to one cycle: RX is inactive after RX_STOP only. -/
def healthyCycle : Script (PortQuery.Answer Unit) PyError :=
  let active := healthyAnswer ⟨0x0D, 0, 0, 0⟩
  [active, active, healthyAnswer ⟨0x0C, 0, 0, 0⟩] ++ List.replicate 7 active

def admittedPath : TransmitPath :=
  let s := init .engine (.init true .engine)
  { s with queue := (s.queue.enqueue receiveReady .default 0).1 }

/-- An observation of a quiet channel, on a healthy modem. -/
def observeQuiet (s : TransmitPath) (now : ℚ) :=
  (observeRssi (R := Unit) .default s.queue now 100 (some (.ok 0))).run s.submitter
    healthyCycle

def afterQuiet (s : TransmitPath) (now : ℚ) : TransmitPath :=
  match (observeQuiet s now).outcome with
  | .returned (queue, _) => ⟨queue, (observeQuiet s now).state⟩
  | _ => s

theorem step_observeQuiet (s : TransmitPath) (now : ℚ)
    (h : (observeQuiet s now).outcome.isReturned = true) :
    ∃ result, Step .default s (.observe result (observeQuiet s now).trace)
      (afterQuiet s now) := by
  obtain ⟨⟨queue, result⟩, houtcome, hrun⟩ := Runs.of_isReturned h
  have hafter : afterQuiet s now = ⟨queue, (observeQuiet s now).state⟩ := by
    unfold afterQuiet observeQuiet
    rw [houtcome]
  rw [hafter]
  exact ⟨result, .observe hrun⟩

/-- A frame is admitted, and sent on its first trial 350 ms later. -/
theorem run_faithful_one_frame :
    ∃ es : List (PathEvent Unit), (transmitted es).length = 1 ∧
      (∃ sent : List Admission, sent.Sublist (admitted es) ∧
        sent.map Admission.serialize = (transmitted es).map .ok) ∧
      (admitted es).map Admission.id = List.range' 1 (admitted es).length ∧
      ∀ e ∈ es, Truthful (admitted es) e := by
  let path := system Unit .engine .default (.init true .engine)
  let s₀ := init .engine (.init true .engine)
  let s₂ := afterQuiet admittedPath 0
  let s₃ := afterQuiet s₂ (1 / 4)
  have h₀ : path.step s₀
      (.enqueue receiveReady .default (s₀.queue.enqueue receiveReady .default 0).2)
      admittedPath :=
    .enqueue
  obtain ⟨r₁, h₁⟩ := step_observeQuiet admittedPath 0 (by decide +kernel)
  obtain ⟨r₂, h₂⟩ := step_observeQuiet s₂ (1 / 4) (by decide +kernel)
  obtain ⟨r₃, h₃⟩ := step_observeQuiet s₃ (7 / 20) (by decide +kernel)
  have hrun : path.Run s₀ [_, .observe r₁ _, .observe r₂ _, .observe r₃ _] _ :=
    .cons h₀ (.cons h₁ (.cons h₂ (.cons h₃ (.nil _))))
  refine ⟨_, ?_, run_faithful .engine .default (.init true .engine) _ _ _ rfl hrun⟩
  have hone : (bursts (observeQuiet admittedPath 0).trace ++
      (bursts (observeQuiet s₂ (1 / 4)).trace ++
        (bursts (observeQuiet s₃ (7 / 20)).trace ++ []))).length = 1 := by
    decide +kernel
  exact hone

end TransmitPath

end YwdTnc
