import YwdTnc.Kiss.Evidence
import YwdTnc.Service.TncRuntime
import YwdTnc.Tx.HealthyCycle

/-!
# Which clients can fail-latch the TNC

The runtime over a healthy modem, with clients that send any messages in any
order. Admission checks the syntax of a body only; the length of its burst is
checked when its frame is prepared, which is after RX was stopped, and a frame
that is too long then fails its request and with it the runtime. In every run in
which the admitted bodies fit into a burst under their captured TXDELAY, no
request fails and the runtime records no failure.
-/

namespace YwdTnc

open Interaction Prog

/-- The threads: the worker, the caller of `stop` and the clients. -/
inductive TncThread (C : Type) where
  | worker
  | control
  | client (c : C)
  deriving DecidableEq

inductive TncLocal where
  | worker (w : Worker)
  | control
  | idle
  | serving (submission : Submission)
  | halted

/-- What a turn takes from outside, of which each thread uses its own part. -/
structure TncInput where
  randomByte : Byte
  decoding : Decoding
  message : KISSMessage

namespace Tnc

variable {R C : Type} [DecidableEq C]

def turn (config : RuntimeConfig) (parameters : HalfDuplexParameters) (l : TncLocal)
    (input : TncInput) : PortProg R Tnc TncLocal :=
  match l with
  | .worker w => do
      let w ← w.turn config parameters (some (.ok input.randomByte.toNat)) input.decoding
      return .worker w
  | .control => do
      SustainedTNCRuntime.update fun r => { r with stop := true }
      return .control
  | .idle => return .serving (.received input.message)
  | .serving submission => do
      match ← submission.turn with
      | some submission => return .serving submission
      | none => return .idle
  | .halted => return .halted

def code (R : Type) (config : RuntimeConfig) (parameters : HalfDuplexParameters) :
    ThreadCode (PortQuery.Answer R) PyError Tnc TncLocal TncInput where
  turn := turn config parameters
  halted := .halted

/-- The runtime right after `start`, with transmission enabled and the modem
listening. -/
structure Initial (queue : QueueConfig) (session : TNCSessionState) (broker : TXBrokerConfig)
    (x : Threads (TncThread C) Tnc TncLocal × ModemState) : Prop where
  shared : x.1.shared = init queue session true broker
  worker : x.1.thread .worker = .worker .starting
  control : x.1.thread .control = .control
  client : ∀ c, x.1.thread (.client c) = .idle
  listening : x.2.Listening
  clock : 0 ≤ x.2.clock

/-- The runtime over a healthy modem that sends a burst within `drainSeconds`. -/
def healthySystem (R C : Type) [DecidableEq C] (config : RuntimeConfig)
    (parameters : HalfDuplexParameters) (queue : QueueConfig) (session : TNCSessionState)
    (broker : TXBrokerConfig) (drainSeconds : ℚ) :
    System (Threads (TncThread C) Tnc TncLocal × ModemState)
      (Turn (PortQuery.Answer R) PyError (TncThread C) TncLocal TncInput) :=
  (code R config parameters).within (healthyModem R drainSeconds)
    (Initial queue session broker)

/-- A body that is about to be admitted fits into a burst. -/
def Fits (s : Tnc) (l : TncLocal) (_ : TncInput) : Prop :=
  match l with
  | .serving (.entering frameNoFcs context) =>
      (∃ parsed, parseFrame frameNoFcs false = .ok parsed) →
        s.path.queue.queue.length < s.path.queue.config.queueCapacity →
          TXBroker.burstSelectors context.preFlags (appendFcs frameNoFcs) ≤ MAX_SELECTORS
  | _ => True

end Tnc

namespace Admission

/-- The broker can prepare the frame of this request. -/
def Prepares (a : Admission) : Prop :=
  ∃ prepared, TXBroker.prepareFrame a.context.preFlags a.frameWithFcs = .ok prepared

/-- The request of a well-formed body can be prepared exactly when it fits. -/
theorem prepares_iff {a : Admission} {frameNoFcs : Bytes} {parsed : ParsedFrame}
    (hframe : a.frameWithFcs = appendFcs frameNoFcs)
    (hparse : parseFrame frameNoFcs false = .ok parsed) :
    a.Prepares ↔
      TXBroker.burstSelectors a.context.preFlags (appendFcs frameNoFcs) ≤ MAX_SELECTORS := by
  have hlength : 3 ≤ (appendFcs frameNoFcs).length := by
    have hbody := length_of_parseFrame hparse
    rw [appendFcs_length]
    omega
  rw [Prepares, hframe]
  exact TXBroker.prepareFrame_ok_iff hlength (verifyFcs_appendFcs frameNoFcs)
    (one_le_txdelayFlags _)

end Admission

namespace Tnc

variable {R C : Type} {drainSeconds : ℚ}

/-- The shared state between two turns. -/
structure Healthy (s : Tnc) (m : ModemState) : Prop where
  listening : m.Listening
  clock_nonneg : 0 ≤ m.clock
  lastNow_le : s.path.queue.lastNow ≤ m.clock
  watched : ∃ log, WatchedQueue.Inv ⟨s.path.queue, log⟩
  prepares : ∀ a ∈ s.path.queue.waiting, a.Prepares
  submitter : s.path.submitter.Ready
  failures : s.path.queue.downstreamFailures = 0
  failure : s.runtime.failure = none

/-- What a healthy modem and an unfailed queue let the worker see. -/
def Sees : Worker → Prop
  | .sampled _ rawMagnitude => rawMagnitude ≤ 255
  | .observed _ observation => observation.requestState ≠ some .downstreamFailed
  | _ => True

theorem Healthy.runtime {s : Tnc} {m : ModemState} (h : s.Healthy m)
    {runtime : SustainedTNCRuntime} (hfailure : runtime.failure = none) :
    Healthy { s with runtime } m :=
  { h with failure := hfailure }

/-- Counting changes nothing that matters. -/
theorem triple_update {f : SustainedTNCRuntime → SustainedTNCRuntime}
    (hf : ∀ r, (f r).failure = r.failure) {P : Tnc → ModemState → Prop}
    (hP : ∀ s m, P s m → s.Healthy m) :
    Triple (healthyModem R drainSeconds) P (SustainedTNCRuntime.update f)
      fun _ => Healthy := by
  refine triple_modify fun s m h => (hP s m h).runtime ?_
  rw [hf]
  exact (hP s m h).failure

/-- The clock of a modem at rest shows a time that the queue accepts. -/
theorem monotonic_healthy (P : Tnc → Prop) :
    Triple (healthyModem R drainSeconds) (fun s m => s.Healthy m ∧ P s) Port.monotonic
      fun now s m => s.Healthy m ∧ P s ∧ now = m.clock := by
  refine triple_port id fun s m now m' h hanswer => ?_
  obtain ⟨hs, hP⟩ := h
  simp only [ModemState.answered, ModemState.readClock, hs.listening.idle] at hanswer
  split at hanswer
  case isFalse => cases hanswer
  case isTrue hle =>
    cases hanswer
    exact ⟨{ hs with
      listening := ⟨hs.listening.rxActive, rfl⟩
      clock_nonneg := le_trans hs.clock_nonneg hle
      lastNow_le := le_trans hs.lastNow_le hle }, hP, rfl⟩

theorem clock_healthy :
    Triple (healthyModem R drainSeconds) Healthy Port.monotonic fun _ : ℚ => Healthy :=
  (monotonic_healthy fun _ => True).weaken (fun _ _ h => ⟨h, trivial⟩) fun _ _ _ h => h.1

theorem checkStatus_healthy (timeout : ℚ) :
    Triple (healthyModem R drainSeconds) Healthy (SustainedTNCRuntime.checkStatus timeout)
      fun _ => Healthy := by
  refine PersistentHalfDuplexSubmitter.rxStatus_healthy.bind fun status => ?_
  refine Triple.modify_bind (fun s m h => ⟨h.1, h.2.runtime h.2.failure⟩) ?_
  refine triple_ofExcept fun s m h => ⟨(), ?_, h.2⟩
  obtain ⟨hstatus, hs⟩ := h
  simp only [ModemState.rxHealthy, hs.listening.rxActive, if_true, Bool.and_eq_true,
    decide_eq_true_eq] at hstatus
  rw [SustainedTNCRuntime.requireActiveStatus, if_neg (not_not.mpr hstatus.2),
    if_neg (not_not.mpr hstatus.1)]

/-! ### The receive side -/

/-- What the decoder hands over is accepted by the parser. -/
theorem parseFrame_candidate {afterFlag : List Bool} {frame : Bytes}
    (h : Receiver.candidate afterFlag = some frame) :
    ∃ parsed, parseFrame frame true = .ok parsed := by
  unfold Receiver.candidate at h
  dsimp only at h
  generalize (if 8 ≤ afterFlag.length then afterFlag.take (afterFlag.length - 8) else []) =
    stuffed at h
  split at h
  · cases h
  split at h
  · split at h
    case h_1 parsed hparse =>
      cases h
      exact ⟨parsed, hparse⟩
    case h_2 => cases h
  · cases h

theorem publishAll_healthy {frames : List Bytes}
    (hframes : ∀ frame ∈ frames, ∃ parsed, parseFrame frame true = .ok parsed) :
    Triple (healthyModem R drainSeconds) Healthy (SustainedTNCRuntime.publishAll frames)
      fun _ => Healthy := by
  induction frames with
  | nil => exact triple_pure fun s m h => h
  | cons frame frames ih =>
      obtain ⟨parsed, hparse⟩ := hframes frame (List.mem_cons_self ..)
      refine Triple.bind (M := fun _ => Healthy) ?_ fun _ =>
        ih fun frame' hmem => hframes frame' (List.mem_cons_of_mem _ hmem)
      refine Triple.bind (M := fun _ => Healthy) ?_ fun _ =>
        triple_update (by intro r; rfl) fun _ _ h => h
      exact triple_ofExcept fun s m h => ⟨parsed, hparse, h⟩

theorem consume_healthy (decoding : Decoding) (packed : Bytes) :
    Triple (healthyModem R drainSeconds) Healthy
      (SustainedTNCRuntime.consume decoding packed) fun _ => Healthy := by
  refine Triple.modify_bind (fun s m h => h.runtime h.failure) ?_
  refine publishAll_healthy fun frame hmem => ?_
  obtain ⟨afterFlag, hcandidate⟩ := decoding.sound packed frame hmem
  exact parseFrame_candidate hcandidate

/-! ### An observation -/

/-- What an observation leaves behind on a healthy modem. -/
structure Observed (q q' : KISSDataAdmissionQueue) (now : ℚ)
    (result : Except PyError (KISSDataQueueObservation TXReceipt)) : Prop where
  returns : ∃ observation, result = .ok observation ∧
    observation.requestState ≠ some .downstreamFailed
  lastNow_le : q'.lastNow ≤ now
  watched : ∃ log, WatchedQueue.Inv ⟨q', log⟩
  waiting : ∀ a ∈ q'.waiting, a ∈ q.waiting
  failures : q'.downstreamFailures = q.downstreamFailures

theorem observed_of_done {q q' : KISSDataAdmissionQueue} {now : ℚ} {raw byte : Byte}
    {result : Except PyError (KISSDataQueueObservation TXReceipt)} {log : List Sample}
    (hnow : q.Accepts now) (hinv : WatchedQueue.Inv ⟨q, log⟩)
    (hprepare : q.prepare now raw.toNat (some (.ok byte.toNat)) = (q', .done result)) :
    Observed q q' now result := by
  have hprepares := q.prepare_prepares (R := TXReceipt) now raw.toNat (some (.ok byte.toNat))
  rw [hprepare] at hprepares
  cases result with
  | error e => exact absurd hprepares (hinv.not_raises hnow raw byte)
  | ok observation =>
      obtain ⟨-, hstate, hfailures⟩ := KISSDataAdmissionQueue.prepare_done hprepares
      constructor
      · exact ⟨observation, rfl, hstate⟩
      · exact hprepares.lastNow_le hnow.2 (le_refl _)
      · exact hinv.of_done hprepare
      · intro a ha
        cases TransmitPath.quiet_of_done (R := Unit) hprepares with
        | quiet hnext hqueue => exact hqueue.mem ha
        | submits hnext hqueue =>
            rw [hqueue]
            exact List.mem_cons_of_mem _ ha
      · exact hfailures

theorem observed_of_submit {q q₁ : KISSDataAdmissionQueue} {now now' : ℚ} {raw byte : Byte}
    {request : Request} {access : ChannelAccessObservation} {log : List Sample}
    (hnow : q.Accepts now) (hinv : WatchedQueue.Inv ⟨q, log⟩)
    (hprepare : q.prepare (R := TXReceipt) now raw.toNat (some (.ok byte.toNat)) =
      (q₁, .submit now' request access)) (receipt : TXReceipt) :
    Observed q (q₁.finish now' request access (.ok receipt)).1 now
      (.ok (q₁.finish now' request access (.ok receipt)).2) := by
  have hprepares := q.prepare_prepares (R := TXReceipt) now raw.toNat (some (.ok byte.toNat))
  rw [hprepare] at hprepares
  obtain ⟨-, hwaiting, hfailures⟩ := KISSDataAdmissionQueue.prepare_submit hprepares
  obtain ⟨hlast, hsame⟩ := q₁.finish_ok now' request access receipt
  obtain ⟨htail, -⟩ := q₁.finish_eq now' request access (.ok receipt)
  constructor
  · exact ⟨_, rfl, nofun⟩
  · rw [hlast]
    exact hprepares.lastNow_le hnow.2 (le_refl _)
  · exact ⟨[], hinv.of_submit hprepare (.ok receipt)⟩
  · intro a ha
    rw [htail, hwaiting] at ha
    exact List.mem_of_mem_tail ha
  · rw [hsame, hfailures]

theorem path_healthy {parameters : HalfDuplexParameters}
    (hdrain : drainSeconds ≤ parameters.txIdleTimeoutSeconds) {q : KISSDataAdmissionQueue}
    {now : ℚ} {log : List Sample} (hnow : q.Accepts now) (hinv : WatchedQueue.Inv ⟨q, log⟩)
    (hprepares : ∀ a ∈ q.waiting, a.Prepares) (raw byte : Byte) :
    Triple (healthyModem R drainSeconds)
      (fun submitter m => submitter.Ready ∧ m.Listening)
      (TransmitPath.observeRssi parameters q now raw.toNat (some (.ok byte.toNat)))
      fun outcome submitter m =>
        Observed q outcome.1 now outcome.2 ∧ submitter.Ready ∧ m.Listening := by
  unfold TransmitPath.observeRssi KISSDataAdmissionQueue.observeRssi
  rcases hprepare : q.prepare (R := TXReceipt) now raw.toNat (some (.ok byte.toNat)) with
    ⟨q₁, result | ⟨now', request, access⟩⟩
  · exact triple_pure fun submitter m h => ⟨observed_of_done hnow hinv hprepare, h⟩
  · have hsubmits := q.prepare_prepares (R := TXReceipt) now raw.toNat
      (some (.ok byte.toNat))
    rw [hprepare] at hsubmits
    obtain ⟨hmem, -⟩ := KISSDataAdmissionQueue.prepare_submit hsubmits
    obtain ⟨⟨receipt, packed⟩, hframe⟩ := hprepares _ hmem
    refine (ContextualHalfDuplexSubmitter.submitFrame_healthy hdrain hframe
      q₁.config.downstreamTimeout_pos).attempt_bind fun receipt => ?_
    exact triple_pure fun submitter m h =>
      ⟨observed_of_submit hnow hinv hprepare receipt, h⟩

theorem observeRssi_healthy {parameters : HalfDuplexParameters}
    (hdrain : drainSeconds ≤ parameters.txIdleTimeoutSeconds) (raw byte : Byte) :
    Triple (healthyModem R drainSeconds) Healthy
      (SustainedTNCRuntime.observeRssi parameters raw.toNat (some (.ok byte.toNat)))
      fun observation s m =>
        s.Healthy m ∧ observation.requestState ≠ some .downstreamFailed := by
  refine ((monotonic_healthy fun _ => True).weaken (fun _ _ h => ⟨h, trivial⟩)
    fun _ _ _ h => h).bind fun now => Triple.get_bind fun s => ?_
  refine Triple.bind (M := fun outcome s' m =>
    Healthy { s' with path := { s'.path with queue := outcome.1 } } m ∧
      ∃ observation, outcome.2 = .ok observation ∧
        observation.requestState ≠ some .downstreamFailed) ?_ fun outcome => ?_
  · refine triple_zoom fun s' m h => ?_
    obtain ⟨rfl, hs, -, rfl⟩ := h
    obtain ⟨log, hinv⟩ := hs.watched
    have hpath := path_healthy (R := R) hdrain ⟨hs.clock_nonneg, hs.lastNow_le⟩ hinv
      hs.prepares raw byte
    refine (hpath.keeping (K := fun m' => m.clock ≤ m'.clock) ?_).weaken ?_ ?_
    · intro m₁ t m₂ hle hrun
      exact le_trans hle (clock_le_run hrun)
    · rintro submitter m' ⟨rfl, rfl⟩
      exact ⟨⟨hs.submitter, hs.listening⟩, le_refl _⟩
    · rintro outcome submitter m' ⟨⟨hobserved, hready, hlistening⟩, hclock⟩
      refine ⟨?_, hobserved.returns⟩
      exact {
        listening := hlistening
        clock_nonneg := le_trans hs.clock_nonneg hclock
        lastNow_le := le_trans hobserved.lastNow_le hclock
        watched := hobserved.watched
        prepares := fun a ha => hs.prepares a (hobserved.waiting a ha)
        submitter := hready
        failures := hobserved.failures.trans hs.failures
        failure := hs.failure }
  · refine Triple.bind (M := fun _ s m => s.Healthy m ∧ ∃ observation,
      outcome.2 = .ok observation ∧ observation.requestState ≠ some .downstreamFailed)
      (triple_modify fun s m h => h) fun _ => ?_
    refine triple_ofExcept fun s m h => ?_
    obtain ⟨hs, observation, hok, hstate⟩ := h
    exact ⟨observation, hok, hs, hstate⟩

/-! ### The turns -/

theorem act_healthy (config : RuntimeConfig) (nextStatus : ℚ)
    {observation : KISSDataQueueObservation TXReceipt}
    (hstate : observation.requestState ≠ some .downstreamFailed) :
    Triple (healthyModem R drainSeconds) Healthy (Worker.act config nextStatus observation)
      fun w s m => s.Healthy m ∧ Sees w := by
  have hrest : ∀ nextStatus : ℚ, Triple (healthyModem R drainSeconds) Healthy
      (pure (.resting nextStatus)) fun w s m => s.Healthy m ∧ Sees w :=
    fun nextStatus => triple_pure fun s m h => ⟨h, trivial⟩
  unfold Worker.act
  split
  · refine Triple.modify_bind (fun s m h => h.runtime h.failure) ?_
    exact hrest nextStatus
  · contradiction
  · split
    · refine Triple.modify_bind (fun s m h => h.runtime h.failure) ?_
      refine (checkStatus_healthy _).bind fun _ => ?_
      exact clock_healthy.bind fun now => hrest _
    · exact hrest nextStatus
  · exact hrest nextStatus

theorem body_healthy (config : RuntimeConfig) {parameters : HalfDuplexParameters}
    (hdrain : drainSeconds ≤ parameters.txIdleTimeoutSeconds) (byte : Byte)
    (decoding : Decoding) {w : Worker} (hw : Sees w) :
    Triple (healthyModem R drainSeconds) Healthy
      (w.body config parameters (some (.ok byte.toNat)) decoding)
      fun w' s m => s.Healthy m ∧ Sees w' := by
  cases w with
  | starting => exact clock_healthy.bind fun now => triple_pure fun s m h => ⟨h, trivial⟩
  | looping nextStatus =>
      refine Triple.get_bind fun s => ?_
      split
      · exact triple_pure fun s m h => ⟨h.1 ▸ h.2, trivial⟩
      · exact triple_pure fun s m h => ⟨h.1 ▸ h.2, trivial⟩
  | draining nextStatus reads =>
      cases reads with
      | zero => exact triple_pure fun s m h => ⟨h, trivial⟩
      | succ reads =>
          refine Triple.get_bind fun s => ?_
          split
          · exact triple_pure fun s m h => ⟨h.1 ▸ h.2, trivial⟩
          refine Triple.bind (M := fun _ => Healthy) ?_ fun chunk => ?_
          · refine triple_port id fun s m chunk m' h hanswer => ?_
            cases hanswer
            exact h.1 ▸ h.2
          refine Triple.modify_bind (fun s m h => h.runtime h.failure) ?_
          split
          · exact triple_pure fun s m h => ⟨h, trivial⟩
          refine (consume_healthy decoding chunk).bind fun _ => ?_
          split
          · exact triple_pure fun s m h => ⟨h, trivial⟩
          · exact triple_pure fun s m h => ⟨h, trivial⟩
  | drained nextStatus =>
      refine clock_healthy.bind fun now => ?_
      split
      · exact (checkStatus_healthy _).bind fun _ => triple_pure fun s m h => ⟨h, trivial⟩
      · exact triple_pure fun s m h => ⟨h, trivial⟩
  | checked nextStatus =>
      refine Triple.get_bind fun s => ?_
      split
      · exact triple_pure fun s m h => ⟨h.1 ▸ h.2, trivial⟩
      refine Triple.bind (M := fun rssi s m => s.Healthy m ∧ rssi.rawMagnitude ≤ 255)
        ?_ fun rssi => ?_
      · refine triple_port id fun s m rssi m' h hanswer => ?_
        simp only [ModemState.answered] at hanswer
        split at hanswer
        case isTrue hraw =>
          cases hanswer
          exact ⟨h.1 ▸ h.2, hraw⟩
        case isFalse => cases hanswer
      refine Triple.modify_bind (fun s m h => ⟨h.1.runtime h.1.failure, h.2⟩) ?_
      exact triple_pure fun s m h => h
  | sampled nextStatus rawMagnitude =>
      have hraw : rawMagnitude = (BitVec.ofNat 8 rawMagnitude).toNat := by
        rw [BitVec.toNat_ofNat, Nat.mod_eq_of_lt (Nat.lt_succ_of_le hw)]
      rw [Worker.body, hraw]
      exact (observeRssi_healthy hdrain _ byte).bind fun observation =>
        triple_pure fun s m h => h
  | observed nextStatus observation => exact act_healthy config nextStatus hw
  | resting nextStatus => exact triple_pure fun s m h => ⟨h, trivial⟩
  | finished => exact triple_pure fun s m h => ⟨h, trivial⟩

theorem worker_healthy (config : RuntimeConfig) {parameters : HalfDuplexParameters}
    (hdrain : drainSeconds ≤ parameters.txIdleTimeoutSeconds) (byte : Byte)
    (decoding : Decoding) {w : Worker} (hw : Sees w) :
    Triple (healthyModem R drainSeconds) Healthy
      (w.turn config parameters (some (.ok byte.toNat)) decoding)
      fun w' s m => s.Healthy m ∧ Sees w' :=
  (body_healthy config hdrain byte decoding hw).attempt_bind fun _ => triple_pure fun _ _ h => h

/-- A body that fits keeps the queue's requests preparable, whether it is admitted
or not. -/
theorem Healthy.enqueue {s : Tnc} {m : ModemState} (h : s.Healthy m) {frameNoFcs : Bytes}
    {context : TNCTransmitContext} {input : TncInput}
    (hfits : s.Fits (.serving (.entering frameNoFcs context)) input)
    (backend : ModemTNCBackend) {queue : KISSDataAdmissionQueue}
    {result : Except PyError KISSDataRequestReceipt}
    (henqueue : s.path.queue.enqueue frameNoFcs context m.clock = (queue, result)) :
    Healthy { s with backend, path := { s.path with queue } } m := by
  have hexit := s.path.queue.enqueue_enqueues frameNoFcs context m.clock
  rw [henqueue] at hexit
  obtain ⟨log, hinv⟩ := h.watched
  constructor
  · exact h.listening
  · exact h.clock_nonneg
  · exact hexit.lastNow_le h.lastNow_le (le_refl _)
  · refine ⟨log, ?_⟩
    have hnext := hinv.enqueue frameNoFcs context m.clock
    rw [henqueue] at hnext
    exact hnext
  · intro a ha
    cases hexit with
    | late | invalid | full => exact h.prepares a ha
    | admits hnow hparse hroom =>
        simp only [KISSDataAdmissionQueue.waiting, List.map_append, List.map_singleton,
          List.mem_append, List.mem_singleton] at ha
        rcases ha with ha | rfl
        · exact h.prepares a ha
        · exact (Admission.prepares_iff rfl hparse).2 (hfits ⟨_, hparse⟩ hroom)
  · exact h.submitter
  · cases hexit with
    | late | invalid | full | admits => exact h.failures
  · exact h.failure

theorem submission_healthy (submission : Submission) (input : TncInput) :
    Triple (healthyModem R drainSeconds)
      (fun s m => s.Healthy m ∧ s.Fits (.serving submission) input) submission.turn
      fun _ => Healthy := by
  cases submission with
  | received message =>
      refine Triple.get_bind fun s => ?_
      obtain ⟨next, hnext⟩ := s.backend.rejectClientMessage_ok message
        s.path.queue.config.requestTimeout_pos
      dsimp only
      rw [hnext]
      refine Triple.bind (M := fun _ => Healthy) ?_ fun _ => ?_
      · refine triple_modify fun s' m h => ?_
        obtain ⟨rfl, hs, -⟩ := h
        exact { hs with }
      · refine Triple.bind (M := fun _ => Healthy)
          (triple_ofExcept fun s m h => ⟨next, rfl, h⟩) fun next => ?_
        cases next with
        | handled result => exact triple_pure fun s m h => h
        | data frameNoFcs context => exact triple_pure fun s m h => h
  | captured frameNoFcs context =>
      refine Triple.bind (M := fun _ => Healthy) ?_ fun _ => triple_pure fun s m h => h
      exact clock_healthy.weaken (fun s m h => h.1) fun _ _ _ h => h
  | entering frameNoFcs context =>
      refine Triple.bind (M := fun _ => Healthy) ?_ fun _ => triple_pure fun s m h => h
      refine (monotonic_healthy _).bind fun now => Triple.get_bind fun s => ?_
      obtain ⟨ingress, hingress⟩ := s.backend.afterEnqueue_ok
        (s.path.queue.enqueue_enqueues frameNoFcs context now)
      dsimp only
      rw [hingress]
      refine Triple.bind (M := fun _ => Healthy) ?_ fun _ =>
        triple_ofExcept fun s m h => ⟨ingress, rfl, h⟩
      refine triple_modify fun s' m h => ?_
      obtain ⟨rfl, hs, hfits, rfl⟩ := h
      exact hs.enqueue hfits _ rfl

/-- What a thread may see in a healthy run. -/
def Calm : TncLocal → Prop
  | .worker w => Sees w
  | _ => True

theorem turn_healthy (config : RuntimeConfig) {parameters : HalfDuplexParameters}
    (hdrain : drainSeconds ≤ parameters.txIdleTimeoutSeconds) {l : TncLocal} (hl : Calm l)
    (input : TncInput) :
    Triple (healthyModem R drainSeconds) (fun s m => s.Healthy m ∧ s.Fits l input)
      (turn config parameters l input) fun l' s m => s.Healthy m ∧ Calm l' := by
  cases l with
  | worker w =>
      have hw := worker_healthy (R := R) config hdrain input.randomByte input.decoding hl
      refine (hw.weaken (fun s m h => h.1) fun _ _ _ h => h).bind fun w' => ?_
      exact triple_pure fun s m h => h
  | control =>
      refine Triple.bind (M := fun _ => Healthy) ?_ fun _ =>
        triple_pure fun s m h => ⟨h, trivial⟩
      exact triple_update (by intro r; rfl) fun s m h => h.1
  | idle => exact triple_pure fun s m h => ⟨h.1, trivial⟩
  | serving submission =>
      refine (submission_healthy submission input).bind fun next => ?_
      cases next with
      | none => exact triple_pure fun s m h => ⟨h, trivial⟩
      | some submission => exact triple_pure fun s m h => ⟨h, trivial⟩
  | halted => exact triple_pure fun s m h => ⟨h.1, trivial⟩

theorem healthy_initial [DecidableEq C] {queue : QueueConfig} {session : TNCSessionState}
    {broker : TXBrokerConfig} {x : Threads (TncThread C) Tnc TncLocal × ModemState}
    (h : Initial queue session broker x) :
    x.1.shared.Healthy x.2 ∧ ∀ t, Calm (x.1.thread t) := by
  constructor
  · rw [h.shared]
    exact {
      listening := h.listening
      clock_nonneg := h.clock
      lastNow_le := h.clock
      watched := ⟨[], WatchedQueue.inv_init queue⟩
      prepares := fun a ha => nomatch ha
      submitter := ContextualHalfDuplexSubmitter.ready_init
        (ContextualTXDelayRouter.ready_init broker)
      failures := rfl
      failure := rfl }
  · intro t
    cases t with
    | worker =>
        rw [h.worker]
        trivial
    | control =>
        rw [h.control]
        trivial
    | client c =>
        rw [h.client c]
        trivial

/-- No client can fail-latch a healthy TNC with bodies that fit: in every run over
a healthy modem whose admitted bodies are no longer than a burst under their
captured TXDELAY, the runtime has recorded no failure, no request has failed
downstream, and every queued request can be prepared. -/
theorem reachable_unfailed [DecidableEq C] (config : RuntimeConfig)
    (parameters : HalfDuplexParameters) (queue : QueueConfig) (session : TNCSessionState)
    (broker : TXBrokerConfig) (drainSeconds : ℚ)
    (hdrain : drainSeconds ≤ parameters.txIdleTimeoutSeconds)
    (x : Threads (TncThread C) Tnc TncLocal × ModemState)
    (h : ((healthySystem R C config parameters queue session broker
      drainSeconds).restrict (ThreadCode.meets Fits)).Reachable x) :
    x.1.shared.runtime.failure = none ∧ x.1.shared.path.queue.downstreamFailures = 0 ∧
      ∀ a ∈ x.1.shared.path.queue.waiting, a.Prepares := by
  obtain ⟨hhealthy, -⟩ := ThreadCode.within_invariant (P := Calm)
    (fun x => healthy_initial) (fun l input hl => turn_healthy config hdrain hl input) h
  exact ⟨hhealthy.failure, hhealthy.failures, hhealthy.prepares⟩

/-! ### Two runs -/

/-- A quiet channel on a healthy modem at `now`, whose receiver shows `flags`. -/
def quietAnswer (now : ℚ) (flags : ℕ) :
    (q : PortQuery) → Except PyError (PortQuery.Answer Unit q)
  | .monotonic => .ok now
  | q => TransmitPath.healthyAnswer ⟨flags, 0, 0, 0⟩ q

/-- The answers to any turn: an observation finds RX inactive at its fourth query. -/
def quietScript (now : ℚ) : Script (PortQuery.Answer Unit) PyError :=
  List.replicate 3 (quietAnswer now 0x0D) ++ [quietAnswer now 0x0C] ++
    List.replicate 8 (quietAnswer now 0x0D)

/-- Turns of one thread on a quiet channel. -/
def quietTurns (n : ℕ) (t : TncThread Unit) (message : KISSMessage) (now : ℚ) :
    List (TncThread Unit × TncInput × Script (PortQuery.Answer Unit) PyError) :=
  List.replicate n (t, ⟨0, .none, message⟩, quietScript now)

/-- A client sends a frame, and the worker observes the channel three times. -/
def sendFrame : List (TncThread Unit × TncInput × Script (PortQuery.Answer Unit) PyError) :=
  let message : KISSMessage := ⟨0, DATA, receiveReady⟩
  quietTurns 4 (.client ()) message 0 ++ quietTurns 8 .worker message 0 ++
    quietTurns 7 .worker message (1 / 4) ++ quietTurns 7 .worker message (7 / 20)

/-- A client sets TXDELAY to 255. -/
def setTxdelay : List (TncThread Unit × TncInput × Script (PortQuery.Answer Unit) PyError) :=
  quietTurns 2 (.client ()) ⟨0, TXDELAY, [255]⟩ 0

def atRest : Threads (TncThread Unit) Tnc TncLocal × ModemState where
  fst :=
    { shared := init .engine .default true .engine
      thread := fun
        | .worker => .worker .starting
        | .control => .control
        | .client _ => .idle }
  snd := ⟨true, .idle, 0⟩

theorem initial_atRest : Initial .engine .default .engine atRest :=
  ⟨rfl, rfl, rfl, fun _ => rfl, ⟨rfl, rfl⟩, le_refl _⟩

/-- The check of `Fits`, for every body that comes to the queue. -/
def fits (_ : Tnc) (l : TncLocal) (_ : TncInput) : Bool :=
  match l with
  | .serving (.entering frameNoFcs context) =>
      TXBroker.burstSelectors context.preFlags (appendFcs frameNoFcs) ≤ MAX_SELECTORS
  | _ => true

theorem fits_of_fits (s : Tnc) (l : TncLocal) (i : TncInput) (h : fits s l i = true) :
    s.Fits l i := by
  unfold Fits
  split
  · intro _ _
    simpa [fits] using h
  · trivial

/-- The state after these turns, as long as they pass the check. -/
def afterTurns (ok : Tnc → TncLocal → TncInput → Bool)
    (turns : List (TncThread Unit × TncInput × Script (PortQuery.Answer Unit) PyError)) :
    Option (Threads (TncThread Unit) Tnc TncLocal × ModemState) :=
  (code Unit (.engine "") .default).play (healthyModem Unit 2) ok atRest turns

/-- The frame is sent with the default TXDELAY. -/
theorem reachable_unfailed_one_frame :
    ∃ x : Threads (TncThread Unit) Tnc TncLocal × ModemState,
      x.1.shared.runtime.txDispatches = 1 ∧ x.1.shared.runtime.failure = none ∧
        x.1.shared.path.queue.downstreamFailures = 0 ∧
          ∀ a ∈ x.1.shared.path.queue.waiting, a.Prepares := by
  have hsent : (afterTurns fits sendFrame).any
      (fun x => decide (x.1.shared.runtime.txDispatches = 1)) = true := by
    decide +kernel
  rw [Option.any_eq_true] at hsent
  obtain ⟨x, hx, hone⟩ := hsent
  refine ⟨x, of_decide_eq_true hone, ?_⟩
  refine reachable_unfailed (R := Unit) (.engine "") .default .engine .default .engine 2
    (by decide +kernel) x ?_
  exact ThreadCode.reachable_of_play Fits fits_of_fits (.initial initial_atRest) hx

/-- After TXDELAY 255 the same frame is admitted, is too long for a burst, and
latches the runtime. -/
theorem oversized_latches :
    ¬ ∀ x : Threads (TncThread Unit) Tnc TncLocal × ModemState,
      (healthySystem Unit Unit (.engine "") .default .engine .default .engine 2).Reachable x →
        x.1.shared.runtime.failure = none ∧
          x.1.shared.path.queue.downstreamFailures = 0 := by
  intro h
  have hfails : (afterTurns (fun _ _ _ => true) (setTxdelay ++ sendFrame)).any
      (fun x => x.1.shared.runtime.failure.isSome) = true := by
    decide +kernel
  rw [Option.any_eq_true] at hfails
  obtain ⟨x, hx, hsome⟩ := hfails
  have hreachable := ThreadCode.reachable_of_play (fun _ _ _ => True)
    (fun _ _ _ _ => trivial) (.initial initial_atRest) hx
  rw [(h x hreachable.of_restrict).1] at hsome
  cases hsome

end Tnc

end YwdTnc
