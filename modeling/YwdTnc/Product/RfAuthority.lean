import YwdTnc.Interaction.Upholds
import YwdTnc.Product.Engine

/-!
# Who may use the radio

An engine that was configured without transmission never keys the transmitter: a message
of a client that asks for it is refused before the queue, so the queue stays empty and the
worker never comes to the submitter. The radio is tuned by `start` alone, to the lowest
power without transmission and to a permitted profile with it.
-/

namespace YwdTnc

open Interaction Prog

/-! ### The transmit path -/

/-- An operation that does not tune the radio. -/
abbrev PortQuery.Untuned (q : PortQuery) : Prop := ¬ q.isTuning

variable {R : Type}

theorem PortQuery.untuned_of_handoff : (q : PortQuery) → q.isHandoff → q.Untuned
  | .rxStatus _, _ | .rxStop _, _ => id

theorem PortQuery.untuned_of_idleWait : (q : PortQuery) → q.isIdleWait → q.Untuned
  | .monotonic, _ | .sleep _, _ | .rfStatus _, _ | .rfDiagnostics _, _ => id

namespace TXBroker

variable {preFlags : ℕ}

theorem transmit_untuned (receipt : TXReceipt) (packed : Bytes) (timeout : ℚ) :
    CallsOnly PortQuery.Untuned
      (transmit receipt packed timeout : PortProg R (TXBroker preFlags) Unit) := by
  refine (callsOnly_call id).bind fun status => ?_
  split
  · exact (callsOnly_modify _).bind fun _ => callsOnly_raise _
  · exact (callsOnly_call id).bind fun _ => callsOnly_modify _

theorem runJob_untuned (receipt : TXReceipt) (packed : Bytes) (timeout : ℚ) :
    CallsOnly PortQuery.Untuned
      (runJob receipt packed timeout :
        PortProg R (TXBroker preFlags) (Except PyError Unit)) := by
  refine callsOnly_get.bind fun b => ?_
  split
  · exact (callsOnly_modify _).bind fun _ => callsOnly_ret _
  refine (callsOnly_modify _).bind fun _ => ?_
  refine (transmit_untuned receipt packed timeout).attempt.bind fun r => ?_
  cases r with
  | error e => exact (callsOnly_modify _).bind fun _ => callsOnly_ret _
  | ok u => exact (callsOnly_modify _).bind fun _ => callsOnly_ret _

theorem submitFrame_untuned (frame : Bytes) (timeout : Option ℚ) :
    CallsOnly PortQuery.Untuned
      (submitFrame frame timeout : PortProg R (TXBroker preFlags) TXReceipt) := by
  refine callsOnly_get.bind fun b => ?_
  split
  · exact callsOnly_raise _
  dsimp only
  split
  · exact callsOnly_raise _
  split
  · exact callsOnly_raise _
  split
  · exact (callsOnly_modify _).bind fun _ => callsOnly_raise _
  · refine (callsOnly_modify _).bind fun _ => ?_
    exact (runJob_untuned _ _ _).bind fun error => callsOnly_ofExcept _

end TXBroker

theorem ContextualTXDelayRouter.submitFrame_untuned (frame : Bytes)
    (context : TNCTransmitContext) (timeout : Option ℚ) :
    CallsOnly PortQuery.Untuned
      (ContextualTXDelayRouter.submitFrame (R := R) frame context timeout) := by
  refine callsOnly_get.bind fun r => ?_
  split
  · exact callsOnly_raise _
  refine ((openBroker_callsOnly _).mono fun _ h => h.elim).bind fun _ => ?_
  refine (TXBroker.submitFrame_untuned frame timeout).zoom.attempt.bind fun r => ?_
  cases r with
  | error e => exact (callsOnly_modify _).bind fun _ => callsOnly_raise e
  | ok receipt => exact (callsOnly_modify _).bind fun _ => callsOnly_ret receipt

theorem ArmedContextAdapter.submitFrame_untuned (frame : Bytes) (timeout : ℚ) :
    CallsOnly PortQuery.Untuned
      (ArmedContextAdapter.submitFrame (R := R) frame timeout) := by
  refine callsOnly_get.bind fun a => ?_
  split
  · exact callsOnly_raise _
  · exact (ContextualTXDelayRouter.submitFrame_untuned frame _ _).zoom

theorem ArmedContextAdapter.arm_untuned (context : TNCTransmitContext) :
    CallsOnly PortQuery.Untuned (ArmedContextAdapter.arm (R := R) context) := by
  refine callsOnly_get.bind fun a => ?_
  split
  · exact callsOnly_raise _
  · exact callsOnly_modify _

namespace PersistentHalfDuplexSubmitter

variable {S τ : Type}

theorem restore_untuned (parameters : HalfDuplexParameters) (timeout : ℚ) :
    CallsOnly PortQuery.Untuned (restore (R := R) (τ := τ) parameters timeout) := by
  refine ((waitForTxIdle_callsOnly parameters timeout).mono
    PortQuery.untuned_of_idleWait).bind fun _ => ?_
  refine (callsOnly_call id).bind fun _ => (callsOnly_modify _).bind fun _ => ?_
  exact (callsOnly_call id).bind fun status => callsOnly_ofExcept _

theorem recover_untuned (parameters : HalfDuplexParameters) (timeout : ℚ) :
    CallsOnly PortQuery.Untuned (recover (R := R) (τ := τ) (S := S) parameters timeout) := by
  refine (callsOnly_modify _).bind fun _ => ?_
  refine (restore_untuned parameters timeout).attempt.bind fun r => ?_
  cases r with
  | error e => exact (callsOnly_modify _).bind fun _ => callsOnly_raise _
  | ok u => exact (callsOnly_modify _).bind fun _ => callsOnly_raise _

theorem complete_untuned (parameters : HalfDuplexParameters) (timeout : ℚ) (result : S) :
    CallsOnly PortQuery.Untuned
      (complete (R := R) (τ := τ) parameters timeout result) := by
  refine (callsOnly_modify _).bind fun _ => ?_
  refine (restore_untuned parameters timeout).attempt.bind fun r => ?_
  cases r with
  | error e => exact (callsOnly_modify _).bind fun _ => callsOnly_raise _
  | ok u => exact (callsOnly_modify _).bind fun _ => callsOnly_ret result

theorem cycle_untuned (parameters : HalfDuplexParameters)
    {submit : Bytes → ℚ → PortProg R τ S} (frame : Bytes) (timeout : ℚ)
    (hsubmit : CallsOnly PortQuery.Untuned (submit frame timeout)) :
    CallsOnly PortQuery.Untuned (cycle parameters submit frame timeout) := by
  refine ((preTransmit_callsOnly timeout).mono
    PortQuery.untuned_of_handoff).attempt.bind fun r => ?_
  cases r with
  | error e => exact (callsOnly_modify _).bind fun _ => callsOnly_raise _
  | ok u =>
      refine hsubmit.zoom.attempt.bind fun r => ?_
      cases r with
      | error e => exact recover_untuned parameters timeout
      | ok result => exact complete_untuned parameters timeout result

theorem submitFrame_untuned (parameters : HalfDuplexParameters)
    {submit : Bytes → ℚ → PortProg R τ S} (frame : Bytes) (timeout : Option ℚ)
    (hsubmit : ∀ timeout, CallsOnly PortQuery.Untuned (submit frame timeout)) :
    CallsOnly PortQuery.Untuned (submitFrame parameters submit frame timeout) := by
  refine callsOnly_get.bind fun s => ?_
  split
  · exact callsOnly_raise _
  split
  · exact callsOnly_raise _
  dsimp only
  split
  · exact callsOnly_raise _
  · refine (callsOnly_modify _).bind fun _ => ?_
    exact (cycle_untuned parameters frame _ (hsubmit _)).ensuring

end PersistentHalfDuplexSubmitter

theorem ContextualHalfDuplexSubmitter.submitFrame_untuned (parameters : HalfDuplexParameters)
    (frame : Bytes) (context : TNCTransmitContext) (timeout : Option ℚ) :
    CallsOnly PortQuery.Untuned
      (ContextualHalfDuplexSubmitter.submitFrame (R := R) parameters frame context timeout) := by
  refine (ArmedContextAdapter.arm_untuned context).zoom.bind fun _ => ?_
  refine CallsOnly.ensuring ?_
  exact PersistentHalfDuplexSubmitter.submitFrame_untuned parameters frame timeout
    (ArmedContextAdapter.submitFrame_untuned frame)

theorem TransmitPath.observeRssi_untuned (parameters : HalfDuplexParameters)
    (q : KISSDataAdmissionQueue) (now : ℚ) (raw : ℤ) (source : RandomByteSource) :
    CallsOnly PortQuery.Untuned
      (TransmitPath.observeRssi (R := R) parameters q now raw source) := by
  unfold TransmitPath.observeRssi KISSDataAdmissionQueue.observeRssi
  split
  · exact callsOnly_ret _
  · refine CallsOnly.bind (CallsOnly.attempt ?_) fun result => callsOnly_ret _
    exact ContextualHalfDuplexSubmitter.submitFrame_untuned parameters _ _ _

/-! ### Without transmission -/

/-- An operation that does not tune the radio, and no burst without transmission. -/
def PortQuery.Restrained (txEnabled : Bool) (q : PortQuery) : Prop :=
  ¬ q.isTuning ∧ (txEnabled = false → ¬ q.isBurst)

/-- Without transmission the backend refuses DATA, and nothing is queued. -/
def Tnc.Muted (txEnabled : Bool) (s : Tnc) : Prop :=
  txEnabled = false → s.backend.transmitEnabled = false ∧ s.path.queue.queue = []

variable {txEnabled : Bool}

/-- An observation of an empty queue does not come to the submitter. -/
theorem TransmitPath.observeRssi_upholds (parameters : HalfDuplexParameters)
    {q : KISSDataAdmissionQueue} (hq : txEnabled = false → q.queue = []) (now : ℚ) (raw : ℤ)
    (source : RandomByteSource) :
    Upholds (PortQuery.Restrained txEnabled) (fun _ => True)
      (TransmitPath.observeRssi (R := R) parameters q now raw source)
      fun r => txEnabled = false → r.1.queue = [] := by
  cases txEnabled with
  | true =>
      have huntuned := (observeRssi_untuned (R := R) parameters q now raw source).upholds
      refine (huntuned.mono fun q hq => ⟨hq, fun h => nomatch h⟩).weaken fun _ _ h => nomatch h
  | false =>
      have hempty := hq rfl
      have hprepares := q.prepare_prepares (R := TXReceipt) now raw source
      unfold TransmitPath.observeRssi KISSDataAdmissionQueue.observeRssi
      rcases hprepare : q.prepare (R := TXReceipt) now raw source with ⟨q', prepared⟩
      rw [hprepare] at hprepares
      cases hprepares with
      | late => exact upholds_ret fun _ => hempty
      | idle => exact upholds_ret fun _ => hempty
      | expired _ hqueue | raised _ hqueue | waits _ hqueue | timesOut _ hqueue
      | submits _ hqueue => simp [hempty] at hqueue

namespace SustainedTNCRuntime

theorem update_upholds (f : SustainedTNCRuntime → SustainedTNCRuntime) :
    Upholds (PortQuery.Restrained txEnabled) (Tnc.Muted txEnabled) (update (R := R) f)
      fun _ => True :=
  upholds_modify fun _ h => h

theorem checkStatus_upholds (timeout : ℚ) :
    Upholds (PortQuery.Restrained txEnabled) (Tnc.Muted txEnabled)
      (checkStatus (R := R) timeout) fun _ => True := by
  refine (upholds_call ⟨id, fun _ => id⟩).bind fun status _ => ?_
  refine (update_upholds _).bind fun _ _ => ?_
  exact upholds_ofExcept fun _ _ => trivial

theorem start_upholds (config : RuntimeConfig) (timeout : ℚ) :
    Upholds (PortQuery.Restrained txEnabled) (Tnc.Muted txEnabled)
      (start (R := R) config timeout) fun _ => True := by
  refine (upholds_call ⟨id, fun _ => id⟩).bind fun version _ => ?_
  split
  · exact upholds_raise _
  · exact (checkStatus_upholds timeout).bind fun _ _ => update_upholds _

theorem publishAll_upholds (frames : List Bytes) :
    Upholds (PortQuery.Restrained txEnabled) (Tnc.Muted txEnabled)
      (publishAll (R := R) frames) fun _ => True := by
  induction frames with
  | nil => exact upholds_ret trivial
  | cons frame frames ih =>
      have hpublish : Upholds (PortQuery.Restrained txEnabled) (Tnc.Muted txEnabled)
          (publish (R := R) frame) fun _ => True :=
        (upholds_ofExcept fun _ _ => trivial).bind fun _ (_ : True) => update_upholds _
      exact hpublish.bind fun _ _ => ih

theorem observeRssi_upholds (parameters : HalfDuplexParameters) (raw : ℕ)
    (source : RandomByteSource) :
    Upholds (PortQuery.Restrained txEnabled) (Tnc.Muted txEnabled)
      (observeRssi (R := R) parameters raw source) fun _ => True := by
  refine (upholds_call ⟨id, fun _ => id⟩).bind fun now _ => Upholds.get_bind fun s hs => ?_
  have hpath := TransmitPath.observeRssi_upholds (R := R) parameters
    (fun hdisabled => (hs hdisabled).2) now raw source
  refine Upholds.bind (Upholds.zoom hpath (fun _ _ => trivial) ?_) fun outcome hqueue => ?_
  · exact fun s _ hs _ => hs
  refine Upholds.bind (upholds_modify fun s hs hdisabled => ?_) fun _ _ =>
    upholds_ofExcept fun _ _ => trivial
  exact ⟨(hs hdisabled).1, hqueue hdisabled⟩

end SustainedTNCRuntime

namespace Worker

open SustainedTNCRuntime

theorem act_upholds (config : RuntimeConfig) (nextStatus : ℚ)
    (observation : KISSDataQueueObservation TXReceipt) :
    Upholds (PortQuery.Restrained txEnabled) (Tnc.Muted txEnabled)
      (act (R := R) config nextStatus observation) fun _ => True := by
  unfold act
  split
  · exact (update_upholds _).bind fun _ _ => upholds_ret trivial
  · exact upholds_raise _
  · split
    · refine (update_upholds _).bind fun _ _ => (checkStatus_upholds _).bind fun _ _ => ?_
      exact (upholds_call ⟨id, fun _ => id⟩).bind fun now _ => upholds_ret trivial
    · exact upholds_ret trivial
  · exact upholds_ret trivial

theorem body_upholds (config : RuntimeConfig) (parameters : HalfDuplexParameters)
    (source : RandomByteSource) (decoding : Decoding) (w : Worker) :
    Upholds (PortQuery.Restrained txEnabled) (Tnc.Muted txEnabled)
      (body (R := R) config parameters source decoding w) fun _ => True := by
  cases w with
  | starting => exact (upholds_call ⟨id, fun _ => id⟩).bind fun now _ => upholds_ret trivial
  | looping nextStatus =>
      refine Upholds.get_bind fun s _ => ?_
      split
      · exact upholds_ret trivial
      · exact upholds_ret trivial
  | draining nextStatus reads =>
      cases reads with
      | zero => exact upholds_ret trivial
      | succ reads =>
          refine Upholds.get_bind fun s _ => ?_
          split
          · exact upholds_ret trivial
          refine (upholds_call ⟨id, fun _ => id⟩).bind fun chunk _ => ?_
          refine (update_upholds _).bind fun _ _ => ?_
          split
          · exact upholds_ret trivial
          have hconsume : Upholds (PortQuery.Restrained txEnabled) (Tnc.Muted txEnabled)
              (consume (R := R) decoding chunk) fun _ => True :=
            (update_upholds _).bind fun _ _ => publishAll_upholds _
          refine hconsume.bind fun _ _ => ?_
          split
          · exact upholds_ret trivial
          · exact upholds_ret trivial
  | drained nextStatus =>
      refine (upholds_call ⟨id, fun _ => id⟩).bind fun now _ => ?_
      split
      · exact (checkStatus_upholds _).bind fun _ _ => upholds_ret trivial
      · exact upholds_ret trivial
  | checked nextStatus =>
      refine Upholds.get_bind fun s _ => ?_
      split
      · exact upholds_ret trivial
      refine (upholds_call ⟨id, fun _ => id⟩).bind fun rssi _ => ?_
      exact (update_upholds _).bind fun _ _ => upholds_ret trivial
  | sampled nextStatus rawMagnitude =>
      exact (observeRssi_upholds _ _ _).bind fun observation _ => upholds_ret trivial
  | observed nextStatus observation => exact act_upholds config nextStatus observation
  | resting nextStatus => exact upholds_ret trivial
  | finished => exact upholds_ret trivial

theorem turn_upholds (config : RuntimeConfig) (parameters : HalfDuplexParameters)
    (source : RandomByteSource) (decoding : Decoding) (w : Worker) :
    Upholds (PortQuery.Restrained txEnabled) (Tnc.Muted txEnabled)
      (turn (R := R) config parameters source decoding w) fun _ => True := by
  refine (body_upholds config parameters source decoding w).attempt.bind fun r _ => ?_
  cases r with
  | error e => exact (update_upholds _).bind fun _ _ => upholds_ret trivial
  | ok w => exact upholds_ret trivial

end Worker

/-! ### The clients -/

/-- A message that is on its way to the queue. -/
def Submission.PastGate : Submission → Prop
  | .received _ => False
  | .captured _ _ | .entering _ _ => True

/-- Without transmission no message comes past the gate of the backend. -/
def Submission.Muted (txEnabled : Bool) (submission : Submission) : Prop :=
  txEnabled = false → ¬ submission.PastGate

def Handler.Muted (txEnabled : Bool) : Handler → Prop
  | .submitting _ _ submission => submission.Muted txEnabled
  | _ => True

/-- A turn that is taken with transmission only. -/
theorem Submission.turn_upholds_enabled (submission : Submission) :
    Upholds (PortQuery.Restrained true) (Tnc.Muted true) (submission.turn (R := R))
      fun _ => True := by
  cases submission with
  | received message =>
      refine Upholds.get_bind fun s _ => ?_
      refine (upholds_modify fun _ _ h => nomatch h).bind fun _ _ => ?_
      refine Upholds.bind (upholds_ofExcept fun next _ => trivial) fun next (_ : True) => ?_
      cases next with
      | handled result => exact upholds_ret trivial
      | data frameNoFcs context => exact upholds_ret trivial
  | captured frameNoFcs context =>
      exact (upholds_call ⟨id, fun _ => id⟩).bind fun now _ => upholds_ret trivial
  | entering frameNoFcs context =>
      refine Upholds.bind ?_ fun result (_ : True) => upholds_ret trivial
      refine (upholds_call ⟨id, fun _ => id⟩).bind fun now _ => Upholds.get_bind fun s _ => ?_
      refine (upholds_modify fun _ _ h => nomatch h).bind fun _ _ => ?_
      exact upholds_ofExcept fun _ _ => trivial

/-- Without transmission a message is dealt with before the queue. -/
theorem Submission.turn_upholds_disabled (message : KISSMessage) :
    Upholds (PortQuery.Restrained false) (Tnc.Muted false)
      (Submission.turn (R := R) (.received message)) fun next => next = none := by
  refine Upholds.get_bind fun s hs => ?_
  obtain ⟨hdisabled, -⟩ := hs rfl
  generalize hreject : s.backend.rejectClientMessage message
    s.path.queue.config.requestTimeoutSeconds = outcome
  obtain ⟨backend, next⟩ := outcome
  have hkept : backend.transmitEnabled = s.backend.transmitEnabled :=
    (congrArg (fun outcome => outcome.1.transmitEnabled) hreject).symm
  refine (upholds_modify fun s hs hoff => ?_).bind fun _ _ => ?_
  · exact ⟨hkept.trans hdisabled, (hs hoff).2⟩
  refine Upholds.bind (upholds_ofExcept fun next hnext => hnext) fun ingress hingress => ?_
  cases ingress with
  | handled result => exact upholds_ret rfl
  | data frameNoFcs context =>
      subst hingress
      have henabled := (ModemTNCBackend.data_cases hreject).1
      rw [hdisabled] at henabled
      cases henabled

theorem Submission.turn_upholds {submission : Submission} (h : submission.Muted txEnabled) :
    Upholds (PortQuery.Restrained txEnabled) (Tnc.Muted txEnabled) (submission.turn (R := R))
      fun next => ∀ submission, next = some submission → submission.Muted txEnabled := by
  cases txEnabled with
  | true => exact submission.turn_upholds_enabled.weaken fun _ _ _ _ h => nomatch h
  | false =>
      cases submission with
      | received message =>
          refine (turn_upholds_disabled message).weaken fun next hnone submission hsome => ?_
          rw [hnone] at hsome
          cases hsome
      | captured | entering => exact absurd trivial (h rfl)

theorem Handler.receive_upholds (decoder : ConnectionDecoder) (data : Bytes) :
    Upholds (PortQuery.Restrained txEnabled) (Tnc.Muted txEnabled)
      (Handler.receive (R := R) decoder data) (Handler.Muted txEnabled) := by
  cases decoder with
  | kiss d =>
      refine Upholds.bind (upholds_modify ?_) fun _ _ => upholds_ret ?_
      · exact fun s h => h
      · trivial
  | agw d =>
      unfold Handler.receive
      dsimp only
      split
      · exact upholds_ret trivial
      · exact upholds_ret trivial

theorem Handler.turn_upholds (accepted : Option ConnectionDecoder) (data : Option Bytes)
    {handler : Handler} (h : handler.Muted txEnabled) :
    Upholds (PortQuery.Restrained txEnabled) (Tnc.Muted txEnabled)
      (handler.turn (R := R) accepted data) (Handler.Muted txEnabled) := by
  cases handler with
  | closed =>
      cases accepted with
      | none => exact upholds_ret trivial
      | some decoder => exact upholds_ret trivial
  | receiving decoder =>
      cases data with
      | none => exact upholds_ret trivial
      | some data =>
          cases data with
          | nil => exact upholds_ret trivial
          | cons byte data => exact receive_upholds decoder (byte :: data)
  | delivering decoder messages =>
      cases messages with
      | nil => exact upholds_ret trivial
      | cons message messages => exact upholds_ret fun _ hpast => hpast
  | submitting decoder messages submission =>
      refine (Submission.turn_upholds h).bind fun next hnext => ?_
      cases next with
      | none => exact upholds_ret trivial
      | some submission => exact upholds_ret (hnext submission rfl)

/-! ### The engine -/

/-- What a configuration lets the transport have: no burst without transmission, a
frequency with the lowest power without it, and a permitted profile with it. -/
structure LawfulRequest (config : TNCConfig) (request : Bytes) : Prop where
  silent : config.txEnabled = false → ¬ KeysTransmitter request
  setting : ∀ payload, SetsFrequency request payload →
    ∃ setting, readSetFreq payload = some setting ∧
      (config.txEnabled = false → setting.power = 1) ∧
        (config.txEnabled = true → setting.rxHz = setting.txHz ∧
          ((setting.rxHz : ℤ), (setting.power : ℤ)) ∈ PERMITTED_TX_PROFILES)

variable {config : TNCConfig}

def PortQuery.Lawful (config : TNCConfig) (q : PortQuery) : Prop :=
  ∀ request, q.handed = some request → LawfulRequest config request

theorem PortQuery.lawful_of_restrained {q : PortQuery} (h : q.Restrained config.txEnabled) :
    q.Lawful config := by
  intro request hrequest
  obtain ⟨command, payload, hbuilt, htuning, hburst⟩ := handed_built hrequest
  constructor
  · intro hdisabled hkeys
    obtain ⟨hcommand, hhead⟩ := hkeys.of_built hbuilt
    exact h.2 hdisabled (hburst hcommand hhead)
  · intro payload' hsets
    exact absurd (htuning (hsets.of_built hbuilt).1) h.1

theorem PortQuery.lawful_setRxFrequency (hdisabled : config.txEnabled = false)
    (timeout : ℚ) : (PortQuery.setRxFrequency config.frequencyHz timeout).Lawful config := by
  intro request hrequest
  have hbuilder := Option.some.inj (request_of_handed hrequest)
  obtain ⟨payload, hbuilt, hread⟩ := setRxFrequencyRequest_payload hbuilder
  constructor
  · intro _ hkeys
    exact absurd (hkeys.of_built hbuilt).1 (by decide)
  · intro payload' hsets
    obtain ⟨-, rfl⟩ := hsets.of_built hbuilt
    refine ⟨_, hread, fun _ => rfl, fun henabled => ?_⟩
    rw [hdisabled] at henabled
    cases henabled

theorem PortQuery.lawful_applyTxProfile (henabled : config.txEnabled = true) (timeout : ℚ) :
    (PortQuery.applyTxProfile config.frequencyHz config.txPower timeout).Lawful config := by
  intro request hrequest
  have hbuilder := Option.some.inj (request_of_handed hrequest)
  obtain ⟨hpermitted, payload, hbuilt, hread⟩ := buildTxProfileRequest_payload hbuilder
  constructor
  · intro hdisabled
    rw [henabled] at hdisabled
    cases hdisabled
  · intro payload' hsets
    obtain ⟨-, rfl⟩ := hsets.of_built hbuilt
    refine ⟨_, hread, fun hdisabled => ?_, fun _ => ⟨rfl, ?_⟩⟩
    · rw [henabled] at hdisabled
      cases hdisabled
    · have hnonneg := profile_nonneg hpermitted
      simpa [Int.toNat_of_nonneg hnonneg.1, Int.toNat_of_nonneg hnonneg.2] using hpermitted

def EngineState.Muted (config : TNCConfig) (s : EngineState) : Prop :=
  ∀ tnc, s.tnc = some tnc → tnc.Muted config.txEnabled

namespace TNCEngine

def EngineLocal.Muted (config : TNCConfig) : EngineLocal → Prop
  | .client handler => handler.Muted config.txEnabled
  | _ => True

/-- What the programs of the engine keep, and what they ask. -/
abbrev Keeps {α : Type} (config : TNCConfig) (p : PortProg R EngineState α)
    (Post : α → Prop) : Prop :=
  Upholds (PortQuery.Lawful config) (EngineState.Muted config) p Post

theorem keeps_onTnc {α : Type} {p : PortProg R Tnc α} {Post : α → Prop}
    (hp : Upholds (PortQuery.Restrained config.txEnabled) (Tnc.Muted config.txEnabled) p Post) :
    Keeps config (EngineState.onTnc p) fun r => ∀ a, r = some a → Post a := by
  refine Upholds.get_bind fun s hs => ?_
  cases htnc : s.tnc with
  | none => exact upholds_ret fun a ha => nomatch ha
  | some tnc =>
      have hlawful := hp.mono fun q hq => PortQuery.lawful_of_restrained hq
      refine Upholds.bind (hlawful.zoom ?_ ?_) fun a ha => upholds_ret ?_
      · intro s' hs'
        cases hnext : s'.tnc with
        | none => exact hs tnc htnc
        | some tnc' => exact hs' tnc' hnext
      · intro s' tnc' _ htnc' tnc'' heq
        cases heq
        exact htnc'
      · intro b hb
        cases hb
        exact ha

/-- A part of the state that is not of the transmit path. -/
theorem keeps_modify {f : EngineState → EngineState} (hf : ∀ s, (f s).tnc = s.tnc) :
    Keeps (R := R) config (modify f) fun _ => True := by
  refine upholds_modify fun s hs tnc htnc => hs tnc ?_
  rw [← hf]
  exact htnc

theorem keeps_modify_bind {α : Type} {f : EngineState → EngineState}
    {p : Unit → PortProg R EngineState α} {Post : α → Prop} (hf : ∀ s, (f s).tnc = s.tnc)
    (hp : Keeps config (p ()) Post) : Keeps config (modify f >>= p) Post :=
  (keeps_modify hf).bind fun _ _ => hp

theorem keeps_call {q : PortQuery} (h : ∀ txEnabled, q.Restrained txEnabled) :
    Keeps (R := R) config (call q) fun _ => True :=
  upholds_call (PortQuery.lawful_of_restrained (h _))

theorem keeps_ofExcept {α : Type} (x : Except PyError α) :
    Keeps (R := R) config (ofExcept x) fun _ => True :=
  upholds_ofExcept fun _ _ => trivial

theorem keeps_tune (config : TNCConfig) : Keeps (R := R) config (tune config) fun _ => True := by
  unfold tune
  split
  case isTrue henabled => exact upholds_call (PortQuery.lawful_applyTxProfile henabled _)
  case isFalse hdisabled =>
    exact upholds_call (PortQuery.lawful_setRxFrequency (Bool.not_eq_true _ ▸ hdisabled) _)

theorem keeps_compose (config : TNCConfig) :
    Keeps (R := R) config (compose config) fun _ => True := by
  refine (keeps_ofExcept _).bind fun session _ => upholds_modify fun s _ tnc htnc => ?_
  cases htnc
  exact fun hdisabled => ⟨hdisabled, rfl⟩

theorem keeps_bringUp (config : TNCConfig) (host : HostOutcomes) :
    Keeps (R := R) config (bringUp config host) fun _ => True := by
  refine keeps_modify_bind (fun _ => rfl) ?_
  refine (keeps_ofExcept _).bind fun _ _ => ?_
  refine (keeps_call fun _ => ⟨id, fun _ => id⟩).bind fun version _ => ?_
  refine (keeps_ofExcept _).bind fun _ _ => keeps_modify_bind (fun _ => rfl) ?_
  refine (keeps_call fun _ => ⟨id, fun _ => id⟩).bind fun status _ => ?_
  refine (keeps_call fun _ => ⟨id, fun _ => id⟩).bind fun diag _ => ?_
  refine (keeps_ofExcept _).bind fun _ _ => (keeps_tune config).bind fun _ _ => ?_
  refine (keeps_call fun _ => ⟨id, fun _ => id⟩).bind fun _ _ => ?_
  refine (keeps_call fun _ => ⟨id, fun _ => id⟩).bind fun _ _ => ?_
  refine keeps_modify_bind (fun _ => rfl) ((keeps_compose config).bind fun _ _ => ?_)
  refine (keeps_onTnc (SustainedTNCRuntime.start_upholds _ _)).bind fun _ _ => ?_
  exact keeps_modify fun _ => rfl

theorem keeps_openListener (config : TNCConfig) (host : HostOutcomes) (l : Listener) :
    Keeps (R := R) config (openListener config host l) fun _ => True := by
  unfold openListener
  dsimp only
  split
  · split
    · exact upholds_raise _
    · exact (keeps_ofExcept _).bind fun _ _ => keeps_modify fun _ => rfl
  · exact upholds_ret trivial

theorem keeps_checkListener (config : TNCConfig) (host : HostOutcomes) (l : Listener)
    (message : String) :
    Keeps (R := R) config (checkListener config host l message) fun _ => True := by
  refine Upholds.get_bind fun s _ => ?_
  split
  · split
    · refine (keeps_ofExcept _).bind fun alive _ => ?_
      split
      · exact upholds_ret trivial
      · exact upholds_raise _
    · exact upholds_raise _
  · exact upholds_ret trivial

theorem keeps_checkHealth (config : TNCConfig) (host : HostOutcomes) :
    Keeps (R := R) config (checkHealth config host) fun _ => True := by
  refine Upholds.get_bind fun s _ => ?_
  split
  · refine (keeps_ofExcept _).bind fun running _ => ?_
    split
    · refine (keeps_ofExcept _).bind fun _ _ => ?_
      refine (keeps_checkListener config host _ _).bind fun _ _ => ?_
      refine (keeps_checkListener config host _ _).bind fun _ _ => ?_
      exact keeps_checkListener config host _ _
    · exact upholds_raise _
  · exact upholds_raise _

theorem keeps_joinRuntime (config : TNCConfig) (host : HostOutcomes) :
    Keeps (R := R) config (joinRuntime host) fun _ => True := by
  refine Upholds.get_bind fun s _ => ?_
  split
  · exact upholds_ret trivial
  · split
    · refine (keeps_ofExcept _).bind fun _ _ => keeps_ofExcept _
    · exact keeps_ofExcept _

theorem keeps_closeRouter (config : TNCConfig) (host : HostOutcomes) :
    Keeps (R := R) config (closeRouter host) fun _ => True := by
  refine Upholds.get_bind fun s _ => ?_
  split
  · exact upholds_ret trivial
  · refine Upholds.bind (keeps_onTnc (upholds_modify ?_)) fun _ _ => ?_
    · exact fun s h => h
    · exact (keeps_ofExcept _).bind fun _ _ => upholds_ret trivial

theorem keeps_cleanupStep (config : TNCConfig) (host : HostOutcomes) (step : CleanupStep) :
    Keeps (R := R) config (step.run host) fun _ => True := by
  cases step with
  | closeListener l =>
      refine Upholds.get_bind fun s _ => ?_
      split
      · refine Upholds.ensuring ?_ fun s hs => hs
        exact (keeps_ofExcept _).bind fun _ _ => upholds_ret trivial
      · exact upholds_ret trivial
  | signalRuntime =>
      refine (keeps_onTnc (SustainedTNCRuntime.update_upholds _)).bind fun _ _ => ?_
      exact upholds_ret trivial
  | joinRuntime => exact keeps_joinRuntime config host
  | closeRouter => exact keeps_closeRouter config host
  | stopRx =>
      refine Upholds.get_bind fun s _ => ?_
      split
      · exact Upholds.ensuring (keeps_call fun _ => ⟨id, fun _ => id⟩) fun s hs => hs
      · exact upholds_ret trivial
  | stopOwner =>
      refine Upholds.get_bind fun s _ => ?_
      split
      · exact (keeps_ofExcept _).bind fun _ _ => upholds_ret trivial
      · exact upholds_ret trivial

/-! ### Every turn -/

theorem keeps_call_main (config : TNCConfig) (host : HostOutcomes) (next : EngineCall) :
    Keeps (R := R) config (Main.call config host next) fun _ => True := by
  cases next with
  | start =>
      refine Upholds.get_bind fun s _ => ?_
      split
      · exact upholds_ret trivial
      refine keeps_modify_bind (fun _ => rfl) ?_
      refine (keeps_bringUp config host).attempt.bind fun r _ => ?_
      cases r with
      | error e => exact upholds_ret trivial
      | ok u => exact upholds_ret trivial
  | checkHealth =>
      exact (keeps_checkHealth config host).attempt.bind fun r _ => upholds_ret trivial
  | stop =>
      refine Upholds.get_bind fun s _ => ?_
      split
      · exact upholds_ret trivial
      · exact keeps_modify_bind (fun _ => rfl) (upholds_ret trivial)

theorem keeps_main (config : TNCConfig) (host : HostOutcomes) (next : EngineCall) (m : Main) :
    Keeps (R := R) config (m.turn config host next) fun _ => True := by
  cases m with
  | resting result => exact keeps_call_main config host next
  | opening listeners =>
      cases listeners with
      | nil =>
          refine (keeps_checkHealth config host).attempt.bind fun r _ => ?_
          cases r with
          | error e => exact upholds_ret trivial
          | ok u => exact upholds_ret trivial
      | cons l listeners =>
          refine (keeps_openListener config host l).attempt.bind fun r _ => ?_
          cases r with
          | error e => exact upholds_ret trivial
          | ok u => exact upholds_ret trivial
  | cleaning steps errors raised =>
      cases steps with
      | nil => exact upholds_ret trivial
      | cons step steps =>
          refine (keeps_cleanupStep config host step).attempt.bind fun r _ => ?_
          cases r with
          | error e => exact upholds_ret trivial
          | ok u => exact upholds_ret trivial

theorem keeps_turn (config : TNCConfig) {l : EngineLocal} (hl : l.Muted config)
    (input : EngineInput) :
    Keeps (R := R) config (turn config l input) (EngineLocal.Muted config) := by
  cases l with
  | main m =>
      exact (keeps_main config input.host input.call m).bind fun _ _ => upholds_ret trivial
  | worker w =>
      refine Upholds.get_bind fun s _ => ?_
      split
      · refine (keeps_onTnc (Worker.turn_upholds _ _ _ _ w)).bind fun _ _ => ?_
        exact upholds_ret trivial
      · exact upholds_ret trivial
  | client handler =>
      refine Upholds.get_bind fun s _ => ?_
      refine (keeps_onTnc (Handler.turn_upholds _ _ hl)).bind fun next hnext => ?_
      cases next with
      | none => exact upholds_ret hl
      | some handler' => exact upholds_ret (hnext handler' rfl)
  | halted => exact upholds_ret trivial

theorem holds_initial {C : Type} {x : Threads (EngineThread C) EngineState EngineLocal}
    (h : Initial config x) :
    ThreadCode.Holds (EngineState.Muted config) (EngineLocal.Muted config) x := by
  constructor
  · rw [h.shared]
    exact fun tnc htnc => nomatch htnc
  · intro t
    cases t with
    | main =>
        rw [h.main]
        trivial
    | worker =>
        rw [h.worker]
        trivial
    | client c =>
        rw [h.client c]
        trivial

/-- RF authority is fail-closed: in every run of an engine, with any clients, any modem
and any order of turns, nothing is ever queued without transmission, and the transport is
handed lawful requests only. -/
theorem run_lawful {C : Type} [DecidableEq C] (config : TNCConfig)
    (x x' : Threads (EngineThread C) EngineState EngineLocal)
    (es : List (Turn (PortQuery.Answer R) PyError (EngineThread C) EngineLocal EngineInput))
    (hinitial : (system R C config).initial x) (hrun : (system R C config).Run x es x') :
    (config.txEnabled = false → x'.shared.txQueueDepth = 0) ∧
      ∀ request ∈ handed es, LawfulRequest config request := by
  have hturn : ∀ (l : EngineLocal) (input : EngineInput), l.Muted config →
      Keeps config ((code R config).turn l input) (EngineLocal.Muted config) :=
    fun l input hl => keeps_turn config hl input
  obtain ⟨hholds, hasks⟩ :=
    ThreadCode.run_upholds hturn trivial (holds_initial hinitial) hrun
  constructor
  · intro hdisabled
    unfold EngineState.txQueueDepth
    split
    · rfl
    case h_2 tnc htnc =>
      rw [(hholds.shared tnc htnc hdisabled).2]
      rfl
  · intro request hrequest
    rw [handed, List.mem_filterMap] at hrequest
    obtain ⟨c, hc, hhanded⟩ := hrequest
    obtain ⟨e, he, hce⟩ := List.mem_flatMap.1 hc
    exact hasks e he c hce request hhanded

/-! ### A client without authority -/

/-- A listener on the loopback interface. -/
def loopbackListener (port : ℤ) : ListenerConfig := ⟨true, "127.0.0.1", port, false⟩

def receiveOnly : TNCConfig where
  target := PRODUCT_TARGET
  device := "/dev/ttyAMA0"
  frequencyHz := APRS_TX_FREQUENCY_HZ
  txPower := APRS_TX_POWER
  txEnabled := false
  txdelay := 30
  persist := 63
  slottime := 10
  kiss := loopbackListener 8001
  agw := loopbackListener 8000
  monitor := loopbackListener 8002
  agwRawOnly := true
  requiredIdentity := QUALIFIED_FIRMWARE_IDENTITY

/-- A modem with the qualified firmware, at rest and then receiving. -/
def qualifiedAnswer : (q : PortQuery) → Except PyError (PortQuery.Answer Unit q)
  | .getVersion _ => .ok ⟨1, QUALIFIED_FIRMWARE_IDENTITY⟩
  | q => TransmitPath.healthyAnswer ⟨0x0D, 0, 0, 0⟩ q

/-- Turns of one thread; a client connects to KISS and sends one packet of DATA. -/
def receiveOnlyTurns (n : ℕ) (t : EngineThread Unit) :
    List (EngineThread Unit × EngineInput × Script (PortQuery.Answer Unit) PyError) :=
  List.replicate n (t,
    { call := .start
      host := fun _ => .ok true
      randomByte := .ok 0
      decoding := .none
      listener := .kiss
      data := some (dataPacket receiveReady) },
    List.replicate 8 qualifiedAnswer)

def constructed : Threads (EngineThread Unit) EngineState EngineLocal where
  shared := .init
  thread := fun
    | .main => .main (.resting (.ok ()))
    | .worker => .worker .starting
    | .client _ => .client .closed

theorem initial_constructed : Initial receiveOnly constructed where
  accepted := by decide +kernel
  shared := rfl
  main := rfl
  worker := rfl
  client _ := rfl

/-- The engine comes up, tunes the radio once and refuses the packet of a client. -/
theorem run_lawful_refused :
    ∃ (es : List (Turn (PortQuery.Answer Unit) PyError (EngineThread Unit) EngineLocal
        EngineInput)) (x' : Threads (EngineThread Unit) EngineState EngineLocal),
      (handed es).length = 8 ∧
        x'.shared.tnc.map (fun tnc => tnc.backend.txRejected) = some 1 ∧
          (receiveOnly.txEnabled = false → x'.shared.txQueueDepth = 0) ∧
            ∀ request ∈ handed es, LawfulRequest receiveOnly request := by
  let turns := receiveOnlyTurns 5 .main ++ receiveOnlyTurns 4 (.client ())
  let code := code Unit receiveOnly
  have hrun : (system Unit Unit receiveOnly).Run constructed (code.takes constructed turns).1
      (code.takes constructed turns).2 := ThreadCode.run_takes _ turns constructed
  refine ⟨_, _, ?_, ?_, run_lawful receiveOnly _ _ _ initial_constructed hrun⟩
  · decide +kernel
  · decide +kernel

end TNCEngine

end YwdTnc
