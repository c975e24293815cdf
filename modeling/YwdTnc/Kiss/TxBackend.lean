import YwdTnc.Kiss.TxPath

/-!
# The KISS backend

A decoded message passes through four overrides of `reject_client_message`: the
product's gate, the admission of DATA, the control plane and the receive-only
accounting. The backend's event streams are not part of the model. A DATA
message leaves the backend with its captured context and comes back with the
result of the queue.
-/

namespace YwdTnc

/-- `RXOnlyBackend`, less its event streams. -/
structure RXOnlyBackend where
  txRejected : ℕ
  controlIgnored : ℕ
  deriving DecidableEq

namespace RXOnlyBackend

def init : RXOnlyBackend := ⟨0, 0⟩

def rejectClientMessage (b : RXOnlyBackend) (message : KISSMessage) : RXOnlyBackend :=
  if message.command = DATA then { b with txRejected := b.txRejected + 1 }
  else { b with controlIgnored := b.controlIgnored + 1 }

end RXOnlyBackend

structure TNCControlBackend extends RXOnlyBackend where
  session : TNCSessionState

namespace TNCControlBackend

def rejectClientMessage (b : TNCControlBackend) (message : KISSMessage) :
    TNCControlBackend × TNCControlResult :=
  let (session, result) := b.session.apply message
  let b := { b with session }
  if result.updated then (b, result)
  else
    ({ b with toRXOnlyBackend := b.toRXOnlyBackend.rejectClientMessage message }, result)

end TNCControlBackend

structure KISSDataIngressCounters where
  dataMessagesReceived : ℕ
  dataAdmitted : ℕ
  dataInvalidRejections : ℕ
  dataQueueFullDrops : ℕ
  dataTimeRejections : ℕ
  dataOtherRejections : ℕ
  deriving DecidableEq

def KISSDataIngressCounters.zero : KISSDataIngressCounters := ⟨0, 0, 0, 0, 0, 0⟩

structure KISSDataIngressResult where
  admitted : Bool
  receipt : Option KISSDataRequestReceipt
  reason : String

structure TNCTransmitBackend extends TNCControlBackend where
  ingress : KISSDataIngressCounters

/-- `reject_client_message` up to the admission queue: it is over, or a DATA body
with its context is on its way there. -/
inductive Ingress where
  | handled (result : TNCControlResult)
  | data (frameNoFcs : Bytes) (context : TNCTransmitContext)

namespace TNCTransmitBackend

def init (session : TNCSessionState) : TNCTransmitBackend where
  toRXOnlyBackend := .init
  session := session
  ingress := .zero

/-- The control plane's `reject_client_message`, as the overrides call it. -/
def control (b : TNCTransmitBackend) (message : KISSMessage) :
    TNCTransmitBackend × Except PyError Ingress :=
  let (control, result) := b.toTNCControlBackend.rejectClientMessage message
  ({ b with toTNCControlBackend := control }, .ok (.handled result))

def rejectClientMessage (b : TNCTransmitBackend) (message : KISSMessage)
    (requestTimeoutSeconds : ℚ) : TNCTransmitBackend × Except PyError Ingress :=
  if message.command ≠ DATA ∨ message.port ≠ 0 then b.control message
  else
    let b := { b with ingress := { b.ingress with
      dataMessagesReceived := b.ingress.dataMessagesReceived + 1 } }
    match b.session.captureTxContext requestTimeoutSeconds with
    | .error e => (b, .error e)
    | .ok context => (b, .ok (.data message.frame context))

/-- The rest of it, after the queue: an exception of the queue's family becomes a
result, any other one is raised. -/
def afterEnqueue (b : TNCTransmitBackend) :
    Except PyError KISSDataRequestReceipt →
      TNCTransmitBackend × Except PyError KISSDataIngressResult
  | .ok receipt =>
      ({ b with ingress := { b.ingress with dataAdmitted := b.ingress.dataAdmitted + 1 } },
        .ok ⟨true, some receipt,
          "port-0 KISS DATA admitted with immutable P6 parameter snapshot"⟩)
  | .error e =>
      match e.cls with
      | .kissDataFrameRejected =>
          ({ b with ingress := { b.ingress with
              dataInvalidRejections := b.ingress.dataInvalidRejections + 1 } },
            .ok ⟨false, none, e.message⟩)
      | .kissDataQueueFull =>
          ({ b with ingress := { b.ingress with
              dataQueueFullDrops := b.ingress.dataQueueFullDrops + 1 } },
            .ok ⟨false, none, e.message⟩)
      | .kissDataTimeError =>
          ({ b with ingress := { b.ingress with
              dataTimeRejections := b.ingress.dataTimeRejections + 1 } },
            .ok ⟨false, none, e.message⟩)
      | .kissDataAdmissionError =>
          ({ b with ingress := { b.ingress with
              dataOtherRejections := b.ingress.dataOtherRejections + 1 } },
            .ok ⟨false, none, e.message⟩)
      | _ => (b, .error e)

end TNCTransmitBackend

/-- `ModemTNCBackend`, less its monitor. -/
structure ModemTNCBackend extends TNCTransmitBackend where
  transmitEnabled : Bool

namespace ModemTNCBackend

def init (session : TNCSessionState) (transmitEnabled : Bool) : ModemTNCBackend where
  toTNCTransmitBackend := .init session
  transmitEnabled := transmitEnabled

def rejectClientMessage (b : ModemTNCBackend) (message : KISSMessage)
    (requestTimeoutSeconds : ℚ) : ModemTNCBackend × Except PyError Ingress :=
  let (transmit, next) :=
    if message.port = 0 ∧ message.command = DATA then
      if b.transmitEnabled = false then b.toTNCTransmitBackend.control message
      else b.toTNCTransmitBackend.rejectClientMessage message requestTimeoutSeconds
    else b.toTNCTransmitBackend.rejectClientMessage message requestTimeoutSeconds
  ({ b with toTNCTransmitBackend := transmit }, next)

def afterEnqueue (b : ModemTNCBackend) (result : Except PyError KISSDataRequestReceipt) :
    ModemTNCBackend × Except PyError KISSDataIngressResult :=
  let (transmit, result) := b.toTNCTransmitBackend.afterEnqueue result
  ({ b with toTNCTransmitBackend := transmit }, result)

end ModemTNCBackend

/-! ### What reaches the queue -/

theorem TNCSessionState.captureTxContext_ok (session : TNCSessionState) {maxWaitSeconds : ℚ}
    (h : 0 < maxWaitSeconds) :
    ∃ context, session.captureTxContext maxWaitSeconds = .ok context ∧
      context.parameters = session.parameters ∧
      context.csmaParameters.maxWaitSeconds = maxWaitSeconds := by
  unfold captureTxContext
  rw [dif_pos h]
  exact ⟨_, rfl, rfl, rfl⟩

theorem TNCTransmitBackend.control_handled (b : TNCTransmitBackend) (message : KISSMessage) :
    ∃ result, (b.control message).2 = .ok (.handled result) := ⟨_, rfl⟩

/-- Up to the queue no message raises. -/
theorem ModemTNCBackend.rejectClientMessage_ok (b : ModemTNCBackend) (message : KISSMessage)
    {timeout : ℚ} (h : 0 < timeout) :
    ∃ next, (b.rejectClientMessage message timeout).2 = .ok next := by
  have hsuper : ∃ next,
      (b.toTNCTransmitBackend.rejectClientMessage message timeout).2 = .ok next := by
    unfold TNCTransmitBackend.rejectClientMessage
    split
    · exact ⟨_, rfl⟩
    · obtain ⟨context, hcontext, -⟩ := b.session.captureTxContext_ok h
      dsimp only
      rw [hcontext]
      exact ⟨_, rfl⟩
  unfold ModemTNCBackend.rejectClientMessage
  by_cases hdata : message.port = 0 ∧ message.command = DATA
  · rw [if_pos hdata]
    by_cases hdisabled : b.transmitEnabled = false
    · rw [if_pos hdisabled]
      exact ⟨_, rfl⟩
    · rw [if_neg hdisabled]
      exact hsuper
  · rw [if_neg hdata]
    exact hsuper

/-- Every exception of the queue's `enqueue` becomes a result. -/
theorem ModemTNCBackend.afterEnqueue_ok (b : ModemTNCBackend) {q q' : KISSDataAdmissionQueue}
    {frameNoFcs : Bytes} {context : TNCTransmitContext} {now : ℚ}
    {result : Except PyError KISSDataRequestReceipt}
    (h : q.Enqueues frameNoFcs context now q' result) :
    ∃ ingress, (b.afterEnqueue result).2 = .ok ingress := by
  cases h with
  | late _ hcls | invalid _ hcls | full _ hcls =>
      simp only [afterEnqueue, TNCTransmitBackend.afterEnqueue, hcls]
      exact ⟨_, rfl⟩
  | admits => exact ⟨_, rfl⟩

/-- Only DATA on port 0 of an enabled backend goes on to the queue. -/
theorem ModemTNCBackend.data_cases {b b' : ModemTNCBackend} {message : KISSMessage}
    {timeout : ℚ} {frameNoFcs : Bytes} {context : TNCTransmitContext}
    (h : b.rejectClientMessage message timeout = (b', .ok (.data frameNoFcs context))) :
    b.transmitEnabled = true ∧ message.port = 0 ∧ message.command = DATA ∧
      frameNoFcs = message.frame ∧ b.session.captureTxContext timeout = .ok context := by
  unfold rejectClientMessage at h
  by_cases hdata : message.port = 0 ∧ message.command = DATA
  · rw [if_pos hdata] at h
    cases henabled : b.transmitEnabled with
    | false =>
        rw [henabled, if_pos rfl, Prod.mk.injEq] at h
        obtain ⟨-, hnext⟩ := h
        obtain ⟨result, hhandled⟩ := b.toTNCTransmitBackend.control_handled message
        rw [hhandled] at hnext
        cases hnext
    | true =>
        rw [henabled, if_neg (by simp), TNCTransmitBackend.rejectClientMessage,
          if_neg (by simp [hdata])] at h
        dsimp only at h
        cases hcapture : b.session.captureTxContext timeout with
        | error e =>
            rw [hcapture] at h
            cases h
        | ok context' =>
            rw [hcapture] at h
            cases h
            exact ⟨rfl, hdata.1, hdata.2, rfl, rfl⟩
  · have hother : message.command ≠ DATA ∨ message.port ≠ 0 := by
      by_cases hcommand : message.command = DATA
      · exact .inr fun hport => hdata ⟨hport, hcommand⟩
      · exact .inl hcommand
    rw [if_neg hdata, TNCTransmitBackend.rejectClientMessage, if_pos hother,
      Prod.mk.injEq] at h
    obtain ⟨-, hnext⟩ := h
    obtain ⟨result, hhandled⟩ := b.toTNCTransmitBackend.control_handled message
    rw [hhandled] at hnext
    cases hnext

end YwdTnc
