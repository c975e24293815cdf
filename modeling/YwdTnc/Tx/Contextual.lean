import YwdTnc.Kiss.Control
import YwdTnc.Tx.Broker
import YwdTnc.Tx.HalfDuplex

/-!
# One captured context for one transmission

The router owns a broker for every TXDELAY value in use and sends a frame
through the one its context names. The contextual submitter arms a context
around one half-duplex cycle. The dictionary of brokers is a dependent function:
the broker under a TXDELAY value has that value's flags.
-/

namespace YwdTnc

open Interaction Prog

structure ContextualTXDelayRouter where
  transmitEnabled : Bool
  /-- What every broker is constructed with. -/
  config : TXBrokerConfig
  closed : Bool
  brokers : (units : ℕ) → Option (TXDelayBroker units)
  submissions : ℕ
  failures : ℕ

namespace ContextualTXDelayRouter

variable {R : Type}

def init (transmitEnabled : Bool) (config : TXBrokerConfig) : ContextualTXDelayRouter where
  transmitEnabled := transmitEnabled
  config := config
  closed := false
  brokers _ := none
  submissions := 0
  failures := 0

def update (f : ContextualTXDelayRouter → ContextualTXDelayRouter) :
    PortProg R ContextualTXDelayRouter Unit :=
  modify f

def setBroker (units : ℕ) (r : ContextualTXDelayRouter) (broker : TXDelayBroker units) :
    ContextualTXDelayRouter :=
  { r with brokers := Function.update r.brokers units (some broker) }

/-- A broker that was just constructed and started. -/
def newBroker (units : ℕ) (r : ContextualTXDelayRouter) : TXDelayBroker units :=
  .started _ r.transmitEnabled r.config

/-- The broker of `units`, started on its first use. -/
def openBroker (units : ℕ) : PortProg R ContextualTXDelayRouter Unit := do
  let r ← get
  match r.brokers units with
  | some _ => return ()
  | none =>
      let _ ← ofExcept (resolveTxdelay units)
      update fun r => r.setBroker units (r.newBroker units)

def submitFrame (frameWithFcs : Bytes) (context : TNCTransmitContext)
    (timeout : Option ℚ) : PortProg R ContextualTXDelayRouter TXReceipt := do
  let r ← get
  if r.closed = true then
    raise ⟨.runtimeError, "contextual TXDELAY router is closed"⟩
  else
    let units := context.txdelayProfile.units
    openBroker units
    match ← attempt (zoom (fun r => (r.brokers units).getD (r.newBroker units))
        (setBroker units) (TXBroker.submitFrame frameWithFcs timeout)) with
    | .error e =>
        update fun r => { r with failures := r.failures + 1 }
        raise e
    | .ok receipt =>
        update fun r => { r with submissions := r.submissions + 1 }
        return receipt

/-- `close`, which stops every broker. -/
def close (r : ContextualTXDelayRouter) : ContextualTXDelayRouter :=
  if r.closed = true then r
  else { r with closed := true, brokers := fun units => (r.brokers units).map TXBroker.stop }

end ContextualTXDelayRouter

/-- `_ArmedContextAdapter` with its router. -/
structure ArmedContextAdapter where
  router : ContextualTXDelayRouter
  context : Option TNCTransmitContext

namespace ArmedContextAdapter

variable {R : Type}

def init (router : ContextualTXDelayRouter) : ArmedContextAdapter := ⟨router, none⟩

def arm (context : TNCTransmitContext) : PortProg R ArmedContextAdapter Unit := do
  let a ← get
  match a.context with
  | some _ => raise ⟨.runtimeError, "context adapter is already armed"⟩
  | none => modify fun a => { a with context := some context }

def disarm (a : ArmedContextAdapter) : ArmedContextAdapter := { a with context := none }

def submitFrame (frameWithFcs : Bytes) (timeout : ℚ) :
    PortProg R ArmedContextAdapter TXReceipt := do
  let a ← get
  match a.context with
  | none =>
      raise ⟨.runtimeError, "P4e downstream called without an armed P7 context"⟩
  | some context =>
      zoom router (fun a router => { a with router })
        (ContextualTXDelayRouter.submitFrame frameWithFcs context (some timeout))

end ArmedContextAdapter

/-- The half-duplex coordinator over the adapter. -/
abbrev ContextualHalfDuplexSubmitter := HalfDuplexSnapshot × ArmedContextAdapter

namespace ContextualHalfDuplexSubmitter

variable {R : Type}

def init (router : ContextualTXDelayRouter) : ContextualHalfDuplexSubmitter :=
  (.init, .init router)

def submitFrame (parameters : HalfDuplexParameters) (frameWithFcs : Bytes)
    (context : TNCTransmitContext) (timeout : Option ℚ) :
    PortProg R ContextualHalfDuplexSubmitter TXReceipt := do
  PersistentHalfDuplexSubmitter.inner (ArmedContextAdapter.arm context)
  ensuring (PersistentHalfDuplexSubmitter.submitFrame parameters
      ArmedContextAdapter.submitFrame frameWithFcs timeout)
    fun s => (s.1, s.2.disarm)

end ContextualHalfDuplexSubmitter

/-! ### The broker that a context selects -/

/-- The opening flags of a context. -/
def TNCTransmitContext.preFlags (context : TNCTransmitContext) : ℕ :=
  (YwdTnc.txdelayProfile context.parameters.txdelay).preFlags

theorem TNCTransmitContext.units_preFlags (context : TNCTransmitContext) :
    (YwdTnc.txdelayProfile context.txdelayProfile.units).preFlags = context.preFlags := by
  rw [context.profile_eq]
  rfl

namespace ContextualTXDelayRouter

variable {R : Type}

theorem openBroker_callsOnly (units : ℕ) :
    CallsOnly (fun _ => False) (openBroker (R := R) units) := by
  refine callsOnly_get.bind fun r => ?_
  split
  · exact callsOnly_ret _
  · exact (callsOnly_ofExcept _).bind fun _ => callsOnly_modify _

theorem submitFrame_delivers {frame : Bytes} {context : TNCTransmitContext}
    {timeout : Option ℚ} {s s' : ContextualTXDelayRouter} {o : Outcome PyError TXReceipt}
    {t : List (PortCall R)} (h : Runs (submitFrame frame context timeout) s o s' t) :
    TXBroker.Delivers context.preFlags frame o t := by
  have hcall := h.get_bind
  split at hcall
  · obtain ⟨rfl, -, rfl⟩ := runs_raise.1 hcall
    exact TXBroker.delivers_refused
  dsimp only at hcall
  have hopen := openBroker_callsOnly (R := R) context.txdelayProfile.units
  rcases hcall.bind_cases with ⟨_, s₂, t₃, t₄, hrun, hsend, rfl⟩ | ⟨e, hrun, rfl⟩ |
    ⟨hrun, rfl⟩
  · rw [List.eq_nil_iff_forall_not_mem.2 (hopen _ _ _ _ hrun), List.nil_append]
    rcases hsend.attempt_bind_cases with
      ⟨receipt, s₃, t₅, t₆, hbroker, hend, rfl⟩ | ⟨e, s₃, t₅, t₆, hbroker, hend, rfl⟩ |
      ⟨hbroker, rfl⟩
    · obtain ⟨b, hbroker, -⟩ := hbroker.zoom_cases
      obtain ⟨rfl, -, rfl⟩ := runs_pure.1 hend.modify_bind
      rw [List.append_nil, ← context.units_preFlags]
      exact TXBroker.submitFrame_delivers hbroker
    · obtain ⟨b, hbroker, -⟩ := hbroker.zoom_cases
      obtain ⟨rfl, -, rfl⟩ := runs_raise.1 hend.modify_bind
      rw [List.append_nil, ← context.units_preFlags]
      exact TXBroker.submitFrame_delivers hbroker
    · obtain ⟨b, hbroker, -⟩ := hbroker.zoom_cases
      rw [← context.units_preFlags]
      exact TXBroker.submitFrame_delivers hbroker
  · exact .unsent (fun c hc => (hopen _ _ _ _ hrun c hc).elim) (by simp)
  · exact .unsent (fun c hc => (hopen _ _ _ _ hrun c hc).elim) (by simp)

end ContextualTXDelayRouter

namespace ArmedContextAdapter

variable {R : Type}

theorem submitFrame_delivers {frame : Bytes} {context : TNCTransmitContext} {timeout : ℚ}
    {s s' : ArmedContextAdapter} {o : Outcome PyError TXReceipt} {t : List (PortCall R)}
    (harmed : s.context = some context)
    (h : Runs (submitFrame frame timeout) s o s' t) :
    TXBroker.Delivers context.preFlags frame o t := by
  have hcall := h.get_bind
  rw [harmed] at hcall
  obtain ⟨r, hrouter, -⟩ := hcall.zoom_cases
  exact ContextualTXDelayRouter.submitFrame_delivers hrouter

/-- `arm` leaves the context behind, or raises. It asks the modem for nothing. -/
theorem arm_cases {context : TNCTransmitContext} {s s' : ArmedContextAdapter}
    {o : Outcome PyError Unit} {t : List (PortCall R)} (h : Runs (arm context) s o s' t) :
    t = [] ∧ ((∃ e, o = .raised e) ∨ (o = .returned () ∧ s'.context = some context)) := by
  have harm := h.get_bind
  split at harm
  · obtain ⟨rfl, -, rfl⟩ := runs_raise.1 harm
    exact ⟨rfl, .inl ⟨_, rfl⟩⟩
  · obtain ⟨rfl, rfl, rfl⟩ := runs_modify.1 harm
    exact ⟨rfl, .inr ⟨rfl, rfl⟩⟩

end ArmedContextAdapter

end YwdTnc
