import YwdTnc.Modem.Healthy
import YwdTnc.Tx.Contextual

/-!
# Transmission on a healthy modem

On a healthy modem a frame whose selectors fit into one burst is transmitted,
and the receiver is active again afterwards. Each component gets one triple; a
component that is `ready` before the frame is so after it.
-/

namespace YwdTnc

open Interaction Prog

namespace PersistentHalfDuplexSubmitter

variable {R S τ : Type} {drainSeconds : ℚ} {I : τ → Prop}

/-- The coordinator can start a cycle, or is in one that went well so far. -/
def Unlatched (I : τ → Prop) (s : HalfDuplexSnapshot × τ) : Prop :=
  s.1.failedLatched = false ∧ I s.2

theorem healthy_active {m : ModemState} {status : RX3Status} (hrx : m.rxActive = true)
    (h : m.rxHealthy status = true) : status.Active := by
  simp only [ModemState.rxHealthy, hrx, if_true, Bool.and_eq_true, decide_eq_true_eq] at h
  obtain ⟨hdropped, hflags⟩ := h
  refine ⟨hdropped, ?_, ?_⟩
  · rw [hflags]
    rfl
  · rw [hflags]
    rfl

theorem healthy_inactive {m : ModemState} {status : RX3Status} (hrx : m.rxActive = false)
    (h : m.rxHealthy status = true) : status.Inactive := by
  simp only [ModemState.rxHealthy, hrx, Bool.false_eq_true, if_false, Bool.and_eq_true,
    decide_eq_true_eq] at h
  exact ⟨h.1, h.2.1, h.2.2⟩

theorem requireInactiveRx_of_inactive {status : RX3Status} (h : status.Inactive)
    (context : String) : requireInactiveRx status context = .ok () := by
  obtain ⟨hdropped, hrx, htx⟩ := h
  rw [requireInactiveRx, if_neg (not_not.mpr hdropped), if_neg (not_not.mpr hrx),
    if_neg (not_not.mpr htx)]

/-- A reading of the RX status tells how the receiver is. -/
theorem rxStatus_healthy {σ : Type} {timeout : ℚ} {J : σ → ModemState → Prop} :
    Triple (healthyModem R drainSeconds) J (Port.rxStatus timeout)
      fun status s m => m.rxHealthy status = true ∧ J s m := by
  refine triple_port id fun s m status m' hpre hanswer => ?_
  simp only [ModemState.answered] at hanswer
  split at hanswer
  case isTrue hstatus =>
    cases hanswer
    exact ⟨hstatus, hpre⟩
  case isFalse => cases hanswer

theorem preTransmit_healthy (timeout : ℚ) :
    Triple (healthyModem R drainSeconds) (fun s m => Unlatched I s ∧ m.Listening)
      (preTransmit timeout)
      fun _ s m => Unlatched I s ∧ m.rxActive = false ∧ m.burst = .idle := by
  refine rxStatus_healthy.bind fun before => ?_
  refine Triple.bind (M := fun _ s m => Unlatched I s ∧ m.Listening) ?_ fun _ => ?_
  · refine triple_ofExcept fun s m h => ⟨(), ?_, h.2⟩
    exact requireActiveRx_of_active (healthy_active h.2.2.rxActive h.1) _
  refine Triple.bind (M := fun _ s m =>
    Unlatched I s ∧ m.rxActive = false ∧ m.burst = .idle) ?_ fun _ => ?_
  · refine triple_port id fun s m a m' h hanswer => ?_
    cases hanswer
    exact ⟨h.1, rfl, h.2.idle⟩
  refine Triple.modify_bind (fun s m h => h) ?_
  refine rxStatus_healthy.bind fun after => ?_
  refine triple_ofExcept fun s m h => ⟨(), ?_, h.2⟩
  exact requireInactiveRx_of_inactive (healthy_inactive h.2.2.1 h.1) _

/-- The wait is in time as long as the burst drains in time. -/
def Draining (I : τ → Prop) (drainSeconds deadline : ℚ) (s : HalfDuplexSnapshot × τ)
    (m : ModemState) : Prop :=
  Unlatched I s ∧ m.rxActive = false ∧
    ∃ since sent, m.burst = .draining since sent ∧ since + drainSeconds ≤ deadline

theorem pollTxIdle_healthy (parameters : HalfDuplexParameters) (timeout deadline : ℚ) :
    Triple (healthyModem R drainSeconds) (Draining I drainSeconds deadline)
      (pollTxIdle parameters timeout deadline)
      (afterRound (Draining I drainSeconds deadline) fun _ s m =>
        Unlatched I s ∧ m.rxActive = false ∧ m.burst = .idle) := by
  refine Triple.bind (M := fun status s m => Unlatched I s ∧ m.rxActive = false ∧
    ∃ since, m.burst = .draining since (status.remainingSelectors = 0) ∧
      since + drainSeconds ≤ deadline) ?_ fun status => ?_
  · refine triple_port id fun s m status m' h hanswer => ?_
    obtain ⟨hs, hrx, since, sent, hburst, hdeadline⟩ := h
    simp only [ModemState.answered, ModemState.readStatus, hburst, Option.some.injEq]
      at hanswer
    rw [← hanswer]
    exact ⟨hs, hrx, since, rfl, hdeadline⟩
  refine Triple.bind (M := fun diag s m => Unlatched I s ∧ m.rxActive = false ∧
    if status.remainingSelectors = 0 ∧ diag.txActive = 0 then m.burst = .idle
    else ∃ since, m.burst = .draining since false ∧ since + drainSeconds ≤ deadline)
    ?_ fun diag => ?_
  · refine triple_port id fun s m diag m' h hanswer => ?_
    obtain ⟨hs, hrx, since, hburst, hdeadline⟩ := h
    simp only [ModemState.answered, ModemState.readDiagnostics, hburst, Option.some.injEq,
      decide_eq_true_eq] at hanswer
    rw [← hanswer]
    refine ⟨hs, hrx, ?_⟩
    split
    case isTrue hidle => rfl
    case isFalse hbusy => exact ⟨since, rfl, hdeadline⟩
  refine Triple.modify_bind (fun s m h => h) ?_
  split
  case isTrue hidle =>
    exact triple_pure fun s m h => h
  case isFalse hbusy =>
    refine Triple.bind (M := fun now s m =>
      now < deadline ∧ Draining I drainSeconds deadline s m) ?_ fun now => ?_
    · refine triple_port id fun s m now m' h hanswer => ?_
      obtain ⟨hs, hrx, since, hburst, hdeadline⟩ := h
      simp only [ModemState.answered, ModemState.readClock, hburst] at hanswer
      split at hanswer
      case isFalse => cases hanswer
      case isTrue =>
        split at hanswer
        case isFalse => cases hanswer
        case isTrue htime =>
          cases hanswer
          exact ⟨lt_of_lt_of_le htime hdeadline, hs, hrx, since, false, rfl, hdeadline⟩
    -- the clock is before the deadline, so neither exit by time-out is taken
    by_cases hlate : deadline ≤ now
    · intro s o s' t w w' h
      exact absurd h.1 (not_lt.mpr hlate)
    · rw [if_neg hlate]
      have hrest : 0 < deadline - now := sub_pos.mpr (not_le.mp hlate)
      have hdelay : ¬ min parameters.txIdlePollSeconds (max 0 (deadline - now)) ≤ 0 := by
        rw [not_le, max_eq_right hrest.le]
        exact lt_min parameters.txIdlePoll_pos hrest
      dsimp only
      rw [if_neg hdelay]
      refine Triple.bind (M := fun _ => Draining I drainSeconds deadline) ?_ fun _ => ?_
      · refine triple_port id fun s m a m' h hanswer => ?_
        cases hanswer
        exact h.2
      · exact triple_pure fun s m h => h

theorem waitForTxIdle_healthy {parameters : HalfDuplexParameters}
    (hdrain : drainSeconds ≤ parameters.txIdleTimeoutSeconds) (timeout : ℚ) :
    Triple (healthyModem R drainSeconds)
      (fun s m => Unlatched I s ∧ m.rxActive = false ∧ m.burst = .accepted)
      (waitForTxIdle parameters timeout)
      fun _ s m => Unlatched I s ∧ m.rxActive = false ∧ m.burst = .idle := by
  refine Triple.bind (M := fun started =>
    Draining I drainSeconds (started + parameters.txIdleTimeoutSeconds)) ?_ fun started => ?_
  · refine triple_port id fun s m started m' h hanswer => ?_
    obtain ⟨hs, hrx, hburst⟩ := h
    simp only [ModemState.answered, ModemState.readClock, hburst] at hanswer
    split at hanswer
    case isFalse => cases hanswer
    case isTrue =>
      cases hanswer
      exact ⟨hs, hrx, started, false, rfl, add_le_add_right hdrain started⟩
  · exact triple_iterate (pollTxIdle_healthy parameters timeout _)

theorem restore_healthy {parameters : HalfDuplexParameters}
    (hdrain : drainSeconds ≤ parameters.txIdleTimeoutSeconds) (timeout : ℚ) :
    Triple (healthyModem R drainSeconds)
      (fun s m => Unlatched I s ∧ m.rxActive = false ∧ m.burst = .accepted)
      (restore parameters timeout) fun _ s m => Unlatched I s ∧ m.Listening := by
  refine (waitForTxIdle_healthy hdrain timeout).bind fun _ => ?_
  refine Triple.bind (M := fun _ s m => Unlatched I s ∧ m.Listening) ?_ fun _ => ?_
  · refine triple_port id fun s m a m' h hanswer => ?_
    cases hanswer
    exact ⟨h.1, rfl, h.2.2⟩
  refine Triple.modify_bind (fun s m h => h) ?_
  refine rxStatus_healthy.bind fun status => ?_
  refine triple_ofExcept fun s m h => ⟨(), ?_, h.2⟩
  exact requireActiveRx_of_active (healthy_active h.2.2.rxActive h.1) _

theorem complete_healthy {parameters : HalfDuplexParameters}
    (hdrain : drainSeconds ≤ parameters.txIdleTimeoutSeconds) (timeout : ℚ) (result : S) :
    Triple (healthyModem R drainSeconds)
      (fun s m => Unlatched I s ∧ m.rxActive = false ∧ m.burst = .accepted)
      (complete parameters timeout result) fun _ s m => Unlatched I s ∧ m.Listening := by
  refine Triple.modify_bind (fun s m h => h) ?_
  refine (restore_healthy hdrain timeout).attempt_bind fun _ => ?_
  refine Triple.modify_bind (fun s m h => h) ?_
  exact triple_pure fun s m h => h

/-- A submitter that takes the frame on a modem that is neither receiving nor
sending, and leaves an accepted burst behind. -/
def Sends (I : τ → Prop) (drainSeconds : ℚ) (p : PortProg R τ S) : Prop :=
  Triple (healthyModem R drainSeconds)
    (fun x m => I x ∧ m.rxActive = false ∧ m.burst = .idle) p
    fun _ x m => I x ∧ m.rxActive = false ∧ m.burst = .accepted

theorem cycle_healthy {parameters : HalfDuplexParameters}
    (hdrain : drainSeconds ≤ parameters.txIdleTimeoutSeconds) {timeout : ℚ}
    {submit : Bytes → ℚ → PortProg R τ S} {frameWithFcs : Bytes}
    (hsubmit : Sends I drainSeconds (submit frameWithFcs timeout)) :
    Triple (healthyModem R drainSeconds) (fun s m => Unlatched I s ∧ m.Listening)
      (cycle parameters submit frameWithFcs timeout)
      fun _ s m => Unlatched I s ∧ m.Listening := by
  refine (preTransmit_healthy timeout).attempt_bind fun _ => ?_
  refine Triple.attempt_bind (M := fun _ s m =>
    Unlatched I s ∧ m.rxActive = false ∧ m.burst = .accepted) ?_ fun result =>
      complete_healthy hdrain timeout result
  refine triple_zoom fun s m h => hsubmit.weaken ?_ ?_
  · rintro x m' ⟨rfl, rfl⟩
    exact ⟨h.1.2, h.2⟩
  · intro result x m' hx
    exact ⟨⟨h.1.1, hx.1⟩, hx.2⟩

theorem submitFrame_healthy {parameters : HalfDuplexParameters}
    (hdrain : drainSeconds ≤ parameters.txIdleTimeoutSeconds) {timeout : Option ℚ}
    (htimeout : 0 < timeout.getD parameters.transactionTimeoutSeconds)
    {submit : Bytes → ℚ → PortProg R τ S} {frameWithFcs : Bytes}
    (hsubmit : Sends I drainSeconds
      (submit frameWithFcs (timeout.getD parameters.transactionTimeoutSeconds))) :
    Triple (healthyModem R drainSeconds)
      (fun s m => Unlatched I s ∧ s.1.inCycle = false ∧ m.Listening)
      (submitFrame parameters submit frameWithFcs timeout)
      fun _ s m => Unlatched I s ∧ s.1.inCycle = false ∧ m.Listening := by
  refine Triple.bind (M := fun s₀ s m =>
    s₀ = s ∧ Unlatched I s ∧ s.1.inCycle = false ∧ m.Listening)
    (triple_get fun s m h => ⟨rfl, h⟩) fun s₀ => ?_
  by_cases hready : s₀.1.failedLatched = false ∧ s₀.1.inCycle = false
  · rw [if_neg (by simp [hready.1]), if_neg (by simp [hready.2])]
    dsimp only
    rw [if_neg (not_le.mpr htimeout)]
    refine Triple.weaken (?_ : Triple _ (fun s m => Unlatched I s ∧ m.Listening) _
      fun _ s m => Unlatched I s ∧ s.1.inCycle = false ∧ m.Listening)
      (fun s m h => ⟨h.2.1, h.2.2.2⟩) fun _ _ _ h => h
    refine Triple.modify_bind (fun s m h => h) ?_
    exact Triple.ensuring ((cycle_healthy hdrain hsubmit).weaken (fun s m h => h)
      fun _ s m h => ⟨h.1, rfl, h.2⟩)
  · intro s o s' t w w' h
    obtain ⟨rfl, ⟨hlatched, -⟩, hcycle, -⟩ := h
    exact absurd ⟨hlatched, hcycle⟩ hready

end PersistentHalfDuplexSubmitter

namespace TXBroker

variable {R : Type} {drainSeconds : ℚ} {preFlags : ℕ}

/-- A broker that takes frames. -/
structure Ready (b : TXBroker preFlags) : Prop where
  transmitEnabled : b.transmitEnabled = true
  accepting : b.accepting = true

theorem ready_started (config : TXBrokerConfig) : (started preFlags true config).Ready :=
  ⟨rfl, rfl⟩

theorem prepareFrame_wellFormed {frame packed : Bytes} {receipt : TXReceipt}
    (h : prepareFrame preFlags frame = .ok (receipt, packed)) :
    WellFormedBurst receipt.selectorCount packed := by
  unfold prepareFrame frameToSelectors hdlcBits at h
  split at h
  · cases h
  split at h
  · cases h
  case h_2 selectors hselectors =>
    split at h
    · cases h
    case isFalse hfits =>
      cases h
      refine ⟨?_, not_lt.mp hfits, packSelectors_length selectors⟩
      split at hselectors
      · cases hselectors
      case h_2 bits hbits =>
        cases hselectors
        split at hbits
        · cases hbits
        · split at hbits
          · cases hbits
          case isFalse hflags =>
            cases hbits
            simp only [nrziEncode_length, List.length_append, flags_length]
            omega

theorem transmit_healthy {receipt : TXReceipt} {packed : Bytes}
    (hburst : WellFormedBurst receipt.selectorCount packed) (timeout : ℚ) :
    Triple (healthyModem R drainSeconds)
      (fun (b : TXBroker preFlags) m => b.Ready ∧ m.rxActive = false ∧ m.burst = .idle)
      (transmit receipt packed timeout)
      fun _ b m => b.Ready ∧ m.rxActive = false ∧ m.burst = .accepted := by
  refine Triple.bind (M := fun status b m => status.remainingSelectors = 0 ∧
    b.Ready ∧ m.rxActive = false) ?_ fun status => ?_
  · refine triple_port id fun b m status m' h hanswer => ?_
    obtain ⟨hready, hrx, hidle⟩ := h
    simp only [ModemState.answered, ModemState.readStatus, hidle] at hanswer
    split at hanswer
    case isTrue hclear =>
      cases hanswer
      exact ⟨hclear, hready, hrx⟩
    case isFalse => cases hanswer
  by_cases hclear : status.remainingSelectors = 0
  · rw [if_neg (not_not.mpr hclear)]
    refine Triple.bind (M := fun _ b m => b.Ready ∧ m.rxActive = false ∧
      m.burst = .accepted) ?_ fun _ => triple_modify fun b m h => ⟨⟨h.1.1, h.1.2⟩, h.2⟩
    exact triple_burst hburst fun b m h => ⟨h.2.1, h.2.2, rfl⟩
  · intro s o s' t w w' h
    exact absurd h.1 hclear

/-- A frame that can be prepared is sent. -/
theorem submitFrame_healthy {frame packed : Bytes} {receipt : TXReceipt} {timeout : ℚ}
    (hprepare : prepareFrame preFlags frame = .ok (receipt, packed))
    (htimeout : 0 < timeout) :
    Triple (healthyModem R drainSeconds)
      (fun (b : TXBroker preFlags) m => b.Ready ∧ m.rxActive = false ∧ m.burst = .idle)
      (submitFrame frame (some timeout))
      fun _ b m => b.Ready ∧ m.rxActive = false ∧ m.burst = .accepted := by
  have hburst := prepareFrame_wellFormed hprepare
  refine Triple.bind (M := fun b₀ b m => b₀ = b ∧ b.Ready ∧ m.rxActive = false ∧
    m.burst = .idle) (triple_get fun b m h => ⟨rfl, h⟩) fun b₀ => ?_
  by_cases hready : b₀.Ready
  · rw [if_neg (by simp [hready.transmitEnabled])]
    dsimp only [Option.getD_some]
    rw [if_neg (not_le.mpr htimeout), if_neg (by simp [hready.accepting]), hprepare]
    refine Triple.weaken (?_ : Triple _ (fun b m => b.Ready ∧ m.rxActive = false ∧
      m.burst = .idle) _ _) (fun b m h => h.2) fun _ _ _ h => h
    refine Triple.modify_bind (fun b m h => ⟨⟨h.1.1, h.1.2⟩, h.2⟩) ?_
    refine Triple.bind (M := fun error b m => error = .ok () ∧ b.Ready ∧
      m.rxActive = false ∧ m.burst = .accepted) ?_ fun error => ?_
    · refine Triple.bind (M := fun b₁ b m => b₁ = b ∧ b.Ready ∧ m.rxActive = false ∧
        m.burst = .idle) (triple_get fun b m h => ⟨rfl, h⟩) fun b₁ => ?_
      by_cases haccepting : b₁.accepting = true
      · rw [if_neg (by simp [haccepting])]
        refine Triple.weaken (?_ : Triple _ (fun b m => b.Ready ∧ m.rxActive = false ∧
          m.burst = .idle) _ _) (fun b m h => h.2) fun _ _ _ h => h
        refine Triple.modify_bind (fun b m h => ⟨⟨h.1.1, h.1.2⟩, h.2⟩) ?_
        refine (transmit_healthy hburst timeout).attempt_bind fun _ => ?_
        refine Triple.modify_bind (fun b m h => ⟨⟨h.1.1, h.1.2⟩, h.2⟩) ?_
        exact triple_pure fun b m h => ⟨rfl, h⟩
      · intro s o s' t w w' h
        obtain ⟨rfl, hready', -⟩ := h
        exact absurd hready'.accepting haccepting
    · refine triple_ofExcept fun b m h => ⟨receipt, ?_, h.2⟩
      rw [h.1]
      rfl
  · intro s o s' t w w' h
    obtain ⟨rfl, hready', -⟩ := h
    exact absurd hready' hready

end TXBroker

namespace ContextualTXDelayRouter

variable {R : Type} {drainSeconds : ℚ}

/-- A router that is open and enabled, as are its brokers. -/
structure Ready (r : ContextualTXDelayRouter) : Prop where
  transmitEnabled : r.transmitEnabled = true
  closed : r.closed = false
  brokers : ∀ units broker, r.brokers units = some broker → broker.Ready

theorem ready_init (config : TXBrokerConfig) : (init true config).Ready :=
  ⟨rfl, rfl, fun _ _ h => nomatch h⟩

theorem Ready.setBroker {r : ContextualTXDelayRouter} (h : r.Ready) {units : ℕ}
    {broker : TXDelayBroker units} (hbroker : broker.Ready) :
    (r.setBroker units broker).Ready where
  transmitEnabled := h.transmitEnabled
  closed := h.closed
  brokers := by
    intro units' broker' hsome
    by_cases hunits : units' = units
    · subst hunits
      simp only [ContextualTXDelayRouter.setBroker, Function.update_self, Option.some.injEq]
        at hsome
      rw [← hsome]
      exact hbroker
    · simp only [ContextualTXDelayRouter.setBroker, Function.update_of_ne hunits] at hsome
      exact h.brokers units' broker' hsome

theorem openBroker_healthy {units : ℕ} (hunits : units ≤ KISS_TXDELAY_MAX) :
    Triple (healthyModem R drainSeconds)
      (fun r m => r.Ready ∧ m.rxActive = false ∧ m.burst = .idle) (openBroker units)
      fun _ r m => r.Ready ∧ m.rxActive = false ∧ m.burst = .idle := by
  refine Triple.bind (M := fun _ r m => r.Ready ∧ m.rxActive = false ∧ m.burst = .idle)
    (triple_get fun r m h => h) fun r₀ => ?_
  split
  · exact triple_pure fun r m h => h
  · refine Triple.bind (M := fun _ r m => r.Ready ∧ m.rxActive = false ∧
      m.burst = .idle) ?_ fun _ => ?_
    · exact triple_ofExcept fun r m h => ⟨_, resolveTxdelay_ok hunits, h⟩
    · refine triple_modify fun r m h => ⟨h.1.setBroker ?_, h.2⟩
      rw [newBroker, h.1.transmitEnabled]
      exact TXBroker.ready_started _

theorem submitFrame_healthy {frame packed : Bytes} {receipt : TXReceipt}
    {context : TNCTransmitContext} {timeout : ℚ}
    (hprepare : TXBroker.prepareFrame context.preFlags frame = .ok (receipt, packed))
    (htimeout : 0 < timeout) :
    Triple (healthyModem R drainSeconds)
      (fun r m => r.Ready ∧ m.rxActive = false ∧ m.burst = .idle)
      (submitFrame frame context (some timeout))
      fun _ r m => r.Ready ∧ m.rxActive = false ∧ m.burst = .accepted := by
  refine Triple.bind (M := fun r₀ r m => r₀ = r ∧ r.Ready ∧ m.rxActive = false ∧
    m.burst = .idle) (triple_get fun r m h => ⟨rfl, h⟩) fun r₀ => ?_
  by_cases hready : r₀.Ready
  · rw [if_neg (by simp [hready.closed])]
    dsimp only
    have hunits : context.txdelayProfile.units ≤ KISS_TXDELAY_MAX := by
      rw [context.profile_eq]
      exact context.txdelay_le
    refine Triple.bind (M := fun _ r m => r.Ready ∧ m.rxActive = false ∧
      m.burst = .idle) ((openBroker_healthy hunits).weaken (fun r m h => h.2)
        fun _ _ _ h => h) fun _ => ?_
    refine Triple.attempt_bind (M := fun _ r m => r.Ready ∧ m.rxActive = false ∧
      m.burst = .accepted) ?_ fun receipt => ?_
    · refine triple_zoom fun r m h => ?_
      rw [← context.units_preFlags] at hprepare
      refine (TXBroker.submitFrame_healthy hprepare htimeout).weaken ?_ ?_
      · rintro b m' ⟨rfl, rfl⟩
        refine ⟨?_, h.2⟩
        cases hbroker : r.brokers context.txdelayProfile.units with
        | none =>
            rw [Option.getD_none, newBroker, h.1.transmitEnabled]
            exact TXBroker.ready_started _
        | some broker => exact h.1.brokers _ _ hbroker
      · intro receipt b m' hb
        exact ⟨h.1.setBroker hb.1, hb.2⟩
    · refine Triple.modify_bind (fun r m h => ⟨⟨h.1.1, h.1.2, h.1.3⟩, h.2⟩) ?_
      exact triple_pure fun r m h => h
  · intro s o s' t w w' h
    obtain ⟨rfl, hready', -⟩ := h
    exact absurd hready' hready

end ContextualTXDelayRouter

namespace ContextualHalfDuplexSubmitter

variable {R : Type} {drainSeconds : ℚ}

/-- The adapter while it is armed with a context. -/
def Armed (context : TNCTransmitContext) (a : ArmedContextAdapter) : Prop :=
  a.context = some context ∧ a.router.Ready

/-- The submitter between two frames. -/
structure Ready (s : ContextualHalfDuplexSubmitter) : Prop where
  failedLatched : s.1.failedLatched = false
  inCycle : s.1.inCycle = false
  disarmed : s.2.context = none
  router : s.2.router.Ready

theorem ready_init {router : ContextualTXDelayRouter} (h : router.Ready) :
    (init router).Ready :=
  ⟨rfl, rfl, rfl, h⟩

theorem adapter_sends {frame packed : Bytes} {receipt : TXReceipt}
    {context : TNCTransmitContext} {timeout : ℚ}
    (hprepare : TXBroker.prepareFrame context.preFlags frame = .ok (receipt, packed))
    (htimeout : 0 < timeout) :
    PersistentHalfDuplexSubmitter.Sends (R := R) (Armed context) drainSeconds
      (ArmedContextAdapter.submitFrame frame timeout) := by
  refine Triple.bind (M := fun a₀ a m => a₀ = a ∧ Armed context a ∧ m.rxActive = false ∧
    m.burst = .idle) (triple_get fun a m h => ⟨rfl, h⟩) fun a₀ => ?_
  by_cases harmed : a₀.context = some context
  · rw [harmed]
    dsimp only
    refine triple_zoom fun a m h => ?_
    refine (ContextualTXDelayRouter.submitFrame_healthy hprepare htimeout).weaken ?_ ?_
    · rintro r m' ⟨rfl, rfl⟩
      exact ⟨h.2.1.2, h.2.2⟩
    · intro receipt r m' hr
      exact ⟨⟨h.2.1.1, hr.1⟩, hr.2⟩
  · intro s o s' t w w' h
    obtain ⟨rfl, ⟨hcontext, -⟩, -⟩ := h
    exact absurd hcontext harmed

/-- A frame that can be prepared under its context is transmitted, and leaves
the submitter and the receiver ready for the next one. -/
theorem submitFrame_healthy {parameters : HalfDuplexParameters}
    (hdrain : drainSeconds ≤ parameters.txIdleTimeoutSeconds) {frame packed : Bytes}
    {receipt : TXReceipt} {context : TNCTransmitContext} {timeout : ℚ}
    (hprepare : TXBroker.prepareFrame context.preFlags frame = .ok (receipt, packed))
    (htimeout : 0 < timeout) :
    Triple (healthyModem R drainSeconds)
      (fun s m => Ready s ∧ m.Listening)
      (submitFrame parameters frame context (some timeout))
      fun _ s m => Ready s ∧ m.Listening := by
  refine Triple.bind (M := fun _ s m =>
    PersistentHalfDuplexSubmitter.Unlatched (Armed context) s ∧ s.1.inCycle = false ∧
      m.Listening) ?_ fun _ => ?_
  · refine triple_zoom fun s m h => ?_
    refine Triple.bind (M := fun a₀ a m' => a₀ = s.2 ∧ a = s.2 ∧ m' = m)
      (triple_get fun a m' h' => ⟨h'.1, h'⟩) fun a₀ => ?_
    cases hcontext : a₀.context with
    | none =>
        refine triple_modify fun a m' h' => ?_
        obtain ⟨-, rfl, rfl⟩ := h'
        exact ⟨⟨h.1.failedLatched, rfl, h.1.router⟩, h.1.inCycle, h.2⟩
    | some armed =>
        intro a o a' t w w' h'
        obtain ⟨rfl, -⟩ := h'
        rw [h.1.disarmed] at hcontext
        cases hcontext
  · refine Triple.ensuring ?_
    have hpositive : 0 < (some timeout).getD parameters.transactionTimeoutSeconds := htimeout
    have hsend := PersistentHalfDuplexSubmitter.submitFrame_healthy (R := R) hdrain hpositive
      (adapter_sends hprepare htimeout)
    exact hsend.weaken (fun s m h => h) fun receipt s m h =>
      ⟨⟨h.1.1, h.2.1, rfl, h.1.2.2⟩, h.2.2⟩

end ContextualHalfDuplexSubmitter

end YwdTnc
