import YwdTnc.Hat.Progress
import YwdTnc.Interaction.Achieving
import YwdTnc.Tx.HealthyCycle

/-!
# A listening modem serves every submission

None of the gates of the half-duplex lifecycle stands in the way of a modem that does what it
should: from every state where the modem receives and has dropped nothing, a submission of any
frame that fits into one burst can be served to its end, after which the modem receives again
(`submitFrame_served`).
-/

namespace YwdTnc

open Coding Interaction Prog SerialPort CAX25AFSKTX Server PersistentHalfDuplexSubmitter

instance : Nonempty PyError := ⟨.valueError ""⟩

namespace Hat

section Service

variable {R σ : Type} {timerClock : ℕ} {hat hat' : Hat}

/-- Configured, and waiting for the next command. -/
structure Waiting (timerClock : ℕ) (hat : Hat) : Prop where
  reached : Reached timerClock hat
  idle : hat.main = .idle
  ready : hat.ywdRFReady = true
  mode : hat.modemState = .idle ∨ hat.modemState = .ax25

/-- Receiving, and nothing has been dropped. -/
structure Listening (timerClock : ℕ) (hat : Hat) : Prop extends Waiting timerClock hat where
  active : hat.ax25AFSKRX.active = true
  whole : hat.ax25AFSKRX.droppedBytes = 0

/-- Behind a STOP, with nothing to send. -/
structure Halted (timerClock : ℕ) (hat : Hat) : Prop extends Waiting timerClock hat where
  free : hat.Free
  whole : hat.ax25AFSKRX.droppedBytes = 0

/-- Behind a burst. -/
structure Sending (timerClock : ℕ) (hat : Hat) : Prop extends Waiting timerClock hat where
  inactive : hat.ax25AFSKRX.active = false

/-- Behind a burst that is over. -/
structure Spent (timerClock : ℕ) (hat : Hat) : Prop extends Sending timerClock hat where
  resting : Resting hat

/-- A status that no sample interrupt comes between. -/
theorem exchange_rxStatus (hidle : hat.main = .idle) :
    ∃ events, Exchange timerClock hat [0xE0, 4, 0x59, 0x04] events
      (statusReply ⟨hat.rxFlags, hat.ax25AFSKRX.available, hat.ax25AFSKRX.samples,
        hat.ax25AFSKRX.droppedBytes⟩) hat := by
  have haccess : ∀ {call call' : StatusCall}, call.access hat.ax25AFSKRX = .inl call' →
      (internalSystem timerClock).step { hat with main := .reporting call } .access
        { hat with main := .reporting call' } :=
    fun h => ⟨⟨.statusAccess rfl h, trivial⟩, nofun⟩
  have hback : hat = { hat with main := .idle } := by
    rw [← hidle]
  refine ⟨_, .status hidle (command_rxStatus timerClock 0 hat)
    (.cons (haccess rfl) (.cons (haccess rfl) (.cons (haccess rfl) (.nil _)))) ?_⟩
  conv => arg 4; rw [hback]
  exact .reported rfl rfl

theorem rxStatus_served {J : σ → Hat → Prop} {timeout : ℚ}
    (h : ∀ s hat, J s hat → hat.main = .idle ∧ hat.ax25AFSKRX.droppedBytes = 0) :
    (server R timerClock).Achieves J (Port.rxStatus timeout)
      fun status s hat => J s hat ∧ status.droppedBytes = 0 ∧
        status.flags = hat.rxFlags.toNat := by
  refine achieves_call fun s hat hJ => ?_
  obtain ⟨hidle, hwhole⟩ := h s hat hJ
  obtain ⟨events, hexchange⟩ : ∃ events, Exchange timerClock hat _ events _ hat :=
    exchange_rxStatus hidle
  have hcount : hat.ax25AFSKRX.available < 512 := SpscRing.count_lt hat.ax25AFSKRX.buffer
  have hparse := @parseRx3Status_reply ⟨hat.rxFlags, hat.ax25AFSKRX.available,
    hat.ax25AFSKRX.samples, hat.ax25AFSKRX.droppedBytes⟩ (lt_trans hcount (by decide))
    (lt_of_eq_of_lt hwhole (by decide))
  exact ⟨_, events, hat, answers_exchange rfl hexchange hparse, hJ, hwhole, rfl⟩

theorem Listening.flags {status : RX3Status} (h : Listening timerClock hat)
    (hdropped : status.droppedBytes = 0) (hflags : status.flags = hat.rxFlags.toNat) :
    status.Active := by
  obtain ⟨hat₀, past, hinitial, hpast⟩ := h.reached
  obtain ⟨htx, hmode⟩ := (halfDuplex_run hinitial hpast).receiving h.active
  have hshown : hat.rxFlags = 0x0D := by
    rw [rxFlags, h.active, htx, h.ready, hmode]
    rfl
  rw [hshown] at hflags
  refine ⟨hdropped, ?_, ?_⟩
  · rw [hflags]
    rfl
  · rw [hflags]
    rfl

theorem Halted.flags {status : RX3Status} (h : Halted timerClock hat)
    (hdropped : status.droppedBytes = 0) (hflags : status.flags = hat.rxFlags.toNat) :
    status.Inactive := by
  have hshown : hat.rxFlags = 0x04 ∨ hat.rxFlags = 0x0C := by
    rw [rxFlags, h.free.capture, h.free.tx, h.ready]
    rcases h.mode with hmode | hmode
    · exact .inl (by rw [hmode]; rfl)
    · exact .inr (by rw [hmode]; rfl)
  refine ⟨hdropped, ?_, ?_⟩
  · rw [hflags]
    rcases hshown with hshown | hshown <;> (rw [hshown]; rfl)
  · rw [hflags]
    rcases hshown with hshown | hshown <;> (rw [hshown]; rfl)

/-- A STOP behind a capture. -/
theorem Listening.stopped_eq (h : Listening timerClock hat) :
    hat.stopped = { hat with
      sampleTimer := false
      ax25AFSKRX := hat.ax25AFSKRX.stop
      rawSlicer := false
      modemState := .idle } := by
  obtain ⟨hat₀, past, hinitial, hpast⟩ := h.reached
  obtain ⟨htx, hmode⟩ := (halfDuplex_run hinitial hpast).receiving h.active
  have hengine := (exclusive_run hinitial hpast).engine h.active
  unfold Hat.stopped
  rw [if_pos h.active, if_pos ⟨hmode, by rw [htx]; rfl, by rw [CAX25AFSKTX.busy, hengine]; rfl⟩]

/-- It leaves the modem free. -/
theorem Listening.stopped (h : Listening timerClock hat) :
    ∃ events, Exchange timerClock hat [0xE0, 4, 0x59, 0x03] events
      (replyFrame MMDVM_ACK [MMDVM_YWD_RX]) hat.stopped ∧ Halted timerClock hat.stopped := by
  have hexchange : Exchange timerClock hat _ _ _ _ := .frame h.idle
    (command_rxStop timerClock 0 hat)
  obtain ⟨hat₀, past, hinitial, hpast⟩ := h.reached
  obtain ⟨htx, -⟩ := (halfDuplex_run hinitial hpast).receiving h.active
  have hengine := (exclusive_run hinitial hpast).engine h.active
  refine ⟨_, hexchange, ?_⟩
  rw [h.stopped_eq] at hexchange ⊢
  exact {
    reached := h.reached.run hexchange.run
    idle := h.idle
    ready := h.ready
    mode := .inl rfl
    free := ⟨h.ready, htx, hengine, rfl, .inl rfl⟩
    whole := h.whole }

/-- A START of a free modem. -/
theorem Waiting.started (h : Waiting timerClock hat) (hfree : hat.Free) :
    ∃ events, Exchange timerClock hat [0xE0, 4, 0x59, 0x01] events
      (replyFrame MMDVM_ACK [MMDVM_YWD_RX]) (hat.started timerClock) ∧
      Listening timerClock (hat.started timerClock) := by
  have hexchange : Exchange timerClock hat _ _ _ _ := .frame h.idle (by
    rw [command_rxStart timerClock 0 hat, if_pos hfree])
  exact ⟨_, hexchange, {
    reached := h.reached.run hexchange.run
    idle := h.idle
    ready := h.ready
    mode := .inr rfl
    active := rfl
    whole := rfl }⟩

theorem Spent.free (h : Spent timerClock hat) : hat.Free :=
  ⟨h.ready, h.resting.tx, h.resting.engine, h.inactive, h.mode⟩

/-- A burst of a free modem. -/
theorem Halted.loaded (h : Halted timerClock hat) {count : ℕ} {packed request : Bytes}
    (hrequest : Protocol.rfTxTonesRequest count packed = .ok request) :
    ∃ events, Exchange timerClock hat request events (replyFrame MMDVM_ACK [MMDVM_YWD_RF])
      (hat.loaded packed count) ∧ Sending timerClock (hat.loaded packed count) := by
  obtain ⟨hat₀, past, hinitial, hpast⟩ := h.reached
  have hexchange : Exchange timerClock hat _ _ _ _ := .frame h.idle (by
    rw [@command_burst timerClock 0 hat (halfDuplex_run hinitial hpast) count packed request
      hrequest, if_pos h.free])
  exact ⟨_, hexchange, {
    reached := h.reached.run hexchange.run
    idle := h.idle
    ready := h.ready
    mode := .inr rfl
    inactive := h.free.capture }⟩

/-- Left alone, a burst comes to its end. -/
theorem Sending.spent (h : Sending timerClock hat) :
    ∃ events hat', (internalSystem timerClock).Run hat events hat' ∧ Spent timerClock hat' := by
  obtain ⟨hat₀, past, hinitial, hpast⟩ := h.reached
  obtain ⟨events, hat', hrun, -, hrest⟩ := leads_rest hinitial hpast
  obtain ⟨hready, hmode, hactive⟩ := internal_run_keeps hrun
  exact ⟨events, hat', hrun, {
    reached := h.reached.run hrun.of_restrict
    idle := hrest.2
    ready := hready.trans h.ready
    mode := hmode ▸ h.mode
    inactive := hactive.trans h.inactive
    resting := hrest.1 }⟩

end Service

end Hat

/-! ### The submission, component by component -/

open Hat

section Components

variable {R S τ : Type} {timerClock : ℕ} {I : τ → Prop}

namespace PersistentHalfDuplexSubmitter

theorem preTransmit_served (timeout : ℚ) :
    (server R timerClock).Achieves (fun s hat => Unlatched I s ∧ Listening timerClock hat)
      (preTransmit timeout) fun _ s hat => Unlatched I s ∧ Halted timerClock hat := by
  refine (rxStatus_served fun s hat h => ⟨h.2.idle, h.2.whole⟩).bind fun before => ?_
  refine Achieves.bind (M := fun _ s hat => Unlatched I s ∧ Listening timerClock hat)
    (achieves_ofExcept fun s hat h => ?_) fun _ => ?_
  · exact ⟨(), requireActiveRx_of_active (h.1.2.flags h.2.1 h.2.2) _, h.1⟩
  refine Achieves.bind (M := fun _ s hat => Unlatched I s ∧ Halted timerClock hat)
    (achieves_call fun s hat h => ?_) fun _ => ?_
  · obtain ⟨events, hexchange, hhalted⟩ := h.2.stopped
    exact ⟨(), events, _, answers_exchange rfl hexchange (parseAck_replyFrame MMDVM_YWD_RX), h.1,
      hhalted⟩
  refine Achieves.bind (M := fun _ s hat => Unlatched I s ∧ Halted timerClock hat)
    (achieves_modify fun s hat h => h) fun _ => ?_
  refine (rxStatus_served fun s hat h => ⟨h.2.idle, h.2.whole⟩).bind fun after => ?_
  refine achieves_ofExcept fun s hat h => ?_
  exact ⟨(), requireInactiveRx_of_inactive (h.1.2.flags h.2.1 h.2.2) _, h.1⟩

/-- The wait ends with its first look at a modem that is done. -/
theorem waitForTxIdle_spent (parameters : HalfDuplexParameters) (timeout : ℚ) :
    (server R timerClock).Achieves (fun s hat => Unlatched I s ∧ Spent timerClock hat)
      (waitForTxIdle parameters timeout)
      fun _ s hat => Unlatched I s ∧ Spent timerClock hat := by
  refine Achieves.bind (M := fun _ s hat => Unlatched I s ∧ Spent timerClock hat)
    (achieves_call fun s hat h => ⟨(0 : ℚ), [], hat, .none rfl, h⟩) fun started => ?_
  refine achieves_iterate ?_
  refine Achieves.bind (M := fun status s hat => (Unlatched I s ∧ Spent timerClock hat) ∧
    status = hat.rfStatus) (achieves_call fun s hat h => ?_) fun status => ?_
  · obtain ⟨events, response, hexchange, hparse⟩ := exchange_rfStatus h.2.idle h.2.reached
    exact ⟨_, events, hat, answers_exchange rfl hexchange hparse, h, rfl⟩
  refine Achieves.bind (M := fun diag s hat => (Unlatched I s ∧ Spent timerClock hat) ∧
    Idle status diag) (achieves_call fun s hat h => ?_) fun diag => ?_
  · obtain ⟨events, response, hexchange, hparse⟩ :=
      exchange_rfDiagnostics h.1.2.idle h.1.2.reached
    refine ⟨_, events, hat, answers_exchange rfl hexchange hparse, h.1, ?_⟩
    rw [h.2]
    exact h.1.2.resting.idle h.1.2.reached
  refine Achieves.bind (M := fun _ s hat => (Unlatched I s ∧ Spent timerClock hat) ∧
    Idle status diag) (achieves_modify fun s hat h => h) fun _ => ?_
  by_cases hidle : status.remainingSelectors = 0 ∧ diag.txActive = 0
  · rw [if_pos hidle]
    exact achieves_pure fun s hat h => ⟨(), rfl, h.1⟩
  · intro s hat h
    exact absurd h.2 hidle

/-- The burst is over by the time of that look. -/
theorem waitForTxIdle_served (parameters : HalfDuplexParameters) (timeout : ℚ) :
    (server R timerClock).Achieves (fun s hat => Unlatched I s ∧ Sending timerClock hat)
      (waitForTxIdle parameters timeout)
      fun _ s hat => Unlatched I s ∧ Spent timerClock hat := by
  refine (waitForTxIdle_spent parameters timeout).behind fun s hat h => ?_
  obtain ⟨events, hat', hrun, hspent⟩ := h.2.spent
  exact ⟨events, hat', hrun, h.1, hspent⟩

theorem restore_served (parameters : HalfDuplexParameters) (timeout : ℚ) :
    (server R timerClock).Achieves (fun s hat => Unlatched I s ∧ Sending timerClock hat)
      (restore parameters timeout)
      fun _ s hat => Unlatched I s ∧ Listening timerClock hat := by
  refine (waitForTxIdle_served parameters timeout).bind fun _ => ?_
  refine Achieves.bind (M := fun _ s hat => Unlatched I s ∧ Listening timerClock hat)
    (achieves_call fun s hat h => ?_) fun _ => ?_
  · obtain ⟨events, hexchange, hlistening⟩ := h.2.toWaiting.started h.2.free
    exact ⟨(), events, _, answers_exchange rfl hexchange (parseAck_replyFrame MMDVM_YWD_RX), h.1,
      hlistening⟩
  refine Achieves.bind (M := fun _ s hat => Unlatched I s ∧ Listening timerClock hat)
    (achieves_modify fun s hat h => h) fun _ => ?_
  refine (rxStatus_served fun s hat h => ⟨h.2.idle, h.2.whole⟩).bind fun status => ?_
  refine achieves_ofExcept fun s hat h => ?_
  exact ⟨(), requireActiveRx_of_active (h.1.2.flags h.2.1 h.2.2) _, h.1⟩

theorem complete_served (parameters : HalfDuplexParameters) (timeout : ℚ) (result : S) :
    (server R timerClock).Achieves (fun s hat => Unlatched I s ∧ Sending timerClock hat)
      (complete parameters timeout result)
      fun a s hat => a = result ∧ Unlatched I s ∧ Listening timerClock hat := by
  refine Achieves.bind (M := fun _ s hat => Unlatched I s ∧ Sending timerClock hat)
    (achieves_modify fun s hat h => h) fun _ => ?_
  refine (restore_served parameters timeout).attempt_bind fun _ => ?_
  refine Achieves.bind (M := fun _ s hat => Unlatched I s ∧ Listening timerClock hat)
    (achieves_modify fun s hat h => h) fun _ => ?_
  exact achieves_pure fun s hat h => ⟨rfl, h⟩

theorem cycle_served {parameters : HalfDuplexParameters} {timeout : ℚ} {result : S}
    {submit : Bytes → ℚ → PortProg R τ S} {frameWithFcs : Bytes}
    (hsubmit : (server R timerClock).Achieves (fun x hat => I x ∧ Halted timerClock hat)
      (submit frameWithFcs timeout)
      fun a x hat => a = result ∧ I x ∧ Sending timerClock hat) :
    (server R timerClock).Achieves (fun s hat => Unlatched I s ∧ Listening timerClock hat)
      (cycle parameters submit frameWithFcs timeout)
      fun a s hat => a = result ∧ Unlatched I s ∧ Listening timerClock hat := by
  refine (preTransmit_served timeout).attempt_bind fun _ => ?_
  refine Achieves.attempt_bind (M := fun a s hat => a = result ∧ Unlatched I s ∧
    Sending timerClock hat) ?_ fun a => ?_
  · refine achieves_zoom fun s hat h => hsubmit.weaken ?_ ?_
    · rintro x hat' ⟨rfl, rfl⟩
      exact ⟨h.1.2, h.2⟩
    · intro a x hat' hx
      exact ⟨hx.1, ⟨h.1.1, hx.2.1⟩, hx.2.2⟩
  by_cases ha : a = result
  · rw [← ha]
    exact (complete_served parameters timeout a).weaken (fun s hat h => h.2) fun _ _ _ h => h
  · intro s hat h
    exact absurd h.1 ha

theorem submitFrame_served {parameters : HalfDuplexParameters} {timeout : Option ℚ} {result : S}
    (htimeout : 0 < timeout.getD parameters.transactionTimeoutSeconds)
    {submit : Bytes → ℚ → PortProg R τ S} {frameWithFcs : Bytes}
    (hsubmit : (server R timerClock).Achieves (fun x hat => I x ∧ Halted timerClock hat)
      (submit frameWithFcs (timeout.getD parameters.transactionTimeoutSeconds))
      fun a x hat => a = result ∧ I x ∧ Sending timerClock hat) :
    (server R timerClock).Achieves
      (fun s hat => Unlatched I s ∧ s.1.inCycle = false ∧ Listening timerClock hat)
      (submitFrame parameters submit frameWithFcs timeout)
      fun a s hat => a = result ∧ Unlatched I s ∧ s.1.inCycle = false ∧
        Listening timerClock hat := by
  refine Achieves.bind (M := fun s₀ s hat => s₀ = s ∧ Unlatched I s ∧ s.1.inCycle = false ∧
    Listening timerClock hat) (achieves_get fun s hat h => ⟨rfl, h⟩) fun s₀ => ?_
  by_cases hready : s₀.1.failedLatched = false ∧ s₀.1.inCycle = false
  · rw [if_neg (by simp [hready.1]), if_neg (by simp [hready.2])]
    dsimp only
    rw [if_neg (not_le.mpr htimeout)]
    refine Achieves.bind (M := fun _ s hat => Unlatched I s ∧ Listening timerClock hat)
      (achieves_modify fun s hat h => ⟨h.2.1, h.2.2.2⟩) fun _ => ?_
    exact Achieves.ensuring ((cycle_served hsubmit).weaken (fun s hat h => h)
      fun a s hat h => ⟨h.1, h.2.1, rfl, h.2.2⟩)
  · intro s hat h
    obtain ⟨rfl, ⟨hlatched, -⟩, hcycle, -⟩ := h
    exact absurd ⟨hlatched, hcycle⟩ hready

end PersistentHalfDuplexSubmitter

namespace TXBroker

variable {preFlags : ℕ}

theorem transmit_served {receipt : TXReceipt} {packed : Bytes}
    (hburst : WellFormedBurst receipt.selectorCount packed) (timeout : ℚ) :
    (server R timerClock).Achieves
      (fun (b : TXBroker preFlags) hat => b.Ready ∧ Halted timerClock hat)
      (transmit receipt packed timeout) fun _ b hat => b.Ready ∧ Sending timerClock hat := by
  refine Achieves.bind (M := fun status b hat => status.remainingSelectors = 0 ∧
    b.Ready ∧ Halted timerClock hat) (achieves_call fun b hat h => ?_) fun status => ?_
  · obtain ⟨events, response, hexchange, hparse⟩ := exchange_rfStatus h.2.idle h.2.reached
    obtain ⟨hat₀, past, hinitial, hpast⟩ := h.2.reached
    exact ⟨_, events, hat, answers_exchange rfl hexchange hparse,
      (burst_accounts hinitial hpast).playing.remaining_eq_zero_iff.mpr h.2.free.engine, h⟩
  by_cases hclear : status.remainingSelectors = 0
  · rw [if_neg (not_not.mpr hclear)]
    refine Achieves.bind (M := fun _ b hat => b.Ready ∧ Sending timerClock hat)
      (achieves_call fun b hat h => ?_) fun _ =>
        achieves_modify fun b hat h => ⟨⟨h.1.1, h.1.2⟩, h.2⟩
    obtain ⟨hpos, hmax, hlength⟩ := hburst
    obtain ⟨request, hrequest, -⟩ := Protocol.rfTxTonesRequest_ok hpos hmax hlength
    obtain ⟨events, hexchange, hsending⟩ := h.2.2.loaded hrequest
    exact ⟨(), events, _, answers_exchange (congrArg some hrequest) hexchange
      (parseAck_replyFrame MMDVM_YWD_RF), h.2.1, hsending⟩
  · intro b hat h
    exact absurd h.1 hclear

theorem submitFrame_served {frame packed : Bytes} {receipt : TXReceipt} {timeout : ℚ}
    (hprepare : prepareFrame preFlags frame = .ok (receipt, packed)) (htimeout : 0 < timeout) :
    (server R timerClock).Achieves
      (fun (b : TXBroker preFlags) hat => b.Ready ∧ Halted timerClock hat)
      (submitFrame frame (some timeout))
      fun a b hat => a = receipt ∧ b.Ready ∧ Sending timerClock hat := by
  have hburst := prepareFrame_wellFormed hprepare
  refine Achieves.bind (M := fun b₀ b hat => b₀ = b ∧ b.Ready ∧ Halted timerClock hat)
    (achieves_get fun b hat h => ⟨rfl, h⟩) fun b₀ => ?_
  by_cases hready : b₀.Ready
  · rw [if_neg (by simp [hready.transmitEnabled])]
    dsimp only [Option.getD_some]
    rw [if_neg (not_le.mpr htimeout), if_neg (by simp [hready.accepting]), hprepare]
    refine Achieves.bind (M := fun _ b hat => b.Ready ∧ Halted timerClock hat)
      (achieves_modify fun b hat h => ⟨⟨h.2.1.1, h.2.1.2⟩, h.2.2⟩) fun _ => ?_
    refine Achieves.bind (M := fun error b hat => error = .ok () ∧ b.Ready ∧
      Sending timerClock hat) ?_ fun error => ?_
    · refine Achieves.bind (M := fun b₁ b hat => b₁ = b ∧ b.Ready ∧ Halted timerClock hat)
        (achieves_get fun b hat h => ⟨rfl, h⟩) fun b₁ => ?_
      by_cases haccepting : b₁.accepting = true
      · rw [if_neg (by simp [haccepting])]
        refine Achieves.bind (M := fun _ b hat => b.Ready ∧ Halted timerClock hat)
          (achieves_modify fun b hat h => ⟨⟨h.2.1.1, h.2.1.2⟩, h.2.2⟩) fun _ => ?_
        refine (transmit_served hburst timeout).attempt_bind fun _ => ?_
        refine Achieves.bind (M := fun _ b hat => b.Ready ∧ Sending timerClock hat)
          (achieves_modify fun b hat h => ⟨⟨h.1.1, h.1.2⟩, h.2⟩) fun _ => ?_
        exact achieves_pure fun b hat h => ⟨rfl, h⟩
      · intro b hat h
        obtain ⟨rfl, hready', -⟩ := h
        exact absurd hready'.accepting haccepting
    · refine achieves_ofExcept fun b hat h => ⟨receipt, ?_, rfl, h.2⟩
      rw [h.1]
      rfl
  · intro b hat h
    obtain ⟨rfl, hready', -⟩ := h
    exact absurd hready' hready

end TXBroker

namespace ContextualTXDelayRouter

theorem openBroker_served {J : Hat → Prop} {units : ℕ} (hunits : units ≤ KISS_TXDELAY_MAX) :
    (server R timerClock).Achieves (fun r hat => r.Ready ∧ J hat) (openBroker units)
      fun _ r hat => r.Ready ∧ J hat := by
  refine Achieves.bind (M := fun _ r hat => r.Ready ∧ J hat) (achieves_get fun r hat h => h)
    fun r₀ => ?_
  split
  · exact achieves_pure fun r hat h => h
  · refine Achieves.bind (M := fun _ r hat => r.Ready ∧ J hat)
      (achieves_ofExcept fun r hat h => ⟨_, resolveTxdelay_ok hunits, h⟩) fun _ => ?_
    refine achieves_modify fun r hat h => ⟨h.1.setBroker ?_, h.2⟩
    rw [newBroker, h.1.transmitEnabled]
    exact TXBroker.ready_started _

theorem submitFrame_served {frame packed : Bytes} {receipt : TXReceipt}
    {context : TNCTransmitContext} {timeout : ℚ}
    (hprepare : TXBroker.prepareFrame context.preFlags frame = .ok (receipt, packed))
    (htimeout : 0 < timeout) :
    (server R timerClock).Achieves (fun r hat => r.Ready ∧ Halted timerClock hat)
      (submitFrame frame context (some timeout))
      fun a r hat => a = receipt ∧ r.Ready ∧ Sending timerClock hat := by
  refine Achieves.bind (M := fun r₀ r hat => r₀ = r ∧ r.Ready ∧ Halted timerClock hat)
    (achieves_get fun r hat h => ⟨rfl, h⟩) fun r₀ => ?_
  by_cases hready : r₀.Ready
  · rw [if_neg (by simp [hready.closed])]
    dsimp only
    have hunits : context.txdelayProfile.units ≤ KISS_TXDELAY_MAX := by
      rw [context.profile_eq]
      exact context.txdelay_le
    refine Achieves.bind (M := fun _ r hat => r.Ready ∧ Halted timerClock hat)
      ((openBroker_served hunits).weaken (fun r hat h => h.2) fun _ _ _ h => h) fun _ => ?_
    refine Achieves.attempt_bind (M := fun a r hat => a = receipt ∧ r.Ready ∧
      Sending timerClock hat) ?_ fun a => ?_
    · refine achieves_zoom fun r hat h => ?_
      rw [← context.units_preFlags] at hprepare
      refine (TXBroker.submitFrame_served hprepare htimeout).weaken ?_ ?_
      · rintro b hat' ⟨rfl, rfl⟩
        refine ⟨?_, h.2⟩
        cases hbroker : r.brokers context.txdelayProfile.units with
        | none =>
            rw [Option.getD_none, newBroker, h.1.transmitEnabled]
            exact TXBroker.ready_started _
        | some broker => exact h.1.brokers _ _ hbroker
      · intro a b hat' hb
        exact ⟨hb.1, h.1.setBroker hb.2.1, hb.2.2⟩
    · refine Achieves.bind (M := fun _ r hat => a = receipt ∧ r.Ready ∧ Sending timerClock hat)
        (achieves_modify fun r hat h => ⟨h.1, ⟨h.2.1.1, h.2.1.2, h.2.1.3⟩, h.2.2⟩) fun _ => ?_
      exact achieves_pure fun r hat h => h
  · intro r hat h
    obtain ⟨rfl, hready', -⟩ := h
    exact absurd hready' hready

end ContextualTXDelayRouter

namespace ContextualHalfDuplexSubmitter

theorem adapter_served {frame packed : Bytes} {receipt : TXReceipt}
    {context : TNCTransmitContext} {timeout : ℚ}
    (hprepare : TXBroker.prepareFrame context.preFlags frame = .ok (receipt, packed))
    (htimeout : 0 < timeout) :
    (server R timerClock).Achieves (fun a hat => Armed context a ∧ Halted timerClock hat)
      (ArmedContextAdapter.submitFrame frame timeout)
      fun r a hat => r = receipt ∧ Armed context a ∧ Sending timerClock hat := by
  refine Achieves.bind (M := fun a₀ a hat => a₀ = a ∧ Armed context a ∧ Halted timerClock hat)
    (achieves_get fun a hat h => ⟨rfl, h⟩) fun a₀ => ?_
  by_cases harmed : a₀.context = some context
  · rw [harmed]
    dsimp only
    refine achieves_zoom fun a hat h => ?_
    refine (ContextualTXDelayRouter.submitFrame_served hprepare htimeout).weaken ?_ ?_
    · rintro r hat' ⟨rfl, rfl⟩
      exact ⟨h.2.1.2, h.2.2⟩
    · intro a' r hat' hr
      exact ⟨hr.1, ⟨h.2.1.1, hr.2.1⟩, hr.2.2⟩
  · intro a hat h
    obtain ⟨rfl, ⟨hcontext, -⟩, -⟩ := h
    exact absurd hcontext harmed

theorem submitFrame_achieved {parameters : HalfDuplexParameters} {frame packed : Bytes}
    {receipt : TXReceipt} {context : TNCTransmitContext} {timeout : ℚ}
    (hprepare : TXBroker.prepareFrame context.preFlags frame = .ok (receipt, packed))
    (htimeout : 0 < timeout) :
    (server R timerClock).Achieves (fun s hat => Ready s ∧ Listening timerClock hat)
      (submitFrame parameters frame context (some timeout))
      fun a s hat => a = receipt ∧ Ready s ∧ Listening timerClock hat := by
  refine Achieves.bind (M := fun _ s hat =>
    PersistentHalfDuplexSubmitter.Unlatched (Armed context) s ∧ s.1.inCycle = false ∧
      Listening timerClock hat) ?_ fun _ => ?_
  · refine achieves_zoom fun s hat h => ?_
    refine Achieves.bind (M := fun a₀ a hat' => a₀ = s.2 ∧ a = s.2 ∧ hat' = hat)
      (achieves_get fun a hat' h' => ⟨h'.1, h'⟩) fun a₀ => ?_
    cases hcontext : a₀.context with
    | none =>
        refine achieves_modify fun a hat' h' => ?_
        obtain ⟨-, rfl, rfl⟩ := h'
        exact ⟨⟨h.1.failedLatched, rfl, h.1.router⟩, h.1.inCycle, h.2⟩
    | some armed =>
        intro a hat' h'
        obtain ⟨rfl, -⟩ := h'
        rw [h.1.disarmed] at hcontext
        cases hcontext
  · refine Achieves.ensuring ?_
    have hpositive : 0 < (some timeout).getD parameters.transactionTimeoutSeconds := htimeout
    have hsend := PersistentHalfDuplexSubmitter.submitFrame_served (R := R) hpositive
      (@adapter_served R timerClock _ _ _ _ _ hprepare htimeout)
    exact hsend.weaken (fun s hat h => h) fun a s hat h =>
      ⟨h.1, ⟨h.2.1.1, h.2.2.1, rfl, h.2.1.2.2⟩, h.2.2.2⟩

end ContextualHalfDuplexSubmitter

end Components

namespace Hat

/-- From every state in which the modem listens, and between any two frames of the submitter, a
frame that fits into one burst can be submitted: the modem passes every gate of the lifecycle,
and then listens again. -/
theorem submission_served {R : Type} {timerClock : ℕ} {hat : Hat}
    {parameters : HalfDuplexParameters} {frame packed : Bytes} {receipt : TXReceipt}
    {context : TNCTransmitContext} {timeout : ℚ} {s : ContextualHalfDuplexSubmitter}
    (hlistening : Listening timerClock hat) (hready : ContextualHalfDuplexSubmitter.Ready s)
    (hprepare : TXBroker.prepareFrame context.preFlags frame = .ok (receipt, packed))
    (htimeout : 0 < timeout) :
    ∃ s' t events hat',
      Runs (ContextualHalfDuplexSubmitter.submitFrame parameters frame context (some timeout)) s
        (.returned receipt) s' t ∧
      (server R timerClock).Serves hat t events hat' ∧
      ContextualHalfDuplexSubmitter.Ready s' ∧ Listening timerClock hat' := by
  obtain ⟨a, s', t, events, hat', hrun, hserves, rfl, hready', hlistening'⟩ :=
    (@ContextualHalfDuplexSubmitter.submitFrame_achieved R timerClock _ _ _ _ _ _ hprepare
      htimeout).exists_run ⟨hready, hlistening⟩
  exact ⟨s', t, events, hat', hrun, hserves, hready', hlistening'⟩

/-- A modem behind a START. -/
theorem exists_listening :
    ∃ hat past, (packetSystem 19200).Run ready past hat ∧ Listening 19200 hat := by
  obtain ⟨hat, hrun, hshown⟩ := exists_of_execute
    (p := fun hat => hat.main = .idle ∧ hat.ywdRFReady = true ∧ hat.modemState = .ax25 ∧
      hat.ax25AFSKRX.active = true ∧ hat.ax25AFSKRX.droppedBytes = 0)
    (show (execute 19200 ready startEvents).any _ = true by decide +kernel)
  obtain ⟨hidle, hready, hmode, hactive, hwhole⟩ := of_decide_eq_true hshown
  exact ⟨hat, startEvents, hrun.of_restrict, {
    reached := ⟨ready, startEvents, initial_ready, hrun.of_restrict⟩
    idle := hidle
    ready := hready
    mode := .inr hmode
    active := hactive
    whole := hwhole }⟩

/-- A ready report at the default TXDELAY. -/
theorem prepareFrame_receiveReady : ∃ receipt packed,
    TXBroker.prepareFrame TNCTransmitContext.default.preFlags (appendFcs receiveReady) =
      .ok (receipt, packed) := by
  obtain ⟨⟨receipt, packed⟩, hprepare⟩ :=
    (TXBroker.prepareFrame_ok_iff (by decide) (verifyFcs_appendFcs receiveReady)
      (one_le_txdelayFlags KISS_TXDELAY_DEFAULT)).mpr (by decide +kernel)
  exact ⟨receipt, packed, hprepare⟩

theorem submission_served_receiveReady :
    ∃ hat past s' receipt t events hat', (packetSystem 19200).Run ready past hat ∧
      Runs (ContextualHalfDuplexSubmitter.submitFrame .default (appendFcs receiveReady) .default
        (some 1)) (.init (.init true .engine)) (.returned receipt) s' t ∧
      (server Unit 19200).Serves hat t events hat' ∧ Listening 19200 hat' := by
  obtain ⟨hat, past, hpast, hlistening⟩ := exists_listening
  obtain ⟨receipt, packed, hprepare⟩ := prepareFrame_receiveReady
  obtain ⟨s', t, events, hat', hrun, hserves, -, hlistening'⟩ :=
    submission_served hlistening (ContextualHalfDuplexSubmitter.ready_init
      (ContextualTXDelayRouter.ready_init .engine)) hprepare one_pos
  exact ⟨hat, past, s', receipt, t, events, hat', hpast, hrun, hserves, hlistening'⟩

section Submitted

variable {R : Type} {timerClock : ℕ} {hat₀ hat hat' : Hat} {past events : List HatEvent}
  {parameters : HalfDuplexParameters} {frame : Bytes} {context : TNCTransmitContext}
  {timeout : Option ℚ} {s s' : ContextualHalfDuplexSubmitter} {receipt : TXReceipt}
  {t : List (PortCall R)}

/-- Behind a submission the modem receives, and its last burst is that of the frame. -/
theorem resting_of_submitFrame (hinitial : Initial hat₀)
    (hpast : (packetSystem timerClock).Run hat₀ past hat)
    (hrun : Runs (ContextualHalfDuplexSubmitter.submitFrame parameters frame context timeout) s
      (.returned receipt) s' t)
    (hserves : (server R timerClock).Serves hat t events hat') :
    Resting hat' ∧ hat'.ax25AFSKRX.active = true ∧
      (burstAccount (past ++ events)).aborted = false ∧
      (burstAccount (past ++ events)).burst ≠ [] ∧
      frameToSelectors frame context.preFlags P5_POST_FLAGS P5_INITIAL_TONE =
        .ok (burstAccount (past ++ events)).burst := by
  obtain ⟨u, count, packed, burstTimeout, v, restartTimeout, rx, hserialize, hv, rfl⟩ :=
    ContextualHalfDuplexSubmitter.submitFrame_returned hrun
  obtain ⟨events₁, events₂, hat₁, rfl, hserves₁, hserves₂⟩ := hserves.append_cases
  obtain ⟨before, answer, after, hat₂, hat₃, rfl, hbefore, hburst, hserves₃⟩ :=
    hserves₂.cons_cases
  obtain ⟨events₃, events₄, hat₄, rfl, hserves₄, hserves₅⟩ := hserves₃.append_cases
  have hpast₂ := (hpast.append hserves₁.run).append hbefore.of_restrict
  have hpast₃ := hpast₂.append ((server R timerClock).run_of_answers hburst)
  have hpast₄ := hpast₃.append hserves₄.run
  have hpast₅ := hpast₄.append hserves₅.run
  have hactive := receiving_of_restarted hinitial hpast₄ hserves₅
  obtain ⟨hburst₃, haborted₃⟩ := burstAccount_taken hburst hinitial hpast₂
  obtain ⟨hburst₄, haborted₄⟩ :=
    burstAccount_serves (past ++ events₁ ++ before ++ answer) hserves₄ hv
  obtain ⟨hburst₅, haborted₅⟩ :=
    burstAccount_serves (past ++ events₁ ++ before ++ answer ++ events₃) hserves₅ (by
      intro c hc
      rcases List.mem_cons.mp hc with rfl | hc
      · exact id
      · rw [List.mem_singleton.mp hc]
        exact id)
  have hpositive : 1 ≤ count := by
    cases Answers.told hburst hinitial hpast₂ nofun with
    | burst hfree hwellFormed => exact hwellFormed.1
  have hevents : past ++ (events₁ ++ (before ++ answer ++ (events₃ ++ events₄))) =
      past ++ events₁ ++ before ++ answer ++ events₃ ++ events₄ := by
    simp only [List.append_assoc]
  unfold TXBroker.serialize at hserialize
  split at hserialize
  · cases hserialize
  case h_2 selectors hselectors =>
    cases hserialize
    have hburst₀ : (burstAccount
        (past ++ events₁ ++ before ++ answer ++ events₃ ++ events₄)).burst = selectors := by
      rw [hburst₅, hburst₄, hburst₃, Burst.Account.selectorsOf, unpackSelectors_packSelectors]
    rw [hevents, hburst₀]
    exact ⟨resting_of_receiving hinitial hpast₅ hactive, hactive,
      haborted₅.trans (haborted₄.trans haborted₃), List.ne_nil_of_length_pos hpositive,
      hselectors⟩

/-- When a submission returns, the waveform of its frame has gone out on the air, whole and in one
transmission, and the modem is receiving again: whatever failed on the way, and wherever the
interrupts fall. -/
theorem submitFrame_onAir (hinitial : Initial hat₀)
    (hpast : (packetSystem timerClock).Run hat₀ past hat)
    (hrun : Runs (ContextualHalfDuplexSubmitter.submitFrame parameters frame context timeout) s
      (.returned receipt) s' t)
    (hserves : (server R timerClock).Serves hat t events hat') :
    ∃ selectors,
      frameToSelectors frame context.preFlags P5_POST_FLAGS P5_INITIAL_TONE = .ok selectors ∧
      (burstAccount (past ++ events)).sent = waveform selectors ∧
      (burstAccount (past ++ events)).keyups = 1 ∧ Resting hat' ∧
      hat'.ax25AFSKRX.active = true := by
  obtain ⟨hresting, hactive, hwhole, hne, hselectors⟩ :=
    resting_of_submitFrame hinitial hpast hrun hserves
  obtain ⟨hsent, hkeyups⟩ := hresting.sent hinitial (hpast.append hserves.run) hwhole
  exact ⟨_, hselectors, hsent, hkeyups hne, hresting, hactive⟩

theorem submitFrame_onAir_receiveReady :
    ∃ past events hat selectors, (packetSystem 19200).Run ready (past ++ events) hat ∧
      frameToSelectors (appendFcs receiveReady) TNCTransmitContext.default.preFlags P5_POST_FLAGS
        P5_INITIAL_TONE = .ok selectors ∧
      (burstAccount (past ++ events)).sent = waveform selectors := by
  obtain ⟨hat, past, hpast, hlistening⟩ := exists_listening
  obtain ⟨receipt, packed, hprepare⟩ := prepareFrame_receiveReady
  obtain ⟨a, s', t, events, hat', hrun, hserves, -⟩ :=
    (@ContextualHalfDuplexSubmitter.submitFrame_achieved Unit 19200 .default _ _ _ _ 1 hprepare
      one_pos).exists_run ⟨ContextualHalfDuplexSubmitter.ready_init
        (ContextualTXDelayRouter.ready_init .engine), hlistening⟩
  obtain ⟨selectors, hselectors, hsent, -⟩ := submitFrame_onAir initial_ready hpast hrun hserves
  exact ⟨past, events, hat', selectors, hpast.append hserves.run, hselectors, hsent⟩

end Submitted

end Hat

end YwdTnc
