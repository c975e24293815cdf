import YwdTnc.Hat.Session

/-!
# What a session of the receive runtime publishes

A session that returns has decoded its whole capture (`session_decodes`), there is one for every
sequence of samples (`session_served`), and it publishes a frame that another station has submitted
and whose waveform is among the samples (`submission_published`). A decoder that has been fed up to
the end of the burst has returned the frame by then (`burst_heard`).
-/

namespace YwdTnc

open Coding Interaction Prog SerialPort Server

namespace Hat

section Published

variable {R : Type} {timerClock : ℕ} {hat₀ hat hat' : Hat} {past events : List HatEvent}
  {metricTable : BitVec CORR_WINDOW → ℚ} {config : RXRuntimeConfig}
  {startTimeout stopTimeout : ℚ} {n : ℕ} {s : RXOnlyPacketRuntime}
  {setup behind : List (PortCall R)}

/-- A configured modem with nothing to send. -/
theorem waiting_ready : Waiting 19200 ready where
  reached := ⟨ready, [], initial_ready, .nil ready⟩
  idle := rfl
  ready := rfl
  mode := .inl rfl

theorem free_ready : ready.Free := ⟨rfl, rfl, rfl, rfl, .inl rfl⟩

/-- However often the worker goes round, whatever the chunks are and wherever the interrupts fall:
when a session has returned, all samples of the capture between its START and its STOP have gone
through the decoder, in their order and without a gap, and it has published what the decoder found
in them. -/
theorem session_decodes
    (hrun : Runs (RXOnlyPacketRuntime.session metricTable config startTimeout n stopTimeout) .init
      (.returned ()) s (setup ++ ⟨.rxStart startTimeout, some (.ok ())⟩ :: behind))
    (hinitial : Initial hat₀) (hpast : (packetSystem timerClock).Run hat₀ past hat)
    (hserves : (server R timerClock).Serves hat
      (⟨.rxStart startTimeout, some (.ok ())⟩ :: behind) events hat') :
    Decodes metricTable (captureAccount (past ++ events)).bits s :=
  decodes_of_stopped (RXOnlyPacketRuntime.session_stopped hrun) hinitial hpast hserves

theorem session_decodes_ready : ∃ (s : RXOnlyPacketRuntime) (t : List (PortCall Unit)),
    Runs (RXOnlyPacketRuntime.session metricForPattern (.default "YWD" 1) 2 2 2) .init
      (.returned ()) s t ∧
      Decodes metricForPattern (([0x7E, 0x81] : Bytes).flatMap BYTE_BITS) s := by
  obtain ⟨s, setup, behind, events, hat', hrun, hserves, hbits, -⟩ :=
    @RXOnlyPacketRuntime.session_achieved Unit 19200 ready ready [] initial_ready (.nil ready)
      waiting_ready free_ready (by decide) metricForPattern (.default "YWD" 1) 2 2 [0x7E, 0x81]
  have hdecodes := session_decodes hrun initial_ready (.nil ready) hserves
  rw [hbits] at hdecodes
  exact ⟨s, _, hrun, hdecodes⟩

/-- Every sequence of samples that fills its octets can be captured, whole and without a drop, and
a session of the runtime that reads the capture returns. -/
theorem session_served (hinitial : Initial hat₀)
    (hpast : (packetSystem timerClock).Run hat₀ past hat) (hwaiting : Waiting timerClock hat)
    (hfree : hat.Free) (htimer : timerStarts timerClock = true)
    (metricTable : BitVec CORR_WINDOW → ℚ) (config : RXRuntimeConfig)
    (startTimeout stopTimeout : ℚ) {samples : List Bool} (hwhole : 8 ∣ samples.length) :
    ∃ n s setup behind events hat',
      Runs (RXOnlyPacketRuntime.session metricTable config startTimeout n stopTimeout) .init
        (.returned ()) s (setup ++ ⟨.rxStart startTimeout, some (.ok ())⟩ :: behind) ∧
      (server R timerClock).Serves hat (⟨.rxStart startTimeout, some (.ok ())⟩ :: behind) events
        hat' ∧
      (captureAccount (past ++ events)).bits = samples ∧ Decodes metricTable samples s := by
  obtain ⟨count, hcount⟩ := hwhole
  obtain ⟨octets, rfl⟩ := Capture.exists_octets count hcount
  obtain ⟨s, setup, behind, events, hat', hrun, hserves, hbits, -⟩ :=
    RXOnlyPacketRuntime.session_achieved hinitial hpast hwaiting hfree htimer metricTable config
      startTimeout stopTimeout octets
  have hdecodes :=
    decodes_of_stopped (RXOnlyPacketRuntime.session_stopped hrun) hinitial hpast hserves
  rw [hbits] at hdecodes
  exact ⟨_, s, setup, behind, events, hat', hrun, hserves, hbits, hdecodes⟩

theorem session_served_ready : ∃ n s setup behind events hat',
    Runs (RXOnlyPacketRuntime.session metricForPattern (.default "YWD" 1) 2 n 2) .init
      (.returned ()) s (setup ++ ⟨.rxStart 2, some (.ok ())⟩ :: behind) ∧
    (server Unit 19200).Serves ready (⟨.rxStart 2, some (.ok ())⟩ :: behind) events hat' ∧
    (captureAccount events).bits = List.replicate 16 true := by
  obtain ⟨n, s, setup, behind, events, hat', hrun, hserves, hbits, -⟩ :=
    @session_served Unit 19200 ready ready [] initial_ready (.nil ready) waiting_ready free_ready
      (by decide) metricForPattern (.default "YWD" 1) 2 2 (List.replicate 16 true) (by decide)
  exact ⟨n, s, setup, behind, events, hat', hrun, hserves, hbits⟩

section Submission

variable {R' : Type} {timerClock' : ℕ} {sender₀ sender sender' : Hat}
  {sent submitted : List HatEvent} {parameters : HalfDuplexParameters} {frame : Bytes}
  {context : TNCTransmitContext} {timeout : Option ℚ}
  {submitter submitter' : ContextualHalfDuplexSubmitter} {receipt : TXReceipt}
  {u : List (PortCall R')}

/-- What a modem has sent behind a submission. -/
theorem waveform_of_submitFrame (hsender : Initial sender₀)
    (hsent : (packetSystem timerClock').Run sender₀ sent sender)
    (hsubmit : Runs (ContextualHalfDuplexSubmitter.submitFrame parameters frame context timeout)
      submitter (.returned receipt) submitter' u)
    (hsubmitted : (server R' timerClock').Serves sender u submitted sender') :
    ∃ selectors,
      frameToSelectors frame context.preFlags P5_POST_FLAGS P5_INITIAL_TONE = .ok selectors ∧
      selectors.length ≤ CAX25AFSKTX.MAX_SELECTORS ∧
      (burstAccount (sent ++ submitted)).sent = CAX25AFSKTX.waveform selectors := by
  obtain ⟨hresting, -, hwhole, -, hselectors⟩ :=
    resting_of_submitFrame hsender hsent hsubmit hsubmitted
  have hreached := hsent.append hsubmitted.run
  exact ⟨_, hselectors, (burst_accounts hsender hreached).burst_le,
    (hresting.sent hsender hreached hwhole).1⟩

/-- A ready report at the default TXDELAY, captured with eight samples of silence on both sides. -/
theorem exists_captured : ∃ (sender sender' hat' : Hat) (sent submitted events : List HatEvent)
    (submitter' : ContextualHalfDuplexSubmitter) (receipt : TXReceipt)
    (u setup behind : List (PortCall Unit)) (n : ℕ) (s : RXOnlyPacketRuntime),
    (packetSystem 19200).Run ready sent sender ∧
    Runs (ContextualHalfDuplexSubmitter.submitFrame .default (appendFcs receiveReady) .default
      (some 1)) (.init (.init true .engine)) (.returned receipt) submitter' u ∧
    (server Unit 19200).Serves sender u submitted sender' ∧ sender'.main = .idle ∧
    Runs (RXOnlyPacketRuntime.session metricForPattern (.default "YWD" 1) 2 n 2) .init
      (.returned ()) s (setup ++ ⟨.rxStart 2, some (.ok ())⟩ :: behind) ∧
    (server Unit 19200).Serves ready (⟨.rxStart 2, some (.ok ())⟩ :: behind) events hat' ∧
    (captureAccount events).bits = List.replicate 8 false ++
      (burstAccount (sent ++ submitted)).sent ++ List.replicate 8 false ∧
    (captureAccount events).bits = (captureAccount events).delivered.flatMap BYTE_BITS ∧
    hat'.ax25AFSKRX.droppedBytes = 0 := by
  obtain ⟨sender, sent, hsent, hlistening⟩ := exists_listening
  obtain ⟨_, packed, hprepare⟩ := prepareFrame_receiveReady
  obtain ⟨receipt, submitter', u, submitted, sender', hsubmit, hsubmitted, -, -, hbehind⟩ :=
    (@ContextualHalfDuplexSubmitter.submitFrame_achieved Unit 19200 .default _ _ _ _ 1 hprepare
      one_pos).exists_run ⟨ContextualHalfDuplexSubmitter.ready_init
        (ContextualTXDelayRouter.ready_init .engine), hlistening⟩
  obtain ⟨selectors, -, -, hwave⟩ :=
    waveform_of_submitFrame initial_ready hsent hsubmit hsubmitted
  have hlength : (List.replicate 8 false ++ (burstAccount (sent ++ submitted)).sent ++
      List.replicate 8 false).length = 8 * (2 * selectors.length + 2) := by
    rw [hwave, List.length_append, List.length_append, CAX25AFSKTX.waveform_length,
      List.length_replicate, show CAX25AFSKTX.SAMPLES_PER_SYMBOL = 16 from rfl]
    omega
  obtain ⟨octets, hoctets⟩ := Capture.exists_octets _ hlength
  obtain ⟨s, setup, behind, events, hat', hrun, hserves, hbits, hdelivered, hdropped⟩ :=
    @RXOnlyPacketRuntime.session_achieved Unit 19200 ready ready [] initial_ready (.nil ready)
      waiting_ready free_ready (by decide) metricForPattern (.default "YWD" 1) 2 2 octets
  exact ⟨sender, sender', hat', sent, submitted, events, submitter', receipt, u, setup, behind, _,
    s, hsent, hsubmit, hsubmitted, hbehind.idle, hrun, hserves, hbits.trans hoctets,
    hbits.trans (congrArg (List.flatMap BYTE_BITS) hdelivered).symm, hdropped⟩

theorem parseFrame_receiveReady_fcs :
    parseFrame (appendFcs receiveReady) true = .ok receiveReadyParsed := by
  rw [parseFrame_appendFcs, parseFrame_receiveReady]

/-- From the submission of a frame at one station to its event at another one: when `submit_frame`
has returned and a session of the receive runtime has returned whose capture holds what the first
modem has sent, the second one has published the frame, whatever else it has captured, whatever
calls failed and wherever the interrupts of both modems fell. -/
theorem submission_published (hsender : Initial sender₀)
    (hsent : (packetSystem timerClock').Run sender₀ sent sender)
    (hsubmit : Runs (ContextualHalfDuplexSubmitter.submitFrame parameters frame context timeout)
      submitter (.returned receipt) submitter' u)
    (hsubmitted : (server R' timerClock').Serves sender u submitted sender')
    {parsed : ParsedFrame} (hlen : 17 ≤ frame.length) (hparse : parseFrame frame true = .ok parsed)
    (hpre : 2 ≤ context.preFlags) (htones : TellsTones metricTable)
    (hrun : Runs (RXOnlyPacketRuntime.session metricTable config startTimeout n stopTimeout) .init
      (.returned ()) s (setup ++ ⟨.rxStart startTimeout, some (.ok ())⟩ :: behind))
    (hinitial : Initial hat₀) (hpast : (packetSystem timerClock).Run hat₀ past hat)
    (hserves : (server R timerClock).Serves hat
      (⟨.rxStart startTimeout, some (.ok ())⟩ :: behind) events hat')
    {before after : List Bool} (hcaptured : (captureAccount (past ++ events)).bits =
      before ++ (burstAccount (sent ++ submitted)).sent ++ after) (hafter : 7 ≤ after.length) :
    PacketEvent.of frame parsed ∈ s.published := by
  obtain ⟨selectors, hselectors, hfits, hwave⟩ :=
    waveform_of_submitFrame hsender hsent hsubmit hsubmitted
  rw [hwave] at hcaptured
  have hdecodes :=
    decodes_of_stopped (RXOnlyPacketRuntime.session_stopped hrun) hinitial hpast hserves
  exact hdecodes.publishes htones hcaptured hafter hselectors hfits hlen hparse hpre (by decide)

theorem submission_published_receiveReady : ∃ (submitter' : ContextualHalfDuplexSubmitter)
    (receipt : TXReceipt) (u t : List (PortCall Unit)) (n : ℕ) (s : RXOnlyPacketRuntime),
    Runs (ContextualHalfDuplexSubmitter.submitFrame .default (appendFcs receiveReady) .default
      (some 1)) (.init (.init true .engine)) (.returned receipt) submitter' u ∧
    Runs (RXOnlyPacketRuntime.session metricForPattern (.default "YWD" 1) 2 n 2) .init
      (.returned ()) s t ∧
    PacketEvent.of (appendFcs receiveReady) receiveReadyParsed ∈ s.published := by
  obtain ⟨sender, sender', hat', sent, submitted, events, submitter', receipt, u, setup, behind, n,
    s, hsent, hsubmit, hsubmitted, -, hrun, hserves, hbits, -⟩ := exists_captured
  refine ⟨submitter', receipt, u, _, n, s, hsubmit, hrun, ?_⟩
  exact submission_published initial_ready hsent hsubmit hsubmitted (by decide +kernel)
    parseFrame_receiveReady_fcs (by decide) tellsTones_metricForPattern hrun initial_ready
    (.nil ready) hserves hbits (by decide)

end Submission

end Published

section Heard

variable {timerClock timerClock' : ℕ} {sender₀ sender hat₀ hat : Hat}
  {sent events : List HatEvent}

/-- The samples that one modem has sent are among those that another one has captured, in one
piece, and the host of that one has read up to their end. -/
def Carries (sent captured : List HatEvent) : Prop :=
  ∃ before after, (captureAccount captured).bits = before ++ (burstAccount sent).sent ++ after ∧
    before.length + (burstAccount sent).sent.length ≤
      8 * (captureAccount captured).delivered.length

/-- What a host has read of a burst begins with the whole waveform. -/
theorem Carries.delivered (h : Carries sent events) (hinitial : Initial hat₀)
    (hrun : (packetSystem timerClock).Run hat₀ events hat)
    (hwhole : hat.ax25AFSKRX.droppedBytes = 0) :
    ∃ before after, (captureAccount events).delivered.flatMap BYTE_BITS =
      before ++ (burstAccount sent).sent ++ after := by
  obtain ⟨before, after, hbits, hread⟩ := h
  have hprefix := delivered_prefix hinitial hrun hwhole
  rw [hbits] at hprefix
  obtain ⟨after', hdelivered⟩ := List.prefix_of_prefix_length_le (List.prefix_append _ after)
    hprefix (by rwa [List.length_append, length_flatMap_BYTE_BITS])
  exact ⟨before, after', hdelivered.symm⟩

/-- A burst that one modem has sent whole, and that another modem has captured without a drop: in
whatever chunks the host of that one hands the octets to a decoder, the decoder returns the frame,
whatever was on the channel before and behind the burst. -/
theorem burst_heard {metricTable : BitVec CORR_WINDOW → ℚ} {frame : Bytes} {parsed : ParsedFrame}
    {preFlags postFlags : ℕ} {initialTone : Bool} {calls : List Bytes} {fuel : ℕ}
    (hsender : Initial sender₀) (hsent : (packetSystem timerClock).Run sender₀ sent sender)
    (hrest : sender.main = .idle ∧ sender.ax25AFSKTX.busy = false ∧ sender.tx = false)
    (haborted : (burstAccount sent).aborted = false)
    (hburst : frameToSelectors frame preFlags postFlags initialTone =
      .ok (burstAccount sent).burst)
    (hinitial : Initial hat₀) (hrun : (packetSystem timerClock').Run hat₀ events hat)
    (hwhole : hat.ax25AFSKRX.droppedBytes = 0) (hcarries : Carries sent events)
    (hcalls : calls.flatten = (captureAccount events).delivered)
    (htones : TellsTones metricTable) (hlen : 17 ≤ frame.length)
    (hparse : parseFrame frame true = .ok parsed) (hpre : 2 ≤ preFlags) (hpost : 1 ≤ postFlags)
    (hfuel : 144 < fuel) :
    ∃ d returned d', StreamingBell202Decoder.init DEFAULT_BAUDS DEFAULT_PHASES = .ok d ∧
      d.feedCalls metricTable fuel calls = some (returned, d') ∧
      ∃ found ∈ returned.flatten, found.frame = frame := by
  obtain ⟨hidle, hbusy, htx⟩ := hrest
  have haccounts := burst_accounts hsender hsent
  have hfits : (burstAccount sent).burst.length ≤ CAX25AFSKTX.MAX_SELECTORS := haccounts.burst_le
  rw [burstState_idle hidle, htx] at haccounts
  obtain ⟨hwave, -, -⟩ := haccounts.quiet hbusy haborted
  obtain ⟨before, after, hdelivered⟩ := hcarries.delivered hinitial hrun hwhole
  rw [hwave] at hdelivered
  have hne : frame ≠ [] := by
    rintro rfl
    cases hlen
  obtain ⟨returned, d', hfed, hfound⟩ :=
    StreamingBell202Decoder.hears_wave metricTable (by rw [hcalls, hdelivered])
      (CAX25AFSKTX.waveform_length _) (CAX25AFSKTX.symbolOf_waveform htones _) hburst hlen hparse
      (stuffed_le_of_selectors hne (by omega) hpost hburst hfits) hpre hpost hfuel
  exact ⟨_, returned, d', StreamingBell202Decoder.init_default, hfed, hfound⟩

theorem burst_heard_receiveReady : ∃ (octets : Bytes) (d : FrozenDecoder)
    (returned : List (List StreamingFrame)) (d' : FrozenDecoder),
    d.feedCalls metricForPattern DECODER_STEPS [octets] = some (returned, d') ∧
      ∃ found ∈ returned.flatten, found.frame = appendFcs receiveReady := by
  obtain ⟨sender, sender', hat', sent, submitted, events, submitter', receipt, u, setup, behind, n,
    s, hsent, hsubmit, hsubmitted, hidle, -, hserves, hbits, hread, hdropped⟩ := exists_captured
  obtain ⟨hresting, -, hwhole, -, hselectors⟩ :=
    resting_of_submitFrame initial_ready hsent hsubmit hsubmitted
  have hcarries : Carries (sent ++ submitted) events := by
    refine ⟨List.replicate 8 false, List.replicate 8 false, hbits, ?_⟩
    rw [← length_flatMap_BYTE_BITS, ← hread, hbits, List.length_append, List.length_append]
    exact Nat.le_add_right _ _
  obtain ⟨d, returned, d', -, hfed, hfound⟩ := burst_heard initial_ready
    (hsent.append hsubmitted.run) ⟨hidle, hresting.engine, hresting.tx⟩ hwhole hselectors
    initial_ready hserves.run hdropped hcarries List.flatten_singleton tellsTones_metricForPattern
    (by decide +kernel) parseFrame_receiveReady_fcs (by decide) (by decide)
    (show 144 < DECODER_STEPS by decide)
  exact ⟨_, d, returned, d', hfed, hfound⟩

end Heard

end Hat

end YwdTnc
