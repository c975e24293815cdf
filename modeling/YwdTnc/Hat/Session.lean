import YwdTnc.Hat.Reception

/-!
# A modem serves a reception

The modem takes the samples of an octet, keeps the octet in its ring and answers a read with it
(`Capturing.ticks`, `Capturing.read`); behind STOP it answers one empty read and reports that
nothing was dropped (`Ended.read`, `Ended.report`). If each octet is read behind its last sample,
the ring never fills up, so that a session of the receive runtime has answers to all its calls,
whatever the octets are (`session_achieved`).
-/

namespace YwdTnc

open Coding Interaction Prog SerialPort Server

/-! ### Samples -/

namespace Capture

/-- What the slicer shows for a sample. -/
def slicer (sample : Bool) : Byte := if sample then 1 else 0

theorem takeBit_slicer (rx : CAX25AFSKRX) (sample : Bool) :
    takeBit rx (slicer sample) = { rx with
      samples := rx.samples + 1
      partialOctet :=
        if sample then rx.partialOctet ||| BitVec.ofNat 8 (0x80 >>> rx.partialBits)
        else rx.partialOctet
      partialBits := rx.partialBits + 1 } := by
  cases sample <;> rfl

theorem foldl_sample {rx : CAX25AFSKRX} (hactive : rx.active = true) {samples pending : List Bool}
    (hbits : rx.partialBits = pending.length) (hoctet : rx.partialOctet = packOctet pending)
    (hlength : pending.length + samples.length < 8) :
    ∃ count, samples.foldl (fun rx sample => rx.sample (slicer sample)) rx = { rx with
      samples := count
      partialOctet := packOctet (pending ++ samples)
      partialBits := pending.length + samples.length } := by
  induction samples generalizing rx pending with
  | nil => exact ⟨rx.samples, by rw [List.append_nil, ← hoctet]; simp [← hbits]⟩
  | cons sample samples ih =>
      rw [List.length_cons] at hlength
      have hfirst : rx.sample (slicer sample) = takeBit rx (slicer sample) := by
        rw [sample_eq hactive, if_pos (by omega)]
      have hpacked := packOctet_append pending sample
      rw [← hoctet, ← hbits] at hpacked
      obtain ⟨count, hrest⟩ := @ih (takeBit rx (slicer sample))
        (by rw [takeBit_slicer]; exact hactive)
        (pending ++ [sample]) (by rw [takeBit_slicer]; simp [hbits])
        (by rw [takeBit_slicer]; exact hpacked.symm) (by simp; omega)
      refine ⟨count, ?_⟩
      rw [List.foldl_cons, hfirst, hrest, takeBit_slicer]
      simp only [List.append_assoc, List.singleton_append, List.length_append, List.length_cons,
        List.length_nil]
      congr 1
      omega

theorem packOctet_BYTE_BITS (octet : Byte) : packOctet (BYTE_BITS octet) = octet := by
  have hall : ∀ n : Fin 256, packOctet (BYTE_BITS (BitVec.ofFin n)) = BitVec.ofFin n := by
    decide +kernel
  exact hall octet.toFin

theorem exists_octets (count : ℕ) {samples : List Bool} (h : samples.length = 8 * count) :
    ∃ octets : Bytes, octets.flatMap BYTE_BITS = samples := by
  induction count generalizing samples with
  | zero => exact ⟨[], (List.length_eq_zero_iff.mp h).symm⟩
  | succ count ih =>
      obtain ⟨octets, hrest⟩ := @ih (samples.drop 8) (by rw [List.length_drop]; omega)
      have hfirst : (samples.take 8).length = 8 := by
        rw [List.length_take]
        omega
      refine ⟨packOctet (samples.take 8) :: octets, ?_⟩
      rw [List.flatMap_cons, BYTE_BITS_packOctet hfirst, hrest, List.take_append_drop]

/-- Eight samples, from the begin of an octet on. -/
theorem foldl_sample_octet {rx : CAX25AFSKRX} (hactive : rx.active = true)
    (hbits : rx.partialBits = 0) (hoctet : rx.partialOctet = 0) (hroom : ¬ rx.buffer.Full)
    (octet : Byte) :
    ∃ count, (BYTE_BITS octet).foldl (fun rx sample => rx.sample (slicer sample)) rx =
      { rx with buffer := rx.buffer.push octet, samples := count } := by
  obtain ⟨samples, last, hsplit⟩ : ∃ samples last, BYTE_BITS octet = samples ++ [last] :=
    ⟨(BYTE_BITS octet).take 7, (BYTE_BITS octet).get ⟨7, by simp [BYTE_BITS]⟩, rfl⟩
  have hlength : samples.length = 7 := by
    have h := congrArg List.length hsplit
    rw [List.length_append] at h
    exact Nat.succ.inj h.symm
  obtain ⟨count, hseven⟩ := @foldl_sample rx hactive samples []
    (by rw [hbits]; rfl) (by rw [hoctet]; rfl) (by rw [hlength]; decide)
  have hpacked : packOctet (samples ++ [last]) = octet := by
    rw [← hsplit, packOctet_BYTE_BITS]
  rw [packOctet_append, hlength] at hpacked
  refine ⟨count + 1, ?_⟩
  rw [hsplit, List.foldl_append, hseven, List.foldl_cons, List.foldl_nil, List.nil_append,
    List.length_nil, Nat.zero_add, hlength]
  rw [@sample_eq
    { rx with samples := count, partialOctet := packOctet samples, partialBits := 7 } hactive,
    if_neg (show ¬ 7 + 1 < 8 by decide), takeBit_slicer, storeOctet_push (by exact hroom)]
  dsimp only
  rw [hpacked, ← hbits, ← hoctet]

end Capture

namespace Hat

section Reads

variable {timerClock : ℕ}

/-- The interrupts that take these samples. -/
def ticks (samples : List Bool) : List HatEvent :=
  samples.map fun sample => .tick (Capture.slicer sample)

theorem run_ticks {hat : Hat} (htimer : hat.sampleTimer = true) (hmode : hat.modemState = .ax25)
    (hactive : hat.ax25AFSKRX.active = true) (samples : List Bool) :
    (internalSystem timerClock).Run hat (ticks samples) { hat with
      ax25AFSKRX := samples.foldl (fun rx sample => rx.sample (Capture.slicer sample))
        hat.ax25AFSKRX } := by
  induction samples generalizing hat with
  | nil => exact .nil hat
  | cons sample samples ih =>
      have hstep : Step timerClock hat (.tick (Capture.slicer sample)) _ := .tick _ htimer
      have hinternal : ∀ buffer reply,
          HatEvent.tick (Capture.slicer sample) ≠ .command buffer reply := by
        intro buffer reply htick
        cases htick
      rw [sampleTimerInterrupt, if_pos ⟨hmode, hactive⟩] at hstep
      refine .cons ⟨⟨hstep, trivial⟩, hinternal⟩ ?_
      exact @ih { hat with ax25AFSKRX := hat.ax25AFSKRX.sample (Capture.slicer sample) } htimer
        hmode ((Capture.sample_active _ _).trans hactive)

/-- A read that no sample interrupt comes between. -/
theorem exists_read {maxLength : ℕ} (octets : Bytes) : ∀ {hat : Hat} {out : Bytes},
    hat.main = .reading ⟨maxLength, out, .test⟩ → hat.ax25AFSKRX.buffer.contents = octets →
    out.length + octets.length ≤ maxLength →
    ∃ events hat₂ buffer, (internalSystem timerClock).Run hat events hat₂ ∧
      Step timerClock hat₂ (.returned (out ++ octets))
        { hat with main := .idle, ax25AFSKRX := { hat.ax25AFSKRX with buffer := buffer } } ∧
      buffer.contents = [] := by
  induction octets with
  | nil =>
      intro hat out hmain hcontents hlength
      have hempty := SpscRing.contents_eq_nil_iff.mp hcontents
      rw [List.append_nil]
      by_cases hfull : out.length < maxLength
      · have htest : ReadCall.access hat.ax25AFSKRX ⟨maxLength, out, .test⟩ =
            (hat.ax25AFSKRX, .inl ⟨maxLength, out, .head hat.ax25AFSKRX.buffer.head⟩) :=
          if_pos hfull
        refine ⟨[.access], _, hat.ax25AFSKRX.buffer,
          .cons ⟨⟨.readAccess hmain htest, trivial⟩, nofun⟩ (.nil _), .returned rfl (if_pos hempty),
          hcontents⟩
      · exact ⟨[], hat, hat.ax25AFSKRX.buffer, .nil hat, .returned hmain (if_neg hfull), hcontents⟩
  | cons octet octets ih =>
      intro hat out hmain hcontents hlength
      have hroom : out.length < maxLength := by
        rw [List.length_cons] at hlength
        omega
      have hne : hat.ax25AFSKRX.buffer.tail ≠ hat.ax25AFSKRX.buffer.head := by
        rw [ne_eq, ← SpscRing.contents_eq_nil_iff, hcontents]
        exact List.cons_ne_nil octet octets
      have htest : ReadCall.access hat.ax25AFSKRX ⟨maxLength, out, .test⟩ =
          (hat.ax25AFSKRX, .inl ⟨maxLength, out, .head hat.ax25AFSKRX.buffer.head⟩) :=
        if_pos hroom
      have hhead :
          ReadCall.access hat.ax25AFSKRX ⟨maxLength, out, .head hat.ax25AFSKRX.buffer.head⟩ =
          (hat.ax25AFSKRX, .inl ⟨maxLength, out, .tail hat.ax25AFSKRX.buffer.tail⟩) :=
        if_neg hne
      have hpop := hat.ax25AFSKRX.buffer.contents_pop hne
      rw [hcontents, List.cons.injEq] at hpop
      obtain ⟨hfront, hrest⟩ := hpop
      obtain ⟨events, hat₂, buffer, hrun, hstep, hnone⟩ := @ih
        { hat with
          ax25AFSKRX := { hat.ax25AFSKRX with buffer := hat.ax25AFSKRX.buffer.pop }
          main := .reading ⟨maxLength, out ++ [octet], .test⟩ }
        (out ++ [octet]) rfl hrest.symm (by simp at hlength ⊢; omega)
      have htail : ReadCall.access hat.ax25AFSKRX
          ⟨maxLength, out, .tail hat.ax25AFSKRX.buffer.tail⟩ =
          (hat.ax25AFSKRX, .inl ⟨maxLength, out, .octet hat.ax25AFSKRX.buffer.tail octet⟩) := by
        rw [hfront]
        rfl
      have haccess : ∀ {hat : Hat} {rx' : CAX25AFSKRX} {call call' : ReadCall},
          hat.main = .reading call → call.access hat.ax25AFSKRX = (rx', .inl call') →
          (internalSystem timerClock).step hat .access
            { hat with ax25AFSKRX := rx', main := .reading call' } :=
        fun hmain h => ⟨⟨.readAccess hmain h, trivial⟩, nofun⟩
      refine ⟨_, hat₂, buffer, .cons (haccess hmain htest) (.cons (haccess rfl hhead)
        (.cons (haccess rfl htail) (.cons (haccess rfl rfl) hrun))), ?_, hnone⟩
      rw [← List.singleton_append, ← List.append_assoc]
      exact hstep

theorem answered_rxRead {R : Type} {hat : Hat} {maximum : ℕ} {octets : Bytes}
    (hidle : hat.main = .idle) (hcontents : hat.ax25AFSKRX.buffer.contents = octets)
    (hpos : 1 ≤ maximum) (hlength : octets.length ≤ maximum) (hmax : maximum ≤ YWD_RX_MAX_READ)
    (timeout : ℚ) :
    ∃ events buffer, Answers R timerClock hat ⟨.rxRead maximum timeout, some (.ok octets)⟩ events
        { hat with main := .idle, ax25AFSKRX := { hat.ax25AFSKRX with buffer := buffer } } ∧
      buffer.contents = [] := by
  obtain ⟨events, hat₂, buffer, hrun, hstep, hnone⟩ := @exists_read timerClock maximum octets
    { hat with main := .reading (.begin maximum) } [] rfl hcontents (by simpa using hlength)
  have hexchange : Exchange timerClock hat _ _ _ _ :=
    .read hidle (command_rxRead timerClock 0 hat hpos hmax) hrun hstep
  have hrequest : (PortQuery.rxRead maximum timeout).request =
      some (.ok [0xE0, 5, 0x59, 0x02, BitVec.ofNat 8 maximum]) := by
    have hrange : 1 ≤ maximum ∧ maximum ≤ Protocol.MAX_RX_READ_BYTES := ⟨hpos, hmax⟩
    rw [PortQuery.request, Protocol.rxReadRequest, if_neg (not_not.mpr hrange)]
    rfl
  exact ⟨_, buffer, answers_exchange hrequest hexchange
    (parseRxRead_reply (hlength.trans hmax)), hnone⟩

end Reads

section Capturing

variable {R : Type} {timerClock : ℕ} {hat₀ : Hat} {delivered held : Bytes}
  {w : Hat × List HatEvent}

/-- The modem behind its past since `hat₀`: of the capture `delivered` has been read, and `held` is
in the ring. -/
structure Held (timerClock : ℕ) (hat₀ : Hat) (delivered held : Bytes) (w : Hat × List HatEvent) :
    Prop where
  run : (packetSystem timerClock).Run hat₀ w.2 w.1
  delivered_eq : (captureAccount w.2).delivered = delivered
  contents : w.1.ax25AFSKRX.buffer.contents = held
  partialOctet : w.1.ax25AFSKRX.partialOctet = 0
  partialBits : w.1.ax25AFSKRX.partialBits = 0

/-- The capture is going on. -/
structure Capturing (timerClock : ℕ) (hat₀ : Hat) (delivered held : Bytes)
    (w : Hat × List HatEvent) : Prop
    extends Listening timerClock w.1, Held timerClock hat₀ delivered held w where
  timer : w.1.sampleTimer = true

/-- The samples of an octet come in. -/
theorem Capturing.ticks (h : Capturing timerClock hat₀ delivered [] w) (hinitial : Initial hat₀)
    (octet : Byte) :
    ∃ events w', ((server R timerClock).recording.system.restrict
        (server R timerClock).recording.spontaneous).Run w events w' ∧
      Capturing timerClock hat₀ delivered [octet] w' := by
  have hmode := ((halfDuplex_run hinitial h.run).receiving h.active).2
  have hempty := SpscRing.contents_eq_nil_iff.mp h.contents
  have hroom : ¬ w.1.ax25AFSKRX.buffer.Full := by
    rw [SpscRing.full_iff, SpscRing.count_eq_zero_iff.mpr hempty]
    decide
  have hrun := @run_ticks timerClock w.1 h.timer hmode h.active (BYTE_BITS octet)
  obtain ⟨count, hsamples⟩ :=
    Capture.foldl_sample_octet h.active h.partialBits h.partialOctet hroom octet
  rw [hsamples] at hrun
  have hreceived := received_internal hrun
  have hcalm := calm_of_idle h.idle
  refine ⟨_, _, hrun.remembered_restrict w.2, {
    reached := h.reached.run hrun.of_restrict
    idle := h.idle
    ready := h.ready
    mode := h.mode
    active := h.active
    whole := h.whole
    run := h.run.append hrun.of_restrict
    delivered_eq := ?_
    contents := ?_
    partialOctet := h.partialOctet
    partialBits := h.partialBits
    timer := h.timer }⟩
  · rw [captureAccount_delivered _ hreceived.noStart, (hreceived.returned hcalm).1, h.delivered_eq,
      List.append_nil]
  · rw [SpscRing.contents_push _ hroom, h.contents, List.nil_append]

/-- Behind STOP. -/
structure Ended (timerClock : ℕ) (hat₀ : Hat) (delivered : Bytes) (w : Hat × List HatEvent) : Prop
    extends Halted timerClock w.1, Held timerClock hat₀ delivered [] w where
  mode_idle : w.1.modemState = .idle

/-- A call of the runtime, on the record. -/
theorem delivered_answers {c : PortCall R} {events : List HatEvent} {hat' : Hat}
    (hc : PortQuery.Receives c) (hinitial : Initial hat₀)
    (hrun : (packetSystem timerClock).Run hat₀ w.2 w.1) (hidle : w.1.main = .idle)
    (h : Answers R timerClock w.1 c events hat') :
    (packetSystem timerClock).Run hat₀ (w.2 ++ events) hat' ∧
      (captureAccount (w.2 ++ events)).delivered =
        (captureAccount w.2).delivered ++ octetsOf c := by
  have hreceived := Answers.received hc hinitial hrun h
  have hcalm := calm_of_idle hidle
  refine ⟨hrun.append ((server R timerClock).run_of_answers h), ?_⟩
  rw [captureAccount_delivered _ hreceived.noStart, (hreceived.returned hcalm).1]

/-- A read empties the ring. -/
theorem Held.read (h : Held timerClock hat₀ delivered held w) (hinitial : Initial hat₀)
    (hidle : w.1.main = .idle) {maximum : ℕ} (hpos : 1 ≤ maximum) (hlength : held.length ≤ maximum)
    (hmax : maximum ≤ YWD_RX_MAX_READ) (timeout : ℚ) :
    ∃ events buffer,
      let hat' := { w.1 with
        main := .idle
        ax25AFSKRX := { w.1.ax25AFSKRX with buffer := buffer } }
      Answers R timerClock w.1 ⟨.rxRead maximum timeout, some (.ok held)⟩ events hat' ∧
        Held timerClock hat₀ (delivered ++ held) [] (hat', w.2 ++ events) := by
  obtain ⟨events, buffer, hanswers, hnone⟩ := @answered_rxRead timerClock R w.1 maximum held hidle
    h.contents hpos hlength hmax timeout
  obtain ⟨hrun, hdelivered⟩ :=
    delivered_answers ⟨trivial, held, rfl⟩ hinitial h.run hidle hanswers
  refine ⟨events, buffer, hanswers, hrun, ?_, hnone, h.partialOctet, h.partialBits⟩
  rw [hdelivered, h.delivered_eq]
  rfl

theorem Capturing.read (h : Capturing timerClock hat₀ delivered held w) (hinitial : Initial hat₀)
    {maximum : ℕ} (hpos : 1 ≤ maximum) (hlength : held.length ≤ maximum)
    (hmax : maximum ≤ YWD_RX_MAX_READ) (timeout : ℚ) :
    ∃ events w', (server R timerClock).recording.answers w
        ⟨.rxRead maximum timeout, some (.ok held)⟩ events w' ∧
      Capturing timerClock hat₀ (delivered ++ held) [] w' := by
  obtain ⟨events, buffer, hanswers, hheld⟩ :=
    h.toHeld.read (R := R) hinitial h.idle hpos hlength hmax timeout
  exact ⟨events, (_, w.2 ++ events), ⟨hanswers, rfl⟩, {
    toHeld := hheld
    reached := ⟨hat₀, _, hinitial, hheld.run⟩
    idle := rfl
    ready := h.ready
    mode := h.mode
    active := h.active
    whole := h.whole
    timer := h.timer }⟩

theorem Ended.read (h : Ended timerClock hat₀ delivered w) (hinitial : Initial hat₀)
    {maximum : ℕ} (hpos : 1 ≤ maximum) (hmax : maximum ≤ YWD_RX_MAX_READ) (timeout : ℚ) :
    ∃ events w', (server R timerClock).recording.answers w
        ⟨.rxRead maximum timeout, some (.ok [])⟩ events w' ∧
      Ended timerClock hat₀ delivered w' := by
  obtain ⟨events, buffer, hanswers, hheld⟩ :=
    h.toHeld.read (R := R) hinitial h.idle hpos (Nat.zero_le _) hmax timeout
  rw [List.append_nil] at hheld
  exact ⟨events, (_, w.2 ++ events), ⟨hanswers, rfl⟩, {
    toHeld := hheld
    reached := ⟨hat₀, _, hinitial, hheld.run⟩
    idle := rfl
    ready := h.ready
    mode := h.mode
    free := ⟨h.free.ready, h.free.tx, h.free.engine, h.free.capture, h.free.mode⟩
    whole := h.whole
    mode_idle := h.mode_idle }⟩

/-- A report that leaves everything as it is. -/
theorem Held.report (h : Held timerClock hat₀ delivered held w) (hinitial : Initial hat₀)
    (hidle : w.1.main = .idle) (hwhole : w.1.ax25AFSKRX.droppedBytes = 0) (timeout : ℚ) :
    ∃ events status, Answers R timerClock w.1 ⟨.rxStatus timeout, some (.ok status)⟩ events w.1 ∧
      Held timerClock hat₀ delivered held (w.1, w.2 ++ events) ∧
      status.flags = w.1.rxFlags.toNat ∧ status.availableBytes = held.length ∧
      status.droppedBytes = 0 := by
  obtain ⟨events, hexchange⟩ : ∃ events, Exchange timerClock w.1 _ events _ w.1 :=
    exchange_rxStatus hidle
  have hcount : w.1.ax25AFSKRX.available < 512 := SpscRing.count_lt w.1.ax25AFSKRX.buffer
  have hparse := @parseRx3Status_reply ⟨w.1.rxFlags, w.1.ax25AFSKRX.available,
    w.1.ax25AFSKRX.samples, w.1.ax25AFSKRX.droppedBytes⟩ (lt_trans hcount (by decide))
    (lt_of_eq_of_lt hwhole (by decide))
  have hanswers : Answers R timerClock w.1 ⟨.rxStatus timeout, some (.ok _)⟩ events w.1 :=
    answers_exchange rfl hexchange hparse
  obtain ⟨hrun, hdelivered⟩ := delivered_answers ⟨trivial, _, rfl⟩ hinitial h.run hidle hanswers
  refine ⟨events, _, hanswers,
    ⟨hrun, ?_, h.contents, h.partialOctet, h.partialBits⟩, rfl, ?_, hwhole⟩
  · rw [hdelivered, h.delivered_eq]
    exact List.append_nil delivered
  · rw [← h.contents, SpscRing.contents_length]
    rfl

theorem Capturing.report (h : Capturing timerClock hat₀ delivered held w) (hinitial : Initial hat₀)
    (timeout : ℚ) :
    ∃ events status w', (server R timerClock).recording.answers w
        ⟨.rxStatus timeout, some (.ok status)⟩ events w' ∧
      Capturing timerClock hat₀ delivered held w' ∧
      RXOnlyPacketRuntime.requireActiveStatus status = .ok () := by
  obtain ⟨events, status, hanswers, hheld, hflags, -, hdropped⟩ :=
    h.toHeld.report (R := R) hinitial h.idle h.whole timeout
  obtain ⟨htx, hmode⟩ := (halfDuplex_run hinitial h.run).receiving h.active
  refine ⟨events, status, (w.1, w.2 ++ events), ⟨hanswers, rfl⟩,
    { h with toHeld := hheld, reached := ⟨hat₀, _, hinitial, hheld.run⟩ }, ?_⟩
  have hshown : status.flags = ACTIVE_RX_FLAGS := by
    rw [hflags, rxFlags, h.active, htx, h.ready, hmode]
    rfl
  rw [RXOnlyPacketRuntime.requireActiveStatus, if_neg (not_not.mpr hshown),
    RXOnlyPacketRuntime.requireNoDrops, if_neg (not_not.mpr hdropped)]

theorem Ended.report (h : Ended timerClock hat₀ delivered w) (hinitial : Initial hat₀)
    (timeout : ℚ) :
    ∃ events status w', (server R timerClock).recording.answers w
        ⟨.rxStatus timeout, some (.ok status)⟩ events w' ∧
      Ended timerClock hat₀ delivered w' ∧
      RXOnlyPacketRuntime.requireIdleStatus status = .ok () := by
  obtain ⟨events, status, hanswers, hheld, hflags, havailable, hdropped⟩ :=
    h.toHeld.report (R := R) hinitial h.idle h.whole timeout
  refine ⟨events, status, (w.1, w.2 ++ events), ⟨hanswers, rfl⟩,
    { h with toHeld := hheld, reached := ⟨hat₀, _, hinitial, hheld.run⟩ }, ?_⟩
  have hshown : status.flags = IDLE_RX_FLAGS := by
    rw [hflags, rxFlags, h.free.capture, h.free.tx, h.ready, h.mode_idle]
    rfl
  have hnone : status.availableBytes = 0 := havailable
  rw [RXOnlyPacketRuntime.requireIdleStatus, if_neg (not_not.mpr hshown),
    if_neg (not_not.mpr hnone), RXOnlyPacketRuntime.requireNoDrops,
    if_neg (not_not.mpr hdropped)]

theorem Capturing.stop (h : Capturing timerClock hat₀ delivered [] w) (hinitial : Initial hat₀)
    (timeout : ℚ) :
    ∃ events w', (server R timerClock).recording.answers w
        ⟨.rxStop timeout, some (.ok ())⟩ events w' ∧ Ended timerClock hat₀ delivered w' := by
  obtain ⟨events, hexchange, hhalted⟩ := h.toListening.stopped
  have hanswers : Answers R timerClock w.1 ⟨.rxStop timeout, some (.ok ())⟩ events w.1.stopped :=
    answers_exchange rfl hexchange (parseAck_replyFrame MMDVM_YWD_RX)
  obtain ⟨hrun, hdelivered⟩ := delivered_answers ⟨trivial, _, rfl⟩ hinitial h.run h.idle hanswers
  refine ⟨events, (w.1.stopped, w.2 ++ events), ⟨hanswers, rfl⟩, {
    toHalted := hhalted
    run := hrun
    delivered_eq := ?_
    contents := ?_
    partialOctet := ?_
    partialBits := ?_
    mode_idle := ?_ }⟩
  · rw [hdelivered, h.delivered_eq]
    exact List.append_nil delivered
  all_goals rw [h.toListening.stopped_eq]
  · exact h.contents
  · exact h.partialOctet
  · exact h.partialBits

/-- Nothing of an ended capture is missing. -/
theorem Ended.bits (h : Ended timerClock hat₀ delivered w) (hinitial : Initial hat₀) :
    (captureAccount w.2).bits = delivered.flatMap BYTE_BITS := by
  obtain ⟨pending, hbits, hpending, -⟩ := delivered_whole hinitial h.run h.whole
  rw [h.partialBits, List.length_eq_zero_iff] at hpending
  have hnone : undelivered w.1 = [] := by
    rw [undelivered, h.idle, h.contents]
    rfl
  rw [← hbits, hpending, hnone, h.delivered_eq, List.append_nil, List.append_nil]

/-- A START of a free modem, on the record. -/
theorem start_answered {hat : Hat} {past : List HatEvent}
    (hpast : (packetSystem timerClock).Run hat₀ past hat) (hwaiting : Waiting timerClock hat)
    (hfree : hat.Free) (htimer : timerStarts timerClock = true) (timeout : ℚ) :
    ∃ events w', (server R timerClock).recording.answers (hat, past)
        ⟨.rxStart timeout, some (.ok ())⟩ events w' ∧ Capturing timerClock hat₀ [] [] w' := by
  obtain ⟨events, hexchange, hlistening⟩ := hwaiting.started hfree
  have hanswers : Answers R timerClock hat ⟨.rxStart timeout, some (.ok ())⟩ events
      (hat.started timerClock) :=
    answers_exchange rfl hexchange (parseAck_replyFrame MMDVM_YWD_RX)
  obtain ⟨-, start, rfl, hcapture⟩ := answered_rxStart hanswers
  refine ⟨_, (hat.started timerClock, past ++ [start]), ⟨hanswers, rfl⟩, {
    toListening := hlistening
    run := hpast.append hexchange.run
    delivered_eq := ?_
    contents := SpscRing.contents_eq_nil_iff.mpr rfl
    partialOctet := rfl
    partialBits := rfl
    timer := ?_ }⟩
  · rw [captureAccount_append, List.filterMap_cons, hcapture]
    rfl
  · rw [started, htimer, Bool.or_true]

end Capturing

end Hat

/-! ### The runtime -/

namespace RXOnlyPacketRuntime

open Hat

variable {R : Type} {timerClock : ℕ} {metricTable : BitVec CORR_WINDOW → ℚ}
  {config : RXRuntimeConfig} {hat₀ : Hat} {K K' : Hat × List HatEvent → Prop} {started : Bool}

/-- A runtime that has not failed, with its decoder in use. -/
structure Working (metricTable : BitVec CORR_WINDOW → ℚ) (started : Bool)
    (s : RXOnlyPacketRuntime) : Prop where
  fed : ∃ calls returned, init.decoder.feedCalls metricTable DECODER_STEPS calls =
    some (returned, s.decoder)
  started_eq : s.rxStarted = started
  failure_eq : s.failure = none

theorem publishAll_served (items : List StreamingFrame)
    (hparses : ∀ item ∈ items, item.Parses) :
    (server R timerClock).recording.Achieves (fun s w => Working metricTable started s ∧ K w)
      (publishAll items) fun _ s w => Working metricTable started s ∧ K w := by
  induction items with
  | nil => exact achieves_pure fun s w h => h
  | cons item items ih =>
      obtain ⟨parsed, hparsed⟩ := hparses item List.mem_cons_self
      refine Achieves.bind (M := fun _ s w => Working metricTable started s ∧ K w) ?_ fun _ =>
        ih fun item' hitem' => hparses item' (List.mem_cons_of_mem item hitem')
      refine Achieves.bind (M := fun _ s w => Working metricTable started s ∧ K w)
        (achieves_ofExcept fun s w h => ⟨parsed, hparsed, h⟩) fun _ => ?_
      exact achieves_modify fun s w h => ⟨⟨h.1.fed, h.1.started_eq, h.1.failure_eq⟩, h.2⟩

/-- The decoder takes every chunk. -/
theorem consume_served (packed : Bytes) :
    (server R timerClock).recording.Achieves (fun s w => Working metricTable started s ∧ K w)
      (consume metricTable packed) fun _ s w => Working metricTable started s ∧ K w := by
  refine Achieves.bind (M := fun fresh s w => (∀ item ∈ fresh, item.Parses) ∧
    Working metricTable started s ∧ K w) ?_ fun fresh => ?_
  · unfold feedDecoder
    refine Achieves.bind (M := fun a s w => a = s ∧ Working metricTable started s ∧ K w)
      (achieves_get fun s w h => And.intro rfl h) fun a => ?_
    intro s w h
    obtain ⟨rfl, ⟨⟨calls, returned, hfed⟩, hstarted, hfailure⟩, hK⟩ := h
    obtain ⟨fresh, decoder, hfeed, hparses⟩ :=
      StreamingBell202Decoder.exists_feed metricTable (by decide) hfed packed
    rw [hfeed]
    dsimp only
    have hnext := StreamingBell202Decoder.feedCalls_concat metricTable packed hfed
    rw [hfeed] at hnext
    refine ⟨fresh, { a with decoder := decoder }, [], [], w, ?_, .nil w, hparses,
      ⟨⟨_, _, hnext⟩, hstarted, hfailure⟩, hK⟩
    exact (completes_modify _ a).bind (completes_ret fresh _)
  · intro s w ⟨hparses, hs⟩
    have hcount : (server R timerClock).recording.Achieves
        (fun s w => Working metricTable started s ∧ K w)
        (modify fun s : RXOnlyPacketRuntime =>
          { s with packedBytes := s.packedBytes + packed.length })
        fun _ s w => Working metricTable started s ∧ K w :=
      achieves_modify fun s w h => ⟨⟨h.1.fed, h.1.started_eq, h.1.failure_eq⟩, h.2⟩
    exact (hcount.bind fun _ => publishAll_served fresh hparses) s w hs

/-- A call that is no business of the modem. -/
theorem other_served {σ : Type} {J : σ → Hat × List HatEvent → Prop} {q : PortQuery}
    (hq : q.request = none) (a : PortQuery.Answer R q) :
    (server R timerClock).recording.Achieves J (call q) fun _ => J :=
  achieves_call fun _ w h => ⟨a, [], w, ⟨.none hq, (List.append_nil w.2).symm⟩, h⟩

theorem checkStatus_served {require : RX3Status → Except PyError Unit} {timeout : ℚ}
    (h : ∀ w, K w → ∃ events status w', (server R timerClock).recording.answers w
      ⟨.rxStatus timeout, some (.ok status)⟩ events w' ∧ K w' ∧ require status = .ok ()) :
    (server R timerClock).recording.Achieves (fun s w => Working metricTable started s ∧ K w)
      (checkStatus require timeout) fun _ s w => Working metricTable started s ∧ K w := by
  refine Achieves.bind (M := fun status s w => require status = .ok () ∧
    Working metricTable started s ∧ K w) (achieves_call fun s w hs => ?_) fun status => ?_
  · obtain ⟨events, status, w', hanswers, hK, hrequire⟩ := h w hs.2
    exact ⟨status, events, w', hanswers, hrequire, hs.1, hK⟩
  refine Achieves.bind (M := fun _ s w => require status = .ok () ∧
    Working metricTable started s ∧ K w) (achieves_modify fun s w hs => ?_) fun _ =>
      achieves_ofExcept fun s w hs => ⟨(), hs.1, hs.2⟩
  exact ⟨hs.1, ⟨hs.2.1.fed, hs.2.1.started_eq, hs.2.1.failure_eq⟩, hs.2.2⟩

theorem readChunk_served {chunk : Bytes} {timeout : ℚ}
    (h : ∀ w, K w → ∃ events w', (server R timerClock).recording.answers w
      ⟨.rxRead config.readMaximum timeout, some (.ok chunk)⟩ events w' ∧ K' w') :
    (server R timerClock).recording.Achieves (fun s w => Working metricTable started s ∧ K w)
      (readChunk config timeout)
      fun a s w => a = chunk ∧ Working metricTable started s ∧ K' w := by
  refine Achieves.bind (M := fun a s w => a = chunk ∧ Working metricTable started s ∧ K' w)
    (achieves_call fun s w hs => ?_) fun a => ?_
  · obtain ⟨events, w', hanswers, hK'⟩ := h w hs.2
    exact ⟨chunk, events, w', hanswers, rfl, hs.1, hK'⟩
  refine Achieves.bind (M := fun _ s w => a = chunk ∧ Working metricTable started s ∧ K' w)
    (achieves_modify fun s w hs => ?_) fun _ => achieves_pure fun s w hs => hs
  exact ⟨hs.1, ⟨hs.2.1.fed, hs.2.1.started_eq, hs.2.1.failure_eq⟩, hs.2.2⟩

theorem handle_served (chunk : Bytes) :
    (server R timerClock).recording.Achieves (fun s w => Working metricTable started s ∧ K w)
      (handle metricTable config chunk) fun _ s w => Working metricTable started s ∧ K w := by
  unfold handle
  split_ifs with hchunk hsleep
  · exact consume_served chunk
  · exact other_served rfl ()
  · exact achieves_pure fun s w hs => hs

section Captures

variable (hinitial : Initial hat₀)
include hinitial

theorem checkDue_served (delivered : Bytes) (nextStatus : ℚ) :
    (server R timerClock).recording.Achieves
      (fun s w => Working metricTable true s ∧ Capturing timerClock hat₀ delivered [] w)
      (checkDue config nextStatus)
      fun _ s w => Working metricTable true s ∧ Capturing timerClock hat₀ delivered [] w := by
  refine (other_served rfl (0 : ℚ)).bind fun now => ?_
  split_ifs with hdue
  · exact (checkStatus_served fun w hw => hw.report hinitial _).bind fun _ =>
      achieves_pure fun s w hs => hs
  · exact achieves_pure fun s w hs => hs

/-- A round reads the octet that has come in just before it. -/
theorem round_served (delivered : Bytes) (octet : Byte) (nextStatus : ℚ) :
    (server R timerClock).recording.Achieves
      (fun s w => Working metricTable true s ∧ Capturing timerClock hat₀ delivered [] w)
      (round metricTable config nextStatus)
      fun _ s w => Working metricTable true s ∧
        Capturing timerClock hat₀ (delivered ++ [octet]) [] w := by
  have hread := @readChunk_served R timerClock metricTable config
    (Capturing timerClock hat₀ delivered [octet])
    (Capturing timerClock hat₀ (delivered ++ [octet]) []) true [octet]
    config.transactionTimeoutSeconds fun w hw => hw.read hinitial config.one_le_readMaximum
      config.one_le_readMaximum config.readMaximum_le _
  refine (hread.behind fun s w hs => ?_).bind fun chunk => ?_
  · obtain ⟨events, w', hrun, hw'⟩ := hs.2.ticks (R := R) hinitial octet
    exact ⟨events, w', hrun, hs.1, hw'⟩
  refine ((handle_served chunk).weaken (fun s w hs => hs.2) fun _ s w hs => hs).bind fun _ => ?_
  exact checkDue_served hinitial _ nextStatus

theorem rounds_served (octets : Bytes) : ∀ delivered nextStatus,
    (server R timerClock).recording.Achieves
      (fun s w => Working metricTable true s ∧ Capturing timerClock hat₀ delivered [] w)
      (rounds metricTable config octets.length nextStatus)
      fun _ s w => Working metricTable true s ∧
        Capturing timerClock hat₀ (delivered ++ octets) [] w := by
  induction octets with
  | nil =>
      intro delivered nextStatus
      rw [List.append_nil]
      exact achieves_pure fun s w hs => hs
  | cons octet octets ih =>
      intro delivered nextStatus
      rw [List.length_cons]
      refine (round_served hinitial delivered octet nextStatus).bind fun nextStatus' => ?_
      have hrest := ih (delivered ++ [octet]) nextStatus'
      rwa [List.append_assoc, List.singleton_append] at hrest

theorem run_served (octets : Bytes) :
    (server R timerClock).recording.Achieves
      (fun s w => Working metricTable true s ∧ Capturing timerClock hat₀ [] [] w)
      (run metricTable config octets.length)
      fun _ s w => Working metricTable true s ∧ Capturing timerClock hat₀ octets [] w := by
  refine (other_served rfl (0 : ℚ)).bind fun now => ?_
  exact (rounds_served hinitial octets [] _).attempt_bind fun _ => achieves_pure fun s w hs => hs

theorem stopAndDrain_served (octets : Bytes) (timeout : ℚ) :
    (server R timerClock).recording.Achieves
      (fun s w => Working metricTable true s ∧ Capturing timerClock hat₀ octets [] w)
      (stopAndDrain metricTable config timeout)
      fun _ s w => Working metricTable false s ∧ Hat.Ended timerClock hat₀ octets w := by
  refine Achieves.bind (M := fun a s w => a.rxStarted = true ∧ Working metricTable true s ∧
    Capturing timerClock hat₀ octets [] w)
    (achieves_get fun s w hs => ⟨hs.1.started_eq, hs⟩) fun a => ?_
  split_ifs with hstarted
  · refine Achieves.bind (M := fun _ s w => Working metricTable true s ∧
      Hat.Ended timerClock hat₀ octets w) (achieves_call fun s w hs => ?_) fun _ => ?_
    · obtain ⟨events, w', hanswers, hended⟩ := hs.2.2.stop (R := R) hinitial timeout
      exact ⟨(), events, w', hanswers, hs.2.1, hended⟩
    refine Achieves.bind (M := fun _ s w => Working metricTable false s ∧
      Hat.Ended timerClock hat₀ octets w)
      (achieves_modify fun s w hs => ⟨⟨hs.1.fed, rfl, hs.1.failure_eq⟩, hs.2⟩) fun _ => ?_
    refine Achieves.bind (M := fun _ s w => Working metricTable false s ∧
      Hat.Ended timerClock hat₀ octets w) (achieves_iterate ?_) fun _ =>
        checkStatus_served fun w hw => hw.report hinitial timeout
    -- The ring is empty by now, so that the first read is the last one.
    have hread := @readChunk_served R timerClock metricTable config
      (Hat.Ended timerClock hat₀ octets) (Hat.Ended timerClock hat₀ octets) false [] timeout
      fun w hw => hw.read hinitial config.one_le_readMaximum config.readMaximum_le timeout
    refine hread.bind fun chunk => ?_
    by_cases hchunk : chunk = []
    · rw [if_pos hchunk]
      exact achieves_pure fun s w hs => ⟨(), rfl, hs.2⟩
    · intro s w hs
      exact absurd hs.1 hchunk
  · intro s w hs
    exact absurd hs.1 hstarted

theorem stop_served (octets : Bytes) (timeout : ℚ) :
    (server R timerClock).recording.Achieves
      (fun s w => Working metricTable true s ∧ Capturing timerClock hat₀ octets [] w)
      (stop metricTable config timeout) fun _ _ w => Hat.Ended timerClock hat₀ octets w := by
  refine (stopAndDrain_served hinitial octets timeout).attempt_bind fun _ => ?_
  refine Achieves.bind (M := fun a _ w => a.failure = none ∧ Hat.Ended timerClock hat₀ octets w)
    (achieves_get fun s w hs => ⟨hs.1.failure_eq, hs.2⟩) fun a => ?_
  by_cases hfailure : a.failure = none
  · rw [hfailure]
    exact achieves_pure fun s w hs => hs.2
  · intro s w hs
    exact absurd hs.1 hfailure

end Captures

/-- The part of a start that the stock firmware answers, with the answers of an armed modem. -/
theorem configure_completes (config : RXRuntimeConfig) (timeout : ℚ) (s : RXOnlyPacketRuntime) :
    ∃ setup, Completes (configure config timeout : PortProg R RXOnlyPacketRuntime Unit) s ()
      { s with identity := config.expectedIdentity } setup := by
  have hversion := @completes_call _ (PortQuery.Answer R) PyError _ _ (.getVersion timeout)
    (⟨1, config.expectedIdentity⟩ : VersionResponse) s
  have hrf := @completes_call _ (PortQuery.Answer R) PyError _ _ (.rfStatus timeout)
    (⟨ARMED_IDLE_RF_FLAGS, 0, 0⟩ : RFStatus) { s with identity := config.expectedIdentity }
  refine hversion.exists_bind ?_
  rw [if_neg (not_not.mpr rfl)]
  refine (completes_modify _ s).exists_bind ?_
  cases config.frequencyHz with
  | none => exact ⟨[], completes_ret () _⟩
  | some frequencyHz =>
      refine (completes_call () _).exists_bind ?_
      refine (completes_call () _).exists_bind (hrf.exists_bind ?_)
      rw [if_neg (by simp)]
      exact ⟨[], completes_ret () _⟩

/-- A START of a free modem, and the check of its capture. -/
theorem activate_served (hinitial : Initial hat₀) (timeout : ℚ) :
    (server R timerClock).recording.Achieves
      (fun s w => Working metricTable false s ∧ Capturing timerClock hat₀ [] [] w)
      (do
        modify fun s => { s with rxStarted := true }
        checkStatus requireActiveStatus timeout)
      fun _ s w => Working metricTable true s ∧ Capturing timerClock hat₀ [] [] w := by
  refine Achieves.bind (M := fun _ s w => Working metricTable true s ∧
    Capturing timerClock hat₀ [] [] w)
    (achieves_modify fun s w hs => ⟨⟨hs.1.fed, rfl, hs.1.failure_eq⟩, hs.2⟩) fun _ => ?_
  exact checkStatus_served fun w hw => hw.report hinitial timeout

/-- The worker and the stop behind it. -/
theorem worked_served (hinitial : Initial hat₀) (octets : Bytes) (timeout : ℚ) :
    (server R timerClock).recording.Achieves
      (fun s w => Working metricTable true s ∧ Capturing timerClock hat₀ [] [] w)
      (do
        run metricTable config octets.length
        stop metricTable config timeout)
      fun _ _ w => Hat.Ended timerClock hat₀ octets w :=
  (run_served hinitial octets).bind fun _ => stop_served hinitial octets timeout

theorem session_achieved {hat : Hat} {past : List HatEvent} (hinitial : Initial hat₀)
    (hpast : (packetSystem timerClock).Run hat₀ past hat) (hwaiting : Waiting timerClock hat)
    (hfree : hat.Free) (htimer : timerStarts timerClock = true)
    (metricTable : BitVec CORR_WINDOW → ℚ) (config : RXRuntimeConfig)
    (startTimeout stopTimeout : ℚ) (octets : Bytes) :
    ∃ s setup behind events hat',
      Runs (session metricTable config startTimeout octets.length stopTimeout) init (.returned ())
        s (setup ++ ⟨.rxStart startTimeout, some (.ok ())⟩ :: behind) ∧
      (server R timerClock).Serves hat (⟨.rxStart startTimeout, some (.ok ())⟩ :: behind) events
        hat' ∧
      (captureAccount (past ++ events)).bits = octets.flatMap BYTE_BITS ∧
      (captureAccount (past ++ events)).delivered = octets ∧ hat'.ax25AFSKRX.droppedBytes = 0 := by
  obtain ⟨setup, hconfigure⟩ := @configure_completes R config startTimeout init
  have hworking : Working metricTable false { init with identity := config.expectedIdentity } :=
    ⟨⟨[], [], rfl⟩, rfl, rfl⟩
  obtain ⟨began, w₁, hstart, hcapturing⟩ :=
    @start_answered R timerClock hat₀ hat past hpast hwaiting hfree htimer startTimeout
  obtain ⟨⟨⟩, s₂, t₂, events₂, w₂, hactivate, hserves₂, hworking₂⟩ :=
    activate_served hinitial startTimeout _ w₁ ⟨hworking, hcapturing⟩
  obtain ⟨⟨⟩, s', t₃, events₃, w', hworked, hserves₃, hended⟩ :=
    @worked_served R timerClock metricTable config hat₀ hinitial octets stopTimeout s₂ w₂ hworking₂
  have hcall := @completes_call _ (PortQuery.Answer R) PyError _ _ (.rxStart startTimeout) ()
    { init with identity := config.expectedIdentity }
  have hactive : Completes (activate startTimeout) _ () s₂
      (⟨.rxStart startTimeout, some (.ok ())⟩ :: t₂) := hcall.bind hactivate
  have hbegun : Completes (start config startTimeout) init () s₂
      (setup ++ ⟨.rxStart startTimeout, some (.ok ())⟩ :: t₂ ++ []) :=
    (hconfigure.bind hactive).attempt.bind (completes_ret () s₂)
  have hsession : Completes (session metricTable config startTimeout octets.length stopTimeout)
      init () s' (setup ++ ⟨.rxStart startTimeout, some (.ok ())⟩ :: t₂ ++ [] ++ t₃) :=
    hbegun.bind hworked
  rw [List.append_nil, List.append_assoc] at hsession
  have hserves := (Serves.call hstart (hserves₂.append hserves₃)).recorded
  have hevents : w'.2 = past ++ _ := hserves.2
  refine ⟨s', setup, t₂ ++ t₃, _, w'.1, hsession.runs, hserves.1, ?_⟩
  rw [← hevents]
  exact ⟨hended.bits hinitial, hended.delivered_eq, hended.whole⟩

end RXOnlyPacketRuntime

end YwdTnc
