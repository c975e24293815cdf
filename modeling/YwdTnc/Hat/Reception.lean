import YwdTnc.Hat.Heard
import YwdTnc.Hat.Service
import YwdTnc.Service.RxRuntime

/-!
# What a session of the receive runtime has decoded

The receive runtime against the modem that answers it. Every answered read hands over the octets
that it has taken out of the ring, and nothing else does; behind STOP no sample comes in, so that a
report of an empty ring is the end of the capture. A session that ends in good order has therefore
put the samples between START and STOP through its decoder, all of them and in their order
(`decodes_of_stopped`), and it has published the frame of every burst among them
(`Decodes.publishes`).
-/

namespace YwdTnc

open Coding Interaction Prog SerialPort

namespace Hat

/-! ### What a run returns -/

/-- The octets that the reads of a run have returned. -/
def returnedOctets (events : List HatEvent) : Bytes :=
  events.flatMap fun
    | .returned out => out
    | _ => []

@[simp] theorem returnedOctets_append (events events' : List HatEvent) :
    returnedOctets (events ++ events') = returnedOctets events ++ returnedOctets events' :=
  List.flatMap_append

theorem captureAccount_append (past events : List HatEvent) :
    captureAccount (past ++ events) =
      (events.filterMap captureEvent).foldl Capture.Account.note (captureAccount past) := by
  rw [captureAccount, List.filterMap_append, Capture.Account.of, List.foldl_append]
  rfl

/-- The next of a run: no START, and what it delivers is what a read returns. -/
theorem note_delivered {event : HatEvent} (h : captureEvent event ≠ some .start)
    (account : Capture.Account) :
    ((captureEvent event).elim account account.note).delivered =
      account.delivered ++ returnedOctets [event] := by
  cases event with
  | command buffer reply =>
      rw [captureEvent] at h ⊢
      cases heffect : effect buffer reply with
      | start =>
          rw [heffect] at h
          exact absurd rfl h
      | _ => simp [captureEffect, returnedOctets, Capture.Account.note]
  | tick bit =>
      simp only [captureEvent, Option.elim_some, Capture.Account.note]
      split <;> simp [returnedOctets]
  | _ => simp [captureEvent, returnedOctets, Capture.Account.note]

/-- Between two STARTs the host has what the reads return. -/
theorem captureAccount_delivered (past : List HatEvent) {events : List HatEvent}
    (h : ∀ event ∈ events, captureEvent event ≠ some .start) :
    (captureAccount (past ++ events)).delivered =
      (captureAccount past).delivered ++ returnedOctets events := by
  rw [captureAccount_append]
  generalize captureAccount past = account
  induction events generalizing account with
  | nil => simp [returnedOctets]
  | cons event events ih =>
      have hfirst := note_delivered (h event List.mem_cons_self) account
      have hrest := ih (fun event hevent => h event (List.mem_cons_of_mem _ hevent))
      rw [List.filterMap_cons, ← List.singleton_append, returnedOctets_append, ← List.append_assoc,
        ← hfirst]
      cases hcapture : captureEvent event with
      | none => exact hrest account
      | some event' => exact hrest (account.note event')

section Received

variable {R : Type} {timerClock : ℕ} {hat₀ hat hat' : Hat} {past events : List HatEvent}

/-- No read is going on. -/
def Calm (hat : Hat) : Prop := ∀ call, hat.main ≠ .reading call

theorem captureEvent_internal {event : HatEvent} (h : internal hat event) :
    captureEvent event ≠ some .start := by
  cases event with
  | command buffer reply => exact absurd rfl (h buffer reply)
  | _ => nofun

theorem calm_of_idle (h : hat.main = .idle) : Calm hat := by
  intro call hmain
  rw [h] at hmain
  cases hmain

theorem Calm.run (h : Calm hat) (hrun : (internalSystem timerClock).Run hat events hat') :
    Calm hat' := by
  intro call hmain
  obtain ⟨call₀, hmain₀, -⟩ := (internal_run_main hrun).1 call hmain
  exact h call₀ hmain₀

/-- A step of the modem itself returns nothing, unless a read ends with it. -/
theorem returnedOctets_step {event : HatEvent}
    (hstep : (internalSystem timerClock).step hat event hat') :
    returnedOctets [event] = [] ∨ (∃ call, hat.main = .reading call) ∧ hat'.main = .idle := by
  obtain ⟨⟨hstep, -⟩, -⟩ := hstep
  cases hstep with
  | returned hmain haccess => exact .inr ⟨⟨_, hmain⟩, rfl⟩
  | _ => exact .inl rfl

/-- The modem returns nothing by itself. -/
theorem Calm.returnedOctets (h : Calm hat)
    (hrun : (internalSystem timerClock).Run hat events hat') :
    returnedOctets events = [] := by
  induction hrun with
  | nil => rfl
  | @cons hat hat₁ hat' event events hstep hrun ih =>
      have hcalm₁ : Calm hat₁ := h.run (.cons hstep (.nil _))
      rw [← List.singleton_append, returnedOctets_append, ih hcalm₁, List.append_nil]
      refine (returnedOctets_step hstep).resolve_right fun hread => ?_
      obtain ⟨⟨call, hmain⟩, -⟩ := hread
      exact h call hmain

/-- A read that is still going on has returned nothing. -/
theorem returnedOctets_reading (hrun : (internalSystem timerClock).Run hat events hat')
    (hreading : ∃ call, hat'.main = .reading call) : returnedOctets events = [] := by
  induction hrun with
  | nil => rfl
  | @cons hat hat₁ hat' event events hstep hrun ih =>
      rw [← List.singleton_append, returnedOctets_append, ih hreading, List.append_nil]
      refine (returnedOctets_step hstep).resolve_right fun hread => ?_
      obtain ⟨call, hmain⟩ := hreading
      obtain ⟨call₀, hmain₀, -⟩ := (internal_run_main hrun).1 call hmain
      rw [hread.2] at hmain₀
      cases hmain₀

/-! ### The calls of the runtime -/

/-- What answers have done to the modem that have handed over `octets`: they have started no
capture, and an ended one goes on to be ended. -/
structure Received (octets : Bytes) (hat : Hat) (events : List HatEvent) (hat' : Hat) : Prop where
  noStart : ∀ event ∈ events, captureEvent event ≠ some .start
  ended : hat.ax25AFSKRX.active = false → hat'.ax25AFSKRX.active = false
  returned : Calm hat → returnedOctets events = octets ∧ Calm hat'

theorem Received.append {octets octets' : Bytes} {hat₁ : Hat} {events' : List HatEvent}
    (h : Received octets hat events hat₁) (h' : Received octets' hat₁ events' hat') :
    Received (octets ++ octets') hat (events ++ events') hat' := by
  refine ⟨fun event hevent => ?_, h'.ended ∘ h.ended, fun hcalm => ?_⟩
  · rcases List.mem_append.mp hevent with hevent | hevent
    · exact h.noStart event hevent
    · exact h'.noStart event hevent
  · obtain ⟨hreturned, hcalm₁⟩ := h.returned hcalm
    obtain ⟨hreturned', hcalm'⟩ := h'.returned hcalm₁
    exact ⟨by rw [returnedOctets_append, hreturned, hreturned'], hcalm'⟩

theorem noStart_internal_run (hrun : (internalSystem timerClock).Run hat events hat') :
    ∀ event ∈ events, captureEvent event ≠ some .start := by
  induction hrun with
  | nil => nofun
  | cons hstep _ ih =>
      intro event hevent
      rcases List.mem_cons.mp hevent with rfl | hevent
      · exact captureEvent_internal hstep.2
      · exact ih event hevent

theorem received_internal (hrun : (internalSystem timerClock).Run hat events hat') :
    Received [] hat events hat' where
  noStart := noStart_internal_run hrun
  ended hended := (internal_run_keeps hrun).2.2.trans hended
  returned hcalm := ⟨hcalm.returnedOctets hrun, hcalm.run hrun⟩

/-- What an exchange takes between its command and its last step. -/
theorem noStart_exchange {command last : HatEvent} {inner : List HatEvent}
    (hrun : (internalSystem timerClock).Run hat inner hat')
    (hcommand : captureEvent command ≠ some .start) (hlast : captureEvent last ≠ some .start) :
    ∀ event ∈ command :: (inner ++ [last]), captureEvent event ≠ some .start := by
  intro event hevent
  rcases List.mem_cons.mp hevent with rfl | hevent
  · exact hcommand
  · rcases List.mem_append.mp hevent with hevent | hevent
    · exact noStart_internal_run hrun event hevent
    · rwa [List.mem_singleton.mp hevent]

theorem received_rxRead {maximum : ℕ} {timeout : ℚ} {chunk : Bytes} (hinitial : Initial hat₀)
    (hpast : (packetSystem timerClock).Run hat₀ past hat)
    (h : Answers R timerClock hat ⟨.rxRead maximum timeout, some (.ok chunk)⟩ events hat') :
    Received chunk hat events hat' := by
  obtain ⟨request, response, hrequest, hexchange, hparse⟩ :=
    h.exchanged (show (PortQuery.rxRead maximum timeout).request ≠ none from nofun)
  obtain ⟨inner, out, hat₂, rfl, hrun, hstep, -, hout⟩ :=
    rxRead_exchanged hinitial hpast (Option.some.inj hrequest) hexchange
  obtain rfl : chunk = out := Except.ok.inj (hparse.symm.trans hout)
  have hinternal := hrun.append (.cons ⟨⟨hstep, trivial⟩, nofun⟩ (.nil _))
  refine ⟨noStart_exchange hrun nofun nofun, fun hended => ?_, fun _ => ⟨?_, ?_⟩⟩
  · exact (internal_run_keeps hinternal).2.2.trans hended
  · have hmain : ∃ call, hat₂.main = .reading call := by
      cases hstep with
      | returned hmain haccess => exact ⟨_, hmain⟩
    rw [← List.singleton_append, returnedOctets_append, returnedOctets_append,
      returnedOctets_reading hrun hmain]
    simp [returnedOctets]
  · cases hstep with
    | returned hmain haccess => exact calm_of_idle rfl

theorem received_rxStatus {timeout : ℚ} {status : RX3Status} (hinitial : Initial hat₀)
    (hpast : (packetSystem timerClock).Run hat₀ past hat)
    (h : Answers R timerClock hat ⟨.rxStatus timeout, some (.ok status)⟩ events hat') :
    Received [] hat events hat' := by
  obtain ⟨request, response, hrequest, hexchange, -⟩ :=
    h.exchanged (show (PortQuery.rxStatus timeout).request ≠ none from nofun)
  obtain rfl : request = [0xE0, 4, 0x59, 0x04] := request_unique hrequest rfl
  obtain ⟨inner, shown, hat₂, rfl, hrun, hstep, -, -⟩ := rxStatus_exchanged hinitial hpast hexchange
  have hinternal := hrun.append (.cons ⟨⟨hstep, trivial⟩, nofun⟩ (.nil _))
  refine ⟨noStart_exchange hrun nofun nofun, fun hended => ?_, fun _ => ⟨?_, ?_⟩⟩
  · exact (internal_run_keeps hinternal).2.2.trans hended
  · have hcalm : Calm { hat with main := .reporting ⟨hat.rxFlags, .flags⟩ } := by
      intro call hidle
      cases hidle
    rw [← List.singleton_append, returnedOctets_append, returnedOctets_append,
      hcalm.returnedOctets hrun]
    rfl
  · cases hstep with
    | reported hmain haccess => exact calm_of_idle rfl

theorem received_rxStop {timeout : ℚ}
    (h : Answers R timerClock hat ⟨.rxStop timeout, some (.ok ())⟩ events hat') :
    hat' = hat.stopped ∧ Received [] hat events hat' := by
  obtain ⟨request, response, hrequest, hexchange, -⟩ :=
    h.exchanged (show (PortQuery.rxStop timeout).request ≠ none from nofun)
  obtain rfl : request = [0xE0, 4, 0x59, 0x03] := request_unique hrequest rfl
  clear h
  cases hexchange with
  | frame hidle hcommand =>
      rw [command_rxStop] at hcommand
      cases hcommand
      refine ⟨rfl, fun event hevent => ?_, fun hended => ?_,
        fun hcalm => ⟨rfl, fun call hmain => ?_⟩⟩
      · rw [List.mem_singleton.mp hevent]
        decide
      · unfold stopped
        split
        · rfl
        · exact hended
      · unfold stopped at hmain
        split at hmain <;> exact hcalm call hmain
  | read hidle hcommand | status hidle hcommand =>
      rw [command_rxStop] at hcommand
      cases hcommand

theorem Answers.received {c : PortCall R} (hc : PortQuery.Receives c) (hinitial : Initial hat₀)
    (hpast : (packetSystem timerClock).Run hat₀ past hat)
    (h : Answers R timerClock hat c events hat') : Received (octetsOf c) hat events hat' := by
  obtain ⟨q, answer⟩ := c
  cases q with
  | rxRead =>
      obtain ⟨chunk, rfl⟩ : ∃ chunk : Bytes, answer = some (.ok chunk) := hc.answered
      exact received_rxRead hinitial hpast h
  | rxStatus =>
      obtain ⟨status, rfl⟩ : ∃ status : RX3Status, answer = some (.ok status) := hc.answered
      exact received_rxStatus hinitial hpast h
  | rxStop =>
      obtain ⟨_, rfl⟩ : ∃ a : Unit, answer = some (.ok a) := hc.answered
      exact (received_rxStop h).2
  | monotonic | sleep =>
      obtain ⟨a, hanswer⟩ := hc.answered
      cases h with
      | none => exact @received_internal timerClock _ _ _ (.nil hat)
      | answered hrequest => cases hrequest
      | failed hfailed => exact absurd hanswer (hfailed a)
      | lost hfailed => exact absurd hanswer (hfailed a)
  | _ => exact hc.query.elim

/-- What the answers to the calls of the runtime have handed over. -/
theorem received_serves {t : List (PortCall R)} (hall : ∀ c ∈ t, PortQuery.Receives c)
    (hinitial : Initial hat₀) (hpast : (packetSystem timerClock).Run hat₀ past hat)
    (hserves : (server R timerClock).Serves hat t events hat') :
    Received (octetsRead t) hat events hat' := by
  induction hserves generalizing past with
  | nil hat => exact @received_internal timerClock _ _ _ (.nil hat)
  | @step hat hat₁ hat' t event events hstep hspontaneous _ ih =>
      have hown := @received_internal timerClock _ _ _ (.cons ⟨hstep, hspontaneous⟩ (.nil hat₁))
      exact hown.append (ih hall (hpast.append (.cons hstep (.nil hat₁))))
  | @call hat hat₁ hat' c t events events' hanswers _ ih =>
      have hfirst := Answers.received (hall c List.mem_cons_self) hinitial hpast hanswers
      exact hfirst.append (ih (fun c' hc' => hall c' (List.mem_cons_of_mem c hc'))
        (hpast.append ((server R timerClock).run_of_answers hanswers)))

/-! ### The last report -/

/-- What a report of an ended capture has read so far. -/
def Shows (rx : CAX25AFSKRX) (call : StatusCall) : Prop :=
  match call.point with
  | .flags => True
  | .head head => head = rx.buffer.head
  | .available available | .samples available _ => available = rx.buffer.count

theorem shows_step {event : HatEvent} (hended : hat.ax25AFSKRX.active = false)
    (h : ∀ call, hat.main = .reporting call → Shows hat.ax25AFSKRX call)
    (hstep : (internalSystem timerClock).step hat event hat') :
    ∀ call, hat'.main = .reporting call → Shows hat'.ax25AFSKRX call := by
  intro call' hmain'
  obtain ⟨call, hmain, -⟩ := (internal_main hstep).2 call' hmain'
  have hshows := h call hmain
  obtain ⟨⟨hstep, hstock⟩, hinternal⟩ := hstep
  cases hstep with
  | command => exact absurd rfl (hinternal _ _)
  | stock => exact hstock.elim
  | refill hidle | release hidle =>
      rw [hmain] at hidle
      cases hidle
  | put hother | written hother | readAccess hother | returned hother =>
      rw [hmain] at hother
      cases hother
  | reported => cases hmain'
  | clock => exact h call' hmain'
  | tick bit =>
      rw [sampleTimerInterrupt, if_neg fun hon => Bool.false_ne_true (hended.symm.trans hon.2)]
        at hmain' ⊢
      exact h call' hmain'
  | statusAccess hother haccess =>
      cases hmain'
      rw [hmain] at hother
      cases hother
      rcases call with ⟨flags, _ | head | available | ⟨available, samples⟩⟩
      · cases haccess
        rfl
      · cases haccess
        exact (congrArg (availableOf · _) hshows).trans (Capture.availableOf_eq _)
      · cases haccess
        exact hshows
      · cases haccess

theorem shows_run (hended : hat.ax25AFSKRX.active = false)
    (h : ∀ call, hat.main = .reporting call → Shows hat.ax25AFSKRX call)
    (hrun : (internalSystem timerClock).Run hat events hat') :
    hat'.ax25AFSKRX.active = false ∧
      ∀ call, hat'.main = .reporting call → Shows hat'.ax25AFSKRX call := by
  induction hrun with
  | nil hat => exact ⟨hended, h⟩
  | cons hstep _ ih =>
      exact ih ((internal_keeps hstep).2.2.trans hended) (shows_step hended h hstep)

/-- A report of an ended capture shows its ring and its drops. -/
theorem shown_ended {timeout : ℚ} {status : RX3Status} (hended : hat.ax25AFSKRX.active = false)
    (hinitial : Initial hat₀) (hpast : (packetSystem timerClock).Run hat₀ past hat)
    (h : Answers R timerClock hat ⟨.rxStatus timeout, some (.ok status)⟩ events hat') :
    status.availableBytes = hat'.ax25AFSKRX.buffer.count ∧
      status.droppedBytes = hat'.ax25AFSKRX.droppedBytes := by
  obtain ⟨request, response, hrequest, hexchange, hparse⟩ :=
    h.exchanged (show (PortQuery.rxStatus timeout).request ≠ none from nofun)
  obtain rfl : request = [0xE0, 4, 0x59, 0x04] := request_unique hrequest rfl
  obtain ⟨inner, shown, hat₂, rfl, hrun, hstep, -, hshown⟩ :=
    rxStatus_exchanged hinitial hpast hexchange
  obtain rfl : status = shown.shown := Except.ok.inj (hparse.symm.trans hshown)
  have hbegun : ∀ call, HatMain.reporting ⟨hat.rxFlags, .flags⟩ = .reporting call →
      Shows hat.ax25AFSKRX call := by
    rintro _ ⟨⟩
    trivial
  obtain ⟨-, hpoint⟩ := @shows_run timerClock
    { hat with main := .reporting ⟨hat.rxFlags, .flags⟩ } hat₂ inner hended hbegun hrun
  cases hstep with
  | @reported call _ hmain haccess =>
      have hshows := hpoint call hmain
      rcases call with ⟨flags, _ | head | available | ⟨available, samples⟩⟩
      · cases haccess
      · cases haccess
      · cases haccess
      · cases haccess
        exact ⟨hshows, rfl⟩

/-- Without a read an ended capture stays as it is. -/
theorem ended_run (hended : hat.ax25AFSKRX.active = false) (hcalm : Calm hat)
    (hrun : (internalSystem timerClock).Run hat events hat') :
    hat'.ax25AFSKRX = hat.ax25AFSKRX := by
  induction hrun with
  | nil => rfl
  | @cons hat hat₁ hat' event events hstep hrun ih =>
      have hkept := (internal_keeps hstep).2.2.trans hended
      refine (ih hkept (hcalm.run (.cons hstep (.nil _)))).trans ?_
      obtain ⟨⟨hstep, hstock⟩, hinternal⟩ := hstep
      cases hstep with
      | command => exact absurd rfl (hinternal _ _)
      | stock => exact hstock.elim
      | tick bit =>
          rw [sampleTimerInterrupt,
            if_neg fun hon => Bool.false_ne_true (hended.symm.trans hon.2)]
      | readAccess hmain | returned hmain => exact absurd hmain (hcalm _)
      | _ => rfl

end Received

/-! ### A session -/

section Session

variable {R : Type} {timerClock : ℕ} {hat₀ hat hat' : Hat} {past events : List HatEvent}

/-- START, as a new capture sees it. -/
theorem answered_rxStart {timeout : ℚ}
    (h : Answers R timerClock hat ⟨.rxStart timeout, some (.ok ())⟩ events hat') :
    hat'.main = .idle ∧ ∃ event, events = [event] ∧ captureEvent event = some .start := by
  obtain ⟨request, response, hrequest, hexchange, hparse⟩ :=
    h.exchanged (show (PortQuery.rxStart timeout).request ≠ none from nofun)
  obtain rfl : request = [0xE0, 4, 0x59, 0x01] := request_unique hrequest rfl
  clear h
  cases hexchange with
  | frame hidle hcommand =>
      rw [command_rxStart, Option.some.injEq] at hcommand
      split at hcommand
      · cases hcommand
        exact ⟨hidle, _, rfl, rfl⟩
      · cases hcommand
        obtain ⟨e, hnak⟩ := parseAck_nak MMDVM_YWD_RX 5 Protocol.YWD_RX
        cases hparse.symm.trans hnak
  | read hidle hcommand | status hidle hcommand =>
      rw [command_rxStart, Option.some.injEq] at hcommand
      split at hcommand <;> cases hcommand

theorem stopped_ended (hat : Hat) : hat.stopped.ax25AFSKRX.active = false := by
  unfold stopped
  split
  · rfl
  · exact eq_false_of_ne_true ‹_›

/-- Behind STOP and a report of an empty ring without drops nothing is left to be read. -/
theorem drained_serves {stopTimeout timeout : ℚ} {before behind : List (PortCall R)}
    {status : RX3Status}
    (hall : ∀ c ∈ before ++ ⟨.rxStop stopTimeout, some (.ok ())⟩ ::
      (behind ++ [⟨.rxStatus timeout, some (.ok status)⟩]), PortQuery.Receives c)
    (havailable : status.availableBytes = 0) (hdropped : status.droppedBytes = 0)
    (hinitial : Initial hat₀) (hpast : (packetSystem timerClock).Run hat₀ past hat)
    (hcalm : Calm hat)
    (hserves : (server R timerClock).Serves hat (before ++ ⟨.rxStop stopTimeout, some (.ok ())⟩ ::
      (behind ++ [⟨.rxStatus timeout, some (.ok status)⟩])) events hat') :
    undelivered hat' = [] ∧ hat'.ax25AFSKRX.droppedBytes = 0 := by
  obtain ⟨e₁, e₂, hat₁, rfl, hbefore, hserves⟩ := hserves.append_cases
  obtain ⟨own₁, stop, e₃, hat₂, hat₃, rfl, hown₁, hstop, hserves⟩ := hserves.cons_cases
  obtain ⟨e₄, e₅, hat₄, rfl, hbehind, hserves⟩ := hserves.append_cases
  obtain ⟨own₂, report, tail, hat₅, hat₆, rfl, hown₂, hreport, htail⟩ := hserves.cons_cases
  have hpast₁ := hpast.append hbefore.run
  have hpast₂ := hpast₁.append hown₁.of_restrict
  have hpast₃ := hpast₂.append ((server R timerClock).run_of_answers hstop)
  have hpast₄ := hpast₃.append hbehind.run
  have hpast₅ := hpast₄.append hown₂.of_restrict
  obtain ⟨hstopped, hreceived₃⟩ := received_rxStop hstop
  have hreceived₁ := received_serves (fun c hc => hall c (List.mem_append_left _ hc)) hinitial
    hpast hbefore
  have hreceived₄ := received_serves (fun c hc => hall c (by simp [hc])) hinitial hpast₃ hbehind
  have hreceived₆ := received_rxStatus hinitial hpast₅ hreport
  have hcalm₆ : Calm hat₆ := by
    have hcalm₁ := (hreceived₁.returned hcalm).2
    have hcalm₃ := (hreceived₃.returned (hcalm₁.run hown₁)).2
    have hcalm₄ := (hreceived₄.returned hcalm₃).2
    exact (hreceived₆.returned (hcalm₄.run hown₂)).2
  have hended₃ : hat₃.ax25AFSKRX.active = false := hstopped ▸ stopped_ended hat₂
  have hended₅ : hat₅.ax25AFSKRX.active = false :=
    (internal_run_keeps hown₂).2.2.trans (hreceived₄.ended hended₃)
  obtain ⟨hcount, hdrops⟩ := shown_ended hended₅ hinitial hpast₅ hreport
  have hrx := ended_run (hreceived₆.ended hended₅) hcalm₆ htail.of_nil
  have hcalm' := hcalm₆.run htail.of_nil
  constructor
  · have hring : hat'.ax25AFSKRX.buffer.contents = [] := by
      rw [← List.length_eq_zero_iff, SpscRing.contents_length, hrx, ← hcount, havailable]
    rw [undelivered, hring, List.append_nil]
    cases hmain : hat'.main with
    | reading call => exact absurd hmain (hcalm' call)
    | _ => rfl
  · rw [hrx, ← hdrops, hdropped]

/-- The samples from the first one on have gone through the decoder, all but those that do not
fill an octet, and the frames that it has returned are published in their order. -/
def Decodes (metricTable : BitVec CORR_WINDOW → ℚ) (samples : List Bool)
    (s : RXOnlyPacketRuntime) : Prop :=
  ∃ calls returned pending,
    calls.flatten.flatMap BYTE_BITS ++ pending = samples ∧ pending.length < 8 ∧
    RXOnlyPacketRuntime.init.decoder.feedCalls metricTable DECODER_STEPS calls =
      some (returned, s.decoder) ∧
    List.Forall₂ RXOnlyPacketRuntime.Announces returned.flatten s.published

/-- The calls of a session that ends in good order, against the modem. -/
theorem decodes_of_stopped {metricTable : BitVec CORR_WINDOW → ℚ} {startTimeout stopTimeout : ℚ}
    {s : RXOnlyPacketRuntime} {behind : List (PortCall R)}
    (hstopped : RXOnlyPacketRuntime.Stopped metricTable stopTimeout s behind)
    (hinitial : Initial hat₀) (hpast : (packetSystem timerClock).Run hat₀ past hat)
    (hserves : (server R timerClock).Serves hat
      (⟨.rxStart startTimeout, some (.ok ())⟩ :: behind) events hat') :
    Decodes metricTable (captureAccount (past ++ events)).bits s := by
  obtain ⟨hall, ⟨calls, hcalls, ⟨returned, done, hfed, hreturned, hdone⟩, -, -⟩, before, last,
    status, rfl, havailable, hdropped⟩ := hstopped
  obtain ⟨own, _, rest, hat₁, hat₂, rfl, hown, hstart, hrest⟩ := hserves.cons_cases
  obtain ⟨hmain, start, rfl, hcapture⟩ := answered_rxStart hstart
  have hpast₂ :=
    (hpast.append hown.of_restrict).append ((server R timerClock).run_of_answers hstart)
  have hcalm := calm_of_idle hmain
  obtain ⟨hempty, hnone⟩ :=
    drained_serves hall havailable hdropped hinitial hpast₂ hcalm hrest
  have hreceived := received_serves hall hinitial hpast₂ hrest
  obtain ⟨pending, hbits, hpending, hlt⟩ :=
    delivered_whole hinitial (hpast₂.append hrest.run) hnone
  have hbegun : (captureAccount (past ++ own ++ [start])).delivered = [] := by
    rw [captureAccount_append, List.filterMap_cons, hcapture]
    rfl
  have hevents : past ++ (own ++ [start] ++ rest) = past ++ own ++ [start] ++ rest := by
    simp only [List.append_assoc]
  rw [hevents, ← hbits, hempty, List.append_nil, captureAccount_delivered _ hreceived.noStart,
    hbegun, (hreceived.returned hcalm).1, List.nil_append, ← hcalls]
  rw [List.append_nil] at hreturned
  exact ⟨calls, returned, pending, rfl, hpending ▸ hlt, hfed, hreturned ▸ hdone⟩

/-- A burst among the samples has been published. -/
theorem Decodes.publishes {metricTable : BitVec CORR_WINDOW → ℚ} {samples before after : List Bool}
    {s : RXOnlyPacketRuntime} {selectors : List Bool} {frame : Bytes} {parsed : ParsedFrame}
    {preFlags postFlags : ℕ} {initialTone : Bool} (h : Decodes metricTable samples s)
    (htones : TellsTones metricTable)
    (hsamples : samples = before ++ CAX25AFSKTX.waveform selectors ++ after)
    (hafter : 7 ≤ after.length)
    (hselectors : frameToSelectors frame preFlags postFlags initialTone = .ok selectors)
    (hfits : selectors.length ≤ CAX25AFSKTX.MAX_SELECTORS) (hlen : 17 ≤ frame.length)
    (hparse : parseFrame frame true = .ok parsed) (hpre : 2 ≤ preFlags) (hpost : 1 ≤ postFlags) :
    PacketEvent.of frame parsed ∈ s.published := by
  obtain ⟨calls, returned, pending, hbits, hpending, hfed, hpublished⟩ := h
  have hwhole : before ++ CAX25AFSKTX.waveform selectors <+: calls.flatten.flatMap BYTE_BITS := by
    refine List.prefix_of_prefix_length_le (List.prefix_append _ after) ?_ ?_
    · rw [← hsamples, ← hbits]
      exact List.prefix_append _ _
    · have hlength := congrArg List.length (hbits.trans hsamples)
      simp only [List.length_append] at hlength ⊢
      omega
  obtain ⟨rest, hcalls⟩ := hwhole
  have hne : frame ≠ [] := by
    rintro rfl
    cases hlen
  obtain ⟨returned', d', hfed', item, hitem, hframe⟩ :=
    StreamingBell202Decoder.hears_wave metricTable hcalls.symm (CAX25AFSKTX.waveform_length _)
      (CAX25AFSKTX.symbolOf_waveform htones _) hselectors hlen hparse
      (stuffed_le_of_selectors hne (by omega) hpost hselectors hfits) hpre hpost
      (show 144 < DECODER_STEPS by decide)
  cases hfed.symm.trans hfed'
  rw [← hframe]
  rw [← hframe] at hparse
  exact RXOnlyPacketRuntime.mem_of_announces hpublished hitem hparse

end Session

end Hat

end YwdTnc
