import YwdTnc.Hat.System

/-!
# What the modem has sent and captured

The packet modem projects to a burst and to a capture, so the accounts of these hold of it in
every run: `sends_waveform` says what has gone out on the air, `delivers_octets` what the host has
got of a capture.
-/

namespace YwdTnc

open Coding Interaction SerialPort CAX25AFSKTX

namespace Hat

/-! ### The burst -/

def burstMain : HatMain → Burst.Main
  | .writing rest count wasTX => .writing rest count wasTX
  | .idle | .reading _ | .reporting _ => .idle

def burstState (hat : Hat) : Burst.State :=
  ⟨hat.ax25AFSKTX, hat.tx, hat.txBuffer, hat.ywdAx25SampleEdges, burstMain hat.main⟩

def burstEffect : Effect → Option Burst.Event
  | .load packed bitCount => some (.load packed bitCount)
  | .abort => some .abort
  | .none | .start | .stop | .read _ | .status _ => none

def burstEvent : HatEvent → Option Burst.Event
  | .command buffer reply => burstEffect (effect buffer reply)
  | .refill space => some (.refill space)
  | .put bit => some (.put bit)
  | .written keyed => some (.written keyed)
  | .release => some .release
  | .clock bit => some (.clock bit)
  | .tick _ | .access | .returned _ | .reported _ | .stock => none

theorem burst_command {timerClock : ℕ} {hat hat' : Hat} {done : Effect}
    (hidle : hat.main = .idle) (hcommand : Commanded timerClock hat done hat') :
    Burst.system.Follows (burstState hat) (burstEffect done) (burstState hat') := by
  have hmain : burstMain hat.main = .idle := by rw [hidle]; rfl
  unfold burstState
  rw [hmain]
  cases hcommand with
  | none =>
      rw [hmain]
      exact System.follows_none rfl
  | entered =>
      rw [hmain]
      exact System.follows_none rfl
  | load hready hinactive hload =>
      rw [hmain]
      exact Burst.Step.load hload
  | abort =>
      rw [hmain]
      exact Burst.Step.abort
  | exit =>
      rw [hmain]
      exact Burst.Step.abort
  | start =>
      rw [hmain]
      exact System.follows_none rfl
  | stop =>
      rw [hmain]
      exact System.follows_none rfl
  | read => exact System.follows_none rfl
  | status => exact System.follows_none rfl

theorem burst_step {timerClock : ℕ} {hat hat' : Hat} {event : HatEvent} (hhalf : HalfDuplex hat)
    (hstep : Step timerClock hat event hat') (hstock : noStock hat event) :
    Burst.system.Follows (burstState hat) (burstEvent event) (burstState hat') := by
  cases hstep with
  | command hidle hcommand => exact burst_command hidle (ywdCommand_commanded hcommand)
  | @refill space hidle hmode hspace =>
      have hmain : burstMain (hat.refilled space).main =
          .afterRefill (hat.ax25AFSKTX.refill space).1 hat.tx := by
        unfold refilled Burst.Main.afterRefill
        dsimp only
        split <;> rfl
      unfold burstState
      rw [hmain, hidle]
      exact Burst.Step.refill hspace
  | put hmain =>
      unfold burstState
      rw [hmain]
      exact Burst.Step.put
  | written hmain =>
      unfold burstState
      rw [hmain]
      exact Burst.Step.written
  | release hidle htx hring hdone =>
      have hbusy : hat.ax25AFSKTX.busy = false := by
        rw [← Bool.not_eq_true]
        exact fun hbusy => hdone ⟨hhalf.engine hbusy, hbusy⟩
      unfold burstState
      rw [hidle, htx, hring]
      exact Burst.Step.release hbusy
  | clock htx =>
      unfold burstState bitClock
      rw [htx, if_pos (hhalf.tx htx)]
      exact Burst.Step.clock
  | tick bit =>
      refine System.follows_none ?_
      unfold burstState sampleTimerInterrupt
      split <;> rfl
  | readAccess hmain haccess =>
      refine System.follows_none ?_
      unfold burstState
      rw [hmain]
      rfl
  | returned hmain haccess =>
      refine System.follows_none ?_
      unfold burstState
      rw [hmain]
      rfl
  | statusAccess hmain haccess =>
      refine System.follows_none ?_
      unfold burstState
      rw [hmain]
      rfl
  | reported hmain haccess =>
      refine System.follows_none ?_
      unfold burstState
      rw [hmain]
      rfl
  | stock => exact hstock.elim

theorem Initial.burst {hat : Hat} (h : Initial hat) : burstState hat = .init := by
  unfold burstState
  rw [h.engine, h.tx, h.txBuffer, h.edges, h.main]
  rfl

/-- The transmit side of the packet modem. -/
def burst (timerClock : ℕ) : System.Projection (packetSystem timerClock) Burst.system where
  state := burstState
  label := burstEvent
  initial _ hinitial := Initial.burst hinitial
  step _ _ _ hreach hstep := burst_step (halfDuplex_reachable hreach) hstep.1 hstep.2

/-! ### The capture -/

def captureMain : HatMain → Capture.Main
  | .reading call => .reading call
  | .reporting call => .reporting call
  | .idle | .writing _ _ _ => .idle

def captureState (hat : Hat) : Capture.State := ⟨hat.ax25AFSKRX, captureMain hat.main⟩

def captureEffect : Effect → Option Capture.Event
  | .start => some .start
  | .stop => some .stop
  | .read maxLength => some (.beginRead maxLength)
  | .status flags => some (.beginStatus flags)
  | .none | .load _ _ | .abort => none

def captureEvent : HatEvent → Option Capture.Event
  | .command buffer reply => captureEffect (effect buffer reply)
  | .tick bit => some (.tick bit)
  | .access => some .access
  | .returned out => some (.returned out)
  | .reported status => some (.reported status)
  | .refill _ | .put _ | .written _ | .release | .clock _ | .stock => none

theorem capture_command {timerClock : ℕ} {hat hat' : Hat} {done : Effect}
    (hidle : hat.main = .idle) (hcommand : Commanded timerClock hat done hat') :
    Capture.system.Follows (captureState hat) (captureEffect done) (captureState hat') := by
  have hmain : captureMain hat.main = .idle := by rw [hidle]; rfl
  unfold captureState
  rw [hmain]
  cases hcommand with
  | none =>
      rw [hmain]
      exact System.follows_none rfl
  | entered =>
      rw [hmain]
      exact System.follows_none rfl
  | load =>
      rw [hmain]
      exact System.follows_none rfl
  | abort =>
      rw [hmain]
      exact System.follows_none rfl
  | exit =>
      rw [hmain]
      exact System.follows_none rfl
  | start hready htx hbusy hinactive =>
      rw [hmain]
      exact Capture.Step.start hinactive
  | stop =>
      rw [hmain]
      exact Capture.Step.stop
  | read => exact Capture.Step.beginRead _
  | status => exact Capture.Step.beginStatus _

theorem capture_step {timerClock : ℕ} {hat hat' : Hat} {event : HatEvent} (hhalf : HalfDuplex hat)
    (hstep : Step timerClock hat event hat') (hstock : noStock hat event) :
    Capture.system.Follows (captureState hat) (captureEvent event) (captureState hat') := by
  cases hstep with
  | command hidle hcommand => exact capture_command hidle (ywdCommand_commanded hcommand)
  | refill hidle hmode hspace =>
      refine System.follows_none ?_
      unfold captureState refilled
      rw [hidle]
      dsimp only
      split <;> rfl
  | put hmain =>
      refine System.follows_none ?_
      unfold captureState
      rw [hmain]
      rfl
  | written hmain =>
      refine System.follows_none ?_
      unfold captureState
      rw [hmain]
      rfl
  | release => exact System.follows_none rfl
  | clock => exact System.follows_none rfl
  | tick bit =>
      have hsample : (hat.sampleTimerInterrupt bit).ax25AFSKRX = hat.ax25AFSKRX.sample bit := by
        unfold sampleTimerInterrupt
        split
        case isTrue => rfl
        case isFalse hoff =>
          cases hactive : hat.ax25AFSKRX.active with
          | false => rw [Capture.sample_of_inactive hactive]
          | true => exact absurd ⟨(hhalf.receiving hactive).2, hactive⟩ hoff
      obtain ⟨-, -, -, hmain, -, -⟩ := sampleTimerInterrupt_frame hat bit
      unfold captureState
      rw [hsample, hmain]
      exact Capture.Step.tick bit
  | readAccess hmain haccess =>
      unfold captureState
      rw [hmain]
      exact Capture.Step.readAccess haccess
  | returned hmain haccess =>
      unfold captureState
      rw [hmain]
      exact Capture.Step.returned haccess
  | statusAccess hmain haccess =>
      unfold captureState
      rw [hmain]
      exact Capture.Step.statusAccess haccess
  | reported hmain haccess =>
      unfold captureState
      rw [hmain]
      exact Capture.Step.reported haccess
  | stock => exact hstock.elim

theorem Initial.capture_init {hat : Hat} (h : Initial hat) :
    captureState hat = ⟨.init, .idle⟩ := by
  unfold captureState
  rw [h.capture, h.main]
  rfl

/-- The receive side of the packet modem. -/
def capture (timerClock : ℕ) : System.Projection (packetSystem timerClock) Capture.system where
  state := captureState
  label := captureEvent
  initial _ hinitial := Initial.capture_init hinitial
  step _ _ _ hreach hstep := capture_step (halfDuplex_reachable hreach) hstep.1 hstep.2

/-! ### What has gone out -/

/-- The account of the last burst. -/
def burstAccount (events : List HatEvent) : Burst.Account :=
  Burst.Account.of (events.filterMap burstEvent)

/-- The account of the last capture. -/
def captureAccount (events : List HatEvent) : Capture.Account :=
  Capture.Account.of (events.filterMap captureEvent)

section Accounts

variable {timerClock : ℕ} {hat₀ hat : Hat} {events : List HatEvent}

theorem burst_run (hinitial : Initial hat₀) (hrun : (packetSystem timerClock).Run hat₀ events hat) :
    Burst.system.Run .init (events.filterMap burstEvent) (burstState hat) := by
  have h := (burst timerClock).run (.initial hinitial) hrun
  rwa [show (burst timerClock).state hat₀ = .init from hinitial.burst] at h

theorem burst_accounts (hinitial : Initial hat₀)
    (hrun : (packetSystem timerClock).Run hat₀ events hat) :
    Burst.Accounts (burstAccount events) (burstState hat) :=
  Burst.accounts_run (burst_run hinitial hrun)

theorem capture_run (hinitial : Initial hat₀)
    (hrun : (packetSystem timerClock).Run hat₀ events hat) :
    Capture.system.Run ⟨.init, .idle⟩ (events.filterMap captureEvent) (captureState hat) := by
  have h := (capture timerClock).run (.initial hinitial) hrun
  rwa [show (capture timerClock).state hat₀ = ⟨.init, .idle⟩ from hinitial.capture_init] at h

theorem burstState_idle (hidle : hat.main = .idle) :
    burstState hat = ⟨hat.ax25AFSKTX, hat.tx, hat.txBuffer, hat.ywdAx25SampleEdges, .idle⟩ := by
  rw [burstState, hidle]
  rfl

/-- Whatever the host sends and the stock firmware does to what it shares with the packet modes: a
capture keeps the waveform engine off, and the sample timer runs for a capture only. As long as
the stock firmware does nothing, the raw slicer is selected for a capture and for nothing else. -/
theorem capture_excludes_burst (hinitial : Initial hat₀)
    (hrun : (system timerClock).Run hat₀ events hat) :
    (.stock ∉ events → hat.rawSlicer = hat.ax25AFSKRX.active) ∧
      (hat.sampleTimer = true → hat.ax25AFSKRX.active = true) ∧
      (hat.ax25AFSKRX.active = true → hat.ax25AFSKTX.busy = false ∧
        ∀ event hat', Step timerClock hat event hat' →
          hat'.ax25AFSKTX.busy = false ∧ ∀ bit, event ≠ .put bit) := by
  have hexclusive := exclusive_reachable ((System.Reachable.initial hinitial).run hrun)
  exact ⟨sliced_run hinitial hrun, hexclusive.timer, fun hactive =>
    ⟨hexclusive.engine hactive, fun event hat' hstep => hexclusive.quiet hactive hstep⟩⟩

/-- A capture of one sample. -/
def startEvents : List HatEvent :=
  [.command [0xE0, 4, 0x59, 0x01] (sendACK [0xE0, 4, 0x59, 0x01]), .tick 1]

theorem capture_excludes_burst_started : ∃ hat, (system 19200).Run ready startEvents hat ∧
    hat.ax25AFSKRX.active = true ∧ hat.rawSlicer = true ∧ hat.ax25AFSKTX.busy = false := by
  obtain ⟨hat, hrun, hactive⟩ := exists_of_execute (p := fun hat => hat.ax25AFSKRX.active)
    (show (execute 19200 ready startEvents).any _ = true by decide +kernel)
  obtain ⟨hslicer, -, hquiet⟩ :=
    capture_excludes_burst initial_ready hrun.of_restrict.of_restrict
  exact ⟨hat, hrun.of_restrict.of_restrict, hactive, (hslicer (by decide)).trans hactive,
    (hquiet hactive).1⟩

/-- The modem never records its own transmission: while a capture is active nothing is keyed,
nothing is left in the ring and nothing is being generated or written. -/
theorem half_duplex (hinitial : Initial hat₀)
    (hrun : (packetSystem timerClock).Run hat₀ events hat)
    (hactive : hat.ax25AFSKRX.active = true) :
    hat.tx = false ∧ hat.txBuffer = [] ∧ hat.ax25AFSKTX.busy = false ∧ hat.modemState = .ax25 ∧
      ∀ event hat', (packetSystem timerClock).step hat event hat' →
        (∀ bit, event ≠ .clock bit) ∧ ∀ bit, event ≠ .put bit := by
  have hreach := (System.Reachable.initial hinitial).run hrun
  obtain ⟨htx, hmode⟩ := (halfDuplex_reachable hreach).receiving hactive
  have hexclusive := exclusive_reachable hreach.of_restrict
  have hmain : burstMain hat.main = .idle := by
    have hnot := hexclusive.main hactive
    generalize hat.main = main at hnot ⊢
    cases main with
    | writing rest count wasTX => exact absurd rfl (hnot rest count wasTX)
    | _ => rfl
  have haccounts := burst_accounts hinitial hrun
  unfold burstState at haccounts
  rw [htx, hmain] at haccounts
  refine ⟨htx, haccounts.ring_of_released, hexclusive.engine hactive, hmode, ?_⟩
  rintro event hat' ⟨hstep, -⟩
  cases hstep with
  | clock hon => exact absurd (htx.symm.trans hon) (by decide)
  | put hwriting => exact absurd hwriting (hexclusive.main hactive _ _ _)
  | _ => exact ⟨nofun, nofun⟩

theorem half_duplex_started : ∃ hat, (packetSystem 19200).Run ready startEvents hat ∧
    hat.ax25AFSKRX.active = true ∧ hat.tx = false ∧ hat.txBuffer = [] := by
  obtain ⟨hat, hrun, hactive⟩ := exists_of_execute (p := fun hat => hat.ax25AFSKRX.active)
    (show (execute 19200 ready startEvents).any _ = true by decide +kernel)
  obtain ⟨htx, hring, -⟩ := half_duplex initial_ready hrun.of_restrict hactive
  exact ⟨hat, hrun.of_restrict, hactive, htx, hring⟩

/-- However the bit clock falls between the steps of the main program, what has gone out since
the last accepted burst, and what is still in the ring, is the start of its waveform, the ring
never fills up, and the transmitter has been keyed at most once. A modem that has come to rest
has sent the whole waveform of a burst that was not cut off, and its counters say so. -/
theorem sends_waveform (hinitial : Initial hat₀)
    (hrun : (packetSystem timerClock).Run hat₀ events hat) :
    (burstAccount events).sent ++ hat.txBuffer <+: waveform (burstAccount events).burst ∧
      hat.txBuffer.length ≤ CIO_REFILL_MAX ∧ (burstAccount events).keyups ≤ 1 ∧
      (hat.main = .idle → hat.ax25AFSKTX.busy = false → hat.tx = false →
        (burstAccount events).aborted = false →
          (burstAccount events).sent = waveform (burstAccount events).burst ∧
          ((burstAccount events).burst ≠ [] → hat.ax25AFSKTX.keyups = 1) ∧
          hat.ax25AFSKTX.samplesQueued = (burstAccount events).sent.length) := by
  have haccounts := burst_accounts hinitial hrun
  have hring : (burstAccount events).put = (burstAccount events).sent ++ hat.txBuffer :=
    haccounts.ring_eq
  have hkeyups : hat.ax25AFSKTX.keyups = (burstAccount events).keyups := haccounts.keyups_eq
  refine ⟨?_, ?_, ?_, fun hidle hbusy htx hwhole => ?_⟩
  · rw [← hring]
    exact (List.prefix_append _ _).trans haccounts.is_prefix
  · exact le_trans (Nat.le_add_right _ _) haccounts.room
  · cases haccounts.keying with
    | before hnone => omega
    | behind hone => omega
  · rw [burstState_idle hidle, htx] at haccounts
    obtain ⟨hsent, hone, hqueued⟩ := haccounts.quiet hbusy hwhole
    exact ⟨hsent, fun hburst => hkeyups.trans (hone hburst), hqueued⟩

/-- A burst of at most eight selectors that one refill takes, up to its last sample. -/
def playEvents (packed : Byte) (selectors : List Bool) : List HatEvent :=
  let buffer := [0xE0, 7, 0x58, 0x02, BitVec.ofNat 8 selectors.length, 0, packed]
  [.command buffer (sendACK buffer), .refill 1024] ++
    (waveform selectors).map .put ++ [.written true] ++
    (waveform selectors).map fun bit => .clock (some bit)

/-- A burst of one selector. -/
def toneEvents : List HatEvent := playEvents 0 [false]

theorem sends_waveform_tone : ∃ hat,
    (packetSystem 19200).Run ready (toneEvents ++ [.release]) hat ∧ hat.tx = false ∧
      (burstAccount (toneEvents ++ [.release])).sent = waveform [false] := by
  obtain ⟨hat, hrun, hrest⟩ := exists_of_execute
    (p := fun hat => hat.main = .idle ∧ hat.ax25AFSKTX.busy = false ∧ hat.tx = false)
    (show (execute 19200 ready (toneEvents ++ [.release])).any _ = true by decide +kernel)
  obtain ⟨hidle, hbusy, htx⟩ := of_decide_eq_true hrest
  obtain ⟨-, -, -, hsent⟩ := sends_waveform initial_ready hrun.of_restrict
  exact ⟨hat, hrun.of_restrict, htx, (hsent hidle hbusy htx (by decide +kernel)).1⟩

/-- The main loop comes round in time. -/
def Timely (events : List HatEvent) : Prop := Burst.Timely (events.filterMap burstEvent)

theorem exactSpace_burst {hat : Hat} {event : HatEvent} (h : exactSpace hat event) :
    ∀ event', burstEvent event = some event' → Burst.exactSpace (burstState hat) event' := by
  intro event' hevent
  cases event with
  | command buffer reply =>
      simp only [burstEvent] at hevent
      generalize effect buffer reply = done at hevent
      cases done <;> cases hevent <;> trivial
  | refill space =>
      cases hevent
      exact h
  | put | written | release | clock =>
      cases hevent
      trivial
  | _ => cases hevent

/-- The transmit side of the exact modem. -/
def exactBurst (timerClock : ℕ) :
    System.Projection (exactSystem timerClock) (Burst.system.restrict Burst.exactSpace) where
  state := burstState
  label := burstEvent
  initial _ hinitial := Initial.burst hinitial
  step _ _ _ hreach hstep :=
    (burst_step (halfDuplex_reachable hreach.of_restrict) hstep.1.1 hstep.1.2).restrict
      (exactSpace_burst hstep.2)

/-- In a run whose refills are exact and come in time, the bit clock finds an empty ring behind
the last sample of the burst only, or when the host has cut it off: there are no gaps. -/
theorem dry_ring {before after : List HatEvent} (hinitial : Initial hat₀)
    (hrun : (exactSystem timerClock).Run hat₀ (before ++ .clock none :: after) hat)
    (htimely : Timely (before ++ .clock none :: after)) :
    (burstAccount before).aborted = true ∨
      (burstAccount before).sent = waveform (burstAccount before).burst := by
  have hburst := (exactBurst timerClock).run (.initial hinitial) hrun
  have hevents : (before ++ .clock none :: after).filterMap burstEvent =
      before.filterMap burstEvent ++ .clock none :: after.filterMap burstEvent := by
    rw [List.filterMap_append]
    rfl
  unfold Timely at htimely
  rw [hevents] at htimely
  rw [show (exactBurst timerClock).state hat₀ = .init from hinitial.burst,
    show (exactBurst timerClock).label = burstEvent from rfl, hevents] at hburst
  exact Burst.sent_of_dry hburst htimely

theorem dry_ring_tone : ∃ hat, (exactSystem 19200).Run ready (toneEvents ++ [.clock none]) hat ∧
    ((burstAccount toneEvents).aborted = true ∨
      (burstAccount toneEvents).sent = waveform (burstAccount toneEvents).burst) := by
  obtain ⟨hat, hrun, -⟩ := exists_of_execute (p := fun _ => true)
    (show (execute 19200 ready (toneEvents ++ [.clock none])).any _ = true by decide +kernel)
  exact ⟨hat, hrun, dry_ring initial_ready hrun
    (Burst.timely_of_length_le (by decide +kernel))⟩

end Accounts

/-! ### What the host has got -/

/-- The octets of the ring and of a read that has not returned yet. -/
def undelivered (hat : Hat) : Bytes :=
  (captureMain hat.main).held ++ hat.ax25AFSKRX.buffer.contents

section Captures

variable {timerClock : ℕ} {hat₀ hat : Hat} {events : List HatEvent}

/-- A read returns at least what the last status has shown and the host has not read since, up
to the number that it asks for. -/
theorem returns_promised {out : Bytes} (hinitial : Initial hat₀)
    (hrun : (packetSystem timerClock).Run hat₀ (events ++ [.returned out]) hat) :
    min (captureAccount events).asked (captureAccount events).promised ≤ out.length ∧
      out.length ≤ (captureAccount events).asked := by
  have hcapture := capture_run hinitial hrun
  rw [List.filterMap_append] at hcapture
  obtain ⟨s₁, s₂, hbefore, hstep, -⟩ := System.Run.split hcapture
  have hkeeps := Capture.keeps_run hbefore
  generalize hevent : Capture.Event.returned out = event at hstep
  cases hstep with
  | returned haccess =>
      cases hevent
      exact hkeeps.returned haccess
  | _ => cases hevent

/-- A status that shows one octet, and a read of two octets behind it, with a sample between
its accesses. -/
def promiseEvents : List HatEvent :=
  [.command [0xE0, 4, 0x59, 0x01] (sendACK [0xE0, 4, 0x59, 0x01]), .tick 1, .tick 0, .tick 1,
    .tick 1, .tick 0, .tick 1, .tick 1, .tick 1, .command [0xE0, 4, 0x59, 0x04] (.status 13),
    .access, .access, .access, .reported ⟨13, 1, 8, 0⟩,
    .command [0xE0, 5, 0x59, 0x02, 2] (.read 2), .access, .tick 1, .access, .access, .access,
    .access]

theorem returns_promised_read : ∃ hat,
    (packetSystem 19200).Run ready (promiseEvents ++ [.returned [0xB7]]) hat ∧
      (captureAccount promiseEvents).promised = 1 ∧ (captureAccount promiseEvents).asked = 2 ∧
        1 ≤ ([0xB7] : Bytes).length ∧ ([0xB7] : Bytes).length ≤ 2 := by
  obtain ⟨hat, hrun, -⟩ := exists_of_execute (p := fun _ => true)
    (show (execute 19200 ready (promiseEvents ++ [.returned [0xB7]])).any _ = true by
      decide +kernel)
  have hpromised : (captureAccount promiseEvents).promised = 1 := by decide +kernel
  have hasked : (captureAccount promiseEvents).asked = 2 := by decide +kernel
  obtain ⟨hleast, hmost⟩ := returns_promised initial_ready hrun.of_restrict
  rw [hpromised, hasked] at hleast
  rw [hasked] at hmost
  exact ⟨hat, hrun.of_restrict, hpromised, hasked, hleast, hmost⟩

end Captures

end Hat

end YwdTnc
