import YwdTnc.Hat.Capture
import YwdTnc.Hat.SerialPort
import YwdTnc.Interaction.Projection

/-!
# The modem as a system

The main loop of the firmware, which answers host frames, refills the ring of the radio driver
and releases the transmitter, the interrupts of the bit clock and of the sample timer, and the
stock firmware around them, which may do anything with what it shares with the packet modes.
`Exclusive` is what holds whatever the host sends and the stock firmware does: no waveform is
made while a capture is active. Without the stock firmware the raw slicer is selected for a
capture only (`Sliced`), and the modem is also half duplex (`HalfDuplex`).
-/

namespace YwdTnc

open Coding Interaction SerialPort

inductive HatEvent where
  | command (buffer : Bytes) (reply : Reply)
  | refill (space : ℕ)
  | put (bit : Bool)
  | written (keyed : Bool)
  | release
  | clock (bit : Option Bool)
  | tick (bit : Byte)
  | access
  | returned (out : Bytes)
  | reported (status : CaptureStatus)
  /-- A step of the stock firmware. -/
  | stock
  deriving DecidableEq

namespace Hat

/-- The interrupt of the bit clock, for a transmitter that is keyed. -/
def bitClock (hat : Hat) : Hat :=
  { hat with
    txBuffer := hat.txBuffer.tail
    ywdAx25SampleEdges :=
      if hat.modemState = .ax25 then Burst.countEdge hat.ywdAx25SampleEdges
      else hat.ywdAx25SampleEdges }

/-- `ax25SampleTimerInterrupt`. -/
def sampleTimerInterrupt (hat : Hat) (bit : Byte) : Hat :=
  if hat.modemState = .ax25 ∧ hat.ax25AFSKRX.active then
    { hat with ax25AFSKRX := hat.ax25AFSKRX.sample bit }
  else hat

/-- What the stock firmware leaves alone: the objects and the timer of the packet modes. -/
structure StockStep (hat hat' : Hat) : Prop where
  tx_eq : hat'.ax25AFSKTX = hat.ax25AFSKTX
  rx_eq : hat'.ax25AFSKRX = hat.ax25AFSKRX
  sampleTimer_eq : hat'.sampleTimer = hat.sampleTimer
  main_eq : hat'.main = hat.main

/-- `process` behind the call of `io.getSpace`, up to the call of `io.write`. -/
def refilled (hat : Hat) (space : ℕ) : Hat :=
  { hat with
    ax25AFSKTX := (hat.ax25AFSKTX.refill space).2
    main :=
      if (hat.ax25AFSKTX.refill space).1 = [] then .idle
      else .writing (hat.ax25AFSKTX.refill space).1 (hat.ax25AFSKTX.refill space).1.length hat.tx }

/-- `io.write` has returned, with the transmitter keyed. -/
def wrote (hat : Hat) (count : ℕ) (wasTX : Bool) : Hat :=
  { hat with
    ax25AFSKTX := hat.ax25AFSKTX.countWrite wasTX true count
    tx := true
    main := .idle }

inductive Step (timerClock : ℕ) : Hat → HatEvent → Hat → Prop
  | command {hat hat' : Hat} {buffer : Bytes} {reply : Reply} {rssi : ℕ}
      (hidle : hat.main = .idle)
      (h : ywdCommand timerClock rssi hat buffer = some (hat', reply)) :
      Step timerClock hat (.command buffer reply) hat'
  | refill {hat : Hat} {space : ℕ} (hidle : hat.main = .idle) (hmode : hat.modemState = .ax25)
      (hspace : Burst.SpaceFor hat.txBuffer space) :
      Step timerClock hat (.refill space) (hat.refilled space)
  | put {hat : Hat} {bit wasTX : Bool} {rest : List Bool} {count : ℕ}
      (hmain : hat.main = .writing (bit :: rest) count wasTX) :
      Step timerClock hat (.put bit)
        { hat with
          txBuffer := Burst.putBit hat.txBuffer bit
          main := .writing rest count wasTX }
  | written {hat : Hat} {wasTX : Bool} {count : ℕ} (hmain : hat.main = .writing [] count wasTX) :
      Step timerClock hat (.written !hat.tx) (hat.wrote count wasTX)
  /-- `io.process` takes an empty ring for the end, unless a refill is pending. -/
  | release {hat : Hat} (hidle : hat.main = .idle) (htx : hat.tx = true)
      (hring : hat.txBuffer = [])
      (hdone : ¬ (hat.modemState = .ax25 ∧ hat.ax25AFSKTX.busy = true)) :
      Step timerClock hat .release { hat with tx := false }
  | clock {hat : Hat} (htx : hat.tx = true) :
      Step timerClock hat (.clock hat.txBuffer.head?) hat.bitClock
  | tick {hat : Hat} (bit : Byte) (htimer : hat.sampleTimer = true) :
      Step timerClock hat (.tick bit) (hat.sampleTimerInterrupt bit)
  | readAccess {hat : Hat} {rx' : CAX25AFSKRX} {call call' : ReadCall}
      (hmain : hat.main = .reading call)
      (h : call.access hat.ax25AFSKRX = (rx', .inl call')) :
      Step timerClock hat .access { hat with ax25AFSKRX := rx', main := .reading call' }
  | returned {hat : Hat} {rx' : CAX25AFSKRX} {call : ReadCall} {out : Bytes}
      (hmain : hat.main = .reading call)
      (h : call.access hat.ax25AFSKRX = (rx', .inr out)) :
      Step timerClock hat (.returned out) { hat with ax25AFSKRX := rx', main := .idle }
  | statusAccess {hat : Hat} {call call' : StatusCall} (hmain : hat.main = .reporting call)
      (h : call.access hat.ax25AFSKRX = .inl call') :
      Step timerClock hat .access { hat with main := .reporting call' }
  | reported {hat : Hat} {call : StatusCall} {status : CaptureStatus}
      (hmain : hat.main = .reporting call)
      (h : call.access hat.ax25AFSKRX = .inr status) :
      Step timerClock hat (.reported status) { hat with main := .idle }
  | stock {hat hat' : Hat} (hidle : hat.main = .idle) (h : StockStep hat hat') :
      Step timerClock hat .stock hat'

/-- The modem behind its start: nothing sent and nothing captured, in any mode, configured or
not. -/
structure Initial (hat : Hat) : Prop where
  tx : hat.tx = false
  engine : hat.ax25AFSKTX = .init
  capture : hat.ax25AFSKRX = .init
  txBuffer : hat.txBuffer = []
  edges : hat.ywdAx25SampleEdges = 0
  rawSlicer : hat.rawSlicer = false
  sampleTimer : hat.sampleTimer = false
  main : hat.main = .idle

def system (timerClock : ℕ) : System Hat HatEvent where
  initial := Initial
  step := Step timerClock

/-- No step of the stock firmware. -/
def noStock (_ : Hat) : HatEvent → Prop
  | .stock => False
  | _ => True

/-- The modem while the host uses the packet commands only. -/
def packetSystem (timerClock : ℕ) : System Hat HatEvent :=
  (system timerClock).restrict noStock

/-! ### Whatever the stock firmware does -/

/-- No waveform is made while a capture is active, and only a capture has the sample timer. -/
structure Exclusive (hat : Hat) : Prop where
  engine : hat.ax25AFSKRX.active = true → hat.ax25AFSKTX.active = false
  main : hat.ax25AFSKRX.active = true → ∀ rest count wasTX, hat.main ≠ .writing rest count wasTX
  timer : hat.sampleTimer = true → hat.ax25AFSKRX.active = true

theorem Initial.exclusive {hat : Hat} (h : Initial hat) : Exclusive hat where
  engine hactive := by rw [h.engine]; rfl
  main hactive := by rw [h.main]; nofun
  timer htimer := by rw [h.sampleTimer] at htimer; cases htimer

theorem Exclusive.command {timerClock : ℕ} {hat hat' : Hat} {effect : Effect}
    (h : Exclusive hat) (hidle : hat.main = .idle)
    (hcommand : Commanded timerClock hat effect hat') : Exclusive hat' := by
  have hmain : ∀ rest count wasTX, hat.main ≠ .writing rest count wasTX := by
    rw [hidle]
    nofun
  cases hcommand with
  | none => exact h
  | entered => exact ⟨h.engine, h.main, h.timer⟩
  | load hready hinactive hload =>
      refine ⟨fun hactive => ?_, h.main, h.timer⟩
      rw [hinactive] at hactive
      cases hactive
  | abort => exact ⟨fun _ => rfl, h.main, h.timer⟩
  | exit => exact ⟨fun _ => rfl, h.main, h.timer⟩
  | start hready htx hbusy hinactive => exact ⟨fun _ => hbusy, fun _ => hmain, fun _ => rfl⟩
  | stop =>
      refine ⟨nofun, nofun, fun htimer => ?_⟩
      cases hactive : hat.ax25AFSKRX.active with
      | true => simp [hactive] at htimer
      | false =>
          simp only [hactive, Bool.false_eq_true, if_false] at htimer
          exact absurd (h.timer htimer) (by rw [hactive]; decide)
  | read => exact ⟨h.engine, fun _ _ _ _ hmain => (by cases hmain), h.timer⟩
  | status => exact ⟨h.engine, fun _ _ _ _ hmain => (by cases hmain), h.timer⟩

theorem refilled_of_inactive {hat : Hat} (hidle : hat.main = .idle)
    (hinactive : hat.ax25AFSKTX.active = false) (space : ℕ) : hat.refilled space = hat := by
  rw [refilled, CAX25AFSKTX.refill_eq_generate, CAX25AFSKTX.generate_of_inactive hinactive,
    if_pos rfl, ← hidle]

theorem sampleTimerInterrupt_active (hat : Hat) (bit : Byte) :
    (hat.sampleTimerInterrupt bit).ax25AFSKRX.active = hat.ax25AFSKRX.active := by
  unfold sampleTimerInterrupt
  split
  · exact Capture.sample_active _ _
  · rfl

theorem sampleTimerInterrupt_frame (hat : Hat) (bit : Byte) :
    (hat.sampleTimerInterrupt bit).tx = hat.tx ∧
      (hat.sampleTimerInterrupt bit).modemState = hat.modemState ∧
      (hat.sampleTimerInterrupt bit).ax25AFSKTX = hat.ax25AFSKTX ∧
      (hat.sampleTimerInterrupt bit).main = hat.main ∧
      (hat.sampleTimerInterrupt bit).rawSlicer = hat.rawSlicer ∧
      (hat.sampleTimerInterrupt bit).sampleTimer = hat.sampleTimer := by
  unfold sampleTimerInterrupt
  split <;> exact ⟨rfl, rfl, rfl, rfl, rfl, rfl⟩

theorem Exclusive.tick {hat : Hat} (h : Exclusive hat) (bit : Byte) :
    Exclusive (hat.sampleTimerInterrupt bit) := by
  obtain ⟨-, -, hengine, hmain, -, htimer⟩ := sampleTimerInterrupt_frame hat bit
  obtain ⟨h₁, h₂, h₃⟩ := h
  rw [← sampleTimerInterrupt_active hat bit] at h₁ h₂ h₃
  exact ⟨hengine ▸ h₁, hmain ▸ h₂, htimer ▸ h₃⟩

/-- A read leaves the capture on or off. -/
theorem access_active {rx rx' : CAX25AFSKRX} {call : ReadCall} {result : ReadCall ⊕ Bytes}
    (h : call.access rx = (rx', result)) : rx'.active = rx.active := by
  rcases call with ⟨maxLength, out, _ | head | tail | ⟨tail, octet⟩⟩
  · simp only [ReadCall.access] at h
    split at h <;> (cases h; rfl)
  · simp only [ReadCall.access] at h
    split at h <;> (cases h; rfl)
  · cases h
    rfl
  · cases h
    rfl

theorem Exclusive.step {timerClock : ℕ} {hat hat' : Hat} {event : HatEvent} (h : Exclusive hat)
    (hstep : Step timerClock hat event hat') : Exclusive hat' := by
  cases hstep with
  | command hidle hcommand => exact h.command hidle (ywdCommand_commanded hcommand)
  | refill hidle hmode hspace =>
      rename_i space
      by_cases hactive : hat.ax25AFSKRX.active = true
      · rw [refilled_of_inactive hidle (h.engine hactive)]
        exact h
      · exact ⟨fun hon => absurd hon hactive, fun hon => absurd hon hactive, h.timer⟩
  | put hmain =>
      have hinactive : hat.ax25AFSKRX.active ≠ true := fun hon => h.main hon _ _ _ hmain
      exact ⟨fun hon => absurd hon hinactive, fun hon => absurd hon hinactive, h.timer⟩
  | written hmain =>
      have hinactive : hat.ax25AFSKRX.active ≠ true := fun hon => h.main hon _ _ _ hmain
      exact ⟨fun hon => absurd hon hinactive, fun hon => absurd hon hinactive, h.timer⟩
  | release => exact ⟨h.engine, h.main, h.timer⟩
  | clock => exact ⟨h.engine, h.main, h.timer⟩
  | tick bit => exact h.tick bit
  | readAccess hmain haccess =>
      have hactive := access_active haccess
      exact ⟨fun hon => h.engine (hactive ▸ hon), fun _ => nofun,
        fun hon => hactive.trans (h.timer hon)⟩
  | returned hmain haccess =>
      have hactive := access_active haccess
      exact ⟨fun hon => h.engine (hactive ▸ hon), fun _ => nofun,
        fun hon => hactive.trans (h.timer hon)⟩
  | statusAccess => exact ⟨h.engine, fun _ => nofun, h.timer⟩
  | reported => exact ⟨h.engine, fun _ => nofun, h.timer⟩
  | stock hidle hstock =>
      obtain ⟨htx, hrx, htimer, hmain⟩ := hstock
      refine ⟨?_, ?_, ?_⟩
      · rw [htx, hrx]
        exact h.engine
      · rw [hrx, hmain]
        exact h.main
      · rw [htimer, hrx]
        exact h.timer

theorem exclusive_reachable {timerClock : ℕ} {hat : Hat}
    (h : (system timerClock).Reachable hat) : Exclusive hat :=
  h.invariant (fun _ hinitial => Initial.exclusive hinitial)
    fun hat event hat' _ hinv (hstep : Step timerClock hat event hat') => hinv.step hstep

/-- No step turns the waveform engine on in the middle of a capture. -/
theorem Exclusive.quiet {timerClock : ℕ} {hat hat' : Hat} {event : HatEvent} (h : Exclusive hat)
    (hactive : hat.ax25AFSKRX.active = true) (hstep : Step timerClock hat event hat') :
    hat'.ax25AFSKTX.busy = false ∧ ∀ bit, event ≠ .put bit := by
  have hquiet : hat.ax25AFSKTX.active = false := h.engine hactive
  cases hstep with
  | command hidle hcommand =>
      refine ⟨?_, nofun⟩
      have hcommanded := ywdCommand_commanded hcommand
      generalize effect _ _ = done at hcommanded
      cases hcommanded with
      | load hready hinactive => exact absurd (hinactive.symm.trans hactive) (by decide)
      | abort | exit => rfl
      | _ => exact hquiet
  | refill hidle hmode hspace =>
      rw [refilled_of_inactive hidle hquiet]
      exact ⟨hquiet, nofun⟩
  | put hmain => exact absurd hmain (h.main hactive _ _ _)
  | tick bit => exact ⟨(sampleTimerInterrupt_frame hat bit).2.2.1 ▸ hquiet, nofun⟩
  | stock hidle hstock => exact ⟨hstock.tx_eq ▸ hquiet, nofun⟩
  | _ => exact ⟨hquiet, nofun⟩

/-! ### With the packet commands only -/

/-- The raw slicer is selected for a capture only. -/
def Sliced (hat : Hat) : Prop := hat.rawSlicer = hat.ax25AFSKRX.active

theorem Sliced.command {timerClock : ℕ} {hat hat' : Hat} {effect : Effect} (h : Sliced hat)
    (hcommand : Commanded timerClock hat effect hat') : Sliced hat' := by
  cases hcommand with
  | none | entered | load | abort | exit | read | status => exact h
  | start => rfl
  | stop =>
      unfold Sliced at h ⊢
      cases hactive : hat.ax25AFSKRX.active with
      | true => simp [CAX25AFSKRX.stop]
      | false => simp [CAX25AFSKRX.stop, h, hactive]

theorem Sliced.step {timerClock : ℕ} {hat hat' : Hat} {event : HatEvent} (h : Sliced hat)
    (hstep : Step timerClock hat event hat') (hstock : noStock hat event) : Sliced hat' := by
  cases hstep with
  | command hidle hcommand => exact h.command (ywdCommand_commanded hcommand)
  | tick bit =>
      unfold Sliced at h ⊢
      rw [(sampleTimerInterrupt_frame hat bit).2.2.2.2.1, sampleTimerInterrupt_active]
      exact h
  | readAccess hmain haccess | returned hmain haccess =>
      unfold Sliced at h ⊢
      exact h.trans (access_active haccess).symm
  | stock => exact hstock.elim
  | _ => exact h

/-- The raw slicer along a run without stock firmware. -/
theorem sliced_run {timerClock : ℕ} {hat₀ hat : Hat} {events : List HatEvent}
    (hinitial : Initial hat₀) (hrun : (system timerClock).Run hat₀ events hat)
    (hstock : .stock ∉ events) : Sliced hat := by
  have hinit : Sliced hat₀ := by rw [Sliced, hinitial.rawSlicer, hinitial.capture]; rfl
  have htraced := @System.Run.traced _ _ _ (fun ls hat => .stock ∉ ls → Sliced hat) ?_ _ _ [] _ hrun
    fun _ => hinit
  · exact htraced hstock
  intro ls hat event hat' hbefore hstep hnone
  rw [List.mem_append, not_or, List.mem_singleton] at hnone
  refine (hbefore hnone.1).step hstep ?_
  cases event with
  | stock => exact absurd rfl hnone.2
  | _ => trivial

structure HalfDuplex (hat : Hat) : Prop where
  receiving : hat.ax25AFSKRX.active = true → hat.tx = false ∧ hat.modemState = .ax25
  engine : hat.ax25AFSKTX.active = true → hat.modemState = .ax25
  tx : hat.tx = true → hat.modemState = .ax25
  main : ∀ rest count wasTX, hat.main = .writing rest count wasTX → hat.modemState = .ax25

theorem Initial.halfDuplex {hat : Hat} (h : Initial hat) : HalfDuplex hat where
  receiving hactive := by rw [h.capture] at hactive; cases hactive
  engine hactive := by rw [h.engine] at hactive; cases hactive
  tx htx := by rw [h.tx] at htx; cases htx
  main rest count wasTX hmain := by rw [h.main] at hmain; cases hmain

theorem HalfDuplex.command {timerClock : ℕ} {hat hat' : Hat} {effect : Effect}
    (h : HalfDuplex hat) (hidle : hat.main = .idle)
    (hcommand : Commanded timerClock hat effect hat') : HalfDuplex hat' := by
  have hmain : ∀ rest count wasTX, hat.main ≠ .writing rest count wasTX := by
    rw [hidle]
    nofun
  cases hcommand with
  | none => exact h
  | entered hinactive htx hmode =>
      have hax25 := h.tx htx
      rw [hmode] at hax25
      cases hax25
  | load hready hinactive hload =>
      refine ⟨fun hactive => ?_, fun _ => rfl, fun _ => rfl, fun _ _ _ _ => rfl⟩
      rw [hinactive] at hactive
      cases hactive
  | abort => exact ⟨h.receiving, nofun, h.tx, h.main⟩
  | exit hbusy htx hinactive =>
      refine ⟨fun hactive => ?_, nofun, fun hon => ?_,
        fun _ _ _ hwrite => absurd hwrite (hmain _ _ _)⟩
      · rw [hinactive] at hactive
        cases hactive
      · rw [htx] at hon
        cases hon
  | start hready htx hbusy hinactive =>
      exact ⟨fun _ => ⟨htx, rfl⟩, fun _ => rfl, fun _ => rfl, fun _ _ _ _ => rfl⟩
  | stop hmode =>
      refine ⟨nofun, ?_, ?_, fun _ _ _ hwrite => absurd hwrite (hmain _ _ _)⟩
      · intro hactive
        rcases hmode with rfl | ⟨-, -, hbusy⟩
        · exact h.engine hactive
        · exact absurd (hbusy.symm.trans hactive) (by decide)
      · intro hon
        rcases hmode with rfl | ⟨-, htx, -⟩
        · exact h.tx hon
        · exact absurd (htx.symm.trans hon) (by decide)
  | read => exact ⟨h.receiving, h.engine, h.tx, nofun⟩
  | status => exact ⟨h.receiving, h.engine, h.tx, nofun⟩

theorem HalfDuplex.step {timerClock : ℕ} {hat hat' : Hat} {event : HatEvent}
    (h : HalfDuplex hat) (hexclusive : Exclusive hat) (hstep : Step timerClock hat event hat')
    (hstock : noStock hat event) : HalfDuplex hat' := by
  cases hstep with
  | command hidle hcommand => exact h.command hidle (ywdCommand_commanded hcommand)
  | refill hidle hmode hspace =>
      exact ⟨fun hon => ⟨(h.receiving hon).1, hmode⟩, fun _ => hmode, fun _ => hmode,
        fun _ _ _ _ => hmode⟩
  | put hmain => exact ⟨h.receiving, h.engine, h.tx, fun _ _ _ _ => h.main _ _ _ hmain⟩
  | written hmain =>
      have hmode := h.main _ _ _ hmain
      refine ⟨fun hon => absurd hmain (hexclusive.main hon _ _ _), fun _ => hmode, fun _ => hmode,
        nofun⟩
  | release hidle htx hring hdone =>
      exact ⟨fun hon => ⟨rfl, (h.receiving hon).2⟩, h.engine, nofun, h.main⟩
  | clock htx => exact ⟨h.receiving, h.engine, h.tx, h.main⟩
  | tick bit =>
      obtain ⟨htx, hmode, hengine, hmain, -, -⟩ := sampleTimerInterrupt_frame hat bit
      refine ⟨fun hon => ?_, ?_, ?_, ?_⟩
      · rw [sampleTimerInterrupt_active] at hon
        rw [htx, hmode]
        exact h.receiving hon
      · rw [hengine, hmode]
        exact h.engine
      · rw [htx, hmode]
        exact h.tx
      · rw [hmain, hmode]
        exact h.main
  | readAccess hmain haccess =>
      exact ⟨fun hon => h.receiving (access_active haccess ▸ hon), h.engine, h.tx, nofun⟩
  | returned hmain haccess =>
      exact ⟨fun hon => h.receiving (access_active haccess ▸ hon), h.engine, h.tx, nofun⟩
  | statusAccess => exact ⟨h.receiving, h.engine, h.tx, nofun⟩
  | reported => exact ⟨h.receiving, h.engine, h.tx, nofun⟩
  | stock => exact hstock.elim

theorem halfDuplex_reachable {timerClock : ℕ} {hat : Hat}
    (h : (packetSystem timerClock).Reachable hat) : HalfDuplex hat :=
  h.invariant (fun _ hinitial => Initial.halfDuplex hinitial)
    fun _ _ _ hreach hinv hstep =>
      HalfDuplex.step hinv (exclusive_reachable hreach.of_restrict) hstep.1 hstep.2

/-! ### Running the modem -/

/-- The refills that see the free space of the ring as it is. -/
def exactSpace (hat : Hat) : HatEvent → Prop
  | .refill space => space + hat.txBuffer.length = Burst.CIO_FIFO_LENGTH
  | _ => True

def exactSystem (timerClock : ℕ) : System Hat HatEvent :=
  (packetSystem timerClock).restrict exactSpace

/-- A step of the exact system with the label `event`, if there is one. -/
def next (timerClock : ℕ) (hat : Hat) : HatEvent → Option Hat
  | .command buffer reply =>
      match ywdCommand timerClock 0 hat buffer with
      | some (hat', reply') => if hat.main = .idle ∧ reply' = reply then some hat' else none
      | none => none
  | .refill space =>
      if hat.main = .idle ∧ hat.modemState = .ax25 ∧
          space + hat.txBuffer.length = Burst.CIO_FIFO_LENGTH then some (hat.refilled space)
      else none
  | .put bit =>
      match hat.main with
      | .writing (bit' :: rest) count wasTX =>
          if bit' = bit then
            some { hat with
              txBuffer := Burst.putBit hat.txBuffer bit
              main := .writing rest count wasTX }
          else none
      | _ => none
  | .written keyed =>
      match hat.main with
      | .writing [] count wasTX =>
          if keyed = !hat.tx then some (hat.wrote count wasTX) else none
      | _ => none
  | .release =>
      if hat.main = .idle ∧ hat.tx = true ∧ hat.txBuffer = [] ∧
          ¬ (hat.modemState = .ax25 ∧ hat.ax25AFSKTX.busy = true) then
        some { hat with tx := false }
      else none
  | .clock bit =>
      if hat.tx = true ∧ bit = hat.txBuffer.head? then some hat.bitClock else none
  | .tick bit => if hat.sampleTimer = true then some (hat.sampleTimerInterrupt bit) else none
  | .access =>
      match hat.main with
      | .reading call =>
          match call.access hat.ax25AFSKRX with
          | (rx', .inl call') => some { hat with ax25AFSKRX := rx', main := .reading call' }
          | (_, .inr _) => none
      | .reporting call =>
          match call.access hat.ax25AFSKRX with
          | .inl call' => some { hat with main := .reporting call' }
          | .inr _ => none
      | _ => none
  | .returned out =>
      match hat.main with
      | .reading call =>
          match call.access hat.ax25AFSKRX with
          | (_, .inl _) => none
          | (rx', .inr out') =>
              if out' = out then some { hat with ax25AFSKRX := rx', main := .idle } else none
      | _ => none
  | .reported status =>
      match hat.main with
      | .reporting call =>
          match call.access hat.ax25AFSKRX with
          | .inl _ => none
          | .inr status' => if status' = status then some { hat with main := .idle } else none
      | _ => none
  | .stock => none

theorem step_of_next {timerClock : ℕ} {hat hat' : Hat} {event : HatEvent}
    (h : next timerClock hat event = some hat') : Step timerClock hat event hat' := by
  cases event with
  | command buffer reply =>
      simp only [next] at h
      split at h
      case h_1 hat'' reply' hcommand =>
        split at h
        case isTrue hidle =>
          cases h
          rw [← hidle.2]
          exact .command hidle.1 hcommand
        case isFalse => cases h
      case h_2 => cases h
  | refill space =>
      simp only [next] at h
      split at h
      case isTrue hroom =>
        cases h
        exact .refill hroom.1 hroom.2.1 fun _ => hroom.2.2.le
      case isFalse => cases h
  | put bit =>
      simp only [next] at h
      split at h
      case h_1 bit' rest count wasTX hmain =>
        split at h
        case isTrue hbit =>
          cases h
          rw [← hbit]
          exact .put hmain
        case isFalse => cases h
      case h_2 => cases h
  | written keyed =>
      simp only [next] at h
      split at h
      case h_1 count wasTX hmain =>
        split at h
        case isTrue hkeyed =>
          cases h
          rw [hkeyed]
          exact .written hmain
        case isFalse => cases h
      case h_2 => cases h
  | release =>
      simp only [next] at h
      split at h
      case isTrue hdone =>
        cases h
        exact .release hdone.1 hdone.2.1 hdone.2.2.1 hdone.2.2.2
      case isFalse => cases h
  | clock bit =>
      simp only [next] at h
      split at h
      case isTrue hkeyed =>
        cases h
        rw [hkeyed.2]
        exact .clock hkeyed.1
      case isFalse => cases h
  | tick bit =>
      simp only [next] at h
      split at h
      case isTrue htimer =>
        cases h
        exact .tick bit htimer
      case isFalse => cases h
  | access =>
      simp only [next] at h
      split at h
      case h_1 call hmain =>
        split at h
        case h_1 rx' call' haccess =>
          cases h
          exact .readAccess hmain haccess
        case h_2 => cases h
      case h_2 call hmain =>
        split at h
        case h_1 call' haccess =>
          cases h
          exact .statusAccess hmain haccess
        case h_2 => cases h
      case h_3 => cases h
  | returned out =>
      simp only [next] at h
      split at h
      case h_1 call hmain =>
        split at h
        case h_1 => cases h
        case h_2 rx' out' haccess =>
          split at h
          case isTrue hout =>
            cases h
            rw [← hout]
            exact .returned hmain haccess
          case isFalse => cases h
      case h_2 => cases h
  | reported status =>
      simp only [next] at h
      split at h
      case h_1 call hmain =>
        split at h
        case h_1 => cases h
        case h_2 status' haccess =>
          split at h
          case isTrue hstatus =>
            cases h
            rw [← hstatus]
            exact .reported hmain haccess
          case isFalse => cases h
      case h_2 => cases h
  | stock => cases h

theorem exactSpace_of_next {timerClock : ℕ} {hat hat' : Hat} {event : HatEvent}
    (h : next timerClock hat event = some hat') : noStock hat event ∧ exactSpace hat event := by
  cases event with
  | refill space =>
      simp only [next] at h
      split at h
      case isTrue hroom => exact ⟨trivial, hroom.2.2⟩
      case isFalse => cases h
  | stock => cases h
  | _ => exact ⟨trivial, trivial⟩

/-- The modem after these steps, if it can take them. -/
def execute (timerClock : ℕ) (hat : Hat) : List HatEvent → Option Hat
  | [] => some hat
  | event :: events => (next timerClock hat event).bind fun hat' => execute timerClock hat' events

theorem run_of_execute {timerClock : ℕ} {hat hat' : Hat} {events : List HatEvent}
    (h : execute timerClock hat events = some hat') :
    (exactSystem timerClock).Run hat events hat' := by
  induction events generalizing hat with
  | nil =>
      cases h
      exact .nil _
  | cons event events ih =>
      rw [execute, Option.bind_eq_some_iff] at h
      obtain ⟨hat₁, hnext, hrest⟩ := h
      obtain ⟨hstock, hspace⟩ := exactSpace_of_next hnext
      exact .cons ⟨⟨step_of_next hnext, hstock⟩, hspace⟩ (ih hrest)

theorem exists_of_execute {timerClock : ℕ} {hat : Hat} {events : List HatEvent} {p : Hat → Bool}
    (h : (execute timerClock hat events).any p = true) :
    ∃ hat', (exactSystem timerClock).Run hat events hat' ∧ p hat' = true := by
  obtain ⟨hat', hexecute, hp⟩ := (Option.any_eq_true p _).mp h
  exact ⟨hat', run_of_execute hexecute, hp⟩

/-- Configured, and nothing done yet. -/
def ready : Hat where
  modemState := .idle
  tx := false
  ywdRFReady := true
  ax25AFSKTX := .init
  ax25AFSKRX := .init
  txBuffer := []
  ywdAx25SampleEdges := 0
  rawSlicer := false
  sampleTimer := false
  main := .idle

theorem initial_ready : Initial ready := ⟨rfl, rfl, rfl, rfl, rfl, rfl, rfl, rfl⟩

end Hat

end YwdTnc
