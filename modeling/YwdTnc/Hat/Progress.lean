import YwdTnc.Hat.OnAir
import YwdTnc.Interaction.Progress

/-!
# The modem comes to rest

The main program never gets stuck in a read, in a status or in a refill, and a burst that has
been accepted can always be played to its end: from every reachable state the modem, left alone,
can come to rest (`comes_to_rest`).
-/

namespace YwdTnc

open Coding Interaction SerialPort CAX25AFSKTX

/-- A read that is at its test may make four accesses for each octet. -/
def ReadCall.left (call : ReadCall) : ℕ :=
  match call.point with
  | .test => 4 * (call.maxLength - call.out.length)
  | .head _ => 4 * (call.maxLength - (call.out.length + 1)) + 3
  | .tail _ => 4 * (call.maxLength - (call.out.length + 1)) + 2
  | .octet _ _ => 4 * (call.maxLength - (call.out.length + 1)) + 1

theorem ReadCall.access_left {rx rx' : CAX25AFSKRX} {call call' : ReadCall}
    (h : call.access rx = (rx', .inl call')) : call'.left < call.left := by
  rcases call with ⟨maxLength, out, _ | head | tail | ⟨tail, octet⟩⟩
  · simp only [ReadCall.access] at h
    split at h
    case isTrue hmore =>
      cases h
      simp only [ReadCall.left]
      omega
    case isFalse => cases h
  · simp only [ReadCall.access] at h
    split at h
    · cases h
    · cases h
      exact Nat.lt_succ_self _
  · cases h
    exact Nat.lt_succ_self _
  · cases h
    simp only [ReadCall.left, List.length_append, List.length_singleton]
    omega

def StatusCall.left (call : StatusCall) : ℕ :=
  match call.point with
  | .flags => 3
  | .head _ => 2
  | .available _ => 1
  | .samples _ _ => 0

theorem StatusCall.access_left {rx : CAX25AFSKRX} {call call' : StatusCall}
    (h : call.access rx = .inl call') : call'.left < call.left := by
  rcases call with ⟨flags, _ | head | available | ⟨available, samples⟩⟩
  · cases h
    exact Nat.lt_succ_self _
  · cases h
    exact Nat.lt_succ_self _
  · cases h
    exact Nat.lt_succ_self _
  · cases h

namespace Hat

/-- What the main program still has to do before it is idle again. -/
def mainLeft : HatMain → ℕ
  | .idle => 0
  | .writing rest _ _ => 2 * rest.length + 2
  | .reading call => call.left + 1
  | .reporting call => call.left + 1

/-- A sample that has not been generated counts for its way to the air. -/
def left (hat : Hat) : ℕ :=
  5 * ((waveform hat.ax25AFSKTX.selectors).length - hat.ax25AFSKTX.position) +
    mainLeft hat.main + hat.txBuffer.length + (if hat.tx then 1 else 0)

/-- At rest and ready for the next command. -/
def AtRest (hat : Hat) : Prop := Resting hat ∧ hat.main = .idle

section Rest

variable {timerClock : ℕ} {hat : Hat}

theorem putBit_length_le (ring : List Bool) (bit : Bool) :
    (Burst.putBit ring bit).length ≤ ring.length + 1 := by
  unfold Burst.putBit
  split
  · rw [List.length_append, List.length_singleton]
  · exact Nat.le_succ _

/-- A refill of an empty ring generates samples as long as there are any. -/
theorem left_refilled (hplaying : hat.ax25AFSKTX.Playing) (hidle : hat.main = .idle)
    (hactive : hat.ax25AFSKTX.active = true) : (hat.refilled 1024).left < hat.left := by
  have hlt := hplaying.position_lt hactive
  obtain ⟨-, hselectors, hposition, hsamples⟩ := hplaying.generate 768
  have hlength := congrArg List.length hsamples
  rw [List.length_take, List.length_drop] at hlength
  have hsome : (hat.ax25AFSKTX.generate 768).1 ≠ [] := by
    intro hnone
    rw [hnone, List.length_nil] at hlength
    omega
  have hrefill : hat.ax25AFSKTX.refill 1024 = hat.ax25AFSKTX.generate 768 :=
    refill_eq_generate _ _
  unfold left refilled
  rw [hrefill, if_neg hsome, hidle]
  dsimp only [mainLeft]
  rw [hselectors, hposition]
  omega

theorem left_clock (hring : hat.txBuffer ≠ []) :
    hat.bitClock.left < hat.left := by
  have hpos := List.length_pos_of_ne_nil hring
  unfold left bitClock
  dsimp only
  rw [List.length_tail]
  omega

/-- An idle main program that is not at rest sends, refills or releases. -/
theorem exists_step_of_idle (hplaying : hat.ax25AFSKTX.Playing) (hhalf : HalfDuplex hat)
    (hreleased : hat.tx = false → hat.txBuffer = []) (hidle : hat.main = .idle)
    (hbusy : ¬ AtRest hat) :
    ∃ event hat', (internalSystem timerClock).step hat event hat' ∧ hat'.left < hat.left := by
  by_cases hring : hat.txBuffer = []
  · by_cases hactive : hat.ax25AFSKTX.active = true
    · have hspace : Burst.SpaceFor hat.txBuffer 1024 := by
        rw [hring]
        exact fun _ => le_refl 1024
      exact ⟨.refill 1024, _, ⟨⟨.refill hidle (hhalf.engine hactive) hspace, trivial⟩, nofun⟩,
        left_refilled hplaying hidle hactive⟩
    · by_cases htx : hat.tx = true
      · refine ⟨.release, _, ⟨⟨.release hidle htx hring fun hdone => hactive hdone.2, trivial⟩,
          nofun⟩, ?_⟩
        unfold left
        simp [htx]
      · exact absurd ⟨⟨Bool.eq_false_iff.mpr htx, Bool.eq_false_iff.mpr hactive,
          by rw [hidle]; rfl⟩, hidle⟩ hbusy
  · have htx : hat.tx = true := by
      by_contra hoff
      exact hring (hreleased (Bool.eq_false_iff.mpr hoff))
    exact ⟨.clock hat.txBuffer.head?, _, ⟨⟨.clock htx, trivial⟩, nofun⟩, left_clock hring⟩

/-- A main program that is not idle makes its next access. -/
theorem exists_step_of_main (hmain : hat.main ≠ .idle) :
    ∃ event hat', (internalSystem timerClock).step hat event hat' ∧ hat'.left < hat.left := by
  cases hcase : hat.main with
  | idle => exact absurd hcase hmain
  | writing rest count wasTX =>
      cases rest with
      | nil =>
          refine ⟨.written !hat.tx, _, ⟨⟨.written hcase, trivial⟩, nofun⟩, ?_⟩
          have htx : (if hat.tx then 1 else 0) ≤ 1 := by split <;> omega
          unfold left wrote
          rw [hcase]
          change 5 * ((waveform hat.ax25AFSKTX.selectors).length - hat.ax25AFSKTX.position) + 0 +
            hat.txBuffer.length + 1 < _
          simp only [mainLeft, List.length_nil]
          omega
      | cons bit rest =>
          refine ⟨.put bit, _, ⟨⟨.put hcase, trivial⟩, nofun⟩, ?_⟩
          have hput := putBit_length_le hat.txBuffer bit
          unfold left
          rw [hcase]
          simp only [mainLeft, List.length_cons]
          omega
  | reading call =>
      cases haccess : call.access hat.ax25AFSKRX with
      | mk rx' result =>
          cases result with
          | inl call' =>
              refine ⟨.access, _, ⟨⟨.readAccess hcase haccess, trivial⟩, nofun⟩, ?_⟩
              have hless := ReadCall.access_left haccess
              unfold left
              rw [hcase]
              simp only [mainLeft]
              omega
          | inr out =>
              refine ⟨.returned out, _, ⟨⟨.returned hcase haccess, trivial⟩, nofun⟩, ?_⟩
              unfold left
              rw [hcase]
              simp only [mainLeft]
              omega
  | reporting call =>
      cases haccess : call.access hat.ax25AFSKRX with
      | inl call' =>
          refine ⟨.access, _, ⟨⟨.statusAccess hcase haccess, trivial⟩, nofun⟩, ?_⟩
          have hless := StatusCall.access_left haccess
          unfold left
          rw [hcase]
          simp only [mainLeft]
          omega
      | inr status =>
          refine ⟨.reported status, _, ⟨⟨.reported hcase haccess, trivial⟩, nofun⟩, ?_⟩
          unfold left
          rw [hcase]
          simp only [mainLeft]
          omega

theorem leads_rest {hat₀ : Hat} {past : List HatEvent} (hinitial : Initial hat₀)
    (hpast : (packetSystem timerClock).Run hat₀ past hat) :
    (internalSystem timerClock).Leads hat hat.left AtRest := by
  refine System.leads_of_variant
    (I := fun hat => ∃ past, (packetSystem timerClock).Run hat₀ past hat)
    left (fun hat hinv => ?_) ⟨past, hpast⟩
  obtain ⟨past, hpast⟩ := hinv
  by_cases hrest : AtRest hat
  · exact .inl hrest
  · have hstep : ∃ event hat', (internalSystem timerClock).step hat event hat' ∧
        hat'.left < hat.left := by
      by_cases hidle : hat.main = .idle
      · have haccounts := burst_accounts hinitial hpast
        refine exists_step_of_idle haccounts.playing (halfDuplex_run hinitial hpast)
          (fun htx => ?_) hidle hrest
        rw [burstState_idle hidle, htx] at haccounts
        exact haccounts.ring_of_released
      · exact exists_step_of_main hidle
    obtain ⟨event, hat', hs, hless⟩ := hstep
    exact .inr ⟨event, hat', hs, ⟨_, hpast.append (.cons hs.1 (.nil hat'))⟩, hless⟩

/-- The modem never gets stuck: whatever the host has sent, the modem, left alone, can get to where
nothing is left to do, and has then sent the whole waveform of the last burst in one
transmission, unless the host had cut it off. -/
theorem comes_to_rest {hat₀ : Hat} {past : List HatEvent} (hinitial : Initial hat₀)
    (hpast : (packetSystem timerClock).Run hat₀ past hat) :
    ∃ events hat', (internalSystem timerClock).Run hat events hat' ∧ events.length ≤ hat.left ∧
      AtRest hat' ∧
      ((burstAccount past).aborted = false →
        (burstAccount (past ++ events)).sent = waveform (burstAccount past).burst ∧
        ((burstAccount past).burst ≠ [] → (burstAccount (past ++ events)).keyups = 1)) := by
  obtain ⟨events, hat', hrun, hlength, hrest⟩ := leads_rest hinitial hpast
  refine ⟨events, hat', hrun, hlength, hrest, fun hwhole => ?_⟩
  obtain ⟨hburst, haborted⟩ := burstAccount_leaves past (leavesBurst_run hrun)
  rw [← hburst]
  exact hrest.1.sent hinitial (hpast.append hrun.of_restrict) (haborted.trans hwhole)

/-- Behind the command that loads a burst of one selector. -/
theorem comes_to_rest_tone :
    ∃ before events hat, (packetSystem 19200).Run ready (before ++ events) hat ∧ AtRest hat ∧
      (burstAccount (before ++ events)).sent = waveform [false] := by
  obtain ⟨hat, hrun, -⟩ := exists_of_execute (p := fun _ => true)
    (show (execute 19200 ready (toneEvents.take 1)).any _ = true by decide +kernel)
  obtain ⟨events, hat', hown, -, hrest, hsent⟩ := comes_to_rest initial_ready hrun.of_restrict
  exact ⟨toneEvents.take 1, events, hat', hrun.of_restrict.append hown.of_restrict, hrest,
    (hsent (by decide +kernel)).1⟩

end Rest

end Hat

end YwdTnc
