import YwdTnc.Hat.Link
import YwdTnc.Interaction.Serving
import YwdTnc.Tx.Transmission

/-!
# The modem behind the calls of its owner

The modem as the server of the modem owner's calls. A call that fails may have been lost on
the way or with its answer; a packet call that returns a value tells what the modem was and has
done (`answers_told`), and the idle reading of the half-duplex lifecycle is right whatever the
interrupts do (`idle_sent`).
-/

namespace YwdTnc

open Interaction Prog SerialPort CAX25AFSKTX PersistentHalfDuplexSubmitter

namespace Hat

/-! ### The modem as a server -/

/-- What a call finds on the line. The packet modem takes packet commands only: a call of a stock
command (`get_version`, `set_rx_frequency`, `arm_rx_modem_io`, `apply_tx_profile`) returns no
value here. -/
inductive Answers (R : Type) (timerClock : ℕ) (hat : Hat) :
    PortCall R → List HatEvent → Hat → Prop
  /-- The clock, the sleeper and an injected submitter are no business of the modem. -/
  | none {q : PortQuery} {answer : Option (Except PyError (PortQuery.Answer R q))}
      (hq : q.request = none) : Answers R timerClock hat ⟨q, answer⟩ [] hat
  | answered {hat' : Hat} {q : PortQuery} {request response : Bytes} {events : List HatEvent}
      (hrequest : q.request = some (.ok request))
      (hexchange : Exchange timerClock hat request events response hat') :
      Answers R timerClock hat ⟨q, some (q.parseResponse R response)⟩ events hat'
  /-- The request was not built, not accepted by the owner or not sent. -/
  | failed {q : PortQuery} {answer : Option (Except PyError (PortQuery.Answer R q))}
      (hfailed : ∀ a, answer ≠ some (.ok a)) : Answers R timerClock hat ⟨q, answer⟩ [] hat
  /-- The response was not received. -/
  | lost {hat' : Hat} {q : PortQuery} {answer : Option (Except PyError (PortQuery.Answer R q))}
      {request response : Bytes} {events : List HatEvent}
      (hfailed : ∀ a, answer ≠ some (.ok a)) (hrequest : q.request = some (.ok request))
      (hexchange : Exchange timerClock hat request events response hat') :
      Answers R timerClock hat ⟨q, answer⟩ events hat'

def server (R : Type) (timerClock : ℕ) : Server Hat HatEvent (PortQuery.Answer R) PyError where
  system := packetSystem timerClock
  spontaneous := internal
  answers := Answers R timerClock
  run_of_answers h := by
    cases h with
    | none | failed => exact .nil _
    | answered _ hexchange | lost _ _ hexchange => exact hexchange.run

section Answers

variable {R : Type} {timerClock : ℕ} {hat₀ hat hat' : Hat} {past events : List HatEvent}

/-- The events of an answer are a command and what the modem does by itself. -/
theorem Exchange.events_cases {request response : Bytes}
    (h : Exchange timerClock hat request events response hat') :
    hat.main = .idle ∧ ∃ rssi hat₁ reply rest,
      ywdCommand timerClock rssi hat request = some (hat₁, reply) ∧
      events = .command request reply :: rest ∧ (internalSystem timerClock).Run hat₁ rest hat' := by
  cases h with
  | frame hidle hcommand => exact ⟨hidle, _, _, _, [], hcommand, rfl, .nil _⟩
  | read hidle hcommand hrun hreturned =>
      exact ⟨hidle, _, _, _, _, hcommand, rfl,
        hrun.append (.cons ⟨⟨hreturned, trivial⟩, nofun⟩ (.nil _))⟩
  | status hidle hcommand hrun hreported =>
      exact ⟨hidle, _, _, _, _, hcommand, rfl,
        hrun.append (.cons ⟨⟨hreported, trivial⟩, nofun⟩ (.nil _))⟩

/-- A call that returns a value has been answered. -/
theorem Answers.exchanged {q : PortQuery} {a : PortQuery.Answer R q}
    (h : Answers R timerClock hat ⟨q, some (.ok a)⟩ events hat') (hq : q.request ≠ .none) :
    ∃ request response, q.request = some (.ok request) ∧
      Exchange timerClock hat request events response hat' ∧
      q.parseResponse R response = .ok a := by
  generalize hanswer : some (Except.ok a) = answer at h
  cases h with
  | none hnone => exact absurd hnone hq
  | answered hrequest hexchange =>
      exact ⟨_, _, hrequest, hexchange, (Option.some.inj hanswer).symm⟩
  | failed hfailed => exact absurd hanswer.symm (hfailed a)
  | lost hfailed => exact absurd hanswer.symm (hfailed a)

/-- A value that the owner returns is what it was told. -/
theorem Answers.told {q : PortQuery} {a : PortQuery.Answer R q}
    (h : Answers R timerClock hat ⟨q, some (.ok a)⟩ events hat') (hinitial : Initial hat₀)
    (hpast : (packetSystem timerClock).Run hat₀ past hat) (hq : q.request ≠ .none) :
    Told R timerClock hat events hat' q (.ok a) := by
  obtain ⟨request, response, hrequest, hexchange, hparse⟩ := h.exchanged hq
  rw [← hparse]
  exact told_of_exchange hinitial hpast hrequest hexchange

/-- A state that the packet modem gets to. -/
def Reached (timerClock : ℕ) (hat : Hat) : Prop :=
  ∃ hat₀ past, Initial hat₀ ∧ (packetSystem timerClock).Run hat₀ past hat

theorem Reached.run {events : List HatEvent} (h : Reached timerClock hat)
    (hrun : (packetSystem timerClock).Run hat events hat') : Reached timerClock hat' := by
  obtain ⟨hat₀, past, hinitial, hpast⟩ := h
  exact ⟨hat₀, past ++ events, hinitial, hpast.append hrun⟩

/-- The modem answers a call with a value. -/
theorem answers_exchange {q : PortQuery} {a : PortQuery.Answer R q} {request response : Bytes}
    {events : List HatEvent} (hrequest : q.request = some (.ok request))
    (hexchange : Exchange timerClock hat request events response hat')
    (hparse : q.parseResponse R response = .ok a) :
    Answers R timerClock hat ⟨q, some (.ok a)⟩ events hat' := by
  rw [← hparse]
  exact .answered hrequest hexchange

/-- A call in the middle of any others: either the modem has not seen it, and it did not return a
value, or the modem has done once what it asks for, and its result, if it was not lost, says what
the modem was and has done. -/
theorem answers_told {before after : List (PortCall R)} {c : PortCall R} (hinitial : Initial hat₀)
    (hpast : (packetSystem timerClock).Run hat₀ past hat) (hc : c.query.request ≠ .none)
    (hserves : (server R timerClock).Serves hat (before ++ c :: after) events hat') :
    ∃ events₁ events₂ events₃ hat₁ hat₂, events = events₁ ++ events₂ ++ events₃ ∧
      (packetSystem timerClock).Run hat events₁ hat₁ ∧
      (packetSystem timerClock).Run hat₂ events₃ hat' ∧
      ((events₂ = [] ∧ hat₂ = hat₁ ∧ ∀ a, c.answer ≠ some (.ok a)) ∨
        ∃ result, Told R timerClock hat₁ events₂ hat₂ c.query result ∧
          (c.answer = some result ∨ ∀ a, c.answer ≠ some (.ok a))) := by
  obtain ⟨events₁, events₂, hat₁, rfl, hserves₁, hserves₂⟩ := hserves.append_cases
  obtain ⟨own, answer, after', hat₂, hat₃, rfl, hown, hanswer, hserves₃⟩ := hserves₂.cons_cases
  have hpast₂ := (hpast.append hserves₁.run).append hown.of_restrict
  refine ⟨events₁ ++ own, answer, after', hat₂, hat₃, by simp only [List.append_assoc],
    hserves₁.run.append hown.of_restrict, hserves₃.run, ?_⟩
  cases hanswer with
  | none hnone => exact absurd hnone hc
  | answered hrequest hexchange =>
      exact .inr ⟨_, told_of_exchange hinitial hpast₂ hrequest hexchange, .inl rfl⟩
  | failed hfailed => exact .inl ⟨rfl, rfl, hfailed⟩
  | lost hfailed hrequest hexchange =>
      exact .inr ⟨_, told_of_exchange hinitial hpast₂ hrequest hexchange, .inr hfailed⟩

theorem answers_told_sampled : ∃ events hat', (server Unit 19200).Serves ready
      [⟨.rxStart 1, some (.ok ())⟩, ⟨.rxStatus 1, some (.ok ⟨13, 0, 1, 0⟩)⟩] events hat' ∧
    ∃ events₂ hat₁ hat₂,
      Told Unit 19200 hat₁ events₂ hat₂ (.rxStatus 1) (.ok ⟨13, 0, 1, 0⟩) := by
  have hstart : Exchange 19200 ready [0xE0, 4, 0x59, 0x01] _ _ _ :=
    .frame rfl (command_rxStart 19200 0 ready)
  have hstatus : Exchange 19200 (ready.started 19200) [0xE0, 4, 0x59, 0x04]
      (.command _ _ :: ([.access, .tick 1, .access, .access] ++ [.reported ⟨13, 0, 1, 0⟩])) _ _ :=
    .status rfl (command_rxStatus 19200 0 _)
      (.cons ⟨⟨.statusAccess rfl rfl, trivial⟩, nofun⟩ <| .cons ⟨⟨.tick 1 rfl, trivial⟩, nofun⟩ <|
        .cons ⟨⟨.statusAccess rfl rfl, trivial⟩, nofun⟩ <|
        .cons ⟨⟨.statusAccess rfl rfl, trivial⟩, nofun⟩ <| .nil _)
      (.reported rfl rfl)
  have hserves : (server Unit 19200).Serves ready
      ([⟨.rxStart 1, some (.ok ())⟩] ++ ⟨.rxStatus 1, some (.ok ⟨13, 0, 1, 0⟩)⟩ :: []) _ _ :=
    .call (answers_exchange rfl hstart (by decide +kernel))
      (.call (answers_exchange rfl hstatus (by decide +kernel)) (.nil _))
  refine ⟨_, _, hserves, ?_⟩
  obtain ⟨-, events₂, -, hat₁, hat₂, -, -, -, ⟨-, -, hnone⟩ | ⟨result, htold, hresult | hnone⟩⟩ :=
    answers_told initial_ready (.nil ready)
      (show (PortQuery.rxStatus 1).request ≠ .none from nofun) hserves
  · exact absurd rfl (hnone _)
  · cases hresult
    exact ⟨events₂, hat₁, hat₂, htold⟩
  · exact absurd rfl (hnone _)

end Answers

/-! ### Events that leave the burst -/

/-- No burst is loaded and none is cut off. -/
def LeavesBurst (event : HatEvent) : Prop :=
  (∀ packed bitCount, burstEvent event ≠ some (.load packed bitCount)) ∧
    burstEvent event ≠ some .abort

theorem leavesBurst_internal {hat : Hat} {event : HatEvent} (h : internal hat event) :
    LeavesBurst event := by
  cases event with
  | command buffer reply => exact absurd rfl (h buffer reply)
  | _ => exact ⟨nofun, nofun⟩

theorem burstAccount_append (past events : List HatEvent) :
    burstAccount (past ++ events) =
      (events.filterMap burstEvent).foldl Burst.Account.note (burstAccount past) := by
  rw [burstAccount, List.filterMap_append, Burst.Account.of, List.foldl_append]
  rfl

theorem burstAccount_leaves (past : List HatEvent) {events : List HatEvent}
    (h : ∀ event ∈ events, LeavesBurst event) :
    (burstAccount (past ++ events)).burst = (burstAccount past).burst ∧
      (burstAccount (past ++ events)).aborted = (burstAccount past).aborted := by
  rw [burstAccount_append]
  generalize burstAccount past = account
  induction events generalizing account with
  | nil => exact ⟨rfl, rfl⟩
  | cons event events ih =>
      have hrest := ih fun event hevent => h event (List.mem_cons_of_mem _ hevent)
      obtain ⟨hload, habort⟩ := h event List.mem_cons_self
      rw [List.filterMap_cons]
      cases hburst : burstEvent event with
      | none => exact hrest account
      | some event' =>
          rw [hburst] at hload habort
          obtain ⟨hburst', haborted'⟩ := hrest (account.note event')
          rw [List.foldl_cons, hburst', haborted']
          cases event' with
          | load packed bitCount => exact absurd rfl (hload packed bitCount)
          | abort => exact absurd rfl habort
          | _ => exact ⟨rfl, rfl⟩

theorem leavesBurst_of_effect {buffer : Bytes} {reply : Reply}
    (h : burstEffect (effect buffer reply) = none) : LeavesBurst (.command buffer reply) := by
  constructor
  · intro packed bitCount
    rw [burstEvent, h]
    intro hload
    cases hload
  · rw [burstEvent, h]
    intro habort
    cases habort

theorem leavesBurst_other {buffer : Bytes} {reply : Reply} (h : octet buffer 2 ≠ MMDVM_YWD_RF) :
    LeavesBurst (.command buffer reply) := by
  refine leavesBurst_of_effect ?_
  cases reply with
  | read | status => rfl
  | frame bytes =>
      unfold effect
      dsimp only
      rw [if_neg h]
      split_ifs <;> rfl

/-- Only a burst of the owner loads one. -/
theorem leavesBurst_command {timerClock rssi : ℕ} {hat hat' : Hat} {q : PortQuery} {request : Bytes}
    {reply : Reply} (hrequest : q.request = some (.ok request)) (hq : ¬ q.isBurst)
    (hcommand : ywdCommand timerClock rssi hat request = some (hat', reply)) :
    LeavesBurst (.command request reply) := by
  cases q with
  | getVersion | armRxModemIo | rxRssi | rxStatus | rxStop | rxStart =>
      refine leavesBurst_other ?_
      rw [octet_built (Option.some.inj hrequest)]
      decide
  | setRxFrequency frequencyHz timeout =>
      obtain ⟨payload, hbuilt, -⟩ := setRxFrequencyRequest_payload (Option.some.inj hrequest)
      refine leavesBurst_other ?_
      rw [octet_built hbuilt]
      decide
  | applyTxProfile frequencyHz power timeout =>
      obtain ⟨-, payload, hbuilt, -⟩ := buildTxProfileRequest_payload (Option.some.inj hrequest)
      refine leavesBurst_other ?_
      rw [octet_built hbuilt]
      decide
  | rxRead maximum timeout =>
      have hread := Option.some.inj hrequest
      unfold Protocol.rxReadRequest at hread
      split at hread
      · cases hread
      · refine leavesBurst_other ?_
        rw [octet_built hread]
        decide
  | rfStatus timeout =>
      obtain rfl : request = [0xE0, 4, 0x58, 0x01] := request_unique hrequest rfl
      rw [command_rfStatus] at hcommand
      cases hcommand
      exact leavesBurst_of_effect (congrArg burstEffect (effect_frame (by decide) _))
  | rfDiagnostics timeout =>
      obtain rfl : request = [0xE0, 4, 0x58, 0x05] := request_unique hrequest rfl
      rw [command_rfDiagnostics] at hcommand
      cases hcommand
      exact leavesBurst_of_effect (congrArg burstEffect (effect_frame (by decide) _))
  | transmitSelectorBurst => exact absurd trivial hq
  | submitFrame | monotonic | sleep => cases hrequest

section Serving

variable {R : Type} {timerClock : ℕ} {hat₀ hat hat' : Hat} {past events : List HatEvent}
  {t : List (PortCall R)}

theorem leavesBurst_run (h : (internalSystem timerClock).Run hat events hat') :
    ∀ event ∈ events, LeavesBurst event := by
  induction h with
  | nil hat => exact fun event hevent => nomatch hevent
  | cons hstep _ ih =>
      intro event hevent
      rcases List.mem_cons.mp hevent with rfl | hevent
      · exact leavesBurst_internal hstep.2
      · exact ih event hevent

/-- A call that is no burst leaves the last one, answered or not. -/
theorem Answers.leavesBurst {c : PortCall R} (h : Answers R timerClock hat c events hat')
    (hc : ¬ c.query.isBurst) : ∀ event ∈ events, LeavesBurst event := by
  have hexchanged : ∀ {q : PortQuery} {request response : Bytes}, ¬ q.isBurst →
      q.request = some (.ok request) →
      Exchange timerClock hat request events response hat' →
      ∀ event ∈ events, LeavesBurst event := by
    intro q request response hq hrequest hexchange event hevent
    obtain ⟨-, rssi, hat₁, reply, rest, hcommand, rfl, hrest⟩ := hexchange.events_cases
    rcases List.mem_cons.mp hevent with rfl | hevent
    · exact leavesBurst_command hrequest hq hcommand
    · exact leavesBurst_run hrest event hevent
  cases h with
  | none | failed => exact fun event hevent => nomatch hevent
  | answered hrequest hexchange => exact hexchanged hc hrequest hexchange
  | lost hfailed hrequest hexchange => exact hexchanged hc hrequest hexchange

theorem burstAccount_serves (past : List HatEvent)
    (h : (server R timerClock).Serves hat t events hat')
    (ht : ∀ c ∈ t, ¬ c.query.isBurst) :
    (burstAccount (past ++ events)).burst = (burstAccount past).burst ∧
      (burstAccount (past ++ events)).aborted = (burstAccount past).aborted :=
  burstAccount_leaves past (h.labels (fun hat _ hinternal => @leavesBurst_internal hat _ hinternal)
    fun _ c _ _ hc hanswers => Answers.leavesBurst hanswers (ht c hc))

end Serving

/-! ### The modem at rest -/

theorem inactive_internal {timerClock : ℕ} {hat hat' : Hat} {event : HatEvent}
    (h : hat.ax25AFSKTX.active = false) (hstep : (internalSystem timerClock).step hat event hat') :
    hat'.ax25AFSKTX.active = false := by
  obtain ⟨⟨hstep, hstock⟩, hinternal⟩ := hstep
  cases hstep with
  | command => exact absurd rfl (hinternal _ _)
  | stock => exact hstock.elim
  | refill hidle hmode hspace => rwa [refilled_of_inactive hidle h]
  | put | written | release | clock | readAccess | returned | statusAccess | reported => exact h
  | tick bit =>
      obtain ⟨-, -, hengine, -, -, -⟩ := sampleTimerInterrupt_frame hat bit
      rwa [hengine]

/-- Nothing is generated, written out or sent. -/
structure Resting (hat : Hat) : Prop where
  tx : hat.tx = false
  engine : hat.ax25AFSKTX.active = false
  main : burstMain hat.main = .idle

theorem Resting.internal {timerClock : ℕ} {hat hat' : Hat} {event : HatEvent}
    (h : Resting hat) (hstep : (internalSystem timerClock).step hat event hat') :
    Resting hat' := by
  have hengine := inactive_internal h.engine hstep
  obtain ⟨⟨hstep, hstock⟩, hinternal⟩ := hstep
  cases hstep with
  | command => exact absurd rfl (hinternal _ _)
  | stock => exact hstock.elim
  | refill hidle hmode hspace => rwa [refilled_of_inactive hidle h.engine]
  | put hmain | written hmain =>
      have hwriting := h.main
      rw [hmain] at hwriting
      cases hwriting
  | release hidle htx | clock htx => exact absurd (htx.symm.trans h.tx) (by decide)
  | tick bit =>
      obtain ⟨htx, -, -, hmain, -, -⟩ := sampleTimerInterrupt_frame hat bit
      exact ⟨htx.trans h.tx, hengine, hmain ▸ h.main⟩
  | readAccess | returned | statusAccess | reported => exact ⟨h.tx, hengine, rfl⟩

section Rest

variable {R : Type} {timerClock : ℕ} {hat₀ hat hat' : Hat} {past events : List HatEvent}

theorem inactive_run (h : hat.ax25AFSKTX.active = false)
    (hrun : (internalSystem timerClock).Run hat events hat') : hat'.ax25AFSKTX.active = false := by
  induction hrun with
  | nil hat => exact h
  | cons hstep _ ih => exact ih (inactive_internal h hstep)

theorem Resting.run (h : Resting hat) (hrun : (internalSystem timerClock).Run hat events hat') :
    Resting hat' := by
  induction hrun with
  | nil hat => exact h
  | cons hstep _ ih => exact ih (h.internal hstep)

theorem Resting.sent (h : Resting hat) (hinitial : Initial hat₀)
    (hpast : (packetSystem timerClock).Run hat₀ past hat)
    (hwhole : (burstAccount past).aborted = false) :
    (burstAccount past).sent = waveform (burstAccount past).burst ∧
      ((burstAccount past).burst ≠ [] → (burstAccount past).keyups = 1) := by
  have haccounts := burst_accounts hinitial hpast
  unfold burstState at haccounts
  rw [h.tx, h.main] at haccounts
  obtain ⟨hsent, hkeyups, -⟩ := haccounts.quiet h.engine hwhole
  exact ⟨hsent, hkeyups⟩

/-- An idle pair has found the modem at rest. -/
theorem resting_of_idlePair {timeout : ℚ} {status : RFStatus} {diag : RFDiagnostics}
    (hidle : Idle status diag) (hinitial : Initial hat₀)
    (hpast : (packetSystem timerClock).Run hat₀ past hat)
    (hserves : (server R timerClock).Serves hat (idlePair timeout status diag) events hat') :
    Resting hat' := by
  obtain ⟨before, answer, after, hat₁, hat₂, rfl, hbefore, hstatus, hserves⟩ :=
    hserves.cons_cases
  have hpast₁ := hpast.append hbefore.of_restrict
  have hpast₂ := hpast₁.append ((server R timerClock).run_of_answers hstatus)
  obtain ⟨before', answer', after', hat₃, hat₄, rfl, hbefore', hdiag, hserves⟩ :=
    hserves.cons_cases
  have hpast₃ := hpast₂.append hbefore'.of_restrict
  have hafter := hserves.of_nil
  cases Answers.told hstatus hinitial hpast₁ nofun with
  | rfStatus hsame =>
      subst hsame
      have hplaying : hat₂.ax25AFSKTX.Playing := (burst_accounts hinitial hpast₁).playing
      have hinactive := hplaying.remaining_eq_zero_iff.mp hidle.1
      have hinactive₃ := inactive_run hinactive hbefore'
      obtain ⟨_, _, -, hexchange, -⟩ := Answers.exchanged hdiag nofun
      have hmain : hat₃.main = .idle := hexchange.events_cases.1
      cases Answers.told hdiag hinitial hpast₃ nofun with
      | rfDiagnostics hsame =>
          subst hsame
          have htx : hat₄.tx = false := by
            have hshown := hidle.2
            cases htx : hat₄.tx with
            | false => rfl
            | true =>
                rw [rfDiagnostics, htx] at hshown
                cases hshown
          exact Resting.run ⟨htx, hinactive₃, by rw [hmain]; rfl⟩ hafter

theorem exchange_rfStatus (hidle : hat.main = .idle) (hreached : Reached timerClock hat) :
    ∃ events response, Exchange timerClock hat [0xE0, 4, 0x58, 0x01] events response hat ∧
      Protocol.parseRfStatus response = .ok hat.rfStatus := by
  obtain ⟨hat₀, past, hinitial, hpast⟩ := hreached
  obtain ⟨hremaining, -, -, -⟩ := counters_fit hinitial hpast
  exact ⟨_, _, .frame hidle (command_rfStatus timerClock 0 hat), parseRfStatus_reply hremaining⟩

theorem exchange_rfDiagnostics (hidle : hat.main = .idle) (hreached : Reached timerClock hat) :
    ∃ events response, Exchange timerClock hat [0xE0, 4, 0x58, 0x05] events response hat ∧
      Protocol.parseRfDiagnostics response = .ok hat.rfDiagnostics := by
  obtain ⟨hat₀, past, hinitial, hpast⟩ := hreached
  obtain ⟨-, hkeyups, hsamples, hedges⟩ := counters_fit hinitial hpast
  have hactive : (if hat.tx then (1 : Byte) else 0).toNat = (if hat.tx then 1 else 0) := by
    split <;> rfl
  refine ⟨_, _, .frame hidle (command_rfDiagnostics timerClock 0 hat), ?_⟩
  rw [parseRfDiagnostics_reply hedges hkeyups hsamples, hactive]
  rfl

/-- A modem at rest shows that it is idle. -/
theorem Resting.idle (h : Resting hat) (hreached : Reached timerClock hat) :
    Idle hat.rfStatus hat.rfDiagnostics := by
  obtain ⟨hat₀, past, hinitial, hpast⟩ := hreached
  refine ⟨(burst_accounts hinitial hpast).playing.remaining_eq_zero_iff.mpr h.engine, ?_⟩
  rw [rfDiagnostics, h.tx]
  rfl

/-- Wherever the interrupts fall between its two readings, an idle pair says that the last burst
is on the air, whole and keyed once, unless the host had cut it off, and that the modem is at
rest. -/
theorem idle_sent {timeout : ℚ} {status : RFStatus} {diag : RFDiagnostics}
    (hidle : Idle status diag) (hinitial : Initial hat₀)
    (hpast : (packetSystem timerClock).Run hat₀ past hat)
    (hserves : (server R timerClock).Serves hat (idlePair timeout status diag) events hat') :
    Resting hat' ∧ ((burstAccount past).aborted = false →
      (burstAccount (past ++ events)).sent = waveform (burstAccount past).burst ∧
      ((burstAccount past).burst ≠ [] → (burstAccount (past ++ events)).keyups = 1)) := by
  have hresting := resting_of_idlePair hidle hinitial hpast hserves
  obtain ⟨hburst, haborted⟩ := burstAccount_serves past hserves (by
    intro c hc
    rcases List.mem_cons.mp hc with rfl | hc
    · exact id
    · rw [List.mem_singleton.mp hc]
      exact id)
  refine ⟨hresting, fun hwhole => ?_⟩
  rw [← hburst]
  exact hresting.sent hinitial (hpast.append hserves.run) (haborted.trans hwhole)

theorem idle_sent_tone : ∃ hat events,
    (packetSystem 19200).Run ready (toneEvents ++ [.release]) hat ∧
    (server Unit 19200).Serves hat (idlePair 1 hat.rfStatus hat.rfDiagnostics) events hat ∧
      (burstAccount (toneEvents ++ [.release] ++ events)).sent = waveform [false] := by
  obtain ⟨hat, hrun, hrest⟩ := exists_of_execute
    (p := fun hat => hat.main = .idle ∧ hat.ax25AFSKTX.active = false ∧ hat.tx = false)
    (show (execute 19200 ready (toneEvents ++ [.release])).any _ = true by decide +kernel)
  obtain ⟨hmain, hengine, htx⟩ := of_decide_eq_true hrest
  have hreached : Reached 19200 hat := ⟨_, _, initial_ready, hrun.of_restrict⟩
  obtain ⟨events₁, response₁, hexchange₁, hparse₁⟩ := exchange_rfStatus hmain hreached
  obtain ⟨events₂, response₂, hexchange₂, hparse₂⟩ := exchange_rfDiagnostics hmain hreached
  have hserves : (server Unit 19200).Serves hat (idlePair 1 hat.rfStatus hat.rfDiagnostics) _ hat :=
    .call (answers_exchange rfl hexchange₁ hparse₁)
      (.call (answers_exchange rfl hexchange₂ hparse₂) (.nil hat))
  have hresting : Resting hat := ⟨htx, hengine, by rw [hmain]; rfl⟩
  obtain ⟨-, hsent⟩ :=
    idle_sent (hresting.idle hreached) initial_ready hrun.of_restrict hserves
  exact ⟨hat, _, hrun.of_restrict, hserves, (hsent (by decide +kernel)).1⟩

end Rest

/-! ### A whole submission -/

theorem burstEvent_load {count : ℕ} {packed request : Bytes}
    (hrequest : Protocol.rfTxTonesRequest count packed = .ok request) :
    burstEvent (.command request (.frame (replyFrame MMDVM_ACK [MMDVM_YWD_RF]))) =
      some (.load packed count) := by
  obtain ⟨⟨hpos, hmax, hlength⟩, total, lo, hi, rfl, hword⟩ := rfTxTonesRequest_octets hrequest
  have hcount : bitCountOf (MMDVM_FRAME_START :: total :: MMDVM_YWD_RF :: YWD_RF_TX_TONES ::
      lo :: hi :: packed) = count := hword
  have hpacked : packedOf (MMDVM_FRAME_START :: total :: MMDVM_YWD_RF :: YWD_RF_TX_TONES ::
      lo :: hi :: packed) = packed := by
    rw [packedOf, hcount, ← hlength]
    exact List.take_length
  have heffect := @effect_ack_rf (MMDVM_FRAME_START :: total :: MMDVM_YWD_RF ::
    YWD_RF_TX_TONES :: lo :: hi :: packed) rfl
  rw [hcount, hpacked] at heffect
  exact congrArg burstEffect heffect

section Submission

variable {R : Type} {timerClock : ℕ} {hat₀ hat hat' : Hat} {past events : List HatEvent}

/-- A burst that was taken is the one that the account has from now on. -/
theorem burstAccount_taken {count : ℕ} {packed : Bytes} {timeout : ℚ}
    (h : Answers R timerClock hat ⟨.transmitSelectorBurst count packed timeout, some (.ok ())⟩
      events hat') (hinitial : Initial hat₀) (hpast : (packetSystem timerClock).Run hat₀ past hat) :
    (burstAccount (past ++ events)).burst = Burst.Account.selectorsOf packed count ∧
      (burstAccount (past ++ events)).aborted = false := by
  obtain ⟨request, response, hrequest, hexchange, hparse⟩ := h.exchanged nofun
  have hrequest := Option.some.inj hrequest
  obtain ⟨-, rssi, hat₁, reply, rest, hcommand, rfl, hrest⟩ := hexchange.events_cases
  have hfree : hat.Free := by
    cases h.told hinitial hpast nofun with
    | burst hfree => exact hfree
  rw [command_burst (halfDuplex_run hinitial hpast) hrequest, if_pos hfree, Option.some.injEq,
    Prod.mk.injEq] at hcommand
  obtain ⟨-, rfl⟩ := hcommand
  have hloaded := burstAccount_append past
    [.command request (.frame (replyFrame MMDVM_ACK [MMDVM_YWD_RF]))]
  rw [List.filterMap_cons_some (burstEvent_load hrequest)] at hloaded
  obtain ⟨hburst, haborted⟩ := burstAccount_leaves
    (past ++ [.command request (.frame (replyFrame MMDVM_ACK [MMDVM_YWD_RF]))])
    (leavesBurst_run hrest)
  rw [List.append_assoc, List.singleton_append, hloaded] at hburst haborted
  exact ⟨hburst, haborted⟩

/-- What only the host changes. -/
theorem internal_keeps {event : HatEvent}
    (hstep : (internalSystem timerClock).step hat event hat') :
    hat'.ywdRFReady = hat.ywdRFReady ∧ hat'.modemState = hat.modemState ∧
      hat'.ax25AFSKRX.active = hat.ax25AFSKRX.active := by
  obtain ⟨⟨hstep, hstock⟩, hinternal⟩ := hstep
  cases hstep with
  | command => exact absurd rfl (hinternal _ _)
  | stock => exact hstock.elim
  | tick bit =>
      refine ⟨?_, (sampleTimerInterrupt_frame hat bit).2.1, sampleTimerInterrupt_active hat bit⟩
      unfold sampleTimerInterrupt
      split <;> rfl
  | readAccess hmain haccess => exact ⟨rfl, rfl, access_active haccess⟩
  | returned hmain haccess => exact ⟨rfl, rfl, access_active haccess⟩
  | refill | put | written | release | clock | statusAccess | reported => exact ⟨rfl, rfl, rfl⟩

theorem internal_run_keeps (hrun : (internalSystem timerClock).Run hat events hat') :
    hat'.ywdRFReady = hat.ywdRFReady ∧ hat'.modemState = hat.modemState ∧
      hat'.ax25AFSKRX.active = hat.ax25AFSKRX.active := by
  induction hrun with
  | nil hat => exact ⟨rfl, rfl, rfl⟩
  | cons hstep _ ih =>
      obtain ⟨hready, hmode, hactive⟩ := internal_keeps hstep
      exact ⟨ih.1.trans hready, ih.2.1.trans hmode, ih.2.2.trans hactive⟩

/-- A look at the receiver leaves it on. -/
theorem Answers.receiving {timeout : ℚ} {answer : Option (Except PyError RX3Status)}
    (h : Answers R timerClock hat ⟨.rxStatus timeout, answer⟩ events hat')
    (hactive : hat.ax25AFSKRX.active = true) : hat'.ax25AFSKRX.active = true := by
  have hexchanged : ∀ {request response : Bytes},
      (PortQuery.rxStatus timeout).request = some (.ok request) →
      Exchange timerClock hat request events response hat' → hat'.ax25AFSKRX.active = true := by
    intro request response hrequest hexchange
    obtain rfl : request = [0xE0, 4, 0x59, 0x04] := request_unique hrequest rfl
    obtain ⟨-, rssi, hat₁, reply, rest, hcommand, -, hrest⟩ := hexchange.events_cases
    rw [command_rxStatus, Option.some.injEq, Prod.mk.injEq] at hcommand
    obtain ⟨rfl, -⟩ := hcommand
    exact (internal_run_keeps hrest).2.2.trans hactive
  cases h with
  | none | failed => exact hactive
  | answered hrequest hexchange => exact hexchanged hrequest hexchange
  | lost hfailed hrequest hexchange => exact hexchanged hrequest hexchange

theorem receiving_of_restarted {timeout : ℚ} {rx : RX3Status} (hinitial : Initial hat₀)
    (hpast : (packetSystem timerClock).Run hat₀ past hat)
    (hserves : (server R timerClock).Serves hat (restarted timeout rx) events hat') :
    hat'.ax25AFSKRX.active = true := by
  obtain ⟨before, answer, after, hat₁, hat₂, rfl, hbefore, hstart, hserves⟩ := hserves.cons_cases
  have hpast₁ := hpast.append hbefore.of_restrict
  have hactive : hat₂.ax25AFSKRX.active = true := by
    cases Answers.told hstart hinitial hpast₁ nofun with
    | rxStart hfree hstarted =>
        rw [hstarted]
        rfl
  refine hserves.invariant (I := fun hat => hat.ax25AFSKRX.active = true)
    (fun hat event hat' hactive hstep hinternal =>
      (@internal_keeps timerClock hat hat' event ⟨hstep, hinternal⟩).2.2.trans hactive)
    (fun hat c events hat' hc hactive hanswers => ?_) hactive
  rw [List.mem_singleton.mp hc] at hanswers
  exact Answers.receiving hanswers hactive

/-- A modem that is receiving is at rest. -/
theorem resting_of_receiving (hinitial : Initial hat₀)
    (hpast : (packetSystem timerClock).Run hat₀ past hat)
    (hactive : hat.ax25AFSKRX.active = true) : Resting hat := by
  have hexclusive := exclusive_run hinitial hpast
  refine ⟨((halfDuplex_run hinitial hpast).receiving hactive).1, hexclusive.engine hactive, ?_⟩
  have hmain := hexclusive.main hactive
  generalize hat.main = main at hmain ⊢
  cases main with
  | writing rest count wasTX => exact absurd rfl (hmain rest count wasTX)
  | _ => rfl

end Submission

end Hat

/-- The calls of a submission that returns: one burst that was taken, and RX found active at the
end. -/
theorem ContextualHalfDuplexSubmitter.submitFrame_returned {R : Type}
    {parameters : HalfDuplexParameters} {frame : Bytes} {context : TNCTransmitContext}
    {timeout : Option ℚ} {s s' : ContextualHalfDuplexSubmitter} {receipt : TXReceipt}
    {t : List (PortCall R)}
    (h : Runs (submitFrame parameters frame context timeout) s (.returned receipt) s' t) :
    ∃ u count packed burstTimeout v restartTimeout rx,
      TXBroker.serialize context.preFlags frame = .ok (count, packed) ∧
      (∀ c ∈ v, ¬ c.query.isBurst) ∧
      t = u ++ ⟨.transmitSelectorBurst count packed burstTimeout, some (.ok ())⟩ ::
        (v ++ restarted restartTimeout rx) := by
  obtain ⟨_, s₁, t₁, t₂, harm, hcall, rfl⟩ := h.bind_returned
  obtain ⟨a, hrun, rfl⟩ := harm.zoom_cases
  obtain ⟨rfl, ⟨e, hraised⟩ | ⟨-, harmed⟩⟩ := ArmedContextAdapter.arm_cases hrun
  · cases hraised
  rcases hcall.ensuring_cases with ⟨s₂, hrun, -, rfl⟩ | ⟨-, hpending⟩
  · cases submitFrame_submits hrun with
    | cycle hlatched hidle hdone hcycle =>
        cases hcycle with
        | @completed s' x t t' before after result hbefore hafter hsubmit hrestore hrestored =>
            cases ArmedContextAdapter.submitFrame_delivers harmed hsubmit with
            | unsent hcalls ho => exact absurd rfl (ho receipt)
            | @sent burstTimeout count packed status a hburst =>
                obtain ⟨w, idle, diag, rx, -, hactive, rfl⟩ := hrestored
                generalize timeout.getD parameters.transactionTimeoutSeconds = granted
                  at hrestore ⊢
                refine ⟨handedOff granted before after ++
                    [⟨.rfStatus burstTimeout, some (.ok status)⟩], count, packed, burstTimeout,
                  w ++ idlePair granted idle diag, granted, rx, hburst,
                  fun c hc => Restoring.not_burst hrestore c (List.mem_append_left _ hc), ?_⟩
                simp only [List.nil_append, List.append_assoc, List.cons_append]
  · cases hpending

end YwdTnc
