import YwdTnc.Interaction.Transition
import YwdTnc.Kiss.Control

/-!
# The control plane over whole runs

Clients apply messages to one session, each under the session's lock, and report
the frames their decoders discarded. Whatever they send, the published snapshot
stays valid, it changes in one field and its generation at a time, and the
counters account for every message.
-/

namespace YwdTnc

open Interaction

namespace TNCSessionState

/-- What `apply` does with a message that it does not accept, and with one that
it does: in one field of the snapshot. -/
inductive Applies (s : TNCSessionState) : TNCSessionState → TNCControlResult → Prop
  | rejects {s' : TNCSessionState} {result : TNCControlResult}
      (hparameters : s'.parameters = s.parameters) (hprevious : result.previous = s.parameters)
      (hcurrent : result.current = s.parameters)
      (hdisposition : result.disposition ≠ .parameterUpdated)
      (hreceived : s'.counters.kissMessagesReceived = s.counters.kissMessagesReceived + 1)
      (hupdates : s'.counters.kissParameterUpdates = s.counters.kissParameterUpdates)
      (hothers : s'.counters.kissParameterRejections + s'.counters.kissUnknownCommands +
          s'.counters.kissUnsupportedPorts + s'.counters.kissDataTxRejected =
        s.counters.kissParameterRejections + s.counters.kissUnknownCommands +
          s.counters.kissUnsupportedPorts + s.counters.kissDataTxRejected + 1) :
      Applies s s' result
  | updates {s' : TNCSessionState} {result : TNCControlResult}
      (hprevious : result.previous = s.parameters) (hcurrent : result.current = s'.parameters)
      (hdisposition : result.disposition = .parameterUpdated)
      (hfield : ∃ value,
        let next := { s.parameters with generation := s.parameters.generation + 1 }
        s'.parameters = { next with txdelay := value } ∨
          s'.parameters = { next with persist := value } ∨
          s'.parameters = { next with slottime := value } ∨
          s'.parameters = { next with fullduplex := value })
      (hcounters : s'.counters =
        { s.counters with
          kissMessagesReceived := s.counters.kissMessagesReceived + 1
          kissParameterUpdates := s.counters.kissParameterUpdates + 1 }) :
      Applies s s' result

theorem applyValue_applies (s : TNCSessionState) (message : KISSMessage) (byte : Byte) :
    let counters := { s.counters with
      kissMessagesReceived := s.counters.kissMessagesReceived + 1 }
    Applies s (s.applyValue counters message byte).1 (s.applyValue counters message byte).2 := by
  dsimp only
  unfold applyValue
  dsimp only
  by_cases htxdelay : message.command = TXDELAY
  · rw [if_pos htxdelay]
    exact .updates rfl rfl rfl ⟨byte.toNat, .inl rfl⟩ rfl
  rw [if_neg htxdelay]
  by_cases hpersist : message.command = PERSIST
  · rw [if_pos hpersist]
    exact .updates rfl rfl rfl ⟨byte.toNat, .inr (.inl rfl)⟩ rfl
  rw [if_neg hpersist]
  by_cases hslottime : message.command = SLOTTIME
  · rw [if_pos hslottime]
    by_cases hzero : byte.toNat = 0
    · rw [dif_pos hzero]
      refine .rejects rfl rfl rfl nofun rfl rfl ?_
      simp only [rejected]
      omega
    · rw [dif_neg hzero]
      exact .updates rfl rfl rfl ⟨byte.toNat, .inr (.inr (.inl rfl))⟩ rfl
  rw [if_neg hslottime]
  by_cases hzero : byte.toNat ≠ 0
  · rw [dif_pos hzero]
    refine .rejects rfl rfl rfl nofun rfl rfl ?_
    simp only [rejected]
    omega
  · rw [dif_neg hzero]
    exact .updates rfl rfl rfl ⟨byte.toNat, .inr (.inr (.inr rfl))⟩ rfl

/-- Every exit of `apply`. -/
theorem apply_applies (s : TNCSessionState) (message : KISSMessage) :
    Applies s (s.apply message).1 (s.apply message).2 := by
  unfold apply
  dsimp only
  by_cases hport : message.port ≠ KISS_PORT
  · rw [if_pos hport]
    refine .rejects rfl rfl rfl nofun rfl rfl ?_
    simp only [rejected]
    omega
  rw [if_neg hport]
  by_cases hdata : message.command = DATA
  · rw [if_pos hdata]
    refine .rejects rfl rfl rfl nofun rfl rfl ?_
    simp only [rejected]
    omega
  rw [if_neg hdata]
  split
  · refine .rejects rfl rfl rfl nofun rfl rfl ?_
    simp only [rejected]
    omega
  · split
    · exact applyValue_applies s message _
    · refine .rejects rfl rfl rfl nofun rfl rfl ?_
      simp only [rejected]
      omega

/-! ### Runs -/

/-- A client's call of the session, with its result. -/
inductive ControlEvent where
  | applied (message : KISSMessage) (result : TNCControlResult)
  | malformed (count : ℕ)

inductive Step : TNCSessionState → ControlEvent → TNCSessionState → Prop
  | apply (s : TNCSessionState) (message : KISSMessage) :
      Step s (.applied message (s.apply message).2) (s.apply message).1
  | malformed (s : TNCSessionState) (count : ℕ) :
      Step s (.malformed count) (s.noteMalformedStreamFrames count)

/-- A session from its construction with `initial` on. -/
def system (initial : TNCParameterSnapshot) : System TNCSessionState ControlEvent where
  initial s := init initial = .ok s
  step := Step

/-- The counters account for every message and every generation. -/
structure Accounted (initial : TNCParameterSnapshot) (s : TNCSessionState) : Prop where
  generation : s.parameters.generation = initial.generation + s.counters.kissParameterUpdates
  received : s.counters.kissMessagesReceived = s.counters.kissParameterUpdates +
    s.counters.kissParameterRejections + s.counters.kissUnknownCommands +
    s.counters.kissUnsupportedPorts + s.counters.kissDataTxRejected

theorem Applies.accounted {initial : TNCParameterSnapshot} {s s' : TNCSessionState}
    {result : TNCControlResult} (happly : Applies s s' result) (h : Accounted initial s) :
    Accounted initial s' := by
  obtain ⟨hgeneration, hall⟩ := h
  cases happly with
  | rejects hparameters hprevious hcurrent hdisposition hreceived hupdates hothers =>
      constructor
      · rw [hparameters, hupdates, hgeneration]
      · rw [hreceived, hupdates]
        omega
  | updates hprevious hcurrent hdisposition hfield hcounters =>
      have hnext : s'.parameters.generation = s.parameters.generation + 1 := by
        obtain ⟨value, h | h | h | h⟩ := hfield <;> rw [h]
      constructor
      · rw [hnext, hcounters, hgeneration]
        push_cast
        omega
      · rw [hcounters]
        dsimp only
        omega

theorem init_ok {initial : TNCParameterSnapshot} {s : TNCSessionState}
    (h : init initial = .ok s) : s.parameters = initial ∧ s.counters = .zero := by
  unfold init at h
  split_ifs at h
  cases h
  exact ⟨rfl, rfl⟩

theorem accounted_reachable {initial : TNCParameterSnapshot} {s : TNCSessionState}
    (h : (system initial).Reachable s) : Accounted initial s := by
  refine h.invariant ?_ ?_
  · intro s hinit
    obtain ⟨hparameters, hcounters⟩ := init_ok hinit
    constructor
    · rw [hparameters, hcounters]
      exact (Int.add_zero _).symm
    · rw [hcounters]
      rfl
  · rintro s e s' - hs hstep
    cases hstep with
    | apply message => exact (apply_applies s message).accounted hs
    | malformed count =>
        unfold noteMalformedStreamFrames
        split
        · exact hs
        · exact ⟨hs.generation, hs.received⟩

/-- The result of a message against the snapshots before and after it. -/
structure Reported (s s' : TNCSessionState) (result : TNCControlResult) : Prop where
  previous : result.previous = s.parameters
  current : result.current = s'.parameters
  unchanged : result.disposition ≠ .parameterUpdated → s'.parameters = s.parameters
  oneField : result.disposition = .parameterUpdated → ∃ value,
    let next := { s.parameters with generation := s.parameters.generation + 1 }
    s'.parameters = { next with txdelay := value } ∨
      s'.parameters = { next with persist := value } ∨
      s'.parameters = { next with slottime := value } ∨
      s'.parameters = { next with fullduplex := value }

theorem Applies.reported {s s' : TNCSessionState} {result : TNCControlResult}
    (h : Applies s s' result) : Reported s s' result := by
  cases h with
  | rejects hparameters hprevious hcurrent hdisposition =>
      exact ⟨hprevious, hcurrent.trans hparameters.symm, fun _ => hparameters,
        fun h => absurd h hdisposition⟩
  | updates hprevious hcurrent hdisposition hfield =>
      exact ⟨hprevious, hcurrent, fun h => absurd hdisposition h, fun _ => hfield⟩

/-- The control plane in every reachable state: the snapshot is in range, a
context can be captured from it, the counters account for every message and every
generation, and the next message, whatever it is, either leaves the snapshot
alone or changes one field of it and the generation. -/
theorem reachable_controlled (initial : TNCParameterSnapshot) (s : TNCSessionState)
    (h : (system initial).Reachable s) :
    (s.parameters.txdelay ≤ 255 ∧ s.parameters.persist ≤ 255 ∧
        1 ≤ s.parameters.slottime ∧ s.parameters.slottime ≤ 255 ∧
        s.parameters.fullduplex = 0 ∧ s.parameters.port = 0) ∧
      s.parameters.generation = initial.generation + s.counters.kissParameterUpdates ∧
      (∀ maxWaitSeconds : ℚ, 0 < maxWaitSeconds →
        ∃ context, s.captureTxContext maxWaitSeconds = .ok context) ∧
      s.counters.kissMessagesReceived = s.counters.kissParameterUpdates +
        s.counters.kissParameterRejections + s.counters.kissUnknownCommands +
        s.counters.kissUnsupportedPorts + s.counters.kissDataTxRejected ∧
      ∀ message s' result, (system initial).step s (.applied message result) s' →
        Reported s s' result := by
  obtain ⟨hgeneration, hreceived⟩ := accounted_reachable h
  obtain ⟨hport, htxdelay, hpersist, hone, hslottime, hfullduplex⟩ := s.valid
  refine ⟨⟨htxdelay, hpersist, hone, hslottime, hfullduplex, hport⟩, hgeneration, ?_,
    hreceived, ?_⟩
  · intro maxWaitSeconds hpositive
    rw [captureTxContext, dif_pos hpositive]
    exact ⟨_, rfl⟩
  · intro message s' result hstep
    cases hstep with
    | apply => exact (apply_applies s message).reported

/-- A client sets TXDELAY to 0 in a session with the default parameters. -/
theorem reachable_controlled_after_update :
    ∃ s : TNCSessionState, s.parameters.txdelay = 0 ∧ s.parameters.generation = 1 ∧
      s.counters.kissMessagesReceived = s.counters.kissParameterUpdates +
        s.counters.kissParameterRejections + s.counters.kissUnknownCommands +
        s.counters.kissUnsupportedPorts + s.counters.kissDataTxRejected := by
  let message : KISSMessage := ⟨0, TXDELAY, [0]⟩
  have hreachable : (system .default).Reachable (default.apply message).1 :=
    .step (.initial rfl) (.apply default message)
  obtain ⟨-, hgeneration, -, hreceived, -⟩ :=
    reachable_controlled .default (default.apply message).1 hreachable
  exact ⟨(default.apply message).1, rfl, hgeneration, hreceived⟩

end TNCSessionState

end YwdTnc
