import YwdTnc.Tx.ChannelAccess

/-!
# What a ready attempt has seen

The observations of one access attempt as a log, and what the log holds when the
attempt becomes ready: a full hold on the release side, no busy observation
since, and one persistence trial for each slot since, of which only the last one
passed. `Supports` is the invariant that carries this through the two machines.
-/

namespace YwdTnc

/-- One observation of an attempt, with the octet it drew. -/
structure Sample where
  time : ℚ
  raw : ℤ
  drawn : Option ℤ

/-- The octets of the persistence trials in a log. -/
def draws (log : List Sample) : List ℤ := log.filterMap (·.drawn)

theorem draws_append_singleton (log : List Sample) (sample : Sample) :
    draws (log ++ [sample]) = draws log ++ sample.drawn.toList := by
  cases hdrawn : sample.drawn <;> simp [draws, hdrawn]

/-- Observations on the release side, the first of them at `since`. -/
structure Hold (since : ℚ) (hold : List Sample) : Prop where
  first : hold.head?.map (·.time) = some since
  raw : ∀ sample ∈ hold, CLEAR_RELEASE_RAW_MIN ≤ sample.raw

theorem Hold.singleton {sample : Sample} (h : CLEAR_RELEASE_RAW_MIN ≤ sample.raw) :
    Hold sample.time [sample] where
  first := rfl
  raw := by
    intro sample' hmem
    rw [List.mem_singleton.mp hmem]
    exact h

theorem Hold.append {since : ℚ} {hold : List Sample} (hhold : Hold since hold)
    {sample : Sample} (h : CLEAR_RELEASE_RAW_MIN ≤ sample.raw) :
    Hold since (hold ++ [sample]) where
  first := by
    cases hold with
    | nil => cases hhold.first
    | cons head rest => exact hhold.first
  raw := by
    intro sample' hmem
    rcases List.mem_append.mp hmem with hmem | hmem
    · exact hhold.raw sample' hmem
    · rw [List.mem_singleton.mp hmem]
      exact h

/-- The log ends in a full hold, which ended at `until_`, and in `wait`, in which
nothing was busy. -/
structure Cleared (log : List Sample) (until_ : ℚ) (wait : List Sample) : Prop where
  split : ∃ (before hold : List Sample) (since : ℚ), log = before ++ hold ++ wait ∧
    Hold since hold ∧ hold.getLast?.map (·.time) = some until_ ∧
    RECENT_RX_HOLD_SECONDS ≤ until_ - since
  raw : ∀ sample ∈ wait, BUSY_ASSERT_RAW_MAX < sample.raw

theorem Cleared.append {log wait : List Sample} {until_ : ℚ}
    (h : Cleared log until_ wait) {sample : Sample}
    (hraw : BUSY_ASSERT_RAW_MAX < sample.raw) :
    Cleared (log ++ [sample]) until_ (wait ++ [sample]) where
  split := by
    obtain ⟨before, hold, since, rfl, hhold⟩ := h.split
    exact ⟨before, hold, since, List.append_assoc _ _ _, hhold⟩
  raw := by
    intro sample' hmem
    rcases List.mem_append.mp hmem with hmem | hmem
    · exact h.raw sample' hmem
    · rw [List.mem_singleton.mp hmem]
      exact hraw

/-- The evidence for a transmission at `now` under `persist` and `slot`: the wait
after the hold ends at `now`, one slot long for each trial in it, and the last
trial is the only one that passed. -/
structure ClearEvidence (persist : ℕ) (slot now : ℚ) (log : List Sample) : Prop where
  evidence : ∃ (until_ : ℚ) (wait : List Sample) (failed : List ℤ) (passed : ℤ),
    Cleared log until_ wait ∧ until_ < now ∧
    wait.getLast?.map (·.time) = some now ∧
    draws wait = failed ++ [passed] ∧ (∀ byte ∈ failed, persist < byte) ∧
    passed ≤ persist ∧ until_ + (draws wait).length * slot ≤ now

namespace ShadowChannelAccessAttempt

/-- What the log of a running attempt says about its state. -/
inductive Supports (attempt : ShadowChannelAccessAttempt) (log : List Sample) : Prop
  | blocked (hcsma : attempt.csma.state = .waitClear)
      (hdetector : attempt.detector.state ≠ .clear)
      (hsince : ∀ since, attempt.detector.clearCandidateSince = some since →
        ∃ before hold, log = before ++ hold ∧ Hold since hold)
  | slot {until_ nextSlotAt : ℚ} {wait : List Sample}
      (hcsma : attempt.csma.state = .waitSlot)
      (hdetector : attempt.detector.state = .clear)
      (hcleared : Cleared log until_ wait)
      (hnext : attempt.csma.nextSlotAt = some nextSlotAt)
      (hfailed : ∀ byte ∈ draws wait, attempt.csma.parameters.persist < byte)
      (hslots : until_ + ((draws wait).length + 1 : ℕ) *
        attempt.csma.parameters.slotSeconds ≤ nextSlotAt)

theorem Supports.running {attempt : ShadowChannelAccessAttempt} {log : List Sample}
    (h : attempt.Supports log) :
    attempt.csma.state = .waitClear ∨ attempt.csma.state = .waitSlot := by
  cases h with
  | blocked hcsma => exact .inl hcsma
  | slot hcsma => exact .inr hcsma

/-- The start of the release side is in the log after one more observation. -/
theorem Supports.since {attempt attempt' : ShadowChannelAccessAttempt}
    {log : List Sample} (h : attempt.Supports log) {sample : Sample}
    (hadvances : attempt.detector.Advances sample.time sample.raw
      attempt'.detector.state attempt'.detector.clearCandidateSince)
    (hbusy : attempt'.detector.state ≠ .clear) {since : ℚ}
    (hsince : attempt'.detector.clearCandidateSince = some since) :
    ∃ before hold, log ++ [sample] = before ++ hold ∧ Hold since hold := by
  generalize attempt'.detector.state = state at *
  generalize attempt'.detector.clearCandidateSince = candidate at *
  cases hadvances with
  | busy hraw hstate => cases hsince
  | remain hraw hstate => exact absurd rfl hbusy
  | start hraw hstate hnone =>
      cases hsince
      exact ⟨log, [sample], rfl, Hold.singleton hraw⟩
  | @hold since' hraw hstate hcandidate =>
      cases hsince
      cases h with
      | blocked hcsma hdetector hlog =>
          obtain ⟨before, hold, rfl, hhold⟩ := hlog _ hcandidate
          exact ⟨before, hold ++ [sample], List.append_assoc _ _ _, hhold.append hraw⟩
      | slot hcsma hdetector => exact absurd hdetector hstate
  | release => exact absurd rfl hbusy

/-- A clear channel that stays clear was not busy. -/
theorem remain_raw {detector : RSSIChannelBusyDetector} {now : ℚ} {raw : ℤ}
    {state : ChannelBusyState} {since : Option ℚ}
    (h : detector.Advances now raw state since) (hbefore : detector.state = .clear)
    (hafter : state = .clear) : BUSY_ASSERT_RAW_MAX < raw := by
  cases h with
  | busy hraw hstate => exact absurd hafter hstate
  | remain hraw hstate => exact hraw
  | start hraw hstate => exact absurd hbefore hstate
  | hold hraw hstate => exact absurd hbefore hstate
  | release hraw hstate => exact absurd hbefore hstate

/-- A channel that becomes clear does so at the end of a full hold. -/
theorem Supports.release {attempt attempt' : ShadowChannelAccessAttempt}
    {log : List Sample} (h : attempt.Supports log)
    (hcsma : attempt.csma.state = .waitClear) {sample : Sample}
    (hadvances : attempt.detector.Advances sample.time sample.raw
      attempt'.detector.state attempt'.detector.clearCandidateSince)
    (hclear : attempt'.detector.state = .clear) :
    Cleared (log ++ [sample]) sample.time [] := by
  cases h with
  | slot hslot => rw [hslot] at hcsma; cases hcsma
  | blocked _ hdetector hlog =>
      generalize attempt'.detector.state = state at *
      generalize attempt'.detector.clearCandidateSince = candidate at *
      cases hadvances with
      | busy hraw hstate => exact absurd hclear hstate
      | remain hraw hstate => exact absurd hstate hdetector
      | start => cases hclear
      | hold => cases hclear
      | @release since hraw hstate hcandidate hlong =>
          obtain ⟨before, hold, rfl, hhold⟩ := hlog _ hcandidate
          refine ⟨⟨before, hold ++ [sample], since, ?_, hhold.append hraw, ?_, hlong⟩,
            nofun⟩
          · rw [List.append_nil, List.append_assoc]
          · rw [List.getLast?_concat]
            rfl

/-- An observation of an attempt that waits for a slot on a clear channel goes to
the wait after the hold. -/
theorem Supports.waiting {attempt attempt' : ShadowChannelAccessAttempt}
    {log : List Sample} (h : attempt.Supports log)
    (hwait : attempt.csma.state = .waitSlot) {sample : Sample} {nextSlotAt : ℚ}
    (hslot : attempt.csma.nextSlotAt = some nextSlotAt)
    (hadvances : attempt.detector.Advances sample.time sample.raw
      attempt'.detector.state attempt'.detector.clearCandidateSince)
    (hclear : attempt'.detector.state = .clear) :
    ∃ until_ wait, Cleared (log ++ [sample]) until_ (wait ++ [sample]) ∧
      (∀ byte ∈ draws wait, attempt.csma.parameters.persist < byte) ∧
      until_ + ((draws wait).length + 1 : ℕ) *
        attempt.csma.parameters.slotSeconds ≤ nextSlotAt := by
  cases h with
  | blocked hblocked => rw [hblocked] at hwait; cases hwait
  | @slot until_ nextSlotAt' wait _ hbefore hcleared hnext hfailed hslots =>
      have hraw := remain_raw hadvances hbefore hclear
      rw [hnext, Option.some.injEq] at hslot
      subst hslot
      exact ⟨until_, wait, hcleared.append hraw, hfailed, hslots⟩

/-- The trial in the sample, if there is one. -/
theorem draws_concat {wait : List Sample} {sample : Sample} {drawn : Option ℤ}
    (hdraw : sample.drawn = drawn) : draws (wait ++ [sample]) = draws wait ++ drawn.toList := by
  rw [draws_append_singleton, hdraw]

/-- A trial that fails puts the attempt off by a slot. -/
theorem Supports.defers {attempt attempt' : ShadowChannelAccessAttempt} {log : List Sample}
    (h : attempt.Supports log) (hwait : attempt.csma.state = .waitSlot) {sample : Sample}
    {nextSlotAt : ℚ} {randomByte : ℤ} (hslot : attempt.csma.nextSlotAt = some nextSlotAt)
    (hadvances : attempt.detector.Advances sample.time sample.raw
      attempt'.detector.state attempt'.detector.clearCandidateSince)
    (hclear : attempt'.detector.state = .clear) (hdraw : sample.drawn = some randomByte)
    (hdue : nextSlotAt ≤ sample.time) (hfail : attempt.csma.parameters.persist < randomByte) :
    ∃ until_ wait, Cleared (log ++ [sample]) until_ (wait ++ [sample]) ∧
      (∀ byte ∈ draws (wait ++ [sample]), attempt.csma.parameters.persist < byte) ∧
      until_ + ((draws (wait ++ [sample])).length + 1 : ℕ) *
        attempt.csma.parameters.slotSeconds ≤
          sample.time + attempt.csma.parameters.slotSeconds := by
  obtain ⟨until_, wait, hcleared, hfailed, hslots⟩ := h.waiting hwait hslot hadvances hclear
  refine ⟨until_, wait, hcleared, ?_, ?_⟩
  · rw [draws_concat hdraw]
    intro byte' hmem
    rcases List.mem_append.mp hmem with hmem | hmem
    · exact hfailed byte' hmem
    · rw [List.mem_singleton.mp hmem]
      exact hfail
  · rw [draws_concat hdraw, Option.toList_some, List.length_append, List.length_singleton]
    push_cast at hslots ⊢
    linarith

/-- A trial that passes has waited for one slot with each trial. -/
theorem Supports.passes {attempt attempt' : ShadowChannelAccessAttempt} {log : List Sample}
    (h : attempt.Supports log) (hwait : attempt.csma.state = .waitSlot) {sample : Sample}
    {nextSlotAt : ℚ} {randomByte : ℤ} (hslot : attempt.csma.nextSlotAt = some nextSlotAt)
    (hadvances : attempt.detector.Advances sample.time sample.raw
      attempt'.detector.state attempt'.detector.clearCandidateSince)
    (hclear : attempt'.detector.state = .clear) (hdraw : sample.drawn = some randomByte)
    (hdue : nextSlotAt ≤ sample.time) (hpass : randomByte ≤ attempt.csma.parameters.persist) :
    ClearEvidence attempt.csma.parameters.persist attempt.csma.parameters.slotSeconds
      sample.time (log ++ [sample]) := by
  obtain ⟨until_, wait, hcleared, hfailed, hslots⟩ := h.waiting hwait hslot hadvances hclear
  have hdraws : draws (wait ++ [sample]) = draws wait ++ [randomByte] := draws_concat hdraw
  have hslot_pos := attempt.csma.parameters.slotSeconds_pos
  have hcount : (0 : ℚ) ≤ (draws wait).length := Nat.cast_nonneg _
  refine ⟨until_, wait ++ [sample], draws wait, randomByte, hcleared, ?_, ?_, hdraws, hfailed,
    hpass, ?_⟩
  · push_cast at hslots
    nlinarith
  · rw [List.getLast?_concat]
    rfl
  · rw [hdraws, List.length_append, List.length_singleton]
    exact le_trans hslots hdue

/-- What an observation of a running attempt proves, by what the CSMA machine
made of it. The sample is the observation's entry in the log. -/
theorem Supports.observed {attempt attempt' : ShadowChannelAccessAttempt}
    {log : List Sample} (h : attempt.Supports log) (sample : Sample) {byte : ℤ}
    {observation : ChannelAccessObservation}
    (hobserved : attempt.Observed sample.time sample.raw byte attempt' observation)
    (hdrawn : sample.drawn = observation.randomByte) :
    attempt'.csma.state = .timedOut ∨ attempt'.Supports (log ++ [sample]) ∨
      attempt'.csma.state = .ready ∧
        ClearEvidence attempt.csma.parameters.persist
          attempt.csma.parameters.slotSeconds sample.time (log ++ [sample]) := by
  have hdetector := hobserved.detector
  have hcsma := hobserved.csma.advances
  have hparameters := hobserved.csma.parameters
  rw [← hdrawn] at hcsma
  generalize hbusy : decide (attempt'.detector.state ≠ .clear) = busy at hcsma
  generalize hstate : attempt'.csma.state = state at hcsma
  generalize hnext : attempt'.csma.nextSlotAt = next at hcsma
  generalize hdraw : sample.drawn = drawn at hcsma
  cases hcsma with
  | timeout => exact .inl rfl
  | busy =>
      rw [decide_eq_true_iff] at hbusy
      exact .inr (.inl (.blocked hstate hbusy fun _ hsince =>
        h.since hdetector hbusy hsince))
  | open_ hwait =>
      rw [decide_eq_false_iff_not, not_not] at hbusy
      have hcleared := h.release hwait hdetector hbusy
      refine .inr (.inl (.slot hstate hbusy hcleared hnext (fun _ h => nomatch h) ?_))
      rw [hparameters]
      simp [draws]
  | wait hwait hslot =>
      rw [decide_eq_false_iff_not, not_not] at hbusy
      obtain ⟨until_, wait, hcleared, hfailed, hslots⟩ :=
        h.waiting hwait hslot hdetector hbusy
      have hdraws : draws (wait ++ [sample]) = draws wait := by
        rw [draws_concat hdraw, Option.toList_none, List.append_nil]
      refine .inr (.inl (.slot hstate hbusy hcleared hnext ?_ ?_))
      · rw [hdraws, hparameters]
        exact hfailed
      · rw [hdraws, hparameters]
        exact hslots
  | @defer nextSlotAt randomByte hwait hslot hdue hfail =>
      rw [decide_eq_false_iff_not, not_not] at hbusy
      obtain ⟨until_, wait, hcleared, hfailed, hslots⟩ :=
        h.defers hwait hslot hdetector hbusy hdraw hdue hfail
      refine .inr (.inl (.slot hstate hbusy hcleared hnext ?_ ?_))
      · rw [hparameters]
        exact hfailed
      · rw [hparameters]
        exact hslots
  | @pass nextSlotAt randomByte hwait hslot hdue hpass =>
      rw [decide_eq_false_iff_not, not_not] at hbusy
      exact .inr (.inr ⟨rfl, h.passes hwait hslot hdetector hbusy hdraw hdue hpass⟩)

end ShadowChannelAccessAttempt

end YwdTnc
