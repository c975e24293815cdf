import YwdTnc.Tx.ChannelBusy
import YwdTnc.Tx.Csma

/-!
# One channel-access attempt

The detector feeds the p-persistent attempt. A random octet is taken from the
caller only when the channel is clear and a persistence trial is due.
-/

namespace YwdTnc

/-- A caller's random octet source: absent, or what a call of it does. -/
abbrev RandomByteSource := Option (Except PyError ℤ)

structure ChannelAccessObservation where
  now : ℚ
  detector : ChannelBusyDecision
  csma : CSMADecision
  randomByte : Option ℤ

structure ShadowChannelAccessAttempt where
  detector : RSSIChannelBusyDetector
  csma : PersistentCSMA
  lastObservation : Option ChannelAccessObservation

namespace ShadowChannelAccessAttempt

def init (startedAt : ℚ) (parameters : CSMAParameters) :
    Except PyError ShadowChannelAccessAttempt := do
  let detector ← RSSIChannelBusyDetector.init startedAt
  let csma ← PersistentCSMA.init startedAt parameters
  return { detector, csma, lastObservation := none }

/-- `persistence_due`, read off the last decision. -/
def persistenceDue (prior : CSMADecision) (channelBusy : Bool) (now : ℚ) : Bool :=
  !channelBusy && prior.state = .waitSlot &&
    (match prior.nextSlotAt with
      | none => false
      | some nextSlotAt => nextSlotAt ≤ now) &&
    now < prior.deadlineAt

def drawRandomByte (source : RandomByteSource) : Except PyError ℤ :=
  match source with
  | none =>
      .error ⟨.channelAccessRandomnessRequired,
        "clear persistence slot is due; caller must supply one random byte"⟩
  | some drawn => drawn

def observeRssi (attempt : ShadowChannelAccessAttempt) (now : ℚ) (raw : ℤ)
    (source : RandomByteSource) :
    ShadowChannelAccessAttempt × Except PyError ChannelAccessObservation :=
  match attempt.detector.observe now raw with
  | (detector, .error e) => ({ attempt with detector }, .error e)
  | (detector, .ok busy) =>
      let attempt := { attempt with detector }
      let due := persistenceDue attempt.csma.lastDecision busy.channelBusy now
      let drawn : Except PyError (Option ℤ) :=
        if due then (drawRandomByte source).map some else .ok none
      match drawn with
      | .error e => (attempt, .error e)
      | .ok randomByte =>
          match attempt.csma.observe now busy.channelBusy randomByte with
          | (csma, .error e) => ({ attempt with csma }, .error e)
          | (csma, .ok decision) =>
              let observation : ChannelAccessObservation :=
                { now, detector := busy, csma := decision, randomByte }
              ({ attempt with csma, lastObservation := some observation },
                .ok observation)

theorem init_ok {startedAt : ℚ} (hstart : 0 ≤ startedAt)
    (parameters : CSMAParameters) :
    ∃ attempt, init startedAt parameters = .ok attempt ∧
      attempt.detector.lastNow = startedAt ∧
      attempt.detector.state = .unknown ∧
      attempt.detector.clearCandidateSince = none ∧
      attempt.csma.lastNow = startedAt ∧ attempt.csma.parameters = parameters ∧
      attempt.csma.state = .waitClear ∧ attempt.csma.Coherent := by
  unfold init RSSIChannelBusyDetector.init PersistentCSMA.init
  rw [if_neg (not_lt.mpr hstart), if_neg (not_lt.mpr hstart)]
  exact ⟨_, rfl, rfl, rfl, rfl, rfl, rfl, rfl, ⟨rfl, rfl, rfl, nofun⟩⟩

theorem persistenceDue_eq_true_iff {csma : PersistentCSMA}
    (hcoherent : csma.Coherent) {channelBusy : Bool} {now : ℚ} :
    persistenceDue csma.lastDecision channelBusy now = true ↔
      channelBusy = false ∧ csma.Due now := by
  unfold persistenceDue PersistentCSMA.Due
  rw [hcoherent.state, hcoherent.nextSlotAt, hcoherent.deadlineAt]
  cases csma.nextSlotAt with
  | none => simp
  | some nextSlotAt => simp [and_assoc]

/-- What one observation with a good octet source does to a running attempt:
both machines advance, and an octet is drawn exactly when a trial is due. -/
structure Observed (attempt : ShadowChannelAccessAttempt) (now : ℚ) (raw byte : ℤ)
    (attempt' : ShadowChannelAccessAttempt)
    (observation : ChannelAccessObservation) : Prop where
  detectorNow : attempt'.detector.lastNow = now
  detector : attempt.detector.Advances now raw attempt'.detector.state
    attempt'.detector.clearCandidateSince
  randomByte : observation.randomByte = none ∨ observation.randomByte = some byte
  csma : attempt.csma.Observed now (decide (attempt'.detector.state ≠ .clear))
    observation.randomByte attempt'.csma observation.csma

theorem observeRssi_spec {attempt : ShadowChannelAccessAttempt} {now : ℚ}
    {raw byte : ℤ} (hcoherent : attempt.csma.Coherent)
    (hrunning : attempt.csma.state = .waitClear ∨ attempt.csma.state = .waitSlot)
    (hdetector : attempt.detector.lastNow ≤ now) (hcsma : attempt.csma.lastNow ≤ now)
    (hraw : 0 ≤ raw ∧ raw ≤ 255) (hbyte : 0 ≤ byte ∧ byte ≤ 255) :
    ∃ attempt' observation, attempt.observeRssi now raw (some (.ok byte)) =
        (attempt', .ok observation) ∧
      Observed attempt now raw byte attempt' observation := by
  obtain ⟨detector, busy, hobserve, hnow, hbusy, hadvances⟩ :=
    RSSIChannelBusyDetector.observe_spec hdetector hraw
  have hchannel : busy.channelBusy = decide (detector.state ≠ .clear) := by
    rw [Bool.eq_iff_iff, hbusy, decide_eq_true_iff]
  have hdue : persistenceDue attempt.csma.lastDecision busy.channelBusy now = true ↔
      busy.channelBusy = false ∧ attempt.csma.Due now :=
    persistenceDue_eq_true_iff hcoherent
  cases hcase : persistenceDue attempt.csma.lastDecision busy.channelBusy now with
  | true =>
      obtain ⟨csma, decision, hcsmaObserve, hobserved⟩ :=
        PersistentCSMA.observe_spec hcoherent hrunning hcsma
          (fun _ _ => ⟨byte, rfl, hbyte⟩) (fun h => absurd (hdue.mp hcase) h)
      let observation : ChannelAccessObservation := ⟨now, busy, decision, some byte⟩
      have hresult : attempt.observeRssi now raw (some (.ok byte)) =
          (⟨detector, csma, some observation⟩, .ok observation) := by
        simp only [observeRssi, hobserve, hcase, drawRandomByte, if_true, Except.map,
          hcsmaObserve]
        rfl
      rw [hchannel] at hobserved
      exact ⟨_, _, hresult, ⟨hnow, hadvances, Or.inr rfl, hobserved⟩⟩
  | false =>
      have hnot : ¬ (busy.channelBusy = false ∧ attempt.csma.Due now) := by
        intro h
        rw [hdue.mpr h] at hcase
        cases hcase
      obtain ⟨csma, decision, hcsmaObserve, hobserved⟩ :=
        PersistentCSMA.observe_spec hcoherent hrunning hcsma
          (fun hfree hwait => absurd ⟨hfree, hwait⟩ hnot) (fun _ => rfl)
      let observation : ChannelAccessObservation := ⟨now, busy, decision, none⟩
      have hresult : attempt.observeRssi now raw (some (.ok byte)) =
          (⟨detector, csma, some observation⟩, .ok observation) := by
        simp only [observeRssi, hobserve, hcase, Bool.false_eq_true, if_false,
          hcsmaObserve]
        rfl
      rw [hchannel] at hobserved
      exact ⟨_, _, hresult, ⟨hnow, hadvances, Or.inl rfl, hobserved⟩⟩

/-- The exceptions of an observation, apart from the octet source's own. -/
theorem observeRssi_error_cls {attempt attempt' : ShadowChannelAccessAttempt} {now : ℚ}
    {raw : ℤ} {source : RandomByteSource} {e : PyError}
    (h : attempt.observeRssi now raw source = (attempt', .error e)) :
    e.cls = .valueError ∨ e.cls = .runtimeError ∨
      e.cls = .channelAccessRandomnessRequired ∨ source = some (.error e) := by
  unfold observeRssi at h
  split at h
  case h_1 detector e' hobserve =>
    cases h
    exact .inl (RSSIChannelBusyDetector.observe_error_cls hobserve)
  case h_2 detector busy hobserve =>
    dsimp only at h
    split at h
    case h_1 e' hdrawn =>
      cases h
      split at hdrawn
      · cases source with
        | none =>
            cases hdrawn
            exact .inr (.inr (.inl rfl))
        | some drawn =>
            cases drawn with
            | error e => cases hdrawn; exact .inr (.inr (.inr rfl))
            | ok byte => cases hdrawn
      · cases hdrawn
    case h_2 randomByte hdrawn =>
      split at h
      case h_1 csma e' hcsma =>
        cases h
        rcases (PersistentCSMA.observe_error hcsma).2 with hcls | hcls
        · exact .inl hcls
        · exact .inr (.inl hcls)
      case h_2 csma decision hcsma => cases h

end ShadowChannelAccessAttempt

end YwdTnc
