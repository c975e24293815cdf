import YwdTnc.Tx.ChannelAccess

/-!
# The demand for random octets

The octet source of an access attempt as a call that can be counted. In every run
over observations in order and in range the source is called exactly when a
persistence trial is due, both machines take their own steps, and a terminal
decision stays.
-/

namespace YwdTnc

namespace RSSIChannelBusyDetector

/-- The decisions of the detector alone on a run of `(now, raw_magnitude)`. -/
def decisions (detector : RSSIChannelBusyDetector) :
    List (ℚ × ℤ) → List (Except PyError ChannelBusyDecision)
  | [] => []
  | (now, raw) :: inputs =>
      (detector.observe now raw).2 :: (detector.observe now raw).1.decisions inputs

end RSSIChannelBusyDetector

namespace PersistentCSMA

/-- The decisions of the attempt alone on a run of `(now, channel_busy, random_byte)`. -/
def decisions (csma : PersistentCSMA) :
    List (ℚ × Bool × Option ℤ) → List (Except PyError CSMADecision)
  | [] => []
  | (now, channelBusy, randomByte) :: inputs =>
      (csma.observe now channelBusy randomByte).2 ::
        (csma.observe now channelBusy randomByte).1.decisions inputs

def Terminal (csma : PersistentCSMA) : Prop :=
  csma.state = .ready ∨ csma.state = .timedOut

theorem Terminal.not_due {csma : PersistentCSMA} (h : csma.Terminal) {now : ℚ} :
    ¬ csma.Due now := by
  intro hdue
  rcases h with hstate | hstate
  · exact CSMAState.noConfusion (hstate.symm.trans hdue.1)
  · exact CSMAState.noConfusion (hstate.symm.trans hdue.1)

theorem terminal_or_running (csma : PersistentCSMA) :
    csma.Terminal ∨ csma.state = .waitClear ∨ csma.state = .waitSlot := by
  unfold Terminal
  cases csma.state with
  | waitClear => exact .inr (.inl rfl)
  | waitSlot => exact .inr (.inr rfl)
  | ready => exact .inl (.inl rfl)
  | timedOut => exact .inl (.inr rfl)

theorem observe_lastDecision {csma csma' : PersistentCSMA} {now : ℚ} {channelBusy : Bool}
    {randomByte : Option ℤ} {decision : CSMADecision}
    (h : csma.observe now channelBusy randomByte = (csma', .ok decision)) :
    csma'.lastDecision = decision := by
  unfold observe trial makeDecision at h
  dsimp only at h
  repeat' split at h
  all_goals cases h
  all_goals rfl

/-- A terminal attempt repeats its decision. -/
theorem Terminal.observe {csma : PersistentCSMA} (h : csma.Terminal) {now : ℚ}
    (hnow : csma.lastNow ≤ now) (channelBusy : Bool) :
    csma.observe now channelBusy none = ({ csma with lastNow := now }, .ok csma.lastDecision) := by
  have hterminal : csma.state = .ready ∨ csma.state = .timedOut := h
  unfold PersistentCSMA.observe
  rw [if_neg (not_lt.mpr hnow)]
  simp only [hterminal, if_true, ne_eq, not_true_eq_false, if_false]

/-- What an observation in order does, in a terminal state too, when it brings an octet
in range exactly if a trial is due. -/
theorem observe_accepts {csma : PersistentCSMA} {now : ℚ} {channelBusy : Bool}
    {randomByte : Option ℤ} (hcoherent : csma.Coherent) (hnow : csma.lastNow ≤ now)
    (hdue : channelBusy = false → csma.Due now →
      ∃ byte, randomByte = some byte ∧ 0 ≤ byte ∧ byte ≤ 255)
    (hidle : ¬ (channelBusy = false ∧ csma.Due now) → randomByte = none) :
    ∃ csma' decision, csma.observe now channelBusy randomByte = (csma', .ok decision) ∧
      csma'.lastNow = now ∧ csma'.deadlineAt = csma.deadlineAt ∧ csma'.Coherent ∧
      csma'.lastDecision = decision ∧
      (csma.Terminal → csma'.Terminal ∧ decision = csma.lastDecision) := by
  rcases csma.terminal_or_running with hterminal | hrunning
  · have hnone : randomByte = none := hidle fun h => hterminal.not_due h.2
    subst hnone
    exact ⟨_, _, hterminal.observe hnow channelBusy, rfl, rfl,
      ⟨hcoherent.state, hcoherent.nextSlotAt, hcoherent.deadlineAt, hcoherent.slot⟩, rfl,
      fun _ => ⟨hterminal, rfl⟩⟩
  · obtain ⟨csma', decision, hobserve, hobserved⟩ :=
      observe_spec hcoherent hrunning hnow hdue hidle
    refine ⟨csma', decision, hobserve, hobserved.lastNow, hobserved.deadlineAt,
      hobserved.coherent, observe_lastDecision hobserve, fun hterminal => ?_⟩
    rcases hrunning with hstate | hstate
    all_goals
      rcases hterminal with hend | hend
      all_goals
        rw [hstate] at hend
        cases hend

end PersistentCSMA

/-- One sample of a run; the source answers its consultations during the call with
`bytes 0`, `bytes 1` and so on. -/
structure RssiSample where
  now : ℚ
  rawMagnitude : ℤ
  bytes : ℕ → ℤ

namespace RssiSample

/-- The source of a call, which keeps the octets it returned. -/
def source (sample : RssiSample) : StateM (List ℤ) (Except PyError ℤ) :=
  modifyGet fun drawn =>
    (.ok (sample.bytes drawn.length), drawn ++ [sample.bytes drawn.length])

/-- Nondecreasing times from `clock` on, readings and octets in range. -/
def Ordered (clock : ℚ) : List RssiSample → Prop
  | [] => True
  | sample :: samples =>
      clock ≤ sample.now ∧ (0 ≤ sample.rawMagnitude ∧ sample.rawMagnitude ≤ 255) ∧
        (∀ n, 0 ≤ sample.bytes n ∧ sample.bytes n ≤ 255) ∧ Ordered sample.now samples

end RssiSample

/-- A call of `observe_rssi`, with the octets that the source returned during it. -/
structure AccessCall where
  sample : RssiSample
  prior : ShadowChannelAccessAttempt
  attempt : ShadowChannelAccessAttempt
  result : Except PyError ChannelAccessObservation
  drawn : List ℤ

namespace ShadowChannelAccessAttempt

/-- `observe_rssi` from the random octet on. -/
def advance (attempt : ShadowChannelAccessAttempt) (now : ℚ) (busy : ChannelBusyDecision)
    (randomByte : Option ℤ) :
    ShadowChannelAccessAttempt × Except PyError ChannelAccessObservation :=
  match attempt.csma.observe now busy.channelBusy randomByte with
  | (csma, .error e) => ({ attempt with csma }, .error e)
  | (csma, .ok decision) =>
      let observation : ChannelAccessObservation :=
        { now, detector := busy, csma := decision, randomByte }
      ({ attempt with csma, lastObservation := some observation }, .ok observation)

/-- `observe_rssi` in any monad that has the source's calls. -/
def observeRssiCalling {m : Type → Type} [Monad m] (attempt : ShadowChannelAccessAttempt)
    (now : ℚ) (raw : ℤ) (randomByteSource : Option (m (Except PyError ℤ))) :
    m (ShadowChannelAccessAttempt × Except PyError ChannelAccessObservation) :=
  match attempt.detector.observe now raw with
  | (detector, .error e) => pure ({ attempt with detector }, .error e)
  | (detector, .ok busy) =>
      let attempt := { attempt with detector }
      if persistenceDue attempt.csma.lastDecision busy.channelBusy now then
        match randomByteSource with
        | none =>
            pure (attempt, .error ⟨.channelAccessRandomnessRequired,
              "clear persistence slot is due; caller must supply one random byte"⟩)
        | some call => do
            match ← call with
            | .error e => pure (attempt, .error e)
            | .ok randomByte => pure (attempt.advance now busy (some randomByte))
      else pure (attempt.advance now busy none)

/-- Whether an observation asks the source for an octet. -/
def demands (attempt : ShadowChannelAccessAttempt) (now : ℚ) (raw : ℤ) : Bool :=
  match attempt.detector.observe now raw with
  | (_, .error _) => false
  | (_, .ok busy) => persistenceDue attempt.csma.lastDecision busy.channelBusy now

/-- The counted call is the call: the source is called once or not at all. -/
theorem observeRssiCalling_some {m : Type → Type} [Monad m] [LawfulMonad m]
    (attempt : ShadowChannelAccessAttempt) (now : ℚ) (raw : ℤ) (call : m (Except PyError ℤ)) :
    attempt.observeRssiCalling now raw (some call) =
      if attempt.demands now raw then
        (fun drawn => attempt.observeRssi now raw (some drawn)) <$> call
      else pure (attempt.observeRssi now raw none) := by
  unfold observeRssiCalling demands observeRssi
  rcases hdetector : attempt.detector.observe now raw with ⟨detector, e | busy⟩
  · rfl
  dsimp only
  by_cases hdue : persistenceDue attempt.csma.lastDecision busy.channelBusy now = true
  · simp only [hdue, if_true, drawRandomByte]
    rw [map_eq_pure_bind]
    refine congrArg (call >>= ·) (funext fun drawn => ?_)
    cases drawn with
    | error e => rfl
    | ok byte => rfl
  · simp only [hdue, Bool.false_eq_true, if_false]
    rfl

def callRssi (attempt : ShadowChannelAccessAttempt) (sample : RssiSample) : AccessCall :=
  let ((attempt', result), drawn) :=
    (attempt.observeRssiCalling sample.now sample.rawMagnitude (some sample.source)).run []
  { sample, prior := attempt, attempt := attempt', result, drawn }

/-- The calls of a run. -/
def calls (attempt : ShadowChannelAccessAttempt) : List RssiSample → List AccessCall
  | [] => []
  | sample :: samples =>
      attempt.callRssi sample :: (attempt.callRssi sample).attempt.calls samples

theorem callRssi_eq (attempt : ShadowChannelAccessAttempt) (sample : RssiSample) :
    attempt.callRssi sample =
      if attempt.demands sample.now sample.rawMagnitude then
        { sample, prior := attempt
          attempt := (attempt.observeRssi sample.now sample.rawMagnitude
            (some (.ok (sample.bytes 0)))).1
          result := (attempt.observeRssi sample.now sample.rawMagnitude
            (some (.ok (sample.bytes 0)))).2
          drawn := [sample.bytes 0] }
      else
        { sample, prior := attempt
          attempt := (attempt.observeRssi sample.now sample.rawMagnitude none).1
          result := (attempt.observeRssi sample.now sample.rawMagnitude none).2
          drawn := [] } := by
  unfold callRssi
  rw [observeRssiCalling_some]
  by_cases hdemands : attempt.demands sample.now sample.rawMagnitude = true
  · simp only [hdemands, if_true]
    rfl
  · simp only [hdemands, Bool.false_eq_true, if_false]
    rfl

/-- An attempt, running or ended, last advanced by the time `clock`. -/
structure InOrder (attempt : ShadowChannelAccessAttempt) (clock : ℚ) : Prop where
  coherent : attempt.csma.Coherent
  detectorNow : attempt.detector.lastNow ≤ clock
  csmaNow : attempt.csma.lastNow ≤ clock

/-- What a call on an observation in order and in range does. -/
structure Demanded (call : AccessCall) (observation : ChannelAccessObservation) : Prop where
  result : call.result = .ok observation
  now : observation.now = call.sample.now
  drawn : call.drawn = observation.randomByte.toList
  demand : call.drawn ≠ [] ↔
    call.attempt.detector.state = .clear ∧ call.prior.csma.Due call.sample.now
  detector : call.prior.detector.observe call.sample.now call.sample.rawMagnitude =
    (call.attempt.detector, .ok observation.detector)
  csma : call.prior.csma.observe call.sample.now observation.detector.channelBusy
    observation.randomByte = (call.attempt.csma, .ok observation.csma)
  inOrder : call.attempt.InOrder call.sample.now
  deadlineAt : call.attempt.csma.deadlineAt = call.prior.csma.deadlineAt
  lastDecision : call.attempt.csma.lastDecision = observation.csma
  terminal : call.prior.csma.Terminal →
    call.attempt.csma.Terminal ∧ observation.csma = call.prior.csma.lastDecision

theorem InOrder.callRssi {attempt : ShadowChannelAccessAttempt} {clock : ℚ}
    (h : attempt.InOrder clock) {sample : RssiSample} (hclock : clock ≤ sample.now)
    (hraw : 0 ≤ sample.rawMagnitude ∧ sample.rawMagnitude ≤ 255)
    (hbytes : ∀ n, 0 ≤ sample.bytes n ∧ sample.bytes n ≤ 255) :
    ∃ observation, Demanded (attempt.callRssi sample) observation := by
  obtain ⟨detector, busy, hdetector, hdetectorNow, hbusy, -⟩ :=
    RSSIChannelBusyDetector.observe_spec (le_trans h.detectorNow hclock) hraw
  have hcsmaNow : attempt.csma.lastNow ≤ sample.now := le_trans h.csmaNow hclock
  have hclear : busy.channelBusy = false ↔ detector.state = .clear := by
    rw [← Bool.not_eq_true, hbusy, not_not]
  have hdemands : attempt.demands sample.now sample.rawMagnitude =
      persistenceDue attempt.csma.lastDecision busy.channelBusy sample.now := by
    rw [demands, hdetector]
  have hdue : persistenceDue attempt.csma.lastDecision busy.channelBusy sample.now = true ↔
      busy.channelBusy = false ∧ attempt.csma.Due sample.now :=
    persistenceDue_eq_true_iff h.coherent
  rw [callRssi_eq, hdemands]
  cases hcase : persistenceDue attempt.csma.lastDecision busy.channelBusy sample.now with
  | true =>
      obtain ⟨hfree, hwait⟩ := hdue.mp hcase
      obtain ⟨csma, decision, hobserve, hnow, hdeadline, hcoherent, hlast, hterminal⟩ :=
        @PersistentCSMA.observe_accepts attempt.csma sample.now busy.channelBusy
          (some (sample.bytes 0)) h.coherent hcsmaNow
          (fun _ _ => ⟨sample.bytes 0, rfl, hbytes 0⟩) (fun hnot => absurd ⟨hfree, hwait⟩ hnot)
      have hresult : attempt.observeRssi sample.now sample.rawMagnitude
          (some (.ok (sample.bytes 0))) =
          (⟨detector, csma, some ⟨sample.now, busy, decision, some (sample.bytes 0)⟩⟩,
            .ok ⟨sample.now, busy, decision, some (sample.bytes 0)⟩) := by
        simp only [observeRssi, hdetector, hcase, drawRandomByte, if_true, Except.map, hobserve]
      rw [if_pos rfl, hresult]
      exact ⟨_, rfl, rfl, rfl, ⟨fun _ => ⟨hclear.mp hfree, hwait⟩, fun _ => List.cons_ne_nil _ _⟩,
        hdetector, hobserve, ⟨hcoherent, hdetectorNow.le, hnow.le⟩, hdeadline, hlast, hterminal⟩
  | false =>
      have hnot : ¬ (busy.channelBusy = false ∧ attempt.csma.Due sample.now) := by
        rw [← hdue, hcase]
        exact Bool.false_ne_true
      obtain ⟨csma, decision, hobserve, hnow, hdeadline, hcoherent, hlast, hterminal⟩ :=
        @PersistentCSMA.observe_accepts attempt.csma sample.now busy.channelBusy none h.coherent
          hcsmaNow (fun hfree hwait => absurd ⟨hfree, hwait⟩ hnot) (fun _ => rfl)
      have hresult : attempt.observeRssi sample.now sample.rawMagnitude none =
          (⟨detector, csma, some ⟨sample.now, busy, decision, none⟩⟩,
            .ok ⟨sample.now, busy, decision, none⟩) := by
        simp only [observeRssi, hdetector, hcase, Bool.false_eq_true, if_false, hobserve]
      rw [if_neg Bool.false_ne_true, hresult]
      refine ⟨_, rfl, rfl, rfl, ⟨fun hdrawn => absurd rfl hdrawn, fun hwait => ?_⟩, hdetector,
        hobserve, ⟨hcoherent, hdetectorNow.le, hnow.le⟩, hdeadline, hlast, hterminal⟩
      exact absurd ⟨hclear.mpr hwait.1, hwait.2⟩ hnot

/-- What a run shows: every call returns, the source is called once where `demand`
holds and not elsewhere, and the two machines alone decide the same. -/
structure Faithful (attempt : ShadowChannelAccessAttempt) (samples : List RssiSample)
    (observations : List ChannelAccessObservation) : Prop where
  results : (attempt.calls samples).map (·.result) = observations.map .ok
  drawn : (attempt.calls samples).map (·.drawn) =
    observations.map fun observation => observation.randomByte.toList
  demand : ∀ call ∈ attempt.calls samples, call.drawn ≠ [] ↔
    call.attempt.detector.state = .clear ∧ call.prior.csma.state = .waitSlot ∧
      (∃ nextSlotAt, call.prior.csma.nextSlotAt = some nextSlotAt ∧
        nextSlotAt ≤ call.sample.now) ∧
      call.sample.now < attempt.csma.deadlineAt
  detector : attempt.detector.decisions
      (samples.map fun sample => (sample.now, sample.rawMagnitude)) =
    observations.map fun observation => .ok observation.detector
  now : observations.map (·.now) = samples.map (·.now)
  csma : attempt.csma.decisions (observations.map fun observation =>
      (observation.now, observation.detector.channelBusy, observation.randomByte)) =
    observations.map fun observation => .ok observation.csma
  terminal : observations.Pairwise fun earlier later =>
    earlier.csma.state = .ready ∨ earlier.csma.state = .timedOut → later.csma = earlier.csma

theorem calls_faithful {attempt : ShadowChannelAccessAttempt} {clock : ℚ}
    (h : attempt.InOrder clock) {samples : List RssiSample}
    (hsamples : RssiSample.Ordered clock samples) :
    ∃ observations, attempt.Faithful samples observations ∧
      (attempt.csma.Terminal → ∀ observation ∈ observations,
        observation.csma = attempt.csma.lastDecision) := by
  induction samples generalizing attempt clock with
  | nil =>
      exact ⟨[], ⟨rfl, rfl, fun call hcall => absurd hcall List.not_mem_nil, rfl, rfl, rfl,
        List.Pairwise.nil⟩, fun _ observation hmem => absurd hmem List.not_mem_nil⟩
  | cons sample samples ih =>
      obtain ⟨hclock, hraw, hbytes, hrest⟩ := hsamples
      obtain ⟨observation, hcall⟩ := h.callRssi hclock hraw hbytes
      obtain ⟨observations, hfaithful, hstays⟩ := ih hcall.inOrder hrest
      have hsample : (attempt.callRssi sample).sample = sample := rfl
      have hprior : (attempt.callRssi sample).prior = attempt := rfl
      have hdetector := hcall.detector
      have hcsma := hcall.csma
      rw [hprior, hsample] at hdetector hcsma
      refine ⟨observation :: observations, ⟨?_, ?_, ?_, ?_, ?_, ?_, ?_⟩, ?_⟩
      · rw [calls, List.map_cons, List.map_cons, hcall.result, hfaithful.results]
      · rw [calls, List.map_cons, List.map_cons, hcall.drawn, hfaithful.drawn]
      · intro call hmem
        rcases List.mem_cons.mp hmem with rfl | hmem
        · exact hcall.demand
        · rw [hfaithful.demand call hmem, hcall.deadlineAt, hprior]
      · rw [List.map_cons, RSSIChannelBusyDetector.decisions, hdetector, List.map_cons,
          hfaithful.detector]
      · rw [List.map_cons, List.map_cons, hcall.now, hsample, hfaithful.now]
      · rw [List.map_cons, PersistentCSMA.decisions, hcall.now, hsample, hcsma, List.map_cons,
          hfaithful.csma]
      · refine List.pairwise_cons.mpr ⟨fun later hmem hend => ?_, hfaithful.terminal⟩
        rw [← hcall.lastDecision] at hend ⊢
        rw [hcall.inOrder.coherent.state] at hend
        exact hstays hend later hmem
      · intro hend later hmem
        obtain ⟨hend', hsame⟩ := hcall.terminal hend
        rcases List.mem_cons.mp hmem with rfl | hmem
        · exact hsame
        · rw [hstays hend' later hmem, hcall.lastDecision]
          exact hsame

/-- An attempt from its construction on, over observations in order and in range. -/
theorem init_calls_faithful (startedAt : ℚ) (parameters : CSMAParameters)
    (hstart : 0 ≤ startedAt) (samples : List RssiSample)
    (hsamples : RssiSample.Ordered startedAt samples) :
    ∃ attempt observations, init startedAt parameters = .ok attempt ∧
      RSSIChannelBusyDetector.init startedAt = .ok attempt.detector ∧
      PersistentCSMA.init startedAt parameters = .ok attempt.csma ∧
      attempt.csma.deadlineAt = startedAt + parameters.maxWaitSeconds ∧
      attempt.Faithful samples observations := by
  have hnot : ¬ startedAt < 0 := not_lt.mpr hstart
  obtain ⟨detector, hdetector⟩ :
      ∃ detector, RSSIChannelBusyDetector.init startedAt = .ok detector := ⟨_, if_neg hnot⟩
  obtain ⟨csma, hcsma, hdeadline⟩ : ∃ csma, PersistentCSMA.init startedAt parameters = .ok csma ∧
      csma.deadlineAt = startedAt + parameters.maxWaitSeconds := ⟨_, if_neg hnot, rfl⟩
  obtain ⟨attempt, hinit, hdetectorNow, -, -, hcsmaNow, -, -, hcoherent⟩ :=
    init_ok hstart parameters
  have hparts : attempt = ⟨detector, csma, none⟩ := by
    unfold init at hinit
    rw [hdetector, hcsma] at hinit
    exact (Except.ok.inj hinit).symm
  have horder : attempt.InOrder startedAt := ⟨hcoherent, hdetectorNow.le, hcsmaNow.le⟩
  obtain ⟨observations, hfaithful, -⟩ := calls_faithful horder hsamples
  refine ⟨attempt, observations, hinit, ?_, ?_, ?_, hfaithful⟩
  · rw [hdetector, hparts]
  · rw [hcsma, hparts]
  · rw [hparts]
    exact hdeadline

/-- The parameters of `CSMAParameters()`. -/
def defaultParameters : CSMAParameters where
  persist := DEFAULT_PERSIST
  slotTime10ms := DEFAULT_SLOT_TIME_10MS
  maxWaitSeconds := DEFAULT_MAX_WAIT_SECONDS
  persist_le := DEFAULT_PERSIST_le
  one_le_slot := one_le_DEFAULT_SLOT_TIME_10MS
  slot_le := DEFAULT_SLOT_TIME_10MS_le
  maxWait_pos := DEFAULT_MAX_WAIT_SECONDS_pos

/-- A channel that is clear from the start, and busy after the attempt is ready. -/
def clearRun : List RssiSample :=
  [⟨0, 143, fun _ => 7⟩, ⟨1 / 4, 143, fun _ => 7⟩, ⟨7 / 20, 143, fun _ => 7⟩, ⟨1, 20, fun _ => 7⟩]

theorem ordered_clearRun : RssiSample.Ordered 0 clearRun := by
  have hbytes : ∀ _ : ℕ, (0 : ℤ) ≤ 7 ∧ (7 : ℤ) ≤ 255 := fun _ => by decide
  exact ⟨by decide +kernel, by decide, hbytes, by decide +kernel, by decide, hbytes,
    by decide +kernel, by decide, hbytes, by decide +kernel, by decide, hbytes, trivial⟩

theorem init_calls_faithful_clearRun :
    ∃ attempt observations, init 0 defaultParameters = .ok attempt ∧
      RSSIChannelBusyDetector.init 0 = .ok attempt.detector ∧
      PersistentCSMA.init 0 defaultParameters = .ok attempt.csma ∧
      attempt.csma.deadlineAt = 0 + defaultParameters.maxWaitSeconds ∧
      attempt.Faithful clearRun observations :=
  init_calls_faithful 0 defaultParameters (le_refl 0) clearRun ordered_clearRun

example : (init 0 defaultParameters).toOption.map
    (fun attempt => (attempt.calls clearRun).map (·.drawn)) = some [[], [], [7], []] := by
  decide +kernel

end ShadowChannelAccessAttempt

end YwdTnc
