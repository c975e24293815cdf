import YwdTnc.Kiss.QueueCalls
import YwdTnc.Modem.Protocol

/-!
# Readings of the modem

The wire carries an RSSI magnitude as a uint16, the detector takes 0 to 255.
Whether an observation returns depends on the reading and on the head request
alone: in every reachable state, also after observations that raised, the rest of
the queue accepts it.
-/

namespace YwdTnc

open Interaction

namespace RSSIChannelBusyDetector

/-- An observation that raises leaves the detector as it was. -/
theorem observe_cases (detector : RSSIChannelBusyDetector) (now : ℚ) (raw : ℤ) :
    (∃ e, detector.observe now raw = (detector, .error e)) ∨
      ∃ detector' decision, detector.observe now raw = (detector', .ok decision) ∧
        detector'.lastNow = now := by
  unfold observe
  split
  · exact .inl ⟨_, rfl⟩
  · split
    · exact .inl ⟨_, rfl⟩
    · exact .inr ⟨_, _, rfl, advance_lastNow detector now raw⟩

/-- A reading out of range is refused. -/
theorem observe_range {detector : RSSIChannelBusyDetector} {now : ℚ} {raw : ℤ}
    (hnow : detector.lastNow ≤ now) (hraw : 255 < raw) :
    detector.observe now raw =
      (detector, .error (.valueError "raw_magnitude must be 0..255")) := by
  have hrange : ¬ (0 ≤ raw ∧ raw ≤ 255) := fun h => absurd h.2 (not_le.mpr hraw)
  rw [observe, if_neg (not_lt.mpr hnow), if_pos hrange]

end RSSIChannelBusyDetector

namespace PersistentCSMA

/-- An octet that no trial can take is refused. -/
theorem observe_byte_range {csma : PersistentCSMA} {now : ℚ} {channelBusy : Bool} {byte : ℤ}
    (hbyte : ¬ (0 ≤ byte ∧ byte ≤ 255)) (hlive : csma.state ≠ .ready ∧ csma.state ≠ .timedOut) :
    ∃ csma' e, csma.observe now channelBusy (some byte) = (csma', .error e) := by
  have hterminal : ¬ (csma.state = .ready ∨ csma.state = .timedOut) := by
    rintro (h | h)
    · exact hlive.1 h
    · exact hlive.2 h
  unfold observe
  simp only [hterminal, hbyte, if_false, ne_eq, reduceCtorEq, not_false_eq_true, if_true]
  repeat' split
  all_goals exact ⟨_, _, rfl⟩

/-- What an observation of a running attempt does, when it brings an octet exactly
if a trial is due, whatever the octet is. -/
theorem observe_running {csma csma' : PersistentCSMA} {now : ℚ} {channelBusy : Bool}
    {randomByte : Option ℤ} {result : Except PyError CSMADecision}
    (hcoherent : csma.Coherent)
    (hrunning : csma.state = .waitClear ∨ csma.state = .waitSlot)
    (hnow : csma.lastNow ≤ now)
    (hdue : randomByte ≠ none ↔ channelBusy = false ∧ csma.Due now)
    (h : csma.observe now channelBusy randomByte = (csma', result)) :
    csma'.Coherent ∧ csma'.lastNow ≤ now ∧
      (∀ e, result = .error e → csma'.state = csma.state) ∧
      ∀ decision, result = .ok decision → decision.state = csma'.state := by
  have hidle : ¬ (channelBusy = false ∧ csma.Due now) → randomByte = none := by
    intro hnot
    by_contra hsome
    exact hnot (hdue.mp hsome)
  by_cases hbyte : ∀ byte, randomByte = some byte → 0 ≤ byte ∧ byte ≤ 255
  · have hoctet : channelBusy = false → csma.Due now →
        ∃ byte, randomByte = some byte ∧ 0 ≤ byte ∧ byte ≤ 255 := by
      intro hfree hwait
      obtain ⟨byte, hsome⟩ := Option.ne_none_iff_exists'.mp (hdue.mpr ⟨hfree, hwait⟩)
      exact ⟨byte, hsome, hbyte byte hsome⟩
    obtain ⟨csma₁, decision, hobserve, hobserved⟩ :=
      observe_spec hcoherent hrunning hnow hoctet hidle
    rw [hobserve] at h
    cases h
    refine ⟨hobserved.coherent, hobserved.lastNow.le, ?_, ?_⟩
    · intro e he
      cases he
    · intro decision' hdecision
      cases hdecision
      exact hobserved.state
  · push Not at hbyte
    obtain ⟨byte, rfl, hrange⟩ := hbyte
    have hlive : csma.state ≠ .ready ∧ csma.state ≠ .timedOut := by
      rcases hrunning with hstate | hstate
      all_goals
        rw [hstate]
        exact ⟨nofun, nofun⟩
    have hbad : ¬ (0 ≤ byte ∧ byte ≤ 255) := fun h => absurd h.2 (not_le.mpr (hrange h.1))
    obtain ⟨csma₁, e, hobserve⟩ := @observe_byte_range csma now channelBusy byte hbad hlive
    rw [h] at hobserve
    cases hobserve
    rcases (observe_error h).1 with rfl | rfl
    · refine ⟨hcoherent, hnow, fun _ _ => rfl, ?_⟩
      intro decision hdecision
      cases hdecision
    · refine ⟨⟨hcoherent.state, hcoherent.nextSlotAt, hcoherent.deadlineAt, hcoherent.slot⟩,
        le_refl now, fun _ _ => rfl, ?_⟩
      intro decision hdecision
      cases hdecision

end PersistentCSMA

namespace ShadowChannelAccessAttempt

/-- An attempt that goes on, last advanced by the time `clock`. -/
structure Live (attempt : ShadowChannelAccessAttempt) (clock : ℚ) : Prop where
  coherent : attempt.csma.Coherent
  running : attempt.csma.state = .waitClear ∨ attempt.csma.state = .waitSlot
  detectorNow : attempt.detector.lastNow ≤ clock
  csmaNow : attempt.csma.lastNow ≤ clock

theorem Live.mono {attempt : ShadowChannelAccessAttempt} {clock clock' : ℚ}
    (h : attempt.Live clock) (hclock : clock ≤ clock') : attempt.Live clock' :=
  ⟨h.coherent, h.running, le_trans h.detectorNow hclock, le_trans h.csmaNow hclock⟩

theorem live_init {now : ℚ} {parameters : CSMAParameters}
    {attempt : ShadowChannelAccessAttempt} (hnow : 0 ≤ now)
    (h : init now parameters = .ok attempt) : attempt.Live now := by
  obtain ⟨attempt', hinit, hdetector, -, -, hcsma, -, hstate, hcoherent⟩ :=
    init_ok hnow parameters
  rw [hinit, Except.ok.injEq] at h
  subst h
  exact ⟨hcoherent, .inl hstate, hdetector.le, hcsma.le⟩

/-- What an observation with any reading and any octet source makes of a live
attempt: it stays live, unless the access decision ends it. -/
theorem Live.observeRssi {attempt attempt' : ShadowChannelAccessAttempt} {clock now : ℚ}
    {raw : ℤ} {source : RandomByteSource}
    {result : Except PyError ChannelAccessObservation} (h : attempt.Live clock)
    (hclock : clock ≤ now) (hobserve : attempt.observeRssi now raw source = (attempt', result))
    (hgoes : ∀ access, result = .ok access →
      access.csma.state = .waitClear ∨ access.csma.state = .waitSlot) :
    attempt'.Live now := by
  have hstays := h.mono hclock
  unfold ShadowChannelAccessAttempt.observeRssi at hobserve
  rcases attempt.detector.observe_cases now raw with ⟨e, hdetector⟩ |
    ⟨detector, busy, hdetector, hnow⟩
  · rw [hdetector] at hobserve
    cases hobserve
    exact hstays
  simp only [hdetector] at hobserve
  have hdue : persistenceDue attempt.csma.lastDecision busy.channelBusy now = true ↔
      busy.channelBusy = false ∧ attempt.csma.Due now :=
    persistenceDue_eq_true_iff h.coherent
  split at hobserve
  case h_1 e hdrawn =>
    cases hobserve
    exact ⟨h.coherent, h.running, hnow.le, hstays.csmaNow⟩
  case h_2 randomByte hdrawn =>
    have hoctet : randomByte ≠ none ↔ busy.channelBusy = false ∧ attempt.csma.Due now := by
      rw [← hdue]
      split at hdrawn
      case isTrue hcase =>
        cases hsource : drawRandomByte source with
        | error e =>
            rw [hsource] at hdrawn
            cases hdrawn
        | ok byte =>
            rw [hsource] at hdrawn
            cases hdrawn
            exact ⟨fun _ => hcase, fun _ => nofun⟩
      case isFalse hcase =>
        cases hdrawn
        exact ⟨fun hnone => absurd rfl hnone, fun htrue => absurd htrue hcase⟩
    cases hcsma : attempt.csma.observe now busy.channelBusy randomByte with
    | mk csma decided =>
        obtain ⟨hcoherent, hcsmaNow, hraised, hdecided⟩ :=
          PersistentCSMA.observe_running h.coherent h.running hstays.csmaNow hoctet hcsma
        rw [hcsma] at hobserve
        cases decided with
        | error e =>
            cases hobserve
            have hrunning : csma.state = .waitClear ∨ csma.state = .waitSlot := by
              rw [hraised e rfl]
              exact h.running
            exact ⟨hcoherent, hrunning, hnow.le, hcsmaNow⟩
        | ok decision =>
            cases hobserve
            have hrunning : csma.state = .waitClear ∨ csma.state = .waitSlot := by
              rw [← hdecided decision rfl]
              exact hgoes _ rfl
            exact ⟨hcoherent, hrunning, hnow.le, hcsmaNow⟩

/-- The observation of a live attempt with a good octet source raises on a reading
out of range, and only then. -/
theorem Live.observeRssi_reading {attempt attempt' : ShadowChannelAccessAttempt} {now : ℚ}
    {raw byte : ℤ} {result : Except PyError ChannelAccessObservation} (h : attempt.Live now)
    (hlow : 0 ≤ raw) (hbyte : 0 ≤ byte ∧ byte ≤ 255)
    (hobserve : attempt.observeRssi now raw (some (.ok byte)) = (attempt', result)) :
    (raw ≤ 255 → ∃ access, result = .ok access) ∧
      (255 < raw → result = .error (.valueError "raw_magnitude must be 0..255")) := by
  constructor
  · intro hraw
    obtain ⟨_, access, hok, -⟩ := observeRssi_spec h.coherent h.running h.detectorNow h.csmaNow
      ⟨hlow, hraw⟩ hbyte
    rw [hobserve, Prod.mk.injEq] at hok
    exact ⟨access, hok.2⟩
  · intro hraw
    rw [ShadowChannelAccessAttempt.observeRssi,
      RSSIChannelBusyDetector.observe_range h.detectorNow hraw] at hobserve
    cases hobserve
    rfl

end ShadowChannelAccessAttempt

/-- The observation that a call returns. -/
def QueueReport.observation {R : Type} : QueueReport R → Option (KISSDataQueueObservation R)
  | .observed (.ok observation) | .submitted _ observation => some observation
  | _ => none

namespace KISSDataAdmissionQueue

variable {R : Type}

/-- Every attempt in the queue goes on. -/
def Live (q : KISSDataAdmissionQueue) : Prop :=
  ∀ request ∈ q.queue, ∀ attempt, request.attempt = some attempt → attempt.Live q.lastNow

/-- The head request is waiting at `now`, before its deadline. -/
def HeadAlive (q : KISSDataAdmissionQueue) (now : ℚ) : Prop :=
  ∃ request rest, q.queue = request :: rest ∧ now < request.receipt.deadlineAt

theorem Live.headAttempt {q : KISSDataAdmissionQueue} (h : q.Live) {request : Request}
    {rest : List Request} {now : ℚ} (hnow : q.Accepts now) (hqueue : q.queue = request :: rest)
    {hdeadline : now < request.receipt.deadlineAt} {attempt : ShadowChannelAccessAttempt}
    (hattempt : headAttempt request now hdeadline = .ok attempt) : attempt.Live now := by
  unfold KISSDataAdmissionQueue.headAttempt at hattempt
  cases hcase : request.attempt with
  | none =>
      rw [hcase] at hattempt
      exact ShadowChannelAccessAttempt.live_init hnow.1 hattempt
  | some attempt' =>
      rw [hcase, Except.ok.injEq] at hattempt
      subst hattempt
      have hmem : request ∈ q.queue := by
        rw [hqueue]
        exact List.mem_cons_self
      exact (h request hmem attempt' hcase).mono hnow.2

/-- The queue with its clock moved on and some of its requests. -/
theorem Live.sub {q q' : KISSDataAdmissionQueue} (h : q.Live) (hclock : q.lastNow ≤ q'.lastNow)
    (hsub : ∀ request ∈ q'.queue, request ∈ q.queue ∨ request.attempt = none) : q'.Live := by
  intro request hmem attempt hattempt
  rcases hsub request hmem with hold | hnone
  · exact (h request hold attempt hattempt).mono hclock
  · rw [hnone] at hattempt
    cases hattempt

/-- The queue with a live attempt put into its head. -/
theorem Live.head {q q' : KISSDataAdmissionQueue} (h : q.Live) {request : Request}
    {rest : List Request} (hqueue : q.queue = request :: rest)
    (hclock : q.lastNow ≤ q'.lastNow) {attempt : ShadowChannelAccessAttempt}
    (hattempt : attempt.Live q'.lastNow)
    (hqueue' : q'.queue = { request with attempt := some attempt } :: rest) : q'.Live := by
  intro other hmem attempt' hother
  rw [hqueue', List.mem_cons] at hmem
  rcases hmem with rfl | hmem
  · cases hother
    exact hattempt
  · have hold : other ∈ q.queue := by
      rw [hqueue]
      exact List.mem_cons_of_mem request hmem
    exact (h other hold attempt' hother).mono hclock

theorem Live.enqueue {q q' : KISSDataAdmissionQueue} (h : q.Live) {frameNoFcs : Bytes}
    {context : TNCTransmitContext} {now : ℚ} {result : Except PyError KISSDataRequestReceipt}
    (henqueue : q.Enqueues frameNoFcs context now q' result) : q'.Live := by
  cases henqueue with
  | late => exact h
  | invalid hnow | full hnow => exact h.sub hnow.2 fun _ hmem => .inl hmem
  | admits hnow =>
      refine h.sub hnow.2 fun request hmem => ?_
      rcases List.mem_append.mp hmem with hold | hnew
      · exact .inl hold
      · rw [List.mem_singleton.mp hnew]
        exact .inr rfl

/-- An observation that does not reach the submitter, with any reading and any
octet source. -/
theorem Live.observe {q q' : KISSDataAdmissionQueue} (h : q.Live) {now : ℚ} {raw : ℤ}
    {source : RandomByteSource} {result : Except PyError (KISSDataQueueObservation R)}
    (hprepare : q.Prepares now raw source q' (.done result)) : q'.Live := by
  have htail : ∀ {request : Request} {rest : List Request}, q.queue = request :: rest →
      ∀ other ∈ rest, other ∈ q.queue ∨ other.attempt = none := by
    intro request rest hqueue other hmem
    rw [hqueue]
    exact .inl (List.mem_cons_of_mem request hmem)
  cases hprepare with
  | late => exact h
  | idle hnow => exact h.sub hnow.2 fun _ hmem => .inl hmem
  | expired hnow hqueue | timesOut hnow hqueue => exact h.sub hnow.2 (htail hqueue)
  | @raised request rest e attempt attempt' hnow hqueue hdeadline hattempt hobserve =>
      have hlive : attempt'.Live now :=
        (h.headAttempt hnow hqueue hattempt).observeRssi (le_refl now) hobserve
          fun access haccess => nomatch haccess
      exact h.head hqueue hnow.2 hlive rfl
  | @waits request rest reason attempt attempt' access hnow hqueue hdeadline hattempt hobserve
      hstate =>
      have hlive : attempt'.Live now := by
        refine (h.headAttempt hnow hqueue hattempt).observeRssi (le_refl now) hobserve ?_
        intro access' haccess
        cases haccess
        exact hstate
      exact h.head hqueue hnow.2 hlive rfl

/-- An observation that reaches the submitter takes the head out. -/
theorem Live.submit {q q' : KISSDataAdmissionQueue} (h : q.Live) {now now' : ℚ} {raw : ℤ}
    {source : RandomByteSource} {request : Request} {access : ChannelAccessObservation}
    (hprepare : q.Prepares (R := R) now raw source q' (.submit now' request access))
    (result : Except PyError R) : (q'.finish now' request access result).1.Live := by
  cases hprepare with
  | @submits request rest attempt attempt' access hnow hqueue =>
      refine h.sub ?_ fun other hmem => .inl ?_
      · rw [(finish_frame _ now _ access result).2]
        exact hnow.2
      · rw [hqueue]
        cases result with
        | error e => exact List.mem_cons_of_mem request hmem
        | ok r => exact List.mem_cons_of_mem request hmem

theorem live_reachable {config : QueueConfig} {q : KISSDataAdmissionQueue}
    (h : (callSystem R config).Reachable q) : q.Live := by
  refine h.invariant ?_ ?_
  · rintro q rfl
    exact fun request hmem => absurd hmem List.not_mem_nil
  · rintro q ⟨c, report⟩ q' - hlive hstep
    have hcall := q.call_calls c
    rw [show q.call c = (q', report) from hstep] at hcall
    cases hcall with
    | enqueue henqueue => exact hlive.enqueue henqueue
    | observe hprepare => exact hlive.observe hprepare
    | @submit now now' raw source result q₁ request access hprepare =>
        exact hlive.submit hprepare result

/-- What a reading of the modem, a uint16, does in any reachable state: the
observation returns if the reading is at most 255 or no request is waiting for
the channel, and otherwise it raises the detector's exception and takes nothing
out of the queue. -/
theorem reachable_reading (config : QueueConfig) (q : KISSDataAdmissionQueue)
    (h : (callSystem R config).Reachable q) (data : Bytes) (rssi : RXRSSI)
    (hparse : Protocol.parseRxRssi data = .ok rssi) (now : ℚ) (hnow : q.Accepts now)
    (byte : ℤ) (hbyte : 0 ≤ byte ∧ byte ≤ 255) (result : Except PyError R) :
    rssi.rawMagnitude < 2 ^ 16 ∧
    (rssi.rawMagnitude ≤ 255 ∨ ¬ q.HeadAlive now → ∃ observation,
      (q.call (.observe now rssi.rawMagnitude (some (.ok byte)) result)).2.observation =
        some observation) ∧
    (255 < rssi.rawMagnitude → q.HeadAlive now →
      (q.call (.observe now rssi.rawMagnitude (some (.ok byte)) result)).2 =
        .observed (.error (.valueError "raw_magnitude must be 0..255")) ∧
      (q.call (.observe now rssi.rawMagnitude (some (.ok byte)) result)).1.waiting =
        q.waiting) := by
  have hlive := live_reachable h
  have hlow : (0 : ℤ) ≤ rssi.rawMagnitude := Int.natCast_nonneg _
  have hprepares := q.prepare_prepares (R := R) now rssi.rawMagnitude (some (.ok byte))
  rcases hcase : q.prepare (R := R) now rssi.rawMagnitude (some (.ok byte)) with ⟨q', prepared⟩
  rw [hcase] at hprepares
  simp only [call, hcase]
  refine ⟨Protocol.parseRxRssi_lt hparse, ?_⟩
  cases hprepares with
  | late hlate => exact absurd hnow hlate
  | idle _ hqueue =>
      refine ⟨fun _ => ⟨_, rfl⟩, fun _ halive => ?_⟩
      obtain ⟨request, rest, hhead, -⟩ := halive
      rw [hqueue] at hhead
      cases hhead
  | expired _ hqueue hdeadline =>
      refine ⟨fun _ => ⟨_, rfl⟩, fun _ halive => ?_⟩
      obtain ⟨request, rest, hhead, htime⟩ := halive
      rw [hqueue, List.cons.injEq] at hhead
      obtain ⟨rfl, -⟩ := hhead
      exact absurd htime (not_lt.mpr hdeadline)
  | raised _ hqueue hdeadline hattempt hobserve =>
      obtain ⟨hok, herror⟩ :=
        (hlive.headAttempt hnow hqueue hattempt).observeRssi_reading hlow hbyte hobserve
      constructor
      · rintro (hraw | hdead)
        · obtain ⟨access, haccess⟩ := hok (Int.ofNat_le.mpr hraw)
          cases haccess
        · exact absurd ⟨_, _, hqueue, hdeadline⟩ hdead
      · intro hraw _
        cases Except.error.inj (herror (Int.ofNat_lt.mpr hraw))
        refine ⟨rfl, ?_⟩
        simp only [waiting, hqueue, List.map_cons]
        rfl
  | waits _ hqueue hdeadline hattempt hobserve | timesOut _ hqueue hdeadline hattempt hobserve
  | submits _ hqueue hdeadline hattempt hobserve =>
      refine ⟨fun _ => ⟨_, rfl⟩, fun hraw _ => ?_⟩
      obtain ⟨-, herror⟩ :=
        (hlive.headAttempt hnow hqueue hattempt).observeRssi_reading hlow hbyte hobserve
      cases herror (Int.ofNat_lt.mpr hraw)

/-- A queue whose head was admitted at 0 seconds. -/
def oneWaiting : KISSDataAdmissionQueue :=
  (init .engine).after [(.enqueue receiveReady .default 0 : QueueCall Unit)]

theorem reachable_oneWaiting : (callSystem Unit .engine).Reachable oneWaiting :=
  reachable_after (.initial rfl) _

/-- The response that carries the reading 143. -/
def clearReading : Bytes := [Protocol.START, 6, Protocol.YWD_RX, Protocol.RX_RSSI, 143, 0]

/-- The response that carries the reading 256. -/
def wideReading : Bytes := [Protocol.START, 6, Protocol.YWD_RX, Protocol.RX_RSSI, 0, 1]

/-- A clear channel is observed. -/
theorem reachable_reading_clear : ∃ observation,
    (oneWaiting.call (.observe 1 143 (some (.ok 0)) (.ok ()))).2.observation =
      some observation := by
  have hnow : oneWaiting.Accepts 1 := ⟨by decide +kernel, by decide +kernel⟩
  exact (reachable_reading .engine oneWaiting reachable_oneWaiting clearReading ⟨143⟩ rfl 1 hnow
    0 (by decide) (.ok ())).2.1 (.inl (by decide))

/-- A reading that the protocol delivers stops the observation. -/
theorem wide_reading_raises :
    ¬ ∀ (q : KISSDataAdmissionQueue), (callSystem Unit .engine).Reachable q →
      ∀ data rssi, Protocol.parseRxRssi data = .ok rssi → ∀ now, q.Accepts now →
      ∀ byte : ℤ, 0 ≤ byte ∧ byte ≤ 255 → ∃ observation,
        (q.call (.observe now rssi.rawMagnitude (some (.ok byte)) (.ok ()))).2.observation =
          some observation := by
  intro h
  obtain ⟨observation, hobservation⟩ := h oneWaiting reachable_oneWaiting wideReading ⟨256⟩ rfl 1
    ⟨by decide +kernel, by decide +kernel⟩ 0 (by decide)
  have hnone : (oneWaiting.call (.observe 1 256 (some (.ok 0)) (.ok ()))).2.observation.isNone =
      true := by decide +kernel
  rw [show ((256 : ℕ) : ℤ) = 256 from rfl] at hobservation
  rw [hobservation] at hnone
  cases hnone

end KISSDataAdmissionQueue

end YwdTnc
