import YwdTnc.Interaction.Transition
import YwdTnc.Kiss.Conservation
import YwdTnc.Tx.Evidence

/-!
# Clear-channel evidence for every submission

The admission queue with a log of the observations made since its head became
the head. Whatever the order and the times of the calls, a request is handed to
the submitter only with the evidence of `ClearEvidence` in that log, under the
parameters that the request captured.
-/

namespace YwdTnc

open Interaction

/-- The queue, and the observations it accepted since its head became the head.
Observations at equal times stand in the order they were made. -/
structure WatchedQueue where
  queue : KISSDataAdmissionQueue
  log : List Sample

namespace WatchedQueue

def headId (q : KISSDataAdmissionQueue) : Option ℕ := q.queue.head?.map Request.id

/-- A call of the queue with its arguments; the octets of the radio and of the
random source are arbitrary, and so is what the submitter does. -/
inductive Op (R : Type) where
  | enqueue (frameNoFcs : Bytes) (context : TNCTransmitContext) (now : ℚ)
  | observe (now : ℚ) (raw byte : Byte) (result : Except PyError R)

/-- A request at the moment it is handed to the submitter. -/
structure Submission where
  request : Request
  now : ℚ
  log : List Sample

variable {R : Type}

/-- The observation as it enters the log. -/
def sampleOf (now : ℚ) (raw : Byte) (access : Option ChannelAccessObservation) :
    Sample :=
  ⟨now, raw.toNat, access.bind (·.randomByte)⟩

/-- The log after an observation that did not reach the submitter. It starts
again when the head is gone; an observation out of time is none. -/
def nextLog (w : WatchedQueue) (now : ℚ) (raw : Byte) (queue : KISSDataAdmissionQueue)
    (result : Except PyError (KISSDataQueueObservation R)) : List Sample :=
  match w.queue.acceptNow now with
  | .error _ => w.log
  | .ok now =>
      if headId queue ≠ none ∧ headId queue = headId w.queue then
        match result with
        | .ok observation => w.log ++ [sampleOf now raw observation.access]
        | .error _ => w.log ++ [sampleOf now raw none]
      else []

/-- One call, with the submission it makes. -/
def step (w : WatchedQueue) : Op R → WatchedQueue × Option Submission
  | .enqueue frameNoFcs context now =>
      ({ w with queue := (w.queue.enqueue frameNoFcs context now).1 }, none)
  | .observe now raw byte result =>
      match w.queue.prepare (R := R) now raw.toNat (some (.ok byte.toNat)) with
      | (queue, .done result) => (⟨queue, w.nextLog now raw queue result⟩, none)
      | (queue, .submit now request access) =>
          (⟨(queue.finish now request access result).1, []⟩,
            some ⟨request, now, w.log ++ [sampleOf now raw (some access)]⟩)

/-- The queue from its construction on, under any sequence of calls. -/
def system (R : Type) (config : QueueConfig) :
    System WatchedQueue (Op R × Option Submission) where
  initial w := w = ⟨.init config, []⟩
  step w l w' := w.step l.1 = (w', l.2)

/-- An attempt of the head request, made and last advanced by time `lastNow`. -/
structure Tracks (request : Request) (lastNow : ℚ) (log : List Sample)
    (attempt : ShadowChannelAccessAttempt) : Prop where
  persist : attempt.csma.parameters.persist = request.receipt.persist
  slot : attempt.csma.parameters.slotTime10ms = request.receipt.slottime
  coherent : attempt.csma.Coherent
  detectorNow : attempt.detector.lastNow ≤ lastNow
  csmaNow : attempt.csma.lastNow ≤ lastNow
  supports : attempt.Supports log

structure Inv (w : WatchedQueue) : Prop where
  conserved : w.queue.Conserved
  empty : w.queue.queue.head? = none → w.log = []
  fresh : ∀ request, w.queue.queue.head? = some request → request.attempt = none →
    w.log = []
  running : ∀ request attempt, w.queue.queue.head? = some request →
    request.attempt = some attempt → Tracks request w.queue.lastNow w.log attempt

/-- The attempt of the head when an observation begins. -/
theorem Inv.headAttempt {w : WatchedQueue} (h : Inv w) {request : Request}
    (hqueue : w.queue.queue.head? = some request) {now : ℚ}
    (hnow : w.queue.Accepts now) (hdeadline : now < request.receipt.deadlineAt)
    {attempt : ShadowChannelAccessAttempt}
    (hattempt : KISSDataAdmissionQueue.headAttempt request now hdeadline = .ok attempt) :
    Tracks request now w.log attempt := by
  cases hcase : request.attempt with
  | some attempt' =>
      rw [KISSDataAdmissionQueue.headAttempt, hcase, Except.ok.injEq] at hattempt
      subst hattempt
      obtain ⟨hpersist, hslot, hcoherent, hdetector, hcsma, hsupports⟩ :=
        h.running request attempt' hqueue hcase
      exact ⟨hpersist, hslot, hcoherent, le_trans hdetector hnow.2,
        le_trans hcsma hnow.2, hsupports⟩
  | none =>
      obtain ⟨attempt', hinit, hdetectorNow, hstate, hsince, hcsmaNow, hparameters,
        hwait, hcoherent⟩ := ShadowChannelAccessAttempt.init_ok hnow.1
          (KISSDataAdmissionQueue.attemptParameters request now hdeadline)
      rw [KISSDataAdmissionQueue.headAttempt, hcase, hinit, Except.ok.injEq] at hattempt
      subst hattempt
      rw [h.fresh request hqueue hcase]
      constructor
      · rw [hparameters, request.persist_eq]
        exact request.context.persist_eq
      · rw [hparameters, request.slottime_eq]
        exact request.context.slottime_eq
      · exact hcoherent
      · exact le_of_eq hdetectorNow
      · exact le_of_eq hcsmaNow
      · refine .blocked hwait ?_ ?_
        · rw [hstate]
          exact nofun
        · intro since hsome
          rw [hsince] at hsome
          cases hsome

theorem byte_range (byte : Byte) : (0 : ℤ) ≤ byte.toNat ∧ (byte.toNat : ℤ) ≤ 255 := by
  have hbyte := byte.isLt
  omega

/-- One observation of a tracked attempt is accepted. -/
theorem Tracks.observe {request : Request} {now : ℚ} {log : List Sample}
    {attempt : ShadowChannelAccessAttempt} (h : Tracks request now log attempt)
    (raw byte : Byte) :
    ∃ attempt' access,
      attempt.observeRssi now raw.toNat (some (.ok byte.toNat)) =
        (attempt', .ok access) ∧
      access.csma.state = attempt'.csma.state ∧
      (attempt'.csma.state = .timedOut ∨
        Tracks { request with attempt := some attempt' } now
          (log ++ [sampleOf now raw (some access)]) attempt' ∨
        attempt'.csma.state = .ready ∧
          ClearEvidence request.receipt.persist (request.receipt.slottime / 100) now
            (log ++ [sampleOf now raw (some access)])) := by
  obtain ⟨attempt', access, hobserve, hobserved⟩ :=
    ShadowChannelAccessAttempt.observeRssi_spec h.coherent h.supports.running
      h.detectorNow h.csmaNow (byte_range raw) (byte_range byte)
  refine ⟨attempt', access, hobserve, hobserved.csma.state, ?_⟩
  have hsample : (sampleOf now raw (some access)).drawn = access.randomByte := rfl
  rcases h.supports.observed (sampleOf now raw (some access)) hobserved hsample with
    htimeout | hsupports | ⟨hready, hevidence⟩
  · exact .inl htimeout
  · refine .inr (.inl ⟨?_, ?_, hobserved.csma.coherent, le_of_eq hobserved.detectorNow,
      le_of_eq hobserved.csma.lastNow, hsupports⟩)
    · rw [hobserved.csma.parameters]
      exact h.persist
    · rw [hobserved.csma.parameters]
      exact h.slot
  · refine .inr (.inr ⟨hready, ?_⟩)
    rw [CSMAParameters.slotSeconds, h.slot, h.persist] at hevidence
    exact hevidence

/-- The ids of a queue are distinct, so a head that left is not the head. -/
theorem headId_ne {q : KISSDataAdmissionQueue} (h : q.Conserved) {request : Request}
    {rest : List Request} (hqueue : q.queue = request :: rest) :
    rest.head?.map Request.id ≠ some request.id := by
  obtain ⟨first, hids, -⟩ := h.ids
  rw [hqueue, List.map_cons, List.length_cons, List.range'_succ,
    List.cons.injEq] at hids
  cases rest with
  | nil => exact nofun
  | cons next rest =>
      rw [List.map_cons, List.length_cons, List.range'_succ, List.cons.injEq] at hids
      intro heq
      rw [List.head?_cons, Option.map_some, Option.some.injEq] at heq
      omega

/-- The head left: the log starts again for the next head, which has no attempt
yet. -/
theorem Inv.leave {w : WatchedQueue} (h : Inv w) {queue : KISSDataAdmissionQueue}
    (hconserved : queue.Conserved) (hrest : queue.queue = w.queue.queue.tail) :
    Inv ⟨queue, []⟩ := by
  constructor
  · exact hconserved
  · intro _
    rfl
  · intro _ _ _
    rfl
  · intro next attempt hnext hattempt
    have hnone : next.attempt = none := by
      apply h.conserved.headOnly
      rw [← hrest]
      exact List.mem_of_head? hnext
    rw [hnone] at hattempt
    cases hattempt

theorem Tracks.mono {request : Request} {now now' : ℚ} {log : List Sample}
    {attempt : ShadowChannelAccessAttempt} (h : Tracks request now log attempt)
    (hnow : now ≤ now') : Tracks request now' log attempt :=
  { h with
    detectorNow := le_trans h.detectorNow hnow
    csmaNow := le_trans h.csmaNow hnow }

/-- The head and its log stayed as they were. -/
theorem Inv.keep {w : WatchedQueue} (h : Inv w) {queue : KISSDataAdmissionQueue}
    (hconserved : queue.Conserved) (hhead : queue.queue.head? = w.queue.queue.head?)
    (hnow : w.queue.lastNow ≤ queue.lastNow) : Inv { w with queue } := by
  constructor
  · exact hconserved
  · intro hnone
    rw [hhead] at hnone
    exact h.empty hnone
  · intro request hsome hattempt
    rw [hhead] at hsome
    exact h.fresh request hsome hattempt
  · intro request attempt hsome hattempt
    rw [hhead] at hsome
    exact (h.running request attempt hsome hattempt).mono hnow

theorem Inv.enqueue {w : WatchedQueue} (h : Inv w) (frameNoFcs : Bytes)
    (context : TNCTransmitContext) (now : ℚ) :
    Inv { w with queue := (w.queue.enqueue frameNoFcs context now).1 } := by
  have henqueue := w.queue.enqueue_enqueues frameNoFcs context now
  have hconserved := h.conserved.enqueue henqueue
  generalize (w.queue.enqueue frameNoFcs context now).1 = queue at henqueue hconserved ⊢
  generalize (w.queue.enqueue frameNoFcs context now).2 = result at henqueue
  cases henqueue with
  | late => exact h.keep hconserved rfl (le_refl _)
  | invalid hnow => exact h.keep hconserved rfl hnow.2
  | full hnow => exact h.keep hconserved rfl hnow.2
  | admits hnow =>
      cases hqueue : w.queue.queue with
      | cons head rest =>
          rw [hqueue] at hconserved
          refine h.keep hconserved ?_ hnow.2
          rw [hqueue, List.cons_append, List.head?_cons, List.head?_cons]
      | nil =>
          -- the new request is the head, and nothing has been observed for it
          have hlog : w.log = [] := h.empty (by rw [hqueue]; rfl)
          rw [hlog]
          rw [hqueue] at hconserved
          constructor
          · exact hconserved
          · intro _
            rfl
          · intro _ _ _
            rfl
          · intro request attempt hsome hattempt
            rw [List.nil_append, List.head?_cons, Option.some.injEq] at hsome
            subst hsome
            cases hattempt

/-! ### The log after an observation -/

theorem nextLog_late {w : WatchedQueue} {now : ℚ} (hlate : ¬ w.queue.Accepts now)
    (raw : Byte) (queue : KISSDataAdmissionQueue)
    (result : Except PyError (KISSDataQueueObservation R)) :
    w.nextLog now raw queue result = w.log := by
  rcases w.queue.acceptNow_cases now with ⟨e, haccept, -⟩ | ⟨-, hnow⟩
  · rw [nextLog, haccept]
  · exact absurd hnow hlate

theorem nextLog_left {w : WatchedQueue} {now : ℚ} (hnow : w.queue.Accepts now)
    (raw : Byte) {queue : KISSDataAdmissionQueue}
    (hleft : headId queue = none ∨ headId queue ≠ headId w.queue)
    (result : Except PyError (KISSDataQueueObservation R)) :
    w.nextLog now raw queue result = [] := by
  have hgone : ¬ (headId queue ≠ none ∧ headId queue = headId w.queue) := by
    rintro ⟨hsome, hsame⟩
    exact hleft.elim hsome fun hne => hne hsame
  rcases w.queue.acceptNow_cases now with ⟨e, -, -, hlate⟩ | ⟨haccept, -⟩
  · exact absurd hnow hlate
  · simp only [nextLog, haccept, if_neg hgone]

theorem nextLog_same {w : WatchedQueue} {now : ℚ} (hnow : w.queue.Accepts now)
    (raw : Byte) {queue : KISSDataAdmissionQueue} (hsome : headId queue ≠ none)
    (hsame : headId queue = headId w.queue) (observation : KISSDataQueueObservation R) :
    w.nextLog now raw queue (.ok observation) =
      w.log ++ [sampleOf now raw observation.access] := by
  rcases w.queue.acceptNow_cases now with ⟨e, -, -, hlate⟩ | ⟨haccept, -⟩
  · exact absurd hnow hlate
  · simp only [nextLog, haccept, if_pos (And.intro hsome hsame)]

/-- The head left with an observation that did not reach the submitter. -/
theorem Inv.leave_observed {w : WatchedQueue} (h : Inv w) {request : Request}
    {rest : List Request} (hqueue : w.queue.queue = request :: rest)
    {queue : KISSDataAdmissionQueue} (hconserved : queue.Conserved)
    (hrest : queue.queue = rest) {now : ℚ} (hnow : w.queue.Accepts now) (raw : Byte)
    (result : Except PyError (KISSDataQueueObservation R)) :
    Inv ⟨queue, w.nextLog now raw queue result⟩ := by
  have hleft : headId queue ≠ headId w.queue := by
    rw [headId, headId, hrest, hqueue]
    exact headId_ne h.conserved hqueue
  rw [nextLog_left hnow raw (.inr hleft) result]
  apply h.leave hconserved
  rw [hrest, hqueue, List.tail_cons]

/-- An observation in time does not raise: a tracked attempt accepts every octet of
the radio and of the random source. -/
theorem Inv.not_raises {w : WatchedQueue} (h : Inv w) {now : ℚ} (hnow : w.queue.Accepts now)
    (raw byte : Byte) {queue : KISSDataAdmissionQueue} {e : PyError} :
    ¬ w.queue.Prepares (R := R) now raw.toNat (some (.ok byte.toNat)) queue
      (.done (.error e)) := by
  intro hprepare
  cases hprepare with
  | late hlate hcls => exact hlate hnow
  | raised hnow hqueue hdeadline hattempt hobserve =>
      obtain ⟨attempt', access, hok, -⟩ :=
        (h.headAttempt (by rw [hqueue]; rfl) hnow hdeadline hattempt).observe raw byte
      rw [hok] at hobserve
      cases hobserve

/-- The head stayed, and its attempt took the sample in. -/
theorem Inv.stay_observed {w : WatchedQueue} {request : Request} {rest : List Request}
    (hqueue : w.queue.queue = request :: rest) {now : ℚ} (hnow : w.queue.Accepts now)
    (raw : Byte) {queue : KISSDataAdmissionQueue} {attempt : ShadowChannelAccessAttempt}
    (hconserved : queue.Conserved)
    (hhead : queue.queue = { request with attempt := some attempt } :: rest)
    (hlast : queue.lastNow = now) (observation : KISSDataQueueObservation R)
    (htracks : Tracks { request with attempt := some attempt } now
      (w.log ++ [sampleOf now raw observation.access]) attempt) :
    Inv ⟨queue, w.nextLog now raw queue (.ok observation)⟩ := by
  have hsome : headId queue ≠ none := by
    rw [headId, hhead]
    exact nofun
  have hsame : headId queue = headId w.queue := by
    rw [headId, headId, hhead, hqueue]
    rfl
  rw [nextLog_same hnow raw hsome hsame]
  constructor
  · exact hconserved
  · intro hnone
    rw [hhead] at hnone
    cases hnone
  · intro request' hsome' hattempt
    rw [hhead] at hsome'
    cases hsome'
    cases hattempt
  · intro request' attempt' hsome' hattempt
    rw [hhead] at hsome'
    cases hsome'
    cases hattempt
    rw [hlast]
    exact htracks

/-- What an observation makes of the attempt of the head. -/
theorem Inv.observed {w : WatchedQueue} (h : Inv w) {request : Request} {rest : List Request}
    (hqueue : w.queue.queue = request :: rest) {now : ℚ} (hnow : w.queue.Accepts now)
    (hdeadline : now < request.receipt.deadlineAt) {attempt : ShadowChannelAccessAttempt}
    (hattempt : KISSDataAdmissionQueue.headAttempt request now hdeadline = .ok attempt)
    {raw byte : Byte} {attempt' : ShadowChannelAccessAttempt} {access : ChannelAccessObservation}
    (hobserve : attempt.observeRssi now raw.toNat (some (.ok byte.toNat)) =
      (attempt', .ok access)) :
    access.csma.state = attempt'.csma.state ∧
      (attempt'.csma.state = .timedOut ∨
        Tracks { request with attempt := some attempt' } now
          (w.log ++ [sampleOf now raw (some access)]) attempt' ∨
        attempt'.csma.state = .ready ∧
          ClearEvidence request.receipt.persist (request.receipt.slottime / 100) now
            (w.log ++ [sampleOf now raw (some access)])) := by
  obtain ⟨attempt'', access', hok, hobserved⟩ :=
    (h.headAttempt (by rw [hqueue]; rfl) hnow hdeadline hattempt).observe raw byte
  rw [hok] at hobserve
  cases hobserve
  exact hobserved

/-- An attempt that goes on waiting is still tracked. -/
theorem Tracks.of_waits {request : Request} {now : ℚ} {log : List Sample} {evidence : Prop}
    {attempt : ShadowChannelAccessAttempt}
    (h : attempt.csma.state = .timedOut ∨ Tracks request now log attempt ∨
      attempt.csma.state = .ready ∧ evidence)
    (hstate : attempt.csma.state = .waitClear ∨ attempt.csma.state = .waitSlot) :
    Tracks request now log attempt := by
  rcases h with htimeout | htracks | ⟨hready, -⟩
  · rw [htimeout] at hstate
    rcases hstate with h | h <;> cases h
  · exact htracks
  · rw [hready] at hstate
    rcases hstate with h | h <;> cases h

/-- An attempt that is ready has its evidence. -/
theorem Tracks.of_ready {request : Request} {now : ℚ} {log : List Sample} {evidence : Prop}
    {attempt : ShadowChannelAccessAttempt}
    (h : attempt.csma.state = .timedOut ∨ Tracks request now log attempt ∨
      attempt.csma.state = .ready ∧ evidence)
    (hstate : attempt.csma.state = .ready) : evidence := by
  rcases h with htimeout | htracks | ⟨-, hevidence⟩
  · rw [htimeout] at hstate
    cases hstate
  · rcases htracks.supports.running with hwait | hwait
    · rw [hwait] at hstate
      cases hstate
    · rw [hwait] at hstate
      cases hstate
  · exact hevidence

/-- An observation keeps the invariant, and a request it submits has its
evidence. -/
theorem Inv.observe {w : WatchedQueue} (h : Inv w) (now : ℚ) (raw byte : Byte)
    (result : Except PyError R) :
    Inv (w.step (.observe now raw byte result)).1 ∧
      ∀ submission, (w.step (.observe now raw byte result)).2 = some submission →
        ClearEvidence submission.request.receipt.persist
          (submission.request.receipt.slottime / 100) submission.now submission.log := by
  have hprepare := w.queue.prepare_prepares (R := R) now raw.toNat
    (some (.ok byte.toNat))
  simp only [step]
  generalize w.queue.prepare (R := R) now raw.toNat (some (.ok byte.toNat)) = outcome
    at hprepare
  obtain ⟨queue, prepared⟩ := outcome
  have hconserved := h.conserved.prepare hprepare
  cases hprepare with
  | late hlate hcls =>
      refine ⟨?_, fun _ h => nomatch h⟩
      change Inv ⟨w.queue, w.nextLog now raw w.queue _⟩
      rw [nextLog_late hlate]
      exact h
  | idle hnow hqueue =>
      refine ⟨?_, fun _ h => nomatch h⟩
      change Inv ⟨_, w.nextLog now raw _ _⟩
      rw [nextLog_left hnow]
      · apply h.leave hconserved
        rw [hqueue]
        rfl
      · left
        rw [headId, hqueue]
        rfl
  | expired hnow hqueue hdeadline =>
      exact ⟨h.leave_observed hqueue hconserved rfl hnow raw _, fun _ h => nomatch h⟩
  | raised hnow hqueue hdeadline hattempt hobserve =>
      exact absurd (.raised hnow hqueue hdeadline hattempt hobserve)
        (h.not_raises (R := R) hnow raw byte)
  | timesOut hnow hqueue hdeadline hattempt hobserve hstate =>
      exact ⟨h.leave_observed hqueue hconserved rfl hnow raw _, fun _ h => nomatch h⟩
  | @waits request rest reason attempt attempt' access hnow hqueue hdeadline hattempt
      hobserve hstate =>
      refine ⟨?_, fun _ h => nomatch h⟩
      obtain ⟨hsame, htracks⟩ := h.observed hqueue hnow hdeadline hattempt hobserve
      rw [hsame] at hstate
      exact Inv.stay_observed hqueue hnow raw hconserved rfl rfl _ (.of_waits htracks hstate)
  | @submits request rest attempt attempt' access hnow hqueue hdeadline hattempt
      hobserve hstate =>
      obtain ⟨hsame, htracks⟩ := h.observed hqueue hnow hdeadline hattempt hobserve
      rw [hsame] at hstate
      refine ⟨?_, ?_⟩
      · apply h.leave
        · exact hconserved.finish rfl now access result
        · rw [hqueue, List.tail_cons]
          cases result with
          | error e => rfl
          | ok result => rfl
      · intro submission hsubmission
        cases hsubmission
        exact Tracks.of_ready htracks hstate

/-- The queue after an observation that did not reach the submitter. -/
theorem Inv.of_done {w : WatchedQueue} (h : Inv w) {now : ℚ} {raw byte : Byte}
    {queue : KISSDataAdmissionQueue} {result : Except PyError (KISSDataQueueObservation R)}
    (hprepare : w.queue.prepare now raw.toNat (some (.ok byte.toNat)) =
      (queue, .done result)) : ∃ log, Inv ⟨queue, log⟩ := by
  have hstep := (h.observe (R := R) now raw byte (.error ⟨.runtimeError, ""⟩)).1
  rw [step, hprepare] at hstep
  exact ⟨_, hstep⟩

/-- The queue after an observation that reached the submitter. -/
theorem Inv.of_submit {w : WatchedQueue} (h : Inv w) {now now' : ℚ} {raw byte : Byte}
    {queue : KISSDataAdmissionQueue} {request : Request} {access : ChannelAccessObservation}
    (hprepare : w.queue.prepare (R := R) now raw.toNat (some (.ok byte.toNat)) =
      (queue, .submit now' request access)) (result : Except PyError R) :
    Inv ⟨(queue.finish now' request access result).1, []⟩ := by
  have hstep := (h.observe now raw byte result).1
  rw [step, hprepare] at hstep
  exact hstep

theorem inv_init (config : QueueConfig) : Inv ⟨.init config, []⟩ := by
  refine ⟨KISSDataAdmissionQueue.conserved_init config, fun _ => rfl, fun _ _ _ => rfl, ?_⟩
  intro request attempt hsome
  cases hsome

theorem inv_reachable {config : QueueConfig} {w : WatchedQueue}
    (h : (system R config).Reachable w) : Inv w := by
  refine h.invariant ?_ ?_
  · rintro w rfl
    exact inv_init config
  · rintro w ⟨op, submission⟩ w' - hinv hstep
    have hw' : w' = (w.step op).1 := (congrArg Prod.fst hstep).symm
    rw [hw']
    cases op with
    | enqueue frameNoFcs context now => exact hinv.enqueue frameNoFcs context now
    | observe now raw byte result => exact (hinv.observe now raw byte result).1

/-- Clear-channel evidence before every transmission, in every run: a request
that is handed to the submitter at `now` was observed since it became head with
a full hold on the release side, no busy observation since, and one slot of its
own SLOTTIME for each trial since, the last of which is the first to pass its
PERSIST. -/
theorem submission_clearEvidence (config : QueueConfig) (w w' : WatchedQueue)
    (op : Op R) (submission : Submission) (h : (system R config).Reachable w)
    (hstep : (system R config).step w (op, some submission) w') :
    ClearEvidence submission.request.receipt.persist
      (submission.request.receipt.slottime / 100) submission.now submission.log := by
  have hsubmission : (w.step op).2 = some submission := congrArg Prod.snd hstep
  cases op with
  | enqueue frameNoFcs context now => cases hsubmission
  | observe now raw byte result =>
      exact ((inv_reachable h).observe now raw byte result).2 submission hsubmission

/-- A run in which the first trial passes, 350 ms after the first observation. -/
theorem submission_clearEvidence_first_trial :
    ∃ (w : WatchedQueue) (submission : Submission),
      (w.step (.observe (7 / 20) 100 0 (.ok ()))).2 = some submission ∧
      ClearEvidence submission.request.receipt.persist
        (submission.request.receipt.slottime / 100) submission.now submission.log := by
  let op (time : ℚ) : Op Unit := .observe time 100 0 (.ok ())
  let w₀ : WatchedQueue := ⟨.init .engine, []⟩
  let w₁ := (w₀.step (R := Unit) (.enqueue receiveReady .default 0)).1
  let w₂ := (w₁.step (op 0)).1
  let w₃ := (w₂.step (op (1 / 4))).1
  have h₀ : (system Unit .engine).Reachable w₀ := .initial rfl
  have h₁ : (system Unit .engine).Reachable w₁ :=
    h₀.step (l := (.enqueue receiveReady .default 0, none)) rfl
  have h₂ : (system Unit .engine).Reachable w₂ := h₁.step (l := (op 0, _)) rfl
  have h₃ : (system Unit .engine).Reachable w₃ := h₂.step (l := (op (1 / 4), _)) rfl
  have hsubmits : (w₃.step (op (7 / 20))).2.isSome = true := by
    decide +kernel
  obtain ⟨submission, hsubmission⟩ := Option.isSome_iff_exists.mp hsubmits
  have hstep : (system Unit .engine).step w₃ (op (7 / 20), some submission)
      (w₃.step (op (7 / 20))).1 :=
    Prod.ext rfl hsubmission
  exact ⟨w₃, submission, hsubmission,
    submission_clearEvidence .engine w₃ _ (op (7 / 20)) submission h₃ hstep⟩

end WatchedQueue

end YwdTnc
