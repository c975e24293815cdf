import YwdTnc.Interaction.Transition
import YwdTnc.Kiss.Conservation

/-!
# The calls of the admission queue

The queue under any sequence of calls at any times, with any readings of the
radio, any random source and any submitter.
-/

namespace YwdTnc

open Interaction

/-- A call with its arguments; `result` is what the submitter does if it is
called. -/
inductive QueueCall (R : Type) where
  | enqueue (frameNoFcs : Bytes) (context : TNCTransmitContext) (now : ℚ)
  | observe (now : ℚ) (raw : ℤ) (source : RandomByteSource) (result : Except PyError R)

/-- What comes of a call; an observation that calls the submitter reports the
request too. -/
inductive QueueReport (R : Type) where
  | enqueued (result : Except PyError KISSDataRequestReceipt)
  | observed (result : Except PyError (KISSDataQueueObservation R))
  | submitted (request : Request) (observation : KISSDataQueueObservation R)

namespace KISSDataAdmissionQueue

variable {R : Type}

def call (q : KISSDataAdmissionQueue) : QueueCall R → KISSDataAdmissionQueue × QueueReport R
  | .enqueue frameNoFcs context now =>
      let (q, result) := q.enqueue frameNoFcs context now
      (q, .enqueued result)
  | .observe now raw source result =>
      match q.prepare now raw source with
      | (q, .done result) => (q, .observed result)
      | (q, .submit now request access) =>
          let (q, observation) := q.finish now request access result
          (q, .submitted request observation)

/-- The queue after some calls. -/
def after (q : KISSDataAdmissionQueue) (cs : List (QueueCall R)) : KISSDataAdmissionQueue :=
  cs.foldl (fun q c => (q.call c).1) q

/-- The queue from its construction on. -/
def callSystem (R : Type) (config : QueueConfig) :
    System KISSDataAdmissionQueue (QueueCall R × QueueReport R) where
  initial q := q = init config
  step q l q' := q.call l.1 = (q', l.2)

theorem reachable_after {config : QueueConfig} {q : KISSDataAdmissionQueue}
    (h : (callSystem R config).Reachable q) (cs : List (QueueCall R)) :
    (callSystem R config).Reachable (q.after cs) := by
  induction cs generalizing q with
  | nil => exact h
  | cons c cs ih => exact ih (h.step (l := (c, (q.call c).2)) rfl)

/-- The exits of a call. -/
inductive Calls (q : KISSDataAdmissionQueue) :
    QueueCall R → KISSDataAdmissionQueue → QueueReport R → Prop
  | enqueue {frameNoFcs : Bytes} {context : TNCTransmitContext} {now : ℚ}
      {q' : KISSDataAdmissionQueue} {result : Except PyError KISSDataRequestReceipt}
      (h : q.Enqueues frameNoFcs context now q' result) :
      Calls q (.enqueue frameNoFcs context now) q' (.enqueued result)
  | observe {now : ℚ} {raw : ℤ} {source : RandomByteSource} {result : Except PyError R}
      {q' : KISSDataAdmissionQueue} {observed : Except PyError (KISSDataQueueObservation R)}
      (h : q.Prepares now raw source q' (.done observed)) :
      Calls q (.observe now raw source result) q' (.observed observed)
  | submit {now now' : ℚ} {raw : ℤ} {source : RandomByteSource} {result : Except PyError R}
      {q₁ : KISSDataAdmissionQueue} {request : Request} {access : ChannelAccessObservation}
      (h : q.Prepares (R := R) now raw source q₁ (.submit now' request access)) :
      Calls q (.observe now raw source result) (q₁.finish now' request access result).1
        (.submitted request (q₁.finish now' request access result).2)

theorem call_calls (q : KISSDataAdmissionQueue) (c : QueueCall R) :
    q.Calls c (q.call c).1 (q.call c).2 := by
  cases c with
  | enqueue frameNoFcs context now => exact .enqueue (q.enqueue_enqueues frameNoFcs context now)
  | observe now raw source result =>
      have hprepares := q.prepare_prepares (R := R) now raw source
      simp only [call]
      generalize q.prepare (R := R) now raw source = outcome at hprepares
      obtain ⟨q₁, observed | ⟨now', request, access⟩⟩ := outcome
      · exact .observe hprepares
      · exact .submit hprepares

theorem Prepares.config_eq {q q' : KISSDataAdmissionQueue} {now : ℚ} {raw : ℤ}
    {source : RandomByteSource} {prepared : Prepared R}
    (h : q.Prepares now raw source q' prepared) :
    q'.config = q.config ∧ q.lastNow ≤ q'.lastNow := by
  cases h with
  | late => exact ⟨rfl, le_refl _⟩
  | idle hnow | expired hnow | raised hnow | waits hnow | timesOut hnow | submits hnow =>
      exact ⟨rfl, hnow.2⟩

theorem finish_frame (q : KISSDataAdmissionQueue) (now : ℚ) (request : Request)
    (access : ChannelAccessObservation) (result : Except PyError R) :
    (q.finish now request access result).1.config = q.config ∧
      (q.finish now request access result).1.lastNow = q.lastNow := by
  cases result with
  | error e => exact ⟨rfl, rfl⟩
  | ok r => exact ⟨rfl, rfl⟩

/-- The waiting requests of the queue before an observation are those after it,
after the head has left or not. -/
theorem Prepares.waiting_cases {q q' : KISSDataAdmissionQueue} {now : ℚ} {raw : ℤ}
    {source : RandomByteSource} {prepared : Prepared R}
    (h : q.Prepares now raw source q' prepared) :
    q'.waiting = q.waiting ∨ q'.waiting = q.waiting.tail := by
  cases h with
  | late | idle => exact .inl rfl
  | expired hnow hqueue | timesOut hnow hqueue =>
      right
      simp only [waiting, hqueue, List.map_cons, List.tail_cons]
  | raised hnow hqueue | waits hnow hqueue | submits hnow hqueue =>
      left
      simp only [waiting, hqueue, List.map_cons]
      rfl

/-- What every call does to the waiting requests: an observation takes the head
or nothing, an admission adds one request at the end. -/
theorem Calls.waiting_cases {q q' : KISSDataAdmissionQueue} {c : QueueCall R}
    {report : QueueReport R} (h : q.Calls c q' report) :
    q'.config = q.config ∧ q.lastNow ≤ q'.lastNow ∧
      ((q'.waiting = q.waiting ∧ q'.nextRequestId = q.nextRequestId) ∨
        (q'.waiting = q.waiting.tail ∧ q'.nextRequestId = q.nextRequestId) ∨
        ∃ frameNoFcs context now, c = .enqueue frameNoFcs context now ∧ q.Accepts now ∧
          q'.lastNow = now ∧ q'.nextRequestId = q.nextRequestId + 1 ∧
          q'.waiting = q.waiting ++ [(q.admitted frameNoFcs context now).admission]) := by
  cases h with
  | enqueue h =>
      cases h with
      | late => exact ⟨rfl, le_refl _, .inl ⟨rfl, rfl⟩⟩
      | invalid hnow | full hnow => exact ⟨rfl, hnow.2, .inl ⟨rfl, rfl⟩⟩
      | admits hnow =>
          refine ⟨rfl, hnow.2, .inr (.inr ⟨_, _, _, rfl, hnow, rfl, rfl, ?_⟩)⟩
          simp only [waiting, List.map_append, List.map_singleton]
  | observe h =>
      obtain ⟨hconfig, hlast⟩ := h.config_eq
      have hnext := nextRequestId_prepare h
      refine ⟨hconfig, hlast, ?_⟩
      rcases h.waiting_cases with hwaiting | hwaiting
      · exact .inl ⟨hwaiting, hnext⟩
      · exact .inr (.inl ⟨hwaiting, hnext⟩)
  | @submit now now' raw source result q₁ request access h =>
      obtain ⟨hconfig, hlast⟩ := h.config_eq
      obtain ⟨hconfig', hlast'⟩ := q₁.finish_frame now' request access result
      obtain ⟨htail, hnext⟩ := q₁.finish_eq now' request access result
      obtain ⟨-, hwaiting, -⟩ := prepare_submit h
      refine ⟨hconfig'.trans hconfig, le_of_le_of_eq hlast hlast'.symm, .inr (.inl ⟨?_, ?_⟩)⟩
      · rw [htail, hwaiting]
      · rw [hnext, nextRequestId_prepare h]

theorem Conserved.calls {q q' : KISSDataAdmissionQueue} {c : QueueCall R}
    {report : QueueReport R} (h : q.Conserved) (hcall : q.Calls c q' report) :
    q'.Conserved := by
  cases hcall with
  | enqueue henqueue => exact h.enqueue henqueue
  | observe hprepare => exact h.prepare hprepare
  | @submit now now' raw source result q₁ request access hprepare =>
      obtain ⟨rest, hqueue⟩ := hprepare.submit_head
      exact (h.prepare hprepare).finish hqueue now' access result

theorem conserved_calls {config : QueueConfig} {q : KISSDataAdmissionQueue}
    (h : (callSystem R config).Reachable q) : q.Conserved ∧ q.config = config := by
  refine h.invariant (I := fun q => q.Conserved ∧ q.config = config) ?_ ?_
  · rintro q rfl
    exact ⟨conserved_init config, rfl⟩
  · rintro q ⟨c, report⟩ q' - ⟨hconserved, hconfig⟩ hstep
    have hcall := q.call_calls c
    rw [show q.call c = (q', report) from hstep] at hcall
    exact ⟨hconserved.calls hcall, hcall.waiting_cases.1.trans hconfig⟩

end KISSDataAdmissionQueue

end YwdTnc
