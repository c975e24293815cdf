import YwdTnc.Interaction.Transition
import YwdTnc.Kiss.Conservation
import Mathlib.Logic.Function.Basic

/-!
# The admission queue under concurrent callers

`ThreadSafeKISSDataAdmissionQueue` holds one lock around every operation of the
queue and samples the clock under it. Any number of threads take the steps of
their calls in any order: call, acquire the lock, sample the clock, run the
operation, release. An observation that reaches the submitter stays inside it,
with the lock held, until the submitter returns or raises.
-/

namespace YwdTnc

open Interaction

namespace ThreadSafeKISSDataAdmissionQueue

inductive Call where
  | enqueue (frameNoFcs : Bytes) (context : TNCTransmitContext)
  | observe (raw : ℤ) (source : RandomByteSource)

inductive ThreadState where
  | idle
  | waiting (call : Call)
  | locked (call : Call)
  | sampled (call : Call) (now : ℚ)
  | submitting (now : ℚ) (request : Request) (access : ChannelAccessObservation)
  | returning

/-- The thread is inside the `with` block of the lock. -/
def ThreadState.holdsLock : ThreadState → Prop
  | idle | waiting _ => False
  | locked _ | sampled _ _ | submitting _ _ _ | returning => True

structure Shared (Tid : Type) where
  clock : ℚ
  lock : Option Tid
  thread : Tid → ThreadState
  queue : KISSDataAdmissionQueue

/-- The steps, with what an operation returned or raised. -/
inductive Event (Tid R : Type) where
  | tick
  | call (t : Tid) (call : Call)
  | acquire (t : Tid)
  | sample (t : Tid)
  | enqueue (t : Tid) (now : ℚ) (result : Except PyError KISSDataRequestReceipt)
  | observe (t : Tid) (source : RandomByteSource)
      (result : Except PyError (KISSDataQueueObservation R))
  | submit (t : Tid)
  | finish (t : Tid) (observation : KISSDataQueueObservation R)
  | release (t : Tid)

variable {Tid R : Type} [DecidableEq Tid]

def Shared.set (s : Shared Tid) (t : Tid) (state : ThreadState) : Shared Tid :=
  { s with thread := Function.update s.thread t state }

inductive Step : Shared Tid → Event Tid R → Shared Tid → Prop
  | tick {s : Shared Tid} {clock : ℚ} (h : s.clock ≤ clock) :
      Step s .tick { s with clock }
  | call {s : Shared Tid} {t : Tid} {c : Call} (h : s.thread t = .idle) :
      Step s (.call t c) (s.set t (.waiting c))
  | acquire {s : Shared Tid} {t : Tid} {c : Call} (h : s.thread t = .waiting c)
      (hfree : s.lock = none) :
      Step s (.acquire t) { s.set t (.locked c) with lock := some t }
  | sample {s : Shared Tid} {t : Tid} {c : Call} (h : s.thread t = .locked c) :
      Step s (.sample t) (s.set t (.sampled c s.clock))
  | enqueue {s : Shared Tid} {t : Tid} {frameNoFcs : Bytes}
      {context : TNCTransmitContext} {now : ℚ}
      (h : s.thread t = .sampled (.enqueue frameNoFcs context) now) :
      Step s (.enqueue t now (s.queue.enqueue frameNoFcs context now).2)
        { s.set t .returning with
          queue := (s.queue.enqueue frameNoFcs context now).1 }
  | observe {s : Shared Tid} {t : Tid} {raw : ℤ} {source : RandomByteSource} {now : ℚ}
      {queue : KISSDataAdmissionQueue}
      {result : Except PyError (KISSDataQueueObservation R)}
      (h : s.thread t = .sampled (.observe raw source) now)
      (hprepare : s.queue.prepare now raw source = (queue, .done result)) :
      Step s (.observe t source result) { s.set t .returning with queue }
  | submit {s : Shared Tid} {t : Tid} {raw : ℤ} {source : RandomByteSource}
      {now now' : ℚ} {queue : KISSDataAdmissionQueue} {request : Request}
      {access : ChannelAccessObservation}
      (h : s.thread t = .sampled (.observe raw source) now)
      (hprepare : s.queue.prepare (R := R) now raw source =
        (queue, .submit now' request access)) :
      Step s (.submit t)
        { s.set t (.submitting now' request access) with queue }
  | finish {s : Shared Tid} {t : Tid} {now : ℚ} {request : Request}
      {access : ChannelAccessObservation} (result : Except PyError R)
      (h : s.thread t = .submitting now request access) :
      Step s (.finish t (s.queue.finish now request access result).2)
        { s.set t .returning with
          queue := (s.queue.finish now request access result).1 }
  | release {s : Shared Tid} {t : Tid} (h : s.thread t = .returning) :
      Step s (.release t) { s.set t .idle with lock := none }

/-- The wrapper from its construction on, with a clock that starts anywhere. -/
def system (Tid R : Type) [DecidableEq Tid] (config : QueueConfig) :
    System (Shared Tid) (Event Tid R) where
  initial s := 0 ≤ s.clock ∧ s.lock = none ∧ (∀ t, s.thread t = .idle) ∧
    s.queue = .init config
  step := Step

/-! ### The invariant -/

structure Inv (s : Shared Tid) : Prop where
  conserved : s.queue.Conserved
  clock_nonneg : 0 ≤ s.clock
  lastNow_le : s.queue.lastNow ≤ s.clock
  lock : ∀ t, (s.thread t).holdsLock → s.lock = some t
  sampled : ∀ t call now, s.thread t = .sampled call now →
    s.queue.Accepts now ∧ now ≤ s.clock
  submitting : ∀ t now request access, s.thread t = .submitting now request access →
    ∃ rest, s.queue.queue = request :: rest

theorem set_self (s : Shared Tid) (t : Tid) (state : ThreadState) :
    (s.set t state).thread t = state := by
  simp only [Shared.set, Function.update_self]

theorem set_of_ne (s : Shared Tid) {t t' : Tid} (state : ThreadState) (h : t' ≠ t) :
    (s.set t state).thread t' = s.thread t' := by
  simp only [Shared.set, Function.update_of_ne h]

/-- A thread outside the queue's operations moved, and it did not take the lock from
another. -/
theorem Inv.move {s : Shared Tid} (h : Inv s) {t : Tid} (state : ThreadState)
    (lock : Option Tid) (hself : state.holdsLock → lock = some t)
    (hothers : ∀ t' ≠ t, s.lock = some t' → lock = some t')
    (hsampled : ∀ call now, state = .sampled call now →
      s.queue.Accepts now ∧ now ≤ s.clock)
    (hsubmitting : ∀ now request access, state ≠ .submitting now request access) :
    Inv { s.set t state with lock } := by
  constructor
  · exact h.conserved
  · exact h.clock_nonneg
  · exact h.lastNow_le
  · intro t' hholds
    by_cases ht : t' = t
    · subst ht
      exact hself ((set_self s t' state) ▸ hholds)
    · exact hothers t' ht (h.lock t' ((set_of_ne s state ht) ▸ hholds))
  · intro t' call now hstate
    by_cases ht : t' = t
    · subst ht
      exact hsampled call now ((set_self s t' state).symm.trans hstate)
    · exact h.sampled t' call now ((set_of_ne s state ht).symm.trans hstate)
  · intro t' now request access hstate
    by_cases ht : t' = t
    · subst ht
      exact absurd ((set_self s t' state).symm.trans hstate)
        (hsubmitting now request access)
    · exact h.submitting t' now request access
        ((set_of_ne s state ht).symm.trans hstate)

/-- The thread that holds the lock ran an operation of the queue. -/
theorem Inv.operate {s : Shared Tid} (h : Inv s) {t : Tid} (state : ThreadState)
    {queue : KISSDataAdmissionQueue} (hholds : (s.thread t).holdsLock)
    (hqueue : queue.Conserved)
    (hlast : queue.lastNow ≤ s.clock)
    (hsampled : ∀ call now, state ≠ .sampled call now)
    (hsubmitting : ∀ now request access, state = .submitting now request access →
      ∃ rest, queue.queue = request :: rest) :
    Inv { s.set t state with queue } := by
  have hmine : s.lock = some t := h.lock t hholds
  -- every other thread is outside the lock
  have hothers : ∀ t', t' ≠ t → ¬ (s.thread t').holdsLock := by
    intro t' ht hother
    have hlock := h.lock t' hother
    rw [hmine, Option.some.injEq] at hlock
    exact ht hlock.symm
  constructor
  · exact hqueue
  · exact h.clock_nonneg
  · exact hlast
  · intro t' hhold
    by_cases ht : t' = t
    · rw [ht]
      exact hmine
    · exact absurd ((set_of_ne s state ht) ▸ hhold) (hothers t' ht)
  · intro t' call now hstate'
    by_cases ht : t' = t
    · subst ht
      exact absurd ((set_self s t' state).symm.trans hstate') (hsampled call now)
    · have hother := (set_of_ne s state ht).symm.trans hstate'
      refine absurd ?_ (hothers t' ht)
      rw [hother]
      trivial
  · intro t' now request access hstate'
    by_cases ht : t' = t
    · subst ht
      exact hsubmitting now request access ((set_self s t' state).symm.trans hstate')
    · have hother := (set_of_ne s state ht).symm.trans hstate'
      refine absurd ?_ (hothers t' ht)
      rw [hother]
      trivial

theorem inv_initial {config : QueueConfig} {s : Shared Tid}
    (h : (system Tid R config).initial s) : Inv s := by
  obtain ⟨hclock, -, hidle, hqueue⟩ := h
  constructor
  · rw [hqueue]
    exact KISSDataAdmissionQueue.conserved_init config
  · exact hclock
  · rw [hqueue]
    exact hclock
  · intro t hholds
    rw [hidle t] at hholds
    exact absurd hholds id
  · intro t call now hstate
    rw [hidle t] at hstate
    cases hstate
  · intro t now request access hstate
    rw [hidle t] at hstate
    cases hstate

theorem inv_step {s s' : Shared Tid} {e : Event Tid R} (h : Inv s)
    (hstep : Step s e s') : Inv s' := by
  cases hstep with
  | tick hclock =>
      constructor
      · exact h.conserved
      · exact le_trans h.clock_nonneg hclock
      · exact le_trans h.lastNow_le hclock
      · exact h.lock
      · intro t call now hstate
        obtain ⟨haccepts, hnow⟩ := h.sampled t call now hstate
        exact ⟨haccepts, le_trans hnow hclock⟩
      · exact h.submitting
  | @call t c hstate =>
      exact h.move (.waiting c) s.lock (fun h => nomatch h) (fun _ _ hlock => hlock)
        (fun _ _ h => nomatch h) (fun _ _ _ h => nomatch h)
  | @acquire t c hstate hfree =>
      refine h.move (.locked c) (some t) (fun _ => rfl) ?_ (fun _ _ h => nomatch h)
        (fun _ _ _ h => nomatch h)
      intro t' _ hlock
      rw [hfree] at hlock
      cases hlock
  | @sample t c hstate =>
      have hmine : s.lock = some t := by
        apply h.lock
        rw [hstate]
        trivial
      refine h.move (.sampled c s.clock) s.lock (fun _ => hmine) (fun _ _ hlock => hlock) ?_
        (fun _ _ _ h => nomatch h)
      intro call now hsampled
      cases hsampled
      exact ⟨⟨h.clock_nonneg, h.lastNow_le⟩, le_refl _⟩
  | @enqueue t frameNoFcs context now hstate =>
      obtain ⟨-, hnow⟩ := h.sampled t _ _ hstate
      have henqueue := s.queue.enqueue_enqueues frameNoFcs context now
      refine h.operate .returning ?_ (h.conserved.enqueue henqueue)
        (henqueue.lastNow_le h.lastNow_le hnow) (fun _ _ h => nomatch h)
        (fun _ _ _ h => nomatch h)
      rw [hstate]
      trivial
  | @observe t raw source now queue result hstate hprepare =>
      obtain ⟨-, hnow⟩ := h.sampled t _ _ hstate
      have hprepares := s.queue.prepare_prepares (R := R) now raw source
      rw [hprepare] at hprepares
      refine h.operate .returning ?_ (h.conserved.prepare hprepares)
        (hprepares.lastNow_le h.lastNow_le hnow) (fun _ _ h => nomatch h)
        (fun _ _ _ h => nomatch h)
      rw [hstate]
      trivial
  | @submit t raw source now now' queue request access hstate hprepare =>
      obtain ⟨-, hnow⟩ := h.sampled t _ _ hstate
      have hprepares := s.queue.prepare_prepares (R := R) now raw source
      rw [hprepare] at hprepares
      refine h.operate (.submitting now' request access) ?_
        (h.conserved.prepare hprepares) (hprepares.lastNow_le h.lastNow_le hnow)
        (fun _ _ h => nomatch h) ?_
      · rw [hstate]
        trivial
      · intro now'' request' access' hsubmitting
        cases hsubmitting
        exact hprepares.submit_head
  | @finish t now request access result hstate =>
      obtain ⟨rest, hqueue⟩ := h.submitting t now request access hstate
      refine h.operate .returning ?_ (h.conserved.finish hqueue now access result) ?_
        (fun _ _ h => nomatch h) (fun _ _ _ h => nomatch h)
      · rw [hstate]
        trivial
      · cases result with
        | error e => exact h.lastNow_le
        | ok result => exact h.lastNow_le
  | @release t hstate =>
      have hmine : s.lock = some t := by
        apply h.lock
        rw [hstate]
        trivial
      refine h.move .idle none (fun h => nomatch h) ?_ (fun _ _ h => nomatch h)
        (fun _ _ _ h => nomatch h)
      intro t' ht hlock
      rw [hmine, Option.some.injEq] at hlock
      exact absurd hlock.symm ht

theorem inv_reachable {config : QueueConfig} {s : Shared Tid}
    (h : (system Tid R config).Reachable s) : Inv s :=
  h.invariant (fun _ => inv_initial) fun _ _ _ _ hinv hstep => inv_step hinv hstep

/-! ### What a step reports and changes -/

/-- The queue raises no `KISSDataTimeError`: one that an observation raises is
the exception of the caller's own random source. -/
def Event.timely : Event Tid R → Prop
  | .enqueue _ _ (.error e) => e.cls ≠ .kissDataTimeError
  | .observe _ source (.error e) =>
      e.cls = .kissDataTimeError → source = some (.error e)
  | _ => True

/-- A rejected enqueue changes its own rejection counter and the last-seen time. -/
def Event.rejects (e : Event Tid R) (q q' : KISSDataAdmissionQueue) : Prop :=
  ∀ t now error, e = .enqueue t now (.error error) →
    (error.cls = .kissDataFrameRejected ∧
      q' = { q with lastNow := now, invalidRejections := q.invalidRejections + 1 }) ∨
    (error.cls = .kissDataQueueFull ∧
      q' = { q with lastNow := now, queueFullRejections := q.queueFullRejections + 1 })

structure Sound (s : Shared Tid) (e : Event Tid R) (s' : Shared Tid) : Prop where
  timely : e.timely
  fifo : s.queue.Fifo s'.queue
  rejects : e.rejects s.queue s'.queue

omit [DecidableEq Tid] in
theorem sound_of_other {s s' : Shared Tid} {e : Event Tid R} (htimely : e.timely)
    (hqueue : s.queue.Fifo s'.queue)
    (hother : ∀ t now error, e ≠ .enqueue t now (.error error)) : Sound s e s' :=
  ⟨htimely, hqueue, fun t now error h => absurd h (hother t now error)⟩

theorem sound_step {s s' : Shared Tid} {e : Event Tid R} (h : Inv s)
    (hstep : Step s e s') : Sound s e s' := by
  cases hstep with
  | tick | call | acquire | sample | release =>
      exact sound_of_other trivial (.inl rfl) (fun _ _ _ h => nomatch h)
  | @enqueue t frameNoFcs context now hstate =>
      obtain ⟨haccepts, -⟩ := h.sampled t _ _ hstate
      have henqueue := s.queue.enqueue_enqueues frameNoFcs context now
      refine ⟨?_, KISSDataAdmissionQueue.fifo_enqueue henqueue, ?_⟩
      · cases hresult : (s.queue.enqueue frameNoFcs context now).2 with
        | ok receipt => trivial
        | error error =>
            rw [hresult] at henqueue
            intro hcls
            rcases KISSDataAdmissionQueue.rejected_enqueue haccepts henqueue with
              ⟨hcls', -⟩ | ⟨hcls', -⟩
            · rw [hcls'] at hcls
              cases hcls
            · rw [hcls'] at hcls
              cases hcls
      · intro t' now' error hevent
        rw [Event.enqueue.injEq] at hevent
        obtain ⟨-, rfl, hresult⟩ := hevent
        rw [hresult] at henqueue
        exact KISSDataAdmissionQueue.rejected_enqueue haccepts henqueue
  | @observe t raw source now queue result hstate hprepare =>
      obtain ⟨haccepts, -⟩ := h.sampled t _ _ hstate
      have hprepares := s.queue.prepare_prepares (R := R) now raw source
      rw [hprepare] at hprepares
      refine sound_of_other ?_ (KISSDataAdmissionQueue.fifo_prepare hprepares)
        (fun _ _ _ h => nomatch h)
      cases result with
      | ok observation => trivial
      | error e =>
          intro hcls
          cases hprepares with
          | late hlate hcls' => exact absurd haccepts hlate
          | raised hnow hqueue hdeadline hattempt hobserve =>
              rcases ShadowChannelAccessAttempt.observeRssi_error_cls hobserve with
                hcls' | hcls' | hcls' | hsource
              · rw [hcls'] at hcls
                cases hcls
              · rw [hcls'] at hcls
                cases hcls
              · rw [hcls'] at hcls
                cases hcls
              · exact hsource
  | @submit t raw source now now' queue request access hstate hprepare =>
      have hprepares := s.queue.prepare_prepares (R := R) now raw source
      rw [hprepare] at hprepares
      exact sound_of_other trivial (KISSDataAdmissionQueue.fifo_prepare hprepares)
        (fun _ _ _ h => nomatch h)
  | @finish t now request access result hstate =>
      exact sound_of_other trivial
        (KISSDataAdmissionQueue.fifo_finish s.queue now request access result)
        (fun _ _ _ h => nomatch h)

/-- Conservation under any interleaving of any threads: the counters, the ids
and the requests of the queue agree in every reachable state, and no step raises
a time error, takes a request from the middle or lets a rejection change
anything else. -/
theorem reachable_conserved (config : QueueConfig) (s : Shared Tid)
    (h : (system Tid R config).Reachable s) :
    s.queue.Conserved ∧
      ∀ e s', (system Tid R config).step s e s' → Sound s e s' :=
  ⟨(inv_reachable h).conserved, fun _ _ hstep => sound_step (inv_reachable h) hstep⟩

/-- Thread 0 has had a frame admitted and still holds the lock. -/
theorem reachable_conserved_after_enqueue :
    ∃ s : Shared ℕ, s.queue.acceptedRequests = 1 ∧ s.lock = some 0 ∧
      s.queue.Conserved ∧
      ∀ e s', (system ℕ Unit .engine).step s e s' → Sound s e s' := by
  let body : Call := .enqueue receiveReady .default
  let s₀ : Shared ℕ := ⟨0, none, fun _ => .idle, .init .engine⟩
  let s₁ := s₀.set 0 (.waiting body)
  let s₂ := { s₁.set 0 (.locked body) with lock := some 0 }
  let s₃ := s₂.set 0 (.sampled body 0)
  let s₄ := { s₃.set 0 .returning with
    queue := (s₃.queue.enqueue receiveReady .default 0).1 }
  have h₀ : (system ℕ Unit .engine).Reachable s₀ :=
    .initial ⟨le_refl _, rfl, fun _ => rfl, rfl⟩
  have h₁ : (system ℕ Unit .engine).Reachable s₁ := h₀.step (.call rfl)
  have h₂ : (system ℕ Unit .engine).Reachable s₂ :=
    h₁.step (.acquire (set_self s₀ 0 _) rfl)
  have h₃ : (system ℕ Unit .engine).Reachable s₃ := h₂.step (.sample (set_self s₁ 0 _))
  have h₄ : (system ℕ Unit .engine).Reachable s₄ :=
    h₃.step (.enqueue (set_self s₂ 0 _))
  exact ⟨s₄, by decide +kernel, rfl, reachable_conserved .engine s₄ h₄⟩

end ThreadSafeKISSDataAdmissionQueue

end YwdTnc
