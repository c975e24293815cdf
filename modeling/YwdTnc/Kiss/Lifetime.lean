import YwdTnc.Kiss.QueueCalls

/-!
# The lifetime of a request

Requests wait in the order of their deadlines, so an observation at or past the
deadline of a waiting request finds the head past its own deadline and removes
it. Whatever is ahead of the request is gone after as many such observations.
-/

namespace YwdTnc

open Interaction

namespace KISSDataAdmissionQueue

variable {R : Type}

/-- Deadlines are one time-out after admission and stand in order. -/
structure Timed (q : KISSDataAdmissionQueue) : Prop where
  deadline : ∀ a ∈ q.waiting,
    a.1.deadlineAt = a.1.enqueuedAt + q.config.requestTimeoutSeconds ∧
      a.1.enqueuedAt ≤ q.lastNow
  sorted : (q.waiting.map (·.1.deadlineAt)).Pairwise (· ≤ ·)

theorem timed_init (config : QueueConfig) : (init config).Timed :=
  ⟨fun _ ha => (nomatch ha), .nil⟩

theorem Timed.of_sublist {q q' : KISSDataAdmissionQueue} (h : q.Timed)
    (hsublist : q'.waiting.Sublist q.waiting) (hconfig : q'.config = q.config)
    (hlast : q.lastNow ≤ q'.lastNow) : q'.Timed := by
  constructor
  · intro a ha
    obtain ⟨hdeadline, henqueued⟩ := h.deadline a (hsublist.mem ha)
    rw [hconfig]
    exact ⟨hdeadline, le_trans henqueued hlast⟩
  · exact h.sorted.sublist (hsublist.map _)

/-- The new request has the latest deadline. -/
theorem Timed.admits {q q' : KISSDataAdmissionQueue} (h : q.Timed) {frameNoFcs : Bytes}
    {context : TNCTransmitContext} {now : ℚ} (hnow : q.Accepts now)
    (hconfig : q'.config = q.config) (hlast : q'.lastNow = now)
    (hwaiting : q'.waiting =
      q.waiting ++ [(q.admitted frameNoFcs context now).admission]) : q'.Timed := by
  constructor
  · intro a ha
    rw [hwaiting, List.mem_append, List.mem_singleton] at ha
    rw [hconfig, hlast]
    rcases ha with ha | rfl
    · obtain ⟨hdeadline, henqueued⟩ := h.deadline a ha
      exact ⟨hdeadline, le_trans henqueued hnow.2⟩
    · exact ⟨rfl, le_refl _⟩
  · rw [hwaiting, List.map_append, List.pairwise_append]
    refine ⟨h.sorted, List.pairwise_singleton _ _, ?_⟩
    intro deadline hdeadline latest hlatest
    rw [List.mem_map] at hdeadline
    obtain ⟨a, ha, rfl⟩ := hdeadline
    rw [List.map_singleton, List.mem_singleton] at hlatest
    rw [hlatest]
    obtain ⟨heq, henqueued⟩ := h.deadline a ha
    rw [heq]
    exact add_le_add_left (le_trans henqueued hnow.2) _

theorem Timed.calls {q q' : KISSDataAdmissionQueue} (h : q.Timed) {c : QueueCall R}
    {report : QueueReport R} (hcall : q.Calls c q' report) : q'.Timed := by
  obtain ⟨hconfig, hlast, ⟨hwaiting, -⟩ | ⟨hwaiting, -⟩ |
    ⟨frameNoFcs, context, now, -, hnow, hnext, -, hwaiting⟩⟩ := hcall.waiting_cases
  · exact h.of_sublist (hwaiting ▸ List.Sublist.refl _) hconfig hlast
  · exact h.of_sublist (hwaiting ▸ List.tail_sublist _) hconfig hlast
  · exact h.admits hnow hconfig hnext hwaiting

theorem timed_reachable {config : QueueConfig} {q : KISSDataAdmissionQueue}
    (h : (callSystem R config).Reachable q) : q.Timed := by
  refine h.invariant ?_ ?_
  · rintro q rfl
    exact timed_init config
  · rintro q ⟨c, report⟩ q' - htimed hstep
    have hcall := q.call_calls c
    rw [show q.call c = (q', report) from hstep] at hcall
    exact htimed.calls hcall

theorem timed_after {q : KISSDataAdmissionQueue} (h : q.Timed) (cs : List (QueueCall R)) :
    (q.after cs).Timed := by
  induction cs generalizing q with
  | nil => exact h
  | cons c cs ih => exact ih (h.calls (q.call_calls c))

/-- A request is handed to the submitter before its deadline. -/
theorem Timed.submitted {q : KISSDataAdmissionQueue} (h : q.Timed) {now : ℚ} {raw : ℤ}
    {source : RandomByteSource} {result : Except PyError R} {request : Request}
    {observation : KISSDataQueueObservation R}
    (hreport : (q.call (.observe now raw source result)).2 = .submitted request observation) :
    now < request.receipt.enqueuedAt + q.config.requestTimeoutSeconds := by
  have hcall := q.call_calls (.observe now raw source result)
  rw [hreport] at hcall
  generalize (q.call (.observe now raw source result)).1 = q' at hcall
  cases hcall with
  | submit hprepare =>
      obtain ⟨hmem, -⟩ := prepare_submit hprepare
      cases hprepare with
      | @submits request' rest attempt attempt' access hnow hqueue hdeadline =>
          exact lt_of_lt_of_eq hdeadline (h.deadline _ hmem).1

/-! ### Late observations -/

/-- An observation that the queue accepts at or past `deadline`. -/
def Late (deadline : ℚ) (q : KISSDataAdmissionQueue) : QueueCall R → Prop
  | .enqueue _ _ _ => False
  | .observe now _ _ _ => (0 ≤ now ∧ q.lastNow ≤ now) ∧ deadline ≤ now

instance (deadline : ℚ) (q : KISSDataAdmissionQueue) :
    (c : QueueCall R) → Decidable (q.Late deadline c)
  | .enqueue _ _ _ => inferInstanceAs (Decidable False)
  | .observe now _ _ _ => inferInstanceAs (Decidable (_ ∧ deadline ≤ now))

/-- The number of late observations among some calls. -/
def lateCalls (deadline : ℚ) : KISSDataAdmissionQueue → List (QueueCall R) → ℕ
  | _, [] => 0
  | q, c :: cs => (if q.Late deadline c then 1 else 0) + lateCalls deadline (q.call c).1 cs

/-- While a request waits, an observation at or past its deadline takes the head
off the queue and calls no submitter. -/
theorem Timed.late {q : KISSDataAdmissionQueue} (h : q.Timed) {a : Admission}
    (ha : a ∈ q.waiting) {c : QueueCall R} (hlate : q.Late a.1.deadlineAt c) :
    (q.call c).1.waiting = q.waiting.tail ∧
      ∀ request observation, (q.call c).2 ≠ .submitted request observation := by
  cases c with
  | enqueue => exact hlate.elim
  | observe now raw source result =>
      obtain ⟨hnow, hdeadline⟩ := hlate
      cases hqueue : q.queue with
      | nil =>
          rw [waiting, hqueue] at ha
          cases ha
      | cons request rest =>
          have hsorted := h.sorted
          rw [waiting, hqueue, List.map_cons] at ha hsorted
          rw [List.map_cons, List.pairwise_cons] at hsorted
          have hhead : request.receipt.deadlineAt ≤ now := by
            rcases List.mem_cons.1 ha with rfl | hrest
            · exact hdeadline
            · exact le_trans (hsorted.1 _ (List.mem_map_of_mem hrest)) hdeadline
          obtain ⟨reason, hprepare⟩ := q.prepare_expired R now raw source hnow hqueue hhead
          constructor
          · simp only [call, hprepare, waiting, hqueue, List.map_cons, List.tail_cons]
          · intro request' observation hreport
            simp only [call, hprepare] at hreport
            cases hreport

/-! ### Admitted requests have their ids for good -/

theorem Conserved.id_lt {q : KISSDataAdmissionQueue} (h : q.Conserved) {a : Admission}
    (ha : a ∈ q.waiting) : a.id < q.nextRequestId := by
  obtain ⟨first, hids, hnext⟩ := h.ids
  rw [waiting, List.mem_map] at ha
  obtain ⟨request, hmem, rfl⟩ := ha
  have hid : request.id ∈ List.range' first q.queue.length := by
    rw [← hids]
    exact List.mem_map_of_mem hmem
  rw [List.mem_range'_1] at hid
  rw [← hnext]
  exact hid.2

theorem Conserved.nodup {q : KISSDataAdmissionQueue} (h : q.Conserved) :
    (q.waiting.map Admission.id).Nodup := by
  obtain ⟨first, hids, -⟩ := h.ids
  have hmap : q.waiting.map Admission.id = q.queue.map Request.id := by
    rw [waiting, List.map_map]
    rfl
  rw [hmap, hids]
  exact List.nodup_range'

theorem Calls.id_lt {q q' : KISSDataAdmissionQueue} {c : QueueCall R}
    {report : QueueReport R} (hcall : q.Calls c q' report) {n : ℕ}
    (hid : n < q.nextRequestId) : n < q'.nextRequestId := by
  obtain ⟨-, -, ⟨-, hnext⟩ | ⟨-, hnext⟩ | ⟨_, _, _, -, -, -, hnext, -⟩⟩ := hcall.waiting_cases
  · rw [hnext]
    exact hid
  · rw [hnext]
    exact hid
  · rw [hnext]
    exact Nat.lt_succ_of_lt hid

/-- A request that has left does not come back. -/
theorem Calls.gone {q q' : KISSDataAdmissionQueue} {c : QueueCall R} {report : QueueReport R}
    (hcall : q.Calls c q' report) {a : Admission} (hid : a.id < q.nextRequestId)
    (hgone : a ∉ q.waiting) : a ∉ q'.waiting := by
  obtain ⟨-, -, ⟨hwaiting, -⟩ | ⟨hwaiting, -⟩ |
    ⟨frameNoFcs, context, now, -, -, -, -, hwaiting⟩⟩ := hcall.waiting_cases
  · rw [hwaiting]
    exact hgone
  · rw [hwaiting]
    exact fun hmem => hgone (List.mem_of_mem_tail hmem)
  · rw [hwaiting, List.mem_append, List.mem_singleton]
    rintro (hmem | rfl)
    · exact hgone hmem
    · exact absurd hid (lt_irrefl _)

theorem after_gone {q : KISSDataAdmissionQueue} {a : Admission} (hid : a.id < q.nextRequestId)
    (hgone : a ∉ q.waiting) (cs : List (QueueCall R)) : a ∉ (q.after cs).waiting := by
  induction cs generalizing q with
  | nil => exact hgone
  | cons c cs ih =>
      have hcall := q.call_calls c
      exact ih (hcall.id_lt hid) (hcall.gone hid hgone)

/-- A request that is still waiting after the head has left was not the head. -/
theorem position_tail {waiting : List Admission} (hnodup : (waiting.map Admission.id).Nodup)
    {a : Admission} {i : ℕ} (hi : waiting[i]? = some a) (hmem : a ∈ waiting.tail) :
    ∃ j, i = j + 1 ∧ waiting.tail[j]? = some a := by
  cases waiting with
  | nil => cases hmem
  | cons head rest =>
      cases i with
      | zero =>
          rw [List.getElem?_cons_zero, Option.some.injEq] at hi
          rw [List.map_cons, List.nodup_cons] at hnodup
          rw [hi] at hnodup
          exact absurd (List.mem_map_of_mem hmem) hnodup.1
      | succ j =>
          rw [List.getElem?_cons_succ] at hi
          exact ⟨j, rfl, hi⟩

/-- No call moves a waiting request back. -/
theorem Calls.position {q q' : KISSDataAdmissionQueue} (h : q.Conserved) {c : QueueCall R}
    {report : QueueReport R} (hcall : q.Calls c q' report) {a : Admission} {i : ℕ}
    (hi : q.waiting[i]? = some a) (hmem : a ∈ q'.waiting) :
    ∃ j ≤ i, q'.waiting[j]? = some a := by
  obtain ⟨-, -, ⟨hwaiting, -⟩ | ⟨hwaiting, -⟩ |
    ⟨frameNoFcs, context, now, -, -, -, -, hwaiting⟩⟩ := hcall.waiting_cases
  · rw [hwaiting]
    exact ⟨i, le_refl i, hi⟩
  · rw [hwaiting] at hmem ⊢
    obtain ⟨j, rfl, hj⟩ := position_tail h.nodup hi hmem
    exact ⟨j, Nat.le_succ j, hj⟩
  · rw [hwaiting]
    refine ⟨i, le_refl i, ?_⟩
    rw [List.getElem?_append_left (List.getElem?_eq_some_iff.1 hi).1]
    exact hi

/-- Each late observation moves a request one place ahead, until it is gone. -/
theorem lateCalls_le {q : KISSDataAdmissionQueue} (htimed : q.Timed)
    (hconserved : q.Conserved) {a : Admission} (cs : List (QueueCall R)) :
    ∀ i, q.waiting[i]? = some a → a ∈ (q.after cs).waiting →
      lateCalls a.1.deadlineAt q cs ≤ i := by
  induction cs generalizing q with
  | nil => exact fun i _ _ => Nat.zero_le i
  | cons c cs ih =>
      intro i hi hstays
      have hcall := q.call_calls c
      have hmem : a ∈ q.waiting := List.mem_of_getElem? hi
      -- the request waits in the next state too, or it would not be there at the end
      have hnext : a ∈ (q.call c).1.waiting := by
        by_contra hgone
        exact after_gone (hcall.id_lt (hconserved.id_lt hmem)) hgone cs hstays
      have hrest := ih (htimed.calls hcall) (hconserved.calls hcall)
      rw [lateCalls]
      by_cases hlate : q.Late a.1.deadlineAt c
      · obtain ⟨htail, -⟩ := htimed.late hmem hlate
        rw [htail] at hnext hrest
        obtain ⟨j, rfl, hj⟩ := position_tail hconserved.nodup hi hnext
        have hle := hrest j hj hstays
        rw [if_pos hlate]
        omega
      · obtain ⟨j, hji, hj⟩ := hcall.position hconserved hi hnext
        have hle := hrest j hj hstays
        rw [if_neg hlate]
        omega

/-- Bounded lifetime in every reachable state: a request is handed to the
submitter only before its deadline, the deadlines stand in order, and a request
at position `i` is gone after `i + 1` observations that the queue accepts at or
past its deadline, none of which calls the submitter while it waits. -/
theorem reachable_bounded (config : QueueConfig) (q : KISSDataAdmissionQueue)
    (h : (callSystem R config).Reachable q) :
    (∀ now raw source result request observation,
      (q.call (R := R) (.observe now raw source result)).2 = .submitted request observation →
        now < request.receipt.enqueuedAt + config.requestTimeoutSeconds) ∧
      (q.waiting.map (·.1.deadlineAt)).Pairwise (· ≤ ·) ∧
      ∀ i a, q.waiting[i]? = some a → ∀ cs : List (QueueCall R),
        (i < lateCalls a.1.deadlineAt q cs → a ∉ (q.after cs).waiting) ∧
        (a ∈ (q.after cs).waiting → ∀ c : QueueCall R, (q.after cs).Late a.1.deadlineAt c →
          ∀ request observation, ((q.after cs).call c).2 ≠ .submitted request observation) := by
  have htimed := timed_reachable h
  obtain ⟨hconserved, hconfig⟩ := conserved_calls h
  refine ⟨?_, htimed.sorted, ?_⟩
  · intro now raw source result request observation hreport
    rw [← hconfig]
    exact htimed.submitted hreport
  · intro i a hi cs
    constructor
    · intro hmany hstays
      exact absurd (lateCalls_le htimed hconserved cs i hi hstays) (not_le.mpr hmany)
    · intro hstays c hlate
      exact ((timed_after htimed cs).late hstays hlate).2

/-- A queue with two requests, admitted at 0 and at 100 seconds. -/
def twoWaiting : KISSDataAdmissionQueue :=
  let enqueue (now : ℚ) : QueueCall Unit := .enqueue receiveReady .default now
  (init .engine).after [enqueue 0, enqueue 100]

theorem reachable_twoWaiting : (callSystem Unit .engine).Reachable twoWaiting :=
  reachable_after (.initial rfl) _

/-- The first of them. -/
def firstWaiting : Admission := ((init .engine).admitted receiveReady .default 0).admission

theorem firstWaiting_first : twoWaiting.waiting[0]? = some firstWaiting := rfl

/-- One observation past the deadline of the first request removes it. -/
theorem reachable_bounded_two_requests :
    ∃ cs : List (QueueCall Unit), firstWaiting ∈ twoWaiting.waiting ∧
      lateCalls firstWaiting.1.deadlineAt twoWaiting cs = 1 ∧
      firstWaiting ∉ (twoWaiting.after cs).waiting := by
  let cs : List (QueueCall Unit) := [.observe 100 0 none (.ok ())]
  have hlate : lateCalls firstWaiting.1.deadlineAt twoWaiting cs = 1 := by decide +kernel
  obtain ⟨-, -, hgone⟩ := reachable_bounded .engine twoWaiting reachable_twoWaiting
  refine ⟨cs, List.mem_of_getElem? firstWaiting_first, hlate,
    (hgone 0 firstWaiting firstWaiting_first cs).1 ?_⟩
  rw [hlate]
  exact Nat.one_pos

/-- An observation at or past the deadline that goes back in time is refused, and
removes nothing. -/
theorem late_refused :
    ¬ ∀ q : KISSDataAdmissionQueue, (callSystem Unit .engine).Reachable q →
      ∀ i a, q.waiting[i]? = some a → ∀ cs : List (QueueCall Unit),
        i < cs.countP (fun c => match c with
          | .observe now _ _ _ => a.1.deadlineAt ≤ now
          | .enqueue _ _ _ => false) →
        a ∉ (q.after cs).waiting := by
  intro h
  let cs : List (QueueCall Unit) := [.observe 60 0 none (.ok ())]
  refine h twoWaiting reachable_twoWaiting 0 firstWaiting firstWaiting_first cs
    (by decide +kernel) ?_
  have hstays : (twoWaiting.after cs).waiting[0]? = some firstWaiting := rfl
  exact List.mem_of_getElem? hstays

end KISSDataAdmissionQueue

end YwdTnc
