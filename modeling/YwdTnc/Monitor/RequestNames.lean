import YwdTnc.Monitor.TxTracker
import Mathlib.Data.List.Basic

/-!
# Which request a monitor event names

The tracker's list of pending ids is a second copy of the admission queue. It is
a prefix of the queue's ids as long as the clients add their bodies in the order
of admission; the ids that are missing at the end are those of clients between
`enqueue` and `add`. An observation that finds the tracker empty publishes
nothing about a request as long as it leaves the queue's head where it is.
-/

namespace YwdTnc

open Interaction

namespace KISSDataAdmissionQueue

variable {q q' : KISSDataAdmissionQueue} {R : Type}

/-- An observation at this time and with these readings leaves the head request
in the queue, and does not submit it. -/
def KeepsHead (q : KISSDataAdmissionQueue) (now : ℚ) (raw : ℤ)
    (source : RandomByteSource) : Prop :=
  q.Accepts now → ∀ request rest, q.queue = request :: rest →
    ∃ hdeadline : now < request.receipt.deadlineAt,
      ∀ attempt attempt' access, headAttempt request now hdeadline = .ok attempt →
        attempt.observeRssi now raw source = (attempt', .ok access) →
        access.csma.state ≠ .ready ∧ access.csma.state ≠ .timedOut

/-- An observation that reports a result leaves the queue as it is, or takes its
head off because it timed out. -/
theorem waiting_prepare_ok {now : ℚ} {raw : ℤ} {source : RandomByteSource}
    {observation : KISSDataQueueObservation R}
    (h : q.Prepares now raw source q' (.done (.ok observation))) :
    (q'.waiting = q.waiting ∧
      MonitoredAdmissionQueue.terminalState observation.requestState = false) ∨
    ∃ a : Admission, q.waiting = a :: q'.waiting ∧
      observation.requestState = some .timedOut ∧
      observation.requestId = some a.id ∧ ¬ q.KeepsHead now raw source := by
  cases h with
  | idle => exact .inl ⟨rfl, rfl⟩
  | @expired request rest reason hnow hqueue hdeadline =>
      refine .inr ⟨request.admission, ?_, rfl, rfl, fun hkeeps => ?_⟩
      · simp only [waiting, hqueue, List.map_cons]
      · obtain ⟨hbefore, -⟩ := hkeeps hnow _ _ hqueue
        exact absurd hdeadline (not_le.mpr hbefore)
  | waits hnow hqueue =>
      refine .inl ⟨?_, rfl⟩
      simp only [waiting, hqueue, List.map_cons]
      rfl
  | @timesOut request rest reason attempt attempt' access hnow hqueue hdeadline hattempt
      hobserve hstate =>
      refine .inr ⟨request.admission, ?_, rfl, rfl, fun hkeeps => ?_⟩
      · simp only [waiting, hqueue, List.map_cons]
      · obtain ⟨hbefore, hother⟩ := hkeeps hnow _ _ hqueue
        exact (hother _ _ _ hattempt hobserve).2 hstate

theorem waiting_prepare_submit {now now' : ℚ} {raw : ℤ} {source : RandomByteSource}
    {request : Request} {access : ChannelAccessObservation}
    (h : q.Prepares (R := R) now raw source q' (.submit now' request access)) :
    q'.waiting = q.waiting ∧ ¬ q.KeepsHead now raw source := by
  cases h with
  | @submits request' rest attempt attempt' _ hnow hqueue hdeadline hattempt hobserve
      hstate =>
      refine ⟨?_, fun hkeeps => ?_⟩
      · simp only [waiting, hqueue, List.map_cons]
        rfl
      · obtain ⟨hbefore, hother⟩ := hkeeps hnow _ _ hqueue
        exact (hother _ _ _ hattempt hobserve).1 hstate

end KISSDataAdmissionQueue

/-- The record is that of the admitted request, with some RSSI reading. -/
def TrackedTXRequest.Names (record : TrackedTXRequest) (a : Admission) : Prop :=
  ∃ body raw, a.frameWithFcs = appendFcs body ∧
    record = { TXRequestTracker.record a.1 body with rawRssi := raw }

theorem TrackedTXRequest.Names.requestId {record : TrackedTXRequest} {a : Admission}
    (h : record.Names a) : record.requestId = a.id := by
  obtain ⟨body, raw, -, rfl⟩ := h
  rfl

theorem TrackedTXRequest.Names.withRssi {record : TrackedTXRequest} {a : Admission}
    (h : record.Names a) (raw : ℤ) :
    TrackedTXRequest.Names { record with rawRssi := some raw } a := by
  obtain ⟨body, -, hframe, rfl⟩ := h
  exact ⟨body, some raw, hframe, rfl⟩

namespace MonitoredAdmissionQueue

variable {Tid R : Type}

/-- The request that the observation took off the queue, while the tracker still
has it. -/
def State.leaving (s : State Tid R) : List Admission :=
  match s.scheduler with
  | .observed _ observation advanced | .reported observation advanced =>
      if terminalState observation.requestState then advanced.toList else []
  | _ => []

/-- The requests that the tracker should have. -/
def State.live (s : State Tid R) : List Admission := s.leaving ++ s.queue.waiting

/-- `added` are the live requests that the tracker has, `late` those that a client
is still to add. -/
structure Split (s : State Tid R) (added late : List Admission) : Prop where
  live : s.live = added ++ late
  pending : s.tracker.pending = added.map Admission.id
  records : ∀ a ∈ added, ∃ record, s.tracker.records a.id = some record ∧ record.Names a
  holder : ∀ a ∈ late, ∃ t body, s.client t = .admitted a.1 body
  held : ∀ t receipt body, s.client t = .admitted receipt body →
    ∃ a ∈ late, a.1 = receipt ∧ a.frameWithFcs = appendFcs body

/-- The tracker's current request is `a`, the oldest live one. -/
structure State.Current (s : State Tid R) (a : Admission) : Prop where
  live : s.live.head? = some a
  pending : s.tracker.pending.head? = some a.id
  currentId : s.tracker.currentId = some a.id

/-- An observation has ended `a`, which the tracker still has in front. -/
structure State.Ending (s : State Tid R) (observation : KISSDataQueueObservation R)
    (advanced : Option Admission) (a : Admission) : Prop where
  advanced : advanced = some a
  requestId : observation.requestId = some a.id
  pending : s.tracker.pending.head? = some a.id

/-- What the scheduler knows of the request it is working on. -/
def State.Advancing (s : State Tid R) : Prop :=
  match s.scheduler with
  | .idle | .finished => True
  | .begun record _ => ∀ r, record = some r → ∃ a, s.Current a ∧ r.Names a
  | .clearing _ _ request _ =>
      s.queue.waiting.head? = some request.admission ∧ s.Current request.admission
  | .transmitting _ current _ request _ _ =>
      s.queue.waiting.head? = some request.admission ∧ s.Current request.admission ∧
        ∃ r, current = some r ∧ r.Names request.admission
  | .observed record observation advanced =>
      terminalState observation.requestState = true →
        ∃ a, s.Ending observation advanced a ∧
          (observation.requestState = some .timedOut → ∃ r, record = some r ∧ r.Names a)
  | .reported observation advanced =>
      terminalState observation.requestState = true → ∃ a, s.Ending observation advanced a

structure Consistent (s : State Tid R) : Prop where
  sorted : (s.live.map Admission.id).Pairwise (· < ·)
  fresh : ∀ a ∈ s.live, a.id < s.queue.nextRequestId
  distinct : ∀ t t' receipt body body', s.client t = .admitted receipt body →
    s.client t' = .admitted receipt body' → t = t'
  split : ∃ added late, Split s added late
  advancing : s.Advancing

/-- The order of steps in which events name their requests: bodies are added in
the order of admission, and an observation that began with nothing in the tracker
leaves the queue's head where it is. -/
def InOrder (s : State Tid R) : Event Tid → Prop
  | .added _ requestId => ∀ t receipt body, s.client t = .admitted receipt body →
      requestId ≤ receipt.requestId
  | .advancing now source => ∀ raw, s.scheduler = .begun none raw →
      s.queue.KeepsHead now raw source
  | _ => True

/-- The event names the request that the queue is advancing. -/
def Event.Named : Event Tid → Prop
  | .published _ record advanced =>
      ∃ r a, record = some r ∧ advanced = some a ∧ r.Names a
  | _ => True

/-- The request id that a terminal event carries. -/
def Event.ended : Event Tid → Option ℕ
  | .published event record _ =>
      if event.terminal then record.map TrackedTXRequest.requestId else none
  | _ => none

/-! ### The clients' steps -/

variable {s s' : State Tid R}

theorem Split.of_eq {added late : List Admission} (h : Split s added late)
    (hlive : s'.live = s.live) (hclient : s'.client = s.client)
    (hpending : s'.tracker.pending = s.tracker.pending)
    (hrecords : s'.tracker.records = s.tracker.records) : Split s' added late where
  live := hlive.trans h.live
  pending := hpending.trans h.pending
  records := by
    rw [hrecords]
    exact h.records
  holder := by
    rw [hclient]
    exact h.holder
  held := by
    rw [hclient]
    exact h.held

theorem head?_append_some {α : Type} {l : List α} {x : α} (h : l.head? = some x)
    (l' : List α) : (l ++ l').head? = some x := by
  rw [List.head?_append, h]
  rfl

/-- Requests that join at the end do not change what the scheduler works on. -/
theorem State.Current.append {a : Admission} (h : s.Current a) {more : List Admission}
    {ids : List ℕ} (hlive : s'.live = s.live ++ more)
    (hpending : s'.tracker.pending = s.tracker.pending ++ ids)
    (hcurrent : s'.tracker.currentId = s.tracker.currentId) : s'.Current a where
  live := by
    rw [hlive]
    exact head?_append_some h.live more
  pending := by
    rw [hpending]
    exact head?_append_some h.pending ids
  currentId := hcurrent.trans h.currentId

theorem State.Current.of_eq {a : Admission} (h : s.Current a) (hlive : s'.live = s.live)
    (htracker : s'.tracker = s.tracker) : s'.Current a where
  live := hlive ▸ h.live
  pending := htracker ▸ h.pending
  currentId := htracker ▸ h.currentId

theorem State.Ending.append {observation : KISSDataQueueObservation R}
    {advanced : Option Admission} {a : Admission} (h : s.Ending observation advanced a)
    {ids : List ℕ} (hpending : s'.tracker.pending = s.tracker.pending ++ ids) :
    s'.Ending observation advanced a where
  advanced := h.advanced
  requestId := h.requestId
  pending := by
    rw [hpending]
    exact head?_append_some h.pending ids

theorem State.Advancing.append (h : s.Advancing) (more : List Admission) (ids : List ℕ)
    (hscheduler : s'.scheduler = s.scheduler)
    (hwaiting : s'.queue.waiting = s.queue.waiting ++ more)
    (hpending : s'.tracker.pending = s.tracker.pending ++ ids)
    (hcurrent : s'.tracker.currentId = s.tracker.currentId) : s'.Advancing := by
  have hlive : s'.live = s.live ++ more := by
    simp only [State.live, State.leaving, hscheduler, hwaiting, List.append_assoc]
  unfold State.Advancing at h ⊢
  rw [hscheduler]
  cases hcase : s.scheduler with
  | idle | finished => trivial
  | begun record raw =>
      rw [hcase] at h
      intro r hr
      obtain ⟨a, ha, hnames⟩ := h r hr
      exact ⟨a, ha.append hlive hpending hcurrent, hnames⟩
  | clearing record now request access =>
      rw [hcase] at h
      refine ⟨?_, h.2.append hlive hpending hcurrent⟩
      rw [hwaiting]
      exact head?_append_some h.1 more
  | transmitting record current now request access dispatched =>
      rw [hcase] at h
      refine ⟨?_, h.2.1.append hlive hpending hcurrent, h.2.2⟩
      rw [hwaiting]
      exact head?_append_some h.1 more
  | observed record observation advanced =>
      rw [hcase] at h
      intro hterminal
      obtain ⟨a, ha, hnames⟩ := h hterminal
      exact ⟨a, ha.append hpending, hnames⟩
  | reported observation advanced =>
      rw [hcase] at h
      intro hterminal
      obtain ⟨a, ha⟩ := h hterminal
      exact ⟨a, ha.append hpending⟩

theorem Consistent.of_live_eq (h : Consistent s) (hlive : s'.live = s.live)
    (hnext : s'.queue.nextRequestId = s.queue.nextRequestId)
    (hclient : s'.client = s.client) (hsplit : ∃ added late, Split s' added late)
    (hadvancing : s'.Advancing) : Consistent s' where
  sorted := by
    rw [hlive]
    exact h.sorted
  fresh := by
    rw [hlive, hnext]
    exact h.fresh
  distinct := by
    rw [hclient]
    exact h.distinct
  split := hsplit
  advancing := hadvancing

/-- A refused body changes nothing the tracker is about. -/
theorem Consistent.rejects (h : Consistent s) {queue : KISSDataAdmissionQueue}
    (hwaiting : queue.waiting = s.queue.waiting)
    (hnext : queue.nextRequestId = s.queue.nextRequestId) :
    Consistent { s with queue } := by
  obtain ⟨added, late, hsplit⟩ := h.split
  have hlive : State.live { s with queue } = s.live := by
    simp only [State.live, State.leaving, hwaiting]
  refine h.of_live_eq hlive hnext rfl ⟨added, late, hsplit.of_eq hlive rfl rfl rfl⟩ ?_
  exact h.advancing.append [] [] rfl (by simp [hwaiting]) (by simp) rfl

section Clients

variable [DecidableEq Tid]

/-- A client whose state is not `admitted` changed to one that is not either. -/
theorem admitted_update {t t' : Tid} {c : ClientState} {receipt : KISSDataRequestReceipt}
    {body : Bytes} (hc : ∀ receipt body, c ≠ .admitted receipt body)
    (h : Function.update s.client t c t' = .admitted receipt body) :
    t' ≠ t ∧ s.client t' = .admitted receipt body := by
  by_cases ht : t' = t
  · rw [ht, Function.update_self] at h
    exact absurd h (hc receipt body)
  · rw [Function.update_of_ne ht] at h
    exact ⟨ht, h⟩

/-- A new request: it is the youngest live one, and its client is to add it. -/
theorem Consistent.enqueues (h : Consistent s) {t : Tid} {a : Admission} {body : Bytes}
    {queue : KISSDataAdmissionQueue} (hidle : s.client t = .idle)
    (hid : a.id = s.queue.nextRequestId) (hframe : a.frameWithFcs = appendFcs body)
    (hwaiting : queue.waiting = s.queue.waiting ++ [a])
    (hnext : queue.nextRequestId = s.queue.nextRequestId + 1) :
    Consistent { s.setClient t (.admitted a.1 body) with queue } := by
  obtain ⟨added, late, hsplit⟩ := h.split
  have hlive : State.live { s.setClient t (.admitted a.1 body) with queue } =
      s.live ++ [a] := by
    simp only [State.live, State.leaving, State.setClient, hwaiting, List.append_assoc]
  have hother : ∀ t' receipt body', s.client t' = .admitted receipt body' → t' ≠ t := by
    rintro t' receipt body' hclient rfl
    rw [hidle] at hclient
    cases hclient
  have hnew : ∀ t' body', s.client t' ≠ .admitted a.1 body' := by
    intro t' body' hclient
    obtain ⟨b, hb, hbreceipt, -⟩ := hsplit.held t' a.1 body' hclient
    have hlt := h.fresh b (by rw [hsplit.live]; exact List.mem_append_right _ hb)
    have heq : b.id = a.id := congrArg KISSDataRequestReceipt.requestId hbreceipt
    omega
  constructor
  · rw [hlive, List.map_append, List.pairwise_append]
    refine ⟨h.sorted, List.pairwise_singleton _ _, ?_⟩
    intro id hmem id' hmem'
    obtain ⟨b, hb, rfl⟩ := List.mem_map.1 hmem
    rw [List.map_singleton, List.mem_singleton] at hmem'
    rw [hmem', hid]
    exact h.fresh b hb
  · intro b hb
    rw [hlive, List.mem_append, List.mem_singleton] at hb
    simp only [hnext]
    rcases hb with hb | rfl
    · exact Nat.lt_succ_of_lt (h.fresh b hb)
    · rw [hid]
      exact Nat.lt_succ_self _
  · intro t₁ t₂ receipt body₁ body₂ h₁ h₂
    simp only [State.setClient, Function.update_apply] at h₁ h₂
    split at h₁ <;> split at h₂
    · next ht₁ ht₂ => rw [ht₁, ht₂]
    · cases h₁
      exact absurd h₂ (hnew _ _)
    · cases h₂
      exact absurd h₁ (hnew _ _)
    · exact h.distinct _ _ _ _ _ h₁ h₂
  · refine ⟨added, late ++ [a], ?_⟩
    constructor
    · rw [hlive, hsplit.live, List.append_assoc]
    · exact hsplit.pending
    · exact hsplit.records
    · intro b hb
      rw [List.mem_append, List.mem_singleton] at hb
      rcases hb with hb | rfl
      · obtain ⟨t', body', hclient⟩ := hsplit.holder b hb
        refine ⟨t', body', ?_⟩
        rw [← hclient]
        exact Function.update_of_ne (hother _ _ _ hclient) _ _
      · exact ⟨t, body, Function.update_self _ _ _⟩
    · intro t' receipt body' hclient
      simp only [State.setClient, Function.update_apply] at hclient
      split at hclient
      · cases hclient
        exact ⟨a, by simp, rfl, hframe⟩
      · obtain ⟨b, hb, hb'⟩ := hsplit.held _ _ _ hclient
        exact ⟨b, List.mem_append_left _ hb, hb'⟩
  · exact h.advancing.append [a] [] rfl hwaiting (by simp [State.setClient]) rfl

theorem Consistent.queued (h : Consistent s) {t : Tid} {record : TrackedTXRequest}
    (hclient : s.client t = .added record) : Consistent (s.setClient t .idle) := by
  obtain ⟨added, late, hsplit⟩ := h.split
  have hidle : ∀ receipt body, ClientState.idle ≠ .admitted receipt body := by
    intro receipt body heq
    cases heq
  constructor
  · exact h.sorted
  · exact h.fresh
  · intro t₁ t₂ receipt body₁ body₂ h₁ h₂
    exact h.distinct _ _ _ _ _ (admitted_update hidle h₁).2 (admitted_update hidle h₂).2
  · refine ⟨added, late, hsplit.live, hsplit.pending, hsplit.records, ?_, ?_⟩
    · intro b hb
      obtain ⟨t', body', hclient'⟩ := hsplit.holder b hb
      have hne : t' ≠ t := by
        rintro rfl
        rw [hclient] at hclient'
        cases hclient'
      refine ⟨t', body', ?_⟩
      rw [← hclient']
      exact Function.update_of_ne hne _ _
    · intro t' receipt body' hclient'
      exact hsplit.held _ _ _ (admitted_update hidle hclient').2
  · exact h.advancing.append [] [] rfl (by simp [State.setClient])
      (by simp [State.setClient]) rfl

omit [DecidableEq Tid] in
/-- The client that was admitted first holds the oldest late request. -/
theorem Split.oldest {added late : List Admission} (hsplit : Split s added late)
    (hlate : (late.map Admission.id).Pairwise (· < ·)) {t : Tid}
    {receipt : KISSDataRequestReceipt} {body : Bytes}
    (hclient : s.client t = .admitted receipt body)
    (hfirst : ∀ t' receipt' body', s.client t' = .admitted receipt' body' →
      receipt.requestId ≤ receipt'.requestId) :
    ∃ a rest, a.1 = receipt ∧ a.frameWithFcs = appendFcs body ∧ late = a :: rest := by
  obtain ⟨a, ha, hreceipt, hframe⟩ := hsplit.held _ _ _ hclient
  cases late with
  | nil => cases ha
  | cons b rest =>
      rw [List.map_cons, List.pairwise_cons] at hlate
      rcases List.mem_cons.1 ha with rfl | hmem
      · exact ⟨a, rest, hreceipt, hframe, rfl⟩
      · -- the first of them has a holder too, so it is not older than `a`
        obtain ⟨t', body', hholder⟩ := hsplit.holder b List.mem_cons_self
        have hle : receipt.requestId ≤ b.id := hfirst _ _ _ hholder
        have hlt := hlate.1 a.id (List.mem_map_of_mem hmem)
        have hid : a.id = receipt.requestId :=
          congrArg KISSDataRequestReceipt.requestId hreceipt
        omega

/-- The oldest late request joins the tracker's list. -/
theorem Consistent.adds (h : Consistent s) {t : Tid} {receipt : KISSDataRequestReceipt}
    {body : Bytes} (hclient : s.client t = .admitted receipt body)
    (hfirst : ∀ t' receipt' body', s.client t' = .admitted receipt' body' →
      receipt.requestId ≤ receipt'.requestId) :
    Consistent { s.setClient t (.added (TXRequestTracker.record receipt body)) with
      tracker := s.tracker.add receipt body } := by
  obtain ⟨added, late, hsplit⟩ := h.split
  have hadded : ∀ receipt' body',
      ClientState.added (TXRequestTracker.record receipt body) ≠ .admitted receipt' body' := by
    intro receipt' body' heq
    cases heq
  have hsorted := h.sorted
  rw [hsplit.live, List.map_append, List.pairwise_append] at hsorted
  obtain ⟨-, hlate, hcross⟩ := hsorted
  obtain ⟨a, rest, rfl, hframe, rfl⟩ := hsplit.oldest hlate hclient hfirst
  rw [List.map_cons, List.pairwise_cons] at hlate
  have hrest : ∀ b ∈ rest, b.1 ≠ a.1 := by
    intro b hb heq
    have hlt := hlate.1 b.id (List.mem_map_of_mem hb)
    have hid : b.id = a.id := congrArg KISSDataRequestReceipt.requestId heq
    omega
  constructor
  · exact h.sorted
  · exact h.fresh
  · intro t₁ t₂ receipt body₁ body₂ h₁ h₂
    exact h.distinct _ _ _ _ _ (admitted_update hadded h₁).2 (admitted_update hadded h₂).2
  · refine ⟨added ++ [a], rest, ?_, ?_, ?_, ?_, ?_⟩
    · rw [List.append_assoc, List.singleton_append]
      exact hsplit.live
    · rw [List.map_append, List.map_singleton, ← hsplit.pending]
      rfl
    · intro b hb
      rw [List.mem_append, List.mem_singleton] at hb
      rcases hb with hb | rfl
      · have hlt := hcross b.id (List.mem_map_of_mem hb) a.id
          (List.mem_map_of_mem List.mem_cons_self)
        obtain ⟨record, hrecord, hnames⟩ := hsplit.records b hb
        refine ⟨record, ?_, hnames⟩
        rw [← hrecord]
        exact Function.update_of_ne (Nat.ne_of_lt hlt) _ _
      · exact ⟨_, Function.update_self _ _ _, body, none, hframe, rfl⟩
    · intro b hb
      obtain ⟨t', body', hholder⟩ := hsplit.holder b (List.mem_cons_of_mem a hb)
      have hne : t' ≠ t := by
        rintro rfl
        rw [hclient] at hholder
        exact hrest b hb (ClientState.admitted.inj hholder).1.symm
      refine ⟨t', body', ?_⟩
      rw [← hholder]
      exact Function.update_of_ne hne _ _
    · intro t' receipt' body' hclient'
      obtain ⟨hne, hold⟩ := admitted_update hadded hclient'
      obtain ⟨b, hb, rfl, hframe'⟩ := hsplit.held _ _ _ hold
      rcases List.mem_cons.1 hb with rfl | hb
      · exact absurd (h.distinct _ _ _ _ _ hold hclient) hne
      · exact ⟨b, hb, rfl, hframe'⟩
  · exact h.advancing.append [] [a.1.requestId] rfl (by simp [State.setClient]) rfl rfl

end Clients

/-! ### The scheduler's steps -/

/-- The tracker's record of the current request names it. -/
theorem Consistent.current (h : Consistent s) {a : Admission} (ha : s.Current a) :
    ∃ record, s.tracker.current = some record ∧ record.Names a := by
  obtain ⟨added, late, hsplit⟩ := h.split
  have hmem : a ∈ added := by
    have hpending := ha.pending
    have hlive := ha.live
    rw [hsplit.pending] at hpending
    rw [hsplit.live] at hlive
    cases added with
    | nil => cases hpending
    | cons b rest =>
        rw [List.cons_append, List.head?_cons, Option.some.injEq] at hlive
        rw [hlive]
        exact List.mem_cons_self
  obtain ⟨record, hrecord, hnames⟩ := hsplit.records a hmem
  refine ⟨record, ?_, hnames⟩
  rw [TXRequestTracker.current, ha.currentId, Option.bind_some, hrecord]

/-- A step of the scheduler that leaves the tracker's list and the live requests
as they are. -/
theorem Consistent.advance (h : Consistent s) {queue : KISSDataAdmissionQueue}
    {scheduler : SchedulerState R} (hlive : State.live { s with queue, scheduler } = s.live)
    (hnext : queue.nextRequestId = s.queue.nextRequestId)
    (hadvancing : State.Advancing { s with queue, scheduler }) :
    Consistent { s with queue, scheduler } := by
  obtain ⟨added, late, hsplit⟩ := h.split
  exact h.of_live_eq hlive hnext rfl ⟨added, late, hsplit.of_eq hlive rfl rfl rfl⟩ hadvancing

theorem Consistent.begins (h : Consistent s) (hidle : s.scheduler = .idle) {raw : ℤ}
    {tracker : TXRequestTracker} {record : Option TrackedTXRequest}
    (hbegin : s.tracker.beginObservation raw = .ok (tracker, record)) :
    Consistent ({ s with tracker, scheduler := .begun record raw } : State Tid R) := by
  obtain ⟨added, late, hsplit⟩ := h.split
  have hlive : ∀ tracker record,
      State.live ({ s with tracker, scheduler := .begun record raw } : State Tid R) =
        s.live := by
    intro tracker record
    simp only [State.live, State.leaving, hidle]
  unfold TXRequestTracker.beginObservation at hbegin
  cases added with
  | nil =>
      rw [hsplit.pending] at hbegin
      cases hbegin
      refine h.of_live_eq (hlive _ _) rfl rfl
        ⟨[], late, hsplit.of_eq (hlive _ _) rfl hsplit.pending.symm rfl⟩ ?_
      intro r hr
      cases hr
  | cons a rest =>
      obtain ⟨old, hold, hnames⟩ := hsplit.records a List.mem_cons_self
      simp only [hsplit.pending, List.map_cons, hold] at hbegin
      cases hbegin
      refine h.of_live_eq (hlive _ _) rfl rfl ⟨a :: rest, late,
        (hlive _ _).trans hsplit.live, rfl, ?_, hsplit.holder, hsplit.held⟩ ?_
      · intro b hb
        simp only [Function.update_apply]
        split
        · next hid =>
            -- the only live request with this id is `a`
            have hba : b = a := by
              rcases List.mem_cons.1 hb with rfl | hb
              · rfl
              · have hsorted := h.sorted
                rw [hsplit.live, List.cons_append, List.map_cons, List.pairwise_cons]
                  at hsorted
                have hlt := hsorted.1 b.id
                  (List.mem_map_of_mem (List.mem_append_left late hb))
                omega
            exact ⟨_, rfl, hba ▸ hnames.withRssi raw⟩
        · exact hsplit.records b hb
      · intro r hr
        cases hr
        refine ⟨a, ⟨?_, ?_, rfl⟩, hnames.withRssi raw⟩
        · rw [hlive, hsplit.live]
          rfl
        · rfl

theorem State.live_of_begun {record : Option TrackedTXRequest} {raw : ℤ}
    (h : s.scheduler = .begun record raw) : s.live = s.queue.waiting := by
  simp only [State.live, State.leaving, h, List.nil_append]

/-- An observation that does more than wait began with the head's record. -/
theorem Consistent.begun_named (h : Consistent s) {record : Option TrackedTXRequest}
    {raw : ℤ} {now : ℚ} {source : RandomByteSource}
    (hbegun : s.scheduler = .begun record raw)
    (hguard : InOrder s (.advancing now source : Event Tid))
    (hends : ¬ s.queue.KeepsHead now raw source) :
    ∃ r a, record = some r ∧ s.Current a ∧ r.Names a ∧ s.queue.waiting.head? = some a := by
  have hadvancing := h.advancing
  rw [State.Advancing, hbegun] at hadvancing
  cases record with
  | none => exact absurd (hguard raw hbegun) hends
  | some r =>
      obtain ⟨a, ha, hnames⟩ := hadvancing r rfl
      refine ⟨r, a, rfl, ha, hnames, ?_⟩
      rw [← State.live_of_begun hbegun]
      exact ha.live

theorem Consistent.observes (h : Consistent s) {record : Option TrackedTXRequest}
    {raw : ℤ} {now : ℚ} {source : RandomByteSource} {queue : KISSDataAdmissionQueue}
    {observation : KISSDataQueueObservation R} (hbegun : s.scheduler = .begun record raw)
    (hguard : InOrder s (.advancing now source : Event Tid))
    (hprepare : s.queue.Prepares now raw source queue (.done (.ok observation))) :
    Consistent ({ s with
      queue, scheduler := .observed record observation s.queue.waiting.head? } :
      State Tid R) := by
  have hnext := s.queue.nextRequestId_prepare hprepare
  rcases s.queue.waiting_prepare_ok hprepare with ⟨hwaiting, hstate⟩ |
    ⟨a, hwaiting, hstate, hid, hends⟩
  · refine h.advance ?_ hnext ?_
    · rw [State.live_of_begun hbegun]
      simp only [State.live, State.leaving, hstate, hwaiting, Bool.false_eq_true, if_false,
        List.nil_append]
    · intro hterminal
      rw [hstate] at hterminal
      cases hterminal
  · obtain ⟨r, a', rfl, ha, hnames, hhead⟩ := h.begun_named hbegun hguard hends
    rw [hwaiting, List.head?_cons, Option.some.injEq] at hhead
    subst hhead
    refine h.advance ?_ hnext ?_
    · rw [State.live_of_begun hbegun, hwaiting]
      simp only [State.live, State.leaving, hstate, terminalState, if_true, List.head?_cons,
        Option.toList_some, List.singleton_append]
    · intro hterminal
      refine ⟨a, ⟨?_, hid, ha.pending⟩, fun _ => ⟨r, rfl, hnames⟩⟩
      rw [hwaiting, List.head?_cons]

theorem Consistent.observeRaises (h : Consistent s) {record : Option TrackedTXRequest}
    {raw : ℤ} {now : ℚ} {source : RandomByteSource} {queue : KISSDataAdmissionQueue}
    {e : PyError} (hbegun : s.scheduler = .begun record raw)
    (hprepare : s.queue.Prepares (R := R) now raw source queue (.done (.error e))) :
    Consistent ({ s with queue, scheduler := .finished } : State Tid R) := by
  refine h.advance ?_ (s.queue.nextRequestId_prepare hprepare) trivial
  rw [State.live_of_begun hbegun]
  exact s.queue.waiting_prepare_error hprepare

theorem Consistent.submits (h : Consistent s) {record : Option TrackedTXRequest}
    {raw : ℤ} {now now' : ℚ} {source : RandomByteSource} {queue : KISSDataAdmissionQueue}
    {request : Request} {access : ChannelAccessObservation}
    (hbegun : s.scheduler = .begun record raw)
    (hguard : InOrder s (.advancing now source : Event Tid))
    (hprepare : s.queue.Prepares (R := R) now raw source queue
      (.submit now' request access)) :
    Consistent ({ s with queue, scheduler := .clearing record now' request access } :
      State Tid R) := by
  obtain ⟨hwaiting, hends⟩ := s.queue.waiting_prepare_submit hprepare
  obtain ⟨rest, hqueue⟩ := hprepare.submit_head
  obtain ⟨r, a, rfl, ha, hnames, hhead⟩ := h.begun_named hbegun hguard hends
  have hrequest : queue.waiting.head? = some request.admission := by
    simp only [KISSDataAdmissionQueue.waiting, hqueue, List.map_cons, List.head?_cons]
  have heq : a = request.admission := by
    rw [hwaiting, hhead] at hrequest
    exact Option.some.inj hrequest
  subst heq
  have hlive : State.live ({ s with
      queue, scheduler := .clearing (some r) now' request access } : State Tid R) =
      s.live := by
    rw [State.live_of_begun hbegun]
    exact hwaiting
  exact h.advance hlive (s.queue.nextRequestId_prepare hprepare)
    ⟨hrequest, ha.of_eq hlive rfl⟩

theorem Consistent.clears (h : Consistent s) {record : Option TrackedTXRequest} {now : ℚ}
    {request : Request} {access : ChannelAccessObservation}
    (hclearing : s.scheduler = .clearing record now request access) :
    (∃ r, s.tracker.current = some r ∧ r.Names request.admission) ∧
      Consistent ({ s with
        scheduler := .transmitting record s.tracker.current now request access false } :
        State Tid R) := by
  have hadvancing := h.advancing
  rw [State.Advancing, hclearing] at hadvancing
  have hcurrent := h.current hadvancing.2
  have hlive : State.live ({ s with
      scheduler := .transmitting record s.tracker.current now request access false } :
      State Tid R) = s.live := by
    simp only [State.live, State.leaving, hclearing]
  exact ⟨hcurrent, h.advance hlive rfl
    ⟨hadvancing.1, hadvancing.2.of_eq hlive rfl, hcurrent⟩⟩

/-- What holds while the request is transmitted. -/
theorem Consistent.transmitting (h : Consistent s) {record current : Option TrackedTXRequest}
    {now : ℚ} {request : Request} {access : ChannelAccessObservation} {dispatched : Bool}
    (htransmitting :
      s.scheduler = .transmitting record current now request access dispatched) :
    s.queue.waiting.head? = some request.admission ∧ s.Current request.admission ∧
      ∃ r, current = some r ∧ r.Names request.admission := by
  have hadvancing := h.advancing
  rw [State.Advancing, htransmitting] at hadvancing
  exact hadvancing

theorem Consistent.dispatches (h : Consistent s) {record current : Option TrackedTXRequest}
    {now : ℚ} {request : Request} {access : ChannelAccessObservation}
    (htransmitting : s.scheduler = .transmitting record current now request access false) :
    Consistent ({ s with
      scheduler := .transmitting record current now request access true } :
      State Tid R) := by
  obtain ⟨hhead, ha, hnames⟩ := h.transmitting htransmitting
  have hlive : State.live ({ s with
      scheduler := .transmitting record current now request access true } :
      State Tid R) = s.live := by
    simp only [State.live, State.leaving, htransmitting]
  exact h.advance hlive rfl ⟨hhead, ha.of_eq hlive rfl, hnames⟩

/-- The request left the queue, with success or without. -/
theorem Consistent.ends (h : Consistent s) {record current : Option TrackedTXRequest}
    {now : ℚ} {request : Request} {access : ChannelAccessObservation} {dispatched : Bool}
    (htransmitting :
      s.scheduler = .transmitting record current now request access dispatched)
    (result : Except PyError R) :
    Consistent ({ s with
      queue := (s.queue.finish now request access result).1
      scheduler := .observed record (s.queue.finish now request access result).2
        (some request.admission) } : State Tid R) := by
  obtain ⟨hhead, ha, -⟩ := h.transmitting htransmitting
  obtain ⟨hwaiting, hnext⟩ := s.queue.finish_eq now request access result
  have hstate : terminalState (s.queue.finish now request access result).2.requestState =
      true ∧ (s.queue.finish now request access result).2.requestState ≠ some .timedOut ∧
      (s.queue.finish now request access result).2.requestId = some request.admission.id := by
    cases result with
    | error e => exact ⟨rfl, by simp [KISSDataAdmissionQueue.finish,
        KISSDataAdmissionQueue.report], rfl⟩
    | ok result => exact ⟨rfl, by simp [KISSDataAdmissionQueue.finish,
        KISSDataAdmissionQueue.report], rfl⟩
  obtain ⟨hterminal, hother, hid⟩ := hstate
  refine h.advance ?_ hnext ?_
  · have hlive : s.live = s.queue.waiting := by
      simp only [State.live, State.leaving, htransmitting, List.nil_append]
    rw [hlive]
    simp only [State.live, State.leaving, hterminal, if_true, Option.toList_some,
      List.singleton_append, hwaiting]
    exact List.cons_head?_tail hhead
  · intro hterminal
    exact ⟨request.admission, ⟨rfl, hid, ha.pending⟩, fun htimedOut =>
      absurd htimedOut hother⟩

theorem Consistent.reports (h : Consistent s) {record : Option TrackedTXRequest}
    {observation : KISSDataQueueObservation R} {advanced : Option Admission}
    (hobserved : s.scheduler = .observed record observation advanced) :
    Consistent { s with scheduler := .reported observation advanced } := by
  have hadvancing := h.advancing
  rw [State.Advancing, hobserved] at hadvancing
  refine h.advance ?_ rfl ?_
  · simp only [State.live, State.leaving, hobserved]
  · intro hterminal
    obtain ⟨a, ha, -⟩ := hadvancing hterminal
    exact ⟨a, ha.advanced, ha.requestId, ha.pending⟩

/-- The record of a request that timed out names it. -/
theorem Consistent.timedOut (h : Consistent s) {record : Option TrackedTXRequest}
    {observation : KISSDataQueueObservation R} {advanced : Option Admission}
    (hobserved : s.scheduler = .observed record observation advanced)
    (hstate : observation.requestState = some .timedOut) :
    ∃ r a, record = some r ∧ advanced = some a ∧ r.Names a := by
  have hadvancing := h.advancing
  rw [State.Advancing, hobserved] at hadvancing
  obtain ⟨a, ha, hnames⟩ := hadvancing (by rw [hstate]; rfl)
  obtain ⟨r, hr, hnames⟩ := hnames hstate
  exact ⟨r, a, hr, ha.advanced, hnames⟩

theorem Consistent.clearCurrent (h : Consistent s) (hfinished : s.scheduler = .finished) :
    Consistent ({ s with tracker := s.tracker.clearCurrent, scheduler := .idle } :
      State Tid R) := by
  obtain ⟨added, late, hsplit⟩ := h.split
  have hlive : State.live ({ s with
      tracker := s.tracker.clearCurrent, scheduler := .idle } : State Tid R) = s.live := by
    simp only [State.live, State.leaving, hfinished]
  exact h.of_live_eq hlive rfl rfl ⟨added, late, hsplit.of_eq hlive rfl rfl rfl⟩ trivial

/-- The tracker forgets a request that has ended. -/
theorem Consistent.finishes (h : Consistent s) {observation : KISSDataQueueObservation R}
    {advanced : Option Admission} (hreported : s.scheduler = .reported observation advanced) :
    Consistent ({ s with
      tracker :=
        if terminalState observation.requestState then
          s.tracker.finish observation.requestId
        else s.tracker
      scheduler := .finished } : State Tid R) := by
  obtain ⟨added, late, hsplit⟩ := h.split
  have hadvancing := h.advancing
  rw [State.Advancing, hreported] at hadvancing
  cases hterminal : terminalState observation.requestState with
  | false =>
      have hlive : State.live ({ s with
          tracker := if false then s.tracker.finish observation.requestId else s.tracker
          scheduler := .finished } : State Tid R) = s.live := by
        simp only [State.live, State.leaving, hreported, hterminal, Bool.false_eq_true,
          if_false]
      exact h.of_live_eq hlive rfl rfl ⟨added, late, hsplit.of_eq hlive rfl rfl rfl⟩ trivial
  | true =>
      obtain ⟨a, rfl, hid, hpending⟩ := hadvancing hterminal
      have hlive : s.live = a :: s.queue.waiting := by
        simp only [State.live, State.leaving, hreported, hterminal, if_true,
          Option.toList_some, List.singleton_append]
      have hsorted := h.sorted
      rw [hlive, List.map_cons, List.pairwise_cons] at hsorted
      obtain ⟨rest, rfl⟩ : ∃ rest, added = a :: rest := by
        have hsplitLive := hsplit.live
        rw [hlive] at hsplitLive
        rw [hsplit.pending] at hpending
        cases added with
        | nil => cases hpending
        | cons b rest => exact ⟨rest, by rw [(List.cons.inj hsplitLive).1]⟩
      have hrest : s.queue.waiting = rest ++ late := by
        have hsplitLive := hsplit.live
        rw [hlive] at hsplitLive
        exact (List.cons.inj hsplitLive).2
      rw [if_pos rfl, hid]
      constructor
      · exact hsorted.2
      · intro b hb
        refine h.fresh b ?_
        rw [hlive]
        exact List.mem_cons_of_mem a hb
      · exact h.distinct
      · refine ⟨rest, late, hrest, ?_, ?_, hsplit.holder, hsplit.held⟩
        · simp only [TXRequestTracker.finish, hsplit.pending, List.map_cons,
            List.erase_cons_head]
        · intro b hb
          have hlt := hsorted.1 b.id
            (List.mem_map_of_mem (hrest ▸ List.mem_append_left late hb))
          obtain ⟨record, hrecord, hnames⟩ := hsplit.records b (List.mem_cons_of_mem a hb)
          refine ⟨record, ?_, hnames⟩
          rw [← hrecord]
          exact Function.update_of_ne (Nat.ne_of_gt hlt) _ _
      · trivial

/-! ### Terminal events -/

/-- The requests whose terminal event is still to come. -/
def State.unresolved (s : State Tid R) : List Admission :=
  (match s.scheduler with
    | .observed _ observation advanced =>
        if observation.requestState = some .timedOut then advanced.toList else []
    | _ => []) ++ s.queue.waiting

/-- A terminal event with this id may still come. -/
def State.Open (s : State Tid R) (id : ℕ) : Prop :=
  (∃ a ∈ s.unresolved, a.id = id) ∨ s.queue.nextRequestId ≤ id

theorem State.Open.of_eq {id : ℕ} (h : s'.Open id) (hunresolved : s'.unresolved = s.unresolved)
    (hnext : s'.queue.nextRequestId = s.queue.nextRequestId) : s.Open id := by
  rw [State.Open, hunresolved, hnext] at h
  exact h

/-- A request that is admitted takes the next id, which was open. -/
theorem State.Open.of_admitted {id : ℕ} {a : Admission} (h : s'.Open id)
    (hid : a.id = s.queue.nextRequestId) (hunresolved : s'.unresolved = s.unresolved ++ [a])
    (hnext : s'.queue.nextRequestId = s.queue.nextRequestId + 1) : s.Open id := by
  rcases h with ⟨b, hb, rfl⟩ | hle
  · rw [hunresolved, List.mem_append, List.mem_singleton] at hb
    rcases hb with hb | rfl
    · exact .inl ⟨b, hb, rfl⟩
    · exact .inr (Nat.le_of_eq hid.symm)
  · rw [hnext] at hle
    exact .inr (Nat.le_of_succ_le hle)

/-- A request that times out is out of the queue, but not resolved before its report. -/
theorem State.unresolved_observe {record : Option TrackedTXRequest} {raw : ℤ} {now : ℚ}
    {source : RandomByteSource} {queue : KISSDataAdmissionQueue}
    {observation : KISSDataQueueObservation R}
    (hbegun : s.scheduler = .begun record raw)
    (hexit : s.queue.Prepares now raw source queue (.done (.ok observation))) :
    State.unresolved { s with
      queue, scheduler := .observed record observation s.queue.waiting.head? } = s.unresolved := by
  rcases s.queue.waiting_prepare_ok hexit with ⟨hwaiting, hstate⟩ | ⟨a, hwaiting, hstate, -⟩
  · have hother : observation.requestState ≠ some .timedOut := by
      intro htimedOut
      rw [htimedOut] at hstate
      cases hstate
    simp only [State.unresolved, hbegun, hother, if_false, hwaiting]
  · simp only [State.unresolved, hbegun, hstate, if_true, hwaiting, List.head?_cons,
      Option.toList_some, List.singleton_append, List.nil_append]

/-- The terminal event of the oldest live request has been published. -/
theorem Consistent.closed (h : Consistent s) {a : Admission}
    (hunresolved : s.unresolved = a :: s'.unresolved)
    (hlive : s.live = a :: s'.unresolved)
    (hnext : s'.queue.nextRequestId = s.queue.nextRequestId) :
    (∀ id, s'.Open id → s.Open id) ∧ s.Open a.id ∧ ¬ s'.Open a.id := by
  refine ⟨?_, .inl ⟨a, ?_, rfl⟩, ?_⟩
  · rintro id (⟨b, hb, hid⟩ | hle)
    · refine .inl ⟨b, ?_, hid⟩
      rw [hunresolved]
      exact List.mem_cons_of_mem a hb
    · rw [hnext] at hle
      exact .inr hle
  · rw [hunresolved]
    exact List.mem_cons_self
  · have hsorted := h.sorted
    rw [hlive, List.map_cons, List.pairwise_cons] at hsorted
    have hfresh := h.fresh a (by rw [hlive]; exact List.mem_cons_self)
    rintro (⟨b, hb, hid⟩ | hle)
    · have hlt := hsorted.1 b.id (List.mem_map_of_mem hb)
      omega
    · omega

theorem Event.ended_published {event : TXEvent} {r : TrackedTXRequest} {a : Admission}
    (hterminal : event.terminal = true) (hnames : r.Names a) (advanced : Option Admission) :
    (Event.published event (some r) advanced : Event Tid).ended = some a.id := by
  rw [Event.ended, if_pos hterminal, Option.map_some, hnames.requestId]

/-- A transmission closes its request when it ends. -/
theorem Consistent.closed_ends (h : Consistent s) {record current : Option TrackedTXRequest}
    {now : ℚ} {request : Request} {access : ChannelAccessObservation} {dispatched : Bool}
    (htransmitting :
      s.scheduler = .transmitting record current now request access dispatched)
    {event : TXEvent} (hterminal : event.terminal = true)
    (hunresolved : s'.unresolved = s.queue.waiting.tail)
    (hnext : s'.queue.nextRequestId = s.queue.nextRequestId) :
    (∀ id, s'.Open id → s.Open id) ∧ ∀ id,
      (Event.published event current (some request.admission) : Event Tid).ended = some id →
        s.Open id ∧ ¬ s'.Open id := by
  obtain ⟨hhead, ha, r, rfl, hnames⟩ := h.transmitting htransmitting
  have hwaiting : s.queue.waiting = request.admission :: s'.unresolved := by
    rw [hunresolved]
    exact (List.cons_head?_tail hhead).symm
  obtain ⟨hkeeps, hclosed⟩ := h.closed (a := request.admission)
    (by simp only [State.unresolved, htransmitting, List.nil_append]; exact hwaiting)
    (by simp only [State.live, State.leaving, htransmitting, List.nil_append, hwaiting])
    hnext
  refine ⟨hkeeps, fun id hended => ?_⟩
  rw [Event.ended_published hterminal hnames, Option.some.injEq] at hended
  rw [← hended]
  exact hclosed

/-- The report of a time-out closes its request. -/
theorem Consistent.closed_reports (h : Consistent s) {record : Option TrackedTXRequest}
    {observation : KISSDataQueueObservation R} {advanced : Option Admission}
    (hobserved : s.scheduler = .observed record observation advanced)
    (hstate : observation.requestState = some .timedOut)
    (hunresolved : s'.unresolved = s.queue.waiting)
    (hnext : s'.queue.nextRequestId = s.queue.nextRequestId) :
    (∀ id, s'.Open id → s.Open id) ∧ ∀ id,
      (Event.published .timeout record advanced : Event Tid).ended = some id →
        s.Open id ∧ ¬ s'.Open id := by
  obtain ⟨r, a, rfl, rfl, hnames⟩ := h.timedOut hobserved hstate
  have hboth : s.unresolved = a :: s'.unresolved ∧ s.live = a :: s'.unresolved := by
    rw [hunresolved]
    simp only [State.unresolved, State.live, State.leaving, hobserved, hstate, terminalState,
      if_true, Option.toList_some, List.singleton_append, and_self]
  obtain ⟨hkeeps, hclosed⟩ := h.closed hboth.1 hboth.2 hnext
  refine ⟨hkeeps, fun id hended => ?_⟩
  rw [Event.ended_published rfl hnames, Option.some.injEq] at hended
  rw [← hended]
  exact hclosed

/-! ### Runs -/

variable [DecidableEq Tid]

/-- A step in order keeps the tracker consistent, and its event names the request
that the queue is advancing. -/
theorem Consistent.step (h : Consistent s) {e : Event Tid} (hstep : Step s e s')
    (hguard : InOrder s e) : Consistent s' ∧ e.Named := by
  cases hstep with
  | @enqueues t frameNoFcs context now queue receipt hidle hfree henqueue =>
      have hexit := s.queue.enqueue_enqueues frameNoFcs context now
      rw [henqueue] at hexit
      obtain ⟨a, rfl, hid, hframe, hwaiting, hnext⟩ :=
        KISSDataAdmissionQueue.waiting_enqueue_ok hexit
      exact ⟨h.enqueues hidle hid hframe hwaiting hnext, trivial⟩
  | @reject t frameNoFcs context now queue e hidle hfree henqueue =>
      have hexit := s.queue.enqueue_enqueues frameNoFcs context now
      rw [henqueue] at hexit
      obtain ⟨hwaiting, hnext⟩ := KISSDataAdmissionQueue.waiting_enqueue_error hexit
      exact ⟨h.rejects hwaiting hnext, trivial⟩
  | add hclient => exact ⟨h.adds hclient hguard, trivial⟩
  | queued hclient => exact ⟨h.queued hclient, trivial⟩
  | begin hidle hbegin => exact ⟨h.begins hidle hbegin, trivial⟩
  | beginFails hidle hbegin => exact ⟨h, trivial⟩
  | @observe record raw now source queue observation hbegun hprepare =>
      have hexit := s.queue.prepare_prepares (R := R) now raw source
      rw [hprepare] at hexit
      exact ⟨h.observes hbegun hguard hexit, trivial⟩
  | @observeRaises record raw now source queue e hbegun hprepare =>
      have hexit := s.queue.prepare_prepares (R := R) now raw source
      rw [hprepare] at hexit
      exact ⟨h.observeRaises hbegun hexit, trivial⟩
  | @submit record raw now now' source queue request access hbegun hprepare =>
      have hexit := s.queue.prepare_prepares (R := R) now raw source
      rw [hprepare] at hexit
      exact ⟨h.submits hbegun hguard hexit, trivial⟩
  | channelClear hclearing =>
      obtain ⟨⟨r, hr, hnames⟩, hnext⟩ := h.clears hclearing
      exact ⟨hnext, r, _, hr, rfl, hnames⟩
  | dispatched htransmitting =>
      obtain ⟨-, ha, -⟩ := h.transmitting htransmitting
      obtain ⟨r, hr, hnames⟩ := h.current ha
      exact ⟨h.dispatches htransmitting, r, _, hr, rfl, hnames⟩
  | complete htransmitting =>
      obtain ⟨-, -, r, hr, hnames⟩ := h.transmitting htransmitting
      exact ⟨h.ends htransmitting _, r, _, hr, rfl, hnames⟩
  | fail htransmitting =>
      obtain ⟨-, -, r, hr, hnames⟩ := h.transmitting htransmitting
      exact ⟨h.ends htransmitting _, r, _, hr, rfl, hnames⟩
  | timeout hobserved hstate =>
      exact ⟨h.reports hobserved, h.timedOut hobserved hstate⟩
  | noTimeout hobserved hstate => exact ⟨h.reports hobserved, trivial⟩
  | finish hreported => exact ⟨h.finishes hreported, trivial⟩
  | clear hfinished => exact ⟨h.clearCurrent hfinished, trivial⟩

/-- No step opens an id again, and a terminal event closes its own. -/
theorem Consistent.open_step (h : Consistent s) {e : Event Tid} (hstep : Step s e s')
    (hguard : InOrder s e) :
    (∀ id, s'.Open id → s.Open id) ∧
      ∀ id, e.ended = some id → s.Open id ∧ ¬ s'.Open id := by
  have hquiet : ∀ {s'' : State Tid R}, s''.unresolved = s.unresolved →
      s''.queue.nextRequestId = s.queue.nextRequestId → e.ended = none →
      (∀ id, s''.Open id → s.Open id) ∧
        ∀ id, e.ended = some id → s.Open id ∧ ¬ s''.Open id := by
    intro s'' hunresolved hnext hended
    refine ⟨fun id hopen => hopen.of_eq hunresolved hnext, ?_⟩
    intro id hid
    rw [hended] at hid
    cases hid
  cases hstep with
  | @enqueues t frameNoFcs context now queue receipt hidle hfree henqueue =>
      have hexit := s.queue.enqueue_enqueues frameNoFcs context now
      rw [henqueue] at hexit
      obtain ⟨a, -, hid, hframe, hwaiting, hnext⟩ :=
        KISSDataAdmissionQueue.waiting_enqueue_ok hexit
      have hunresolved : State.unresolved
          { s.setClient t (.admitted receipt frameNoFcs) with queue } =
          s.unresolved ++ [a] := by
        simp only [State.unresolved, State.setClient, hwaiting, List.append_assoc]
      refine ⟨fun id hopen => ?_, fun id hended => nomatch hended⟩
      exact hopen.of_admitted hid hunresolved hnext
  | @reject t frameNoFcs context now queue e hidle hfree henqueue =>
      have hexit := s.queue.enqueue_enqueues frameNoFcs context now
      rw [henqueue] at hexit
      obtain ⟨hwaiting, hnext⟩ := KISSDataAdmissionQueue.waiting_enqueue_error hexit
      refine hquiet ?_ hnext rfl
      simp only [State.unresolved, hwaiting]
  | add | queued | beginFails => exact hquiet rfl rfl rfl
  | begin hidle =>
      refine hquiet ?_ rfl rfl
      simp only [State.unresolved, hidle]
  | @observe record raw now source queue observation hbegun hprepare =>
      have hexit := s.queue.prepare_prepares (R := R) now raw source
      rw [hprepare] at hexit
      exact hquiet (State.unresolved_observe hbegun hexit)
        (s.queue.nextRequestId_prepare hexit) rfl
  | @observeRaises record raw now source queue e hbegun hprepare =>
      have hexit := s.queue.prepare_prepares (R := R) now raw source
      rw [hprepare] at hexit
      refine hquiet ?_ (s.queue.nextRequestId_prepare hexit) rfl
      simp only [State.unresolved, hbegun, s.queue.waiting_prepare_error hexit]
  | @submit record raw now now' source queue request access hbegun hprepare =>
      have hexit := s.queue.prepare_prepares (R := R) now raw source
      rw [hprepare] at hexit
      refine hquiet ?_ (s.queue.nextRequestId_prepare hexit) rfl
      simp only [State.unresolved, hbegun, (s.queue.waiting_prepare_submit hexit).1]
  | channelClear hclearing =>
      refine hquiet ?_ rfl rfl
      simp only [State.unresolved, hclearing]
  | dispatched htransmitting =>
      refine hquiet ?_ rfl rfl
      simp only [State.unresolved, htransmitting]
  | complete htransmitting =>
      exact h.closed_ends htransmitting rfl (s.queue.finish_eq _ _ _ _).1
        (s.queue.finish_eq _ _ _ _).2
  | fail htransmitting =>
      exact h.closed_ends htransmitting rfl (s.queue.finish_eq _ _ _ _).1
        (s.queue.finish_eq _ _ _ _).2
  | timeout hobserved hstate => exact h.closed_reports hobserved hstate rfl rfl
  | noTimeout hobserved hstate =>
      refine hquiet ?_ rfl rfl
      simp only [State.unresolved, hobserved, hstate, if_false]
  | finish hreported =>
      refine hquiet ?_ rfl rfl
      simp only [State.unresolved, hreported]
  | clear hfinished =>
      refine hquiet ?_ rfl rfl
      simp only [State.unresolved, hfinished]

omit [DecidableEq Tid] in
theorem consistent_init (config : QueueConfig) :
    Consistent (⟨.init config, .init, fun _ => .idle, .idle⟩ : State Tid R) where
  sorted := List.Pairwise.nil
  fresh := by
    intro a ha
    cases ha
  distinct := by
    intro t t' receipt body body' h
    cases h
  split := by
    refine ⟨[], [], rfl, rfl, ?_, ?_, ?_⟩
    · intro a ha
      cases ha
    · intro a ha
      cases ha
    · intro t receipt body h
      cases h
  advancing := trivial

omit [DecidableEq Tid] in
/-- No client is between `enqueue` and `add`, so the tracker has all live requests. -/
theorem Consistent.pending_eq (h : Consistent s) (hidle : ∀ t, s.client t = .idle) :
    s.tracker.pending = (s.leaving ++ s.queue.waiting).map Admission.id := by
  obtain ⟨added, late, hsplit⟩ := h.split
  have hlate : late = [] := by
    cases late with
    | nil => rfl
    | cons a rest =>
        obtain ⟨t, body, hclient⟩ := hsplit.holder a List.mem_cons_self
        rw [hidle t] at hclient
        cases hclient
  have hlive := hsplit.live
  rw [hlate, List.append_nil] at hlive
  rw [hsplit.pending, ← hlive]
  rfl

/-- What the terminal events of a run in order can name. -/
theorem Consistent.run_ended (h : Consistent s) {es : List (Event Tid)} {config : QueueConfig}
    (hrun : ((system Tid R config).restrict InOrder).Run s es s') :
    Consistent s' ∧ (∀ e ∈ es, e.Named) ∧ (∀ id ∈ es.filterMap Event.ended, s.Open id) ∧
      (es.filterMap Event.ended).Nodup := by
  induction hrun with
  | nil s => exact ⟨h, by simp, by simp, List.nodup_nil⟩
  | @cons s s₁ s' e es hstep hrun ih =>
      obtain ⟨hnext, hnamed⟩ := h.step hstep.1 hstep.2
      obtain ⟨hkeeps, hcloses⟩ := h.open_step hstep.1 hstep.2
      obtain ⟨hlast, hall, hopen, hnodup⟩ := ih hnext
      refine ⟨hlast, ?_, ?_⟩
      · intro e' he'
        rcases List.mem_cons.1 he' with rfl | he'
        · exact hnamed
        · exact hall e' he'
      · cases hended : e.ended with
        | none =>
            rw [List.filterMap_cons_none hended]
            exact ⟨fun id hid => hkeeps id (hopen id hid), hnodup⟩
        | some id =>
            obtain ⟨hbefore, hafter⟩ := hcloses id hended
            rw [List.filterMap_cons_some hended]
            refine ⟨?_, List.nodup_cons.2 ⟨fun hid => hafter (hopen id hid), hnodup⟩⟩
            intro id' hid'
            rcases List.mem_cons.1 hid' with rfl | hid'
            · exact hbefore
            · exact hkeeps id' (hopen id' hid')

/-- What a run promises: its events name the requests that the queue advances, no
request ends twice, and once no call of `enqueue` is under way, the tracker has the
ids of the queue, behind that of a request which the observation under way has taken
off the queue. -/
structure NamesRequests (es : List (Event Tid)) (s : State Tid R) : Prop where
  named : ∀ e ∈ es, e.Named
  once : (es.filterMap Event.ended).Nodup
  pending : (∀ t, s.client t = .idle) →
    s.tracker.pending = (s.leaving ++ s.queue.waiting).map Admission.id

theorem run_namesRequests (Tid R : Type) [DecidableEq Tid] (config : QueueConfig)
    (s s' : State Tid R) (es : List (Event Tid)) (hinitial : (system Tid R config).initial s)
    (hrun : ((system Tid R config).restrict InOrder).Run s es s') : NamesRequests es s' := by
  cases hinitial
  obtain ⟨hlast, hnamed, -, hnodup⟩ := (consistent_init config).run_ended hrun
  exact ⟨hnamed, hnodup, hlast.pending_eq⟩

/-- A body is admitted, added and published, and times out. -/
theorem run_namesRequests_timeout :
    ∃ (es : List (Event Unit)) (s : State Unit Unit),
      es.filterMap Event.ended = [1] ∧ NamesRequests es s := by
  let q₀ : KISSDataAdmissionQueue := .init .engine
  let request := q₀.admitted receiveReady .default 0
  let q₁ := q₀.admits receiveReady .default 0
  let record := TXRequestTracker.record request.receipt receiveReady
  let observing := { record with rawRssi := some 0 }
  have haccepts : q₁.Accepts 30 := ⟨by decide +kernel, by decide +kernel⟩
  have hdeadline : request.receipt.deadlineAt ≤ 30 := by decide +kernel
  obtain ⟨reason, hprepare⟩ := q₁.prepare_expired Unit 30 0 none haccepts rfl hdeadline
  have hrun : ((system Unit Unit .engine).restrict InOrder).Run
      ⟨q₀, .init, fun _ => .idle, .idle⟩
      [.admitted () request.receipt, .added () request.receipt.requestId,
        .queued () record, .begun, .advancing 30 none,
        .published .timeout (some observing) (some request.admission), .internal,
        .internal] _ :=
    .cons ⟨.enqueues (t := ()) rfl rfl
      (q₀.enqueue_admits ⟨le_refl 0, le_refl 0⟩ parseFrame_receiveReady (Nat.succ_pos 3)),
      trivial⟩ <|
    .cons ⟨.add rfl, fun t receipt body hclient => by cases hclient; exact le_refl 1⟩ <|
    .cons ⟨.queued rfl, trivial⟩ <|
    .cons ⟨.begin rfl (rfl : TXRequestTracker.beginObservation _ 0 = _), trivial⟩ <|
    .cons ⟨.observe rfl hprepare, fun raw hnone => nomatch hnone⟩ <|
    .cons ⟨.timeout rfl rfl, trivial⟩ <|
    .cons ⟨.finish rfl, trivial⟩ <|
    .cons ⟨.clear rfl, trivial⟩ (.nil _)
  exact ⟨_, _, rfl, run_namesRequests Unit Unit .engine _ _ _ rfl hrun⟩

/-- Two clients have their bodies admitted, and the later one adds first. -/
theorem swapped_ids :
    ¬ ∀ (s s' : State Bool Unit) (es : List (Event Bool)),
      (system Bool Unit .engine).initial s → (system Bool Unit .engine).Run s es s' →
      NamesRequests es s' := by
  intro hclaim
  let q₀ : KISSDataAdmissionQueue := .init .engine
  let first := (q₀.admitted receiveReady .default 0).receipt
  let q₁ := q₀.admits receiveReady .default 0
  let second := (q₁.admitted receiveReady .default 0).receipt
  have hrun : (system Bool Unit .engine).Run
      ⟨q₀, .init, fun _ => .idle, .idle⟩
      [.admitted false first, .admitted true second, .added true second.requestId,
        .added false first.requestId, .queued true (TXRequestTracker.record second receiveReady),
        .queued false (TXRequestTracker.record first receiveReady)] _ :=
    .cons (.enqueues (t := false) rfl rfl
      (q₀.enqueue_admits ⟨le_refl 0, le_refl 0⟩ parseFrame_receiveReady (Nat.succ_pos 3))) <|
    .cons (.enqueues (t := true) rfl rfl
      (q₁.enqueue_admits ⟨le_refl 0, le_refl 0⟩ parseFrame_receiveReady
        (Nat.succ_lt_succ (Nat.succ_pos 2)))) <|
    .cons (.add rfl) <|
    .cons (.add rfl) <|
    .cons (.queued rfl) <|
    .cons (.queued rfl) (.nil _)
  have hpending := (hclaim _ _ _ rfl hrun).pending fun t => by cases t <;> rfl
  exact absurd hpending (by decide)

end MonitoredAdmissionQueue

end YwdTnc
