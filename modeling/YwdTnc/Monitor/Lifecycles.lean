import YwdTnc.Monitor.Grammar
import Mathlib.Data.List.Infix

/-!
# The lifecycles of a run

`enqueue` and `observe_rssi` are called one after the other, in any order and
with any answers of the modem; an observation may also never come to its end. The
events of every request are then a prefix of one of four words, an observation
reports what its events say, and between two calls the tracker lists the queue.
-/

namespace YwdTnc

open Interaction Prog

/-- The state of a request that an event reports. -/
def TXStage.reported : TXStage → Option KISSDataRequestState
  | .timeout => some .timedOut
  | .failed => some .downstreamFailed
  | .complete => some .dispatched
  | .queued | .channelClear | .dispatched => none

theorem TXStage.terminal_reported {stage : TXStage} {state : KISSDataRequestState}
    (h : stage.reported = some state) :
    MonitoredAdmissionQueue.terminalState (some state) = true := by
  cases stage <;> cases h <;> rfl

/-- What the events of a request can be, at the end. -/
def lifecycles : List (List TXStage) :=
  [[.queued, .timeout],
    [.queued, .channelClear, .failed],
    [.queued, .channelClear, .dispatched, .failed],
    [.queued, .channelClear, .dispatched, .complete]]

/-- Nothing follows an event that reports a state. -/
theorem getLast?_of_reported : ∀ word ∈ lifecycles, ∀ told ∈ word.inits, ∀ stage ∈ told,
    stage.reported.isSome = true → told.getLast? = some stage := by
  decide

namespace PublishedTX

/-- The stages of one request, in the order of publication. -/
def stages (events : List PublishedTX) (requestId : ℕ) : List TXStage :=
  (events.filter fun event => event.requestId = some requestId).map stage

theorem stages_append (events events' : List PublishedTX) (requestId : ℕ) :
    stages (events ++ events') requestId =
      stages events requestId ++ stages events' requestId := by
  simp only [stages, List.filter_append, List.map_append]

theorem stages_named {events : List PublishedTX} {requestId : ℕ}
    (h : ∀ event ∈ events, event.requestId = some requestId) :
    stages events requestId = events.map stage := by
  rw [stages, List.filter_eq_self.mpr fun event hevent => by simp [h event hevent]]

theorem stages_others {events : List PublishedTX} {requestId : ℕ}
    (h : ∀ event ∈ events, event.requestId ≠ some requestId) :
    stages events requestId = [] := by
  rw [stages, List.filter_eq_nil_iff.mpr fun event hevent => by simp [h event hevent],
    List.map_nil]

/-- Events of other requests do not lengthen the word of a request. -/
theorem stages_append_others {events events' : List PublishedTX} {requestId : ℕ}
    (h : ∀ event ∈ events', event.requestId ≠ some requestId) :
    stages (events ++ events') requestId = stages events requestId := by
  rw [stages_append, stages_others h, List.append_nil]

theorem mem_stages {events : List PublishedTX} {requestId : ℕ} {stage : TXStage} :
    stage ∈ stages events requestId ↔
      ∃ event ∈ events, event.requestId = some requestId ∧ event.stage = stage := by
  simp only [stages, List.mem_map, List.mem_filter, decide_eq_true_eq, and_assoc]

end PublishedTX

/-! ### The events of a submission -/

namespace Tells

open PublishedTX

variable {R : Type} {record : Option TrackedTXRequest} {t : List (PortCall R)}
  {events : List PublishedTX}

theorem request_eq {o : Outcome PyError TXReceipt} (h : Tells record o t events) :
    ∀ event ∈ events, event.request = record := by
  cases h <;> simp [plain]

/-- The events of a submission continue a lifecycle. -/
theorem word {o : Outcome PyError TXReceipt} (h : Tells record o t events) :
    ∃ word ∈ lifecycles, .queued :: events.map stage <+: word := by
  cases h with
  | complete => exact ⟨[.queued, .channelClear, .dispatched, .complete], by decide, [], rfl⟩
  | unsent => exact ⟨[.queued, .channelClear, .failed], by decide, [], rfl⟩
  | sent => exact ⟨[.queued, .channelClear, .dispatched, .failed], by decide, [], rfl⟩
  | clearing => exact ⟨[.queued, .channelClear, .failed], by decide, [.failed], rfl⟩
  | dispatching =>
      exact ⟨[.queued, .channelClear, .dispatched, .failed], by decide, [.failed], rfl⟩

theorem dispatched_iff {o : Outcome PyError TXReceipt} (h : Tells record o t events) :
    (∃ event ∈ events, event.stage = .dispatched) ↔ Accepted t := by
  cases h with
  | complete hburst | sent hburst | dispatching hburst => simp [hburst, plain]
  | unsent hburst | clearing hburst => simp [hburst, plain]

/-- A submission that ends reports how it ended. -/
theorem ends {result : Except PyError TXReceipt} (h : Tells record (.ofExcept result) t events)
    {stage : TXStage} {state : KISSDataRequestState} (hstage : stage.reported = some state) :
    (∃ event ∈ events, event.stage = stage) ↔
      state = if result.isOk then .dispatched else .downstreamFailed := by
  cases result with
  | ok r =>
      have hok : Tells record (.returned r) t events := h
      cases hok with
      | complete => cases stage <;> cases hstage <;> simp [plain, Except.isOk, Except.toBool]
  | error e =>
      have herror : Tells record (.raised e) t events := h
      cases herror with
      | unsent | sent =>
          cases stage <;> cases hstage <;> simp [plain, Except.isOk, Except.toBool]

/-- A submission that goes on has reported nothing. -/
theorem goesOn (h : Tells record .pending t events) {stage : TXStage}
    {state : KISSDataRequestState} (hstage : stage.reported = some state) :
    ¬ ∃ event ∈ events, event.stage = stage := by
  cases h <;> cases stage <;> cases hstage <;> simp [plain]

end Tells

/-! ### The path, one call at a time -/

namespace MonitoredPath

open PublishedTX

/-- The path, and whether an observation has begun and not come to its end. -/
structure State where
  path : MonitoredPath
  observing : Bool

/-- A call with its result and the events published by it. -/
inductive Operation (R : Type) where
  | enqueue (frameNoFcs : Bytes) (result : Except PyError KISSDataRequestReceipt)
      (events : List PublishedTX)
  | observe (raw : ℤ) (o : Outcome PyError (KISSDataQueueObservation TXReceipt))
      (t : List (PortCall R)) (events : List PublishedTX)

variable {R : Type}

def Operation.events : Operation R → List PublishedTX
  | .enqueue _ _ events => events
  | .observe _ _ _ events => events

/-- What was published between two states. -/
def told (s s' : MonitoredPath) : List PublishedTX :=
  s'.monitor.published.drop s.monitor.published.length

theorem told_eq {s s' : MonitoredPath} {events : List PublishedTX}
    (h : s'.monitor.published = s.monitor.published ++ events) : told s s' = events := by
  rw [told, h, List.drop_left]

/-- A call, when no other is in progress. -/
inductive Step (parameters : HalfDuplexParameters) : State → Operation R → State → Prop
  | enqueue {s : MonitoredPath} {frameNoFcs : Bytes} {context : TNCTransmitContext} {now : ℚ} :
      Step parameters ⟨s, false⟩
        (.enqueue frameNoFcs (s.enqueue frameNoFcs context now).2
          (told s (s.enqueue frameNoFcs context now).1))
        ⟨(s.enqueue frameNoFcs context now).1, false⟩
  | observe {s : MonitoredPath} {now : ℚ} {raw : ℤ} {source : RandomByteSource}
      {queue : KISSDataAdmissionQueue}
      {result : Except PyError (KISSDataQueueObservation TXReceipt)}
      {submitter : MonitoredSubmitter} {t : List (PortCall R)}
      (h : Runs (observeRssi parameters s.queue now raw source) s.submitter
        (.returned (queue, result)) submitter t) :
      Step parameters ⟨s, false⟩
        (.observe raw (.ofExcept result) t (told s ⟨queue, submitter⟩))
        ⟨⟨queue, submitter⟩, false⟩
  | raises {s : MonitoredPath} {now : ℚ} {raw : ℤ} {source : RandomByteSource} {e : PyError}
      {submitter : MonitoredSubmitter} {t : List (PortCall R)}
      (h : Runs (observeRssi parameters s.queue now raw source) s.submitter (.raised e)
        submitter t) :
      Step parameters ⟨s, false⟩ (.observe raw (.raised e) t (told s ⟨s.queue, submitter⟩))
        ⟨⟨s.queue, submitter⟩, false⟩
  | waits {s : MonitoredPath} {now : ℚ} {raw : ℤ} {source : RandomByteSource}
      {submitter : MonitoredSubmitter} {t : List (PortCall R)}
      (h : Runs (observeRssi parameters s.queue now raw source) s.submitter .pending
        submitter t) :
      Step parameters ⟨s, false⟩ (.observe raw .pending t (told s ⟨s.queue, submitter⟩))
        ⟨⟨s.queue, submitter⟩, true⟩

def system (R : Type) (config : QueueConfig) (parameters : HalfDuplexParameters)
    (router : ContextualTXDelayRouter) : System State (Operation R) where
  initial s := s = ⟨init config router, false⟩
  step := Step parameters

/-! ### What a call tells -/

/-- The events of an observation name one request with this reading, and report
what the observation reports; `dispatched` is among them when a burst was taken. -/
structure ToldObservation (raw : ℤ) (o : Outcome PyError (KISSDataQueueObservation TXReceipt))
    (t : List (PortCall R)) (events : List PublishedTX) : Prop where
  names : ∀ event ∈ events, ∃ record, event.request = some record ∧
    record.rawRssi = some raw ∧
      ∀ observation, o = .returned observation → observation.requestId = some record.requestId
  ends : ∀ stage state, stage.reported = some state →
    ((∃ event ∈ events, event.stage = stage) ↔
      ∃ observation, o = .returned observation ∧ observation.requestState = some state)
  dispatched : (∃ event ∈ events, event.stage = .dispatched) ↔ Accepted t

def Operation.Told : Operation R → Prop
  | .enqueue frameNoFcs (.ok receipt) events =>
      events = [.plain .queued (some (TXRequestTracker.record receipt frameNoFcs))]
  | .enqueue _ (.error _) events => events = []
  | .observe raw o t events => ToldObservation raw o t events

section Story

variable {waiting waiting' : List Admission} {raw : ℤ}
  {o : Outcome PyError (KISSDataQueueObservation TXReceipt)} {t : List (PortCall R)}
  {events : List PublishedTX}

theorem Story.told (h : Story waiting raw o t events waiting') :
    ToldObservation raw o t events := by
  cases h with
  | quiet hstate =>
      refine ⟨by simp, fun stage state hstage => ⟨by simp, ?_⟩, by simp [Accepted]⟩
      rintro ⟨observation, ho, hreports⟩
      have hgoesOn := hstate observation ho
      rw [hreports, TXStage.terminal_reported hstage] at hgoesOn
      cases hgoesOn
  | @timeout a rest record observation hwaiting hrecord hraw hid hstate =>
      refine ⟨?_, fun stage state hstage => ?_, by simp [Accepted]⟩
      · simp only [List.forall_mem_singleton]
        refine ⟨record, rfl, hraw, ?_⟩
        rintro _ ⟨⟩
        rw [hid, hrecord]
      · cases stage <;> cases hstage <;> simp [hstate]
  | @submitted a rest record observation result _ _ hwaiting hrecord hraw hid htells hstate =>
      refine ⟨fun event hevent => ?_, fun stage state hstage => ?_, htells.dispatched_iff⟩
      · refine ⟨record, htells.request_eq event hevent, hraw, ?_⟩
        rintro _ ⟨⟩
        rw [hid, hrecord]
      · rw [htells.ends hstage]
        constructor
        · rintro rfl
          exact ⟨observation, rfl, hstate⟩
        · rintro ⟨_, ⟨⟩, hreports⟩
          exact Option.some.inj (hreports.symm.trans hstate)
  | @pending a rest _ record _ _ hwaiting hrecord hraw htells =>
      refine ⟨fun event hevent => ?_, fun stage state hstage => ?_, htells.dispatched_iff⟩
      · exact ⟨record, htells.request_eq event hevent, hraw, fun _ ho => nomatch ho⟩
      · simp [htells.goesOn hstage]

/-- An observation is about the request in front, if it tells anything. -/
inductive Advances (waiting waiting' : List Admission)
    (o : Outcome PyError (KISSDataQueueObservation TXReceipt)) (events : List PublishedTX) : Prop
  | none (hevents : events = []) (hwaiting : waiting' = waiting)
  | head {a : Admission} {rest : List Admission} (hwaiting : waiting = a :: rest)
      (hevents : ∀ event ∈ events, event.requestId = some a.id)
      (hword : ∃ word ∈ lifecycles, .queued :: events.map stage <+: word)
      (hrest : o ≠ .pending → waiting' = rest)

theorem Story.advances (h : Story waiting raw o t events waiting') :
    Advances waiting waiting' o events := by
  cases h with
  | quiet => exact .none rfl rfl
  | @timeout a rest record _ hwaiting hrecord =>
      refine .head hwaiting ?_ ⟨[.queued, .timeout], by decide, [], rfl⟩ fun _ => rfl
      simp [requestId, hrecord]
  | @submitted a rest record _ result _ _ hwaiting hrecord _ _ htells =>
      refine .head hwaiting (fun event hevent => ?_) htells.word fun _ => rfl
      rw [requestId, htells.request_eq event hevent, Option.map_some, hrecord]
  | @pending a rest _ record _ _ hwaiting hrecord _ htells =>
      refine .head hwaiting (fun event hevent => ?_) htells.word (fun ho => absurd rfl ho)
      rw [requestId, htells.request_eq event hevent, Option.map_some, hrecord]

end Story

/-! ### Runs -/

/-- Between two calls: the tracker lists the queue, and of every waiting request
nothing but its admission has been told. -/
structure Aligned (s : MonitoredPath) : Prop where
  tracked : Tracked s.queue.waiting s.monitor.tracker
  sorted : (s.queue.waiting.map Admission.id).Pairwise (· < ·)
  below : ∀ a ∈ s.queue.waiting, a.id < s.queue.nextRequestId
  fresh : ∀ requestId, s.queue.nextRequestId ≤ requestId →
    stages s.monitor.published requestId = []
  queued : ∀ a ∈ s.queue.waiting, stages s.monitor.published a.id = [.queued]

/-- Every request is somewhere in one of its lifecycles. -/
def Grammatical (published : List PublishedTX) : Prop :=
  ∀ requestId, ∃ word ∈ lifecycles, stages published requestId <+: word

/-- The invariant of the runs. -/
structure Consistent (s : State) : Prop where
  grammatical : Grammatical s.path.monitor.published
  aligned : s.observing = false → Aligned s.path

theorem consistent_init (config : QueueConfig) (router : ContextualTXDelayRouter) :
    Consistent ⟨init config router, false⟩ where
  grammatical _ := ⟨[.queued, .timeout], by decide, List.nil_prefix⟩
  aligned _ := by
    refine ⟨⟨rfl, ?_⟩, List.Pairwise.nil, ?_, fun _ _ => rfl, ?_⟩ <;>
    · intro a ha
      cases ha

/-- The events of an observation extend the words of the requests. -/
theorem Advances.grammatical {waiting waiting' : List Admission}
    {o : Outcome PyError (KISSDataQueueObservation TXReceipt)}
    {published events : List PublishedTX} (h : Advances waiting waiting' o events)
    (hgrammatical : Grammatical published)
    (hqueued : ∀ a ∈ waiting, stages published a.id = [.queued]) :
    Grammatical (published ++ events) := by
  intro requestId
  cases h with
  | none hevents =>
      rw [hevents, List.append_nil]
      exact hgrammatical requestId
  | @head a rest hwaiting hevents hword =>
      by_cases hid : requestId = a.id
      · rw [hid, stages_append, hqueued a (by simp [hwaiting]), stages_named hevents]
        exact hword
      · rw [stages_append_others fun event hevent => ?_]
        · exact hgrammatical requestId
        · rw [hevents event hevent]
          exact fun h => hid (Option.some.inj h).symm

/-- The requests that still wait after an observation, and those to come. -/
theorem Advances.waits {waiting waiting' : List Admission}
    {o : Outcome PyError (KISSDataQueueObservation TXReceipt)} {events : List PublishedTX}
    (h : Advances waiting waiting' o events) (ho : o ≠ .pending)
    (hsorted : (waiting.map Admission.id).Pairwise (· < ·)) :
    waiting'.Sublist waiting ∧ (∀ a ∈ waiting', stages events a.id = []) ∧
      ∀ next, (∀ a ∈ waiting, a.id < next) → ∀ requestId, next ≤ requestId →
        stages events requestId = [] := by
  cases h with
  | none hevents hwaiting =>
      rw [hevents, hwaiting]
      exact ⟨List.Sublist.refl _, fun _ _ => rfl, fun _ _ _ _ => rfl⟩
  | @head a rest hwaiting hevents _ hrest =>
      have hnamed : ∀ requestId, requestId ≠ a.id → stages events requestId = [] := by
        intro requestId hid
        refine stages_others fun event hevent => ?_
        rw [hevents event hevent]
        exact fun h => hid (Option.some.inj h).symm
      rw [hrest ho]
      rw [hwaiting] at hsorted ⊢
      refine ⟨List.sublist_cons_self _ _, fun b hb => ?_, fun next hbelow requestId hnext => ?_⟩
      · exact hnamed b.id (ne_head_of_pairwise hsorted b hb)
      · exact hnamed requestId
          (Nat.ne_of_gt (Nat.lt_of_lt_of_le (hbelow a (List.mem_cons_self ..)) hnext))

/-- What a call does, from a state in which none is in progress. -/
structure Advanced (s s' : State) (e : Operation R) : Prop where
  consistent : Consistent s'
  told : e.Told
  published : s'.path.monitor.published = s.path.monitor.published ++ e.events

/-- The event of an admitted body. -/
def queuedEvent (receipt : KISSDataRequestReceipt) (frameNoFcs : Bytes) : PublishedTX :=
  .plain .queued (some (TXRequestTracker.record receipt frameNoFcs))

/-- The exits of `enqueue`. -/
theorem enqueue_cases (s : MonitoredPath) (frameNoFcs : Bytes) (context : TNCTransmitContext)
    (now : ℚ) :
    (∃ e queue, s.enqueue frameNoFcs context now = ({ s with queue }, .error e) ∧
      queue.waiting = s.queue.waiting ∧ queue.nextRequestId = s.queue.nextRequestId) ∨
    ∃ (a : Admission) (queue : KISSDataAdmissionQueue),
      s.enqueue frameNoFcs context now =
        ({ s with queue }.setMonitor
          { tracker := s.monitor.tracker.add a.1 frameNoFcs
            published := s.monitor.published ++ [queuedEvent a.1 frameNoFcs] }, .ok a.1) ∧
      a.id = s.queue.nextRequestId ∧ queue.waiting = s.queue.waiting ++ [a] ∧
      queue.nextRequestId = s.queue.nextRequestId + 1 := by
  have hexits := KISSDataAdmissionQueue.waiting_enqueue
    (s.queue.enqueue_enqueues frameNoFcs context now)
  unfold enqueue
  generalize s.queue.enqueue frameNoFcs context now = exit at hexits ⊢
  obtain ⟨queue, result⟩ := exit
  rcases hexits with ⟨e, rfl, hwaiting, hnext⟩ | ⟨a, rfl, hid, -, hwaiting, hnext⟩
  · exact .inl ⟨e, queue, rfl, hwaiting, hnext⟩
  · exact .inr ⟨a, queue, rfl, hid, hwaiting, hnext⟩

/-- A body that is admitted joins at the end, and is told as queued. -/
theorem Aligned.enqueue {s s' : MonitoredPath} (h : Aligned s) {a : Admission} {body : Bytes}
    (hid : a.id = s.queue.nextRequestId) (hwaiting : s'.queue.waiting = s.queue.waiting ++ [a])
    (hnext : s'.queue.nextRequestId = s.queue.nextRequestId + 1)
    (htracker : s'.monitor.tracker = s.monitor.tracker.add a.1 body)
    (hpublished : s'.monitor.published = s.monitor.published ++ [queuedEvent a.1 body]) :
    Aligned s' := by
  have hbelow : ∀ b ∈ s.queue.waiting, b.id < a.id := by
    rw [hid]
    exact h.below
  have hother : ∀ requestId, requestId ≠ a.id →
      stages s'.monitor.published requestId = stages s.monitor.published requestId := by
    intro requestId hne
    rw [hpublished, stages_append_others]
    rw [List.forall_mem_singleton]
    exact fun heq => hne (Option.some.inj heq).symm
  constructor
  · rw [hwaiting, htracker]
    exact h.tracked.add body fun b hb => Nat.ne_of_lt (hbelow b hb)
  · rw [hwaiting, List.map_append, List.map_singleton, List.pairwise_append]
    refine ⟨h.sorted, List.pairwise_singleton _ _, fun id hmem id' hmem' => ?_⟩
    obtain ⟨b, hb, rfl⟩ := List.mem_map.1 hmem
    rw [List.mem_singleton.1 hmem']
    exact hbelow b hb
  · intro b hb
    rw [hwaiting, List.mem_append, List.mem_singleton] at hb
    rw [hnext]
    rcases hb with hb | rfl
    · exact Nat.lt_succ_of_lt (h.below b hb)
    · rw [hid]
      exact Nat.lt_succ_self _
  · intro requestId hle
    rw [hnext] at hle
    rw [hother requestId (by omega)]
    exact h.fresh requestId (Nat.le_of_succ_le hle)
  · intro b hb
    rw [hwaiting, List.mem_append, List.mem_singleton] at hb
    rcases hb with hb | rfl
    · rw [hother b.id (Nat.ne_of_lt (hbelow b hb))]
      exact h.queued b hb
    · rw [hpublished, stages_append, h.fresh b.id (Nat.le_of_eq hid.symm), stages_named]
      · rfl
      · rw [List.forall_mem_singleton]
        rfl

theorem enqueue_advanced {s : MonitoredPath} (h : Consistent ⟨s, false⟩) (frameNoFcs : Bytes)
    (context : TNCTransmitContext) (now : ℚ) :
    Advanced (R := R) ⟨s, false⟩ ⟨(s.enqueue frameNoFcs context now).1, false⟩
      (.enqueue frameNoFcs (s.enqueue frameNoFcs context now).2
        (told s (s.enqueue frameNoFcs context now).1)) := by
  have haligned := h.aligned rfl
  rcases s.enqueue_cases frameNoFcs context now with
    ⟨e, queue, hexit, hwaiting, hnext⟩ | ⟨a, queue, hexit, hid, hwaiting, hnext⟩
  · rw [hexit]
    have hnothing : told s { s with queue } = [] := told_eq (List.append_nil _).symm
    refine ⟨⟨h.grammatical, fun _ => ?_⟩, hnothing, ?_⟩
    · refine ⟨?_, ?_, ?_, ?_, ?_⟩
      · rw [hwaiting]
        exact haligned.tracked
      · rw [hwaiting]
        exact haligned.sorted
      · rw [hwaiting, hnext]
        exact haligned.below
      · rw [hnext]
        exact haligned.fresh
      · rw [hwaiting]
        exact haligned.queued
    · dsimp only [Operation.events]
      rw [hnothing, List.append_nil]
      rfl
  · rw [hexit]
    generalize hs' : ({ s with queue } : MonitoredPath).setMonitor _ = s'
    have hpublished : s'.monitor.published =
        s.monitor.published ++ [queuedEvent a.1 frameNoFcs] := by
      rw [← hs']
      rfl
    have haligned' : Aligned s' := by
      refine haligned.enqueue hid ?_ ?_ ?_ hpublished <;> rw [← hs']
      · exact hwaiting
      · exact hnext
      · rfl
    refine ⟨⟨fun requestId => ?_, fun _ => haligned'⟩, told_eq hpublished, ?_⟩
    · by_cases hsame : requestId = a.id
      · rw [hsame, haligned'.queued a (by rw [← hs']; simp [setMonitor, hwaiting])]
        exact ⟨[.queued, .timeout], by decide, [.timeout], rfl⟩
      · dsimp only
        rw [hpublished, stages_append_others]
        · exact h.grammatical requestId
        · rw [List.forall_mem_singleton]
          exact fun heq => hsame (Option.some.inj heq).symm
    · dsimp only [Operation.events]
      rw [told_eq hpublished, hpublished]

/-- An observation that ends leaves the rest of the queue as it was. -/
theorem Aligned.observed {s s' : MonitoredPath} {raw : ℤ} {t : List (PortCall R)}
    {result : Except PyError (KISSDataQueueObservation TXReceipt)} {events : List PublishedTX}
    (h : Aligned s)
    (hstory : Story s.queue.waiting raw (.ofExcept result) t events s'.queue.waiting)
    (htracked : Tracked s'.queue.waiting s'.monitor.tracker)
    (hnext : s'.queue.nextRequestId = s.queue.nextRequestId)
    (hpublished : s'.monitor.published = s.monitor.published ++ events) : Aligned s' := by
  have hends : Outcome.ofExcept result ≠ .pending := by
    cases result <;> nofun
  obtain ⟨hsub, htold, hlater⟩ := hstory.advances.waits hends h.sorted
  refine ⟨htracked, h.sorted.sublist (hsub.map _), fun a ha => ?_, fun requestId hle => ?_,
    fun a ha => ?_⟩
  · rw [hnext]
    exact h.below a (hsub.subset ha)
  · rw [hnext] at hle
    rw [hpublished, stages_append, h.fresh requestId hle, hlater _ h.below requestId hle]
    rfl
  · rw [hpublished, stages_append, h.queued a (hsub.subset ha), htold a ha]
    rfl

theorem Step.advanced {parameters : HalfDuplexParameters} {s s' : State} {e : Operation R}
    (hstep : Step parameters s e s') (h : Consistent s) : Advanced s s' e := by
  cases hstep with
  | enqueue => exact enqueue_advanced h _ _ _
  | @observe s now raw source queue result submitter t hrun =>
      have haligned := h.aligned rfl
      obtain ⟨events, hseen⟩ := observeRssi_observed hrun haligned.tracked haligned.sorted
      obtain ⟨hstory, htracked, hnext⟩ := hseen.returned queue result rfl
      have hpublished : (MonitoredPath.mk queue submitter).monitor.published =
          s.monitor.published ++ events := hseen.published
      rw [told_eq hpublished]
      refine ⟨⟨?_, fun _ => haligned.observed hstory htracked hnext hpublished⟩, hstory.told,
        hpublished⟩
      dsimp only
      rw [hpublished]
      exact hstory.advances.grammatical h.grammatical haligned.queued
  | @raises s now raw source e submitter t hrun =>
      have haligned := h.aligned rfl
      obtain ⟨events, hseen⟩ := observeRssi_observed hrun haligned.tracked haligned.sorted
      exact absurd rfl (hseen.raised e)
  | @waits s now raw source submitter t hrun =>
      have haligned := h.aligned rfl
      obtain ⟨events, hseen⟩ := observeRssi_observed hrun haligned.tracked haligned.sorted
      have hstory := hseen.pending rfl
      have hpublished : (MonitoredPath.mk s.queue submitter).monitor.published =
          s.monitor.published ++ events := hseen.published
      rw [told_eq hpublished]
      refine ⟨⟨?_, nofun⟩, hstory.told, hpublished⟩
      dsimp only
      rw [hpublished]
      exact hstory.advances.grammatical h.grammatical haligned.queued

section Run

variable {config : QueueConfig} {parameters : HalfDuplexParameters}
  {router : ContextualTXDelayRouter} {s s' : State} {es : List (Operation R)}

theorem run_consistent (h : (system R config parameters router).Run s es s')
    (hs : Consistent s) :
    Consistent s' ∧ (∀ e ∈ es, e.Told) ∧
      s'.path.monitor.published = s.path.monitor.published ++ es.flatMap Operation.events := by
  induction h with
  | nil s => exact ⟨hs, by simp, by simp⟩
  | @cons s s₁ s' e es hstep hrun ih =>
      have hadvanced := Step.advanced hstep hs
      obtain ⟨hs', htold, hpublished⟩ := ih hadvanced.consistent
      refine ⟨hs', ?_, ?_⟩
      · rw [List.forall_mem_cons]
        exact ⟨hadvanced.told, htold⟩
      · rw [hpublished, hadvanced.published, List.append_assoc, List.flatMap_cons]

/-- What the monitor has told at the end of a run: every request is somewhere in
one of its lifecycles, and at the end of one when an observation of the run said so;
every call told what it did; and between two calls the tracker lists the queue. -/
structure ToldRun (s' : State) (es : List (Operation R)) : Prop where
  grammar : ∀ requestId, ∃ word ∈ lifecycles,
    stages s'.path.monitor.published requestId <+: word
  ends : ∀ requestId stage state, stage.reported = some state →
    ((stages s'.path.monitor.published requestId).getLast? = some stage ↔
      ∃ raw observation t events, .observe raw (.returned observation) t events ∈ es ∧
        observation.requestId = some requestId ∧ observation.requestState = some state)
  told : ∀ e ∈ es, e.Told
  pending : s'.observing = false →
    s'.path.monitor.tracker.pending = s'.path.queue.waiting.map Admission.id

/-- An event that reports a state comes from an observation that reports it. -/
theorem Operation.Told.reported {e : Operation R} (h : e.Told) {requestId : ℕ} {stage : TXStage}
    {state : KISSDataRequestState} (hstage : stage.reported = some state) :
    (∃ event ∈ e.events, event.requestId = some requestId ∧ event.stage = stage) ↔
      ∃ raw observation t events, e = .observe raw (.returned observation) t events ∧
        observation.requestId = some requestId ∧ observation.requestState = some state := by
  cases e with
  | enqueue frameNoFcs result events =>
      constructor
      · rintro ⟨event, hevent, -, rfl⟩
        cases result with
        | error e =>
            have hnone : events = [] := h
            rw [Operation.events, hnone] at hevent
            cases hevent
        | ok receipt =>
            have hone : events = [queuedEvent receipt frameNoFcs] := h
            rw [Operation.events, hone, List.mem_singleton] at hevent
            rw [hevent] at hstage
            cases hstage
      · rintro ⟨raw, observation, t, events', heq, -⟩
        cases heq
  | observe raw o t events =>
      have htold : ToldObservation raw o t events := h
      constructor
      · rintro ⟨event, hevent, hid, hevents⟩
        obtain ⟨observation, ho, hstate⟩ :=
          (htold.ends stage state hstage).1 ⟨event, hevent, hevents⟩
        obtain ⟨record, hrecord, -, hnames⟩ := htold.names event hevent
        rw [PublishedTX.requestId, hrecord] at hid
        exact ⟨raw, observation, t, events, by rw [ho], (hnames observation ho).trans hid, hstate⟩
      · rintro ⟨_, observation, _, _, heq, hid, hstate⟩
        cases heq
        obtain ⟨event, hevent, hevents⟩ := (htold.ends stage state hstage).2 ⟨_, rfl, hstate⟩
        obtain ⟨record, hrecord, -, hnames⟩ := htold.names event hevent
        refine ⟨event, hevent, ?_, hevents⟩
        rw [PublishedTX.requestId, hrecord]
        exact (hnames observation rfl).symm.trans hid

/-- Every run, in which no two calls overlap, tells lifecycles. -/
theorem run_grammar (config : QueueConfig) (parameters : HalfDuplexParameters)
    (router : ContextualTXDelayRouter) (s s' : State) (es : List (Operation R))
    (hinitial : (system R config parameters router).initial s)
    (h : (system R config parameters router).Run s es s') : ToldRun s' es := by
  cases hinitial
  obtain ⟨hs', htold, hpublished⟩ := run_consistent h (consistent_init config router)
  refine ⟨hs'.grammatical, fun requestId stage state hstage => ?_, htold, fun hidle => ?_⟩
  · have hlast : (stages s'.path.monitor.published requestId).getLast? = some stage ↔
        stage ∈ stages s'.path.monitor.published requestId := by
      obtain ⟨word, hword, hprefix⟩ := hs'.grammatical requestId
      refine ⟨List.mem_of_getLast?, fun hmem => ?_⟩
      exact getLast?_of_reported word hword _ ((List.mem_inits _ _).mpr hprefix) stage hmem
        (by simp [hstage])
    have hpublished' : s'.path.monitor.published = es.flatMap Operation.events := hpublished
    rw [hlast, mem_stages, hpublished']
    constructor
    · rintro ⟨event, hevent, hevents⟩
      obtain ⟨e, he, hmem⟩ := List.mem_flatMap.1 hevent
      obtain ⟨raw, observation, t, events, rfl, hreports⟩ :=
        ((htold e he).reported hstage).1 ⟨event, hmem, hevents⟩
      exact ⟨raw, observation, t, events, he, hreports⟩
    · rintro ⟨raw, observation, t, events, he, hreports⟩
      obtain ⟨event, hmem, hevents⟩ :=
        ((htold _ he).reported hstage).2 ⟨raw, observation, t, events, rfl, hreports⟩
      exact ⟨event, List.mem_flatMap.2 ⟨_, he, hmem⟩, hevents⟩
  · exact (hs'.aligned hidle).tracked.pending

end Run

/-! ### A run that tells of one frame -/

def admittedPath : MonitoredPath :=
  ((init .engine (.init true .engine)).enqueue receiveReady .default 0).1

/-- An observation of a quiet channel, on a healthy modem. -/
def observeQuiet (s : MonitoredPath) (now : ℚ) :=
  (observeRssi (R := Unit) .default s.queue now 100 (some (.ok 0))).run s.submitter
    TransmitPath.healthyCycle

def afterQuiet (s : MonitoredPath) (now : ℚ) : MonitoredPath :=
  match (observeQuiet s now).outcome with
  | .returned (queue, _) => ⟨queue, (observeQuiet s now).state⟩
  | _ => s

theorem step_observeQuiet (s : MonitoredPath) (now : ℚ)
    (h : (observeQuiet s now).outcome.isReturned = true) :
    ∃ e, Step (R := Unit) .default ⟨s, false⟩ e ⟨afterQuiet s now, false⟩ := by
  obtain ⟨⟨queue, result⟩, houtcome, hrun⟩ := Runs.of_isReturned h
  have hafter : afterQuiet s now = ⟨queue, (observeQuiet s now).state⟩ := by
    unfold afterQuiet observeQuiet
    rw [houtcome]
  rw [hafter]
  exact ⟨_, .observe hrun⟩

/-- A frame is admitted, and sent on its first trial 350 ms later. -/
theorem run_grammar_one_frame :
    ∃ (s' : State) (es : List (Operation Unit)),
      stages s'.path.monitor.published 1 = [.queued, .channelClear, .dispatched, .complete] ∧
        ToldRun s' es := by
  let path := system Unit .engine .default (.init true .engine)
  let s₂ := afterQuiet admittedPath 0
  let s₃ := afterQuiet s₂ (1 / 4)
  have h₀ : path.step ⟨init .engine (.init true .engine), false⟩ _ ⟨admittedPath, false⟩ :=
    .enqueue
  obtain ⟨e₁, h₁⟩ := step_observeQuiet admittedPath 0 (by decide +kernel)
  obtain ⟨e₂, h₂⟩ := step_observeQuiet s₂ (1 / 4) (by decide +kernel)
  obtain ⟨e₃, h₃⟩ := step_observeQuiet s₃ (7 / 20) (by decide +kernel)
  have hrun : path.Run _ [_, e₁, e₂, e₃] ⟨afterQuiet s₃ (7 / 20), false⟩ :=
    .cons h₀ (.cons h₁ (.cons h₂ (.cons h₃ (.nil _))))
  refine ⟨_, _, ?_, run_grammar .engine .default (.init true .engine) _ _ _ rfl hrun⟩
  decide +kernel

end MonitoredPath

end YwdTnc
