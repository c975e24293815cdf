import YwdTnc.Interaction.Transition
import Mathlib.Data.List.DropRight
import Mathlib.Data.List.Nodup
import Mathlib.Logic.Function.Basic

/-!
# The event streams of the backend

The event side of `RXOnlyBackend`: one thread publishes, any number of clients open and
close streams and read from them. `publish` appends to the history and takes a snapshot
of the subscribers under the lock and serves their queues one after another without it.
A run is the list of its steps, and everything below is read off that list: what was
published, what became of it at each queue, and what was read.
-/

namespace YwdTnc

open Interaction

/-- The constructor's capacities, as it accepts them. -/
structure StreamConfig where
  historyCapacity : ℕ
  subscriberQueueCapacity : ℕ
  one_le_queue : 1 ≤ subscriberQueueCapacity

/-- The publisher: outside `publish`, or with the queues that are still to be served and
the drops so far. -/
inductive PublishCall (E : Type) where
  | idle
  | delivering (event : E) (targets : List ℕ) (drops : ℕ)

namespace PublishCall

variable {E : Type}

def targets : PublishCall E → List ℕ
  | idle => []
  | delivering _ targets _ => targets

def drops : PublishCall E → ℕ
  | idle => 0
  | delivering _ _ drops => drops

/-- The event that the call has still to put into a queue. -/
def pending (queue : ℕ) : PublishCall E → List E
  | idle => []
  | delivering event targets _ => if queue ∈ targets then [event] else []

theorem pending_of_notMem {queue : ℕ} {call : PublishCall E} (h : queue ∉ call.targets) :
    call.pending queue = [] := by
  cases call with
  | idle => rfl
  | delivering event targets drops => exact if_neg h

/-- A queue that is served is pending no more. -/
theorem pending_cons {queue other : ℕ} {event : E} {targets : List ℕ} {drops drops' : ℕ}
    (hnot : other ∉ targets) :
    (if other = queue then [event] else []) ++
        (delivering event targets drops').pending queue =
      (delivering event (other :: targets) drops).pending queue := by
  change (if other = queue then [event] else []) ++ (if queue ∈ targets then [event] else []) =
    if queue ∈ other :: targets then [event] else []
  by_cases heq : other = queue
  · subst heq
    rw [if_pos rfl, if_neg hnot, if_pos List.mem_cons_self, List.append_nil]
  · have hmem : queue ∈ other :: targets ↔ queue ∈ targets :=
      List.mem_cons.trans (or_iff_right (Ne.symm heq))
    simp only [heq, hmem, if_false, List.nil_append]

end PublishCall

/-- The backend's streams, with the queues it has made, by number. -/
structure RXEventSource (E : Type) where
  config : StreamConfig
  events : List E
  subscribers : List ℕ
  subscriberDrops : ℕ
  queues : ℕ → List E
  nextQueue : ℕ
  publisher : PublishCall E

/-- A step with what is seen of it; `put` says whether the queue had room. -/
inductive StreamStep (E : Type) where
  | published (event : E)
  | put (queue : ℕ) (event : E) (delivered : Bool)
  | returned
  | opened (queue : ℕ) (history : List E)
  | closed (queue : ℕ)
  | got (queue : ℕ) (event : E)

namespace RXEventSource

variable {E : Type}

def init (config : StreamConfig) (events : List E) : RXEventSource E where
  config := config
  events :=
    if config.historyCapacity ≠ 0 then events.drop (events.length - config.historyCapacity)
    else []
  subscribers := []
  subscriberDrops := 0
  queues _ := []
  nextQueue := 0
  publisher := .idle

def openStream (s : RXEventSource E) : RXEventSource E × List E × ℕ :=
  ({ s with subscribers := s.nextQueue :: s.subscribers, nextQueue := s.nextQueue + 1 },
    s.events, s.nextQueue)

def closeStream (s : RXEventSource E) (queue : ℕ) : RXEventSource E :=
  { s with subscribers := s.subscribers.erase queue }

/-- The history after `publish` has appended to it. -/
def append (s : RXEventSource E) (event : E) : List E :=
  if s.config.historyCapacity ≠ 0 then
    let events := s.events ++ [event]
    if s.config.historyCapacity < events.length then
      events.drop (events.length - s.config.historyCapacity)
    else events
  else s.events

inductive Step : RXEventSource E → StreamStep E → RXEventSource E → Prop
  /-- The first critical section of `publish`; the set of subscribers is read in any
  order. -/
  | publish {s : RXEventSource E} {targets : List ℕ} (event : E) (h : s.publisher = .idle)
      (htargets : targets.Perm s.subscribers) :
      Step s (.published event)
        { s with events := s.append event, publisher := .delivering event targets 0 }
  /-- `put_nowait`, and its `Full` exception. -/
  | put {s : RXEventSource E} {event : E} {queue : ℕ} {targets : List ℕ} {drops : ℕ}
      (h : s.publisher = .delivering event (queue :: targets) drops)
      (hroom : (s.queues queue).length < s.config.subscriberQueueCapacity) :
      Step s (.put queue event true)
        { s with
          queues := Function.update s.queues queue (s.queues queue ++ [event])
          publisher := .delivering event targets drops }
  | full {s : RXEventSource E} {event : E} {queue : ℕ} {targets : List ℕ} {drops : ℕ}
      (h : s.publisher = .delivering event (queue :: targets) drops)
      (hfull : s.config.subscriberQueueCapacity ≤ (s.queues queue).length) :
      Step s (.put queue event false)
        { s with publisher := .delivering event targets (drops + 1) }
  | finish {s : RXEventSource E} {event : E} {drops : ℕ}
      (h : s.publisher = .delivering event [] drops) :
      Step s .returned
        { s with subscriberDrops := s.subscriberDrops + drops, publisher := .idle }
  | open_ {s : RXEventSource E} :
      Step s (.opened s.openStream.2.2 s.openStream.2.1) s.openStream.1
  | close {s : RXEventSource E} (queue : ℕ) : Step s (.closed queue) (s.closeStream queue)
  /-- A consumer reads from its queue. -/
  | get {s : RXEventSource E} {queue : ℕ} {event : E} {rest : List E}
      (h : s.queues queue = event :: rest) :
      Step s (.got queue event) { s with queues := Function.update s.queues queue rest }

def system (E : Type) (config : StreamConfig) (events : List E) :
    System (RXEventSource E) (StreamStep E) where
  initial s := s = init config events
  step := Step

end RXEventSource

/-! ### What a run shows -/

namespace StreamStep

variable {E : Type}

def event? : StreamStep E → Option E
  | published event => some event
  | _ => none

/-- What became of an event at a queue: it was delivered, or dropped. -/
def outcome? (queue : ℕ) : StreamStep E → Option (E × Bool)
  | put queue' event delivered => if queue' = queue then some (event, delivered) else none
  | _ => none

def taken? (queue : ℕ) : StreamStep E → Option E
  | got queue' event => if queue' = queue then some event else none
  | _ => none

def isDrop : StreamStep E → Bool
  | put _ _ delivered => !delivered
  | _ => false

def closes (queue : ℕ) : StreamStep E → Bool
  | closed queue' => queue' = queue
  | _ => false

/-- The events published in a run. -/
def publishedIn (steps : List (StreamStep E)) : List E := steps.filterMap event?

def outcomes (queue : ℕ) (steps : List (StreamStep E)) : List (E × Bool) :=
  steps.filterMap (outcome? queue)

def delivered (queue : ℕ) (steps : List (StreamStep E)) : List E :=
  ((outcomes queue steps).filter Prod.snd).map Prod.fst

def taken (queue : ℕ) (steps : List (StreamStep E)) : List E :=
  steps.filterMap (taken? queue)

def drops (steps : List (StreamStep E)) : ℕ := (steps.filter isDrop).length

/-- The steps before the stream is closed. -/
def whileOpen (queue : ℕ) (steps : List (StreamStep E)) : List (StreamStep E) :=
  steps.takeWhile fun step => !step.closes queue

theorem publishedIn_append (steps steps' : List (StreamStep E)) :
    publishedIn (steps ++ steps') = publishedIn steps ++ publishedIn steps' :=
  List.filterMap_append

theorem outcomes_append (queue : ℕ) (steps steps' : List (StreamStep E)) :
    outcomes queue (steps ++ steps') = outcomes queue steps ++ outcomes queue steps' :=
  List.filterMap_append

theorem taken_append (queue : ℕ) (steps steps' : List (StreamStep E)) :
    taken queue (steps ++ steps') = taken queue steps ++ taken queue steps' :=
  List.filterMap_append

theorem delivered_append (queue : ℕ) (steps steps' : List (StreamStep E)) :
    delivered queue (steps ++ steps') = delivered queue steps ++ delivered queue steps' := by
  unfold delivered
  rw [outcomes_append, List.filter_append, List.map_append]

theorem drops_append (steps steps' : List (StreamStep E)) :
    drops (steps ++ steps') = drops steps + drops steps' := by
  unfold drops
  rw [List.filter_append, List.length_append]

theorem outcomes_put (queue other : ℕ) (event : E) (delivered : Bool) :
    outcomes other [put queue event delivered] =
      if queue = other then [(event, delivered)] else [] := by
  by_cases h : queue = other
  · simp [outcomes, outcome?, h]
  · simp [outcomes, outcome?, h]

theorem delivered_put (queue other : ℕ) (event : E) (wasDelivered : Bool) :
    delivered other [put queue event wasDelivered] =
      if queue = other ∧ wasDelivered = true then [event] else [] := by
  unfold delivered
  rw [outcomes_put]
  by_cases h : queue = other
  · cases wasDelivered with
    | true => simp [h]
    | false => simp [h]
  · simp [h]

theorem taken_got (queue other : ℕ) (event : E) :
    taken other [got queue event] = if queue = other then [event] else [] := by
  by_cases h : queue = other
  · simp [taken, taken?, h]
  · simp [taken, taken?, h]

/-- A step counts for an open stream only. -/
theorem publishedIn_whileOpen_append (queue : ℕ) (steps : List (StreamStep E))
    (step : StreamStep E) :
    publishedIn (whileOpen queue (steps ++ [step])) =
      publishedIn (whileOpen queue steps) ++
        if steps.any (closes queue) then [] else publishedIn [step] := by
  induction steps with
  | nil =>
      cases hcloses : step.closes queue with
      | false => simp [whileOpen, hcloses, publishedIn]
      | true =>
          cases step with
          | closed queue' => simp [whileOpen, hcloses, publishedIn, event?]
          | _ => cases hcloses
  | cons first steps ih =>
      cases hcloses : first.closes queue with
      | true => simp [whileOpen, hcloses, publishedIn]
      | false =>
          have hopen : ∀ rest : List (StreamStep E),
              whileOpen queue (first :: rest) = first :: whileOpen queue rest := by
            intro rest
            simp [whileOpen, hcloses]
          rw [List.cons_append, hopen, hopen, List.any_cons, hcloses, Bool.false_or]
          have hcons : ∀ rest : List (StreamStep E),
              publishedIn (first :: rest) = publishedIn [first] ++ publishedIn rest :=
            fun rest => publishedIn_append [first] rest
          rw [hcons, hcons (whileOpen queue steps), ih, List.append_assoc]

end StreamStep

namespace RXEventSource

open StreamStep

variable {E : Type}

/-! ### One step -/

/-- The queues that a stream may still be served from are known, once each, and none is
over its capacity. -/
structure Sound (s : RXEventSource E) : Prop where
  subscribers_nodup : s.subscribers.Nodup
  subscribers_lt : ∀ queue ∈ s.subscribers, queue < s.nextQueue
  targets_nodup : s.publisher.targets.Nodup
  targets_lt : ∀ queue ∈ s.publisher.targets, queue < s.nextQueue
  room : ∀ queue, (s.queues queue).length ≤ s.config.subscriberQueueCapacity

theorem sound_init (config : StreamConfig) (events : List E) : (init config events).Sound where
  subscribers_nodup := List.nodup_nil
  subscribers_lt _ h := absurd h List.not_mem_nil
  targets_nodup := List.nodup_nil
  targets_lt _ h := absurd h List.not_mem_nil
  room _ := Nat.zero_le _

theorem Sound.targets_of {s : RXEventSource E} (h : s.Sound) {event : E} {queue : ℕ}
    {targets : List ℕ} {drops : ℕ}
    (hcall : s.publisher = .delivering event (queue :: targets) drops) :
    queue ∉ targets ∧ targets.Nodup ∧ ∀ other ∈ targets, other < s.nextQueue := by
  have hnodup := h.targets_nodup
  have hlt := h.targets_lt
  rw [hcall] at hnodup hlt
  obtain ⟨hnot, hrest⟩ := List.nodup_cons.mp hnodup
  exact ⟨hnot, hrest, fun other hmem => hlt other (List.mem_cons_of_mem queue hmem)⟩

theorem Sound.step {s s' : RXEventSource E} {step : StreamStep E} (h : s.Sound)
    (hstep : Step s step s') : s'.Sound := by
  cases hstep with
  | publish event hidle htargets =>
      exact ⟨h.subscribers_nodup, h.subscribers_lt, htargets.nodup_iff.mpr h.subscribers_nodup,
        fun queue hmem => h.subscribers_lt queue (htargets.mem_iff.mp hmem), h.room⟩
  | @put event queue targets drops hcall hroom =>
      obtain ⟨-, hnodup, hlt⟩ := h.targets_of hcall
      refine ⟨h.subscribers_nodup, h.subscribers_lt, hnodup, hlt, fun other => ?_⟩
      dsimp only
      rw [Function.update_apply]
      split
      · rw [List.length_append, List.length_singleton]
        exact hroom
      · exact h.room other
  | full hcall =>
      obtain ⟨-, hnodup, hlt⟩ := h.targets_of hcall
      exact ⟨h.subscribers_nodup, h.subscribers_lt, hnodup, hlt, h.room⟩
  | finish =>
      exact ⟨h.subscribers_nodup, h.subscribers_lt, List.nodup_nil,
        fun queue hmem => absurd hmem List.not_mem_nil, h.room⟩
  | open_ =>
      have hfresh : s.nextQueue ∉ s.subscribers :=
        fun hmem => Nat.lt_irrefl _ (h.subscribers_lt _ hmem)
      refine ⟨List.nodup_cons.mpr ⟨hfresh, h.subscribers_nodup⟩, fun queue hmem => ?_,
        h.targets_nodup, fun queue hmem => Nat.lt_succ_of_lt (h.targets_lt queue hmem), h.room⟩
      rcases List.mem_cons.mp hmem with rfl | hold
      · exact Nat.lt_succ_self _
      · exact Nat.lt_succ_of_lt (h.subscribers_lt queue hold)
  | close queue =>
      exact ⟨h.subscribers_nodup.erase queue,
        fun other hmem => h.subscribers_lt other (List.mem_of_mem_erase hmem), h.targets_nodup,
        h.targets_lt, h.room⟩
  | @get queue event rest hqueue =>
      refine ⟨h.subscribers_nodup, h.subscribers_lt, h.targets_nodup, h.targets_lt,
        fun other => ?_⟩
      dsimp only
      rw [Function.update_apply]
      split
      case isTrue heq =>
        have hlength := h.room queue
        rw [hqueue, List.length_cons] at hlength
        exact Nat.le_of_succ_le hlength
      case isFalse => exact h.room other

/-- The trimmed history is the end of the longer one. -/
theorem append_eq (s : RXEventSource E) {all : List E} (event : E)
    (h : s.events = all.rtake s.config.historyCapacity) :
    s.append event = (all ++ [event]).rtake s.config.historyCapacity := by
  unfold append
  cases hcapacity : s.config.historyCapacity with
  | zero =>
      rw [hcapacity] at h
      rw [if_neg (not_not.mpr rfl), h, List.rtake_zero, List.rtake_zero]
  | succ n =>
      rw [if_pos (Nat.succ_ne_zero n), List.rtake_concat_succ]
      rw [hcapacity] at h
      have hlast : s.events.rtake n = all.rtake n := by
        rw [h]
        unfold List.rtake
        rw [List.drop_drop, List.length_drop]
        congr 1
        omega
      have hlong : (s.events ++ [event]).rtake (n + 1) = all.rtake n ++ [event] := by
        rw [List.rtake_concat_succ, hlast]
      dsimp only
      split
      case isTrue => exact hlong
      case isFalse hshort =>
        rw [← hlong]
        unfold List.rtake
        rw [Nat.sub_eq_zero_of_le (Nat.le_of_not_lt hshort), List.drop_zero]

/-- What a run from the beginning has left in a state. -/
structure Accounted (config : StreamConfig) (events : List E) (steps : List (StreamStep E))
    (s : RXEventSource E) : Prop where
  config_eq : s.config = config
  history : s.events = (events ++ publishedIn steps).rtake config.historyCapacity
  drops : s.subscriberDrops + s.publisher.drops = drops steps
  contents : ∀ queue, taken queue steps ++ s.queues queue = delivered queue steps
  fresh : ∀ queue, s.nextQueue ≤ queue → outcomes queue steps = []

theorem accounted_init (config : StreamConfig) (events : List E) :
    (init config events).Accounted config events [] where
  config_eq := rfl
  history := by
    unfold init publishedIn
    rw [List.filterMap_nil, List.append_nil]
    cases hcapacity : config.historyCapacity with
    | zero => exact (List.rtake_zero events).symm
    | succ n => rfl
  drops := rfl
  contents _ := rfl
  fresh _ _ := rfl

/-- A step that publishes nothing leaves the history as it should be. -/
theorem Accounted.history_append {config : StreamConfig} {events : List E}
    {steps : List (StreamStep E)} {s : RXEventSource E} {step : StreamStep E}
    (h : s.Accounted config events steps) (hpublished : publishedIn [step] = []) :
    s.events = (events ++ publishedIn (steps ++ [step])).rtake config.historyCapacity := by
  rw [publishedIn_append, hpublished, List.append_nil, h.history]

/-- A put to a queue that is open says nothing of those that are not. -/
theorem Accounted.fresh_put {config : StreamConfig} {events : List E}
    {steps : List (StreamStep E)} {s : RXEventSource E}
    (h : s.Accounted config events steps) {queue other : ℕ} (hlt : queue < s.nextQueue)
    (hother : s.nextQueue ≤ other) (event : E) (wasDelivered : Bool) :
    outcomes other (steps ++ [.put queue event wasDelivered]) = [] := by
  have hne : queue ≠ other := Nat.ne_of_lt (Nat.lt_of_lt_of_le hlt hother)
  rw [outcomes_append, outcomes_put, if_neg hne, h.fresh other hother]
  rfl

/-- A step that publishes and drops nothing and leaves the queues as they are. -/
theorem Accounted.quiet {config : StreamConfig} {events : List E}
    {steps : List (StreamStep E)} {s s' : RXEventSource E} {step : StreamStep E}
    (h : s.Accounted config events steps) (hconfig : s'.config = s.config)
    (hevents : s'.events = s.events) (hqueues : s'.queues = s.queues)
    (hnext : s.nextQueue ≤ s'.nextQueue)
    (hdrops : s'.subscriberDrops + s'.publisher.drops = s.subscriberDrops + s.publisher.drops)
    (hpublished : publishedIn [step] = []) (hdrop : StreamStep.drops [step] = 0)
    (htaken : ∀ queue, taken queue [step] = []) (houtcomes : ∀ queue, outcomes queue [step] = []) :
    s'.Accounted config events (steps ++ [step]) where
  config_eq := hconfig.trans h.config_eq
  history := hevents.trans (h.history_append hpublished)
  drops := by rw [drops_append, hdrop, hdrops, h.drops, Nat.add_zero]
  contents queue := by
    have hdelivered : delivered queue [step] = [] := by
      rw [delivered, houtcomes]
      rfl
    rw [taken_append, delivered_append, htaken, hdelivered, hqueues, List.append_nil,
      List.append_nil, h.contents]
  fresh queue hqueue := by
    rw [outcomes_append, houtcomes, h.fresh queue (Nat.le_trans hnext hqueue), List.append_nil]

theorem Accounted.step {config : StreamConfig} {events : List E} {steps : List (StreamStep E)}
    {s s' : RXEventSource E} {step : StreamStep E} (h : s.Accounted config events steps)
    (hsound : s.Sound) (hstep : Step s step s') :
    s'.Accounted config events (steps ++ [step]) := by
  cases hstep with
  | publish event hidle htargets =>
      have hhistory : s.events = (events ++ publishedIn steps).rtake s.config.historyCapacity := by
        rw [h.config_eq]
        exact h.history
      have hdrops := h.drops
      rw [hidle] at hdrops
      refine ⟨h.config_eq, ?_, ?_, fun queue => ?_, fun queue hqueue => ?_⟩
      · rw [publishedIn_append, ← List.append_assoc, ← h.config_eq]
        exact s.append_eq event hhistory
      · rw [drops_append]
        exact hdrops
      · rw [taken_append, delivered_append, ← h.contents]
        exact congrArg (· ++ s.queues queue) (List.append_nil _) |>.trans (List.append_nil _).symm
      · rw [outcomes_append, h.fresh queue hqueue]
        rfl
  | @put event queue targets drops hcall hroom =>
      have hlt := hsound.targets_lt queue (by rw [hcall]; exact List.mem_cons_self)
      have hdrops := h.drops
      rw [hcall] at hdrops
      refine ⟨h.config_eq, h.history_append rfl, ?_, fun other => ?_,
        fun other hother => h.fresh_put hlt hother event true⟩
      · rw [drops_append]
        exact hdrops
      · dsimp only
        rw [taken_append, delivered_append, delivered_put, Function.update_apply]
        have hnone : taken other [StreamStep.put queue event true] = [] := rfl
        rw [hnone, List.append_nil]
        by_cases heq : other = queue
        · subst heq
          rw [if_pos rfl, if_pos ⟨rfl, rfl⟩, ← List.append_assoc, h.contents]
        · rw [if_neg heq, if_neg fun hand => heq hand.1.symm, List.append_nil, h.contents]
  | @full event queue targets drops hcall hfull =>
      have hlt := hsound.targets_lt queue (by rw [hcall]; exact List.mem_cons_self)
      have hdrops := h.drops
      rw [hcall] at hdrops
      refine ⟨h.config_eq, h.history_append rfl, ?_, fun other => ?_,
        fun other hother => h.fresh_put hlt hother event false⟩
      · rw [drops_append, ← hdrops]
        exact (Nat.add_assoc _ _ _).symm
      · rw [taken_append, delivered_append, delivered_put,
          if_neg fun hand => Bool.false_ne_true hand.2, List.append_nil]
        exact (congrArg (· ++ s.queues other) (List.append_nil _)).trans (h.contents other)
  | finish hcall =>
      refine h.quiet rfl rfl rfl (Nat.le_refl _) ?_ rfl rfl (fun _ => rfl) (fun _ => rfl)
      rw [hcall]
      rfl
  | open_ =>
      exact h.quiet rfl rfl rfl (Nat.le_succ _) rfl rfl rfl (fun _ => rfl) (fun _ => rfl)
  | close queue =>
      exact h.quiet rfl rfl rfl (Nat.le_refl _) rfl rfl rfl (fun _ => rfl) (fun _ => rfl)
  | @get queue event rest hqueue =>
      refine ⟨h.config_eq, h.history_append rfl, ?_, fun other => ?_, fun other hother => ?_⟩
      · rw [drops_append]
        exact h.drops
      · dsimp only
        rw [taken_append, delivered_append, taken_got, Function.update_apply]
        have hnone : delivered other [StreamStep.got queue event] = [] := rfl
        rw [hnone, List.append_nil, ← h.contents other]
        by_cases heq : other = queue
        · subst heq
          rw [if_pos rfl, if_pos rfl, hqueue, List.append_assoc, List.singleton_append]
        · rw [if_neg heq, if_neg (Ne.symm heq), List.append_nil]
      · rw [outcomes_append, h.fresh other hother]
        rfl

/-- A stream since it was opened: it is subscribed until it is closed, and every event of
that time has its outcome or is pending. -/
structure Served (queue : ℕ) (steps : List (StreamStep E)) (s : RXEventSource E) : Prop where
  lt : queue < s.nextQueue
  subscribed : queue ∈ s.subscribers ↔ steps.any (closes queue) = false
  served : (outcomes queue steps).map Prod.fst ++ s.publisher.pending queue =
    publishedIn (whileOpen queue steps)

/-- A step that publishes nothing and leaves the stream as it is. -/
theorem Served.quiet {queue : ℕ} {steps : List (StreamStep E)} {s s' : RXEventSource E}
    {step : StreamStep E} (h : s.Served queue steps) (hnext : s.nextQueue ≤ s'.nextQueue)
    (hsubscribed : queue ∈ s'.subscribers ↔ queue ∈ s.subscribers ∧ step.closes queue = false)
    (hpublished : publishedIn [step] = [])
    (hserved : (outcomes queue [step]).map Prod.fst ++ s'.publisher.pending queue =
      s.publisher.pending queue) : s'.Served queue (steps ++ [step]) where
  lt := Nat.lt_of_lt_of_le h.lt hnext
  subscribed := by
    rw [hsubscribed, h.subscribed, List.any_append, Bool.or_eq_false_iff]
    simp
  served := by
    rw [outcomes_append, List.map_append, List.append_assoc, hserved, h.served,
      publishedIn_whileOpen_append, hpublished, ite_self, List.append_nil]

theorem Served.step {queue : ℕ} {steps : List (StreamStep E)} {s s' : RXEventSource E}
    {step : StreamStep E} (h : s.Served queue steps) (hsound : s.Sound)
    (hstep : Step s step s') : s'.Served queue (steps ++ [step]) := by
  cases hstep with
  | @publish targets event hidle htargets =>
      have hserved := h.served
      rw [hidle] at hserved
      refine ⟨h.lt, ?_, ?_⟩
      · rw [List.any_append, Bool.or_eq_false_iff]
        exact h.subscribed.trans (and_iff_left rfl).symm
      · rw [outcomes_append, publishedIn_whileOpen_append, ← hserved, List.map_append]
        have hmem : queue ∈ targets ↔ steps.any (closes queue) = false :=
          htargets.mem_iff.trans h.subscribed
        change List.map Prod.fst (outcomes queue steps) ++ [] ++
          (if queue ∈ targets then [event] else []) =
          List.map Prod.fst (outcomes queue steps) ++ [] ++
            if steps.any (closes queue) then [] else [event]
        cases hclosed : steps.any (closes queue) with
        | true => rw [if_pos rfl, if_neg fun hin => Bool.false_ne_true ((hmem.mp hin) ▸ hclosed)]
        | false => rw [if_neg Bool.false_ne_true, if_pos (hmem.mpr hclosed)]
  | @put event other targets drops hcall hroom =>
      obtain ⟨hnot, -, -⟩ := hsound.targets_of hcall
      refine h.quiet (Nat.le_refl _) (and_iff_left rfl).symm rfl ?_
      rw [hcall, outcomes_put,
        ← @PublishCall.pending_cons E queue other event targets drops drops hnot]
      split
      · rfl
      · rfl
  | @full event other targets drops hcall hfull =>
      obtain ⟨hnot, -, -⟩ := hsound.targets_of hcall
      refine h.quiet (Nat.le_refl _) (and_iff_left rfl).symm rfl ?_
      rw [hcall, outcomes_put,
        ← @PublishCall.pending_cons E queue other event targets drops (drops + 1) hnot]
      split
      · rfl
      · rfl
  | finish hcall =>
      refine h.quiet (Nat.le_refl _) (and_iff_left rfl).symm rfl ?_
      rw [hcall]
      rfl
  | open_ =>
      refine h.quiet (Nat.le_succ _) ?_ rfl rfl
      refine Iff.trans ?_ (and_iff_left rfl).symm
      exact List.mem_cons.trans (or_iff_right (Nat.ne_of_lt h.lt))
  | close other =>
      refine h.quiet (Nat.le_refl _) ?_ rfl rfl
      have hcloses : (StreamStep.closed other : StreamStep E).closes queue = false ↔
          queue ≠ other := by
        refine decide_eq_false_iff_not.trans ?_
        rw [eq_comm]
      rw [hcloses, and_comm]
      exact hsound.subscribers_nodup.mem_erase_iff
  | get hqueue => exact h.quiet (Nat.le_refl _) (and_iff_left rfl).symm rfl rfl

/-- A stream that has just been opened. -/
theorem served_openStream {s : RXEventSource E} (hsound : s.Sound) :
    s.openStream.1.Served s.nextQueue [] where
  lt := Nat.lt_succ_self _
  subscribed := iff_of_true List.mem_cons_self rfl
  served := PublishCall.pending_of_notMem fun hmem =>
    Nat.lt_irrefl _ (hsound.targets_lt s.nextQueue hmem)

/-! ### Runs -/

theorem run_accounted {config : StreamConfig} {events : List E} {s : RXEventSource E}
    {steps : List (StreamStep E)}
    (hrun : (system E config events).Run (init config events) steps s) :
    s.Sound ∧ s.Accounted config events steps := by
  have htraced := hrun.traced (I := fun steps s => s.Sound ∧ s.Accounted config events steps)
    (fun steps s step s' h hstep => ⟨h.1.step hstep, h.2.step h.1 hstep⟩)
    ⟨sound_init config events, accounted_init config events⟩
  exact htraced

/-- What holds of the steps of a run that ends in `s`. -/
structure FansOut (config : StreamConfig) (events : List E) (steps : List (StreamStep E))
    (s : RXEventSource E) : Prop where
  /-- The history is the end of what was published before the stream was opened. -/
  history : ∀ before queue history after, steps = before ++ .opened queue history :: after →
    history = (events ++ publishedIn before).rtake config.historyCapacity
  /-- The events published while the stream is open are those that have an outcome at its
  queue, in order, and the one that is still to be put. -/
  served : ∀ before queue history after, steps = before ++ .opened queue history :: after →
    (outcomes queue steps).map Prod.fst ++ s.publisher.pending queue =
      publishedIn (whileOpen queue after)
  /-- A queue has what was delivered to it and is not yet read. -/
  contents : ∀ queue, taken queue steps ++ s.queues queue = delivered queue steps
  /-- An event is dropped exactly when it meets a full queue. -/
  full : ∀ before queue event wasDelivered after,
    steps = before ++ .put queue event wasDelivered :: after →
    (wasDelivered = false ↔ (delivered queue before).length =
      (taken queue before).length + config.subscriberQueueCapacity)
  drops : s.publisher = .idle → s.subscriberDrops = drops steps

theorem run_fansOut (config : StreamConfig) (events : List E) (s : RXEventSource E)
    (steps : List (StreamStep E))
    (hrun : (system E config events).Run (init config events) steps s) :
    s.FansOut config events steps := by
  obtain ⟨-, haccounted⟩ := run_accounted hrun
  refine ⟨?_, ?_, haccounted.contents, ?_, ?_⟩
  · rintro before queue history after rfl
    obtain ⟨s₁, s₂, hbefore, hopen, -⟩ := hrun.split
    obtain ⟨-, h₁⟩ := run_accounted hbefore
    cases hopen with
    | open_ => exact h₁.history
  · rintro before queue history after rfl
    obtain ⟨s₁, s₂, hbefore, hopen, hafter⟩ := hrun.split
    obtain ⟨hsound, h₁⟩ := run_accounted hbefore
    have hsound₂ : s₂.Sound := hsound.step hopen
    cases hopen with
    | open_ =>
        have htraced := hafter.traced
          (I := fun steps s => s.Sound ∧ s.Served s₁.nextQueue steps)
          (fun steps s step s' h hstep => ⟨h.1.step hstep, h.2.step h.1 hstep⟩)
          ⟨hsound₂, served_openStream hsound⟩
        have houtcomes : outcomes s₁.nextQueue
            (before ++ StreamStep.opened s₁.nextQueue s₁.events :: after) =
            outcomes s₁.nextQueue after := by
          rw [outcomes_append, h₁.fresh s₁.nextQueue (Nat.le_refl _)]
          rfl
        exact (congrArg (fun l => l.map Prod.fst ++ s.publisher.pending s₁.nextQueue)
          houtcomes).trans htraced.2.served
  · rintro before queue event wasDelivered after rfl
    obtain ⟨s₁, s₂, hbefore, hput, -⟩ := hrun.split
    obtain ⟨hsound, h₁⟩ := run_accounted hbefore
    have hlength := congrArg List.length (h₁.contents queue)
    rw [List.length_append] at hlength
    have hmost := hsound.room queue
    rw [h₁.config_eq] at hmost
    cases hput with
    | put hcall hroom =>
        rw [h₁.config_eq] at hroom
        constructor
        · exact fun h => absurd h Bool.noConfusion
        · intro h
          omega
    | full hcall hfull =>
        rw [h₁.config_eq] at hfull
        refine ⟨fun _ => ?_, fun _ => rfl⟩
        omega
  · intro hidle
    have hdrops := haccounted.drops
    rw [hidle] at hdrops
    exact hdrops

/-- Two streams are opened around the publication of 2; the first is closed while the
publisher still has 3 for it, which its full queue does not take. -/
def twoStreams : List (StreamStep ℕ) :=
  [.published 1, .returned, .opened 0 [1], .published 2, .opened 1 [2], .put 0 2 true, .returned,
    .published 3, .closed 0, .put 1 3 true, .got 1 3, .put 0 3 false, .returned]

/-- One event of history, and one in a queue. -/
def oneEach : StreamConfig := ⟨1, 1, le_refl 1⟩

theorem run_twoStreams : ∃ s, (system ℕ oneEach []).Run (init oneEach []) twoStreams s := by
  refine ⟨_, .cons (.publish 1 rfl (List.Perm.refl [])) (.cons (.finish rfl) (.cons .open_
    (.cons (.publish 2 rfl (List.Perm.refl [0])) (.cons .open_ (.cons (.put rfl ?_)
      (.cons (.finish rfl) (.cons (.publish 3 rfl (List.Perm.refl [1, 0])) (.cons (.close 0)
        (.cons (.put rfl ?_) (.cons (.get rfl) (.cons (.full rfl ?_)
          (.cons (.finish rfl) (.nil _)))))))))))))⟩
  all_goals decide

theorem run_fansOut_twoStreams : ∃ s : RXEventSource ℕ, s.FansOut oneEach [] twoStreams := by
  obtain ⟨s, hrun⟩ := run_twoStreams
  exact ⟨s, run_fansOut oneEach [] s twoStreams hrun⟩

end RXEventSource

end YwdTnc
