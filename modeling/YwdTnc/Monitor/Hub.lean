import YwdTnc.Interaction.Transition
import Mathlib.Data.List.Nodup
import Mathlib.Data.List.Pairwise
import Mathlib.Logic.Function.Basic

/-!
# The monitor's event hub

Any number of threads publish records to the subscribers' queues. A publisher
takes its sequence number and a snapshot of the subscribers under the lock, makes
the payload, and puts it into one queue after another without the lock;
subscribers come, read and go at any time. A subscriber reads its records in the
order of their numbers as long as no publisher overtakes another one on the way
to its queue.
-/

namespace YwdTnc

open Interaction

/-- A record with its event's own fields; it stands for its payload. -/
structure MonitorRecord (F : Type) where
  seq : ℕ
  ts : String
  event : String
  fields : F
  deriving DecidableEq

/-- A call of `publish`: outside, with its number and the queues of its snapshot, or
with the queues that are still to be served and the drops so far. -/
inductive Publisher (F : Type) where
  | idle
  | numbered (seq : ℕ) (event : String) (fields : F) (targets : List ℕ)
  | delivering (record : MonitorRecord F) (targets : List ℕ) (drops : ℕ)

namespace Publisher

variable {F : Type}

def seq : Publisher F → Option ℕ
  | idle => none
  | numbered seq _ _ _ => some seq
  | delivering record _ _ => some record.seq

/-- The queues that the call may still put its record into. -/
def targets : Publisher F → List ℕ
  | idle => []
  | numbered _ _ _ targets | delivering _ targets _ => targets

end Publisher

/-- The hub, the queues it has made, by number, and what has been read from each of
them so far. -/
structure MonitorEventHub (Tid F : Type) where
  capacity : ℕ
  sequence : ℕ
  subscribers : List ℕ
  queues : ℕ → List (MonitorRecord F)
  nextQueue : ℕ
  publishers : Tid → Publisher F
  taken : ℕ → List (MonitorRecord F)
  published : ℕ
  drops : ℕ
  encodingErrors : ℕ

namespace MonitorEventHub

variable {Tid F : Type} [DecidableEq Tid]

/-- A put with its queue; the other steps are `other`. -/
inductive Event (Tid : Type) where
  | put (t : Tid) (queue : ℕ)
  | other
  deriving DecidableEq

def setPublisher (s : MonitorEventHub Tid F) (t : Tid) (p : Publisher F) :
    MonitorEventHub Tid F :=
  { s with publishers := Function.update s.publishers t p }

inductive Step : MonitorEventHub Tid F → Event Tid → MonitorEventHub Tid F → Prop
  | subscribe {s : MonitorEventHub Tid F} :
      Step s .other
        { s with subscribers := s.nextQueue :: s.subscribers, nextQueue := s.nextQueue + 1 }
  | unsubscribe {s : MonitorEventHub Tid F} (queue : ℕ) :
      Step s .other { s with subscribers := s.subscribers.erase queue }
  /-- `publish` up to the end of its first critical section; the set of
  subscribers is read in any order. -/
  | number {s : MonitorEventHub Tid F} {t : Tid} {event : String} {targets : List ℕ}
      (fields : F) (h : s.publishers t = .idle) (hevent : event ≠ "")
      (htargets : targets.Perm s.subscribers) :
      Step s .other
        { s.setPublisher t (.numbered (s.sequence + 1) event fields targets) with
          sequence := s.sequence + 1 }
  /-- The time stamp and the payload; either may raise. -/
  | stampFails {s : MonitorEventHub Tid F} {t : Tid} {seq : ℕ} {event : String} {fields : F}
      {targets : List ℕ} (h : s.publishers t = .numbered seq event fields targets) :
      Step s .other (s.setPublisher t .idle)
  | encodeFails {s : MonitorEventHub Tid F} {t : Tid} {seq : ℕ} {event : String} {fields : F}
      {targets : List ℕ} (h : s.publishers t = .numbered seq event fields targets) :
      Step s .other { s.setPublisher t .idle with encodingErrors := s.encodingErrors + 1 }
  | encode {s : MonitorEventHub Tid F} {t : Tid} {seq : ℕ} {event : String} {fields : F}
      {targets : List ℕ} (ts : String)
      (h : s.publishers t = .numbered seq event fields targets) :
      Step s .other (s.setPublisher t (.delivering ⟨seq, ts, event, fields⟩ targets 0))
  /-- `put_nowait`, and its `Full` exception. -/
  | put {s : MonitorEventHub Tid F} {t : Tid} {record : MonitorRecord F} {queue : ℕ}
      {targets : List ℕ} {drops : ℕ}
      (h : s.publishers t = .delivering record (queue :: targets) drops)
      (hroom : (s.queues queue).length < s.capacity) :
      Step s (.put t queue)
        { s.setPublisher t (.delivering record targets drops) with
          queues := Function.update s.queues queue (s.queues queue ++ [record]) }
  | drop {s : MonitorEventHub Tid F} {t : Tid} {record : MonitorRecord F} {queue : ℕ}
      {targets : List ℕ} {drops : ℕ}
      (h : s.publishers t = .delivering record (queue :: targets) drops)
      (hfull : s.capacity ≤ (s.queues queue).length) :
      Step s .other (s.setPublisher t (.delivering record targets (drops + 1)))
  | finish {s : MonitorEventHub Tid F} {t : Tid} {record : MonitorRecord F} {drops : ℕ}
      (h : s.publishers t = .delivering record [] drops) :
      Step s .other
        { s.setPublisher t .idle with
          published := s.published + 1, drops := s.drops + drops }
  /-- A consumer reads from its queue. -/
  | get {s : MonitorEventHub Tid F} {queue : ℕ} {record : MonitorRecord F}
      {rest : List (MonitorRecord F)} (h : s.queues queue = record :: rest) :
      Step s .other
        { s with
          queues := Function.update s.queues queue rest
          taken := Function.update s.taken queue (s.taken queue ++ [record]) }

/-- A hub that has just been made. -/
def init (capacity : ℕ) : MonitorEventHub Tid F where
  capacity := capacity
  sequence := 0
  subscribers := []
  queues _ := []
  nextQueue := 0
  publishers _ := .idle
  taken _ := []
  published := 0
  drops := 0
  encodingErrors := 0

def system (Tid F : Type) [DecidableEq Tid] (capacity : ℕ) :
    System (MonitorEventHub Tid F) (Event Tid) where
  initial s := s = init capacity
  step := Step

/-- The numbers a subscriber has read, in order. -/
def takenSeqs (s : MonitorEventHub Tid F) (queue : ℕ) : List ℕ :=
  (s.taken queue).map MonitorRecord.seq

/-- No publisher overtakes another one: when a record is put into a queue, no call
with a smaller number still has that queue before it. -/
def InOrder (s : MonitorEventHub Tid F) : Event Tid → Prop
  | .put t queue => ∀ t' n n', (s.publishers t).seq = some n → (s.publishers t').seq = some n' →
      n' < n → queue ∉ (s.publishers t').targets
  | .other => True

/-! ### The order of a queue -/

/-- The records that have been put into a queue. -/
def history (s : MonitorEventHub Tid F) (queue : ℕ) : List (MonitorRecord F) :=
  s.taken queue ++ s.queues queue

structure Ordered (s : MonitorEventHub Tid F) : Prop where
  subscribers_nodup : s.subscribers.Nodup
  subscribers_lt : ∀ queue ∈ s.subscribers, queue < s.nextQueue
  targets_nodup : ∀ t, (s.publishers t).targets.Nodup
  seq_le : ∀ t n, (s.publishers t).seq = some n → n ≤ s.sequence
  seq_inj : ∀ t t' n, (s.publishers t).seq = some n → (s.publishers t').seq = some n → t = t'
  history_le : ∀ queue, ∀ record ∈ s.history queue, record.seq ≤ s.sequence
  ahead : ∀ t n queue, (s.publishers t).seq = some n → queue ∈ (s.publishers t).targets →
    ∀ record ∈ s.history queue, record.seq < n
  increasing : ∀ queue, ((s.history queue).map MonitorRecord.seq).Pairwise (· < ·)

omit [DecidableEq Tid] in
theorem ordered_init (capacity : ℕ) : (init capacity : MonitorEventHub Tid F).Ordered where
  subscribers_nodup := List.nodup_nil
  subscribers_lt _ h := absurd h List.not_mem_nil
  targets_nodup _ := List.nodup_nil
  seq_le _ _ h := nomatch h
  seq_inj _ _ _ h := nomatch h
  history_le _ _ h := absurd h List.not_mem_nil
  ahead _ _ _ h := nomatch h
  increasing _ := List.Pairwise.nil

/-- A publisher that goes on keeps its number and some of its queues; one that has
ended has none. -/
def Continues (p p' : Publisher F) : Prop :=
  (p'.seq = none ∨ p'.seq = p.seq) ∧ p'.targets.Sublist p.targets

omit [DecidableEq Tid] in
/-- Nothing new is put into a queue, and no new publisher begins. -/
theorem Ordered.mono {s s' : MonitorEventHub Tid F} (h : s.Ordered)
    (hsubscribers : s'.subscribers.Nodup ∧ ∀ queue ∈ s'.subscribers, queue < s'.nextQueue)
    (hsequence : s'.sequence = s.sequence)
    (hhistory : ∀ queue, s'.history queue = s.history queue)
    (hpublishers : ∀ t, Continues (s.publishers t) (s'.publishers t)) : s'.Ordered := by
  have hseq : ∀ t n, (s'.publishers t).seq = some n → (s.publishers t).seq = some n := by
    intro t n hn
    rcases (hpublishers t).1 with hnone | hsame
    · rw [hnone] at hn
      cases hn
    · rw [← hsame]
      exact hn
  constructor
  · exact hsubscribers.1
  · exact hsubscribers.2
  · exact fun t => (hpublishers t).2.nodup (h.targets_nodup t)
  · rw [hsequence]
    exact fun t n hn => h.seq_le t n (hseq t n hn)
  · exact fun t t' n hn hn' => h.seq_inj t t' n (hseq t n hn) (hseq t' n hn')
  · intro queue
    rw [hhistory, hsequence]
    exact h.history_le queue
  · intro t n queue hn hqueue
    rw [hhistory]
    exact h.ahead t n queue (hseq t n hn) ((hpublishers t).2.subset hqueue)
  · intro queue
    rw [hhistory]
    exact h.increasing queue

omit [DecidableEq Tid] in
theorem continues_refl (s : MonitorEventHub Tid F) (t : Tid) :
    Continues (s.publishers t) (s.publishers t) :=
  ⟨.inr rfl, List.Sublist.refl _⟩

/-- One publisher moves on and the others stay. -/
theorem continues_update {s : MonitorEventHub Tid F} {t : Tid} {p : Publisher F}
    (h : Continues (s.publishers t) p) (t' : Tid) :
    Continues (s.publishers t') (Function.update s.publishers t p t') := by
  by_cases ht : t' = t
  · subst ht
    rw [Function.update_self]
    exact h
  · rw [Function.update_of_ne ht]
    exact continues_refl s t'

theorem continues_idle (p : Publisher F) : Continues p .idle :=
  ⟨.inl rfl, List.nil_sublist _⟩

/-- A new publisher has the highest number so far. -/
theorem Ordered.number {s : MonitorEventHub Tid F} (h : s.Ordered) {t : Tid} {event : String}
    {fields : F} {targets : List ℕ} (htargets : targets.Perm s.subscribers) :
    ({ s.setPublisher t (.numbered (s.sequence + 1) event fields targets) with
      sequence := s.sequence + 1 } : MonitorEventHub Tid F).Ordered := by
  have hother : ∀ t', t' ≠ t →
      Function.update s.publishers t (.numbered (s.sequence + 1) event fields targets) t' =
        s.publishers t' := fun t' ht => Function.update_of_ne ht _ _
  have hself : Function.update s.publishers t
      (.numbered (s.sequence + 1) event fields targets) t =
        .numbered (s.sequence + 1) event fields targets := Function.update_self _ _ _
  have hseq : ∀ t' n,
      (Function.update s.publishers t
        (.numbered (s.sequence + 1) event fields targets) t').seq = some n →
      (t' = t ∧ n = s.sequence + 1) ∨ (t' ≠ t ∧ (s.publishers t').seq = some n) := by
    intro t' n hn
    by_cases ht : t' = t
    · subst ht
      rw [hself] at hn
      cases hn
      exact .inl ⟨rfl, rfl⟩
    · rw [hother t' ht] at hn
      exact .inr ⟨ht, hn⟩
  constructor
  · exact h.subscribers_nodup
  · exact h.subscribers_lt
  · intro t'
    by_cases ht : t' = t
    · subst ht
      simp only [setPublisher, hself]
      exact htargets.nodup_iff.mpr h.subscribers_nodup
    · simp only [setPublisher, hother t' ht]
      exact h.targets_nodup t'
  · intro t' n hn
    rcases hseq t' n hn with ⟨-, rfl⟩ | ⟨-, hold⟩
    · exact Nat.le_refl _
    · exact Nat.le_succ_of_le (h.seq_le t' n hold)
  · intro t₁ t₂ n hn₁ hn₂
    rcases hseq t₁ n hn₁ with ⟨rfl, rfl⟩ | ⟨-, hold₁⟩
    · rcases hseq t₂ _ hn₂ with ⟨rfl, -⟩ | ⟨-, hold₂⟩
      · rfl
      · exact absurd (h.seq_le t₂ _ hold₂) (by omega)
    · rcases hseq t₂ n hn₂ with ⟨-, rfl⟩ | ⟨-, hold₂⟩
      · exact absurd (h.seq_le t₁ _ hold₁) (by omega)
      · exact h.seq_inj t₁ t₂ n hold₁ hold₂
  · exact fun queue record hrecord => Nat.le_succ_of_le (h.history_le queue record hrecord)
  · intro t' n queue hn hqueue record hrecord
    rcases hseq t' n hn with ⟨-, rfl⟩ | ⟨ht, hold⟩
    · exact Nat.lt_succ_of_le (h.history_le queue record hrecord)
    · simp only [setPublisher, hother t' ht] at hqueue
      exact h.ahead t' n queue hold hqueue record hrecord
  · exact h.increasing

/-- A put adds its record to the history of one queue. -/
theorem history_put (s : MonitorEventHub Tid F) (t : Tid) (record : MonitorRecord F)
    (queue : ℕ) (targets : List ℕ) (drops queue' : ℕ) :
    ({ s.setPublisher t (.delivering record targets drops) with
        queues := Function.update s.queues queue (s.queues queue ++ [record]) } :
        MonitorEventHub Tid F).history queue' =
      s.history queue' ++ if queue' = queue then [record] else [] := by
  unfold history
  by_cases hq : queue' = queue
  · subst hq
    simp only [Function.update_self, if_true, List.append_assoc]
    rfl
  · simp only [Function.update_of_ne hq, hq, if_false, List.append_nil]
    rfl

/-- A put in order keeps every queue in order. -/
theorem Ordered.put {s : MonitorEventHub Tid F} (h : s.Ordered) {t : Tid}
    {record : MonitorRecord F} {queue : ℕ} {targets : List ℕ} {drops : ℕ}
    (hpublisher : s.publishers t = .delivering record (queue :: targets) drops)
    (horder : s.InOrder (.put t queue)) :
    ({ s.setPublisher t (.delivering record targets drops) with
      queues := Function.update s.queues queue (s.queues queue ++ [record]) } :
      MonitorEventHub Tid F).Ordered := by
  have hself : (s.publishers t).seq = some record.seq := by
    rw [hpublisher]
    rfl
  have hmem : queue ∈ (s.publishers t).targets := by
    rw [hpublisher]
    exact List.mem_cons_self
  have hnodup := h.targets_nodup t
  rw [hpublisher] at hnodup
  have hcontinues : Continues (s.publishers t) (.delivering record targets drops) := by
    rw [hpublisher]
    exact ⟨.inr rfl, List.sublist_cons_self queue targets⟩
  -- the hub but for the record just put
  have hrest : (s.setPublisher t (.delivering record targets drops)).Ordered :=
    h.mono ⟨h.subscribers_nodup, h.subscribers_lt⟩ rfl (fun _ => rfl)
      (continues_update hcontinues)
  refine ⟨hrest.subscribers_nodup, hrest.subscribers_lt, hrest.targets_nodup, hrest.seq_le,
    hrest.seq_inj, ?_, ?_, ?_⟩
  · intro queue' record' hrecord'
    rw [history_put, List.mem_append] at hrecord'
    rcases hrecord' with hold | hnew
    · exact hrest.history_le queue' record' hold
    · split at hnew
      · rw [List.mem_singleton.mp hnew]
        exact h.seq_le t record.seq hself
      · cases hnew
  · intro t' n queue' hn hqueue' record' hrecord'
    rw [history_put, List.mem_append] at hrecord'
    rcases hrecord' with hold | hnew
    · exact hrest.ahead t' n queue' hn hqueue' record' hold
    · split at hnew
      case isFalse => cases hnew
      case isTrue hq =>
        subst hq
        rw [List.mem_singleton.mp hnew]
        by_cases ht : t' = t
        · subst ht
          simp only [setPublisher, Function.update_self] at hqueue'
          exact absurd hqueue' (List.nodup_cons.mp hnodup).1
        · simp only [setPublisher, Function.update_of_ne ht] at hn hqueue'
          rcases Nat.lt_trichotomy record.seq n with hlt | heq | hgt
          · exact hlt
          · rw [← heq] at hn
            exact absurd (h.seq_inj t' t record.seq hn hself) ht
          · exact absurd hqueue' (horder t' record.seq n hself hn hgt)
  · intro queue'
    rw [history_put]
    split
    case isFalse =>
      rw [List.append_nil]
      exact h.increasing queue'
    case isTrue hq =>
      subst hq
      rw [List.map_append, List.pairwise_append]
      refine ⟨h.increasing queue', List.pairwise_singleton _ _, ?_⟩
      intro n hn n' hn'
      obtain ⟨record', hrecord', rfl⟩ := List.mem_map.mp hn
      rw [List.map_singleton, List.mem_singleton] at hn'
      rw [hn']
      exact h.ahead t record.seq queue' hself hmem record' hrecord'

theorem Ordered.step {s s' : MonitorEventHub Tid F} {e : Event Tid} (h : s.Ordered)
    (hstep : s.Step e s') (horder : s.InOrder e) : s'.Ordered := by
  have hsubscribers := And.intro h.subscribers_nodup h.subscribers_lt
  cases hstep with
  | subscribe =>
      refine h.mono ⟨List.nodup_cons.mpr ⟨?_, h.subscribers_nodup⟩, ?_⟩ rfl (fun _ => rfl)
        (continues_refl s)
      · exact fun hmem => absurd (h.subscribers_lt _ hmem) (Nat.lt_irrefl _)
      · intro queue hqueue
        rcases List.mem_cons.mp hqueue with rfl | hold
        · exact Nat.lt_succ_self _
        · exact Nat.lt_succ_of_lt (h.subscribers_lt queue hold)
  | unsubscribe queue =>
      exact h.mono ⟨h.subscribers_nodup.erase queue,
        fun queue' hmem => h.subscribers_lt queue' (List.mem_of_mem_erase hmem)⟩ rfl
        (fun _ => rfl) (continues_refl s)
  | number fields hidle hevent htargets => exact h.number htargets
  | stampFails hpublisher | encodeFails hpublisher | finish hpublisher =>
      exact h.mono hsubscribers rfl (fun _ => rfl) (continues_update (continues_idle _))
  | encode ts hpublisher | drop hpublisher =>
      refine h.mono hsubscribers rfl (fun _ => rfl) (continues_update ?_)
      rw [hpublisher]
      exact ⟨.inr rfl, by simp [Publisher.targets]⟩
  | put hpublisher hroom => exact h.put hpublisher horder
  | @get queue record rest hqueue =>
      refine h.mono hsubscribers rfl ?_ (continues_refl s)
      intro queue'
      unfold history
      by_cases hq : queue' = queue
      · subst hq
        simp only [Function.update_self, hqueue, List.append_assoc, List.singleton_append]
      · simp only [Function.update_of_ne hq]

/-- Every subscriber reads increasing numbers, in every run in which no publisher
overtakes another one. -/
theorem reachable_increasing (Tid F : Type) [DecidableEq Tid] (capacity : ℕ)
    (s : MonitorEventHub Tid F) (h : ((system Tid F capacity).restrict InOrder).Reachable s)
    (queue : ℕ) : (s.takenSeqs queue).Pairwise (· < ·) := by
  have hordered : s.Ordered := by
    refine h.invariant ?_ ?_
    · rintro s rfl
      exact ordered_init capacity
    · rintro s e s' - hordered ⟨hstep, horder⟩
      exact hordered.step hstep horder
  have hincreasing := hordered.increasing queue
  rw [history, List.map_append, List.pairwise_append] at hincreasing
  exact hincreasing.1

/-- Two publishers in flight at once: the first one puts its record before the second
one puts its own, and the subscriber reads both. -/
theorem reachable_increasing_two_records :
    ∃ s : MonitorEventHub Bool Unit, ((system Bool Unit 256).restrict InOrder).Reachable s ∧
      s.takenSeqs 0 = [1, 2] ∧ (s.takenSeqs 0).Pairwise (· < ·) := by
  let sys := (system Bool Unit 256).restrict InOrder
  have h₀ : sys.Reachable (init 256) := .initial rfl
  have h₁ : sys.Reachable _ := h₀.step ⟨.subscribe, trivial⟩
  have h₂ : sys.Reachable _ :=
    h₁.step ⟨.number (t := false) () rfl (show "tx.queued" ≠ "" by decide)
      (List.Perm.refl [0]), trivial⟩
  have h₃ : sys.Reachable _ :=
    h₂.step ⟨.number (t := true) () rfl (show "rx.frame" ≠ "" by decide)
      (List.Perm.refl [0]), trivial⟩
  have h₄ : sys.Reachable _ := h₃.step ⟨.encode (t := true) "T" rfl, trivial⟩
  have h₅ : sys.Reachable _ := h₄.step ⟨.encode (t := false) "T" rfl, trivial⟩
  have h₆ : sys.Reachable _ := h₅.step ⟨.put (t := false) rfl (by decide), by
    -- the other call still has the queue before it, with a greater number
    intro t' n n' hn hn' hlt
    obtain rfl : 1 = n := Option.some.inj hn
    cases t' with
    | false => exact absurd (Option.some.inj hn' : 1 = n') (by omega)
    | true => exact absurd (Option.some.inj hn' : 2 = n') (by omega)⟩
  have h₇ : sys.Reachable _ := h₆.step ⟨.put (t := true) rfl (by decide), by
    intro t' n n' hn hn' hlt
    obtain rfl : 2 = n := Option.some.inj hn
    cases t' with
    | false => exact List.not_mem_nil
    | true => exact absurd (Option.some.inj hn' : 2 = n') (by omega)⟩
  have h₈ : sys.Reachable _ :=
    h₇.step ⟨@Step.get _ _ _ _ 0 ⟨1, "T", "tx.queued", ()⟩ [⟨2, "T", "rx.frame", ()⟩] rfl,
      trivial⟩
  have h₉ : sys.Reachable _ :=
    h₈.step ⟨@Step.get _ _ _ _ 0 ⟨2, "T", "rx.frame", ()⟩ [] rfl, trivial⟩
  exact ⟨_, h₉, rfl, reachable_increasing Bool Unit 256 _ h₉ 0⟩

/-- The second publisher overtakes the first one. -/
theorem publishers_overtake :
    ¬ ∀ s : MonitorEventHub Bool Unit, (system Bool Unit 256).Reachable s →
      ∀ queue, (s.takenSeqs queue).Pairwise (· < ·) := by
  intro h
  let sys := system Bool Unit 256
  have h₀ : sys.Reachable (init 256) := .initial rfl
  have h₁ : sys.Reachable _ := h₀.step .subscribe
  have h₂ : sys.Reachable _ :=
    h₁.step (.number (t := false) () rfl (show "tx.queued" ≠ "" by decide) (List.Perm.refl [0]))
  have h₃ : sys.Reachable _ :=
    h₂.step (.number (t := true) () rfl (show "rx.frame" ≠ "" by decide) (List.Perm.refl [0]))
  have h₄ : sys.Reachable _ := h₃.step (.encode (t := true) "T" rfl)
  have h₅ : sys.Reachable _ := h₄.step (.put (t := true) rfl (by decide))
  have h₆ : sys.Reachable _ := h₅.step (.encode (t := false) "T" rfl)
  have h₇ : sys.Reachable _ := h₆.step (.put (t := false) rfl (by decide))
  have h₈ : sys.Reachable _ :=
    h₇.step (@Step.get _ _ _ _ 0 ⟨2, "T", "rx.frame", ()⟩ [⟨1, "T", "tx.queued", ()⟩] rfl)
  have h₉ : sys.Reachable _ := h₈.step (@Step.get _ _ _ _ 0 ⟨1, "T", "tx.queued", ()⟩ [] rfl)
  have horder : [2, 1].Pairwise (· < ·) := h _ h₉ 0
  exact absurd horder (by decide)

end MonitorEventHub

end YwdTnc
