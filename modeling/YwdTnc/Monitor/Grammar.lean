import YwdTnc.Monitor.RequestNames
import YwdTnc.Monitor.Wrappers

/-!
# The grammar of a request's events

When `enqueue` and `observe_rssi` do not overlap, the events of a request tell
its story in one of four ways. A submission publishes `dispatched` when the
router has its receipt, the half-duplex coordinator decides whether `complete` or
`failed` follows, and the wrapper of the queue publishes `timeout`; every
observation leaves the tracker's list equal to the queue's ids.
-/

namespace YwdTnc

open Interaction Prog

/-! ### A submission through the monitored router -/

/-- The event of an accepted burst. -/
def TXMonitor.dispatchedEvent (monitor : TXMonitor) (receipt : TXReceipt) : PublishedTX :=
  ⟨.dispatched, monitor.tracker.current, some receipt, none, none⟩

/-- A burst was taken. -/
def Accepted {R : Type} (t : List (PortCall R)) : Prop := ∃ c ∈ t, TookBurst c

/-- `dispatched` was published once if a burst was taken, and nothing otherwise. -/
def TXMonitor.Accounts {R : Type} (m m' : TXMonitor) (t : List (PortCall R)) : Prop :=
  (m' = m ∧ ∀ c ∈ t, ¬ TookBurst c) ∨
    ∃ receipt, m' = m.publish (m.dispatchedEvent receipt) ∧ Accepted t

theorem not_tookBurst_of_not_burst {R : Type} {t : List (PortCall R)}
    (h : ∀ c ∈ t, ¬ c.query.isBurst) : ∀ c ∈ t, ¬ TookBurst c :=
  fun c hc hburst => h c hc hburst.isBurst

namespace TXMonitor.Accounts

variable {R : Type} {m m' : TXMonitor} {t : List (PortCall R)}

theorem quiet (m : TXMonitor) (h : ∀ c ∈ t, ¬ c.query.isBurst) : m.Accounts m t :=
  .inl ⟨rfl, not_tookBurst_of_not_burst h⟩

theorem nil (m : TXMonitor) : m.Accounts m ([] : List (PortCall R)) := .quiet m (by simp)

/-- Calls that send nothing, before and after. -/
theorem around (h : m.Accounts m' t) {a b : List (PortCall R)}
    (ha : ∀ c ∈ a, ¬ c.query.isBurst) (hb : ∀ c ∈ b, ¬ c.query.isBurst) :
    m.Accounts m' (a ++ t ++ b) := by
  rcases h with ⟨rfl, ht⟩ | ⟨receipt, hm, c, hc, hburst⟩
  · refine .inl ⟨rfl, fun c hc => ?_⟩
    rw [List.mem_append, List.mem_append] at hc
    rcases hc with (hc | hc) | hc
    · exact not_tookBurst_of_not_burst ha c hc
    · exact ht c hc
    · exact not_tookBurst_of_not_burst hb c hc
  · exact .inr ⟨receipt, hm, c, by simp [hc], hburst⟩

end TXMonitor.Accounts

namespace MonitoredStack

variable {R : Type}

theorem router_accounts {frame : Bytes} {context : TNCTransmitContext} {timeout : Option ℚ}
    {s s' : MonitoredStack} {o : Outcome PyError TXReceipt} {t : List (PortCall R)}
    (h : Runs (MonitoredContextualRouter.submitFrame frame context timeout) s o s' t) :
    s.monitor.Accounts s'.monitor t ∧ (o.isReturned = true → Accepted t) := by
  rcases h.bind_cases with ⟨receipt, s₁, t₁, t₂, hrouter, hrest, rfl⟩ | ⟨e, hrouter, rfl⟩ |
    ⟨hrouter, rfl⟩
  · obtain ⟨router, hrun, rfl⟩ := hrouter.zoom_cases
    obtain ⟨rfl, rfl, rfl⟩ := runs_pure.1 hrest.modify_bind
    rw [List.append_nil]
    have hburst : Accepted t₁ := by
      cases ContextualTXDelayRouter.submitFrame_delivers hrun with
      | unsent hcalls ho => exact absurd rfl (ho receipt)
      | @sent timeout count packed status =>
          exact ⟨_, List.mem_cons_of_mem _ (List.mem_cons_self ..), timeout, count, packed, rfl⟩
    exact ⟨.inr ⟨receipt, rfl, hburst⟩, fun _ => hburst⟩
  · obtain ⟨router, hrun, rfl⟩ := hrouter.zoom_cases
    have hquiet := not_tookBurst (ContextualTXDelayRouter.submitFrame_delivers hrun) nofun
    exact ⟨.inl ⟨rfl, hquiet⟩, nofun⟩
  · obtain ⟨router, hrun, rfl⟩ := hrouter.zoom_cases
    have hquiet := not_tookBurst (ContextualTXDelayRouter.submitFrame_delivers hrun) nofun
    exact ⟨.inl ⟨rfl, hquiet⟩, nofun⟩

theorem submitFrame_accounts {frame : Bytes} {timeout : ℚ} {s s' : MonitoredStack}
    {o : Outcome PyError TXReceipt} {t : List (PortCall R)}
    (h : Runs (submitFrame frame timeout) s o s' t) :
    s.monitor.Accounts s'.monitor t ∧ (o.isReturned = true → Accepted t) := by
  have hcall := h.get_bind
  split at hcall
  · obtain ⟨rfl, rfl, rfl⟩ := runs_raise.1 hcall
    exact ⟨.nil _, nofun⟩
  · exact router_accounts hcall

end MonitoredStack

/-! ### The half-duplex coordinator around it -/

namespace PersistentHalfDuplexSubmitter

variable {R S τ : Type}

/-- The end of a cycle leaves the submitter's own state alone, and sends nothing. -/
theorem recover_kept {parameters : HalfDuplexParameters} {timeout : ℚ}
    {s s' : HalfDuplexSnapshot × τ} {o : Outcome PyError S} {t : List (PortCall R)}
    (h : Runs (recover parameters timeout) s o s' t) :
    s'.2 = s.2 ∧ ∀ c ∈ t, ¬ c.query.isBurst := by
  refine ⟨?_, Restoring.not_burst (recover_cases h).1⟩
  rcases h.modify_bind.attempt_bind_cases with
    ⟨_, s₁, t₁, t₂, hrestore, hend, -⟩ | ⟨e, s₁, t₁, t₂, hrestore, hend, -⟩ | ⟨hrestore, -⟩
  · obtain ⟨-, rfl, -⟩ := runs_raise.1 hend.modify_bind
    exact (restore_untouched parameters timeout _ _ _ _ hrestore).2
  · obtain ⟨-, rfl, -⟩ := runs_raise.1 hend.modify_bind
    exact (restore_untouched parameters timeout _ _ _ _ hrestore).2
  · exact (restore_untouched parameters timeout _ _ _ _ hrestore).2

theorem complete_kept {parameters : HalfDuplexParameters} {timeout : ℚ} {result : S}
    {s s' : HalfDuplexSnapshot × τ} {o : Outcome PyError S} {t : List (PortCall R)}
    (h : Runs (complete parameters timeout result) s o s' t) :
    s'.2 = s.2 ∧ ∀ c ∈ t, ¬ c.query.isBurst := by
  refine ⟨?_, Restoring.not_burst (complete_cases h).1⟩
  rcases h.modify_bind.attempt_bind_cases with
    ⟨_, s₁, t₁, t₂, hrestore, hend, -⟩ | ⟨e, s₁, t₁, t₂, hrestore, hend, -⟩ | ⟨hrestore, -⟩
  · obtain ⟨-, rfl, -⟩ := runs_pure.1 hend.modify_bind
    exact (restore_untouched parameters timeout _ _ _ _ hrestore).2
  · obtain ⟨-, rfl, -⟩ := runs_raise.1 hend.modify_bind
    exact (restore_untouched parameters timeout _ _ _ _ hrestore).2
  · exact (restore_untouched parameters timeout _ _ _ _ hrestore).2

theorem preTransmit_kept {timeout : ℚ} {s s' : HalfDuplexSnapshot × τ}
    {o : Outcome PyError Unit} {t : List (PortCall R)}
    (h : Runs (preTransmit timeout) s o s' t) :
    s'.2 = s.2 ∧ ∀ c ∈ t, ¬ c.query.isBurst :=
  ⟨(preTransmit_untouched timeout _ _ _ _ h).2, fun c hc =>
    c.query.isHandoff_not_burst (preTransmit_callsOnly timeout _ _ _ _ h c hc)⟩

/-- What holds of a submission, and of calls that send nothing around it, holds of
a cycle. -/
theorem cycle_around {Rel : τ → τ → List (PortCall R) → Prop}
    (hquiet : ∀ x t, (∀ c ∈ t, ¬ c.query.isBurst) → Rel x x t)
    (haround : ∀ x x' a t b, (∀ c ∈ a, ¬ c.query.isBurst) → (∀ c ∈ b, ¬ c.query.isBurst) →
      Rel x x' t → Rel x x' (a ++ t ++ b))
    {parameters : HalfDuplexParameters} {submit : Bytes → ℚ → PortProg R τ S} {frame : Bytes}
    {timeout : ℚ}
    (hsubmit : ∀ x o x' t, Runs (submit frame timeout) x o x' t → Rel x x' t)
    {s s' : HalfDuplexSnapshot × τ} {o : Outcome PyError S} {t : List (PortCall R)}
    (h : Runs (cycle parameters submit frame timeout) s o s' t) : Rel s.2 s'.2 t := by
  rcases h.attempt_bind_cases with
    ⟨_, s₁, t₁, t₂, hpre, hrest, rfl⟩ | ⟨e, s₁, t₁, t₂, hpre, hrest, rfl⟩ | ⟨hpre, -⟩
  · obtain ⟨hkept, hcalls⟩ := preTransmit_kept hpre
    rcases hrest.attempt_bind_cases with
      ⟨result, s₂, t₂, t₃, hrun, hend, rfl⟩ | ⟨e, s₂, t₂, t₃, hrun, hend, rfl⟩ | ⟨hrun, -⟩
    · obtain ⟨x, hinner, rfl⟩ := hrun.zoom_cases
      obtain ⟨hsame, hcalls'⟩ := complete_kept hend
      rw [hkept] at hinner
      rw [hsame, ← List.append_assoc]
      exact haround _ _ _ _ _ hcalls hcalls' (hsubmit _ _ _ _ hinner)
    · obtain ⟨x, hinner, rfl⟩ := hrun.zoom_cases
      obtain ⟨hsame, hcalls'⟩ := recover_kept hend
      rw [hkept] at hinner
      rw [hsame, ← List.append_assoc]
      exact haround _ _ _ _ _ hcalls hcalls' (hsubmit _ _ _ _ hinner)
    · obtain ⟨x, hinner, rfl⟩ := hrun.zoom_cases
      rw [hkept] at hinner
      rw [← List.append_nil (t₁ ++ t₂)]
      exact haround _ _ _ _ _ hcalls (by simp) (hsubmit _ _ _ _ hinner)
  · obtain ⟨-, rfl, rfl⟩ := runs_raise.1 hrest.modify_bind
    obtain ⟨hkept, hcalls⟩ := preTransmit_kept hpre
    rw [List.append_nil, show s₁.2 = s.2 from hkept]
    exact hquiet _ _ hcalls
  · obtain ⟨hkept, hcalls⟩ := preTransmit_kept hpre
    rw [hkept]
    exact hquiet _ _ hcalls

theorem submitFrame_around {Rel : τ → τ → List (PortCall R) → Prop}
    (hquiet : ∀ x t, (∀ c ∈ t, ¬ c.query.isBurst) → Rel x x t)
    (haround : ∀ x x' a t b, (∀ c ∈ a, ¬ c.query.isBurst) → (∀ c ∈ b, ¬ c.query.isBurst) →
      Rel x x' t → Rel x x' (a ++ t ++ b))
    {parameters : HalfDuplexParameters} {submit : Bytes → ℚ → PortProg R τ S} {frame : Bytes}
    {timeout : Option ℚ}
    (hsubmit : ∀ timeout x o x' t, Runs (submit frame timeout) x o x' t → Rel x x' t)
    {s s' : HalfDuplexSnapshot × τ} {o : Outcome PyError S} {t : List (PortCall R)}
    (h : Runs (submitFrame parameters submit frame timeout) s o s' t) : Rel s.2 s'.2 t := by
  have hcall := h.get_bind
  split at hcall
  · obtain ⟨-, rfl, rfl⟩ := runs_raise.1 hcall
    exact hquiet _ _ (by simp)
  split at hcall
  · obtain ⟨-, rfl, rfl⟩ := runs_raise.1 hcall
    exact hquiet _ _ (by simp)
  dsimp only at hcall
  split at hcall
  · obtain ⟨-, rfl, rfl⟩ := runs_raise.1 hcall
    exact hquiet _ _ (by simp)
  rcases hcall.modify_bind.ensuring_cases with ⟨s₂, hrun, -, rfl⟩ | ⟨hrun, -⟩
  · have hrel := cycle_around hquiet haround (hsubmit _) hrun
    exact hrel
  · have hrel := cycle_around hquiet haround (hsubmit _) hrun
    exact hrel

end PersistentHalfDuplexSubmitter

/-! ### A call of the lifecycle -/

namespace MonitoredSubmitter

open PersistentHalfDuplexSubmitter MonitoredStack

variable {R : Type}

/-- A call of the coordinator that returns had its burst taken. -/
theorem coordinator_accounts {parameters : HalfDuplexParameters} {frame : Bytes}
    {timeout : Option ℚ} {s s' : MonitoredSubmitter} {o : Outcome PyError TXReceipt}
    {t : List (PortCall R)}
    (h : Runs (PersistentHalfDuplexSubmitter.submitFrame parameters MonitoredStack.submitFrame
      frame timeout) s o s' t) :
    s.2.monitor.Accounts s'.2.monitor t ∧ (o.isReturned = true → Accepted t) := by
  constructor
  · refine @submitFrame_around R TXReceipt MonitoredStack
      (fun x x' t => x.monitor.Accounts x'.monitor t) ?_ ?_ _ _ _ _ ?_ _ _ _ _ h
    · exact fun x t ht => .quiet x.monitor ht
    · exact fun x x' a t b ha hb ht => ht.around ha hb
    · exact fun timeout x o x' t hrun => (MonitoredStack.submitFrame_accounts hrun).1
  · intro ho
    cases submitFrame_submits h with
    | refused | pending => cases ho
    | cycle _ _ _ hcycle =>
        cases hcycle with
        | completed _ _ hsubmit =>
            obtain ⟨c, hc, hburst⟩ := (MonitoredStack.submitFrame_accounts hsubmit).2 rfl
            exact ⟨c, by simp [hc], hburst⟩
        | handoffFailed | handoffPending | submitPending | restorePending | recovered
        | unrecovered | restoreFailed => cases ho

theorem contextual_accounts {parameters : HalfDuplexParameters} {frame : Bytes}
    {context : TNCTransmitContext} {timeout : Option ℚ} {s s' : MonitoredSubmitter}
    {o : Outcome PyError TXReceipt} {t : List (PortCall R)}
    (h : Runs (contextual parameters frame context timeout) s o s' t) :
    s.2.monitor.Accounts s'.2.monitor t ∧ (o.isReturned = true → Accepted t) := by
  -- arming and disarming leave the monitor alone and ask for nothing
  have harm : ∀ {o : Outcome PyError Unit} {s₁ : MonitoredSubmitter} {t₁ : List (PortCall R)},
      Runs (inner (MonitoredStack.arm context)) s o s₁ t₁ →
        s₁.2.monitor = s.2.monitor ∧ t₁ = [] := by
    intro o s₁ t₁ hrun
    obtain ⟨x, hzoom, rfl⟩ := hrun.zoom_cases
    obtain ⟨a, harms, rfl⟩ := hzoom.zoom_cases
    exact ⟨rfl, (ArmedContextAdapter.arm_cases harms).1⟩
  rcases h.bind_cases with ⟨_, s₁, t₁, t₂, hrun, hcall, rfl⟩ | ⟨e, hrun, rfl⟩ | ⟨hrun, rfl⟩
  · obtain ⟨hmonitor, rfl⟩ := harm hrun
    rw [List.nil_append, ← hmonitor]
    rcases hcall.ensuring_cases with ⟨s₂, hends, -, rfl⟩ | ⟨hends, rfl⟩
    · have hsame := coordinator_accounts hends
      exact hsame
    · exact coordinator_accounts hends
  · obtain ⟨hmonitor, rfl⟩ := harm hrun
    rw [hmonitor]
    exact ⟨.nil _, nofun⟩
  · obtain ⟨hmonitor, rfl⟩ := harm hrun
    rw [hmonitor]
    exact ⟨.nil _, nofun⟩

end MonitoredSubmitter

/-- The events of one call of the lifecycle, under the current request. -/
inductive Tells {R : Type} (record : Option TrackedTXRequest) :
    Outcome PyError TXReceipt → List (PortCall R) → List PublishedTX → Prop
  | complete {receipt result : TXReceipt} {t : List (PortCall R)} (hburst : Accepted t) :
      Tells record (.returned result) t
        [.plain .channelClear record, ⟨.dispatched, record, some receipt, none, none⟩,
          .plain .complete record]
  | unsent {e : PyError} {t : List (PortCall R)} (hburst : ¬ Accepted t) :
      Tells record (.raised e) t
        [.plain .channelClear record, ⟨.failed, record, none, some e.describe, none⟩]
  | sent {e : PyError} {receipt : TXReceipt} {t : List (PortCall R)}
      (hburst : Accepted t) :
      Tells record (.raised e) t
        [.plain .channelClear record, ⟨.dispatched, record, some receipt, none, none⟩,
          ⟨.failed, record, none, some e.describe, none⟩]
  | clearing {t : List (PortCall R)} (hburst : ¬ Accepted t) :
      Tells record .pending t [.plain .channelClear record]
  | dispatching {receipt : TXReceipt} {t : List (PortCall R)} (hburst : Accepted t) :
      Tells record .pending t
        [.plain .channelClear record, ⟨.dispatched, record, some receipt, none, none⟩]

/-- Publishing some events changes nothing but the hub. -/
def TXMonitor.tell (monitor : TXMonitor) (events : List PublishedTX) : TXMonitor :=
  { monitor with published := monitor.published ++ events }

@[simp] theorem TXMonitor.tell_tracker (monitor : TXMonitor) (events : List PublishedTX) :
    (monitor.tell events).tracker = monitor.tracker :=
  rfl

theorem TXMonitor.publish_eq_tell (monitor : TXMonitor) (event : PublishedTX) :
    monitor.publish event = monitor.tell [event] :=
  rfl

theorem TXMonitor.tell_tell (monitor : TXMonitor) (events events' : List PublishedTX) :
    (monitor.tell events).tell events' = monitor.tell (events ++ events') := by
  simp only [tell, List.append_assoc]

theorem MonitoredContextualLifecycle.submitFrame_tells {R : Type}
    {parameters : HalfDuplexParameters} {frame : Bytes} {context : TNCTransmitContext}
    {timeout : Option ℚ} {s s' : MonitoredSubmitter} {o : Outcome PyError TXReceipt}
    {t : List (PortCall R)}
    (h : Runs (submitFrame parameters frame context timeout) s o s' t) :
    ∃ events, Tells s.2.monitor.tracker.current o t events ∧
      s'.2.monitor = s.2.monitor.tell events := by
  have hquiet : ∀ {t : List (PortCall R)}, (∀ c ∈ t, ¬ TookBurst c) → ¬ Accepted t :=
    fun ht ⟨c, hc, hburst⟩ => ht c hc hburst
  rcases h.get_bind.modify_bind.attempt_bind_cases with
    ⟨result, s₁, t₁, t₂, hcall, hend, rfl⟩ | ⟨e, s₁, t₁, t₂, hcall, hend, rfl⟩ | ⟨hcall, rfl⟩
  · obtain ⟨rfl, rfl, rfl⟩ := runs_pure.1 hend.modify_bind
    rw [List.append_nil]
    obtain ⟨⟨-, ht⟩ | ⟨receipt, hmonitor, hburst⟩, hreturned⟩ :=
      MonitoredSubmitter.contextual_accounts hcall
    · exact absurd (hreturned rfl) (hquiet ht)
    · refine ⟨_, @Tells.complete _ _ receipt _ _ hburst, ?_⟩
      simp only [hmonitor, TXMonitor.publish_eq_tell, TXMonitor.tell_tell]
      rfl
  · obtain ⟨rfl, rfl, rfl⟩ := runs_raise.1 hend.modify_bind
    rw [List.append_nil]
    obtain ⟨⟨hmonitor, ht⟩ | ⟨receipt, hmonitor, hburst⟩, -⟩ :=
      MonitoredSubmitter.contextual_accounts hcall
    · refine ⟨_, .unsent (hquiet ht), ?_⟩
      simp only [hmonitor, TXMonitor.publish_eq_tell, TXMonitor.tell_tell]
      rfl
    · refine ⟨_, @Tells.sent _ _ _ receipt _ hburst, ?_⟩
      simp only [hmonitor, TXMonitor.publish_eq_tell, TXMonitor.tell_tell]
      rfl
  · obtain ⟨⟨hmonitor, ht⟩ | ⟨receipt, hmonitor, hburst⟩, -⟩ :=
      MonitoredSubmitter.contextual_accounts hcall
    · exact ⟨_, .clearing (hquiet ht), hmonitor⟩
    · refine ⟨_, @Tells.dispatching _ _ receipt _ hburst, ?_⟩
      simp only [hmonitor, TXMonitor.publish_eq_tell, TXMonitor.tell_tell]
      rfl

/-! ### One observation -/

/-- The tracker's list is the queue's, and it has a record of every request. -/
structure Tracked (waiting : List Admission) (tracker : TXRequestTracker) : Prop where
  pending : tracker.pending = waiting.map Admission.id
  records : ∀ a ∈ waiting, ∃ record, tracker.records a.id = some record ∧
    record.requestId = a.id

/-- The record of an observation: that of the oldest request, with its reading. -/
def Observing (waiting : List Admission) (raw : ℤ) (record : Option TrackedTXRequest) : Prop :=
  ∀ a, waiting.head? = some a →
    ∃ r, record = some r ∧ r.requestId = a.id ∧ r.rawRssi = some raw

theorem Tracked.begin {waiting : List Admission} {tracker : TXRequestTracker}
    (h : Tracked waiting tracker) (raw : ℤ) :
    ∃ tracker' record, tracker.beginObservation raw = .ok (tracker', record) ∧
      Tracked waiting tracker' ∧ Observing waiting raw record ∧ tracker'.current = record := by
  obtain ⟨hpending, hrecords⟩ := h
  cases waiting with
  | nil =>
      rw [List.map_nil] at hpending
      refine ⟨{ tracker with currentId := none }, none, ?_, ⟨hpending, hrecords⟩, ?_, rfl⟩
      · rw [TXRequestTracker.beginObservation, hpending]
      · intro b hb
        cases hb
  | cons a rest =>
      rw [List.map_cons] at hpending
      obtain ⟨old, hold, hid⟩ := hrecords a (List.mem_cons_self ..)
      let record := { old with rawRssi := some raw }
      refine ⟨{ tracker with
          records := Function.update tracker.records a.id (some record)
          currentId := some a.id }, some record, ?_, ⟨hpending, ?_⟩, ?_, ?_⟩
      · rw [TXRequestTracker.beginObservation, hpending]
        simp only [hold]
        rfl
      · intro b hb
        by_cases hsame : b.id = a.id
        · rw [hsame]
          exact ⟨record, Function.update_self .., hid⟩
        · obtain ⟨r, hr, hrid⟩ := hrecords b hb
          exact ⟨r, (Function.update_of_ne hsame _ _).trans hr, hrid⟩
      · intro b hb
        cases hb
        exact ⟨record, rfl, hid, rfl⟩
      · simp only [TXRequestTracker.current, Option.bind_some, Function.update_self]

/-- The oldest request is finished. -/
theorem Tracked.finish {a : Admission} {rest : List Admission} {tracker : TXRequestTracker}
    (h : Tracked (a :: rest) tracker) (hdistinct : ∀ b ∈ rest, b.id ≠ a.id) :
    Tracked rest (tracker.finish (some a.id)) := by
  obtain ⟨hpending, hrecords⟩ := h
  constructor
  · rw [List.map_cons] at hpending
    simp only [TXRequestTracker.finish, hpending, List.erase_cons_head]
  · intro b hb
    obtain ⟨r, hr, hid⟩ := hrecords b (List.mem_cons_of_mem _ hb)
    exact ⟨r, (Function.update_of_ne (hdistinct b hb) _ _).trans hr, hid⟩

/-- A body is added behind the others. -/
theorem Tracked.add {waiting : List Admission} {tracker : TXRequestTracker}
    (h : Tracked waiting tracker) {a : Admission} (body : Bytes)
    (hfresh : ∀ b ∈ waiting, b.id ≠ a.id) :
    Tracked (waiting ++ [a]) (tracker.add a.1 body) := by
  obtain ⟨hpending, hrecords⟩ := h
  constructor
  · simp only [TXRequestTracker.add, hpending, List.map_append, List.map_singleton]
    rfl
  · intro b hb
    rcases List.mem_append.mp hb with hb | hb
    · obtain ⟨r, hr, hid⟩ := hrecords b hb
      exact ⟨r, (Function.update_of_ne (hfresh b hb) _ _).trans hr, hid⟩
    · rw [List.mem_singleton.mp hb]
      exact ⟨TXRequestTracker.record a.1 body, Function.update_self .., rfl⟩

theorem Tracked.clearCurrent {waiting : List Admission} {tracker : TXRequestTracker}
    (h : Tracked waiting tracker) : Tracked waiting tracker.clearCurrent :=
  ⟨h.pending, h.records⟩

namespace MonitoredPath

variable {R : Type}

/-- The exits of the wrapped call: it is over without a submission, or the head
was submitted and the lifecycle told its story. -/
inductive Delegates (q : KISSDataAdmissionQueue) (m m' : TXMonitor) (now : ℚ) (raw : ℤ)
    (source : RandomByteSource) : Outcome PyError
      (KISSDataAdmissionQueue × Except PyError (KISSDataQueueObservation TXReceipt)) →
      List (PortCall R) → Prop
  | done {q' : KISSDataAdmissionQueue}
      {result : Except PyError (KISSDataQueueObservation TXReceipt)}
      (hprepares : q.Prepares now raw source q' (.done result)) (hmonitor : m' = m) :
      Delegates q m m' now raw source (.returned (q', result)) []
  | submitted {q' : KISSDataAdmissionQueue} {now' : ℚ} {request : Request}
      {access : ChannelAccessObservation} {result : Except PyError TXReceipt}
      {t : List (PortCall R)} {events : List PublishedTX}
      (hprepares : q.Prepares (R := TXReceipt) now raw source q'
        (.submit now' request access))
      (htells : Tells m.tracker.current (.ofExcept result) t events)
      (hmonitor : m' = m.tell events) :
      Delegates q m m' now raw source
        (.returned ((q'.finish now' request access result).1,
          .ok (q'.finish now' request access result).2)) t
  | pending {q' : KISSDataAdmissionQueue} {now' : ℚ} {request : Request}
      {access : ChannelAccessObservation} {t : List (PortCall R)} {events : List PublishedTX}
      (hprepares : q.Prepares (R := TXReceipt) now raw source q'
        (.submit now' request access))
      (htells : Tells m.tracker.current .pending t events) (hmonitor : m' = m.tell events) :
      Delegates q m m' now raw source .pending t

theorem delegate_delegates {parameters : HalfDuplexParameters} {q : KISSDataAdmissionQueue}
    {now : ℚ} {raw : ℤ} {source : RandomByteSource} {s s' : MonitoredSubmitter}
    {o : Outcome PyError
      (KISSDataAdmissionQueue × Except PyError (KISSDataQueueObservation TXReceipt))}
    {t : List (PortCall R)} (h : Runs (delegate parameters q now raw source) s o s' t) :
    Delegates q s.2.monitor s'.2.monitor now raw source o t := by
  have hprepares := q.prepare_prepares (R := TXReceipt) now raw source
  unfold delegate KISSDataAdmissionQueue.observeRssi at h
  rcases hprepare : q.prepare (R := TXReceipt) now raw source with ⟨q₁, prepared⟩
  rw [hprepare] at h hprepares
  cases prepared with
  | done result =>
      obtain ⟨rfl, rfl, rfl⟩ := runs_pure.1 h
      exact .done hprepares rfl
  | submit now' request access =>
      rcases h.attempt_bind_cases with
        ⟨r, s₁, t₁, t₂, hsubmit, hend, rfl⟩ | ⟨e, s₁, t₁, t₂, hsubmit, hend, rfl⟩ |
        ⟨hsubmit, rfl⟩
      · obtain ⟨rfl, rfl, rfl⟩ := runs_pure.1 hend
        obtain ⟨events, htells, hmonitor⟩ :=
          MonitoredContextualLifecycle.submitFrame_tells hsubmit
        rw [List.append_nil]
        have hresult : Tells s.2.monitor.tracker.current (.ofExcept (.ok r)) t₁ events := htells
        exact .submitted hprepares hresult hmonitor
      · obtain ⟨rfl, rfl, rfl⟩ := runs_pure.1 hend
        obtain ⟨events, htells, hmonitor⟩ :=
          MonitoredContextualLifecycle.submitFrame_tells hsubmit
        rw [List.append_nil]
        have hresult : Tells s.2.monitor.tracker.current (.ofExcept (.error e)) t₁ events :=
          htells
        exact .submitted hprepares hresult hmonitor
      · obtain ⟨events, htells, hmonitor⟩ :=
          MonitoredContextualLifecycle.submitFrame_tells hsubmit
        exact .pending hprepares htells hmonitor

/-- The story of an observation: what the request in front of the queue went
through, and the events that tell it. -/
inductive Story (waiting : List Admission) (raw : ℤ) :
    Outcome PyError (KISSDataQueueObservation TXReceipt) → List (PortCall R) →
      List PublishedTX → List Admission → Prop
  | quiet {o : Outcome PyError (KISSDataQueueObservation TXReceipt)}
      (hstate : ∀ observation, o = .returned observation →
        MonitoredAdmissionQueue.terminalState observation.requestState = false) :
      Story waiting raw o [] [] waiting
  | timeout {a : Admission} {rest : List Admission} {record : TrackedTXRequest}
      {observation : KISSDataQueueObservation TXReceipt} (hwaiting : waiting = a :: rest)
      (hrecord : record.requestId = a.id) (hraw : record.rawRssi = some raw)
      (hid : observation.requestId = some a.id)
      (hstate : observation.requestState = some .timedOut) :
      Story waiting raw (.returned observation) []
        [⟨.timeout, some record, none, none, some observation.reason⟩] rest
  | submitted {a : Admission} {rest : List Admission} {record : TrackedTXRequest}
      {observation : KISSDataQueueObservation TXReceipt} {result : Except PyError TXReceipt}
      {t : List (PortCall R)} {events : List PublishedTX} (hwaiting : waiting = a :: rest)
      (hrecord : record.requestId = a.id) (hraw : record.rawRssi = some raw)
      (hid : observation.requestId = some a.id)
      (htells : Tells (some record) (.ofExcept result) t events)
      (hstate : observation.requestState =
        some (if result.isOk then .dispatched else .downstreamFailed)) :
      Story waiting raw (.returned observation) t events rest
  | pending {a : Admission} {rest waiting' : List Admission} {record : TrackedTXRequest}
      {t : List (PortCall R)} {events : List PublishedTX} (hwaiting : waiting = a :: rest)
      (hrecord : record.requestId = a.id) (hraw : record.rawRssi = some raw)
      (htells : Tells (some record) .pending t events) :
      Story waiting raw .pending t events waiting'

/-! What the wrapper adds to an observation. -/

section Account

variable {record : Option TrackedTXRequest}
  {observation : KISSDataQueueObservation TXReceipt} {m : TXMonitor}

theorem account_quiet
    (h : MonitoredAdmissionQueue.terminalState observation.requestState = false) :
    account record observation m = m := by
  have hstate : observation.requestState ≠ some .timedOut := by
    intro heq
    rw [heq] at h
    cases h
  simp only [account, if_neg hstate, h, Bool.false_eq_true, if_false]

theorem account_timedOut (h : observation.requestState = some .timedOut) :
    account record observation m =
      { m.tell [⟨.timeout, record, none, none, some observation.reason⟩] with
        tracker := m.tracker.finish observation.requestId } := by
  simp only [account, h, if_true, MonitoredAdmissionQueue.terminalState,
    TXMonitor.publish_eq_tell, TXMonitor.tell_tracker]

theorem account_submitted (h : observation.requestState = some .dispatched ∨
    observation.requestState = some .downstreamFailed) :
    account record observation m =
      { m with tracker := m.tracker.finish observation.requestId } := by
  rcases h with h | h <;>
    simp only [account, h, Option.some.injEq, reduceCtorEq, if_false,
      MonitoredAdmissionQueue.terminalState, if_true]

end Account

/-- The head's id is its own as long as the ids increase. -/
theorem ne_head_of_pairwise {a : Admission} {rest : List Admission}
    (h : ((a :: rest).map Admission.id).Pairwise (· < ·)) : ∀ b ∈ rest, b.id ≠ a.id := by
  rw [List.map_cons, List.pairwise_cons] at h
  exact fun b hb => Nat.ne_of_gt (h.1 b.id (List.mem_map_of_mem hb))

section Observation

variable {q q' : KISSDataAdmissionQueue} {m m' : TXMonitor} {now : ℚ} {raw : ℤ}
  {source : RandomByteSource} {t : List (PortCall R)} {record : Option TrackedTXRequest}

/-- An observation that reports something leaves the tracker aligned. -/
theorem Delegates.story {observation : KISSDataQueueObservation TXReceipt}
    (h : Delegates q m m' now raw source (.returned (q', .ok observation)) t)
    (htracked : Tracked q.waiting m.tracker)
    (hsorted : (q.waiting.map Admission.id).Pairwise (· < ·))
    (hcurrent : m.tracker.current = record) (hrecord : Observing q.waiting raw record) :
    ∃ events, (account record observation m').published = m.published ++ events ∧
      Story q.waiting raw (.returned observation) t events q'.waiting ∧
      Tracked q'.waiting (account record observation m').tracker := by
  generalize hresult : Outcome.returned (q', Except.ok observation) = o at h
  cases h with
  | @done q₁ result hprepares hmonitor =>
      cases hresult
      rw [hmonitor]
      rcases KISSDataAdmissionQueue.waiting_prepare_ok hprepares with
        ⟨hwaiting, hstate⟩ | ⟨a, hwaiting, hstate, hid, -⟩
      · rw [account_quiet hstate, hwaiting]
        refine ⟨[], (List.append_nil _).symm, .quiet ?_, htracked⟩
        rintro _ ⟨⟩
        exact hstate
      · rw [account_timedOut hstate, hid]
        rw [hwaiting] at htracked hsorted hrecord ⊢
        obtain ⟨r, rfl, hrid, hraw⟩ := hrecord a rfl
        exact ⟨_, rfl, .timeout rfl hrid hraw hid hstate,
          htracked.finish (ne_head_of_pairwise hsorted)⟩
  | @submitted q₁ now' request access result _ events hprepares htells hmonitor =>
      cases hresult
      obtain ⟨rest, hqueue⟩ := hprepares.submit_head
      have hwaiting : q.waiting = request.admission :: rest.map Request.admission := by
        rw [← (KISSDataAdmissionQueue.waiting_prepare_submit hprepares).1,
          KISSDataAdmissionQueue.waiting, hqueue, List.map_cons]
      have hrest : (q₁.finish now' request access result).1.waiting =
          rest.map Request.admission := by
        rw [(q₁.finish_eq now' request access result).1, KISSDataAdmissionQueue.waiting, hqueue,
          List.map_cons, List.tail_cons]
      have hid : (q₁.finish now' request access result).2.requestId =
          some request.admission.id := by
        cases result <;> rfl
      have hstate : (q₁.finish now' request access result).2.requestState =
          some (if result.isOk then .dispatched else .downstreamFailed) := by
        cases result <;> rfl
      have hterminal : (q₁.finish now' request access result).2.requestState = some .dispatched ∨
          (q₁.finish now' request access result).2.requestState = some .downstreamFailed := by
        rw [hstate]
        cases result with
        | ok r => exact .inl rfl
        | error e => exact .inr rfl
      rw [account_submitted hterminal, hid, hmonitor, hrest]
      rw [hwaiting] at htracked hsorted hrecord ⊢
      obtain ⟨r, rfl, hrid, hraw⟩ := hrecord request.admission rfl
      rw [hcurrent] at htells
      exact ⟨events, rfl, .submitted rfl hrid hraw hid htells hstate,
        htracked.finish (ne_head_of_pairwise hsorted)⟩
  | pending => cases hresult

/-- A call of the queue that raises leaves its requests waiting. -/
theorem Delegates.raises {e : PyError}
    (h : Delegates q m m' now raw source (.returned (q', .error e)) t) :
    m' = m ∧ t = [] ∧ q'.waiting = q.waiting := by
  generalize hresult : Outcome.returned (q', Except.error e) = o at h
  cases h with
  | done hprepares hmonitor =>
      cases hresult
      exact ⟨hmonitor, rfl, KISSDataAdmissionQueue.waiting_prepare_error hprepares⟩
  | submitted | pending => cases hresult

/-- An observation that does not end has told a part of its story. -/
theorem Delegates.unfinished (h : Delegates q m m' now raw source .pending t)
    (hcurrent : m.tracker.current = record) (hrecord : Observing q.waiting raw record)
    (waiting : List Admission) :
    ∃ events, m'.published = m.published ++ events ∧
      Story q.waiting raw .pending t events waiting := by
  cases h with
  | @pending q₁ now' request access _ events hprepares htells hmonitor =>
      obtain ⟨rest, hqueue⟩ := hprepares.submit_head
      have hwaiting : q.waiting = request.admission :: rest.map Request.admission := by
        rw [← (KISSDataAdmissionQueue.waiting_prepare_submit hprepares).1,
          KISSDataAdmissionQueue.waiting, hqueue, List.map_cons]
      rw [hwaiting] at hrecord ⊢
      obtain ⟨r, rfl, hrid, hraw⟩ := hrecord request.admission rfl
      rw [hcurrent] at htells
      rw [hmonitor]
      exact ⟨events, rfl, .pending rfl hrid hraw htells⟩

theorem Delegates.nextRequestId_eq
    {result : Except PyError (KISSDataQueueObservation TXReceipt)}
    (h : Delegates q m m' now raw source (.returned (q', result)) t) :
    q'.nextRequestId = q.nextRequestId := by
  generalize hresult : Outcome.returned (q', result) = o at h
  cases h with
  | done hprepares =>
      cases hresult
      exact KISSDataAdmissionQueue.nextRequestId_prepare hprepares
  | @submitted q₁ now' request access result _ _ hprepares =>
      cases hresult
      rw [(q₁.finish_eq now' request access result).2]
      exact KISSDataAdmissionQueue.nextRequestId_prepare hprepares
  | pending => cases hresult

/-- The wrapped call with what the wrapper adds. -/
inductive Accounted (q : KISSDataAdmissionQueue) (record : Option TrackedTXRequest)
    (m m' : TXMonitor) (now : ℚ) (raw : ℤ) (source : RandomByteSource) : Outcome PyError
      (KISSDataAdmissionQueue × Except PyError (KISSDataQueueObservation TXReceipt)) →
      List (PortCall R) → Prop
  | raised {q' : KISSDataAdmissionQueue} {e : PyError} {t : List (PortCall R)}
      (h : Delegates q m m' now raw source (.returned (q', .error e)) t) :
      Accounted q record m m' now raw source (.returned (q', .error e)) t
  | reported {q' : KISSDataAdmissionQueue} {m₁ : TXMonitor} {t : List (PortCall R)}
      {observation : KISSDataQueueObservation TXReceipt}
      (h : Delegates q m m₁ now raw source (.returned (q', .ok observation)) t)
      (hmonitor : m' = account record observation m₁) :
      Accounted q record m m' now raw source (.returned (q', .ok observation)) t
  | pending {t : List (PortCall R)} (h : Delegates q m m' now raw source .pending t) :
      Accounted q record m m' now raw source .pending t

theorem observe_accounted {parameters : HalfDuplexParameters} {s s' : MonitoredSubmitter}
    {o : Outcome PyError
      (KISSDataAdmissionQueue × Except PyError (KISSDataQueueObservation TXReceipt))}
    (h : Runs (observe parameters record q now raw source) s o s' t) :
    Accounted q record s.2.monitor s'.2.monitor now raw source o t := by
  rcases h.bind_cases with ⟨⟨q', result⟩, s₁, t₁, t₂, hdelegate, hend, rfl⟩ |
    ⟨e, hdelegate, -⟩ | ⟨hdelegate, rfl⟩
  · have hdelegates := delegate_delegates hdelegate
    cases result with
    | error e =>
        obtain ⟨rfl, rfl, rfl⟩ := runs_pure.1 hend
        rw [List.append_nil]
        exact .raised hdelegates
    | ok observation =>
        obtain ⟨rfl, rfl, rfl⟩ := runs_pure.1 hend.modify_bind
        rw [List.append_nil]
        exact .reported hdelegates rfl
  · exact absurd (delegate_delegates hdelegate) nofun
  · exact .pending (delegate_delegates hdelegate)

/-- What is seen of an observation: the outcome, the calls and the events. -/
structure Observed (q : KISSDataAdmissionQueue) (m m' : TXMonitor) (raw : ℤ) (o : Outcome PyError
    (KISSDataAdmissionQueue × Except PyError (KISSDataQueueObservation TXReceipt)))
    (t : List (PortCall R)) (events : List PublishedTX) : Prop where
  published : m'.published = m.published ++ events
  raised : ∀ e, o ≠ .raised e
  returned : ∀ q' result, o = .returned (q', result) →
    Story q.waiting raw (.ofExcept result) t events q'.waiting ∧
      Tracked q'.waiting m'.tracker ∧ q'.nextRequestId = q.nextRequestId
  pending : o = .pending → Story q.waiting raw .pending t events q.waiting

theorem Accounted.observed {o : Outcome PyError
      (KISSDataAdmissionQueue × Except PyError (KISSDataQueueObservation TXReceipt))}
    (h : Accounted q record m m' now raw source o t) (htracked : Tracked q.waiting m.tracker)
    (hsorted : (q.waiting.map Admission.id).Pairwise (· < ·))
    (hcurrent : m.tracker.current = record) (hrecord : Observing q.waiting raw record) :
    ∃ events, Observed q m m' raw o t events := by
  cases h with
  | raised h =>
      obtain ⟨rfl, rfl, hwaiting⟩ := h.raises
      refine ⟨[], ⟨(List.append_nil _).symm, nofun, ?_, fun ho => nomatch ho⟩⟩
      rintro q' result ⟨⟩
      rw [hwaiting]
      refine ⟨.quiet fun observation ho => ?_, htracked, h.nextRequestId_eq⟩
      cases ho
  | reported h hmonitor =>
      obtain ⟨events, hpublished, hstory, haligned⟩ := h.story htracked hsorted hcurrent hrecord
      rw [← hmonitor] at hpublished haligned
      refine ⟨events, ⟨hpublished, nofun, ?_, fun ho => nomatch ho⟩⟩
      rintro q' result ⟨⟩
      exact ⟨hstory, haligned, h.nextRequestId_eq⟩
  | pending h =>
      obtain ⟨events, hpublished, hstory⟩ := h.unfinished hcurrent hrecord q.waiting
      exact ⟨events, ⟨hpublished, nofun, fun q' result ho => (nomatch ho), fun _ => hstory⟩⟩

/-- An observation with an aligned tracker tells its story, and leaves the
tracker aligned. -/
theorem observeRssi_observed {parameters : HalfDuplexParameters} {s s' : MonitoredSubmitter}
    {o : Outcome PyError
      (KISSDataAdmissionQueue × Except PyError (KISSDataQueueObservation TXReceipt))}
    (h : Runs (observeRssi parameters q now raw source) s o s' t)
    (htracked : Tracked q.waiting s.2.monitor.tracker)
    (hsorted : (q.waiting.map Admission.id).Pairwise (· < ·)) :
    ∃ events, Observed q s.2.monitor s'.2.monitor raw o t events := by
  obtain ⟨tracker, record, hbegin, htracked', hrecord, hcurrent⟩ := htracked.begin raw
  have hcall := h.get_bind
  rw [hbegin] at hcall
  rcases hcall.ofExcept_ok_bind.modify_bind.ensuring_cases with ⟨s₂, hrun, -, rfl⟩ | ⟨hrun, rfl⟩
  · obtain ⟨events, hseen⟩ :=
      (observe_accounted hrun).observed htracked' hsorted hcurrent hrecord
    refine ⟨events, ⟨hseen.published, hseen.raised, fun q' result ho => ?_, hseen.pending⟩⟩
    obtain ⟨hstory, haligned, hnext⟩ := hseen.returned q' result ho
    exact ⟨hstory, haligned.clearCurrent, hnext⟩
  · obtain ⟨events, hseen⟩ :=
      (observe_accounted hrun).observed htracked' hsorted hcurrent hrecord
    exact ⟨events, hseen.published, hseen.raised, hseen.returned, hseen.pending⟩

end Observation

end MonitoredPath

end YwdTnc
