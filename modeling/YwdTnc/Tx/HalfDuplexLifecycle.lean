import YwdTnc.Interaction.Transition
import YwdTnc.Tx.HalfDuplex

/-!
# Any number of half-duplex cycles

A `PersistentHalfDuplexSubmitter` over a submitter, a modem and a clock that may
return anything or raise. Between calls the ledger of the cycles is balanced and
`failedLatched` records the one failure that could not be recovered; within a
call the submitter runs behind a proved RX_STOP and RX_START behind an idle
transmitter.
-/

namespace YwdTnc

open Interaction Prog

namespace PersistentHalfDuplexSubmitter

variable {R : Type}

/-- The failures that a coordinator does not outlive. -/
def terminalFailures (s : HalfDuplexSnapshot) : ℕ :=
  s.preTransmitFailures + s.postTransmitFailures +
    (s.downstreamFailures - s.recoveredDownstreamFailures)

/-- What holds of the snapshot between calls. -/
structure Balanced (s : HalfDuplexSnapshot) : Prop where
  inCycle : s.inCycle = false
  started : s.cyclesStarted = s.cyclesCompleted + s.preTransmitFailures +
    s.downstreamFailures + s.postTransmitFailures
  accepted : s.downstreamAccepted = s.cyclesCompleted + s.postTransmitFailures
  recovered_le : s.recoveredDownstreamFailures ≤ s.downstreamFailures
  latched : terminalFailures s = s.failedLatched.toNat

theorem balanced_init : Balanced .init := ⟨rfl, rfl, rfl, le_refl 0, rfl⟩

/-- The counters of the modem operations are no part of the balance. -/
theorem balanced_of_ledger {s s' : HalfDuplexSnapshot} (h : ledger s' = ledger s)
    (hs : Balanced s) : Balanced s' := by
  have hledger : Balanced (ledger s) :=
    ⟨hs.inCycle, hs.started, hs.accepted, hs.recovered_le, hs.latched⟩
  rw [← h] at hledger
  exact ⟨hledger.inCycle, hledger.started, hledger.accepted, hledger.recovered_le,
    hledger.latched⟩

/-- A ledger to which one finished cycle was added. -/
theorem Balanced.close {s s' : HalfDuplexSnapshot} (hs : Balanced s)
    (hlatched : s.failedLatched = false) (hidle : s'.inCycle = false)
    (hstarted : s'.cyclesStarted = s.cyclesStarted + 1)
    (hended : s'.cyclesCompleted + s'.preTransmitFailures + s'.downstreamFailures +
        s'.postTransmitFailures =
      s.cyclesCompleted + s.preTransmitFailures + s.downstreamFailures +
        s.postTransmitFailures + 1)
    (haccepted : s'.downstreamAccepted + (s.cyclesCompleted + s.postTransmitFailures) =
      s.downstreamAccepted + (s'.cyclesCompleted + s'.postTransmitFailures))
    (hrecovered : s'.recoveredDownstreamFailures + s.downstreamFailures ≤
      s.recoveredDownstreamFailures + s'.downstreamFailures)
    (hterminal : terminalFailures s' = terminalFailures s + s'.failedLatched.toNat) :
    Balanced s' := by
  have hnone : terminalFailures s = 0 := by rw [hs.latched, hlatched, Bool.toNat_false]
  constructor
  · exact hidle
  · rw [hstarted, hended, hs.started]
  · have := hs.accepted
    omega
  · have := hs.recovered_le
    omega
  · rw [hterminal, hnone, Nat.zero_add]

section Call

variable {S τ : Type} {submit : Bytes → ℚ → PortProg R τ S} {frameWithFcs : Bytes}
  {parameters : HalfDuplexParameters}

/-- A cycle that ends leaves a balanced ledger. -/
theorem Cycle.balanced {timeout : ℚ} {s s' : HalfDuplexSnapshot × τ}
    {o : Outcome PyError S} {t : List (PortCall R)} (hs : Balanced s.1)
    (hlatched : s.1.failedLatched = false) (ho : o ≠ .pending)
    (h : Cycle submit frameWithFcs timeout
      ({ s.1 with inCycle := true, cyclesStarted := s.1.cyclesStarted + 1 }, s.2) o s' t) :
    Balanced { s'.1 with inCycle := false } := by
  have hclose : ∀ {y y' : HalfDuplexSnapshot × τ}, Untouched y y' →
      Balanced { y.1 with inCycle := false } → Balanced { y'.1 with inCycle := false } :=
    fun h => balanced_of_ledger
      (h.update (fun s => { s with inCycle := false }) fun _ => rfl).1
  have hrecovered := hs.recovered_le
  cases h with
  | handoffPending | submitPending | restorePending => exact absurd rfl ho
  | handoffFailed hcalls hledger =>
      refine hclose hledger (hs.close hlatched rfl rfl ?_ ?_ ?_ ?_)
      all_goals simp only [terminalFailures, Bool.toNat_true] <;> omega
  | recovered hbefore hafter hsubmit hrestore hrestored hledger =>
      refine hclose hledger (hs.close hlatched rfl rfl ?_ ?_ ?_ ?_)
      all_goals simp only [terminalFailures, hlatched, Bool.toNat_false] <;> omega
  | unrecovered hbefore hafter hsubmit hrestore hfailed hledger =>
      refine hclose hledger (hs.close hlatched rfl rfl ?_ ?_ ?_ ?_)
      all_goals simp only [terminalFailures, Bool.toNat_true] <;> omega
  | restoreFailed hbefore hafter hsubmit hrestore hfailed hledger =>
      refine hclose hledger (hs.close hlatched rfl rfl ?_ ?_ ?_ ?_)
      all_goals simp only [terminalFailures, Bool.toNat_true]; omega
  | completed hbefore hafter hsubmit hrestore hrestored hledger =>
      refine hclose hledger (hs.close hlatched rfl rfl ?_ ?_ ?_ ?_)
      all_goals simp only [terminalFailures, hlatched, Bool.toNat_false]; omega

theorem Submits.balanced {timeout : Option ℚ} {s s' : HalfDuplexSnapshot × τ}
    {o : Outcome PyError S} {t : List (PortCall R)} (hs : Balanced s.1)
    (ho : o ≠ .pending) (h : Submits submit frameWithFcs parameters timeout s o s' t) :
    Balanced s'.1 := by
  cases h with
  | refused => exact hs
  | cycle hlatched hidle ho hcycle => exact hcycle.balanced hs hlatched ho
  | pending => exact absurd rfl ho

end Call

/-! ### The order of the operations in a call -/

/-- Within a call the submitter runs once, behind a proved RX_STOP, and RX_START
comes after the submitter, behind an idle transmitter. -/
structure Ordered (frameWithFcs : Bytes) (timeout : ℚ) (t : List (PortCall R)) : Prop where
  submit : ∀ u c v, t = u ++ c :: v → c.query.isSubmit →
    c.query = .submitFrame frameWithFcs timeout ∧
    (∃ before after, before.Active ∧ after.Inactive ∧ u = handedOff timeout before after) ∧
    ∀ d ∈ v, ¬ d.query.isSubmit
  rxStart : ∀ u c v, t = u ++ c :: v → c.query.isRxStart →
    ∃ w status diag, (∃ d ∈ w, d.query.isSubmit) ∧ Idle status diag ∧
      u = w ++ idlePair timeout status diag

theorem ordered_handoff {frameWithFcs : Bytes} {timeout : ℚ} {t : List (PortCall R)}
    (h : ∀ c ∈ t, c.query.isHandoff) : Ordered frameWithFcs timeout t := by
  constructor
  · intro u c v ht hc
    exact absurd hc (c.query.isHandoff_other (h c (by simp [ht]))).1
  · intro u c v ht hc
    exact absurd hc (c.query.isHandoff_other (h c (by simp [ht]))).2

theorem handedOff_isHandoff (timeout : ℚ) (before after : RX3Status) :
    ∀ c ∈ handedOff (R := R) timeout before after, c.query.isHandoff := by
  intro c hc
  simp only [handedOff, List.mem_cons, List.not_mem_nil, or_false] at hc
  rcases hc with rfl | rfl | rfl <;> trivial

theorem ordered_cycle {frameWithFcs : Bytes} {timeout : ℚ} {before after : RX3Status}
    {c₀ : PortCall R} {t : List (PortCall R)} (hbefore : before.Active)
    (hafter : after.Inactive) (hc₀ : c₀.query = .submitFrame frameWithFcs timeout)
    (hrestore : Restoring timeout t) :
    Ordered frameWithFcs timeout (handedOff timeout before after ++ [c₀] ++ t) := by
  have hfront := handedOff_isHandoff (R := R) timeout before after
  constructor
  · intro u c v ht hc
    rw [List.append_assoc, List.singleton_append] at ht
    obtain ⟨rfl, rfl, rfl⟩ := only_split (P := fun d => d.query.isSubmit) ht
      (fun d hd => (d.query.isHandoff_other (hfront d hd)).1)
      (fun d hd => d.query.isRestore_not_submit (hrestore.callsOnly d hd)) hc
    exact ⟨hc₀, ⟨before, after, hbefore, hafter, rfl⟩,
      fun d hd => d.query.isRestore_not_submit (hrestore.callsOnly d hd)⟩
  · intro u c v ht hc
    have hnone : ∀ d ∈ handedOff timeout before after ++ [c₀], ¬ d.query.isRxStart := by
      intro d hd
      rcases List.mem_append.1 hd with hd | hd
      · exact (d.query.isHandoff_other (hfront d hd)).2
      · rw [List.mem_singleton.1 hd, hc₀]
        exact id
    obtain ⟨u', rfl, htail⟩ := split_behind (P := fun d => d.query.isRxStart) ht hnone hc
    obtain ⟨w, status, diag, hidle, rfl⟩ := hrestore.idle_rxStart u' c v htail hc
    refine ⟨handedOff timeout before after ++ [c₀] ++ w, status, diag, ⟨c₀, by simp, ?_⟩,
      hidle, (List.append_assoc _ _ _).symm⟩
    rw [hc₀]
    trivial

theorem runs_submitFrame {frameWithFcs : Bytes} {timeout : ℚ} {τ : Type} {x x' : τ}
    {o : Outcome PyError R} {t : List (PortCall R)}
    (h : Runs (Port.submitFrame frameWithFcs timeout) x o x' t) :
    ∃ c, t = [c] ∧ c.query = .submitFrame frameWithFcs timeout := by
  obtain ⟨-, ⟨a, -, rfl⟩ | ⟨e, -, rfl⟩ | ⟨-, rfl⟩⟩ := h.call_cases
  all_goals exact ⟨_, rfl, rfl⟩

theorem ordered_of_cycle {frameWithFcs : Bytes} {timeout : ℚ} {τ : Type}
    {s s' : HalfDuplexSnapshot × τ} {o : Outcome PyError R} {t : List (PortCall R)}
    (h : Cycle Port.submitFrame frameWithFcs timeout s o s' t) :
    Ordered frameWithFcs timeout t := by
  cases h with
  | handoffFailed hcalls | handoffPending hcalls => exact ordered_handoff hcalls
  | submitPending hbefore hafter hsubmit =>
      obtain ⟨c, rfl, hc⟩ := runs_submitFrame hsubmit
      have hnothing : Restoring (R := R) timeout [] :=
        ⟨by simp, fun u c v h => by simp at h⟩
      have hordered := ordered_cycle hbefore hafter hc hnothing
      rwa [List.append_nil] at hordered
  | restorePending hbefore hafter hsubmit hrestore
  | recovered hbefore hafter hsubmit hrestore
  | unrecovered hbefore hafter hsubmit hrestore
  | restoreFailed hbefore hafter hsubmit hrestore
  | completed hbefore hafter hsubmit hrestore =>
      obtain ⟨c, rfl, hc⟩ := runs_submitFrame hsubmit
      exact ordered_cycle hbefore hafter hc hrestore

/-! ### Runs of calls -/

/-- What a call of `submit_frame` may do, however it ends. -/
structure SafeCall (parameters : HalfDuplexParameters) (frameWithFcs : Bytes)
    (timeout : Option ℚ) (s : HalfDuplexSnapshot × Unit) (o : Outcome PyError R)
    (s' : HalfDuplexSnapshot × Unit) (t : List (PortCall R)) : Prop where
  ordered : Ordered frameWithFcs (timeout.getD parameters.transactionTimeoutSeconds) t
  returned : ∀ r, o = .returned r → ∃ u rx, rx.Active ∧
    t = u ++ restarted (timeout.getD parameters.transactionTimeoutSeconds) rx
  latched : s.1.failedLatched = true →
    t = [] ∧ s' = s ∧ ∃ e, o = .raised e ∧ e.cls = .halfDuplexLatched

theorem safeCall {parameters : HalfDuplexParameters} {frameWithFcs : Bytes}
    {timeout : Option ℚ} {s s' : HalfDuplexSnapshot × Unit} {o : Outcome PyError R}
    {t : List (PortCall R)}
    (h : Submits Port.submitFrame frameWithFcs parameters timeout s o s' t) :
    SafeCall parameters frameWithFcs timeout s o s' t := by
  cases h with
  | refused hrefused hcls =>
      refine ⟨ordered_handoff (by simp), (fun _ h => nomatch h), fun hlatched => ?_⟩
      exact ⟨rfl, rfl, _, rfl, hcls hlatched⟩
  | cycle hlatched hidle ho hcycle =>
      refine ⟨ordered_of_cycle hcycle, fun r hr => ?_, fun h => ?_⟩
      · subst hr
        cases hcycle with
        | completed hbefore hafter hsubmit hrestore hrestored =>
            obtain ⟨u, status, diag, rx, -, hactive, rfl⟩ := hrestored
            exact ⟨_, rx, hactive, (List.append_assoc _ _ _).symm⟩
      · rw [hlatched] at h
        cases h
  | pending hlatched hidle hcycle =>
      refine ⟨ordered_of_cycle hcycle, (fun _ h => nomatch h), fun h => ?_⟩
      rw [hlatched] at h
      cases h

/-- Calls of `submit_frame` one after the other, each of them finished. -/
def lifecycle (R : Type) (parameters : HalfDuplexParameters) :
    System (HalfDuplexSnapshot × Unit) (Bytes × Option ℚ) where
  initial s := s = (.init, ())
  step s call s' := ∃ (o : Outcome PyError R) (t : List (PortCall R)), o ≠ .pending ∧
    Runs (submitFrame parameters Port.submitFrame call.1 call.2) s o s' t

theorem balanced_reachable {parameters : HalfDuplexParameters}
    {s : HalfDuplexSnapshot × Unit} (h : (lifecycle R parameters).Reachable s) :
    Balanced s.1 := by
  refine h.invariant (I := fun s => Balanced s.1) ?_ ?_
  · rintro s rfl
    exact balanced_init
  · rintro s call s' - hs ⟨o, t, ho, hrun⟩
    exact (submitFrame_submits hrun).balanced hs ho

/-- The half-duplex lifecycle: after any sequence of calls the ledger is
balanced, and the next call, finished or not, keeps the order of a cycle. -/
theorem lifecycle_safe (parameters : HalfDuplexParameters) (s : HalfDuplexSnapshot × Unit)
    (h : (lifecycle R parameters).Reachable s) :
    Balanced s.1 ∧ ∀ frameWithFcs timeout o s' t,
      Runs (submitFrame parameters Port.submitFrame frameWithFcs timeout) s o s' t →
      SafeCall (R := R) parameters frameWithFcs timeout s o s' t :=
  ⟨balanced_reachable h, fun _ _ _ _ _ hrun => safeCall (submitFrame_submits hrun)⟩

/-- The first status query of the first call raises: the coordinator is latched. -/
theorem lifecycle_safe_after_failed_handoff :
    ∃ s : HalfDuplexSnapshot × Unit, s.1.failedLatched = true ∧ Balanced s.1 ∧
      ∀ frameWithFcs timeout o s' t,
        Runs (submitFrame .default Port.submitFrame frameWithFcs timeout) s o s' t →
        SafeCall (R := Unit) .default frameWithFcs timeout s o s' t := by
  let broken : Script (PortQuery.Answer Unit) PyError :=
    [fun _ => .error (.valueError "")]
  let r := (submitFrame (S := Unit) .default Port.submitFrame [] none).run
    (.init, ()) broken
  have hreach : (lifecycle Unit .default).Reachable r.state := by
    refine (System.Reachable.initial rfl).step (l := ([], none)) ?_
    exact ⟨r.outcome, r.trace, by decide +kernel, Runs.of_eq rfl⟩
  exact ⟨r.state, by decide +kernel, lifecycle_safe .default r.state hreach⟩

end PersistentHalfDuplexSubmitter

end YwdTnc
