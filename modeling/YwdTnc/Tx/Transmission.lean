import YwdTnc.Tx.Contextual

/-!
# What one contextual submission transmits

A call of the contextual submitter asks the modem for at most one burst, the
serialization of its frame with the flags of its context, and it returns exactly
when that burst was taken, the transmitter was then seen idle and RX was then
seen active.
-/

namespace YwdTnc

open Interaction Prog PersistentHalfDuplexSubmitter

variable {R : Type}

/-- The burst that a call asks for. -/
def burst? (c : PortCall R) : Option (ℕ × Bytes) :=
  match c.query with
  | .transmitSelectorBurst count packed _ => some (count, packed)
  | _ => none

/-- The bursts of a trace, answered or not. -/
def bursts (t : List (PortCall R)) : List (ℕ × Bytes) := t.filterMap burst?

@[simp] theorem bursts_append (t t' : List (PortCall R)) :
    bursts (t ++ t') = bursts t ++ bursts t' :=
  List.filterMap_append

theorem burst?_eq_none {c : PortCall R} (h : ¬ c.query.isBurst) : burst? c = none := by
  obtain ⟨query, answer⟩ := c
  cases query with
  | transmitSelectorBurst => exact absurd trivial h
  | _ => rfl

theorem bursts_eq_nil {t : List (PortCall R)} (h : ∀ c ∈ t, ¬ c.query.isBurst) :
    bursts t = [] :=
  List.filterMap_eq_nil_iff.2 fun c hc => burst?_eq_none (h c hc)

/-- A burst that the modem took. -/
def TookBurst (c : PortCall R) : Prop :=
  ∃ timeout count packed, c = ⟨.transmitSelectorBurst count packed timeout, some (.ok ())⟩

/-- The burst of a frame was taken, then the transmitter was seen idle, then RX
was seen active without drops. -/
def Completed (preFlags : ℕ) (frame : Bytes) (t : List (PortCall R)) : Prop :=
  ∃ u timeout count packed v idleTimeout status diag w c x,
    TXBroker.serialize preFlags frame = .ok (count, packed) ∧
    Idle status diag ∧ ActiveReading c ∧
    t = u ++ ⟨.transmitSelectorBurst count packed timeout, some (.ok ())⟩ ::
      (v ++ idlePair idleTimeout status diag ++ w ++ c :: x)

/-- A burst was taken and RX was seen active after it. -/
def Recovered (t : List (PortCall R)) : Prop :=
  ∃ u c v, t = u ++ c :: v ∧ TookBurst c ∧ ∃ d ∈ v, ActiveReading d

/-- What a call transmits and how it ends. -/
structure Transmits (preFlags : ℕ) (frame : Bytes) {α : Type} (o : Outcome PyError α)
    (t : List (PortCall R)) : Prop where
  once : bursts t = [] ∨
    ∃ burst, TXBroker.serialize preFlags frame = .ok burst ∧ bursts t = [burst]
  completed : (∃ a, o = .returned a) → Completed preFlags frame t
  returned : Recovered t → ∃ a, o = .returned a

theorem Completed.recovered {preFlags : ℕ} {frame : Bytes} {t : List (PortCall R)}
    (h : Completed preFlags frame t) : Recovered t := by
  obtain ⟨u, timeout, count, packed, v, idleTimeout, status, diag, w, c, x, -, -, hc, rfl⟩
    := h
  exact ⟨u, _, _, rfl, ⟨timeout, count, packed, rfl⟩, c, by simp, hc⟩

theorem TookBurst.isBurst {c : PortCall R} (h : TookBurst c) : c.query.isBurst := by
  obtain ⟨timeout, count, packed, rfl⟩ := h
  trivial

/-- A call that sends nothing does not complete. -/
theorem transmits_nothing {preFlags : ℕ} {frame : Bytes} {α : Type}
    {o : Outcome PyError α} {t : List (PortCall R)} (ho : ∀ a, o ≠ .returned a)
    (hcalls : ∀ c ∈ t, ¬ c.query.isBurst) : Transmits preFlags frame o t := by
  refine ⟨.inl (bursts_eq_nil hcalls), fun ⟨a, ha⟩ => absurd ha (ho a), fun h => ?_⟩
  obtain ⟨u, c, v, rfl, hc, -⟩ := h
  exact absurd hc.isBurst (hcalls c (by simp))

/-! ### The parts of a cycle -/

theorem handedOff_not_burst (timeout : ℚ) (before after : RX3Status) :
    ∀ c ∈ handedOff (R := R) timeout before after, ¬ c.query.isBurst := by
  intro c hc
  simp only [handedOff, List.mem_cons, List.not_mem_nil, or_false] at hc
  rcases hc with rfl | rfl | rfl <;> exact id

theorem Restoring.not_burst {timeout : ℚ} {t : List (PortCall R)}
    (h : Restoring timeout t) : ∀ c ∈ t, ¬ c.query.isBurst := by
  intro c hc
  exact c.query.isRestore_not_burst (h.callsOnly c hc)

section Parts

variable {preFlags : ℕ} {frame : Bytes} {timeout : ℚ} {before after : RX3Status}
  {t t' : List (PortCall R)}

/-- The only burst of a cycle is the one of its submission. -/
theorem bursts_cycle (hrestore : Restoring timeout t') :
    bursts (handedOff timeout before after ++ t ++ t') = bursts t := by
  rw [bursts_append, bursts_append, bursts_eq_nil (handedOff_not_burst timeout before after),
    bursts_eq_nil (Restoring.not_burst hrestore), List.nil_append, List.append_nil]

theorem once_of_delivers {α : Type} {o : Outcome PyError α}
    (h : TXBroker.Delivers preFlags frame o t) :
    bursts t = [] ∨
      ∃ burst, TXBroker.serialize preFlags frame = .ok burst ∧ bursts t = [burst] := by
  cases h with
  | unsent hcalls ho =>
      refine .inl (bursts_eq_nil fun c hc => ?_)
      obtain ⟨timeout, hquery⟩ := hcalls c hc
      rw [hquery]
      exact id
  | failed hburst | hangs hburst | sent hburst => exact .inr ⟨_, hburst, rfl⟩

/-- A submission that does not return had no burst taken. -/
theorem not_tookBurst {α : Type} {o : Outcome PyError α}
    (h : TXBroker.Delivers preFlags frame o t) (ho : ∀ a, o ≠ .returned a) :
    ∀ c ∈ t, ¬ TookBurst c := by
  cases h with
  | unsent hcalls =>
      intro c hc hburst
      obtain ⟨timeout, hquery⟩ := hcalls c hc
      have hb := hburst.isBurst
      rw [hquery] at hb
      exact hb
  | failed hburst | hangs hburst =>
      rintro c hc ⟨timeout, count, packed, rfl⟩
      simp only [List.mem_cons, List.not_mem_nil, or_false] at hc
      rcases hc with hc | hc <;> cases hc
  | @sent _ _ _ _ a => exact absurd rfl (ho a)

/-- A cycle whose submission raised does not complete. -/
theorem transmits_failed {α β : Type} {e e' : PyError}
    (h : TXBroker.Delivers preFlags frame (.raised e : Outcome PyError α) t)
    (hrestore : Restoring timeout t') :
    Transmits preFlags frame (.raised e' : Outcome PyError β)
      (handedOff timeout before after ++ t ++ t') := by
  constructor
  · rw [bursts_cycle hrestore]
    exact once_of_delivers h
  · exact fun ⟨a, ha⟩ => nomatch ha
  · rintro ⟨u, c, v, ht, hc, -⟩
    have hmem : c ∈ handedOff timeout before after ++ t ++ t' := by simp [ht]
    rcases List.mem_append.1 hmem with hmem | hmem
    · rcases List.mem_append.1 hmem with hmem | hmem
      · exact absurd hc.isBurst (handedOff_not_burst timeout before after c hmem)
      · exact absurd hc (not_tookBurst h nofun c hmem)
    · exact absurd hc.isBurst (Restoring.not_burst hrestore c hmem)

/-- What follows the burst of a cycle is its restoration. -/
theorem after_burst {α : Type} {a : α} {u v : List (PortCall R)} {c : PortCall R}
    (h : TXBroker.Delivers preFlags frame (.returned a) t) (hrestore : Restoring timeout t')
    (ht : handedOff timeout before after ++ t ++ t' = u ++ c :: v) (hc : TookBurst c) :
    v = t' := by
  cases h with
  | unsent hcalls ho => exact absurd rfl (ho a)
  | @sent timeout' count packed status a hburst =>
      rw [List.append_assoc, List.cons_append, List.cons_append, List.nil_append,
        List.append_cons] at ht
      refine (only_split (P := fun c => c.query.isBurst) ht ?_
        (Restoring.not_burst hrestore) hc.isBurst).2.2
      intro d hd
      rcases List.mem_append.1 hd with hd | hd
      · exact handedOff_not_burst timeout before after d hd
      · rw [List.mem_singleton.1 hd]
        exact id

theorem transmits_completed {α β : Type} {a : α} {b : β}
    (h : TXBroker.Delivers preFlags frame (.returned a) t) (hrestore : Restoring timeout t')
    (hrestored : Restored timeout t') :
    Transmits preFlags frame (.returned b) (handedOff timeout before after ++ t ++ t') := by
  constructor
  · rw [bursts_cycle hrestore]
    exact once_of_delivers h
  · intro _
    cases h with
    | unsent hcalls ho => exact absurd rfl (ho a)
    | @sent timeout' count packed status a hburst =>
        obtain ⟨u, idle, diag, rx, hidle, hactive, rfl⟩ := hrestored
        refine ⟨handedOff timeout before after ++ [⟨.rfStatus timeout', some (.ok status)⟩],
          timeout', count, packed, u, timeout, idle, diag,
          [⟨.rxStart timeout, some (.ok ())⟩], ⟨.rxStatus timeout, some (.ok rx)⟩, [],
          hburst, hidle, ⟨timeout, rx, hactive, rfl⟩, ?_⟩
        simp [restarted]
  · exact fun _ => ⟨b, rfl⟩

theorem transmits_restoreFailed {α β : Type} {a : α} {e : PyError}
    (h : TXBroker.Delivers preFlags frame (.returned a) t) (hrestore : Restoring timeout t')
    (hfailed : ∀ c ∈ t', ¬ ActiveReading c) :
    Transmits preFlags frame (.raised e : Outcome PyError β)
      (handedOff timeout before after ++ t ++ t') := by
  constructor
  · rw [bursts_cycle hrestore]
    exact once_of_delivers h
  · exact fun ⟨b, hb⟩ => nomatch hb
  · rintro ⟨u, c, v, ht, hc, d, hd, hactive⟩
    rw [after_burst h hrestore ht hc] at hd
    exact absurd hactive (hfailed d hd)

end Parts

/-! ### A whole call -/

namespace ContextualHalfDuplexSubmitter

theorem submitFrame_transmits {parameters : HalfDuplexParameters} {frame : Bytes}
    {context : TNCTransmitContext} {timeout : Option ℚ}
    {s s' : ContextualHalfDuplexSubmitter} {o : Outcome PyError TXReceipt}
    {t : List (PortCall R)} (ho : o ≠ .pending)
    (h : Runs (submitFrame parameters frame context timeout) s o s' t) :
    Transmits context.preFlags frame o t := by
  rcases h.bind_cases with ⟨_, s₁, t₁, t₂, harm, hcall, rfl⟩ | ⟨e, harm, rfl⟩ | ⟨harm, rfl⟩
  · obtain ⟨a, hrun, rfl⟩ := harm.zoom_cases
    obtain ⟨rfl, ⟨e, hraised⟩ | ⟨-, harmed⟩⟩ := ArmedContextAdapter.arm_cases hrun
    · cases hraised
    rw [List.nil_append]
    rcases hcall.ensuring_cases with ⟨s₂, hrun, -, rfl⟩ | ⟨-, hpending⟩
    · cases submitFrame_submits hrun with
      | refused => exact transmits_nothing (by simp) (by simp)
      | pending => exact absurd rfl ho
      | cycle hlatched hidle hdone hcycle =>
          cases hcycle with
          | handoffPending | submitPending | restorePending => exact absurd rfl ho
          | handoffFailed hcalls hledger =>
              refine transmits_nothing (by simp) fun c hc => ?_
              exact c.query.isHandoff_not_burst (hcalls c hc)
          | recovered hbefore hafter hsubmit hrestore =>
              exact transmits_failed
                (ArmedContextAdapter.submitFrame_delivers harmed hsubmit) hrestore
          | unrecovered hbefore hafter hsubmit hrestore =>
              exact transmits_failed
                (ArmedContextAdapter.submitFrame_delivers harmed hsubmit) hrestore
          | restoreFailed hbefore hafter hsubmit hrestore hfailed =>
              exact transmits_restoreFailed
                (ArmedContextAdapter.submitFrame_delivers harmed hsubmit) hrestore hfailed
          | completed hbefore hafter hsubmit hrestore hrestored =>
              exact transmits_completed
                (ArmedContextAdapter.submitFrame_delivers harmed hsubmit) hrestore hrestored
    · exact absurd hpending ho
  · obtain ⟨a, hrun, -⟩ := harm.zoom_cases
    obtain ⟨rfl, -⟩ := ArmedContextAdapter.arm_cases hrun
    exact transmits_nothing (by simp) (by simp)
  · exact absurd rfl ho

end ContextualHalfDuplexSubmitter

end YwdTnc
