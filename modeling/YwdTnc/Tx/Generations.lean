import YwdTnc.Interaction.Relational
import YwdTnc.Tx.Contextual

/-!
# The generation of a context

A context names the generation of the parameters it was captured from. The
submission of a frame reads the preamble of its context and nothing else, so
under two contexts that differ in what is left out here the stack below the
queue does the same.
-/

namespace YwdTnc

open Interaction Prog

attribute [ext] CSMAParameters

/-- A context less its generation, and less the two parameters that are constant
in every session. -/
def TNCTransmitContext.unlabelled (context : TNCTransmitContext) : TNCTransmitContext :=
  { context with
    parameters := { context.parameters with generation := 0, fullduplex := 0, port := KISS_PORT } }

/-- What a context captures is a function of the three parameters and the wait. -/
theorem TNCTransmitContext.unlabelled_eq {context context' : TNCTransmitContext}
    (htxdelay : context.parameters.txdelay = context'.parameters.txdelay)
    (hpersist : context.parameters.persist = context'.parameters.persist)
    (hslottime : context.parameters.slottime = context'.parameters.slottime)
    (hwait : context.csmaParameters.maxWaitSeconds = context'.csmaParameters.maxWaitSeconds) :
    context.unlabelled = context'.unlabelled := by
  have hprofile : context.txdelayProfile = context'.txdelayProfile := by
    rw [context.profile_eq, context'.profile_eq, htxdelay]
  have hcsma : context.csmaParameters = context'.csmaParameters := by
    refine CSMAParameters.ext ?_ ?_ hwait
    · rw [context.persist_eq, context'.persist_eq, hpersist]
    · rw [context.slottime_eq, context'.slottime_eq, hslottime]
  simp only [unlabelled, TNCTransmitContext.mk.injEq, TNCParameterSnapshot.mk.injEq]
  exact ⟨⟨trivial, htxdelay, hpersist, hslottime, trivial, trivial⟩, hprofile, hcsma⟩

/-! ### The half-duplex coordinator over two submitters -/

namespace PersistentHalfDuplexSubmitter

variable {R S τ : Type} {Rel : τ → τ → Prop}

/-- The same coordinator over submitters in related states. -/
def Beside (Rel : τ → τ → Prop) (s t : HalfDuplexSnapshot × τ) : Prop :=
  s.1 = t.1 ∧ Rel s.2 t.2

theorem update_alike (f : HalfDuplexSnapshot → HalfDuplexSnapshot) :
    Alike (Beside Rel) (update (R := R) f) (update f) :=
  alike_modify fun _ _ h => ⟨congrArg f h.1, h.2⟩

theorem preTransmit_alike (timeout : ℚ) :
    Alike (Beside Rel) (preTransmit (R := R) timeout) (preTransmit timeout) := by
  refine (alike_call _).bind fun before => ?_
  refine (alike_ofExcept _).bind fun _ => ?_
  refine (alike_call _).bind fun _ => ?_
  refine (update_alike _).bind fun _ => ?_
  exact (alike_call _).bind fun after => alike_ofExcept _

theorem pollTxIdle_alike (parameters : HalfDuplexParameters) (timeout deadline : ℚ) :
    Alike (Beside Rel) (pollTxIdle (R := R) parameters timeout deadline)
      (pollTxIdle parameters timeout deadline) := by
  refine (alike_call _).bind fun status => ?_
  refine (alike_call _).bind fun diag => ?_
  refine (update_alike _).bind fun _ => ?_
  split
  · exact alike_pure _
  · refine (alike_call _).bind fun now => ?_
    split
    · exact alike_raise _
    · dsimp only
      split
      · exact alike_raise _
      · exact (alike_call _).bind fun _ => alike_pure _

theorem restore_alike (parameters : HalfDuplexParameters) (timeout : ℚ) :
    Alike (Beside Rel) (restore (R := R) parameters timeout) (restore parameters timeout) := by
  refine Alike.bind ?_ fun _ => ?_
  · exact (alike_call _).bind fun started => (pollTxIdle_alike _ _ _).iterate
  · refine (alike_call _).bind fun _ => ?_
    refine (update_alike _).bind fun _ => ?_
    exact (alike_call _).bind fun status => alike_ofExcept _

theorem recover_alike (parameters : HalfDuplexParameters) (timeout : ℚ) :
    Alike (Beside Rel) (recover (R := R) (S := S) parameters timeout)
      (recover parameters timeout) := by
  refine (update_alike _).bind fun _ => ?_
  refine (restore_alike parameters timeout).attempt.bind fun result => ?_
  cases result with
  | error e => exact (update_alike _).bind fun _ => alike_raise _
  | ok u => exact (update_alike _).bind fun _ => alike_raise _

theorem complete_alike (parameters : HalfDuplexParameters) (timeout : ℚ) (result : S) :
    Alike (Beside Rel) (complete (R := R) parameters timeout result)
      (complete parameters timeout result) := by
  refine (update_alike _).bind fun _ => ?_
  refine (restore_alike parameters timeout).attempt.bind fun restored => ?_
  cases restored with
  | error e => exact (update_alike _).bind fun _ => alike_raise _
  | ok u => exact (update_alike _).bind fun _ => alike_pure _

theorem submitFrame_alike {submit : Bytes → ℚ → PortProg R τ S}
    (hsubmit : ∀ frame timeout, Alike Rel (submit frame timeout) (submit frame timeout))
    (parameters : HalfDuplexParameters) (frame : Bytes) (timeout : Option ℚ) :
    Alike (Beside Rel) (submitFrame parameters submit frame timeout)
      (submitFrame parameters submit frame timeout) := by
  refine alike_get_bind fun s t hst => ?_
  rw [hst.1]
  split
  · exact alike_raise _
  split
  · exact alike_raise _
  dsimp only
  split
  · exact alike_raise _
  refine (update_alike _).bind fun _ => ?_
  refine Alike.ensuring ?_ fun s t h => ⟨by rw [h.1], h.2⟩
  refine (preTransmit_alike _).attempt.bind fun handoff => ?_
  cases handoff with
  | error e => exact (update_alike _).bind fun _ => alike_raise _
  | ok u =>
      have hinner : Alike (Beside Rel)
          (inner (submit frame (timeout.getD parameters.transactionTimeoutSeconds)))
          (inner (submit frame (timeout.getD parameters.transactionTimeoutSeconds))) :=
        (hsubmit frame _).zoom (fun _ _ h => h.2) fun _ _ _ _ h hx => ⟨h.1, hx⟩
      refine hinner.attempt.bind fun result => ?_
      cases result with
      | error e => exact recover_alike parameters _
      | ok result => exact complete_alike parameters _ result

end PersistentHalfDuplexSubmitter

/-! ### The contextual submitter -/

namespace ArmedContextAdapter

variable {R : Type}

/-- The adapter with the context it is armed with, if any, less its generation. -/
def unlabelled (a : ArmedContextAdapter) : ArmedContextAdapter :=
  { a with context := a.context.map TNCTransmitContext.unlabelled }

/-- Adapters that differ in the generation of their context at most. -/
def Same (a a' : ArmedContextAdapter) : Prop := a.unlabelled = a'.unlabelled

theorem same_iff {a a' : ArmedContextAdapter} :
    Same a a' ↔ a.router = a'.router ∧
      a.context.map TNCTransmitContext.unlabelled =
        a'.context.map TNCTransmitContext.unlabelled := by
  simp only [Same, unlabelled, ArmedContextAdapter.mk.injEq]

/-- Either both are armed or neither is. -/
theorem Same.context {a a' : ArmedContextAdapter} (h : Same a a') :
    (a.context = none ∧ a'.context = none) ∨
      ∃ armed armed', a.context = some armed ∧ a'.context = some armed' ∧
        armed'.unlabelled = armed.unlabelled := by
  have harmed := (same_iff.mp h).2
  cases hown : a.context with
  | none =>
      rw [hown, Option.map_none, eq_comm, Option.map_eq_none_iff] at harmed
      exact .inl ⟨rfl, harmed⟩
  | some armed =>
      rw [hown, Option.map_some, eq_comm, Option.map_eq_some_iff] at harmed
      obtain ⟨armed', hown', hlabel⟩ := harmed
      exact .inr ⟨armed, armed', rfl, hown', hlabel⟩

theorem arm_alike {context context' : TNCTransmitContext}
    (hcontext : context.unlabelled = context'.unlabelled) :
    Alike Same (arm (R := R) context) (arm context') := by
  refine alike_get_bind fun a a' h => ?_
  rcases h.context with ⟨hown, hown'⟩ | ⟨armed, armed', hown, hown', -⟩
  · rw [hown, hown']
    refine alike_modify fun b b' hb => same_iff.mpr ⟨(same_iff.mp hb).1, ?_⟩
    exact congrArg some hcontext
  · rw [hown, hown']
    exact alike_raise _

theorem submitFrame_alike (frame : Bytes) (timeout : ℚ) :
    Alike Same (submitFrame (R := R) frame timeout) (submitFrame frame timeout) := by
  refine alike_get_bind fun a a' h => ?_
  rcases h.context with ⟨hown, hown'⟩ | ⟨armed, armed', hown, hown', hlabel⟩
  · rw [hown, hown']
    exact alike_raise _
  · rw [hown, hown']
    -- the router reads the TXDELAY units of the profile, which carries no generation
    have hprofile : armed'.txdelayProfile = armed.txdelayProfile := by
      have h := congrArg TNCTransmitContext.txdelayProfile hlabel
      exact h
    have hrun : ContextualTXDelayRouter.submitFrame (R := R) frame armed' (some timeout) =
        ContextualTXDelayRouter.submitFrame frame armed (some timeout) := by
      rw [ContextualTXDelayRouter.submitFrame, ContextualTXDelayRouter.submitFrame, hprofile]
    dsimp only
    rw [hrun]
    refine (alike_eq _).zoom (fun b b' hb => (same_iff.mp hb).1) fun b b' r r' hb hr => ?_
    exact same_iff.mpr ⟨hr, (same_iff.mp hb).2⟩

end ArmedContextAdapter

namespace ContextualHalfDuplexSubmitter

variable {R : Type}

def unlabelled (s : ContextualHalfDuplexSubmitter) : ContextualHalfDuplexSubmitter :=
  (s.1, s.2.unlabelled)

theorem unlabelled_eq_iff {s t : ContextualHalfDuplexSubmitter} :
    s.unlabelled = t.unlabelled ↔
      PersistentHalfDuplexSubmitter.Beside ArmedContextAdapter.Same s t :=
  Prod.mk_inj

/-- A submission does the same under contexts that differ in their generation. -/
theorem submitFrame_alike (parameters : HalfDuplexParameters) (frame : Bytes)
    {context context' : TNCTransmitContext}
    (hcontext : context.unlabelled = context'.unlabelled) (timeout : Option ℚ) :
    Alike (PersistentHalfDuplexSubmitter.Beside ArmedContextAdapter.Same)
      (submitFrame (R := R) parameters frame context timeout)
      (submitFrame parameters frame context' timeout) := by
  refine Alike.bind ?_ fun _ => ?_
  · exact (ArmedContextAdapter.arm_alike hcontext).zoom (fun _ _ h => h.2)
      fun _ _ _ _ h ha => ⟨h.1, ha⟩
  · refine (PersistentHalfDuplexSubmitter.submitFrame_alike
      ArmedContextAdapter.submitFrame_alike parameters frame timeout).ensuring ?_
    intro s t h
    exact ⟨h.1, ArmedContextAdapter.same_iff.mpr ⟨(ArmedContextAdapter.same_iff.mp h.2).1, rfl⟩⟩

end ContextualHalfDuplexSubmitter

end YwdTnc
