import YwdTnc.Modem.Port
import Mathlib.Algebra.Order.Field.Rat

/-!
# The half-duplex lifecycle

One cycle of `PersistentHalfDuplexSubmitter`: prove that RX can be stopped, hand
the frame to the submitter, wait for an idle transmitter, restart RX and prove
it active. The submitter is a program over a state `τ` of its own. `Cycle` lists
the exits of a call together with the runs of the stages that led to them.
-/

namespace YwdTnc

open Interaction Prog

/-- active, RF-ready and STATE_AX25. -/
def ACTIVE_RX_REQUIRED_MASK : ℕ := 0x0D
def RX_ACTIVE_FLAG : ℕ := 0x01
def TX_ACTIVE_FLAG : ℕ := 0x02

structure HalfDuplexParameters where
  transactionTimeoutSeconds : ℚ
  txIdlePollSeconds : ℚ
  txIdleTimeoutSeconds : ℚ
  transactionTimeout_pos : 0 < transactionTimeoutSeconds
  txIdlePoll_pos : 0 < txIdlePollSeconds
  txIdleTimeout_pos : 0 < txIdleTimeoutSeconds

def HalfDuplexParameters.default : HalfDuplexParameters where
  transactionTimeoutSeconds := 3 / 2
  txIdlePollSeconds := 1 / 20
  txIdleTimeoutSeconds := 5
  transactionTimeout_pos := by decide +kernel
  txIdlePoll_pos := by decide +kernel
  txIdleTimeout_pos := by decide +kernel

/-- The state of the coordinator, which is also its snapshot. -/
structure HalfDuplexSnapshot where
  inCycle : Bool
  failedLatched : Bool
  cyclesStarted : ℕ
  cyclesCompleted : ℕ
  downstreamAccepted : ℕ
  preTransmitFailures : ℕ
  downstreamFailures : ℕ
  postTransmitFailures : ℕ
  recoveredDownstreamFailures : ℕ
  rxStopOperations : ℕ
  rxRestartOperations : ℕ
  txIdlePolls : ℕ
  deriving DecidableEq

def HalfDuplexSnapshot.init : HalfDuplexSnapshot :=
  ⟨false, false, 0, 0, 0, 0, 0, 0, 0, 0, 0, 0⟩

/-- `_require_active_rx`; `context` stands in the text of its errors. -/
def requireActiveRx (status : RX3Status) (context : String) : Except PyError Unit :=
  if status.droppedBytes ≠ 0 then
    .error ⟨.halfDuplexError, "RX FIFO has dropped bytes " ++ context ++ ": " ++
      toString status.droppedBytes⟩
  else if status.flags &&& TX_ACTIVE_FLAG ≠ 0 then
    .error ⟨.halfDuplexError, "RX status reports TX active " ++ context ++ ": flags=0x" ++
      hex02 status.flags⟩
  else if status.flags &&& ACTIVE_RX_REQUIRED_MASK ≠ ACTIVE_RX_REQUIRED_MASK then
    .error ⟨.halfDuplexError, "passive AX.25 RX is not fully active " ++ context ++
      ": flags=0x" ++ hex02 status.flags ++ " required=0x" ++
      hex02 ACTIVE_RX_REQUIRED_MASK⟩
  else .ok ()

def requireInactiveRx (status : RX3Status) (context : String) : Except PyError Unit :=
  if status.droppedBytes ≠ 0 then
    .error ⟨.halfDuplexError, "RX FIFO has dropped bytes " ++ context ++ ": " ++
      toString status.droppedBytes⟩
  else if status.flags &&& RX_ACTIVE_FLAG ≠ 0 then
    .error ⟨.halfDuplexError, "RX capture remained active " ++ context ++ ": flags=0x" ++
      hex02 status.flags⟩
  else if status.flags &&& TX_ACTIVE_FLAG ≠ 0 then
    .error ⟨.halfDuplexError, "RX status reports TX active " ++ context ++ ": flags=0x" ++
      hex02 status.flags⟩
  else .ok ()

/-- A status that `requireActiveRx` accepts. -/
def RX3Status.Active (status : RX3Status) : Prop :=
  status.droppedBytes = 0 ∧ status.flags &&& TX_ACTIVE_FLAG = 0 ∧
    status.flags &&& ACTIVE_RX_REQUIRED_MASK = ACTIVE_RX_REQUIRED_MASK

/-- A status that `requireInactiveRx` accepts. -/
def RX3Status.Inactive (status : RX3Status) : Prop :=
  status.droppedBytes = 0 ∧ status.flags &&& RX_ACTIVE_FLAG = 0 ∧
    status.flags &&& TX_ACTIVE_FLAG = 0

theorem requireActiveRx_ok {status : RX3Status} {context : String}
    (h : requireActiveRx status context = .ok ()) : status.Active := by
  unfold requireActiveRx at h
  split at h
  · cases h
  case isFalse hdropped =>
    split at h
    · cases h
    case isFalse htx =>
      split at h
      · cases h
      case isFalse hmask => exact ⟨not_not.mp hdropped, not_not.mp htx, not_not.mp hmask⟩

theorem requireActiveRx_of_active {status : RX3Status} (h : status.Active)
    (context : String) : requireActiveRx status context = .ok () := by
  obtain ⟨hdropped, htx, hmask⟩ := h
  rw [requireActiveRx, if_neg (not_not.mpr hdropped), if_neg (not_not.mpr htx),
    if_neg (not_not.mpr hmask)]

theorem requireInactiveRx_ok {status : RX3Status} {context : String}
    (h : requireInactiveRx status context = .ok ()) : status.Inactive := by
  unfold requireInactiveRx at h
  split at h
  · cases h
  case isFalse hdropped =>
    split at h
    · cases h
    case isFalse hrx =>
      split at h
      · cases h
      case isFalse htx => exact ⟨not_not.mp hdropped, not_not.mp hrx, not_not.mp htx⟩

namespace PersistentHalfDuplexSubmitter

variable {R S τ : Type}

/-- A program of an injected component, on its part of the state. -/
def inner (p : PortProg R τ S) : PortProg R (HalfDuplexSnapshot × τ) S :=
  zoom Prod.snd (fun s x => (s.1, x)) p

def update (f : HalfDuplexSnapshot → HalfDuplexSnapshot) :
    PortProg R (HalfDuplexSnapshot × τ) Unit :=
  modify fun s => (f s.1, s.2)

/-- The first `try` block of `submit_frame`. -/
def preTransmit (timeout : ℚ) : PortProg R (HalfDuplexSnapshot × τ) Unit := do
  let status ← Port.rxStatus timeout
  ofExcept (requireActiveRx status "before RX_STOP")
  Port.rxStop timeout
  update fun s => { s with rxStopOperations := s.rxStopOperations + 1 }
  let status ← Port.rxStatus timeout
  ofExcept (requireInactiveRx status "after RX_STOP")

def idleTimeout : PyError :=
  ⟨.halfDuplexPostTransmitError, "timed out waiting for RF TX to become idle"⟩

/-- One round of the loop of `_wait_for_tx_idle`. -/
def pollTxIdle (parameters : HalfDuplexParameters) (timeout deadline : ℚ) :
    PortProg R (HalfDuplexSnapshot × τ) (Option Unit) := do
  let status ← Port.rfStatus timeout
  let diag ← Port.rfDiagnostics timeout
  update fun s => { s with txIdlePolls := s.txIdlePolls + 1 }
  if status.remainingSelectors = 0 ∧ diag.txActive = 0 then return some ()
  else
    let now ← Port.monotonic
    if deadline ≤ now then raise idleTimeout
    else
      let delay := min parameters.txIdlePollSeconds (max 0 (deadline - now))
      if delay ≤ 0 then raise idleTimeout
      else
        Port.sleep delay
        return none

def waitForTxIdle (parameters : HalfDuplexParameters) (timeout : ℚ) :
    PortProg R (HalfDuplexSnapshot × τ) Unit := do
  let started ← Port.monotonic
  iterate (pollTxIdle parameters timeout (started + parameters.txIdleTimeoutSeconds))

def restartAndVerifyRx (timeout : ℚ) : PortProg R (HalfDuplexSnapshot × τ) Unit := do
  Port.rxStart timeout
  update fun s => { s with rxRestartOperations := s.rxRestartOperations + 1 }
  let status ← Port.rxStatus timeout
  ofExcept (requireActiveRx status "after RX_START")

/-- Wait for an idle transmitter, then bring RX back. -/
def restore (parameters : HalfDuplexParameters) (timeout : ℚ) :
    PortProg R (HalfDuplexSnapshot × τ) Unit := do
  waitForTxIdle parameters timeout
  restartAndVerifyRx timeout

/-- The handler of a failed downstream submission. -/
def recover (parameters : HalfDuplexParameters) (timeout : ℚ) :
    PortProg R (HalfDuplexSnapshot × τ) S := do
  update fun s => { s with downstreamFailures := s.downstreamFailures + 1 }
  match ← attempt (restore parameters timeout) with
  | .error _ =>
      update fun s => { s with failedLatched := true }
      raise ⟨.halfDuplexDownstreamError,
        "downstream TX failed and safe RX recovery also failed; frame is terminal"⟩
  | .ok () =>
      update fun s =>
        { s with recoveredDownstreamFailures := s.recoveredDownstreamFailures + 1 }
      raise ⟨.halfDuplexDownstreamError,
        "downstream TX failed; RX recovered and frame is terminal without retry"⟩

/-- The end of a cycle whose frame was accepted downstream. -/
def complete (parameters : HalfDuplexParameters) (timeout : ℚ) (result : S) :
    PortProg R (HalfDuplexSnapshot × τ) S := do
  update fun s => { s with downstreamAccepted := s.downstreamAccepted + 1 }
  match ← attempt (restore parameters timeout) with
  | .error _ =>
      update fun s => { s with
        postTransmitFailures := s.postTransmitFailures + 1, failedLatched := true }
      raise ⟨.halfDuplexPostTransmitError,
        "TX was accepted but RF-idle/RX restoration failed; do not retry the frame"⟩
  | .ok () =>
      update fun s => { s with cyclesCompleted := s.cyclesCompleted + 1 }
      return result

/-- The body of the outer `try` of `submit_frame`. -/
def cycle (parameters : HalfDuplexParameters) (submit : Bytes → ℚ → PortProg R τ S)
    (frameWithFcs : Bytes) (timeout : ℚ) : PortProg R (HalfDuplexSnapshot × τ) S := do
  match ← attempt (preTransmit timeout) with
  | .error _ =>
      update fun s => { s with
        preTransmitFailures := s.preTransmitFailures + 1, failedLatched := true }
      raise ⟨.halfDuplexPreTransmitError,
        "could not prove a safe RX_STOP handoff; downstream TX was not called"⟩
  | .ok () =>
      match ← attempt (inner (submit frameWithFcs timeout)) with
      | .error _ => recover parameters timeout
      | .ok result => complete parameters timeout result

def submitFrame (parameters : HalfDuplexParameters)
    (submit : Bytes → ℚ → PortProg R τ S) (frameWithFcs : Bytes)
    (timeout : Option ℚ) : PortProg R (HalfDuplexSnapshot × τ) S := do
  let s ← get
  if s.1.failedLatched then
    raise ⟨.halfDuplexLatched, "half-duplex lifecycle is latched failed"⟩
  else if s.1.inCycle then
    raise ⟨.halfDuplexLatched, "half-duplex lifecycle already has an in-flight cycle"⟩
  else
    let timeout := timeout.getD parameters.transactionTimeoutSeconds
    if timeout ≤ 0 then
      raise (.valueError "transaction timeout must be positive")
    else
      update fun s => { s with inCycle := true, cyclesStarted := s.cyclesStarted + 1 }
      ensuring (cycle parameters submit frameWithFcs timeout)
        fun s => ({ s.1 with inCycle := false }, s.2)

/-! ### The traces of the stages -/

/-- What the port answers when RX has been stopped safely. -/
def handedOff (timeout : ℚ) (before after : RX3Status) : List (PortCall R) :=
  [⟨.rxStatus timeout, some (.ok before)⟩, ⟨.rxStop timeout, some (.ok ())⟩,
    ⟨.rxStatus timeout, some (.ok after)⟩]

/-- A pair of readings that ends the wait for an idle transmitter. -/
def idlePair (timeout : ℚ) (status : RFStatus) (diag : RFDiagnostics) :
    List (PortCall R) :=
  [⟨.rfStatus timeout, some (.ok status)⟩, ⟨.rfDiagnostics timeout, some (.ok diag)⟩]

def Idle (status : RFStatus) (diag : RFDiagnostics) : Prop :=
  status.remainingSelectors = 0 ∧ diag.txActive = 0

/-- RX came back: the answers of a successful `_restart_and_verify_rx`. -/
def restarted (timeout : ℚ) (status : RX3Status) : List (PortCall R) :=
  [⟨.rxStart timeout, some (.ok ())⟩, ⟨.rxStatus timeout, some (.ok status)⟩]

theorem preTransmit_callsOnly (timeout : ℚ) :
    CallsOnly PortQuery.isHandoff (preTransmit (R := R) (τ := τ) timeout) := by
  refine (callsOnly_call trivial).bind fun before => ?_
  refine (callsOnly_ofExcept _).bind fun _ => ?_
  refine (callsOnly_call trivial).bind fun _ => ?_
  refine (callsOnly_modify _).bind fun _ => ?_
  exact (callsOnly_call trivial).bind fun after => callsOnly_ofExcept _

theorem preTransmit_returned {timeout : ℚ} {s s' : HalfDuplexSnapshot × τ}
    {t : List (PortCall R)} (h : Runs (preTransmit timeout) s (.returned ()) s' t) :
    ∃ before after, before.Active ∧ after.Inactive ∧
      t = handedOff timeout before after := by
  unfold preTransmit at h
  obtain ⟨before, s₁, t₁, u₁, hbefore, h₁, rfl⟩ := h.bind_returned
  obtain ⟨-, rfl⟩ := hbefore.call_returned
  obtain ⟨_, s₂, t₂, u₂, hcheck, h₂, rfl⟩ := h₁.bind_returned
  obtain ⟨hactive, -, rfl⟩ := hcheck.ofExcept_returned
  obtain ⟨_, s₃, t₃, u₃, hstop, h₃, rfl⟩ := h₂.bind_returned
  obtain ⟨-, rfl⟩ := hstop.call_returned
  obtain ⟨_, s₄, t₄, u₄, hcount, h₄, rfl⟩ := h₃.bind_returned
  obtain ⟨-, -, rfl⟩ := runs_modify.1 hcount
  obtain ⟨after, s₅, t₅, u₅, hafter, h₅, rfl⟩ := h₄.bind_returned
  obtain ⟨-, rfl⟩ := hafter.call_returned
  obtain ⟨hinactive, -, rfl⟩ := h₅.ofExcept_returned
  exact ⟨before, after, requireActiveRx_ok hactive, requireInactiveRx_ok hinactive, rfl⟩

theorem pollTxIdle_callsOnly (parameters : HalfDuplexParameters) (timeout deadline : ℚ) :
    CallsOnly PortQuery.isIdleWait
      (pollTxIdle (R := R) (τ := τ) parameters timeout deadline) := by
  refine (callsOnly_call trivial).bind fun status => ?_
  refine (callsOnly_call trivial).bind fun diag => ?_
  refine (callsOnly_modify _).bind fun _ => ?_
  split
  · exact callsOnly_ret _
  · refine (callsOnly_call trivial).bind fun now => ?_
    split
    · exact callsOnly_raise _
    · dsimp only
      split
      · exact callsOnly_raise _
      · exact (callsOnly_call trivial).bind fun _ => callsOnly_ret _

/-- The loop is left normally only on an idle pair. -/
theorem pollTxIdle_returned {parameters : HalfDuplexParameters} {timeout deadline : ℚ}
    {s s' : HalfDuplexSnapshot × τ} {t : List (PortCall R)}
    (h : Runs (pollTxIdle parameters timeout deadline) s (.returned (some ())) s' t) :
    ∃ status diag, Idle status diag ∧ t = idlePair timeout status diag := by
  unfold pollTxIdle at h
  obtain ⟨status, s₁, t₁, u₁, hstatus, h₁, rfl⟩ := h.bind_returned
  obtain ⟨-, rfl⟩ := hstatus.call_returned
  obtain ⟨diag, s₂, t₂, u₂, hdiag, h₂, rfl⟩ := h₁.bind_returned
  obtain ⟨-, rfl⟩ := hdiag.call_returned
  obtain ⟨_, s₃, t₃, u₃, hcount, h₃, rfl⟩ := h₂.bind_returned
  obtain ⟨-, -, rfl⟩ := runs_modify.1 hcount
  split at h₃
  case isTrue hidle =>
    obtain ⟨-, -, rfl⟩ := runs_pure.1 h₃
    exact ⟨status, diag, hidle, rfl⟩
  case isFalse =>
    obtain ⟨now, s₄, t₄, u₄, -, h₄, -⟩ := h₃.bind_returned
    split at h₄
    · cases (runs_raise.1 h₄).1
    · dsimp only at h₄
      split at h₄
      · cases (runs_raise.1 h₄).1
      · obtain ⟨_, s₅, t₅, u₅, -, h₅, -⟩ := h₄.bind_returned
        cases (runs_pure.1 h₅).1

theorem waitForTxIdle_callsOnly (parameters : HalfDuplexParameters) (timeout : ℚ) :
    CallsOnly PortQuery.isIdleWait
      (waitForTxIdle (R := R) (τ := τ) parameters timeout) :=
  (callsOnly_call trivial).bind fun _ =>
    (pollTxIdle_callsOnly parameters timeout _).iterate

theorem waitForTxIdle_returned {parameters : HalfDuplexParameters} {timeout : ℚ}
    {s s' : HalfDuplexSnapshot × τ} {t : List (PortCall R)}
    (h : Runs (waitForTxIdle parameters timeout) s (.returned ()) s' t) :
    ∃ u status diag, Idle status diag ∧ t = u ++ idlePair timeout status diag := by
  unfold waitForTxIdle at h
  obtain ⟨started, s₁, t₁, u₁, -, hloop, rfl⟩ := h.bind_returned
  obtain ⟨s₂, t₂, u₂, hlast, rfl⟩ := hloop.iterate_rounds.returned
  obtain ⟨status, diag, hidle, rfl⟩ := pollTxIdle_returned hlast
  exact ⟨t₁ ++ t₂, status, diag, hidle, (List.append_assoc _ _ _).symm⟩

theorem restartAndVerifyRx_returned {timeout : ℚ} {s s' : HalfDuplexSnapshot × τ}
    {t : List (PortCall R)}
    (h : Runs (restartAndVerifyRx timeout) s (.returned ()) s' t) :
    ∃ status, status.Active ∧ t = restarted timeout status := by
  unfold restartAndVerifyRx at h
  obtain ⟨_, s₁, t₁, u₁, hstart, h₁, rfl⟩ := h.bind_returned
  obtain ⟨-, rfl⟩ := hstart.call_returned
  obtain ⟨_, s₂, t₂, u₂, hcount, h₂, rfl⟩ := h₁.bind_returned
  obtain ⟨-, -, rfl⟩ := runs_modify.1 hcount
  obtain ⟨status, s₃, t₃, u₃, hstatus, h₃, rfl⟩ := h₂.bind_returned
  obtain ⟨-, rfl⟩ := hstatus.call_returned
  obtain ⟨hactive, -, rfl⟩ := h₃.ofExcept_returned
  exact ⟨status, requireActiveRx_ok hactive, rfl⟩

/-- However it ends, a restart asks for RX_START first and only once. -/
theorem restartAndVerifyRx_runs {timeout : ℚ} {s s' : HalfDuplexSnapshot × τ}
    {o : Outcome PyError Unit} {t : List (PortCall R)}
    (h : Runs (restartAndVerifyRx timeout) s o s' t) :
    ∃ c rest, t = c :: rest ∧ c.query = .rxStart timeout ∧
      ∀ d ∈ rest, d.query = .rxStatus timeout := by
  have hrest : CallsOnly (· = PortQuery.rxStatus timeout) (do
      update (R := R) (τ := τ) fun s =>
        { s with rxRestartOperations := s.rxRestartOperations + 1 }
      let status ← Port.rxStatus timeout
      ofExcept (requireActiveRx status "after RX_START")) := by
    refine (callsOnly_modify _).bind fun _ => ?_
    refine CallsOnly.bind ?_ fun _ => callsOnly_ofExcept _
    exact callsOnly_call rfl
  rcases h.bind_cases with ⟨_, s₁, t₁, t₂, hstart, hverify, rfl⟩ | ⟨e, hstart, -⟩ |
    ⟨hstart, -⟩
  · obtain ⟨-, rfl⟩ := hstart.call_returned
    exact ⟨_, t₂, rfl, rfl, hrest _ _ _ _ hverify⟩
  · obtain ⟨-, ⟨a, ho, -⟩ | ⟨e, -, rfl⟩ | ⟨ho, -⟩⟩ := hstart.call_cases
    · cases ho
    · exact ⟨_, [], rfl, rfl, by simp⟩
    · cases ho
  · obtain ⟨-, ⟨a, ho, -⟩ | ⟨e, ho, -⟩ | ⟨-, rfl⟩⟩ := hstart.call_cases
    · cases ho
    · cases ho
    · exact ⟨_, [], rfl, rfl, by simp⟩

/-! ### What the stages leave alone -/

/-- The part of the state that records how cycles ended. -/
def ledger (s : HalfDuplexSnapshot) : HalfDuplexSnapshot :=
  { s with rxStopOperations := 0, rxRestartOperations := 0, txIdlePolls := 0 }

/-- Only the counters of the modem operations differ. -/
def Untouched (s s' : HalfDuplexSnapshot × τ) : Prop :=
  ledger s'.1 = ledger s.1 ∧ s'.2 = s.2

theorem composable_untouched : Composable (Untouched (τ := τ)) where
  refl _ := ⟨rfl, rfl⟩
  trans h h' := ⟨h'.1.trans h.1, h'.2.trans h.2⟩

/-- Untouched states stay so when the same change of the ledger is made to both. -/
theorem Untouched.update {s s' : HalfDuplexSnapshot × τ} (h : Untouched s s')
    (f : HalfDuplexSnapshot → HalfDuplexSnapshot)
    (hf : ∀ s, ledger (f s) = f (ledger s)) :
    Untouched (f s.1, s.2) (f s'.1, s'.2) := by
  refine ⟨?_, h.2⟩
  rw [hf, hf, h.1]

theorem preTransmit_untouched (timeout : ℚ) :
    Within Untouched (preTransmit (R := R) (τ := τ) timeout) := by
  have hcomp := composable_untouched (τ := τ)
  refine (within_call hcomp _).bind hcomp fun before => ?_
  refine (within_ofExcept hcomp _).bind hcomp fun _ => ?_
  refine (within_call hcomp _).bind hcomp fun _ => ?_
  refine (within_modify fun s => ⟨rfl, rfl⟩).bind hcomp fun _ => ?_
  exact (within_call hcomp _).bind hcomp fun after => within_ofExcept hcomp _

theorem pollTxIdle_untouched (parameters : HalfDuplexParameters) (timeout deadline : ℚ) :
    Within Untouched (pollTxIdle (R := R) (τ := τ) parameters timeout deadline) := by
  have hcomp := composable_untouched (τ := τ)
  refine (within_call hcomp _).bind hcomp fun status => ?_
  refine (within_call hcomp _).bind hcomp fun diag => ?_
  refine (within_modify fun s => ⟨rfl, rfl⟩).bind hcomp fun _ => ?_
  split
  · exact within_ret hcomp _
  · refine (within_call hcomp _).bind hcomp fun now => ?_
    split
    · exact within_raise hcomp _
    · dsimp only
      split
      · exact within_raise hcomp _
      · exact (within_call hcomp _).bind hcomp fun _ => within_ret hcomp _

theorem restore_untouched (parameters : HalfDuplexParameters) (timeout : ℚ) :
    Within Untouched (restore (R := R) (τ := τ) parameters timeout) := by
  have hcomp := composable_untouched (τ := τ)
  have hwait : Within Untouched (waitForTxIdle (R := R) (τ := τ) parameters timeout) :=
    (within_call hcomp _).bind hcomp fun _ =>
      (pollTxIdle_untouched parameters timeout _).iterate hcomp
  refine hwait.bind hcomp fun _ => ?_
  refine (within_call hcomp _).bind hcomp fun _ => ?_
  refine (within_modify fun s => ⟨rfl, rfl⟩).bind hcomp fun _ => ?_
  exact (within_call hcomp _).bind hcomp fun _ => within_ofExcept hcomp _

/-! ### Restoring RX -/

/-- The trace of a restoration, finished or not: RX_START comes right after an
idle pair. -/
structure Restoring (timeout : ℚ) (t : List (PortCall R)) : Prop where
  callsOnly : ∀ c ∈ t, c.query.isRestore
  idle_rxStart : ∀ u c v, t = u ++ c :: v → c.query.isRxStart →
    ∃ w status diag, Idle status diag ∧ u = w ++ idlePair timeout status diag

/-- The trace of a restoration that succeeded. -/
def Restored (timeout : ℚ) (t : List (PortCall R)) : Prop :=
  ∃ u status diag rx, Idle status diag ∧ rx.Active ∧
    t = u ++ idlePair timeout status diag ++ restarted timeout rx

theorem restore_restoring {parameters : HalfDuplexParameters} {timeout : ℚ}
    {s s' : HalfDuplexSnapshot × τ} {o : Outcome PyError Unit} {t : List (PortCall R)}
    (h : Runs (restore parameters timeout) s o s' t) : Restoring timeout t := by
  have hwaits := waitForTxIdle_callsOnly (R := R) (τ := τ) parameters timeout
  -- a wait that does not return never reaches RX_START
  have hstuck : ∀ {o}, Runs (waitForTxIdle parameters timeout) s o s' t →
      Restoring timeout t := by
    intro o₁ hwait
    constructor
    · intro c hc
      exact (c.query.isIdleWait_restore (hwaits _ _ _ _ hwait c hc)).1
    · intro u c v ht hc
      have hmem : c ∈ t := by simp [ht]
      exact absurd hc (c.query.isIdleWait_restore (hwaits _ _ _ _ hwait c hmem)).2
  rcases h.bind_cases with ⟨_, s₁, t₁, t₂, hwait, hrestart, rfl⟩ | ⟨e, hwait, -⟩ |
    ⟨hwait, -⟩
  · obtain ⟨first, rest, rfl, hfirst, hrest⟩ := restartAndVerifyRx_runs hrestart
    constructor
    · intro c hc
      rcases List.mem_append.1 hc with hc | hc
      · exact (c.query.isIdleWait_restore (hwaits _ _ _ _ hwait c hc)).1
      · rcases List.mem_cons.1 hc with rfl | hc
        · rw [hfirst]
          trivial
        · rw [hrest c hc]
          trivial
    · intro u c v ht hc
      have hu : u = t₁ := by
        refine (only_split (P := fun d => d.query.isRxStart) ht (fun d hd => ?_)
          (fun d hd => ?_) hc).1
        · exact (d.query.isIdleWait_restore (hwaits _ _ _ _ hwait d hd)).2
        · rw [hrest d hd]
          exact id
      obtain ⟨w, status, diag, hidle, rfl⟩ := waitForTxIdle_returned hwait
      exact ⟨w, status, diag, hidle, hu⟩
  · exact hstuck hwait
  · exact hstuck hwait

theorem restore_returned {parameters : HalfDuplexParameters} {timeout : ℚ}
    {s s' : HalfDuplexSnapshot × τ} {t : List (PortCall R)}
    (h : Runs (restore parameters timeout) s (.returned ()) s' t) :
    Restored timeout t := by
  unfold restore at h
  obtain ⟨_, s₁, t₁, t₂, hwait, hrestart, rfl⟩ := h.bind_returned
  obtain ⟨u, status, diag, hidle, rfl⟩ := waitForTxIdle_returned hwait
  obtain ⟨rx, hactive, rfl⟩ := restartAndVerifyRx_returned hrestart
  exact ⟨u, status, diag, rx, hidle, hactive, rfl⟩

/-- A call that was answered with an active RX status. -/
def ActiveReading (c : PortCall R) : Prop :=
  ∃ timeout rx, rx.Active ∧ c = ⟨.rxStatus timeout, some (.ok rx)⟩

theorem restartAndVerifyRx_raised {timeout : ℚ} {s s' : HalfDuplexSnapshot × τ}
    {e : PyError} {t : List (PortCall R)}
    (h : Runs (restartAndVerifyRx timeout) s (.raised e) s' t) :
    ∀ c ∈ t, ¬ ActiveReading c := by
  rintro c hc ⟨timeout', rx, hactive, rfl⟩
  rcases h.bind_cases with ⟨_, s₁, t₁, t₂, hstart, hverify, rfl⟩ | ⟨e, hstart, -⟩ |
    ⟨-, ho⟩
  · obtain ⟨-, rfl⟩ := hstart.call_returned
    rcases hverify.modify_bind.bind_cases with
      ⟨rx', s₂, t₃, t₄, hstatus, hcheck, rfl⟩ | ⟨e, hstatus, -⟩ | ⟨-, ho⟩
    · obtain ⟨-, rfl⟩ := hstatus.call_returned
      cases hactive' : requireActiveRx rx' "after RX_START" with
      | ok =>
          rw [hactive'] at hcheck
          cases (runs_ofExcept_ok.1 hcheck).1
      | error e =>
          rw [hactive'] at hcheck
          obtain ⟨-, -, rfl⟩ := runs_ofExcept_error.1 hcheck
          simp only [List.append_nil, List.cons_append, List.nil_append, List.mem_cons,
            List.not_mem_nil, or_false] at hc
          rcases hc with hc | hc
          · cases hc
          · cases hc
            rw [requireActiveRx_of_active hactive] at hactive'
            cases hactive'
    · obtain ⟨-, ⟨a, ho, -⟩ | ⟨e', -, rfl⟩ | ⟨ho, -⟩⟩ := hstatus.call_cases
      · cases ho
      · simp at hc
      · cases ho
    · cases ho
  · obtain ⟨-, ⟨a, ho, -⟩ | ⟨e', -, rfl⟩ | ⟨ho, -⟩⟩ := hstart.call_cases
    · cases ho
    · simp at hc
    · cases ho
  · cases ho

/-- A restoration that fails never saw RX active. -/
theorem restore_raised {parameters : HalfDuplexParameters} {timeout : ℚ}
    {s s' : HalfDuplexSnapshot × τ} {e : PyError} {t : List (PortCall R)}
    (h : Runs (restore parameters timeout) s (.raised e) s' t) :
    ∀ c ∈ t, ¬ ActiveReading c := by
  have hwaits : ∀ {s o s' t}, Runs (waitForTxIdle (τ := τ) parameters timeout) s o s' t →
      ∀ c : PortCall R, c ∈ t → ¬ ActiveReading c := by
    rintro s₁ o s₂ t₁ hwait c hc ⟨timeout', rx, -, rfl⟩
    exact waitForTxIdle_callsOnly parameters timeout _ _ _ _ hwait _ hc
  rcases h.bind_cases with ⟨_, s₁, t₁, t₂, hwait, hrestart, rfl⟩ | ⟨e, hwait, -⟩ | ⟨-, ho⟩
  · intro c hc
    rcases List.mem_append.1 hc with hc | hc
    · exact hwaits hwait c hc
    · exact restartAndVerifyRx_raised hrestart c hc
  · exact hwaits hwait
  · cases ho

/-! ### A whole cycle -/

section Cycle

variable (submit : Bytes → ℚ → PortProg R τ S) (frameWithFcs : Bytes) (timeout : ℚ)

/-- The exits of a cycle. RX was stopped before the submitter ran, and after it
ran a restoration was tried, whatever the submitter did. -/
inductive Cycle (s : HalfDuplexSnapshot × τ) :
    Outcome PyError S → HalfDuplexSnapshot × τ → List (PortCall R) → Prop
  | handoffFailed {s' : HalfDuplexSnapshot × τ} {t : List (PortCall R)} {e : PyError}
      (hcalls : ∀ c ∈ t, c.query.isHandoff)
      (hledger : Untouched
        ({ s.1 with
          preTransmitFailures := s.1.preTransmitFailures + 1, failedLatched := true },
          s.2) s') :
      Cycle s (.raised e) s' t
  | handoffPending {s' : HalfDuplexSnapshot × τ} {t : List (PortCall R)}
      (hcalls : ∀ c ∈ t, c.query.isHandoff) : Cycle s .pending s' t
  | submitPending {s' : HalfDuplexSnapshot × τ} {x : τ} {t : List (PortCall R)}
      {before after : RX3Status} (hbefore : before.Active) (hafter : after.Inactive)
      (hsubmit : Runs (submit frameWithFcs timeout) s.2 .pending x t) :
      Cycle s .pending s' (handedOff timeout before after ++ t)
  | restorePending {s' : HalfDuplexSnapshot × τ} {x : τ} {t t' : List (PortCall R)}
      {before after : RX3Status} {o : Outcome PyError S} (hbefore : before.Active)
      (hafter : after.Inactive)
      (hsubmit : Runs (submit frameWithFcs timeout) s.2 o x t)
      (hrestore : Restoring timeout t') :
      Cycle s .pending s' (handedOff timeout before after ++ t ++ t')
  | recovered {s' : HalfDuplexSnapshot × τ} {x : τ} {t t' : List (PortCall R)}
      {before after : RX3Status} {e e' : PyError} (hbefore : before.Active)
      (hafter : after.Inactive)
      (hsubmit : Runs (submit frameWithFcs timeout) s.2 (.raised e) x t)
      (hrestore : Restoring timeout t') (hrestored : Restored timeout t')
      (hledger : Untouched
        ({ s.1 with
          downstreamFailures := s.1.downstreamFailures + 1
          recoveredDownstreamFailures := s.1.recoveredDownstreamFailures + 1 }, x) s') :
      Cycle s (.raised e') s' (handedOff timeout before after ++ t ++ t')
  | unrecovered {s' : HalfDuplexSnapshot × τ} {x : τ} {t t' : List (PortCall R)}
      {before after : RX3Status} {e e' : PyError} (hbefore : before.Active)
      (hafter : after.Inactive)
      (hsubmit : Runs (submit frameWithFcs timeout) s.2 (.raised e) x t)
      (hrestore : Restoring timeout t') (hfailed : ∀ c ∈ t', ¬ ActiveReading c)
      (hledger : Untouched
        ({ s.1 with
          downstreamFailures := s.1.downstreamFailures + 1, failedLatched := true }, x)
        s') :
      Cycle s (.raised e') s' (handedOff timeout before after ++ t ++ t')
  | restoreFailed {s' : HalfDuplexSnapshot × τ} {x : τ} {t t' : List (PortCall R)}
      {before after : RX3Status} {result : S} {e : PyError} (hbefore : before.Active)
      (hafter : after.Inactive)
      (hsubmit : Runs (submit frameWithFcs timeout) s.2 (.returned result) x t)
      (hrestore : Restoring timeout t') (hfailed : ∀ c ∈ t', ¬ ActiveReading c)
      (hledger : Untouched
        ({ s.1 with
          downstreamAccepted := s.1.downstreamAccepted + 1
          postTransmitFailures := s.1.postTransmitFailures + 1
          failedLatched := true }, x) s') :
      Cycle s (.raised e) s' (handedOff timeout before after ++ t ++ t')
  | completed {s' : HalfDuplexSnapshot × τ} {x : τ} {t t' : List (PortCall R)}
      {before after : RX3Status} {result : S} (hbefore : before.Active)
      (hafter : after.Inactive)
      (hsubmit : Runs (submit frameWithFcs timeout) s.2 (.returned result) x t)
      (hrestore : Restoring timeout t') (hrestored : Restored timeout t')
      (hledger : Untouched
        ({ s.1 with
          downstreamAccepted := s.1.downstreamAccepted + 1
          cyclesCompleted := s.1.cyclesCompleted + 1 }, x) s') :
      Cycle s (.returned result) s' (handedOff timeout before after ++ t ++ t')

variable {submit frameWithFcs timeout} {parameters : HalfDuplexParameters}

/-- The exits of a tried restoration, and what its continuation starts from. -/
theorem attempt_restore_cases
    {f : Except PyError Unit → PortProg R (HalfDuplexSnapshot × τ) S}
    {s s' : HalfDuplexSnapshot × τ} {o : Outcome PyError S} {t : List (PortCall R)}
    (h : Runs (attempt (restore parameters timeout) >>= f) s o s' t) :
    (∃ s₁ t₁ t₂, Restoring timeout t₁ ∧ Restored timeout t₁ ∧ Untouched s s₁ ∧
        Runs (f (.ok ())) s₁ o s' t₂ ∧ t = t₁ ++ t₂) ∨
      (∃ e s₁ t₁ t₂, Restoring timeout t₁ ∧ (∀ c ∈ t₁, ¬ ActiveReading c) ∧
        Untouched s s₁ ∧ Runs (f (.error e)) s₁ o s' t₂ ∧ t = t₁ ++ t₂) ∨
      (Restoring timeout t ∧ o = .pending) := by
  rcases h.attempt_bind_cases with
    ⟨_, s₁, t₁, t₂, hrestore, hend, rfl⟩ | ⟨e, s₁, t₁, t₂, hrestore, hend, rfl⟩ |
    ⟨hrestore, ho⟩
  · have hledger := restore_untouched parameters timeout _ _ _ _ hrestore
    exact .inl ⟨s₁, t₁, t₂, restore_restoring hrestore, restore_returned hrestore,
      hledger, hend, rfl⟩
  · have hledger := restore_untouched parameters timeout _ _ _ _ hrestore
    exact .inr (.inl ⟨e, s₁, t₁, t₂, restore_restoring hrestore, restore_raised hrestore,
      hledger, hend, rfl⟩)
  · exact .inr (.inr ⟨restore_restoring hrestore, ho⟩)

/-- A failed submission is followed by a restoration and ends in an exception. -/
theorem recover_cases {s s' : HalfDuplexSnapshot × τ} {o : Outcome PyError S}
    {t : List (PortCall R)} (h : Runs (recover parameters timeout) s o s' t) :
    Restoring timeout t ∧
      (o = .pending ∨
        (∃ e, o = .raised e ∧ Restored timeout t ∧ Untouched
          ({ s.1 with
            downstreamFailures := s.1.downstreamFailures + 1
            recoveredDownstreamFailures := s.1.recoveredDownstreamFailures + 1 },
            s.2) s') ∨
        ∃ e, o = .raised e ∧ (∀ c ∈ t, ¬ ActiveReading c) ∧ Untouched
          ({ s.1 with
            downstreamFailures := s.1.downstreamFailures + 1, failedLatched := true },
            s.2) s') := by
  rcases attempt_restore_cases h.modify_bind with
    ⟨s₁, t₁, t₂, hrestoring, hrestored, hledger, hend, rfl⟩ |
    ⟨_, s₁, t₁, t₂, hrestoring, hfailed, hledger, hend, rfl⟩ | ⟨hrestoring, ho⟩
  · obtain ⟨rfl, rfl, rfl⟩ := runs_raise.1 hend.modify_bind
    rw [List.append_nil]
    refine ⟨hrestoring, .inr (.inl ⟨_, rfl, hrestored, ?_⟩)⟩
    exact hledger.update
      (fun s => { s with recoveredDownstreamFailures := s.recoveredDownstreamFailures + 1 })
      (fun _ => rfl)
  · obtain ⟨rfl, rfl, rfl⟩ := runs_raise.1 hend.modify_bind
    rw [List.append_nil]
    refine ⟨hrestoring, .inr (.inr ⟨_, rfl, hfailed, ?_⟩)⟩
    exact hledger.update (fun s => { s with failedLatched := true }) (fun _ => rfl)
  · exact ⟨hrestoring, .inl ho⟩

/-- An accepted frame is followed by a restoration, which decides whether the
call returns. -/
theorem complete_cases {s s' : HalfDuplexSnapshot × τ} {result : S}
    {o : Outcome PyError S} {t : List (PortCall R)}
    (h : Runs (complete parameters timeout result) s o s' t) :
    Restoring timeout t ∧
      (o = .pending ∨
        (o = .returned result ∧ Restored timeout t ∧ Untouched
          ({ s.1 with
            downstreamAccepted := s.1.downstreamAccepted + 1
            cyclesCompleted := s.1.cyclesCompleted + 1 }, s.2) s') ∨
        ∃ e, o = .raised e ∧ (∀ c ∈ t, ¬ ActiveReading c) ∧ Untouched
          ({ s.1 with
            downstreamAccepted := s.1.downstreamAccepted + 1
            postTransmitFailures := s.1.postTransmitFailures + 1
            failedLatched := true }, s.2) s') := by
  rcases attempt_restore_cases h.modify_bind with
    ⟨s₁, t₁, t₂, hrestoring, hrestored, hledger, hend, rfl⟩ |
    ⟨_, s₁, t₁, t₂, hrestoring, hfailed, hledger, hend, rfl⟩ | ⟨hrestoring, ho⟩
  · obtain ⟨rfl, rfl, rfl⟩ := runs_pure.1 hend.modify_bind
    rw [List.append_nil]
    refine ⟨hrestoring, .inr (.inl ⟨rfl, hrestored, ?_⟩)⟩
    exact hledger.update
      (fun s => { s with cyclesCompleted := s.cyclesCompleted + 1 }) (fun _ => rfl)
  · obtain ⟨rfl, rfl, rfl⟩ := runs_raise.1 hend.modify_bind
    rw [List.append_nil]
    refine ⟨hrestoring, .inr (.inr ⟨_, rfl, hfailed, ?_⟩)⟩
    exact hledger.update
      (fun s => { s with
        postTransmitFailures := s.postTransmitFailures + 1, failedLatched := true })
      (fun _ => rfl)
  · exact ⟨hrestoring, .inl ho⟩

theorem cycle_cycle {s s' : HalfDuplexSnapshot × τ} {o : Outcome PyError S}
    {t : List (PortCall R)}
    (h : Runs (cycle parameters submit frameWithFcs timeout) s o s' t) :
    Cycle submit frameWithFcs timeout s o s' t := by
  rcases h.attempt_bind_cases with
    ⟨_, s₁, t₁, t₂, hpre, hrest, rfl⟩ | ⟨e, s₁, t₁, t₂, hpre, hrest, rfl⟩ | ⟨hpre, rfl⟩
  · obtain ⟨before, after, hbefore, hafter, rfl⟩ := preTransmit_returned hpre
    obtain ⟨hledger, hinner⟩ := preTransmit_untouched timeout _ _ _ _ hpre
    rcases hrest.attempt_bind_cases with
      ⟨result, s₂, t₂, t₃, hsubmit, hend, rfl⟩ | ⟨e, s₂, t₂, t₃, hsubmit, hend, rfl⟩ |
      ⟨hsubmit, rfl⟩
    · obtain ⟨x, hrun, rfl⟩ := hsubmit.zoom_cases
      rw [hinner] at hrun
      have hkept : Untouched (s.1, x) (s₁.1, x) := ⟨hledger, rfl⟩
      rw [← List.append_assoc]
      obtain ⟨hrestore, rfl | ⟨rfl, hrestored, hdone⟩ | ⟨e, rfl, hfailed, hdone⟩⟩ :=
        complete_cases hend
      · exact .restorePending hbefore hafter hrun hrestore
      · exact .completed hbefore hafter hrun hrestore hrestored
          (composable_untouched.trans (hkept.update (fun s => { s with
            downstreamAccepted := s.downstreamAccepted + 1
            cyclesCompleted := s.cyclesCompleted + 1 }) fun _ => rfl) hdone)
      · exact .restoreFailed hbefore hafter hrun hrestore hfailed
          (composable_untouched.trans (hkept.update (fun s => { s with
            downstreamAccepted := s.downstreamAccepted + 1
            postTransmitFailures := s.postTransmitFailures + 1
            failedLatched := true }) fun _ => rfl) hdone)
    · obtain ⟨x, hrun, rfl⟩ := hsubmit.zoom_cases
      rw [hinner] at hrun
      have hkept : Untouched (s.1, x) (s₁.1, x) := ⟨hledger, rfl⟩
      rw [← List.append_assoc]
      obtain ⟨hrestore, rfl | ⟨e', rfl, hrestored, hdone⟩ | ⟨e', rfl, hfailed, hdone⟩⟩ :=
        recover_cases hend
      · exact .restorePending hbefore hafter hrun hrestore
      · exact .recovered hbefore hafter hrun hrestore hrestored
          (composable_untouched.trans (hkept.update (fun s => { s with
            downstreamFailures := s.downstreamFailures + 1
            recoveredDownstreamFailures := s.recoveredDownstreamFailures + 1 })
            fun _ => rfl) hdone)
      · exact .unrecovered hbefore hafter hrun hrestore hfailed
          (composable_untouched.trans (hkept.update (fun s => { s with
            downstreamFailures := s.downstreamFailures + 1, failedLatched := true })
            fun _ => rfl) hdone)
    · obtain ⟨x, hrun, rfl⟩ := hsubmit.zoom_cases
      rw [hinner] at hrun
      exact .submitPending hbefore hafter hrun
  · obtain ⟨rfl, rfl, rfl⟩ := runs_raise.1 hrest.modify_bind
    have hledger := preTransmit_untouched timeout _ _ _ _ hpre
    refine .handoffFailed ?_ (hledger.update (fun s => { s with
      preTransmitFailures := s.preTransmitFailures + 1, failedLatched := true })
      fun _ => rfl)
    rw [List.append_nil]
    exact preTransmit_callsOnly timeout _ _ _ _ hpre
  · exact .handoffPending (preTransmit_callsOnly timeout _ _ _ _ hpre)

variable (submit frameWithFcs parameters) in
/-- The exits of a call: refused before it began, or a cycle between the two
updates of `inCycle`. -/
inductive Submits (timeout : Option ℚ) (s : HalfDuplexSnapshot × τ) :
    Outcome PyError S → HalfDuplexSnapshot × τ → List (PortCall R) → Prop
  | refused {e : PyError}
      (hrefused : s.1.failedLatched = true ∨ s.1.inCycle = true ∨
        timeout.getD parameters.transactionTimeoutSeconds ≤ 0)
      (hlatched : s.1.failedLatched = true → e.cls = .halfDuplexLatched) :
      Submits timeout s (.raised e) s []
  | cycle {s₁ : HalfDuplexSnapshot × τ} {o : Outcome PyError S} {t : List (PortCall R)}
      (hlatched : s.1.failedLatched = false) (hidle : s.1.inCycle = false)
      (ho : o ≠ .pending)
      (hcycle : Cycle submit frameWithFcs
        (timeout.getD parameters.transactionTimeoutSeconds)
        ({ s.1 with inCycle := true, cyclesStarted := s.1.cyclesStarted + 1 }, s.2)
        o s₁ t) :
      Submits timeout s o ({ s₁.1 with inCycle := false }, s₁.2) t
  | pending {s' : HalfDuplexSnapshot × τ} {t : List (PortCall R)}
      (hlatched : s.1.failedLatched = false) (hidle : s.1.inCycle = false)
      (hcycle : Cycle submit frameWithFcs
        (timeout.getD parameters.transactionTimeoutSeconds)
        ({ s.1 with inCycle := true, cyclesStarted := s.1.cyclesStarted + 1 }, s.2)
        .pending s' t) :
      Submits timeout s .pending s' t

theorem submitFrame_submits {timeout : Option ℚ} {s s' : HalfDuplexSnapshot × τ}
    {o : Outcome PyError S} {t : List (PortCall R)}
    (h : Runs (submitFrame parameters submit frameWithFcs timeout) s o s' t) :
    Submits submit frameWithFcs parameters timeout s o s' t := by
  have hcall := h.get_bind
  split at hcall
  case isTrue hlatched =>
    obtain ⟨rfl, rfl, rfl⟩ := runs_raise.1 hcall
    exact .refused (.inl hlatched) fun _ => rfl
  case isFalse hlatched =>
    rw [Bool.not_eq_true] at hlatched
    split at hcall
    case isTrue hbusy =>
      obtain ⟨rfl, rfl, rfl⟩ := runs_raise.1 hcall
      exact .refused (.inr (.inl hbusy)) fun _ => rfl
    case isFalse hidle =>
      rw [Bool.not_eq_true] at hidle
      dsimp only at hcall
      split at hcall
      case isTrue hpositive =>
        obtain ⟨rfl, rfl, rfl⟩ := runs_raise.1 hcall
        refine .refused (.inr (.inr hpositive)) fun h => ?_
        rw [hlatched] at h
        cases h
      case isFalse hpositive =>
        rcases hcall.modify_bind.ensuring_cases with ⟨s₂, hrun, ho, rfl⟩ | ⟨hrun, rfl⟩
        · exact .cycle hlatched hidle ho (cycle_cycle hrun)
        · exact .pending hlatched hidle (cycle_cycle hrun)

end Cycle

end PersistentHalfDuplexSubmitter

end YwdTnc
