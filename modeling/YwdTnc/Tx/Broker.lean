import YwdTnc.Ax25.Codec
import YwdTnc.Modem.Port
import YwdTnc.Phy.Bell202Tx
import YwdTnc.Tx.TxDelay
import Mathlib.Algebra.Order.Field.Rat

/-!
# The transmit broker

Frames are serialized by the caller and sent by the broker's one worker. Here a
caller's wait lasts until the worker has finished its job, so calls that follow
one another find the queue empty and a call is one program: the checks, the
preparation, the worker's iteration for the job and the report of its error.
A broker is indexed by its opening flags, which are fixed at construction.
-/

namespace YwdTnc

open Interaction Prog

def P5_POST_FLAGS : ℕ := 3
def P5_INITIAL_TONE : Bool := MARK

/-- The receipt of a sent frame, less its two digests. -/
structure TXReceipt where
  frameBytes : ℕ
  selectorCount : ℕ
  packedSelectorBytes : ℕ
  nominalDurationSeconds : ℚ
  deriving DecidableEq

def durationSeconds (selectorCount : ℕ) : ℚ := selectorCount / BELL202_BAUD

/-- The constructor arguments of a broker, as it accepts them. -/
structure TXBrokerConfig where
  queueCapacity : ℕ
  submitTimeout : ℚ
  defaultTransactionTimeout : ℚ
  one_le_capacity : 1 ≤ queueCapacity
  submitTimeout_pos : 0 < submitTimeout
  defaultTransactionTimeout_pos : 0 < defaultTransactionTimeout

theorem TXBrokerConfig.submitTimeout_engine : (0 : ℚ) < 1 / 20 := by decide +kernel

theorem TXBrokerConfig.transactionTimeout_engine : (0 : ℚ) < 3 / 2 := by decide +kernel

/-- The arguments the engine passes. -/
def TXBrokerConfig.engine : TXBrokerConfig where
  queueCapacity := 1
  submitTimeout := 1 / 20
  defaultTransactionTimeout := 3 / 2
  one_le_capacity := Nat.le_refl 1
  submitTimeout_pos := submitTimeout_engine
  defaultTransactionTimeout_pos := transactionTimeout_engine

structure TXBroker (preFlags : ℕ) where
  transmitEnabled : Bool
  config : TXBrokerConfig
  accepting : Bool
  inFlight : Bool
  submitted : ℕ
  accepted : ℕ
  failed : ℕ
  invalidRejections : ℕ
  busyRejections : ℕ

/-- A broker with one construction-time TXDELAY value. -/
abbrev TXDelayBroker (units : ℕ) := TXBroker (txdelayProfile units).preFlags

namespace TXBroker

variable {R : Type} {preFlags : ℕ}

/-- A broker right after `start`. -/
def started (preFlags : ℕ) (transmitEnabled : Bool) (config : TXBrokerConfig) :
    TXBroker preFlags where
  transmitEnabled := transmitEnabled
  config := config
  accepting := true
  inFlight := false
  submitted := 0
  accepted := 0
  failed := 0
  invalidRejections := 0
  busyRejections := 0

/-- A broker after `stop`. -/
def stop (b : TXBroker preFlags) : TXBroker preFlags := { b with accepting := false }

def frameRejected (message : String) : PyError := ⟨.txBrokerFrameRejected, message⟩

/-- `_prepare_frame`: the receipt, and the octets of the burst. -/
def prepareFrame (preFlags : ℕ) (frame : Bytes) : Except PyError (TXReceipt × Bytes) :=
  if frame.length < 3 ∨ verifyFcs frame = false then
    .error (frameRejected "AX.25 frame must include a valid FCS")
  else
    match frameToSelectors frame preFlags P5_POST_FLAGS P5_INITIAL_TONE with
    | .error e => .error e
    | .ok selectors =>
        if MAX_SELECTORS < selectors.length then
          .error (frameRejected ("serialized frame exceeds modem selector limit: " ++
            toString selectors.length ++ ">" ++ toString MAX_SELECTORS))
        else
          .ok ({
            frameBytes := frame.length
            selectorCount := selectors.length
            packedSelectorBytes := (packSelectors selectors).length
            nominalDurationSeconds := durationSeconds selectors.length },
            packSelectors selectors)

def update (f : TXBroker preFlags → TXBroker preFlags) :
    PortProg R (TXBroker preFlags) Unit :=
  modify f

/-- The innermost `try` block of the worker. -/
def transmit (receipt : TXReceipt) (packed : Bytes) (timeout : ℚ) :
    PortProg R (TXBroker preFlags) Unit := do
  let status ← Port.rfStatus timeout
  if status.remainingSelectors ≠ 0 then
    update fun b => { b with busyRejections := b.busyRejections + 1 }
    raise ⟨.txBrokerBusy, "modem already has pending TX selectors; refusing overlap"⟩
  else
    Port.transmitSelectorBurst receipt.selectorCount packed timeout
    update fun b => { b with accepted := b.accepted + 1 }

/-- The worker's iteration for one job; the result is the job's `error`. -/
def runJob (receipt : TXReceipt) (packed : Bytes) (timeout : ℚ) :
    PortProg R (TXBroker preFlags) (Except PyError Unit) := do
  let b ← get
  if b.accepting = false then
    update fun b => { b with failed := b.failed + 1 }
    return .error ⟨.txBrokerNotRunning,
      "TX broker stopped before queued transmission began"⟩
  else
    update fun b => { b with inFlight := true }
    match ← attempt (transmit receipt packed timeout) with
    | .error e =>
        update fun b => { b with failed := b.failed + 1, inFlight := false }
        return .error e
    | .ok () =>
        update fun b => { b with inFlight := false }
        return .ok ()

/-- The end of `submit_frame`, after the wait for the job. -/
def report (receipt : TXReceipt) : Except PyError Unit → Except PyError TXReceipt
  | .ok () => .ok receipt
  | .error e =>
      if e.cls.isTXBrokerError then .error e
      else .error ⟨.txBrokerError, "TX broker operation failed"⟩

def submitFrame (frameWithFcs : Bytes) (timeout : Option ℚ) :
    PortProg R (TXBroker preFlags) TXReceipt := do
  let b ← get
  if b.transmitEnabled = false then
    raise ⟨.txBrokerDisabled, "TX broker was constructed transmit-disabled"⟩
  else
    let timeout := timeout.getD b.config.defaultTransactionTimeout
    if timeout ≤ 0 then
      raise (.valueError "transaction timeout must be positive")
    else if b.accepting = false then
      raise ⟨.txBrokerNotRunning, "TX broker is not accepting submissions"⟩
    else
      match prepareFrame preFlags frameWithFcs with
      | .error e =>
          update fun b =>
            if e.cls = .txBrokerFrameRejected then
              { b with invalidRejections := b.invalidRejections + 1 }
            else b
          raise e
      | .ok (receipt, packed) =>
          update fun b => { b with submitted := b.submitted + 1 }
          let error ← runJob receipt packed timeout
          ofExcept (report receipt error)

/-! ### What reaches the modem -/

/-- The burst of a frame: its selectors and their number. -/
def serialize (preFlags : ℕ) (frame : Bytes) : Except PyError (ℕ × Bytes) :=
  match frameToSelectors frame preFlags P5_POST_FLAGS P5_INITIAL_TONE with
  | .error e => .error e
  | .ok selectors => .ok (selectors.length, packSelectors selectors)

theorem prepareFrame_ok {frame packed : Bytes} {receipt : TXReceipt}
    (h : prepareFrame preFlags frame = .ok (receipt, packed)) :
    serialize preFlags frame = .ok (receipt.selectorCount, packed) ∧
      receipt.selectorCount ≤ MAX_SELECTORS := by
  unfold prepareFrame at h
  split at h
  · cases h
  · unfold serialize
    split at h
    · cases h
    · split at h
      · cases h
      case isFalse hfits =>
        cases h
        exact ⟨rfl, not_lt.mp hfits⟩

/-- The selectors of a frame's burst: one for each bit of the flags and of the
stuffed frame. -/
def burstSelectors (preFlags : ℕ) (frame : Bytes) : ℕ :=
  8 * preFlags + (stuffBits (byteBitsLsb frame)).length + 8 * P5_POST_FLAGS

theorem serialize_length {preFlags : ℕ} {frame : Bytes} (hframe : frame ≠ [])
    (hpre : 1 ≤ preFlags) :
    ∃ selectors, frameToSelectors frame preFlags P5_POST_FLAGS P5_INITIAL_TONE =
        .ok selectors ∧
      selectors.length = burstSelectors preFlags frame := by
  refine ⟨_, frameToSelectors_eq P5_INITIAL_TONE hframe hpre (by decide), ?_⟩
  rw [nrziEncode_length, List.length_append, List.length_append, flags_length, flags_length,
    burstSelectors]

/-- A frame with a valid FCS is prepared or rejected, by the length of its burst. -/
theorem prepareFrame_cases {preFlags : ℕ} {frame : Bytes} (hlength : 3 ≤ frame.length)
    (hfcs : verifyFcs frame = true) (hpre : 1 ≤ preFlags) :
    (burstSelectors preFlags frame ≤ MAX_SELECTORS ∧
        ∃ prepared, prepareFrame preFlags frame = .ok prepared) ∨
      (MAX_SELECTORS < burstSelectors preFlags frame ∧
        ∃ message, prepareFrame preFlags frame = .error (frameRejected message)) := by
  have hframe : frame ≠ [] := by
    rintro rfl
    exact absurd hlength (by decide)
  obtain ⟨selectors, hselectors, hcount⟩ := serialize_length hframe hpre
  have hvalid : ¬ (frame.length < 3 ∨ verifyFcs frame = false) := by
    rw [hfcs]
    simpa using hlength
  rw [prepareFrame, if_neg hvalid, hselectors]
  dsimp only
  rw [hcount]
  by_cases hfits : burstSelectors preFlags frame ≤ MAX_SELECTORS
  · rw [if_neg (not_lt.mpr hfits)]
    exact .inl ⟨hfits, _, rfl⟩
  · rw [if_pos (not_le.mp hfits)]
    exact .inr ⟨not_le.mp hfits, _, rfl⟩

/-- A frame with a valid FCS can be prepared exactly when its burst is short
enough. -/
theorem prepareFrame_ok_iff {preFlags : ℕ} {frame : Bytes} (hlength : 3 ≤ frame.length)
    (hfcs : verifyFcs frame = true) (hpre : 1 ≤ preFlags) :
    (∃ prepared, prepareFrame preFlags frame = .ok prepared) ↔
      burstSelectors preFlags frame ≤ MAX_SELECTORS := by
  rcases prepareFrame_cases hlength hfcs hpre with ⟨hfits, hok⟩ | ⟨hlong, message, herror⟩
  · exact iff_of_true hok hfits
  · refine iff_of_false ?_ (not_le.mpr hlong)
    rintro ⟨prepared, hok⟩
    rw [herror] at hok
    cases hok

/-- The calls that one submission makes: RF status alone, or RF status and the
burst of the frame, whose answer decides how the submission ends. -/
inductive Delivers (preFlags : ℕ) (frame : Bytes) {α : Type} :
    Outcome PyError α → List (PortCall R) → Prop
  | unsent {o : Outcome PyError α} {t : List (PortCall R)}
      (hcalls : ∀ c ∈ t, ∃ timeout, c.query = .rfStatus timeout)
      (ho : ∀ a, o ≠ .returned a) : Delivers preFlags frame o t
  | failed {timeout : ℚ} {count : ℕ} {packed : Bytes} {status : RFStatus} {e e' : PyError}
      (hburst : serialize preFlags frame = .ok (count, packed)) :
      Delivers preFlags frame (.raised e')
        [⟨.rfStatus timeout, some (.ok status)⟩,
          ⟨.transmitSelectorBurst count packed timeout, some (.error e)⟩]
  | hangs {timeout : ℚ} {count : ℕ} {packed : Bytes} {status : RFStatus}
      (hburst : serialize preFlags frame = .ok (count, packed)) :
      Delivers preFlags frame .pending
        [⟨.rfStatus timeout, some (.ok status)⟩,
          ⟨.transmitSelectorBurst count packed timeout, none⟩]
  | sent {timeout : ℚ} {count : ℕ} {packed : Bytes} {status : RFStatus} {a : α}
      (hburst : serialize preFlags frame = .ok (count, packed)) :
      Delivers preFlags frame (.returned a)
        [⟨.rfStatus timeout, some (.ok status)⟩,
          ⟨.transmitSelectorBurst count packed timeout, some (.ok ())⟩]

/-! A submission keeps its calls when its caller ends the same way with another
value. -/

section Ends

variable {frame : Bytes} {α β : Type} {t : List (PortCall R)}

theorem Delivers.returned {a : α} (b : β)
    (h : Delivers preFlags frame (.returned a) t) :
    Delivers preFlags frame (.returned b) t := by
  cases h with
  | unsent hcalls ho => exact absurd rfl (ho a)
  | sent hburst => exact .sent hburst

theorem Delivers.raised {e : PyError} (e' : PyError)
    (h : Delivers preFlags frame (.raised e : Outcome PyError α) t) :
    Delivers preFlags frame (.raised e' : Outcome PyError β) t := by
  cases h with
  | unsent hcalls ho => exact .unsent hcalls (by simp)
  | failed hburst => exact .failed hburst

theorem Delivers.pending (h : Delivers preFlags frame (.pending : Outcome PyError α) t) :
    Delivers preFlags frame (.pending : Outcome PyError β) t := by
  cases h with
  | unsent hcalls ho => exact .unsent hcalls (by simp)
  | hangs hburst => exact .hangs hburst

/-- A submission that makes no call and raises. -/
theorem delivers_refused {e : PyError} :
    Delivers (R := R) preFlags frame (.raised e : Outcome PyError α) [] :=
  .unsent (by simp) (by simp)

end Ends

theorem report_error (receipt : TXReceipt) (e : PyError) :
    ∃ e', report receipt (.error e) = .error e' := by
  cases hcls : e.cls.isTXBrokerError with
  | false => exact ⟨_, by simp only [report, hcls]; rfl⟩
  | true => exact ⟨e, by simp only [report, hcls]; rfl⟩

theorem rfStatus_calls {σ : Type} {timeout : ℚ} {s s' : σ} {o : Outcome PyError RFStatus}
    {t : List (PortCall R)} (h : Runs (Port.rfStatus timeout) s o s' t) :
    ∀ c ∈ t, ∃ timeout, c.query = .rfStatus timeout := by
  have hcalls : CallsOnly (fun q => ∃ timeout, q = PortQuery.rfStatus timeout)
      (Port.rfStatus (R := R) (σ := σ) timeout) :=
    callsOnly_call ⟨timeout, rfl⟩
  exact hcalls _ _ _ _ h

theorem transmit_delivers {receipt : TXReceipt} {frame packed : Bytes} {timeout : ℚ}
    {s s' : TXBroker preFlags} {o : Outcome PyError Unit} {t : List (PortCall R)}
    (hburst : serialize preFlags frame = .ok (receipt.selectorCount, packed))
    (h : Runs (transmit receipt packed timeout) s o s' t) :
    Delivers preFlags frame o t := by
  rcases h.bind_cases with ⟨status, s₁, t₁, t₂, hstatus, hrest, rfl⟩ | ⟨e, hstatus, rfl⟩ |
    ⟨hstatus, rfl⟩
  · obtain ⟨-, rfl⟩ := hstatus.call_returned
    split at hrest
    · obtain ⟨rfl, -, rfl⟩ := runs_raise.1 hrest.modify_bind
      exact .unsent (by simp) (by simp)
    · rcases hrest.bind_cases with ⟨_, s₂, t₃, t₄, hcall, hend, rfl⟩ | ⟨e, hcall, rfl⟩ |
        ⟨hcall, rfl⟩
      · obtain ⟨-, rfl⟩ := hcall.call_returned
        obtain ⟨rfl, -, rfl⟩ := runs_modify.1 hend
        exact .sent hburst
      · obtain ⟨-, ⟨a, ho, -⟩ | ⟨e', -, rfl⟩ | ⟨ho, -⟩⟩ := hcall.call_cases
        · cases ho
        · exact .failed hburst
        · cases ho
      · obtain ⟨-, ⟨a, ho, -⟩ | ⟨e, ho, -⟩ | ⟨-, rfl⟩⟩ := hcall.call_cases
        · cases ho
        · cases ho
        · exact .hangs hburst
  · exact .unsent (rfStatus_calls hstatus) (by simp)
  · exact .unsent (rfStatus_calls hstatus) (by simp)

/-- A job ends with its error, or without one when its burst was taken. -/
theorem runJob_cases {receipt : TXReceipt} {frame packed : Bytes} {timeout : ℚ}
    {s s' : TXBroker preFlags} {o : Outcome PyError (Except PyError Unit)}
    {t : List (PortCall R)}
    (hburst : serialize preFlags frame = .ok (receipt.selectorCount, packed))
    (h : Runs (runJob receipt packed timeout) s o s' t) :
    (∃ e, o = .returned (.error e) ∧
        Delivers preFlags frame (.raised e : Outcome PyError Unit) t) ∨
      (o = .returned (.ok ()) ∧
        Delivers preFlags frame (.returned () : Outcome PyError Unit) t) ∨
      (o = .pending ∧ Delivers preFlags frame (.pending : Outcome PyError Unit) t) := by
  have hjob := h.get_bind
  split at hjob
  · obtain ⟨rfl, -, rfl⟩ := runs_pure.1 hjob.modify_bind
    exact .inl ⟨_, rfl, .unsent (by simp) (by simp)⟩
  · rcases hjob.modify_bind.attempt_bind_cases with
      ⟨_, s₂, t₃, t₄, hsend, hend, rfl⟩ | ⟨e, s₂, t₃, t₄, hsend, hend, rfl⟩ |
      ⟨hsend, rfl⟩
    · obtain ⟨rfl, -, rfl⟩ := runs_pure.1 hend.modify_bind
      rw [List.append_nil]
      exact .inr (.inl ⟨rfl, transmit_delivers hburst hsend⟩)
    · obtain ⟨rfl, -, rfl⟩ := runs_pure.1 hend.modify_bind
      rw [List.append_nil]
      exact .inl ⟨e, rfl, transmit_delivers hburst hsend⟩
    · exact .inr (.inr ⟨rfl, transmit_delivers hburst hsend⟩)

theorem submitFrame_delivers {frame : Bytes} {timeout : Option ℚ}
    {s s' : TXBroker preFlags} {o : Outcome PyError TXReceipt} {t : List (PortCall R)}
    (h : Runs (submitFrame frame timeout) s o s' t) : Delivers preFlags frame o t := by
  have hcall := h.get_bind
  split at hcall
  · obtain ⟨rfl, -, rfl⟩ := runs_raise.1 hcall
    exact delivers_refused
  dsimp only at hcall
  split at hcall
  · obtain ⟨rfl, -, rfl⟩ := runs_raise.1 hcall
    exact delivers_refused
  split at hcall
  · obtain ⟨rfl, -, rfl⟩ := runs_raise.1 hcall
    exact delivers_refused
  cases hprepare : prepareFrame preFlags frame with
  | error e =>
      rw [hprepare] at hcall
      obtain ⟨rfl, -, rfl⟩ := runs_raise.1 hcall.modify_bind
      exact delivers_refused
  | ok prepared =>
      obtain ⟨receipt, packed⟩ := prepared
      rw [hprepare] at hcall
      obtain ⟨hburst, -⟩ := prepareFrame_ok hprepare
      rcases hcall.modify_bind.bind_cases with
        ⟨error, s₂, t₃, t₄, hjob, hend, rfl⟩ | ⟨e, hjob, rfl⟩ | ⟨hjob, rfl⟩
      · rcases runJob_cases hburst hjob with ⟨e, ho, hsend⟩ | ⟨ho, hsend⟩ | ⟨ho, -⟩
        · cases ho
          obtain ⟨e', he'⟩ := report_error receipt e
          rw [he'] at hend
          obtain ⟨rfl, -, rfl⟩ := runs_ofExcept_error.1 hend
          rw [List.append_nil]
          exact hsend.raised e'
        · cases ho
          obtain ⟨rfl, -, rfl⟩ := runs_ofExcept_ok.1 hend
          rw [List.append_nil]
          exact hsend.returned receipt
        · cases ho
      · rcases runJob_cases hburst hjob with ⟨e', ho, -⟩ | ⟨ho, -⟩ | ⟨ho, -⟩
        · cases ho
        · cases ho
        · cases ho
      · rcases runJob_cases hburst hjob with ⟨e', ho, -⟩ | ⟨ho, -⟩ | ⟨-, hsend⟩
        · cases ho
        · cases ho
        · exact hsend.pending

end TXBroker

end YwdTnc
