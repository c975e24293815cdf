import YwdTnc.Interaction.Transition
import YwdTnc.Tx.Broker
import Mathlib.Logic.Function.Basic

/-!
# The broker, its callers and the modem owner as threads

Any number of callers hand jobs to the worker of one broker; the worker hands
calls to the owner thread, as other users of the owner do; the owner hands each
request to the transport and waits for its answer. Both queues are bounded, and
both waits (a caller's for its job, the worker's for its call) may expire as
long as nothing has completed them. Neither the broker nor the owner is stopped.

A `token` of a job is a place from which its TX_TONES request can still reach
the transport. Every step keeps or removes tokens, and handing the request over
takes one away.
-/

namespace YwdTnc

open Interaction

namespace BrokerThreads

/-- The two calls that the worker makes for a job. -/
inductive Stage where
  | status
  | burst
  deriving DecidableEq

/-- A `_Call` in the owner's queue, with its argument. The worker calls for each
stage of a job once, so job and stage name the call. -/
inductive OwnerCall where
  | rfStatus (job : ℕ)
  | txTones (job selectorCount : ℕ) (packedSelectors : Bytes)
  | other (operation : String)

/-- The job whose burst the call is for. -/
def OwnerCall.burstOf : OwnerCall → Option ℕ
  | txTones job _ _ => some job
  | _ => none

/-- A broker `_Job`; `done` is its event. -/
structure Job where
  receipt : TXReceipt
  packedSelectors : Bytes
  done : Bool
  error : Option PyError

inductive CallerState where
  | idle
  | prepared (receipt : TXReceipt) (packedSelectors : Bytes)
  | waiting (job : ℕ)

inductive WorkerState where
  | idle
  | calling (job : ℕ) (stage : Stage)
  | waiting (job : ℕ) (stage : Stage)
  | failing (job : ℕ) (error : PyError)

inductive OwnerState where
  | idle
  | dispatching (call : OwnerCall)
  | transacting (call : OwnerCall)

structure Config where
  preFlags : ℕ
  transmitEnabled : Bool
  queueCapacity : ℕ
  ownerQueueCapacity : ℕ

structure State (Tid : Type) where
  caller : Tid → CallerState
  jobs : ℕ → Option Job
  nextJob : ℕ
  queue : List ℕ
  worker : WorkerState
  results : ℕ → Stage → Option (Except PyError (Option RFStatus))
  ownerQueue : List OwnerCall
  owner : OwnerState

/-- The steps that callers and the transport can see; the others are `internal`. -/
inductive Event (Tid : Type) where
  | rejected (t : Tid) (e : PyError)
  | put (t : Tid) (job : ℕ)
  | expired (t : Tid) (job : ℕ) (e : PyError)
  | failed (t : Tid) (job : ℕ) (e : PyError)
  | returned (t : Tid) (job : ℕ) (receipt : TXReceipt)
  | callExpired (job : ℕ) (stage : Stage)
  | hand (call : OwnerCall)
  | internal

/-- `submit_frame` raises for the job. -/
def Event.raises {Tid : Type} (job : ℕ) : Event Tid → Prop
  | expired _ j _ | failed _ j _ => j = job
  | _ => False

/-- A TX_TONES request of the job is handed to the transport. -/
def Event.hands {Tid : Type} (job : ℕ) : Event Tid → Bool
  | hand call => call.burstOf == some job
  | _ => false

def waitExpired : PyError :=
  ⟨.txBrokerError, "timed out waiting for TX broker operation"⟩

/-- The owner's call of a stage. -/
def Stage.call (stage : Stage) (id : ℕ) (job : Job) : OwnerCall :=
  match stage with
  | status => .rfStatus id
  | burst => .txTones id job.receipt.selectorCount job.packedSelectors

def Stage.name : Stage → String
  | status => "rf_status"
  | burst => "transmit_selector_burst"

def ownerQueueFull (capacity : ℕ) : PyError :=
  ⟨.modemOwnerQueueFull,
    "modem owner request queue is full (capacity=" ++ toString capacity ++ ")"⟩

def callWaitExpired (stage : Stage) : PyError :=
  ⟨.modemOwnerError, "timed out waiting for modem owner operation '" ++ stage.name ++ "'"⟩

def callFailed (stage : Stage) : PyError :=
  ⟨.modemOwnerError, "modem owner operation '" ++ stage.name ++ "' failed"⟩

def busy : PyError :=
  ⟨.txBrokerBusy, "modem already has pending TX selectors; refusing overlap"⟩

variable {Tid : Type} [DecidableEq Tid]

/-- The owner has finished a call; only a job's calls have a reader here. -/
def State.setResult (s : State Tid) (call : OwnerCall)
    (result : Except PyError (Option RFStatus)) : State Tid :=
  match call with
  | .rfStatus id =>
      { s with
        results := Function.update s.results id
          (Function.update (s.results id) .status (some result))
        owner := .idle }
  | .txTones id _ _ =>
      { s with
        results := Function.update s.results id
          (Function.update (s.results id) .burst (some result))
        owner := .idle }
  | .other _ => { s with owner := .idle }

def State.setCaller (s : State Tid) (t : Tid) (c : CallerState) : State Tid :=
  { s with caller := Function.update s.caller t c }

/-- The event of a job is set. -/
def State.finishJob (s : State Tid) (id : ℕ) (error : Option PyError) : State Tid :=
  { s with
    jobs := Function.update s.jobs id
      ((s.jobs id).map fun job => { job with done := true, error := error })
    worker := .idle }

inductive Step (config : Config) : State Tid → Event Tid → State Tid → Prop
  /-- `submit_frame` up to its job. -/
  | rejectDisabled {s : State Tid} {t : Tid} (h : s.caller t = .idle)
      (hdisabled : config.transmitEnabled = false) :
      Step config s
        (.rejected t ⟨.txBrokerDisabled, "TX broker was constructed transmit-disabled"⟩) s
  | rejectTimeout {s : State Tid} {t : Tid} (timeout : ℚ) (h : s.caller t = .idle)
      (henabled : config.transmitEnabled = true) (htimeout : timeout ≤ 0) :
      Step config s (.rejected t (.valueError "transaction timeout must be positive")) s
  | rejectFrame {s : State Tid} {t : Tid} {frame : Bytes} {e : PyError}
      (h : s.caller t = .idle) (henabled : config.transmitEnabled = true)
      (hprepare : TXBroker.prepareFrame config.preFlags frame = .error e) :
      Step config s (.rejected t e) s
  | prepare {s : State Tid} {t : Tid} {frame packed : Bytes} {receipt : TXReceipt}
      (h : s.caller t = .idle) (henabled : config.transmitEnabled = true)
      (hprepare : TXBroker.prepareFrame config.preFlags frame = .ok (receipt, packed)) :
      Step config s .internal (s.setCaller t (.prepared receipt packed))
  | put {s : State Tid} {t : Tid} {receipt : TXReceipt} {packed : Bytes}
      (h : s.caller t = .prepared receipt packed)
      (hroom : s.queue.length < config.queueCapacity) :
      Step config s (.put t s.nextJob)
        { s.setCaller t (.waiting s.nextJob) with
          jobs := Function.update s.jobs s.nextJob (some ⟨receipt, packed, false, none⟩)
          nextJob := s.nextJob + 1
          queue := s.queue ++ [s.nextJob] }
  | putFull {s : State Tid} {t : Tid} {receipt : TXReceipt} {packed : Bytes}
      (h : s.caller t = .prepared receipt packed)
      (hfull : config.queueCapacity ≤ s.queue.length) :
      Step config s
        (.rejected t ⟨.txBrokerQueueFull, "TX broker queue is full (capacity=" ++
          toString config.queueCapacity ++ ")"⟩) (s.setCaller t .idle)
  /-- The wait of `submit_frame`. -/
  | expire {s : State Tid} {t : Tid} {id : ℕ} {job : Job} (h : s.caller t = .waiting id)
      (hjob : s.jobs id = some job) (hdone : job.done = false) :
      Step config s (.expired t id waitExpired) (s.setCaller t .idle)
  | return_ {s : State Tid} {t : Tid} {id : ℕ} {job : Job} (h : s.caller t = .waiting id)
      (hjob : s.jobs id = some job) (hdone : job.done = true) (herror : job.error = none) :
      Step config s (.returned t id job.receipt) (s.setCaller t .idle)
  | fail {s : State Tid} {t : Tid} {id : ℕ} {job : Job} {e e' : PyError}
      (h : s.caller t = .waiting id) (hjob : s.jobs id = some job)
      (hdone : job.done = true) (herror : job.error = some e)
      (hreport : TXBroker.report job.receipt (.error e) = .error e') :
      Step config s (.failed t id e') (s.setCaller t .idle)
  /-- The worker. -/
  | take {s : State Tid} {id : ℕ} {rest : List ℕ} (h : s.worker = .idle)
      (hqueue : s.queue = id :: rest) :
      Step config s .internal { s with queue := rest, worker := .calling id .status }
  | call {s : State Tid} {id : ℕ} {stage : Stage} {job : Job}
      (h : s.worker = .calling id stage) (hjob : s.jobs id = some job)
      (hroom : s.ownerQueue.length < config.ownerQueueCapacity) :
      Step config s .internal
        { s with
          worker := .waiting id stage
          ownerQueue := s.ownerQueue ++ [stage.call id job] }
  | callFull {s : State Tid} {id : ℕ} {stage : Stage} (h : s.worker = .calling id stage)
      (hfull : config.ownerQueueCapacity ≤ s.ownerQueue.length) :
      Step config s .internal
        { s with worker := .failing id (ownerQueueFull config.ownerQueueCapacity) }
  | callExpire {s : State Tid} {id : ℕ} {stage : Stage}
      (h : s.worker = .waiting id stage) (hresult : s.results id stage = none) :
      Step config s (.callExpired id stage)
        { s with worker := .failing id (callWaitExpired stage) }
  | callFail {s : State Tid} {id : ℕ} {stage : Stage} {e : PyError}
      (h : s.worker = .waiting id stage)
      (hresult : s.results id stage = some (.error e)) :
      Step config s .internal { s with worker := .failing id (callFailed stage) }
  | statusBusy {s : State Tid} {id : ℕ} {status : RFStatus}
      (h : s.worker = .waiting id .status)
      (hresult : s.results id .status = some (.ok (some status)))
      (hbusy : status.remainingSelectors ≠ 0) :
      Step config s .internal { s with worker := .failing id busy }
  | statusClear {s : State Tid} {id : ℕ} {status : RFStatus}
      (h : s.worker = .waiting id .status)
      (hresult : s.results id .status = some (.ok (some status)))
      (hclear : status.remainingSelectors = 0) :
      Step config s .internal { s with worker := .calling id .burst }
  | burstDone {s : State Tid} {id : ℕ} {value : Option RFStatus}
      (h : s.worker = .waiting id .burst)
      (hresult : s.results id .burst = some (.ok value)) :
      Step config s .internal (s.finishJob id none)
  | finishFailed {s : State Tid} {id : ℕ} {e : PyError} (h : s.worker = .failing id e) :
      Step config s .internal (s.finishJob id (some e))
  /-- The owner, and its other users. -/
  | callOther {s : State Tid} (operation : String)
      (hroom : s.ownerQueue.length < config.ownerQueueCapacity) :
      Step config s .internal
        { s with ownerQueue := s.ownerQueue ++ [.other operation] }
  | ownerTake {s : State Tid} {c : OwnerCall} {rest : List OwnerCall}
      (h : s.owner = .idle) (hqueue : s.ownerQueue = c :: rest) :
      Step config s .internal { s with ownerQueue := rest, owner := .dispatching c }
  | hand {s : State Tid} {c : OwnerCall} (h : s.owner = .dispatching c) :
      Step config s (.hand c) { s with owner := .transacting c }
  | answer {s : State Tid} {c : OwnerCall} (h : s.owner = .transacting c)
      (result : Except PyError (Option RFStatus)) :
      Step config s .internal (s.setResult c result)

/-- A broker and an owner that have just been started. -/
def State.init : State Tid where
  caller _ := .idle
  jobs _ := none
  nextJob := 0
  queue := []
  worker := .idle
  results _ _ := none
  ownerQueue := []
  owner := .idle

def system (Tid : Type) [DecidableEq Tid] (config : Config) :
    System (State Tid) (Event Tid) where
  initial s := s = .init
  step := Step config

/-! ### Tokens -/

def WorkerState.token (id : ℕ) : WorkerState → ℕ
  | calling j _ | waiting j .status => if j = id then 1 else 0
  | _ => 0

def OwnerState.token (id : ℕ) : OwnerState → ℕ
  | dispatching c => if c.burstOf = some id then 1 else 0
  | _ => 0

/-- The calls in the owner's queue that are for the burst of the job. -/
def queuedBursts (id : ℕ) (calls : List OwnerCall) : ℕ :=
  calls.countP fun c => c.burstOf == some id

/-- The places from which the burst of the job can still reach the transport: in
the broker's queue, with the worker before the burst is called for, in the
owner's queue, and with the owner before the request is handed over. -/
def tokens (s : State Tid) (id : ℕ) : ℕ :=
  s.queue.count id + s.worker.token id + queuedBursts id s.ownerQueue + s.owner.token id

theorem queuedBursts_append (id : ℕ) (calls : List OwnerCall) (c : OwnerCall) :
    queuedBursts id (calls ++ [c]) =
      queuedBursts id calls + if c.burstOf = some id then 1 else 0 := by
  rw [queuedBursts, List.countP_append, List.countP_singleton]
  simp only [beq_iff_eq]
  rfl

theorem queuedBursts_cons (id : ℕ) (calls : List OwnerCall) (c : OwnerCall) :
    queuedBursts id (c :: calls) =
      queuedBursts id calls + if c.burstOf = some id then 1 else 0 := by
  rw [queuedBursts, List.countP_cons]
  simp only [beq_iff_eq]
  rfl

/-- The call of the burst stage carries on the worker's token. -/
theorem stage_token (stage : Stage) (id id' : ℕ) (job : Job) :
    (WorkerState.waiting id stage).token id' +
        (if (stage.call id job).burstOf = some id' then 1 else 0) =
      (WorkerState.calling id stage).token id' := by
  cases stage with
  | status => rfl
  | burst => simp [WorkerState.token, Stage.call, OwnerCall.burstOf]

/-- What a step does to the tokens: a put adds one for its new job, the handing
over of a burst takes one, and no other step adds any. -/
theorem step_tokens {config : Config} {s s' : State Tid} {e : Event Tid}
    (h : Step config s e s') :
    (s'.nextJob = s.nextJob ∧
      ∀ id, tokens s' id + (e.hands id).toNat ≤ tokens s id) ∨
    (s'.nextJob = s.nextJob + 1 ∧
      ∀ id, e.hands id = false ∧
        tokens s' id = tokens s id + if s.nextJob = id then 1 else 0) := by
  cases h with
  | rejectDisabled | rejectTimeout | rejectFrame | prepare | putFull | expire | return_
  | fail => exact .inl ⟨rfl, fun _ => le_refl _⟩
  | put h hroom =>
      refine .inr ⟨rfl, fun id => ⟨rfl, ?_⟩⟩
      simp only [tokens, State.setCaller, List.count_append, List.count_singleton, beq_iff_eq]
      omega
  | take h hqueue =>
      refine .inl ⟨rfl, fun id => ?_⟩
      simp only [tokens, h, hqueue, List.count_cons, WorkerState.token, beq_iff_eq,
        Event.hands, Bool.toNat_false]
      omega
  | @call id stage job h hjob hroom =>
      refine .inl ⟨rfl, fun id' => ?_⟩
      have htoken := stage_token stage id id' job
      simp only [tokens, h, queuedBursts_append, Event.hands, Bool.toNat_false]
      omega
  | callFull h | callExpire h | callFail h | statusBusy h | burstDone h | finishFailed h =>
      refine .inl ⟨rfl, fun id => ?_⟩
      simp only [tokens, State.finishJob, h, WorkerState.token, Event.hands, Bool.toNat_false]
      omega
  | statusClear h =>
      refine .inl ⟨rfl, fun id => ?_⟩
      simp only [tokens, h, WorkerState.token, Event.hands, Bool.toNat_false]
      omega
  | callOther operation hroom =>
      refine .inl ⟨rfl, fun id => ?_⟩
      simp only [tokens, queuedBursts_append, OwnerCall.burstOf, Event.hands,
        Bool.toNat_false]
      simp
  | ownerTake h hqueue =>
      refine .inl ⟨rfl, fun id => ?_⟩
      simp only [tokens, h, hqueue, queuedBursts_cons, OwnerState.token, Event.hands,
        Bool.toNat_false]
      omega
  | @hand c h =>
      refine .inl ⟨rfl, fun id => ?_⟩
      simp only [tokens, h, OwnerState.token, Event.hands]
      by_cases hc : c.burstOf = some id
      · simp [hc]
      · simp [hc]
  | @answer c h result =>
      refine .inl ⟨by cases c <;> rfl, fun id => ?_⟩
      have howner : tokens (s.setResult c result) id = tokens s id := by
        simp only [tokens, h]
        cases c <;> rfl
      rw [howner]
      exact le_refl _

/-! ### Each job is handed over at most once -/

/-- Jobs that do not exist hold no token, and the others at most one. -/
structure Single (s : State Tid) : Prop where
  fresh : ∀ id, s.nextJob ≤ id → tokens s id = 0
  tokens_le : ∀ id, tokens s id ≤ 1

/-- The job exists and its burst can no longer reach the transport. -/
def Spent (s : State Tid) (id : ℕ) : Prop := id < s.nextJob ∧ tokens s id = 0

omit [DecidableEq Tid] in
theorem single_init : Single (.init : State Tid) :=
  ⟨fun _ _ => rfl, fun _ => Nat.zero_le _⟩

section Step

variable {config : Config} {s s' : State Tid} {e : Event Tid}

theorem Single.step (h : Single s) (hstep : Step config s e s') : Single s' := by
  rcases step_tokens hstep with ⟨hnext, htokens⟩ | ⟨hnext, htokens⟩
  · constructor
    · intro id hid
      have hle := htokens id
      have hfresh := h.fresh id (hnext ▸ hid)
      omega
    · intro id
      have hle := htokens id
      have hone := h.tokens_le id
      omega
  · constructor
    · intro id hid
      have hfresh := h.fresh id (by omega)
      rw [(htokens id).2, if_neg (by omega), hfresh]
    · intro id
      have hone := h.tokens_le id
      by_cases hnew : s.nextJob = id
      · have hfresh := h.fresh id (le_of_eq hnew)
        rw [(htokens id).2, if_pos hnew, hfresh]
      · rw [(htokens id).2, if_neg hnew]
        exact hone

theorem Spent.step {id : ℕ} (h : Spent s id) (hstep : Step config s e s') :
    Spent s' id ∧ e.hands id = false := by
  obtain ⟨hlt, hnone⟩ := h
  rcases step_tokens hstep with ⟨hnext, htokens⟩ | ⟨hnext, htokens⟩
  · have hle := htokens id
    rw [hnone, Nat.le_zero, Nat.add_eq_zero_iff] at hle
    exact ⟨⟨hnext ▸ hlt, hle.1⟩, Bool.toNat_eq_zero.1 hle.2⟩
  · refine ⟨⟨by omega, ?_⟩, (htokens id).1⟩
    rw [(htokens id).2, hnone, if_neg (by omega)]

omit [DecidableEq Tid] in
/-- A job that holds a token exists. -/
theorem Single.lt_nextJob (h : Single s) {id : ℕ} (hid : 0 < tokens s id) :
    id < s.nextJob := by
  by_contra hge
  have hfresh := h.fresh id (not_lt.mp hge)
  omega

/-- Handing a burst over spends its job. -/
theorem Single.spent_of_hands (h : Single s) (hstep : Step config s e s') {id : ℕ}
    (hid : e.hands id = true) : Spent s' id := by
  rcases step_tokens hstep with ⟨hnext, htokens⟩ | ⟨hnext, htokens⟩
  · have hle := htokens id
    have hone := h.tokens_le id
    rw [hid, Bool.toNat_true] at hle
    have hlt : id < s.nextJob := h.lt_nextJob (by omega)
    exact ⟨hnext ▸ hlt, by omega⟩
  · rw [(htokens id).1] at hid
    cases hid

end Step

/-- How often a run hands over the burst of the job. -/
def handovers (id : ℕ) (es : List (Event Tid)) : ℕ := es.countP (Event.hands id)

section Run

variable {config : Config} {s s' : State Tid} {es : List (Event Tid)}

/-- The burst of a spent job is never handed over again. -/
theorem Spent.run {id : ℕ} (h : Spent s id)
    (hrun : (system Tid config).Run s es s') : ∀ e ∈ es, e.hands id = false := by
  induction hrun with
  | nil s =>
      intro e he
      cases he
  | @cons s s₁ s' e es hstep hrun ih =>
      obtain ⟨hspent, hhands⟩ := h.step hstep
      intro e' he'
      rcases List.mem_cons.1 he' with rfl | he'
      · exact hhands
      · exact ih hspent e' he'

theorem Single.run_handovers (h : Single s) (hrun : (system Tid config).Run s es s')
    (id : ℕ) : handovers id es ≤ 1 := by
  induction hrun with
  | nil s => exact Nat.zero_le _
  | @cons s s₁ s' e es hstep hrun ih =>
      cases hhands : e.hands id with
      | false =>
          rw [handovers, List.countP_cons_of_neg (by simp [hhands])]
          exact ih (h.step hstep)
      | true =>
          have hrest := (h.spent_of_hands hstep hhands).run hrun
          have hzero : handovers id es = 0 := by
            refine List.countP_eq_zero.2 fun e' he' => ?_
            rw [hrest e' he']
            exact Bool.false_ne_true
          rw [handovers, List.countP_cons_of_pos hhands]
          exact Nat.succ_le_of_lt (by rw [← handovers, hzero]; exact Nat.one_pos)

end Run

/-! ### A raised failure is final when no wait expires too early -/

/-- The steps that cannot mislead a caller: a wait for a job, or for the owner's
call of its burst, expires only when the burst can no longer reach the transport. -/
def Timely (s : State Tid) : Event Tid → Prop
  | .expired _ id _ | .callExpired id .burst => tokens s id = 0
  | _ => True

/-- The invariant of runs whose expiries are timely: whatever can make
`submit_frame` raise for a job has spent it. -/
structure Final (s : State Tid) : Prop where
  single : Single s
  transacting : ∀ c id, s.owner = .transacting c → c.burstOf = some id → Spent s id
  answered : ∀ id r, s.results id .burst = some r → Spent s id
  waiting : ∀ id, s.worker = .waiting id .burst → id < s.nextJob
  failing : ∀ id e, s.worker = .failing id e → Spent s id
  failed : ∀ id job e, s.jobs id = some job → job.error = some e → Spent s id
  existing : ∀ id job, s.jobs id = some job → id < s.nextJob

omit [DecidableEq Tid] in
theorem final_init : Final (.init : State Tid) where
  single := single_init
  transacting _ _ h := nomatch h
  answered _ _ h := nomatch h
  waiting _ h := nomatch h
  failing _ _ h := nomatch h
  failed _ _ _ h := nomatch h
  existing _ _ h := nomatch h

section Final

variable {config : Config} {s s' : State Tid} {e : Event Tid}

/-! Where the facts of the invariant come from, one lemma for each part of the
state. -/

theorem transacting_cases (h : Step config s e s') {c : OwnerCall}
    (hc : s'.owner = .transacting c) : s.owner = .transacting c ∨ e = .hand c := by
  cases h with
  | ownerTake h => cases hc
  | hand h =>
      cases hc
      exact .inr rfl
  | @answer c' h result => cases c' <;> cases hc
  | _ => exact .inl hc

theorem answered_cases (h : Step config s e s') {id : ℕ}
    {r : Except PyError (Option RFStatus)} (hr : s'.results id .burst = some r) :
    (∃ r', s.results id .burst = some r') ∨
      ∃ c, s.owner = .transacting c ∧ c.burstOf = some id := by
  cases h with
  | @answer c h result =>
      cases c with
      | rfStatus id' =>
          refine .inl ⟨r, ?_⟩
          by_cases hid : id = id'
          · subst hid
            simpa [State.setResult] using hr
          · simpa [State.setResult, Function.update_of_ne hid] using hr
      | txTones id' count packed =>
          by_cases hid : id = id'
          · subst hid
            exact .inr ⟨_, h, rfl⟩
          · refine .inl ⟨r, ?_⟩
            simpa [State.setResult, Function.update_of_ne hid] using hr
      | other => exact .inl ⟨r, hr⟩
  | _ => exact .inl ⟨r, hr⟩

theorem waiting_cases (h : Step config s e s') {id : ℕ}
    (hid : s'.worker = .waiting id .burst) :
    s.worker = .waiting id .burst ∨ s.worker = .calling id .burst := by
  cases h with
  | call h =>
      cases hid
      exact .inr h
  | take | callFull | callExpire | callFail | statusBusy | statusClear | burstDone
  | finishFailed => cases hid
  | @answer c h result => cases c <;> exact .inl hid
  | _ => exact .inl hid

omit [DecidableEq Tid] in
/-- A worker that gives its job up gives up the job's token. -/
theorem tokens_failing (s : State Tid) (id : ℕ) (error : PyError) :
    tokens { s with worker := .failing id error } id + s.worker.token id = tokens s id := by
  simp only [tokens, WorkerState.token]
  omega

theorem failing_cases (h : Step config s e s') {id : ℕ} {error : PyError}
    (hid : s'.worker = .failing id error) :
    s.worker = .failing id error ∨
      (s.worker.token id = 1 ∧ tokens s' id + s.worker.token id = tokens s id) ∨
      (s.worker = .waiting id .burst ∧ e = .callExpired id .burst) ∨
      (s.worker = .waiting id .burst ∧ ∃ r, s.results id .burst = some r) := by
  cases h with
  | take | call | statusClear | burstDone | finishFailed => cases hid
  | callFull h =>
      cases hid
      refine .inr (.inl ⟨?_, tokens_failing s _ _⟩)
      simp [h, WorkerState.token]
  | @callExpire id' stage h hresult =>
      cases hid
      cases stage with
      | status =>
          refine .inr (.inl ⟨?_, tokens_failing s _ _⟩)
          simp [h, WorkerState.token]
      | burst => exact .inr (.inr (.inl ⟨h, rfl⟩))
  | @callFail id' stage e' h hresult =>
      cases hid
      cases stage with
      | status =>
          refine .inr (.inl ⟨?_, tokens_failing s _ _⟩)
          simp [h, WorkerState.token]
      | burst => exact .inr (.inr (.inr ⟨h, _, hresult⟩))
  | statusBusy h =>
      cases hid
      refine .inr (.inl ⟨?_, tokens_failing s _ _⟩)
      simp [h, WorkerState.token]
  | @answer c h result => cases c <;> exact .inl hid
  | _ => exact .inl hid

theorem job_cases (h : Step config s e s') {id : ℕ} {job : Job}
    (hjob : s'.jobs id = some job) :
    s.jobs id = some job ∨ (job.error = none ∧ id < s'.nextJob) ∨
      (∃ job', s.jobs id = some job') ∧
        (job.error = none ∨ ∃ error, s.worker = .failing id error) := by
  cases h with
  | @put t receipt packed h hroom =>
      by_cases hid : id = s.nextJob
      · subst hid
        simp only [Function.update_self, Option.some.injEq] at hjob
        subst hjob
        exact .inr (.inl ⟨rfl, Nat.lt_succ_self _⟩)
      · simp only [Function.update_of_ne hid] at hjob
        exact .inl hjob
  | @burstDone id' value h hresult =>
      by_cases hid : id = id'
      · subst hid
        simp only [State.finishJob, Function.update_self, Option.map_eq_some_iff] at hjob
        obtain ⟨job', hjob', rfl⟩ := hjob
        exact .inr (.inr ⟨⟨job', hjob'⟩, .inl rfl⟩)
      · simp only [State.finishJob, Function.update_of_ne hid] at hjob
        exact .inl hjob
  | @finishFailed id' error h =>
      by_cases hid : id = id'
      · subst hid
        simp only [State.finishJob, Function.update_self, Option.map_eq_some_iff] at hjob
        obtain ⟨job', hjob', rfl⟩ := hjob
        exact .inr (.inr ⟨⟨job', hjob'⟩, .inr ⟨error, h⟩⟩)
      · simp only [State.finishJob, Function.update_of_ne hid] at hjob
        exact .inl hjob
  | @answer c h result =>
      refine .inl ?_
      cases c <;> exact hjob
  | _ => exact .inl hjob

theorem nextJob_le (h : Step config s e s') : s.nextJob ≤ s'.nextJob := by
  rcases step_tokens h with ⟨hnext, -⟩ | ⟨hnext, -⟩ <;> omega

omit [DecidableEq Tid] in
theorem token_le (s : State Tid) (id : ℕ) : s.worker.token id ≤ tokens s id := by
  unfold tokens
  omega

theorem Final.step (h : Final s) (hstep : Step config s e s') (htimely : Timely s e) :
    Final s' := by
  have hkeep : ∀ {id}, Spent s id → Spent s' id := fun hspent => (hspent.step hstep).1
  have hnext := nextJob_le hstep
  constructor
  · exact h.single.step hstep
  · intro c id hc hid
    rcases transacting_cases hstep hc with hold | rfl
    · exact hkeep (h.transacting c id hold hid)
    · refine h.single.spent_of_hands hstep ?_
      simp [Event.hands, hid]
  · intro id r hr
    rcases answered_cases hstep hr with ⟨r', hold⟩ | ⟨c, hc, hid⟩
    · exact hkeep (h.answered id r' hold)
    · exact hkeep (h.transacting c id hc hid)
  · intro id hid
    rcases waiting_cases hstep hid with hold | hcalling
    · exact lt_of_lt_of_le (h.waiting id hold) hnext
    · have htoken : s.worker.token id = 1 := by simp [hcalling, WorkerState.token]
      have hle := token_le s id
      exact lt_of_lt_of_le (h.single.lt_nextJob (by omega)) hnext
  · intro id error hid
    rcases failing_cases hstep hid with hold | ⟨htoken, hdrop⟩ | ⟨hwaiting, rfl⟩ |
      ⟨-, r, hr⟩
    · exact hkeep (h.failing id error hold)
    · have hle := h.single.tokens_le id
      exact ⟨lt_of_lt_of_le (h.single.lt_nextJob (by omega)) hnext, by omega⟩
    · exact hkeep ⟨h.waiting id hwaiting, htimely⟩
    · exact hkeep (h.answered id r hr)
  · intro id job error hjob herror
    rcases job_cases hstep hjob with hold | ⟨hnone, -⟩ | ⟨-, hnone | ⟨error', hfailing⟩⟩
    · exact hkeep (h.failed id job error hold herror)
    · rw [hnone] at herror
      cases herror
    · rw [hnone] at herror
      cases herror
    · exact hkeep (h.failing id error' hfailing)
  · intro id job hjob
    rcases job_cases hstep hjob with hold | ⟨-, hlt⟩ | ⟨⟨job', hold⟩, -⟩
    · exact lt_of_lt_of_le (h.existing id job hold) hnext
    · exact hlt
    · exact lt_of_lt_of_le (h.existing id job' hold) hnext

theorem raises_cases (h : Step config s e s') {id : ℕ} (hraises : e.raises id) :
    (∃ t error, e = .expired t id error ∧ ∃ job, s.jobs id = some job) ∨
      ∃ job error, s.jobs id = some job ∧ job.error = some error := by
  cases h with
  | @expire t id' job h hjob hdone =>
      cases hraises
      exact .inl ⟨t, _, rfl, job, hjob⟩
  | fail h hjob hdone herror hreport =>
      cases hraises
      exact .inr ⟨_, _, hjob, herror⟩
  | _ => exact hraises.elim

/-- What `submit_frame` raises for in a timely run is spent. -/
theorem Final.spent_of_raises (h : Final s) (hstep : Step config s e s')
    (htimely : Timely s e) {id : ℕ} (hraises : e.raises id) : Spent s id := by
  rcases raises_cases hstep hraises with ⟨t, error, rfl, job, hjob⟩ |
    ⟨job, error, hjob, herror⟩
  · exact ⟨h.existing id job hjob, htimely⟩
  · exact h.failed id job error hjob herror

end Final

/-! ### Runs -/

/-- Nothing is handed to the transport for a job after `submit_frame` raised for
it. -/
def NoneAfterFailure (es : List (Event Tid)) : Prop :=
  ∀ u e v id, es = u ++ e :: v → e.raises id → ∀ e' ∈ v, e'.hands id = false

def AtMostOnce (es : List (Event Tid)) : Prop := ∀ id, handovers id es ≤ 1

theorem Final.run {config : Config} {s s' : State Tid} {es : List (Event Tid)}
    (h : Final s) (hrun : ((system Tid config).restrict Timely).Run s es s') :
    NoneAfterFailure es := by
  induction hrun with
  | nil s =>
      intro u e v id hsplit
      simp at hsplit
  | @cons s s₁ s' e es hstep hrun ih =>
      intro u e' v id hsplit hraises
      cases u with
      | nil =>
          obtain ⟨rfl, rfl⟩ := List.cons_eq_cons.1 hsplit
          have hspent := h.spent_of_raises hstep.1 hstep.2 hraises
          exact (hspent.step hstep.1).1.run hrun.of_restrict
      | cons e'' u =>
          obtain ⟨rfl, rfl⟩ := List.cons_eq_cons.1 hsplit
          exact ih (h.step hstep.1 hstep.2) u e' v id rfl hraises

/-- Every run hands each job over at most once, and a run whose expiries are
timely hands nothing over for a job that `submit_frame` has raised for. -/
theorem run_timely (Tid : Type) [DecidableEq Tid] (config : Config)
    (s s' : State Tid) (es : List (Event Tid)) (hinitial : (system Tid config).initial s) :
    ((system Tid config).Run s es s' → AtMostOnce es) ∧
    (((system Tid config).restrict Timely).Run s es s' →
      NoneAfterFailure es ∧ AtMostOnce es) := by
  cases hinitial
  have hsingle : Single (.init : State Tid) := single_init
  refine ⟨hsingle.run_handovers, fun hrun => ⟨final_init.run hrun, ?_⟩⟩
  exact hsingle.run_handovers hrun.of_restrict

/-- A broker of the default queue sizes. -/
def Config.default : Config := ⟨45, true, 4, 8⟩

theorem prepareFrame_receiveReady :
    ∃ r, TXBroker.prepareFrame 45 (appendFcs receiveReady) = .ok r := by
  cases h : TXBroker.prepareFrame 45 (appendFcs receiveReady) with
  | ok r => exact ⟨r, rfl⟩
  | error e =>
      have hok : (TXBroker.prepareFrame 45 (appendFcs receiveReady)).isOk = true := by
        decide +kernel
      rw [h] at hok
      cases hok

/-- Both waits for the first burst expire when the transport has it already, and the caller
submits again. -/
theorem run_timely_expired :
    ∃ (s : State Unit) (es : List (Event Unit)),
      ((system Unit .default).restrict Timely).Run .init es s ∧
      .expired () 0 waitExpired ∈ es ∧ .callExpired 0 .burst ∈ es ∧
      handovers 0 es = 1 ∧ handovers 1 es = 1 ∧ NoneAfterFailure es ∧ AtMostOnce es := by
  obtain ⟨⟨receipt, packed⟩, hprepare⟩ := prepareFrame_receiveReady
  have hrun : ((system Unit .default).restrict Timely).Run .init
      [.internal, .put () 0, .internal, .internal, .internal, .hand (.rfStatus 0),
        .internal, .internal, .internal, .internal,
        .hand (.txTones 0 receipt.selectorCount packed),
        .expired () 0 waitExpired, .internal, .put () 1, .callExpired 0 .burst, .internal,
        .internal, .internal, .internal, .internal, .hand (.rfStatus 1),
        .internal, .internal, .internal, .internal,
        .hand (.txTones 1 receipt.selectorCount packed),
        .internal, .internal, .returned () 1 receipt] _ :=
    .cons ⟨.prepare (t := ()) rfl rfl hprepare, trivial⟩ <|
    .cons ⟨.put (t := ()) rfl (Nat.succ_pos 3), trivial⟩ <|
    .cons ⟨.take rfl rfl, trivial⟩ <|
    .cons ⟨.call rfl rfl (Nat.succ_pos 7), trivial⟩ <|
    .cons ⟨.ownerTake rfl rfl, trivial⟩ <|
    .cons ⟨.hand rfl, trivial⟩ <|
    .cons ⟨.answer (c := .rfStatus 0) rfl (.ok (some ⟨0, 0, 0⟩)), trivial⟩ <|
    .cons ⟨.statusClear rfl rfl rfl, trivial⟩ <|
    .cons ⟨.call rfl rfl (Nat.succ_pos 7), trivial⟩ <|
    .cons ⟨.ownerTake rfl rfl, trivial⟩ <|
    .cons ⟨.hand rfl, trivial⟩ <|
    .cons ⟨.expire rfl rfl rfl, rfl⟩ <|
    .cons ⟨.prepare (t := ()) rfl rfl hprepare, trivial⟩ <|
    .cons ⟨.put (t := ()) rfl (Nat.succ_pos 3), trivial⟩ <|
    .cons ⟨.callExpire rfl rfl, rfl⟩ <|
    .cons ⟨.finishFailed rfl, trivial⟩ <|
    .cons ⟨.answer (c := .txTones 0 receipt.selectorCount packed) rfl (.ok none), trivial⟩ <|
    .cons ⟨.take rfl rfl, trivial⟩ <|
    .cons ⟨.call rfl rfl (Nat.succ_pos 7), trivial⟩ <|
    .cons ⟨.ownerTake rfl rfl, trivial⟩ <|
    .cons ⟨.hand rfl, trivial⟩ <|
    .cons ⟨.answer (c := .rfStatus 1) rfl (.ok (some ⟨0, 0, 0⟩)), trivial⟩ <|
    .cons ⟨.statusClear rfl rfl rfl, trivial⟩ <|
    .cons ⟨.call rfl rfl (Nat.succ_pos 7), trivial⟩ <|
    .cons ⟨.ownerTake rfl rfl, trivial⟩ <|
    .cons ⟨.hand rfl, trivial⟩ <|
    .cons ⟨.answer (c := .txTones 1 receipt.selectorCount packed) rfl (.ok none), trivial⟩ <|
    .cons ⟨.burstDone rfl rfl, trivial⟩ <|
    .cons ⟨@Step.return_ Unit _ _ _ () 1 ⟨receipt, packed, true, none⟩ rfl rfl rfl rfl, trivial⟩
      (.nil _)
  obtain ⟨hnone, honce⟩ := (run_timely Unit .default _ _ _ rfl).2 hrun
  exact ⟨_, _, hrun, by simp, by simp, rfl, rfl, hnone, honce⟩

/-- The caller's wait expires while the worker waits for RF status; the status is
clear and the burst is handed over afterwards. -/
theorem late_handover :
    ¬ ∀ (s s' : State Unit) (es : List (Event Unit)), (system Unit .default).initial s →
      (system Unit .default).Run s es s' → NoneAfterFailure es ∧ AtMostOnce es := by
  intro hclaim
  obtain ⟨⟨receipt, packed⟩, hprepare⟩ := prepareFrame_receiveReady
  let burst : OwnerCall := .txTones 0 receipt.selectorCount packed
  have hrun : (system Unit .default).Run .init
      [.internal, .put () 0, .internal, .internal, .internal, .hand (.rfStatus 0),
        .expired () 0 waitExpired, .internal, .internal, .internal, .internal,
        .hand burst] _ :=
    .cons (.prepare (t := ()) rfl rfl hprepare) <|
    .cons (.put (t := ()) rfl (Nat.succ_pos 3)) <|
    .cons (.take rfl rfl) <|
    .cons (.call rfl rfl (Nat.succ_pos 7)) <|
    .cons (.ownerTake rfl rfl) <|
    .cons (.hand rfl) <|
    .cons (.expire rfl rfl rfl) <|
    .cons (.answer (c := .rfStatus 0) rfl (.ok (some ⟨0, 0, 0⟩))) <|
    .cons (.statusClear rfl rfl rfl) <|
    .cons (.call rfl rfl (Nat.succ_pos 7)) <|
    .cons (.ownerTake rfl rfl) <|
    .cons (.hand rfl) (.nil _)
  have hnone := (hclaim _ _ _ rfl hrun).1 [_, _, _, _, _, _] _ _ 0 rfl rfl (.hand burst)
    (by simp)
  cases hnone

end BrokerThreads

end YwdTnc
