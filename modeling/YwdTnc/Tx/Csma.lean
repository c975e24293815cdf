import YwdTnc.Basic
import Mathlib.Data.Rat.Defs
import Mathlib.Algebra.Order.Field.Rat
import Mathlib.Tactic.Linarith

/-!
# The p-persistent access attempt

One attempt to get at the channel, advanced by explicit observations. A clear
observation opens a slot; a full clear slot is followed by a persistence trial
with one random octet, which passes when it is at most `persist`. A busy
observation gives the slot up, and the whole wait is bounded.
-/

namespace YwdTnc

def DEFAULT_PERSIST : ℕ := 63
def DEFAULT_SLOT_TIME_10MS : ℕ := 10
def DEFAULT_MAX_WAIT_SECONDS : ℚ := 30

theorem DEFAULT_PERSIST_le : DEFAULT_PERSIST ≤ 255 := by decide

theorem one_le_DEFAULT_SLOT_TIME_10MS : 1 ≤ DEFAULT_SLOT_TIME_10MS := by decide

theorem DEFAULT_SLOT_TIME_10MS_le : DEFAULT_SLOT_TIME_10MS ≤ 255 := by decide

theorem DEFAULT_MAX_WAIT_SECONDS_pos : 0 < DEFAULT_MAX_WAIT_SECONDS := by
  decide +kernel

inductive CSMAState where
  | waitClear
  | waitSlot
  | ready
  | timedOut
  deriving DecidableEq, Repr

/-- The fixed parameters of one attempt, as `__post_init__` accepts them. -/
structure CSMAParameters where
  persist : ℕ
  slotTime10ms : ℕ
  maxWaitSeconds : ℚ
  persist_le : persist ≤ 255
  one_le_slot : 1 ≤ slotTime10ms
  slot_le : slotTime10ms ≤ 255
  maxWait_pos : 0 < maxWaitSeconds
  deriving DecidableEq

namespace CSMAParameters

def slotSeconds (parameters : CSMAParameters) : ℚ := parameters.slotTime10ms / 100

theorem slotSeconds_pos (parameters : CSMAParameters) :
    0 < parameters.slotSeconds := by
  have hslot : (1 : ℚ) ≤ parameters.slotTime10ms :=
    Nat.one_le_cast.mpr parameters.one_le_slot
  rw [slotSeconds]
  linarith

end CSMAParameters

structure CSMADecision where
  state : CSMAState
  channelBusy : Option Bool
  persistenceTrials : ℕ
  busyObservations : ℕ
  nextSlotAt : Option ℚ
  deadlineAt : ℚ
  randomByte : Option ℤ
  reason : String

structure PersistentCSMA where
  parameters : CSMAParameters
  startedAt : ℚ
  deadlineAt : ℚ
  nextSlotAt : Option ℚ
  state : CSMAState
  persistenceTrials : ℕ
  busyObservations : ℕ
  lastNow : ℚ
  lastDecision : CSMADecision

namespace PersistentCSMA

def init (startedAt : ℚ) (parameters : CSMAParameters) :
    Except PyError PersistentCSMA :=
  if startedAt < 0 then .error (.valueError "started_at must be >= 0")
  else
    let deadlineAt := startedAt + parameters.maxWaitSeconds
    .ok
      { parameters, startedAt, deadlineAt
        nextSlotAt := none
        state := .waitClear
        persistenceTrials := 0
        busyObservations := 0
        lastNow := startedAt
        lastDecision :=
          { state := .waitClear, channelBusy := none, persistenceTrials := 0
            busyObservations := 0, nextSlotAt := none, deadlineAt
            randomByte := none
            reason := "awaiting first explicit channel observation" } }

/-- `_make_decision` and its assignment to `_last_decision`. -/
def makeDecision (csma : PersistentCSMA) (channelBusy : Bool) (randomByte : Option ℤ)
    (reason : String) : PersistentCSMA × Except PyError CSMADecision :=
  let decision : CSMADecision :=
    { state := csma.state
      channelBusy := some channelBusy
      persistenceTrials := csma.persistenceTrials
      busyObservations := csma.busyObservations
      nextSlotAt := csma.nextSlotAt
      deadlineAt := csma.deadlineAt
      randomByte, reason }
  ({ csma with lastDecision := decision }, .ok decision)

/-- The persistence trial at the end of a clear slot. -/
def trial (csma : PersistentCSMA) (now : ℚ) (randomByte : ℤ) :
    PersistentCSMA × Except PyError CSMADecision :=
  let csma := { csma with persistenceTrials := csma.persistenceTrials + 1 }
  if randomByte ≤ csma.parameters.persist then
    { csma with state := .ready, nextSlotAt := none }.makeDecision false
      (some randomByte) "persistence trial passed"
  else
    { csma with nextSlotAt := some (now + csma.parameters.slotSeconds) }.makeDecision false
      (some randomByte) "persistence trial deferred; waiting one more clear slot"

def observe (csma : PersistentCSMA) (now : ℚ) (channelBusy : Bool)
    (randomByte : Option ℤ) : PersistentCSMA × Except PyError CSMADecision :=
  if now < csma.lastNow then
    (csma, .error (.valueError "now must be monotonic for one CSMA attempt"))
  else
    let csma := { csma with lastNow := now }
    if csma.state = .ready ∨ csma.state = .timedOut then
      if randomByte ≠ none then
        (csma, .error (.valueError
          "random_byte is not accepted after CSMA reaches a terminal state"))
      else (csma, .ok csma.lastDecision)
    else if csma.deadlineAt ≤ now then
      if randomByte ≠ none then
        (csma, .error (.valueError "random_byte is not accepted after CSMA timeout"))
      else
        { csma with state := .timedOut, nextSlotAt := none }.makeDecision channelBusy none
          "bounded channel-access wait expired"
    else if channelBusy then
      if randomByte ≠ none then
        (csma, .error (.valueError
          "random_byte must not be supplied while channel is busy"))
      else
        { csma with
          busyObservations := csma.busyObservations + 1
          state := .waitClear
          nextSlotAt := none }.makeDecision true none
          "channel busy; waiting for an explicit clear observation"
    else if csma.state = .waitClear then
      if randomByte ≠ none then
        (csma, .error (.valueError
          "random_byte must not be supplied on the clear observation that starts a slot"))
      else
        { csma with
          state := .waitSlot
          nextSlotAt := some (now + csma.parameters.slotSeconds) }.makeDecision false none
          "channel observed clear; full clear-channel slot started"
    else
      match csma.nextSlotAt with
      | none =>
          (csma, .error ⟨.runtimeError, "WAIT_SLOT state is missing its next-slot deadline"⟩)
      | some nextSlotAt =>
          if now < nextSlotAt then
            if randomByte ≠ none then
              (csma, .error (.valueError
                "random_byte supplied before persistence slot is due"))
            else csma.makeDecision false none "waiting for complete clear-channel slot"
          else
            match randomByte with
            | none =>
                (csma, .error (.valueError
                  "random_byte is required when a clear-channel persistence slot is due"))
            | some randomByte =>
                if ¬ (0 ≤ randomByte ∧ randomByte ≤ 255) then
                  (csma, .error (.valueError "random_byte must be 0..255"))
                else csma.trial now randomByte

/-- The last decision shows the state it was made in, and a slot is open exactly
while the attempt waits for its end. -/
structure Coherent (csma : PersistentCSMA) : Prop where
  state : csma.lastDecision.state = csma.state
  nextSlotAt : csma.lastDecision.nextSlotAt = csma.nextSlotAt
  deadlineAt : csma.lastDecision.deadlineAt = csma.deadlineAt
  slot : csma.state = .waitSlot → ∃ nextSlotAt, csma.nextSlotAt = some nextSlotAt

/-- A persistence trial is due: a slot has ended and the wait has not. -/
def Due (csma : PersistentCSMA) (now : ℚ) : Prop :=
  csma.state = .waitSlot ∧ (∃ nextSlotAt, csma.nextSlotAt = some nextSlotAt ∧
    nextSlotAt ≤ now) ∧ now < csma.deadlineAt

/-- What an accepted observation of a running attempt can do to the state and to
the end of the slot. -/
inductive Advances (csma : PersistentCSMA) (now : ℚ) :
    Bool → Option ℤ → CSMAState → Option ℚ → Prop
  | timeout {channelBusy : Bool} : Advances csma now channelBusy none .timedOut none
  | busy : Advances csma now true none .waitClear none
  | open_ (hstate : csma.state = .waitClear) :
      Advances csma now false none .waitSlot
        (some (now + csma.parameters.slotSeconds))
  | wait {nextSlotAt : ℚ} (hstate : csma.state = .waitSlot)
      (hslot : csma.nextSlotAt = some nextSlotAt) :
      Advances csma now false none .waitSlot (some nextSlotAt)
  | defer {nextSlotAt : ℚ} {randomByte : ℤ} (hstate : csma.state = .waitSlot)
      (hslot : csma.nextSlotAt = some nextSlotAt) (hdue : nextSlotAt ≤ now)
      (hfail : csma.parameters.persist < randomByte) :
      Advances csma now false (some randomByte) .waitSlot
        (some (now + csma.parameters.slotSeconds))
  | pass {nextSlotAt : ℚ} {randomByte : ℤ} (hstate : csma.state = .waitSlot)
      (hslot : csma.nextSlotAt = some nextSlotAt) (hdue : nextSlotAt ≤ now)
      (hpass : randomByte ≤ csma.parameters.persist) :
      Advances csma now false (some randomByte) .ready none

/-- What `observe_spec` promises of an accepted observation. -/
structure Observed (csma : PersistentCSMA) (now : ℚ) (channelBusy : Bool)
    (randomByte : Option ℤ) (csma' : PersistentCSMA) (decision : CSMADecision) :
    Prop where
  lastNow : csma'.lastNow = now
  parameters : csma'.parameters = csma.parameters
  deadlineAt : csma'.deadlineAt = csma.deadlineAt
  coherent : csma'.Coherent
  state : decision.state = csma'.state
  advances : Advances csma now channelBusy randomByte csma'.state csma'.nextSlotAt

/-- A decision made in `csma'` is an accepted observation when `csma'` is a
proper successor. -/
theorem makeDecision_observed {csma csma' : PersistentCSMA} {now : ℚ}
    {channelBusy : Bool} {randomByte : Option ℤ} {state : CSMAState}
    {nextSlotAt : Option ℚ} (reason : String)
    (hnow : csma'.lastNow = now) (hparameters : csma'.parameters = csma.parameters)
    (hdeadline : csma'.deadlineAt = csma.deadlineAt) (hstate : csma'.state = state)
    (hnext : csma'.nextSlotAt = nextSlotAt)
    (hadvances : Advances csma now channelBusy randomByte state nextSlotAt) :
    ∃ csma'' decision, csma'.makeDecision channelBusy randomByte reason =
        (csma'', .ok decision) ∧
      Observed csma now channelBusy randomByte csma'' decision := by
  have hslot : csma'.state = .waitSlot →
      ∃ nextSlotAt, csma'.nextSlotAt = some nextSlotAt := by
    intro hwait
    rw [hstate] at hwait
    rw [hnext]
    cases hadvances with
    | timeout => cases hwait
    | busy => cases hwait
    | open_ h => exact ⟨_, rfl⟩
    | wait h hslot => exact ⟨_, rfl⟩
    | defer h hslot hdue hfail => exact ⟨_, rfl⟩
    | pass h hslot hdue hpass => cases hwait
  subst hstate hnext
  exact ⟨_, _, rfl, hnow, hparameters, hdeadline, ⟨rfl, rfl, rfl, hslot⟩, rfl,
    hadvances⟩

/-- A running attempt accepts an observation in order that brings an octet
exactly when a trial is due. -/
theorem observe_spec {csma : PersistentCSMA} {now : ℚ} {channelBusy : Bool}
    {randomByte : Option ℤ} (hcoherent : csma.Coherent)
    (hrunning : csma.state = .waitClear ∨ csma.state = .waitSlot)
    (hnow : csma.lastNow ≤ now)
    (hdue : channelBusy = false → csma.Due now →
      ∃ byte, randomByte = some byte ∧ 0 ≤ byte ∧ byte ≤ 255)
    (hidle : ¬ (channelBusy = false ∧ csma.Due now) → randomByte = none) :
    ∃ csma' decision, csma.observe now channelBusy randomByte =
        (csma', .ok decision) ∧
      Observed csma now channelBusy randomByte csma' decision := by
  have hlive : ¬ (csma.state = .ready ∨ csma.state = .timedOut) := by
    rcases hrunning with h | h
    · rw [h]
      exact nofun
    · rw [h]
      exact nofun
  unfold observe
  rw [if_neg (not_lt.mpr hnow)]
  simp only [hlive, if_false]
  by_cases hdeadline : csma.deadlineAt ≤ now
  · have hnone : randomByte = none :=
      hidle fun h => absurd h.2.2.2 (not_lt.mpr hdeadline)
    subst hnone
    simp only [hdeadline, if_true, ne_eq, not_true_eq_false, if_false]
    exact makeDecision_observed _ rfl rfl rfl rfl rfl .timeout
  simp only [hdeadline, if_false]
  have hintime : now < csma.deadlineAt := not_le.mp hdeadline
  cases channelBusy with
  | true =>
      have hnone : randomByte = none := hidle fun h => nomatch h.1
      subst hnone
      simp only [if_true, ne_eq, not_true_eq_false, if_false]
      exact makeDecision_observed _ rfl rfl rfl rfl rfl .busy
  | false =>
      simp only [Bool.false_eq_true, if_false]
      rcases hrunning with hstate | hstate
      · have hnone : randomByte = none := by
          refine hidle fun h => ?_
          have hwait := h.2.1
          rw [hstate] at hwait
          cases hwait
        subst hnone
        simp only [hstate, if_true, ne_eq, not_true_eq_false, if_false]
        exact makeDecision_observed _ rfl rfl rfl rfl rfl (.open_ hstate)
      · obtain ⟨nextSlotAt, hslot⟩ := hcoherent.slot hstate
        have hnotclear : ¬ csma.state = .waitClear := by
          rw [hstate]
          exact nofun
        simp only [hnotclear, if_false, hslot]
        by_cases hearly : now < nextSlotAt
        · have hnone : randomByte = none := by
            refine hidle fun h => ?_
            obtain ⟨n, hn, hle⟩ := h.2.2.1
            rw [hslot, Option.some.injEq] at hn
            subst hn
            exact absurd hle (not_le.mpr hearly)
          subst hnone
          simp only [hearly, if_true, ne_eq, not_true_eq_false, if_false]
          exact makeDecision_observed _ rfl rfl rfl hstate rfl
            (.wait hstate hslot)
        · have hreached : nextSlotAt ≤ now := not_lt.mp hearly
          obtain ⟨byte, rfl, hrange⟩ :=
            hdue rfl ⟨hstate, ⟨nextSlotAt, hslot, hreached⟩, hintime⟩
          simp only [hearly, if_false, not_not.mpr hrange]
          unfold trial
          by_cases hpass : byte ≤ csma.parameters.persist
          · simp only [hpass, if_true]
            exact makeDecision_observed _ rfl rfl rfl rfl rfl
              (.pass hstate hslot hreached hpass)
          · simp only [hpass, if_false]
            exact makeDecision_observed _ rfl rfl rfl hstate rfl
              (.defer hstate hslot hreached (not_le.mp hpass))

/-- An observation that raises moves at most the clock of the attempt. -/
theorem observe_error {csma csma' : PersistentCSMA} {now : ℚ} {channelBusy : Bool}
    {randomByte : Option ℤ} {e : PyError}
    (h : csma.observe now channelBusy randomByte = (csma', .error e)) :
    (csma' = csma ∨ csma' = { csma with lastNow := now }) ∧
      (e.cls = .valueError ∨ e.cls = .runtimeError) := by
  unfold observe trial makeDecision at h
  dsimp only at h
  repeat' split at h
  all_goals cases h
  all_goals constructor
  all_goals first | exact .inl rfl | exact .inr rfl

end PersistentCSMA

end YwdTnc
