import YwdTnc.Interaction.Environment
import YwdTnc.Interaction.Exhaustion
import YwdTnc.Tx.HalfDuplex
import Mathlib.Algebra.Order.Floor.Semiring
import Mathlib.Data.Rat.Floor
import Mathlib.Tactic.Linarith

/-!
# The wait for an idle transmitter

The loop of `_wait_for_tx_idle` has no counter. Each poll that does not end it sleeps for one
poll interval or up to the deadline, so the intervals that are left until the deadline become
one fewer with every poll.
-/

namespace YwdTnc

open Interaction Prog

/-- A modem that answers the two readings, a clock that never goes back and a sleeper that
advances it by the delay at least. The state is the earliest time that the clock may show
next. -/
def timekeeping (R : Type) : Environment (PortQuery.Answer R) PyError ℚ
  | w, ⟨.rfStatus _, some (.ok _)⟩ => some w
  | w, ⟨.rfDiagnostics _, some (.ok _)⟩ => some w
  | w, ⟨.monotonic, some (.ok now)⟩ => if w ≤ now then some now else none
  | w, ⟨.sleep delay, some (.ok _)⟩ => some (max w (w + delay))
  | w, ⟨_, none⟩ => some w
  | _, _ => none

/-- The polls of a trace: each begins with a reading of the RF status. -/
def polls {R : Type} (t : List (PortCall R)) : ℕ :=
  t.countP fun c => match c.query with
    | .rfStatus _ => true
    | _ => false

namespace PersistentHalfDuplexSubmitter

variable {R τ : Type} {parameters : HalfDuplexParameters} {timeout deadline : ℚ}
  {s s' : HalfDuplexSnapshot × τ} {t t' : List (PortCall R)} {w w' : ℚ}

/-- Every sleep has a positive delay. -/
def SleepsOn (t : List (PortCall R)) : Prop :=
  ∀ c ∈ t, ∀ delay, c.query = .sleep delay → 0 < delay

/-- The readings of a poll, and the clock after it. -/
def clockedPair (timeout : ℚ) (status : RFStatus) (diag : RFDiagnostics) (now : ℚ) :
    List (PortCall R) :=
  idlePair timeout status diag ++ [⟨.monotonic, some (.ok now)⟩]

/-! ### One poll -/

/-- How a poll ends, and what time it leaves. -/
inductive Polled (parameters : HalfDuplexParameters) (timeout deadline w : ℚ) :
    Outcome PyError (Option Unit) → List (PortCall R) → ℚ → Prop
  | idle (status : RFStatus) (diag : RFDiagnostics) :
      Polled parameters timeout deadline w (.returned (some ())) (idlePair timeout status diag) w
  | sleeps {status : RFStatus} {diag : RFDiagnostics} {now delay w' : ℚ} (hclock : w ≤ now)
      (htime : now < deadline) (hdelay : delay = min parameters.txIdlePollSeconds (deadline - now))
      (hw' : now + delay ≤ w') :
      Polled parameters timeout deadline w (.returned none)
        (clockedPair timeout status diag now ++ [⟨.sleep delay, some (.ok ())⟩]) w'
  | expires {status : RFStatus} {diag : RFDiagnostics} {now : ℚ} (hbusy : ¬ Idle status diag)
      (hlate : deadline ≤ now) :
      Polled parameters timeout deadline w (.raised idleTimeout)
        (clockedPair timeout status diag now) now
  | pending {t : List (PortCall R)} {w' : ℚ} (hpolls : polls t ≤ 1) (hanswered : answered t ≤ 3)
      (hsleeps : SleepsOn t) :
      Polled parameters timeout deadline w .pending t w'

theorem pollTxIdle_polled {o : Outcome PyError (Option Unit)}
    (h : Runs (pollTxIdle parameters timeout deadline) s o s' t)
    (htime : (timekeeping R).run w t = some w') : Polled parameters timeout deadline w o t w' := by
  unfold pollTxIdle at h
  rcases h.call_bind_cases (fun _ _ => rfl) htime with
    ⟨status, w₁, u, hw₁, h₁, htime₁, rfl⟩ | ⟨rfl, rfl⟩
  case inr => exact .pending (by simp [polls]) (by simp) (by simp [SleepsOn])
  cases hw₁
  rcases h₁.call_bind_cases (fun _ _ => rfl) htime₁ with
    ⟨diag, w₁, u, hw₁, h₂, htime₂, rfl⟩ | ⟨rfl, rfl⟩
  case inr => exact .pending (by simp [polls]) (by simp) (by simp [SleepsOn])
  cases hw₁
  replace h₂ := h₂.modify_bind
  split at h₂
  case isTrue hidle =>
    obtain ⟨rfl, -, rfl⟩ := runs_pure.1 h₂
    cases htime₂
    exact .idle status diag
  case isFalse hbusy =>
    rcases h₂.call_bind_cases (fun _ _ => rfl) htime₂ with
      ⟨now, w₁, u, hw₁, h₃, htime₃, rfl⟩ | ⟨rfl, rfl⟩
    case inr => exact .pending (by simp [polls]) (by simp) (by simp [SleepsOn])
    simp only [timekeeping, Option.ite_none_right_eq_some, Option.some.injEq] at hw₁
    obtain ⟨hclock, rfl⟩ := hw₁
    split at h₃
    case isTrue hlate =>
      obtain ⟨rfl, -, rfl⟩ := runs_raise.1 h₃
      cases htime₃
      exact .expires hbusy hlate
    case isFalse hearly =>
      -- the deadline is ahead, so the delay is positive
      have hrest : 0 < deadline - now := sub_pos.mpr (not_le.mp hearly)
      have hdelay : 0 < min parameters.txIdlePollSeconds (deadline - now) :=
        lt_min parameters.txIdlePoll_pos hrest
      dsimp only at h₃
      rw [max_eq_right hrest.le, if_neg (not_le.mpr hdelay)] at h₃
      rcases h₃.call_bind_cases (fun _ _ => rfl) htime₃ with
        ⟨_, w₁, u, hw₁, h₄, htime₄, rfl⟩ | ⟨rfl, rfl⟩
      case inr =>
        refine .pending (by simp [polls]) (by simp) ?_
        simpa [SleepsOn] using hdelay
      obtain ⟨rfl, -, rfl⟩ := runs_pure.1 h₄
      cases hw₁
      cases htime₄
      exact .sleeps hclock (not_le.mp hearly) rfl (le_max_right _ _)

/-! ### The loop -/

/-- The polls that are left: one for each interval until the deadline, and the last one. -/
def pollsLeft (parameters : HalfDuplexParameters) (deadline w : ℚ) : ℕ :=
  ⌈(deadline - w) / parameters.txIdlePollSeconds⌉₊ + 1

/-- A poll that sleeps leaves one poll fewer. -/
theorem pollsLeft_sleeps {now : ℚ} (hclock : w ≤ now) (htime : now < deadline)
    (hw' : now + min parameters.txIdlePollSeconds (deadline - now) ≤ w') :
    pollsLeft parameters deadline w' < pollsLeft parameters deadline w := by
  have hpos := parameters.txIdlePoll_pos
  have hahead : 0 < (deadline - w) / parameters.txIdlePollSeconds :=
    div_pos (by linarith) hpos
  have hfewer : ⌈(deadline - w') / parameters.txIdlePollSeconds⌉₊ <
      ⌈(deadline - w) / parameters.txIdlePollSeconds⌉₊ := by
    rw [Nat.lt_ceil]
    by_cases hover : deadline ≤ w'
    · have hnone : (deadline - w') / parameters.txIdlePollSeconds ≤ 0 :=
        div_nonpos_of_nonpos_of_nonneg (by linarith) hpos.le
      rw [Nat.ceil_eq_zero.mpr hnone, Nat.cast_zero]
      exact hahead
    · -- the sleep did not go up to the deadline, so it was one interval
      have hdelay : min parameters.txIdlePollSeconds (deadline - now) =
          parameters.txIdlePollSeconds := by
        apply min_eq_left
        by_contra hshort
        rw [min_eq_right (not_le.mp hshort).le] at hw'
        exact hover (by linarith)
      rw [hdelay] at hw'
      have hleft : 0 ≤ (deadline - w') / parameters.txIdlePollSeconds :=
        div_nonneg (by linarith) hpos.le
      refine lt_of_lt_of_le (Nat.ceil_lt_add_one hleft) ?_
      rw [div_add_one hpos.ne']
      exact div_le_div_of_nonneg_right (by linarith) hpos.le
  exact Nat.add_lt_add_right hfewer 1

/-- What a run of the loop stays within. -/
structure Bounded (timeout deadline : ℚ) (n : ℕ) (o : Outcome PyError Unit)
    (t : List (PortCall R)) : Prop where
  few : polls t ≤ n
  short : answered t ≤ 4 * n
  forward : SleepsOn t
  raised : ∀ e, o = .raised e → ∃ u status diag now, ¬ Idle status diag ∧ deadline ≤ now ∧
    t = u ++ clockedPair timeout status diag now

@[simp] theorem polls_append (t t' : List (PortCall R)) : polls (t ++ t') = polls t + polls t' :=
  List.countP_append

theorem polls_clockedPair (status : RFStatus) (diag : RFDiagnostics) (now : ℚ) :
    polls (clockedPair (R := R) timeout status diag now) = 1 := rfl

theorem polls_sleep (delay : ℚ) (answer : Option (Except PyError Unit)) :
    polls (R := R) [⟨.sleep delay, answer⟩] = 0 := rfl

theorem answered_clockedPair (status : RFStatus) (diag : RFDiagnostics) (now : ℚ) :
    answered (clockedPair (R := R) timeout status diag now) = 3 := rfl

theorem sleepsOn_clockedPair (status : RFStatus) (diag : RFDiagnostics) (now : ℚ) :
    SleepsOn (clockedPair (R := R) timeout status diag now) := by
  simp [SleepsOn, clockedPair, idlePair]

theorem sleepsOn_append : SleepsOn (t ++ t') ↔ SleepsOn t ∧ SleepsOn t' := List.forall_mem_append

theorem sleepsOn_clock {now : Option (Except PyError ℚ)} (h : SleepsOn t) :
    SleepsOn (⟨.monotonic, now⟩ :: t) := by
  simpa [SleepsOn] using h

/-- The last poll, however it ends. -/
theorem Bounded.last {n : ℕ} {o : Outcome PyError Unit} (hn : 0 < n) (hpolls : polls t ≤ 1)
    (hanswers : answered t ≤ 4) (hsleeps : SleepsOn t)
    (hraised : ∀ e, o = .raised e → ∃ u status diag now, ¬ Idle status diag ∧ deadline ≤ now ∧
      t = u ++ clockedPair timeout status diag now) : Bounded timeout deadline n o t :=
  ⟨by omega, by omega, hsleeps, hraised⟩

/-- A poll that sleeps, in front of the others. -/
theorem Bounded.sleep {n m : ℕ} {o : Outcome PyError Unit} {status : RFStatus}
    {diag : RFDiagnostics} {now delay : ℚ} (hdelay : 0 < delay) (hn : n < m)
    (h : Bounded timeout deadline n o t) :
    Bounded timeout deadline m o
      (clockedPair timeout status diag now ++ [⟨.sleep delay, some (.ok ())⟩] ++ t) where
  few := by
    have hpolls := h.few
    rw [polls_append, polls_append, polls_clockedPair, polls_sleep]
    omega
  short := by
    have hanswers := h.short
    rw [answered_append, answered_append, answered_clockedPair, answered_cons_some, answered_nil]
    omega
  forward := by
    rw [sleepsOn_append, sleepsOn_append]
    refine ⟨⟨sleepsOn_clockedPair status diag now, ?_⟩, h.forward⟩
    simpa [SleepsOn] using hdelay
  raised := by
    intro e he
    obtain ⟨u, status', diag', now', hbusy, hlate, rfl⟩ := h.raised e he
    exact ⟨_, status', diag', now', hbusy, hlate, (List.append_assoc _ _ _).symm⟩

/-- The induction on the rounds: each that sleeps has one poll fewer behind it. -/
theorem rounds_bounded {o : Outcome PyError Unit}
    (h : Rounds (pollTxIdle parameters timeout deadline) s o s' t)
    (htime : (timekeeping R).run w t = some w') :
    Bounded timeout deadline (pollsLeft parameters deadline w) o t := by
  induction h generalizing w with
  | done hround =>
      cases pollTxIdle_polled hround htime with
      | idle status diag =>
          apply Bounded.last (Nat.succ_pos _) (le_refl 1) (by simp [idlePair])
          · simp [SleepsOn, idlePair]
          · intro e he
            cases he
  | again hround hrest ih =>
      obtain ⟨w₁, htime₁, htime₂⟩ := Environment.run_append_some htime
      cases pollTxIdle_polled hround htime₁ with
      | sleeps hclock hearly hdelay hw₁ =>
          subst hdelay
          apply Bounded.sleep _ (pollsLeft_sleeps hclock hearly hw₁) (ih htime₂)
          exact lt_min parameters.txIdlePoll_pos (sub_pos.mpr hearly)
  | raised hround =>
      cases pollTxIdle_polled hround htime with
      | @expires status diag _ hbusy hlate =>
          apply Bounded.last (Nat.succ_pos _) (polls_clockedPair status diag _).le
          · rw [answered_clockedPair]
            omega
          · exact sleepsOn_clockedPair status diag _
          · exact fun _ _ => ⟨[], status, diag, _, hbusy, hlate, rfl⟩
  | pending hround =>
      cases pollTxIdle_polled hround htime with
      | pending hpolls hanswered hsleeps =>
          exact Bounded.last (Nat.succ_pos _) hpolls (by omega) hsleeps fun e he => nomatch he
  | outOfScript =>
      apply Bounded.last (Nat.succ_pos _) (by simp [polls]) (by simp)
      · simp [SleepsOn]
      · intro e he
        cases he

/-! ### The whole wait -/

theorem exhausts_pollTxIdle :
    Exhausts (pollTxIdle (R := R) (τ := τ) parameters timeout deadline) := by
  apply (exhausts_call _).bind
  intro status
  apply (exhausts_call _).bind
  intro diag
  apply (exhausts_modify _).bind
  intro _
  split
  · exact exhausts_ret _
  · apply (exhausts_call _).bind
    intro now
    split
    · exact exhausts_raise _
    · dsimp only
      split
      · exact exhausts_raise _
      · exact (exhausts_call _).bind fun _ => exhausts_ret _

/-- A round that does not end the loop has had its RF status. -/
theorem pollTxIdle_answered {result : Option Unit}
    (h : Runs (pollTxIdle parameters timeout deadline) s (.returned result) s' t) :
    0 < answered t := by
  unfold pollTxIdle at h
  obtain ⟨status, s₁, t₁, u₁, hstatus, -, rfl⟩ := h.bind_returned
  obtain ⟨-, rfl⟩ := hstatus.call_returned
  simp

theorem exhausts_waitForTxIdle :
    Exhausts (waitForTxIdle (R := R) (τ := τ) parameters timeout) :=
  (exhausts_call _).bind fun _ =>
    exhausts_pollTxIdle.iterate fun _ _ _ hround => pollTxIdle_answered hround

/-- The polls that one wait has. -/
def mostPolls (parameters : HalfDuplexParameters) : ℕ :=
  ⌈parameters.txIdleTimeoutSeconds / parameters.txIdlePollSeconds⌉₊ + 1

theorem pollsLeft_started (started : ℚ) :
    pollsLeft parameters (started + parameters.txIdleTimeoutSeconds) started =
      mostPolls parameters := by
  rw [pollsLeft, add_sub_cancel_left, mostPolls]

/-- What a wait stays within, from its first reading of the clock. -/
theorem waitForTxIdle_bounded {o : Outcome PyError Unit}
    (h : Runs (waitForTxIdle parameters timeout) s o s' t)
    (htime : (timekeeping R).run w t = some w') :
    (∃ started u, t = ⟨.monotonic, some (.ok started)⟩ :: u ∧
        Bounded timeout (started + parameters.txIdleTimeoutSeconds) (mostPolls parameters) o u) ∨
      o = .pending ∧ t = [⟨.monotonic, none⟩] := by
  rcases h.call_bind_cases (fun _ _ => rfl) htime with
    ⟨started, w₁, u, hw₁, hloop, htime₁, rfl⟩ | hopen
  case inr => exact .inr hopen
  simp only [timekeeping, Option.ite_none_right_eq_some, Option.some.injEq] at hw₁
  obtain ⟨-, rfl⟩ := hw₁
  have hbounded := rounds_bounded hloop.iterate_rounds htime₁
  rw [pollsLeft_started] at hbounded
  exact .inl ⟨started, u, rfl, hbounded⟩

/-- The wait ends in time: on every script that is long enough it returns or raises, no sleep is
for nothing, and it gives up only after a busy poll and a clock past the deadline. -/
theorem waitForTxIdle_ends (parameters : HalfDuplexParameters) (timeout start finish : ℚ)
    (s : HalfDuplexSnapshot × τ) (env : Script (PortQuery.Answer R) PyError)
    (h : (timekeeping R).run start ((waitForTxIdle parameters timeout).run s env).trace =
      some finish) :
    let r := (waitForTxIdle parameters timeout).run s env
    let most := ⌈parameters.txIdleTimeoutSeconds / parameters.txIdlePollSeconds⌉₊ + 1
    polls r.trace ≤ most ∧ (4 * most + 1 < env.length → r.outcome ≠ .pending) ∧
      SleepsOn r.trace ∧
      ∀ e, r.outcome = .raised e → ∃ started u status diag now,
        r.trace = ⟨.monotonic, some (.ok started)⟩ :: u ++
          clockedPair timeout status diag now ∧
        ¬ Idle status diag ∧ started + parameters.txIdleTimeoutSeconds ≤ now := by
  intro r most
  have hruns : Runs (waitForTxIdle parameters timeout) s r.outcome r.state r.trace :=
    Runs.of_eq rfl
  rcases waitForTxIdle_bounded hruns h with ⟨started, u, htrace, hbounded⟩ | ⟨ho, htrace⟩
  · refine ⟨?_, ?_, ?_, ?_⟩
    · rw [htrace]
      exact hbounded.few
    · apply exhausts_waitForTxIdle.not_pending
      have hshort := hbounded.short
      change answered r.trace ≤ _
      rw [htrace, answered_cons_some]
      exact Nat.succ_le_succ hshort
    · rw [htrace]
      exact sleepsOn_clock hbounded.forward
    · intro e he
      obtain ⟨u', status, diag, now, hbusy, hlate, rfl⟩ := hbounded.raised e he
      exact ⟨started, u', status, diag, now, htrace, hbusy, hlate⟩
  · refine ⟨?_, ?_, ?_, ?_⟩
    · rw [htrace]
      exact Nat.zero_le _
    · apply exhausts_waitForTxIdle.not_pending
      change answered r.trace ≤ _
      rw [htrace]
      exact Nat.zero_le _
    · rw [htrace]
      simp [SleepsOn]
    · intro e he
      rw [ho] at he
      cases he

/-- A modem that still sends, at this time. -/
def sendingAnswer (now : ℚ) : (q : PortQuery) → Except PyError (PortQuery.Answer Unit q)
  | .rfStatus _ => .ok ⟨0, 1, 0⟩
  | .rfDiagnostics _ => .ok ⟨0, 0, 0, 1⟩
  | .monotonic => .ok now
  | .sleep _ => .ok ()
  | _ => .error idleTimeout

/-- Two polls one second apart, for a wait of one second. -/
def secondScript : Script (PortQuery.Answer Unit) PyError :=
  [0, 0, 0, 0, 0, 1, 1, 1].map sendingAnswer

def secondParameters : HalfDuplexParameters where
  transactionTimeoutSeconds := 1
  txIdlePollSeconds := 1
  txIdleTimeoutSeconds := 1
  transactionTimeout_pos := one_pos
  txIdlePoll_pos := one_pos
  txIdleTimeout_pos := one_pos

theorem waitForTxIdle_ends_expired :
    let r := (@waitForTxIdle Unit Unit secondParameters 1).run
      (HalfDuplexSnapshot.init, ()) secondScript
    polls r.trace ≤ 2 ∧ SleepsOn r.trace ∧ r.outcome = .raised idleTimeout := by
  intro r
  have h := waitForTxIdle_ends secondParameters 1 0 1 (HalfDuplexSnapshot.init, ())
    secondScript (by decide +kernel)
  have hpolls : polls r.trace ≤ ⌈(1 : ℚ) / 1⌉₊ + 1 := h.1
  rw [div_one, Nat.ceil_one] at hpolls
  exact ⟨hpolls, h.2.2.1, by decide +kernel⟩

end PersistentHalfDuplexSubmitter

end YwdTnc
