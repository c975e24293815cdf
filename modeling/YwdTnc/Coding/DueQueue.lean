import Mathlib.Data.List.Sort
import Mathlib.Data.List.FinRange
import Mathlib.Data.Prod.Lex
import Mathlib.Algebra.Order.Group.Int

/-!
# Queues of due times

Every task of a system has a time at which it is next due, and running a task puts that time
off. `drain` keeps the tasks in a queue ordered by due time and then by task, takes them
from its head while they are due, and puts each of them back at its new time. `scan` has no
queue and looks at every task once. The two run the same tasks in the same order as long as
no task is overdue (`drain_eq_scan`).
-/

namespace Coding

namespace DueQueue

variable {n : ℕ} {σ : Type*}

/-- The time at which a task is due, and the task. -/
abbrev Entry (n : ℕ) := ℤ ×ₗ Fin n

variable (due : σ → Fin n → ℤ) (run : σ → Fin n → σ)

def push (entry : Entry n) (queue : List (Entry n)) : List (Entry n) :=
  queue.orderedInsert (· ≤ ·) entry

/-- The queue with every task put in, one after the other. -/
def fill (s : σ) : List (Entry n) :=
  (List.finRange n).foldl (fun queue task => push (toLex (due s task, task)) queue) []

def drain (now : ℤ) : ℕ → List (Entry n) × σ → Option (List (Entry n) × σ)
  | 0, _ => none
  | _ + 1, ([], s) => some ([], s)
  | fuel + 1, (entry :: queue, s) =>
      if (ofLex entry).1 ≤ now then
        let task := (ofLex entry).2
        drain now fuel (push (toLex (due (run s task) task, task)) queue, run s task)
      else some (entry :: queue, s)

def scanTasks (now : ℤ) (tasks : List (Fin n)) (s : σ) : σ :=
  tasks.foldl (fun s task => if due s task ≤ now then run s task else s) s

def scan (now : ℤ) (s : σ) : σ := scanTasks due run now (List.finRange n) s

theorem scanTasks_cons (now : ℤ) (task : Fin n) (tasks : List (Fin n)) (s : σ) :
    scanTasks due run now (task :: tasks) s =
      scanTasks due run now tasks (if due s task ≤ now then run s task else s) := rfl

/-- The queue has one entry for each task, at the time at which it is due. -/
structure Queued (queue : List (Entry n)) (s : σ) : Prop where
  sorted : queue.Pairwise (· < ·)
  mem_iff : ∀ time task, toLex (time, task) ∈ queue ↔ time = due s task

/-- What running a task does to the times: that of the task is put off, the others stay. -/
structure PutsOff (P : σ → Prop) (now : ℤ) : Prop where
  keeps : ∀ s task, P s → due s task = now → P (run s task)
  other : ∀ s task task', task' ≠ task → due (run s task) task' = due s task'
  later : ∀ s task, P s → due s task = now → now < due (run s task) task

variable {due run} {now : ℤ} {P : σ → Prop} {s : σ} {queue : List (Entry n)} {entry : Entry n}
  {task : Fin n} {tasks : List (Fin n)}

theorem Queued.congr {s' : σ} (h : Queued due queue s) (hdue : ∀ task, due s' task = due s task) :
    Queued due queue s' :=
  ⟨h.sorted, fun time task => by rw [h.mem_iff, hdue]⟩

theorem pairwise_push (hqueue : queue.Pairwise (· < ·)) (hentry : entry ∉ queue) :
    (push entry queue).Pairwise (· < ·) := by
  have hle : (push entry queue).Pairwise (· ≤ ·) := (hqueue.imp le_of_lt).orderedInsert _ _
  have hnodup : (push entry queue).Nodup :=
    (List.perm_orderedInsert _ _ _).nodup_iff.mpr
      (List.nodup_cons.mpr ⟨hentry, hqueue.imp ne_of_lt⟩)
  exact (hle.and hnodup).imp fun hpair => lt_of_le_of_ne hpair.1 hpair.2

/-- Putting tasks in that are not in the queue yet. -/
theorem foldl_push (s : σ) : ∀ (tasks : List (Fin n)) (queue : List (Entry n)), tasks.Nodup →
    queue.Pairwise (· < ·) → (∀ entry ∈ queue, (ofLex entry).2 ∉ tasks) →
    (tasks.foldl (fun queue task => push (toLex (due s task, task)) queue) queue).Pairwise
        (· < ·) ∧
      ∀ time task, toLex (time, task) ∈
          tasks.foldl (fun queue task => push (toLex (due s task, task)) queue) queue ↔
        toLex (time, task) ∈ queue ∨ time = due s task ∧ task ∈ tasks := by
  intro tasks
  induction tasks with
  | nil => simp
  | cons task tasks ih =>
      intro queue htasks hsorted hnew
      obtain ⟨hfirst, htasks⟩ := List.nodup_cons.mp htasks
      have hentry : toLex (due s task, task) ∉ queue := fun hin => by
        simpa using hnew _ hin
      have hnew' : ∀ entry ∈ push (toLex (due s task, task)) queue,
          (ofLex entry).2 ∉ tasks := by
        intro entry hin
        rcases (List.mem_orderedInsert _).mp hin with rfl | hin
        · exact hfirst
        · exact fun htask => hnew entry hin (List.mem_cons_of_mem _ htask)
      obtain ⟨hsorted', hmem⟩ := ih _ htasks (pairwise_push hsorted hentry) hnew'
      refine ⟨hsorted', fun time task' => ?_⟩
      rw [List.foldl_cons, hmem, push, List.mem_orderedInsert]
      by_cases htask : task' = task
      · subst htask
        simp [hfirst, or_comm]
      · simp [htask]

theorem queued_fill (s : σ) : Queued due (fill due s) s := by
  obtain ⟨hsorted, hmem⟩ := @foldl_push n σ due s (List.finRange n) []
    (List.nodup_finRange n) List.Pairwise.nil (by simp)
  exact ⟨hsorted, fun time task => by rw [fill, hmem]; simp⟩

/-- The first of the tasks that are due, when none is overdue, is at the head. -/
theorem Queued.eq_cons (h : Queued due queue s) (hnow : due s task = now)
    (hdue : ∀ task', now ≤ due s task') (hfirst : ∀ task', due s task' = now → task ≤ task') :
    ∃ rest, queue = toLex (due s task, task) :: rest := by
  have hin := (h.mem_iff (due s task) task).mpr rfl
  cases queue with
  | nil => cases hin
  | cons entry rest =>
      rcases List.mem_cons.mp hin with rfl | hin
      · exact ⟨rest, rfl⟩
      · exfalso
        have htime : (ofLex entry).1 = due s (ofLex entry).2 :=
          (h.mem_iff _ _).mp List.mem_cons_self
        have hlt := (List.pairwise_cons.mp h.sorted).1 _ hin
        rcases Prod.Lex.lt_iff.mp hlt with hbefore | ⟨hsame, hbefore⟩
        · rw [htime, ofLex_toLex, hnow] at hbefore
          exact absurd hbefore (not_lt.mpr (hdue _))
        · rw [htime, ofLex_toLex, hnow] at hsame
          exact absurd hbefore (not_lt.mpr (hfirst _ hsame))

/-- A task that is run is put back in the queue. -/
theorem Queued.push_run (h : Queued due (toLex (due s task, task) :: queue) s)
    (hrun : PutsOff due run P now) :
    Queued due (push (toLex (due (run s task) task, task)) queue) (run s task) := by
  obtain ⟨hhead, hsorted⟩ := List.pairwise_cons.mp h.sorted
  have hmem : ∀ time task', toLex (time, task') ∈ queue ↔
      time = due s task' ∧ task' ≠ task := by
    intro time task'
    constructor
    · intro hin
      have htime := (h.mem_iff time task').mp (List.mem_cons_of_mem _ hin)
      refine ⟨htime, ?_⟩
      rintro rfl
      rw [htime] at hin
      exact lt_irrefl _ (hhead _ hin)
    · rintro ⟨rfl, hne⟩
      have hin := (h.mem_iff (due s task') task').mpr rfl
      rcases List.mem_cons.mp hin with heq | hin
      · exact absurd (congrArg (fun entry => (ofLex entry).2) heq) hne
      · exact hin
  constructor
  · refine pairwise_push hsorted ?_
    rw [hmem]
    simp
  · intro time task'
    rw [push, List.mem_orderedInsert, hmem]
    by_cases htask : task' = task
    · subst htask
      simp
    · rw [hrun.other s task task' htask]
      simp [htask]

/-- A queue with nothing due is left as it is. -/
theorem drain_of_later (hqueued : Queued due queue s) (hlater : ∀ task, now < due s task)
    (fuel : ℕ) : drain due run now (fuel + 1) (queue, s) = some (queue, s) := by
  cases queue with
  | nil => rfl
  | cons entry queue =>
      have htime : (ofLex entry).1 = due s (ofLex entry).2 :=
        (hqueued.mem_iff _ _).mp List.mem_cons_self
      have hnot : ¬ (ofLex entry).1 ≤ now := by
        rw [htime]
        exact not_le.mpr (hlater _)
      simp [drain, hnot]

/-- Running a task that is due leaves no task overdue. -/
theorem PutsOff.not_overdue (hrun : PutsOff due run P now) (hP : P s) (hnow : due s task = now)
    (hdue : ∀ task', now ≤ due s task') (task' : Fin n) : now ≤ due (run s task) task' := by
  by_cases htask : task' = task
  · rw [htask]
    exact (hrun.later s task hP hnow).le
  · rw [hrun.other s task task' htask]
    exact hdue task'

/-- The induction on the tasks that the scan has still to look at: those that are due are
among them, and they stand first in the queue in the order of the scan. -/
theorem drain_eq_scanTasks (hrun : PutsOff due run P now) (hP : P s)
    (hqueued : Queued due queue s) (htasks : tasks.Pairwise (· < ·))
    (hdue : ∀ task, now ≤ due s task) (hrest : ∀ task, due s task = now → task ∈ tasks)
    {fuel : ℕ} (hfuel : tasks.length < fuel) :
    ∃ queue', drain due run now fuel (queue, s) =
        some (queue', scanTasks due run now tasks s) ∧
      Queued due queue' (scanTasks due run now tasks s) ∧
      P (scanTasks due run now tasks s) ∧
      ∀ task, now < due (scanTasks due run now tasks s) task := by
  induction tasks generalizing s queue fuel with
  | nil =>
      have hlater : ∀ task, now < due s task := by
        intro task
        refine lt_of_le_of_ne (hdue task) fun hnow => ?_
        cases hrest task hnow.symm
      obtain ⟨fuel, rfl⟩ : ∃ k, fuel = k + 1 := Nat.exists_eq_succ_of_ne_zero (by omega)
      exact ⟨queue, drain_of_later hqueued hlater fuel, hqueued, hP, hlater⟩
  | cons task tasks ih =>
      obtain ⟨hfirst, htasks⟩ := List.pairwise_cons.mp htasks
      rw [scanTasks_cons]
      rcases (hdue task).lt_or_eq with hlater | hnow
      · rw [if_neg (not_le.mpr hlater)]
        refine ih hP hqueued htasks hdue (fun task' hdue' => ?_)
          (Nat.lt_of_succ_lt hfuel)
        rcases List.mem_cons.mp (hrest task' hdue') with rfl | hin
        · exact absurd hdue' hlater.ne'
        · exact hin
      · rw [if_pos hnow.ge]
        obtain ⟨queue, rfl⟩ := hqueued.eq_cons hnow.symm hdue fun task' hdue' => by
          rcases List.mem_cons.mp (hrest task' hdue') with rfl | hin
          · exact le_refl _
          · exact (hfirst task' hin).le
        obtain ⟨fuel, rfl⟩ : ∃ k, fuel = k + 1 := Nat.exists_eq_succ_of_ne_zero (by omega)
        have hstep : drain due run now (fuel + 1) (toLex (due s task, task) :: queue, s) =
            drain due run now fuel
              (push (toLex (due (run s task) task, task)) queue, run s task) :=
          if_pos hnow.ge
        rw [hstep]
        refine ih (hrun.keeps s task hP hnow.symm) (hqueued.push_run hrun) htasks
          (hrun.not_overdue hP hnow.symm hdue) (fun task' hdue' => ?_)
          (Nat.lt_of_succ_lt_succ hfuel)
        -- the task that ran is not due again
        have htask : task' ≠ task := by
          rintro rfl
          exact (hrun.later s task' hP hnow.symm).ne' hdue'
        rw [hrun.other s task task' htask] at hdue'
        exact (List.mem_cons.mp (hrest task' hdue')).resolve_left htask

/-- A map of states that goes along with the tasks goes along with the scan. -/
theorem map_scan {τ : Type*} {due' : τ → Fin n → ℤ} {run' : τ → Fin n → τ} {f : σ → τ}
    (hrun : PutsOff due run P now) (hP : P s) (hdue : ∀ task, now ≤ due s task)
    (hdue' : ∀ s task, due' (f s) task = due s task)
    (hf : ∀ s task, P s → due s task = now → f (run s task) = run' (f s) task) :
    f (scan due run now s) = scan due' run' now (f s) := by
  unfold scan
  induction List.finRange n generalizing s with
  | nil => rfl
  | cons task tasks ih =>
      rw [scanTasks_cons, scanTasks_cons, hdue']
      rcases (hdue task).lt_or_eq with hlater | hnow
      · rw [if_neg (not_le.mpr hlater), if_neg (not_le.mpr hlater)]
        exact ih hP hdue
      · rw [if_pos hnow.ge, if_pos hnow.ge, ← hf s task hP hnow.symm]
        exact ih (hrun.keeps s task hP hnow.symm) (hrun.not_overdue hP hnow.symm hdue)

/-- With no task overdue the queue does what the scan does, and again no task is overdue. -/
theorem drain_eq_scan (hrun : PutsOff due run P now) (hP : P s) (hqueued : Queued due queue s)
    (hdue : ∀ task, now ≤ due s task) {fuel : ℕ} (hfuel : n < fuel) :
    ∃ queue', drain due run now fuel (queue, s) = some (queue', scan due run now s) ∧
      Queued due queue' (scan due run now s) ∧ P (scan due run now s) ∧
      ∀ task, now < due (scan due run now s) task :=
  drain_eq_scanTasks hrun hP hqueued (List.pairwise_lt_finRange n) hdue
    (fun task _ => List.mem_finRange task) (by simpa using hfuel)

/-- What the tasks keep, a scan of them keeps. -/
theorem scanTasks_keeps {due : σ → Fin n → ℤ} {run : σ → Fin n → σ} {now : ℤ} {P : σ → Prop}
    {tasks : List (Fin n)} (hP : ∀ s, ∀ task ∈ tasks, P s → P (run s task)) {s : σ} (h : P s) :
    P (scanTasks due run now tasks s) := by
  induction tasks generalizing s with
  | nil => exact h
  | cons task tasks ih =>
      rw [scanTasks_cons]
      refine ih (fun s task hmem => hP s task (List.mem_cons_of_mem _ hmem)) ?_
      split
      · exact hP s task List.mem_cons_self h
      · exact h

/-- What the scan does for one task is done when its turn comes. -/
theorem scan_task {due : σ → Fin n → ℤ} {run : σ → Fin n → σ} {now : ℤ} (task : Fin n)
    {P Q : σ → Prop} (hP : ∀ s other, other ≠ task → P s → P (run s other))
    (hQ : ∀ s other, other ≠ task → Q s → Q (run s other))
    (htask : ∀ s, P s → Q (if due s task ≤ now then run s task else s)) {s : σ} (h : P s) :
    Q (scan due run now s) := by
  obtain ⟨before, after, hsplit⟩ := List.append_of_mem (List.mem_finRange task)
  have hnodup := List.nodup_finRange n
  rw [hsplit, List.nodup_append] at hnodup
  obtain ⟨-, hafter, hbefore⟩ := hnodup
  have hfirst : P (scanTasks due run now before s) :=
    scanTasks_keeps (fun s other hmem =>
      hP s other fun heq => hbefore other hmem task List.mem_cons_self heq) h
  have hscan : scan due run now s = scanTasks due run now after
      (if due (scanTasks due run now before s) task ≤ now then
        run (scanTasks due run now before s) task else scanTasks due run now before s) := by
    rw [scan, hsplit, scanTasks, List.foldl_append]
    rfl
  rw [hscan]
  refine scanTasks_keeps (fun s other hmem => hQ s other ?_) (htask _ hfirst)
  rintro rfl
  exact (List.nodup_cons.mp hafter).1 hmem

end DueQueue

end Coding
