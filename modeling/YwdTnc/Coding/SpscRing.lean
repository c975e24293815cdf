import Mathlib.Data.Fin.Basic
import Mathlib.Order.Basic
import Mathlib.Tactic.SplitIfs

/-!
# Rings of one writer and one reader

A ring of `n` slots with the index of its writer and the index of its reader. The writer
stores at `head` and moves `head` on, the reader loads at `tail` and moves `tail` on, and one
slot always stays free, so that equal indices mean an empty ring. `contents` is the queue
that a ring stands for: `push` appends to it, `pop` takes its first value, and as neither
side writes what the other one owns, a value stays where it is until the reader passes it.
-/

namespace Coding

structure SpscRing (n : ℕ) (α : Type*) where
  slots : Vector α n
  head : Fin n
  tail : Fin n
  deriving DecidableEq

namespace SpscRing

variable {n : ℕ} {α : Type*} {r : SpscRing n α}

/-- The index behind `i`; the last slot is followed by the first one. -/
def next (i : Fin n) : Fin n :=
  if h : i.val + 1 < n then ⟨i.val + 1, h⟩ else ⟨0, i.pos⟩

/-- The slot `k` places behind `i`. -/
def behind (i : Fin n) (k : ℕ) : Fin n := next^[k] i

def Full (r : SpscRing n α) : Prop := next r.head = r.tail

instance : Decidable r.Full := inferInstanceAs (Decidable (_ = _))

/-- How many values a reader of the two indices finds. -/
def count (r : SpscRing n α) : ℕ :=
  if r.tail.val ≤ r.head.val then r.head.val - r.tail.val else n - r.tail.val + r.head.val

def push (r : SpscRing n α) (value : α) : SpscRing n α :=
  { r with slots := r.slots.set r.head value, head := next r.head }

/-- The value that the reader finds first. -/
def front (r : SpscRing n α) : α := r.slots[r.tail]

def pop (r : SpscRing n α) : SpscRing n α := { r with tail := next r.tail }

def contents (r : SpscRing n α) : List α :=
  (List.range r.count).map fun k => r.slots[behind r.tail k]

/-! ### Indices -/

@[simp] theorem behind_zero (i : Fin n) : behind i 0 = i := rfl

theorem behind_succ (i : Fin n) (k : ℕ) : behind i (k + 1) = next (behind i k) :=
  Function.iterate_succ_apply' next k i

theorem next_val (i : Fin n) : (next i).val = if i.val + 1 < n then i.val + 1 else 0 := by
  unfold next
  split_ifs <;> rfl

/-- Less than a whole turn wraps at most once. -/
theorem behind_val {i : Fin n} {k : ℕ} (h : k < n) :
    (behind i k).val = if i.val + k < n then i.val + k else i.val + k - n := by
  induction k with
  | zero => simp [i.isLt]
  | succ k ih =>
      have hi := i.isLt
      rw [behind_succ, next_val, ih (by omega)]
      split_ifs <;> omega

theorem behind_count (r : SpscRing n α) : behind r.tail r.count = r.head := by
  have hhead := r.head.isLt
  have htail := r.tail.isLt
  apply Fin.ext
  unfold count
  split_ifs with h
  · rw [behind_val (by omega), if_pos (by omega)]
    omega
  · rw [behind_val (by omega), if_neg (by omega)]
    omega

theorem count_lt (r : SpscRing n α) : r.count < n := by
  have hhead := r.head.isLt
  have htail := r.tail.isLt
  unfold count
  split_ifs <;> omega

theorem count_eq_zero_iff : r.count = 0 ↔ r.tail = r.head := by
  have htail := r.tail.isLt
  unfold count
  rw [Fin.ext_iff]
  split_ifs <;> omega

/-- A full ring holds one value less than it has slots. -/
theorem full_iff : r.Full ↔ r.count + 1 = n := by
  have hhead := r.head.isLt
  have htail := r.tail.isLt
  unfold Full count
  rw [Fin.ext_iff, next_val]
  split_ifs <;> omega

theorem count_push (value : α) (h : ¬ r.Full) : (r.push value).count = r.count + 1 := by
  have hhead := r.head.isLt
  have htail := r.tail.isLt
  rw [full_iff] at h
  unfold count at h ⊢
  simp only [push, next_val]
  split_ifs at h ⊢ <;> omega

theorem count_pop (h : r.tail ≠ r.head) : r.count = r.pop.count + 1 := by
  have hhead := r.head.isLt
  have htail := r.tail.isLt
  rw [ne_eq, Fin.ext_iff] at h
  unfold count
  simp only [pop, next_val]
  split_ifs <;> omega

/-- The slots in front of the writer are not the one that it stores to. -/
theorem behind_ne_head {k : ℕ} (h : k < r.count) : behind r.tail k ≠ r.head := by
  have hcount := r.count_lt
  rw [← r.behind_count, ne_eq, Fin.ext_iff, behind_val (by omega), behind_val hcount]
  have htail := r.tail.isLt
  split_ifs <;> omega

/-! ### The queue -/

@[simp] theorem contents_length (r : SpscRing n α) : r.contents.length = r.count := by
  simp [contents]

theorem contents_eq_nil_iff : r.contents = [] ↔ r.tail = r.head := by
  rw [← List.length_eq_zero_iff, contents_length, count_eq_zero_iff]

theorem contents_push (value : α) (h : ¬ r.Full) :
    (r.push value).contents = r.contents ++ [value] := by
  unfold contents
  rw [count_push value h, List.range_succ, List.map_append, List.map_singleton]
  congr 1
  · refine List.map_congr_left fun k hk => ?_
    have hne := behind_ne_head (List.mem_range.mp hk)
    have hval : (r.head : ℕ) ≠ behind r.tail k := fun heq => hne (Fin.ext heq.symm)
    simp [push, Vector.getElem_set_ne, hval]
  · have hlast : behind (r.push value).tail r.count = r.head := r.behind_count
    simp only [hlast]
    simp [push]

theorem contents_pop (h : r.tail ≠ r.head) : r.contents = r.front :: r.pop.contents := by
  unfold contents
  rw [count_pop h, List.range_succ_eq_map, List.map_cons, List.map_map]
  congr 1

/-- What the reader finds first stays there while the writer stores. -/
theorem front_push (value : α) (h : r.tail ≠ r.head) : (r.push value).front = r.front := by
  have hval : (r.head : ℕ) ≠ r.tail := fun heq => h (Fin.ext heq.symm)
  simp [front, push, Vector.getElem_set_ne, hval]

end SpscRing

end Coding
