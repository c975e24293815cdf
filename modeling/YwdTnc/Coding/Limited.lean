import Mathlib.Data.List.Basic
import Mathlib.Data.Nat.Notation

/-!
# Reading with a limit

Items are read one by one until a number of values is found. An item may hold a value or
none, or reading it may fail. `readUpTo` tests the limit before it reads an item; it says
which values it found, and whether an item was left when the limit was reached.
-/

namespace Coding

variable {α β ε σ : Type*} (read : α → Except ε (Option β))

def readUpTo : ℕ → List α → Except ε (List β × Bool)
  | _, [] => .ok ([], false)
  | 0, _ :: _ => .ok ([], true)
  | n + 1, a :: items =>
      match read a with
      | .error e => .error e
      | .ok none => readUpTo (n + 1) items
      | .ok (some b) => (readUpTo n items).map fun found => (b :: found.1, found.2)

/-- All the values of a list. -/
def values (items : List α) : List β :=
  items.filterMap fun a =>
    match read a with
    | .ok value => value
    | .error _ => none

/-- No item fails that has fewer than `n` values before it. -/
def Readable (n : ℕ) (items : List α) : Prop :=
  ∀ before a after, items = before ++ a :: after → (values read before).length < n →
    ∃ value, read a = .ok value

/-- An item has exactly `n` values before it. -/
def Exceeds (n : ℕ) (items : List α) : Prop :=
  ∃ before a after, items = before ++ a :: after ∧ (values read before).length = n

variable {read} {a : α} {items : List α} {n : ℕ}

theorem values_cons_none (h : read a = .ok none) :
    values read (a :: items) = values read items := by
  simp [values, h]

theorem values_cons_some {b : β} (h : read a = .ok (some b)) :
    values read (a :: items) = b :: values read items := by
  simp [values, h]

theorem values_cons_error {e : ε} (h : read a = .error e) :
    values read (a :: items) = values read items := by
  simp [values, h]

/-! ### One item more -/

theorem readable_cons : Readable read (n + 1) (a :: items) ↔
    (∃ value, read a = .ok value) ∧
      ∀ before b after, items = before ++ b :: after →
        (values read (a :: before)).length < n + 1 → ∃ value, read b = .ok value := by
  constructor
  · intro h
    refine ⟨h [] a items rfl (Nat.succ_pos n), fun before b after hitems => ?_⟩
    exact h (a :: before) b after (by rw [hitems, List.cons_append])
  · rintro ⟨ha, hrest⟩ before b after hitems hfew
    cases before with
    | nil =>
        cases hitems
        exact ha
    | cons c before =>
        cases hitems
        exact hrest before b after rfl hfew

theorem readable_zero : Readable read 0 items := fun _ _ _ _ h => absurd h (Nat.not_lt_zero _)

theorem exceeds_cons : Exceeds read n (a :: items) ↔
    n = 0 ∨ ∃ before b after, items = before ++ b :: after ∧
      (values read (a :: before)).length = n := by
  constructor
  · rintro ⟨before, b, after, hitems, hlength⟩
    cases before with
    | nil => exact .inl hlength.symm
    | cons c before =>
        cases hitems
        exact .inr ⟨before, b, after, rfl, hlength⟩
  · rintro (rfl | ⟨before, b, after, rfl, hlength⟩)
    · exact ⟨[], a, items, rfl, rfl⟩
    · exact ⟨a :: before, b, after, rfl, hlength⟩

theorem readable_cons_none (h : read a = .ok none) :
    Readable read (n + 1) (a :: items) ↔ Readable read (n + 1) items := by
  rw [readable_cons]
  simp only [values_cons_none h]
  exact and_iff_right ⟨none, h⟩

theorem readable_cons_some {b : β} (h : read a = .ok (some b)) :
    Readable read (n + 1) (a :: items) ↔ Readable read n items := by
  rw [readable_cons]
  simp only [values_cons_some h, List.length_cons, Nat.add_lt_add_iff_right]
  exact and_iff_right ⟨some b, h⟩

theorem exceeds_cons_none (h : read a = .ok none) :
    Exceeds read (n + 1) (a :: items) ↔ Exceeds read (n + 1) items := by
  rw [exceeds_cons]
  simp only [values_cons_none h]
  exact or_iff_right (Nat.succ_ne_zero n)

theorem exceeds_cons_some {b : β} (h : read a = .ok (some b)) :
    Exceeds read (n + 1) (a :: items) ↔ Exceeds read n items := by
  rw [exceeds_cons]
  simp only [values_cons_some h, List.length_cons, Nat.add_right_cancel_iff]
  exact or_iff_right (Nat.succ_ne_zero n)

/-! ### The whole list -/

/-- The values found are the first `n`, unless an item fails that had to be read. -/
theorem readUpTo_of_readable (h : Readable read n items) :
    ∃ more, readUpTo read n items = .ok ((values read items).take n, more) ∧
      (more = true ↔ Exceeds read n items) := by
  fun_induction readUpTo read n items with
  | case1 n => exact ⟨false, by simp [values], by simp [Exceeds]⟩
  | case2 a items => exact ⟨true, by simp, by simp [exceeds_cons]⟩
  | case3 n a items e ha =>
      obtain ⟨value, hvalue⟩ := (readable_cons.mp h).1
      rw [ha] at hvalue
      cases hvalue
  | case4 n a items ha ih =>
      rw [readable_cons_none ha] at h
      rw [values_cons_none ha, exceeds_cons_none ha]
      exact ih h
  | case5 n a items b ha ih =>
      rw [readable_cons_some ha] at h
      obtain ⟨more, hread, hmore⟩ := ih h
      rw [values_cons_some ha, exceeds_cons_some ha, hread]
      exact ⟨more, rfl, hmore⟩

theorem readUpTo_of_not_readable (h : ¬ Readable read n items) :
    ∃ e, readUpTo read n items = .error e := by
  fun_induction readUpTo read n items with
  | case1 n => exact absurd (fun _ _ _ hitems => by simp at hitems) h
  | case2 a items => exact absurd readable_zero h
  | case3 n a items e ha => exact ⟨e, rfl⟩
  | case4 n a items ha ih =>
      rw [readable_cons_none ha] at h
      exact ih h
  | case5 n a items b ha ih =>
      rw [readable_cons_some ha] at h
      obtain ⟨e, he⟩ := ih h
      rw [he]
      exact ⟨e, rfl⟩

/-- There are more values than `n` only behind the limit. -/
theorem exceeds_of_lt (h : n < (values read items).length) : Exceeds read n items := by
  induction items generalizing n with
  | nil => simp [values] at h
  | cons a items ih =>
      rw [exceeds_cons]
      cases n with
      | zero => exact .inl rfl
      | succ n =>
          right
          cases ha : read a with
          | error e =>
              rw [values_cons_error ha] at h
              simpa [Exceeds, values_cons_error ha] using ih h
          | ok value =>
              cases value with
              | none =>
                  rw [values_cons_none ha] at h
                  simpa [Exceeds, values_cons_none ha] using ih h
              | some b =>
                  rw [values_cons_some ha, List.length_cons] at h
                  simpa [Exceeds, values_cons_some ha] using ih (Nat.lt_of_succ_lt_succ h)

theorem values_append (items items' : List α) :
    values read (items ++ items') = values read items ++ values read items' :=
  List.filterMap_append

/-- An item behind the limit tells that a value is behind it too, exactly when the last value
is never in front of one. -/
theorem exceeds_iff_lt : (Exceeds read n items ↔ n < (values read items).length) ↔
    ∀ before a after, items = before ++ a :: after → (values read before).length = n →
      values read (a :: after) ≠ [] := by
  constructor
  · rintro h before a after rfl hlength hnone
    have hlt := h.mp ⟨before, a, after, rfl, hlength⟩
    rw [values_append, hnone, List.append_nil, hlength] at hlt
    exact absurd hlt (Nat.lt_irrefl n)
  · intro h
    refine ⟨?_, exceeds_of_lt⟩
    rintro ⟨before, a, after, rfl, hlength⟩
    rw [values_append, List.length_append, hlength]
    exact Nat.lt_add_of_pos_right (List.length_pos_iff.mpr (h before a after rfl hlength))

end Coding
