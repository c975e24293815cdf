import Mathlib.Algebra.GroupWithZero.Nat
import Mathlib.Data.List.Induction
import Mathlib.Data.List.TakeDrop
import Mathlib.Order.Basic

/-!
# Streams of records

A stream that is a sequence of records, each of which says in a header of fixed
length how long it is. `RecordCode.next` looks at the front of what has arrived:
it finds a record, or it finds that the header is malformed, or it has to wait
for more. What it has found does not change when more arrives, and this is all
that `drain`, the loop of an incremental reader, needs to be independent of how
the stream is cut.
-/

namespace Coding

/-- A code for records of type `β` in streams over `α`. -/
structure RecordCode (α β ε : Type*) where
  /-- The length of a header. -/
  header : ℕ
  /-- The length of a record, its header included. -/
  size : β → ℕ
  next : List α → Except ε (Option β)
  header_pos : 0 < header
  short : ∀ xs, xs.length < header → next xs = .ok none
  header_le : ∀ xs b, next xs = .ok (some b) → header ≤ size b
  size_le : ∀ xs b, next xs = .ok (some b) → size b ≤ xs.length
  found_take : ∀ xs b, next xs = .ok (some b) → next (xs.take (size b)) = .ok (some b)
  found_append : ∀ xs ys b, next xs = .ok (some b) → next (xs ++ ys) = .ok (some b)
  error_take : ∀ xs e, next xs = .error e → next (xs.take header) = .error e
  error_append : ∀ xs ys e, next xs = .error e → next (xs ++ ys) = .error e

/-- What the reader makes of a stream: the records it finds, what is left, and
the error it stops at. -/
structure Drained (α β ε : Type*) where
  records : List β
  rest : List α
  error : Option ε
  deriving DecidableEq

/-- A reading that other records have come before. -/
def Drained.after {α β ε : Type*} (bs : List β) (r : Drained α β ε) : Drained α β ε :=
  ⟨bs ++ r.records, r.rest, r.error⟩

namespace RecordCode

variable {α β ε : Type*} (C : RecordCode α β ε)

/-- The loop of a reader, with as many turns as it may need. -/
def turns : ℕ → List α → Drained α β ε
  | 0, xs => ⟨[], xs, none⟩
  | n + 1, xs =>
      match C.next xs with
      | .error e => ⟨[], xs, some e⟩
      | .ok none => ⟨[], xs, none⟩
      | .ok (some b) => (turns n (xs.drop (C.size b))).after [b]

/-- Read records off the front until none is complete. -/
def drain (xs : List α) : Drained α β ε := C.turns (xs.length + 1) xs

/-- A record takes something off the stream. -/
theorem length_drop_size {xs : List α} {b : β} (h : C.next xs = .ok (some b)) :
    (xs.drop (C.size b)).length < xs.length := by
  have hpos := Nat.lt_of_lt_of_le C.header_pos (C.header_le xs b h)
  have hle := C.size_le xs b h
  rw [List.length_drop]
  omega

theorem turns_eq {xs : List α} : ∀ {m n : ℕ}, xs.length < m → xs.length < n →
    C.turns m xs = C.turns n xs := by
  intro m
  induction m generalizing xs with
  | zero => exact fun h => absurd h (Nat.not_lt_zero _)
  | succ m ih =>
      intro n hm hn
      cases n with
      | zero => exact absurd hn (Nat.not_lt_zero _)
      | succ n =>
          rw [turns, turns]
          cases hnext : C.next xs with
          | error e => rfl
          | ok found =>
              cases found with
              | none => rfl
              | some b =>
                  have hless := C.length_drop_size hnext
                  have hrest : C.turns m (xs.drop (C.size b)) =
                      C.turns n (xs.drop (C.size b)) := ih (by omega) (by omega)
                  simp only [hrest]

theorem drain_error {xs : List α} {e : ε} (h : C.next xs = .error e) :
    C.drain xs = ⟨[], xs, some e⟩ := by
  rw [drain, turns, h]

theorem drain_none {xs : List α} (h : C.next xs = .ok none) :
    C.drain xs = ⟨[], xs, none⟩ := by
  rw [drain, turns, h]

theorem drain_some {xs : List α} {b : β} (h : C.next xs = .ok (some b)) :
    C.drain xs = (C.drain (xs.drop (C.size b))).after [b] := by
  have hrest : C.turns xs.length (xs.drop (C.size b)) = C.drain (xs.drop (C.size b)) :=
    C.turns_eq (C.length_drop_size h) (Nat.lt_succ_self _)
  rw [drain, turns, h]
  simp only [hrest]

/-- The induction a reader follows. -/
theorem drain_induction {P : List α → Prop}
    (error : ∀ xs e, C.next xs = .error e → P xs)
    (none : ∀ xs, C.next xs = .ok none → P xs)
    (some : ∀ xs b, C.next xs = .ok (some b) → P (xs.drop (C.size b)) → P xs) (xs : List α) :
    P xs := by
  induction hn : xs.length using Nat.strongRecOn generalizing xs with
  | ind n ih =>
      cases hnext : C.next xs with
      | error e => exact error xs e hnext
      | ok found =>
          cases found with
          | none => exact none xs hnext
          | some b =>
              exact some xs b hnext (ih _ (hn ▸ C.length_drop_size hnext) _ rfl)

/-- What holds of every record that is found holds of all records of a stream. -/
theorem drain_forall {P : β → Prop} (hfound : ∀ xs b, C.next xs = .ok (some b) → P b)
    (xs : List α) : ∀ b ∈ (C.drain xs).records, P b := by
  induction xs using C.drain_induction with
  | error xs e h =>
      rw [C.drain_error h]
      exact fun b hb => absurd hb List.not_mem_nil
  | none xs h =>
      rw [C.drain_none h]
      exact fun b hb => absurd hb List.not_mem_nil
  | some xs b h ih =>
      rw [C.drain_some h]
      intro b' hb'
      rcases List.mem_cons.mp hb' with rfl | hb'
      · exact hfound xs _ h
      · exact ih b' hb'

/-- More of the stream does not change what has been read. -/
theorem drain_append (xs ys : List α) :
    C.drain (xs ++ ys) =
      match (C.drain xs).error with
      | some e => ⟨(C.drain xs).records, (C.drain xs).rest ++ ys, some e⟩
      | none => (C.drain ((C.drain xs).rest ++ ys)).after (C.drain xs).records := by
  induction xs using C.drain_induction with
  | error xs e h => rw [C.drain_error h, C.drain_error (C.error_append xs ys e h)]
  | none xs h =>
      rw [C.drain_none h]
      rfl
  | some xs b h ih =>
      have hle := C.size_le xs b h
      rw [C.drain_some h, C.drain_some (C.found_append xs ys b h),
        List.drop_append_of_le_length hle, ih]
      generalize C.drain (xs.drop (C.size b)) = r
      obtain ⟨bs, rest, e⟩ := r
      cases e with
      | none => rfl
      | some e => rfl

/-- The positions at which records end that begin at `start`. -/
def ends (start : ℕ) : List β → List ℕ
  | [] => []
  | b :: bs => (start + C.size b) :: ends (start + C.size b) bs

/-- The position at which the malformed header of a stream ends, if it has one. -/
def failsAt (xs : List α) : Option ℕ :=
  (C.drain xs).error.map fun _ => ((C.drain xs).records.map C.size).sum + C.header

@[simp] theorem ends_length (start : ℕ) (bs : List β) :
    (C.ends start bs).length = bs.length := by
  induction bs generalizing start with
  | nil => rfl
  | cons b bs ih => rw [ends, List.length_cons, List.length_cons, ih]

theorem ends_add (n start : ℕ) (bs : List β) :
    C.ends (n + start) bs = (C.ends start bs).map (n + ·) := by
  induction bs generalizing start with
  | nil => rfl
  | cons b bs ih => rw [ends, ends, List.map_cons, Nat.add_assoc, ih]

/-- What is found in a part of the stream is found in all of it. -/
theorem next_of_take_some {xs : List α} {k : ℕ} {b : β}
    (h : C.next (xs.take k) = .ok (some b)) : C.next xs = .ok (some b) := by
  have hfound := C.found_append _ (xs.drop k) b h
  rwa [List.take_append_drop] at hfound

theorem next_of_take_error {xs : List α} {k : ℕ} {e : ε} (h : C.next (xs.take k) = .error e) :
    C.next xs = .error e := by
  have herror := C.error_append _ (xs.drop k) e h
  rwa [List.take_append_drop] at herror

/-- Where nothing is found, nothing is found in less. -/
theorem next_take_none {xs : List α} (h : C.next xs = .ok none) (k : ℕ) :
    C.next (xs.take k) = .ok none := by
  cases hnext : C.next (xs.take k) with
  | error e =>
      have herror := C.next_of_take_error hnext
      rw [h] at herror
      cases herror
  | ok found =>
      cases found with
      | none => rfl
      | some b =>
          have hfound := C.next_of_take_some hnext
          rw [h] at hfound
          cases hfound

/-- A record is found as soon as it is complete, and not before. -/
theorem next_take_some {xs : List α} {b : β} (h : C.next xs = .ok (some b)) (k : ℕ) :
    C.next (xs.take k) = .ok (if C.size b ≤ k then some b else none) := by
  by_cases hk : C.size b ≤ k
  · have hsplit : (xs.take k).take (C.size b) = xs.take (C.size b) := by
      rw [List.take_take, Nat.min_eq_left hk]
    rw [if_pos hk]
    apply C.next_of_take_some
    rw [hsplit]
    exact C.found_take xs b h
  · rw [if_neg hk]
    cases hnext : C.next (xs.take k) with
    | error e =>
        have herror := C.next_of_take_error hnext
        rw [h] at herror
        cases herror
    | ok found =>
        cases found with
        | none => rfl
        | some b' =>
            have hfound := C.next_of_take_some hnext
            rw [h] at hfound
            cases hfound
            have hle := C.size_le _ _ hnext
            rw [List.length_take] at hle
            omega

/-- A malformed header is found as soon as it is complete, and not before. -/
theorem next_take_error {xs : List α} {e : ε} (h : C.next xs = .error e) (k : ℕ) :
    C.next (xs.take k) = if C.header ≤ k then .error e else .ok none := by
  by_cases hk : C.header ≤ k
  · have hsplit : (xs.take k).take C.header = xs.take C.header := by
      rw [List.take_take, Nat.min_eq_left hk]
    rw [if_pos hk]
    apply C.next_of_take_error
    rw [hsplit]
    exact C.error_take xs e h
  · rw [if_neg hk]
    refine C.short _ ?_
    rw [List.length_take]
    omega

/-- The records that end within the first `k` letters, counted from the first one
on. -/
theorem countP_ends_cons (b : β) (bs : List β) (k : ℕ) :
    (C.ends 0 (b :: bs)).countP (· ≤ k) =
      if C.size b ≤ k then (C.ends 0 bs).countP (· ≤ k - C.size b) + 1 else 0 := by
  have hends : C.ends 0 (b :: bs) = C.size b :: (C.ends 0 bs).map (C.size b + ·) := by
    rw [ends, Nat.zero_add]
    congr 1
    exact C.ends_add (C.size b) 0 bs
  rw [hends]
  by_cases hk : C.size b ≤ k
  · have hcount : ((C.ends 0 bs).map (C.size b + ·)).countP (· ≤ k) =
        (C.ends 0 bs).countP (· ≤ k - C.size b) := by
      rw [List.countP_map]
      congr 1
      funext e
      simp only [Function.comp_apply, decide_eq_decide]
      omega
    rw [List.countP_cons, hcount, if_pos hk, if_pos (decide_eq_true hk)]
  · rw [if_neg hk, List.countP_eq_zero]
    intro e he
    have hle : C.size b ≤ e := by
      rcases List.mem_cons.mp he with rfl | he
      · exact Nat.le_refl _
      · obtain ⟨e', -, rfl⟩ := List.mem_map.mp he
        exact Nat.le_add_right _ _
    rw [decide_eq_true_iff]
    omega

theorem failsAt_some {xs : List α} {b : β} (h : C.next xs = .ok (some b)) :
    C.failsAt xs = (C.failsAt (xs.drop (C.size b))).map (C.size b + ·) := by
  rw [failsAt, failsAt, C.drain_some h, Option.map_map]
  simp only [Drained.after, List.singleton_append, List.map_cons, List.sum_cons]
  congr 1
  funext _
  exact Nat.add_assoc _ _ _

/-- What can be read of the first `k` letters of a stream: the records that end
there, and the malformed header if it ends there too. -/
theorem drain_take (xs : List α) : ∀ k : ℕ,
    (C.drain (xs.take k)).records = (C.drain xs).records.take
        ((C.ends 0 (C.drain xs).records).countP (· ≤ k)) ∧
      ((C.drain (xs.take k)).error.isSome ↔ ∃ h, C.failsAt xs = some h ∧ h ≤ k) := by
  induction xs using C.drain_induction with
  | error xs e h =>
      intro k
      have hnext := C.next_take_error h k
      rw [failsAt, C.drain_error h]
      by_cases hk : C.header ≤ k
      · rw [if_pos hk] at hnext
        rw [C.drain_error hnext]
        simpa [ends] using hk
      · rw [if_neg hk] at hnext
        rw [C.drain_none hnext]
        simpa [ends] using hk
  | none xs h =>
      intro k
      rw [failsAt, C.drain_none h, C.drain_none (C.next_take_none h k)]
      simp [ends]
  | some xs b h ih =>
      intro k
      have hnext := C.next_take_some h k
      rw [C.failsAt_some h, C.drain_some h]
      simp only [Drained.after, List.singleton_append, C.countP_ends_cons, Option.map_eq_some_iff]
      by_cases hk : C.size b ≤ k
      · rw [if_pos hk] at hnext
        obtain ⟨hrecords, herror⟩ := ih (k - C.size b)
        have hrest : (xs.take k).drop (C.size b) = (xs.drop (C.size b)).take (k - C.size b) :=
          List.drop_take
        rw [C.drain_some hnext, hrest, if_pos hk, List.take_succ_cons, ← hrecords]
        refine ⟨rfl, herror.trans ⟨?_, ?_⟩⟩
        · rintro ⟨e, he, hle⟩
          exact ⟨_, ⟨e, he, rfl⟩, by omega⟩
        · rintro ⟨_, ⟨e, he, rfl⟩, hle⟩
          exact ⟨e, he, by omega⟩
      · rw [if_neg hk] at hnext
        rw [C.drain_none hnext, if_neg hk, List.take_zero]
        refine ⟨rfl, ?_⟩
        simp only [Option.isSome_none, Bool.false_eq_true, false_iff]
        rintro ⟨_, ⟨e, he, rfl⟩, hle⟩
        omega

end RecordCode

end Coding
