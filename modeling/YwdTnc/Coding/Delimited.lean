import Mathlib.Data.List.Induction

/-!
# Delimited streams

A stream in which the letter `d` ends a segment: `terminated d xs` lists the
segments that have been ended and `unterminated d xs` is what follows the last
delimiter. Both are read off `List.splitOn`. The lemmas say how one more letter
at the end of the stream changes them, which is the form an incremental reader
needs.
-/

namespace Coding

variable {α : Type*} [BEq α] [LawfulBEq α]

/-- The segments of `xs` that a delimiter has ended, in order. -/
def terminated (d : α) (xs : List α) : List (List α) :=
  (xs.splitOn d).dropLast

/-- The part of `xs` after its last delimiter. -/
def unterminated (d : α) (xs : List α) : List α :=
  (xs.splitOn d).getLast (List.splitOn_ne_nil d xs)

omit [LawfulBEq α] in
theorem splitOn_eq (d : α) (xs : List α) :
    xs.splitOn d = terminated d xs ++ [unterminated d xs] :=
  (List.dropLast_concat_getLast _).symm

omit [LawfulBEq α] in
/-- A list of segments ends in the unterminated one. -/
theorem terminated_unterminated_of_splitOn {d : α} {xs : List α}
    {done : List (List α)} {rest : List α}
    (h : xs.splitOn d = done ++ [rest]) :
    terminated d xs = done ∧ unterminated d xs = rest := by
  rw [splitOn_eq] at h
  have hlast := List.append_inj' h rfl
  exact ⟨hlast.1, List.singleton_inj.1 hlast.2⟩

omit [LawfulBEq α] in
@[simp] theorem terminated_nil (d : α) : terminated d [] = [] := by
  simp [terminated]

omit [LawfulBEq α] in
@[simp] theorem unterminated_nil (d : α) : unterminated d [] = [] := by
  simp [unterminated]

/-- The delimiter moves the open segment to the terminated ones. -/
theorem splitOn_append_delim (d : α) (xs : List α) :
    (xs ++ [d]).splitOn d = (terminated d xs ++ [unterminated d xs]) ++ [[]] := by
  rw [List.splitOn_append_cons_self, splitOn_eq, List.splitOn_nil]

@[simp] theorem terminated_append_delim (d : α) (xs : List α) :
    terminated d (xs ++ [d]) = terminated d xs ++ [unterminated d xs] :=
  (terminated_unterminated_of_splitOn (splitOn_append_delim d xs)).1

@[simp] theorem unterminated_append_delim (d : α) (xs : List α) :
    unterminated d (xs ++ [d]) = [] :=
  (terminated_unterminated_of_splitOn (splitOn_append_delim d xs)).2

/-- Any other letter extends the open segment. -/
theorem splitOn_append_of_ne {d x : α} (hx : x ≠ d) (xs : List α) :
    (xs ++ [x]).splitOn d = terminated d xs ++ [unterminated d xs ++ [x]] := by
  induction xs with
  | nil =>
      have hmem : d ∉ [x] := by simpa using hx.symm
      simpa using List.splitOn_eq_singleton hmem
  | cons y ys ih =>
      have hsplit := splitOn_eq d ys
      by_cases hy : (y == d) = true
      · have hcons : (y :: ys).splitOn d =
            ([] :: terminated d ys) ++ [unterminated d ys] := by
          rw [List.splitOn_cons_eq_if_modifyHead, if_pos hy, hsplit]
          rfl
        obtain ⟨hdone, hrest⟩ := terminated_unterminated_of_splitOn hcons
        rw [List.cons_append, List.splitOn_cons_eq_if_modifyHead, if_pos hy, ih,
          hdone, hrest]
        rfl
      · cases hdone : terminated d ys with
        | nil =>
            have hcons : (y :: ys).splitOn d = [] ++ [y :: unterminated d ys] := by
              rw [List.splitOn_cons_eq_if_modifyHead, if_neg hy, hsplit, hdone]
              rfl
            obtain ⟨hdone', hrest⟩ := terminated_unterminated_of_splitOn hcons
            rw [List.cons_append, List.splitOn_cons_eq_if_modifyHead, if_neg hy,
              ih, hdone, hdone', hrest]
            rfl
        | cons seg segs =>
            have hcons : (y :: ys).splitOn d =
                ((y :: seg) :: segs) ++ [unterminated d ys] := by
              rw [List.splitOn_cons_eq_if_modifyHead, if_neg hy, hsplit, hdone]
              rfl
            obtain ⟨hdone', hrest⟩ := terminated_unterminated_of_splitOn hcons
            rw [List.cons_append, List.splitOn_cons_eq_if_modifyHead, if_neg hy,
              ih, hdone, hdone', hrest]
            rfl

theorem terminated_append_of_ne {d x : α} (hx : x ≠ d) (xs : List α) :
    terminated d (xs ++ [x]) = terminated d xs :=
  (terminated_unterminated_of_splitOn (splitOn_append_of_ne hx xs)).1

theorem unterminated_append_of_ne {d x : α} (hx : x ≠ d) (xs : List α) :
    unterminated d (xs ++ [x]) = unterminated d xs ++ [x] :=
  (terminated_unterminated_of_splitOn (splitOn_append_of_ne hx xs)).2

/-- A piece without delimiters extends the open segment. -/
theorem append_of_notMem {d : α} (xs : List α) {ys : List α} (hys : d ∉ ys) :
    terminated d (xs ++ ys) = terminated d xs ∧
      unterminated d (xs ++ ys) = unterminated d xs ++ ys := by
  induction ys using List.reverseRecOn with
  | nil => simp
  | append_singleton ys y ih =>
      rw [List.mem_append, List.mem_singleton, not_or] at hys
      obtain ⟨hterminated, hopen⟩ := ih hys.1
      rw [← List.append_assoc, terminated_append_of_ne (Ne.symm hys.2),
        unterminated_append_of_ne (Ne.symm hys.2), hterminated, hopen, List.append_assoc]
      exact ⟨rfl, rfl⟩

end Coding
