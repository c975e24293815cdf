import YwdTnc.Coding.StableSort
import Mathlib.Data.List.Induction

/-!
# Tallies

A tally counts names one by one and keeps them in the order in which they came first. It is
that of its definition: each name of the list once, with the number of times that it occurs.
The most common names are the first ones after a stable sort by their counts.
-/

namespace Coding

variable {α : Type*} [DecidableEq α]

/-- One more of a name. -/
def bump (counts : List (α × ℕ)) (name : α) : List (α × ℕ) :=
  if name ∈ counts.map Prod.fst then
    counts.map fun entry => if entry.1 = name then (name, entry.2 + 1) else entry
  else counts ++ [(name, 1)]

def tally (names : List α) : List (α × ℕ) := names.foldl bump []

/-- Every name once, in the order of the first occurrences, with its count. -/
def nameCounts (names : List α) : List (α × ℕ) :=
  names.eraseDups.map fun name => (name, names.count name)

/-- The `n` most common names; of two with the same count the one that came first. -/
def mostCommon (n : ℕ) (counts : List (α × ℕ)) : List (α × ℕ) :=
  (youngestFirst Prod.snd counts).take n

theorem eraseDups_append_singleton (names : List α) (name : α) :
    (names ++ [name]).eraseDups =
      if name ∈ names then names.eraseDups else names.eraseDups ++ [name] := by
  rw [List.eraseDups_append]
  by_cases h : name ∈ names
  · simp [List.removeAll, h]
  · simp [List.removeAll, h, List.eraseDups_cons]

theorem tally_append_singleton (names : List α) (name : α) :
    tally (names ++ [name]) = bump (tally names) name := by
  simp [tally]

/-- Counting one by one gives the counts. -/
theorem tally_eq (names : List α) : tally names = nameCounts names := by
  unfold nameCounts
  induction names using List.reverseRecOn with
  | nil => rfl
  | append_singleton names name ih =>
      have hkeys : (tally names).map Prod.fst = names.eraseDups := by
        rw [ih, List.map_map]
        exact List.map_id _
      rw [tally_append_singleton, bump, hkeys, eraseDups_append_singleton]
      by_cases h : name ∈ names
      · rw [if_pos (List.mem_eraseDups.mpr h), if_pos h, ih, List.map_map]
        apply List.map_congr_left
        intro other _
        by_cases heq : other = name
        · subst heq
          simp
        · simp [heq, Ne.symm heq]
      · rw [if_neg (List.mem_eraseDups.not.mpr h), if_neg h, ih, List.map_append]
        congr 1
        · apply List.map_congr_left
          intro other hother
          have hne : name ≠ other := by
            rintro rfl
            exact h (List.mem_eraseDups.mp hother)
          simp [hne]
        · simp [List.count_eq_zero.mpr h]

end Coding
