import Mathlib.Data.List.Nodup
import Mathlib.Data.List.Sort
import Mathlib.Order.Basic

/-!
# Sorting by a key

`youngestFirst key` sorts a list by a key, the greatest first, and keeps the order of those
with the same key. Of two distinct elements of a list without duplicates, one comes first;
`precedes_youngestFirst_iff` says which.
-/

namespace Coding

variable {α K : Type*} {l u v : List α} {a b : α}

/-! ### Order in a list -/

/-- `a` stands before `b` in the list. -/
def Precedes (l : List α) (a b : α) : Prop := [a, b].Sublist l

theorem precedes_cons {c : α} :
    Precedes (c :: l) a b ↔ Precedes l a b ∨ a = c ∧ b ∈ l := by
  unfold Precedes
  rw [List.sublist_cons_iff]
  simp

theorem precedes_or (ha : a ∈ l) (hb : b ∈ l) (hne : a ≠ b) : Precedes l a b ∨ Precedes l b a := by
  induction l with
  | nil => cases ha
  | cons c l ih =>
      simp only [precedes_cons]
      rcases List.mem_cons.mp ha with rfl | ha'
      · rcases List.mem_cons.mp hb with rfl | hb'
        · exact (hne rfl).elim
        · exact .inl (.inr ⟨rfl, hb'⟩)
      · rcases List.mem_cons.mp hb with rfl | hb'
        · exact .inr (.inr ⟨rfl, ha'⟩)
        · exact (ih ha' hb').imp .inl .inl

theorem Precedes.mem (h : Precedes l a b) : a ∈ l ∧ b ∈ l :=
  ⟨h.subset (by simp), h.subset (by simp)⟩

theorem Precedes.asymm (hl : l.Nodup) (h : Precedes l a b) : ¬ Precedes l b a := by
  induction l with
  | nil => cases h.mem.1
  | cons c l ih =>
      obtain ⟨hc, hl⟩ := List.nodup_cons.mp hl
      rw [precedes_cons]
      rcases precedes_cons.mp h with hab | ⟨rfl, hb⟩
      · rintro (h' | ⟨rfl, -⟩)
        · exact ih hl hab h'
        · exact hc hab.mem.2
      · rintro (h' | ⟨rfl, -⟩)
        · exact hc h'.mem.2
        · exact hc hb

/-- What stands before `b` is in front of every split at `b`. -/
theorem precedes_append_cons (hl : (u ++ b :: v).Nodup) :
    Precedes (u ++ b :: v) a b ↔ a ∈ u := by
  induction u with
  | nil =>
      rw [List.nil_append] at hl ⊢
      obtain ⟨hb, -⟩ := List.nodup_cons.mp hl
      simp only [precedes_cons, List.not_mem_nil, iff_false, not_or, not_and]
      exact ⟨fun h => hb h.mem.2, fun _ => hb⟩
  | cons c u ih =>
      obtain ⟨-, hl'⟩ := List.nodup_cons.mp hl
      rw [List.cons_append, precedes_cons, ih hl', List.mem_cons]
      simp [or_comm]

theorem precedes_of_mem (hb : b ∈ v) : Precedes (u ++ a :: v) a b :=
  ((List.singleton_sublist.mpr hb).cons_cons a).trans (List.sublist_append_right u (a :: v))

/-! ### The sort -/

variable [LinearOrder K] (key : α → K)

def youngestFirst (l : List α) : List α := l.mergeSort fun a b => decide (key b ≤ key a)

variable {key}

theorem mem_youngestFirst : a ∈ youngestFirst key l ↔ a ∈ l := List.mem_mergeSort

theorem nodup_youngestFirst (hl : l.Nodup) : (youngestFirst key l).Nodup :=
  (List.mergeSort_perm _ _).nodup_iff.mpr hl

theorem key_le_of_precedes (h : Precedes (youngestFirst key l) a b) : key b ≤ key a := by
  have hsorted : (youngestFirst key l).Pairwise fun a b => decide (key b ≤ key a) = true :=
    List.pairwise_mergeSort (by simpa using fun a b c hab hbc => le_trans hbc hab)
      (by simpa using fun a b => le_total (key b) (key a)) l
  have hpair := hsorted.sublist h
  simpa using hpair

theorem Precedes.youngestFirst (h : Precedes l a b) (hkey : key b ≤ key a) :
    Precedes (youngestFirst key l) a b :=
  List.pair_sublist_mergeSort (by simpa using fun a b c hab hbc => le_trans hbc hab)
    (by simpa using fun a b => le_total (key b) (key a)) (by simpa using hkey) h

/-- Of two elements the one with the greater key comes first, and of two with the same key
the one that came first before. -/
theorem precedes_youngestFirst_iff (hl : l.Nodup) (ha : a ∈ l) (hb : b ∈ l) (hne : a ≠ b) :
    Precedes (youngestFirst key l) a b ↔
      key b < key a ∨ key a = key b ∧ Precedes l a b := by
  constructor
  · intro h
    rcases (key_le_of_precedes h).lt_or_eq with hlt | heq
    · exact .inl hlt
    · refine .inr ⟨heq.symm, (precedes_or ha hb hne).resolve_right fun hba => ?_⟩
      exact h.asymm (nodup_youngestFirst hl) (hba.youngestFirst heq.ge)
  · rintro (hlt | ⟨heq, h⟩)
    · have hor := precedes_or (l := Coding.youngestFirst key l) (mem_youngestFirst.mpr ha)
        (mem_youngestFirst.mpr hb) hne
      exact hor.resolve_right fun hba => (key_le_of_precedes hba).not_gt hlt
    · exact h.youngestFirst heq.ge

end Coding
