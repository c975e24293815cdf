import YwdTnc.Phy.Bell202Rx
import Mathlib.Algebra.Order.Group.Unbundled.Abs
import Mathlib.Algebra.Order.Group.Int
import Mathlib.Data.List.Nodup

/-!
# One report for each frame on the air

The hypotheses of the receiver find the same frame at slightly different
positions. `acceptFrame` keeps one occurrence for all candidates with one content
and nearby positions, and moves it to the earliest of them. If the positions fall
into groups that are far apart, each group is reported once, whatever the order in
which its candidates arrive; `Settled` is the invariant.
-/

namespace YwdTnc

/-- `int(round(0.050 * SAMPLE_RATE))`. -/
def OCCURRENCE_TOLERANCE_SAMPLES : ℤ := 960

/-- The occurrences that the decoder retains, and its two counters of candidates. -/
structure Occurrences where
  occurrences : List StreamingFrame
  validFrames : ℕ
  duplicates : ℕ

namespace Occurrences

def init : Occurrences := ⟨[], 0, 0⟩

/-- `_same_occurrence`. -/
def sameOccurrence (left right : StreamingFrame) : Bool :=
  left.frame == right.frame &&
    decide (|left.sampleStart - right.sampleStart| ≤ OCCURRENCE_TOLERANCE_SAMPLES)

/-- `_accept_frame`, on the decoder's occurrences and the list `fresh`. -/
def acceptFrame (item : StreamingFrame) (s : Occurrences × List StreamingFrame) :
    Occurrences × List StreamingFrame :=
  match s.1.occurrences.findIdx? (sameOccurrence · item) with
  | none =>
      ({ s.1 with
          occurrences := s.1.occurrences ++ [item]
          validFrames := s.1.validFrames + 1 }, s.2 ++ [item])
  | some index =>
      let duplicates := s.1.duplicates + 1
      match s.1.occurrences[index]? with
      | some existing =>
          -- prefer the earliest timestamp across timing hypotheses
          if item.sampleStart < existing.sampleStart then
            ({ s.1 with occurrences := s.1.occurrences.set index item, duplicates }, s.2)
          else ({ s.1 with duplicates }, s.2)
      | none => ({ s.1 with duplicates }, s.2)

/-- Candidates one after the other, to a decoder that has had none. -/
def acceptFrames (candidates : List StreamingFrame) : Occurrences × List StreamingFrame :=
  candidates.foldl (fun s item => acceptFrame item s) (init, [])

/-! ### Groups -/

variable {ι : Type*}

/-- The positions of the candidates with one content fall into groups: within a group
they are at most the tolerance apart, and more than it between two groups. -/
structure Grouped (group : Bytes → ℤ → ι) (candidates : List StreamingFrame) : Prop where
  diameter : ∀ x ∈ candidates, ∀ y ∈ candidates, x.frame = y.frame →
    group x.frame x.sampleStart = group y.frame y.sampleStart →
      |x.sampleStart - y.sampleStart| ≤ OCCURRENCE_TOLERANCE_SAMPLES
  apart : ∀ x ∈ candidates, ∀ y ∈ candidates, x.frame = y.frame →
    group x.frame x.sampleStart ≠ group y.frame y.sampleStart →
      OCCURRENCE_TOLERANCE_SAMPLES < |x.sampleStart - y.sampleStart|

/-- The content and the group of a candidate. -/
def key (group : Bytes → ℤ → ι) (item : StreamingFrame) : Bytes × ι :=
  (item.frame, group item.frame item.sampleStart)

variable {group : Bytes → ℤ → ι} {candidates : List StreamingFrame}

/-- Two candidates are the same occurrence when they have one content and group. -/
theorem Grouped.sameOccurrence_iff (h : Grouped group candidates) {x y : StreamingFrame}
    (hx : x ∈ candidates) (hy : y ∈ candidates) :
    sameOccurrence x y = true ↔ key group x = key group y := by
  simp only [sameOccurrence, Bool.and_eq_true, beq_iff_eq, decide_eq_true_iff, key, Prod.mk.injEq]
  refine and_congr_right fun hframe => ⟨fun hnear => ?_, fun hgroup => ?_⟩
  · by_contra hgroup
    exact absurd hnear (not_le.mpr (h.apart x hx y hy hframe hgroup))
  · exact h.diameter x hx y hy hframe hgroup

/-- What the decoder has made of the candidates `done`: the keys retained are the keys
reported, each of them once, and an occurrence is the earliest one of its key. -/
structure Settled (group : Bytes → ℤ → ι) (done : List StreamingFrame)
    (s : Occurrences × List StreamingFrame) : Prop where
  keys : s.1.occurrences.map (key group) = s.2.map (key group)
  nodup : (s.2.map (key group)).Nodup
  reported : ∀ item ∈ done, key group item ∈ s.2.map (key group)
  fresh : s.2.Sublist done
  retained : ∀ o ∈ s.1.occurrences, o ∈ done ∧
    ∀ item ∈ done, key group item = key group o → o.sampleStart ≤ item.sampleStart
  count : s.1.validFrames + s.1.duplicates = done.length

theorem settled_init : Settled group [] (init, []) where
  keys := rfl
  nodup := List.nodup_nil
  reported := nofun
  fresh := List.Sublist.refl _
  retained := nofun
  count := rfl

section Step

variable {done : List StreamingFrame} {s : Occurrences × List StreamingFrame}
  {item : StreamingFrame}

/-- A candidate with a new key is reported and retained. -/
theorem Settled.append (h : Settled group done s)
    (hnew : key group item ∉ s.2.map (key group)) :
    Settled group (done ++ [item])
      ({ s.1 with
          occurrences := s.1.occurrences ++ [item]
          validFrames := s.1.validFrames + 1 }, s.2 ++ [item]) where
  keys := by simp [h.keys]
  nodup := by
    rw [List.map_append, List.nodup_append]
    refine ⟨h.nodup, List.nodup_singleton _, ?_⟩
    rintro k hk k' hk' rfl
    rw [List.map_singleton, List.mem_singleton] at hk'
    rw [hk'] at hk
    exact hnew hk
  reported := by
    intro item' hitem'
    rw [List.map_append, List.mem_append]
    rcases List.mem_append.mp hitem' with hold | hlast
    · exact .inl (h.reported item' hold)
    · rw [List.mem_singleton.mp hlast]
      exact .inr (List.mem_singleton.mpr rfl)
  fresh := h.fresh.append (List.Sublist.refl _)
  retained := by
    intro o ho
    rcases List.mem_append.mp ho with hold | hlast
    · obtain ⟨hmem, hleast⟩ := h.retained o hold
      refine ⟨List.mem_append_left _ hmem, fun item' hitem' hkey => ?_⟩
      rcases List.mem_append.mp hitem' with hold' | hlast'
      · exact hleast item' hold' hkey
      · rw [List.mem_singleton.mp hlast'] at hkey
        rw [hkey, ← h.keys] at hnew
        exact absurd (List.mem_map_of_mem hold) hnew
    · rw [List.mem_singleton.mp hlast]
      refine ⟨List.mem_append_right _ (List.mem_singleton.mpr rfl), fun item' hitem' hkey => ?_⟩
      rcases List.mem_append.mp hitem' with hold' | hlast'
      · rw [← hkey] at hnew
        exact absurd (h.reported item' hold') hnew
      · rw [List.mem_singleton.mp hlast']
  count := by
    have hcount := h.count
    rw [List.length_append, List.length_singleton]
    dsimp only
    omega

/-- Replacing an occurrence by one with its key keeps the keys. -/
theorem map_key_set {occurrences : List StreamingFrame} {index : ℕ}
    (hindex : index < occurrences.length) {kept : StreamingFrame}
    (hkey : key group kept = key group occurrences[index]) :
    (occurrences.set index kept).map (key group) = occurrences.map (key group) := by
  have hindex' : index < (occurrences.map (key group)).length := by simpa using hindex
  have hget : key group kept = (occurrences.map (key group))[index] := by
    rw [List.getElem_map, hkey]
  rw [List.map_set, hget, List.set_getElem_self]

/-- No two occurrences have one key. -/
theorem Settled.index_inj (h : Settled group done s) {i j : ℕ}
    (hi : i < s.1.occurrences.length) (hj : j < s.1.occurrences.length)
    (hkey : key group s.1.occurrences[i] = key group s.1.occurrences[j]) : i = j := by
  have hnodup : (s.1.occurrences.map (key group)).Nodup := by
    rw [h.keys]
    exact h.nodup
  have hi' : i < (s.1.occurrences.map (key group)).length := by simpa using hi
  have hj' : j < (s.1.occurrences.map (key group)).length := by simpa using hj
  have heq : (s.1.occurrences.map (key group))[i] = (s.1.occurrences.map (key group))[j] := by
    rw [List.getElem_map, List.getElem_map, hkey]
  exact (List.Nodup.getElem_inj_iff hnodup).mp heq

/-- A candidate whose key is retained is a duplicate; the occurrence at `index` is
replaced by the earlier of the two. -/
theorem Settled.duplicate (h : Settled group done s) {index : ℕ}
    (hindex : index < s.1.occurrences.length)
    (hkey : key group s.1.occurrences[index] = key group item) {kept : StreamingFrame}
    (hkept : kept = s.1.occurrences[index] ∧
        s.1.occurrences[index].sampleStart ≤ item.sampleStart ∨
      kept = item ∧ item.sampleStart < s.1.occurrences[index].sampleStart) :
    Settled group (done ++ [item])
      ({ s.1 with
          occurrences := s.1.occurrences.set index kept
          duplicates := s.1.duplicates + 1 }, s.2) := by
  have hkeptKey : key group kept = key group s.1.occurrences[index] := by
    rcases hkept with ⟨rfl, -⟩ | ⟨rfl, -⟩
    · rfl
    · exact hkey.symm
  obtain ⟨hmem, hleast⟩ := h.retained _ (List.getElem_mem hindex)
  refine ⟨(map_key_set hindex hkeptKey).trans h.keys, h.nodup, ?_,
    h.fresh.trans (List.sublist_append_left _ _), ?_, ?_⟩
  · intro item' hitem'
    rcases List.mem_append.mp hitem' with hold | hlast
    · exact h.reported item' hold
    · rw [List.mem_singleton.mp hlast, ← hkey, ← h.keys]
      exact List.mem_map_of_mem (List.getElem_mem hindex)
  · intro o ho
    obtain ⟨i, hi, rfl⟩ := List.getElem_of_mem ho
    rw [List.length_set] at hi
    rw [List.getElem_set]
    split
    case isTrue heq =>
      subst heq
      refine ⟨?_, fun item' hitem' hsame => ?_⟩
      · rcases hkept with ⟨rfl, -⟩ | ⟨rfl, -⟩
        · exact List.mem_append_left _ hmem
        · exact List.mem_append_right _ (List.mem_singleton.mpr rfl)
      · rw [hkeptKey] at hsame
        rcases List.mem_append.mp hitem' with hold | hlast
        · have hle := hleast item' hold hsame
          rcases hkept with ⟨rfl, -⟩ | ⟨rfl, hlt⟩
          · exact hle
          · exact le_trans (le_of_lt hlt) hle
        · rw [List.mem_singleton.mp hlast]
          rcases hkept with ⟨rfl, hle⟩ | ⟨rfl, -⟩
          · exact hle
          · exact le_refl _
    case isFalse hne =>
      obtain ⟨hmem', hleast'⟩ := h.retained _ (List.getElem_mem hi)
      refine ⟨List.mem_append_left _ hmem', fun item' hitem' hsame => ?_⟩
      rcases List.mem_append.mp hitem' with hold | hlast
      · exact hleast' item' hold hsame
      · -- another occurrence has another key
        rw [List.mem_singleton.mp hlast, ← hkey] at hsame
        exact absurd (h.index_inj hindex hi hsame) hne
  · have hcount := h.count
    rw [List.length_append, List.length_singleton]
    dsimp only
    omega

theorem Settled.acceptFrame (hgrouped : Grouped group candidates) (h : Settled group done s)
    (hdone : ∀ x ∈ done, x ∈ candidates) (hitem : item ∈ candidates) :
    Settled group (done ++ [item]) (Occurrences.acceptFrame item s) := by
  have hretained : ∀ o ∈ s.1.occurrences, o ∈ candidates := fun o ho =>
    hdone o (h.retained o ho).1
  unfold Occurrences.acceptFrame
  split
  case h_1 hnone =>
    refine h.append fun hkey => ?_
    rw [← h.keys] at hkey
    obtain ⟨o, ho, hsame⟩ := List.mem_map.mp hkey
    rw [List.findIdx?_eq_none_iff] at hnone
    have hdiffers := hnone o ho
    rw [(hgrouped.sameOccurrence_iff (hretained o ho) hitem).mpr hsame] at hdiffers
    cases hdiffers
  case h_2 index hsome =>
    rw [List.findIdx?_eq_some_iff_getElem] at hsome
    obtain ⟨hindex, hsame, -⟩ := hsome
    have hkey := (hgrouped.sameOccurrence_iff (hretained _ (List.getElem_mem hindex)) hitem).mp
      hsame
    rw [List.getElem?_eq_getElem hindex]
    dsimp only
    split
    case isTrue hlt => exact h.duplicate hindex hkey (.inr ⟨rfl, hlt⟩)
    case isFalse hle =>
      have hsettled := h.duplicate hindex hkey (.inl ⟨rfl, not_lt.mp hle⟩)
      rwa [List.set_getElem_self] at hsettled

end Step

theorem settled_acceptFrames (h : Grouped group candidates) :
    Settled group candidates (acceptFrames candidates) := by
  have hrun : ∀ (rest done : List StreamingFrame) (s : Occurrences × List StreamingFrame),
      done ++ rest = candidates → Settled group done s →
      Settled group candidates (rest.foldl (fun s item => Occurrences.acceptFrame item s) s) := by
    intro rest
    induction rest with
    | nil =>
        intro done s hsplit hsettled
        rw [List.append_nil] at hsplit
        rw [← hsplit]
        exact hsettled
    | cons item rest ih =>
        intro done s hsplit hsettled
        have hnext : (done ++ [item]) ++ rest = candidates := by
          rw [← hsplit, List.append_assoc, List.singleton_append]
        refine ih _ _ hnext (hsettled.acceptFrame h ?_ ?_)
        · intro x hx
          rw [← hsplit]
          exact List.mem_append_left _ hx
        · rw [← hsplit]
          exact List.mem_append_right _ (List.mem_cons_self)
  exact hrun candidates [] _ rfl settled_init

/-- Each content and group is reported once and retained once, at its earliest
position, and every candidate is counted. -/
theorem acceptFrames_oncePerGroup [DecidableEq ι] (group : Bytes → ℤ → ι)
    (candidates : List StreamingFrame) (h : Grouped group candidates) :
    let s := acceptFrames candidates
    s.2.Sublist candidates ∧
      (∀ item ∈ candidates, (s.2.map (key group)).count (key group item) = 1) ∧
      (∀ item ∈ candidates, ∃ kept ∈ candidates,
        s.1.occurrences.filter (key group · = key group item) = [kept] ∧
        ∀ other ∈ candidates, key group other = key group item →
          kept.sampleStart ≤ other.sampleStart) ∧
      s.1.validFrames + s.1.duplicates = candidates.length := by
  intro s
  have hsettled : Settled group candidates s := settled_acceptFrames h
  have honce : ∀ item ∈ candidates, (s.2.map (key group)).count (key group item) = 1 :=
    fun item hitem => List.count_eq_one_of_mem hsettled.nodup (hsettled.reported item hitem)
  refine ⟨hsettled.fresh, honce, fun item hitem => ?_, hsettled.count⟩
  have hlength : (s.1.occurrences.filter (key group · = key group item)).length = 1 := by
    have hcount := honce item hitem
    rw [← hsettled.keys, List.count, List.countP_map, List.countP_eq_length_filter] at hcount
    rw [← hcount]
    congr 1
    refine List.filter_congr fun other _ => ?_
    rw [Function.comp_apply, Bool.eq_iff_iff, decide_eq_true_iff, beq_iff_eq]
  obtain ⟨kept, hkept⟩ := List.length_eq_one_iff.mp hlength
  have hmem : kept ∈ s.1.occurrences.filter (key group · = key group item) := by
    rw [hkept]
    exact List.mem_singleton.mpr rfl
  obtain ⟨hretained, hkey⟩ := List.mem_filter.mp hmem
  obtain ⟨hcandidate, hleast⟩ := hsettled.retained kept hretained
  refine ⟨kept, hcandidate, hkept, fun other hother hsame => hleast other hother ?_⟩
  rw [hsame]
  exact (of_decide_eq_true hkey).symm

/-- A frame found three times and sent again four seconds later. -/
def twoBursts : List StreamingFrame :=
  [{ frame := [0x41], sampleStart := 1000, sampleEnd := 1200, baud := 1200, phase := 3 },
    { frame := [0x41], sampleStart := 995, sampleEnd := 1195, baud := 1199, phase := 2 },
    { frame := [0x41], sampleStart := 77800, sampleEnd := 78000, baud := 1200, phase := 3 },
    { frame := [0x41], sampleStart := 1003, sampleEnd := 1203, baud := 1201, phase := 4 }]

theorem acceptFrames_oncePerGroup_twoBursts :
    let s := acceptFrames twoBursts
    s.2.Sublist twoBursts ∧ s.1.validFrames + s.1.duplicates = 4 :=
  let h : Grouped (fun _ start => decide (start < 2000)) twoBursts :=
    ⟨by simp [twoBursts, OCCURRENCE_TOLERANCE_SAMPLES],
      by simp [twoBursts, OCCURRENCE_TOLERANCE_SAMPLES]⟩
  let hgroups := acceptFrames_oncePerGroup _ twoBursts h
  ⟨hgroups.1, hgroups.2.2.2⟩

end Occurrences

end YwdTnc
