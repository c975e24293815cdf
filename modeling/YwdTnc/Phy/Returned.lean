import YwdTnc.Phy.Hearing

/-!
# Whatever the decoder returns is a frame

A candidate is handed over only if it parses, and the occurrences add nothing to it, so that every
frame of every call of `feed` parses (`returned_parses`). The decoder takes any chunk at any time
(`exists_feed`).
-/

namespace YwdTnc

open Coding

/-- A frame with a valid FCS that `parse_frame` takes. -/
def StreamingFrame.Parses (item : StreamingFrame) : Prop :=
  ∃ parsed, parseFrame item.frame true = .ok parsed

namespace Receiver

theorem candidate_parses {afterFlag : List Bool} {frame : Bytes}
    (h : candidate afterFlag = some frame) : ∃ parsed, parseFrame frame true = .ok parsed := by
  unfold candidate at h
  dsimp only at h
  generalize (if 8 ≤ afterFlag.length then afterFlag.take (afterFlag.length - 8) else []) = stuffed
    at h
  split at h
  · cases h
  · split at h
    · split at h
      case h_1 parsed hparsed =>
        cases h
        exact ⟨parsed, hparsed⟩
      case h_2 => cases h
    · cases h

theorem finishFlag_parses {r : Receiver} (h : ∀ item ∈ r.handed, item.Parses) (bitSample : ℤ) :
    ∀ item ∈ (r.finishFlag bitSample).handed, item.Parses := by
  intro item hitem
  unfold finishFlag at hitem
  dsimp only at hitem
  refine (List.mem_append.mp hitem).elim (h item) fun hnew => ?_
  split at hnew
  · split at hnew
    case h_1 frame hcandidate =>
      rw [List.mem_singleton.mp hnew]
      exact candidate_parses hcandidate
    case h_2 => cases hnew
  · cases hnew

theorem classify_parses {r : Receiver} (h : ∀ item ∈ r.handed, item.Parses) (selector : Bool) :
    ∀ item ∈ (r.classify selector).handed, item.Parses := by
  unfold classify
  generalize bitOfSelector r.hyp.previousSelector selector = bit
  generalize max 0 (pyRound r.hyp.nextSymbolEnd - 1) = bitSample
  obtain ⟨-, -, -, hsame⟩ := bufferBit_frame ((r.select selector).shiftBit bit) bit
  have hbuffered : ∀ item ∈ (((r.select selector).shiftBit bit).bufferBit bit).handed,
      item.Parses := by
    rw [hsame]
    exact h
  unfold emitBit advance
  dsimp only
  split
  · exact finishFlag_parses hbuffered bitSample
  · exact hbuffered

end Receiver

/-- A candidate is reported or not. -/
theorem Occurrences.acceptFrame_parses {item : StreamingFrame}
    {s : Occurrences × List StreamingFrame} (hitem : item.Parses)
    (h : ∀ item ∈ s.2, item.Parses) : ∀ item' ∈ (acceptFrame item s).2, item'.Parses := by
  unfold acceptFrame
  split
  · intro item' hitem'
    refine (List.mem_append.mp hitem').elim (h item') fun hnew => ?_
    rwa [List.mem_singleton.mp hnew]
  · dsimp only
    split
    · split <;> exact h
    · exact h

theorem Reception.classify_parses {n : ℕ} {r : Reception n} (h : ∀ item ∈ r.fresh, item.Parses)
    (order : Fin n) (sampleCount : ℤ) (norm : ℚ) (zc : ℤ) :
    ∀ item ∈ (r.classify order sampleCount norm zc).fresh, item.Parses := by
  have hhanded : ∀ item ∈ ((r.receiver order).classify (selectorOf norm zc)).handed, item.Parses :=
    Receiver.classify_parses (List.forall_mem_nil StreamingFrame.Parses) _
  change ∀ item ∈ (r.classify order sampleCount norm zc).found.2, item.Parses
  rw [classify_found]
  generalize ((r.receiver order).classify (selectorOf norm zc)).handed = items at hhanded
  have hbegun : ∀ item ∈ r.found.2, item.Parses := h
  generalize r.found = s at hbegun
  induction items generalizing s with
  | nil => exact hbegun
  | cons item items ih =>
      exact ih (fun item' hitem' => hhanded item' (List.mem_cons_of_mem item hitem')) _
        (Occurrences.acceptFrame_parses (hhanded item List.mem_cons_self) hbegun)

namespace PlainDecoder

variable {n : ℕ} (metricTable : BitVec CORR_WINDOW → ℚ)

theorem feedSamples_parses {p : PlainDecoder n} (h : ∀ item ∈ p.reception.fresh, item.Parses)
    (samples : List Bool) :
    ∀ item ∈ (p.feedSamples metricTable samples).reception.fresh, item.Parses := by
  induction samples generalizing p with
  | nil => exact h
  | cons raw samples ih =>
      refine ih ?_
      exact DueQueue.scanTasks_keeps
        (P := fun r : Reception n => ∀ item ∈ r.fresh, item.Parses)
        (fun r order _ h => Reception.classify_parses h order _ _ _) h

theorem feedCalls_parses (p : PlainDecoder n) (calls : List Bytes) :
    ∀ item ∈ (p.feedCalls metricTable calls).1.flatten, item.Parses := by
  induction calls generalizing p with
  | nil => exact List.forall_mem_nil _
  | cons packed calls ih =>
      intro item hitem
      change item ∈ (p.feed metricTable packed).1 ++
        ((p.feed metricTable packed).2.feedCalls metricTable calls).1.flatten at hitem
      refine (List.mem_append.mp hitem).elim (fun hfirst => ?_) (ih _ item)
      have hbegun : ∀ item ∈ ({ p with reception := { p.reception with fresh := [] } } :
          PlainDecoder n).reception.fresh, item.Parses := List.forall_mem_nil _
      exact feedSamples_parses metricTable hbegun _ item (List.mem_mergeSort.mp hfirst)

end PlainDecoder

namespace StreamingBell202Decoder

variable (metricTable : BitVec CORR_WINDOW → ℚ) {fuel : ℕ}

/-- Whatever the decoder of the runtime is fed, it takes it, and what it returns parses. -/
theorem returned_parses (hfuel : 144 < fuel) (calls : List Bytes) :
    ∃ returned d, (ofBank (Hypothesis.bank DEFAULT_BAUDS DEFAULT_PHASES)).feedCalls metricTable fuel
        calls = some (returned, d) ∧
      ∀ item ∈ returned.flatten, item.Parses := by
  obtain ⟨d₀, d, hinit, hfed⟩ := feedCalls_eq_plain period_default phase_default
    (by simp [DEFAULT_BAUDS]) (by simp [DEFAULT_PHASES])
    (show DEFAULT_BAUDS.length * DEFAULT_PHASES.length < fuel by
      simpa [DEFAULT_BAUDS, DEFAULT_PHASES] using hfuel) metricTable calls
  cases init_default.symm.trans hinit
  exact ⟨_, d, hfed, PlainDecoder.feedCalls_parses metricTable _ calls⟩

theorem feedCalls_concat {n : ℕ} {calls : List Bytes} (packed : Bytes) :
    ∀ {d d₁ : StreamingBell202Decoder n} {returned : List (List StreamingFrame)},
      d.feedCalls metricTable fuel calls = some (returned, d₁) →
      d.feedCalls metricTable fuel (calls ++ [packed]) =
        (d₁.feed metricTable fuel packed).map fun fed => (returned ++ [fed.1], fed.2) := by
  induction calls with
  | nil =>
      intro d d₁ returned h
      cases h
      cases hfed : d.feed metricTable fuel packed with
      | none => simp [feedCalls, hfed]
      | some fed => simp [feedCalls, hfed]
  | cons first calls ih =>
      intro d d₁ returned h
      simp only [feedCalls, Option.bind_eq_bind, Option.bind_eq_some_iff, Option.pure_def,
        Option.some.injEq] at h
      obtain ⟨⟨frames, d'⟩, hfirst, ⟨rest, d₂⟩, hrest, heq⟩ := h
      cases heq
      cases hfed : d₂.feed metricTable fuel packed with
      | none => simp [feedCalls, hfirst, ih hrest, hfed]
      | some fed => simp [feedCalls, hfirst, ih hrest, hfed]

/-- The next chunk of a decoder in use. -/
theorem exists_feed (hfuel : 144 < fuel) {calls : List Bytes}
    {returned : List (List StreamingFrame)}
    {d : StreamingBell202Decoder (Hypothesis.bank DEFAULT_BAUDS DEFAULT_PHASES).length}
    (h : (ofBank (Hypothesis.bank DEFAULT_BAUDS DEFAULT_PHASES)).feedCalls metricTable fuel calls =
      some (returned, d)) (packed : Bytes) :
    ∃ fresh d', d.feed metricTable fuel packed = some (fresh, d') ∧
      ∀ item ∈ fresh, item.Parses := by
  obtain ⟨all, last, hall, hparses⟩ := returned_parses metricTable hfuel (calls ++ [packed])
  rw [feedCalls_concat metricTable packed h, Option.map_eq_some_iff] at hall
  obtain ⟨⟨fresh, d'⟩, hfed, heq⟩ := hall
  cases heq
  refine ⟨fresh, d', hfed, fun item hitem => hparses item ?_⟩
  rw [List.flatten_append, List.flatten_singleton]
  exact List.mem_append_right _ hitem

end StreamingBell202Decoder

end YwdTnc
