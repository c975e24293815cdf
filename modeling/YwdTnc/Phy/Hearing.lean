import YwdTnc.Phy.Loopback
import YwdTnc.Phy.StreamingRefinement

/-!
# What one hypothesis hears

The hypotheses of the streaming decoder share its counters and its occurrences, but the bits
that one of them reads depend on the samples only. A hypothesis of 16 samples a symbol takes its
decisions on consecutive blocks of the samples (`heard`), whatever the other hypotheses decide
(`Hears`), and what it hands over is among the frames that the calls of `feed` return
(`reports_handed`).
-/

namespace YwdTnc

open Coding

/-! ### A receiver on its own -/

namespace Receiver

theorem bufferBit_congr {r r' : Receiver} (h : r.hyp = r'.hyp) (bit : Bool) :
    (r.bufferBit bit).hyp = (r'.bufferBit bit).hyp := by
  unfold bufferBit
  rw [h]
  cases hbuffer : r'.hyp.afterFlag with
  | none => exact h
  | some buffer =>
      dsimp only
      by_cases hlong : MAX_STUFFED_BITS < (buffer ++ [bit]).length
      · rw [if_pos hlong, if_pos hlong]
      · rw [if_neg hlong, if_neg hlong]

theorem finishFlag_congr {r r' : Receiver} (h : r.hyp = r'.hyp) (bitSample : ℤ) :
    (r.finishFlag bitSample).hyp = (r'.finishFlag bitSample).hyp ∧
      ∃ items, (r.finishFlag bitSample).handed = r.handed ++ items ∧
        (r'.finishFlag bitSample).handed = r'.handed ++ items := by
  unfold finishFlag
  rw [h]
  exact ⟨rfl, _, rfl, rfl⟩

/-- What a decision makes of a hypothesis, and what is handed over, depends on it alone. -/
theorem classify_congr {r r' : Receiver} (h : r.hyp = r'.hyp) (selector : Bool) :
    (r.classify selector).hyp = (r'.classify selector).hyp ∧
      ∃ items, (r.classify selector).handed = r.handed ++ items ∧
        (r'.classify selector).handed = r'.handed ++ items := by
  unfold classify
  rw [h]
  generalize bitOfSelector r'.hyp.previousSelector selector = bit
  generalize max 0 (pyRound r'.hyp.nextSymbolEnd - 1) = bitSample
  have hshifted : ((r.select selector).shiftBit bit).hyp =
      ((r'.select selector).shiftBit bit).hyp := by
    unfold select shiftBit
    rw [h]
  have hbuffered := bufferBit_congr hshifted bit
  obtain ⟨hfinish, items, hitems, hitems'⟩ := finishFlag_congr hbuffered bitSample
  obtain ⟨-, -, -, hsame⟩ := bufferBit_frame ((r.select selector).shiftBit bit) bit
  obtain ⟨-, -, -, hsame'⟩ := bufferBit_frame ((r'.select selector).shiftBit bit) bit
  rw [hsame] at hitems
  rw [hsame'] at hitems'
  unfold emitBit advance
  dsimp only
  rw [hbuffered]
  split
  · exact ⟨by rw [hfinish], items, hitems, hitems'⟩
  · refine ⟨by rw [hbuffered], [], ?_, ?_⟩
    · rw [List.append_nil]
      exact hsame
    · rw [List.append_nil]
      exact hsame'

/-- What has been handed over stays so. -/
theorem handed_feedSelectors (r : Receiver) (selectors : List Bool) :
    r.handed <+: (r.feedSelectors selectors).handed := by
  induction selectors generalizing r with
  | nil => exact List.prefix_refl _
  | cons selector selectors ih =>
      obtain ⟨-, items, hitems, -⟩ := classify_congr (r := r) rfl selector
      have hfirst : r.handed <+: (r.classify selector).handed := by
        rw [hitems]
        exact List.prefix_append _ _
      exact hfirst.trans (ih (r.classify selector))

/-- From any state, the symbols of a burst hand its frame over. -/
theorem feedSelectors_hands (r : Receiver) {frame : Bytes} {parsed : ParsedFrame}
    {preFlags postFlags : ℕ} {initialTone : Bool} {selectors : List Bool}
    (hselectors : frameToSelectors frame preFlags postFlags initialTone = .ok selectors)
    (hlen : 17 ≤ frame.length) (hparse : parseFrame frame true = .ok parsed)
    (hbody : (stuffBits (byteBitsLsb frame)).length + 8 ≤ MAX_STUFFED_BITS)
    (hpre : 2 ≤ preFlags) (hpost : 1 ≤ postFlags) :
    ∃ item ∈ (r.feedSelectors selectors).handed, item.frame = frame := by
  obtain ⟨pre, rfl⟩ := Nat.exists_eq_add_of_le hpre
  obtain ⟨post, rfl⟩ := Nat.exists_eq_add_of_le hpost
  have hne : frame ≠ [] := by
    rintro rfl
    cases hlen
  rw [frameToSelectors_eq initialTone hne (by omega) (by omega)] at hselectors
  cases hselectors
  let stuffed := stuffBits (byteBitsLsb frame)
  let flags (n : ℕ) := (List.replicate n flagBits).flatten
  -- two flags to come into step, further flags, and the frame up to its closing flag
  have hsplit : flags (2 + pre) ++ stuffed ++ flags (1 + post) =
      (flagBits ++ flagBits) ++ (flags pre ++ ((stuffed ++ flagBits) ++ flags post)) := by
    simp only [flags, List.replicate_add, List.flatten_append, List.append_assoc]
    rfl
  have htone : lastTone initialTone (flagBits ++ flagBits) = initialTone := by
    cases initialTone <;> rfl
  obtain ⟨hopening, -⟩ := (sync_two r initialTone).flags pre
  obtain ⟨-, items, hitems, hframes⟩ := hopening.segment (byteBitsLsb frame) hbody
  rw [candidate_stuffBits hlen hparse, Option.toList_some,
    List.map_eq_singleton_iff] at hframes
  obtain ⟨item, rfl, hitem⟩ := hframes
  change ∃ item ∈ (r.feedSelectors (nrziEncode initialTone
    (flags (2 + pre) ++ stuffed ++ flags (1 + post)))).handed, item.frame = frame
  have hburst : nrziEncode initialTone (flags (2 + pre) ++ stuffed ++ flags (1 + post)) =
      nrziEncode initialTone (flagBits ++ flagBits) ++ (nrziEncode initialTone (flags pre) ++
        (nrziEncode initialTone (stuffed ++ flagBits) ++
          nrziEncode (lastTone initialTone (stuffed ++ flagBits)) (flags post))) := by
    rw [hsplit, nrziEncode_append initialTone (flagBits ++ flagBits), htone,
      nrziEncode_append initialTone (flags pre), lastTone_flags,
      nrziEncode_append initialTone (stuffed ++ flagBits)]
  rw [hburst, feedSelectors_append, feedSelectors_append, feedSelectors_append]
  refine ⟨item, (handed_feedSelectors _ _).subset ?_, hitem⟩
  rw [hitems]
  exact List.mem_append_right _ (List.mem_singleton.mpr rfl)

end Receiver

/-! ### The occurrences -/

namespace Occurrences

/-- The contents that a decoder retains. -/
def contents (s : Occurrences) : List Bytes := s.occurrences.map (·.frame)

theorem frame_eq_of_sameOccurrence {left right : StreamingFrame}
    (h : sameOccurrence left right = true) : left.frame = right.frame := by
  rw [sameOccurrence, Bool.and_eq_true, beq_iff_eq] at h
  exact h.1

/-- A candidate whose content is new is reported; the contents are as before, with its own. -/
theorem acceptFrame_contents (item : StreamingFrame) (s : Occurrences × List StreamingFrame) :
    (∀ frame, frame ∈ (acceptFrame item s).1.contents ↔
      frame = item.frame ∨ frame ∈ s.1.contents) ∧
      s.2 <+: (acceptFrame item s).2 ∧
      (item.frame ∈ s.1.contents ∨ item ∈ (acceptFrame item s).2) := by
  unfold acceptFrame
  split
  case h_1 =>
    refine ⟨fun frame => ?_, List.prefix_append _ _,
      .inr (List.mem_append_right _ (List.mem_singleton.mpr rfl))⟩
    simp [contents, or_comm]
  case h_2 index hsome =>
    obtain ⟨hindex, hsame, -⟩ := List.findIdx?_eq_some_iff_getElem.mp hsome
    have hframe : s.1.occurrences[index].frame = item.frame :=
      frame_eq_of_sameOccurrence hsame
    have hmem : item.frame ∈ s.1.contents := by
      rw [← hframe]
      exact List.mem_map_of_mem (List.getElem_mem hindex)
    have hown : ∀ frame, frame ∈ s.1.contents ↔ frame = item.frame ∨ frame ∈ s.1.contents :=
      fun frame => ⟨.inr, fun h => h.elim (fun heq => heq ▸ hmem) id⟩
    rw [List.getElem?_eq_getElem hindex]
    dsimp only
    split
    · have hcontents : (s.1.occurrences.set index item).map (·.frame) = s.1.contents := by
        have hindex' : index < s.1.contents.length := by simpa [contents] using hindex
        rw [List.map_set, ← hframe, ← List.set_getElem_self hindex']
        simp [contents]
      refine ⟨fun frame => ?_, List.prefix_refl _, .inl hmem⟩
      rw [contents, hcontents]
      exact hown frame
    · exact ⟨hown, List.prefix_refl _, .inl hmem⟩

/-- Every content retained has been reported, before the call or in it. -/
def Covered (reported : List Bytes) (s : Occurrences × List StreamingFrame) : Prop :=
  ∀ frame ∈ s.1.contents, frame ∈ reported ∨ frame ∈ s.2.map (·.frame)

theorem Covered.acceptFrame {reported : List Bytes} {s : Occurrences × List StreamingFrame}
    (h : Covered reported s) (item : StreamingFrame) :
    Covered reported (Occurrences.acceptFrame item s) := by
  obtain ⟨hcontents, hfresh, hitem⟩ := acceptFrame_contents item s
  have hold : ∀ frame ∈ s.1.contents, frame ∈ reported ∨
      frame ∈ (Occurrences.acceptFrame item s).2.map (·.frame) := fun frame hframe =>
    (h frame hframe).imp_right fun hmem => (hfresh.map _).subset hmem
  intro frame hframe
  rcases (hcontents frame).mp hframe with rfl | hmem
  · exact hitem.elim (hold _) fun hmem => .inr (List.mem_map_of_mem hmem)
  · exact hold frame hmem

/-- Candidates one after the other. -/
theorem foldl_acceptFrame (items : List StreamingFrame) (s : Occurrences × List StreamingFrame) :
    let s' := items.foldl (fun s item => Occurrences.acceptFrame item s) s
    (∀ frame, frame ∈ s.1.contents ∨ frame ∈ items.map (·.frame) → frame ∈ s'.1.contents) ∧
      ∀ reported, Covered reported s → Covered reported s' := by
  induction items generalizing s with
  | nil => exact ⟨fun frame h => h.resolve_right nofun, fun _ h => h⟩
  | cons item items ih =>
      obtain ⟨hcontents, hcovered⟩ := ih (Occurrences.acceptFrame item s)
      obtain ⟨hitem, -, -⟩ := acceptFrame_contents item s
      refine ⟨fun frame h => hcontents frame ?_, fun reported h =>
        hcovered reported (h.acceptFrame item)⟩
      rw [hitem frame, List.map_cons, List.mem_cons] at *
      exact h.elim (fun h => .inl (.inr h)) fun h => h.elim (fun h => .inl (.inl h)) .inr

end Occurrences

/-! ### One hypothesis of the bank -/

namespace Reception

variable {n : ℕ} {r : Reception n} {order order' : Fin n} {receiver : Receiver}

/-- The hypothesis has gone the way of a receiver on its own, and what that one has handed over
is retained. -/
structure Hears (r : Reception n) (order : Fin n) (receiver : Receiver) : Prop where
  hyp : r.hypothesis order = receiver.hyp
  known : ∀ item ∈ receiver.handed, item.frame ∈ r.accepted.contents

/-- The frames retained and those that the call is going to return. -/
def found (r : Reception n) : Occurrences × List StreamingFrame := (r.accepted, r.fresh)

theorem classify_found (r : Reception n) (order : Fin n) (sampleCount : ℤ) (norm : ℚ) (zc : ℤ) :
    (r.classify order sampleCount norm zc).found =
      ((r.receiver order).classify (selectorOf norm zc)).handed.foldl
        (fun s item => Occurrences.acceptFrame item s) r.found := rfl

/-- No decision takes a content away, and it reports what it adds. -/
theorem classify_contents (r : Reception n) (order : Fin n) (sampleCount : ℤ) (norm : ℚ) (zc : ℤ) :
    (∀ frame ∈ r.accepted.contents,
        frame ∈ (r.classify order sampleCount norm zc).accepted.contents) ∧
      ∀ reported, Occurrences.Covered reported r.found →
        Occurrences.Covered reported (r.classify order sampleCount norm zc).found := by
  obtain ⟨hcontents, hcovered⟩ := Occurrences.foldl_acceptFrame
    ((r.receiver order).classify (selectorOf norm zc)).handed r.found
  rw [← classify_found r order sampleCount norm zc] at hcontents hcovered
  exact ⟨fun frame hframe => hcontents frame (.inl hframe), hcovered⟩

theorem Hears.classify_other (h : Hears r order receiver) (hne : order' ≠ order)
    (sampleCount : ℤ) (norm : ℚ) (zc : ℤ) :
    Hears (r.classify order' sampleCount norm zc) order receiver where
  hyp := (Reception.classify_other (r := r) hne.symm sampleCount norm zc).1.trans h.hyp
  known item hitem :=
    (classify_contents r order' sampleCount norm zc).1 item.frame (h.known item hitem)

theorem Hears.classify_self (h : Hears r order receiver) (sampleCount : ℤ) (norm : ℚ) (zc : ℤ) :
    Hears (r.classify order sampleCount norm zc) order
      (receiver.classify (selectorOf norm zc)) := by
  have hown : (r.receiver order).hyp = receiver.hyp := h.hyp
  obtain ⟨hhyp, items, hitems, hitems'⟩ := Receiver.classify_congr hown (selectorOf norm zc)
  obtain ⟨hcontents, -⟩ := Occurrences.foldl_acceptFrame
    ((r.receiver order).classify (selectorOf norm zc)).handed r.found
  rw [← classify_found r order sampleCount norm zc] at hcontents
  refine ⟨(Vector.getElem_set_self order.isLt).trans hhyp, fun item hitem => ?_⟩
  rw [hitems'] at hitem
  rcases List.mem_append.mp hitem with hold | hnew
  · exact hcontents item.frame (.inl (h.known item hold))
  · refine hcontents item.frame (.inr (List.mem_map_of_mem ?_))
    rw [hitems]
    exact List.mem_append_right _ hnew

end Reception

namespace PlainDecoder

variable {n : ℕ} {metricTable : BitVec CORR_WINDOW → ℚ} {samples : List Bool} {r : Reception n}
  {order : Fin n} {receiver : Receiver}

/-- The decision of a receiver at the last sample, if its symbol has ended. -/
def listen (metricTable : BitVec CORR_WINDOW → ℚ) (samples : List Bool) (receiver : Receiver) :
    Receiver :=
  if receiver.hyp.symbolEnd ≤ samples.length then
    receiver.classify (selectorOf (metricTable (windowAt samples receiver.hyp.centered))
      (transitions (slice samples receiver.hyp.boundary receiver.hyp.symbolEnd)))
  else receiver

theorem hears_scanHypotheses (h : r.Hears order receiver) :
    (scanHypotheses metricTable samples r).Hears order
      (listen metricTable samples receiver) := by
  rw [scanHypotheses_eq_scan]
  refine DueQueue.scan_task order (P := fun r => Reception.Hears r order receiver)
    (Q := fun r => Reception.Hears r order (listen metricTable samples receiver))
    (fun r other hne h => h.classify_other hne _ _ _)
    (fun r other hne h => h.classify_other hne _ _ _) (fun r h => ?_) h
  rw [listen, ← h.hyp]
  split
  · exact h.classify_self _ _ _
  · exact h

theorem covered_scanHypotheses {reported : List Bytes}
    (h : Occurrences.Covered reported r.found) :
    Occurrences.Covered reported (scanHypotheses metricTable samples r).found :=
  DueQueue.scanTasks_keeps (P := fun r : Reception n => Occurrences.Covered reported r.found)
    (fun r order _ h => (r.classify_contents order _ _ _).2 reported h) h

end PlainDecoder

/-! ### Symbols of 16 samples -/

theorem pyRound_intCast (x : ℤ) : pyRound x = x := by
  simp [pyRound]

namespace Hypothesis

/-- A hypothesis of 16 samples a symbol, from the sample `offset` on, that has decided `m`
symbols. -/
structure Steady (offset m : ℕ) (hyp : Hypothesis) : Prop where
  period : hyp.period = 16
  nextSymbolEnd : hyp.nextSymbolEnd = offset + 16 * (m + 1)

variable {offset m : ℕ} {hyp : Hypothesis}

theorem Steady.symbolEnd (h : hyp.Steady offset m) :
    hyp.symbolEnd = offset + 16 * (m + 1) := by
  rw [Hypothesis.symbolEnd, h.nextSymbolEnd]
  exact_mod_cast pyRound_intCast (offset + 16 * (m + 1))

theorem Steady.boundary (h : hyp.Steady offset m) : hyp.boundary = offset + 16 * m := by
  have hstart : (offset : ℚ) + 16 * (m + 1) - 16 = offset + 16 * m := by ring
  rw [Hypothesis.boundary, h.nextSymbolEnd, h.period, hstart]
  exact_mod_cast pyRound_intCast (offset + 16 * m)

theorem Steady.centered (h : hyp.Steady offset m) : hyp.centered = offset + 16 * m + 2 := by
  have hstart : ((offset + 16 * m : ℤ) : ℚ) + (16 - CORR_WINDOW) * (1 / 2) =
      ((offset + 16 * m + 2 : ℤ) : ℚ) := by
    have hwindow : (CORR_WINDOW : ℚ) = 12 := rfl
    rw [hwindow]
    push_cast
    ring
  rw [Hypothesis.centered, h.boundary, h.period, hstart, pyRound_intCast]

theorem Steady.classify {receiver : Receiver} (h : receiver.hyp.Steady offset m)
    (selector : Bool) : (receiver.classify selector).hyp.Steady offset (m + 1) := by
  obtain ⟨hend, hperiod⟩ := receiver.classify_timing selector
  refine ⟨hperiod.trans h.period, ?_⟩
  rw [hend, h.nextSymbolEnd, h.period]
  push_cast
  ring

theorem Steady.feedSelectors {receiver : Receiver} (h : receiver.hyp.Steady offset m)
    (selectors : List Bool) :
    (receiver.feedSelectors selectors).hyp.Steady offset (m + selectors.length) := by
  induction selectors generalizing receiver m with
  | nil => exact h
  | cons selector selectors ih =>
      have hrest := ih (h.classify selector)
      rwa [Nat.add_assoc, Nat.add_comm 1, ← List.length_cons] at hrest

end Hypothesis

/-- The decision on the samples of a symbol: the window is that of the twelve in the middle. -/
def symbolOf (metricTable : BitVec CORR_WINDOW → ℚ) (block : List Bool) : Bool :=
  selectorOf (metricTable (((block.drop 2).take CORR_WINDOW).foldl slide 0)) (transitions block)

/-- The block of the symbol `j`. -/
def blockAt (offset : ℕ) (samples : List Bool) (j : ℕ) : List Bool :=
  (samples.drop (offset + 16 * j)).take 16

/-- The first `m` decisions, on blocks of 16 samples from the sample `offset` on. -/
def heard (metricTable : BitVec CORR_WINDOW → ℚ) (offset : ℕ) (samples : List Bool) (m : ℕ) :
    List Bool :=
  (List.range m).map fun j => symbolOf metricTable (blockAt offset samples j)

/-- How many symbols have ended. -/
def ended (offset : ℕ) (samples : List Bool) : ℕ := (samples.length - offset) / 16

section Heard

variable {metricTable : BitVec CORR_WINDOW → ℚ} {offset m : ℕ} {samples : List Bool}

@[simp] theorem heard_length : (heard metricTable offset samples m).length = m := by
  simp [heard]

theorem blockAt_append {j : ℕ} (after : List Bool) (h : offset + 16 * (j + 1) ≤ samples.length) :
    blockAt offset (samples ++ after) j = blockAt offset samples j := by
  rw [blockAt, blockAt, List.drop_append_of_le_length (by omega),
    List.take_append_of_le_length (by rw [List.length_drop]; omega)]

/-- The decisions on what has ended stay as they are. -/
theorem heard_append (after : List Bool) (h : m = 0 ∨ offset + 16 * m ≤ samples.length) :
    heard metricTable offset (samples ++ after) m = heard metricTable offset samples m := by
  refine List.map_congr_left fun j hj => ?_
  rw [List.mem_range] at hj
  rw [blockAt_append after (by omega)]

/-- The next symbol is decided when it ends. -/
theorem listen_of_ended {receiver : Receiver} (h : receiver.hyp.Steady offset m)
    (hend : samples.length = offset + 16 * (m + 1)) :
    PlainDecoder.listen metricTable samples receiver =
      receiver.classify (symbolOf metricTable (blockAt offset samples m)) := by
  have hdue : receiver.hyp.symbolEnd ≤ samples.length := by
    rw [h.symbolEnd, hend]
    push_cast
    exact le_refl _
  have hwindow : PlainDecoder.windowAt samples receiver.hyp.centered =
      (((blockAt offset samples m).drop 2).take CORR_WINDOW).foldl slide 0 := by
    have hstart : ((offset : ℤ) + 16 * m + 2).toNat = offset + 16 * m + 2 := by omega
    rw [PlainDecoder.windowAt, h.centered, hstart, blockAt, List.drop_take, List.drop_drop,
      List.take_take]
    rfl
  have hslice : PlainDecoder.slice samples receiver.hyp.boundary receiver.hyp.symbolEnd =
      blockAt offset samples m := by
    have hstart : ((offset : ℤ) + 16 * m).toNat = offset + 16 * m := by omega
    have hlength : ((offset : ℤ) + 16 * (m + 1) - (offset + 16 * m)).toNat = 16 := by omega
    rw [PlainDecoder.slice, h.boundary, h.symbolEnd, hstart, hlength, blockAt]
  rw [PlainDecoder.listen, if_pos hdue, hwindow, hslice, symbolOf]

/-- What comes behind the samples before, the blocks of a wave and the samples after it. -/
theorem heard_wave {before wave : List Bool} (after : List Bool) {past : ℕ} {selectors : List Bool}
    (hbefore : before.length = offset + 16 * past) (hwave : wave.length = 16 * selectors.length)
    (hsymbols : ∀ k (hk : k < selectors.length),
      symbolOf metricTable (blockAt 0 wave k) = selectors[k]) :
    ∃ noise rest, heard metricTable offset (before ++ wave ++ after)
      (ended offset (before ++ wave ++ after)) = noise ++ selectors ++ rest := by
  let samples := before ++ wave ++ after
  have hlength : samples.length = offset + 16 * past + 16 * selectors.length + after.length := by
    simp only [samples, List.length_append, hbefore, hwave]
  obtain ⟨further, hended⟩ : ∃ further, ended offset samples =
      past + selectors.length + further := by
    refine ⟨ended offset samples - (past + selectors.length), ?_⟩
    rw [ended, hlength]
    omega
  refine ⟨(List.range past).map fun j => symbolOf metricTable (blockAt offset samples j),
    (List.range further).map fun j =>
      symbolOf metricTable (blockAt offset samples (past + selectors.length + j)), ?_⟩
  change heard metricTable offset samples (ended offset samples) = _
  rw [hended, heard, List.range_add, List.range_add, List.map_append, List.map_append,
    List.map_map, List.map_map]
  congr 2
  refine List.ext_getElem (by simp) fun k hk hk' => ?_
  rw [List.getElem_map, List.getElem_range, Function.comp_apply, ← hsymbols k hk']
  congr 1
  rw [blockAt, blockAt, Nat.zero_add, Nat.mul_add, ← Nat.add_assoc, ← hbefore]
  change ((before ++ wave ++ after).drop _).take 16 = _
  rw [List.append_assoc, List.drop_append, Nat.add_sub_cancel_left,
    List.drop_eq_nil_of_le (Nat.le_add_right _ _), List.nil_append,
    List.drop_append_of_le_length (by omega),
    List.take_append_of_le_length (by rw [List.length_drop]; omega)]

end Heard

/-! ### The calls of `feed` -/

namespace PlainDecoder

variable {n : ℕ} {metricTable : BitVec CORR_WINDOW → ℚ} {offset : ℕ} {start : Receiver}
  {order : Fin n} {p : PlainDecoder n}

/-- The hypothesis `order` is where a receiver is that has decided the symbols so far. -/
def Tuned (metricTable : BitVec CORR_WINDOW → ℚ) (offset : ℕ) (start : Receiver) (order : Fin n)
    (p : PlainDecoder n) : Prop :=
  p.reception.Hears order
    (start.feedSelectors (heard metricTable offset p.samples (ended offset p.samples)))

theorem Tuned.feedSample (h : Tuned metricTable offset start order p)
    (hstart : start.hyp.Steady offset 0) (raw : Bool) :
    Tuned metricTable offset start order (p.feedSample metricTable raw) := by
  let m := ended offset p.samples
  let samples := p.samples ++ [raw]
  have hlength : samples.length = p.samples.length + 1 := by simp [samples]
  have hm : m = (p.samples.length - offset) / 16 := rfl
  have hsteady := hstart.feedSelectors (heard metricTable offset p.samples m)
  rw [heard_length, Nat.zero_add] at hsteady
  have hscan : (scanHypotheses metricTable samples p.reception).Hears order
      (listen metricTable samples (start.feedSelectors (heard metricTable offset p.samples m))) :=
    hears_scanHypotheses h
  have hsame : heard metricTable offset samples m = heard metricTable offset p.samples m :=
    heard_append [raw] (by omega)
  change (scanHypotheses metricTable samples p.reception).Hears order
    (start.feedSelectors (heard metricTable offset samples (ended offset samples)))
  by_cases hend : samples.length = offset + 16 * (m + 1)
  · have hnext : ended offset samples = m + 1 := by
      rw [ended, hend]
      omega
    rw [listen_of_ended hsteady hend] at hscan
    rw [hnext, heard, List.range_succ, List.map_append, Receiver.feedSelectors_append]
    change Reception.Hears _ order
      ((start.feedSelectors (heard metricTable offset samples m)).classify _)
    rw [hsame]
    exact hscan
  · have hnext : ended offset samples = m := by
      rw [ended]
      omega
    have hlater : ¬ (start.feedSelectors
        (heard metricTable offset p.samples m)).hyp.symbolEnd ≤ samples.length := by
      rw [hsteady.symbolEnd]
      omega
    rw [listen, if_neg hlater] at hscan
    rw [hnext, hsame]
    exact hscan

/-- What holds between two calls: what the decoder retains has been returned. -/
structure Reports (metricTable : BitVec CORR_WINDOW → ℚ) (offset : ℕ) (start : Receiver)
    (order : Fin n) (reported : List Bytes) (p : PlainDecoder n) : Prop where
  tuned : Tuned metricTable offset start order p
  covered : Occurrences.Covered reported p.reception.found

variable {reported : List Bytes}

theorem Reports.feedSamples (h : Reports metricTable offset start order reported p)
    (hstart : start.hyp.Steady offset 0) (samples : List Bool) :
    Reports metricTable offset start order reported (p.feedSamples metricTable samples) := by
  induction samples generalizing p with
  | nil => exact h
  | cons raw samples ih =>
      exact ih ⟨h.tuned.feedSample hstart raw, covered_scanHypotheses h.covered⟩

/-- A call that begins with everything returned ends so. -/
theorem Reports.feed (h : Reports metricTable offset start order reported p)
    (hstart : start.hyp.Steady offset 0)
    (hreported : ∀ frame ∈ p.reception.accepted.contents, frame ∈ reported) (packed : Bytes) :
    let (frames, p') := p.feed metricTable packed
    Reports metricTable offset start order (reported ++ frames.map (·.frame)) p' ∧
      ∀ frame ∈ p'.reception.accepted.contents, frame ∈ reported ++ frames.map (·.frame) := by
  have hcleared : Reports metricTable offset start order reported
      { p with reception := { p.reception with fresh := [] } } :=
    ⟨⟨h.tuned.hyp, h.tuned.known⟩, fun frame hframe => .inl (hreported frame hframe)⟩
  have hrun := hcleared.feedSamples hstart (packed.flatMap BYTE_BITS)
  unfold PlainDecoder.feed
  dsimp only
  generalize PlainDecoder.feedSamples metricTable
    { p with reception := { p.reception with fresh := [] } } (packed.flatMap BYTE_BITS) = p' at *
  have hall : ∀ frame ∈ p'.reception.accepted.contents, frame ∈ reported ++
      (p'.reception.fresh.mergeSort (fun a b => a.sampleStart ≤ b.sampleStart)).map
        (·.frame) := by
    intro frame hframe
    refine List.mem_append.mpr ((hrun.covered frame hframe).imp_right fun hfresh => ?_)
    obtain ⟨item, hitem, rfl⟩ := List.mem_map.mp hfresh
    exact List.mem_map_of_mem (List.mem_mergeSort.mpr hitem)
  exact ⟨⟨hrun.tuned, fun frame hframe => .inl (hall frame hframe)⟩, hall⟩

theorem Reports.feedCalls (hstart : start.hyp.Steady offset 0) (calls : List Bytes) :
    ∀ {reported : List Bytes} {p : PlainDecoder n},
      Reports metricTable offset start order reported p →
      (∀ frame ∈ p.reception.accepted.contents, frame ∈ reported) →
      let (returned, p') := p.feedCalls metricTable calls
      Tuned metricTable offset start order p' ∧
        p'.samples = p.samples ++ calls.flatten.flatMap BYTE_BITS ∧
        ∀ frame ∈ p'.reception.accepted.contents,
          frame ∈ reported ++ returned.flatten.map (·.frame) := by
  induction calls with
  | nil =>
      intro reported p h hreported
      refine ⟨h.tuned, (List.append_nil _).symm, fun frame hframe => ?_⟩
      exact List.mem_append_left _ (hreported frame hframe)
  | cons packed calls ih =>
      intro reported p h hreported
      obtain ⟨hnext, hnextReported⟩ := h.feed hstart hreported packed
      obtain ⟨htuned, hsamples, hall⟩ := ih hnext hnextReported
      have hfirst : (p.feed metricTable packed).2.samples =
          p.samples ++ packed.flatMap BYTE_BITS :=
        feedSamples_samples metricTable _ _
      refine ⟨htuned, hsamples.trans ?_, fun frame hframe => ?_⟩
      · rw [List.flatten_cons, List.flatMap_append, ← List.append_assoc]
        exact congrArg (· ++ calls.flatten.flatMap BYTE_BITS) hfirst
      · have hmem := hall frame hframe
        rw [List.append_assoc, ← List.map_append] at hmem
        exact hmem

/-- The hypothesis as it begins, on its own. -/
def alone (bank : List Hypothesis) (order : Fin bank.length) : Receiver :=
  (Reception.ofBank bank).receiver order

/-- Whatever a hypothesis of 16 samples a symbol hands over is returned by one of the calls. -/
theorem reports_handed {bank : List Hypothesis} {order : Fin bank.length}
    (hsteady : (alone bank order).hyp.Steady offset 0) (calls : List Bytes) {item : StreamingFrame}
    (hitem : item ∈ ((alone bank order).feedSelectors (heard metricTable offset
      (calls.flatten.flatMap BYTE_BITS) (ended offset (calls.flatten.flatMap BYTE_BITS)))).handed) :
    ∃ found ∈ ((ofBank bank).feedCalls metricTable calls).1.flatten,
      found.frame = item.frame := by
  have hnone : heard metricTable offset [] (ended offset []) = [] := by
    rw [ended, List.length_nil, Nat.zero_sub, Nat.zero_div]
    rfl
  have hinit : Reports metricTable offset (alone bank order) order [] (ofBank bank) := by
    refine ⟨?_, nofun⟩
    unfold Tuned
    change Reception.Hears _ order (Receiver.feedSelectors _
      (heard metricTable offset [] (ended offset [])))
    rw [hnone]
    exact ⟨rfl, nofun⟩
  obtain ⟨htuned, hsamples, hall⟩ := Reports.feedCalls hsteady calls hinit nofun
  have hknown := htuned.known item
  rw [hsamples] at hknown
  have hmem := hall item.frame (hknown hitem)
  rw [List.nil_append] at hmem
  exact List.mem_map.mp hmem

end PlainDecoder

namespace StreamingBell202Decoder

/-- The frozen bank has a hypothesis of 16 samples a symbol for every sample at which a symbol
can begin. -/
theorem exists_steady {offset : ℕ} (hoffset : offset < 16) :
    ∃ order, (PlainDecoder.alone (Hypothesis.bank DEFAULT_BAUDS DEFAULT_PHASES) order).hyp.Steady
      offset 0 := by
  have hbaud : (1200 : ℚ) ∈ DEFAULT_BAUDS :=
    List.mem_map.mpr ⟨1200, List.mem_range'_1.mpr ⟨by decide, by decide⟩, rfl⟩
  have hphase : (offset : ℚ) ∈ DEFAULT_PHASES :=
    List.mem_map.mpr ⟨offset, List.mem_range.mpr hoffset, rfl⟩
  have hperiod : SAMPLE_RATE / 1200 = 16 := by
    rw [SAMPLE_RATE]
    norm_num
  let hyp : Hypothesis :=
    { baud := 1200, phase := offset, period := SAMPLE_RATE / 1200,
      nextSymbolEnd := offset + SAMPLE_RATE / 1200, previousSelector := none, shift := 0,
      shiftCount := 0, afterFlag := none, openingDataSample := none, flagsSeen := 0 }
  have hmem : hyp ∈ Hypothesis.bank DEFAULT_BAUDS DEFAULT_PHASES :=
    List.mem_flatMap.mpr ⟨1200, hbaud, List.mem_map.mpr ⟨(offset : ℚ), hphase, rfl⟩⟩
  obtain ⟨order, horder⟩ := List.mem_iff_get.mp hmem
  refine ⟨order, ?_⟩
  change ((Hypothesis.bank DEFAULT_BAUDS DEFAULT_PHASES).get order).Steady offset 0
  rw [horder]
  constructor
  · exact hperiod
  · change (offset : ℚ) + SAMPLE_RATE / 1200 = offset + 16 * (0 + 1)
    rw [hperiod]
    norm_num

/-- The decoder that the arguments of the runtime make. -/
theorem init_default : init DEFAULT_BAUDS DEFAULT_PHASES =
    .ok (ofBank (Hypothesis.bank DEFAULT_BAUDS DEFAULT_PHASES)) :=
  init_ok (by simp [DEFAULT_BAUDS]) (by simp [DEFAULT_PHASES]) fun _ => baud_pos period_default

/-- The samples hold a wave whose blocks of 16 samples are decided as the symbols of a burst: in
whatever calls the decoder gets them, and whatever stands before and behind the wave, it returns
the frame. -/
theorem hears_wave (metricTable : BitVec CORR_WINDOW → ℚ) {calls : List Bytes}
    {before wave after : List Bool} {selectors : List Bool} {frame : Bytes} {parsed : ParsedFrame}
    {preFlags postFlags : ℕ} {initialTone : Bool} {fuel : ℕ}
    (hcalls : calls.flatten.flatMap BYTE_BITS = before ++ wave ++ after)
    (hwave : wave.length = 16 * selectors.length)
    (hsymbols : ∀ k (hk : k < selectors.length),
      symbolOf metricTable (blockAt 0 wave k) = selectors[k])
    (hselectors : frameToSelectors frame preFlags postFlags initialTone = .ok selectors)
    (hlen : 17 ≤ frame.length) (hparse : parseFrame frame true = .ok parsed)
    (hbody : (stuffBits (byteBitsLsb frame)).length + 8 ≤ MAX_STUFFED_BITS)
    (hpre : 2 ≤ preFlags) (hpost : 1 ≤ postFlags) (hfuel : 144 < fuel) :
    ∃ returned d', (ofBank (Hypothesis.bank DEFAULT_BAUDS DEFAULT_PHASES)).feedCalls metricTable
        fuel calls = some (returned, d') ∧
      ∃ found ∈ returned.flatten, found.frame = frame := by
  obtain ⟨order, hsteady⟩ := exists_steady (Nat.mod_lt before.length (by decide : 0 < 16))
  have hbefore : before.length = before.length % 16 + 16 * (before.length / 16) :=
    (Nat.mod_add_div _ _).symm
  obtain ⟨noise, rest, hheard⟩ := heard_wave after hbefore hwave hsymbols
  let receiver := PlainDecoder.alone (Hypothesis.bank DEFAULT_BAUDS DEFAULT_PHASES) order
  obtain ⟨item, hitem, hframe⟩ := (receiver.feedSelectors noise).feedSelectors_hands hselectors
    hlen hparse hbody hpre hpost
  have hhanded : item ∈ (receiver.feedSelectors (heard metricTable (before.length % 16)
      (calls.flatten.flatMap BYTE_BITS)
      (ended (before.length % 16) (calls.flatten.flatMap BYTE_BITS)))).handed := by
    rw [hcalls, hheard, Receiver.feedSelectors_append, Receiver.feedSelectors_append]
    exact (Receiver.handed_feedSelectors _ _).subset hitem
  obtain ⟨found, hfound, hfoundFrame⟩ := PlainDecoder.reports_handed hsteady calls hhanded
  have hband : ∀ hyp ∈ Hypothesis.bank DEFAULT_BAUDS DEFAULT_PHASES, hyp.InBand := fun hyp =>
    inBand_bank period_default phase_default
  have hcount : (Hypothesis.bank DEFAULT_BAUDS DEFAULT_PHASES).length < fuel := by
    rw [Hypothesis.length_bank]
    simpa [DEFAULT_BAUDS, DEFAULT_PHASES] using hfuel
  have hagrees : Agrees metricTable _ _ _ := agrees_ofBank hband
  obtain ⟨d', hrun, -⟩ :=
    hagrees.feedCalls (fun order => hband _ (List.getElem_mem order.isLt)) hcount calls
  exact ⟨_, d', hrun, found, hfound, hfoundFrame.trans hframe⟩

end StreamingBell202Decoder

end YwdTnc
