import YwdTnc.Phy.Bell202Rx

/-!
# HDLC link loopback

A burst read back by one hypothesis of the receiver, whatever the hypothesis
was in the middle of. The second opening flag brings the register and the
buffer into step with the sender (`sync`); from there the buffer collects what
lies between two flags (`Reading.feed`), because only six ones in a row, which
stuffed data never has, can complete a flag.
-/

namespace YwdTnc

open Coding

namespace Receiver

/-- The register ends in exactly `k` ones behind a zero. -/
def onesTail (k : ℕ) (shift : BitVec 8) : Bool :=
  !shift.getLsbD k && (List.range k).all (shift.getLsbD ·)

theorem onesTail_shiftIn_false (shift : BitVec 8) :
    onesTail 0 (shiftIn shift false) = true := by
  revert shift
  decide

theorem onesTail_shiftIn_true {k : ℕ} (hk : k < 6) {shift : BitVec 8}
    (h : onesTail k shift = true) : onesTail (k + 1) (shiftIn shift true) = true := by
  revert k shift
  decide

theorem shiftIn_true_ne_FLAG (shift : BitVec 8) : shiftIn shift true ≠ FLAG := by
  revert shift
  decide

theorem shiftIn_false_ne_FLAG {k : ℕ} (hk : k < 6) {shift : BitVec 8}
    (h : onesTail k shift = true) : shiftIn shift false ≠ FLAG := by
  revert k shift
  decide

theorem shiftIn_false_eq_FLAG {shift : BitVec 8} (h : onesTail 6 shift = true) :
    shiftIn shift false = FLAG := by
  revert shift
  decide

/-- Eight flag bits fill the register, whatever it held. -/
theorem shiftIn_flagBits (shift : BitVec 8) :
    flagBits.foldl shiftIn shift = FLAG := by
  revert shift
  decide

/-- The receiver is in step with a sender that last sent `tone`: it holds
`buffer` since the opening flag, and the last `ones` bits were ones. -/
structure Reading (r : Receiver) (tone : Bool) (buffer : List Bool)
    (ones : ℕ) : Prop where
  previous : r.hyp.previousSelector = some tone
  full : 8 ≤ r.hyp.shiftCount
  afterFlag : r.hyp.afterFlag = some buffer
  opened : ∃ sample, r.hyp.openingDataSample = some sample
  tail : onesTail ones r.hyp.shift = true

/-- The tone that sends `bit` after `tone`. -/
def nextTone (tone bit : Bool) : Bool := if bit then tone else !tone

/-- The last tone of `nrziEncode tone bits`. -/
def lastTone (tone : Bool) (bits : List Bool) : Bool := bits.foldl nextTone tone

@[simp] theorem lastTone_cons (tone bit : Bool) (bits : List Bool) :
    lastTone tone (bit :: bits) = lastTone (nextTone tone bit) bits := rfl

theorem nrziEncode_cons (tone bit : Bool) (bits : List Bool) :
    nrziEncode tone (bit :: bits) =
      nextTone tone bit :: nrziEncode (nextTone tone bit) bits := rfl

theorem nrziEncode_append (tone : Bool) (xs ys : List Bool) :
    nrziEncode tone (xs ++ ys) =
      nrziEncode tone xs ++ nrziEncode (lastTone tone xs) ys := by
  induction xs generalizing tone with
  | nil => rfl
  | cons bit xs ih =>
      rw [List.cons_append, nrziEncode_cons, nrziEncode_cons, List.cons_append,
        lastTone_cons, ih]

theorem bitOfSelector_nextTone (tone bit : Bool) :
    bitOfSelector (some tone) (nextTone tone bit) = bit := by
  cases tone <;> cases bit <;> rfl

/-- A bit read in step, with fewer than six ones before it: it completes no
flag and joins the buffer. -/
theorem Reading.bit {r : Receiver} {tone : Bool} {buffer : List Bool} {ones : ℕ}
    (h : Reading r tone buffer ones) (bit : Bool) (hones : ones < 6)
    (hlen : buffer.length + 1 ≤ MAX_STUFFED_BITS) :
    Reading (r.classify (nextTone tone bit)) (nextTone tone bit)
        (buffer ++ [bit]) (onesAfter ones bit) ∧
      (r.classify (nextTone tone bit)).handed = r.handed := by
  have hbit : bitOfSelector r.hyp.previousSelector (nextTone tone bit) = bit := by
    rw [h.previous, bitOfSelector_nextTone]
  have hflag : shiftIn r.hyp.shift bit ≠ FLAG := by
    cases bit with
    | true => exact shiftIn_true_ne_FLAG _
    | false => exact shiftIn_false_ne_FLAG hones h.tail
  have htail : onesTail (onesAfter ones bit) (shiftIn r.hyp.shift bit) = true := by
    cases bit with
    | true => exact onesTail_shiftIn_true hones h.tail
    | false => exact onesTail_shiftIn_false _
  let before := ((r.select (nextTone tone bit)).shiftBit bit).bufferBit bit
  have hclassify : r.classify (nextTone tone bit) = before.advance := by
    rw [classify, hbit]
    exact congrArg advance (emitBit_of_ne_flag _ hflag)
  obtain ⟨hbuffer, hopened⟩ :=
    bufferBit_afterFlag (r := (r.select (nextTone tone bit)).shiftBit bit) bit
      h.afterFlag hlen
  obtain ⟨-, -, -, hhanded⟩ :=
    bufferBit_frame ((r.select (nextTone tone bit)).shiftBit bit) bit
  refine ⟨⟨classify_previousSelector _ _, ?_, ?_, ?_, ?_⟩, ?_⟩
  · have hcount := classify_shiftCount r (nextTone tone bit)
    have hfull := h.full
    omega
  · rw [hclassify]
    exact hbuffer
  · rw [hclassify]
    obtain ⟨sample, hsample⟩ := h.opened
    exact ⟨sample, hopened.trans hsample⟩
  · rw [classify_shift, hbit]
    exact htail
  · rw [hclassify]
    exact hhanded

/-- Every bit of the list has fewer than six ones before it. -/
def quiet : ℕ → List Bool → Prop
  | _, [] => True
  | ones, bit :: bits => ones < 6 ∧ quiet (onesAfter ones bit) bits

theorem Reading.feed {bits : List Bool} : ∀ {r : Receiver} {tone : Bool}
    {buffer : List Bool} {ones : ℕ}, Reading r tone buffer ones →
    quiet ones bits → buffer.length + bits.length ≤ MAX_STUFFED_BITS →
    Reading (r.feedSelectors (nrziEncode tone bits)) (lastTone tone bits)
        (buffer ++ bits) (bits.foldl onesAfter ones) ∧
      (r.feedSelectors (nrziEncode tone bits)).handed = r.handed := by
  induction bits with
  | nil =>
      intro r tone buffer ones h _ _
      rw [List.append_nil]
      exact ⟨h, rfl⟩
  | cons bit bits ih =>
      intro r tone buffer ones h hquiet hlen
      rw [List.length_cons] at hlen
      obtain ⟨hbit, hhanded⟩ := h.bit bit hquiet.1 (by omega)
      have hlen' : (buffer ++ [bit]).length + bits.length ≤ MAX_STUFFED_BITS := by
        rw [List.length_append, List.length_singleton]
        omega
      obtain ⟨hrest, hhanded'⟩ := ih hbit hquiet.2 hlen'
      rw [List.append_assoc, List.singleton_append] at hrest
      exact ⟨hrest, hhanded'.trans hhanded⟩

/-- A flag without its last bit. -/
def flagHead : List Bool := [false, true, true, true, true, true, true]

theorem flagBits_eq_flagHead : flagBits = flagHead ++ [false] := by
  decide

theorem quiet_flagHead {ones : ℕ} (hones : ones < 6) : quiet ones flagHead := by
  have hones' : quiet 0 flagHead.tail := by
    simp only [flagHead, List.tail_cons, quiet, onesAfter_true]
    decide
  exact ⟨hones, hones'⟩

/-- Stuffed data can be read up to the last bit of the flag behind it. -/
theorem quiet_stuffBits_append (bits : List Bool) :
    quiet 0 (stuffBits bits ++ flagHead) := by
  refine stuffFrom_induction (n := 5)
    (P := fun ones out => quiet ones (out ++ flagHead)) ?_ ?_ ?_ ?_ bits 0
    (by decide)
  · intro ones hones
    exact quiet_flagHead (by omega)
  · intro ones out hones ih
    exact ⟨by omega, ih⟩
  · intro ones out hones ih
    exact ⟨by omega, ih⟩
  · intro out ih
    exact ⟨by decide, by decide, ih⟩

theorem foldl_onesAfter_flagHead (ones : ℕ) :
    flagHead.foldl onesAfter ones = 6 := rfl

/-- The last bit of a flag reaches `finishFlag`. -/
theorem classify_flag {r : Receiver} {tone : Bool}
    (hprevious : r.hyp.previousSelector = some tone)
    (hflag : shiftIn r.hyp.shift false = FLAG) (hfull : 7 ≤ r.hyp.shiftCount) :
    ∃ bitSample, r.classify (nextTone tone false) =
      ((((r.select (nextTone tone false)).shiftBit false).bufferBit
        false).finishFlag bitSample).advance := by
  refine ⟨max 0 (pyRound r.hyp.nextSymbolEnd - 1), ?_⟩
  rw [classify, hprevious, bitOfSelector_nextTone]
  exact congrArg advance (emitBit_of_flag _ hflag hfull)

/-- It brings the receiver into step, whatever the buffer was. -/
theorem reading_of_flag {r : Receiver} {tone : Bool}
    (hprevious : r.hyp.previousSelector = some tone)
    (hflag : shiftIn r.hyp.shift false = FLAG) (hfull : 7 ≤ r.hyp.shiftCount) :
    Reading (r.classify (nextTone tone false)) (nextTone tone false) [] 0 := by
  obtain ⟨bitSample, hclassify⟩ := classify_flag hprevious hflag hfull
  constructor
  · exact classify_previousSelector _ _
  · have hcount := classify_shiftCount r (nextTone tone false)
    omega
  · rw [hclassify]
    rfl
  · rw [hclassify]
    exact ⟨_, rfl⟩
  · rw [classify_shift, hprevious, bitOfSelector_nextTone]
    exact onesTail_shiftIn_false _

/-- The last bit of a flag closes the segment before it. -/
theorem Reading.close {r : Receiver} {tone : Bool} {stuffed : List Bool}
    (h : Reading r tone (stuffed ++ flagHead) 6)
    (hlen : stuffed.length + 8 ≤ MAX_STUFFED_BITS) :
    Reading (r.classify (nextTone tone false)) (nextTone tone false) [] 0 ∧
      ∃ items : List StreamingFrame,
        (r.classify (nextTone tone false)).handed = r.handed ++ items ∧
        items.map (·.frame) = (candidate (stuffed ++ flagBits)).toList := by
  have hflag : shiftIn r.hyp.shift false = FLAG := shiftIn_false_eq_FLAG h.tail
  have hfull : 7 ≤ r.hyp.shiftCount := Nat.le_of_succ_le h.full
  refine ⟨reading_of_flag h.previous hflag hfull, ?_⟩
  obtain ⟨bitSample, hclassify⟩ := classify_flag h.previous hflag hfull
  let before := ((r.select (nextTone tone false)).shiftBit false).bufferBit false
  have hlen' : (stuffed ++ flagHead).length + 1 ≤ MAX_STUFFED_BITS := by
    rw [List.length_append]
    exact hlen
  obtain ⟨hbuffer, hopened⟩ :=
    bufferBit_afterFlag (r := (r.select (nextTone tone false)).shiftBit false) false
      h.afterFlag hlen'
  obtain ⟨-, -, -, hhanded⟩ :=
    bufferBit_frame ((r.select (nextTone tone false)).shiftBit false) false
  rw [List.append_assoc, ← flagBits_eq_flagHead] at hbuffer
  obtain ⟨sample, hsample⟩ := h.opened
  have hsample' : before.hyp.openingDataSample = some sample :=
    hopened.trans hsample
  rw [hclassify]
  refine ⟨_, congrArg (· ++ _) hhanded, ?_⟩
  rw [show before.hyp.afterFlag = some (stuffed ++ flagBits) from hbuffer, hsample']
  cases hframe : candidate (stuffed ++ flagBits) with
  | none => simp only [hframe, List.map_nil, Option.toList_none]
  | some frame => simp only [hframe, List.map_cons, List.map_nil, Option.toList_some]

/-- A stuffed segment and its closing flag, read from the opening flag on. -/
theorem Reading.segment {r : Receiver} {tone : Bool} (h : Reading r tone [] 0)
    (bits : List Bool) (hlen : (stuffBits bits).length + 8 ≤ MAX_STUFFED_BITS) :
    let r' := r.feedSelectors (nrziEncode tone (stuffBits bits ++ flagBits))
    Reading r' (lastTone tone (stuffBits bits ++ flagBits)) [] 0 ∧
      ∃ items : List StreamingFrame, r'.handed = r.handed ++ items ∧
        items.map (·.frame) = (candidate (stuffBits bits ++ flagBits)).toList := by
  intro r'
  have hhead : (stuffBits bits ++ flagHead).length ≤ MAX_STUFFED_BITS := by
    rw [List.length_append]
    exact Nat.le_of_succ_le hlen
  obtain ⟨hreading, hhanded⟩ := h.feed (quiet_stuffBits_append bits)
    (by rwa [List.length_nil, Nat.zero_add])
  rw [List.nil_append, List.foldl_append, foldl_onesAfter_flagHead] at hreading
  obtain ⟨hclosed, items, hitems, hframes⟩ := hreading.close hlen
  have hsplit : stuffBits bits ++ flagBits =
      (stuffBits bits ++ flagHead) ++ [false] := by
    rw [flagBits_eq_flagHead, List.append_assoc]
  have hr' : r' = (r.feedSelectors (nrziEncode tone (stuffBits bits ++ flagHead))).classify
      (nextTone (lastTone tone (stuffBits bits ++ flagHead)) false) := by
    change r.feedSelectors (nrziEncode tone (stuffBits bits ++ flagBits)) = _
    rw [hsplit, nrziEncode_append, feedSelectors_append]
    rfl
  have htone : lastTone tone (stuffBits bits ++ flagBits) =
      nextTone (lastTone tone (stuffBits bits ++ flagHead)) false := by
    rw [hsplit, lastTone, List.foldl_append]
    rfl
  rw [hr', htone]
  refine ⟨hclosed, items, ?_, hframes⟩
  rw [hitems, hhanded]

theorem lastTone_flagBits (tone : Bool) : lastTone tone flagBits = tone := by
  cases tone <;> rfl

theorem lastTone_flags (tone : Bool) (n : ℕ) :
    lastTone tone (List.replicate n flagBits).flatten = tone := by
  induction n with
  | zero => rfl
  | succ n ih =>
      rw [List.replicate_succ, List.flatten_cons, lastTone, List.foldl_append]
      change lastTone (lastTone tone flagBits) _ = tone
      rw [lastTone_flagBits, ih]

/-- Flags without a frame between them hand nothing over. -/
theorem Reading.flags {tone : Bool} (n : ℕ) : ∀ {r : Receiver},
    Reading r tone [] 0 →
    let r' := r.feedSelectors (nrziEncode tone (List.replicate n flagBits).flatten)
    Reading r' tone [] 0 ∧ r'.handed = r.handed := by
  induction n with
  | zero =>
      intro r h
      exact ⟨h, rfl⟩
  | succ n ih =>
      intro r h
      obtain ⟨hflag, items, hitems, hframes⟩ := h.segment [] (by decide)
      have hnone : candidate (stuffBits [] ++ flagBits) = none := by
        decide
      rw [hnone, Option.toList_none, List.map_eq_nil_iff] at hframes
      rw [hframes, List.append_nil] at hitems
      have hempty : stuffBits [] ++ flagBits = flagBits := rfl
      rw [hempty] at hflag hitems
      rw [lastTone_flagBits] at hflag
      obtain ⟨hrest, hhanded⟩ := ih hflag
      rw [List.replicate_succ, List.flatten_cons, nrziEncode_append,
        lastTone_flagBits, feedSelectors_append]
      exact ⟨hrest, hhanded.trans hitems⟩

/-- What the register sees of a burst, in step or not. -/
theorem feedSelectors_nrziEncode (bits : List Bool) : ∀ {r : Receiver} {tone : Bool},
    r.hyp.previousSelector = some tone →
    let r' := r.feedSelectors (nrziEncode tone bits)
    r'.hyp.previousSelector = some (lastTone tone bits) ∧
      r'.hyp.shift = bits.foldl shiftIn r.hyp.shift ∧
      min 8 (r.hyp.shiftCount + bits.length) ≤ r'.hyp.shiftCount := by
  induction bits with
  | nil =>
      intro r tone h
      exact ⟨h, rfl, Nat.min_le_right _ _⟩
  | cons bit bits ih =>
      intro r tone h
      have hshift : (r.classify (nextTone tone bit)).hyp.shift =
          shiftIn r.hyp.shift bit := by
        rw [classify_shift, h, bitOfSelector_nextTone]
      have hcount := classify_shiftCount r (nextTone tone bit)
      obtain ⟨hprevious', hshift', hcount'⟩ :=
        ih (classify_previousSelector r (nextTone tone bit))
      rw [hshift] at hshift'
      refine ⟨hprevious', hshift', Nat.le_trans ?_ hcount'⟩
      rw [List.length_cons]
      omega

/-- One whole flag brings any receiver into step. -/
theorem sync {r : Receiver} {tone : Bool}
    (hprevious : r.hyp.previousSelector = some tone) :
    Reading (r.feedSelectors (nrziEncode tone flagBits)) tone [] 0 := by
  obtain ⟨hprevious', hshift, hcount⟩ :=
    feedSelectors_nrziEncode flagHead hprevious
  have hflag : shiftIn (flagHead.foldl shiftIn r.hyp.shift) false = FLAG := by
    have h := shiftIn_flagBits r.hyp.shift
    rwa [flagBits_eq_flagHead, List.foldl_append] at h
  rw [← hshift] at hflag
  have hfull : 7 ≤ (r.feedSelectors (nrziEncode tone flagHead)).hyp.shiftCount := by
    have hlen : flagHead.length = 7 := rfl
    omega
  have hlast := reading_of_flag hprevious' hflag hfull
  have htone : nextTone (lastTone tone flagHead) false = tone := by
    cases tone <;> rfl
  rw [htone] at hlast
  have hsplit : r.feedSelectors (nrziEncode tone flagBits) =
      (r.feedSelectors (nrziEncode tone flagHead)).classify tone := by
    rw [flagBits_eq_flagHead, nrziEncode_append, feedSelectors_append]
    rw [nrziEncode_cons, htone]
    rfl
  rw [hsplit]
  exact hlast

/-- Two opening flags do so even when the first symbol was misread. -/
theorem sync_two (r : Receiver) (tone : Bool) :
    Reading (r.feedSelectors (nrziEncode tone (flagBits ++ flagBits))) tone [] 0 := by
  rw [nrziEncode_append, lastTone_flagBits, feedSelectors_append]
  apply sync
  have hsplit : nrziEncode tone flagBits =
      nextTone tone false :: nrziEncode (nextTone tone false) flagBits.tail := by
    rw [flagBits_eq, nrziEncode_cons, List.tail_cons]
  have hfirst := classify_previousSelector r (nextTone tone false)
  obtain ⟨hprevious, -, -⟩ := feedSelectors_nrziEncode flagBits.tail hfirst
  have htone : lastTone (nextTone tone false) flagBits.tail = tone := by
    cases tone <;> rfl
  rw [hsplit, feedSelectors_cons, hprevious, htone]

/-- The frame between two flags is the candidate. -/
theorem candidate_stuffBits {frame : Bytes} {parsed : ParsedFrame}
    (hlen : 17 ≤ frame.length) (hparse : parseFrame frame true = .ok parsed) :
    candidate (stuffBits (byteBitsLsb frame) ++ flagBits) = some frame := by
  have hfcs : verifyFcs frame = true := by
    by_contra hbad
    rw [parseFrame, if_pos rfl, if_pos hbad] at hparse
    cases hparse
  have hflag : flagBits.length = 8 := rfl
  have hstuffed := length_le_length_stuffFrom 5 0 (byteBitsLsb frame)
  have hne : stuffBits (byteBitsLsb frame) ≠ [] := by
    intro hnil
    rw [byteBitsLsb_length] at hstuffed
    rw [stuffBits, stuff] at hnil
    rw [hnil, List.length_nil] at hstuffed
    omega
  have htake : (stuffBits (byteBitsLsb frame) ++ flagBits).take
      ((stuffBits (byteBitsLsb frame) ++ flagBits).length - 8) =
      stuffBits (byteBitsLsb frame) := by
    rw [List.length_append, hflag, Nat.add_sub_cancel, List.take_left]
  have hlong : 8 ≤ (stuffBits (byteBitsLsb frame) ++ flagBits).length := by
    rw [List.length_append, hflag]
    omega
  simp only [candidate, if_pos hlong, htake, if_neg hne, frameOfStuffed_stuffBits,
    if_pos (And.intro hlen hfcs), hparse]

/-- Loopback: from any state of the receiver, the symbols behind the second
opening flag hand over exactly one candidate, the frame that was sent. A frame
that `parseFrame` accepts has a valid FCS. -/
theorem feedSelectors_frameToSelectors (r : Receiver) (frame : Bytes)
    (parsed : ParsedFrame) (preFlags postFlags : ℕ) (initialTone : Bool)
    (hlen : 17 ≤ frame.length) (hparse : parseFrame frame true = .ok parsed)
    (hbody : (stuffBits (byteBitsLsb frame)).length ≤ MAX_STUFFED_BITS - 8)
    (hpre : 2 ≤ preFlags) (hpost : 1 ≤ postFlags) :
    ∃ selectors, frameToSelectors frame preFlags postFlags initialTone =
        .ok selectors ∧
      ∃ item, item.frame = frame ∧
        (r.feedSelectors selectors).handed =
          (r.feedSelectors (selectors.take 16)).handed ++ [item] := by
  obtain ⟨pre, rfl⟩ := Nat.exists_eq_add_of_le hpre
  obtain ⟨post, rfl⟩ := Nat.exists_eq_add_of_le hpost
  have hne : frame ≠ [] := by
    intro hnil
    rw [hnil] at hlen
    simp at hlen
  refine ⟨_, frameToSelectors_eq initialTone hne (by omega) (by omega), ?_⟩
  let stuffed := stuffBits (byteBitsLsb frame)
  let flags (n : ℕ) := (List.replicate n flagBits).flatten
  have hsplit : flags (2 + pre) ++ stuffed ++ flags (1 + post) =
      (flagBits ++ flagBits) ++ (flags pre ++ ((stuffed ++ flagBits) ++ flags post)) := by
    simp only [flags, List.replicate_add, List.flatten_append, List.append_assoc]
    rfl
  have hselectors : nrziEncode initialTone
        (flags (2 + pre) ++ stuffed ++ flags (1 + post)) =
      nrziEncode initialTone (flagBits ++ flagBits) ++
        nrziEncode initialTone (flags pre ++ ((stuffed ++ flagBits) ++ flags post)) := by
    have htone : lastTone initialTone (flagBits ++ flagBits) = initialTone := by
      cases initialTone <;> rfl
    rw [hsplit, nrziEncode_append, htone]
  have hsixteen : (nrziEncode initialTone (flagBits ++ flagBits)).length = 16 := by
    rw [nrziEncode_length]
    rfl
  change ∃ item : StreamingFrame, item.frame = frame ∧ (r.feedSelectors (nrziEncode initialTone
    (flags (2 + pre) ++ stuffed ++ flags (1 + post)))).handed = _
  rw [hselectors, List.take_left' hsixteen, feedSelectors_append]
  -- in step behind the second flag: further opening flags, the frame, the rest
  have hsync := sync_two r initialTone
  obtain ⟨hopening, hopened⟩ := hsync.flags pre
  obtain ⟨hframe, items, hitems, hframes⟩ := hopening.segment (byteBitsLsb frame)
    (by unfold MAX_STUFFED_BITS at hbody ⊢; omega)
  obtain ⟨-, hclosing⟩ := hframe.flags post
  rw [candidate_stuffBits hlen hparse, Option.toList_some,
    List.map_eq_singleton_iff] at hframes
  obtain ⟨item, rfl, hitem⟩ := hframes
  refine ⟨item, hitem, ?_⟩
  have hrest : nrziEncode initialTone
        (flags pre ++ ((stuffed ++ flagBits) ++ flags post)) =
      nrziEncode initialTone (flags pre) ++
        (nrziEncode initialTone (stuffed ++ flagBits) ++
          nrziEncode (lastTone initialTone (stuffed ++ flagBits)) (flags post)) := by
    rw [nrziEncode_append, lastTone_flags, nrziEncode_append]
  rw [hrest, feedSelectors_append, feedSelectors_append, hclosing, hitems, hopened]

/-- The shortest burst of a short frame, to a receiver in the middle of garbage. -/
theorem feedSelectors_frameToSelectors_receiveReady :
    ∃ selectors, frameToSelectors (appendFcs receiveReady) 2 1 SPACE =
        .ok selectors ∧
      ∃ item, item.frame = appendFcs receiveReady ∧
        let r : Receiver :=
          { hyp :=
              { baud := 1200, phase := 3, period := 16, nextSymbolEnd := 19
                previousSelector := some true, shift := 0x3F, shiftCount := 8
                afterFlag := some [true, true, false], openingDataSample := some 3
                flagsSeen := 1 }
            flagsSeen := 1, symbolDecisions := 9, maxFrameBufferBits := 3
            handed := [] }
        (r.feedSelectors selectors).handed =
          (r.feedSelectors (selectors.take 16)).handed ++ [item] :=
  feedSelectors_frameToSelectors _ (appendFcs receiveReady) receiveReadyParsed 2 1 SPACE
    (by decide +kernel) (by decide +kernel) (by decide +kernel) (by decide) (by decide)

end Receiver

end YwdTnc
