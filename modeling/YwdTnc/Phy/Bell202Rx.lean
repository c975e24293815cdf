import YwdTnc.Ax25.Codec
import YwdTnc.Phy.Bell202Tx
import Mathlib.Algebra.Order.Floor.Defs
import Mathlib.Data.Rat.Floor
import Mathlib.Tactic.Linarith

/-!
# One hypothesis of the streaming receiver

The streaming decoder keeps a bank of timing hypotheses. Each of them turns its
symbol decisions into bits, slides the bits through an eight bit register and
cuts frames out between flags. `Receiver` is one hypothesis with the counters
of the decoder that it updates. Sample positions are exact rationals; the
selector decision itself is taken by the correlator and is an input here.
-/

namespace YwdTnc

def MAX_STUFFED_BITS : ℕ := 4096

/-- Python's `int(round(x))`: the nearest integer, ties to even. -/
def pyRound (x : ℚ) : ℤ :=
  let below := ⌊x⌋
  if x - below < 1 / 2 then below
  else if 1 / 2 < x - below then below + 1
  else if below % 2 = 0 then below else below + 1

theorem pyRound_le (x : ℚ) : (pyRound x : ℚ) ≤ x + 1 / 2 := by
  have hfloor := Int.floor_le x
  simp only [pyRound]
  split_ifs <;> push_cast <;> linarith

theorem le_pyRound (x : ℚ) : x - 1 / 2 ≤ pyRound x := by
  have hfloor := Int.lt_floor_add_one x
  simp only [pyRound]
  split_ifs <;> push_cast <;> linarith

theorem pyRound_nonneg {x : ℚ} (h : 0 ≤ x) : 0 ≤ pyRound x := by
  have hle := le_pyRound x
  have hcast : ((-1 : ℤ) : ℚ) < pyRound x := by
    push_cast
    linarith
  have hlt := Int.cast_lt.mp hcast
  omega

structure StreamingFrame where
  frame : Bytes
  sampleStart : ℤ
  sampleEnd : ℤ
  baud : ℚ
  phase : ℚ
  deriving DecidableEq

structure Hypothesis where
  baud : ℚ
  phase : ℚ
  period : ℚ
  nextSymbolEnd : ℚ
  previousSelector : Option Bool
  shift : BitVec 8
  shiftCount : ℕ
  afterFlag : Option (List Bool)
  openingDataSample : Option ℤ
  flagsSeen : ℕ

/-- A hypothesis, the decoder's counters, and in `handed` the candidates given
to `_accept_frame` so far, the oldest first. -/
structure Receiver where
  hyp : Hypothesis
  flagsSeen : ℕ
  symbolDecisions : ℕ
  maxFrameBufferBits : ℕ
  handed : List StreamingFrame

/-- The octet of eight bits, least significant first. -/
def octetLsb (bits : List Bool) : Byte :=
  bits.zipIdx.foldl
    (fun value (bit, i) => if bit then value ||| 1 <<< i else value) 0

def octetsLsb : List Bool → Bytes
  | b₀ :: b₁ :: b₂ :: b₃ :: b₄ :: b₅ :: b₆ :: b₇ :: bits =>
      octetLsb [b₀, b₁, b₂, b₃, b₄, b₅, b₆, b₇] :: octetsLsb bits
  | _ => []

def bitsToBytesLsb (bits : List Bool) : Except PyError Bytes :=
  if bits.length % 8 ≠ 0 then
    .error (.valueError "bit count is not an exact number of octets")
  else .ok (octetsLsb bits)

/-- The frame between two flags; a framing error leaves the empty frame. -/
def frameOfStuffed (stuffed : List Bool) : Bytes :=
  match (do bitsToBytesLsb (← unstuffBits stuffed)) with
  | .ok frame => frame
  | .error _ => []

namespace Receiver

/-- The frame handed over at a flag, from the bits since the opening flag; the
last eight of them are the closing flag itself. -/
def candidate (afterFlag : List Bool) : Option Bytes :=
  let stuffed := if 8 ≤ afterFlag.length then
      afterFlag.take (afterFlag.length - 8) else []
  if stuffed = [] then none
  else
    let frame := frameOfStuffed stuffed
    if 17 ≤ frame.length ∧ verifyFcs frame then
      match parseFrame frame true with
      | .ok _ => some frame
      | .error _ => none
    else none

def finishFlag (r : Receiver) (bitSample : ℤ) : Receiver :=
  let hyp := r.hyp
  let handed :=
    match hyp.afterFlag, hyp.openingDataSample with
    | some afterFlag, some sampleStart =>
        match candidate afterFlag with
        | some frame =>
            [{ frame, sampleStart,
               sampleEnd := pyRound (bitSample - 7 * hyp.period),
               baud := hyp.baud, phase := hyp.phase }]
        | none => []
    | _, _ => []
  { r with
    flagsSeen := r.flagsSeen + 1
    handed := r.handed ++ handed
    -- the current flag becomes the opening flag of the next candidate
    hyp := { hyp with
      flagsSeen := hyp.flagsSeen + 1
      afterFlag := some []
      openingDataSample := some (pyRound (bitSample + hyp.period)) } }

/-- The register after one more bit. -/
def shiftIn (shift : BitVec 8) (bit : Bool) : BitVec 8 :=
  shift <<< 1 ||| if bit then 1 else 0

/-- The first part of `_emit_bit`: the bit enters the register. -/
def shiftBit (r : Receiver) (bit : Bool) : Receiver :=
  { r with hyp := { r.hyp with
      shift := shiftIn r.hyp.shift bit
      shiftCount := if r.hyp.shiftCount < 8 then r.hyp.shiftCount + 1
        else r.hyp.shiftCount } }

/-- The second part: the bit joins the buffer, which is given up when it gets
too long. -/
def bufferBit (r : Receiver) (bit : Bool) : Receiver :=
  match r.hyp.afterFlag with
  | none => r
  | some afterFlag =>
      let afterFlag := afterFlag ++ [bit]
      let r := { r with
        maxFrameBufferBits := max r.maxFrameBufferBits afterFlag.length }
      if MAX_STUFFED_BITS < afterFlag.length then
        { r with hyp :=
            { r.hyp with afterFlag := none, openingDataSample := none } }
      else { r with hyp := { r.hyp with afterFlag := some afterFlag } }

def emitBit (r : Receiver) (bit : Bool) (bitSample : ℤ) : Receiver :=
  let r := (r.shiftBit bit).bufferBit bit
  if 8 ≤ r.hyp.shiftCount ∧ r.hyp.shift = FLAG then r.finishFlag bitSample else r

/-- The selector-to-bit rule: a held tone is a one, and so is the first
decision. -/
def bitOfSelector (previous : Option Bool) (selector : Bool) : Bool :=
  match previous with
  | none => true
  | some tone => selector == tone

def select (r : Receiver) (selector : Bool) : Receiver :=
  { r with hyp := { r.hyp with previousSelector := some selector } }

/-- Count the decision; `_classify_due_symbols` then moves the hypothesis on to
its next symbol. -/
def advance (r : Receiver) : Receiver :=
  { r with
    symbolDecisions := r.symbolDecisions + 1
    hyp := { r.hyp with nextSymbolEnd := r.hyp.nextSymbolEnd + r.hyp.period } }

/-- `_classify_hypothesis` from the selector decision on. -/
def classify (r : Receiver) (selector : Bool) : Receiver :=
  let bit := bitOfSelector r.hyp.previousSelector selector
  let bitSample := max 0 (pyRound r.hyp.nextSymbolEnd - 1)
  ((r.select selector).emitBit bit bitSample).advance

def feedSelectors (r : Receiver) (selectors : List Bool) : Receiver :=
  selectors.foldl classify r

/-! ### What one symbol changes -/

@[simp] theorem feedSelectors_cons (r : Receiver) (selector : Bool)
    (selectors : List Bool) :
    r.feedSelectors (selector :: selectors) =
      (r.classify selector).feedSelectors selectors := rfl

theorem feedSelectors_append (r : Receiver) (xs ys : List Bool) :
    r.feedSelectors (xs ++ ys) = (r.feedSelectors xs).feedSelectors ys :=
  List.foldl_append

/-- Buffering changes the open candidate only. -/
theorem bufferBit_frame (r : Receiver) (bit : Bool) :
    (r.bufferBit bit).hyp.shift = r.hyp.shift ∧
      (r.bufferBit bit).hyp.shiftCount = r.hyp.shiftCount ∧
      (r.bufferBit bit).hyp.previousSelector = r.hyp.previousSelector ∧
      (r.bufferBit bit).handed = r.handed := by
  unfold bufferBit
  split
  · exact ⟨rfl, rfl, rfl, rfl⟩
  · dsimp only
    split <;> exact ⟨rfl, rfl, rfl, rfl⟩

/-- Below the limit the bit joins the buffer. -/
theorem bufferBit_afterFlag {r : Receiver} (bit : Bool) {buffer : List Bool}
    (hbuffer : r.hyp.afterFlag = some buffer)
    (hlen : buffer.length + 1 ≤ MAX_STUFFED_BITS) :
    (r.bufferBit bit).hyp.afterFlag = some (buffer ++ [bit]) ∧
      (r.bufferBit bit).hyp.openingDataSample = r.hyp.openingDataSample := by
  have hfits : ¬ MAX_STUFFED_BITS < (buffer ++ [bit]).length := by
    rw [List.length_append, List.length_singleton]
    omega
  simp only [bufferBit, hbuffer, if_neg hfits, and_self]

/-- A bit that completes no flag is shifted in and buffered. -/
theorem emitBit_of_ne_flag {r : Receiver} {bit : Bool} (bitSample : ℤ)
    (h : shiftIn r.hyp.shift bit ≠ FLAG) :
    r.emitBit bit bitSample = (r.shiftBit bit).bufferBit bit := by
  obtain ⟨hshift, -, -, -⟩ := bufferBit_frame (r.shiftBit bit) bit
  have hno : ((r.shiftBit bit).bufferBit bit).hyp.shift ≠ FLAG := by
    rw [hshift]
    exact h
  exact if_neg fun hflag => hno hflag.2

/-- A bit that completes a flag in a full register. -/
theorem emitBit_of_flag {r : Receiver} {bit : Bool} (bitSample : ℤ)
    (h : shiftIn r.hyp.shift bit = FLAG) (hfull : 7 ≤ r.hyp.shiftCount) :
    r.emitBit bit bitSample =
      ((r.shiftBit bit).bufferBit bit).finishFlag bitSample := by
  obtain ⟨hshift, hcount, -, -⟩ := bufferBit_frame (r.shiftBit bit) bit
  have hcount' : 8 ≤ ((r.shiftBit bit).bufferBit bit).hyp.shiftCount := by
    rw [hcount]
    simp only [shiftBit]
    split <;> omega
  have hflag : ((r.shiftBit bit).bufferBit bit).hyp.shift = FLAG := by
    rw [hshift]
    exact h
  exact if_pos ⟨hcount', hflag⟩

theorem emitBit_frame (r : Receiver) (bit : Bool) (bitSample : ℤ) :
    (r.emitBit bit bitSample).hyp.shift = shiftIn r.hyp.shift bit ∧
      (r.emitBit bit bitSample).hyp.shiftCount =
        (r.shiftBit bit).hyp.shiftCount ∧
      (r.emitBit bit bitSample).hyp.previousSelector = r.hyp.previousSelector := by
  obtain ⟨hshift, hcount, hprevious, -⟩ := bufferBit_frame (r.shiftBit bit) bit
  unfold emitBit
  dsimp only
  split
  · exact ⟨hshift, hcount, hprevious⟩
  · exact ⟨hshift, hcount, hprevious⟩

@[simp] theorem classify_shift (r : Receiver) (selector : Bool) :
    (r.classify selector).hyp.shift =
      shiftIn r.hyp.shift (bitOfSelector r.hyp.previousSelector selector) :=
  (emitBit_frame _ _ _).1

theorem classify_shiftCount (r : Receiver) (selector : Bool) :
    min 8 (r.hyp.shiftCount + 1) ≤ (r.classify selector).hyp.shiftCount := by
  have hcount : (r.classify selector).hyp.shiftCount =
      if r.hyp.shiftCount < 8 then r.hyp.shiftCount + 1
      else r.hyp.shiftCount :=
    (emitBit_frame _ _ _).2.1
  rw [hcount]
  split <;> omega

@[simp] theorem classify_previousSelector (r : Receiver) (selector : Bool) :
    (r.classify selector).hyp.previousSelector = some selector :=
  (emitBit_frame _ _ _).2.2

/-! ### Octets -/

theorem octetLsb_byteBits (byte : Byte) : octetLsb (byteBits byte) = byte := by
  revert byte
  decide

theorem octetsLsb_byteBitsLsb (data : Bytes) :
    octetsLsb (byteBitsLsb data) = data := by
  induction data with
  | nil => rfl
  | cons byte data ih =>
      calc octetsLsb (byteBitsLsb (byte :: data))
          = octetLsb (byteBits byte) :: octetsLsb (byteBitsLsb data) := rfl
        _ = byte :: data := by rw [octetLsb_byteBits, ih]

theorem bitsToBytesLsb_byteBitsLsb (data : Bytes) :
    bitsToBytesLsb (byteBitsLsb data) = .ok data := by
  have hmod : ¬ (byteBitsLsb data).length % 8 ≠ 0 := by
    rw [byteBitsLsb_length]
    omega
  rw [bitsToBytesLsb, if_neg hmod, octetsLsb_byteBitsLsb]

/-- The receiver's framing undoes the sender's. -/
theorem frameOfStuffed_stuffBits (frame : Bytes) :
    frameOfStuffed (stuffBits (byteBitsLsb frame)) = frame := by
  have hread : (do bitsToBytesLsb (← unstuffBits (stuffBits (byteBitsLsb frame)))) =
      .ok frame := by
    rw [unstuffBits_stuffBits]
    exact bitsToBytesLsb_byteBitsLsb frame
  rw [frameOfStuffed, hread]

end Receiver

end YwdTnc
