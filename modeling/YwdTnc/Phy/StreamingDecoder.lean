import YwdTnc.Coding.DueQueue
import YwdTnc.Coding.ShiftRegister
import YwdTnc.Coding.TaggedRing
import YwdTnc.Phy.Occurrences
import Mathlib.Data.Fintype.Card

/-!
# The streaming decoder

`StreamingBell202Decoder` reads every sample once. Of the samples it keeps a register with
the last twelve of them and two rings of 128 entries (`SampleHistory`), and a heap tells it
which hypotheses have a symbol that ends at the sample just read. What it has decided is its
`Reception`. `PlainDecoder` reaches its decisions without rings and without a heap: it keeps
all samples and asks every hypothesis after every sample.

Symbol times are exact rationals. The metric table is a parameter; `metricForPattern` is that of
the source but for the rounding. A heap is a list in the order in which it would be popped.
-/

namespace YwdTnc

open Coding

def SAMPLE_RATE : ℚ := 19200

def CORR_WINDOW : ℕ := 12

def HISTORY_SIZE : ℕ := 128

def DEFAULT_BAUDS : List ℚ := (List.range' 1196 9).map fun value : ℕ => (value : ℚ)

def DEFAULT_PHASES : List ℚ := (List.range 16).map fun value : ℕ => (value : ℚ)

instance : NeZero HISTORY_SIZE := ⟨by decide⟩

/-- A row of `_BYTE_BITS`: the samples of a packed byte, the first in its highest bit. -/
def BYTE_BITS (byte : Byte) : List Bool :=
  (List.range 8).map fun bit => decide (byte &&& 0x80 >>> bit ≠ 0)

/-- How often the level changes within the samples. -/
def transitions : List Bool → ℕ
  | a :: b :: samples => (if a = b then 0 else 1) + transitions (b :: samples)
  | _ => 0

/-- Floating-point numbers by their numerators and the exponents of their denominators. -/
def dyadics (values : List (ℤ × ℕ)) : List ℚ := values.map fun value => mkRat value.1 (2 ^ value.2)

/-- `_references(MARK_HZ)` and `_references(SPACE_HZ)`, as the floating-point numbers that stand for
the cosines and the sines. -/
def MARK_C : List ℚ :=
  dyadics [(1, 0), (4160783518353059, 52), (6369051672525773, 53), (1723452963400281, 52),
    (4967757600021511, 106), (-3446905926800561, 53), (-1592262918131443, 51),
    (-4160783518353059, 52), (-1, 0), (-8321567036706119, 53), (-3184525836262887, 52),
    (-6893811853601133, 54)]

def MARK_S : List ℚ :=
  dyadics [(0, 0), (6893811853601123, 54), (1592262918131443, 51), (4160783518353059, 52), (1, 0),
    (4160783518353059, 52), (6369051672525773, 53), (6893811853601125, 54),
    (4967757600021511, 105), (-6893811853601121, 54), (-1592262918131443, 51),
    (-2080391759176529, 51)]

def SPACE_C : List ℚ :=
  dyadics [(1, 0), (846496369201157, 50), (4702701685154509, 55), (-5004131788810441, 53),
    (-8700286382685973, 53), (-2019577872282685, 51), (-3446905926800559, 53),
    (2895269312322979, 53), (1950115842888491, 51), (8834128446708911, 53),
    (5483235489682407, 53), (-294549508429737, 52)]

def SPACE_S : List ℚ :=
  dyadics [(0, 0), (5938859134385933, 53), (8930141416482971, 53), (3744606236135633, 52),
    (4662469420320397, 54), (-7967564721841919, 54), (-8321567036706119, 53),
    (-8529188356680107, 53), (-4503599627370493, 53), (7028869612283433, 55),
    (7145891615417493, 53), (4493957074865699, 52)]

/-- `values` against a reference, less what their mean has to do with it. -/
def correlate (values reference : List ℚ) : ℚ :=
  (List.zipWith (· * ·) values reference).sum - values.sum / CORR_WINDOW * reference.sum

/-- `_metric_for_pattern`, in exact arithmetic. -/
def metricForPattern (pattern : BitVec CORR_WINDOW) : ℚ :=
  let values : List ℚ := (List.range CORR_WINDOW).map fun index =>
    if pattern.getLsbD (CORR_WINDOW - 1 - index) then 1 else -1
  let mc := correlate values MARK_C
  let ms := correlate values MARK_S
  let sc := correlate values SPACE_C
  let ss := correlate values SPACE_S
  let denom : ℚ := CORR_WINDOW * CORR_WINDOW
  let mark := (mc * mc + ms * ms) / denom
  let space := (sc * sc + ss * ss) / denom
  let total := mark + space
  if 1 / 10 ^ 9 < total then (space - mark) / total else 0

namespace Hypothesis

/-- The hypotheses of `__init__`, in their order. -/
def bank (bauds phases : List ℚ) : List Hypothesis :=
  bauds.flatMap fun baud => phases.map fun phase =>
    { baud, phase, period := SAMPLE_RATE / baud, nextSymbolEnd := phase + SAMPLE_RATE / baud,
      previousSelector := none, shift := 0, shiftCount := 0, afterFlag := none,
      openingDataSample := none, flagsSeen := 0 }

variable (hyp : Hypothesis)

def boundary : ℤ := pyRound (hyp.nextSymbolEnd - hyp.period)

def symbolEnd : ℤ := pyRound hyp.nextSymbolEnd

/-- Where the correlation window of the symbol begins. -/
def centered : ℤ := pyRound (hyp.boundary + (hyp.period - CORR_WINDOW) * (1 / 2))

end Hypothesis

/-- The selector of `_classify_hypothesis`: the correlator decides unless it is within the
float `0.12` of indifference, and then three transitions make a one. -/
def selectorOf (norm : ℚ) (zc : ℤ) : Bool :=
  if 8646911284551352 / 2 ^ 56 ≤ |norm| then decide (0 < norm) else decide (3 ≤ zc)

/-- A symbol decision: which hypothesis took it, after how many samples, and on what. -/
structure Decision where
  order : ℕ
  sampleCount : ℤ
  norm : ℚ
  zc : ℤ
  selector : Bool
  bit : Bool
  deriving DecidableEq

/-- The bank and what the decoder has found with it. `fresh` are the frames that `feed` is
going to return, and `decisions` the symbol decisions so far. -/
structure Reception (n : ℕ) where
  hypotheses : Vector Hypothesis n
  symbolDecisions : ℕ
  flagsSeen : ℕ
  maxFrameBufferBits : ℕ
  accepted : Occurrences
  fresh : List StreamingFrame
  decisions : List Decision

namespace Reception

def ofBank (bank : List Hypothesis) : Reception bank.length where
  hypotheses := ⟨bank.toArray, by simp⟩
  symbolDecisions := 0
  flagsSeen := 0
  maxFrameBufferBits := 0
  accepted := Occurrences.init
  fresh := []
  decisions := []

variable {n : ℕ} (r : Reception n) (order : Fin n)

def hypothesis : Hypothesis := r.hypotheses.get order

/-- One hypothesis with the counters. -/
def receiver : Receiver where
  hyp := r.hypothesis order
  flagsSeen := r.flagsSeen
  symbolDecisions := r.symbolDecisions
  maxFrameBufferBits := r.maxFrameBufferBits
  handed := []

/-- `_classify_hypothesis` once the metric and the transitions are known. The hypothesis has
then moved on to its next symbol. -/
def classify (sampleCount : ℤ) (norm : ℚ) (zc : ℤ) : Reception n :=
  let selector := selectorOf norm zc
  let bit := Receiver.bitOfSelector (r.hypothesis order).previousSelector selector
  let receiver := (r.receiver order).classify selector
  let (accepted, fresh) := receiver.handed.foldl (fun s item => Occurrences.acceptFrame item s)
    (r.accepted, r.fresh)
  { hypotheses := r.hypotheses.set order receiver.hyp
    symbolDecisions := receiver.symbolDecisions
    flagsSeen := receiver.flagsSeen
    maxFrameBufferBits := receiver.maxFrameBufferBits
    accepted
    fresh
    decisions := r.decisions ++ [{ order, sampleCount, norm, zc, selector, bit }] }

/-- Without a metric the symbol is passed over. -/
def skip : Reception n :=
  let hyp := r.hypothesis order
  let hyp := { hyp with nextSymbolEnd := hyp.nextSymbolEnd + hyp.period }
  { r with hypotheses := r.hypotheses.set order hyp }

end Reception

/-- What the streaming decoder keeps of the samples. -/
structure SampleHistory where
  sampleIndex : ℤ
  metricRegister : BitVec CORR_WINDOW
  metricSampleCount : ℕ
  metricWindows : ℕ
  metrics : TaggedRing HISTORY_SIZE ℚ
  transitionPrefix : TaggedRing HISTORY_SIZE ℤ
  transitionsTotal : ℤ
  previousRaw : Option Bool

namespace SampleHistory

def init : SampleHistory where
  sampleIndex := -1
  metricRegister := 0
  metricSampleCount := 0
  metricWindows := 0
  metrics := TaggedRing.init HISTORY_SIZE (-1) 0
  transitionPrefix := TaggedRing.init HISTORY_SIZE (-1) 0
  transitionsTotal := 0
  previousRaw := none

variable (metricTable : BitVec CORR_WINDOW → ℚ) (h : SampleHistory)

def storeTransitionPrefix (prefixIndex : ℤ) : SampleHistory :=
  { h with transitionPrefix := h.transitionPrefix.store prefixIndex h.transitionsTotal }

def transitionValue (prefixIndex : ℤ) : Option ℤ := h.transitionPrefix.lookup prefixIndex

def transitionCount (start stop : ℤ) : ℤ :=
  if stop - start < 2 then 0
  else
    match h.transitionValue (start + 1), h.transitionValue stop with
    | some left, some right => max 0 (right - left)
    | _, _ => 0

/-- One of the lookups of `transitionCount` misses. -/
def transitionMiss (start stop : ℤ) : Bool :=
  decide (2 ≤ stop - start) &&
    ((h.transitionValue (start + 1)).isNone || (h.transitionValue stop).isNone)

def storeMetric (raw : Bool) : SampleHistory :=
  let h := { h with
    metricRegister := slide h.metricRegister raw
    metricSampleCount := h.metricSampleCount + 1 }
  if h.metricSampleCount < CORR_WINDOW then h
  else
    let start := h.sampleIndex - CORR_WINDOW + 1
    { h with
      metrics := h.metrics.store start (metricTable h.metricRegister)
      metricWindows := h.metricWindows + 1 }

def metricAt (start : ℤ) : Option ℚ := h.metrics.lookup start

/-- `_feed_sample` up to the call of `_classify_due_symbols`. -/
def feedSample (raw : Bool) : SampleHistory :=
  let h := { h with sampleIndex := h.sampleIndex + 1 }
  let h :=
    match h.previousRaw with
    | some previous =>
        if raw ≠ previous then { h with transitionsTotal := h.transitionsTotal + 1 } else h
    | none => h
  let h := { h with previousRaw := some raw }
  (h.storeTransitionPrefix (h.sampleIndex + 1)).storeMetric metricTable raw

end SampleHistory

/-- `missed` counts the classifications in which a lookup of a metric or of a transition
prefix missed; the code does not keep this count. -/
structure StreamingBell202Decoder (n : ℕ) where
  history : SampleHistory
  reception : Reception n
  schedule : List (ℤ ×ₗ Fin n)
  packedBytes : ℕ
  missed : ℕ

namespace StreamingBell202Decoder

/-- When a hypothesis is due, as its entry in the heap says. -/
def dueTime {n : ℕ} (d : StreamingBell202Decoder n) (order : Fin n) : ℤ :=
  (d.reception.hypothesis order).symbolEnd

def ofBank (bank : List Hypothesis) : StreamingBell202Decoder bank.length :=
  let d : StreamingBell202Decoder bank.length :=
    { history := SampleHistory.init, reception := Reception.ofBank bank, schedule := [],
      packedBytes := 0, missed := 0 }
  { d with schedule := DueQueue.fill dueTime d }

/-- `__init__`. -/
def init (bauds phases : List ℚ) :
    Except PyError (StreamingBell202Decoder (Hypothesis.bank bauds phases).length) :=
  if bauds = [] ∨ phases = [] then
    .error (.valueError "at least one baud and phase hypothesis is required")
  else if ∃ value ∈ bauds, value ≤ 0 then
    .error (.valueError "baud hypotheses must be positive")
  else .ok (ofBank (Hypothesis.bank bauds phases))

variable {n : ℕ}

/-- `_classify_hypothesis` and the step to the next symbol end. -/
def classifyHypothesis (d : StreamingBell202Decoder n) (order : Fin n) :
    StreamingBell202Decoder n :=
  let hyp := d.reception.hypothesis order
  match d.history.metricAt hyp.centered with
  | none => { d with reception := d.reception.skip order, missed := d.missed + 1 }
  | some norm =>
      let zc := d.history.transitionCount hyp.boundary hyp.symbolEnd
      { d with
        reception := d.reception.classify order (d.history.sampleIndex + 1) norm zc
        missed := if d.history.transitionMiss hyp.boundary hyp.symbolEnd then d.missed + 1
          else d.missed }

/-- The loop runs until nothing is due any more; it has to be bounded here. -/
def classifyDueSymbols : ℕ → StreamingBell202Decoder n → Option (StreamingBell202Decoder n)
  | 0, _ => none
  | fuel + 1, d =>
      let currentEnd := d.history.sampleIndex + 1
      match d.schedule with
      | [] => some d
      | entry :: schedule =>
          if (ofLex entry).1 ≤ currentEnd then
            let order := (ofLex entry).2
            let d := classifyHypothesis { d with schedule } order
            classifyDueSymbols fuel
              { d with schedule := DueQueue.push (toLex (d.dueTime order, order)) d.schedule }
          else some d

variable (metricTable : BitVec CORR_WINDOW → ℚ)

def feedSample (fuel : ℕ) (d : StreamingBell202Decoder n) (raw : Bool) :
    Option (StreamingBell202Decoder n) :=
  classifyDueSymbols fuel { d with history := d.history.feedSample metricTable raw }

def feedSamples (fuel : ℕ) (d : StreamingBell202Decoder n) (samples : List Bool) :
    Option (StreamingBell202Decoder n) :=
  samples.foldlM (feedSample metricTable fuel) d

/-- The new frame occurrences, and the decoder after the call. -/
def feed (fuel : ℕ) (d : StreamingBell202Decoder n) (packed : Bytes) :
    Option (List StreamingFrame × StreamingBell202Decoder n) := do
  let d := { d with
    packedBytes := d.packedBytes + packed.length
    reception := { d.reception with fresh := [] } }
  let d ← feedSamples metricTable fuel d (packed.flatMap BYTE_BITS)
  return (d.reception.fresh.mergeSort (fun a b => a.sampleStart ≤ b.sampleStart), d)

/-- Calls of `feed` one after the other, and what each of them returns. -/
def feedCalls (fuel : ℕ) : StreamingBell202Decoder n → List Bytes →
    Option (List (List StreamingFrame) × StreamingBell202Decoder n)
  | d, [] => some ([], d)
  | d, packed :: calls => do
      let (frames, d) ← feed metricTable fuel d packed
      let (rest, d) ← feedCalls fuel d calls
      return (frames :: rest, d)

end StreamingBell202Decoder

/-- The decoder without rings and heap, on all the samples so far. -/
structure PlainDecoder (n : ℕ) where
  samples : List Bool
  reception : Reception n

namespace PlainDecoder

def ofBank (bank : List Hypothesis) : PlainDecoder bank.length :=
  ⟨[], Reception.ofBank bank⟩

/-- The correlation window that begins at `start`. -/
def windowAt (samples : List Bool) (start : ℤ) : BitVec CORR_WINDOW :=
  ((samples.drop start.toNat).take CORR_WINDOW).foldl slide 0

/-- The samples in `[start, stop)`. -/
def slice (samples : List Bool) (start stop : ℤ) : List Bool :=
  (samples.drop start.toNat).take (stop - start).toNat

variable {n : ℕ} (metricTable : BitVec CORR_WINDOW → ℚ)

def classifyHypothesis (samples : List Bool) (r : Reception n) (order : Fin n) : Reception n :=
  let hyp := r.hypothesis order
  r.classify order samples.length (metricTable (windowAt samples hyp.centered))
    (transitions (slice samples hyp.boundary hyp.symbolEnd))

def scanHypotheses (samples : List Bool) (r : Reception n) : Reception n :=
  (List.finRange n).foldl
    (fun r order => if (r.hypothesis order).symbolEnd ≤ (samples.length : ℤ) then
      classifyHypothesis metricTable samples r order else r) r

def feedSample (p : PlainDecoder n) (raw : Bool) : PlainDecoder n :=
  let samples := p.samples ++ [raw]
  ⟨samples, scanHypotheses metricTable samples p.reception⟩

def feedSamples (p : PlainDecoder n) (samples : List Bool) : PlainDecoder n :=
  samples.foldl (feedSample metricTable) p

def feed (p : PlainDecoder n) (packed : Bytes) : List StreamingFrame × PlainDecoder n :=
  let p := { p with reception := { p.reception with fresh := [] } }
  let p := feedSamples metricTable p (packed.flatMap BYTE_BITS)
  (p.reception.fresh.mergeSort (fun a b => a.sampleStart ≤ b.sampleStart), p)

def feedCalls : PlainDecoder n → List Bytes → List (List StreamingFrame) × PlainDecoder n
  | p, [] => ([], p)
  | p, packed :: calls =>
      let (frames, p) := feed metricTable p packed
      let (rest, p) := feedCalls p calls
      (frames :: rest, p)

end PlainDecoder

end YwdTnc
