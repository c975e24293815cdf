import YwdTnc.Coding.Oscillator
import YwdTnc.Phy.Bell202Tx

/-!
# The transmit waveform engine of the modem

`CAX25AFSKTX` of the firmware. The Pi supplies packed tone selectors; the engine expands each
of them to sixteen one-bit samples of a phase accumulator and hands them in blocks to the bit
ring of the radio driver. `Playing` is its invariant: behind a burst of selectors the engine
stands at a position of their waveform (`waveform`), with the phase that belongs there.
-/

namespace YwdTnc

open Coding

structure CAX25AFSKTX where
  data : Bytes
  bitCount : ℕ
  symbol : ℕ
  sample : ℕ
  phase : BitVec 32
  active : Bool
  keyups : ℕ
  samplesQueued : ℕ
  deriving DecidableEq

namespace CAX25AFSKTX

def MAX_SELECTORS : ℕ := 1920
def MAX_PACKED : ℕ := 240
def SAMPLES_PER_SYMBOL : ℕ := 16
def MARK_INC : BitVec 32 := 0x10000000
def SPACE_INC : BitVec 32 := 0x1D555555

/-- What a refill leaves free in the ring, and the most that it adds. -/
def CIO_FIFO_RESERVE : ℕ := 256
def CIO_REFILL_MAX : ℕ := 768

def init : CAX25AFSKTX where
  data := List.replicate MAX_PACKED 0
  bitCount := 0
  symbol := 0
  sample := 0
  phase := 0
  active := false
  keyups := 0
  samplesQueued := 0

/-- The end of `writeSelectors`, for an accepted burst. -/
def load (engine : CAX25AFSKTX) (packed : Bytes) (bitCount : ℕ) : CAX25AFSKTX where
  data := packed ++ engine.data.drop packed.length
  bitCount := bitCount
  symbol := 0
  sample := 0
  phase := 0
  keyups := 0
  samplesQueued := 0
  active := true

/-- `writeSelectors`, with the number that the host gets in a NAK, or 0. -/
def writeSelectors (engine : CAX25AFSKTX) (tx : Bool) (packed : Bytes) (bitCount : ℕ) :
    CAX25AFSKTX × ℕ :=
  if packed.length = 0 ∨ bitCount = 0 ∨ MAX_SELECTORS < bitCount then (engine, 4)
  else
    let expected := (bitCount + 7) / 8
    if expected ≠ packed.length ∨ MAX_PACKED < packed.length then (engine, 4)
    else if engine.active ∨ tx then (engine, 5)
    else (engine.load packed bitCount, 0)

def selector (engine : CAX25AFSKTX) (index : ℕ) : Bool := packedSelector engine.data index

def increment (selector : Bool) : BitVec 32 := if selector then SPACE_INC else MARK_INC

/-- One turn of the loop of `process`. -/
def emitSample (engine : CAX25AFSKTX) : Bool × CAX25AFSKTX :=
  let bit := engine.phase.msb
  let engine := { engine with
    phase := engine.phase + increment (engine.selector engine.symbol)
    sample := engine.sample + 1 }
  if SAMPLES_PER_SYMBOL ≤ engine.sample then
    (bit, { engine with
      sample := 0
      symbol := engine.symbol + 1
      active := if engine.bitCount ≤ engine.symbol + 1 then false else engine.active })
  else (bit, engine)

/-- The loop of `process`: at most `budget` samples. -/
def generate (engine : CAX25AFSKTX) : ℕ → List Bool × CAX25AFSKTX
  | 0 => ([], engine)
  | budget + 1 =>
      if engine.active then
        let turn := engine.emitSample
        let rest := generate turn.2 budget
        (turn.1 :: rest.1, rest.2)
      else ([], engine)

/-- `process` up to the call of `io.write`, when `io.getSpace` has returned `space`. -/
def refill (engine : CAX25AFSKTX) (space : ℕ) : List Bool × CAX25AFSKTX :=
  if engine.active then
    if space ≤ CIO_FIFO_RESERVE then ([], engine)
    else engine.generate (min (space - CIO_FIFO_RESERVE) CIO_REFILL_MAX)
  else ([], engine)

/-- `process` behind the call of `io.write`. -/
def countWrite (engine : CAX25AFSKTX) (wasTX tx : Bool) (count : ℕ) : CAX25AFSKTX :=
  { engine with
    keyups := if !wasTX && tx && engine.keyups < 255 then engine.keyups + 1 else engine.keyups
    samplesQueued := if 65535 < engine.samplesQueued + count then 65535
      else engine.samplesQueued + count }

/-- The queued bits drain, no more samples are generated, and the counters stay. -/
def abort (engine : CAX25AFSKTX) : CAX25AFSKTX :=
  { engine with bitCount := 0, symbol := 0, sample := 0, active := false }

def busy (engine : CAX25AFSKTX) : Bool := engine.active

def remaining (engine : CAX25AFSKTX) : ℕ :=
  if engine.symbol < engine.bitCount then engine.bitCount - engine.symbol else 0

/-! ### The waveform of a burst -/

/-- The selectors of the burst. -/
def selectors (engine : CAX25AFSKTX) : List Bool :=
  (List.range engine.bitCount).map engine.selector

def increments (selectors : List Bool) : List (BitVec 32) :=
  (hold SAMPLES_PER_SYMBOL selectors).map increment

/-- What a burst sounds like: sixteen samples of an oscillator for each selector. -/
def waveform (selectors : List Bool) : List Bool := oscillate 0 (increments selectors)

/-- How many samples have been generated. -/
def position (engine : CAX25AFSKTX) : ℕ := SAMPLES_PER_SYMBOL * engine.symbol + engine.sample

theorem increments_length (selectors : List Bool) :
    (increments selectors).length = SAMPLES_PER_SYMBOL * selectors.length := by
  rw [increments, List.length_map, hold_length]

theorem waveform_length (selectors : List Bool) :
    (waveform selectors).length = SAMPLES_PER_SYMBOL * selectors.length := by
  rw [waveform, oscillate_length, increments_length]

@[simp] theorem selectors_length (engine : CAX25AFSKTX) :
    engine.selectors.length = engine.bitCount := by
  rw [selectors, List.length_map, List.length_range]

/-- The increment at a position is that of the selector there. -/
theorem getElem?_increments {engine : CAX25AFSKTX} (hsymbol : engine.symbol < engine.bitCount)
    (hsample : engine.sample < SAMPLES_PER_SYMBOL) :
    (increments engine.selectors)[engine.position]? =
      some (increment (engine.selector engine.symbol)) := by
  rw [increments, List.getElem?_map, position, getElem?_hold hsample, selectors,
    List.getElem?_map, List.getElem?_range hsymbol]
  rfl

/-- The selectors of a loaded burst are those that the host has packed. -/
theorem load_selectors {engine : CAX25AFSKTX} {packed : Bytes} {bitCount : ℕ}
    (h : packed.length = (bitCount + 7) / 8) :
    unpackSelectors packed bitCount = .ok (engine.load packed bitCount).selectors := by
  rw [unpackSelectors, if_neg (by omega), selectors]
  congr 1
  refine List.map_congr_left fun i hi => ?_
  have hi : i < bitCount := List.mem_range.mp hi
  have hget : (packed ++ engine.data.drop packed.length).getD (i / 8) 0 =
      packed.getD (i / 8) 0 := by
    rw [List.getD_eq_getElem?_getD, List.getD_eq_getElem?_getD,
      List.getElem?_append_left (by omega)]
  simp only [selector, packedSelector, load, hget]

/-- A burst is refused without a trace, or loaded by an engine and a transmitter at rest. -/
theorem writeSelectors_cases (engine : CAX25AFSKTX) (tx : Bool) (packed : Bytes)
    (bitCount : ℕ) :
    ((engine.writeSelectors tx packed bitCount).2 ≠ 0 ∧
      (engine.writeSelectors tx packed bitCount).1 = engine) ∨
    (engine.writeSelectors tx packed bitCount = (engine.load packed bitCount, 0) ∧
      engine.active = false ∧ tx = false ∧ 1 ≤ bitCount ∧ bitCount ≤ MAX_SELECTORS ∧
      packed.length = (bitCount + 7) / 8) := by
  unfold writeSelectors
  dsimp only
  split
  case isTrue => exact .inl ⟨by simp, rfl⟩
  case isFalse hcount =>
    split
    case isTrue => exact .inl ⟨by simp, rfl⟩
    case isFalse hlength =>
      split
      case isTrue => exact .inl ⟨by simp, rfl⟩
      case isFalse hbusy =>
        rw [not_or, Bool.not_eq_true, Bool.not_eq_true] at hbusy
        exact .inr ⟨rfl, hbusy.1, hbusy.2, by omega, by omega, by omega⟩

/-- What a burst must be, and find, to be accepted. -/
theorem writeSelectors_of_wellFormed {engine : CAX25AFSKTX} {packed : Bytes} {bitCount : ℕ}
    (hactive : engine.active = false) (hpos : 1 ≤ bitCount) (hmax : bitCount ≤ MAX_SELECTORS)
    (hlength : packed.length = (bitCount + 7) / 8) :
    engine.writeSelectors false packed bitCount = (engine.load packed bitCount, 0) := by
  unfold MAX_SELECTORS at hmax
  unfold writeSelectors MAX_SELECTORS MAX_PACKED
  dsimp only
  rw [if_neg (by omega), if_neg (by omega), if_neg (by simp [hactive])]

/-! ### The invariant of the engine -/

structure Playing (engine : CAX25AFSKTX) : Prop where
  bitCount_le : engine.bitCount ≤ MAX_SELECTORS
  symbol_le : engine.symbol ≤ engine.bitCount
  active_iff : engine.active = true ↔ engine.symbol < engine.bitCount
  sample_lt : engine.sample < SAMPLES_PER_SYMBOL
  at_end : engine.symbol = engine.bitCount → engine.sample = 0
  phase : engine.active = true →
    engine.phase = phaseAfter 0 ((increments engine.selectors).take engine.position)

theorem playing_init : init.Playing where
  bitCount_le := by decide
  symbol_le := by decide
  active_iff := by decide
  sample_lt := by decide
  at_end _ := rfl
  phase := by intro h; cases h

theorem Playing.abort {engine : CAX25AFSKTX} : engine.abort.Playing where
  bitCount_le := Nat.zero_le _
  symbol_le := le_refl _
  active_iff := by simp [CAX25AFSKTX.abort]
  sample_lt := Nat.succ_pos 15
  at_end _ := rfl
  phase := by intro h; cases h

theorem Playing.countWrite {engine : CAX25AFSKTX} (h : engine.Playing) (wasTX tx : Bool)
    (count : ℕ) : (engine.countWrite wasTX tx count).Playing :=
  ⟨h.bitCount_le, h.symbol_le, h.active_iff, h.sample_lt, h.at_end, h.phase⟩

theorem playing_load (engine : CAX25AFSKTX) {packed : Bytes} {bitCount : ℕ}
    (hpos : 1 ≤ bitCount) (hmax : bitCount ≤ MAX_SELECTORS) :
    (engine.load packed bitCount).Playing where
  bitCount_le := hmax
  symbol_le := Nat.zero_le _
  active_iff := iff_of_true rfl hpos
  sample_lt := Nat.succ_pos 15
  at_end _ := rfl
  phase _ := rfl

/-- Nothing remains exactly when the engine is not busy. -/
theorem Playing.remaining_eq_zero_iff {engine : CAX25AFSKTX} (h : engine.Playing) :
    engine.remaining = 0 ↔ engine.active = false := by
  have hactive := h.active_iff
  rw [← Bool.not_eq_true, hactive, remaining]
  split <;> omega

theorem Playing.position_of_inactive {engine : CAX25AFSKTX} (h : engine.Playing)
    (hactive : engine.active = false) :
    engine.position = (waveform engine.selectors).length := by
  have hend : engine.symbol = engine.bitCount := by
    have hle := h.symbol_le
    have hnot : ¬ engine.symbol < engine.bitCount := by
      rw [← h.active_iff, hactive]
      decide
    omega
  rw [position, h.at_end hend, hend, waveform_length, selectors_length, Nat.add_zero]

theorem Playing.position_lt {engine : CAX25AFSKTX} (h : engine.Playing)
    (hactive : engine.active = true) :
    engine.position < (waveform engine.selectors).length := by
  have hsymbol := h.active_iff.mp hactive
  have hsample := h.sample_lt
  rw [position, waveform_length, selectors_length]
  have hmul := Nat.mul_le_mul_left SAMPLES_PER_SYMBOL (Nat.succ_le_of_lt hsymbol)
  rw [Nat.mul_succ] at hmul
  omega

/-- A turn of the loop: the sample at the position, and the position behind it. -/
theorem Playing.emitSample {engine : CAX25AFSKTX} (h : engine.Playing)
    (hactive : engine.active = true) :
    engine.emitSample.2.Playing ∧
      engine.emitSample.2.selectors = engine.selectors ∧
      engine.emitSample.2.position = engine.position + 1 ∧
      (waveform engine.selectors).drop engine.position =
        engine.emitSample.1 :: (waveform engine.selectors).drop (engine.position + 1) := by
  have hsymbol := h.active_iff.mp hactive
  have hsample := h.sample_lt
  have hget := getElem?_increments hsymbol hsample
  have hphase : engine.phase + increment (engine.selector engine.symbol) =
      phaseAfter 0 ((increments engine.selectors).take (engine.position + 1)) := by
    rw [List.take_add_one, hget, phaseAfter_append, ← h.phase hactive]
    rfl
  have hwave : (waveform engine.selectors).drop engine.position =
      engine.phase.msb :: (waveform engine.selectors).drop (engine.position + 1) := by
    rw [waveform, drop_oscillate, drop_oscillate, ← hphase, ← h.phase hactive,
      List.drop_eq_getElem?_toList_append, hget]
    rfl
  unfold CAX25AFSKTX.emitSample
  dsimp only
  split
  case isTrue hlast =>
    have hposition : SAMPLES_PER_SYMBOL * (engine.symbol + 1) + 0 = engine.position + 1 := by
      rw [position, Nat.mul_succ]
      omega
    refine ⟨⟨h.bitCount_le, hsymbol, ?_, Nat.succ_pos 15, fun _ => rfl, fun _ => ?_⟩, rfl,
      hposition,
      hwave⟩
    · dsimp only
      split
      case isTrue hdone => simp [not_lt.mpr hdone]
      case isFalse hmore => simp [hactive, not_le.mp hmore]
    · exact hphase.trans (by rw [← hposition]; rfl)
  case isFalse hmore =>
    exact ⟨⟨h.bitCount_le, h.symbol_le, h.active_iff, not_le.mp hmore,
      fun hend => absurd hend hsymbol.ne, fun _ => hphase⟩, rfl, rfl, hwave⟩

/-- The loop hands over the next samples of the waveform, as many as it may or as there are. -/
theorem Playing.generate {engine : CAX25AFSKTX} (h : engine.Playing) (budget : ℕ) :
    (engine.generate budget).2.Playing ∧
      (engine.generate budget).2.selectors = engine.selectors ∧
      (engine.generate budget).2.position =
        engine.position + (engine.generate budget).1.length ∧
      (engine.generate budget).1 =
        ((waveform engine.selectors).drop engine.position).take budget := by
  induction budget generalizing engine with
  | zero => exact ⟨h, rfl, rfl, by rw [List.take_zero]; rfl⟩
  | succ budget ih =>
      unfold CAX25AFSKTX.generate
      by_cases hactive : engine.active = true
      · obtain ⟨hplaying, hselectors, hposition, hwave⟩ := h.emitSample hactive
        obtain ⟨hplaying', hselectors', hposition', hsamples⟩ := ih hplaying
        rw [if_pos hactive]
        rw [hselectors, hposition] at hsamples
        rw [hposition] at hposition'
        refine ⟨hplaying', hselectors'.trans hselectors, ?_, ?_⟩
        · dsimp only
          rw [hposition', List.length_cons]
          omega
        · dsimp only
          rw [hwave, List.take_succ_cons, hsamples]
      · have hend := h.position_of_inactive (Bool.eq_false_iff.mpr hactive)
        rw [if_neg hactive, hend, List.drop_length, List.take_nil]
        exact ⟨h, rfl, rfl, rfl⟩

theorem generate_of_inactive {engine : CAX25AFSKTX} (h : engine.active = false) (budget : ℕ) :
    engine.generate budget = ([], engine) := by
  cases budget with
  | zero => rfl
  | succ budget => rw [generate, h]; rfl

/-- What stops a refill early leaves it nothing to generate. -/
theorem refill_eq_generate (engine : CAX25AFSKTX) (space : ℕ) :
    engine.refill space =
      engine.generate (min (space - CIO_FIFO_RESERVE) CIO_REFILL_MAX) := by
  unfold refill
  cases hactive : engine.active with
  | false => rw [generate_of_inactive hactive]; rfl
  | true =>
      split
      · split
        case isTrue hspace =>
          rw [Nat.sub_eq_zero_of_le hspace, Nat.zero_min]
          rfl
        case isFalse => rfl
      · contradiction

/-- Generating samples leaves the counters. -/
theorem generate_counters (engine : CAX25AFSKTX) (budget : ℕ) :
    (engine.generate budget).2.keyups = engine.keyups ∧
      (engine.generate budget).2.samplesQueued = engine.samplesQueued := by
  induction budget generalizing engine with
  | zero => exact ⟨rfl, rfl⟩
  | succ budget ih =>
      unfold generate
      split
      · have hturn : engine.emitSample.2.keyups = engine.keyups ∧
            engine.emitSample.2.samplesQueued = engine.samplesQueued := by
          unfold emitSample
          dsimp only
          split <;> exact ⟨rfl, rfl⟩
        have hrest := ih engine.emitSample.2
        exact ⟨hrest.1.trans hturn.1, hrest.2.trans hturn.2⟩
      · exact ⟨rfl, rfl⟩

/-- A loop that still has samples to generate has used its budget up. -/
theorem Playing.generate_length {engine : CAX25AFSKTX} (h : engine.Playing) {budget : ℕ}
    (hactive : (engine.generate budget).2.active = true) :
    (engine.generate budget).1.length = budget := by
  obtain ⟨hplaying, hselectors, hposition, hsamples⟩ := h.generate budget
  have hlt := hplaying.position_lt hactive
  rw [hselectors, hposition] at hlt
  have hlength := congrArg List.length hsamples
  rw [List.length_take, List.length_drop] at hlength
  omega

end CAX25AFSKTX

end YwdTnc
