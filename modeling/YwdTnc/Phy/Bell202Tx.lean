import YwdTnc.Basic
import YwdTnc.Coding.BitStuffing

/-!
# Bell-202 serialization

An FCS-bearing frame becomes an HDLC burst (octets least significant bit first,
zero insertion, opening and closing flags), then NRZI tone selectors, then the
packed octets of the modem link. Bits are `Bool`, and so are tone selectors.
-/

namespace YwdTnc

open Coding

def FLAG : Byte := 0x7E

/-- Tone selectors: MARK is 1200 Hz, SPACE is 2200 Hz. -/
def MARK : Bool := false
def SPACE : Bool := true

def byteBits (byte : Byte) : List Bool :=
  (List.range 8).map fun bit => byte.getLsbD bit

/-- Every octet least significant bit first. -/
def byteBitsLsb (data : Bytes) : List Bool := data.flatMap byteBits

def flagBits : List Bool := byteBitsLsb [FLAG]

theorem flagBits_eq :
    flagBits = [false, true, true, true, true, true, true, false] := by
  decide

/-- Insert a zero after every run of five consecutive one bits. -/
def stuffBits (bits : List Bool) : List Bool := stuff 5 bits

/-- Reverse the stuffing; a run of five ones that no zero follows is an
error. -/
def unstuffBits (bits : List Bool) : Except PyError (List Bool) :=
  match unstuff 5 bits with
  | some out => .ok out
  | none => .error (.valueError "invalid HDLC bit stuffing")

theorem unstuffBits_stuffBits (bits : List Bool) :
    unstuffBits (stuffBits bits) = .ok bits := by
  rw [unstuffBits, stuffBits, unstuff_stuff]

def hdlcBits (frameWithFcs : Bytes) (preFlags postFlags : ℕ) :
    Except PyError (List Bool) :=
  if frameWithFcs = [] then .error (.valueError "AX.25 frame cannot be empty")
  else if preFlags < 1 ∨ postFlags < 1 then
    .error (.valueError "at least one opening and closing flag is required")
  else
    .ok ((List.replicate preFlags flagBits).flatten ++
      stuffBits (byteBitsLsb frameWithFcs) ++
      (List.replicate postFlags flagBits).flatten)

/-- AX.25 NRZI: a zero changes the tone, a one holds it. -/
def nrziEncode (tone : Bool) : List Bool → List Bool
  | [] => []
  | bit :: bits =>
      let tone' := if bit then tone else !tone
      tone' :: nrziEncode tone' bits

def nrziDecode (previous : Bool) : List Bool → List Bool
  | [] => []
  | tone :: tones => (tone == previous) :: nrziDecode tone tones

@[simp] theorem nrziEncode_length (tone : Bool) (bits : List Bool) :
    (nrziEncode tone bits).length = bits.length := by
  induction bits generalizing tone with
  | nil => rfl
  | cons bit bits ih => simp [nrziEncode, ih]

theorem nrziDecode_nrziEncode (tone : Bool) (bits : List Bool) :
    nrziDecode tone (nrziEncode tone bits) = bits := by
  induction bits generalizing tone with
  | nil => rfl
  | cons bit bits ih =>
      simp only [nrziEncode, nrziDecode, ih]
      cases bit <;> cases tone <;> rfl

/-- Pack tone selectors most significant bit first. -/
def packSelectors (selectors : List Bool) : Bytes :=
  selectors.zipIdx.foldl
    (fun out (value, i) =>
      if value then out.modify (i / 8) (· ||| 0x80 >>> (i % 8)) else out)
    (List.replicate ((selectors.length + 7) / 8) 0)

/-- The selector at position `i` of packed octets. -/
def packedSelector (packed : Bytes) (i : ℕ) : Bool :=
  packed.getD (i / 8) 0 &&& 0x80 >>> (i % 8) ≠ 0

/-- Unpack the selectors of the modem link. -/
def unpackSelectors (packed : Bytes) (bitCount : ℕ) : Except PyError (List Bool) :=
  if packed.length * 8 < bitCount then .error (.valueError "invalid selector bit count")
  else .ok ((List.range bitCount).map (packedSelector packed))

def frameToSelectors (frameWithFcs : Bytes) (preFlags postFlags : ℕ)
    (initialTone : Bool) : Except PyError (List Bool) :=
  match hdlcBits frameWithFcs preFlags postFlags with
  | .error e => .error e
  | .ok bits => .ok (nrziEncode initialTone bits)

/-! ### Lengths -/

@[simp] theorem byteBitsLsb_length (data : Bytes) :
    (byteBitsLsb data).length = 8 * data.length := by
  induction data with
  | nil => rfl
  | cons byte data ih =>
      rw [byteBitsLsb, List.flatMap_cons, List.length_append]
      rw [byteBitsLsb] at ih
      simp only [ih, byteBits, List.length_map, List.length_range,
        List.length_cons]
      omega

@[simp] theorem flags_length (n : ℕ) :
    ((List.replicate n flagBits).flatten).length = 8 * n := by
  induction n with
  | zero => rfl
  | succ n ih =>
      rw [List.replicate_succ, List.flatten_cons, List.length_append, ih,
        flagBits_eq]
      simp only [List.length_cons, List.length_nil]
      omega

theorem packSelectors_length (selectors : List Bool) :
    (packSelectors selectors).length = (selectors.length + 7) / 8 := by
  have hfold : ∀ (pairs : List (Bool × ℕ)) (out : Bytes),
      (pairs.foldl (fun (out : Bytes) (p : Bool × ℕ) =>
        if p.1 then out.modify (p.2 / 8) (· ||| 0x80 >>> (p.2 % 8)) else out)
        out).length = out.length := by
    intro pairs
    induction pairs with
    | nil => intro out; rfl
    | cons p pairs ih =>
        intro out
        rw [List.foldl_cons, ih]
        split
        · exact List.length_modify _ _ _
        · rfl
  exact (hfold _ _).trans (List.length_replicate)

/-- The burst of a nonempty frame. -/
theorem frameToSelectors_eq {frame : Bytes} {preFlags postFlags : ℕ}
    (initialTone : Bool) (hframe : frame ≠ []) (hpre : 1 ≤ preFlags)
    (hpost : 1 ≤ postFlags) :
    frameToSelectors frame preFlags postFlags initialTone =
      .ok (nrziEncode initialTone
        ((List.replicate preFlags flagBits).flatten ++
          stuffBits (byteBitsLsb frame) ++
          (List.replicate postFlags flagBits).flatten)) := by
  rw [frameToSelectors, hdlcBits, if_neg hframe, if_neg (by omega)]

/-! ### Transparency -/

theorem stuffBits_of_unstuffBits {bits out : List Bool} (h : unstuffBits bits = .ok out) :
    stuffBits out = bits := by
  unfold unstuffBits at h
  split at h
  case h_1 out' hout =>
    cases h
    exact stuff_of_unstuff hout
  case h_2 => cases h

theorem flagBits_eq_flag : flagBits = flag 5 := by decide

/-- The burst of a nonempty frame, between its flags. -/
theorem hdlcBits_ok {frame : Bytes} {preFlags postFlags : ℕ} (hframe : frame ≠ [])
    (hpre : 1 ≤ preFlags) (hpost : 1 ≤ postFlags) :
    hdlcBits frame preFlags postFlags =
      .ok (flags 5 preFlags ++ stuff 5 (byteBitsLsb frame) ++ flags 5 postFlags) := by
  rw [hdlcBits, if_neg hframe, if_neg (by omega), flagBits_eq_flag]
  rfl

/-- Stuffing and unstuffing are inverse to each other, and a flag stands in a
burst exactly where the sender put one. -/
theorem stuffBits_bijective_transparent :
    (∀ bits, unstuffBits (stuffBits bits) = .ok bits) ∧
    (∀ stuffed bits, unstuffBits stuffed = .ok bits → stuffBits bits = stuffed) ∧
    ∀ (frame : Bytes) (preFlags postFlags : ℕ), frame ≠ [] → 1 ≤ preFlags → 1 ≤ postFlags →
      ∃ bits, hdlcBits frame preFlags postFlags = .ok bits ∧
        ∀ i, (bits.drop i).take 8 = [false, true, true, true, true, true, true, false] ↔
          (∃ j < preFlags, i = 8 * j) ∨
            ∃ j < postFlags,
              i = 8 * preFlags + (stuffBits (byteBitsLsb frame)).length + 8 * j := by
  refine ⟨unstuffBits_stuffBits, fun stuffed bits h => stuffBits_of_unstuffBits h, ?_⟩
  intro frame preFlags postFlags hframe hpre hpost
  refine ⟨_, hdlcBits_ok hframe hpre hpost, fun i => ?_⟩
  have hburst := flagAt_burst (n := 5) (by decide) preFlags hpost (byteBitsLsb frame) i
  rw [FlagAt, List.prefix_iff_eq_take, eq_comm] at hburst
  simp only [Nat.mul_comm _ (5 + 3)] at hburst
  exact hburst

/-- The shortest burst of one octet has its flags at the offsets 0 and 17. -/
theorem stuffBits_bijective_transparent_oneOctet :
    stuffBits [true, true, true, true, true, false] = [true, true, true, true, true, false, false] ∧
    ∃ bits, hdlcBits [0xFF] 1 1 = .ok bits ∧
      ∀ i, (bits.drop i).take 8 = [false, true, true, true, true, true, true, false] ↔
        (∃ j < 1, i = 8 * j) ∨
          ∃ j < 1, i = 8 * 1 + (stuffBits (byteBitsLsb [0xFF])).length + 8 * j :=
  ⟨stuffBits_bijective_transparent.2.1 _ _ rfl,
    stuffBits_bijective_transparent.2.2 [0xFF] 1 1 (by decide) (by decide) (by decide)⟩

/-! ### The packed octets -/

/-- The mask of position `j` is one bit, the highest first. -/
theorem mask_twoPow : ∀ j < 8, ((0x80 >>> j : ℕ) : Byte) = BitVec.twoPow 8 (7 - j) := by decide

theorem and_mask_ne_zero (byte : Byte) {j : ℕ} (hj : j < 8) :
    byte &&& 0x80 >>> j ≠ 0 ↔ byte.getLsbD (7 - j) = true := by
  rw [mask_twoPow j hj, BitVec.and_twoPow]
  by_cases hbit : byte.getLsbD (7 - j) = true
  · rw [if_pos hbit, ← mask_twoPow j hj]
    have hmask : ∀ j < 8, ((0x80 >>> j : ℕ) : Byte) ≠ 0 := by decide
    exact iff_of_true (hmask j hj) hbit
  · rw [if_neg hbit]
    exact iff_of_false (fun h => h rfl) hbit

theorem mask_or_ne_zero (byte : Byte) : ∀ i < 8, ∀ j < 8,
    (byte ||| 0x80 >>> i) &&& 0x80 >>> j ≠ 0 ↔ j = i ∨ byte &&& 0x80 >>> j ≠ 0 := by
  intro i hi j hj
  have hmask : ((0x80 >>> i : ℕ) : Byte).getLsbD (7 - j) = true ↔ j = i := by
    revert i j
    decide
  rw [and_mask_ne_zero _ hj, and_mask_ne_zero _ hj, BitVec.getLsbD_or, Bool.or_eq_true, hmask,
    or_comm]

theorem packedSelector_modify {packed : Bytes} {i : ℕ} (hi : i / 8 < packed.length) (j : ℕ) :
    packedSelector (packed.modify (i / 8) (· ||| 0x80 >>> (i % 8))) j =
      (decide (j = i) || packedSelector packed j) := by
  rw [packedSelector, packedSelector, List.getD_eq_getElem?_getD, List.getD_eq_getElem?_getD,
    List.getElem?_modify]
  by_cases hsame : i / 8 = j / 8
  · have hj : j / 8 < packed.length := by omega
    have hpos : j = i ↔ j % 8 = i % 8 := by omega
    simp only [if_pos hsame, List.getElem?_eq_getElem hj, Option.map_eq_map, Option.map_some,
      Option.getD_some]
    rw [Bool.eq_iff_iff, Bool.or_eq_true, decide_eq_true_iff, decide_eq_true_iff,
      decide_eq_true_iff, hpos]
    exact mask_or_ne_zero _ _ (Nat.mod_lt _ (by decide)) _ (Nat.mod_lt _ (by decide))
  · have hne : j ≠ i := by
      rintro rfl
      exact hsame rfl
    simp only [if_neg hsame, Option.map_eq_map, Option.map_id_fun', id_eq, hne, decide_false,
      Bool.false_or]

/-- What the packing loop leaves at position `j`, from any octets `out`. -/
theorem packedSelector_foldl (selectors : List Bool) : ∀ (start : ℕ) (out : Bytes) (j : ℕ),
    start + selectors.length ≤ out.length * 8 →
    packedSelector ((selectors.zipIdx start).foldl
      (fun out (value, i) =>
        if value then out.modify (i / 8) (· ||| 0x80 >>> (i % 8)) else out) out) j =
      (packedSelector out j || decide (start ≤ j) && selectors.getD (j - start) false) := by
  induction selectors with
  | nil =>
      intro start out j _
      simp
  | cons value selectors ih =>
      intro start out j hfits
      rw [List.length_cons] at hfits
      have hnext : ∀ out' : Bytes, out'.length = out.length →
          start + 1 + selectors.length ≤ out'.length * 8 := by
        intro out' hlength
        rw [hlength]
        omega
      have hrest : (decide (start ≤ j) && (value :: selectors).getD (j - start) false) =
          (decide (j = start) && value ||
            decide (start + 1 ≤ j) && selectors.getD (j - (start + 1)) false) := by
        rcases Nat.lt_trichotomy j start with hlt | rfl | hgt
        · simp [show ¬ start ≤ j by omega, show ¬ j = start by omega, show ¬ start + 1 ≤ j by omega]
        · simp [show ¬ j + 1 ≤ j by omega]
        · obtain ⟨k, rfl⟩ := Nat.exists_eq_add_of_lt hgt
          have hk : start + k + 1 - start = k + 1 := by omega
          have hk' : start + k + 1 - (start + 1) = k := by omega
          rw [hk, hk', List.getD_cons_succ]
          simp [show start ≤ start + k + 1 by omega, show ¬ start + k + 1 = start by omega,
            show start + 1 ≤ start + k + 1 by omega]
      rw [hrest, List.zipIdx_cons, List.foldl_cons]
      cases value with
      | false =>
          simp only [Bool.false_eq_true, if_false]
          rw [ih (start + 1) out j (hnext out rfl), Bool.and_false, Bool.false_or]
      | true =>
          have hi : start / 8 < out.length := by omega
          simp only [if_true]
          rw [ih (start + 1) _ j (hnext _ (List.length_modify _ _ _)), packedSelector_modify hi,
            Bool.and_true, ← Bool.or_assoc, Bool.or_comm (packedSelector out j)]

theorem unpackSelectors_packSelectors (selectors : List Bool) :
    unpackSelectors (packSelectors selectors) selectors.length = .ok selectors := by
  have hroom : ¬ (packSelectors selectors).length * 8 < selectors.length := by
    rw [packSelectors_length]
    omega
  rw [unpackSelectors, if_neg hroom]
  congr 1
  refine List.ext_getElem (by simp) fun i hi hi' => ?_
  rw [List.getElem_map, List.getElem_range, packSelectors,
    packedSelector_foldl selectors 0 _ i (by simp; omega)]
  have hzero : packedSelector (List.replicate ((selectors.length + 7) / 8) 0) i = false := by
    rw [packedSelector, List.getD_eq_getElem?_getD, List.getElem?_replicate]
    split <;> simp
  rw [hzero, Nat.sub_zero, List.getD_eq_getElem?_getD, List.getElem?_eq_getElem hi',
    decide_eq_true (Nat.zero_le i)]
  rfl

end YwdTnc
