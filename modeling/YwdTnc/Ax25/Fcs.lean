import YwdTnc.Ax25.Codec
import YwdTnc.Coding.ShiftRegister
import YwdTnc.Phy.Bell202Tx

/-!
# Errors that the FCS detects

`crc_x25` is a shift register that is fed the octets of a frame in the order of
transmission, and a frame passes the check when the register ends on one residue. An error
pattern is found when it leaves an empty register that is not empty.
-/

namespace YwdTnc

open Coding

/-- The taps of CRC-16/X-25, the lowest degree on top. -/
def crcTaps : BitVec 16 := 0x8408

/-- What the register holds after a frame with its FCS. -/
def crcResidue : BitVec 16 := 0xF0B8

theorem crcTaps_top : crcTaps.getLsbD (16 - 1) = true := by decide

theorem parity_crcTaps : parity (bits crcTaps) = true := by decide

theorem crcByte_eq_feed (crc : BitVec 16) (byte : Byte) :
    crcByte crc byte = feed crcTaps crc (byteBits byte) := by
  have hpack : pack 16 (byteBits byte) = byte.setWidth 16 := by
    apply BitVec.eq_of_getLsbD_eq
    intro i hi
    rw [getLsbD_pack _ hi, BitVec.getLsbD_setWidth, byteBits, List.getD_eq_getElem?_getD,
      List.getElem?_map]
    by_cases hlow : i < 8
    · simp [hi, hlow]
    · simp [hlow, BitVec.getLsbD_of_ge byte i (by omega)]
  have hlength : (byteBits byte).length = 8 := by simp [byteBits]
  rw [feed_eq_shift_pack _ _ _ (by omega), hlength, hpack]
  rfl

theorem foldl_crcByte (data : Bytes) (crc : BitVec 16) :
    data.foldl crcByte crc = feed crcTaps crc (byteBitsLsb data) := by
  induction data generalizing crc with
  | nil => rfl
  | cons byte data ih =>
      rw [List.foldl_cons, ih, crcByte_eq_feed, ← feed_append]
      rfl

/-- The two octets of an FCS as the register reads them. -/
theorem pack_fcs (low high : Byte) :
    pack 16 (byteBitsLsb [low, high]) = high.setWidth 16 <<< 8 ||| low.setWidth 16 := by
  apply BitVec.eq_of_getLsbD_eq
  intro i hi
  have hbits : byteBitsLsb [low, high] = byteBits low ++ byteBits high := by
    simp [byteBitsLsb]
  rw [getLsbD_pack _ hi, hbits, List.getD_eq_getElem?_getD, List.getElem?_append,
    BitVec.getLsbD_or, BitVec.getLsbD_shiftLeft, BitVec.getLsbD_setWidth,
    BitVec.getLsbD_setWidth]
  by_cases hlow : i < 8
  · simp [byteBits, hi, hlow]
  · have hhigh : i - 8 < 8 := by omega
    have hnext : i - 8 < 16 := by omega
    simp [byteBits, hi, hlow, hhigh, hnext, BitVec.getLsbD_of_ge low i (by omega)]

/-- The check is one on the register after the whole frame. -/
theorem verifyFcs_append (data : Bytes) (low high : Byte) :
    verifyFcs (data ++ [low, high]) = true ↔
      feed crcTaps 0xFFFF (byteBitsLsb (data ++ [low, high])) = crcResidue := by
  have hlength : (data ++ [low, high]).length - 2 = data.length := by simp
  have hcheck : verifyFcs (data ++ [low, high]) = true ↔
      crcX25 data = high.setWidth 16 <<< 8 ||| low.setWidth 16 := by
    unfold verifyFcs
    rw [if_neg (by simp), hlength, List.drop_left, List.take_left]
    exact decide_eq_true_iff
  have hfeed : feed crcTaps 0xFFFF (byteBitsLsb (data ++ [low, high])) =
      (shift crcTaps)^[16] (data.foldl crcByte 0xFFFF ^^^
        (high.setWidth 16 <<< 8 ||| low.setWidth 16)) := by
    rw [byteBitsLsb, List.flatMap_append, feed_append, ← pack_fcs, foldl_crcByte]
    exact feed_eq_shift_pack crcTaps (byteBitsLsb [low, high]) _ (by simp)
  have hresidue : (shift crcTaps)^[16] 0xFFFF = crcResidue := by decide +kernel
  rw [hcheck, hfeed, ← hresidue, (iterate_shift_injective crcTaps_top 16).eq_iff, crcX25]
  generalize data.foldl crcByte 0xFFFF = crc
  generalize high.setWidth 16 <<< 8 ||| low.setWidth 16 = fcs
  constructor
  · rintro rfl
    rw [← BitVec.xor_assoc, BitVec.xor_self, BitVec.zero_xor]
  · intro h
    rw [← h, ← BitVec.xor_assoc, BitVec.xor_self, BitVec.zero_xor]

theorem verifyFcs_iff {frame : Bytes} (h : 2 ≤ frame.length) :
    verifyFcs frame = true ↔ feed crcTaps 0xFFFF (byteBitsLsb frame) = crcResidue := by
  have hsplit := List.take_append_drop (frame.length - 2) frame
  have hlength : (frame.drop (frame.length - 2)).length = 2 := by
    rw [List.length_drop]
    omega
  obtain ⟨low, high, hfcs⟩ := List.length_eq_two.mp hlength
  rw [← hsplit, hfcs]
  exact verifyFcs_append _ _ _

/-! ### Errors -/

/-- The frame with the bits of `error` inverted. -/
def corrupt (frame error : Bytes) : Bytes := List.zipWith (· ^^^ ·) frame error

theorem byteBits_xor (byte error : Byte) :
    byteBits (byte ^^^ error) = List.zipWith xor (byteBits byte) (byteBits error) := by
  simp only [byteBits, BitVec.getLsbD_xor, List.zipWith_map_left, List.zipWith_map_right,
    List.zipWith_self]

theorem byteBitsLsb_corrupt : ∀ {frame error : Bytes}, frame.length = error.length →
    byteBitsLsb (corrupt frame error) =
      List.zipWith xor (byteBitsLsb frame) (byteBitsLsb error)
  | [], [], _ => rfl
  | byte :: frame, e :: error, h => by
      have hlength : (byteBits byte).length = (byteBits e).length := by simp [byteBits]
      have ih := byteBitsLsb_corrupt (Nat.succ.inj h)
      simp only [byteBitsLsb, corrupt, List.zipWith_cons_cons, List.flatMap_cons] at ih ⊢
      rw [ih, byteBits_xor, List.zipWith_append hlength]

/-- Every burst of errors within 16 bits and every odd number of errors is detected,
wherever it is in the frame with its FCS. -/
theorem verifyFcs_corrupt (frame error : Bytes) (hframe : verifyFcs frame = true)
    (hlength : error.length = frame.length) (hne : true ∈ byteBitsLsb error)
    (herror : Within 16 (byteBitsLsb error) ∨ (byteBitsLsb error).count true % 2 = 1) :
    verifyFcs (corrupt frame error) = false := by
  have hframeLength : 2 ≤ frame.length := by
    by_contra hshort
    rw [verifyFcs, if_pos (by omega)] at hframe
    cases hframe
  have hcorruptLength : 2 ≤ (corrupt frame error).length := by
    rw [corrupt, List.length_zipWith, hlength, Nat.min_self]
    exact hframeLength
  have hbits : (byteBitsLsb frame).length = (byteBitsLsb error).length := by
    rw [byteBitsLsb_length, byteBitsLsb_length, hlength]
  have herrorNe : feed crcTaps 0#16 (byteBitsLsb error) ≠ 0#16 := by
    rcases herror with hburst | hodd
    · exact feed_within_ne_zero crcTaps_top hburst hne
    · exact feed_odd_ne_zero (by decide) parity_crcTaps ((parity_eq_true_iff _).mpr hodd)
  -- the register of the corrupted frame is off by what the error leaves in an empty one
  have hfeed := feed_xor crcTaps _ _ 0xFFFF 0#16 hbits
  rw [BitVec.xor_zero, ← byteBitsLsb_corrupt hlength.symm, (verifyFcs_iff hframeLength).mp hframe]
    at hfeed
  rw [← Bool.not_eq_true, verifyFcs_iff hcorruptLength, hfeed]
  intro hresidue
  exact herrorNe (BitVec.xor_right_inj crcResidue |>.mp (hresidue.trans BitVec.xor_zero.symm))

/-- Three errors across the end of the data. -/
theorem verifyFcs_corrupt_boundary :
    verifyFcs (corrupt (appendFcs receiveReady) (List.replicate 14 0 ++ [0x80, 0x03, 0])) =
      false :=
  verifyFcs_corrupt _ _ (verifyFcs_appendFcs receiveReady) (by decide) (by decide)
    (.inr (by decide))

end YwdTnc
