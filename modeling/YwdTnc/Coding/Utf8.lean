import Mathlib.Data.Nat.Notation

/-!
# UTF-8 over lists of octets

The encoding of the standard library on lists. Decoding is strict and inverts encoding;
an ASCII octet of an encoded text is one of its characters.
-/

namespace Coding

def encodeUtf8 (text : List Char) : List (BitVec 8) :=
  (text.flatMap String.utf8EncodeChar).map UInt8.toBitVec

def decodeUtf8 (octets : List (BitVec 8)) : Option (List Char) :=
  (octets.map UInt8.ofBitVec).toByteArray.utf8Decode?.map Array.toList

theorem toByteArray_encodeUtf8 (text : List Char) :
    ((encodeUtf8 text).map UInt8.ofBitVec).toByteArray = text.utf8Encode := by
  have hmap : (encodeUtf8 text).map UInt8.ofBitVec = text.flatMap String.utf8EncodeChar := by
    unfold encodeUtf8
    rw [List.map_map]
    exact List.map_id _
  rw [hmap]
  rfl

theorem decodeUtf8_encodeUtf8 (text : List Char) : decodeUtf8 (encodeUtf8 text) = some text := by
  unfold decodeUtf8
  rw [toByteArray_encodeUtf8, List.utf8Decode?_utf8Encode]
  rfl

theorem encodeUtf8_injective {text text' : List Char} (h : encodeUtf8 text = encodeUtf8 text') :
    text = text' := by
  have hdecode := decodeUtf8_encodeUtf8 text
  rw [h, decodeUtf8_encodeUtf8] at hdecode
  exact (Option.some.inj hdecode).symm

/-- What decodes is the encoding of its text. -/
theorem decodeUtf8_eq_some_iff {octets : List (BitVec 8)} {text : List Char} :
    decodeUtf8 octets = some text ↔ encodeUtf8 text = octets := by
  constructor
  · intro h
    obtain ⟨chars, hchars, htext⟩ := Option.map_eq_some_iff.mp h
    have hsome : ((octets.map UInt8.ofBitVec).toByteArray.utf8Decode?).isSome := by
      rw [hchars]
      rfl
    have hencode := @ByteArray.utf8Encode_get_utf8Decode? _ hsome
    simp only [hchars, Option.get_some, htext] at hencode
    rw [← toByteArray_encodeUtf8, List.toByteArray_inj] at hencode
    have hback := congrArg (List.map UInt8.toBitVec) hencode
    rw [List.map_map, List.map_map] at hback
    exact ((List.map_id _).symm.trans hback).trans (List.map_id _)
  · rintro rfl
    exact decodeUtf8_encodeUtf8 text

/-! ### ASCII octets -/

theorem utf8EncodeChar_of_toNat_lt {c : Char} (h : c.toNat < 128) :
    String.utf8EncodeChar c = [UInt8.ofNat c.toNat] := by
  have hsize : c.utf8Size = 1 :=
    Char.utf8Size_eq_one_iff.mpr (UInt32.le_iff_toNat_le.mpr (Nat.le_of_lt_succ h))
  rw [String.utf8EncodeChar_eq_singleton hsize]
  rfl

/-- The octets of a character beyond ASCII have their top bit set. -/
theorem getLsbD_of_mem_utf8EncodeChar {c : Char} (h : 128 ≤ c.toNat) {octet : UInt8}
    (hmem : octet ∈ String.utf8EncodeChar c) : octet.toBitVec.getLsbD 7 = true := by
  have hone : c.utf8Size ≠ 1 := by
    intro hsize
    have hle := UInt32.le_iff_toNat_le.mp (Char.utf8Size_eq_one_iff.mp hsize)
    exact absurd hle (Nat.not_le.mpr h)
  rcases Char.utf8Size_eq c with hsize | hsize | hsize | hsize
  · exact absurd hsize hone
  · rw [String.utf8EncodeChar_eq_cons_cons hsize] at hmem
    simp only [List.mem_cons, List.not_mem_nil, or_false] at hmem
    rcases hmem with rfl | rfl <;> simp
  · rw [String.utf8EncodeChar_eq_cons_cons_cons hsize] at hmem
    simp only [List.mem_cons, List.not_mem_nil, or_false] at hmem
    rcases hmem with rfl | rfl | rfl <;> simp
  · rw [String.utf8EncodeChar_eq_cons_cons_cons_cons hsize] at hmem
    simp only [List.mem_cons, List.not_mem_nil, or_false] at hmem
    rcases hmem with rfl | rfl | rfl | rfl <;> simp

theorem mem_encodeUtf8_iff {c : Char} (hc : c.toNat < 128) (text : List Char) :
    BitVec.ofNat 8 c.toNat ∈ encodeUtf8 text ↔ c ∈ text := by
  unfold encodeUtf8
  constructor
  · intro hmem
    obtain ⟨octet, hoctet, heq⟩ := List.mem_map.mp hmem
    obtain ⟨d, hd, hoctet⟩ := List.mem_flatMap.mp hoctet
    by_cases hascii : d.toNat < 128
    · rw [utf8EncodeChar_of_toNat_lt hascii, List.mem_singleton] at hoctet
      subst hoctet
      have hnat := congrArg BitVec.toNat heq
      change d.toNat % 256 = c.toNat % 256 at hnat
      have hsame : d.toNat = c.toNat := by omega
      rw [← Char.toNat_inj.mp hsame]
      exact hd
    · have htop := getLsbD_of_mem_utf8EncodeChar (Nat.le_of_not_lt hascii) hoctet
      rw [heq, BitVec.getLsbD_ofNat, Nat.testBit_lt_two_pow hc] at htop
      cases htop
  · intro hmem
    refine List.mem_map.mpr ⟨UInt8.ofNat c.toNat, List.mem_flatMap.mpr ⟨c, hmem, ?_⟩, rfl⟩
    rw [utf8EncodeChar_of_toNat_lt hc]
    exact List.mem_singleton_self _

end Coding
