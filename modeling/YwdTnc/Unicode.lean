import YwdTnc.Basic
import Mathlib.Data.Int.Notation
import Mathlib.Data.List.Basic
import Mathlib.Order.Basic

/-!
# Text

What the code asks of the characters of a string. The tables are those of Unicode; what
they say of an ASCII character is fixed here, and so is that an upper-case text has no
lower-case ASCII letter.
-/

namespace YwdTnc

def isAscii (c : Char) : Bool := c.toNat < 128

/-- The functions of the host language on text: `str.upper` of one character,
`str.isalnum`, `str.isdigit`, whether `str.strip` removes a character, `int` of a text and
the text of a string in a message. -/
structure Unicode where
  upper : Char → List Char
  isAlnum : Char → Bool
  isDigit : Char → Bool
  isSpace : Char → Bool
  int : List Char → Except PyError ℤ
  repr : String → String
  upper_ascii : ∀ c, isAscii c = true → upper c = [c.toUpper]
  isAlnum_ascii : ∀ c, isAscii c = true → isAlnum c = c.isAlphanum
  upper_not_lower : ∀ c, ∀ d ∈ upper c, d.isLower = false

namespace Unicode

variable (u : Unicode)

/-- `text.upper()`. -/
def upperText (text : List Char) : List Char := text.flatMap u.upper

/-- `text.strip()`. -/
def strip (text : List Char) : List Char :=
  ((text.dropWhile u.isSpace).reverse.dropWhile u.isSpace).reverse

variable {u}

theorem not_lower_of_mem_upperText {text : List Char} {c : Char} (h : c ∈ u.upperText text) :
    c.isLower = false := by
  obtain ⟨d, -, hc⟩ := List.mem_flatMap.mp h
  exact u.upper_not_lower d c hc

end Unicode

/-! ### The characters of a callsign -/

/-- `A` to `Z` and `0` to `9`. -/
def isCallChar (c : Char) : Bool := c.isUpper || c.isDigit

theorem isUpper_iff_toNat {c : Char} : c.isUpper = true ↔ 65 ≤ c.toNat ∧ c.toNat ≤ 90 :=
  decide_eq_true_iff

theorem isLower_iff_toNat {c : Char} : c.isLower = true ↔ 97 ≤ c.toNat ∧ c.toNat ≤ 122 :=
  (Bool.and_eq_true _ _).to_iff.trans (and_congr decide_eq_true_iff decide_eq_true_iff)

theorem isDigit_iff_toNat {c : Char} : c.isDigit = true ↔ 48 ≤ c.toNat ∧ c.toNat ≤ 57 :=
  (Bool.and_eq_true _ _).to_iff.trans (and_congr decide_eq_true_iff decide_eq_true_iff)

theorem isAlphanum_iff_toNat {c : Char} :
    c.isAlphanum = true ↔ 65 ≤ c.toNat ∧ c.toNat ≤ 90 ∨ 97 ≤ c.toNat ∧ c.toNat ≤ 122 ∨
      48 ≤ c.toNat ∧ c.toNat ≤ 57 := by
  change ((c.isUpper || c.isLower) || c.isDigit) = true ↔ _
  rw [Bool.or_eq_true, Bool.or_eq_true, isUpper_iff_toNat, isLower_iff_toNat, isDigit_iff_toNat,
    or_assoc]

theorem isCallChar_iff_toNat {c : Char} :
    isCallChar c = true ↔ 65 ≤ c.toNat ∧ c.toNat ≤ 90 ∨ 48 ≤ c.toNat ∧ c.toNat ≤ 57 := by
  unfold isCallChar
  rw [Bool.or_eq_true, isUpper_iff_toNat, isDigit_iff_toNat]

theorem isAscii_of_isCallChar {c : Char} (h : isCallChar c = true) : isAscii c = true := by
  rw [isCallChar_iff_toNat] at h
  exact decide_eq_true (by omega)

theorem isCallChar_iff {c : Char} :
    isCallChar c = true ↔ c.isAlphanum = true ∧ c.isLower = false := by
  rw [← Bool.not_eq_true, isCallChar_iff_toNat, isAlphanum_iff_toNat, isLower_iff_toNat]
  omega

theorem toNat_toUpper (c : Char) :
    c.toUpper.toNat = if c.isLower = true then c.toNat - 32 else c.toNat := by
  unfold Char.toUpper
  by_cases h : 'a'.val ≤ c.val ∧ c.val ≤ 'z'.val
  · have hlower : c.isLower = true := isLower_iff_toNat.mpr h
    have hnat := isLower_iff_toNat.mp hlower
    rw [dif_pos h, if_pos hlower]
    change (c.val + ('A'.val - 'a'.val)).toNat = c.val.toNat - 32
    change 97 ≤ c.val.toNat ∧ c.val.toNat ≤ 122 at hnat
    rw [UInt32.toNat_add]
    change (c.val.toNat + 4294967264) % 2 ^ 32 = c.val.toNat - 32
    omega
  · have hlower : ¬ c.isLower = true := fun hlower => h (isLower_iff_toNat.mp hlower)
    rw [dif_neg h, if_neg hlower]

theorem toUpper_eq_iff {c : Char} : c.toUpper = c ↔ c.isLower = false := by
  rw [← Bool.not_eq_true, ← Char.toNat_inj, toNat_toUpper]
  by_cases h : c.isLower = true
  · have hnat := isLower_iff_toNat.mp h
    rw [if_pos h]
    refine ⟨fun _ => ?_, fun hnot => absurd h hnot⟩
    omega
  · rw [if_neg h]
    exact ⟨fun _ => h, fun _ => rfl⟩

theorem isLower_toUpper (c : Char) : c.toUpper.isLower = false := by
  rw [← Bool.not_eq_true, isLower_iff_toNat, toNat_toUpper]
  by_cases h : c.isLower = true
  · have hnat := isLower_iff_toNat.mp h
    rw [if_pos h]
    omega
  · rw [if_neg h, ← isLower_iff_toNat]
    exact h

theorem toUpper_of_isCallChar {c : Char} (h : isCallChar c = true) : c.toUpper = c :=
  toUpper_eq_iff.mpr (isCallChar_iff.mp h).2

theorem isAlphanum_toUpper_iff {c : Char} :
    c.isAlphanum = true ∧ c.toUpper = c ↔ isCallChar c = true := by
  rw [isCallChar_iff, toUpper_eq_iff]

/-! ### Upper-case text -/

theorem Unicode.upperText_of_isCallChar (u : Unicode) {text : List Char}
    (h : ∀ c ∈ text, isCallChar c = true) : u.upperText text = text := by
  induction text with
  | nil => rfl
  | cons c text ih =>
      have hc := h c List.mem_cons_self
      have hupper : u.upper c = [c] := by
        rw [u.upper_ascii c (isAscii_of_isCallChar hc), toUpper_of_isCallChar hc]
      have hrest := ih fun d hd => h d (List.mem_cons_of_mem c hd)
      unfold upperText at hrest ⊢
      rw [List.flatMap_cons, hupper, hrest, List.singleton_append]

/-! ### Latin-1 -/

def isLatin1Letter (n : ℕ) : Bool :=
  0xC0 ≤ n && n ≤ 0xFF && n ≠ 0xD7 && n ≠ 0xF7 || n ∈ [0xAA, 0xB5, 0xBA]

def isSuperscript (n : ℕ) : Bool := n ∈ [0xB2, 0xB3, 0xB9]

/-- The small letters from `à` on are 32 places behind the capitals, but for three. -/
def latin1Upper (c : Char) : List Char :=
  if isAscii c then [c.toUpper]
  else if c = 'ß' then ['S', 'S']
  else if c = 'µ' then ['Μ']
  else if c = 'ÿ' then ['Ÿ']
  else if 0xE0 ≤ c.toNat && c.toNat ≤ 0xFE && c.toNat ≠ 0xF7 then [Char.ofNat (c.toNat - 32)]
  else [c]

theorem mem_latin1Upper {c d : Char} (h : d ∈ latin1Upper c) :
    (isAscii c = true ∧ d = c.toUpper) ∨ d ∈ ['S', 'Μ', 'Ÿ'] ∨
      (∃ n < 0x100, 0xE0 ≤ n ∧ d = Char.ofNat (n - 32)) ∨ (isAscii c = false ∧ d = c) := by
  unfold latin1Upper at h
  split_ifs at h with hascii hsharp hmicro hy hsmall
  · exact .inl ⟨hascii, List.mem_singleton.mp h⟩
  · simp_all
  · simp_all
  · simp_all
  · simp only [Bool.and_eq_true, decide_eq_true_eq] at hsmall
    exact .inr (.inr (.inl ⟨c.toNat, by omega, hsmall.1.1, List.mem_singleton.mp h⟩))
  · exact .inr (.inr (.inr ⟨Bool.not_eq_true _ ▸ hascii, List.mem_singleton.mp h⟩))

theorem isLower_latin1Upper (c : Char) : ∀ d ∈ latin1Upper c, d.isLower = false := by
  have hhigh : ∀ d : Char, 128 ≤ d.toNat → d.isLower = false := by
    intro d hd
    rw [← Bool.not_eq_true, isLower_iff_toNat]
    omega
  intro d hd
  rcases mem_latin1Upper hd with ⟨-, rfl⟩ | hcapital | ⟨n, hn, hsmall, rfl⟩ | ⟨hascii, rfl⟩
  · exact isLower_toUpper c
  · simp only [List.mem_cons, List.not_mem_nil, or_false] at hcapital
    rcases hcapital with rfl | rfl | rfl
    all_goals rfl
  · have hrange : ∀ n < 0x100, 0xE0 ≤ n → 128 ≤ (Char.ofNat (n - 32)).toNat := by
      decide +kernel
    exact hhigh _ (hrange n hn hsmall)
  · apply hhigh
    simpa [isAscii] using hascii

/-- The tables for the characters of Latin-1; every further one counts as a symbol. -/
def Unicode.latin1 : Unicode where
  upper := latin1Upper
  isAlnum c :=
    if isAscii c then c.isAlphanum
    else isLatin1Letter c.toNat || isSuperscript c.toNat || c.toNat ∈ [0xBC, 0xBD, 0xBE]
  isDigit c := c.isDigit || isSuperscript c.toNat
  isSpace c := 9 ≤ c.toNat && c.toNat ≤ 13 || 28 ≤ c.toNat && c.toNat ≤ 32 ||
    c.toNat = 0x85 || c.toNat = 0xA0
  int text :=
    if text ≠ [] ∧ text.all Char.isDigit then
      .ok (text.foldl (fun n c => 10 * n + (c.toNat - 48)) 0)
    else .error (.valueError ("invalid literal for int() with base 10: '" ++
      String.ofList text ++ "'"))
  repr text := "'" ++ text ++ "'"
  upper_ascii _ h := if_pos h
  isAlnum_ascii _ h := if_pos h
  upper_not_lower := isLower_latin1Upper

end YwdTnc
