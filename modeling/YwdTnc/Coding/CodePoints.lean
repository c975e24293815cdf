import YwdTnc.Coding.Printable

/-!
# Texts of code points

A text may hold surrogates that stand alone; no encoding of Unicode has octets for them. A
text is a string of characters exactly when it has none, and then it can be encoded.
-/

namespace Coding

/-- A character, or a surrogate that stands alone. -/
inductive CodePoint where
  | char (c : Char)
  | surrogate (n : Fin 0x800)
  deriving DecidableEq, Repr

def CodePoint.value : CodePoint → ℕ
  | char c => c.toNat
  | surrogate n => 0xD800 + n

/-- The code points of a string. -/
def codes (s : String) : List CodePoint := s.toList.map .char

@[simp] theorem codes_empty : codes "" = [] := rfl

@[simp] theorem codes_append (s s' : String) : codes (s ++ s') = codes s ++ codes s' := by
  simp [codes]

theorem char_injective : Function.Injective CodePoint.char := fun _ _ h =>
  CodePoint.char.inj h

theorem codes_injective : Function.Injective codes := fun _ _ h =>
  String.toList_injective (List.map_injective_iff.mpr char_injective h)

@[simp] theorem codes_inj {s s' : String} : codes s = codes s' ↔ s = s' :=
  codes_injective.eq_iff

@[simp] theorem codes_beq (s s' : String) : (codes s == codes s') = (s == s') := by
  rw [Bool.eq_iff_iff, beq_iff_eq, beq_iff_eq, codes_inj]

theorem codes_intercalate (separator : String) (texts : List String) :
    (codes separator).intercalate (texts.map codes) = codes (separator.intercalate texts) := by
  induction texts with
  | nil => rfl
  | cons text texts ih =>
      cases texts with
      | nil => simp [List.intercalate_singleton]
      | cons next texts =>
          rw [List.map_cons, List.map_cons, List.intercalate_cons_cons, ← List.map_cons, ih,
            String.intercalate_cons_cons, codes_append, codes_append]

/-! ### Encoding -/

/-- The characters of a text, unless a surrogate stands alone in it. -/
def characters : List CodePoint → Option (List Char)
  | [] => some []
  | .char c :: text => (characters text).map (c :: ·)
  | .surrogate _ :: _ => none

/-- The string that a text is. -/
def encodeCodes (text : List CodePoint) : Option String := (characters text).map String.ofList

/-- No surrogate stands alone. -/
def Encodes (text : List CodePoint) : Prop := ∀ n, CodePoint.surrogate n ∉ text

theorem characters_map_char (chars : List Char) : characters (chars.map .char) = some chars := by
  induction chars with
  | nil => rfl
  | cons c chars ih => rw [List.map_cons, characters, ih, Option.map_some]

@[simp] theorem encodeCodes_codes (s : String) : encodeCodes (codes s) = some s := by
  rw [encodeCodes, codes, characters_map_char, Option.map_some, String.ofList_toList]

@[simp] theorem encodes_codes (s : String) : Encodes (codes s) := by
  intro n hmem
  obtain ⟨c, -, hc⟩ := List.mem_map.mp hmem
  cases hc

theorem encodes_append {text text' : List CodePoint} :
    Encodes (text ++ text') ↔ Encodes text ∧ Encodes text' := by
  simp [Encodes, forall_and]

/-- The texts that can be encoded are the strings. -/
theorem encodes_iff {text : List CodePoint} : Encodes text ↔ ∃ s, text = codes s := by
  constructor
  · intro h
    induction text with
    | nil => exact ⟨"", rfl⟩
    | cons point text ih =>
        obtain ⟨s, rfl⟩ := ih fun n hmem => h n (List.mem_cons_of_mem _ hmem)
        cases point with
        | char c => exact ⟨String.ofList (c :: s.toList), by simp [codes]⟩
        | surrogate n => exact absurd List.mem_cons_self (h n)
  · rintro ⟨s, rfl⟩
    exact encodes_codes s

theorem encodeCodes_of_not_encodes {text : List CodePoint} (h : ¬ Encodes text) :
    encodeCodes text = none := by
  induction text with
  | nil => exact absurd (encodes_codes "") h
  | cons point text ih =>
      cases point with
      | surrogate n => rfl
      | char c =>
          have hrest : ¬ Encodes text := fun hrest => h (by
            rintro n (_ | ⟨_, hmem⟩)
            exact hrest n hmem)
          have hnone := Option.map_eq_none_iff.mp (ih hrest)
          rw [encodeCodes, characters, hnone]
          rfl

theorem encodeCodes_eq_some_iff {text : List CodePoint} {s : String} :
    encodeCodes text = some s ↔ text = codes s := by
  constructor
  · intro h
    by_cases hencodes : Encodes text
    · obtain ⟨s', rfl⟩ := encodes_iff.mp hencodes
      rw [encodeCodes_codes, Option.some.injEq] at h
      rw [h]
    · rw [encodeCodes_of_not_encodes hencodes] at h
      cases h
  · rintro rfl
    exact encodeCodes_codes s

/-! ### Lines -/

def CodePoint.isLineBreak : CodePoint → Bool
  | char c => Coding.isLineBreak c
  | surrogate _ => false

/-- No code point that ends a line. -/
def UnbrokenCodes (text : List CodePoint) : Prop := ∀ point ∈ text, point.isLineBreak = false

instance (text : List CodePoint) : Decidable (UnbrokenCodes text) :=
  inferInstanceAs (Decidable (∀ point ∈ text, point.isLineBreak = false))

theorem unbrokenCodes_codes {s : String} : UnbrokenCodes (codes s) ↔ Unbroken s.toList := by
  simp [UnbrokenCodes, Unbroken, codes, CodePoint.isLineBreak]

theorem unbrokenCodes_append {text text' : List CodePoint} :
    UnbrokenCodes (text ++ text') ↔ UnbrokenCodes text ∧ UnbrokenCodes text' := by
  simp [UnbrokenCodes, or_imp, forall_and]

theorem Printable.unbrokenCodes {s : String} (h : Printable s) : UnbrokenCodes (codes s) :=
  unbrokenCodes_codes.mpr h.unbroken

end Coding
