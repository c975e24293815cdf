import YwdTnc.Coding.TextLines
import Mathlib.Data.Nat.Notation
import Mathlib.Data.Int.Notation

/-!
# Printable text

The printable ASCII characters are those from the space to the tilde. None of them ends a
line, so a printable text is one line wherever it is written.
-/

namespace Coding

def isPrintable (c : Char) : Bool := 32 ≤ c.toNat && c.toNat ≤ 126

/-- Nothing but printable ASCII. -/
def Printable (text : String) : Prop := ∀ c ∈ text.toList, isPrintable c = true

instance (text : String) : Decidable (Printable text) :=
  decidable_of_iff (text.toList.all isPrintable = true) List.all_eq_true

theorem isPrintable_iff {c : Char} : isPrintable c = true ↔ 32 ≤ c.toNat ∧ c.toNat ≤ 126 := by
  simp [isPrintable]

theorem isLineBreak_of_isPrintable {c : Char} (h : isPrintable c = true) :
    isLineBreak c = false := by
  rw [isPrintable_iff] at h
  simp only [isLineBreak, Bool.or_eq_false_iff, Bool.and_eq_false_iff, decide_eq_false_iff_not]
  omega

theorem Printable.unbroken {text : String} (h : Printable text) : Unbroken text.toList :=
  fun c hc => isLineBreak_of_isPrintable (h c hc)

theorem printable_of_all {text : String} (h : text.toList.all isPrintable = true) :
    Printable text :=
  List.all_eq_true.mp h

@[simp] theorem printable_empty : Printable "" := printable_of_all rfl

@[simp] theorem printable_append {text text' : String} :
    Printable (text ++ text') ↔ Printable text ∧ Printable text' := by
  simp [Printable, or_imp, forall_and]

theorem printable_ofList {chars : List Char} :
    Printable (String.ofList chars) ↔ ∀ c ∈ chars, isPrintable c = true := by
  simp [Printable]

/-! ### Texts of many parts -/

theorem printable_join {texts : List String} (h : ∀ text ∈ texts, Printable text) :
    Printable (String.join texts) := by
  induction texts with
  | nil => exact printable_empty
  | cons text texts ih =>
      rw [String.join_cons, printable_append]
      exact ⟨h text List.mem_cons_self, ih fun text' ht => h text' (List.mem_cons_of_mem _ ht)⟩

theorem printable_intercalate {separator : String} {texts : List String}
    (hseparator : Printable separator) (h : ∀ text ∈ texts, Printable text) :
    Printable (separator.intercalate texts) := by
  induction texts with
  | nil => exact printable_empty
  | cons text texts ih =>
      have htext := h text List.mem_cons_self
      have htexts : ∀ text' ∈ texts, Printable text' :=
        fun text' ht => h text' (List.mem_cons_of_mem _ ht)
      cases texts with
      | nil => simpa using htext
      | cons next texts =>
          rw [String.intercalate_cons_cons, printable_append, printable_append]
          exact ⟨⟨htext, hseparator⟩, ih htexts⟩

/-- Every part is somewhere in the text. -/
theorem infix_intercalate {separator text : String} {texts : List String} (h : text ∈ texts) :
    text.toList <:+: (separator.intercalate texts).toList := by
  induction texts with
  | nil => cases h
  | cons first texts ih =>
      cases texts with
      | nil =>
          obtain rfl := List.mem_singleton.mp h
          simp
      | cons next texts =>
          rw [String.intercalate_cons_cons, String.toList_append, String.toList_append]
          rcases List.mem_cons.mp h with rfl | hmem
          · exact ⟨[], separator.toList ++ _, by rw [List.nil_append, List.append_assoc]⟩
          · exact (ih hmem).trans (List.suffix_append _ _).isInfix

/-! ### Numbers -/

theorem isPrintable_of_isDigit {c : Char} (h : c.isDigit = true) : isPrintable c = true := by
  have hrange : 48 ≤ c.toNat ∧ c.toNat ≤ 57 :=
    ((Bool.and_eq_true _ _).to_iff.trans (and_congr decide_eq_true_iff decide_eq_true_iff)).mp h
  rw [isPrintable_iff]
  omega

theorem isPrintable_toDigits {n : ℕ} {c : Char} (h : c ∈ Nat.toDigits 10 n) :
    isPrintable c = true :=
  isPrintable_of_isDigit (Nat.isDigit_of_mem_toDigits (by decide) (by decide) h)

theorem printable_toString_nat (n : ℕ) : Printable (toString n) := by
  change Printable (String.ofList (Nat.toDigits 10 n))
  rw [printable_ofList]
  exact fun c hc => isPrintable_toDigits hc

theorem printable_toString_int (n : ℤ) : Printable (toString n) := by
  cases n with
  | ofNat n => exact printable_toString_nat n
  | negSucc n =>
      change Printable ("-" ++ toString (n + 1))
      rw [printable_append]
      exact ⟨printable_of_all rfl, printable_toString_nat (n + 1)⟩

end Coding
