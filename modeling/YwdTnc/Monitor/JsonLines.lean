import YwdTnc.Basic
import YwdTnc.Coding.CodePoints
import Mathlib.Data.List.Lex
import Mathlib.Data.Rat.Floor

/-!
# Events as lines of JSON

`json.dumps(event, separators=(",", ":"), sort_keys=True)` escapes everything that is not
printable ASCII, lone surrogates included, so whatever the texts of an event hold, the
result is one line. A whole number of more than 4300 digits has no text.
-/

namespace YwdTnc

open Coding

/-- A value of an event. The value of a float is missing when it is not a number or
infinite. -/
inductive EventValue where
  | null
  | bool (b : Bool)
  | int (n : ℤ)
  | float (value : Option ℚ)
  | str (text : List CodePoint)
  | list (items : List EventValue)
  | obj (fields : List (List CodePoint × EventValue))

/-- `sys.get_int_max_str_digits()`. -/
def MAX_STR_DIGITS : ℕ := 4300

def isLong (n : ℤ) : Bool := 10 ^ MAX_STR_DIGITS ≤ n.natAbs

def digitLimitError : PyError :=
  .valueError ("Exceeds the limit (4300 digits) for integer string conversion; " ++
    "use sys.set_int_max_str_digits() to increase the limit")

namespace EventValue

/-- `bool(value)`. -/
def truthy : EventValue → Bool
  | null => false
  | bool b => b
  | int n => n ≠ 0
  | float value => value ≠ some 0
  | str text => text ≠ []
  | list items => ¬ items.isEmpty
  | obj fields => ¬ fields.isEmpty

mutual

/-- There is a whole number in the value that has no text. -/
def oversized : EventValue → Bool
  | int n => isLong n
  | list items => oversizedItems items
  | obj fields => oversizedFields fields
  | _ => false

def oversizedItems : List EventValue → Bool
  | [] => false
  | value :: items => value.oversized || oversizedItems items

def oversizedFields : List (List CodePoint × EventValue) → Bool
  | [] => false
  | (_, value) :: fields => value.oversized || oversizedFields fields

end

end EventValue

/-- A digit of `{n:04x}`. -/
def hexDigitLower (n : ℕ) : Char := if n < 10 then Char.ofNat (n + 48) else Char.ofNat (n + 87)

/-- `\uXXXX`. -/
def unicodeEscape (n : ℕ) : String :=
  "\\u" ++ String.ofList
    ([n / 4096 % 16, n / 256 % 16, n / 16 % 16, n % 16].map hexDigitLower)

/-- How `ensure_ascii` writes a character. -/
def escapeChar (c : Char) : String :=
  if c = '"' then "\\\""
  else if c = '\\' then "\\\\"
  else if isPrintable c then String.ofList [c]
  else if c = '\n' then "\\n"
  else if c = '\r' then "\\r"
  else if c = '\t' then "\\t"
  else if c.toNat = 8 then "\\b"
  else if c.toNat = 12 then "\\f"
  else if c.toNat < 0x10000 then unicodeEscape c.toNat
  else
    -- a pair of surrogates
    let n := c.toNat - 0x10000
    unicodeEscape (0xD800 + n / 0x400) ++ unicodeEscape (0xDC00 + n % 0x400)

def escapeCode : CodePoint → String
  | .char c => escapeChar c
  | .surrogate n => unicodeEscape (0xD800 + n)

def quoteText (text : List CodePoint) : String :=
  "\"" ++ String.join (text.map escapeCode) ++ "\""

/-- One member of an object. -/
def memberText (field : List CodePoint × String) : String :=
  quoteText field.1 ++ ":" ++ field.2

/-- Keys are compared code point by code point. -/
def keyLe (key key' : List CodePoint) : Bool :=
  decide (key.map CodePoint.value ≤ key'.map CodePoint.value)

mutual

/-- The text that `json.dumps` writes; `floatText` is `float.__repr__`, or `NaN` and
`Infinity`. -/
def dumpsText (floatText : Option ℚ → String) : EventValue → String
  | .null => "null"
  | .bool b => if b then "true" else "false"
  | .int n => toString n
  | .float value => floatText value
  | .str text => quoteText text
  | .list items => "[" ++ ",".intercalate (dumpsItems floatText items) ++ "]"
  | .obj fields =>
      "\x7b" ++ ",".intercalate (((dumpsFields floatText fields).mergeSort
        fun a b => keyLe a.1 b.1).map memberText) ++ "\x7d"

def dumpsItems (floatText : Option ℚ → String) : List EventValue → List String
  | [] => []
  | value :: items => dumpsText floatText value :: dumpsItems floatText items

/-- The members with the texts of their values, not yet sorted. -/
def dumpsFields (floatText : Option ℚ → String) :
    List (List CodePoint × EventValue) → List (List CodePoint × String)
  | [] => []
  | (key, value) :: fields =>
      (key, dumpsText floatText value) :: dumpsFields floatText fields

end

/-- `json.dumps`. -/
def dumps (floatText : Option ℚ → String) (value : EventValue) : Except PyError String :=
  if value.oversized then .error digitLimitError else .ok (dumpsText floatText value)

/-! ### Nothing but printable characters -/

theorem isPrintable_hexDigitLower : ∀ n < 16, isPrintable (hexDigitLower n) = true := by
  decide

theorem printable_unicodeEscape (n : ℕ) : Printable (unicodeEscape n) := by
  apply printable_append.mpr
  constructor
  · exact printable_of_all rfl
  · apply printable_ofList.mpr
    intro c hc
    obtain ⟨digit, hdigit, rfl⟩ := List.mem_map.mp hc
    apply isPrintable_hexDigitLower
    simp only [List.mem_cons, List.not_mem_nil, or_false] at hdigit
    omega

theorem printable_escapeChar (c : Char) : Printable (escapeChar c) := by
  unfold escapeChar
  split_ifs with _ _ hprintable
  case pos => exact printable_of_all rfl
  case pos => exact printable_of_all rfl
  case pos =>
    apply printable_ofList.mpr
    simpa using hprintable
  case pos => exact printable_of_all rfl
  case pos => exact printable_of_all rfl
  case pos => exact printable_of_all rfl
  case pos => exact printable_of_all rfl
  case pos => exact printable_of_all rfl
  case pos => exact printable_unicodeEscape _
  case neg => simp [printable_unicodeEscape]

theorem printable_escapeCode (point : CodePoint) : Printable (escapeCode point) := by
  cases point with
  | char c => exact printable_escapeChar c
  | surrogate n => exact printable_unicodeEscape _

theorem printable_quoteText (text : List CodePoint) : Printable (quoteText text) := by
  simp only [quoteText, printable_append]
  refine ⟨⟨printable_of_all rfl, printable_join fun part hpart => ?_⟩, printable_of_all rfl⟩
  obtain ⟨point, -, rfl⟩ := List.mem_map.mp hpart
  exact printable_escapeCode point

theorem printable_memberText {field : List CodePoint × String} (h : Printable field.2) :
    Printable (memberText field) := by
  simp only [memberText, printable_append]
  exact ⟨⟨printable_quoteText _, printable_of_all rfl⟩, h⟩

variable {floatText : Option ℚ → String}

mutual

theorem printable_dumpsText (hfloat : ∀ value, Printable (floatText value)) :
    ∀ j, Printable (dumpsText floatText j)
  | .null => by
      rw [dumpsText]
      exact printable_of_all rfl
  | .bool b => by
      rw [dumpsText]
      cases b with
      | false => exact printable_of_all rfl
      | true => exact printable_of_all rfl
  | .int n => by
      rw [dumpsText]
      exact printable_toString_int n
  | .float value => by
      rw [dumpsText]
      exact hfloat value
  | .str s => by
      rw [dumpsText]
      exact printable_quoteText s
  | .list items => by
      simp only [dumpsText, printable_append]
      refine ⟨⟨printable_of_all rfl, ?_⟩, printable_of_all rfl⟩
      exact printable_intercalate (printable_of_all rfl) (printable_dumpsItems hfloat items)
  | .obj fields => by
      simp only [dumpsText, printable_append]
      refine ⟨⟨printable_of_all rfl, ?_⟩, printable_of_all rfl⟩
      apply printable_intercalate (printable_of_all rfl)
      intro text htext
      obtain ⟨field, hfield, rfl⟩ := List.mem_map.mp htext
      have hmem := List.mem_mergeSort.mp hfield
      exact printable_memberText (printable_dumpsFields hfloat fields field hmem)

theorem printable_dumpsItems (hfloat : ∀ value, Printable (floatText value)) :
    ∀ items, ∀ text ∈ dumpsItems floatText items, Printable text
  | [], _, h => nomatch h
  | j :: items, text, h => by
      rcases List.mem_cons.mp h with rfl | hmem
      · exact printable_dumpsText hfloat j
      · exact printable_dumpsItems hfloat items text hmem

theorem printable_dumpsFields (hfloat : ∀ value, Printable (floatText value)) :
    ∀ fields, ∀ field ∈ dumpsFields floatText fields, Printable field.2
  | [], _, h => nomatch h
  | (key, j) :: fields, field, h => by
      rcases List.mem_cons.mp h with rfl | hmem
      · exact printable_dumpsText hfloat j
      · exact printable_dumpsFields hfloat fields field hmem

end

/-! ### The members of an object -/

theorem mem_dumpsFields {key : List CodePoint} {value : EventValue}
    {fields : List (List CodePoint × EventValue)} (h : (key, value) ∈ fields) :
    (key, dumpsText floatText value) ∈ dumpsFields floatText fields := by
  induction fields with
  | nil => cases h
  | cons field fields ih =>
      rw [dumpsFields]
      rcases List.mem_cons.mp h with rfl | hmem
      · exact List.mem_cons_self
      · exact List.mem_cons_of_mem _ (ih hmem)

/-- Every member of an object stands in its text. -/
theorem infix_dumpsText {key : List CodePoint} {value : EventValue}
    {fields : List (List CodePoint × EventValue)} (h : (key, value) ∈ fields) :
    (memberText (key, dumpsText floatText value)).toList <:+:
      (dumpsText floatText (.obj fields)).toList := by
  have hmember : (key, dumpsText floatText value) ∈ (dumpsFields floatText fields).mergeSort
      fun a b => keyLe a.1 b.1 := List.mem_mergeSort.mpr (mem_dumpsFields h)
  rw [dumpsText, String.toList_append, String.toList_append, List.append_assoc]
  apply (infix_intercalate (List.mem_map_of_mem hmember)).trans
  exact ⟨_, _, (List.append_assoc _ _ _)⟩

/-- A text of printable characters without a quotation mark or a backslash is quoted as it
is. -/
theorem quoteText_plain {s : String} (h : ∀ c ∈ s.toList,
    isPrintable c = true ∧ c ≠ '"' ∧ c ≠ '\\') : quoteText (codes s) = "\"" ++ s ++ "\"" := by
  have hjoin : ∀ chars : List Char,
      (∀ c ∈ chars, isPrintable c = true ∧ c ≠ '"' ∧ c ≠ '\\') →
      String.join (chars.map escapeChar) = String.ofList chars := by
    intro chars hchars
    induction chars with
    | nil => rfl
    | cons c chars ih =>
        obtain ⟨hprintable, hquote, hslash⟩ := hchars c List.mem_cons_self
        rw [List.map_cons, String.join_cons, ih fun d hd => hchars d (List.mem_cons_of_mem c hd)]
        simp only [escapeChar, hquote, hslash, hprintable, if_true, if_false]
        rw [← String.ofList_append, List.singleton_append]
  have hescape : (codes s).map escapeCode = s.toList.map escapeChar := by
    rw [codes, List.map_map]
    rfl
  rw [quoteText, hescape, hjoin s.toList h, String.ofList_toList]

end YwdTnc
