import Mathlib.Data.Rat.Defs
import Mathlib.Data.Rat.Floor
import Mathlib.Data.List.Infix
import YwdTnc.Basic

/-!
# JSON values as the firmware tools read them

The manifests are JSON of any shape. The tools look fields up, compare them and
convert them, and every one of these steps raises an exception of its own on a
value of the wrong type.
-/

namespace YwdTnc

inductive FirmwareExcClass where
  | flashError
  | firmwareProfileError
  | osError
  | subprocessError
  | jsonDecodeError
  | valueError
  | eofError
  | attributeError
  | typeError
  | other (name : String)
  deriving DecidableEq, Repr

/-- An exception of the firmware tools: its class and its text. -/
structure FirmwareExc where
  cls : FirmwareExcClass
  message : String
  deriving DecidableEq, Repr

namespace FirmwareExc

def flashError (message : String) : FirmwareExc := ⟨.flashError, message⟩

def profileError (message : String) : FirmwareExc := ⟨.firmwareProfileError, message⟩

end FirmwareExc

/-- A value that `json.loads` returns. The value of a float is missing when it is
not a number or infinite. -/
inductive Json where
  | null
  | bool (b : Bool)
  | int (n : ℤ)
  | float (value : Option ℚ)
  | str (s : String)
  | list (items : List Json)
  | obj (fields : List (String × Json))

/-- The functions of the host language that the tools apply to values and bytes
and that nothing here depends on: `str()` of a value that is no string, the value of
a decimal digit, and `hashlib.sha256(..).hexdigest()`. -/
structure Python where
  str : Json → String
  digit : Char → Option ℕ
  hexdigest : Bytes → String

namespace Json

def typeName : Json → String
  | null => "NoneType"
  | bool _ => "bool"
  | int _ => "int"
  | float _ => "float"
  | str _ => "str"
  | list _ => "list"
  | obj _ => "dict"

/-- The fields of an object; every other value has no `get`. -/
def fields : Json → Except FirmwareExc (List (String × Json))
  | obj fields => .ok fields
  | j => .error ⟨.attributeError, "'" ++ j.typeName ++ "' object has no attribute 'get'"⟩

/-- `j.get(key)`. -/
def get (j : Json) (key : String) : Except FirmwareExc (Option Json) :=
  j.fields.map fun fields => fields.lookup key

/-- `bool(j)`. -/
def truthy : Json → Bool
  | null => false
  | bool b => b
  | int n => n ≠ 0
  | float value => value ≠ some 0
  | str s => s ≠ ""
  | list items => ¬ items.isEmpty
  | obj fields => ¬ fields.isEmpty

/-- `j == s` for a string `s`. -/
def isStr (s : String) : Option Json → Bool
  | some (str s') => s' = s
  | _ => false

/-- `j == [s]` for a string `s`. -/
def isSingleton (s : String) : Option Json → Bool
  | some (list [j]) => isStr s (some j)
  | _ => false

/-- `j == n` for a whole number `n`. -/
def isInt (n : ℤ) : Option Json → Bool
  | some (int n') => n' = n
  | some (float (some value)) => value = n
  | some (bool b) => (if b then 1 else 0) = n
  | _ => false

/-- `j is True` for `true`, `j is False` for `false`. -/
def isBool (b : Bool) : Option Json → Bool
  | some (bool b') => b' = b
  | _ => false

/-- `j in (False, None)`. -/
def isFalseOrNone : Option Json → Bool
  | none | some null => true
  | j => isInt 0 j

/-- The values that a `for` goes through. -/
def items : Json → Except FirmwareExc (List Json)
  | list items => .ok items
  | obj fields => .ok (fields.map fun f => str f.1)
  | str s => .ok (s.toList.map fun c => str c.toString)
  | j => .error ⟨.typeError, "'" ++ j.typeName ++ "' object is not iterable"⟩

/-- `s in j` for a string `s`. -/
def contains (s : String) : Json → Except FirmwareExc Bool
  | list items => .ok (items.any fun j => isStr s (some j))
  | obj fields => .ok (fields.any fun f => f.1 = s)
  | str text => .ok (decide (s.toList <:+: text.toList))
  | j => .error ⟨.typeError, "argument of type '" ++ j.typeName ++ "' is not iterable"⟩

/-- `j or []`. -/
def orEmpty : Option Json → Json
  | some j => if j.truthy then j else list []
  | none => list []

/-- `str(j)`. -/
def text (python : Python) : Json → String
  | str s => s
  | j => python.str j

/-- `str(j or "")`. -/
def textOrEmpty (python : Python) : Option Json → String
  | some j => if j.truthy then j.text python else ""
  | none => ""

end Json

theorem Json.isStr_some_iff {s : String} {j : Json} :
    Json.isStr s (some j) = true ↔ j = .str s := by
  cases j with
  | str s' => simp [Json.isStr]
  | _ => simp [Json.isStr]

/-! ### Texts -/

/-- `c.isspace()`. -/
def isSpace (c : Char) : Bool :=
  let n := c.toNat
  (9 ≤ n ∧ n ≤ 13) ∨ (28 ≤ n ∧ n ≤ 32) ∨ n = 0x85 ∨ n = 0xA0 ∨ n = 0x1680 ∨
    (0x2000 ≤ n ∧ n ≤ 0x200A) ∨ n = 0x2028 ∨ n = 0x2029 ∨ n = 0x202F ∨ n = 0x205F ∨
    n = 0x3000

/-- `s.strip()`. -/
def strip (s : String) : String :=
  String.ofList ((s.toList.dropWhile isSpace).reverse.dropWhile isSpace).reverse

def isHexDigit (c : Char) : Bool := c ∈ "0123456789abcdefABCDEF".toList

/-- The digits of a decimal number; an underscore may stand between two of them. -/
def decimalDigits (digit : Char → Option ℕ) : ℕ → List Char → Option ℕ
  | n, [] => some n
  | n, '_' :: c :: cs =>
      match digit c with
      | some d => decimalDigits digit (10 * n + d) cs
      | none => none
  | n, c :: cs =>
      match digit c with
      | some d => decimalDigits digit (10 * n + d) cs
      | none => none

/-- A decimal number begins with a digit. -/
def decimal (digit : Char → Option ℕ) : List Char → Option ℕ
  | [] => none
  | c :: cs => (digit c).bind fun d => decimalDigits digit d cs

/-- The characters that `int()` skips around a number. The separators 28 to 31, which
`strip` removes, are not among them. -/
def isIntSpace (c : Char) : Bool := isSpace c && !(28 ≤ c.toNat && c.toNat ≤ 31)

/-- The text that `int()` reads, with its sign; it has at most 4300 digits. -/
def intOfText (digit : Char → Option ℕ) (s : String) : Option ℤ :=
  if 4300 < s.toList.countP fun c => (digit c).isSome then none
  else match ((s.toList.dropWhile isIntSpace).reverse.dropWhile isIntSpace).reverse with
  | '-' :: cs => (decimal digit cs).map fun n => -(n : ℤ)
  | '+' :: cs => (decimal digit cs).map fun n => (n : ℤ)
  | cs => (decimal digit cs).map fun n => (n : ℤ)

-- a separator in front of the digits is no blank for `int()`
example : intOfText (fun c => if c.isDigit then some (c.toNat - 48) else none)
    "\x1c131072" = none := by decide +kernel

/-- `int(j)`. -/
def Json.toInt (python : Python) : Json → Except FirmwareExc ℤ
  | .bool b => .ok (if b then 1 else 0)
  | .int n => .ok n
  | .float (some value) => .ok (if 0 ≤ value then ⌊value⌋ else ⌈value⌉)
  | .float none => .error ⟨.valueError, "cannot convert float to integer"⟩
  | .str s =>
      match intOfText python.digit s with
      | some n => .ok n
      | none => .error ⟨.valueError, "invalid literal for int() with base 10: " ++ s⟩
  | j => .error ⟨.typeError, "int() argument must be a string, a bytes-like object or a " ++
      "real number, not '" ++ j.typeName ++ "'"⟩

end YwdTnc
