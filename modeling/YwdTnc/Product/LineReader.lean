import YwdTnc.Coding.Printable
import YwdTnc.Product.ConfigFile

/-!
# A reader of line documents

What `tomllib` makes of a document of one statement a line, and a small reader that does
the same for quoted texts, decimal numbers and truth values.
-/

namespace YwdTnc

open Coding

/-- Decimal digits without leading zeros, perhaps with decimals. -/
def readNumber (text : List Char) : Option TomlValue :=
  let whole := text.takeWhile Char.isDigit
  let n := Nat.ofDigitChars 10 whole 0
  if Nat.toDigits 10 n ≠ whole then none
  else match text.dropWhile Char.isDigit with
  | [] => some (.integer n)
  | c :: decimals =>
      if c = '.' ∧ decimals ≠ [] ∧ decimals.all Char.isDigit = true then
        some (.float (.finite (toBinary64
          (Nat.ofDigitChars 10 (whole ++ decimals) 0 / 10 ^ decimals.length))))
      else none

theorem isDigit_toDigits (n : ℕ) : ∀ c ∈ Nat.toDigits 10 n, c.isDigit = true := fun _ hc =>
  Nat.isDigit_of_mem_toDigits (by decide) (by decide) hc

theorem isLineBreak_of_isDigit {c : Char} (h : c.isDigit = true) : isLineBreak c = false :=
  isLineBreak_of_isPrintable (isPrintable_of_isDigit h)

theorem unbroken_toDigits (n : ℕ) : Unbroken (Nat.toDigits 10 n) := fun c hc =>
  isLineBreak_of_isDigit (isDigit_toDigits n c hc)

theorem unbroken_fixedDigits (decimals n : ℕ) : Unbroken (fixedDigits decimals n) := by
  intro c hc
  simp only [fixedDigits, List.mem_append, List.mem_cons, List.mem_replicate] at hc
  rcases hc with hc | rfl | ⟨-, rfl⟩ | hc
  · exact unbroken_toDigits _ c hc
  · decide
  · decide
  · exact unbroken_toDigits _ c hc

/-- A text in quotes without quotes and escapes, a number or a truth value. -/
def readValue (text : List Char) : Option TomlValue :=
  match text.dropWhile isTomlBlank with
  | '"' :: rest =>
      let body := rest.dropLast
      if rest.getLast? = some '"' ∧ body.all (fun c => c ≠ '"' && c ≠ '\\') = true then
        some (.string (String.ofList body))
      else none
  | rest =>
      if rest = "true".toList then some (.boolean true)
      else if rest = "false".toList then some (.boolean false)
      else readNumber rest

/-- `loads` with the small reader of values. -/
def lineLoads (text : List Char) : Except PyError TomlTable :=
  match (splitLines (replaceCrlf text)).mapM readLine with
  | none => .error (tomlDecodeError "Invalid statement")
  | some statements =>
      match readDocument readValue statements with
      | none => .error (tomlDecodeError "Invalid value")
      | some root => .ok root

theorem lineLoads_congr {text text' : List Char} (h : replaceCrlf text = replaceCrlf text') :
    lineLoads text = lineLoads text' := by
  unfold lineLoads
  rw [h]

def SpacedUnicode.latin1 : SpacedUnicode where
  toUnicode := .latin1
  isSpace_ascii := by
    intro c hc
    have hlow : c.toNat < 128 := of_decide_eq_true hc
    have hnext : c.toNat ≠ 0x85 := by omega
    have hfixed : c.toNat ≠ 0xA0 := by omega
    simp [Unicode.latin1, isAsciiSpace, hnext, hfixed]

/-- The address of the loopback interface is known, others are refused. -/
def lineLibrary : ConfigLibrary where
  unicode := .latin1
  loads := lineLoads
  decodeError _ := "invalid start byte"
  ipAddress text := if text = "127.0.0.1" then some ⟨4, false, false, true, true⟩ else none

/-- A configuration without its optional parts, tuned to a frequency. -/
def exampleLines (frequency : String) : List String :=
  ["[hardware]", "target = \"" ++ PRODUCT_TARGET ++ "\"",
    "[radio]", "device = \"/dev/ttyAMA0\"", "frequency_mhz = " ++ frequency, "tx_power = 200",
    "tx_enabled = false",
    "[packet]", "baud = 1200", "txdelay_ms = 300", "persist = 63", "slottime_ms = 100",
    "[kiss]", "enabled = true", "listen = \"127.0.0.1\"", "port = 8001",
    "[agw]", "enabled = false", "listen = \"127.0.0.1\"", "port = 8000", "raw_only = true",
    "[firmware]", "required_identity = \"" ++ QUALIFIED_FIRMWARE_IDENTITY ++ "\"",
    "allow_automatic_flash = false"]

/-- Its text with a line end behind every line. -/
def exampleText (frequency lineEnd : String) : List Char :=
  (exampleLines frequency).flatMap fun line => line.toList ++ lineEnd.toList

end YwdTnc
