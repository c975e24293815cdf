import YwdTnc.Product.ConfigFile

/-!
# Rewriting the radio settings

`rewrite_radio_settings` goes through the lines of a configuration file and replaces the
three settings of a profile where a line assigns them below the line `[radio]`.
-/

namespace YwdTnc

open Coding

/-- `f"{frequency_hz / 1_000_000:.3f}"`. -/
def formatFrequencyMhz (frequencyHz : ℤ) : List Char :=
  formatFixed 3 (toBinary64 (frequencyHz / 1000000))

inductive RadioKey where
  | frequencyMhz
  | txPower
  | txEnabled
  deriving DecidableEq

def RadioKey.name : RadioKey → String
  | .frequencyMhz => "frequency_mhz"
  | .txPower => "tx_power"
  | .txEnabled => "tx_enabled"

def RADIO_KEYS : List RadioKey := [.frequencyMhz, .txPower, .txEnabled]

/-- What a profile asks of the radio. -/
structure RadioSettings where
  frequencyHz : ℤ
  txPower : ℤ
  txEnabled : Bool

/-- `str(int(n))`. -/
def decimalText (n : ℤ) : List Char :=
  (if n < 0 then ['-'] else []) ++ Nat.toDigits 10 n.natAbs

def RadioSettings.replacement (settings : RadioSettings) : RadioKey → List Char
  | .frequencyMhz => formatFrequencyMhz settings.frequencyHz
  | .txPower => decimalText settings.txPower
  | .txEnabled => (if settings.txEnabled then "true" else "false").toList

/-! ### One line -/

/-- The newline at the end of a line, as `(\r?\n)?$` finds it. -/
def lineEnd (text : List Char) : List Char :=
  if "\r\n".toList <:+ text then "\r\n".toList
  else if "\n".toList <:+ text then "\n".toList
  else []

/-- The groups of `^(\s*)key\s*=.*?(\r?\n)?$` on a line that has a newline only at its
end. -/
def matchSetting (u : Unicode) (key : RadioKey) (line : List Char) :
    Option (List Char × List Char) :=
  let rest := line.dropWhile u.isSpace
  if key.name.toList <+: rest then
    match (rest.drop key.name.toList.length).dropWhile u.isSpace with
    | '=' :: value => some (line.takeWhile u.isSpace, lineEnd value)
    | _ => none
  else none

/-- The first setting that the line assigns. -/
def findSetting (u : Unicode) (line : List Char) : Option (RadioKey × List Char × List Char) :=
  RADIO_KEYS.findSome? fun key => (matchSetting u key line).map fun groups => (key, groups)

/-- `stripped.startswith("[") and stripped.endswith("]")`. -/
def isTableLine (u : Unicode) (line : List Char) : Bool :=
  (u.strip line).head? = some '[' && (u.strip line).getLast? = some ']'

def isRadioLine (u : Unicode) (line : List Char) : Bool := u.strip line = "[radio]".toList

def settingLine (indent : List Char) (key : RadioKey) (text newline : List Char) : List Char :=
  indent ++ key.name.toList ++ " = ".toList ++ text ++ newline

/-! ### The loop -/

structure Rewriting where
  seen : List RadioKey
  inRadio : Bool
  output : List (List Char)

def rewriteLine (u : Unicode) (settings : RadioSettings) (s : Rewriting) (line : List Char) :
    Except PyError Rewriting :=
  if isTableLine u line then
    .ok { s with inRadio := isRadioLine u line, output := s.output ++ [line] }
  else
    match if s.inRadio then findSetting u line else none with
    | some (key, indent, newline) =>
        if key ∈ s.seen then
          .error (.valueError ("duplicate radio." ++ key.name ++ " setting"))
        else .ok { s with
          seen := key :: s.seen
          output := s.output ++ [settingLine indent key (settings.replacement key) newline] }
    | none => .ok { s with output := s.output ++ [line] }

/-- `sorted(f"radio.{key}" for key in missing)`. -/
def missingNames (seen : List RadioKey) : List String :=
  ([.frequencyMhz, .txEnabled, .txPower].filter fun key => key ∉ seen).map
    fun key : RadioKey => "radio." ++ key.name

def rewriteRadioSettings (u : Unicode) (text : List Char) (settings : RadioSettings) :
    Except PyError (List Char) := do
  let s ← (splitLines text).foldlM (rewriteLine u settings) ⟨[], false, []⟩
  if missingNames s.seen ≠ [] then
    throw (.valueError ("configuration is missing required setting(s): " ++
      ", ".intercalate (missingNames s.seen)))
  return s.output.flatten

end YwdTnc
