import YwdTnc.Monitor.FrameText
import YwdTnc.Monitor.JsonLines
import YwdTnc.Unicode
import Mathlib.Logic.Function.Basic

/-!
# The packet log

`ywd-packetlog` writes each monitor event to two files of its day: one line of text and one
line of JSON. Part of an event comes from a received frame, and whoever sends that frame
chooses its octets; none of them can end a line. The line of text has to be encoded, and the
text of an exception may hold what cannot be.
-/

namespace YwdTnc

open Coding

/-- A local date and time. -/
structure Datetime where
  year : ℕ
  month : ℕ
  day : ℕ
  hour : ℕ
  minute : ℕ
  second : ℕ
  microsecond : ℕ
  deriving DecidableEq, Repr

/-- `{n:0{width}d}`. -/
def paddedText (width n : ℕ) : String :=
  let digits := Nat.toDigits 10 n
  String.ofList (List.replicate (width - digits.length) '0' ++ digits)

namespace Datetime

/-- `strftime("%Y-%m-%d")`; the C library does not pad the year. -/
def dayText (t : Datetime) : String :=
  toString t.year ++ "-" ++ paddedText 2 t.month ++ "-" ++ paddedText 2 t.day

/-- `strftime("%Y-%m-%d %H:%M:%S.%f")`. -/
def fullText (t : Datetime) : String :=
  t.dayText ++ " " ++ paddedText 2 t.hour ++ ":" ++ paddedText 2 t.minute ++ ":" ++
    paddedText 2 t.second ++ "." ++ paddedText 6 t.microsecond

/-- The stamp of a line: the last three digits are cut off. -/
def stamp (t : Datetime) : String :=
  String.ofList (t.fullText.toList.take (t.fullText.toList.length - 3))

end Datetime

/-- The functions of the host language that the log uses: `str` of floats, lists and
dictionaries, `upper`, `datetime.fromisoformat(text).astimezone()`, and the text of a float in
JSON. Texts of lists and dictionaries have neither line breaks nor lone surrogates, since
`repr` escapes them; capitals are no line breaks either. -/
structure LogLibrary where
  str : EventValue → String
  unicode : Unicode
  fromisoformat : List CodePoint → Except PyError Datetime
  floatText : Option ℚ → String
  str_unbroken : ∀ value, Unbroken (str value).toList
  upper_unbroken : ∀ c, isLineBreak c = false → Unbroken (unicode.upper c)
  floatText_printable : ∀ value, Printable (floatText value)

/-- A dictionary; each key stands in it once. -/
abbrev LogEvent := List (List CodePoint × EventValue)

/-- `event.get(key)`. -/
def LogEvent.get (event : LogEvent) (key : String) : Option EventValue :=
  event.lookup (codes key)

/-- `str` of a whole number. -/
def intText (n : ℤ) : Except PyError (List CodePoint) :=
  if isLong n then .error digitLimitError else .ok (codes (toString n))

variable (lib : LogLibrary)

/-- `str(value)`. -/
def EventValue.text : EventValue → Except PyError (List CodePoint)
  | .str text => .ok text
  | .null => .ok (codes "None")
  | .bool b => .ok (codes (if b then "True" else "False"))
  | .int n => intText n
  | value => if value.oversized then .error digitLimitError else .ok (codes (lib.str value))

/-- `str(event.get(key, default))`. -/
def getText (event : LogEvent) (key default : String) : Except PyError (List CodePoint) :=
  match event.get key with
  | some value => value.text lib
  | none => .ok (codes default)

/-- `value.replace("Z", "+00:00")`. -/
def utcText (value : List CodePoint) : List CodePoint :=
  value.flatMap fun point => if point = .char 'Z' then codes "+00:00" else [point]

/-- `_local_timestamp`; `now` is the time of the call. -/
def localTimestamp (now : Datetime) (value : List CodePoint) : Except PyError Datetime :=
  match lib.fromisoformat (utcText value) with
  | .ok parsed => .ok parsed
  | .error e => if e.cls = .typeError ∨ e.cls = .valueError then .ok now else .error e

/-- `_route`. -/
def routeText (event : LogEvent) : Except PyError (List CodePoint) := do
  let source ← getText lib event "source" "?"
  let destination ← getText lib event "destination" "?"
  let route := codes "fm " ++ source ++ codes " to " ++ destination
  match event.get "path" with
  | some (.list (item :: items)) => do
      let names ← (item :: items).mapM (EventValue.text lib)
      return route ++ codes " via " ++ (codes " ").intercalate names
  | _ => return route

/-- `isinstance(value, int)`; `True` and `False` are whole numbers. -/
def isWhole : Option EventValue → Bool
  | some (.int _) | some (.bool _) => true
  | _ => false

/-- `{value}`, for a value that is there. -/
def valueText : Option EventValue → Except PyError (List CodePoint)
  | some value => value.text lib
  | none => .ok []

/-- `"+" if event.get("poll_final") is True else "-"`. -/
def pollMark (event : LogEvent) : String :=
  match event.get "poll_final" with
  | some (.bool true) => "+"
  | _ => "-"

/-- `_control_text`. -/
def controlText (event : LogEvent) : Except PyError (List CodePoint) := do
  let frameClass ← getText lib event "frame_class" ""
  let frameType ← getText lib event "frame_type" "?"
  let pf := codes (pollMark event)
  let nr := event.get "nr"
  let ns := event.get "ns"
  if frameClass = codes "I" ∧ isWhole ns ∧ isWhole nr then do
    let sent ← valueText lib ns
    let received ← valueText lib nr
    return codes "I" ++ sent ++ received ++ pf
  else if frameClass = codes "S" ∧ isWhole nr then do
    let received ← valueText lib nr
    return frameType ++ received ++ pf
  else if frameClass = codes "U" then return frameType ++ pf
  else return frameType

/-- `{pid:02X}` of a whole number. -/
def pidText : Option EventValue → Option String
  | some (.int (.ofNat n)) => some (hex02 n)
  | some (.int (.negSucc n)) =>
      some ("-" ++ String.ofList ((Nat.toDigits 16 (n + 1)).map Char.toUpper))
  | some (.bool b) => some (hex02 (if b then 1 else 0))
  | _ => none

def pidParts (event : LogEvent) : List String :=
  match pidText (event.get "pid") with
  | some pid => ["pid=" ++ pid]
  | none => []

def lengthParts (event : LogEvent) : List String :=
  match event.get "info_hex" with
  | some (.str infoHex) => ["len=" ++ toString (infoHex.length / 2)]
  | _ => []

/-- `_frame_tail`. -/
def frameTail (event : LogEvent) : Except PyError (List CodePoint) := do
  let control ← controlText lib event
  let info ← getText lib event "info_text" ""
  let parts := (codes "ctl " ++ control) :: (pidParts event ++ lengthParts event).map codes
  return (codes " ").intercalate
    (if info = [] then parts else parts ++ [codes " " ++ info])

/-- `value is not None`. -/
def isGiven : Option EventValue → Bool
  | none | some .null => false
  | some _ => true

def upperCode : CodePoint → List CodePoint
  | .char c => (lib.unicode.upper c).map .char
  | .surrogate n => [.surrogate n]

/-- The stage of a `tx.` event, from its kind. -/
def stageText (kind : List CodePoint) : List CodePoint :=
  ((kind.drop 3).flatMap (upperCode lib)).map fun point =>
    if point = .char '_' then .char '-' else point

def requestText (event : LogEvent) : Except PyError (List CodePoint) :=
  if isGiven (event.get "request_id") then
    (getText lib event "request_id" "").map (codes " #" ++ ·)
  else .ok []

/-- The part of a `tx.` line that shows the frame. -/
def txFrameText (event : LogEvent) : Except PyError (List CodePoint) :=
  if (event.get "source").isSome then do
    let route ← routeText lib event
    let tail ← frameTail lib event
    return codes " " ++ route ++ codes " " ++ tail
  else .ok []

/-- The field that a line of this kind ends with, its label, and whether its value is shown. -/
def extraField (kind : List CodePoint) : Option (String × String × (EventValue → Bool)) :=
  if kind = codes "tx.channel_clear" then
    some ("raw_rssi", " raw_rssi=", fun value => isGiven (some value))
  else if kind = codes "tx.dispatched" then
    some ("selector_count", " selectors=", fun value => isGiven (some value))
  else if kind = codes "tx.rejected" ∨ kind = codes "tx.timeout" then
    some ("reason", " reason=", EventValue.truthy)
  else if kind = codes "tx.failed" then some ("error", " error=", EventValue.truthy)
  else none

def extraText (kind : List CodePoint) (event : LogEvent) : Except PyError (List CodePoint) :=
  match extraField kind with
  | none => .ok []
  | some (key, label, shown) =>
      if (event.get key).any shown then (getText lib event key "").map (codes label ++ ·)
      else .ok []

/-- `json.dumps(event, separators=(",", ":"), sort_keys=True)`. -/
def eventJson (event : LogEvent) : Except PyError String := dumps lib.floatText (.obj event)

/-- `format_event` behind its time stamp and its kind. -/
def eventText (stamp : String) (kind : List CodePoint) (event : LogEvent) :
    Except PyError (List CodePoint) :=
  if kind = codes "rx.frame" then do
    let route ← routeText lib event
    let tail ← frameTail lib event
    return codes (stamp ++ " RX ") ++ route ++ codes " " ++ tail
  else if codes "tx." <+: kind then do
    let request ← requestText lib event
    let frame ← txFrameText lib event
    let extra ← extraText lib kind event
    return codes (stamp ++ " TX ") ++ stageText lib kind ++ request ++ frame ++ extra
  else do
    let json ← eventJson lib event
    return codes (stamp ++ " ") ++ kind ++ codes (" " ++ json)

/-- The local time of an event. -/
def eventTime (now : Datetime) (event : LogEvent) : Except PyError Datetime := do
  let ts ← getText lib event "ts" ""
  localTimestamp lib now ts

def formatEvent (now : Datetime) (event : LogEvent) : Except PyError (List CodePoint) := do
  let t ← eventTime lib now event
  let kind ← getText lib event "event" "unknown"
  eventText lib t.stamp kind event

/-- The files of the log directory, by name; the directory can be written. -/
abbrev LogDirectory := String → Option String

/-- `handle.write` cannot encode the text. -/
def encodeError : PyError := ⟨.other "UnicodeEncodeError", "surrogates not allowed"⟩

/-- `open(name, "a", encoding="utf-8")` makes the file; what is written to it is computed
afterwards and encoded as a whole. -/
def LogDirectory.append (files : LogDirectory) (name : String)
    (text : Except PyError (List CodePoint)) : LogDirectory × Except PyError Unit :=
  let before := (files name).getD ""
  match text with
  | .error e => (Function.update files name (some before), .error e)
  | .ok text =>
      match encodeCodes text with
      | none => (Function.update files name (some before), .error encodeError)
      | some written => (Function.update files name (some (before ++ written)), .ok ())

namespace PacketLogWriter

/-- Both files of the day, one after the other. -/
def writeLines (files : LogDirectory) (day : String) (human : List CodePoint)
    (json : Except PyError String) : LogDirectory × Except PyError (List CodePoint) :=
  match files.append (day ++ ".log") (.ok (human ++ codes "\n")) with
  | (files, .error e) => (files, .error e)
  | (files, .ok _) =>
      match files.append (day ++ ".jsonl") (json.map fun json => codes (json ++ "\n")) with
      | (files, .error e) => (files, .error e)
      | (files, .ok _) => (files, .ok human)

/-- The clock is read once for the name of the files and once for the line. -/
def write (now now' : Datetime) (event : LogEvent) (files : LogDirectory) :
    LogDirectory × Except PyError (List CodePoint) :=
  match eventTime lib now event, formatEvent lib now' event with
  | .error e, _ => (files, .error e)
  | .ok _, .error e => (files, .error e)
  | .ok t, .ok human => writeLines files t.dayText human (eventJson lib event)

end PacketLogWriter

end YwdTnc
