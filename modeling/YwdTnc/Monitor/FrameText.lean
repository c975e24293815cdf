import YwdTnc.Ax25.Frames
import YwdTnc.Coding.Printable
import YwdTnc.Monitor.JsonLines
import YwdTnc.Monitor.TxTracker

/-!
# The text of a received frame

`frame_fields` turns the octets of a frame, whatever came over the air, into the fields of a
monitor event. The texts among them are printable ASCII, and the two hexadecimal ones give
the octets back.
-/

namespace YwdTnc

open Coding

/-- `str(address)`. -/
def Address.text (address : Address) : String :=
  if address.ssid = 0 then address.callsign
  else address.callsign ++ "-" ++ toString address.ssid

/-- An octet of `_info_text`. -/
def infoOctet (value : Byte) : String :=
  if 32 ≤ value.toNat ∧ value.toNat ≤ 126 then String.ofList [Char.ofNat value.toNat]
  else if value = 13 then "\\r"
  else if value = 10 then "\\n"
  else if value = 9 then "\\t"
  else "\\x" ++ hexByte value

def infoText (data : Bytes) : String := String.join (data.map infoOctet)

/-- `data.hex().upper()`. -/
def hexText (data : Bytes) : String := String.join (data.map hexByte)

def textField (s : String) : EventValue := .str (codes s)

/-- A number or `None`. -/
def numberField : Option ℕ → EventValue
  | some n => .int n
  | none => .null

/-- The fields of a parsed frame. -/
def ParsedFrame.members (parsed : ParsedFrame) : List (String × EventValue) :=
  [("source", textField parsed.source.text),
    ("destination", textField parsed.destination.text),
    ("path", .list (parsed.path.map fun item =>
      textField (item.text ++ if item.flag then "*" else ""))),
    ("frame_class", textField parsed.frameClass),
    ("frame_type", textField parsed.frameType),
    ("control", .int parsed.control.toNat),
    ("poll_final", .bool parsed.pollFinal),
    ("ns", numberField parsed.ns),
    ("nr", numberField parsed.nr),
    ("pid", numberField (parsed.pid.map BitVec.toNat)),
    ("info_text", textField (infoText parsed.info)),
    ("info_hex", textField (hexText parsed.info))]

/-- The dictionary that `frame_fields` returns. -/
def FrameFields.members (fields : FrameFields) : List (String × EventValue) :=
  ("frame_bytes", .int fields.frameBytes) :: ("frame_hex", textField fields.frameHex) ::
    match fields.parsed with
    | .error e => [("parse_error", textField e.message)]
    | .ok parsed => parsed.members

/-- The keys that `frame_fields` writes. -/
def frameKeys : List String :=
  ["frame_bytes", "frame_hex", "parse_error", "source", "destination", "path", "frame_class",
    "frame_type", "control", "poll_final", "ns", "nr", "pid", "info_text", "info_hex"]

/-! ### Hexadecimal text -/

def hexDigitValue (c : Char) : Option ℕ :=
  if 48 ≤ c.toNat ∧ c.toNat ≤ 57 then some (c.toNat - 48)
  else if 65 ≤ c.toNat ∧ c.toNat ≤ 70 then some (c.toNat - 55)
  else if 97 ≤ c.toNat ∧ c.toNat ≤ 102 then some (c.toNat - 87)
  else none

def isHexSpace (c : Char) : Bool := 9 ≤ c.toNat && c.toNat ≤ 13 || c.toNat = 32

/-- `bytes.fromhex`: two digits an octet, and white space between the octets. -/
def fromHex : List Char → Option Bytes
  | [] => some []
  | [c] => if isHexSpace c then some [] else none
  | c :: d :: text =>
      if isHexSpace c then fromHex (d :: text)
      else
        match hexDigitValue c, hexDigitValue d with
        | some high, some low => (fromHex text).map (BitVec.ofNat 8 (16 * high + low) :: ·)
        | _, _ => none

theorem hexDigitValue_hexDigit : ∀ n < 16,
    hexDigitValue (hexDigit n) = some n ∧ isHexSpace (hexDigit n) = false := by
  decide

theorem toList_hexByte (byte : Byte) :
    (hexByte byte).toList = [hexDigit (byte.toNat / 16), hexDigit (byte.toNat % 16)] :=
  String.toList_ofList

theorem fromHex_hexByte (byte : Byte) (text : List Char) :
    fromHex ((hexByte byte).toList ++ text) = (fromHex text).map (byte :: ·) := by
  obtain ⟨hhigh, hspace⟩ := hexDigitValue_hexDigit (byte.toNat / 16) (by omega)
  obtain ⟨hlow, -⟩ := hexDigitValue_hexDigit (byte.toNat % 16) (by omega)
  have hbyte : BitVec.ofNat 8 (16 * (byte.toNat / 16) + byte.toNat % 16) = byte := by
    rw [Nat.div_add_mod, BitVec.ofNat_toNat, BitVec.setWidth_eq]
  rw [toList_hexByte, List.cons_append, List.singleton_append, fromHex, hspace,
    if_neg Bool.false_ne_true]
  simp only [hhigh, hlow, hbyte]

/-- The octets are found again in their text. -/
theorem fromHex_hexText (data : Bytes) : fromHex (hexText data).toList = some data := by
  induction data with
  | nil => rfl
  | cons byte data ih =>
      have hcons : (hexText (byte :: data)).toList =
          (hexByte byte).toList ++ (hexText data).toList := by
        simp [hexText, String.join_cons]
      rw [hcons, fromHex_hexByte, ih, Option.map_some]

/-! ### Printable text -/

theorem hexDigit_plain : ∀ n < 16,
    isPrintable (hexDigit n) = true ∧ hexDigit n ≠ '"' ∧ hexDigit n ≠ '\\' := by
  decide

theorem hexText_plain {data : Bytes} :
    ∀ c ∈ (hexText data).toList, isPrintable c = true ∧ c ≠ '"' ∧ c ≠ '\\' := by
  induction data with
  | nil => exact fun c hc => nomatch hc
  | cons byte data ih =>
      intro c hc
      simp only [hexText, List.map_cons, String.join_cons, String.toList_append, toList_hexByte,
        List.cons_append, List.nil_append, List.mem_cons] at hc
      rcases hc with rfl | rfl | hc
      · exact hexDigit_plain _ (by omega)
      · exact hexDigit_plain _ (by omega)
      · exact ih c hc

theorem printable_hexText (data : Bytes) : Printable (hexText data) :=
  fun c hc => (hexText_plain c hc).1

theorem printable_hexByte (byte : Byte) : Printable (hexByte byte) := by
  have h := printable_hexText [byte]
  simpa [hexText, String.join_cons] using h

theorem toNat_ofNat_octet : ∀ value : Byte, (Char.ofNat value.toNat).toNat = value.toNat := by
  decide +kernel

theorem printable_infoOctet (value : Byte) : Printable (infoOctet value) := by
  unfold infoOctet
  split_ifs with hrange
  case pos =>
    apply printable_ofList.mpr
    intro c hc
    obtain rfl := List.mem_singleton.mp hc
    rw [isPrintable_iff, toNat_ofNat_octet]
    exact hrange
  case pos => exact printable_of_all rfl
  case pos => exact printable_of_all rfl
  case pos => exact printable_of_all rfl
  case neg =>
    rw [printable_append]
    exact ⟨printable_of_all rfl, printable_hexByte value⟩

/-- Every octet of an information field is escaped. -/
theorem printable_infoText (data : Bytes) : Printable (infoText data) := by
  apply printable_join
  intro text htext
  obtain ⟨value, -, rfl⟩ := List.mem_map.mp htext
  exact printable_infoOctet value

theorem isPrintable_of_isCallChar {c : Char} (h : isCallChar c = true) : isPrintable c = true := by
  rw [isCallChar_iff_toNat] at h
  rw [isPrintable_iff]
  omega

/-- An address that was decoded. -/
theorem Address.Valid.printable {address : Address} (h : address.Valid) :
    Printable address.text := by
  have hcall : Printable address.callsign := fun c hc =>
    isPrintable_of_isCallChar (h.chars c hc)
  unfold Address.text
  split
  · exact hcall
  · simp only [printable_append]
    exact ⟨⟨hcall, printable_of_all rfl⟩, printable_toString_nat _⟩

theorem printable_sFrameName (code : ℕ) : Printable (sFrameName code) := by
  unfold sFrameName
  split
  all_goals exact printable_of_all rfl

theorem printable_uFrameName (code : Byte) : Printable (uFrameName code) := by
  unfold uFrameName
  split_ifs
  case neg =>
    rw [printable_append]
    exact ⟨printable_of_all rfl, printable_hexByte code⟩
  all_goals exact printable_of_all rfl

/-- What a parsed frame shows. -/
structure ParsedFrame.Shown (parsed : ParsedFrame) : Prop where
  source : Printable parsed.source.text
  destination : Printable parsed.destination.text
  path : ∀ item ∈ parsed.path, Printable item.text
  frameClass : Printable parsed.frameClass
  frameType : Printable parsed.frameType
  ns : ∀ n ∈ parsed.ns, n < 256
  nr : ∀ n ∈ parsed.nr, n < 256

theorem shown_of_parseFrame {data : Bytes} {parsed : ParsedFrame}
    (h : parseFrame data false = .ok parsed) : parsed.Shown := by
  obtain ⟨destination, source, path, control, rest, hvalid, -, -, hcontrol⟩ := parseFrame_ok h
  have hdestination := (hvalid destination (by simp)).printable
  have hsource := (hvalid source (by simp)).printable
  have hpath : ∀ item ∈ path, Printable item.text :=
    fun item hitem => (hvalid item (by simp [hitem])).printable
  have hoctet : ∀ (octet : Byte), ∀ n ∈ some octet.toNat, n < 256 := by
    rintro octet _ ⟨⟩
    exact octet.isLt
  have hparses := parseControl_parses destination source path control rest
  have hclass : Printable "I" ∧ Printable "S" ∧ Printable "U" := by decide
  have hnone : ∀ n ∈ (none : Option ℕ), n < 256 := fun _ h => nomatch h
  rw [hcontrol] at hparses
  cases hparses with
  | information =>
      exact ⟨hsource, hdestination, hpath, hclass.1, hclass.1, hoctet _, hoctet _⟩
  | supervisory =>
      exact ⟨hsource, hdestination, hpath, hclass.2.1, printable_sFrameName _, hnone, hoctet _⟩
  | unnumbered =>
      exact ⟨hsource, hdestination, hpath, hclass.2.2, printable_uFrameName _, hnone, hnone⟩

end YwdTnc
