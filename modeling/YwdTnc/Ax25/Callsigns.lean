import YwdTnc.Ax25.Addresses

/-!
# Callsigns from an operator

`Address.parse` checks that the characters of a callsign are alphanumeric, in the sense of
Unicode, and `encode_address` keeps seven bits of each. A callsign survives the wire when
its upper-case text is ASCII, and only then.
-/

namespace YwdTnc

/-- `value.rsplit("-", 1)`: what stands before the last hyphen, and what stands after it. -/
def rsplitHyphen (value : List Char) : Option (List Char × List Char) :=
  if '-' ∈ value then
    some ((value.reverse.dropWhile (· ≠ '-')).tail.reverse,
      (value.reverse.takeWhile (· ≠ '-')).reverse)
  else none

/-- The text before the SSID, in upper case. -/
def callText (u : Unicode) (text : String) : List Char :=
  let value := u.upperText (u.strip text.toList)
  match rsplitHyphen value with
  | some (call, _) => call
  | none => value

/-- The SSID of a text in upper case; without a hyphen it is 0. -/
def parseSsid (u : Unicode) (text : String) (value : List Char) : Except PyError ℤ :=
  match rsplitHyphen value with
  | none => .ok 0
  | some (_, ssidText) =>
      if ¬ (ssidText ≠ [] ∧ ssidText.all u.isDigit) then
        .error (.valueError ("invalid SSID in " ++ u.repr text))
      else u.int ssidText

def Address.parse (u : Unicode) (text : String) (flag : Bool) : Except PyError Address :=
  let value := u.upperText (u.strip text.toList)
  if value = [] then .error (.valueError "empty callsign")
  else
    match parseSsid u text value with
    | .error e => .error e
    | .ok ssid =>
        let call := callText u text
        if ¬ (1 ≤ call.length ∧ call.length ≤ 6) then
          .error (.valueError "AX.25 callsign must contain 1..6 characters")
        else if ¬ call.all u.isAlnum then
          .error (.valueError "AX.25 callsign must be alphanumeric")
        else if ¬ (0 ≤ ssid ∧ ssid ≤ 15) then .error (.valueError "AX.25 SSID must be 0..15")
        else .ok ⟨String.ofList call, ssid.toNat, flag⟩

variable {u : Unicode}

theorem mem_of_mem_rsplitHyphen {value call ssidText : List Char} {c : Char}
    (h : rsplitHyphen value = some (call, ssidText)) (hc : c ∈ call) : c ∈ value := by
  unfold rsplitHyphen at h
  split at h
  · cases h
    exact List.mem_reverse.mp ((List.dropWhile_sublist _).subset
      (List.mem_of_mem_tail (List.mem_reverse.mp hc)))
  · cases h

theorem not_lower_of_mem_callText {text : String} {c : Char} (h : c ∈ callText u text) :
    c.isLower = false := by
  unfold callText at h
  dsimp only at h
  split at h
  case h_1 call ssidText hsplit =>
      exact Unicode.not_lower_of_mem_upperText (mem_of_mem_rsplitHyphen hsplit h)
  case h_2 => exact Unicode.not_lower_of_mem_upperText h

/-- What an accepted text is checked for. -/
structure Address.Parsed (u : Unicode) (text : String) (flag : Bool) (address : Address) :
    Prop where
  callsign : address.callsign.toList = callText u text
  one_le : 1 ≤ (callText u text).length
  le_six : (callText u text).length ≤ 6
  alnum : ∀ c ∈ callText u text, u.isAlnum c = true
  ssid : address.ssid ≤ 15
  flag : address.flag = flag

theorem Address.parsed_of_parse {text : String} {flag : Bool} {address : Address}
    (h : Address.parse u text flag = .ok address) : Address.Parsed u text flag address := by
  unfold Address.parse at h
  dsimp only at h
  split at h
  · cases h
  split at h
  · cases h
  case h_2 ssid _ =>
  split at h
  · cases h
  case isFalse hlength =>
  split at h
  · cases h
  case isFalse halnum =>
  split at h
  · cases h
  case isFalse hssid =>
  cases h
  have hlength := not_not.mp hlength
  have hssid : ssid.toNat ≤ 15 := Int.toNat_le.mpr (not_not.mp hssid).2
  exact ⟨String.toList_ofList, hlength.1, hlength.2, List.all_eq_true.mp (not_not.mp halnum),
    hssid, rfl⟩

/-- A callsign that an operator supplies comes back from the wire exactly when its
upper-case text is ASCII. -/
theorem decodeAddress_parse_iff (u : Unicode) (text : String) (flag last : Bool)
    (address : Address) (h : Address.parse u text flag = .ok address) :
    decodeAddress (encodeAddress u address last) = .ok (address, last) ↔
      ∀ c ∈ callText u text, isAscii c = true := by
  have hparsed := Address.parsed_of_parse h
  constructor
  · intro hdecode c hc
    rw [← hparsed.callsign] at hc
    exact isAscii_of_isCallChar ((field_of_decodeAddress hdecode).1.chars c hc)
  · intro hascii
    have hvalid : address.Valid := by
      refine ⟨?_, ?_, ?_, hparsed.ssid⟩
      · rw [hparsed.callsign]
        exact hparsed.one_le
      · rw [hparsed.callsign]
        exact hparsed.le_six
      · intro c hc
        rw [hparsed.callsign] at hc
        rw [isCallChar_iff, ← u.isAlnum_ascii c (hascii c hc)]
        exact ⟨hparsed.alnum c hc, not_lower_of_mem_callText hc⟩
    rw [encodeAddress_of_valid hvalid, decodeAddress_field hvalid]

/-- A callsign in lower case, with an SSID. -/
theorem decodeAddress_parse_iff_n0call :
    decodeAddress (encodeAddress .latin1 ⟨"N0CALL", 7, false⟩ true) =
        .ok (⟨"N0CALL", 7, false⟩, true) ↔
      ∀ c ∈ callText .latin1 " n0call-7", isAscii c = true :=
  decodeAddress_parse_iff .latin1 " n0call-7" false true ⟨"N0CALL", 7, false⟩ (by decide +kernel)

/-- An accented letter reaches the air as another one. -/
theorem accented_callsign_changed :
    ¬ ∀ (text : String) (flag last : Bool) (address : Address),
      Address.parse .latin1 text flag = .ok address →
        decodeAddress (encodeAddress .latin1 address last) = .ok (address, last) := by
  intro h
  have hparse : Address.parse .latin1 "f4éab" false = .ok ⟨"F4ÉAB", 0, false⟩ := by
    decide +kernel
  have hwire : decodeAddress (encodeAddress .latin1 ⟨"F4ÉAB", 0, false⟩ true) =
      .ok (⟨"F4IAB", 0, false⟩, true) := by
    decide +kernel
  have hsame := (h _ _ true _ hparse).symm.trans hwire
  exact absurd hsame (by decide +kernel)

end YwdTnc
