import YwdTnc.Ax25.Addresses

/-!
# Frames

What `parse_frame` accepts without an FCS, that it loses nothing of it, and that it reads
back every frame of `build_ui_frame`. The parser is `_decode_addresses` on the front of the
data and `parseControl` on the rest, so each result is one on address fields and one on the
control octet.
-/

namespace YwdTnc

/-! ### The control octet -/

/-- I frames and UI frames have a PID. -/
def NeedsPid (control : Byte) : Prop :=
  control.getLsbD 0 = false ∨ control &&& 0xEF = AX25_UI

theorem control_classes : ∀ control : Byte,
    (control.getLsbD 0 ≠ false → control &&& 0x03 = 0x01 → control &&& 0xEF ≠ AX25_UI) ∧
      (control.getLsbD 0 ≠ false → control &&& 0x03 ≠ 0x01 → control &&& 0x03 = 0x03) := by
  decide +kernel

variable {destination source : Address} {path : List Address} {control : Byte} {rest : Bytes}

/-- The exits of `parseControl`. -/
inductive ParsesControl (destination source : Address) (path : List Address) (control : Byte) :
    Bytes → Except PyError ParsedFrame → Prop
  | information {pid : Byte} {info : Bytes} (h : control.getLsbD 0 = false) :
      ParsesControl destination source path control (pid :: info)
        (.ok
          { destination, source, path, control
            frameClass := "I"
            frameType := "I"
            pollFinal := control.getLsbD 4
            ns := some (control >>> 1 &&& 0x07).toNat
            nr := some (control >>> 5 &&& 0x07).toNat
            pid := some pid
            info := info })
  | supervisory {info : Bytes} (h : control &&& 0x03 = 0x01) (hpid : ¬ NeedsPid control) :
      ParsesControl destination source path control info
        (.ok
          { destination, source, path, control
            frameClass := "S"
            frameType := sFrameName (control >>> 2 &&& 0x03).toNat
            pollFinal := control.getLsbD 4
            ns := none
            nr := some (control >>> 5 &&& 0x07).toNat
            pid := none
            info := info })
  | unnumbered {rest info : Bytes} {pid : Option Byte} (h : control &&& 0x03 = 0x03)
      (hpid : NeedsPid control ↔ pid.isSome = true) (hrest : rest = pid.toList ++ info) :
      ParsesControl destination source path control rest
        (.ok
          { destination, source, path, control
            frameClass := "U"
            frameType := uFrameName (control &&& 0xEF)
            pollFinal := control.getLsbD 4
            ns := none
            nr := none
            pid := pid
            info := info })
  | missingPid {e : PyError} (h : NeedsPid control) (hcls : e.cls = .valueError) :
      ParsesControl destination source path control [] (.error e)

theorem parseControl_parses (destination source : Address) (path : List Address)
    (control : Byte) (rest : Bytes) :
    ParsesControl destination source path control rest
      (parseControl destination source path control rest) := by
  obtain ⟨hnotUi, hunnumbered⟩ := control_classes control
  unfold parseControl
  by_cases hinformation : control.getLsbD 0 = false
  · rw [if_pos hinformation]
    cases rest with
    | nil => exact .missingPid (.inl hinformation) rfl
    | cons pid info => exact .information hinformation
  · rw [if_neg hinformation]
    by_cases hsupervisory : control &&& 0x03 = 0x01
    · rw [if_pos hsupervisory]
      refine .supervisory hsupervisory ?_
      rintro (h | h)
      · exact hinformation h
      · exact hnotUi hinformation hsupervisory h
    · rw [if_neg hsupervisory]
      have hclass := hunnumbered hinformation hsupervisory
      by_cases hui : control &&& 0xEF = AX25_UI
      · simp only [if_pos hui]
        cases rest with
        | nil => exact .missingPid (.inr hui) rfl
        | cons pid info =>
            exact @ParsesControl.unnumbered _ _ _ _ _ info (some pid) hclass
              (iff_of_true (.inr hui) rfl) rfl
      · simp only [if_neg hui]
        refine @ParsesControl.unnumbered _ _ _ _ _ rest none hclass ?_ rfl
        refine iff_of_false ?_ Bool.false_ne_true
        rintro (h | h)
        · exact hinformation h
        · exact hui h

theorem parseControl_isOk_iff :
    (∃ parsed, parseControl destination source path control rest = .ok parsed) ↔
      (NeedsPid control → rest ≠ []) := by
  have hparses := parseControl_parses destination source path control rest
  generalize parseControl destination source path control rest = result at hparses
  cases hparses with
  | information => exact iff_of_true ⟨_, rfl⟩ fun _ => List.cons_ne_nil _ _
  | supervisory _ hpid => exact iff_of_true ⟨_, rfl⟩ fun h => absurd h hpid
  | @unnumbered _ info pid _ hpid hrest =>
      refine iff_of_true ⟨_, rfl⟩ fun h => ?_
      obtain ⟨octet, rfl⟩ := Option.isSome_iff_exists.mp (hpid.mp h)
      rw [hrest]
      exact List.cons_ne_nil _ _
  | missingPid h =>
      refine iff_of_false ?_ fun hneeds => hneeds h rfl
      rintro ⟨parsed, hparsed⟩
      cases hparsed

theorem parseControl_error {e : PyError}
    (h : parseControl destination source path control rest = .error e) :
    e.cls = .valueError := by
  have hparses := parseControl_parses destination source path control rest
  rw [h] at hparses
  cases hparses with
  | missingPid _ hcls => exact hcls

/-! ### The whole frame -/

theorem decodeAddress_error {field : Bytes} {e : PyError}
    (h : decodeAddress field = .error e) : e.cls = .valueError := by
  unfold decodeAddress at h
  split at h
  case h_1 =>
      dsimp only at h
      repeat' split at h
      all_goals cases h
      all_goals rfl
  case h_2 =>
      cases h
      rfl

theorem decodeAddressesFrom_error {read : List Address} {offset : ℕ} {data : Bytes} {e : PyError}
    (h : decodeAddressesFrom read offset data = .error e) : e.cls = .valueError := by
  fun_induction decodeAddressesFrom read offset data with
  | case1 _ _ _ _ _ _ _ _ _ _ e' hdecode =>
      cases h
      exact decodeAddress_error hdecode
  | case2 => cases h
  | case3 => cases h; rfl
  | case4 _ _ _ _ _ _ _ _ _ _ _ _ _ _ _ _ ih => exact ih h
  | case5 => cases h; rfl

theorem parseFrame_error {data : Bytes} {e : PyError} (h : parseFrame data false = .error e) :
    e.cls = .valueError := by
  change parseBody data = .error e at h
  unfold parseBody decodeAddresses at h
  split at h
  · cases h
    rfl
  split at h
  case h_1 e' hdecode =>
      cases h
      split at hdecode
      case h_1 e'' hfrom =>
          cases hdecode
          exact decodeAddressesFrom_error hfrom
      case h_2 =>
          split at hdecode
          · cases hdecode
            rfl
          · cases hdecode
  case h_2 =>
      split at h
      · cases h
        rfl
      · exact parseControl_error h
  case h_3 =>
      cases h
      rfl

/-- The address list and the control octet decide what comes of a frame. -/
theorem parseFrame_fields (hvalid : ∀ a ∈ destination :: source :: path, a.Valid)
    (hcount : path.length ≤ 9) (control : Byte) (rest : Bytes) :
    parseFrame (Address.fields (destination :: source :: path) ++ control :: rest) false =
      parseControl destination source path control rest := by
  have hlength := length_fields hvalid
  simp only [List.length_cons] at hlength
  have hdecode : decodeAddresses
      (Address.fields (destination :: source :: path) ++ control :: rest) =
        .ok (destination :: source :: path, 7 * (path.length + 2)) := by
    rw [decodeAddresses, decodeAddressesFrom_fields (List.cons_ne_nil _ _) hvalid [] 0 _
      (by simp only [List.length_cons, List.length_nil]; omega)]
    simp
  change parseBody _ = _
  rw [parseBody, if_neg (by rw [List.length_append, hlength, List.length_cons]; omega), hdecode]
  dsimp only
  rw [List.drop_left' (by rw [hlength])]

theorem parseFrame_ok {data : Bytes} {parsed : ParsedFrame}
    (h : parseFrame data false = .ok parsed) :
    ∃ destination source path control rest,
      (∀ a ∈ destination :: source :: path, a.Valid) ∧ path.length ≤ 9 ∧
        data = Address.fields (destination :: source :: path) ++ control :: rest ∧
          parseControl destination source path control rest = .ok parsed := by
  change parseBody data = .ok parsed at h
  unfold parseBody decodeAddresses at h
  split at h
  · cases h
  split at h
  case h_1 => cases h
  case h_3 => cases h
  case h_2 destination source path offset hdecode =>
  split at h
  · cases h
  case h_2 control rest hdrop =>
  split at hdecode
  · cases hdecode
  case h_2 addresses offset' hfrom =>
  split at hdecode
  · cases hdecode
  case isFalse =>
  cases hdecode
  obtain ⟨addresses, rest', -, hvalid, hread, hdata, hoffset, hcount⟩ :=
    decodeAddressesFrom_ok (Nat.zero_le _) hfrom
  rw [List.nil_append] at hread
  subst hread
  rw [hdata, List.drop_left' (by rw [length_fields hvalid, hoffset, Nat.zero_add])] at hdrop
  refine ⟨destination, source, path, control, rest, hvalid, ?_, ?_, h⟩
  · simp only [List.length_cons] at hcount
    omega
  · rw [hdata, hdrop]

/-! ### Nothing is lost -/

/-- The fields of what was parsed, one after the other. -/
def reencode (u : Unicode) (parsed : ParsedFrame) : Bytes :=
  encodeAddresses u (parsed.destination :: parsed.source :: parsed.path) ++
    parsed.control :: (parsed.pid.toList ++ parsed.info)

/-- The code of a supervisory frame. -/
def sTypeCode (frameType : String) : Byte :=
  if frameType = "RR" then 0
  else if frameType = "RNR" then 1
  else if frameType = "REJ" then 2
  else 3

/-- The value of an upper-case hexadecimal digit. -/
def hexValue (c : Char) : ℕ := if c.isDigit then c.toNat - 48 else c.toNat - 55

/-- The code of an unnumbered frame, from its name or from its number. -/
def uTypeCode (frameType : String) : Byte :=
  if frameType = "UI" then 0x03
  else if frameType = "DM" then 0x0F
  else if frameType = "SABM" then 0x2F
  else if frameType = "DISC" then 0x43
  else if frameType = "UA" then 0x63
  else if frameType = "SABME" then 0x6F
  else if frameType = "FRMR" then 0x87
  else if frameType = "XID" then 0xAF
  else if frameType = "TEST" then 0xE3
  else
    match frameType.toList.drop 4 with
    | [high, low] => BitVec.ofNat 8 (16 * hexValue high + hexValue low)
    | _ => 0

/-- The control octet of a frame of the three classes. -/
def controlOctet (frameClass frameType : String) (pollFinal : Bool) (ns nr : Option ℕ) : Byte :=
  let final : Byte := if pollFinal then 0x10 else 0
  let received : Byte := BitVec.ofNat 8 (nr.getD 0 <<< 5)
  if frameClass = "I" then received ||| final ||| BitVec.ofNat 8 (ns.getD 0 <<< 1)
  else if frameClass = "S" then received ||| final ||| sTypeCode frameType <<< 2 ||| 0x01
  else uTypeCode frameType ||| final

theorem uTypeCode_uFrameName : ∀ code : Byte, uTypeCode (uFrameName code) = code := by
  decide +kernel

theorem controlOctet_information : ∀ control : Byte, control.getLsbD 0 = false →
    controlOctet "I" "I" (control.getLsbD 4) (some (control >>> 1 &&& 0x07).toNat)
      (some (control >>> 5 &&& 0x07).toNat) = control := by
  decide +kernel

theorem controlOctet_supervisory : ∀ control : Byte, control &&& 0x03 = 0x01 →
    controlOctet "S" (sFrameName (control >>> 2 &&& 0x03).toNat) (control.getLsbD 4) none
      (some (control >>> 5 &&& 0x07).toNat) = control := by
  decide +kernel

theorem controlOctet_unnumbered (control : Byte) :
    controlOctet "U" (uFrameName (control &&& 0xEF)) (control.getLsbD 4) none none =
      control := by
  have hfinal : ∀ control : Byte,
      control &&& 0xEF ||| (if control.getLsbD 4 then 0x10 else 0) = control := by
    decide +kernel
  change uTypeCode (uFrameName (control &&& 0xEF)) ||| _ = control
  rw [uTypeCode_uFrameName]
  exact hfinal control

/-- Every field of a parsed frame is where the input has it. -/
theorem ParsesControl.lossless {parsed : ParsedFrame}
    (h : ParsesControl destination source path control rest (.ok parsed)) :
    parsed.destination = destination ∧ parsed.source = source ∧ parsed.path = path ∧
      parsed.control = control ∧ parsed.pid.toList ++ parsed.info = rest ∧
        controlOctet parsed.frameClass parsed.frameType parsed.pollFinal parsed.ns parsed.nr =
          control := by
  cases h with
  | information h => exact ⟨rfl, rfl, rfl, rfl, rfl, controlOctet_information control h⟩
  | supervisory h => exact ⟨rfl, rfl, rfl, rfl, rfl, controlOctet_supervisory control h⟩
  | unnumbered _ _ hrest =>
      exact ⟨rfl, rfl, rfl, rfl, hrest.symm, controlOctet_unnumbered control⟩

/-- The parser is lossless. -/
theorem reencode_parseFrame (u : Unicode) (data : Bytes) (parsed : ParsedFrame)
    (h : parseFrame data false = .ok parsed) :
    reencode u parsed = data ∧
      parsed.control =
        controlOctet parsed.frameClass parsed.frameType parsed.pollFinal parsed.ns parsed.nr := by
  obtain ⟨destination, source, path, control, rest, hvalid, -, hdata, hcontrol⟩ := parseFrame_ok h
  have hparses := parseControl_parses destination source path control rest
  rw [hcontrol] at hparses
  obtain ⟨hdestination, hsource, hpath, hoctet, hrest, hdetermined⟩ := hparses.lossless
  rw [reencode, hdestination, hsource, hpath, hoctet, hrest, encodeAddresses_of_valid hvalid]
  exact ⟨hdata.symm, hdetermined.symm⟩

theorem reencode_parseFrame_receiveReady :
    reencode .latin1 receiveReadyParsed = receiveReady ∧
      receiveReadyParsed.control = controlOctet "S" "RR" false none (some 0) :=
  reencode_parseFrame .latin1 receiveReady receiveReadyParsed parseFrame_receiveReady

/-! ### `build_ui_frame` -/

/-- A UI command frame; `append_fcs` is the last step. -/
def buildUiFrame (u : Unicode) (source destination : Address) (info : Bytes)
    (path : List Address) (pid : ℤ) (includeFcs : Bool) : Except PyError Bytes :=
  if ¬ (0 ≤ pid ∧ pid ≤ 0xFF) then .error (.valueError "PID must fit in one byte")
  else
    let dest : Address := ⟨destination.callsign, destination.ssid, true⟩
    let src : Address := ⟨source.callsign, source.ssid, false⟩
    let data := encodeAddresses u (dest :: src :: path) ++ [AX25_UI, BitVec.ofInt 8 pid] ++ info
    .ok (if includeFcs then appendFcs data else data)

def parseUiFrame (frame : Bytes) (hasFcs : Bool) : Except PyError ParsedFrame :=
  match parseFrame frame hasFcs with
  | .error e => .error e
  | .ok parsed =>
      if parsed.frameType ≠ "UI" then
        .error (.valueError ("not an AX.25 UI frame: control=0x" ++ hexByte parsed.control))
      else .ok parsed

theorem parseFrame_appendFcs (data : Bytes) :
    parseFrame (appendFcs data) true = parseFrame data false := by
  have hlength : (appendFcs data).length - 2 = data.length := by
    rw [appendFcs_length]
    omega
  rw [parseFrame, if_pos rfl, if_neg (by rw [verifyFcs_appendFcs]; exact not_not.mpr rfl),
    hlength, appendFcs, List.take_left]
  rfl

/-- The frame of a source, a destination and a path comes back from the parser, with and
without an FCS. -/
theorem parseUiFrame_buildUiFrame (u : Unicode) (source destination : Address)
    (path : List Address) (hsource : source.Valid) (hdestination : destination.Valid)
    (hpath : ∀ a ∈ path, a.Valid) (hcount : path.length ≤ 8) (pid : ℤ)
    (hpid : 0 ≤ pid ∧ pid ≤ 255) (info : Bytes) (includeFcs : Bool) :
    ∃ frame parsed, buildUiFrame u source destination info path pid includeFcs = .ok frame ∧
      parseUiFrame frame includeFcs = .ok parsed ∧
        parsed.destination = ⟨destination.callsign, destination.ssid, true⟩ ∧
        parsed.source = ⟨source.callsign, source.ssid, false⟩ ∧
        parsed.path = path ∧
        parsed.pid.map (fun octet => (octet.toNat : ℤ)) = some pid ∧
        parsed.info = info := by
  let dest : Address := ⟨destination.callsign, destination.ssid, true⟩
  let src : Address := ⟨source.callsign, source.ssid, false⟩
  have hvalid : ∀ a ∈ dest :: src :: path, a.Valid := by
    intro a ha
    rcases List.mem_cons.mp ha with rfl | ha
    · exact ⟨hdestination.one_le, hdestination.le_six, hdestination.chars, hdestination.ssid⟩
    rcases List.mem_cons.mp ha with rfl | ha
    · exact ⟨hsource.one_le, hsource.le_six, hsource.chars, hsource.ssid⟩
    · exact hpath a ha
  let data := Address.fields (dest :: src :: path) ++ AX25_UI :: BitVec.ofInt 8 pid :: info
  let parsed : ParsedFrame :=
    { destination := dest, source := src, path := path, control := AX25_UI, frameClass := "U"
      frameType := "UI", pollFinal := false, ns := none, nr := none
      pid := some (BitVec.ofInt 8 pid), info := info }
  have hparse : parseFrame data false = .ok parsed := by
    rw [parseFrame_fields hvalid (Nat.le_succ_of_le hcount)]
    rfl
  have hbuild : buildUiFrame u source destination info path pid includeFcs =
      .ok (if includeFcs then appendFcs data else data) := by
    have hdata : encodeAddresses u (dest :: src :: path) ++ [AX25_UI, BitVec.ofInt 8 pid] ++ info =
        data := by
      rw [encodeAddresses_of_valid hvalid, List.append_assoc]
      rfl
    rw [← hdata, buildUiFrame, if_neg (not_not.mpr hpid)]
  have hframe : parseFrame (if includeFcs then appendFcs data else data) includeFcs =
      .ok parsed := by
    cases includeFcs with
    | false => exact hparse
    | true => exact (parseFrame_appendFcs data).trans hparse
  refine ⟨_, parsed, hbuild, ?_, rfl, rfl, rfl, ?_, rfl⟩
  · rw [parseUiFrame, hframe]
    rfl
  · have hoctet : ((BitVec.ofInt 8 pid).toNat : ℤ) = pid := by
      rw [BitVec.toNat_ofInt]
      omega
    exact congrArg some hoctet

/-- A short text through one repeater, with its FCS. -/
theorem parseUiFrame_buildUiFrame_repeated :
    ∃ frame parsed, buildUiFrame .latin1 ⟨"N0CALL", 7, true⟩ ⟨"APRS", 0, false⟩ [0x68, 0x69]
        [⟨"WIDE1", 1, true⟩] 0xF0 true = .ok frame ∧
      parseUiFrame frame true = .ok parsed ∧ parsed.destination = ⟨"APRS", 0, true⟩ ∧
        parsed.source = ⟨"N0CALL", 7, false⟩ ∧ parsed.path = [⟨"WIDE1", 1, true⟩] ∧
        parsed.pid.map (fun octet => (octet.toNat : ℤ)) = some 0xF0 ∧
        parsed.info = [0x68, 0x69] :=
  parseUiFrame_buildUiFrame .latin1 ⟨"N0CALL", 7, true⟩ ⟨"APRS", 0, false⟩ [⟨"WIDE1", 1, true⟩]
    (by decide +kernel) (by decide +kernel) (by decide +kernel) (by decide) 0xF0
    (by decide) [0x68, 0x69] true

end YwdTnc
