import YwdTnc.Ax25.Frames

/-!
# The grammar of a frame

The text of the acceptance rule: address fields of seven octets with the extension bit on
the last one only, a control octet, and a PID where the control octet asks for one. The
parser accepts this grammar for two to eleven address fields, one more than it has room
for: it tests the count after an address only when another one follows.
-/

namespace YwdTnc

/-- Six shifted octets that spell a callsign, and an SSID octet with both reserved bits and
the extension bit `last`. -/
def AddressField (last : Bool) (field : Bytes) : Prop :=
  ∃ (call : List Char) (octet : Byte), (1 ≤ call.length ∧ call.length ≤ 6) ∧
    (∀ c ∈ call, isCallChar c = true) ∧ octet &&& 0x60 = 0x60 ∧ octet.getLsbD 0 = last ∧
      field = (ljust 6 call).map shiftChar ++ [octet]

/-- `n` address fields, the extension bit on the last one only. -/
inductive AddressFields : ℕ → Bytes → Prop
  | last {field : Bytes} (h : AddressField true field) : AddressFields 1 field
  | more {n : ℕ} {field fields : Bytes} (h : AddressField false field)
      (hmore : AddressFields n fields) : AddressFields (n + 1) (field ++ fields)

/-- A frame with `n` address fields. -/
def FrameOf (n : ℕ) (data : Bytes) : Prop :=
  ∃ fields control rest, data = fields ++ control :: rest ∧ AddressFields n fields ∧
    (NeedsPid control → rest ≠ [])

/-- A destination, a source and at most eight repeaters. -/
def WellFormedFrame (data : Bytes) : Prop :=
  15 ≤ data.length ∧ ∃ n, 2 ≤ n ∧ n ≤ 10 ∧ FrameOf n data

/-! ### Fields and addresses -/

theorem addressField_iff {last : Bool} {field : Bytes} :
    AddressField last field ↔ ∃ address : Address, address.Valid ∧ field = address.field last := by
  constructor
  · rintro ⟨call, octet, ⟨hone, hsix⟩, hchars, hreserved, rfl, rfl⟩
    have hssid : (octet >>> 1 &&& 0x0F).toNat ≤ 15 := by
      rw [BitVec.toNat_and]
      exact Nat.and_le_right
    refine ⟨⟨String.ofList call, (octet >>> 1 &&& 0x0F).toNat, octet.getLsbD 7⟩,
      ⟨?_, ?_, ?_, hssid⟩, ?_⟩
    · rw [String.toList_ofList]
      exact hone
    · rw [String.toList_ofList]
      exact hsix
    · rw [String.toList_ofList]
      exact hchars
    · rw [Address.field, String.toList_ofList, addressField, ssidOctet_of_reserved octet hreserved]
  · rintro ⟨address, hvalid, rfl⟩
    obtain ⟨hreserved, -, -, hlast⟩ :=
      ssidOctet_read address.ssid (Nat.lt_succ_of_le hvalid.ssid) address.flag last
    exact ⟨_, _, ⟨hvalid.one_le, hvalid.le_six⟩, hvalid.chars, hreserved, hlast, rfl⟩

theorem addressFields_iff {n : ℕ} {fields : Bytes} :
    AddressFields n fields ↔
      ∃ addresses : List Address, addresses ≠ [] ∧ addresses.length = n ∧
        (∀ a ∈ addresses, a.Valid) ∧ fields = Address.fields addresses := by
  constructor
  · intro h
    induction h with
    | last h =>
        obtain ⟨address, hvalid, rfl⟩ := addressField_iff.mp h
        exact ⟨[address], List.cons_ne_nil _ _, rfl, by simpa using hvalid, rfl⟩
    | more h _ ih =>
        obtain ⟨address, hvalid, rfl⟩ := addressField_iff.mp h
        obtain ⟨addresses, hne, rfl, hvalids, rfl⟩ := ih
        refine ⟨address :: addresses, List.cons_ne_nil _ _, rfl, ?_, (fields_cons address hne).symm⟩
        intro a ha
        rcases List.mem_cons.mp ha with rfl | ha
        · exact hvalid
        · exact hvalids a ha
  · rintro ⟨addresses, hne, rfl, hvalid, rfl⟩
    induction addresses with
    | nil => exact absurd rfl hne
    | cons address addresses ih =>
        have haddress := hvalid address List.mem_cons_self
        cases addresses with
        | nil => exact .last (addressField_iff.mpr ⟨address, haddress, rfl⟩)
        | cons next addresses =>
            rw [fields_cons address (List.cons_ne_nil _ _)]
            exact .more (addressField_iff.mpr ⟨address, haddress, rfl⟩)
              (ih (List.cons_ne_nil _ _) fun a ha => hvalid a (List.mem_cons_of_mem address ha))

/-! ### One number of fields -/

theorem AddressField.length {last : Bool} {field : Bytes} (h : AddressField last field) :
    field.length = 7 := by
  obtain ⟨address, hvalid, rfl⟩ := addressField_iff.mp h
  exact length_field hvalid last

theorem AddressField.last_unique {last last' : Bool} {field : Bytes}
    (h : AddressField last field) (h' : AddressField last' field) : last = last' := by
  obtain ⟨call, octet, -, -, -, hlast, hfield⟩ := h
  obtain ⟨call', octet', -, -, -, hlast', hfield'⟩ := h'
  have heq := (List.append_inj' (hfield.symm.trans hfield') rfl).2
  rw [← hlast, ← hlast', List.head_eq_of_cons_eq heq]

/-- The extension bits tell how many fields there are. -/
theorem AddressFields.unique {n n' : ℕ} {fields fields' rest rest' : Bytes}
    (h : AddressFields n fields) (h' : AddressFields n' fields')
    (heq : fields ++ rest = fields' ++ rest') : n = n' := by
  induction h generalizing n' fields' with
  | last h =>
      cases h' with
      | last => rfl
      | more h'' =>
          rw [List.append_assoc] at heq
          have hfield := (List.append_inj heq (h.length.trans h''.length.symm)).1
          rw [hfield] at h
          cases h.last_unique h''
  | more h _ ih =>
      rw [List.append_assoc] at heq
      cases h' with
      | last h'' =>
          have hfield := (List.append_inj heq (h.length.trans h''.length.symm)).1
          rw [hfield] at h
          cases h.last_unique h''
      | more h'' hmore =>
          rw [List.append_assoc] at heq
          obtain ⟨-, hrest⟩ := List.append_inj heq (h.length.trans h''.length.symm)
          rw [ih hmore hrest]

theorem FrameOf.unique {n n' : ℕ} {data : Bytes} (h : FrameOf n data) (h' : FrameOf n' data) :
    n = n' := by
  obtain ⟨fields, control, rest, hdata, hfields, -⟩ := h
  obtain ⟨fields', control', rest', hdata', hfields', -⟩ := h'
  exact hfields.unique hfields' (hdata.symm.trans hdata')

/-! ### The parser -/

theorem parseFrame_isOk_iff (data : Bytes) :
    (∃ parsed, parseFrame data false = .ok parsed) ↔ ∃ n, 2 ≤ n ∧ n ≤ 11 ∧ FrameOf n data := by
  constructor
  · rintro ⟨parsed, h⟩
    obtain ⟨destination, source, path, control, rest, hvalid, hcount, rfl, hcontrol⟩ :=
      parseFrame_ok h
    refine ⟨path.length + 2, Nat.le_add_left _ _, by omega, _, control, rest, rfl, ?_, ?_⟩
    · exact addressFields_iff.mpr ⟨_, List.cons_ne_nil _ _, rfl, hvalid, rfl⟩
    · exact parseControl_isOk_iff.mp ⟨parsed, hcontrol⟩
  · rintro ⟨n, htwo, heleven, fields, control, rest, rfl, hfields, hpid⟩
    obtain ⟨addresses, -, hlength, hvalid, rfl⟩ := addressFields_iff.mp hfields
    obtain ⟨destination, source, path, rfl⟩ : ∃ destination source path,
        addresses = destination :: source :: path := by
      match addresses, hlength with
      | [], h => exact absurd h (by simp; omega)
      | [_], h => exact absurd h (by simp; omega)
      | destination :: source :: path, _ => exact ⟨destination, source, path, rfl⟩
    simp only [List.length_cons] at hlength
    rw [parseFrame_fields hvalid (by omega)]
    exact parseControl_isOk_iff.mpr hpid

theorem FrameOf.length {n : ℕ} {data : Bytes} (htwo : 2 ≤ n) (h : FrameOf n data) :
    15 ≤ data.length := by
  obtain ⟨fields, control, rest, rfl, hfields, -⟩ := h
  obtain ⟨addresses, -, hlength, hvalid, rfl⟩ := addressFields_iff.mp hfields
  rw [List.length_append, length_fields hvalid, List.length_cons]
  omega

/-- The parser raises nothing but `ValueError`, and it accepts the well-formed frames and
no others exactly on data that is no frame with eleven address fields. -/
theorem parseFrame_wellFormed_iff (data : Bytes) :
    ((∀ e, parseFrame data false = .error e → e.cls = .valueError) ∧
      ((∃ parsed, parseFrame data false = .ok parsed) ↔ WellFormedFrame data)) ↔
    ¬ FrameOf 11 data := by
  rw [and_iff_right fun e => parseFrame_error, parseFrame_isOk_iff]
  constructor
  · intro h heleven
    obtain ⟨-, n, -, hten, hframe⟩ := h.mp ⟨11, by decide, Nat.le_refl _, heleven⟩
    have hcount := hframe.unique heleven
    omega
  · intro hnot
    constructor
    · rintro ⟨n, htwo, heleven, hframe⟩
      refine ⟨hframe.length htwo, n, htwo, ?_, hframe⟩
      by_contra hlong
      obtain rfl : n = 11 := by omega
      exact hnot hframe
    · rintro ⟨-, n, htwo, hten, hframe⟩
      exact ⟨n, htwo, Nat.le_succ_of_le hten, hframe⟩

/-- The addresses of a frame that asks for nine repeaters. -/
def nineRepeaters : List Address :=
  ⟨"APRS", 0, true⟩ :: ⟨"N0CALL", 0, false⟩ :: List.replicate 9 ⟨"WIDE", 1, false⟩

theorem frameOf_nineRepeaters : FrameOf 11 (Address.fields nineRepeaters ++ [0x01]) := by
  have hvalid : ∀ a ∈ nineRepeaters, a.Valid := by decide +kernel
  refine ⟨_, 0x01, [], rfl, addressFields_iff.mpr ⟨_, List.cons_ne_nil _ _, rfl, hvalid, rfl⟩, ?_⟩
  rintro (h | h)
  · exact absurd h (by decide)
  · exact absurd h (by decide)

/-- The ninth repeater is accepted. -/
theorem ninth_repeater_accepted :
    ¬ ∀ data : Bytes, (∀ e, parseFrame data false = .error e → e.cls = .valueError) ∧
      ((∃ parsed, parseFrame data false = .ok parsed) ↔ WellFormedFrame data) := by
  intro h
  have haccepted := (parseFrame_isOk_iff _).mpr
    ⟨11, by decide, Nat.le_refl _, frameOf_nineRepeaters⟩
  obtain ⟨-, n, -, hten, hframe⟩ := (h _).2.mp haccepted
  have hcount := hframe.unique frameOf_nineRepeaters
  omega

end YwdTnc
