import YwdTnc.Ax25.Codec
import YwdTnc.Unicode
import Mathlib.Data.List.Basic

/-!
# Address fields

`encode_address` and its inverse. A valid address, with one to six callsign characters and
an SSID of four bits, has one field for each value of the extension bit; `decode_address`
accepts these fields and no others. A list of valid addresses is encoded with the extension
bit on its last field, and `_decode_addresses` reads such a list back from the front of a
frame.
-/

namespace YwdTnc

/-! ### `encode_address` -/

/-- `text.ljust(n)`. -/
def ljust (n : ℕ) (text : List Char) : List Char :=
  text ++ List.replicate (n - text.length) ' '

/-- `(ord(c) << 1) & 0xFE`. -/
def shiftChar (c : Char) : Byte := BitVec.ofNat 8 (c.toNat <<< 1 &&& 0xFE)

/-- The C/H bit, the reserved bits, the SSID and the extension bit. -/
def ssidOctet (ssid : ℕ) (flag last : Bool) : Byte :=
  let octet : Byte := 0x60 ||| BitVec.ofNat 8 ((ssid &&& 0x0F) <<< 1)
  let octet := if flag then octet ||| 0x80 else octet
  if last then octet ||| 0x01 else octet

/-- The field of an upper-case callsign. -/
def addressField (call : List Char) (ssid : ℕ) (flag last : Bool) : Bytes :=
  (ljust 6 call).map shiftChar ++ [ssidOctet ssid flag last]

def encodeAddress (u : Unicode) (address : Address) (last : Bool) : Bytes :=
  addressField (u.upperText address.callsign.toList) address.ssid address.flag last

/-- The fields of some addresses, `last` set on the final one. -/
def encodeAddresses (u : Unicode) : List Address → Bytes
  | [] => []
  | [address] => encodeAddress u address true
  | address :: addresses => encodeAddress u address false ++ encodeAddresses u addresses

/-- What an address field can say. -/
structure Address.Valid (address : Address) : Prop where
  one_le : 1 ≤ address.callsign.toList.length
  le_six : address.callsign.toList.length ≤ 6
  chars : ∀ c ∈ address.callsign.toList, isCallChar c = true
  ssid : address.ssid ≤ 15

instance (address : Address) : Decidable address.Valid :=
  decidable_of_iff
    ((1 ≤ address.callsign.toList.length ∧ address.callsign.toList.length ≤ 6) ∧
      address.callsign.toList.all isCallChar = true ∧ address.ssid ≤ 15)
    ⟨fun h => ⟨h.1.1, h.1.2, List.all_eq_true.mp h.2.1, h.2.2⟩,
      fun h => ⟨⟨h.one_le, h.le_six⟩, List.all_eq_true.mpr h.chars, h.ssid⟩⟩

/-- The field of a valid address, whose callsign is upper-case as it is. -/
def Address.field (address : Address) (last : Bool) : Bytes :=
  addressField address.callsign.toList address.ssid address.flag last

def Address.fields : List Address → Bytes
  | [] => []
  | [address] => address.field true
  | address :: addresses => address.field false ++ fields addresses

theorem encodeAddress_of_valid {u : Unicode} {address : Address} (h : address.Valid)
    (last : Bool) : encodeAddress u address last = address.field last := by
  rw [encodeAddress, u.upperText_of_isCallChar h.chars]
  rfl

theorem encodeAddresses_of_valid {u : Unicode} {addresses : List Address}
    (h : ∀ a ∈ addresses, a.Valid) : encodeAddresses u addresses = Address.fields addresses := by
  induction addresses with
  | nil => rfl
  | cons address addresses ih =>
      have haddress := h address List.mem_cons_self
      have hrest := ih fun a ha => h a (List.mem_cons_of_mem address ha)
      cases addresses with
      | nil => exact encodeAddress_of_valid haddress true
      | cons next addresses =>
          rw [encodeAddresses, encodeAddress_of_valid haddress, hrest]
          · rfl
          · exact nofun

/-! ### Octets -/

/-- `chr((byte >> 1) & 0x7F)`. -/
def unshiftOctet (byte : Byte) : Char := Char.ofNat (byte >>> 1 &&& 0x7F).toNat

theorem shiftChar_unshiftOctet :
    ∀ byte : Byte, byte.getLsbD 0 = false → shiftChar (unshiftOctet byte) = byte := by
  decide +kernel

theorem unshiftOctet_shiftChar {c : Char} (h : isAscii c = true) :
    unshiftOctet (shiftChar c) = c := by
  have hnat : ∀ n < 128, (BitVec.ofNat 8 (n <<< 1 &&& 0xFE) >>> 1 &&& 0x7F).toNat = n := by
    decide
  rw [unshiftOctet, shiftChar, hnat _ (of_decide_eq_true h), Char.ofNat_toNat]

theorem shiftChar_even (c : Char) : (shiftChar c).getLsbD 0 = false := by
  simp [shiftChar]

theorem ssidOctet_of_reserved : ∀ octet : Byte, octet &&& 0x60 = 0x60 →
    ssidOctet (octet >>> 1 &&& 0x0F).toNat (octet.getLsbD 7) (octet.getLsbD 0) = octet := by
  decide +kernel

/-- What `decode_address` reads off an SSID octet. -/
theorem ssidOctet_read : ∀ ssid < 16, ∀ flag last : Bool,
    ssidOctet ssid flag last &&& 0x60 = 0x60 ∧
      (ssidOctet ssid flag last >>> 1 &&& 0x0F).toNat = ssid ∧
      (ssidOctet ssid flag last).getLsbD 7 = flag ∧
      (ssidOctet ssid flag last).getLsbD 0 = last := by
  decide +kernel

/-! ### The characters of a field -/

theorem ne_space_of_isCallChar {c : Char} (h : isCallChar c = true) : c ≠ ' ' := by
  rintro rfl
  exact absurd h (by decide)

theorem callsignChars_spaces (chars : List Char) :
    callsignChars chars true = true ↔ chars = List.replicate chars.length ' ' := by
  induction chars with
  | nil => exact iff_of_true rfl rfl
  | cons c chars ih =>
      rw [callsignChars, List.length_cons, List.replicate_succ, List.cons.injEq]
      by_cases hc : c = ' '
      · rw [if_pos hc, ih]
        exact (and_iff_right hc).symm
      · rw [if_neg hc]
        simp [hc]

/-- Callsign characters, then spaces. -/
def Spells (chars : List Char) : Prop :=
  ∃ call n, chars = call ++ List.replicate n ' ' ∧ ∀ c ∈ call, isCallChar c = true

theorem spells_nil : Spells [] :=
  ⟨[], 0, rfl, fun _ hc => absurd hc List.not_mem_nil⟩

theorem spells_cons {c : Char} {chars : List Char} :
    Spells (c :: chars) ↔
      (c = ' ' ∧ chars = List.replicate chars.length ' ') ∨
        (isCallChar c = true ∧ Spells chars) := by
  constructor
  · rintro ⟨call, n, hsplit, hcall⟩
    cases call with
    | nil =>
        cases n with
        | zero => cases hsplit
        | succ n =>
            obtain ⟨rfl, rfl⟩ := List.cons.inj hsplit
            exact .inl ⟨rfl, by simp⟩
    | cons d call =>
        obtain ⟨rfl, rfl⟩ := List.cons.inj hsplit
        exact .inr ⟨hcall c List.mem_cons_self, call, n, rfl,
          fun d hd => hcall d (List.mem_cons_of_mem c hd)⟩
  · rintro (⟨rfl, hspaces⟩ | ⟨hc, call, n, rfl, hcall⟩)
    · refine ⟨[], chars.length + 1, ?_, fun d hd => absurd hd List.not_mem_nil⟩
      rw [List.nil_append, List.replicate_succ, ← hspaces]
    · refine ⟨c :: call, n, rfl, fun d hd => ?_⟩
      rcases List.mem_cons.mp hd with rfl | hd
      · exact hc
      · exact hcall d hd

theorem callsignChars_cons (c : Char) (chars : List Char) :
    callsignChars (c :: chars) false = true ↔
      (c = ' ' ∧ callsignChars chars true = true) ∨
        (isCallChar c = true ∧ callsignChars chars false = true) := by
  rw [callsignChars]
  by_cases hc : c = ' '
  · rw [if_pos hc]
    have hnot : ¬ isCallChar c = true := fun h => ne_space_of_isCallChar h hc
    exact ⟨fun h => .inl ⟨hc, h⟩, fun h => h.elim And.right fun h => absurd h.1 hnot⟩
  · rw [if_neg hc, ← isAlphanum_toUpper_iff]
    by_cases halnum : c.isAlphanum = true
    · by_cases hupper : c.toUpper = c
      · simp [hc, halnum, hupper]
      · simp [hc, hupper]
    · simp [hc, halnum]

theorem callsignChars_iff (chars : List Char) :
    callsignChars chars false = true ↔ Spells chars := by
  induction chars with
  | nil => exact iff_of_true rfl spells_nil
  | cons c chars ih => rw [callsignChars_cons, spells_cons, callsignChars_spaces, ih]

theorem rstrip_append {call : List Char} (h : ∀ c ∈ call, isCallChar c = true) (n : ℕ) :
    rstrip (call ++ List.replicate n ' ') = call := by
  have hspaces : ∀ (m : ℕ) (text : List Char),
      (List.replicate m ' ' ++ text).dropWhile (· = ' ') = text.dropWhile (· = ' ') := by
    intro m text
    induction m with
    | zero => rfl
    | succ m ih => exact ih
  have hcall : ∀ text : List Char, (∀ c ∈ text, isCallChar c = true) →
      text.dropWhile (· = ' ') = text := by
    intro text htext
    cases text with
    | nil => rfl
    | cons c text =>
        exact List.dropWhile_cons_of_neg
          (by simpa using ne_space_of_isCallChar (htext c List.mem_cons_self))
  rw [rstrip, List.reverse_append, List.reverse_replicate, hspaces,
    hcall _ fun c hc => h c (List.mem_reverse.mp hc), List.reverse_reverse]

/-! ### One field -/

theorem decodeAddress_append {shifted : Bytes} (h : shifted.length = 6) (octet : Byte) :
    decodeAddress (shifted ++ [octet]) =
      if shifted.any (fun byte => byte.getLsbD 0) then
        .error (.valueError "invalid AX.25 shifted callsign field")
      else if octet &&& 0x60 ≠ 0x60 then
        .error (.valueError "invalid AX.25 SSID reserved bits")
      else if ¬ callsignChars (shifted.map unshiftOctet) false then
        .error (.valueError "invalid AX.25 callsign characters")
      else if rstrip (shifted.map unshiftOctet) = [] then
        .error (.valueError "empty AX.25 callsign")
      else
        .ok (⟨String.ofList (rstrip (shifted.map unshiftOctet)),
          (octet >>> 1 &&& 0x0F).toNat, octet.getLsbD 7⟩, octet.getLsbD 0) := by
  match shifted, h with
  | [_, _, _, _, _, _], _ => rfl

theorem length_ljust {text : List Char} (h : text.length ≤ 6) : (ljust 6 text).length = 6 := by
  rw [ljust, List.length_append, List.length_replicate]
  omega

/-- The field of a valid address is read back. -/
theorem decodeAddress_field {address : Address} (h : address.Valid) (last : Bool) :
    decodeAddress (address.field last) = .ok (address, last) := by
  obtain ⟨hreserved, hssid, hflag, hlast⟩ :=
    ssidOctet_read address.ssid (Nat.lt_succ_of_le h.ssid) address.flag last
  have hascii : ∀ c ∈ ljust 6 address.callsign.toList, isAscii c = true := by
    intro c hc
    rcases List.mem_append.mp hc with hc | hc
    · exact isAscii_of_isCallChar (h.chars c hc)
    · rw [List.eq_of_mem_replicate hc]
      rfl
  have hchars : ((ljust 6 address.callsign.toList).map shiftChar).map unshiftOctet =
      ljust 6 address.callsign.toList := by
    rw [List.map_map]
    exact (List.map_congr_left fun c hc => unshiftOctet_shiftChar (hascii c hc)).trans
      (List.map_id' _)
  have hspells : callsignChars (ljust 6 address.callsign.toList) false = true :=
    (callsignChars_iff _).mpr ⟨_, _, rfl, h.chars⟩
  have hstrip : rstrip (ljust 6 address.callsign.toList) = address.callsign.toList :=
    rstrip_append h.chars _
  have hcall : address.callsign.toList ≠ [] := List.ne_nil_of_length_pos h.one_le
  have heven : ¬ ((ljust 6 address.callsign.toList).map shiftChar).any
      (fun byte => byte.getLsbD 0) = true := by
    intro hodd
    obtain ⟨byte, hbyte, hbit⟩ := List.any_eq_true.mp hodd
    obtain ⟨c, -, rfl⟩ := List.mem_map.mp hbyte
    rw [shiftChar_even] at hbit
    cases hbit
  rw [Address.field, addressField,
    decodeAddress_append (by rw [List.length_map, length_ljust h.le_six]),
    if_neg heven, if_neg (not_not.mpr hreserved), hchars,
    if_neg (not_not.mpr hspells), hstrip, if_neg hcall, hssid, hflag, hlast, String.ofList_toList]

theorem length_of_decodeAddress {field : Bytes} {result : Address × Bool}
    (h : decodeAddress field = .ok result) :
    ∃ shifted octet, shifted.length = 6 ∧ field = shifted ++ [octet] := by
  unfold decodeAddress at h
  split at h
  case h_1 b₀ b₁ b₂ b₃ b₄ b₅ b₆ => exact ⟨[b₀, b₁, b₂, b₃, b₄, b₅], b₆, rfl, rfl⟩
  case h_2 => cases h

/-- Only the field of a valid address is read. -/
theorem field_of_decodeAddress {field : Bytes} {address : Address} {last : Bool}
    (h : decodeAddress field = .ok (address, last)) :
    address.Valid ∧ field = address.field last := by
  obtain ⟨shifted, octet, hlength, rfl⟩ := length_of_decodeAddress h
  rw [decodeAddress_append hlength] at h
  split at h
  · cases h
  case isFalse heven =>
  split at h
  · cases h
  case isFalse hreserved =>
  split at h
  · cases h
  case isFalse hchars =>
  split at h
  · cases h
  case isFalse hcall =>
  cases h
  obtain ⟨call, n, hspells, hcallChars⟩ := (callsignChars_iff _).mp (not_not.mp hchars)
  rw [hspells, rstrip_append hcallChars] at hcall ⊢
  have hsum : call.length + n = 6 := by
    rw [← hlength, ← List.length_map unshiftOctet, hspells, List.length_append,
      List.length_replicate]
  have hljust : ljust 6 call = shifted.map unshiftOctet := by
    rw [hspells, ljust, ← hsum, Nat.add_sub_cancel_left]
  have hshifted : (shifted.map unshiftOctet).map shiftChar = shifted := by
    rw [List.map_map]
    refine (List.map_congr_left fun byte hbyte => shiftChar_unshiftOctet byte ?_).trans
      (List.map_id' _)
    rw [← Bool.not_eq_true]
    exact fun hodd => heven (List.any_eq_true.mpr ⟨byte, hbyte, hodd⟩)
  have hssid : (octet >>> 1 &&& 0x0F).toNat ≤ 15 := by
    rw [BitVec.toNat_and]
    exact Nat.and_le_right
  refine ⟨⟨?_, ?_, ?_, hssid⟩, ?_⟩
  · rw [String.toList_ofList]
    exact List.length_pos_of_ne_nil hcall
  · rw [String.toList_ofList]
    omega
  · rw [String.toList_ofList]
    exact hcallChars
  · rw [Address.field, String.toList_ofList, addressField, hljust, hshifted,
      ssidOctet_of_reserved octet (not_not.mp hreserved)]

/-! ### Lists of fields -/

theorem length_field {address : Address} (h : address.Valid) (last : Bool) :
    (address.field last).length = 7 := by
  rw [Address.field, addressField, List.length_append, List.length_map, length_ljust h.le_six]
  rfl

theorem fields_cons (address : Address) {addresses : List Address} (h : addresses ≠ []) :
    Address.fields (address :: addresses) = address.field false ++ Address.fields addresses := by
  cases addresses with
  | nil => exact absurd rfl h
  | cons next addresses => rfl

theorem length_fields {addresses : List Address} (h : ∀ a ∈ addresses, a.Valid) :
    (Address.fields addresses).length = 7 * addresses.length := by
  induction addresses with
  | nil => rfl
  | cons address addresses ih =>
      have haddress := h address List.mem_cons_self
      have hrest := ih fun a ha => h a (List.mem_cons_of_mem address ha)
      cases addresses with
      | nil => exact length_field haddress true
      | cons next addresses =>
          rw [fields_cons address (List.cons_ne_nil _ _), List.length_append,
            length_field haddress, hrest]
          simp only [List.length_cons]
          omega

/-- One round of the loop. -/
theorem decodeAddressesFrom_append (addresses : List Address) (offset : ℕ) {field : Bytes}
    (h : field.length = 7) (rest : Bytes) :
    decodeAddressesFrom addresses offset (field ++ rest) =
      match decodeAddress field with
      | .error e => .error e
      | .ok (address, last) =>
          if last then .ok (addresses ++ [address], offset + 7)
          else if (addresses ++ [address]).length > 10 then
            .error (.valueError "unreasonably long AX.25 address list")
          else decodeAddressesFrom (addresses ++ [address]) (offset + 7) rest := by
  match field, h with
  | [_, _, _, _, _, _, _], _ => rw [List.cons_append]; rfl

/-- At most eleven valid addresses are read back: the bound is tested after an address
that is not the last. -/
theorem decodeAddressesFrom_fields {addresses : List Address} (hne : addresses ≠ [])
    (hvalid : ∀ a ∈ addresses, a.Valid) (read : List Address) (offset : ℕ) (rest : Bytes)
    (hcount : read.length + addresses.length ≤ 11) :
    decodeAddressesFrom read offset (Address.fields addresses ++ rest) =
      .ok (read ++ addresses, offset + 7 * addresses.length) := by
  induction addresses generalizing read offset with
  | nil => exact absurd rfl hne
  | cons address addresses ih =>
      have haddress := hvalid address List.mem_cons_self
      cases addresses with
      | nil =>
          rw [Address.fields, decodeAddressesFrom_append _ _ (length_field haddress _),
            decodeAddress_field haddress]
          rfl
      | cons next addresses =>
          have hmore : ¬ (read ++ [address]).length > 10 := by
            simp only [List.length_append, List.length_cons, List.length_nil] at hcount ⊢
            omega
          rw [fields_cons address (List.cons_ne_nil _ _), List.append_assoc,
            decodeAddressesFrom_append _ _ (length_field haddress _),
            decodeAddress_field haddress]
          dsimp only
          rw [if_neg Bool.false_ne_true, if_neg hmore,
            ih (List.cons_ne_nil _ _) (fun a ha => hvalid a (List.mem_cons_of_mem address ha))
              _ _ (by simpa [Nat.add_assoc, Nat.add_comm 1] using hcount)]
          simp only [List.append_assoc, List.singleton_append, List.length_cons,
            Except.ok.injEq, Prod.mk.injEq, true_and]
          omega

/-- What the loop accepts is a list of at most eleven valid addresses. -/
theorem decodeAddressesFrom_ok {read result : List Address} {offset offset' : ℕ} {data : Bytes}
    (hread : read.length ≤ 10)
    (h : decodeAddressesFrom read offset data = .ok (result, offset')) :
    ∃ addresses rest, addresses ≠ [] ∧ (∀ a ∈ addresses, a.Valid) ∧
      result = read ++ addresses ∧ data = Address.fields addresses ++ rest ∧
        offset' = offset + 7 * addresses.length ∧ result.length ≤ 11 := by
  fun_induction decodeAddressesFrom read offset data with
  | case1 => cases h
  | case2 read offset b₀ b₁ b₂ b₃ b₄ b₅ b₆ rest address read' hdecode =>
      simp only [Except.ok.injEq, Prod.mk.injEq] at h
      obtain ⟨rfl, rfl⟩ := h
      obtain ⟨hvalid, hfield⟩ := field_of_decodeAddress hdecode
      refine ⟨[address], rest, List.cons_ne_nil _ _, by simpa using hvalid, rfl, ?_, rfl, ?_⟩
      · rw [Address.fields, ← hfield]
        rfl
      · rw [List.length_append]
        exact Nat.succ_le_succ hread
  | case3 => cases h
  | case4 read offset b₀ b₁ b₂ b₃ b₄ b₅ b₆ rest address last hdecode read' hlast hfew ih =>
      obtain ⟨addresses, rest', hne, hvalid, hresult, hrest, hoffset, hcount⟩ :=
        ih (Nat.le_of_not_lt hfew) h
      obtain ⟨haddress, hfield⟩ := field_of_decodeAddress hdecode
      rw [Bool.not_eq_true] at hlast
      subst hlast
      refine ⟨address :: addresses, rest', List.cons_ne_nil _ _, ?_, ?_, ?_, ?_, hcount⟩
      · intro a ha
        rcases List.mem_cons.mp ha with rfl | ha
        · exact haddress
        · exact hvalid a ha
      · rw [hresult, List.append_assoc, List.singleton_append]
      · rw [fields_cons address hne, ← hfield, List.append_assoc, ← hrest]
        rfl
      · rw [hoffset, List.length_cons]
        omega
  | case5 => cases h

end YwdTnc
