import YwdTnc.Modem.Protocol
import YwdTnc.Phy.Loopback
import YwdTnc.Tx.Broker

/-!
# A burst on the modem link

A prepared frame always fits into one tone request, and what the modem gets can
be read back: the count says how many selectors are packed behind it, and
between the flags of their bits stands the frame. Flags are removed without
counting them, because stuffed data never holds one.
-/

namespace YwdTnc

open Coding Receiver

/-- Remove the flags at the front. -/
def dropFlags : List Bool → List Bool
  | false :: true :: true :: true :: true :: true :: true :: false :: bits => dropFlags bits
  | bits => bits

/-- Remove the flags on both sides; a flag reads the same from both. -/
def removeFlags (bits : List Bool) : List Bool := (dropFlags (dropFlags bits).reverse).reverse

/-- The frame in the payload of a tone request. -/
def decodeTones (payload : Bytes) : Except PyError Bytes :=
  match payload with
  | _ :: lo :: hi :: packed => do
      let selectors ← unpackSelectors packed (Protocol.uint16 lo hi)
      bitsToBytesLsb (← unstuffBits (removeFlags (nrziDecode P5_INITIAL_TONE selectors)))
  | _ => .error (.valueError "truncated YWD_RF/TX_TONES payload")

/-! ### Flags and stuffed data -/

theorem quiet_append {ones : ℕ} {xs ys : List Bool} (h : quiet ones (xs ++ ys)) :
    quiet (xs.foldl onesAfter ones) ys := by
  induction xs generalizing ones with
  | nil => exact h
  | cons bit xs ih => exact ih h.2

theorem not_quiet_flagBits (ones : ℕ) (bits : List Bool) : ¬ quiet ones (flagBits ++ bits) := by
  intro h
  rw [flagBits_eq] at h
  exact absurd h.2.2.2.2.2.2.2.1 (by simp)

/-- No flag stands in stuffed data. -/
theorem flagBits_not_infix_stuffBits (bits : List Bool) : ¬ flagBits <:+: stuffBits bits := by
  rintro ⟨before, after, h⟩
  have hquiet := quiet_stuffBits_append bits
  rw [← h, List.append_assoc, List.append_assoc] at hquiet
  exact not_quiet_flagBits _ _ (quiet_append hquiet)

theorem dropFlags_of_not_prefix {bits : List Bool} (h : ¬ flagBits <+: bits) :
    dropFlags bits = bits := by
  unfold dropFlags
  split
  · rw [flagBits_eq] at h
    exact absurd ⟨_, rfl⟩ h
  · rfl

theorem dropFlags_flags (n : ℕ) {bits : List Bool} (h : ¬ flagBits <+: bits) :
    dropFlags ((List.replicate n flagBits).flatten ++ bits) = bits := by
  induction n with
  | zero => exact dropFlags_of_not_prefix h
  | succ n ih =>
      rw [List.replicate_succ, List.flatten_cons, List.append_assoc]
      calc dropFlags (flagBits ++ ((List.replicate n flagBits).flatten ++ bits))
          = dropFlags ((List.replicate n flagBits).flatten ++ bits) := by
            rw [flagBits_eq]
            rfl
        _ = bits := ih

theorem reverse_flags (n : ℕ) :
    (List.replicate n flagBits).flatten.reverse = (List.replicate n flagBits).flatten := by
  rw [List.reverse_flatten, List.map_replicate, List.reverse_replicate]
  rfl

/-- The flags around stuffed data can be told from it. -/
theorem removeFlags_stuffBits {bits : List Bool} (hlength : 8 ≤ bits.length)
    (preFlags postFlags : ℕ) :
    removeFlags ((List.replicate preFlags flagBits).flatten ++ stuffBits bits ++
      (List.replicate postFlags flagBits).flatten) = stuffBits bits := by
  have hinfix := flagBits_not_infix_stuffBits bits
  have hlong : flagBits.length ≤ (stuffBits bits).length :=
    le_trans hlength (length_le_length_stuffFrom 5 0 bits)
  have hfront : ¬ flagBits <+: stuffBits bits ++ (List.replicate postFlags flagBits).flatten := by
    intro h
    exact hinfix (List.prefix_of_prefix_length_le h (List.prefix_append _ _) hlong).isInfix
  have hback : ¬ flagBits <+: (stuffBits bits).reverse := by
    intro h
    exact hinfix (List.reverse_prefix.mp (show flagBits.reverse <+: _ from h)).isInfix
  rw [removeFlags, List.append_assoc, dropFlags_flags preFlags hfront, List.reverse_append,
    reverse_flags, dropFlags_flags postFlags hback, List.reverse_reverse]

/-! ### The tone request -/

/-- What is packed for a frame can be read back from its payload. -/
theorem decodeTones_ok {frame : Bytes} {selectors : List Bool} {preFlags : ℕ}
    (hframe : frame ≠ []) (hpre : 1 ≤ preFlags)
    (hselectors : frameToSelectors frame preFlags P5_POST_FLAGS P5_INITIAL_TONE = .ok selectors)
    (hcount : selectors.length < 2 ^ 16) :
    decodeTones (Protocol.RF_TX_TONES :: Protocol.uint16Bytes selectors.length ++
      packSelectors selectors) = .ok frame := by
  obtain ⟨lo, hi, hbytes, hword⟩ := Protocol.uint16_uint16Bytes hcount
  have hlength : 8 ≤ (byteBitsLsb frame).length := by
    have hpos := List.length_pos_of_ne_nil hframe
    rw [byteBitsLsb_length]
    omega
  rw [frameToSelectors_eq P5_INITIAL_TONE hframe hpre (by decide), Except.ok.injEq] at hselectors
  have hbits : removeFlags (nrziDecode P5_INITIAL_TONE selectors) =
      stuffBits (byteBitsLsb frame) := by
    rw [← hselectors, nrziDecode_nrziEncode, removeFlags_stuffBits hlength]
  calc decodeTones (Protocol.RF_TX_TONES :: Protocol.uint16Bytes selectors.length ++
        packSelectors selectors)
      = (do
          let selectors ← unpackSelectors (packSelectors selectors) selectors.length
          bitsToBytesLsb (← unstuffBits (removeFlags (nrziDecode P5_INITIAL_TONE selectors)))) := by
        rw [hbytes, ← hword]
        rfl
    _ = (do bitsToBytesLsb (← unstuffBits (stuffBits (byteBitsLsb frame)))) := by
        rw [unpackSelectors_packSelectors, ← hbits]
        rfl
    _ = bitsToBytesLsb (byteBitsLsb frame) := by
        rw [unstuffBits_stuffBits]
        rfl
    _ = .ok frame := bitsToBytesLsb_byteBitsLsb frame

/-- What a successful preparation has built. -/
theorem TXBroker.prepareFrame_selectors {preFlags : ℕ} {frame packed : Bytes}
    {receipt : TXReceipt} (h : TXBroker.prepareFrame preFlags frame = .ok (receipt, packed)) :
    frame ≠ [] ∧ ∃ selectors,
      frameToSelectors frame preFlags P5_POST_FLAGS P5_INITIAL_TONE = .ok selectors ∧
      selectors.length ≤ MAX_SELECTORS ∧ receipt.selectorCount = selectors.length ∧
      packed = packSelectors selectors := by
  unfold TXBroker.prepareFrame at h
  split at h
  · cases h
  case isFalse hvalid =>
    split at h
    · cases h
    case h_2 selectors hselectors =>
      split at h
      · cases h
      case isFalse hfits =>
        cases h
        refine ⟨?_, selectors, hselectors, not_lt.mp hfits, rfl, rfl⟩
        rintro rfl
        exact hvalid (.inl (by decide))

/-- The wire round trip of a transmission: the request for a prepared frame is
built, fits into one host frame, is parsed back, and holds the frame. -/
theorem rfTxTonesRequest_prepareFrame (units : ℕ) (profile : TXDelayProfile)
    (hunits : resolveTxdelay units = .ok profile) (frame packed : Bytes) (receipt : TXReceipt)
    (h : TXBroker.prepareFrame profile.preFlags frame = .ok (receipt, packed)) :
    ∃ data payload, Protocol.rfTxTonesRequest receipt.selectorCount packed = .ok data ∧
      data.length ≤ 255 ∧
      Protocol.parseFrame data none = .ok { command := Protocol.YWD_RF, payload } ∧
      decodeTones payload = .ok frame := by
  have hpre : 1 ≤ profile.preFlags := by
    unfold resolveTxdelay at hunits
    split at hunits
    · cases hunits
      exact one_le_txdelayFlags units
    · cases hunits
  obtain ⟨hframe, selectors, hselectors, hfits, hcount, rfl⟩ := TXBroker.prepareFrame_selectors h
  have hpos : 1 ≤ selectors.length := by
    obtain ⟨selectors', hselectors', hlength⟩ := TXBroker.serialize_length hframe hpre
    rw [hselectors, Except.ok.injEq] at hselectors'
    rw [hselectors', hlength, TXBroker.burstSelectors]
    omega
  rw [hcount]
  obtain ⟨data, hrequest, hbuild⟩ :=
    Protocol.rfTxTonesRequest_ok hpos hfits (packSelectors_length selectors)
  obtain ⟨hparse, hlength⟩ := Protocol.parseFrame_buildFrame hbuild none (by simp)
  exact ⟨data, _, hrequest, hlength, hparse,
    decodeTones_ok hframe hpre hselectors (lt_of_le_of_lt hfits (by decide))⟩

/-- A ready report at the default TXDELAY. -/
theorem rfTxTonesRequest_prepareFrame_receiveReady :
    ∃ receipt packed data payload,
      TXBroker.prepareFrame (txdelayProfile 30).preFlags (appendFcs receiveReady) =
        .ok (receipt, packed) ∧
      Protocol.rfTxTonesRequest receipt.selectorCount packed = .ok data ∧
      Protocol.parseFrame data none = .ok { command := Protocol.YWD_RF, payload } ∧
      decodeTones payload = .ok (appendFcs receiveReady) := by
  have hframe : 3 ≤ (appendFcs receiveReady).length := by decide
  obtain ⟨⟨receipt, packed⟩, hprepare⟩ :=
    (TXBroker.prepareFrame_ok_iff hframe (verifyFcs_appendFcs receiveReady)
      (one_le_txdelayFlags 30)).mpr (by decide +kernel)
  obtain ⟨data, payload, hrequest, -, hparse, hdecode⟩ :=
    rfTxTonesRequest_prepareFrame 30 (txdelayProfile 30) (resolveTxdelay_ok (by decide))
      (appendFcs receiveReady) packed receipt hprepare
  exact ⟨receipt, packed, data, payload, hprepare, hrequest, hparse, hdecode⟩

end YwdTnc
