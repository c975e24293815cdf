import YwdTnc.Kiss.StreamDecoder

/-!
# The one-shot KISS codec

`decode` reads exactly what `encode` writes. A body has one escaped form, the one
that `escapeByte` gives octet by octet, because `decode` takes no FEND and no FESC
for itself and after a FESC only the two octets that stand for them.
-/

namespace YwdTnc

open KISSStreamDecoder (unescape_append_singleton unescape_append_singleton_ok decode_segment)

/-- The octets of `body` as they stand between two FENDs. -/
def escape (body : Bytes) : Bytes := body.flatMap escapeByte

@[simp] theorem escape_nil : escape [] = [] := rfl

theorem escape_append (body body' : Bytes) : escape (body ++ body') = escape body ++ escape body' :=
  List.flatMap_append

@[simp] theorem escape_singleton (byte : Byte) : escape [byte] = escapeByte byte :=
  List.flatMap_singleton _ _

theorem escape_ne_nil {body : Bytes} (h : body ≠ []) : escape body ≠ [] := by
  cases body with
  | nil => exact absurd rfl h
  | cons byte body =>
      rw [escape, List.flatMap_cons]
      unfold escapeByte
      split
      · simp
      split <;> simp

/-! ### Unescaping what was escaped -/

theorem unescape_append_escapeByte {segment raw : Bytes} (h : unescape segment = .ok (raw, false))
    (byte : Byte) : unescape (segment ++ escapeByte byte) = .ok (raw ++ [byte], false) := by
  have hescaped : unescape (segment ++ [FESC]) = .ok (raw, true) := by
    rw [unescape_append_singleton_ok h]
    rfl
  unfold escapeByte
  split
  case isTrue hfend =>
    rw [List.append_cons, unescape_append_singleton_ok hescaped, hfend]
    rfl
  case isFalse hfend =>
    split
    case isTrue hfesc =>
      rw [List.append_cons, unescape_append_singleton_ok hescaped, hfesc]
      rfl
    case isFalse hfesc =>
      rw [unescape_append_singleton_ok h]
      simp only [decodeByte, if_neg hfend, if_neg hfesc]

theorem unescape_escape (body : Bytes) : unescape (escape body) = .ok (body, false) := by
  induction body using List.reverseRecOn with
  | nil => rfl
  | append_singleton body byte ih =>
      rw [escape_append, escape_singleton]
      exact unescape_append_escapeByte ih byte

/-! ### Escaping what was unescaped -/

/-- The one segment that unescapes to `raw`, with a FESC behind it when the next
octet is escaped. -/
def escapedAs : Bytes × Bool → Bytes
  | (raw, escaped) => escape raw ++ if escaped then [FESC] else []

theorem escapedAs_decodeByte {st st' : Bytes × Bool} {byte : Byte}
    (h : decodeByte st byte = .ok st') : escapedAs st' = escapedAs st ++ [byte] := by
  obtain ⟨raw, escaped⟩ := st
  cases escaped with
  | true =>
      simp only [decodeByte] at h
      split at h
      case isTrue htfend =>
        cases h
        rw [htfend, escapedAs, escape_append, escapedAs]
        simp [escapeByte]
      case isFalse =>
        split at h
        case isTrue htfesc =>
          cases h
          rw [htfesc, escapedAs, escape_append, escapedAs]
          simp [escapeByte, show FESC ≠ FEND by decide]
        case isFalse => cases h
  | false =>
      simp only [decodeByte] at h
      split at h
      case isTrue hfesc =>
        cases h
        rw [hfesc, escapedAs, escapedAs]
        simp
      case isFalse hfesc =>
        split at h
        case isTrue => cases h
        case isFalse hfend =>
          cases h
          rw [escapedAs, escape_append, escapedAs, escape_singleton, escapeByte, if_neg hfend,
            if_neg hfesc]
          simp

/-- No segment is accepted but the escaped form of its body. -/
theorem escapedAs_unescape {segment : Bytes} {st : Bytes × Bool} (h : unescape segment = .ok st) :
    escapedAs st = segment := by
  induction segment using List.reverseRecOn generalizing st with
  | nil =>
      cases h
      rfl
  | append_singleton segment byte ih =>
      rw [unescape_append_singleton] at h
      cases hsegment : unescape segment with
      | error e =>
          rw [hsegment] at h
          cases h
      | ok before =>
          rw [hsegment] at h
          rw [escapedAs_decodeByte h, ih hsegment]

/-! ### The type octet -/

/-- The octet that carries a port and a command. -/
def typeByte (port command : ℕ) : Byte := BitVec.ofNat 8 (port <<< 4 ||| command)

theorem ofBody_typeByte {port command : ℕ} (hport : port ≤ 15) (hcommand : command ≤ 15)
    (frame : Bytes) :
    KISSMessage.ofBody (typeByte port command) frame = ⟨port, command, frame⟩ := by
  have hfields : ∀ port < 16, ∀ command < 16,
      (typeByte port command >>> 4 &&& 0x0F).toNat = port ∧
        (typeByte port command &&& 0x0F).toNat = command := by decide
  obtain ⟨hport', hcommand'⟩ :=
    hfields port (Nat.lt_succ_of_le hport) command (Nat.lt_succ_of_le hcommand)
  rw [KISSMessage.ofBody, hport', hcommand']

/-- Every octet is the type octet of its two nibbles. -/
theorem typeByte_ofBody (byte : Byte) (frame : Bytes) :
    (KISSMessage.ofBody byte frame).port ≤ 15 ∧ (KISSMessage.ofBody byte frame).command ≤ 15 ∧
      typeByte (KISSMessage.ofBody byte frame).port (KISSMessage.ofBody byte frame).command =
        byte := by
  revert byte
  simp only [KISSMessage.ofBody]
  decide

/-! ### The codec -/

theorem encode_ok {port command : ℕ} (hport : port ≤ 15) (hcommand : command ≤ 15)
    (frame : Bytes) :
    encode frame port command =
      .ok (FEND :: escape (typeByte port command :: frame) ++ [FEND]) := by
  rw [encode, if_neg (not_not.mpr hport), if_neg (not_not.mpr hcommand)]
  rfl

/-- An accepted packet is a segment between two FENDs. -/
theorem decode_ok {packet : Bytes} {m : KISSMessage} (h : decode packet = .ok m) :
    ∃ segment, packet = FEND :: segment ++ [FEND] ∧
      unescape segment >>= finishDecode = .ok m := by
  unfold decode at h
  split at h
  case isTrue => cases h
  case isFalse hframed =>
    simp only [not_or, Nat.not_lt, not_not] at hframed
    obtain ⟨hlength, hhead, hlast⟩ := hframed
    refine ⟨(packet.drop 1).dropLast, ?_, h⟩
    cases packet with
    | nil => cases hhead
    | cons first rest =>
        have hrest : rest ≠ [] := by
          rintro rfl
          simp at hlength
        rw [List.head?_cons, Option.some.injEq] at hhead
        rw [List.getLast?_cons_of_ne_nil hrest] at hlast
        obtain ⟨segment, rfl⟩ := List.getLast?_eq_some_iff.mp hlast
        rw [hhead, List.drop_one, List.tail_cons, List.dropLast_concat, List.cons_append]

theorem finishDecode_ok {st : Bytes × Bool} {m : KISSMessage} (h : finishDecode st = .ok m) :
    ∃ byte frame, st = (byte :: frame, false) ∧ m = .ofBody byte frame := by
  unfold finishDecode at h
  split at h
  · cases h
    exact ⟨_, _, rfl, rfl⟩
  · cases h

/-- Encoding and decoding are inverse to each other: every message is read back
from its packet, and every packet that is read is the packet of its message. -/
theorem encode_decode_bijective :
    (∀ (frame : Bytes) (port command : ℕ), port ≤ 15 → command ≤ 15 →
      (encode frame port command >>= decode) = .ok ⟨port, command, frame⟩) ∧
    ∀ (packet : Bytes) (m : KISSMessage), decode packet = .ok m →
      encode m.frame m.port m.command = .ok packet := by
  constructor
  · intro frame port command hport hcommand
    have hne : escape (typeByte port command :: frame) ≠ [] := escape_ne_nil (List.cons_ne_nil _ _)
    rw [encode_ok hport hcommand]
    calc decode (FEND :: escape (typeByte port command :: frame) ++ [FEND])
        = unescape (escape (typeByte port command :: frame)) >>= finishDecode := decode_segment hne
      _ = finishDecode (typeByte port command :: frame, false) := by rw [unescape_escape]; rfl
      _ = .ok ⟨port, command, frame⟩ := by rw [finishDecode, ofBody_typeByte hport hcommand]
  · intro packet m h
    obtain ⟨segment, rfl, hbody⟩ := decode_ok h
    cases hsegment : unescape segment with
    | error e =>
        rw [hsegment] at hbody
        cases hbody
    | ok st =>
        rw [hsegment] at hbody
        obtain ⟨byte, frame, rfl, rfl⟩ := finishDecode_ok hbody
        have hescaped : escape (byte :: frame) ++ [] = segment := escapedAs_unescape hsegment
        obtain ⟨hport, hcommand, htype⟩ := typeByte_ofBody byte frame
        rw [encode_ok hport hcommand, htype, ← hescaped, List.append_nil]
        rfl

/-- The type octet of port 12 and command 0 is a FEND. -/
theorem encode_decode_bijective_portTwelve :
    (encode [FESC, FEND] 12 0 >>= decode) = .ok ⟨12, 0, [FESC, FEND]⟩ ∧
      encode [0x41] 13 11 = .ok [FEND, FESC, TFESC, 0x41, FEND] :=
  ⟨encode_decode_bijective.1 [FESC, FEND] 12 0 (by decide) (by decide),
    encode_decode_bijective.2 [FEND, FESC, TFESC, 0x41, FEND] ⟨13, 11, [0x41]⟩ (by decide)⟩

end YwdTnc
