import YwdTnc.Kiss.Framing
import YwdTnc.Coding.Delimited

/-!
# The stream decoder and its reference semantics

What a KISS byte stream means, read off the one-shot `decode`: its messages are
those of the FEND-terminated segments that decode within the body limit
(`referenceMessages`), and its discarded frames are the segments that do not
(`referenceDiscards`). The segment still open at the end of the stream counts
as discarded as soon as it is `knownBad`: it holds an invalid escape sequence,
or its unescaped body is already too long.

`decoder_spec` carries the incremental decoder through one more octet of the
stream; `feedChunks_eq_reference` reads the result off for every way of cutting
the stream into chunks.
-/

namespace YwdTnc

open Coding

namespace KISSStreamDecoder

/-- The message of one terminated segment, if `decode` accepts it and its body,
type octet included, is at most `max` octets. -/
def segmentMessage (max : ℕ) (segment : Bytes) : Option KISSMessage :=
  match decode (FEND :: segment ++ [FEND]) with
  | .ok m => if m.frame.length + 1 ≤ max then some m else none
  | .error _ => none

/-- A nonempty segment that is malformed or over-long. -/
def badSegment (max : ℕ) (segment : Bytes) : Bool :=
  segment ≠ [] && (segmentMessage max segment).isNone

/-- A segment that is already known to be bad while it is still open. -/
def knownBad (max : ℕ) (segment : Bytes) : Bool :=
  match unescape segment with
  | .ok (raw, _) => max < raw.length
  | .error _ => true

def referenceMessages (max : ℕ) (stream : Bytes) : List KISSMessage :=
  (terminated FEND stream).filterMap (segmentMessage max)

def referenceDiscards (max : ℕ) (stream : Bytes) : ℕ :=
  (terminated FEND stream).countP (badSegment max) +
    if knownBad max (unterminated FEND stream) then 1 else 0

/-! ### Unescaping one octet at a time -/

theorem unescape_nil : unescape [] = .ok ([], false) := rfl

theorem unescape_append_singleton (segment : Bytes) (byte : Byte) :
    unescape (segment ++ [byte]) =
      match unescape segment with
      | .ok st => decodeByte st byte
      | .error e => .error e := by
  unfold unescape
  rw [List.foldlM_append]
  cases List.foldlM decodeByte ([], false) segment with
  | error e => rfl
  | ok st =>
      change (decodeByte st byte >>= pure) = decodeByte st byte
      cases decodeByte st byte <;> rfl

/-- A segment whose unescaping has failed stays failed. -/
theorem unescape_append_singleton_error {segment : Bytes} {e : PyError}
    (h : unescape segment = .error e) (byte : Byte) :
    unescape (segment ++ [byte]) = .error e := by
  rw [unescape_append_singleton, h]

theorem unescape_append_singleton_ok {segment : Bytes} {st : Bytes × Bool}
    (h : unescape segment = .ok st) (byte : Byte) :
    unescape (segment ++ [byte]) = decodeByte st byte := by
  rw [unescape_append_singleton, h]

/-- An empty body has read nothing but possibly a FESC. -/
theorem unescape_ok_nil {segment : Bytes}
    (h : unescape segment = .ok ([], false)) : segment = [] := by
  induction segment using List.reverseRecOn with
  | nil => rfl
  | append_singleton segment byte _ =>
      rw [unescape_append_singleton] at h
      cases hseg : unescape segment with
      | error e =>
          rw [hseg] at h
          cases h
      | ok st =>
          rw [hseg] at h
          obtain ⟨raw, escaped⟩ := st
          cases escaped
          all_goals
            simp only [decodeByte] at h
            split_ifs at h <;> simp at h

theorem decode_segment {segment : Bytes} (hne : segment ≠ []) :
    decode (FEND :: segment ++ [FEND]) = unescape segment >>= finishDecode := by
  have hlen : ¬ (FEND :: segment ++ [FEND]).length < 3 := by
    have hpos := List.length_pos_iff.2 hne
    simp only [List.length_append, List.length_cons, List.length_nil]
    omega
  have hlast : (FEND :: segment ++ [FEND]).getLast? = some FEND :=
    List.getLast?_concat
  have hbody : ((FEND :: segment ++ [FEND]).drop 1).dropLast = segment :=
    List.dropLast_concat
  rw [decode, hlast, hbody, if_neg]
  rintro (h | h | h)
  · exact hlen h
  · exact h rfl
  · exact h rfl

/-- The message of a segment, read off its unescaped body. -/
theorem segmentMessage_eq (max : ℕ) (segment : Bytes) :
    segmentMessage max segment =
      match unescape segment with
      | .ok (typeByte :: frame, false) =>
          if frame.length + 1 ≤ max then some (.ofBody typeByte frame) else none
      | _ => none := by
  unfold segmentMessage
  by_cases hnil : segment = []
  · subst hnil
    rfl
  · rw [decode_segment hnil]
    rcases unescape segment with e | ⟨_ | ⟨typeByte, frame⟩, _ | _⟩
    all_goals rfl

/-! ### The decoder follows the open segment -/

/-- The decoder agrees with the open segment `segment` of its stream: it is
discarding exactly when the segment is known to be bad, and otherwise it holds
the unescaped body. -/
structure Tracks (d : KISSStreamDecoder) (segment : Bytes) : Prop where
  raw_le : d.raw.length ≤ d.maxBodyBytes
  discard_iff : d.discard = knownBad d.maxBodyBytes segment
  unescape_eq : d.discard = false → unescape segment = .ok (d.raw, d.escaped)

theorem Tracks.not_escaped_nil {d : KISSStreamDecoder} {segment : Bytes}
    (h : Tracks d segment) (hdiscard : d.discard = false)
    (hesc : d.escaped = false) (hraw : d.raw = []) : segment = [] := by
  have hun := h.unescape_eq hdiscard
  rw [hraw, hesc] at hun
  exact unescape_ok_nil hun

/-- Appending an unescaped octet: what `_append` does to the body, the discard
flag and the counter. -/
theorem append_spec (d : KISSStreamDecoder) (byte : Byte) :
    (d.append byte).maxBodyBytes = d.maxBodyBytes ∧
      (d.append byte).escaped = d.escaped ∧
      ((d.raw.length < d.maxBodyBytes ∧ (d.append byte).raw = d.raw ++ [byte] ∧
          (d.append byte).discard = d.discard ∧
          (d.append byte).discardedFrames = d.discardedFrames) ∨
        (d.maxBodyBytes ≤ d.raw.length ∧ (d.append byte).raw = d.raw ∧
          (d.append byte).discard = true ∧
          (d.append byte).discardedFrames = d.discardedFrames + 1)) := by
  unfold append
  by_cases hfull : d.maxBodyBytes ≤ d.raw.length
  · rw [if_pos hfull]
    exact ⟨rfl, rfl, .inr ⟨hfull, rfl, rfl, rfl⟩⟩
  · rw [if_neg hfull]
    exact ⟨rfl, rfl, .inl ⟨by omega, rfl, rfl, rfl⟩⟩

theorem knownBad_of_ok (max : ℕ) {segment raw : Bytes} {escaped : Bool}
    (h : unescape segment = .ok (raw, escaped)) :
    knownBad max segment = decide (max < raw.length) := by
  rw [knownBad, h]

theorem knownBad_of_error (max : ℕ) {segment : Bytes} {e : PyError}
    (h : unescape segment = .error e) : knownBad max segment = true := by
  rw [knownBad, h]

theorem decodeByte_length {st st' : Bytes × Bool} {byte : Byte}
    (h : decodeByte st byte = .ok st') : st.1.length ≤ st'.1.length := by
  obtain ⟨raw, escaped⟩ := st
  cases escaped
  all_goals
    simp only [decodeByte] at h
    split_ifs at h <;> cases h <;> simp

/-- No octet makes a bad segment good again. -/
theorem knownBad_append {max : ℕ} {segment : Bytes}
    (h : knownBad max segment = true) (byte : Byte) :
    knownBad max (segment ++ [byte]) = true := by
  cases hseg : unescape segment with
  | error e => exact knownBad_of_error _ (unescape_append_singleton_error hseg byte)
  | ok st =>
      rw [knownBad_of_ok _ hseg, decide_eq_true_iff] at h
      have hnext := unescape_append_singleton_ok hseg byte
      cases hst : decodeByte st byte with
      | error e => exact knownBad_of_error _ (hnext.trans hst)
      | ok st' =>
          have hlen := decodeByte_length hst
          rw [knownBad_of_ok _ (hnext.trans hst), decide_eq_true_iff]
          omega

/-- What the decoder `d'` after one more octet inside the segment has to
satisfy: it tracks the longer segment, and the counter has moved exactly when
the segment has become bad. -/
structure Follows (d d' : KISSStreamDecoder) (segment segment' : Bytes) : Prop where
  maxBodyBytes_eq : d'.maxBodyBytes = d.maxBodyBytes
  tracks : Tracks d' segment'
  discardedFrames_eq :
    d'.discardedFrames + (if knownBad d.maxBodyBytes segment then 1 else 0) =
      d.discardedFrames + if knownBad d.maxBodyBytes segment' then 1 else 0

/-- The octets that `decode` appends to its body, `_append` handles as the
segment's meaning asks. -/
theorem follows_append {d : KISSStreamDecoder} {segment : Bytes}
    (h : Tracks d segment) (hdiscard : d.discard = false) {byte out : Byte}
    (hun : unescape (segment ++ [byte]) = .ok (d.raw ++ [out], false)) :
    Follows d { d.append out with escaped := false } segment (segment ++ [byte]) := by
  have hgood : knownBad d.maxBodyBytes segment = false := by
    rw [← h.discard_iff, hdiscard]
  have hbad := knownBad_of_ok d.maxBodyBytes hun
  rw [List.length_append, List.length_singleton] at hbad
  obtain ⟨hmax, -, ⟨hroom, hraw, hdis, hcount⟩ | ⟨hfull, hraw, hdis, hcount⟩⟩ :=
    append_spec d out
  · have hstill : knownBad d.maxBodyBytes (segment ++ [byte]) = false := by
      rw [hbad, decide_eq_false_iff_not]
      omega
    refine ⟨hmax, ⟨?_, ?_, ?_⟩, ?_⟩
    · simp only [hraw, hmax, List.length_append, List.length_singleton]
      omega
    · simp only [hdis, hmax, hdiscard, hstill]
    · intro _
      simp only [hun, hraw]
    · simp only [hcount, hgood, hstill]
  · have hover : knownBad d.maxBodyBytes (segment ++ [byte]) = true := by
      rw [hbad, decide_eq_true_iff]
      omega
    refine ⟨hmax, ⟨?_, ?_, ?_⟩, ?_⟩
    · simpa only [hraw, hmax] using h.raw_le
    · simp only [hdis, hmax, hover]
    · intro hfalse
      simp only [hdis] at hfalse
      cases hfalse
    · simp only [hcount, hgood, hover]
      rfl

/-- One octet inside the open segment. -/
theorem feedInside_follows {d : KISSStreamDecoder} {segment : Bytes}
    (h : Tracks d segment) {byte : Byte} (hbyte : byte ≠ FEND) :
    Follows d (d.feedInside byte) segment (segment ++ [byte]) := by
  unfold feedInside
  by_cases hdiscard : d.discard = true
  · have hbad : knownBad d.maxBodyBytes segment = true := by
      rw [← h.discard_iff, hdiscard]
    have hbad' := knownBad_append hbad byte
    rw [if_pos hdiscard]
    refine ⟨rfl, ⟨h.raw_le, hdiscard.trans hbad'.symm, ?_⟩, ?_⟩
    · intro hfalse
      rw [hdiscard] at hfalse
      cases hfalse
    · rw [hbad, hbad']
  · rw [Bool.not_eq_true] at hdiscard
    have hgood : knownBad d.maxBodyBytes segment = false := by
      rw [← h.discard_iff, hdiscard]
    have hun := unescape_append_singleton_ok (h.unescape_eq hdiscard) byte
    rw [if_neg (by simp [hdiscard])]
    cases hesc : d.escaped with
    | true =>
        rw [hesc] at hun
        simp only [decodeByte] at hun
        rw [if_pos rfl]
        by_cases htfend : byte = TFEND
        · rw [if_pos htfend] at hun ⊢
          exact follows_append h hdiscard hun
        · rw [if_neg htfend] at hun ⊢
          by_cases htfesc : byte = TFESC
          · rw [if_pos htfesc] at hun ⊢
            exact follows_append h hdiscard hun
          · -- an invalid escape sequence: the segment is bad from here on
            rw [if_neg htfesc] at hun ⊢
            have hbad := knownBad_of_error d.maxBodyBytes hun
            refine ⟨rfl, ⟨h.raw_le, hbad.symm, ?_⟩, ?_⟩
            · intro hfalse
              cases hfalse
            · rw [hgood, hbad]
              rfl
    | false =>
        rw [hesc] at hun
        simp only [decodeByte] at hun
        rw [if_neg (by simp)]
        by_cases hfesc : byte = FESC
        · rw [if_pos hfesc] at hun ⊢
          have hstill : knownBad d.maxBodyBytes (segment ++ [byte]) = false := by
            rw [knownBad_of_ok _ hun, decide_eq_false_iff_not]
            exact Nat.not_lt.2 h.raw_le
          refine ⟨rfl, ⟨h.raw_le, hdiscard.trans hstill.symm, fun _ => hun⟩, ?_⟩
          rw [hgood, hstill]
        · rw [if_neg hfesc, if_neg hbyte] at hun
          rw [if_neg hfesc]
          have hfollows := follows_append h hdiscard hun
          have hsame : { d.append byte with escaped := false } = d.append byte := by
            rw [← (append_spec d byte).2.1.trans hesc]
          rwa [hsame] at hfollows

theorem badSegment_eq_true_iff {max : ℕ} {segment : Bytes} :
    badSegment max segment = true ↔
      segment ≠ [] ∧ segmentMessage max segment = none := by
  simp [badSegment]

/-- What is known to be bad while it is open is bad once it is terminated. -/
theorem badSegment_of_knownBad {max : ℕ} {segment : Bytes}
    (h : knownBad max segment = true) : badSegment max segment = true := by
  have hne : segment ≠ [] := by
    rintro rfl
    rw [knownBad_of_ok _ unescape_nil] at h
    simp at h
  refine badSegment_eq_true_iff.2 ⟨hne, ?_⟩
  rw [segmentMessage_eq]
  cases hun : unescape segment with
  | error e => rfl
  | ok st =>
      rw [knownBad_of_ok _ hun, decide_eq_true_iff] at h
      obtain ⟨_ | ⟨typeByte, frame⟩, _ | _⟩ := st
      · rfl
      · rfl
      · exact if_neg (Nat.not_le.2 h)
      · rfl

/-- The FEND that ends the open segment: its message is delivered, a segment
that only now turns out bad is counted, and the decoder starts afresh. -/
structure Ends (d : KISSStreamDecoder)
    (r : KISSStreamDecoder × Option KISSMessage) (segment : Bytes) : Prop where
  maxBodyBytes_eq : r.1.maxBodyBytes = d.maxBodyBytes
  tracks : Tracks r.1 []
  message_eq : r.2 = segmentMessage d.maxBodyBytes segment
  discardedFrames_eq :
    r.1.discardedFrames + (if knownBad d.maxBodyBytes segment then 1 else 0) =
      d.discardedFrames + if badSegment d.maxBodyBytes segment then 1 else 0

theorem tracks_reset (d : KISSStreamDecoder) : Tracks d.reset [] :=
  ⟨Nat.zero_le _, rfl, fun _ => rfl⟩

theorem feedFend_ends {d : KISSStreamDecoder} {segment : Bytes}
    (h : Tracks d segment) : Ends d d.feedFend segment := by
  cases hdiscard : d.discard with
  | true =>
      have hknown : knownBad d.maxBodyBytes segment = true := by
        rw [← h.discard_iff, hdiscard]
      have hbad := badSegment_of_knownBad hknown
      have hstep : d.feedFend = (d.reset, none) := by
        unfold feedFend
        cases d.raw <;> simp [hdiscard]
      rw [hstep]
      refine ⟨rfl, tracks_reset d, (badSegment_eq_true_iff.1 hbad).2.symm, ?_⟩
      rw [hknown, hbad]
      rfl
  | false =>
      have hun := h.unescape_eq hdiscard
      have hmsg := segmentMessage_eq d.maxBodyBytes segment
      have hknown : knownBad d.maxBodyBytes segment = false := by
        rw [← h.discard_iff, hdiscard]
      rw [hun] at hmsg
      cases hesc : d.escaped with
      | true =>
          -- a FESC is waiting for its second octet: the segment is truncated
          have hne : segment ≠ [] := by
            rintro rfl
            rw [unescape_nil, hesc] at hun
            simp at hun
          have hnone : segmentMessage d.maxBodyBytes segment = none := by
            rw [hmsg, hesc]
            cases d.raw <;> rfl
          have hbad := badSegment_eq_true_iff.2 ⟨hne, hnone⟩
          have hstep : d.feedFend =
              ({ d with discardedFrames := d.discardedFrames + 1 }.reset, none) := by
            unfold feedFend
            cases d.raw <;> simp [hdiscard, hesc]
          rw [hstep]
          refine ⟨rfl, tracks_reset _, hnone.symm, ?_⟩
          rw [hknown, hbad]
          rfl
      | false =>
          rw [hesc] at hmsg
          cases hraw : d.raw with
          | nil =>
              have hnil := h.not_escaped_nil hdiscard hesc hraw
              have hstep : d.feedFend = (d.reset, none) := by
                unfold feedFend
                simp [hraw, hdiscard, hesc]
              rw [hstep, hnil]
              exact ⟨rfl, tracks_reset d, rfl, rfl⟩
          | cons typeByte frame =>
              have hle : frame.length + 1 ≤ d.maxBodyBytes := by
                simpa [hraw] using h.raw_le
              rw [hraw] at hmsg
              replace hmsg : segmentMessage d.maxBodyBytes segment =
                  some (.ofBody typeByte frame) := hmsg.trans (if_pos hle)
              have hbad : badSegment d.maxBodyBytes segment = false := by
                simp [badSegment, hmsg]
              have hstep : d.feedFend =
                  (d.reset, some (.ofBody typeByte frame)) := by
                unfold feedFend
                simp [hraw, hdiscard, hesc]
              rw [hstep]
              refine ⟨rfl, tracks_reset d, hmsg.symm, ?_⟩
              rw [hknown, hbad]
              rfl

/-! ### The whole stream -/

/-- The decoder and its messages after the stream `stream`. -/
structure Decodes (max : ℕ) (stream : Bytes) (d : KISSStreamDecoder)
    (messages : List KISSMessage) : Prop where
  maxBodyBytes_eq : d.maxBodyBytes = max
  tracks : Tracks d (unterminated FEND stream)
  messages_eq : messages = referenceMessages max stream
  discardedFrames_eq : d.discardedFrames = referenceDiscards max stream

theorem decodes_init {max : ℕ} {d : KISSStreamDecoder} (h : init max = .ok d) :
    Decodes max [] d [] := by
  unfold init at h
  split_ifs at h
  cases h
  exact ⟨rfl, ⟨Nat.zero_le _, rfl, fun _ => rfl⟩, rfl, rfl⟩

/-- The step from a stream to the stream with one more octet. -/
theorem decodes_feedByte {max : ℕ} {stream : Bytes} {d : KISSStreamDecoder}
    {messages : List KISSMessage} (h : Decodes max stream d messages)
    (byte : Byte) :
    Decodes max (stream ++ [byte]) (d.feedByte byte).1
      (messages ++ (d.feedByte byte).2.toList) := by
  obtain ⟨rfl, htracks, hmessages, hcount⟩ := h
  unfold feedByte
  by_cases hfend : byte = FEND
  · subst hfend
    rw [if_pos rfl]
    obtain ⟨hmax, htracks', hmsg, hcount'⟩ := feedFend_ends htracks
    refine ⟨hmax, ?_, ?_, ?_⟩
    · rw [unterminated_append_delim]
      exact htracks'
    · rw [hmsg, hmessages, referenceMessages, referenceMessages,
        terminated_append_delim, List.filterMap_append]
      cases hcase : segmentMessage d.maxBodyBytes (unterminated FEND stream) with
      | none => simp [hcase]
      | some m => simp [hcase]
    · rw [hcount, referenceDiscards] at hcount'
      rw [referenceDiscards, terminated_append_delim, unterminated_append_delim,
        List.countP_append, List.countP_singleton]
      have hempty : knownBad d.maxBodyBytes [] = false := by
        rw [knownBad_of_ok _ unescape_nil]
        rfl
      rw [hempty]
      simp only [Bool.false_eq_true, if_false, Nat.add_zero]
      omega
  · rw [if_neg hfend]
    obtain ⟨hmax, htracks', hcount'⟩ := feedInside_follows htracks hfend
    refine ⟨hmax, ?_, ?_, ?_⟩
    · rw [unterminated_append_of_ne hfend]
      exact htracks'
    · rw [hmessages, referenceMessages, referenceMessages,
        terminated_append_of_ne hfend]
      simp
    · rw [hcount, referenceDiscards] at hcount'
      change (d.feedInside byte).discardedFrames = _
      rw [referenceDiscards, terminated_append_of_ne hfend,
        unterminated_append_of_ne hfend]
      omega

theorem decodes_feed {max : ℕ} {stream : Bytes} {d : KISSStreamDecoder}
    {messages : List KISSMessage} (h : Decodes max stream d messages)
    (data : Bytes) :
    Decodes max (stream ++ data) (d.feed data).1 (messages ++ (d.feed data).2) := by
  induction data generalizing stream d messages with
  | nil => simpa [feed] using h
  | cons byte data ih =>
      have hrest := ih (decodes_feedByte h byte)
      rw [List.append_assoc, List.append_assoc] at hrest
      exact hrest

theorem decodes_feedChunks {max : ℕ} {stream : Bytes} {d : KISSStreamDecoder}
    {messages : List KISSMessage} (h : Decodes max stream d messages)
    (chunks : List Bytes) :
    Decodes max (stream ++ chunks.flatten) (d.feedChunks chunks).1
      (messages ++ (d.feedChunks chunks).2) := by
  induction chunks generalizing stream d messages with
  | nil => simpa [feedChunks] using h
  | cons chunk chunks ih =>
      have hrest := ih (decodes_feed h chunk)
      rw [List.append_assoc, List.append_assoc] at hrest
      exact hrest

/-- However a stream is cut into chunks, the decoder returns the messages of
its reference semantics, counts every bad segment once, and never holds more
than `max` octets. -/
theorem feedChunks_eq_reference (max : ℕ) (hmax : 1 ≤ max) :
    ∃ d, init max = .ok d ∧ ∀ chunks : List Bytes,
      (d.feedChunks chunks).2 = referenceMessages max chunks.flatten ∧
        (d.feedChunks chunks).1.discardedFrames =
          referenceDiscards max chunks.flatten ∧
        (d.feedChunks chunks).1.raw.length ≤ max := by
  have hinit : init max = .ok ⟨max, [], false, false, 0⟩ :=
    if_neg (Nat.not_lt.2 hmax)
  refine ⟨_, hinit, fun chunks => ?_⟩
  have hdecodes := decodes_feedChunks (decodes_init hinit) chunks
  rw [List.nil_append, List.nil_append] at hdecodes
  have hle := hdecodes.tracks.raw_le
  rw [hdecodes.maxBodyBytes_eq] at hle
  exact ⟨hdecodes.messages_eq, hdecodes.discardedFrames_eq, hle⟩

/-- With a body limit of two octets, the stream
`C0 00 41 C0 DB 41 C0 00 41 42 C0`, cut into three chunks, carries one message,
one invalid escape sequence and one over-long frame. -/
theorem feedChunks_eq_reference_three_segments :
    ∃ d, init 2 = .ok d ∧
      (d.feedChunks [[0xC0, 0x00, 0x41], [0xC0, 0xDB, 0x41, 0xC0, 0x00, 0x41, 0x42],
          [0xC0]]).2 = [⟨0, DATA, [0x41]⟩] ∧
      (d.feedChunks [[0xC0, 0x00, 0x41], [0xC0, 0xDB, 0x41, 0xC0, 0x00, 0x41, 0x42],
          [0xC0]]).1.discardedFrames = 2 := by
  obtain ⟨d, hinit, hfeed⟩ := feedChunks_eq_reference 2 (by decide)
  obtain ⟨hmessages, hcount, -⟩ :=
    hfeed [[0xC0, 0x00, 0x41], [0xC0, 0xDB, 0x41, 0xC0, 0x00, 0x41, 0x42], [0xC0]]
  refine ⟨d, hinit, ?_, ?_⟩
  · rw [hmessages]
    decide +kernel
  · rw [hcount]
    decide +kernel

end KISSStreamDecoder

end YwdTnc
