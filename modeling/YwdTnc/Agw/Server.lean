import YwdTnc.Agw.Framing

/-!
# The AGW server

What the handler of a connection makes of the chunks it receives. It feeds them
to its decoder until the decoder raises, and gives every frame to the backend by
its kind. A chunk that brings a malformed header brings none of its frames, so
what is delivered depends on where the stream was cut before that header.
-/

namespace YwdTnc

open Coding

/-- The message of a received frame for the backend: the data of a K frame on port
0 without its control octet. Other frames reach no message. -/
def AGWFrame.clientMessage (frame : AGWFrame) : Option KISSMessage :=
  if frame.header.port ≠ 0 then none
  else if frame.header.dataKind = RAW_MONITOR then none
  else if frame.header.dataKind = RAW_FRAME then
    match frame.data with
    | [] => none
    | _ :: body => some { port := 0, command := DATA, frame := body }
  else none

namespace AGWStreamDecoder

/-- The frames handed to the handler, until a feed raises. -/
def delivered (d : AGWStreamDecoder) : List Bytes → List AGWFrame
  | [] => []
  | chunk :: chunks =>
      match d.feed chunk with
      | (_, .error _) => []
      | (d, .ok frames) => frames ++ delivered d chunks

/-- The messages handed to the backend. -/
def clientMessages (d : AGWStreamDecoder) (chunks : List Bytes) : List KISSMessage :=
  (d.delivered chunks).filterMap AGWFrame.clientMessage

end AGWStreamDecoder

/-! ### Where a stream is cut -/

/-- Where the complete frames of a stream end. -/
def frameEnds (stream : Bytes) : List ℕ := agwFrames.ends 0 (agwFrames.drain stream).records

/-- Where the first malformed header of a stream ends. -/
def malformedEnd (stream : Bytes) : Option ℕ := agwFrames.failsAt stream

/-- The length of the chunks before the one that reaches `limit`, from `start` on. -/
def cutBefore (limit : ℕ) : ℕ → List Bytes → ℕ
  | start, [] => start
  | start, chunk :: chunks =>
      if limit ≤ start + chunk.length then start
      else cutBefore limit (start + chunk.length) chunks

/-- The frames that are complete before the chunk that reaches `limit`. -/
def framesBefore (limit : ℕ) (chunks : List Bytes) : ℕ :=
  (frameEnds chunks.flatten).countP (· ≤ cutBefore limit 0 chunks)

namespace AGWStreamDecoder

/-- The frames of a stream that are delivered, when `xs` of it has been fed. -/
theorem delivered_drain (chunks : List Bytes) : ∀ {xs : Bytes},
    (agwFrames.drain xs).error = none →
    (agwFrames.drain xs).records ++ delivered ⟨(agwFrames.drain xs).rest⟩ chunks =
      match malformedEnd (xs ++ chunks.flatten) with
      | none => (agwFrames.drain (xs ++ chunks.flatten)).records
      | some limit => (agwFrames.drain
          ((xs ++ chunks.flatten).take (cutBefore limit xs.length chunks))).records := by
  induction chunks with
  | nil =>
      intro xs hxs
      rw [List.flatten_nil, List.append_nil, malformedEnd, RecordCode.failsAt, hxs]
      exact List.append_nil _
  | cons chunk chunks ih =>
      intro xs hxs
      have happend := agwFrames.drain_append xs chunk
      rw [hxs] at happend
      have hstream : xs ++ (chunk :: chunks).flatten = (xs ++ chunk) ++ chunks.flatten := by
        rw [List.flatten_cons, List.append_assoc]
      have hfront : (xs ++ (chunk :: chunks).flatten).take (xs ++ chunk).length = xs ++ chunk := by
        rw [hstream, List.take_left]
      have hreach := (agwFrames.drain_take (xs ++ (chunk :: chunks).flatten)
        (xs ++ chunk).length).2
      rw [hfront, List.length_append] at hreach
      rw [delivered, feed]
      cases herror : (agwFrames.drain ((agwFrames.drain xs).rest ++ chunk)).error with
      | some e =>
          -- the chunk brings the malformed header: nothing of it is delivered
          have hsome : (agwFrames.drain (xs ++ chunk)).error = some e := by
            rw [happend]
            exact herror
          rw [hsome] at hreach
          obtain ⟨limit, hlimit, hle⟩ := hreach.mp rfl
          rw [malformedEnd, hlimit]
          simp only [cutBefore, hle, if_true, List.append_nil]
          rw [List.take_left]
      | none =>
          have hnone : (agwFrames.drain (xs ++ chunk)).error = none := by
            rw [happend]
            exact herror
          have hrest := ih hnone
          rw [← hstream] at hrest
          have hrecords : (agwFrames.drain (xs ++ chunk)).records =
              (agwFrames.drain xs).records ++
                (agwFrames.drain ((agwFrames.drain xs).rest ++ chunk)).records := by
            rw [happend]
            rfl
          have hleft : (agwFrames.drain (xs ++ chunk)).rest =
              (agwFrames.drain ((agwFrames.drain xs).rest ++ chunk)).rest := by
            rw [happend]
            rfl
          rw [hrecords, hleft, List.append_assoc] at hrest
          rw [hrest]
          cases hlimit : malformedEnd (xs ++ (chunk :: chunks).flatten) with
          | none => rfl
          | some limit =>
              have hbeyond : ¬ limit ≤ xs.length + chunk.length := by
                intro hle
                have hraised := hreach.mpr ⟨limit, hlimit, hle⟩
                rw [hnone] at hraised
                cases hraised
              simp only [cutBefore, hbeyond, if_false, List.length_append]

/-- However a stream is cut, its frames are delivered in order, all of them or
those before the chunk of the malformed header. -/
theorem delivered_eq_take (chunks : List Bytes) :
    init.delivered chunks = (agwFrames.drain chunks.flatten).records.take
      (match malformedEnd chunks.flatten with
        | none => (agwFrames.drain chunks.flatten).records.length
        | some limit => framesBefore limit chunks) := by
  have hempty : agwFrames.drain [] = ⟨[], [], none⟩ := agwFrames.drain_none rfl
  have hdelivered := @delivered_drain chunks [] (by rw [hempty])
  rw [hempty, List.nil_append, List.nil_append] at hdelivered
  rw [init, hdelivered]
  cases malformedEnd chunks.flatten with
  | none => rw [List.take_length]
  | some limit => exact (agwFrames.drain_take chunks.flatten _).1

theorem framesBefore_le (limit : ℕ) (chunks : List Bytes) :
    framesBefore limit chunks ≤ (agwFrames.drain chunks.flatten).records.length := by
  rw [← agwFrames.ends_length 0]
  exact List.countP_le_length

/-- When two ways of cutting a stream deliver the same frames: it has no malformed
header, or both complete as many frames before the chunk that completes it. -/
theorem delivered_eq_iff (chunks chunks' : List Bytes) (h : chunks.flatten = chunks'.flatten) :
    init.delivered chunks = init.delivered chunks' ↔
      ∀ limit, malformedEnd chunks.flatten = some limit →
        framesBefore limit chunks = framesBefore limit chunks' := by
  rw [delivered_eq_take, delivered_eq_take, ← h]
  cases hlimit : malformedEnd chunks.flatten with
  | none => exact ⟨fun _ _ hnone => (nomatch hnone), fun _ => rfl⟩
  | some limit =>
      have hle := framesBefore_le limit chunks
      have hle' := framesBefore_le limit chunks'
      rw [← h] at hle'
      constructor
      · intro heq limit' hlimit'
        cases hlimit'
        have hlength := congrArg List.length heq
        rw [List.length_take, List.length_take, Nat.min_eq_left hle, Nat.min_eq_left hle']
          at hlength
        exact hlength
      · intro hcount
        simp only [hcount limit rfl]

/-- A frame of 36 octets, and a header whose data would be too long. -/
def monitorFrame : Bytes := [0, 0, 0, 0, 0x6B] ++ List.replicate 31 0
def malformedHeader : Bytes := List.replicate 36 0xFF

/-- The malformed header may be cut itself. -/
theorem delivered_eq_iff_cut_header :
    init.delivered [monitorFrame, malformedHeader] =
      init.delivered [monitorFrame, malformedHeader.take 5, malformedHeader.drop 5] := by
  refine (delivered_eq_iff _ _ (by decide)).mpr ?_
  intro limit hlimit
  have hend : malformedEnd [monitorFrame, malformedHeader].flatten = some 72 := by decide +kernel
  rw [hend, Option.some.injEq] at hlimit
  subst hlimit
  decide +kernel

/-- A complete frame with a malformed header behind it is delivered when they come
in two chunks, and lost when they come in one. -/
theorem delivered_depends_on_chunks :
    ¬ ∀ chunks chunks' : List Bytes, chunks.flatten = chunks'.flatten →
      init.delivered chunks = init.delivered chunks' := by
  intro h
  have heq := h [monitorFrame, malformedHeader] [monitorFrame ++ malformedHeader] (by decide)
  have htwo : (init.delivered [monitorFrame, malformedHeader]).length = 1 := by decide +kernel
  have hone : (init.delivered [monitorFrame ++ malformedHeader]).length = 0 := by
    decide +kernel
  rw [heq, hone] at htwo
  cases htwo

end AGWStreamDecoder

end YwdTnc
