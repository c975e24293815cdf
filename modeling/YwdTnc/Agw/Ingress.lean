import YwdTnc.Agw.Server
import YwdTnc.Kiss.StreamDecoder

/-!
# Two ways in

A client sends a frame body as a KISS data frame or as an AGW K frame. The KISS
service frames bodies with a delimiter and escapes, the AGW server with a length;
both hand the same messages to the backend, up to the same size.
-/

namespace YwdTnc

open Coding

/-- The body limit of the KISS service, type octet included. -/
def MAX_BODY_BYTES : ℕ := 4096

/-- The messages that `KISSHandler` hands to the backend. -/
def kissClientMessages (chunks : List Bytes) : Except PyError (List KISSMessage) := do
  let d ← KISSStreamDecoder.init MAX_BODY_BYTES
  return (d.feedChunks chunks).2

/-- The messages that `AGWHandler` hands to the backend. -/
def agwClientMessages (chunks : List Bytes) : List KISSMessage :=
  AGWStreamDecoder.init.clientMessages chunks

/-! ### KISS -/

theorem escapeByte_unescapes (raw : Bytes) (byte : Byte) :
    (escapeByte byte).foldlM decodeByte (raw, false) = .ok (raw ++ [byte], false) := by
  unfold escapeByte
  by_cases hfend : byte = FEND
  · subst hfend
    rfl
  · rw [if_neg hfend]
    by_cases hfesc : byte = FESC
    · subst hfesc
      rfl
    · rw [if_neg hfesc]
      simp only [List.foldlM_cons, List.foldlM_nil, decodeByte, hfesc, hfend, if_false]
      rfl

/-- Unescaping undoes escaping. -/
theorem unescape_flatMap_escapeByte (body : Bytes) :
    unescape (body.flatMap escapeByte) = .ok (body, false) := by
  have hloop : ∀ raw : Bytes, (body.flatMap escapeByte).foldlM decodeByte (raw, false) =
      .ok (raw ++ body, false) := by
    induction body with
    | nil =>
        intro raw
        rw [List.append_nil]
        rfl
    | cons byte body ih =>
        intro raw
        rw [List.flatMap_cons, List.foldlM_append, escapeByte_unescapes]
        have hrest := ih (raw ++ [byte])
        rw [List.append_assoc] at hrest
        exact hrest
  exact hloop []

theorem FEND_notMem_flatMap_escapeByte (body : Bytes) : FEND ∉ body.flatMap escapeByte := by
  intro hmem
  obtain ⟨byte, -, hbyte⟩ := List.mem_flatMap.mp hmem
  unfold escapeByte at hbyte
  split at hbyte
  · exact absurd hbyte (by decide)
  · split at hbyte
    · exact absurd hbyte (by decide)
    case isFalse hfend _ => exact hfend (List.mem_singleton.mp hbyte).symm

/-- The octets of a body on port 0. -/
def dataPacket (body : Bytes) : Bytes := [FEND] ++ (0 :: body).flatMap escapeByte ++ [FEND]

theorem encode_data (body : Bytes) : encode body 0 DATA = .ok (dataPacket body) := rfl

/-- The messages of a stream with one more encoded body behind it. -/
theorem referenceMessages_encode {stream : Bytes} (hstream : unterminated FEND stream = [])
    {body : Bytes} (hbody : body.length + 1 ≤ MAX_BODY_BYTES) :
    unterminated FEND (stream ++ dataPacket body) = [] ∧
      KISSStreamDecoder.referenceMessages MAX_BODY_BYTES (stream ++ dataPacket body) =
        KISSStreamDecoder.referenceMessages MAX_BODY_BYTES stream ++ [⟨0, DATA, body⟩] := by
  have hsplit : stream ++ dataPacket body =
      (stream ++ [FEND] ++ (0 :: body).flatMap escapeByte) ++ [FEND] := by
    simp only [dataPacket, List.append_assoc]
  obtain ⟨hterminated, hopen⟩ := append_of_notMem (stream ++ [FEND])
    (FEND_notMem_flatMap_escapeByte (0 :: body))
  rw [unterminated_append_delim, List.nil_append] at hopen
  rw [terminated_append_delim, hstream] at hterminated
  have hempty : [([] : Bytes)].filterMap (KISSStreamDecoder.segmentMessage MAX_BODY_BYTES) = [] :=
    rfl
  have hmessage : KISSStreamDecoder.segmentMessage MAX_BODY_BYTES ((0 :: body).flatMap escapeByte) =
      some ⟨0, DATA, body⟩ := by
    rw [KISSStreamDecoder.segmentMessage_eq, unescape_flatMap_escapeByte]
    exact if_pos hbody
  rw [hsplit, unterminated_append_delim, KISSStreamDecoder.referenceMessages,
    terminated_append_delim, hterminated, hopen, List.filterMap_append, List.filterMap_append,
    hempty, List.append_nil, List.filterMap_cons_some hmessage, List.filterMap_nil]
  exact ⟨rfl, rfl⟩

/-- The decoder of a connection, after the chunks it has received. -/
theorem kissClientMessages_eq (chunks : List Bytes) :
    kissClientMessages chunks =
      .ok (KISSStreamDecoder.referenceMessages MAX_BODY_BYTES chunks.flatten) := by
  have hinit : KISSStreamDecoder.init MAX_BODY_BYTES = .ok ⟨MAX_BODY_BYTES, [], false, false, 0⟩ :=
    rfl
  have hdecodes :=
    KISSStreamDecoder.decodes_feedChunks (KISSStreamDecoder.decodes_init hinit) chunks
  rw [kissClientMessages, hinit]
  exact congrArg Except.ok hdecodes.messages_eq

/-- The messages of a stream of encoded bodies, however it is cut. -/
theorem kissClientMessages_encode {bodies : List Bytes}
    (hbodies : ∀ body ∈ bodies, body.length + 1 ≤ MAX_BODY_BYTES) (chunks : List Bytes)
    (hchunks : chunks.flatten = (bodies.map dataPacket).flatten) :
    kissClientMessages chunks = .ok (bodies.map fun body => ⟨0, DATA, body⟩) := by
  have hstream : ∀ stream : Bytes, unterminated FEND stream = [] →
      KISSStreamDecoder.referenceMessages MAX_BODY_BYTES
          (stream ++ (bodies.map dataPacket).flatten) =
        KISSStreamDecoder.referenceMessages MAX_BODY_BYTES stream ++
          bodies.map fun body => ⟨0, DATA, body⟩ := by
    clear hchunks
    induction bodies with
    | nil =>
        intro stream _
        rw [List.map_nil, List.map_nil, List.flatten_nil, List.append_nil, List.append_nil]
    | cons body bodies ih =>
        intro stream hopen
        obtain ⟨hopen', hmessages⟩ :=
          referenceMessages_encode hopen (hbodies body List.mem_cons_self)
        have hrest := ih (fun body h => hbodies body (List.mem_cons_of_mem _ h)) _ hopen'
        rw [hmessages, List.append_assoc, List.append_assoc] at hrest
        exact hrest
  have hall := hstream [] (unterminated_nil FEND)
  rw [List.nil_append] at hall
  rw [kissClientMessages_eq, hchunks, hall]
  rfl

/-- No message of the KISS service has a body beyond the limit. -/
theorem kissClientMessages_length {chunks : List Bytes} {messages : List KISSMessage}
    (h : kissClientMessages chunks = .ok messages) :
    ∀ m ∈ messages, m.frame.length + 1 ≤ MAX_BODY_BYTES := by
  rw [kissClientMessages_eq, Except.ok.injEq] at h
  rw [← h]
  intro m hm
  obtain ⟨segment, -, hsegment⟩ := List.mem_filterMap.mp hm
  unfold KISSStreamDecoder.segmentMessage at hsegment
  split at hsegment
  · split at hsegment
    case isTrue hle =>
      cases hsegment
      exact hle
    case isFalse => cases hsegment
  · cases hsegment

/-! ### AGW -/

theorem callField_length {value field : Bytes} (h : callField value = .ok field) :
    field.length = 10 := by
  unfold callField at h
  split at h
  · cases h
  · cases h
    rw [List.length_append, List.length_replicate]
    omega

/-- What `encodeFrame` has built. -/
theorem encodeFrame_ok {dataKind data callFrom callTo bytes : Bytes} {port pid : ℕ}
    (h : encodeFrame dataKind data port pid callFrom callTo = .ok bytes) :
    dataKind.length = 1 ∧ port ≤ 255 ∧ pid ≤ 255 ∧ data.length ≤ MAX_DATA_BYTES ∧
      ∃ front : Bytes, front.length = 28 ∧ front.getD 0 0 = BitVec.ofNat 8 port ∧
        (front.drop 4).take 1 = dataKind ∧
        bytes = front ++ packLE 4 data.length ++ packLE 4 0 ++ data := by
  unfold encodeFrame at h
  by_cases hkind : dataKind.length ≠ 1
  · rw [if_pos hkind] at h
    cases h
  rw [if_neg hkind] at h
  by_cases hoctets : port ≤ 255 ∧ pid ≤ 255
  swap
  · rw [if_pos hoctets] at h
    cases h
  rw [if_neg (not_not.mpr hoctets)] at h
  by_cases hlong : MAX_DATA_BYTES < data.length
  · rw [if_pos hlong] at h
    cases h
  rw [if_neg hlong] at h
  cases hfrom : callField callFrom with
  | error e =>
      rw [hfrom] at h
      cases h
  | ok fieldFrom =>
      cases hto : callField callTo with
      | error e =>
          rw [hfrom, hto] at h
          cases h
      | ok fieldTo =>
          rw [hfrom, hto] at h
          cases h
          obtain ⟨kind, rfl⟩ := List.length_eq_one_iff.mp (not_not.mp hkind)
          refine ⟨rfl, hoctets.1, hoctets.2, not_lt.mp hlong,
            [BitVec.ofNat 8 port, 0, 0, 0] ++ [kind] ++ [0, BitVec.ofNat 8 pid, 0] ++ fieldFrom ++
              fieldTo, ?_, rfl, rfl, rfl⟩
          simp only [List.length_append, callField_length hfrom, callField_length hto,
            List.length_cons, List.length_nil]

/-- A packed header is read back. -/
theorem decodeHeader_packed {front : Bytes} {n : ℕ} (hfront : front.length = 28)
    (hn : n ≤ MAX_DATA_BYTES) :
    (front ++ (packLE 4 n ++ packLE 4 0)).length = HEADER_BYTES ∧
      ∃ header, decodeHeader (front ++ (packLE 4 n ++ packLE 4 0)) = .ok header ∧
        header.port = (front.getD 0 0).toNat ∧ header.dataKind = (front.drop 4).take 1 ∧
        header.dataLength = n := by
  have hlength : (front ++ (packLE 4 n ++ packLE 4 0)).length = HEADER_BYTES := by
    simp only [List.length_append, packLE_length, hfront, HEADER_BYTES]
  have hdrop : (front ++ (packLE 4 n ++ packLE 4 0)).drop 28 = packLE 4 n ++ packLE 4 0 :=
    List.drop_left' hfront
  have hcount : unpackLE (((front ++ (packLE 4 n ++ packLE 4 0)).drop 28).take 4) = n := by
    rw [hdrop, List.take_left' (packLE_length 4 _),
      unpackLE_packLE 4 (lt_of_le_of_lt hn (by decide))]
  have hport : (front ++ (packLE 4 n ++ packLE 4 0)).getD 0 0 = front.getD 0 0 := by
    rw [List.getD_eq_getElem?_getD, List.getD_eq_getElem?_getD,
      List.getElem?_append_left (by omega)]
  have hkind : ((front ++ (packLE 4 n ++ packLE 4 0)).drop 4).take 1 = (front.drop 4).take 1 := by
    have hpos : 1 ≤ (front.drop 4).length := by
      rw [List.length_drop]
      omega
    rw [List.drop_append_of_le_length (by omega), List.take_append_of_le_length hpos]
  refine ⟨hlength, ?_⟩
  rw [decodeHeader, if_neg (not_not.mpr hlength)]
  simp only [hcount, not_lt.mpr hn, if_false]
  exact ⟨_, rfl, congrArg BitVec.toNat hport, hkind, rfl⟩

/-- A header with its data at the front of a stream is a frame. -/
theorem nextFrame_append {head data : Bytes} {header : AGWHeader}
    (hhead : head.length = HEADER_BYTES) (hheader : decodeHeader head = .ok header)
    (hdata : header.dataLength = data.length) (rest : Bytes) :
    nextFrame (head ++ data ++ rest) = .ok (some ⟨header, data⟩) := by
  have htake : (head ++ data ++ rest).take HEADER_BYTES = head := by
    rw [List.append_assoc]
    exact List.take_left' hhead
  have hall : (head ++ data).length = HEADER_BYTES + data.length := by
    rw [List.length_append, hhead]
  have hframe : ((head ++ data ++ rest).take (HEADER_BYTES + data.length)).drop HEADER_BYTES =
      data := by
    rw [List.take_left' hall, List.drop_left' hhead]
  have hlong : HEADER_BYTES + header.dataLength ≤ (head ++ data ++ rest).length := by
    rw [List.length_append, hall, hdata]
    exact Nat.le_add_right _ _
  rw [nextFrame_found (htake.symm ▸ hheader) hlong, hdata, hframe]

/-- A frame is read back off the front of a stream. -/
theorem nextFrame_encodeFrame {dataKind data callFrom callTo bytes : Bytes} {port pid : ℕ}
    (h : encodeFrame dataKind data port pid callFrom callTo = .ok bytes) (rest : Bytes) :
    ∃ frame, nextFrame (bytes ++ rest) = .ok (some frame) ∧ frame.header.port = port ∧
      frame.header.dataKind = dataKind ∧ frame.data = data ∧ frame.size = bytes.length := by
  obtain ⟨-, hport, -, hdata, front, hfront, hfirst, hkind, rfl⟩ := encodeFrame_ok h
  obtain ⟨hhead, header, hheader, hp, hk, hl⟩ := decodeHeader_packed hfront hdata
  have hp' : header.port = port := by
    rw [hp, hfirst, BitVec.toNat_ofNat]
    omega
  have hsplit : front ++ packLE 4 data.length ++ packLE 4 0 ++ data =
      (front ++ (packLE 4 data.length ++ packLE 4 0)) ++ data := by
    rw [List.append_assoc front]
  have hsize : AGWFrame.size ⟨header, data⟩ =
      ((front ++ (packLE 4 data.length ++ packLE 4 0)) ++ data).length := by
    rw [AGWFrame.size, List.length_append, hhead, hl]
  rw [hsplit]
  exact ⟨_, nextFrame_append hhead hheader hl rest, hp', hk.trans hkind, rfl, hsize⟩

/-- The octets of a body in a K frame. -/
theorem encodeFrame_rawFrame {body : Bytes} (hbody : body.length + 1 ≤ MAX_DATA_BYTES) :
    ∃ bytes, encodeFrame RAW_FRAME (0 :: body) 0 0 [] [] = .ok bytes := by
  have hlong : ¬ MAX_DATA_BYTES < ((0 : Byte) :: body).length := not_lt.mpr hbody
  rw [encodeFrame, if_neg (by decide), if_neg (by decide), if_neg hlong]
  exact ⟨_, rfl⟩

/-- What a stream of encoded bodies is read as. -/
theorem drain_encodeFrame {bodies : List Bytes}
    (hbodies : ∀ body ∈ bodies, body.length + 1 ≤ MAX_DATA_BYTES) :
    ∃ packets, bodies.mapM (fun body => encodeFrame RAW_FRAME (0 :: body) 0 0 [] []) =
        .ok packets ∧
      (agwFrames.drain packets.flatten).error = none ∧
      (agwFrames.drain packets.flatten).records.filterMap AGWFrame.clientMessage =
        bodies.map fun body => ⟨0, DATA, body⟩ := by
  induction bodies with
  | nil =>
      refine ⟨[], rfl, ?_⟩
      rw [List.flatten_nil, agwFrames.drain_none (show agwFrames.next [] = .ok none from rfl)]
      exact ⟨rfl, rfl⟩
  | cons body bodies ih =>
      obtain ⟨bytes, hbytes⟩ := encodeFrame_rawFrame (hbodies body List.mem_cons_self)
      obtain ⟨packets, hpackets, herror, hrecords⟩ :=
        ih fun body h => hbodies body (List.mem_cons_of_mem _ h)
      obtain ⟨frame, hframe, hport, hkind, hdata, hsize⟩ :=
        nextFrame_encodeFrame hbytes packets.flatten
      have hmessage : frame.clientMessage = some ⟨0, DATA, body⟩ := by
        rw [AGWFrame.clientMessage, hport, hkind, hdata]
        rfl
      have hdrop : (bytes ++ packets.flatten).drop (agwFrames.size frame) = packets.flatten :=
        List.drop_left' hsize.symm
      refine ⟨bytes :: packets, ?_, ?_⟩
      · rw [List.mapM_cons, hbytes, hpackets]
        rfl
      · rw [List.flatten_cons, agwFrames.drain_some hframe, hdrop]
        refine ⟨herror, ?_⟩
        rw [Drained.after, List.singleton_append, List.filterMap_cons_some hmessage, hrecords,
          List.map_cons]

/-- The messages of a stream of encoded bodies, however it is cut. -/
theorem agwClientMessages_eq {chunks : List Bytes}
    (h : (agwFrames.drain chunks.flatten).error = none) :
    agwClientMessages chunks =
      (agwFrames.drain chunks.flatten).records.filterMap AGWFrame.clientMessage := by
  have hlimit : malformedEnd chunks.flatten = none := by
    rw [malformedEnd, RecordCode.failsAt, h]
    rfl
  rw [agwClientMessages, AGWStreamDecoder.clientMessages, AGWStreamDecoder.delivered_eq_take,
    hlimit, List.take_length]

/-- The data of a frame is at most as long as a header may say. -/
theorem nextFrame_length {buffer : Bytes} {frame : AGWFrame}
    (h : nextFrame buffer = .ok (some frame)) : frame.data.length ≤ MAX_DATA_BYTES := by
  have hcases := nextFrame_cases buffer
  rw [h] at hcases
  cases hcases with
  | @found header hheader hlong =>
      have hmax : header.dataLength ≤ MAX_DATA_BYTES := by
        unfold decodeHeader at hheader
        split at hheader
        · cases hheader
        · dsimp only at hheader
          split at hheader
          · cases hheader
          case isFalse hle =>
            cases hheader
            exact not_lt.mp hle
      rw [List.length_drop, List.length_take]
      omega

/-- No message of the AGW server has a body beyond the limit. -/
theorem agwClientMessages_length (chunks : List Bytes) :
    ∀ m ∈ agwClientMessages chunks, m.frame.length + 1 ≤ MAX_DATA_BYTES := by
  intro m hm
  obtain ⟨frame, hframe, hmessage⟩ := List.mem_filterMap.mp hm
  rw [AGWStreamDecoder.delivered_eq_take] at hframe
  have hlength := agwFrames.drain_forall (fun _ _ => nextFrame_length) chunks.flatten frame
    (List.mem_of_mem_take hframe)
  unfold AGWFrame.clientMessage at hmessage
  split at hmessage
  · cases hmessage
  split at hmessage
  · cases hmessage
  split at hmessage
  case isFalse => cases hmessage
  case isTrue =>
    cases hdata : frame.data with
    | nil =>
        rw [hdata] at hmessage
        cases hmessage
    | cons control body =>
        rw [hdata] at hmessage hlength
        cases hmessage
        exact hlength

/-- The two ways in agree: encoded bodies of at most 4095 octets reach the backend
as the same messages, however both streams are cut, and no stream reaches it with
a longer body. -/
theorem ingress_agree (bodies : List Bytes) (hbodies : ∀ body ∈ bodies, body.length ≤ 4095) :
    (∃ kiss agw, bodies.mapM (fun body => encode body 0 DATA) = .ok kiss ∧
      bodies.mapM (fun body => encodeFrame RAW_FRAME (0x00 :: body) 0 0 [] []) = .ok agw ∧
      ∀ chunks chunks' : List Bytes, chunks.flatten = kiss.flatten →
        chunks'.flatten = agw.flatten →
        kissClientMessages chunks = .ok (bodies.map fun body => ⟨0, DATA, body⟩) ∧
          agwClientMessages chunks' = bodies.map fun body => ⟨0, DATA, body⟩) ∧
      ∀ chunks : List Bytes, (∃ messages, kissClientMessages chunks = .ok messages ∧
          ∀ m ∈ messages, m.frame.length ≤ 4095) ∧
        ∀ m ∈ agwClientMessages chunks, m.frame.length ≤ 4095 := by
  constructor
  · obtain ⟨agw, hagw, herror, hrecords⟩ := drain_encodeFrame fun body h =>
      Nat.succ_le_succ (hbodies body h)
    have hkiss : bodies.mapM (fun body => encode body 0 DATA) = .ok (bodies.map dataPacket) := by
      clear hbodies hagw hrecords
      induction bodies with
      | nil => rfl
      | cons body bodies ih =>
          rw [List.mapM_cons, encode_data, ih]
          rfl
    refine ⟨_, agw, hkiss, hagw, fun chunks chunks' hchunks hchunks' => ⟨?_, ?_⟩⟩
    · exact kissClientMessages_encode (fun body h => Nat.succ_le_succ (hbodies body h)) chunks
        hchunks
    · rw [agwClientMessages_eq (by rw [hchunks', herror]), hchunks', hrecords]
  · intro chunks
    refine ⟨⟨_, kissClientMessages_eq chunks, ?_⟩, ?_⟩
    · intro m hm
      exact Nat.le_of_succ_le_succ
        (kissClientMessages_length (kissClientMessages_eq chunks) m hm)
    · intro m hm
      exact Nat.le_of_succ_le_succ (agwClientMessages_length chunks m hm)

/-- An empty body and a body of octets that KISS escapes, each stream in two
chunks. -/
theorem ingress_agree_escaped :
    kissClientMessages [[0xC0, 0x00, 0xC0, 0xC0], [0x00, 0xDB, 0xDC, 0xDB, 0xDD, 0xC0]] =
        .ok [⟨0, DATA, []⟩, ⟨0, DATA, [0xC0, 0xDB]⟩] ∧
      ∀ chunks agw, [[], [0xC0, 0xDB]].mapM
          (fun body => encodeFrame RAW_FRAME (0x00 :: body) 0 0 [] []) = .ok agw →
        chunks.flatten = agw.flatten →
        agwClientMessages chunks = [⟨0, DATA, []⟩, ⟨0, DATA, [0xC0, 0xDB]⟩] := by
  obtain ⟨⟨kiss, agw, hkiss, hagw, hagree⟩, -⟩ :=
    ingress_agree [[], [0xC0, 0xDB]] (by decide)
  constructor
  · cases hkiss
    cases hagw
    exact (hagree _ [_, _] (by decide) rfl).1
  · intro chunks agw' hagw' hchunks
    rw [hagw] at hagw'
    cases hagw'
    exact (hagree [kiss.flatten] chunks (by simp) hchunks).2

end YwdTnc
