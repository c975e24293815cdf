import YwdTnc.Coding.Scanning
import YwdTnc.Modem.Protocol

/-!
# Reading a host frame from the serial line

Two programs read the modem's answers, the transport of the modem owner and the
probe of the firmware tool. Both look for a START, take the next octet for the
length of the frame and collect that many octets. `CompletesFrame` says which frame
stands in a stream, whatever the noise before it, and both find it however the
stream is cut into reads.
-/

namespace YwdTnc

open Coding

/-- One turn of a reading loop, whose test has found the deadline ahead. -/
inductive LoopTurn where
  /-- `select` does not report the line as readable. -/
  | notReady
  /-- `os.read` raises `BlockingIOError`. -/
  | wouldBlock
  | read (chunk : Bytes)
  deriving DecidableEq

/-- What has been read before the deadline. -/
def received (turns : List LoopTurn) : Bytes :=
  turns.flatMap fun
    | .read chunk => chunk
    | _ => []

@[simp] theorem received_nil : received [] = [] := rfl

@[simp] theorem received_notReady (turns : List LoopTurn) :
    received (.notReady :: turns) = received turns := rfl

@[simp] theorem received_wouldBlock (turns : List LoopTurn) :
    received (.wouldBlock :: turns) = received turns := rfl

@[simp] theorem received_read (chunk : Bytes) (turns : List LoopTurn) :
    received (.read chunk :: turns) = chunk ++ received turns := rfl

/-- The variables `data` and `target` of the reading loops. -/
structure FrameScan where
  data : Bytes
  target : Option ℕ
  deriving DecidableEq

def FrameScan.init : FrameScan := ⟨[], none⟩

/-! ### The transport -/

namespace PosixSerialTransport

/-- The end of the loop body of `_read_frame`: the frame, if it is complete. -/
def collected (s : FrameScan) : FrameScan × Option Bytes :=
  match s.target with
  | some target => (s, if target ≤ s.data.length then some (s.data.take target) else none)
  | none => (s, none)

/-- One turn of the inner loop of `_read_frame`. -/
def readByte (s : FrameScan) (byte : Byte) : FrameScan × Option Bytes :=
  if s.data = [] then
    if byte ≠ Protocol.START then (s, none) else (⟨[byte], s.target⟩, none)
  else
    let data := s.data ++ [byte]
    if data.length = 2 then
      -- an invalid candidate start: resynchronize
      if byte.toNat < 3 then (⟨[], none⟩, none) else collected ⟨data, some byte.toNat⟩
    else collected ⟨data, s.target⟩

/-- `data.hex(" ")`, or `<none>`. -/
def partialText (data : Bytes) : String :=
  if data = [] then "<none>"
  else " ".intercalate (data.map fun byte => hex02Lower byte.toNat)

/-- The loop of `_read_frame`. -/
def readLoop (s : FrameScan) : List LoopTurn → Except PyError Bytes
  | [] => .error ⟨.timeoutError,
      "timed out waiting for MMDVM response; partial=" ++ partialText s.data⟩
  | .notReady :: turns => readLoop s turns
  | .wouldBlock :: turns => readLoop s turns
  | .read chunk :: turns =>
      match scan readByte s chunk with
      | (s', none) => readLoop s' turns
      | (_, some frame) =>
          match Protocol.parseFrame frame none with
          | .error e => .error e
          | .ok _ => .ok frame

/-- `_read_frame`, in the turns that the clock grants. -/
def readFrame (turns : List LoopTurn) : Except PyError Bytes := readLoop .init turns

end PosixSerialTransport

/-! ### The probe -/

namespace ProbeHat

/-- One turn of the inner loop of `read_frame`. -/
def readByte (s : FrameScan) (byte : Byte) : FrameScan × Option Bytes :=
  if s.data = [] then
    if byte = Protocol.START then (⟨[byte], s.target⟩, none) else (s, none)
  else if s.data.length = 1 then
    if byte.toNat < 3 then
      if byte = Protocol.START then (⟨[byte], none⟩, none) else (⟨[], none⟩, none)
    else (⟨s.data ++ [byte], some byte.toNat⟩, none)
  else
    let data := s.data ++ [byte]
    match s.target with
    | some target =>
        (⟨data, s.target⟩, if target ≤ data.length then some (data.take target) else none)
    | none => (⟨data, s.target⟩, none)

/-- The loop of `read_frame`, which gives back what it has at the deadline and does
not catch `BlockingIOError`. -/
def readLoop (s : FrameScan) : List LoopTurn → Except PyError Bytes
  | [] => .ok s.data
  | .notReady :: turns => readLoop s turns
  | .wouldBlock :: _ => .error ⟨.other "BlockingIOError", "Resource temporarily unavailable"⟩
  | .read chunk :: turns =>
      match scan readByte s chunk with
      | (s', none) => readLoop s' turns
      | (_, some frame) => .ok frame

/-- `read_frame`. -/
def readFrame (turns : List LoopTurn) : Except PyError Bytes := readLoop .init turns

end ProbeHat

/-! ### The frame of a stream -/

/-- What is skipped: octets before a START, and each START with a length below 3. -/
inductive Skipped : Bytes → Prop
  | nil : Skipped []
  | noise {bytes : Bytes} {byte : Byte} (h : Skipped bytes) (hbyte : byte ≠ Protocol.START) :
      Skipped (bytes ++ [byte])
  | invalid {bytes : Bytes} {length : Byte} (h : Skipped bytes) (hlength : length.toNat < 3) :
      Skipped (bytes ++ [Protocol.START, length])

/-- The stream holds the whole of its first frame: behind what is skipped a START, a
length octet of at least 3, and as many octets as it says with these two. -/
def CompletesFrame (stream frame : Bytes) : Prop :=
  ∃ (skipped : Bytes) (length : Byte) (rest : Bytes), Skipped skipped ∧ 3 ≤ length.toNat ∧
    length.toNat - 2 ≤ rest.length ∧
    stream = skipped ++ Protocol.START :: length :: rest ∧
    frame = Protocol.START :: length :: rest.take (length.toNat - 2)

/-- The same as a function of the stream. -/
def firstFrame : Bytes → Option Bytes
  | start :: length :: rest =>
      if start ≠ Protocol.START then firstFrame (length :: rest)
      else if length.toNat < 3 then firstFrame rest
      else if length.toNat - 2 ≤ rest.length then
        some (start :: length :: rest.take (length.toNat - 2))
      else none
  | _ => none

theorem firstFrame_cons_noise {byte : Byte} (h : byte ≠ Protocol.START) (stream : Bytes) :
    firstFrame (byte :: stream) = firstFrame stream := by
  cases stream with
  | nil => rfl
  | cons length rest => rw [firstFrame, if_pos h]

theorem firstFrame_skipped_append {skipped : Bytes} (h : Skipped skipped) (stream : Bytes) :
    firstFrame (skipped ++ stream) = firstFrame stream := by
  induction h generalizing stream with
  | nil => rfl
  | noise h hbyte ih =>
    rw [List.append_assoc, ih, List.singleton_append, firstFrame_cons_noise hbyte]
  | invalid h hlength ih =>
      rw [List.append_assoc, ih, List.cons_append, List.singleton_append, firstFrame,
        if_neg (not_not.mpr rfl), if_pos hlength]

theorem Skipped.append {bytes : Bytes} (h : Skipped bytes) {bytes' : Bytes} (h' : Skipped bytes') :
    Skipped (bytes ++ bytes') := by
  induction h' with
  | nil => rwa [List.append_nil]
  | noise h' hbyte ih =>
      rw [← List.append_assoc]
      exact ih.noise hbyte
  | invalid h' hlength ih =>
      rw [← List.append_assoc]
      exact ih.invalid hlength

theorem CompletesFrame.skip {skipped stream frame : Bytes} (h : Skipped skipped)
    (hframe : CompletesFrame stream frame) : CompletesFrame (skipped ++ stream) frame := by
  obtain ⟨skipped', length, rest, hskipped, hlength, hrest, rfl, hframe⟩ := hframe
  exact ⟨skipped ++ skipped', length, rest, h.append hskipped, hlength, hrest,
    (List.append_assoc _ _ _).symm, hframe⟩

theorem completesFrame_iff (stream frame : Bytes) :
    CompletesFrame stream frame ↔ firstFrame stream = some frame := by
  constructor
  · rintro ⟨skipped, length, rest, hskipped, hlength, hrest, rfl, rfl⟩
    rw [firstFrame_skipped_append hskipped, firstFrame, if_neg (not_not.mpr rfl),
      if_neg (not_lt.mpr hlength), if_pos hrest]
  · intro h
    fun_induction firstFrame stream with
    | case1 start length rest hstart ih =>
        exact (ih h).skip (Skipped.nil.noise hstart)
    | case2 start length rest hstart hlength ih =>
        rw [not_not] at hstart
        rw [hstart]
        exact (ih h).skip (Skipped.nil.invalid hlength)
    | case3 start length rest hstart hlength hrest =>
        rw [not_not] at hstart
        rw [Option.some.injEq] at h
        exact ⟨[], length, rest, .nil, not_lt.mp hlength, hrest, by rw [hstart]; rfl,
          by rw [← h, hstart]⟩
    | case4 => cases h
    | case5 => cases h

/-- The frame of a stream stays its frame when more arrives. -/
theorem CompletesFrame.append {stream frame : Bytes} (h : CompletesFrame stream frame)
    (more : Bytes) : CompletesFrame (stream ++ more) frame := by
  obtain ⟨skipped, length, rest, hskipped, hlength, hrest, rfl, rfl⟩ := h
  refine ⟨skipped, length, rest ++ more, hskipped, hlength, ?_, ?_, ?_⟩
  · rw [List.length_append]
    omega
  · rw [List.append_assoc, List.cons_append, List.cons_append]
  · rw [List.take_append_of_le_length hrest]

/-! ### What the machines have seen -/

/-- The state after a stream that has not completed its frame. -/
inductive Awaiting (stream : Bytes) : FrameScan → Prop
  | start (hskipped : Skipped stream) : Awaiting stream ⟨[], none⟩
  | length {skipped : Bytes} (hskipped : Skipped skipped)
      (hstream : stream = skipped ++ [Protocol.START]) : Awaiting stream ⟨[Protocol.START], none⟩
  | octets {skipped : Bytes} {length : Byte} {rest : Bytes} (hskipped : Skipped skipped)
      (hlength : 3 ≤ length.toNat) (hrest : rest.length < length.toNat - 2)
      (hstream : stream = skipped ++ Protocol.START :: length :: rest) :
      Awaiting stream ⟨Protocol.START :: length :: rest, some length.toNat⟩

theorem Awaiting.firstFrame_eq_none {stream : Bytes} {s : FrameScan} (h : Awaiting stream s) :
    firstFrame stream = none := by
  cases h with
  | start hskipped => rw [← List.append_nil stream, firstFrame_skipped_append hskipped]; rfl
  | length hskipped hstream => rw [hstream, firstFrame_skipped_append hskipped]; rfl
  | octets hskipped hlength hrest hstream =>
      rw [hstream, firstFrame_skipped_append hskipped, firstFrame, if_neg (not_not.mpr rfl),
        if_neg (not_lt.mpr hlength), if_neg (not_le.mpr hrest)]

/-- What one octet more does to a machine that follows the stream. -/
inductive Read (stream : Bytes) : FrameScan × Option Bytes → Prop
  | awaiting {s : FrameScan} (h : Awaiting stream s) : Read stream (s, none)
  | complete {s : FrameScan} {frame : Bytes} (h : CompletesFrame stream frame) :
      Read stream (s, some frame)

/-- The octets of a frame are collected up to the last one. -/
theorem read_octets {skipped : Bytes} {length : Byte} {rest : Bytes} (hskipped : Skipped skipped)
    (hlength : 3 ≤ length.toNat) (hrest : rest.length ≤ length.toNat - 2) {data : Bytes}
    (hdata : data = Protocol.START :: length :: rest) :
    Read (skipped ++ data) (⟨data, some length.toNat⟩,
      if length.toNat ≤ data.length then some (data.take length.toNat) else none) := by
  have hcount : data.length = rest.length + 2 := by rw [hdata]; rfl
  split
  case isTrue hfull =>
    refine .complete ⟨skipped, length, rest, hskipped, hlength, by omega, by rw [hdata], ?_⟩
    obtain ⟨n, hn⟩ := Nat.exists_eq_add_of_le' hlength
    rw [hdata, hn]
    rfl
  case isFalse hpartial =>
    rw [hdata]
    exact .awaiting (.octets hskipped hlength (by omega) rfl)

namespace PosixSerialTransport

theorem readByte_read {stream : Bytes} {s : FrameScan} (h : Awaiting stream s) (byte : Byte) :
    Read (stream ++ [byte]) (readByte s byte) := by
  cases h with
  | start hskipped =>
      rw [readByte, if_pos rfl]
      split
      case isTrue hbyte => exact .awaiting (.start (hskipped.noise hbyte))
      case isFalse hbyte =>
        rw [not_not] at hbyte
        rw [hbyte]
        exact .awaiting (.length hskipped rfl)
  | @length skipped hskipped hstream =>
      rw [readByte, if_neg (List.cons_ne_nil _ _), hstream, List.append_assoc]
      dsimp only
      rw [if_pos (by rfl)]
      split
      case isTrue hinvalid => exact .awaiting (.start (hskipped.invalid hinvalid))
      case isFalse hvalid =>
        exact read_octets hskipped (not_lt.mp hvalid) (Nat.zero_le _) rfl
  | @octets skipped length rest hskipped hlength hrest hstream =>
      rw [readByte, if_neg (List.cons_ne_nil _ _), hstream, List.append_assoc]
      dsimp only
      rw [if_neg (by simp)]
      have hmore : (rest ++ [byte]).length ≤ length.toNat - 2 := by
        rw [List.length_append, List.length_singleton]
        exact hrest
      exact read_octets hskipped hlength hmore rfl

/-- The scan of a stream finds its frame, if the stream holds one. -/
theorem scan_readByte (stream : Bytes) :
    (∃ s, scan readByte .init stream = (s, none) ∧ firstFrame stream = none) ∨
      ∃ s frame, scan readByte .init stream = (s, some frame) ∧
        firstFrame stream = some frame := by
  have hnext : ∀ xs s byte s', Awaiting xs s → readByte s byte = (s', none) →
      Awaiting (xs ++ [byte]) s' := by
    intro xs s byte s' h hstep
    have hread := readByte_read h byte
    rw [hstep] at hread
    cases hread with
    | awaiting h => exact h
  have hfound : ∀ xs s byte s' frame, Awaiting xs s → readByte s byte = (s', some frame) →
      CompletesFrame (xs ++ [byte]) frame := by
    intro xs s byte s' frame h hstep
    have hread := readByte_read h byte
    rw [hstep] at hread
    cases hread with
    | complete h => exact h
  rcases scan_cases Awaiting CompletesFrame hnext hfound stream (.start .nil) with
    ⟨s, hs, hawaiting⟩ | ⟨s, frame, zs, hs, ⟨more, rfl⟩, hframe⟩
  · exact .inl ⟨s, hs, hawaiting.firstFrame_eq_none⟩
  · exact .inr ⟨s, frame, hs, (completesFrame_iff _ _).mp (hframe.append more)⟩

end PosixSerialTransport

/-- A completed frame is well formed. -/
theorem CompletesFrame.parseFrame {stream frame : Bytes} (h : CompletesFrame stream frame) :
    ∃ parsed, Protocol.parseFrame frame none = .ok parsed := by
  obtain ⟨skipped, length, rest, -, hlength, hrest, -, rfl⟩ := h
  have htake : (rest.take (length.toNat - 2)).length = length.toNat - 2 := by
    rw [List.length_take, Nat.min_eq_left hrest]
  cases htail : rest.take (length.toNat - 2) with
  | nil =>
      rw [htail, List.length_nil] at htake
      omega
  | cons command payload =>
      rw [htail, List.length_cons] at htake
      have hcount : length.toNat = (Protocol.START :: length :: command :: payload).length := by
        simp only [List.length_cons]
        omega
      rw [Protocol.parseFrame, if_neg (not_not.mpr rfl), if_neg (not_lt.mpr hlength),
        if_neg (not_not.mpr hcount)]
      exact ⟨_, rfl⟩

namespace PosixSerialTransport

/-- The loop scans what is received in its turns. -/
theorem readLoop_eq (turns : List LoopTurn) : ∀ s : FrameScan,
    readLoop s turns =
      match scan readByte s (received turns) with
      | (s', none) => readLoop s' []
      | (_, some frame) =>
          match Protocol.parseFrame frame none with
          | .error e => .error e
          | .ok _ => .ok frame := by
  induction turns with
  | nil => intro s; rfl
  | cons turn turns ih =>
      intro s
      cases turn with
      | notReady => exact ih s
      | wouldBlock => exact ih s
      | read chunk =>
          rw [received_read, scan_append, readLoop]
          rcases scan readByte s chunk with ⟨s', _ | frame⟩
          · exact ih s'
          · rfl

theorem readFrame_cases (turns : List LoopTurn) :
    (∃ frame, CompletesFrame (received turns) frame ∧ readFrame turns = .ok frame) ∨
      (¬ ∃ frame, CompletesFrame (received turns) frame) ∧
        ∃ message, readFrame turns = .error ⟨.timeoutError, message⟩ := by
  rw [readFrame, readLoop_eq]
  rcases scan_readByte (received turns) with ⟨s, hs, hnone⟩ | ⟨s, frame, hs, hsome⟩
  · refine .inr ⟨?_, ?_⟩
    · rintro ⟨frame, hframe⟩
      rw [completesFrame_iff, hnone] at hframe
      cases hframe
    · rw [hs]
      exact ⟨_, rfl⟩
  · have hframe := (completesFrame_iff _ _).mpr hsome
    obtain ⟨parsed, hparsed⟩ := hframe.parseFrame
    refine .inl ⟨frame, hframe, ?_⟩
    rw [hs]
    dsimp only
    rw [hparsed]

end PosixSerialTransport

namespace ProbeHat

/-- While no frame is complete, the two machines make the same steps. -/
theorem readByte_eq {stream : Bytes} {s : FrameScan} (h : Awaiting stream s) (byte : Byte) :
    readByte s byte = PosixSerialTransport.readByte s byte := by
  cases h with
  | start hskipped =>
      by_cases hbyte : byte = Protocol.START
      · rw [readByte, PosixSerialTransport.readByte, if_pos rfl, if_pos rfl, if_pos hbyte,
          if_neg (not_not.mpr hbyte)]
      · rw [readByte, PosixSerialTransport.readByte, if_pos rfl, if_pos rfl, if_neg hbyte,
          if_pos hbyte]
  | length hskipped hstream =>
      have hone : [Protocol.START].length = 1 := rfl
      have htwo : ([Protocol.START] ++ [byte]).length = 2 := rfl
      by_cases hinvalid : byte.toNat < 3
      · have hstart : byte ≠ Protocol.START := by
          rintro rfl
          exact absurd hinvalid (by decide)
        simp only [readByte, PosixSerialTransport.readByte, List.cons_ne_nil, if_false, hone, htwo,
          if_true, if_pos hinvalid, if_neg hstart]
      · have hmore : ¬ byte.toNat ≤ 2 := by omega
        simp only [readByte, PosixSerialTransport.readByte, PosixSerialTransport.collected,
          List.cons_ne_nil, if_false, hone, htwo, if_true, if_neg hinvalid, if_neg hmore]
  | @octets skipped length rest hskipped hlength hrest hstream =>
      have hone : (Protocol.START :: length :: rest).length ≠ 1 := by simp
      have htwo : (Protocol.START :: length :: rest ++ [byte]).length ≠ 2 := by simp
      simp only [readByte, PosixSerialTransport.readByte, PosixSerialTransport.collected,
        List.cons_ne_nil, if_false, if_neg hone, if_neg htwo]

theorem scan_readByte_eq (stream : Bytes) :
    scan readByte .init stream = scan PosixSerialTransport.readByte .init stream := by
  refine scan_congr (fun s => ∃ stream, Awaiting stream s) ?_ ?_ stream ⟨[], .start .nil⟩
  · rintro s byte ⟨seen, h⟩
    exact readByte_eq h byte
  · rintro s byte s' ⟨seen, h⟩ hstep
    have hread := PosixSerialTransport.readByte_read h byte
    rw [← readByte_eq h, hstep] at hread
    cases hread with
    | awaiting h' => exact ⟨_, h'⟩

/-- A turn in which the line was not readable, or gave a chunk. -/
def turn : Option Bytes → LoopTurn
  | none => .notReady
  | some chunk => .read chunk

theorem readLoop_eq (reads : List (Option Bytes)) : ∀ s : FrameScan,
    readLoop s (reads.map turn) =
      match scan readByte s (received (reads.map turn)) with
      | (s', none) => .ok s'.data
      | (_, some frame) => .ok frame := by
  induction reads with
  | nil => intro s; rfl
  | cons read reads ih =>
      intro s
      cases read with
      | none => exact ih s
      | some chunk =>
          rw [List.map_cons, turn, received_read, scan_append, readLoop]
          rcases scan readByte s chunk with ⟨s', _ | frame⟩
          · exact ih s'
          · rfl

theorem readFrame_of_completesFrame {reads : List (Option Bytes)} {frame : Bytes}
    (h : CompletesFrame (received (reads.map turn)) frame) :
    readFrame (reads.map turn) = .ok frame := by
  rw [completesFrame_iff] at h
  rw [readFrame, readLoop_eq, scan_readByte_eq]
  rcases PosixSerialTransport.scan_readByte (received (reads.map turn)) with
    ⟨s, hs, hnone⟩ | ⟨s, frame', hs, hsome⟩
  · rw [hnone] at h
    cases h
  · rw [hsome, Option.some.injEq] at h
    rw [hs, h]

end ProbeHat

/-- Reading depends on the stream alone, not on the reads: the transport returns the
frame that the stream completes, which parses, and raises at the deadline if there is
none; the probe returns the same frame. -/
theorem readFrame_eq_ok_iff :
    (∀ (turns : List LoopTurn) (frame : Bytes),
      PosixSerialTransport.readFrame turns = .ok frame ↔
        CompletesFrame (received turns) frame) ∧
    (∀ turns : List LoopTurn, (¬ ∃ frame, CompletesFrame (received turns) frame) →
      ∃ message, PosixSerialTransport.readFrame turns = .error ⟨.timeoutError, message⟩) ∧
    (∀ stream frame : Bytes, CompletesFrame stream frame →
      ∃ parsed, Protocol.parseFrame frame none = .ok parsed) ∧
    ∀ (reads : List (Option Bytes)) (frame : Bytes),
      CompletesFrame (received (reads.map ProbeHat.turn)) frame →
        ProbeHat.readFrame (reads.map ProbeHat.turn) = .ok frame := by
  refine ⟨fun turns frame => ?_, fun turns hnone => ?_, fun stream frame h => h.parseFrame,
    fun reads frame h => ProbeHat.readFrame_of_completesFrame h⟩
  · rcases PosixSerialTransport.readFrame_cases turns with
      ⟨frame', hframe', hread⟩ | ⟨hnone, message, hread⟩
    · rw [completesFrame_iff] at hframe' ⊢
      rw [hread, hframe', Except.ok.injEq, Option.some.injEq]
    · refine iff_of_false ?_ fun hframe => hnone ⟨frame, hframe⟩
      rw [hread]
      exact nofun
  · rcases PosixSerialTransport.readFrame_cases turns with
      ⟨frame, hframe, -⟩ | ⟨-, hread⟩
    · exact absurd ⟨frame, hframe⟩ hnone
    · exact hread

/-- A version answer behind noise, a bad length and a cut inside the header. -/
theorem readFrame_eq_ok_iff_versionAnswer :
    ProbeHat.readFrame ([some [0x12, 0xE0, 0x02, 0xE0], none, some [0x04, 0x00, 0x01, 0x33]].map
      ProbeHat.turn) = .ok [0xE0, 0x04, 0x00, 0x01] :=
  readFrame_eq_ok_iff.2.2.2 _ _ ((completesFrame_iff _ _).mpr rfl)

end YwdTnc
