import YwdTnc.Monitor.LogLines

/-!
# The files of the packet log

A call of `write` that succeeds appends one line to the two files of the day, and a run of
such calls leaves in each file one line for each event of its day. What a sender puts into a
frame changes none of this. An event is lost when the reading of its time raises what is not
caught, or when its line cannot be encoded.
-/

namespace YwdTnc

open Coding

variable {lib : LogLibrary} {frame : Bytes} {event : LogEvent} {key : String}

/-! ### The two files -/

/-- One line more in the file `name`. -/
def AppendsLine (files files' : LogDirectory) (name line : String) : Prop :=
  Unbroken line.toList ∧ files' name = some ((files name).getD "" ++ line ++ "\n")

theorem log_ne_jsonl (day : String) : day ++ ".log" ≠ day ++ ".jsonl" := by
  intro h
  have hlist := congrArg String.toList h
  rw [String.toList_append, String.toList_append] at hlist
  exact absurd (List.append_cancel_left hlist) (by decide)

theorem append_codes (files : LogDirectory) (name s : String) :
    files.append name (.ok (codes s)) =
      (Function.update files name (some ((files name).getD "" ++ s)), .ok ()) := by
  simp only [LogDirectory.append, encodeCodes_codes]

/-- Two texts that can be encoded, one for each file. -/
theorem writeLines_of_codes (files : LogDirectory) (day line json : String) :
    ∃ files' : LogDirectory,
      PacketLogWriter.writeLines files day (codes line) (.ok json) =
        (files', .ok (codes line)) ∧
      files' (day ++ ".log") = some ((files (day ++ ".log")).getD "" ++ line ++ "\n") ∧
      files' (day ++ ".jsonl") = some ((files (day ++ ".jsonl")).getD "" ++ json ++ "\n") ∧
      ∀ name, name ≠ day ++ ".log" → name ≠ day ++ ".jsonl" → files' name = files name := by
  have hne := log_ne_jsonl day
  have hlog := append_codes files (day ++ ".log") (line ++ "\n")
  have hjsonl := append_codes
    (Function.update files (day ++ ".log")
      (some ((files (day ++ ".log")).getD "" ++ (line ++ "\n"))))
    (day ++ ".jsonl") (json ++ "\n")
  rw [codes_append] at hlog
  refine ⟨_, by simp only [PacketLogWriter.writeLines, hlog, Except.map, hjsonl]; rfl, ?_, ?_, ?_⟩
  · simp [hne, String.append_assoc]
  · simp [hne.symm, String.append_assoc]
  · intro name hname hname'
    simp [hname, hname']

/-! ### One event -/

/-- An `rx.frame` or `tx.` event with the fields of a frame; no other text in it has a line
break. -/
structure FrameEvent (frame : Bytes) (event : LogEvent) (kind : List CodePoint) : Prop where
  kind_eq : event.get "event" = some (.str kind)
  kind_type : kind = codes "rx.frame" ∨ codes "tx." <+: kind
  derived : FrameDerived frame event
  others : OthersUnbroken event

/-- An event is one line of text and one line of JSON. The part of the text that shows the
frame is printable, the rest is made from the other fields, and the octets of the frame can
be read back. -/
structure Logs (lib : LogLibrary) (now now' : Datetime) (frame : Bytes) (event : LogEvent)
    (kind : List CodePoint) (files files' : LogDirectory) (line json : String) : Prop where
  format_eq : formatEvent lib now' event = .ok (codes line)
  parts : ∃ stamp header part trailer, line = header ++ part ++ trailer ∧ Printable part ∧
    lineHeader lib stamp kind (otherFields event) = .ok (codes header) ∧
    framePart lib kind event = .ok (codes part) ∧
    lineTrailer lib kind (otherFields event) = .ok (codes trailer)
  json_eq : eventJson lib event = .ok json
  write_eq : PacketLogWriter.write lib now now' event files = (files', .ok (codes line))
  appends : ∃ t, eventTime lib now event = .ok t ∧
    AppendsLine files files' (t.dayText ++ ".log") line ∧
    AppendsLine files files' (t.dayText ++ ".jsonl") json ∧
    ∀ name, name ≠ t.dayText ++ ".log" → name ≠ t.dayText ++ ".jsonl" → files' name = files name
  frame_hex : (event.get "frame_hex").isSome → ReadsBack event json "frame_hex" frame
  info_hex : (event.get "info_hex").isSome → ∃ parsed, parseFrame frame false = .ok parsed ∧
    ReadsBack event json "info_hex" parsed.info

/-- `write` logs the event, and the octets of its frame forge nothing. -/
def OneLine (lib : LogLibrary) (now now' : Datetime) (frame : Bytes) (event : LogEvent)
    (kind : List CodePoint) (files : LogDirectory) : Prop :=
  ∃ files' line json, Logs lib now now' frame event kind files files' line json

theorem eventTime_of_writable {kind : List CodePoint} (h : Writable lib event kind)
    (now : Datetime) : ∃ t, eventTime lib now event = .ok t := by
  obtain ⟨ts, hts⟩ : ∃ ts, getText lib event "ts" "" = .ok ts := by
    cases hvalue : event.get "ts" with
    | none => exact ⟨codes "", by simp [getText, hvalue]⟩
    | some value =>
        obtain ⟨text, htext, -⟩ :=
          text_of_not_oversized lib (oversized_of_get hvalue h.numbers)
        exact ⟨text, by rw [getText_of_get hvalue, htext]⟩
  have htime : eventTime lib now event = localTimestamp lib now ts := by
    unfold eventTime
    rw [hts]
    rfl
  rw [htime]
  unfold localTimestamp
  split
  case h_1 parsed _ => exact ⟨parsed, rfl⟩
  case h_2 e he => exact ⟨now, if_pos (h.timestamp ts e hts he)⟩

theorem oneLine_of_writable {kind : List CodePoint} (hevent : FrameEvent frame event kind)
    (h : Writable lib event kind) (now now' : Datetime) (files : LogDirectory) :
    OneLine lib now now' frame event kind files := by
  obtain ⟨hkind, htype, hframe, hothers⟩ := hevent
  obtain ⟨t, ht⟩ := eventTime_of_writable h now
  obtain ⟨t', ht'⟩ := eventTime_of_writable h now'
  obtain ⟨header, trailer, hheader, htrailer, hencodes⟩ := line_ok lib htype h.numbers t'.stamp
  obtain ⟨hheaderEncodes, htrailerEncodes⟩ := hencodes.mpr ⟨h.stage, h.request, h.extra⟩
  obtain ⟨header, rfl⟩ := encodes_iff.mp hheaderEncodes
  obtain ⟨trailer, rfl⟩ := encodes_iff.mp htrailerEncodes
  have hshows : Shows (framePart lib kind event) := shows_framePart hframe kind
  obtain ⟨part, hpart, hprintable⟩ := hshows
  obtain ⟨json, hjson⟩ : ∃ json, eventJson lib event = .ok json :=
    ⟨dumpsText lib.floatText (.obj event), by simp [eventJson, dumps, h.numbers]⟩
  have hothers' : OthersUnbroken (otherFields event) := by
    intro key text hkey htext
    rw [lookup_otherFields hkey] at htext
    exact hothers key text hkey htext
  have hkindUnbroken : UnbrokenCodes kind :=
    hothers _ kind (codes_notMem (by simp [frameKeys])) hkind
  have hunbroken : Unbroken (header ++ part ++ trailer).toList := by
    rw [← unbrokenCodes_codes, codes_append, codes_append]
    exact unbrokenCodes_append.mpr ⟨unbrokenCodes_append.mpr
      ⟨unbroken_lineHeader hothers' (printable_stamp t') hkindUnbroken hheader,
        hprintable.unbrokenCodes⟩, unbroken_lineTrailer hothers' htrailer⟩
  have hformat : formatEvent lib now' event = .ok (codes (header ++ part ++ trailer)) := by
    unfold formatEvent
    rw [ht', getText_of_get hkind]
    change eventText lib t'.stamp kind event = _
    rw [eventText_eq htype, hheader, hpart, htrailer, codes_append, codes_append]
    rfl
  obtain ⟨files', hwrite, hlog, hjsonl, hrest⟩ :=
    writeLines_of_codes files t.dayText (header ++ part ++ trailer) json
  refine ⟨files', header ++ part ++ trailer, json, hformat,
    ⟨t'.stamp, header, part, trailer, rfl, hprintable, hheader, hpart, htrailer⟩, hjson, ?_,
    ⟨t, ht, ⟨hunbroken, hlog⟩, ⟨(printable_eventJson hjson).unbroken, hjsonl⟩, hrest⟩,
    readsBack_frameHex hframe hjson, readsBack_infoHex hframe hjson⟩
  unfold PacketLogWriter.write
  rw [ht, hformat, hjson]
  exact hwrite

theorem writable_of_oneLine {kind : List CodePoint} (hevent : FrameEvent frame event kind)
    {now now' : Datetime} {files : LogDirectory}
    (h : OneLine lib now now' frame event kind files) : Writable lib event kind := by
  obtain ⟨files', line, json, hlogs⟩ := h
  have hnumbers : (EventValue.obj event).oversized = false := by
    have hjson := hlogs.json_eq
    unfold eventJson dumps at hjson
    split_ifs at hjson with hsize
    exact eq_false_of_ne_true hsize
  obtain ⟨stamp, header, part, trailer, -, -, hheader, -, htrailer⟩ := hlogs.parts
  obtain ⟨header', trailer', hheader', htrailer', hencodes⟩ :=
    line_ok lib hevent.kind_type hnumbers stamp
  obtain rfl : codes header = header' := Except.ok.inj (hheader.symm.trans hheader')
  obtain rfl : codes trailer = trailer' := Except.ok.inj (htrailer.symm.trans htrailer')
  obtain ⟨hstage, hrequest, hextra⟩ := hencodes.mp ⟨encodes_codes _, encodes_codes _⟩
  refine ⟨?_, hnumbers, hstage, hrequest, hextra⟩
  intro ts e hts he
  obtain ⟨t, ht, -⟩ := hlogs.appends
  by_contra hcls
  have herror : eventTime lib now event = .error e := by
    unfold eventTime
    rw [hts]
    change localTimestamp lib now ts = _
    unfold localTimestamp
    rw [he]
    exact if_neg hcls
  rw [herror] at ht
  cases ht

/-- The fields of a frame behind others, as the monitor publishes them. -/
def withFrame (others : LogEvent) (frame : Bytes) : LogEvent :=
  others ++ (frameFields frame).members.map fun field => (codes field.1, field.2)

theorem lookup_map_codes (fields : List (String × EventValue)) (key : String) :
    (fields.map fun field => (codes field.1, field.2)).lookup (codes key) = fields.lookup key := by
  induction fields with
  | nil => rfl
  | cons field fields ih =>
      obtain ⟨key', value⟩ := field
      rw [List.map_cons, List.lookup_cons, List.lookup_cons, codes_beq, ih]

theorem frameDerived_withFrame {others : LogEvent}
    (h : ∀ key ∈ frameKeys, others.get key = none) :
    FrameDerived frame (withFrame others frame) := by
  intro key hkey value hvalue
  have hothers : others.lookup (codes key) = none := h key hkey
  rwa [LogEvent.get, withFrame, List.lookup_append, hothers, Option.none_or,
    lookup_map_codes] at hvalue

/-- `frame_fields` writes no other keys. -/
theorem members_keys (frame : Bytes) :
    ∀ key ∈ (frameFields frame).members.map Prod.fst, key ∈ frameKeys := by
  cases hparsed : parseFrame frame false with
  | error e =>
      rw [members_of_error hparsed]
      simp [frameKeys]
  | ok parsed =>
      rw [members_of_ok hparsed]
      simp [ParsedFrame.members, frameKeys]

theorem othersUnbroken_withFrame {others : LogEvent}
    (h : ∀ field ∈ others, ∀ text, field.2 = .str text → UnbrokenCodes text) :
    OthersUnbroken (withFrame others frame) := by
  intro key text hkey htext
  obtain ⟨before, after, hsplit, -⟩ := List.lookup_eq_some_iff.mp htext
  have hmem : (key, EventValue.str text) ∈ withFrame others frame := by simp [hsplit]
  rcases List.mem_append.mp hmem with hothers | hframe
  · exact h _ hothers text rfl
  · obtain ⟨field, hfield, heq⟩ := List.mem_map.mp hframe
    obtain ⟨rfl, -⟩ := Prod.mk.inj heq
    have hname := members_keys frame field.1 (List.mem_map_of_mem hfield)
    exact absurd (List.mem_map_of_mem hname) hkey

/-- A frame forges no lines: the event is one line of text, with nothing but printable ASCII
where it shows the frame, and one line of JSON, and the octets can be read back, exactly when
the other fields let it be written. -/
theorem write_oneLine_iff (lib : LogLibrary) (now now' : Datetime) (frame : Bytes)
    (event : LogEvent) (kind : List CodePoint) (files : LogDirectory)
    (hevent : FrameEvent frame event kind) :
    OneLine lib now now' frame event kind files ↔ Writable lib event kind :=
  ⟨writable_of_oneLine hevent, fun h => oneLine_of_writable hevent h now now' files⟩

theorem isLineBreak_of_le {c : Char} (h : 32 ≤ c.toNat) (h' : c.toNat ≤ 126) :
    isLineBreak c = false :=
  isLineBreak_of_isPrintable (isPrintable_iff.mpr ⟨h, h'⟩)

theorem unbroken_latin1Upper {c : Char} (h : isLineBreak c = false) :
    Unbroken (latin1Upper c) := by
  intro d hd
  rcases mem_latin1Upper hd with ⟨-, rfl⟩ | hcapital | ⟨n, hn, hsmall, rfl⟩ | ⟨-, rfl⟩
  · by_cases hlower : c.isLower = true
    · have hrange := isLower_iff_toNat.mp hlower
      apply isLineBreak_of_le
      · rw [toNat_toUpper, if_pos hlower]
        omega
      · rw [toNat_toUpper, if_pos hlower]
        omega
    · rw [toUpper_eq_iff.mpr (Bool.not_eq_true _ ▸ hlower)]
      exact h
  · simp only [List.mem_cons, List.not_mem_nil, or_false] at hcapital
    rcases hcapital with rfl | rfl | rfl
    all_goals rfl
  · have hrange : ∀ n < 0x100, 0xE0 ≤ n → isLineBreak (Char.ofNat (n - 32)) = false := by
      decide +kernel
    exact hrange n hn hsmall
  · exact h

/-- The library at the turn of a year, in a place where local time is UTC. -/
def newYearLibrary : LogLibrary where
  str _ := "..."
  unicode := Unicode.latin1
  fromisoformat text :=
    if text = codes "2026-01-01T00:00:00+00:00" then .ok ⟨2026, 1, 1, 0, 0, 0, 0⟩
    else if text = codes "0001-01-01T00:00:00+14:00" then
      .error ⟨.other "OverflowError", "date value out of range"⟩
    else .error (.valueError "Invalid isoformat string")
  floatText _ := "0.0"
  str_unbroken _ := (printable_of_all rfl).unbroken
  upper_unbroken _ h := unbroken_latin1Upper h
  floatText_printable _ := printable_of_all rfl

/-- An unnumbered information frame with a line end in it, and a forged line behind that. -/
def forgingFrame : Bytes :=
  Address.fields [⟨"QST", 0, false⟩, ⟨"N0CALL", 0, false⟩] ++
    [0x03, 0xF0, 0x0D, 0x0A, 0x58]

/-- The fields of an event that failed. -/
def failedFields (ts : String) (error : List CodePoint) : LogEvent :=
  [(codes "ts", textField ts), (codes "event", textField "tx.failed"),
    (codes "request_id", .int 7), (codes "error", .str error)]

theorem frameEvent_failed {ts : String} {error : List CodePoint} (hts : Printable ts)
    (herror : UnbrokenCodes error) (frame : Bytes) :
    FrameEvent frame (withFrame (failedFields ts error) frame) (codes "tx.failed") where
  kind_eq := by simp [LogEvent.get, withFrame, failedFields, List.lookup_cons, textField]
  kind_type := .inr ⟨codes "failed", (codes_append _ _).symm⟩
  derived := by
    apply frameDerived_withFrame
    intro key hkey
    simp only [frameKeys, List.mem_cons, List.not_mem_nil, or_false] at hkey
    rcases hkey with rfl | rfl | rfl | rfl | rfl | rfl | rfl | rfl | rfl | rfl | rfl | rfl | rfl |
      rfl | rfl
    all_goals simp [LogEvent.get, failedFields, List.lookup_cons]
  others := by
    apply othersUnbroken_withFrame
    intro field hfield text htext
    simp only [failedFields, List.mem_cons, List.not_mem_nil, or_false] at hfield
    rcases hfield with rfl | rfl | rfl | rfl
    · cases htext
      exact hts.unbrokenCodes
    · cases htext
      exact Printable.unbrokenCodes (printable_of_all rfl)
    · cases htext
    · cases htext
      exact herror

theorem getText_failed (lib : LogLibrary) (ts : String) (error : List CodePoint) (frame : Bytes) :
    getText lib (withFrame (failedFields ts error) frame) "ts" "" = .ok (codes ts) := by
  simp [getText, LogEvent.get, withFrame, failedFields, textField, EventValue.text]

theorem extraField_failed :
    extraField (codes "tx.failed") = some ("error", " error=", EventValue.truthy) := by
  simp [extraField]

theorem get_error_failed (ts : String) (error : List CodePoint) (frame : Bytes) :
    (withFrame (failedFields ts error) frame).get "error" = some (.str error) := by
  simp [LogEvent.get, withFrame, failedFields, List.lookup_cons]

/-- A transmission that failed, with the forging frame. -/
theorem write_oneLine_forgingFrame :
    OneLine newYearLibrary ⟨2026, 1, 1, 0, 0, 1, 0⟩ ⟨2026, 1, 1, 0, 0, 1, 0⟩ forgingFrame
      (withFrame (failedFields "2026-01-01T00:00:00Z" (codes "no answer")) forgingFrame)
      (codes "tx.failed") (fun _ => none) := by
  apply (write_oneLine_iff _ _ _ _ _ _ _ (frameEvent_failed (by decide)
    (Printable.unbrokenCodes (by decide)) forgingFrame)).mpr
  constructor
  case timestamp =>
    intro ts e hts he
    rw [getText_failed] at hts
    cases hts
    simp only [newYearLibrary] at he
    rw [if_pos (by decide)] at he
    cases he
  case numbers => decide +kernel
  case stage => exact fun _ => encodes_codes _
  case request =>
    intro _ text htext
    simp [LogEvent.get, withFrame, failedFields, List.lookup_cons] at htext
  case extra =>
    intro _ key label shown hfield text htext
    rw [extraField_failed] at hfield
    cases hfield
    rw [get_error_failed, Option.some.injEq, EventValue.str.injEq] at htext
    rw [← htext]
    exact encodes_codes _

/-- The octet 0x80, as the text of an exception has it. -/
def lostError : List CodePoint := codes "OSError: " ++ [.surrogate 0x480]

/-- Two events that are lost: a text that cannot be encoded, and a time whose local time is
before the first year. -/
theorem write_loses :
    ¬ (∀ (event : LogEvent) (kind : List CodePoint), FrameEvent forgingFrame event kind →
        OneLine newYearLibrary ⟨2026, 1, 1, 0, 0, 1, 0⟩ ⟨2026, 1, 1, 0, 0, 1, 0⟩ forgingFrame
          event kind fun _ => none) ∧
      ¬ OneLine newYearLibrary ⟨2026, 1, 1, 0, 0, 1, 0⟩ ⟨2026, 1, 1, 0, 0, 1, 0⟩ forgingFrame
        (withFrame (failedFields "2026-01-01T00:00:00Z" lostError) forgingFrame)
        (codes "tx.failed") (fun _ => none) ∧
      ¬ OneLine newYearLibrary ⟨2026, 1, 1, 0, 0, 1, 0⟩ ⟨2026, 1, 1, 0, 0, 1, 0⟩ forgingFrame
        (withFrame (failedFields "0001-01-01T00:00:00+14:00" (codes "no answer")) forgingFrame)
        (codes "tx.failed") (fun _ => none) := by
  have hlost : FrameEvent forgingFrame
      (withFrame (failedFields "2026-01-01T00:00:00Z" lostError) forgingFrame)
      (codes "tx.failed") := frameEvent_failed (by decide) (by decide) _
  have hancient : FrameEvent forgingFrame
      (withFrame (failedFields "0001-01-01T00:00:00+14:00" (codes "no answer")) forgingFrame)
      (codes "tx.failed") := frameEvent_failed (by decide) (by decide) _
  have hsurrogate : ¬ OneLine newYearLibrary ⟨2026, 1, 1, 0, 0, 1, 0⟩ ⟨2026, 1, 1, 0, 0, 1, 0⟩
      forgingFrame (withFrame (failedFields "2026-01-01T00:00:00Z" lostError) forgingFrame)
      (codes "tx.failed") (fun _ => none) := by
    intro h
    have hencodes := (writable_of_oneLine hlost h).extra (by simp) _ _ _ extraField_failed _
      (get_error_failed _ _ _)
    exact hencodes 0x480 (by simp [lostError])
  refine ⟨fun h => hsurrogate (h _ _ hlost), hsurrogate, fun h => ?_⟩
  have hcls := (writable_of_oneLine hancient h).timestamp _
    ⟨.other "OverflowError", "date value out of range"⟩ (getText_failed _ _ _ _) (by decide)
  simp at hcls

/-! ### A whole run -/

/-- The event of a frame that can be written, with the two readings of the clock when it is. -/
structure LogEntry (lib : LogLibrary) where
  now : Datetime
  now' : Datetime
  event : LogEvent
  frame : Bytes
  kind : List CodePoint
  frameEvent : FrameEvent frame event kind
  writable : Writable lib event kind

namespace LogEntry

/-- The entry goes into this file. -/
def goesInto (name : String) (entry : LogEntry lib) : Bool :=
  match eventTime lib entry.now entry.event with
  | .ok t => name = t.dayText ++ ".log" ∨ name = t.dayText ++ ".jsonl"
  | .error _ => false

def write (files : LogDirectory) (entry : LogEntry lib) : LogDirectory :=
  (PacketLogWriter.write lib entry.now entry.now' entry.event files).1

end LogEntry

/-- Nothing but whole lines. -/
def WholeLines (text : String) : Prop :=
  ∃ lines : List (List Char), text.toList = lines.flatten ∧ ∀ line ∈ lines, Terminated line

def LogDirectory.text (files : LogDirectory) (name : String) : String := (files name).getD ""

def lineCount (text : String) : ℕ := (splitLines text.toList).length

theorem areLines_of_terminated {lines : List (List Char)} (h : ∀ line ∈ lines, Terminated line) :
    AreLines lines := by
  induction lines with
  | nil => trivial
  | cons line lines ih =>
      apply areLines_cons (h line List.mem_cons_self)
      exact ih fun line' hline' => h line' (List.mem_cons_of_mem line hline')

/-- One line more. -/
theorem WholeLines.append {text line : String} (h : WholeLines text)
    (hline : Unbroken line.toList) :
    WholeLines (text ++ line ++ "\n") ∧ lineCount (text ++ line ++ "\n") = lineCount text + 1 := by
  obtain ⟨lines, htext, hlines⟩ := h
  have hlast : Terminated (line.toList ++ ['\n']) := ⟨line.toList, rfl, hline⟩
  have hnew : (text ++ line ++ "\n").toList = (lines ++ [line.toList ++ ['\n']]).flatten := by
    simp [htext]
  have hall : ∀ l ∈ lines ++ [line.toList ++ ['\n']], Terminated l := by
    intro l hl
    rcases List.mem_append.mp hl with hold | hnew
    · exact hlines l hold
    · rw [List.mem_singleton.mp hnew]
      exact hlast
  refine ⟨⟨_, hnew, hall⟩, ?_⟩
  rw [lineCount, lineCount, hnew, htext, splitLines_of_areLines (areLines_of_terminated hall),
    splitLines_of_areLines (areLines_of_terminated hlines), List.length_append,
    List.length_singleton]

/-- What one entry does to a file of whole lines. -/
theorem LogEntry.write_text (entry : LogEntry lib) (files : LogDirectory) (name : String)
    (h : WholeLines (files.text name)) :
    WholeLines ((entry.write files).text name) ∧
      lineCount ((entry.write files).text name) =
        lineCount (files.text name) + if entry.goesInto name then 1 else 0 := by
  obtain ⟨files', line, json, hlogs⟩ :=
    oneLine_of_writable entry.frameEvent entry.writable entry.now entry.now' files
  obtain ⟨t, ht, ⟨hline, hlog⟩, ⟨hjson, hjsonl⟩, hrest⟩ := hlogs.appends
  unfold LogEntry.write LogEntry.goesInto
  rw [hlogs.write_eq, ht]
  simp only [decide_eq_true_eq]
  split
  case isTrue hname =>
    rcases hname with rfl | rfl
    · unfold LogDirectory.text at h ⊢
      rw [hlog]
      exact h.append hline
    · unfold LogDirectory.text at h ⊢
      rw [hjsonl]
      exact h.append hjson
  case isFalse hname =>
    rw [not_or] at hname
    unfold LogDirectory.text at h ⊢
    rw [hrest name hname.1 hname.2]
    exact ⟨h, rfl⟩

/-- Over a whole run each file has one line for each entry of its day, and nothing else. -/
theorem foldl_write_text (entries : List (LogEntry lib)) (files : LogDirectory) (name : String)
    (h : WholeLines (files.text name)) :
    WholeLines ((entries.foldl (fun files entry => entry.write files) files).text name) ∧
      lineCount ((entries.foldl (fun files entry => entry.write files) files).text name) =
        lineCount (files.text name) + entries.countP (LogEntry.goesInto name) := by
  induction entries generalizing files with
  | nil => exact ⟨h, rfl⟩
  | cons entry entries ih =>
      obtain ⟨hwhole, hcount⟩ := entry.write_text files name h
      obtain ⟨hwhole', hcount'⟩ := ih (entry.write files) hwhole
      refine ⟨hwhole', ?_⟩
      rw [List.foldl_cons, hcount', hcount, List.countP_cons]
      omega

end YwdTnc
