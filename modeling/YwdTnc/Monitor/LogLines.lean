import YwdTnc.Monitor.PacketLog

/-!
# Lines of the packet log

A sender can put any octets into a frame, parsed or not. The part of a line that shows the
frame is printable ASCII, so a line of the log stays one line as long as the other texts of
the event are free of line breaks, and the line of JSON stays one line in any case. What
keeps an event from being written stands in its other fields.
-/

namespace YwdTnc

open Coding

/-! ### The fields of a frame -/

/-- Every frame field that the event has is the one that `frame_fields` gives this frame. -/
def FrameDerived (frame : Bytes) (event : LogEvent) : Prop :=
  ∀ key ∈ frameKeys, ∀ value, event.get key = some value →
    (frameFields frame).members.lookup key = some value

/-- The other fields. -/
def otherFields (event : LogEvent) : LogEvent :=
  event.filter fun field => field.1 ∉ frameKeys.map codes

/-- The texts among the other fields have no line breaks. -/
def OthersUnbroken (event : LogEvent) : Prop :=
  ∀ key text, key ∉ frameKeys.map codes → event.lookup key = some (.str text) →
    UnbrokenCodes text

variable {lib : LogLibrary} {frame : Bytes} {event : LogEvent} {key : String}
  {value : EventValue}

theorem members_of_error {e : PyError} (h : parseFrame frame false = .error e) :
    (frameFields frame).members =
      [("frame_bytes", .int frame.length), ("frame_hex", textField (hexText frame)),
        ("parse_error", textField e.message)] := by
  simp only [FrameFields.members, frameFields, h]
  rfl

theorem members_of_ok {parsed : ParsedFrame} (h : parseFrame frame false = .ok parsed) :
    (frameFields frame).members =
      ("frame_bytes", .int frame.length) :: ("frame_hex", textField (hexText frame)) ::
        parsed.members := by
  simp only [FrameFields.members, frameFields, h]
  rfl

/-- The other fields are there when the frame was parsed, and only then. -/
theorem parsed_of_member (hkey : key ∉ ["frame_bytes", "frame_hex", "parse_error"])
    (h : (frameFields frame).members.lookup key = some value) :
    ∃ parsed, parseFrame frame false = .ok parsed ∧
      parsed.members.lookup key = some value := by
  simp only [List.mem_cons, List.not_mem_nil, or_false, not_or] at hkey
  have hbytes : (key == "frame_bytes") = false := beq_false_of_ne hkey.1
  have hhex : (key == "frame_hex") = false := beq_false_of_ne hkey.2.1
  have herror : (key == "parse_error") = false := beq_false_of_ne hkey.2.2
  cases hparsed : parseFrame frame false with
  | error e =>
      rw [members_of_error hparsed] at h
      simp [List.lookup_cons, hbytes, hhex, herror] at h
  | ok parsed =>
      rw [members_of_ok hparsed] at h
      simp only [List.lookup_cons, hbytes, hhex] at h
      exact ⟨parsed, rfl, h⟩

/-- The texts that the line shows of a frame. -/
def shownKeys : List String := ["source", "destination", "frame_class", "frame_type", "info_text"]

theorem mem_frameKeys_of_shown (hkey : key ∈ shownKeys) : key ∈ frameKeys := by
  revert hkey
  simp only [shownKeys, frameKeys, List.mem_cons, List.not_mem_nil, or_false]
  tauto

theorem printable_member (hkey : key ∈ shownKeys)
    (h : (frameFields frame).members.lookup key = some value) :
    ∃ s, value = textField s ∧ Printable s := by
  simp only [shownKeys, List.mem_cons, List.not_mem_nil, or_false] at hkey
  have hother : key ∉ ["frame_bytes", "frame_hex", "parse_error"] := by
    rcases hkey with rfl | rfl | rfl | rfl | rfl
    all_goals simp
  obtain ⟨parsed, hparsed, hvalue⟩ := parsed_of_member hother h
  have hshown := shown_of_parseFrame hparsed
  rcases hkey with rfl | rfl | rfl | rfl | rfl
  all_goals simp [ParsedFrame.members, List.lookup_cons] at hvalue
  · exact ⟨_, hvalue.symm, hshown.source⟩
  · exact ⟨_, hvalue.symm, hshown.destination⟩
  · exact ⟨_, hvalue.symm, hshown.frameClass⟩
  · exact ⟨_, hvalue.symm, hshown.frameType⟩
  · exact ⟨_, hvalue.symm, printable_infoText _⟩

theorem printable_path (h : (frameFields frame).members.lookup "path" = some value) :
    ∃ names : List String, value = .list (names.map textField) ∧
      ∀ name ∈ names, Printable name := by
  obtain ⟨parsed, hparsed, hvalue⟩ := parsed_of_member (by simp) h
  have hshown := shown_of_parseFrame hparsed
  simp [ParsedFrame.members, List.lookup_cons] at hvalue
  refine ⟨parsed.path.map fun item => item.text ++ if item.flag then "*" else "", ?_, ?_⟩
  · rw [← hvalue, List.map_map]
    rfl
  · intro name hname
    obtain ⟨item, hitem, rfl⟩ := List.mem_map.mp hname
    rw [printable_append]
    refine ⟨hshown.path item hitem, ?_⟩
    split
    · exact printable_of_all rfl
    · exact printable_empty

theorem printable_hex02 : ∀ byte : Byte, Printable (hex02 byte.toNat) := by
  decide +kernel

theorem printable_pid {pid : String}
    (h : (frameFields frame).members.lookup "pid" = some value)
    (hpid : pidText (some value) = some pid) : Printable pid := by
  obtain ⟨parsed, -, hvalue⟩ := parsed_of_member (by simp) h
  simp [ParsedFrame.members, List.lookup_cons] at hvalue
  subst hvalue
  cases hoctet : parsed.pid with
  | none =>
      rw [hoctet] at hpid
      cases hpid
  | some octet =>
      rw [hoctet] at hpid
      cases hpid
      exact printable_hex02 octet

/-- The two numbers of a frame are small. -/
theorem small_number (hkey : key = "ns" ∨ key = "nr")
    (h : (frameFields frame).members.lookup key = some value) :
    value = .null ∨ ∃ n : ℕ, n < 256 ∧ value = .int n := by
  have hother : key ∉ ["frame_bytes", "frame_hex", "parse_error"] := by
    rcases hkey with rfl | rfl
    all_goals simp
  have hfield : ∀ number : Option ℕ, (∀ n ∈ number, n < 256) →
      numberField number = .null ∨ ∃ n : ℕ, n < 256 ∧ numberField number = .int n := by
    rintro (_ | n) hnumber
    · exact .inl rfl
    · exact .inr ⟨n, hnumber n rfl, rfl⟩
  obtain ⟨parsed, hparsed, hvalue⟩ := parsed_of_member hother h
  have hshown := shown_of_parseFrame hparsed
  rcases hkey with rfl | rfl
  all_goals simp [ParsedFrame.members, List.lookup_cons] at hvalue
  · rw [← hvalue]
    exact hfield _ hshown.ns
  · rw [← hvalue]
    exact hfield _ hshown.nr

theorem isLong_of_lt {n : ℕ} (h : n < 256) : isLong n = false := by
  have hpow : 10 ^ 3 ≤ 10 ^ MAX_STR_DIGITS := Nat.pow_le_pow_right (by omega) (by decide)
  rw [isLong, decide_eq_false_iff_not, Int.natAbs_natCast]
  omega

/-! ### The part that shows the frame -/

/-- The text is there and is printable. -/
def Shows (x : Except PyError (List CodePoint)) : Prop := ∃ s, x = .ok (codes s) ∧ Printable s

theorem shows_ok {s : String} (h : Printable s) : Shows (.ok (codes s)) := ⟨s, rfl, h⟩

theorem Shows.bind {x : Except PyError (List CodePoint)}
    {f : List CodePoint → Except PyError (List CodePoint)} (hx : Shows x)
    (hf : ∀ s, Printable s → Shows (f (codes s))) : Shows (x >>= f) := by
  obtain ⟨s, rfl, hs⟩ := hx
  exact hf s hs

theorem mapM_text (names : List String) :
    (names.map textField).mapM (EventValue.text lib) = .ok (names.map codes) := by
  induction names with
  | nil => rfl
  | cons name names ih =>
      rw [List.map_cons, List.mapM_cons, ih]
      rfl

theorem printable_pollMark (event : LogEvent) : Printable (pollMark event) := by
  unfold pollMark
  split
  · exact printable_of_all rfl
  · exact printable_of_all rfl

theorem printable_lengthParts (event : LogEvent) : ∀ text ∈ lengthParts event, Printable text := by
  intro text htext
  unfold lengthParts at htext
  split at htext
  · obtain rfl := List.mem_singleton.mp htext
    rw [printable_append]
    exact ⟨printable_of_all rfl, printable_toString_nat _⟩
  · cases htext

section

variable (hframe : FrameDerived frame event)

include hframe

theorem shows_getText {default : String} (hkey : key ∈ shownKeys)
    (hdefault : Printable default) : Shows (getText lib event key default) := by
  unfold getText
  split
  case h_1 value hvalue =>
    obtain ⟨s, rfl, hs⟩ := printable_member hkey
      (hframe key (mem_frameKeys_of_shown hkey) value hvalue)
    exact shows_ok hs
  case h_2 => exact shows_ok hdefault

theorem shows_routeText : Shows (routeText lib event) := by
  refine (shows_getText hframe (by simp [shownKeys]) (printable_of_all rfl)).bind
    fun source hsource => ?_
  refine (shows_getText hframe (by simp [shownKeys]) (printable_of_all rfl)).bind
    fun destination hdestination => ?_
  have hroute : Printable ("fm " ++ source ++ " to " ++ destination) := by
    simp +decide [hsource, hdestination]
  have hcodes : codes "fm " ++ codes source ++ codes " to " ++ codes destination =
      codes ("fm " ++ source ++ " to " ++ destination) := by simp
  simp only [hcodes]
  split
  case h_1 item items hpath =>
    obtain ⟨names, hnames, hprintable⟩ :=
      printable_path (hframe "path" (by simp [frameKeys]) _ hpath)
    rw [EventValue.list.injEq] at hnames
    rw [hnames, mapM_text]
    refine ⟨"fm " ++ source ++ " to " ++ destination ++ " via " ++ " ".intercalate names, ?_, ?_⟩
    · rw [codes_append _ (" ".intercalate names), codes_append _ " via ", ← codes_intercalate]
      rfl
    · rw [printable_append, printable_append]
      exact ⟨⟨hroute, printable_of_all rfl⟩,
        printable_intercalate (printable_of_all rfl) hprintable⟩
  case h_2 => exact shows_ok hroute

theorem shows_number (hkey : key = "ns" ∨ key = "nr") :
    Shows (valueText lib (event.get key)) := by
  have hmem : key ∈ frameKeys := by
    rcases hkey with rfl | rfl
    all_goals simp [frameKeys]
  cases hvalue : event.get key with
  | none => exact shows_ok printable_empty
  | some value =>
      rcases small_number hkey (hframe key hmem value hvalue) with rfl | ⟨n, hn, rfl⟩
      · exact shows_ok (s := "None") (printable_of_all rfl)
      · refine ⟨toString (n : ℤ), ?_, printable_toString_int n⟩
        simp [valueText, EventValue.text, intText, isLong_of_lt hn]

theorem shows_controlText : Shows (controlText lib event) := by
  refine (shows_getText hframe (by simp [shownKeys]) printable_empty).bind
    fun frameClass hclass => ?_
  refine (shows_getText hframe (by simp [shownKeys]) (printable_of_all rfl)).bind
    fun frameType htype => ?_
  have hpf : Printable (pollMark event) := printable_pollMark event
  dsimp only
  split_ifs
  · refine (shows_number hframe (.inl rfl)).bind fun sent hsent => ?_
    refine (shows_number hframe (.inr rfl)).bind fun received hreceived => ?_
    refine ⟨"I" ++ sent ++ received ++ pollMark event, by simp; rfl, ?_⟩
    simp +decide [hsent, hreceived, hpf]
  · refine (shows_number hframe (.inr rfl)).bind fun received hreceived => ?_
    refine ⟨frameType ++ received ++ pollMark event, by simp; rfl, ?_⟩
    simp [htype, hreceived, hpf]
  · exact ⟨frameType ++ pollMark event, by simp; rfl, by simp [htype, hpf]⟩
  · exact shows_ok htype

theorem printable_pidParts : ∀ text ∈ pidParts event, Printable text := by
  intro text htext
  unfold pidParts at htext
  split at htext
  case h_1 pid hpid =>
    obtain rfl := List.mem_singleton.mp htext
    rw [printable_append]
    refine ⟨printable_of_all rfl, ?_⟩
    cases hlookup : event.get "pid" with
    | none =>
        rw [hlookup] at hpid
        cases hpid
    | some value =>
        rw [hlookup] at hpid
        exact printable_pid (hframe "pid" (by simp [frameKeys]) value hlookup) hpid
  case h_2 => cases htext

theorem shows_frameTail : Shows (frameTail lib event) := by
  refine (shows_controlText hframe).bind fun control hcontrol => ?_
  refine (shows_getText hframe (by simp [shownKeys]) printable_empty).bind fun info hinfo => ?_
  let parts := ("ctl " ++ control) :: (pidParts event ++ lengthParts event)
  have hparts : (codes "ctl " ++ codes control) ::
      (pidParts event ++ lengthParts event).map codes = parts.map codes := by simp [parts]
  have hprintable : ∀ text ∈ parts, Printable text := by
    intro text htext
    rcases List.mem_cons.mp htext with rfl | hmem
    · rw [printable_append]
      exact ⟨printable_of_all rfl, hcontrol⟩
    · rcases List.mem_append.mp hmem with hpid | hlength
      · exact printable_pidParts hframe text hpid
      · exact printable_lengthParts event text hlength
  simp only [hparts]
  split_ifs
  · rw [codes_intercalate]
    exact shows_ok (printable_intercalate (printable_of_all rfl) hprintable)
  · have hall : parts.map codes ++ [codes " " ++ codes info] =
        (parts ++ [" " ++ info]).map codes := by simp
    rw [hall, codes_intercalate]
    refine shows_ok (printable_intercalate (printable_of_all rfl) fun text htext => ?_)
    rcases List.mem_append.mp htext with hmem | hlast
    · exact hprintable text hmem
    · rw [List.mem_singleton.mp hlast, printable_append]
      exact ⟨printable_of_all rfl, hinfo⟩

end

/-! ### The rest of the line -/

/-- The line of an `rx.frame` or `tx.` event, up to the part that shows the frame. -/
def lineHeader (lib : LogLibrary) (stamp : String) (kind : List CodePoint) (event : LogEvent) :
    Except PyError (List CodePoint) :=
  if kind = codes "rx.frame" then .ok (codes (stamp ++ " RX "))
  else (requestText lib event).map fun request =>
    codes (stamp ++ " TX ") ++ stageText lib kind ++ request

/-- The part that shows the frame. -/
def framePart (lib : LogLibrary) (kind : List CodePoint) (event : LogEvent) :
    Except PyError (List CodePoint) :=
  if kind = codes "rx.frame" then do
    let route ← routeText lib event
    let tail ← frameTail lib event
    return route ++ codes " " ++ tail
  else txFrameText lib event

/-- What stands behind it. -/
def lineTrailer (lib : LogLibrary) (kind : List CodePoint) (event : LogEvent) :
    Except PyError (List CodePoint) :=
  if kind = codes "rx.frame" then .ok [] else extraText lib kind event

theorem lookup_otherFields {key : List CodePoint} (hkey : key ∉ frameKeys.map codes) :
    (otherFields event).lookup key = event.lookup key := by
  unfold otherFields
  induction event with
  | nil => rfl
  | cons field event ih =>
      obtain ⟨key', value⟩ := field
      by_cases hfield : key = key'
      · subst hfield
        rw [List.filter_cons_of_pos (by simpa using hkey), List.lookup_cons_self,
          List.lookup_cons_self]
      · have hne : (key == key') = false := beq_false_of_ne hfield
        rw [List.filter_cons, List.lookup_cons, hne]
        split
        · rw [List.lookup_cons, hne]
          exact ih
        · exact ih

theorem codes_notMem (hkey : key ∉ frameKeys) : codes key ∉ frameKeys.map codes := by
  intro hmem
  obtain ⟨key', hmem', heq⟩ := List.mem_map.mp hmem
  rw [codes_inj] at heq
  exact hkey (heq ▸ hmem')

theorem get_otherFields (hkey : key ∉ frameKeys) : (otherFields event).get key = event.get key :=
  lookup_otherFields (codes_notMem hkey)

theorem getText_otherFields (hkey : key ∉ frameKeys) (default : String) :
    getText lib (otherFields event) key default = getText lib event key default := by
  unfold getText
  rw [get_otherFields hkey]

theorem requestText_otherFields : requestText lib (otherFields event) = requestText lib event := by
  have hkey : "request_id" ∉ frameKeys := by simp [frameKeys]
  simp only [requestText, get_otherFields hkey, getText_otherFields hkey]

/-- The field behind the frame is no field of the frame. -/
theorem extraField_notMem {kind : List CodePoint} {label : String} {shown : EventValue → Bool}
    (h : extraField kind = some (key, label, shown)) :
    key ∉ frameKeys ∧ Printable label := by
  unfold extraField at h
  split_ifs at h
  all_goals
    simp only [Option.some.injEq, Prod.mk.injEq] at h
    obtain ⟨rfl, rfl, -⟩ := h
    exact ⟨by simp [frameKeys], printable_of_all rfl⟩

theorem extraText_otherFields (kind : List CodePoint) :
    extraText lib kind (otherFields event) = extraText lib kind event := by
  unfold extraText
  split
  case h_1 => rfl
  case h_2 key label shown hfield =>
    have hkey := (extraField_notMem hfield).1
    rw [get_otherFields hkey, getText_otherFields hkey]

/-- Nothing but the middle part depends on the fields of the frame. -/
theorem eventText_eq {kind : List CodePoint}
    (htype : kind = codes "rx.frame" ∨ codes "tx." <+: kind) (stamp : String) :
    eventText lib stamp kind event = (do
      let header ← lineHeader lib stamp kind (otherFields event)
      let part ← framePart lib kind event
      let trailer ← lineTrailer lib kind (otherFields event)
      return header ++ part ++ trailer) := by
  unfold eventText lineHeader framePart lineTrailer
  rw [requestText_otherFields, extraText_otherFields]
  by_cases hrx : kind = codes "rx.frame"
  · simp only [hrx, if_true]
    cases routeText lib event with
    | error e => rfl
    | ok route =>
        cases frameTail lib event with
        | error e => rfl
        | ok tail => exact congrArg Except.ok (by simp)
  · simp only [if_neg hrx, if_pos (htype.resolve_left hrx)]
    cases requestText lib event with
    | error e => rfl
    | ok request => rfl

theorem shows_framePart (hframe : FrameDerived frame event) (kind : List CodePoint) :
    Shows (framePart lib kind event) := by
  have hroute : Shows (routeText lib event) := shows_routeText hframe
  have htail : Shows (frameTail lib event) := shows_frameTail hframe
  unfold framePart txFrameText
  split_ifs
  · refine hroute.bind fun route hr => htail.bind fun tail ht => ?_
    exact ⟨route ++ " " ++ tail, by simp; rfl, by simp +decide [hr, ht]⟩
  · refine hroute.bind fun route hr => htail.bind fun tail ht => ?_
    exact ⟨" " ++ route ++ " " ++ tail, by simp; rfl, by simp +decide [hr, ht]⟩
  · exact shows_ok printable_empty

/-! ### What keeps an event from being written -/

/-- The other fields of an event let it be written: the reading of its time raises nothing
that is not caught, its whole numbers have texts, and no surrogate stands alone in a text that
the line shows. -/
structure Writable (lib : LogLibrary) (event : LogEvent) (kind : List CodePoint) : Prop where
  timestamp : ∀ ts e, getText lib event "ts" "" = .ok ts →
    lib.fromisoformat (utcText ts) = .error e → e.cls = .typeError ∨ e.cls = .valueError
  numbers : (EventValue.obj event).oversized = false
  stage : kind ≠ codes "rx.frame" → Encodes kind
  request : kind ≠ codes "rx.frame" →
    ∀ text, event.get "request_id" = some (.str text) → Encodes text
  extra : kind ≠ codes "rx.frame" → ∀ key label shown,
    extraField kind = some (key, label, shown) →
      ∀ text, event.get key = some (.str text) → Encodes text

theorem oversized_of_mem {key : List CodePoint} {fields : List (List CodePoint × EventValue)}
    (h : (key, value) ∈ fields) (hfields : EventValue.oversizedFields fields = false) :
    value.oversized = false := by
  induction fields with
  | nil => cases h
  | cons field fields ih =>
      obtain ⟨key', value'⟩ := field
      rw [EventValue.oversizedFields, Bool.or_eq_false_iff] at hfields
      rcases List.mem_cons.mp h with hhead | hmem
      · cases hhead
        exact hfields.1
      · exact ih hmem hfields.2

theorem oversized_of_get (h : event.get key = some value)
    (hevent : (EventValue.obj event).oversized = false) : value.oversized = false := by
  obtain ⟨before, after, rfl, -⟩ := List.lookup_eq_some_iff.mp h
  rw [EventValue.oversized] at hevent
  exact oversized_of_mem (List.mem_append_right before List.mem_cons_self) hevent

theorem encodes_plain (hvalue : ∀ text, value ≠ .str text) (s : String) :
    Encodes (codes s) ↔ ∀ text, value = .str text → Encodes text :=
  iff_of_true (encodes_codes s) fun text htext => absurd htext (hvalue text)

variable (lib) in
/-- A value that is not too long has a text, and nothing but a text has lone surrogates. -/
theorem text_of_not_oversized (h : value.oversized = false) :
    ∃ text, value.text lib = .ok text ∧ (Encodes text ↔ ∀ s, value = .str s → Encodes s) := by
  cases value with
  | str s => exact ⟨s, rfl, by simp⟩
  | null => exact ⟨_, rfl, encodes_plain (by simp) _⟩
  | bool b => exact ⟨_, rfl, encodes_plain (by simp) _⟩
  | int n =>
      rw [EventValue.oversized] at h
      exact ⟨codes (toString n), by simp [EventValue.text, intText, h], encodes_plain (by simp) _⟩
  | float v =>
      exact ⟨codes (lib.str (.float v)), by simp [EventValue.text, h], encodes_plain (by simp) _⟩
  | list items =>
      exact ⟨codes (lib.str (.list items)), by simp [EventValue.text, h],
        encodes_plain (by simp) _⟩
  | obj fields =>
      exact ⟨codes (lib.str (.obj fields)), by simp [EventValue.text, h],
        encodes_plain (by simp) _⟩

theorem getText_of_get (h : event.get key = some value) (default : String) :
    getText lib event key default = value.text lib := by
  unfold getText
  rw [h]

theorem surrogate_mem_stageText {kind : List CodePoint} {n : Fin 0x800} :
    .surrogate n ∈ stageText lib kind ↔ .surrogate n ∈ kind.drop 3 := by
  have hdash : ∀ point : CodePoint,
      (if point = .char '_' then .char '-' else point) = .surrogate n ↔ point = .surrogate n := by
    intro point
    split_ifs with h
    · rw [h]
      exact iff_of_false nofun nofun
    · rfl
  have hupper : ∀ point : CodePoint,
      .surrogate n ∈ upperCode lib point ↔ point = .surrogate n := by
    intro point
    cases point with
    | char c => simp [upperCode]
    | surrogate m => simp [upperCode, eq_comm]
  simp only [stageText, List.mem_map, hdash, exists_eq_right, List.mem_flatMap, hupper]

theorem encodes_stageText {kind : List CodePoint} :
    Encodes (stageText lib kind) ↔ Encodes (kind.drop 3) :=
  forall_congr' fun _ => not_congr surrogate_mem_stageText

/-- The first three characters of the kind are no surrogates. -/
theorem encodes_drop {kind : List CodePoint} (h : codes "tx." <+: kind) :
    Encodes (kind.drop 3) ↔ Encodes kind := by
  obtain ⟨rest, rfl⟩ := h
  rw [encodes_append]
  exact ⟨fun hrest => ⟨encodes_codes _, hrest⟩, And.right⟩

variable (lib) in
theorem requestText_ok (hnumbers : (EventValue.obj event).oversized = false) :
    ∃ text, requestText lib event = .ok text ∧
      (Encodes text ↔ ∀ s, event.get "request_id" = some (.str s) → Encodes s) := by
  unfold requestText
  cases hvalue : event.get "request_id" with
  | none => exact ⟨[], rfl, by simp [Encodes]⟩
  | some value =>
      obtain ⟨text, htext, hencodes⟩ :=
        text_of_not_oversized lib (oversized_of_get hvalue hnumbers)
      by_cases hgiven : isGiven (some value) = true
      · refine ⟨codes " #" ++ text, ?_, ?_⟩
        · rw [if_pos hgiven, getText_of_get hvalue, htext]
          rfl
        · rw [encodes_append, hencodes]
          simp
      · refine ⟨[], if_neg hgiven, ?_⟩
        cases value with
        | null => simp [Encodes]
        | _ => exact absurd rfl hgiven

/-- A text that is not shown is empty. -/
theorem eq_nil_of_not_shown {kind text : List CodePoint} {label : String}
    {shown : EventValue → Bool} (h : extraField kind = some (key, label, shown))
    (hshown : shown (.str text) = false) : text = [] := by
  unfold extraField at h
  split_ifs at h
  all_goals
    simp only [Option.some.injEq, Prod.mk.injEq] at h
    obtain ⟨-, -, rfl⟩ := h
  · exact absurd hshown (by simp [isGiven])
  · exact absurd hshown (by simp [isGiven])
  · simpa [EventValue.truthy] using hshown
  · simpa [EventValue.truthy] using hshown

variable (lib) in
theorem extraText_ok (hnumbers : (EventValue.obj event).oversized = false)
    (kind : List CodePoint) :
    ∃ text, extraText lib kind event = .ok text ∧
      (Encodes text ↔ ∀ key label shown, extraField kind = some (key, label, shown) →
        ∀ s, event.get key = some (.str s) → Encodes s) := by
  unfold extraText
  cases hfield : extraField kind with
  | none => exact ⟨[], rfl, by simp [Encodes]⟩
  | some field =>
      obtain ⟨key, label, shown⟩ := field
      simp only [Option.some.injEq, Prod.mk.injEq, and_imp]
      cases hvalue : event.get key with
      | none =>
          refine ⟨[], rfl, iff_of_true (encodes_codes "") ?_⟩
          rintro _ _ _ rfl rfl rfl s hs
          rw [hvalue] at hs
          cases hs
      | some value =>
          obtain ⟨text, htext, hencodes⟩ :=
            text_of_not_oversized lib (oversized_of_get hvalue hnumbers)
          by_cases hshown : shown value = true
          · refine ⟨codes label ++ text, ?_, ?_⟩
            · rw [if_pos (by simpa using hshown), getText_of_get hvalue, htext]
              rfl
            · rw [encodes_append, hencodes]
              constructor
              · rintro ⟨-, hs⟩ _ _ _ rfl rfl rfl s hget
                rw [hvalue, Option.some.injEq] at hget
                exact hs s hget
              · intro hs
                refine ⟨encodes_codes label, fun s hvalue' => hs key label shown rfl rfl rfl s ?_⟩
                rw [hvalue, hvalue']
          · refine ⟨[], if_neg (by simpa using hshown), iff_of_true (encodes_codes "") ?_⟩
            rintro _ _ _ rfl rfl rfl s hget
            rw [hvalue, Option.some.injEq] at hget
            subst hget
            rw [eq_nil_of_not_shown hfield (eq_false_of_ne_true hshown)]
            exact encodes_codes ""

variable (lib) in
/-- The other parts of the line have texts, and these can be encoded exactly when the event
can be written. -/
theorem line_ok {kind : List CodePoint} (htype : kind = codes "rx.frame" ∨ codes "tx." <+: kind)
    (hnumbers : (EventValue.obj event).oversized = false) (stamp : String) :
    ∃ header trailer, lineHeader lib stamp kind (otherFields event) = .ok header ∧
      lineTrailer lib kind (otherFields event) = .ok trailer ∧
      (Encodes header ∧ Encodes trailer ↔
        (kind ≠ codes "rx.frame" → Encodes kind) ∧
        (kind ≠ codes "rx.frame" →
          ∀ text, event.get "request_id" = some (.str text) → Encodes text) ∧
        (kind ≠ codes "rx.frame" → ∀ key label shown,
          extraField kind = some (key, label, shown) →
            ∀ text, event.get key = some (.str text) → Encodes text)) := by
  unfold lineHeader lineTrailer
  rw [requestText_otherFields, extraText_otherFields]
  by_cases hrx : kind = codes "rx.frame"
  · refine ⟨_, _, if_pos hrx, if_pos hrx, ?_⟩
    exact iff_of_true ⟨encodes_codes _, encodes_codes ""⟩
      ⟨absurd hrx, absurd hrx, absurd hrx⟩
  · obtain ⟨request, hrequest, hencodes⟩ := requestText_ok lib hnumbers
    obtain ⟨extra, hextra, hencodes'⟩ := extraText_ok lib hnumbers kind
    refine ⟨codes (stamp ++ " TX ") ++ stageText lib kind ++ request, extra, ?_, ?_, ?_⟩
    · rw [if_neg hrx, hrequest]
      rfl
    · rw [if_neg hrx, hextra]
    · rw [encodes_append, encodes_append, encodes_stageText,
        encodes_drop (htype.resolve_left hrx), hencodes, hencodes']
      constructor
      · rintro ⟨⟨⟨-, hstage⟩, hrequestText⟩, hextraText⟩
        exact ⟨fun _ => hstage, fun _ => hrequestText, fun _ => hextraText⟩
      · rintro ⟨hstage, hrequestText, hextraText⟩
        exact ⟨⟨⟨encodes_codes _, hstage hrx⟩, hrequestText hrx⟩, hextraText hrx⟩

/-! ### One line -/

theorem printable_paddedText (width n : ℕ) : Printable (paddedText width n) := by
  apply printable_ofList.mpr
  intro c hc
  rcases List.mem_append.mp hc with hzero | hdigit
  · rw [(List.mem_replicate.mp hzero).2]
    rfl
  · exact isPrintable_toDigits hdigit

theorem printable_dayText (t : Datetime) : Printable t.dayText := by
  have hyear : Printable (toString t.year) := printable_toString_nat _
  unfold Datetime.dayText
  generalize toString t.year = year at hyear
  simp +decide [hyear, printable_paddedText]

theorem printable_stamp (t : Datetime) : Printable t.stamp := by
  have hfull : Printable t.fullText := by
    simp +decide [Datetime.fullText, printable_dayText, printable_paddedText]
  apply printable_ofList.mpr
  exact fun c hc => hfull c (List.mem_of_mem_take hc)

theorem unbroken_text {text : List CodePoint} (h : value.text lib = .ok text)
    (hvalue : ∀ s, value = .str s → UnbrokenCodes s) : UnbrokenCodes text := by
  unfold EventValue.text at h
  split at h
  · cases h
    exact hvalue text rfl
  · cases h
    exact Printable.unbrokenCodes (printable_of_all rfl)
  · cases h
    split
    · exact Printable.unbrokenCodes (printable_of_all rfl)
    · exact Printable.unbrokenCodes (printable_of_all rfl)
  · unfold intText at h
    split_ifs at h
    cases h
    exact (printable_toString_int _).unbrokenCodes
  · split_ifs at h
    cases h
    exact unbrokenCodes_codes.mpr (lib.str_unbroken _)

/-- A text of the other fields, or of a value in its place. -/
theorem unbroken_getText (hothers : OthersUnbroken event) (hkey : key ∉ frameKeys)
    {default : String} (hdefault : Printable default) {text : List CodePoint}
    (h : getText lib event key default = .ok text) : UnbrokenCodes text := by
  unfold getText at h
  split at h
  case h_1 value hvalue =>
    refine unbroken_text h ?_
    rintro s rfl
    exact hothers _ s (codes_notMem hkey) hvalue
  case h_2 =>
    cases h
    exact hdefault.unbrokenCodes

theorem unbroken_stageText {kind : List CodePoint} (h : UnbrokenCodes kind) :
    UnbrokenCodes (stageText lib kind) := by
  intro point hpoint
  obtain ⟨upper, hupper, rfl⟩ := List.mem_map.mp hpoint
  obtain ⟨small, hsmall, hmem⟩ := List.mem_flatMap.mp hupper
  have hbreak := h small (List.mem_of_mem_drop hsmall)
  split
  · rfl
  · cases small with
    | char c =>
        obtain ⟨d, hd, rfl⟩ := List.mem_map.mp hmem
        exact lib.upper_unbroken c hbreak d hd
    | surrogate n =>
        rw [List.mem_singleton.mp hmem]
        rfl

/-- A labelled text of the other fields. -/
theorem unbroken_labelled (hothers : OthersUnbroken event) (hkey : key ∉ frameKeys)
    {label : String} (hlabel : Printable label) {text : List CodePoint}
    (h : (getText lib event key "").map (codes label ++ ·) = .ok text) : UnbrokenCodes text := by
  cases hvalue : getText lib event key "" with
  | error e =>
      rw [hvalue] at h
      cases h
  | ok value =>
      rw [hvalue] at h
      cases h
      exact unbrokenCodes_append.mpr ⟨hlabel.unbrokenCodes,
        unbroken_getText hothers hkey printable_empty hvalue⟩

theorem unbroken_lineHeader (hothers : OthersUnbroken event) {stamp : String}
    {kind text : List CodePoint} (hstamp : Printable stamp) (hkind : UnbrokenCodes kind)
    (h : lineHeader lib stamp kind event = .ok text) : UnbrokenCodes text := by
  unfold lineHeader requestText at h
  split_ifs at h
  · cases h
    exact Printable.unbrokenCodes (by simp +decide [hstamp])
  · cases hrequest : (getText lib event "request_id" "").map (codes " #" ++ ·) with
    | error e =>
        rw [hrequest] at h
        cases h
    | ok request =>
        rw [hrequest] at h
        cases h
        refine unbrokenCodes_append.mpr ⟨unbrokenCodes_append.mpr ⟨?_, unbroken_stageText hkind⟩,
          unbroken_labelled hothers (by simp [frameKeys]) (printable_of_all rfl) hrequest⟩
        exact Printable.unbrokenCodes (by simp +decide [hstamp])
  · cases h
    refine unbrokenCodes_append.mpr ⟨unbrokenCodes_append.mpr ⟨?_, unbroken_stageText hkind⟩,
      printable_empty.unbrokenCodes⟩
    exact Printable.unbrokenCodes (by simp +decide [hstamp])

theorem unbroken_lineTrailer (hothers : OthersUnbroken event) {kind text : List CodePoint}
    (h : lineTrailer lib kind event = .ok text) : UnbrokenCodes text := by
  unfold lineTrailer extraText at h
  split_ifs at h
  · cases h
    exact printable_empty.unbrokenCodes
  · split at h
    case h_1 =>
      cases h
      exact printable_empty.unbrokenCodes
    case h_2 key label shown hfield =>
      obtain ⟨hkey, hlabel⟩ := extraField_notMem hfield
      split_ifs at h
      · exact unbroken_labelled hothers hkey hlabel h
      · cases h
        exact printable_empty.unbrokenCodes

/-! ### The octets in the log -/

/-- The field `key` has the hexadecimal text of `data`, as it stands in a line of JSON too. -/
def ReadsBack (event : LogEvent) (json key : String) (data : Bytes) : Prop :=
  ∃ s, event.get key = some (textField s) ∧ fromHex s.toList = some data ∧
    (memberText (codes key, "\"" ++ s ++ "\"")).toList <:+: json.toList

theorem readsBack_hexText {data : Bytes} {json : String} (hjson : eventJson lib event = .ok json)
    (h : event.get key = some (textField (hexText data))) : ReadsBack event json key data := by
  refine ⟨_, h, fromHex_hexText data, ?_⟩
  unfold eventJson dumps at hjson
  split_ifs at hjson
  cases hjson
  rw [← quoteText_plain hexText_plain]
  obtain ⟨before, after, rfl, -⟩ := List.lookup_eq_some_iff.mp h
  have hmem : (codes key, textField (hexText data)) ∈
      before ++ (codes key, textField (hexText data)) :: after := by simp
  have hinfix := @infix_dumpsText lib.floatText _ _ _ hmem
  rw [textField, dumpsText] at hinfix
  exact hinfix

theorem readsBack_frameHex (hframe : FrameDerived frame event) {json : String}
    (hjson : eventJson lib event = .ok json) (h : (event.get "frame_hex").isSome) :
    ReadsBack event json "frame_hex" frame := by
  obtain ⟨value, hvalue⟩ := Option.isSome_iff_exists.mp h
  have hmember := hframe "frame_hex" (by simp [frameKeys]) value hvalue
  simp [FrameFields.members, List.lookup_cons] at hmember
  subst hmember
  exact readsBack_hexText hjson hvalue

theorem readsBack_infoHex (hframe : FrameDerived frame event) {json : String}
    (hjson : eventJson lib event = .ok json) (h : (event.get "info_hex").isSome) :
    ∃ parsed, parseFrame frame false = .ok parsed ∧
      ReadsBack event json "info_hex" parsed.info := by
  obtain ⟨value, hvalue⟩ := Option.isSome_iff_exists.mp h
  have hmember := hframe "info_hex" (by simp [frameKeys]) value hvalue
  obtain ⟨parsed, hparsed, hinfo⟩ := parsed_of_member (by simp) hmember
  simp [ParsedFrame.members, List.lookup_cons] at hinfo
  subst hinfo
  exact ⟨parsed, hparsed, readsBack_hexText hjson hvalue⟩

theorem printable_eventJson {json : String} (h : eventJson lib event = .ok json) :
    Printable json := by
  unfold eventJson dumps at h
  split_ifs at h
  cases h
  exact printable_dumpsText lib.floatText_printable _

end YwdTnc
