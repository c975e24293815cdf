import YwdTnc.Coding.Binary64
import YwdTnc.Coding.Limited
import YwdTnc.Coding.Tally
import YwdTnc.Coding.TextLines
import YwdTnc.Firmware.Json
import Mathlib.Logic.Function.Basic

/-!
# Statistics of a day

`HistoryStore.stats` reads the packet log of a day back and counts its events, up to a limit.
The loop tests the limit before it has looked at a line, so it calls the statistics truncated
as soon as any line is left, be it blank, torn or not of this schema.
-/

namespace YwdTnc

open Coding

/-- A dictionary; each key stands in it once. -/
abbrev MonitorEvent := List (String × Json)

/-- The functions of the host language that the history uses: `json.loads`, `str` of values
that are no text, whether `\d` matches a character, and `datetime.strptime`. -/
structure HistoryLibrary where
  loads : List Char → Except PyError Json
  python : Python
  isDecimal : Char → Bool
  strptime : String → Except PyError Unit

/-- The kinds of events that have a counter of their own. -/
inductive StatsKind where
  | rxFrames
  | txSubmitted
  | txComplete
  | txRejected
  | txTimeout
  | txFailed
  deriving DecidableEq, Repr

def StatsKind.text : StatsKind → String
  | rxFrames => "rx.frame"
  | txSubmitted => "tx.submitted"
  | txComplete => "tx.complete"
  | txRejected => "tx.rejected"
  | txTimeout => "tx.timeout"
  | txFailed => "tx.failed"

/-- The counter for the kind of an event. -/
def StatsKind.ofText (kind : String) : Option StatsKind :=
  if kind = "rx.frame" then some .rxFrames
  else if kind = "tx.submitted" then some .txSubmitted
  else if kind = "tx.complete" then some .txComplete
  else if kind = "tx.rejected" then some .txRejected
  else if kind = "tx.timeout" then some .txTimeout
  else if kind = "tx.failed" then some .txFailed
  else none

/-- The dictionary that `stats` returns. -/
structure HistoryStats where
  date : String
  events : ℕ
  kinds : StatsKind → ℕ
  topSources : List (String × ℕ)
  topDestinations : List (String × ℕ)
  frameTypes : List (String × ℕ)
  rssiSamples : ℕ
  rssiAverage : Option ℚ
  truncated : Bool

/-- What the loop of `stats` counts. -/
structure Counting where
  events : ℕ
  kinds : StatsKind → ℕ
  sources : List (String × ℕ)
  destinations : List (String × ℕ)
  frameTypes : List (String × ℕ)
  rssiTotal : ℤ
  rssiCount : ℕ
  truncated : Bool

def Counting.init : Counting := ⟨0, fun _ => 0, [], [], [], 0, 0, false⟩

/-- The files of the directory, decoded, by name. -/
structure HistoryStore where
  files : String → Option (List Char)
  maxStatsEvents : ℕ

/-- The lines of a text, with their ends. -/
def linesFrom (line : List Char) : List Char → List (List Char)
  | [] => if line = [] then [] else [line]
  | c :: text =>
      if c = '\n' then (line ++ [c]) :: linesFrom [] text else linesFrom (line ++ [c]) text

/-- The lines of a file that is open for reading. -/
def fileLines (text : List Char) : List (List Char) := linesFrom [] (universalNewlines text)

variable (lib : HistoryLibrary)

/-! ### One event -/

/-- A line that holds an event of this schema. A line that `json.loads` cannot decode holds
none; every other exception goes on. -/
def readEvent (line : List Char) : Except PyError (Option MonitorEvent) :=
  match lib.loads line with
  | .error e => if e.cls = .other "JSONDecodeError" then .ok none else .error e
  | .ok (.obj event) => .ok (if Json.isInt 1 (event.lookup "schema") then some event else none)
  | .ok _ => .ok none

/-- `str(event.get("event", ""))`. -/
def eventKind (event : MonitorEvent) : String :=
  match event.lookup "event" with
  | some j => j.text lib.python
  | none => ""

/-- The name that is counted for a key, if its value is not empty. -/
def nameOf (key : String) (event : MonitorEvent) : Option String :=
  match event.lookup key with
  | some j => if j.truthy then some (j.text lib.python) else none
  | none => none

/-- `raw_rssi`, if it is a whole number. -/
def rssiOf (event : MonitorEvent) : Option ℤ :=
  match event.lookup "raw_rssi" with
  | some (.int n) => some n
  | some (.bool b) => some (if b then 1 else 0)
  | _ => none

def bumpName (counts : List (String × ℕ)) : Option String → List (String × ℕ)
  | some name => bump counts name
  | none => counts

/-- The body of the loop, from an event on. -/
def Counting.count (c : Counting) (event : MonitorEvent) : Counting :=
  { c with
    events := c.events + 1
    kinds :=
      match StatsKind.ofText (eventKind lib event) with
      | some kind => Function.update c.kinds kind (c.kinds kind + 1)
      | none => c.kinds
    sources := bumpName c.sources (nameOf lib "source" event)
    destinations := bumpName c.destinations (nameOf lib "destination" event)
    frameTypes := bumpName c.frameTypes (nameOf lib "frame_type" event)
    rssiTotal := c.rssiTotal + (rssiOf event).getD 0
    rssiCount := c.rssiCount + if (rssiOf event).isSome then 1 else 0 }

/-- The loop of `stats`. -/
def scan (maxStatsEvents : ℕ) : List (List Char) → Counting → Except PyError Counting
  | [], c => .ok c
  | line :: lines, c =>
      -- the limit comes first, before the line is known to be an event
      if maxStatsEvents ≤ c.events then .ok { c with truncated := true }
      else
        match readEvent lib line with
        | .error e => .error e
        | .ok none => scan maxStatsEvents lines c
        | .ok (some event) => scan maxStatsEvents lines (c.count lib event)

/-! ### The result -/

/-- `total / count` of whole numbers. -/
def trueDivide (total : ℤ) (count : ℕ) : Except PyError ℚ :=
  let x := toBinary64 (total / count)
  if 2 ^ 1024 ≤ |x| then
    .error ⟨.other "OverflowError", "integer division result too large for a float"⟩
  else .ok x

/-- `round(total / count, 1) if count else None`. -/
def rssiAverage (total : ℤ) (count : ℕ) : Except PyError (Option ℚ) :=
  if count = 0 then .ok none
  else (trueDivide total count).map fun x => some (toBinary64 (roundHalfEven (x * 10) / 10))

/-- What follows the loop. -/
def Counting.result (c : Counting) (date : String) : Except PyError HistoryStats :=
  (rssiAverage c.rssiTotal c.rssiCount).map fun average =>
    { date
      events := c.events
      kinds := c.kinds
      topSources := mostCommon 8 c.sources
      topDestinations := mostCommon 8 c.destinations
      frameTypes := youngestFirst Prod.snd c.frameTypes
      rssiSamples := c.rssiCount
      rssiAverage := average
      truncated := c.truncated }

/-- The text has the form `dddd-dd-dd`. -/
def isDateText (value : String) : Bool :=
  match value.toList with
  | [y₁, y₂, y₃, y₄, '-', m₁, m₂, '-', d₁, d₂] =>
      [y₁, y₂, y₃, y₄, m₁, m₂, d₁, d₂].all lib.isDecimal
  | _ => false

/-- `valid_date`. -/
def validDate (value : String) : Except PyError String :=
  if ¬ isDateText lib value then .error (.valueError "date must be YYYY-MM-DD")
  else
    match lib.strptime value with
    | .ok () => .ok value
    | .error e =>
        if e.cls = .valueError then .error (.valueError "invalid calendar date") else .error e

namespace HistoryStore

def stats (store : HistoryStore) (date : String) : Except PyError HistoryStats :=
  match validDate lib date with
  | .error e => .error e
  | .ok date =>
      match store.files (date ++ ".jsonl") with
      | none =>
          .ok
            { date, events := 0, kinds := fun _ => 0, topSources := [], topDestinations := []
              frameTypes := [], rssiSamples := 0, rssiAverage := none, truncated := false }
      | some text =>
          match scan lib store.maxStatsEvents (fileLines text) Counting.init with
          | .error e => .error e
          | .ok c => c.result date

end HistoryStore

/-! ### What is counted -/

/-- The events of this schema in a file, in their order. -/
def validEvents (text : List Char) : List MonitorEvent := values (readEvent lib) (fileLines text)

/-- The names that some events have for a key. -/
def namesOf (key : String) (events : List MonitorEvent) : List String :=
  events.filterMap (nameOf lib key)

/-- Statistics of these events and no others. -/
structure HistoryStats.Counts (events : List MonitorEvent) (stats : HistoryStats) : Prop where
  count : stats.events = events.length
  kinds : ∀ kind, stats.kinds kind = events.countP fun event => eventKind lib event = kind.text
  topSources : stats.topSources = mostCommon 8 (nameCounts (namesOf lib "source" events))
  topDestinations :
    stats.topDestinations = mostCommon 8 (nameCounts (namesOf lib "destination" events))
  frameTypes :
    stats.frameTypes = youngestFirst Prod.snd (nameCounts (namesOf lib "frame_type" events))
  rssiSamples : stats.rssiSamples = (events.filterMap rssiOf).length

variable {lib}

theorem StatsKind.ofText_eq_some_iff {text : String} {kind : StatsKind} :
    StatsKind.ofText text = some kind ↔ text = kind.text := by
  constructor
  · intro h
    unfold StatsKind.ofText at h
    split_ifs at h with h₁ h₂ h₃ h₄ h₅ h₆
    all_goals cases h
    · exact h₁
    · exact h₂
    · exact h₃
    · exact h₄
    · exact h₅
    · exact h₆
  · rintro rfl
    cases kind with
    | rxFrames => rfl
    | txSubmitted => rfl
    | txComplete => rfl
    | txRejected => rfl
    | txTimeout => rfl
    | txFailed => rfl

/-! ### The loop -/

/-- The loop finds the events that a reader with this limit finds. -/
theorem scan_eq (maxStatsEvents : ℕ) (lines : List (List Char)) (c : Counting)
    (h : c.truncated = false) :
    scan lib maxStatsEvents lines c =
      (readUpTo (readEvent lib) (maxStatsEvents - c.events) lines).map fun found =>
        { found.1.foldl (Counting.count lib) c with truncated := found.2 } := by
  induction lines generalizing c with
  | nil =>
      rw [readUpTo, scan]
      simp only [Except.map, List.foldl_nil, ← h]
  | cons line lines ih =>
      rw [scan]
      by_cases hlimit : maxStatsEvents ≤ c.events
      · rw [if_pos hlimit, Nat.sub_eq_zero_of_le hlimit]
        rfl
      · obtain ⟨n, hn⟩ := Nat.exists_eq_succ_of_ne_zero (Nat.sub_ne_zero_of_lt (not_le.mp hlimit))
        rw [if_neg hlimit, hn, readUpTo]
        cases hread : readEvent lib line with
        | error e => rfl
        | ok value =>
            cases value with
            | none =>
                simp only
                rw [ih c h, hn]
            | some event =>
                have hleft : maxStatsEvents - (c.count lib event).events = n := by
                  simp only [Counting.count]
                  omega
                simp only
                rw [ih (c.count lib event) h, hleft]
                cases readUpTo (readEvent lib) n lines with
                | error e => rfl
                | ok found => rfl

theorem count_kinds (c : Counting) (event : MonitorEvent) (kind : StatsKind) :
    (c.count lib event).kinds kind =
      c.kinds kind + if eventKind lib event = kind.text then 1 else 0 := by
  unfold Counting.count
  dsimp only
  cases hkind : StatsKind.ofText (eventKind lib event) with
  | none =>
      have hne : eventKind lib event ≠ kind.text := by
        intro heq
        rw [StatsKind.ofText_eq_some_iff.mpr heq] at hkind
        cases hkind
      rw [if_neg hne, Nat.add_zero]
  | some found =>
      have htext := StatsKind.ofText_eq_some_iff.mp hkind
      dsimp only
      by_cases heq : kind = found
      · subst heq
        rw [Function.update_self, if_pos htext]
      · have hne : eventKind lib event ≠ kind.text := by
          intro htext'
          rw [StatsKind.ofText_eq_some_iff.mpr htext'] at hkind
          exact heq (Option.some.inj hkind)
        rw [Function.update_of_ne heq, if_neg hne, Nat.add_zero]

/-- The counters after some events. -/
structure Counting.Of (lib : HistoryLibrary) (events : List MonitorEvent) (c : Counting) :
    Prop where
  count : c.events = events.length
  kinds : ∀ kind, c.kinds kind = events.countP fun event => eventKind lib event = kind.text
  sources : c.sources = tally (namesOf lib "source" events)
  destinations : c.destinations = tally (namesOf lib "destination" events)
  frameTypes : c.frameTypes = tally (namesOf lib "frame_type" events)
  rssiTotal : c.rssiTotal = (events.filterMap rssiOf).sum
  rssiCount : c.rssiCount = (events.filterMap rssiOf).length

theorem namesOf_append_singleton (key : String) (events : List MonitorEvent)
    (event : MonitorEvent) :
    tally (namesOf lib key (events ++ [event])) =
      bumpName (tally (namesOf lib key events)) (nameOf lib key event) := by
  unfold namesOf
  rw [List.filterMap_append]
  cases hname : nameOf lib key event with
  | none => simp [hname, bumpName]
  | some name => simp [hname, bumpName, tally_append_singleton]

/-- One event more. -/
theorem Counting.Of.count_event {events : List MonitorEvent} {c : Counting} (h : c.Of lib events)
    (event : MonitorEvent) : (c.count lib event).Of lib (events ++ [event]) where
  count := by
    rw [List.length_append, ← h.count]
    rfl
  kinds kind := by
    rw [count_kinds, h.kinds kind, List.countP_append, List.countP_singleton]
    simp
  sources := by
    rw [namesOf_append_singleton, ← h.sources]
    rfl
  destinations := by
    rw [namesOf_append_singleton, ← h.destinations]
    rfl
  frameTypes := by
    rw [namesOf_append_singleton, ← h.frameTypes]
    rfl
  rssiTotal := by
    have hstep : (c.count lib event).rssiTotal = c.rssiTotal + (rssiOf event).getD 0 := rfl
    rw [hstep, h.rssiTotal, List.filterMap_append, List.sum_append]
    cases hrssi : rssiOf event with
    | none => simp [hrssi]
    | some n => simp [hrssi]
  rssiCount := by
    have hstep : (c.count lib event).rssiCount =
        c.rssiCount + if (rssiOf event).isSome then 1 else 0 := rfl
    rw [hstep, h.rssiCount, List.filterMap_append, List.length_append]
    cases hrssi : rssiOf event with
    | none => simp [hrssi]
    | some n => simp [hrssi]

theorem Counting.of_init : Counting.init.Of lib [] :=
  ⟨rfl, fun _ => rfl, rfl, rfl, rfl, rfl, rfl⟩

/-- The counters after the loop over some events. -/
theorem Counting.of_foldl (events : List MonitorEvent) :
    (events.foldl (Counting.count lib) Counting.init).Of lib events := by
  induction events using List.reverseRecOn with
  | nil => exact Counting.of_init
  | append_singleton events event ih =>
      rw [List.foldl_append]
      exact ih.count_event event

/-! ### Exact statistics -/

/-- The average of the samples of these events is a float. -/
def RssiAveraged (events : List MonitorEvent) : Prop :=
  let samples := events.filterMap rssiOf
  samples = [] ∨ |toBinary64 (samples.sum / samples.length)| < 2 ^ 1024

theorem rssiAverage_isOk_iff {events : List MonitorEvent} :
    (∃ average, rssiAverage (events.filterMap rssiOf).sum (events.filterMap rssiOf).length =
      .ok average) ↔ RssiAveraged events := by
  unfold RssiAveraged rssiAverage trueDivide
  dsimp only
  by_cases hnone : events.filterMap rssiOf = []
  · rw [hnone]
    simp
  · have hlength : (events.filterMap rssiOf).length ≠ 0 := by
      rw [ne_eq, List.length_eq_zero_iff]
      exact hnone
    rw [if_neg hlength]
    by_cases hlarge : 2 ^ 1024 ≤ |toBinary64 (((events.filterMap rssiOf).sum : ℚ) /
        (events.filterMap rssiOf).length)|
    · rw [if_pos hlarge]
      refine iff_of_false ?_ ?_
      · rintro ⟨average, haverage⟩
        cases haverage
      · rintro (h | h)
        · exact hnone h
        · exact absurd hlarge (not_le.mpr h)
    · rw [if_neg hlarge]
      exact iff_of_true ⟨_, rfl⟩ (.inr (not_le.mp hlarge))

/-- The result of the loop over some events. -/
theorem Counting.Of.result {events : List MonitorEvent} {c : Counting} (h : c.Of lib events)
    (date : String) (truncated : Bool) :
    RssiAveraged events ∧ (∃ result, ({ c with truncated } : Counting).result date = .ok result ∧
        result.Counts lib events ∧ result.truncated = truncated) ∨
      ¬ RssiAveraged events ∧ ∃ e, ({ c with truncated } : Counting).result date = .error e := by
  unfold Counting.result
  dsimp only
  rw [h.rssiTotal, h.rssiCount]
  cases haverage : rssiAverage (events.filterMap rssiOf).sum (events.filterMap rssiOf).length with
  | error e =>
      refine .inr ⟨fun haveraged => ?_, e, rfl⟩
      obtain ⟨average, hok⟩ := rssiAverage_isOk_iff.mpr haveraged
      rw [hok] at haverage
      cases haverage
  | ok average =>
      refine .inl ⟨rssiAverage_isOk_iff.mp ⟨average, haverage⟩, _, rfl, ?_, rfl⟩
      constructor
      · exact h.count
      · exact h.kinds
      · rw [← tally_eq, ← h.sources]
      · rw [← tally_eq, ← h.destinations]
      · rw [← tally_eq, ← h.frameTypes]
      · rfl

/-- The statistics of a file are those of its first events, and say so when there are more,
exactly when no line fails before the limit, the average is a float, and nothing stands
behind the last event that is counted unless another event does. -/
theorem HistoryStore.stats_exact_iff (lib : HistoryLibrary) (store : HistoryStore)
    (date : String) (text : List Char) (hdate : validDate lib date = .ok date)
    (hfile : store.files (date ++ ".jsonl") = some text) :
    (∃ result, store.stats lib date = .ok result ∧
        result.Counts lib ((validEvents lib text).take store.maxStatsEvents) ∧
        (result.truncated = true ↔ store.maxStatsEvents < (validEvents lib text).length)) ↔
      Readable (readEvent lib) store.maxStatsEvents (fileLines text) ∧
        RssiAveraged ((validEvents lib text).take store.maxStatsEvents) ∧
        ∀ before line after, fileLines text = before ++ line :: after →
          (values (readEvent lib) before).length = store.maxStatsEvents →
          values (readEvent lib) (line :: after) ≠ [] := by
  have hstats : store.stats lib date =
      match scan lib store.maxStatsEvents (fileLines text) Counting.init with
      | .error e => .error e
      | .ok c => c.result date := by
    rw [HistoryStore.stats, hdate]
    dsimp only
    rw [hfile]
  rw [scan_eq _ _ _ rfl, show Counting.init.events = 0 from rfl, Nat.sub_zero] at hstats
  rw [hstats, ← exceeds_iff_lt]
  by_cases hreadable : Readable (readEvent lib) store.maxStatsEvents (fileLines text)
  · obtain ⟨more, hread, hmore⟩ := readUpTo_of_readable hreadable
    rw [hread]
    have hcounted := @Counting.of_foldl lib
      ((values (readEvent lib) (fileLines text)).take store.maxStatsEvents)
    rcases hcounted.result date more with ⟨haveraged, result, hresult, hcounts, htruncated⟩ |
      ⟨hlarge, e, he⟩
    · constructor
      · rintro ⟨result', hresult', -, htruncated'⟩
        obtain rfl := Except.ok.inj (hresult'.symm.trans hresult)
        rw [htruncated, hmore] at htruncated'
        exact ⟨hreadable, haveraged, htruncated'⟩
      · rintro ⟨-, -, hexceeds⟩
        refine ⟨result, hresult, hcounts, ?_⟩
        rw [htruncated, hmore]
        exact hexceeds
    · refine iff_of_false ?_ fun h => hlarge h.2.1
      rintro ⟨result', hresult', -⟩
      exact absurd (hresult'.symm.trans he) (by simp)
  · obtain ⟨e, he⟩ := readUpTo_of_not_readable hreadable
    rw [he]
    refine iff_of_false ?_ fun h => hreadable h.1
    rintro ⟨result, hresult, -⟩
    cases hresult

/-! ### A torn line between events, and a blank line behind the last -/

/-- A line with an event that has nothing but its schema. -/
def eventLine : List Char := "\x7b\"schema\":1\x7d\n".toList

/-- A line with a frame that was heard. -/
def frameLine : List Char :=
  ("\x7b\"destination\":\"APRS\",\"event\":\"rx.frame\",\"frame_type\":\"UI\"," ++
    "\"raw_rssi\":97,\"schema\":1,\"source\":\"AB1CDE\"\x7d\n").toList

def eventLibrary : HistoryLibrary where
  loads line :=
    if line = eventLine then .ok (.obj [("schema", .int 1)])
    else if line = frameLine then
      .ok (.obj [("destination", .str "APRS"), ("event", .str "rx.frame"),
        ("frame_type", .str "UI"), ("raw_rssi", .int 97), ("schema", .int 1),
        ("source", .str "AB1CDE")])
    else .error ⟨.other "JSONDecodeError", "Expecting value: line 1 column 1 (char 0)"⟩
  python := ⟨fun _ => "", fun _ => none, fun _ => ""⟩
  isDecimal := Char.isDigit
  strptime _ := .ok ()

/-- A directory with one file and a limit of one event. -/
def oneFile (text : List Char) : HistoryStore where
  files name := if name = "2026-09-10.jsonl" then some text else none
  maxStatsEvents := 1

/-- Two frames with a torn line between them, an event of no kind, and one more frame. -/
def tornFile : List Char :=
  frameLine ++ frameLine.take 40 ++ '\n' :: frameLine ++ eventLine ++ frameLine

theorem validDate_eventLibrary : validDate eventLibrary "2026-09-10" = .ok "2026-09-10" := by
  decide +kernel

theorem oneFile_files (text : List Char) :
    (oneFile text).files ("2026-09-10" ++ ".jsonl") = some text := by
  simp [oneFile]

theorem HistoryStore.stats_exact_iff_tornFile :
    ∃ result, HistoryStore.stats eventLibrary { oneFile tornFile with maxStatsEvents := 3 }
        "2026-09-10" = .ok result ∧
      result.kinds .rxFrames = 2 ∧ result.topSources = [("AB1CDE", 2)] ∧
      result.rssiSamples = 2 ∧ result.truncated = true := by
  have hread : ((fileLines tornFile).all fun line => (readEvent eventLibrary line).isOk) =
      true := by
    decide +kernel
  have hevents : (validEvents eventLibrary tornFile).length = 4 := by
    decide +kernel
  have hsamples : ((validEvents eventLibrary tornFile).take 3).filterMap rssiOf = [97, 97] := by
    decide +kernel
  have hcondition : Readable (readEvent eventLibrary) 3 (fileLines tornFile) ∧
      RssiAveraged ((validEvents eventLibrary tornFile).take 3) ∧
      ∀ before line after, fileLines tornFile = before ++ line :: after →
        (values (readEvent eventLibrary) before).length = 3 →
        values (readEvent eventLibrary) (line :: after) ≠ [] := by
    refine ⟨fun before line after hlines _ => ?_, .inr ?_, ?_⟩
    · have hline := List.all_eq_true.mp hread line (by simp [hlines])
      cases hvalue : readEvent eventLibrary line with
      | ok value => exact ⟨value, rfl⟩
      | error e =>
          rw [hvalue] at hline
          cases hline
    · rw [hsamples]
      decide +kernel
    · intro before line after hlines hlength hnone
      rw [validEvents, hlines, values_append, hnone, List.append_nil, hlength] at hevents
      cases hevents
  obtain ⟨result, hresult, hcounts, htruncated⟩ :=
    (HistoryStore.stats_exact_iff eventLibrary { oneFile tornFile with maxStatsEvents := 3 }
      "2026-09-10" tornFile validDate_eventLibrary (oneFile_files tornFile)).mpr hcondition
  refine ⟨result, hresult, (hcounts.kinds .rxFrames).trans ?_, hcounts.topSources.trans ?_,
    hcounts.rssiSamples.trans ?_, htruncated.mpr ?_⟩
  · decide +kernel
  · decide +kernel
  · rw [hsamples]
    rfl
  · rw [hevents]
    decide

/-- A blank line behind the last event that is counted makes the statistics truncated. -/
theorem stats_blank_line_truncated :
    ¬ ∃ result, (oneFile (eventLine ++ ['\n'])).stats eventLibrary "2026-09-10" = .ok result ∧
      result.Counts eventLibrary ((validEvents eventLibrary (eventLine ++ ['\n'])).take 1) ∧
      (result.truncated = true ↔
        1 < (validEvents eventLibrary (eventLine ++ ['\n'])).length) := by
  have hstats : (((oneFile (eventLine ++ ['\n'])).stats eventLibrary "2026-09-10").map
      HistoryStats.truncated).toOption = some true := by
    decide +kernel
  have hevents : (validEvents eventLibrary (eventLine ++ ['\n'])).length = 1 := by
    decide +kernel
  rintro ⟨result, hresult, -, htruncated⟩
  rw [hresult] at hstats
  rw [hevents] at htruncated
  exact absurd (htruncated.mp (Option.some.inj hstats)) (lt_irrefl 1)

end YwdTnc
