import YwdTnc.Coding.Failures
import YwdTnc.Coding.StableSort
import YwdTnc.Firmware.QualifiedFlash
import YwdTnc.Interaction.FixedAnswers

/-!
# The search for a rollback backup

`find_verified_stock_backup` goes through the candidates from the youngest to the oldest and
passes over those that `verify_stock_backup` refuses with a `FirmwareProfileError`. Two
steps of the verifier raise something else: the text of a manifest that is not UTF-8 or no
number that the host converts, and the conversion of `flash_size_bytes`. Here the files do
not change while the tool looks at them.
-/

namespace YwdTnc

open Coding Interaction Prog Host QualifiedFlash

/-! ### Files -/

/-- The files of a host, with what reading a manifest gives. The exceptions of the tools are
none of the host's, and the entries of a directory have its path and are distinct. -/
structure FileSystem where
  isFile : String → Bool
  isDir : String → Bool
  entries : String → List String
  mtime : String → ℚ
  content : String → Bytes
  json : String → Except FirmwareExc Json
  json_error : ∀ path e, json path = .error e → e.cls ≠ .firmwareProfileError
  entries_nodup : ∀ path, (entries path).Nodup
  entries_under : ∀ path, ∀ entry ∈ entries path, (path ++ "/").toList <+: entry.toList

namespace FileSystem

/-- The answers about files; nothing else is answered. -/
def answer (fs : FileSystem) : (q : HostQuery) → Except FirmwareExc q.Answer
  | .isFile path => .ok (fs.isFile path)
  | .isDir path => .ok (fs.isDir path)
  | .iterdir path => .ok (fs.entries path)
  | .stMtime path => .ok (fs.mtime path)
  | .stSize path => .ok (fs.content path).length
  | .readBytes path => .ok (fs.content path)
  | .readJson path => fs.json path
  | _ => .error ⟨.osError, "not a file"⟩

variable (fs : FileSystem) (python : Python) (profile : FirmwareProfile)

/-! ### A candidate -/

/-- `_load_json`. -/
def fieldsOf (path : String) : Except FirmwareExc (List (String × Json)) :=
  match fs.json path with
  | .error e =>
      .error (if e.isUnreadable then
        .profileError ("cannot load firmware profile " ++ path ++ ": " ++ e.message) else e)
  | .ok (.obj fields) => .ok fields
  | .ok _ => .error (.profileError "firmware profile root must be an object")

/-- What `verify_stock_backup` makes of these files. -/
def verdict (directory : String) : Except FirmwareExc String := do
  let manifest := directory ++ "/manifest.json"
  let image := directory ++ "/original-flash.bin"
  FirmwareProfile.require ((fs.isFile manifest && fs.isFile image) = true)
    "stock backup requires manifest.json and original-flash.bin"
  let data ← fs.fieldsOf manifest
  FirmwareProfile.require (Json.isStr profile.targetId (data.lookup "target_id"))
    "stock backup target mismatch"
  FirmwareProfile.require (Json.isInt 2 (data.lookup "read_passes") ∧
      Json.isBool true (data.lookup "two_pass_byte_identical"))
    "stock backup lacks verified two-pass identity"
  FirmwareProfile.require (Json.isFalseOrNone (data.lookup "option_bytes_read_or_written"))
    "stock backup touched option bytes"
  FirmwareProfile.require (Json.isFalseOrNone (data.lookup "flash_written"))
    "stock backup unexpectedly records a flash write"
  let geometry ← ((data.lookup "flash_size_bytes").getD (.int (-1))).toInt python
  FirmwareProfile.require (geometry = profile.stockFlashSizeBytes)
    "stock backup flash geometry mismatch"
  let digest := python.hexdigest (fs.content image)
  FirmwareProfile.require ((fs.content image).length = profile.stockFlashSizeBytes)
    "stock backup image size mismatch"
  FirmwareProfile.require (digest = profile.stockFlashSha256)
    "stock backup SHA256 does not match qualified stock image"
  FirmwareProfile.require ((((data.lookup "sha256").getD (.str "")).text python).toLower = digest)
    "stock backup manifest SHA256 mismatch"
  FirmwareProfile.require ((data.lookup "stock_sha256_match").isNone ∨
      Json.isBool true (data.lookup "stock_sha256_match"))
    "stock backup manifest does not prove stock SHA256 match"
  return digest

variable {fs python profile} {s : HostState}

theorem yields_raiseUnless {answer : (q : HostQuery) → Except FirmwareExc q.Answer} {ok : Prop}
    {hok : Decidable ok} {message : String} :
    Yields answer (raiseUnless ok (.profileError message)) s
      (FirmwareProfile.require ok message) s := by
  unfold raiseUnless FirmwareProfile.require
  split
  · exact yields_ret () s
  · exact yields_raise _ s

theorem yields_loadJson (path : String) :
    Yields fs.answer (loadJson path) s (fs.fieldsOf path) s := by
  have hread : Yields fs.answer (attempt (readJson path)) s (.ok (fs.json path)) s :=
    (yields_call _ s).attempt
  refine hread.bind_ok ?_
  unfold fieldsOf
  cases fs.json path with
  | error e => exact yields_raise _ s
  | ok value =>
      cases value with
      | obj fields => exact yields_ret fields s
      | _ => exact yields_raise _ s

theorem yields_hasBackupFiles (manifest image : String) :
    Yields fs.answer (hasBackupFiles manifest image) s
      (.ok (fs.isFile manifest && fs.isFile image)) s := by
  have hmanifest : Yields fs.answer (Host.isFile manifest) s (.ok (fs.isFile manifest)) s :=
    yields_call _ s
  refine hmanifest.bind_ok ?_
  cases fs.isFile manifest with
  | false => exact yields_ret false s
  | true => exact yields_call _ s

theorem yields_sha256File (path : String) :
    Yields fs.answer (sha256File python path) s (.ok (python.hexdigest (fs.content path))) s := by
  have hread : Yields fs.answer (readBytes path) s (.ok (fs.content path)) s := yields_call _ s
  exact hread.bind_ok (yields_ret _ s)

theorem yields_verifyStockBackup (directory : String) :
    Yields fs.answer (verifyStockBackup python profile directory) s
      (fs.verdict python profile directory) s := by
  refine (yields_hasBackupFiles _ _).bind_ok ?_
  refine yields_raiseUnless.bind fun _ => (yields_loadJson _).bind fun data => ?_
  refine yields_raiseUnless.bind fun _ => yields_raiseUnless.bind fun _ => ?_
  refine yields_raiseUnless.bind fun _ => yields_raiseUnless.bind fun _ => ?_
  refine (yields_ofExcept _ s).bind fun geometry => yields_raiseUnless.bind fun _ => ?_
  refine (yields_sha256File _).bind_ok ?_
  have hsize : ∀ path, Yields fs.answer (stSize path) s (.ok (fs.content path).length) s :=
    fun _ => yields_call _ s
  refine (hsize _).bind_ok ?_
  refine yields_raiseUnless.bind fun _ => yields_raiseUnless.bind fun _ => ?_
  refine yields_raiseUnless.bind fun _ => yields_raiseUnless.bind fun _ => ?_
  exact yields_ret _ s

theorem verifies_iff (directory : String) :
    (∃ digest, Yields fs.answer (verifyStockBackup python profile directory) s (.ok digest) s) ↔
      ∃ digest, fs.verdict python profile directory = .ok digest := by
  have hverdict : Yields fs.answer (verifyStockBackup python profile directory) s
      (fs.verdict python profile directory) s := yields_verifyStockBackup directory
  constructor
  · rintro ⟨digest, hdigest⟩
    exact ⟨digest, (hverdict.unique hdigest).1⟩
  · rintro ⟨digest, hdigest⟩
    exact ⟨digest, hdigest ▸ hverdict⟩

/-! ### Refusals -/

def IsProfileError (e : FirmwareExc) : Prop := e.cls = .firmwareProfileError

variable (fs python profile)

/-- The fields that are looked at before the conversion are in order. -/
structure PassesUntilGeometry (data : List (String × Json)) : Prop where
  target : Json.isStr profile.targetId (data.lookup "target_id") = true
  passes : Json.isInt 2 (data.lookup "read_passes") = true ∧
    Json.isBool true (data.lookup "two_pass_byte_identical") = true
  optionBytes : Json.isFalseOrNone (data.lookup "option_bytes_read_or_written") = true
  written : Json.isFalseOrNone (data.lookup "flash_written") = true

/-- A manifest that is no text of JSON, but in a way that is not caught, or whose
`flash_size_bytes` is looked at and is no number. -/
def Unconverted (directory : String) : Prop :=
  (fs.isFile (directory ++ "/manifest.json") && fs.isFile (directory ++ "/original-flash.bin")) =
      true ∧
    match fs.json (directory ++ "/manifest.json") with
    | .error e => e.isUnreadable = false
    | .ok (.obj data) => PassesUntilGeometry profile data ∧
        ∃ e, ((data.lookup "flash_size_bytes").getD (.int (-1))).toInt python = .error e
    | .ok _ => False

variable {fs python profile}

theorem require_failsOnly (ok : Prop) [Decidable ok] (message : String) :
    FailsOnly IsProfileError (FirmwareProfile.require ok message) :=
  FailsOnly.ite (fun _ => failsOnly_ok _) fun _ => failsOnly_error rfl

theorem require_ok {ok : Prop} [Decidable ok] {message : String} {u : Unit}
    (h : FirmwareProfile.require ok message = .ok u) : ok := by
  by_contra hnot
  simp [FirmwareProfile.require, hnot] at h

theorem toInt_error {value : Json} {e : FirmwareExc} (h : value.toInt python = .error e) :
    ¬ IsProfileError e := by
  unfold Json.toInt at h
  intro hprofile
  split at h
  · cases h
  · cases h
  · cases h
  · cases h
    cases hprofile
  · split at h
    · cases h
    · cases h
      cases hprofile
  · cases h
    cases hprofile

theorem fieldsOf_ok {path : String} {data : List (String × Json)}
    (h : fs.fieldsOf path = .ok data) : fs.json path = .ok (.obj data) := by
  unfold fieldsOf at h
  split at h
  case h_1 => cases h
  case h_2 fields hjson =>
      cases h
      exact hjson
  case h_3 => cases h

/-- A manifest that cannot be read raises what the tools do not raise themselves, unless the
exception is caught. -/
theorem fieldsOf_error {path : String} {e : FirmwareExc} (h : fs.fieldsOf path = .error e) :
    IsProfileError e ∨ ∃ e', fs.json path = .error e' ∧ e'.isUnreadable = false := by
  unfold fieldsOf at h
  split at h
  case h_1 e' hjson =>
      cases hunreadable : e'.isUnreadable with
      | true =>
          simp only [hunreadable, if_true, Except.error.injEq] at h
          exact .inl (h ▸ rfl)
      | false => exact .inr ⟨e', hjson, hunreadable⟩
  case h_2 => cases h
  case h_3 =>
      cases h
      exact .inl rfl

/-- A verdict is a digest, a `FirmwareProfileError`, or the error of a conversion. -/
theorem verdict_failsOnly (directory : String) :
    FailsOnly (fun e => IsProfileError e ∨ fs.Unconverted python profile directory)
      (fs.verdict python profile directory) := by
  have proper : ∀ {α : Type} {x : Except FirmwareExc α}, FailsOnly IsProfileError x →
      FailsOnly (fun e => IsProfileError e ∨ fs.Unconverted python profile directory) x :=
    fun h => h.mono fun _ => .inl
  refine (proper (require_failsOnly _ _)).bind fun _ hfiles => ?_
  refine FailsOnly.bind (fun e he => ?_) fun data hdata => ?_
  · refine (fieldsOf_error he).imp_right fun ⟨e', hjson, hunreadable⟩ => ⟨require_ok hfiles, ?_⟩
    rw [hjson]
    exact hunreadable
  refine (proper (require_failsOnly _ _)).bind fun _ htarget => ?_
  refine (proper (require_failsOnly _ _)).bind fun _ hpasses => ?_
  refine (proper (require_failsOnly _ _)).bind fun _ hoption => ?_
  refine (proper (require_failsOnly _ _)).bind fun _ hwritten => ?_
  refine FailsOnly.bind (fun e he => .inr ⟨require_ok hfiles, ?_⟩) fun geometry _ => ?_
  · rw [fieldsOf_ok hdata]
    exact ⟨⟨require_ok htarget, require_ok hpasses, require_ok hoption, require_ok hwritten⟩,
      e, he⟩
  refine (proper (require_failsOnly _ _)).bind fun _ _ => ?_
  refine (proper (require_failsOnly _ _)).bind fun _ _ => ?_
  refine (proper (require_failsOnly _ _)).bind fun _ _ => ?_
  refine (proper (require_failsOnly _ _)).bind fun _ _ => ?_
  exact (proper (require_failsOnly _ _)).bind fun _ _ => failsOnly_ok _

theorem require_true {ok : Prop} [Decidable ok] (h : ok) (message : String) :
    FirmwareProfile.require ok message = .ok () := by
  simp [FirmwareProfile.require, h]

theorem verdict_of_unconverted {directory : String}
    (h : fs.Unconverted python profile directory) :
    ∃ e, fs.verdict python profile directory = .error e ∧ ¬ IsProfileError e := by
  obtain ⟨hfiles, hmanifest⟩ := h
  have hok : ∀ {α β : Type} (a : α) (f : α → Except FirmwareExc β), (Except.ok a >>= f) = f a :=
    fun _ _ => rfl
  simp only [verdict, require_true hfiles, hok]
  cases hjson : fs.json (directory ++ "/manifest.json") with
  | error e =>
      rw [hjson] at hmanifest
      have hfields : fs.fieldsOf (directory ++ "/manifest.json") = .error e := by
        simp only [fieldsOf, hjson]
        simp [show e.isUnreadable = false from hmanifest]
      exact ⟨e, by rw [hfields]; rfl, fs.json_error _ _ hjson⟩
  | ok value =>
      rw [hjson] at hmanifest
      cases value with
      | obj data =>
          obtain ⟨hpasses, e, he⟩ := hmanifest
          have hfields : fs.fieldsOf (directory ++ "/manifest.json") = .ok data := by
            simp [fieldsOf, hjson]
          refine ⟨e, ?_, toInt_error he⟩
          simp only [hfields, hok, require_true hpasses.target, require_true hpasses.passes,
            require_true hpasses.optionBytes, require_true hpasses.written, he]
          rfl
      | _ => exact hmanifest.elim

theorem verdict_ne_of_unconverted {directory : String} {e : FirmwareExc}
    (h : fs.Unconverted python profile directory)
    (he : fs.verdict python profile directory = .error e) : ¬ IsProfileError e := by
  obtain ⟨e', he', hprofile⟩ := verdict_of_unconverted h
  rw [he] at he'
  cases he'
  exact hprofile

/-! ### The search -/

variable (fs profile)

def candidatesIn (base : String) : List String :=
  if fs.isDir base then (fs.entries base).filter fun path => fs.isDir path else []

/-- The candidates as they are listed, those of the product before the legacy ones. -/
def candidates : List String :=
  fs.candidatesIn (BACKUP_ROOT ++ "/" ++ profile.targetId) ++
    fs.candidatesIn (LEGACY_BACKUP_ROOT ++ "/" ++ profile.targetId)

variable (python)

/-- The first candidate with a digest, unless one before it raises. -/
def firstPassing : List String → Except FirmwareExc (Option String)
  | [] => .ok none
  | candidate :: candidates =>
      match fs.verdict python profile candidate with
      | .ok _ => .ok (some candidate)
      | .error e =>
          if e.cls = .firmwareProfileError then firstPassing candidates else .error e

def search : Except FirmwareExc (Option String) :=
  fs.firstPassing python profile (youngestFirst fs.mtime (fs.candidates profile))

variable {fs python profile}

theorem yields_onlyDirs (paths : List String) :
    Yields fs.answer (onlyDirs paths) s (.ok (paths.filter fun path => fs.isDir path)) s := by
  induction paths with
  | nil => exact yields_ret [] s
  | cons path paths ih =>
      have hdir : Yields fs.answer (Host.isDir path) s (.ok (fs.isDir path)) s := yields_call _ s
      refine hdir.bind_ok (ih.bind_ok ?_)
      cases hpath : fs.isDir path with
      | false =>
          rw [List.filter_cons_of_neg (by simp [hpath])]
          exact yields_ret _ s
      | true =>
          rw [List.filter_cons_of_pos hpath]
          exact yields_ret _ s

theorem yields_candidatesIn (base : String) :
    Yields fs.answer (QualifiedFlash.candidatesIn base) s (.ok (fs.candidatesIn base)) s := by
  have hdir : Yields fs.answer (Host.isDir base) s (.ok (fs.isDir base)) s := yields_call _ s
  refine hdir.bind_ok ?_
  unfold FileSystem.candidatesIn
  cases fs.isDir base with
  | false => exact yields_ret [] s
  | true =>
      have hentries : Yields fs.answer (iterdir base) s (.ok (fs.entries base)) s :=
        yields_call _ s
      exact hentries.bind_ok (yields_onlyDirs _)

theorem yields_withMtimes (paths : List String) :
    Yields fs.answer (withMtimes paths) s
      (.ok (paths.map fun path => (fs.mtime path, path))) s := by
  induction paths with
  | nil => exact yields_ret [] s
  | cons path paths ih =>
      have hmtime : Yields fs.answer (stMtime path) s (.ok (fs.mtime path)) s := yields_call _ s
      exact hmtime.bind_ok (ih.bind_ok (yields_ret _ s))

theorem yields_firstVerified {i : Installation} (candidates : List String) :
    Yields fs.answer (firstVerified i profile candidates) s
      (fs.firstPassing i.python profile candidates) s := by
  induction candidates with
  | nil => exact yields_ret none s
  | cons candidate candidates ih =>
      refine (yields_verifyStockBackup candidate).attempt.bind_ok ?_
      unfold firstPassing
      cases fs.verdict i.python profile candidate with
      | ok digest => exact yields_ret _ s
      | error e =>
          dsimp only
          split
          · exact ih
          · exact yields_raise e s

/-- Dating the candidates and sorting by the dates is sorting by the age. -/
theorem map_snd_sorted (paths : List String) :
    ((paths.map fun path => (fs.mtime path, path)).mergeSort
      fun a b => decide (b.1 ≤ a.1)).map Prod.snd = youngestFirst fs.mtime paths := by
  rw [List.map_mergeSort (s := fun a b => decide (fs.mtime b ≤ fs.mtime a))]
  · simp [youngestFirst, Function.comp_def]
  · intro a ha b hb
    obtain ⟨path, -, rfl⟩ := List.mem_map.mp ha
    obtain ⟨path', -, rfl⟩ := List.mem_map.mp hb
    rfl

theorem yields_findVerifiedStockBackup {i : Installation} :
    Yields fs.answer (findVerifiedStockBackup i profile) s (fs.search i.python profile) s := by
  refine (yields_candidatesIn _).bind_ok ((yields_candidatesIn _).bind_ok ?_)
  refine (yields_withMtimes _).bind_ok ?_
  dsimp only
  rw [map_snd_sorted]
  exact yields_firstVerified _

/-- Where the search ends: every candidate is refused, or it stops at the first other one. -/
theorem firstPassing_cases (candidates : List String) :
    ((∀ c ∈ candidates, ∃ e, fs.verdict python profile c = .error e ∧ IsProfileError e) ∧
      fs.firstPassing python profile candidates = .ok none) ∨
    ∃ u c v, candidates = u ++ c :: v ∧
      (∀ d ∈ u, ∃ e, fs.verdict python profile d = .error e ∧ IsProfileError e) ∧
      ((∃ digest, fs.verdict python profile c = .ok digest) ∧
          fs.firstPassing python profile candidates = .ok (some c) ∨
        ∃ e, fs.verdict python profile c = .error e ∧ ¬ IsProfileError e ∧
          fs.firstPassing python profile candidates = .error e) := by
  induction candidates with
  | nil => exact .inl ⟨by simp, rfl⟩
  | cons c candidates ih =>
      cases hverdict : fs.verdict python profile c with
      | ok digest =>
          refine .inr ⟨[], c, candidates, rfl, by simp, .inl ⟨⟨digest, hverdict⟩, ?_⟩⟩
          simp [firstPassing, hverdict]
      | error e =>
          by_cases hprofile : IsProfileError e
          · have hnext : fs.firstPassing python profile (c :: candidates) =
                fs.firstPassing python profile candidates := by
              have hcls : e.cls = .firmwareProfileError := hprofile
              simp [firstPassing, hverdict, hcls]
            rw [hnext]
            rcases ih with ⟨hall, hnone⟩ | ⟨u, d, v, rfl, hu, hstop⟩
            · refine .inl ⟨fun d hd => ?_, hnone⟩
              rcases List.mem_cons.mp hd with rfl | hd
              · exact ⟨e, hverdict, hprofile⟩
              · exact hall d hd
            · refine .inr ⟨c :: u, d, v, rfl, fun d' hd => ?_, hstop⟩
              rcases List.mem_cons.mp hd with rfl | hd
              · exact ⟨e, hverdict, hprofile⟩
              · exact hu d' hd
          · refine .inr ⟨[], c, candidates, rfl, by simp, .inr ⟨e, hverdict, hprofile, ?_⟩⟩
            have hcls : e.cls ≠ .firmwareProfileError := hprofile
            simp [firstPassing, hverdict, hcls]

theorem mem_candidatesIn {base path : String} (h : path ∈ fs.candidatesIn base) :
    base.toList <+: path.toList := by
  unfold FileSystem.candidatesIn at h
  split at h
  · have hunder := fs.entries_under base path (List.mem_of_mem_filter h)
    rw [String.toList_append] at hunder
    exact (List.prefix_append _ _).trans hunder
  · cases h

theorem candidatesIn_nodup (base : String) : (fs.candidatesIn base).Nodup := by
  unfold FileSystem.candidatesIn
  split
  · exact (fs.entries_nodup base).filter _
  · exact List.nodup_nil

/-- No path is under both roots. -/
theorem candidates_nodup : (fs.candidates profile).Nodup := by
  refine List.Nodup.append (candidatesIn_nodup _) (candidatesIn_nodup _) fun path h h' => ?_
  have hroot : BACKUP_ROOT.toList <+: path.toList := by
    have hbase := mem_candidatesIn h
    simp only [String.toList_append, List.append_assoc] at hbase
    exact (List.prefix_append _ _).trans hbase
  have hlegacy : LEGACY_BACKUP_ROOT.toList <+: path.toList := by
    have hbase := mem_candidatesIn h'
    simp only [String.toList_append, List.append_assoc] at hbase
    exact (List.prefix_append _ _).trans hbase
  rcases List.prefix_or_prefix_of_prefix hroot hlegacy with hprefix | hprefix
  · revert hprefix
    decide
  · revert hprefix
    decide

/-! ### What the search is for -/

variable (fs)

/-- `verify_stock_backup` succeeds on a candidate. -/
def Passes (i : Installation) (profile : FirmwareProfile) (s : HostState) (directory : String) :
    Prop :=
  ∃ digest,
    Yields fs.answer (verifyStockBackup i.python profile directory) s (.ok digest) s

/-- The most recently modified candidate that passes, or none when none does. -/
def IsYoungestPassing (i : Installation) (profile : FirmwareProfile) (s : HostState) :
    Option String → Prop
  | none => ∀ c ∈ fs.candidates profile, ¬ fs.Passes i profile s c
  | some c => c ∈ fs.candidates profile ∧ fs.Passes i profile s c ∧
      ∀ d ∈ fs.candidates profile, fs.Passes i profile s d → fs.mtime d ≤ fs.mtime c

/-- The search does not raise, and finds what it is for. -/
def FindsYoungest (i : Installation) (profile : FirmwareProfile) (s : HostState) : Prop :=
  ∃ found, Yields fs.answer (findVerifiedStockBackup i profile) s (.ok found) s ∧
    fs.IsYoungestPassing i profile s found

/-- Younger, or as old and listed before. -/
def ComesBefore (profile : FirmwareProfile) (c d : String) : Prop :=
  fs.mtime d < fs.mtime c ∨ fs.mtime c = fs.mtime d ∧ Precedes (fs.candidates profile) c d

variable {fs} {i : Installation}

theorem passes_iff (directory : String) :
    fs.Passes i profile s directory ↔
      ∃ digest, fs.verdict i.python profile directory = .ok digest :=
  verifies_iff directory

theorem not_passes_of_error {directory : String} {e : FirmwareExc}
    (h : fs.verdict i.python profile directory = .error e) :
    ¬ fs.Passes i profile s directory := by
  rw [passes_iff]
  rintro ⟨digest, hdigest⟩
  rw [h] at hdigest
  cases hdigest

/-- The search stops before a candidate that raises if and only if one that passes comes
before every such candidate. -/
theorem search_finds_iff :
    (∃ found, fs.search i.python profile = .ok found ∧ fs.IsYoungestPassing i profile s found) ↔
      ∀ c ∈ fs.candidates profile, fs.Unconverted i.python profile c →
        ∃ d ∈ fs.candidates profile, fs.Passes i profile s d ∧ fs.ComesBefore profile d c := by
  have hnodup : (fs.candidates profile).Nodup := candidates_nodup
  have hnodup' : (youngestFirst fs.mtime (fs.candidates profile)).Nodup :=
    nodup_youngestFirst hnodup
  have hbefore : ∀ {c d}, c ∈ fs.candidates profile → d ∈ fs.candidates profile → c ≠ d →
      (Precedes (youngestFirst fs.mtime (fs.candidates profile)) c d ↔
        fs.ComesBefore profile c d) := fun hc hd hne =>
    precedes_youngestFirst_iff hnodup hc hd hne
  rcases @firstPassing_cases fs i.python profile
    (youngestFirst fs.mtime (fs.candidates profile)) with
    ⟨hrefused, hnone⟩ | ⟨u, c, v, hsplit, hrefused, ⟨hpasses, hfound⟩ | ⟨e, he, hraised, hfound⟩⟩
  · constructor
    · intro _ c hc hunconverted
      obtain ⟨e, he, hprofile⟩ := hrefused c (mem_youngestFirst.mpr hc)
      exact (verdict_ne_of_unconverted hunconverted he hprofile).elim
    · refine fun _ => ⟨none, hnone, fun c hc => ?_⟩
      obtain ⟨e, he, -⟩ := hrefused c (mem_youngestFirst.mpr hc)
      exact not_passes_of_error he
  · have hc : c ∈ fs.candidates profile := mem_youngestFirst.mp (by rw [hsplit]; simp)
    have hpassing : fs.Passes i profile s c := (passes_iff c).mpr hpasses
    -- A candidate that is not refused is not in front of the one that is found.
    have hbehind : ∀ d ∈ fs.candidates profile,
        (∀ e, fs.verdict i.python profile d = .error e → ¬ IsProfileError e) → d = c ∨ d ∈ v := by
      intro d hd hnot
      have hmem : d ∈ youngestFirst fs.mtime (fs.candidates profile) :=
        mem_youngestFirst.mpr hd
      rw [hsplit, List.mem_append, List.mem_cons] at hmem
      refine hmem.resolve_left fun hu => ?_
      obtain ⟨e, he, hprofile⟩ := hrefused d hu
      exact hnot e he hprofile
    constructor
    · intro _ d hd hunconverted
      refine ⟨c, hc, hpassing, ?_⟩
      have hne : c ≠ d := by
        rintro rfl
        obtain ⟨e, he, -⟩ := verdict_of_unconverted hunconverted
        exact not_passes_of_error he hpassing
      rw [← hbefore hc hd hne, hsplit]
      refine precedes_of_mem ((hbehind d hd fun e he hprofile => ?_).resolve_left hne.symm)
      exact verdict_ne_of_unconverted hunconverted he hprofile
    · refine fun _ => ⟨some c, hfound, hc, hpassing, fun d hd hd' => ?_⟩
      rcases hbehind d hd fun e he => (not_passes_of_error he hd').elim with rfl | hv
      · exact le_rfl
      · have hprecedes : Precedes (youngestFirst fs.mtime (fs.candidates profile)) c d := by
          rw [hsplit]
          exact precedes_of_mem hv
        exact key_le_of_precedes hprecedes
  · have hc : c ∈ fs.candidates profile := mem_youngestFirst.mp (by rw [hsplit]; simp)
    have hunconverted := (verdict_failsOnly c e he).resolve_left hraised
    constructor
    · rintro ⟨found, hsearch, -⟩
      rw [search, hfound] at hsearch
      cases hsearch
    · intro h
      obtain ⟨d, hd, hpassing, hcomes⟩ := h c hc hunconverted
      have hne : d ≠ c := by
        rintro rfl
        exact not_passes_of_error he hpassing
      rw [← hbefore hd hc hne, hsplit, precedes_append_cons (hsplit ▸ hnodup')] at hcomes
      obtain ⟨e', he', -⟩ := hrefused d hcomes
      exact (not_passes_of_error he' hpassing).elim

/-- The search finds the most recently modified candidate that passes, and does not raise, if
and only if such a candidate comes before every one whose manifest is not converted. -/
theorem findVerifiedStockBackup_finds_iff (fs : FileSystem) (i : Installation)
    (profile : FirmwareProfile) (s : HostState) :
    fs.FindsYoungest i profile s ↔
      ∀ c ∈ fs.candidates profile, fs.Unconverted i.python profile c →
        ∃ d ∈ fs.candidates profile, fs.Passes i profile s d ∧ fs.ComesBefore profile d c := by
  rw [← search_finds_iff]
  constructor
  · rintro ⟨found, hyields, hyoungest⟩
    exact ⟨found, (yields_findVerifiedStockBackup.unique hyields).1, hyoungest⟩
  · rintro ⟨found, hsearch, hyoungest⟩
    refine ⟨found, ?_, hyoungest⟩
    rw [← hsearch]
    exact yields_findVerifiedStockBackup

end FileSystem

/-! ### A damaged backup -/

/-- The fields of a stock backup, without those that are not looked at. -/
def goodManifest (profile : FirmwareProfile) : Json :=
  .obj [("target_id", .str profile.targetId),
    ("flash_size_bytes", .int profile.stockFlashSizeBytes),
    ("sha256", .str profile.stockFlashSha256),
    ("read_passes", .int 2),
    ("two_pass_byte_identical", .bool true),
    ("stock_sha256_match", .bool true),
    ("option_bytes_read_or_written", .bool false),
    ("flash_written", .bool false)]

/-- The digest of the three letters `abc`. -/
def abcSha : String := "ba7816bf8f01cfea414140de5dae2223b00361a396177a9cb410ff61f20015ad"

theorem smallProfile_confirmation : "WRITE-FIRMWARE-NOW" ≠ "" := by decide

/-- A stock image of three octets. -/
def smallProfile : FirmwareProfile where
  qualifiedCoreCommit := QUALIFIED_CORE_COMMIT
  qualifiedCoreTree := QUALIFIED_CORE_TREE
  targetId := PRODUCT_TARGET
  expectedIdentity := QUALIFIED_FIRMWARE_IDENTITY
  vendorBuildScript := "firmware/build-qualified-inrepo.py"
  artifactRelativePath := "firmware/out/0c-p2-rssi-ax25r4-image.bin"
  artifactSizeBytes := 3
  artifactSha256 := abcSha
  flashBase := "0x08000000"
  programmedReadbackBytes := 3
  programmedReadbackSha256 := abcSha
  stockFlashSizeBytes := 3
  stockFlashSha256 := abcSha
  expectedBootloaderVersion := "0x22"
  expectedDeviceId := "0x0410"
  flashAuthorizationToken := "FLASH-QUALIFIED-AX25R4"
  finalWriteConfirmation := "WRITE-FIRMWARE-NOW"
  stateRecord := "/var/lib/ywd-mmdvm-tnc/firmware-ready.json"
  confirmation_ne := smallProfile_confirmation

def backupBase : String := BACKUP_ROOT ++ "/" ++ PRODUCT_TARGET

def olderBackup : String := backupBase ++ "/20260902-120000"

def youngerBackup : String := backupBase ++ "/20260903-120000"

theorem backups_distinct : [olderBackup, youngerBackup].Nodup := by decide +kernel

theorem backups_under :
    ∀ entry ∈ [olderBackup, youngerBackup], (backupBase ++ "/").toList <+: entry.toList := by
  decide +kernel

/-- Two backups of one image, of which the younger has a manifest that is not UTF-8. -/
def damagedFiles : FileSystem where
  isFile _ := true
  isDir path := path = backupBase ∨ path = olderBackup ∨ path = youngerBackup
  entries path := if path = backupBase then [olderBackup, youngerBackup] else []
  mtime path := if path = youngerBackup then 2 else 1
  content _ := [0x61, 0x62, 0x63]
  json path :=
    if path = youngerBackup ++ "/manifest.json" then
      .error ⟨.other "UnicodeDecodeError",
        "'utf-8' codec can't decode byte 0xff in position 0: invalid start byte"⟩
    else .ok (goodManifest smallProfile)
  json_error path e h := by
    split at h
    · cases h
      decide
    · cases h
  entries_nodup path := by
    split
    · exact backups_distinct
    · exact List.nodup_nil
  entries_under path entry h := by
    split at h
    · next hbase =>
        rw [hbase]
        exact backups_under entry h
    · cases h

def abcInstallation : Installation where
  python := ⟨fun _ => "", fun c => if c.isDigit then some (c.toNat - 48) else none,
    fun _ => abcSha⟩
  executable := "/usr/bin/python3"
  root := "/opt/tnc"

theorem olderBackup_verdict :
    (damagedFiles.verdict abcInstallation.python smallProfile olderBackup).toOption.isSome =
      true := by
  decide +kernel

theorem damaged_candidates :
    olderBackup ∈ damagedFiles.candidates smallProfile ∧
      youngerBackup ∈ damagedFiles.candidates smallProfile := by
  decide +kernel

theorem youngerBackup_unconverted :
    damagedFiles.Unconverted abcInstallation.python smallProfile youngerBackup := by
  refine ⟨rfl, ?_⟩
  simp [damagedFiles, FirmwareExc.isUnreadable]

/-- The good backup is not found behind the damaged one. -/
theorem damaged_hides_good :
    olderBackup ∈ damagedFiles.candidates smallProfile ∧
      damagedFiles.Passes abcInstallation smallProfile .init olderBackup ∧
        ¬ damagedFiles.FindsYoungest abcInstallation smallProfile .init := by
  obtain ⟨hcandidate, hdamaged⟩ := damaged_candidates
  refine ⟨hcandidate, ?_, ?_⟩
  · rw [FileSystem.passes_iff]
    cases hverdict : damagedFiles.verdict abcInstallation.python smallProfile olderBackup with
    | ok digest => exact ⟨digest, rfl⟩
    | error e =>
        have hread := olderBackup_verdict
        rw [hverdict] at hread
        cases hread
  · rintro ⟨found, hyields, hyoungest⟩
    have hsearch := (FileSystem.yields_findVerifiedStockBackup.unique hyields).1
    obtain ⟨d, hd, hpasses, hcomes⟩ := FileSystem.search_finds_iff.mp
      ⟨found, hsearch, hyoungest⟩ _ hdamaged youngerBackup_unconverted
    have hmtime : damagedFiles.mtime youngerBackup = 2 := by simp [damagedFiles]
    have hsame : d = youngerBackup := by
      by_contra hne
      have hold : damagedFiles.mtime d = 1 := by simp [damagedFiles, hne]
      rcases hcomes with hlt | ⟨heq, -⟩
      · rw [hmtime, hold] at hlt
        revert hlt
        decide
      · rw [hmtime, hold] at heq
        revert heq
        decide
    obtain ⟨e, he, -⟩ := FileSystem.verdict_of_unconverted youngerBackup_unconverted
    exact FileSystem.not_passes_of_error he (hsame ▸ hpasses)

end YwdTnc
