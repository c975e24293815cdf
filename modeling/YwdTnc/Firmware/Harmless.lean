import YwdTnc.Firmware.FlashUi

/-!
# Helpers that write nothing

Only two queries of the tools are dangerous: the command that writes main flash and the
file that declares the firmware ready. The helpers that check, read and capture issue
neither of them, whatever the host answers. Those that are no part of the bootloader do
not move the control lines either, and leave its mark as it is.
-/

namespace YwdTnc

open Interaction Prog Host

namespace HostQuery

/-- `stm32flash -w` of some file. -/
def isWrite : HostQuery → Prop
  | .command argv => ∃ file rest, argv = ["stm32flash", "-b", "115200", "-w"] ++ file :: rest
  | _ => False

/-- The file that declares the firmware ready. -/
def isReadyRecord : HostQuery → Prop
  | .writeJson _ fields => ("status", .str "FIRMWARE-READY") ∈ fields
  | _ => False

/-- The check of `isWrite`. -/
def writes : HostQuery → Bool
  | .command ("stm32flash" :: "-b" :: "115200" :: "-w" :: _ :: _) => true
  | _ => false

theorem writes_iff {q : HostQuery} : q.writes = true ↔ q.isWrite := by
  constructor
  · intro h
    unfold writes at h
    split at h
    case h_1 file rest => exact ⟨file, rest, rfl⟩
    case h_2 => cases h
  · intro h
    cases q with
    | command argv =>
        obtain ⟨file, rest, rfl⟩ := h
        rfl
    | _ => exact h.elim

/-- The check of `isReadyRecord`. -/
def records : HostQuery → Bool
  | .writeJson _ fields =>
      fields.any fun field => field.1 = "status" && Json.isStr "FIRMWARE-READY" (some field.2)
  | _ => false

theorem records_iff {q : HostQuery} : q.records = true ↔ q.isReadyRecord := by
  cases q with
  | writeJson path fields =>
      simp only [records, isReadyRecord, List.any_eq_true, Bool.and_eq_true,
        decide_eq_true_eq, Json.isStr_some_iff]
      constructor
      · rintro ⟨⟨key, value⟩, hfield, rfl, rfl⟩
        exact hfield
      · exact fun hfield => ⟨_, hfield, rfl, rfl⟩
  | _ => simp [records, isReadyRecord]

instance (q : HostQuery) : Decidable q.isWrite := decidable_of_iff _ writes_iff

instance (q : HostQuery) : Decidable q.isReadyRecord := decidable_of_iff _ records_iff

def Harmless (q : HostQuery) : Prop := ¬ q.isWrite ∧ ¬ q.isReadyRecord

theorem harmless_command {argv : List String}
    (h : ∀ file rest, argv ≠ ["stm32flash", "-b", "115200", "-w"] ++ file :: rest) :
    Harmless (.command argv) :=
  ⟨fun ⟨file, rest, heq⟩ => h file rest heq, id⟩

/-- The control-line helper with an operation. -/
def isControl (i : Installation) (operation : String) (q : HostQuery) : Prop :=
  ∃ boot : Bootloader, q = .command (boot.control i operation)

/-- No control-line helper of any installation. -/
def Uncontrolled (q : HostQuery) : Prop := ∀ i operation, ¬ q.isControl i operation

def Tame (q : HostQuery) : Prop := q.Harmless ∧ q.Uncontrolled

theorem uncontrolled_command {argv : List String}
    (h : ∀ executable script operation targets target,
      argv ≠ [executable, script, operation, "--targets", targets, "--target", target]) :
    Uncontrolled (.command argv) := by
  rintro i operation ⟨boot, heq⟩
  cases heq
  exact h _ _ _ _ _ rfl

theorem tame_command {argv : List String}
    (hwrite : ∀ file rest, argv ≠ ["stm32flash", "-b", "115200", "-w"] ++ file :: rest)
    (hcontrol : ∀ executable script operation targets target,
      argv ≠ [executable, script, operation, "--targets", targets, "--target", target]) :
    Tame (.command argv) :=
  ⟨harmless_command hwrite, uncontrolled_command hcontrol⟩

/-- Every query that is no command and writes no JSON. -/
def isPlain : HostQuery → Bool
  | .command _ | .writeJson _ _ => false
  | _ => true

theorem uncontrolled_of_noCommand {q : HostQuery} (h : ∀ argv, q ≠ .command argv) :
    q.Uncontrolled := by
  rintro i operation ⟨boot, rfl⟩
  exact h _ rfl

theorem tame_of_isPlain {q : HostQuery} (h : q.isPlain = true) : q.Tame := by
  cases q with
  | command argv => cases h
  | writeJson path fields => cases h
  | _ => exact ⟨⟨id, id⟩, uncontrolled_of_noCommand nofun⟩

end HostQuery

/-- A program without a write and without a ready record. -/
abbrev HarmlessProg {α : Type} (p : HostProg α) : Prop := CallsOnly HostQuery.Harmless p

/-- The bootloader's mark is what it was. -/
def SameMark (s s' : HostState) : Prop := s'.bootloaderActive = s.bootloaderActive

theorem composable_sameMark : Composable SameMark where
  refl _ := rfl
  trans h₁ h₂ := h₂.trans h₁

/-- A program that asks only what `K` allows and keeps the bootloader's mark. -/
structure Steady {α : Type} (K : HostQuery → Prop) (p : HostProg α) : Prop where
  calls : CallsOnly K p
  mark : Within SameMark p

abbrev TameProg {α : Type} (p : HostProg α) : Prop := Steady HostQuery.Tame p

open HostQuery (harmless_command tame_command)

section Rules

variable {α β : Type} {K : HostQuery → Prop}

theorem Steady.mono {K' : HostQuery → Prop} {p : HostProg α} (hp : Steady K p)
    (h : ∀ q, K q → K' q) : Steady K' p :=
  ⟨hp.calls.mono h, hp.mark⟩

theorem Steady.harmless {p : HostProg α} (hp : TameProg p) : HarmlessProg p :=
  hp.calls.mono fun _ => And.left

theorem steady_ret (a : α) : Steady K (ret a : HostProg α) :=
  ⟨callsOnly_ret a, within_ret composable_sameMark a⟩

theorem steady_raise (e : FirmwareExc) : Steady K (raise e : HostProg α) :=
  ⟨callsOnly_raise e, within_raise composable_sameMark e⟩

theorem steady_ofExcept (x : Except FirmwareExc α) : Steady K (ofExcept x : HostProg α) :=
  ⟨callsOnly_ofExcept x, within_ofExcept composable_sameMark x⟩

theorem steady_call {q : HostQuery} (hq : K q) : Steady K (call q : HostProg _) :=
  ⟨callsOnly_call hq, within_call composable_sameMark q⟩

theorem steady_modify {f : HostState → HostState} (hf : ∀ s, SameMark s (f s)) :
    Steady K (modify f : HostProg Unit) :=
  ⟨callsOnly_modify f, within_modify hf⟩

theorem Steady.bind {p : HostProg α} {f : α → HostProg β} (hp : Steady K p)
    (hf : ∀ a, Steady K (f a)) : Steady K (p >>= f) :=
  ⟨hp.calls.bind fun a => (hf a).calls,
    Within.bind composable_sameMark hp.mark fun a => (hf a).mark⟩

theorem Steady.attempt {p : HostProg α} (hp : Steady K p) : Steady K (attempt p) := by
  refine ⟨hp.calls.attempt, ?_⟩
  intro s o s' t hrun
  rcases hrun.attempt_cases with ⟨a, h, -⟩ | ⟨e, h, -⟩ | ⟨h, -⟩
  all_goals exact hp.mark _ _ _ _ h

theorem steady_raiseUnless {ok : Prop} {h : Decidable ok} {e : FirmwareExc} :
    Steady K (raiseUnless ok e) := by
  unfold raiseUnless
  split
  · exact steady_ret ()
  · exact steady_raise e

theorem steady_run {argv : List String} (h : K (.command argv)) : Steady K (run argv) :=
  (steady_call h).bind fun _ => steady_raiseUnless.bind fun _ => steady_ret _

theorem tame_query {q : HostQuery} (h : q.isPlain = true) : TameProg (call q) :=
  steady_call (HostQuery.tame_of_isPlain h)

theorem tame_sha256File (python : Python) (path : String) :
    TameProg (sha256File python path) :=
  (tame_query rfl).bind fun _ => steady_ret _

end Rules

/-! ### The checks of files -/

theorem tame_loadJson (path : String) : TameProg (loadJson path) := by
  refine (Steady.attempt (tame_query rfl)).bind fun r => ?_
  match r with
  | .error e => exact steady_raise _
  | .ok (.obj fields) => exact steady_ret fields
  | .ok .null | .ok (.bool _) | .ok (.int _) | .ok (.float _) | .ok (.str _) | .ok (.list _) =>
      exact steady_raise _

theorem tame_loadProfile (path : String) : TameProg (loadProfile path) :=
  (tame_loadJson path).bind fun _ => steady_ofExcept _

theorem tame_verifyArtifact (python : Python) (profile : FirmwareProfile)
    (firmware : String) : TameProg (verifyArtifact python profile firmware) := by
  refine (tame_query rfl).bind fun _ => steady_raiseUnless.bind fun _ => ?_
  refine (tame_query rfl).bind fun _ => steady_raiseUnless.bind fun _ => ?_
  refine (tame_sha256File python firmware).bind fun _ => ?_
  exact steady_raiseUnless.bind fun _ => steady_ret _

theorem tame_hasBackupFiles (manifest image : String) :
    TameProg (hasBackupFiles manifest image) := by
  refine (tame_query rfl).bind fun present => ?_
  split
  · exact tame_query rfl
  · exact steady_ret false

theorem tame_verifyStockBackup (python : Python) (profile : FirmwareProfile)
    (directory : String) : TameProg (verifyStockBackup python profile directory) := by
  refine (tame_hasBackupFiles _ _).bind fun _ => steady_raiseUnless.bind fun _ => ?_
  refine (tame_loadJson _).bind fun data => ?_
  refine steady_raiseUnless.bind fun _ => steady_raiseUnless.bind fun _ => ?_
  refine steady_raiseUnless.bind fun _ => steady_raiseUnless.bind fun _ => ?_
  refine (steady_ofExcept _).bind fun _ => steady_raiseUnless.bind fun _ => ?_
  refine (tame_sha256File python _).bind fun _ => (tame_query rfl).bind fun _ => ?_
  refine steady_raiseUnless.bind fun _ => steady_raiseUnless.bind fun _ => ?_
  refine steady_raiseUnless.bind fun _ => steady_raiseUnless.bind fun _ => ?_
  exact steady_ret _

theorem tame_verifyProgrammedReadback (python : Python) (profile : FirmwareProfile)
    (path : String) : TameProg (verifyProgrammedReadback python profile path) := by
  refine (tame_query rfl).bind fun _ => steady_raiseUnless.bind fun _ => ?_
  refine (tame_query rfl).bind fun _ => steady_raiseUnless.bind fun _ => ?_
  refine (tame_sha256File python path).bind fun _ => ?_
  exact steady_raiseUnless.bind fun _ => steady_ret _

/-! ### The bootloader -/

namespace Bootloader

theorem control_harmless (i : Installation) (boot : Bootloader) (operation : String) :
    (HostQuery.command (boot.control i operation)).Harmless :=
  harmless_command (by simp [control])

theorem enter_harmless (i : Installation) (boot : Bootloader) : HarmlessProg (boot.enter i) := by
  refine (steady_run (control_harmless i boot _)).calls.bind fun _ => ?_
  refine (callsOnly_modify _).bind fun _ => (tame_query rfl).harmless.bind fun _ => ?_
  refine (steady_run (harmless_command (by simp))).calls.bind fun info => ?_
  exact steady_raiseUnless.calls

theorem restartApplication_harmless (i : Installation) (boot : Bootloader) :
    HarmlessProg (boot.restartApplication i) := by
  refine callsOnly_get.bind fun s => ?_
  split
  · refine (steady_run (control_harmless i boot _)).calls.bind fun _ => ?_
    exact (callsOnly_modify _).bind fun _ => (tame_query rfl).harmless
  · exact callsOnly_ret ()

theorem cleanup_harmless (i : Installation) (boot : Bootloader) :
    HarmlessProg (boot.cleanup i) := by
  refine callsOnly_get.bind fun s => ?_
  split
  · refine (callsOnly_call (control_harmless i boot _)).bind fun _ => ?_
    exact (callsOnly_modify _).bind fun _ => (tame_query rfl).harmless
  · exact callsOnly_ret ()

theorem init_harmless (device targetId expectedVersion expectedDevice : String) :
    HarmlessProg (init device targetId expectedVersion expectedDevice) :=
  (callsOnly_modify _).bind fun _ => callsOnly_ret _

end Bootloader

namespace QualifiedFlash

/-! ### Before anything is touched -/

theorem tame_requireTool (names : List String) : TameProg (requireTool names) := by
  induction names with
  | nil => exact steady_ret ()
  | cons name names ih =>
      exact (tame_query rfl).bind fun _ => steady_raiseUnless.bind fun _ => ih

theorem tame_requireRoot : TameProg requireRoot :=
  (tame_query rfl).bind fun _ => steady_raiseUnless

theorem tame_loadManifest (path message : String) :
    TameProg (loadManifest path message) := by
  refine (Steady.attempt (tame_query rfl)).bind fun r => ?_
  cases r with
  | error e => exact steady_raise _
  | ok data => exact steady_ret data

theorem tame_verifySupportFile (i : Installation) (entries : List (String × Json))
    (rel : String) : TameProg (verifySupportFile i entries rel) := by
  unfold verifySupportFile
  split
  · refine (tame_query rfl).bind fun _ => steady_raiseUnless.bind fun _ => ?_
    exact (tame_sha256File _ _).bind fun _ => steady_raiseUnless
  · exact steady_raise _

theorem tame_verifyCorePin (i : Installation) (expected : String) :
    TameProg (verifyCorePin i expected) := by
  refine (tame_loadManifest _ _).bind fun data => (steady_ofExcept _).bind fun _ => ?_
  refine steady_raiseUnless.bind fun _ => (steady_ofExcept _).bind fun _ => ?_
  refine (steady_ofExcept _).bind fun _ => (steady_ofExcept _).bind fun entries => ?_
  refine (tame_verifySupportFile i entries _).bind fun _ => ?_
  exact (tame_verifySupportFile i entries _).bind fun _ => tame_verifySupportFile i entries _

theorem tame_loadTarget (i : Installation) (targetId : String) :
    TameProg (loadTarget i targetId) := by
  refine (tame_loadManifest _ _).bind fun data => (steady_ofExcept _).bind fun _ => ?_
  refine (steady_ofExcept _).bind fun _ => (steady_ofExcept _).bind fun ids => ?_
  split
  · exact steady_ret _
  · exact steady_raise _

/-! ### The owners of the modem -/

theorem tame_stopOwners (units : List String) : TameProg (stopOwners units) := by
  induction units with
  | nil => exact steady_ret ()
  | cons unit units ih =>
      refine (steady_call (tame_command (by simp) (by simp))).bind fun _ => ?_
      dsimp only
      split
      · refine Steady.bind (steady_modify fun _ => rfl) fun _ => ?_
        exact (steady_call (tame_command (by simp) (by simp))).bind fun _ => ih
      · exact ih

theorem tame_startOwners (units : List String) : TameProg (startOwners units) := by
  induction units with
  | nil => exact steady_ret ()
  | cons unit units ih =>
      exact (steady_call (tame_command (by simp) (by simp))).bind fun _ => ih

theorem tame_uartBusy (device : String) : TameProg (uartBusy device) :=
  (steady_call (tame_command (by simp) (by simp))).bind fun _ => steady_ret _

/-! ### The running firmware and the backups -/

theorem tame_probeIdentity (i : Installation) (device targetId : String) :
    TameProg (probeIdentity i device targetId) := by
  refine (steady_run (tame_command (by simp) (by simp))).bind fun proc => ?_
  refine (Steady.attempt (tame_query rfl)).bind fun r => ?_
  cases r with
  | error e => exact steady_raise _
  | ok result =>
      refine (steady_ofExcept _).bind fun result => ?_
      refine steady_raiseUnless.bind fun _ => steady_raiseUnless.bind fun _ => ?_
      split
      · exact steady_raiseUnless.bind fun _ => steady_ret _
      · exact steady_raise _

theorem tame_readFlash (profile : FirmwareProfile) (device output : String) (size : ℕ) :
    TameProg (run (readFlash profile device output size)) :=
  steady_run (tame_command (by simp [readFlash]) (by simp [readFlash]))

theorem harmless_captureStock (i : Installation) (profile : FirmwareProfile)
    (device identity directory : String) (boot : Bootloader) :
    HarmlessProg (captureStock i profile device identity directory boot) := by
  refine (boot.enter_harmless i).bind fun _ => ?_
  refine (tame_readFlash profile device _ _).harmless.bind fun _ => ?_
  refine (tame_query rfl).harmless.bind fun _ => ?_
  refine (tame_readFlash profile device _ _).harmless.bind fun _ => ?_
  refine (tame_query rfl).harmless.bind fun _ => ?_
  refine (tame_query rfl).harmless.bind fun _ => (tame_query rfl).harmless.bind fun _ => ?_
  refine steady_raiseUnless.calls.bind fun _ => (tame_sha256File _ _).harmless.bind fun digest => ?_
  refine (tame_query rfl).harmless.bind fun _ => steady_raiseUnless.calls.bind fun _ => ?_
  refine steady_raiseUnless.calls.bind fun _ => (tame_query rfl).harmless.bind fun _ => ?_
  refine (tame_query rfl).harmless.bind fun _ => (tame_query rfl).harmless.bind fun captured => ?_
  -- the manifest of a backup is no ready record
  refine (callsOnly_call ⟨id, ?_⟩).bind fun _ => (tame_query rfl).harmless
  simp [HostQuery.isReadyRecord, backupManifest]

theorem harmless_makeStockBackup (i : Installation) (profile : FirmwareProfile) (target : Json)
    (device identity : String) :
    HarmlessProg (makeStockBackup i profile target device identity) := by
  refine (callsOnly_ofExcept _).bind fun _ => steady_raiseUnless.calls.bind fun _ => ?_
  refine (tame_query rfl).harmless.bind fun timestamp => (tame_query rfl).harmless.bind fun _ => ?_
  refine (tame_query rfl).harmless.bind fun _ => ?_
  refine (Bootloader.init_harmless _ _ _ _).bind fun boot => ?_
  refine ((harmless_captureStock i profile device identity _ boot).finallyDo
    (boot.cleanup_harmless i)).bind fun _ => ?_
  refine (tame_query rfl).harmless.bind fun _ => (tame_query rfl).harmless.bind fun _ => ?_
  exact (tame_verifyStockBackup _ _ _).harmless.bind fun _ => callsOnly_ret _

theorem tame_onlyDirs (paths : List String) : TameProg (onlyDirs paths) := by
  induction paths with
  | nil => exact steady_ret []
  | cons path paths ih =>
      exact (tame_query rfl).bind fun _ => ih.bind fun _ => steady_ret _

theorem tame_candidatesIn (base : String) : TameProg (candidatesIn base) := by
  refine (tame_query rfl).bind fun present => ?_
  split
  · exact (tame_query rfl).bind fun paths => tame_onlyDirs paths
  · exact steady_ret []

theorem tame_withMtimes (paths : List String) : TameProg (withMtimes paths) := by
  induction paths with
  | nil => exact steady_ret []
  | cons path paths ih =>
      exact (tame_query rfl).bind fun _ => ih.bind fun _ => steady_ret _

theorem tame_firstVerified (i : Installation) (profile : FirmwareProfile)
    (candidates : List String) : TameProg (firstVerified i profile candidates) := by
  induction candidates with
  | nil => exact steady_ret none
  | cons candidate candidates ih =>
      refine (tame_verifyStockBackup _ _ _).attempt.bind fun r => ?_
      cases r with
      | ok digest => exact steady_ret _
      | error e =>
          dsimp only
          split
          · exact ih
          · exact steady_raise e

theorem tame_findVerifiedStockBackup (i : Installation) (profile : FirmwareProfile) :
    TameProg (findVerifiedStockBackup i profile) :=
  (tame_candidatesIn _).bind fun _ => (tame_candidatesIn _).bind fun _ =>
    (tame_withMtimes _).bind fun _ => tame_firstVerified i profile _

theorem harmless_selectBackup (i : Installation) (args : FlashArgs) (profile : FirmwareProfile)
    (target : Json) (identity : String) :
    HarmlessProg (selectBackup i args profile target identity) := by
  unfold selectBackup
  split
  · exact (tame_verifyStockBackup _ _ _).harmless.bind fun _ => callsOnly_ret _
  · refine (callsOnly_ofExcept _).bind fun stock => ?_
    split
    · exact (harmless_makeStockBackup _ _ _ _ _).bind fun _ => callsOnly_ret _
    · exact (tame_findVerifiedStockBackup i profile).harmless

theorem tame_readbackProduct (i : Installation) (profile : FirmwareProfile)
    (device output : String) : TameProg (readbackProduct i profile device output) :=
  (tame_readFlash profile device output _).bind fun _ => (tame_query rfl).bind fun _ =>
    tame_verifyProgrammedReadback _ _ _

theorem tame_input : TameProg input := by
  refine (tame_query rfl).bind fun line => ?_
  cases line with
  | none => exact steady_raise _
  | some line => exact steady_ret _

end QualifiedFlash

end YwdTnc
