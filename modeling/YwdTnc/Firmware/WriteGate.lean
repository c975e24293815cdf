import YwdTnc.Firmware.Harmless

/-!
# The gate before a write

Main flash is written once at most, and only after the token, the artifact, the stock
backup, the operator and the bootloader were all found in order. The firmware is declared
ready only after its read-back was verified and the restarted firmware answered with the
expected identity. Both front ends pass through the same gate: they issue the same commands.
-/

namespace YwdTnc

open Interaction Prog Host QualifiedFlash

/-! ### What the gate asks for -/

/-- The bootloader that the tool expects. -/
def expectedBootloader (args : FlashArgs) (profile : FirmwareProfile) : Bootloader :=
  ⟨args.device, profile.targetId, profile.expectedBootloaderVersion.toLower,
    profile.expectedDeviceId.toLower⟩

/-- A history without a write. -/
def Clean (h : List HostCall) : Prop := ∀ c ∈ h, ¬ c.query.isWrite

/-- The profile, the target and the identity of the running firmware, and no write yet. -/
structure Identified (i : Installation) (args : FlashArgs) (profile : FirmwareProfile)
    (target : Json) (identity : String) (h : List HostCall) : Prop where
  clean : Clean h
  loaded : Succeeded (loadProfile i.profilePath) profile h
  found : Succeeded (loadTarget i profile.targetId) target h
  probed : Succeeded (probeIdentity i args.device profile.targetId) identity h

/-- What comes before a write. -/
structure Authorized (i : Installation) (args : FlashArgs) (profile : FirmwareProfile)
    (target : Json) (identity directory : String) (h : List HostCall) : Prop
    extends Identified i args profile target identity h where
  token : args.authorize = profile.flashAuthorizationToken
  artifact : ∃ digest,
    Succeeded (verifyArtifact i.python profile (firmwarePath i args profile)) digest h
  selected : Succeeded (selectBackup i args profile target identity) (some directory) h
  backup : ∃ digest, Succeeded (verifyStockBackup i.python profile directory) digest h
  confirmed : ∃ line, ⟨.confirmation, some (.ok (some line))⟩ ∈ h ∧
    strip line = profile.finalWriteConfirmation
  entered : Succeeded ((expectedBootloader args profile).enter i) () h

/-- A read-back that passed and a restart. -/
structure Verified (i : Installation) (args : FlashArgs) (profile : FirmwareProfile)
    (h : List HostCall) : Prop where
  readback : ∃ output digest, Succeeded (readbackProduct i profile args.device output) digest h
  restarted : ∃ proc : CompletedProcess, proc.returncode = 0 ∧
    ⟨.command ((expectedBootloader args profile).control i "application-restart"),
      some (.ok proc)⟩ ∈ h

/-- What comes before the ready record: a verified read-back and a restart, and after
them a probe that found the expected identity. -/
def ReadyToRecord (i : Installation) (args : FlashArgs) (h : List HostCall) : Prop :=
  ∃ profile u v, Succeeded (loadProfile i.profilePath) profile h ∧ h = u ++ v ∧
    Verified i args profile u ∧
    Succeeded (probeIdentity i args.device profile.targetId) profile.expectedIdentity v

/-- What may be asked after a history. -/
def Permitted (i : Installation) (args : FlashArgs) (h : List HostCall) (q : HostQuery) :
    Prop :=
  (q.isWrite → ∃ profile target identity directory,
    q = .command (writeFlash (firmwarePath i args profile) args.device) ∧
      Authorized i args profile target identity directory h) ∧
  (q.isReadyRecord → ReadyToRecord i args h)

variable {i : Installation} {args : FlashArgs} {profile : FirmwareProfile} {target : Json}
  {identity : String} {h t : List HostCall} {s s' : HostState}

theorem permitted_of_harmless {q : HostQuery} (hq : q.Harmless) : Permitted i args h q :=
  ⟨fun hwrite => absurd hwrite hq.1, fun hready => absurd hready hq.2⟩

theorem guarded_of_harmless {α : Type} {p : HostProg α} (hp : HarmlessProg p) :
    Guarded (Permitted i args) h s p :=
  CallsOnly.guarded hp fun _ _ => permitted_of_harmless

/-- A harmless part, and what follows it when it returns. -/
theorem guarded_bind {α β : Type} {p : HostProg α} {f : α → HostProg β} (hp : HarmlessProg p)
    (hf : ∀ a s' t, Runs p s (.returned a) s' t → Clean t →
      Guarded (Permitted i args) (h ++ t) s' (f a)) :
    Guarded (Permitted i args) h s (p >>= f) := by
  refine (guarded_of_harmless hp).bind fun a s' t hrun => hf a s' t hrun fun c hc => ?_
  exact (hp s (.returned a) s' t hrun c hc).1

theorem Clean.append (hh : Clean h) (ht : Clean t) : Clean (h ++ t) := by
  intro c hc
  rcases List.mem_append.1 hc with hc | hc
  · exact hh c hc
  · exact ht c hc

theorem Identified.append (hid : Identified i args profile target identity h)
    (ht : Clean t) : Identified i args profile target identity (h ++ t) where
  clean := hid.clean.append ht
  loaded := hid.loaded.append t
  found := hid.found.append t
  probed := hid.probed.append t

/-! ### What a step that returned has shown -/

theorem runs_raiseUnless {ok : Prop} {hok : Decidable ok} {e : FirmwareExc} {u : Unit}
    (hrun : Runs (raiseUnless ok e) s (.returned u) s' t) : ok ∧ s' = s ∧ t = [] := by
  unfold raiseUnless at hrun
  split at hrun
  · next hyes =>
      obtain ⟨-, hs, ht⟩ := runs_ret.1 hrun
      exact ⟨hyes, hs, ht⟩
  · cases (runs_raise.1 hrun).1

/-- A command that `run` accepted. -/
theorem runs_run {argv : List String} {proc : CompletedProcess}
    (hrun : Runs (run argv) s (.returned proc) s' t) :
    proc.returncode = 0 ∧ s' = s ∧ t = [⟨.command argv, some (.ok proc)⟩] := by
  obtain ⟨proc', s₁, t₁, t₂, hcmd, hrest, rfl⟩ := hrun.bind_returned
  obtain ⟨rfl, rfl⟩ := hcmd.call_returned
  obtain ⟨u, s₂, t₃, t₄, hcheck, hret, rfl⟩ := hrest.bind_returned
  obtain ⟨hzero, rfl, rfl⟩ := runs_raiseUnless hcheck
  obtain ⟨ho, rfl, rfl⟩ := runs_ret.1 hret
  cases ho
  exact ⟨hzero, rfl, rfl⟩

theorem runs_input {response : String}
    (hrun : Runs input s (.returned response) s' t) :
    ∃ line, t = [⟨.confirmation, some (.ok (some line))⟩] ∧ response = strip line := by
  obtain ⟨line, s₁, t₁, t₂, hcall, hrest, rfl⟩ := hrun.bind_returned
  obtain ⟨rfl, rfl⟩ := hcall.call_returned
  cases line with
  | none => cases (runs_raise.1 hrest).1
  | some line =>
      obtain ⟨ho, -, rfl⟩ := runs_ret.1 hrest
      cases ho
      exact ⟨line, rfl, rfl⟩

/-! ### Helpers that leave the state alone -/

theorem composable_keeps : Composable fun s s' : HostState => s' = s where
  refl _ := rfl
  trans h₁ h₂ := h₂.trans h₁

/-- A program that keeps the state. -/
abbrev Keeps {α : Type} (p : HostProg α) : Prop := Within (fun s s' : HostState => s' = s) p

theorem keeps_query (q : HostQuery) : Keeps (call q) := within_call composable_keeps q

theorem keeps_ret {α : Type} (a : α) : Keeps (ret a) := within_ret composable_keeps a

theorem Keeps.bind {α β : Type} {p : HostProg α} {f : α → HostProg β} (hp : Keeps p)
    (hf : ∀ a, Keeps (f a)) : Keeps (p >>= f) :=
  Within.bind composable_keeps hp hf

theorem keeps_raiseUnless {ok : Prop} {hok : Decidable ok} {e : FirmwareExc} :
    Keeps (raiseUnless ok e) := by
  unfold raiseUnless
  split
  · exact keeps_ret ()
  · exact within_raise composable_keeps e

theorem keeps_run (argv : List String) : Keeps (run argv) :=
  (keeps_query _).bind fun _ => keeps_raiseUnless.bind fun _ => keeps_ret _

theorem keeps_readbackProduct (i : Installation) (profile : FirmwareProfile)
    (device output : String) : Keeps (readbackProduct i profile device output) := by
  refine (keeps_run _).bind fun _ => (keeps_query _).bind fun _ => ?_
  refine (keeps_query _).bind fun _ => keeps_raiseUnless.bind fun _ => ?_
  refine (keeps_query _).bind fun _ => keeps_raiseUnless.bind fun _ => ?_
  refine Keeps.bind ((keeps_query _).bind fun _ => keeps_ret _) fun _ => ?_
  exact keeps_raiseUnless.bind fun _ => keeps_ret _

/-! ### The bootloader in use -/

/-- The bootloader is in use once it has been accepted. -/
theorem runs_enter {boot : Bootloader} {u : Unit}
    (hrun : Runs (boot.enter i) s (.returned u) s' t) : s'.bootloaderActive = true := by
  obtain ⟨proc, s₁, t₁, t₂, -, hrest, -⟩ := hrun.bind_returned
  have hkeeps : Keeps (do
      sleep (1 / 2)
      let info ← run ["stm32flash", "-b", "115200", boot.device]
      let text := info.stdout ++ info.stderr
      let version := grab "Version" text
      let deviceId := grab "Device ID" text
      raiseUnless (version = boot.expectedVersion ∧ deviceId = boot.expectedDevice)
        (.flashError ("STM32 bootloader identity mismatch: version=" ++
          (if version = "" then "UNKNOWN" else version) ++ " device=" ++
          (if deviceId = "" then "UNKNOWN" else deviceId)))) :=
    (keeps_query _).bind fun _ => (keeps_run _).bind fun _ => keeps_raiseUnless
  rw [hkeeps _ _ _ _ hrest.modify_bind]

theorem runs_init {device targetId expectedVersion expectedDevice : String} {boot : Bootloader}
    (hrun : Runs (Bootloader.init device targetId expectedVersion expectedDevice) s
      (.returned boot) s' t) :
    boot = ⟨device, targetId, expectedVersion.toLower, expectedDevice.toLower⟩ := by
  obtain ⟨ho, -⟩ := runs_ret.1 hrun.modify_bind
  cases ho
  rfl

/-- A bootloader in use is left by a restart. -/
theorem runs_restartApplication {boot : Bootloader} {u : Unit} (hactive : s.bootloaderActive = true)
    (hrun : Runs (boot.restartApplication i) s (.returned u) s' t) :
    ∃ proc : CompletedProcess, proc.returncode = 0 ∧
      ⟨.command (boot.control i "application-restart"), some (.ok proc)⟩ ∈ t := by
  have hrun := hrun.get_bind
  rw [if_pos hactive] at hrun
  obtain ⟨proc, s₁, t₁, t₂, hcommand, -, rfl⟩ := hrun.bind_returned
  obtain ⟨hzero, -, rfl⟩ := runs_run hcommand
  exact ⟨proc, hzero, List.mem_cons_self ..⟩

/-! ### The flow of a write -/

theorem Verified.prepend (hv : Verified i args profile h) (t : List HostCall) :
    Verified i args profile (t ++ h) := by
  obtain ⟨⟨output, digest, hread⟩, proc, hzero, hrestart⟩ := hv
  exact ⟨⟨output, digest, hread.prepend t⟩, proc, hzero, List.mem_append_right t hrestart⟩

theorem Verified.append (hv : Verified i args profile h) (t : List HostCall) :
    Verified i args profile (h ++ t) := by
  obtain ⟨⟨output, digest, hread⟩, proc, hzero, hrestart⟩ := hv
  exact ⟨⟨output, digest, hread.append t⟩, proc, hzero, List.mem_append_left t hrestart⟩

/-- The read-back and the restart at the end of both branches of `program`. -/
theorem verified_of_restart {readback : String} {a b : Bool}
    (hactive : s.bootloaderActive = true)
    (hrun : Runs (do
        let _ ← readbackProduct i profile args.device readback
        (expectedBootloader args profile).restartApplication i
        return a : HostProg Bool) s (.returned b) s' t) :
    Verified i args profile t := by
  obtain ⟨digest, s₁, t₁, t₂, hread, hrest, rfl⟩ := hrun.bind_returned
  have hs := keeps_readbackProduct _ _ _ _ _ _ _ _ hread
  obtain ⟨u, s₂, t₃, t₄, hrestart, -, rfl⟩ := hrest.bind_returned
  obtain ⟨proc, hzero, hmem⟩ := runs_restartApplication (hs ▸ hactive) hrestart
  exact ⟨⟨readback, digest, hread.succeeded [] _⟩, proc, hzero,
    List.mem_append_right t₁ (List.mem_append_left t₄ hmem)⟩

/-- What `main` has settled when it begins to program. -/
structure Prepared (i : Installation) (args : FlashArgs) (profile : FirmwareProfile)
    (target : Json) (identity : String) (backupDir : Option String) (h : List HostCall) : Prop
    extends Identified i args profile target identity h where
  token : args.authorize = profile.flashAuthorizationToken
  artifact : ∃ digest,
    Succeeded (verifyArtifact i.python profile (firmwarePath i args profile)) digest h
  selected : Succeeded (selectBackup i args profile target identity) backupDir h

theorem Prepared.append {backupDir : Option String}
    (hprep : Prepared i args profile target identity backupDir h) (ht : Clean t) :
    Prepared i args profile target identity backupDir (h ++ t) := by
  obtain ⟨digest, hartifact⟩ := hprep.artifact
  exact ⟨hprep.toIdentified.append ht, hprep.token, ⟨digest, hartifact.append t⟩,
    hprep.selected.append t⟩

theorem guarded_run {argv : List String} (hq : Permitted i args h (.command argv)) :
    Guarded (Permitted i args) h s (run argv) := by
  refine (guarded_call hq).bind fun _ _ _ _ => ?_
  exact guarded_bind steady_raiseUnless.calls fun _ _ _ _ _ => guarded_ret _

theorem harmless_verify (i : Installation) (args : FlashArgs) (profile : FirmwareProfile)
    (boot : Bootloader) (readback : String) (b : Bool) : HarmlessProg (do
      let _ ← readbackProduct i profile args.device readback
      boot.restartApplication i
      return b) :=
  (tame_readbackProduct _ _ _ _).harmless.bind fun _ =>
    (boot.restartApplication_harmless i).bind fun _ => callsOnly_ret b

theorem program_guarded {backupDir : Option String} {readback : String}
    (hprep : Prepared i args profile target identity backupDir h) :
    Guarded (Permitted i args) h s (program i args profile (firmwarePath i args profile)
      identity backupDir (expectedBootloader args profile) readback) := by
  unfold program
  split
  · refine guarded_bind (Bootloader.enter_harmless _ _) fun _ _ _ _ _ => ?_
    exact guarded_of_harmless (harmless_verify _ _ _ _ _ _)
  cases backupDir with
  | none => exact guarded_raise _
  | some directory =>
      refine guarded_bind (tame_verifyStockBackup _ _ _).harmless
        fun digest s₁ t₁ hbackup hclean₁ => ?_
      refine guarded_bind tame_input.harmless fun response s₂ t₂ hinput hclean₂ => ?_
      refine guarded_bind steady_raiseUnless.calls fun _ s₃ t₃ hconfirmed hclean₃ => ?_
      refine guarded_bind (Bootloader.enter_harmless _ _)
        fun _ s₄ t₄ hentered hclean₄ => ?_
      obtain ⟨line, hline, rfl⟩ := runs_input hinput
      have hauth : Authorized i args profile target identity directory
          (h ++ t₁ ++ t₂ ++ t₃ ++ t₄) :=
        { (((hprep.append hclean₁).append hclean₂).append hclean₃).append hclean₄ with
          backup := ⟨digest, by simpa using hbackup.succeeded h (t₂ ++ t₃ ++ t₄)⟩
          confirmed := ⟨line, by simp [hline], (runs_raiseUnless hconfirmed).1⟩
          entered := by simpa using hentered.succeeded (h ++ t₁ ++ t₂ ++ t₃) [] }
      refine (guarded_run ⟨fun _ => ⟨profile, target, identity, directory, rfl, hauth⟩,
        False.elim⟩).bind fun _ _ _ _ => ?_
      exact guarded_of_harmless (harmless_verify _ _ _ _ _ _)

theorem program_verified {firmware : String} {backupDir : Option String} {readback : String}
    {b : Bool} (hrun : Runs (program i args profile firmware identity backupDir
      (expectedBootloader args profile) readback) s (.returned b) s' t) :
    Verified i args profile t := by
  unfold program at hrun
  split at hrun
  · obtain ⟨u, s₁, t₁, t₂, henter, hrest, rfl⟩ := hrun.bind_returned
    exact (verified_of_restart (runs_enter henter) hrest).prepend t₁
  cases backupDir with
  | none => cases (runs_raise.1 hrun).1
  | some directory =>
      obtain ⟨digest, s₁, t₁, t₂, -, hinput, rfl⟩ := hrun.bind_returned
      obtain ⟨response, s₂, t₃, t₄, -, hconfirm, rfl⟩ := hinput.bind_returned
      obtain ⟨_, s₃, t₅, t₆, -, henter, rfl⟩ := hconfirm.bind_returned
      obtain ⟨_, s₄, t₇, t₈, hentered, hwrite, rfl⟩ := henter.bind_returned
      obtain ⟨proc, s₅, t₉, t₁₀, hwritten, hrest, rfl⟩ := hwrite.bind_returned
      obtain ⟨-, rfl, -⟩ := runs_run hwritten
      have hverified := verified_of_restart (runs_enter hentered) hrest
      exact ((((hverified.prepend t₉).prepend t₇).prepend t₅).prepend t₃).prepend t₁

/-! ### The runs of the qualified tool -/

theorem guarded_writeReadyRecord {backupDir : Option String} {b : Bool}
    (hready : ∀ t : List HostCall, ReadyToRecord i args (h ++ t)) :
    Guarded (Permitted i args) h s (writeReadyRecord profile identity backupDir b) := by
  refine guarded_bind (tame_query rfl).harmless fun _ _ t₁ _ _ => ?_
  refine guarded_bind (tame_query rfl).harmless fun created _ t₂ _ _ => ?_
  refine Guarded.bind (guarded_call ⟨False.elim, fun _ => ?_⟩) fun _ _ _ _ => ?_
  · rw [List.append_assoc]
    exact hready (t₁ ++ t₂)
  · exact guarded_of_harmless (tame_query rfl).harmless

theorem flash_guarded (hid : Identified i args profile target identity h) :
    Guarded (Permitted i args) h s
      (flash i args profile target (firmwarePath i args profile) identity) := by
  refine guarded_bind steady_raiseUnless.calls fun _ s₁ t₁ hcheck hclean₁ => ?_
  refine guarded_bind (tame_verifyArtifact _ _ _).harmless
    fun digest s₂ t₂ hartifact hclean₂ => ?_
  refine guarded_bind (harmless_selectBackup _ _ _ _ _)
    fun backupDir s₃ t₃ hselected hclean₃ => ?_
  have hprep : Prepared i args profile target identity backupDir (h ++ t₁ ++ t₂ ++ t₃) :=
    { ((hid.append hclean₁).append hclean₂).append hclean₃ with
      token := (runs_raiseUnless hcheck).1
      artifact := ⟨digest, hartifact.succeeded (h ++ t₁) t₃⟩
      selected := by simpa using hselected.succeeded (h ++ t₁ ++ t₂) [] }
  refine guarded_bind (Bootloader.init_harmless _ _ _ _) fun boot s₄ t₄ hinit hclean₄ => ?_
  obtain rfl := runs_init hinit
  refine guarded_bind (tame_query rfl).harmless fun readback s₅ t₅ _ hclean₅ => ?_
  have hprogram : Guarded (Permitted i args) (h ++ t₁ ++ t₂ ++ t₃ ++ t₄ ++ t₅) s₅
      (program i args profile (firmwarePath i args profile) identity backupDir
        (expectedBootloader args profile) readback) :=
    program_guarded ((hprep.append hclean₄).append hclean₅)
  refine (hprogram.finallyDo fun _ _ _ _ => ?_).bind fun flashWritten s₆ t₆ hdone => ?_
  · refine guarded_bind (Bootloader.cleanup_harmless _ _) fun _ _ _ _ _ => ?_
    exact guarded_of_harmless (tame_query rfl).harmless
  obtain ⟨s₇, t₇, t₈, hreturned, -, rfl⟩ := hdone.finallyDo_returned
  refine guarded_bind (tame_probeIdentity _ _ _).harmless fun postIdentity s₈ t₉ hprobe _ => ?_
  refine guarded_bind steady_raiseUnless.calls fun _ s₉ t₁₀ hsame _ => ?_
  obtain ⟨rfl, -, -⟩ := runs_raiseUnless hsame
  refine Guarded.bind (guarded_writeReadyRecord fun t => ?_) fun _ _ _ _ => guarded_ret 0
  have hverified := ((program_verified hreturned).append t₈).prepend
    (h ++ t₁ ++ t₂ ++ t₃ ++ t₄ ++ t₅)
  refine ⟨profile, _, t₉ ++ (t₁₀ ++ t), ?_, ?_, hverified, hprobe.succeeded [] _⟩
  · simp only [List.append_assoc]
    exact hid.loaded.append _
  · simp only [List.append_assoc]

theorem operate_guarded (hclean : Clean h)
    (hloaded : Succeeded (loadProfile i.profilePath) profile h)
    (hfound : Succeeded (loadTarget i profile.targetId) target h) :
    Guarded (Permitted i args) h s (operate i args profile target) := by
  refine guarded_bind (tame_probeIdentity _ _ _).harmless fun identity s₁ t₁ hprobed hclean₁ => ?_
  have hid : Identified i args profile target identity (h ++ t₁) :=
    { clean := hclean.append hclean₁
      loaded := hloaded.append t₁
      found := hfound.append t₁
      probed := by simpa using hprobed.succeeded h [] }
  refine guarded_bind (callsOnly_ofExcept _) fun accepted s₂ t₂ _ hclean₂ => ?_
  refine guarded_bind steady_raiseUnless.calls fun _ s₃ t₃ _ hclean₃ => ?_
  cases args.mode with
  | probe => exact guarded_ret 0
  | backup =>
      refine guarded_of_harmless ?_
      exact (harmless_makeStockBackup _ _ _ _ _).bind fun _ => callsOnly_ret 0
  | flash => exact flash_guarded ((hid.append hclean₂).append hclean₃)

theorem guarded_stoppedKnownModemOwners {α : Type} {device : String} {restore : Bool}
    {body : HostProg α} (hbody : ∀ s t, Clean t → Guarded (Permitted i args) (h ++ t) s body) :
    Guarded (Permitted i args) h s (stoppedKnownModemOwners device restore body) := by
  refine guarded_bind (callsOnly_modify _) fun _ s₁ t₁ _ hclean₁ => ?_
  refine Guarded.finallyDo ?_ fun o s₂ t₂ _ => guarded_of_harmless ?_
  · refine guarded_bind (tame_stopOwners _).harmless fun _ _ t₂ _ hclean₂ => ?_
    refine guarded_bind (tame_query rfl).harmless fun _ _ t₃ _ hclean₃ => ?_
    refine guarded_bind (tame_uartBusy _).harmless fun busy _ t₄ _ hclean₄ => ?_
    split
    · refine guarded_bind (callsOnly_call (HostQuery.harmless_command (by simp)))
        fun details _ _ _ _ => ?_
      refine (guarded_raise _).bind fun _ _ _ hraise => ?_
      cases (runs_raise.1 hraise).1
    · simp only [List.append_assoc]
      exact hbody _ _ (hclean₁.append (hclean₂.append (hclean₃.append hclean₄)))
  · refine callsOnly_get.bind fun s => ?_
    split
    · exact (tame_startOwners _).harmless
    · exact callsOnly_ret ()

theorem main_guarded : Guarded (Permitted i args) [] s (main i args) := by
  refine Guarded.except ?_ fun e s₁ t₁ _ => ?_
  · refine guarded_bind tame_requireRoot.harmless fun _ _ t₁ _ hclean₁ => ?_
    refine guarded_bind (tame_requireTool _).harmless fun _ _ t₂ _ hclean₂ => ?_
    refine guarded_bind steady_raiseUnless.calls fun _ _ t₃ _ hclean₃ => ?_
    refine guarded_bind (tame_loadProfile _).harmless fun profile _ t₄ hloaded hclean₄ => ?_
    refine guarded_bind (tame_verifyCorePin _ _).harmless fun _ _ t₅ _ hclean₅ => ?_
    refine guarded_bind (tame_loadTarget _ _).harmless fun target _ t₆ hfound hclean₆ => ?_
    refine guarded_bind (tame_query rfl).harmless fun present _ t₇ _ hclean₇ => ?_
    refine guarded_bind steady_raiseUnless.calls fun _ _ t₈ _ hclean₈ => ?_
    refine guarded_stoppedKnownModemOwners fun s t hclean => ?_
    simp only [List.nil_append]
    refine operate_guarded ?_ ?_ ?_
    · exact (((((((hclean₁.append hclean₂).append hclean₃).append hclean₄).append
        hclean₅).append hclean₆).append hclean₇).append hclean₈).append hclean
    · have h := hloaded.succeeded (t₁ ++ t₂ ++ t₃) (t₅ ++ t₆ ++ t₇ ++ t₈ ++ t)
      simpa using h
    · have h := hfound.succeeded (t₁ ++ t₂ ++ t₃ ++ t₄ ++ t₅) (t₇ ++ t₈ ++ t)
      simpa using h
  · split
    · exact guarded_ret _
    · exact guarded_raise e

end YwdTnc
