import YwdTnc.Firmware.WriteGate

/-!
# Both front ends

The public front end takes the decisions of the qualified tool again, in code of its own.
It issues the same commands on the same outcomes of the environment, so its writes pass
through the same gate. The two differ only in the exceptions that end a run: at the end of
the input one of them raises `EOFError`, where the other reads an empty line.
-/

namespace YwdTnc

open Interaction Prog Host QualifiedFlash

variable {i : Installation} {stdinIsTty : Bool} {args : FlashArgs} {profile : FirmwareProfile}
  {target : Json} {identity firmware : String}

/-- An empty line confirms nothing, as an exception does. -/
theorem mirrors_confirmation {α : Type} {e : FirmwareExc} {p : HostProg α} :
    Mirrors
      (do
        let response ← FlashUi.readInteractiveConfirmation stdinIsTty
        raiseUnless (response = profile.finalWriteConfirmation) e
        p)
      (do
        let response ← input
        raiseUnless (response = profile.finalWriteConfirmation) e
        p) := by
  unfold FlashUi.readInteractiveConfirmation input
  rw [Prog.bind_assoc, Prog.bind_assoc]
  refine .attempt_bind (fun line => ?_) fun e' => ?_
  · cases line with
    | none =>
        have hempty : strip "" ≠ profile.finalWriteConfirmation := profile.confirmation_ne.symm
        have hraise : raiseUnless (strip "" = profile.finalWriteConfirmation) e = raise e :=
          if_neg hempty
        change Mirrors (raiseUnless (strip "" = profile.finalWriteConfirmation) e >>= fun _ => p)
          (raise _ >>= _)
        rw [hraise]
        exact mirrors_raise _ _
    | some line => exact .refl _
  · exact mirrors_raise _ _

theorem mirrors_program {backupDir : Option String} {boot : Bootloader} {readback : String} :
    Mirrors
      (FlashUi.program i stdinIsTty args profile firmware identity backupDir boot readback)
      (QualifiedFlash.program i args profile firmware identity backupDir boot readback) := by
  unfold FlashUi.program QualifiedFlash.program
  split
  · exact .refl _
  cases backupDir with
  | none => exact .refl _
  | some directory => exact .after fun digest => mirrors_confirmation

theorem mirrors_flash :
    Mirrors (FlashUi.flash i stdinIsTty args profile target firmware identity)
      (QualifiedFlash.flash i args profile target firmware identity) := by
  refine .after fun _ => .after fun digest => .after fun backupDir => ?_
  refine .after fun boot => .after fun readback => ?_
  exact (mirrors_program.finallyDo _).bind fun flashWritten => .refl _

theorem mirrors_operate :
    Mirrors
      (FlashUi.operate i stdinIsTty args profile target (firmwarePath i args profile))
      (QualifiedFlash.operate i args profile target) := by
  refine .after fun identity => .after fun accepted => ?_
  unfold raiseUnless
  split
  · refine .after fun _ => ?_
    cases args.mode with
    | probe => exact .refl _
    | backup => exact .refl _
    | flash => exact mirrors_flash
  · exact mirrors_raise _ _

theorem mirrors_stoppedKnownModemOwners {α : Type} {device : String} {restore : Bool}
    {p q : HostProg α} (h : Mirrors p q) :
    Mirrors (stoppedKnownModemOwners device restore p)
      (stoppedKnownModemOwners device restore q) := by
  refine .after fun _ => Mirrors.finallyDo ?_ _
  refine .after fun _ => .after fun _ => .after fun busy => ?_
  split
  · exact .after fun details => .after fun _ => h
  · exact h

/-- Both front ends ask the host the same. -/
theorem main_trace_eq (s : HostState) (env : Script HostQuery.Answer FirmwareExc) :
    ((FlashUi.main i stdinIsTty args).run s env).trace =
      ((QualifiedFlash.main i args).run s env).trace := by
  have hhandler : ∀ (e : FirmwareExc) (s : HostState)
      (env : Script HostQuery.Answer FirmwareExc),
      ((if e.isReported = true then ret 20 else raise e : HostProg ℕ).run s env).trace = [] := by
    intro e s env
    split <;> rfl
  refine Mirrors.trace_except ?_ hhandler hhandler s env
  refine .after fun _ => .after fun _ => .after fun _ => .after fun profile => ?_
  refine .after fun _ => .after fun target => .after fun present => .after fun _ => ?_
  exact mirrors_stoppedKnownModemOwners mirrors_operate

/-! ### The gate of a run -/

/-- The commands of a history. -/
def commands (t : List HostCall) : List (List String) :=
  t.filterMap fun c =>
    match c.query with
    | .command argv => some argv
    | _ => none

/-- A run that writes once at most, and nothing that its history does not warrant. -/
structure Gated (i : Installation) (args : FlashArgs) (t : List HostCall) : Prop where
  once : ∀ u c v d w, t = u ++ c :: v ++ d :: w → c.query.isWrite → ¬ d.query.isWrite
  write : ∀ u c v, t = u ++ c :: v → c.query.isWrite →
    ∃ profile target identity directory,
      c.query = .command (writeFlash (firmwarePath i args profile) args.device) ∧
        Authorized i args profile target identity directory u
  ready : ∀ u c v, t = u ++ c :: v → c.query.isReadyRecord → ReadyToRecord i args u

theorem gated_of_guarded {α : Type} {p : HostProg α}
    (hp : ∀ s, Guarded (Permitted i args) [] s p) {s s' : HostState}
    {o : Outcome FirmwareExc α} {t : List HostCall} (hrun : Runs p s o s' t) :
    Gated i args t where
  once u c v d w ht hc hd := by
    obtain ⟨profile, target, identity, directory, -, hauth⟩ :=
      (hp s o s' t hrun (u ++ c :: v) d w ht).1 hd
    exact hauth.clean c (by simp) hc
  write u c v ht hc := (hp s o s' t hrun u c v ht).1 hc
  ready u c v ht hc := (hp s o s' t hrun u c v ht).2 hc

theorem main_gated {s s' : HostState} {o : Outcome FirmwareExc ℕ} {t : List HostCall}
    (hrun : Runs (QualifiedFlash.main i args) s o s' t) : Gated i args t :=
  gated_of_guarded (fun _ => main_guarded) hrun

/-! ### A run that writes -/

/-- The fields of the product's profile that are read, for images of these sizes and digests. -/
def profileFields (artifactSize stockSize : ℤ) (artifactSha stockSha : String) :
    List (String × Json) :=
  [("schema", .int 1),
    ("product", .str "YWD-MMDVM-TNC"),
    ("series", .str "AX25R4"),
    ("qualified_core_commit", .str QUALIFIED_CORE_COMMIT),
    ("qualified_core_tree", .str QUALIFIED_CORE_TREE),
    ("target_id", .str PRODUCT_TARGET),
    ("expected_identity", .str QUALIFIED_FIRMWARE_IDENTITY),
    ("vendor_build_script", .str "firmware/build-qualified-inrepo.py"),
    ("artifact_relative_path", .str ("firmware/out/" ++
      "0c-p2-rssi-ax25r4-stm32f103-simplex-adf7021-14.7456tcxo-8mhz-hse/" ++
      "MMDVM_HS_Hat-YWD-1278-AX25R4-v0.1.0-alpha1-7ff74ed-hse8m.bin")),
    ("artifact_size_bytes", .int artifactSize),
    ("artifact_sha256", .str artifactSha),
    ("flash_base", .str "0x08000000"),
    ("programmed_readback_bytes", .int artifactSize),
    ("programmed_readback_sha256", .str artifactSha),
    ("stock_flash_size_bytes", .int stockSize),
    ("stock_flash_sha256", .str stockSha),
    ("expected_bootloader_version", .str "0x22"),
    ("expected_device_id", .str "0x0410"),
    ("flash_authorization_token", .str "FLASH-QUALIFIED-AX25R4"),
    ("final_write_confirmation", .str "WRITE-FIRMWARE-NOW"),
    ("state_record", .str "/var/lib/ywd-mmdvm-tnc/firmware-ready.json"),
    ("safety", .obj (FirmwareProfile.exactSafety.map fun entry => (entry.1, .bool entry.2)))]

/-- The digest of the file with the one octet 0xFF. -/
def erasedSha : String := "a8100ae6aa1940d0b663bb31cd466142ebbdbd5187131b92d93818987832eb89"

/-- The digest of an empty file. -/
def emptySha : String := "e3b0c44298fc1c149afbf4c8996fb92427ae41e4649b934ca495991b7852b855"

def exampleInstallation : Installation where
  python := ⟨fun _ => "", fun c => if c.isDigit then some (c.toNat - 48) else none,
    fun content => if content = [] then emptySha else erasedSha⟩
  executable := "/usr/bin/python3"
  root := "/opt/tnc"

/-- A host on which every command ends well and every file has the same content; its modem runs
`identity`. -/
def exampleHost (fields : List (String × Json)) (identity : String) (content : Bytes) :
    (q : HostQuery) → Except FirmwareExc q.Answer
  | .geteuid => .ok (0 : ℕ)
  | .stSize _ => .ok content.length
  | .which _ | .pathExists _ | .isFile _ | .isDir _ => .ok true
  | .command argv =>
      let returncode : ℤ :=
        if argv.head? = some "systemctl" ∨ argv.head? = some "fuser" then 3 else 0
      .ok (⟨returncode, "Version      : 0x22\nDevice ID    : 0x0410\n", ""⟩ : CompletedProcess)
  | .stMtime _ => .ok (0 : ℚ)
  | .iterdir _ => .ok ([] : List String)
  | .readBytes _ => .ok content
  | .readJson path =>
      .ok (if path = exampleInstallation.profilePath then .obj fields
      else if path = exampleInstallation.targets then
        .obj [("targets", .list [.obj [("id", .str PRODUCT_TARGET),
          ("stock_identities", .list [.str "stock"]),
          ("accepted_running_identities",
            .list [.str "stock", .str QUALIFIED_FIRMWARE_IDENTITY])]])]
      else if path = exampleInstallation.runtimeVendorManifest then
        .obj [("source_commit", .str QUALIFIED_CORE_COMMIT),
          ("support_files", .list
            (["hat_control.py", "probe_hat.py", "targets.json"].map fun file =>
              .obj [("path", .str ("firmware/" ++ file)),
                ("sha256", .str (exampleInstallation.python.hexdigest content))]))]
      else
        .obj [("target_id", .str PRODUCT_TARGET), ("read_passes", .int 2),
          ("two_pass_byte_identical", .bool true), ("flash_size_bytes", .int content.length),
          ("sha256", .str (exampleInstallation.python.hexdigest content))])
  | .jsonLoads _ => .ok (.obj [("matched_target_ids", .list [.str PRODUCT_TARGET]),
      ("rf_configured", .bool false), ("flash_written", .bool false),
      ("identity", .str identity)])
  | .mkdir _ _ | .chmod _ _ | .copy2 _ _ | .writeJson _ _ | .unlink _ | .sleep _ => .ok ()
  | .mkstemp => .ok "/tmp/readback.bin"
  | .localtime => .ok "20260902-120000"
  | .unixTime => .ok (0 : ℤ)
  | .confirmation => .ok (some "WRITE-FIRMWARE-NOW\n")

def reflashArgs : FlashArgs :=
  ⟨.flash, "/dev/ttyAMA0", "", "/root/stock", "FLASH-QUALIFIED-AX25R4", true⟩

/-- The product is written once more, with images of one octet. -/
theorem exampleHost_reflashes :
    let r := (QualifiedFlash.main exampleInstallation reflashArgs).run .init
      (List.replicate 80 (exampleHost (profileFields 1 1 erasedSha erasedSha)
        QUALIFIED_FIRMWARE_IDENTITY [0xFF]))
    r.outcome = .returned 0 ∧ (∃ c ∈ r.trace, c.query.isWrite) ∧
      ∃ c ∈ r.trace, c.query.isReadyRecord := by
  decide +kernel

theorem frontEnds_gated (i : Installation) (stdinIsTty : Bool) (args : FlashArgs) :
    (∀ s o s' t, Runs (QualifiedFlash.main i args) s o s' t → Gated i args t) ∧
      (∀ s o s' t, Runs (FlashUi.main i stdinIsTty args) s o s' t → Gated i args t) ∧
      ∀ s env, commands ((FlashUi.main i stdinIsTty args).run s env).trace =
        commands ((QualifiedFlash.main i args).run s env).trace := by
  refine ⟨fun s o s' t hrun => main_gated hrun, fun s o s' t hrun => ?_, fun s env => ?_⟩
  · obtain ⟨env, rest, hrun⟩ := hrun
    have htrace : t = ((QualifiedFlash.main i args).run s env).trace := by
      rw [← main_trace_eq, hrun]
    rw [htrace]
    exact main_gated (Runs.of_eq rfl)
  · rw [main_trace_eq]

theorem frontEnds_gated_reflash :
    ∃ s' t, Runs (QualifiedFlash.main exampleInstallation reflashArgs) .init (.returned 0) s' t ∧
      (∃ c ∈ t, c.query.isWrite) ∧ (∃ c ∈ t, c.query.isReadyRecord) ∧
      Gated exampleInstallation reflashArgs t := by
  obtain ⟨houtcome, hwrite, hready⟩ := exampleHost_reflashes
  have hrun := Runs.of_eq (rfl : (QualifiedFlash.main exampleInstallation reflashArgs).run .init
    (List.replicate 80 (exampleHost (profileFields 1 1 erasedSha erasedSha)
      QUALIFIED_FIRMWARE_IDENTITY [0xFF])) = _)
  rw [houtcome] at hrun
  exact ⟨_, _, hrun, hwrite, hready,
    (frontEnds_gated exampleInstallation true reflashArgs).1 _ _ _ _ hrun⟩

end YwdTnc
