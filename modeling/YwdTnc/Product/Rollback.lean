import YwdTnc.Product.ProfileCli

/-!
# Rolling a profile change back

A change that raises should leave the configuration file as it was. The old text comes from
a read in text mode, which turns every line end into a newline: it is the old file if and
only if that has no carriage return.
-/

namespace YwdTnc

open Coding

/-- A change that raises leaves the bytes of the configuration file, and one that returns
leaves them in the backup. -/
def ProfileChangeAtomic (before : ProfileFiles)
    (after : Except PyError TNCConfig × ProfileFiles) : Prop :=
  match after.1 with
  | .error _ => after.2.config.bytes = before.config.bytes
  | .ok _ => after.2.backup.map HostFile.bytes = some before.config.bytes

/-- The checks in front of the copy are passed, the file is copied, and the service does not
restart. -/
structure RestartFails (lib : ConfigLibrary) (host : ProfileHost) (path profile : String)
    (restart : Bool) (bytes : Bytes) : Prop where
  prepared : ∃ candidate, prepareProfile lib host path profile bytes = .ok candidate
  stat : host.stat = .ok ()
  copied : host.copy2 = .ok ()
  requested : restart = true
  failed : ∃ e, host.restart = .error e

variable {lib : ConfigLibrary} {host : ProfileHost} {path profile : String} {restart : Bool}

/-- It is the old file if that has no carriage return. -/
theorem encodeUtf8_original_iff {bytes : Bytes} {candidate : Candidate}
    (h : prepareProfile lib host path profile bytes = .ok candidate) :
    encodeUtf8 candidate.original = bytes ↔ 0x0D ∉ bytes := by
  obtain ⟨-, -, text, -, -, hdecode, horiginal, -, -⟩ := prepareProfile_ok h
  have hbytes := decodeUtf8_eq_some_iff.mp hdecode
  have hreturn : (0x0D : Byte) ∈ bytes ↔ '\r' ∈ text := by
    rw [← hbytes]
    exact mem_encodeUtf8_iff (c := '\r') (by decide) text
  rw [hreturn, horiginal, ← universalNewlines_eq_self_iff]
  constructor
  · intro hsame
    exact encodeUtf8_injective (hsame.trans hbytes.symm)
  · intro hsame
    rw [hsame, hbytes]

theorem installProfile_atomic_iff {candidate : Candidate} {files : ProfileFiles} :
    ProfileChangeAtomic files (installProfile host restart candidate files) ↔
      (host.copy2 = .ok () → restart = true → (∃ e, host.restart = .error e) →
        encodeUtf8 candidate.original = files.config.bytes) := by
  unfold installProfile
  cases hcopy : host.copy2 with
  | error refused => simp [ProfileChangeAtomic]
  | ok _ =>
      cases restart with
      | false => simp [ProfileChangeAtomic, ProfileFiles.atomicWrite]
      | true =>
          cases hrestart : host.restart with
          | ok _ => simp [ProfileChangeAtomic, ProfileFiles.atomicWrite]
          | error e =>
              cases hagain : host.restartAgain <;>
                simp [ProfileChangeAtomic, ProfileFiles.atomicWrite]

/-- A profile change is atomic but for a file with a carriage return whose service does not
restart. -/
theorem applyProfile_atomic_iff (lib : ConfigLibrary) (host : ProfileHost)
    (path profile : String) (restart : Bool) (files : ProfileFiles) :
    ProfileChangeAtomic files (applyProfile lib host path profile restart files) ↔
      ¬ (0x0D ∈ files.config.bytes ∧
        RestartFails lib host path profile restart files.config.bytes) := by
  unfold applyProfile
  cases hprepare : prepareProfile lib host path profile files.config.bytes with
  | error e =>
      have hfails : ¬ RestartFails lib host path profile restart files.config.bytes := by
        rintro ⟨⟨candidate, hcandidate⟩, -⟩
        rw [hprepare] at hcandidate
        cases hcandidate
      simp [ProfileChangeAtomic, hfails]
  | ok candidate =>
      cases hstat : host.stat with
      | error e =>
          have hfails : ¬ RestartFails lib host path profile restart files.config.bytes := by
            rintro ⟨-, hok, -⟩
            rw [hstat] at hok
            cases hok
          simp [ProfileChangeAtomic, hfails]
      | ok _ =>
          dsimp only
          rw [installProfile_atomic_iff, encodeUtf8_original_iff hprepare]
          constructor
          · rintro hatomic ⟨hreturn, hfails⟩
            exact hatomic hfails.copied hfails.requested hfails.failed hreturn
          · intro hnot hcopied hrequested hfailed hreturn
            exact hnot ⟨hreturn, ⟨candidate, hprepare⟩, hstat, hcopied, hrequested, hfailed⟩

/-- The old line ends do not come back. -/
theorem crlf_not_restored :
    ∃ files', applyProfile lineLibrary (.granting (.error ⟨.other "CalledProcessError", "exit 1"⟩))
        "config.toml" "rx-only" true (exampleFiles "\r\n") =
          (.error ⟨.other "CalledProcessError", "exit 1"⟩, files') ∧
      files'.config.bytes = encodeUtf8 (exampleText "145.0125" "\n") ∧
        files'.config.bytes ≠ (exampleFiles "\r\n").config.bytes := by
  obtain ⟨config, candidate, hexample⟩ := exampleChange "\r\n" (.inr rfl)
  have happly := (applyProfile_granting (exampleFiles "\r\n") fun restart =>
    hexample.prepared restart "config.toml").2 ⟨.other "CalledProcessError", "exit 1"⟩
  have hreturn : '\r' ∈ exampleText "145.0125" "\r\n" :=
    List.mem_flatMap.mpr ⟨"[hardware]", List.mem_cons_self, by simp⟩
  refine ⟨_, happly, by rw [hexample.original], ?_⟩
  intro hsame
  have htext := encodeUtf8_injective hsame
  rw [hexample.original, ← (example_newlines (.inr rfl)).2, universalNewlines_eq_self_iff] at htext
  exact htext hreturn

end YwdTnc
