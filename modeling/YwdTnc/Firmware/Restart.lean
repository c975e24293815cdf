import YwdTnc.Firmware.FrontEnds

/-!
# Leaving the bootloader

`Bootloader.active` is set between the helper that enters the bootloader and the first
question to it, and every exit of the tool restarts the application while it is set. So the
application is restarted after every entry that succeeded. A helper that fails, perhaps after
it has reset the modem already, leaves the mark down, and nothing is restarted after it.
-/

namespace YwdTnc

open Interaction Prog Host QualifiedFlash

/-! ### Entries and restarts -/

def IsEntry (i : Installation) (c : HostCall) : Prop := c.query.isControl i "bootloader-entry"

def IsRestart (i : Installation) (c : HostCall) : Prop :=
  c.query.isControl i "application-restart"

/-- An entry that was not answered with exit code zero. -/
def IsFailedEntry (i : Installation) (c : HostCall) : Prop :=
  ∃ (argv : List String) (answer : Option (Except FirmwareExc CompletedProcess)),
    c = ⟨.command argv, answer⟩ ∧
      (∃ boot : Bootloader, argv = boot.control i "bootloader-entry") ∧
      ∀ proc, answer = some (.ok proc) → proc.returncode ≠ 0

/-- Every entry is followed by a restart. -/
def Restarted (i : Installation) (t : List HostCall) : Prop :=
  ∀ u c v, t = u ++ c :: v → IsEntry i c → ∃ d ∈ v, IsRestart i d

/-- Nothing moves the control lines. -/
def Untouched (t : List HostCall) : Prop := ∀ c ∈ t, c.query.Uncontrolled

variable {i : Installation} {args : FlashArgs} {profile : FirmwareProfile} {target : Json}
  {identity : String} {s s' : HostState} {t t' u v : List HostCall} {c : HostCall}

theorem IsFailedEntry.isEntry (h : IsFailedEntry i c) : IsEntry i c := by
  obtain ⟨argv, answer, rfl, ⟨boot, rfl⟩, -⟩ := h
  exact ⟨boot, rfl⟩

theorem Untouched.append (h : Untouched t) (h' : Untouched t') : Untouched (t ++ t') := by
  intro c hc
  rcases List.mem_append.mp hc with hc | hc
  · exact h c hc
  · exact h' c hc

theorem Untouched.not_isEntry (h : Untouched t) (hc : c ∈ t) : ¬ IsEntry i c := h c hc i _

/-- A run without an entry, or with entries that all succeed and are followed by a restart. -/
structure Safe (i : Installation) (t : List HostCall) : Prop where
  succeeded : ∀ c ∈ t, ¬ IsFailedEntry i c
  restarted : Restarted i t

/-- A run in which nothing is restarted after an entry that failed. -/
def Stranded (i : Installation) (t : List HostCall) : Prop :=
  ∃ u c v, t = u ++ c :: v ∧ IsFailedEntry i c ∧ Untouched v

theorem Untouched.safe (h : Untouched t) : Safe i t where
  succeeded c hc hfailed := h.not_isEntry hc hfailed.isEntry
  restarted u c v ht hentry := (h.not_isEntry (by simp [ht]) hentry).elim

theorem Safe.append (h : Safe i t) (h' : Safe i t') : Safe i (t ++ t') where
  succeeded c hc := by
    rcases List.mem_append.mp hc with hc | hc
    · exact h.succeeded c hc
    · exact h'.succeeded c hc
  restarted u c v ht hentry := by
    rcases List.append_eq_append_iff.mp ht with ⟨w, hu, hw⟩ | ⟨w, hw, hv⟩
    · exact h'.restarted w c v hw hentry
    · cases w with
      | nil => exact h'.restarted [] c v hv.symm hentry
      | cons d w =>
          obtain ⟨rfl, rfl⟩ := List.cons_eq_cons.mp hv
          obtain ⟨d, hd, hrestart⟩ := h.restarted u c w hw hentry
          exact ⟨d, List.mem_append_left _ hd, hrestart⟩

/-- An entry that succeeded, with a restart behind it and no other entry. -/
theorem safe_entry {proc : CompletedProcess} {boot : Bootloader} {d : HostCall}
    (hproc : proc.returncode = 0) (hentries : ∀ c ∈ v, ¬ IsEntry i c) (hd : d ∈ v)
    (hrestart : IsRestart i d) :
    Safe i (⟨.command (boot.control i "bootloader-entry"), some (.ok proc)⟩ :: v) where
  succeeded c hc hfailed := by
    rcases List.mem_cons.mp hc with rfl | hc
    · obtain ⟨argv, answer, hcall, -, hanswer⟩ := hfailed
      cases hcall
      exact hanswer proc rfl hproc
    · exact hentries c hc hfailed.isEntry
  restarted u c w ht hentry := by
    cases u with
    | nil =>
        obtain ⟨rfl, rfl⟩ := List.cons_eq_cons.mp ht
        exact ⟨d, hd, hrestart⟩
    | cons c' u =>
        obtain ⟨-, rfl⟩ := List.cons_eq_cons.mp ht
        exact (hentries c (by simp) hentry).elim

theorem Stranded.prepend (h : Stranded i t) (u : List HostCall) : Stranded i (u ++ t) := by
  obtain ⟨u', c, v, rfl, hfailed, hv⟩ := h
  exact ⟨u ++ u', c, v, by simp, hfailed, hv⟩

theorem Stranded.append (h : Stranded i t) (ht : Untouched t') : Stranded i (t ++ t') := by
  obtain ⟨u, c, v, rfl, hfailed, hv⟩ := h
  exact ⟨u, c, v ++ t', by simp, hfailed, hv.append ht⟩

theorem Stranded.not_restarted (h : Stranded i t) : ¬ Restarted i t := by
  obtain ⟨u, c, v, rfl, hfailed, hv⟩ := h
  intro hrestarted
  obtain ⟨d, hd, hrestart⟩ := hrestarted u c v rfl hfailed.isEntry
  exact hv d hd i _ hrestart

/-! ### The parts of a session -/

/-- What keeps the control lines as they are, and the bootloader's mark. -/
abbrev QuietProg {α : Type} (p : HostProg α) : Prop := Steady HostQuery.Uncontrolled p

section Rules

variable {α β : Type}

theorem Steady.quiet {p : HostProg α} (hp : TameProg p) : QuietProg p := hp.mono fun _ => And.right

theorem quiet_writeJson (path : String) (fields : List (String × Json)) :
    QuietProg (writeJson path fields) :=
  steady_call (HostQuery.uncontrolled_of_noCommand fun _ h => nomatch h)

/-- A program that enters nothing, and lowers the mark only with a restart. -/
structure Relinquishes (i : Installation) (p : HostProg α) : Prop where
  entries : ∀ s o s' t, Runs p s o s' t → ∀ c ∈ t, ¬ IsEntry i c
  lowers : ∀ s o s' t, Runs p s o s' t → s.bootloaderActive = true →
    s'.bootloaderActive = true ∨ ∃ d ∈ t, IsRestart i d

theorem Steady.relinquishes {p : HostProg α} (hp : QuietProg p) : Relinquishes i p where
  entries s o s' t hrun c hc := hp.calls s o s' t hrun c hc i _
  lowers s o s' t hrun hs := .inl ((hp.mark s o s' t hrun).trans hs)

theorem Relinquishes.bind {p : HostProg α} {f : α → HostProg β} (hp : Relinquishes i p)
    (hf : ∀ a, Relinquishes i (f a)) : Relinquishes i (p >>= f) where
  entries s o s' t hrun c hc := by
    rcases hrun.bind_cases with ⟨a, s₁, t₁, t₂, h₁, h₂, rfl⟩ | ⟨e, h₁, -⟩ | ⟨h₁, -⟩
    · rcases List.mem_append.mp hc with hc | hc
      · exact hp.entries _ _ _ _ h₁ c hc
      · exact (hf a).entries _ _ _ _ h₂ c hc
    · exact hp.entries _ _ _ _ h₁ c hc
    · exact hp.entries _ _ _ _ h₁ c hc
  lowers s o s' t hrun hs := by
    rcases hrun.bind_cases with ⟨a, s₁, t₁, t₂, h₁, h₂, rfl⟩ | ⟨e, h₁, -⟩ | ⟨h₁, -⟩
    · rcases hp.lowers _ _ _ _ h₁ hs with hs₁ | ⟨d, hd, hrestart⟩
      · rcases (hf a).lowers _ _ _ _ h₂ hs₁ with hs' | ⟨d, hd, hrestart⟩
        · exact .inl hs'
        · exact .inr ⟨d, List.mem_append_right _ hd, hrestart⟩
      · exact .inr ⟨d, List.mem_append_left _ hd, hrestart⟩
    · exact hp.lowers _ _ _ _ h₁ hs
    · exact hp.lowers _ _ _ _ h₁ hs

/-- How a run of the body of a session ends: it did not come to the entry, its entry failed,
or it is in the bootloader unless it has restarted the application. -/
inductive Visited (i : Installation) : Outcome FirmwareExc α → HostState → List HostCall → Prop
  | before {o : Outcome FirmwareExc α} {s' : HostState} {t : List HostCall}
      (hs : s'.bootloaderActive = false) (ht : Untouched t) : Visited i o s' t
  | failed {e : FirmwareExc} {s' : HostState} {u : List HostCall} {c : HostCall}
      (hs : s'.bootloaderActive = false) (hu : Untouched u) (hc : IsFailedEntry i c) :
      Visited i (.raised e) s' (u ++ [c])
  | entered {o : Outcome FirmwareExc α} {s' : HostState} {u v : List HostCall}
      {boot : Bootloader} {proc : CompletedProcess} (hu : Untouched u)
      (hproc : proc.returncode = 0) (hv : ∀ c ∈ v, ¬ IsEntry i c)
      (hs : s'.bootloaderActive = true ∨ ∃ d ∈ v, IsRestart i d) :
      Visited i o s'
        (u ++ ⟨.command (boot.control i "bootloader-entry"), some (.ok proc)⟩ :: v)

/-- The body of a session. -/
def Visits (i : Installation) (p : HostProg α) : Prop :=
  ∀ s o s' t, Runs p s o s' t → s.bootloaderActive = false → o ≠ .pending → Visited i o s' t

theorem Steady.visits {p : HostProg α} (hp : QuietProg p) : Visits i p :=
  fun s o s' t hrun hs _ =>
    .before ((hp.mark s o s' t hrun).trans hs) (hp.calls s o s' t hrun)

theorem Visited.prepend {o : Outcome FirmwareExc α} (h : Visited i o s' t) (hu : Untouched u) :
    Visited i o s' (u ++ t) := by
  cases h with
  | before hs ht => exact .before hs (hu.append ht)
  | failed hs ht hc =>
      rw [← List.append_assoc]
      exact .failed hs (hu.append ht) hc
  | entered ht hproc hv hs =>
      rw [← List.append_assoc]
      exact .entered (hu.append ht) hproc hv hs

theorem Steady.visits_bind {p : HostProg α} {f : α → HostProg β} (hp : QuietProg p)
    (hf : ∀ a, Visits i (f a)) : Visits i (p >>= f) := by
  intro s o s' t hrun hs ho
  rcases hrun.bind_cases with ⟨a, s₁, t₁, t₂, h₁, h₂, rfl⟩ | ⟨e, h₁, -⟩ | ⟨-, rfl⟩
  · have hs₁ := (hp.mark _ _ _ _ h₁).trans hs
    exact (hf a _ _ _ _ h₂ hs₁ ho).prepend (hp.calls _ _ _ _ h₁)
  · exact .before ((hp.mark _ _ _ _ h₁).trans hs) (hp.calls _ _ _ _ h₁)
  · exact absurd rfl ho

end Rules

/-! ### The bootloader -/

theorem runs_raiseUnless_raised {ok : Prop} {hok : Decidable ok} {e e' : FirmwareExc}
    (hrun : Runs (raiseUnless ok e) s (.raised e') s' t) : ¬ ok ∧ s' = s ∧ t = [] := by
  unfold raiseUnless at hrun
  split at hrun
  · cases (runs_ret.1 hrun).1
  case isFalse hno =>
      obtain ⟨-, hs, ht⟩ := runs_raise.1 hrun
      exact ⟨hno, hs, ht⟩

/-- A command that `run` did not accept. -/
theorem runs_run_raised {argv : List String} {e : FirmwareExc}
    (hrun : Runs (run argv) s (.raised e) s' t) :
    s' = s ∧ ∃ answer : Option (Except FirmwareExc CompletedProcess),
      t = [⟨.command argv, answer⟩] ∧ ∀ proc, answer = some (.ok proc) → proc.returncode ≠ 0 := by
  rcases hrun.bind_cases with ⟨proc, s₁, t₁, t₂, hcall, hrest, rfl⟩ | ⟨e', hcall, -⟩ | ⟨-, ho⟩
  · obtain ⟨rfl, rfl⟩ := hcall.call_returned
    rcases hrest.bind_cases with ⟨u, s₂, t₃, t₄, -, hret, -⟩ | ⟨e', hcheck, -⟩ | ⟨-, ho⟩
    · cases (runs_ret.1 hret).1
    · obtain ⟨hcode, rfl, rfl⟩ := runs_raiseUnless_raised hcheck
      refine ⟨rfl, some (.ok proc), rfl, ?_⟩
      intro proc' hproc
      cases hproc
      exact hcode
    · cases ho
  · obtain ⟨rfl, ⟨a, ho, -⟩ | ⟨e'', -, rfl⟩ | ⟨ho, -⟩⟩ := hcall.call_cases
    · cases ho
    · exact ⟨rfl, some (.error e''), rfl, nofun⟩
    · cases ho
  · cases ho

namespace Bootloader

variable {boot : Bootloader}

/-- What follows the helper in `enter`. -/
theorem quiet_identify : QuietProg (do
    sleep (1 / 2)
    let info ← run ["stm32flash", "-b", "115200", boot.device]
    let text := info.stdout ++ info.stderr
    let version := grab "Version" text
    let deviceId := grab "Device ID" text
    raiseUnless (version = boot.expectedVersion ∧ deviceId = boot.expectedDevice)
      (.flashError ("STM32 bootloader identity mismatch: version=" ++
        (if version = "" then "UNKNOWN" else version) ++ " device=" ++
        (if deviceId = "" then "UNKNOWN" else deviceId)))) := by
  refine (tame_query rfl).quiet.bind fun _ => ?_
  refine (steady_run (HostQuery.uncontrolled_command (by simp))).bind fun _ => ?_
  exact steady_raiseUnless

theorem enter_visits {α : Type} {f : Unit → HostProg α} (hf : ∀ u, Relinquishes i (f u)) :
    Visits i (boot.enter i >>= f) := by
  intro s o s' t hrun hs ho
  have hentered : ∀ {o' : Outcome FirmwareExc Unit} {s₁ t₁}, Runs (boot.enter i) s o' s₁ t₁ →
      (∃ e c, o' = .raised e ∧ s₁ = s ∧ t₁ = [c] ∧ IsFailedEntry i c) ∨ o' = .pending ∨
      ∃ (proc : CompletedProcess) (v : List HostCall), proc.returncode = 0 ∧ Untouched v ∧
        s₁.bootloaderActive = true ∧
        t₁ = ⟨.command (boot.control i "bootloader-entry"), some (.ok proc)⟩ :: v := by
    intro o' s₁ t₁ henter
    rcases henter.bind_cases with ⟨proc, s₂, t₂, t₃, h₁, h₂, rfl⟩ | ⟨e, h₁, rfl⟩ | ⟨-, rfl⟩
    · obtain ⟨hproc, rfl, rfl⟩ := runs_run h₁
      have hrest := h₂.modify_bind
      exact .inr (.inr ⟨proc, t₃, hproc, quiet_identify.calls _ _ _ _ hrest,
        quiet_identify.mark _ _ _ _ hrest, rfl⟩)
    · obtain ⟨rfl, answer, rfl, hanswer⟩ := runs_run_raised h₁
      exact .inl ⟨e, _, rfl, rfl, rfl, _, answer, rfl, ⟨boot, rfl⟩, hanswer⟩
    · exact .inr (.inl rfl)
  rcases hrun.bind_cases with ⟨u, s₁, t₁, t₂, h₁, h₂, rfl⟩ | ⟨e, h₁, rfl⟩ | ⟨-, rfl⟩
  · obtain ⟨e, c, hraised, -⟩ | hpending | ⟨proc, v, hproc, hv, hs₁, rfl⟩ := hentered h₁
    · cases hraised
    · cases hpending
    · refine Visited.entered (u := []) (v := v ++ t₂) (fun _ h => nomatch h) hproc ?_ ?_
      · intro c hc
        rcases List.mem_append.mp hc with hc | hc
        · exact hv.not_isEntry hc
        · exact (hf u).entries _ _ _ _ h₂ c hc
      · rcases (hf u).lowers _ _ _ _ h₂ hs₁ with hs' | ⟨d, hd, hrestart⟩
        · exact .inl hs'
        · exact .inr ⟨d, List.mem_append_right _ hd, hrestart⟩
  · obtain ⟨e', c, -, rfl, rfl, hc⟩ | hpending | ⟨proc, v, hproc, hv, hs₁, rfl⟩ := hentered h₁
    · exact Visited.failed (u := []) hs (fun _ h => nomatch h) hc
    · cases hpending
    · exact Visited.entered (u := []) (fun _ h => nomatch h) hproc
        (fun c hc => hv.not_isEntry hc) (.inl hs₁)
  · exact absurd rfl ho

/-- The helper of a restart is not the one of an entry. -/
theorem not_isEntry_restart {answer : Option (Except FirmwareExc CompletedProcess)} :
    ¬ IsEntry i ⟨.command (boot.control i "application-restart"), answer⟩ := by
  rintro ⟨boot', hentry⟩
  simp [control] at hentry

theorem isRestart_restart {answer : Option (Except FirmwareExc CompletedProcess)} :
    IsRestart i ⟨.command (boot.control i "application-restart"), answer⟩ :=
  ⟨boot, rfl⟩

/-- A command that is issued is in the trace, however it is answered. -/
theorem runs_runUnchecked {argv : List String} {o : Outcome FirmwareExc CompletedProcess}
    (hrun : Runs (runUnchecked argv) s o s' t) :
    s' = s ∧ ∃ answer : Option (Except FirmwareExc CompletedProcess),
      t = [⟨.command argv, answer⟩] := by
  obtain ⟨rfl, ⟨a, -, rfl⟩ | ⟨e, -, rfl⟩ | ⟨-, rfl⟩⟩ := hrun.call_cases
  · exact ⟨rfl, some (.ok a), rfl⟩
  · exact ⟨rfl, some (.error e), rfl⟩
  · exact ⟨rfl, none, rfl⟩

/-- A restart by the helper, with what follows it. -/
theorem runs_restart_bind {α : Type} {f : CompletedProcess → HostProg α} {o : Outcome FirmwareExc α}
    (hf : ∀ proc, CallsOnly HostQuery.Uncontrolled (f proc))
    (hrun : Runs (runUnchecked (boot.control i "application-restart") >>= f) s o s' t) :
    ∃ answer v, t = ⟨.command (boot.control i "application-restart"), answer⟩ :: v ∧
      Untouched v := by
  rcases hrun.bind_cases with ⟨proc, s₁, t₁, t₂, h₁, h₂, rfl⟩ | ⟨e, h₁, -⟩ | ⟨h₁, -⟩
  · obtain ⟨-, answer, rfl⟩ := runs_runUnchecked h₁
    exact ⟨answer, t₂, rfl, hf proc _ _ _ _ h₂⟩
  · obtain ⟨-, answer, rfl⟩ := runs_runUnchecked h₁
    exact ⟨answer, [], rfl, fun _ h => nomatch h⟩
  · obtain ⟨-, answer, rfl⟩ := runs_runUnchecked h₁
    exact ⟨answer, [], rfl, fun _ h => nomatch h⟩

theorem not_isEntry_of_restart {answer : Option (Except FirmwareExc CompletedProcess)}
    (hv : Untouched v) :
    ∀ c ∈ (⟨.command (boot.control i "application-restart"), answer⟩ :: v : List HostCall),
      ¬ IsEntry i c := by
  intro c hc
  rcases List.mem_cons.mp hc with rfl | hc
  · exact not_isEntry_restart
  · exact hv.not_isEntry hc

theorem restartApplication_relinquishes (boot : Bootloader) :
    Relinquishes i (boot.restartApplication i) := by
  have hrest : ∀ proc : CompletedProcess, CallsOnly HostQuery.Uncontrolled
      ((do
        raiseUnless (proc.returncode = 0) ⟨.subprocessError, "Command '" ++
          " ".intercalate (boot.control i "application-restart") ++
          "' returned non-zero exit status " ++ toString proc.returncode ++ "."⟩
        return proc : HostProg CompletedProcess) >>= fun _ => do
          modify fun s => { s with bootloaderActive := false }
          sleep (3 / 2)) := fun proc =>
    (steady_raiseUnless.calls.bind fun _ => callsOnly_ret _).bind fun _ =>
      (callsOnly_modify _).bind fun _ => (tame_query rfl).quiet.calls
  have hcases : ∀ {s o s' t}, Runs (boot.restartApplication i) s o s' t →
      (t = [] ∧ s' = s) ∨
        ∃ answer v, t = ⟨.command (boot.control i "application-restart"), answer⟩ :: v ∧
          Untouched v := by
    intro s o s' t hrun
    have hrun := hrun.get_bind
    by_cases hactive : s.bootloaderActive = true
    · rw [if_pos hactive, run, Prog.bind_assoc] at hrun
      exact .inr (runs_restart_bind hrest hrun)
    · rw [if_neg hactive] at hrun
      obtain ⟨-, hs, ht⟩ := runs_ret.1 hrun
      exact .inl ⟨ht, hs⟩
  constructor
  · intro s o s' t hrun
    rcases hcases hrun with ⟨rfl, -⟩ | ⟨answer, v, rfl, hv⟩
    · exact fun _ h => nomatch h
    · exact not_isEntry_of_restart hv
  · intro s o s' t hrun hs
    rcases hcases hrun with ⟨-, rfl⟩ | ⟨answer, v, rfl, hv⟩
    · exact .inl hs
    · exact .inr ⟨_, List.mem_cons_self .., isRestart_restart⟩

/-- The end of a session: a restart if the mark is up, and nothing otherwise. -/
def Closes {α : Type} (i : Installation) (f : HostProg α) : Prop :=
  ∀ s o s' t, Runs f s o s' t →
    (s.bootloaderActive = false → Untouched t) ∧
    (s.bootloaderActive = true → ∃ d ∈ t, IsRestart i d) ∧ ∀ c ∈ t, ¬ IsEntry i c

theorem cleanup_closes (boot : Bootloader) : Closes i (boot.cleanup i) := by
  intro s o s' t hrun
  have hrun := hrun.get_bind
  by_cases hactive : s.bootloaderActive = true
  · rw [if_pos hactive] at hrun
    obtain ⟨answer, v, rfl, hv⟩ := runs_restart_bind (fun proc =>
      (callsOnly_modify _).bind fun _ => (tame_query rfl).quiet.calls) hrun
    refine ⟨fun hs => absurd hactive (by simp [hs]), fun _ => ?_, not_isEntry_of_restart hv⟩
    exact ⟨_, List.mem_cons_self .., isRestart_restart⟩
  · rw [if_neg hactive] at hrun
    obtain ⟨-, -, rfl⟩ := runs_ret.1 hrun
    exact ⟨fun _ _ h => (nomatch h), fun hs => absurd hs hactive, fun _ h => nomatch h⟩

theorem Closes.bind {α β : Type} {f : HostProg α} {g : α → HostProg β} (hf : Closes i f)
    (hg : ∀ a, QuietProg (g a)) : Closes i (f >>= g) := by
  intro s o s' t hrun
  rcases hrun.bind_cases with ⟨a, s₁, t₁, t₂, h₁, h₂, rfl⟩ | ⟨e, h₁, -⟩ | ⟨h₁, -⟩
  · obtain ⟨hidle, hactive, hentries⟩ := hf _ _ _ _ h₁
    have ht₂ : Untouched t₂ := (hg a).calls _ _ _ _ h₂
    refine ⟨fun hs => (hidle hs).append ht₂, fun hs => ?_, fun c hc => ?_⟩
    · obtain ⟨d, hd, hrestart⟩ := hactive hs
      exact ⟨d, List.mem_append_left _ hd, hrestart⟩
    · rcases List.mem_append.mp hc with hc | hc
      · exact hentries c hc
      · exact ht₂.not_isEntry hc
  · exact hf _ _ _ _ h₁
  · exact hf _ _ _ _ h₁

end Bootloader

/-! ### Sessions -/

section Sessions

variable {α β : Type}

/-- A run that ends is safe, or raises after an entry that failed. -/
def Discharges (i : Installation) (s : HostState) (p : HostProg α) : Prop :=
  ∀ o s' t, Runs p s o s' t → o ≠ .pending → Safe i t ∨ Stranded i t ∧ ∃ e, o = .raised e

theorem Steady.discharges {p : HostProg α} (hp : QuietProg p) : Discharges i s p :=
  fun o s' t hrun _ => .inl (Untouched.safe (hp.calls s o s' t hrun))

theorem Discharges.bind {p : HostProg α} {f : α → HostProg β} (hp : Discharges i s p)
    (hf : ∀ a s' t, Runs p s (.returned a) s' t → Discharges i s' (f a)) :
    Discharges i s (p >>= f) := by
  intro o s' t hrun ho
  rcases hrun.bind_cases with ⟨a, s₁, t₁, t₂, h₁, h₂, rfl⟩ | ⟨e, h₁, rfl⟩ | ⟨-, rfl⟩
  · rcases hp _ _ _ h₁ (by simp) with hsafe | ⟨-, e, he⟩
    · rcases hf a s₁ t₁ h₁ _ _ _ h₂ ho with hsafe' | ⟨hstranded, hraised⟩
      · exact .inl (hsafe.append hsafe')
      · exact .inr ⟨hstranded.prepend t₁, hraised⟩
    · cases he
  · rcases hp _ _ _ h₁ (by simp) with hsafe | ⟨hstranded, -⟩
    · exact .inl hsafe
    · exact .inr ⟨hstranded, e, rfl⟩
  · exact absurd rfl ho

theorem quiet_bind {p : HostProg α} {f : α → HostProg β} (hp : QuietProg p)
    (hf : ∀ a s', SameMark s s' → Discharges i s' (f a)) : Discharges i s (p >>= f) :=
  hp.discharges.bind fun a s' _ hrun => hf a s' (hp.mark _ _ _ _ hrun)

theorem runs_bind_raise {p : HostProg α} {e : FirmwareExc} {o : Outcome FirmwareExc β}
    (hrun : Runs (p >>= fun _ => raise e) s o s' t) (ho : o ≠ .pending) : ∃ e', o = .raised e' := by
  rcases hrun.bind_cases with ⟨a, s₁, t₁, t₂, -, h₂, -⟩ | ⟨e', -, rfl⟩ | ⟨-, rfl⟩
  · exact ⟨e, (runs_raise.1 h₂).1⟩
  · exact ⟨e', rfl⟩
  · exact absurd rfl ho

/-- A visit with the restart that its end makes. -/
theorem Visited.close {o : Outcome FirmwareExc α} (h : Visited i o s t)
    (hidle : s.bootloaderActive = false → Untouched t')
    (hactive : s.bootloaderActive = true → ∃ d ∈ t', IsRestart i d)
    (hentries : ∀ c ∈ t', ¬ IsEntry i c) :
    Safe i (t ++ t') ∨ Stranded i (t ++ t') ∧ ∃ e, o = .raised e := by
  cases h with
  | before hs ht => exact .inl (ht.append (hidle hs)).safe
  | @failed e _ u c hs hu hc => exact .inr ⟨⟨u, c, t', by simp, hc, hidle hs⟩, e, rfl⟩
  | @entered _ _ u v boot proc hu hproc hv hs =>
      have hrestart : ∃ d ∈ v ++ t', IsRestart i d := by
        rcases hs with hs | ⟨d, hd, hrestart⟩
        · obtain ⟨d, hd, hrestart⟩ := hactive hs
          exact ⟨d, List.mem_append_right _ hd, hrestart⟩
        · exact ⟨d, List.mem_append_left _ hd, hrestart⟩
      obtain ⟨d, hd, hrestart⟩ := hrestart
      have hentries' : ∀ c ∈ v ++ t', ¬ IsEntry i c := by
        intro c hc
        rcases List.mem_append.mp hc with hc | hc
        · exact hv c hc
        · exact hentries c hc
      rw [List.append_assoc, List.cons_append]
      exact .inl (hu.safe.append (safe_entry hproc hentries' hd hrestart))

/-- A session from a mark that is down, with its end on every exit. -/
theorem Visits.discharges {p : HostProg α} {f : HostProg Unit} (hp : Visits i p)
    (hf : Bootloader.Closes i f) (hs : s.bootloaderActive = false) :
    Discharges i s (finallyDo p f) := by
  intro o s' t hrun ho
  rcases hrun.finallyDo_cases with ⟨a, s₁, t₁, t₂, h₁, h₂, rfl⟩ | ⟨e, s₁, t₁, t₂, h₁, h₂, rfl⟩ |
    ⟨-, rfl⟩
  · obtain ⟨hidle, hactive, hentries⟩ := hf.bind (fun _ => steady_ret a) _ _ _ _ h₂
    rcases (hp _ _ _ _ h₁ hs (by simp)).close hidle hactive hentries with hsafe | ⟨-, e, he⟩
    · exact .inl hsafe
    · cases he
  · obtain ⟨hidle, hactive, hentries⟩ := hf.bind (fun _ => steady_raise e) _ _ _ _ h₂
    rcases (hp _ _ _ _ h₁ hs (by simp)).close hidle hactive hentries with hsafe | ⟨hstranded, -⟩
    · exact .inl hsafe
    · exact .inr ⟨hstranded, runs_bind_raise h₂ ho⟩
  · exact absurd rfl ho

theorem Discharges.finallyDo {p : HostProg α} {f : HostProg Unit} (hp : Discharges i s p)
    (hf : QuietProg f) : Discharges i s (Prog.finallyDo p f) := by
  intro o s' t hrun ho
  rcases hrun.finallyDo_cases with ⟨a, s₁, t₁, t₂, h₁, h₂, rfl⟩ | ⟨e, s₁, t₁, t₂, h₁, h₂, rfl⟩ |
    ⟨-, rfl⟩
  · have ht₂ : Untouched t₂ := (hf.bind fun _ => steady_ret a).calls _ _ _ _ h₂
    rcases hp _ _ _ h₁ (by simp) with hsafe | ⟨-, e, he⟩
    · exact .inl (hsafe.append ht₂.safe)
    · cases he
  · have ht₂ : Untouched t₂ := (hf.bind fun _ => steady_raise e).calls _ _ _ _ h₂
    rcases hp _ _ _ h₁ (by simp) with hsafe | ⟨hstranded, -⟩
    · exact .inl (hsafe.append ht₂.safe)
    · exact .inr ⟨hstranded.append ht₂, runs_bind_raise h₂ ho⟩
  · exact absurd rfl ho

end Sessions

theorem init_bind_discharges {α : Type} {device targetId version deviceId : String}
    {f : Bootloader → HostProg α}
    (hf : ∀ boot s', s'.bootloaderActive = false → Discharges i s' (f boot)) :
    Discharges i s (Bootloader.init device targetId version deviceId >>= f) := by
  have hinit : CallsOnly HostQuery.Uncontrolled
      (Bootloader.init device targetId version deviceId) :=
    (callsOnly_modify _).bind fun _ => callsOnly_ret _
  refine Discharges.bind (fun o s' t hrun _ => .inl (Untouched.safe (hinit _ _ _ _ hrun)))
    fun boot s' t hrun => hf boot s' ?_
  obtain ⟨-, rfl, -⟩ := runs_ret.1 hrun.modify_bind
  rfl

/-! ### The tool -/

theorem captureStock_visits (device directory : String) (boot : Bootloader) :
    Visits i (captureStock i profile device identity directory boot) := by
  refine Bootloader.enter_visits fun _ => Steady.relinquishes ?_
  refine (tame_readFlash profile device _ _).quiet.bind fun _ => ?_
  refine (tame_query rfl).quiet.bind fun _ => ?_
  refine (tame_readFlash profile device _ _).quiet.bind fun _ => ?_
  refine (tame_query rfl).quiet.bind fun _ => (tame_query rfl).quiet.bind fun _ => ?_
  refine (tame_query rfl).quiet.bind fun _ => steady_raiseUnless.bind fun _ => ?_
  refine (tame_sha256File _ _).quiet.bind fun digest => (tame_query rfl).quiet.bind fun _ => ?_
  refine steady_raiseUnless.bind fun _ => steady_raiseUnless.bind fun _ => ?_
  refine (tame_query rfl).quiet.bind fun _ => (tame_query rfl).quiet.bind fun _ => ?_
  refine (tame_query rfl).quiet.bind fun captured => ?_
  refine (quiet_writeJson _ _).bind fun _ => ?_
  exact (tame_query rfl).quiet

theorem makeStockBackup_discharges (device : String) :
    Discharges i s (makeStockBackup i profile target device identity) := by
  refine quiet_bind (steady_ofExcept _) fun _ _ _ => quiet_bind steady_raiseUnless fun _ _ _ => ?_
  refine quiet_bind (tame_query rfl).quiet fun timestamp _ _ => ?_
  refine quiet_bind (tame_query rfl).quiet fun _ _ _ => ?_
  refine quiet_bind (tame_query rfl).quiet fun _ _ _ => ?_
  refine init_bind_discharges fun boot s' hs => ?_
  refine Discharges.bind ((captureStock_visits _ _ boot).discharges
    (Bootloader.cleanup_closes boot) hs) fun _ _ _ _ => Steady.discharges ?_
  refine (tame_query rfl).quiet.bind fun _ => (tame_query rfl).quiet.bind fun _ => ?_
  exact (tame_verifyStockBackup _ _ _).quiet.bind fun _ => steady_ret _

theorem selectBackup_discharges : Discharges i s (selectBackup i args profile target identity) := by
  unfold selectBackup
  split
  · exact Steady.discharges ((tame_verifyStockBackup _ _ _).quiet.bind fun _ => steady_ret _)
  · refine quiet_bind (steady_ofExcept _) fun stock _ _ => ?_
    split
    · exact (makeStockBackup_discharges _).bind fun _ _ _ _ => (steady_ret _).discharges
    · exact (tame_findVerifiedStockBackup i profile).quiet.discharges

theorem program_visits {firmware readback : String} {backupDir : Option String}
    (boot : Bootloader) :
    Visits i (program i args profile firmware identity backupDir boot readback) := by
  have hverify : ∀ b : Bool, Relinquishes i (do
      let _ ← readbackProduct i profile args.device readback
      boot.restartApplication i
      return b) := fun b =>
    (tame_readbackProduct _ _ _ _).quiet.relinquishes.bind fun _ =>
      (Bootloader.restartApplication_relinquishes boot).bind fun _ =>
        Steady.relinquishes (steady_ret b)
  unfold program
  split
  · exact Bootloader.enter_visits fun _ => hverify false
  cases backupDir with
  | none => exact Steady.visits (steady_raise _)
  | some directory =>
      refine Steady.visits_bind (tame_verifyStockBackup _ _ _).quiet fun _ => ?_
      refine Steady.visits_bind tame_input.quiet fun response => ?_
      refine Steady.visits_bind steady_raiseUnless fun _ => ?_
      refine Bootloader.enter_visits fun _ => Relinquishes.bind ?_ fun _ => hverify true
      exact (steady_run (HostQuery.uncontrolled_command (by simp [writeFlash]))).relinquishes

theorem quiet_writeReadyRecord {backupDir : Option String} {b : Bool} :
    QuietProg (writeReadyRecord profile identity backupDir b) := by
  refine (tame_query rfl).quiet.bind fun _ => (tame_query rfl).quiet.bind fun created => ?_
  refine (quiet_writeJson _ _).bind fun _ => ?_
  exact (tame_query rfl).quiet

theorem flash_discharges {firmware : String} :
    Discharges i s (flash i args profile target firmware identity) := by
  refine quiet_bind steady_raiseUnless fun _ _ _ => ?_
  refine quiet_bind (tame_verifyArtifact _ _ _).quiet fun _ _ _ => ?_
  refine selectBackup_discharges.bind fun backupDir _ _ _ => ?_
  refine init_bind_discharges fun boot s₁ hs₁ => ?_
  refine quiet_bind (tame_query rfl).quiet fun readback s₂ hs₂ => ?_
  have hclose : Bootloader.Closes i (do
      boot.cleanup i
      unlink readback) := (Bootloader.cleanup_closes boot).bind fun _ => (tame_query rfl).quiet
  refine Discharges.bind ((program_visits boot).discharges hclose (hs₂.trans hs₁))
    fun flashWritten _ _ _ => Steady.discharges ?_
  refine (tame_probeIdentity _ _ _).quiet.bind fun _ => steady_raiseUnless.bind fun _ => ?_
  exact quiet_writeReadyRecord.bind fun _ => steady_ret _

theorem operate_discharges : Discharges i s (operate i args profile target) := by
  refine quiet_bind (tame_probeIdentity _ _ _).quiet fun identity _ _ => ?_
  refine quiet_bind (steady_ofExcept _) fun _ _ _ => quiet_bind steady_raiseUnless fun _ _ _ => ?_
  cases args.mode with
  | probe => exact Steady.discharges (steady_ret 0)
  | backup => exact (makeStockBackup_discharges _).bind fun _ _ _ _ => (steady_ret _).discharges
  | flash => exact flash_discharges

theorem stoppedKnownModemOwners_discharges {α : Type} {device : String} {restore : Bool}
    {body : HostProg α} (hbody : ∀ s, Discharges i s body) :
    Discharges i s (stoppedKnownModemOwners device restore body) := by
  refine quiet_bind (steady_modify fun _ => rfl) fun _ _ _ => Discharges.finallyDo ?_ ?_
  · refine quiet_bind (tame_stopOwners _).quiet fun _ _ _ => ?_
    refine quiet_bind (tame_query rfl).quiet fun _ _ _ => ?_
    refine quiet_bind (tame_uartBusy _).quiet fun busy _ _ => ?_
    split
    · refine quiet_bind (steady_call (HostQuery.uncontrolled_command (by simp)))
        fun details _ _ => ?_
      exact Discharges.bind (Steady.discharges (steady_raise _)) fun _ s' _ _ => hbody s'
    · exact hbody _
  · refine Steady.bind ⟨callsOnly_get, ?_⟩ fun s => ?_
    · intro s o s' t hrun
      obtain ⟨-, rfl, -⟩ := runs_get.1 hrun
      rfl
    · split
      · exact (tame_startOwners _).quiet
      · exact steady_ret ()

theorem main_safe_or_stranded {o : Outcome FirmwareExc ℕ}
    (hrun : Runs (main i args) s o s' t) (hended : o ≠ .pending) : Safe i t ∨ Stranded i t := by
  have hbody : Discharges i s (do
      requireRoot
      requireTools
      raiseUnless (args.forceReflash = true → args.mode = .flash)
        (.flashError "--force-reflash is valid only with flash mode")
      let profile ← loadProfile i.profilePath
      verifyCorePin i profile.qualifiedCoreCommit
      let target ← loadTarget i profile.targetId
      raiseUnless (← pathExists args.device)
        (.flashError ("modem UART does not exist: " ++ args.device))
      stoppedKnownModemOwners args.device (args.mode ≠ .flash)
        (operate i args profile target)) := by
    refine quiet_bind tame_requireRoot.quiet fun _ _ _ => ?_
    refine quiet_bind (tame_requireTool _).quiet fun _ _ _ => ?_
    refine quiet_bind steady_raiseUnless fun _ _ _ => ?_
    refine quiet_bind (tame_loadProfile _).quiet fun profile _ _ => ?_
    refine quiet_bind (tame_verifyCorePin _ _).quiet fun _ _ _ => ?_
    refine quiet_bind (tame_loadTarget _ _).quiet fun target _ _ => ?_
    refine quiet_bind (tame_query rfl).quiet fun present _ _ => ?_
    refine quiet_bind steady_raiseUnless fun _ _ _ => ?_
    exact stoppedKnownModemOwners_discharges fun _ => operate_discharges
  rcases hrun.except_cases with ⟨a, h, rfl⟩ | ⟨e, s₁, t₁, t₂, h, hhandler, rfl⟩ | ⟨-, rfl⟩
  · exact (hbody _ _ _ h (by simp)).imp_right And.left
  · have ht₂ : t₂ = [] := by
      split at hhandler
      · exact (runs_ret.1 hhandler).2.2
      · exact (runs_raise.1 hhandler).2.2
    rw [ht₂, List.append_nil]
    exact (hbody _ _ _ h (by simp)).imp_right And.left
  · exact absurd rfl hended

/-- In a run that ends every entry of the bootloader is followed by a restart of the
application if and only if no entry failed. -/
theorem main_restarted_iff {o : Outcome FirmwareExc ℕ}
    (hrun : Runs (main i args) s o s' t) (hended : o ≠ .pending) :
    Restarted i t ↔ ∀ c ∈ t, ¬ IsFailedEntry i c := by
  rcases main_safe_or_stranded hrun hended with hsafe | hstranded
  · exact ⟨fun _ => hsafe.succeeded, fun _ => hsafe.restarted⟩
  · obtain ⟨u, c, v, ht, hfailed, -⟩ := id hstranded
    refine ⟨fun hrestarted => (hstranded.not_restarted hrestarted).elim, fun h => ?_⟩
    exact (h c (by simp [ht]) hfailed).elim

/-! ### An entry that fails -/

/-- The fields of the product's profile. -/
def productFields : List (String × Json) :=
  profileFields 59892 131072 "b06fcbf0baa36e865198091cee27c66e1624ef08117ee685253a7a5613c7c616"
    "4981b35b2d50ada0b09322d9de19dd58a0cbd49eb005693499d1acae92f9d684"

def backupArgs : FlashArgs := ⟨.backup, "/dev/ttyAMA0", "", "", "", false⟩

/-- A host with a stock modem, on which the helper that enters the bootloader ends with
exit code 1. Its files are empty. -/
def failingHost : (q : HostQuery) → Except FirmwareExc q.Answer
  | .command argv =>
      let returncode : ℤ :=
        if argv[2]? = some "bootloader-entry" then 1
        else if argv.head? = some "systemctl" ∨ argv.head? = some "fuser" then 3 else 0
      .ok (⟨returncode, "", ""⟩ : CompletedProcess)
  | q => exampleHost productFields "stock" [] q

/-- The commands of a run that does not restart after an entry. -/
def Abandons (i : Installation) (boot : Bootloader) (argvs : List (List String)) : Bool :=
  boot.control i "bootloader-entry" ∈ argvs &&
    argvs.all fun argv => argv[2]? ≠ some "application-restart"

theorem not_restarted_of_abandons {boot : Bootloader}
    (h : Abandons i boot (commands t) = true) : ¬ Restarted i t := by
  simp only [Abandons, Bool.and_eq_true, decide_eq_true_eq, List.all_eq_true] at h
  obtain ⟨hentry, hnone⟩ := h
  intro hrestarted
  obtain ⟨c, hc, hcommand⟩ := List.mem_filterMap.mp hentry
  obtain ⟨u, v, rfl⟩ := List.append_of_mem hc
  have hquery : IsEntry i c := by
    split at hcommand
    · next argv hargv =>
        cases hcommand
        exact ⟨boot, hargv⟩
    · cases hcommand
  obtain ⟨d, hd, boot', hrestart⟩ := hrestarted u c v rfl hquery
  have hmem : boot'.control i "application-restart" ∈ commands (u ++ c :: v) :=
    List.mem_filterMap.mpr ⟨d, by simp [hd], by rw [hrestart]⟩
  exact hnone _ hmem (by simp [Bootloader.control])

theorem failingHost_abandons :
    let r := (main exampleInstallation backupArgs).run .init (List.replicate 60 failingHost)
    (Abandons exampleInstallation ⟨"", PRODUCT_TARGET, "", ""⟩ (commands r.trace) &&
      r.outcome = .returned 20) = true := by
  decide +kernel

theorem failingHost_run :
    ∃ s' t, Runs (main exampleInstallation backupArgs) .init (.returned 20) s' t ∧
      Abandons exampleInstallation ⟨"", PRODUCT_TARGET, "", ""⟩ (commands t) = true := by
  obtain ⟨habandons, hreturned⟩ := (Bool.and_eq_true _ _).mp failingHost_abandons
  have hrun := Runs.of_eq
    (rfl : (main exampleInstallation backupArgs).run .init (List.replicate 60 failingHost) = _)
  rw [of_decide_eq_true hreturned] at hrun
  exact ⟨_, _, hrun, habandons⟩

theorem main_restarted_iff_failingHost :
    ∃ s' t, Runs (main exampleInstallation backupArgs) .init (.returned 20) s' t ∧
      (Restarted exampleInstallation t ↔ ∀ c ∈ t, ¬ IsFailedEntry exampleInstallation c) := by
  obtain ⟨s', t, hrun, -⟩ := failingHost_run
  exact ⟨s', t, hrun, main_restarted_iff hrun nofun⟩

/-- A backup whose entry of the bootloader fails ends without a restart. -/
theorem failed_entry_not_restarted :
    ∃ s' t, Runs (main exampleInstallation backupArgs) .init (.returned 20) s' t ∧
      ¬ Restarted exampleInstallation t := by
  obtain ⟨s', t, hrun, habandons⟩ := failingHost_run
  exact ⟨s', t, hrun, not_restarted_of_abandons habandons⟩

end YwdTnc
