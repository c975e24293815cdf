import YwdTnc.Coding.TomlValues
import YwdTnc.Product.LineReader
import YwdTnc.Product.RadioLines

/-!
# What the rewriting preserves

`rewrite_radio_settings` looks at lines, a TOML document has values in tables. Replacing the
three values of `[radio]` where they stand (`replaceValues`) leaves comments and spacing
alone; the switcher writes its lines anew, as `key = value`. The two agree on a text exactly
when no line of it makes a difference (`Kept`).
-/

namespace YwdTnc

open Coding

/-- The new texts by the names of the keys. -/
def RadioSettings.newText (settings : RadioSettings) (name : List Char) : Option (List Char) :=
  (RadioKey.ofName name).map settings.replacement

/-- The setting that the switcher sees on a line: its key, what stands in front of the key, and
the newline. -/
def seenSetting (u : Unicode) (inRadio : Bool) (line : List Char) :
    Option (RadioKey × List Char × List Char) :=
  if isTableLine u line then none else if inRadio then findSetting u line else none

/-- The line makes no difference. A setting that both see has one blank on each side of the
equals sign and nothing behind its value. A line that only the switcher takes for a setting
already reads as it writes it, and a value that only the document has is already the new one. -/
def KeepsLine (u : Unicode) (settings : RadioSettings) (inRadio : Bool) (splice : Option Splice)
    (line : List Char) : Prop :=
  match seenSetting u inRadio line, splice with
  | some (key, indent, newline), some splice =>
      splice.front = indent ++ key.name.toList ++ " = ".toList ∧ splice.after = newline
  | some (key, indent, newline), none =>
      line = settingLine indent key (settings.replacement key) newline
  | none, some splice => line = splice.line
  | none, none => True

def KeptFrom (u : Unicode) (settings : RadioSettings) :
    Bool → DocumentState → List (List Char) → Prop
  | _, _, [] => True
  | inRadio, s, line :: lines =>
      KeepsLine u settings inRadio (s.read "radio".toList settings.newText line).2 line ∧
        KeptFrom u settings (inRadioAfter u inRadio line)
          (s.read "radio".toList settings.newText line).1 lines

/-- No line of the text makes a difference. -/
def Kept (u : Unicode) (settings : RadioSettings) (text : List Char) : Prop :=
  KeptFrom u settings false .start (splitLines text)

variable {u : SpacedUnicode} {settings : RadioSettings}

/-! ### The new texts -/

/-- A number begins with its sign or with a digit. -/
theorem sign_append_toDigits (p : Prop) [Decidable p] (n : ℕ) (rest : List Char) :
    ∃ c text, (if p then ['-'] else []) ++ (Nat.toDigits 10 n ++ rest) = c :: text ∧
      isTomlBlank c = false := by
  by_cases hp : p
  · exact ⟨'-', _, by rw [if_pos hp]; rfl, by decide⟩
  · rw [if_neg hp, List.nil_append]
    cases hdigits : Nat.toDigits 10 n with
    | nil => exact absurd hdigits Nat.toDigits_ne_nil
    | cons c digits =>
        refine ⟨c, digits ++ rest, rfl, ?_⟩
        have hc := isDigit_toDigits n c (by simp [hdigits])
        by_contra hblank
        have hbare := isBareKeyChar_of_isTomlBlank (eq_true_of_ne_false hblank)
        simp [isBareKeyChar, Char.isAlphanum, hc] at hbare

theorem replacement_head (settings : RadioSettings) (key : RadioKey) :
    ∃ c text, settings.replacement key = c :: text ∧ isTomlBlank c = false := by
  cases key with
  | frequencyMhz => exact sign_append_toDigits _ _ _
  | txPower =>
      have h := sign_append_toDigits (settings.txPower < 0) settings.txPower.natAbs []
      rwa [List.append_nil] at h
  | txEnabled =>
      cases henabled : settings.txEnabled
      · exact ⟨'f', "alse".toList, by simp [RadioSettings.replacement, henabled], by decide⟩
      · exact ⟨'t', "rue".toList, by simp [RadioSettings.replacement, henabled], by decide⟩

theorem newText_eq_some {name text : List Char} (h : settings.newText name = some text) :
    ∃ key, RadioKey.ofName name = some key ∧ text = settings.replacement key := by
  obtain ⟨key, hkey, rfl⟩ := Option.map_eq_some_iff.mp h
  exact ⟨key, hkey, rfl⟩

/-! ### The lines that the switcher writes -/

section Line

variable {key : RadioKey} {body newline indent newline' : List Char}

theorem matchSetting_eq_some {line : List Char}
    (h : matchSetting u.toUnicode key line = some (indent, newline')) :
    ∃ gap value, line = indent ++ (key.name.toList ++ (gap ++ '=' :: value)) ∧
      newline' = lineEnd value := by
  unfold matchSetting at h
  have hline := @List.takeWhile_append_dropWhile _ u.isSpace line
  dsimp only at h
  split at h
  case isFalse => cases h
  case isTrue hname =>
    obtain ⟨rest, hrest⟩ := hname
    rw [← hrest, List.drop_left] at h
    have hgap := @List.takeWhile_append_dropWhile _ u.isSpace rest
    split at h
    case h_1 value hvalue =>
      cases h
      refine ⟨rest.takeWhile u.isSpace, value, ?_, rfl⟩
      rw [← hvalue, hgap, hrest, hline]
    case h_2 => cases h

theorem findSetting_eq_some {line : List Char}
    (h : findSetting u.toUnicode line = some (key, indent, newline')) :
    matchSetting u.toUnicode key line = some (indent, newline') := by
  obtain ⟨key', -, hkey⟩ := List.exists_of_findSome?_eq_some h
  obtain ⟨groups, hgroups, heq⟩ := Option.map_eq_some_iff.mp hkey
  cases heq
  exact hgroups

/-- A setting stands in front of the newline of its line. -/
theorem findSetting_split (hbody : Unbroken body) (hnewline : IsLineEnd newline)
    (h : findSetting u.toUnicode (body ++ newline) = some (key, indent, newline')) :
    newline' = newline ∧ ∃ rest, body = indent ++ rest := by
  obtain ⟨gap, value, hline, rfl⟩ := matchSetting_eq_some (findSetting_eq_some h)
  have hfront : body ++ newline = (indent ++ (key.name.toList ++ (gap ++ ['=']))) ++ value := by
    rw [hline]
    simp
  rcases List.append_eq_append_iff.mp hfront with ⟨more, hmore, hvalue⟩ | ⟨more, hmore, hvalue⟩
  · -- the equals sign is not in the newline
    rcases List.eq_nil_or_concat more with rfl | ⟨init, last, rfl⟩
    · rw [List.append_nil] at hmore
      rw [List.nil_append] at hvalue
      have hend := @lineEnd_append [] newline (by simp) (by simp) hnewline
      rw [List.nil_append, hvalue] at hend
      exact ⟨by rw [hend, hvalue], _, hmore.symm⟩
    · have hlast := congrArg List.getLast? hmore
      simp at hlast
      have hmem : '=' ∈ newline := by
        rw [hvalue, ← hlast]
        simp
      rcases hnewline with rfl | rfl | rfl <;> simp at hmem
  · have hunbroken : Unbroken more := (unbroken_append.mp (hmore ▸ hbody)).2
    have hend := lineEnd_append (fun hmem => absurd (hunbroken '\r' hmem) (by decide))
      (newline_notMem hunbroken) hnewline
    rw [← hvalue] at hend
    refine ⟨hend, key.name.toList ++ (gap ++ ['=']) ++ more, ?_⟩
    rw [hmore, List.append_assoc]

theorem rewrittenLine_eq (u : Unicode) (settings : RadioSettings) (inRadio : Bool)
    (line : List Char) :
    rewrittenLine u settings inRadio line =
      match seenSetting u inRadio line with
      | some (key, indent, newline) => settingLine indent key (settings.replacement key) newline
      | none => line := by
  unfold rewrittenLine seenSetting
  split
  · rfl
  · rfl

theorem findSetting_of_seen {inRadio : Bool} {line : List Char}
    (h : seenSetting u.toUnicode inRadio line = some (key, indent, newline')) :
    findSetting u.toUnicode line = some (key, indent, newline') := by
  unfold seenSetting at h
  split at h
  · cases h
  · split at h
    · exact h
    · cases h

/-- A line keeps its end when it is rewritten. -/
theorem rewrittenLine_append (settings : RadioSettings) (inRadio : Bool) (hbody : Unbroken body)
    (hnewline : IsLineEnd newline) :
    ∃ body', rewrittenLine u.toUnicode settings inRadio (body ++ newline) = body' ++ newline ∧
      '\n' ∉ body' := by
  rw [rewrittenLine_eq]
  cases hseen : seenSetting u.toUnicode inRadio (body ++ newline) with
  | none => exact ⟨body, rfl, newline_notMem hbody⟩
  | some found =>
      obtain ⟨key, indent, newline'⟩ := found
      obtain ⟨rfl, rest, rfl⟩ := findSetting_split hbody hnewline (findSetting_of_seen hseen)
      have hindent := newline_notMem (unbroken_append.mp hbody).1
      have htext := newline_notMem (unbroken_replacement settings key)
      have hname : '\n' ∉ key.name.toList := fun hmem => absurd (key.name_bare _ hmem) (by decide)
      refine ⟨_, rfl, ?_⟩
      simp [hindent, htext, hname]

/-! ### One line -/

/-- What stands in front of the value on a line that assigns a setting, when the switcher sees
a setting on it. -/
theorem assign_of_findSetting {front name text value : List Char} (hbody : Unbroken body)
    (hnewline : IsLineEnd newline)
    (hstatement : readStatement body = .assign front (some name) value)
    (htext : settings.newText name = some text)
    (hfind : findSetting u.toUnicode (body ++ newline) = some (key, indent, newline')) :
    newline' = newline ∧ text = settings.replacement key ∧
      ∃ gap blanks, front = indent ++ (key.name.toList ++ (gap ++ '=' :: blanks)) ∧
        (∀ c ∈ gap, isTomlBlank c = true) ∧ ∀ c ∈ blanks, isTomlBlank c = true := by
  obtain ⟨indent', keyText, gap, blanks, rfl, rfl, hname, hindent, hgap, hblanks⟩ :=
    readStatement_assign hstatement
  obtain ⟨key', hkey', rfl⟩ := newText_eq_some htext
  have hline : indent' ++ (keyText ++ (gap ++ '=' :: blanks)) ++ value =
      indent' ++ (keyText ++ (gap ++ '=' :: (blanks ++ value))) := by simp
  rw [hline] at hbody hfind
  rcases keyName_eq_some hname.symm with ⟨rfl, hbare, hne⟩ | ⟨c, rest, rfl, hquote⟩
  · have hassigns : Assigns (indent' ++ (keyText ++ (gap ++ '=' :: (blanks ++ value)))) indent'
        keyText gap (blanks ++ value) := ⟨rfl, hindent, hbare, hne, hgap⟩
    rw [findSetting_of_assigns hassigns hbody hnewline, hkey'] at hfind
    cases hfind
    rw [RadioKey.name_of_ofName hkey']
    exact ⟨rfl, rfl, gap, blanks, rfl, hgap, hblanks⟩
  · -- the switcher does not see a quoted key
    have hspace : u.isSpace c = false ∧ isBareKeyChar c = false := by
      rcases hquote with rfl | rfl
      · exact ⟨u.isSpace_ascii _ (by decide), by decide⟩
      · exact ⟨u.isSpace_ascii _ (by decide), by decide⟩
    have hdrop : (indent' ++ (c :: rest ++ (gap ++ '=' :: (blanks ++ value))) ++ newline).dropWhile
        u.isSpace = c :: (rest ++ (gap ++ '=' :: (blanks ++ value)) ++ newline) := by
      rw [List.append_assoc]
      exact dropWhile_space hindent hspace.1
    rw [findSetting_eq_none (by rw [hdrop]; simpa using hspace.2)] at hfind
    cases hfind

end Line

theorem takeWhile_blank {blanks rest : List Char} {c : Char}
    (hblanks : ∀ d ∈ blanks, isTomlBlank d = true) (hc : isTomlBlank c = false) :
    (blanks ++ c :: rest).takeWhile isTomlBlank = blanks :=
  takeWhile_append_of_head hblanks (by simpa using hc)

/-- The written line is the spliced one when the blanks are those that the switcher writes and
nothing stands behind the value. -/
theorem settingLine_eq_iff {indent gap blanks after newline : List Char} (key : RadioKey)
    (hgap : ∀ c ∈ gap, isTomlBlank c = true) (hblanks : ∀ c ∈ blanks, isTomlBlank c = true) :
    settingLine indent key (settings.replacement key) newline =
        indent ++ (key.name.toList ++ (gap ++ '=' :: blanks)) ++
          (settings.replacement key ++ after) ↔
      indent ++ (key.name.toList ++ (gap ++ '=' :: blanks)) =
          indent ++ key.name.toList ++ " = ".toList ∧ after = newline := by
  obtain ⟨c, text, htext, hc⟩ := replacement_head settings key
  have hwritten : settingLine indent key (settings.replacement key) newline =
      indent ++ (key.name.toList ++ ([' '] ++ '=' :: ([' '] ++ c :: (text ++ newline)))) := by
    simp [settingLine, htext]
  have hspliced : indent ++ (key.name.toList ++ (gap ++ '=' :: blanks)) ++
        (settings.replacement key ++ after) =
      indent ++ (key.name.toList ++ (gap ++ '=' :: (blanks ++ c :: (text ++ after)))) := by
    simp [htext]
  have hspelled : indent ++ key.name.toList ++ " = ".toList =
      indent ++ (key.name.toList ++ ([' '] ++ '=' :: [' '])) := by simp
  have hblank : ∀ d ∈ [' '], isTomlBlank d = true := by simp [isTomlBlank]
  rw [hwritten, hspliced, hspelled, List.append_cancel_left_eq, List.append_cancel_left_eq,
    List.append_cancel_left_eq, List.append_cancel_left_eq]
  constructor
  · intro h
    have hgap' := congrArg (List.takeWhile isTomlBlank) h
    rw [takeWhile_blank hblank (by decide), takeWhile_blank hgap (by decide)] at hgap'
    rw [← hgap', List.append_cancel_left_eq, List.cons_inj_right] at h
    have hblanks' := congrArg (List.takeWhile isTomlBlank) h
    rw [takeWhile_blank hblank hc, takeWhile_blank hblanks hc] at hblanks'
    rw [← hblanks', List.append_cancel_left_eq, List.cons_inj_right,
      List.append_cancel_left_eq] at h
    exact ⟨by rw [← hgap', ← hblanks'], h.symm⟩
  · rintro ⟨hfront, rfl⟩
    have hgap' := congrArg (List.takeWhile isTomlBlank) hfront
    rw [takeWhile_blank hgap (by decide), takeWhile_blank hblank (by decide)] at hgap'
    rw [hgap', List.append_cancel_left_eq, List.cons_inj_right] at hfront
    rw [hgap', hfront]

theorem keepsLine_iff {s : DocumentState} (hs : s.Intact) {body newline : List Char}
    (hbody : Unbroken body) (hnewline : IsLineEnd newline) (inRadio : Bool) :
    let splice := (s.read "radio".toList settings.newText (body ++ newline)).2
    KeepsLine u.toUnicode settings inRadio splice (body ++ newline) ↔
      rewrittenLine u.toUnicode settings inRadio (body ++ newline) =
        splicedLine splice (body ++ newline) := by
  intro splice
  rw [rewrittenLine_eq]
  unfold KeepsLine
  cases hseen : seenSetting u.toUnicode inRadio (body ++ newline) with
  | none =>
      cases hsplice : splice with
      | none => simp [splicedLine]
      | some splice => rfl
  | some found =>
      obtain ⟨key, indent, newline'⟩ := found
      cases hsplice : splice with
      | none => exact eq_comm
      | some edit =>
          have hfind := findSetting_of_seen hseen
          rcases @DocumentState.read_cases "radio".toList settings.newText s body newline hs hbody
              hnewline with ⟨hnone, -⟩ | ⟨front, name, text, value, hstatement, htext, hedit⟩
          · rw [show splice = none from hnone] at hsplice
            cases hsplice
          · obtain ⟨rfl, rfl, gap, blanks, rfl, hgap, hblanks⟩ :=
              assign_of_findSetting hbody hnewline hstatement htext hfind
            have hfields : ∃ after, edit =
                ⟨indent ++ (key.name.toList ++ (gap ++ '=' :: blanks)),
                  settings.replacement key, after⟩ := by
              rcases hedit with hedit | ⟨-, token, trail, -, hedit⟩
              · exact ⟨_, Option.some.inj (hsplice.symm.trans hedit)⟩
              · exact ⟨_, Option.some.inj (hsplice.symm.trans hedit)⟩
            obtain ⟨after, rfl⟩ := hfields
            exact (settingLine_eq_iff key hgap hblanks).symm

/-! ### The text -/

/-- The switcher keeps every newline. -/
theorem count_rewrittenLines {lines : List (List Char)} (hlines : Ended lines) (inRadio : Bool) :
    (rewrittenLines u.toUnicode settings inRadio lines).flatten.count '\n' =
      lines.flatten.count '\n' := by
  induction lines generalizing inRadio with
  | nil => rfl
  | cons line lines ih =>
      obtain ⟨⟨body, newline, rfl, hbody, hnewline, -⟩, hlines⟩ := hlines
      obtain ⟨body', hline, hbody'⟩ :=
        @rewrittenLine_append u body newline settings inRadio hbody hnewline
      rw [rewrittenLines, List.flatten_cons, List.flatten_cons, List.count_append,
        List.count_append, ih hlines, hline, List.count_append, List.count_append,
        List.count_eq_zero_of_not_mem hbody',
        List.count_eq_zero_of_not_mem (newline_notMem hbody)]

theorem newline_notMem_newText {name text : List Char} (h : settings.newText name = some text) :
    '\n' ∉ text := by
  obtain ⟨key, -, rfl⟩ := newText_eq_some h
  exact newline_notMem (unbroken_replacement settings key)

/-- The induction on the lines: where a replaced value takes the end of its line with it, the
switcher has kept more newlines than the document; elsewhere the two texts are compared line
by line. -/
theorem keptFrom_iff {lines : List (List Char)} (hlines : Ended lines) {s : DocumentState}
    (hs : s.Intact) (inRadio : Bool) :
    KeptFrom u.toUnicode settings inRadio s lines ↔
      (rewrittenLines u.toUnicode settings inRadio lines).flatten =
        (s.spliceLines "radio".toList settings.newText lines).flatten := by
  induction lines generalizing s inRadio with
  | nil => simp [KeptFrom, rewrittenLines, DocumentState.spliceLines]
  | cons line lines ih =>
      have hcount := @count_rewrittenLines u settings (line :: lines) hlines inRadio
      obtain ⟨⟨body, newline, rfl, hbody, hnewline, hlast⟩, hlines⟩ := hlines
      obtain ⟨body', hline, hbody'⟩ :=
        @rewrittenLine_append u body newline settings inRadio hbody hnewline
      have hkeeps := @keepsLine_iff u settings s hs body newline hbody hnewline inRadio
      dsimp only at hkeeps
      rw [KeptFrom, hkeeps]
      rcases DocumentState.splicedLine_cases hs hbody hnewline
          fun name text => @newline_notMem_newText settings name text with
        ⟨hintact, body'', hspliced, hbody''⟩ | hplain
      · rw [ih hlines hintact, rewrittenLines, DocumentState.spliceLines, List.flatten_cons,
          List.flatten_cons, hline, hspliced, append_lineEnd_inj hbody' hbody'' hnewline,
          List.append_cancel_right_eq]
        intro hnil
        simp [hlast hnil, rewrittenLines, DocumentState.spliceLines]
      · by_cases hnil : newline = []
        · simp [hlast hnil, KeptFrom, rewrittenLines, DocumentState.spliceLines]
        · have hmem : '\n' ∈ newline := by
            rcases hnewline with rfl | rfl | rfl
            · exact absurd rfl hnil
            · simp
            · simp
          constructor
          · rintro ⟨heq, -⟩
            rw [← heq, hline] at hplain
            exact absurd (List.mem_append_right body' hmem) hplain
          · intro heq
            exfalso
            have hrest := @DocumentState.count_spliceLines "radio".toList settings.newText
              (s.read "radio".toList settings.newText (body ++ newline)).1 lines hlines
              fun name text => @newline_notMem_newText settings name text
            have hpos := List.count_pos_iff.mpr (List.mem_append_right body hmem)
            rw [heq, DocumentState.spliceLines, List.flatten_cons, List.flatten_cons,
              List.count_append, List.count_append, List.count_eq_zero_of_not_mem hplain] at hcount
            omega

/-- The switcher replaces the values of `[radio]` and nothing else exactly when no line of the
text makes a difference. -/
theorem rewriteRadioSettings_preserves_iff {text output : List Char}
    (hbreaks : ∀ c ∈ replaceCrlf text, isLineBreak c = true → c = '\n')
    (h : rewriteRadioSettings u.toUnicode text settings = .ok output) :
    output = replaceValues "radio".toList settings.newText text ↔
      Kept u.toUnicode settings text := by
  rw [(rewriteRadioSettings_ok h).1]
  exact (keptFrom_iff (ended_splitLines hbreaks) DocumentState.intact_start false).symm

/-! ### A comment behind a value -/

/-- The settings of the profile `aprs`. -/
def aprsSettings : RadioSettings := ⟨144390000, 200, true⟩

/-- A table `radio` with something behind the frequency. -/
def radioText (frequency behind : String) : List Char :=
  ("[radio]\nfrequency_mhz = " ++ frequency ++ behind ++
    "\ntx_power = 200\ntx_enabled = true\n").toList

def writes (output : List Char) : Except PyError (List Char) → Bool
  | .ok text => text = output
  | .error _ => false

theorem eq_ok_of_writes {output : List Char} {result : Except PyError (List Char)}
    (h : writes output result = true) : result = .ok output := by
  cases result with
  | ok text => rw [of_decide_eq_true h]
  | error e => cases h

theorem rewritten_radioText (behind : String) (h : behind = "" ∨ behind = "  # simplex") :
    rewriteRadioSettings .latin1 (radioText "145.050" behind) aprsSettings =
      .ok (radioText "144.390" "") := by
  apply eq_ok_of_writes
  rcases h with rfl | rfl
  · decide +kernel
  · decide +kernel

theorem radioText_breaks (behind : String) (h : behind = "" ∨ behind = "  # simplex") :
    ∀ c ∈ replaceCrlf (radioText "145.050" behind), isLineBreak c = true → c = '\n' := by
  have hall : (replaceCrlf (radioText "145.050" behind)).all
      (fun c => !isLineBreak c || c = '\n') = true := by
    rcases h with rfl | rfl
    · decide +kernel
    · decide +kernel
  simpa [List.all_eq_true, or_iff_not_imp_left] using hall

/-- A table without comments. -/
theorem rewriteRadioSettings_preserves_iff_plain :
    rewriteRadioSettings .latin1 (radioText "145.050" "") aprsSettings =
        .ok (radioText "144.390" "") ∧
      Kept .latin1 aprsSettings (radioText "145.050" "") :=
  have hrun := rewritten_radioText "" (.inl rfl)
  ⟨hrun, (rewriteRadioSettings_preserves_iff (u := SpacedUnicode.latin1)
    (radioText_breaks "" (.inl rfl)) hrun).mp (by decide +kernel)⟩

/-- The comment behind the frequency is gone. -/
theorem inline_comment_dropped :
    let text := radioText "145.050" "  # simplex"
    (∀ c ∈ replaceCrlf text, isLineBreak c = true → c = '\n') ∧
      rewriteRadioSettings .latin1 text aprsSettings = .ok (radioText "144.390" "") ∧
      replaceValues "radio".toList aprsSettings.newText text =
        radioText "144.390" "  # simplex" ∧
      radioText "144.390" "" ≠ radioText "144.390" "  # simplex" := by
  refine ⟨radioText_breaks _ (.inr rfl), rewritten_radioText _ (.inr rfl), ?_, ?_⟩
  · decide +kernel
  · decide +kernel

end YwdTnc
