import YwdTnc.Product.LineReader
import YwdTnc.Product.RadioSettings
import Mathlib.Data.List.TakeWhile

/-!
# Rewriting a document of lines

In a document of one statement a line the switcher finds a setting on a line if and only if
the line assigns its key, and the line that it writes assigns the new text to that key.
-/

namespace YwdTnc

open Coding

variable {u : SpacedUnicode}

/-! ### Blanks -/

theorem isSpace_of_isTomlBlank {c : Char} (h : isTomlBlank c = true) : u.isSpace c = true := by
  simp only [isTomlBlank, Bool.or_eq_true, decide_eq_true_eq] at h
  rcases h with rfl | rfl <;> exact u.isSpace_ascii _ (by decide)

theorem isSpace_of_isBareKeyChar {c : Char} (h : isBareKeyChar c = true) :
    u.isSpace c = false := by
  simp only [isBareKeyChar, Bool.or_eq_true, decide_eq_true_eq, or_assoc,
    isAlphanum_iff_toNat] at h
  have hrange : isAscii c = true ∧ isAsciiSpace c = false := by
    rcases h with h | h | h | rfl | rfl
    case inr.inr.inr.inl | inr.inr.inr.inr => decide
    all_goals
      simp only [isAscii, isAsciiSpace, decide_eq_true_eq, Bool.or_eq_false_iff,
        Bool.and_eq_false_iff, decide_eq_false_iff_not]
      omega
  rw [u.isSpace_ascii c hrange.1, hrange.2]

theorem takeWhile_space {indent rest : List Char} {c : Char}
    (hindent : ∀ d ∈ indent, isTomlBlank d = true) (hc : u.isSpace c = false) :
    (indent ++ c :: rest).takeWhile u.isSpace = indent :=
  takeWhile_append_of_head (fun d hd => isSpace_of_isTomlBlank (hindent d hd)) (by simpa using hc)

theorem dropWhile_space {indent rest : List Char} {c : Char}
    (hindent : ∀ d ∈ indent, isTomlBlank d = true) (hc : u.isSpace c = false) :
    (indent ++ c :: rest).dropWhile u.isSpace = c :: rest :=
  dropWhile_append_of_head (fun d hd => isSpace_of_isTomlBlank (hindent d hd)) (by simpa using hc)

/-- The key of a setting by its name. -/
def RadioKey.ofName (name : List Char) : Option RadioKey :=
  RADIO_KEYS.find? fun key => key.name.toList = name

theorem RadioKey.name_bare (key : RadioKey) : ∀ c ∈ key.name.toList, isBareKeyChar c = true := by
  rw [← List.all_eq_true]
  cases key <;> decide

theorem RadioKey.exists_name (key : RadioKey) :
    ∃ c rest, key.name.toList = c :: rest ∧ isBareKeyChar c = true := by
  cases hname : key.name.toList with
  | nil => cases key <;> exact absurd hname (by decide)
  | cons c rest => exact ⟨c, rest, rfl, key.name_bare c (by simp [hname])⟩

theorem RadioKey.name_of_ofName {name : List Char} {key : RadioKey} (h : ofName name = some key) :
    key.name.toList = name := by
  unfold ofName at h
  simpa using List.find?_some h

/-- No setting on a line that begins with something else than a key. -/
theorem findSetting_eq_none {line : List Char}
    (h : ∀ c ∈ (line.dropWhile u.isSpace).head?, isBareKeyChar c = false) :
    findSetting u.toUnicode line = none := by
  have hnone : ∀ key, matchSetting u.toUnicode key line = none := by
    intro key
    obtain ⟨c, rest, hname, hc⟩ := key.exists_name
    have hprefix : ¬ key.name.toList <+: line.dropWhile u.isSpace := by
      rintro ⟨tail, htail⟩
      have hhead := h c (by rw [← htail, hname]; rfl)
      rw [hc] at hhead
      cases hhead
    simp [matchSetting, hprefix]
  simp [findSetting, hnone]

theorem lineEnd_append {value newline : List Char} (hvalue : '\r' ∉ value)
    (hlast : '\n' ∉ value) (hnewline : IsLineEnd newline) :
    lineEnd (value ++ newline) = newline := by
  have hplain : ¬ "\n".toList <:+ value := by
    rintro ⟨front, hfront⟩
    apply hlast
    rw [← hfront]
    simp
  rcases hnewline with rfl | rfl | rfl
  · have hreturn : ¬ "\r\n".toList <:+ value := by
      rintro ⟨front, hfront⟩
      apply hvalue
      rw [← hfront]
      simp
    rw [List.append_nil]
    simp only [lineEnd, if_neg hreturn, if_neg hplain]
  · have hreturn : ¬ "\r\n".toList <:+ value ++ "\n".toList := by
      rintro ⟨front, hfront⟩
      have hmem : '\r' ∈ value ++ "\n".toList := by
        rw [← hfront]
        simp
      simp [hvalue] at hmem
    simp only [lineEnd, if_neg hreturn, if_pos (List.suffix_append _ _)]
  · simp only [lineEnd, if_pos (List.suffix_append _ _)]

/-- On an assignment the pattern of a key matches if and only if it is the assigned key. -/
theorem matchSetting_of_assigns {body indent key gap value newline : List Char}
    (h : Assigns body indent key gap value) (hbody : Unbroken body)
    (hnewline : IsLineEnd newline) (setting : RadioKey) :
    matchSetting u.toUnicode setting (body ++ newline) =
      if setting.name.toList = key then some (indent, newline) else none := by
  obtain ⟨rfl, hindent, hkey, hne, hgap⟩ := h
  have hvalue : ∀ c, isLineBreak c = true → c ∉ value := by
    intro c hc hmem
    rw [hbody c (by simp [hmem])] at hc
    cases hc
  have hend := lineEnd_append (hvalue '\r' (by decide)) (hvalue '\n' (by decide)) hnewline
  have hequals : u.isSpace '=' = false := u.isSpace_ascii '=' (by decide)
  have hgapDrop : (gap ++ '=' :: (value ++ newline)).dropWhile u.isSpace =
      '=' :: (value ++ newline) := dropWhile_space hgap hequals
  obtain ⟨htake, -⟩ := takeWhile_bareKey (c := '=') hkey hgap (by decide) (value ++ newline)
  cases key with
  | nil => exact absurd rfl hne
  | cons c key =>
      have hc : u.isSpace c = false := isSpace_of_isBareKeyChar (hkey c List.mem_cons_self)
      have hline : (indent ++ (c :: key ++ (gap ++ '=' :: value))) ++ newline =
          indent ++ c :: (key ++ (gap ++ '=' :: (value ++ newline))) := by simp
      rw [hline]
      simp only [matchSetting, takeWhile_space hindent hc, dropWhile_space hindent hc]
      by_cases hname : setting.name.toList = c :: key
      · rw [if_pos hname, hname, ← List.cons_append, if_pos (List.prefix_append _ _),
          List.drop_left, hgapDrop]
        simp only [hend]
      · rw [if_neg hname]
        split
        case isFalse => rfl
        case isTrue hprefix =>
          obtain ⟨more, hmore⟩ := hprefix
          rw [← List.cons_append] at hmore
          rw [← hmore, List.takeWhile_append_of_pos setting.name_bare] at htake
          cases more with
          | nil => exact absurd (by simpa using htake) hname
          | cons d more =>
              have hd : isBareKeyChar d = true := by
                by_contra hnot
                rw [List.takeWhile_cons_of_neg hnot, List.append_nil] at htake
                exact hname htake
              have hspace : u.isSpace d = false := isSpace_of_isBareKeyChar hd
              rw [← List.cons_append, ← hmore, List.drop_left,
                List.dropWhile_cons_of_neg (by simp [hspace])]
              split
              case h_1 heq =>
                  rw [(List.cons.inj heq).1] at hd
                  exact absurd hd (by decide)
              case h_2 => rfl

theorem findSetting_of_assigns {body indent key gap value newline : List Char}
    (h : Assigns body indent key gap value) (hbody : Unbroken body)
    (hnewline : IsLineEnd newline) :
    findSetting u.toUnicode (body ++ newline) =
      (RadioKey.ofName key).map fun setting => (setting, indent, newline) := by
  have hmatch := matchSetting_of_assigns (u := u) h hbody hnewline
  unfold findSetting RadioKey.ofName RADIO_KEYS
  by_cases hfrequency : RadioKey.frequencyMhz.name.toList = key
  · simp [hmatch, hfrequency]
  by_cases hpower : RadioKey.txPower.name.toList = key
  · simp [hmatch, hfrequency, hpower]
  by_cases henabled : RadioKey.txEnabled.name.toList = key
  · simp [hmatch, hfrequency, hpower, henabled]
  · simp [hmatch, hfrequency, hpower, henabled]

/-! ### The other lines -/

/-- Whether the lines below belong to `[radio]`. -/
def inRadioAfter (u : Unicode) (inRadio : Bool) (line : List Char) : Bool :=
  if isTableLine u line then isRadioLine u line else inRadio

def rewrittenLine (u : Unicode) (settings : RadioSettings) (inRadio : Bool) (line : List Char) :
    List Char :=
  if isTableLine u line then line
  else match if inRadio then findSetting u line else none with
  | some (key, indent, newline) => settingLine indent key (settings.replacement key) newline
  | none => line

def rewrittenLines (u : Unicode) (settings : RadioSettings) :
    Bool → List (List Char) → List (List Char)
  | _, [] => []
  | inRadio, line :: lines =>
      rewrittenLine u settings inRadio line ::
        rewrittenLines u settings (inRadioAfter u inRadio line) lines

theorem isTableLine_of_isRadioLine {u : Unicode} {line : List Char}
    (h : isRadioLine u line = true) : isTableLine u line = true := by
  have hstrip : u.strip line = "[radio]".toList := of_decide_eq_true h
  simp [isTableLine, hstrip]

theorem rewriteLine_ok {u : Unicode} {settings : RadioSettings} {s s' : Rewriting}
    {line : List Char} (h : rewriteLine u settings s line = .ok s') :
    s'.inRadio = inRadioAfter u s.inRadio line ∧
      s'.output = s.output ++ [rewrittenLine u settings s.inRadio line] ∧
        (s.inRadio = false → s'.seen = s.seen) := by
  unfold rewriteLine at h
  unfold inRadioAfter rewrittenLine
  by_cases htable : isTableLine u line = true
  · simp only [htable, if_true, Except.ok.injEq] at h
    subst h
    simp [htable]
  · rw [if_neg htable] at h ⊢
    rw [if_neg htable]
    cases hsetting : if s.inRadio = true then findSetting u line else none with
    | none =>
        simp only [hsetting, Except.ok.injEq] at h
        subst h
        exact ⟨rfl, rfl, fun _ => rfl⟩
    | some found =>
        obtain ⟨key, indent, newline⟩ := found
        simp only [hsetting] at h
        split at h
        · cases h
        · cases h
          refine ⟨rfl, rfl, fun hradio => ?_⟩
          simp [hradio] at hsetting

theorem rewriteLines_ok {u : Unicode} {settings : RadioSettings} {s s' : Rewriting}
    {lines : List (List Char)} (h : lines.foldlM (rewriteLine u settings) s = .ok s') :
    s'.output = s.output ++ rewrittenLines u settings s.inRadio lines := by
  induction lines generalizing s with
  | nil =>
      cases h
      simp [rewrittenLines]
  | cons line lines ih =>
      rw [List.foldlM_cons] at h
      obtain ⟨next, hline, hlines⟩ := bind_eq_ok h
      obtain ⟨hradio, houtput, -⟩ := rewriteLine_ok hline
      rw [ih hlines, houtput, hradio, rewrittenLines, List.append_assoc]
      rfl

/-- A setting is only seen below a line `[radio]`. -/
theorem exists_radioLine {u : Unicode} {settings : RadioSettings} {s s' : Rewriting}
    {lines : List (List Char)} (h : lines.foldlM (rewriteLine u settings) s = .ok s')
    (hradio : s.inRadio = false) (hseen : s'.seen ≠ s.seen) :
    ∃ line ∈ lines, isRadioLine u line = true := by
  induction lines generalizing s with
  | nil =>
      cases h
      exact absurd rfl hseen
  | cons line lines ih =>
      rw [List.foldlM_cons] at h
      obtain ⟨next, hline, hlines⟩ := bind_eq_ok h
      obtain ⟨hnext, -, hkept⟩ := rewriteLine_ok hline
      cases hin : next.inRadio with
      | true =>
          rw [hin, inRadioAfter, hradio] at hnext
          by_cases htable : isTableLine u line = true
          · rw [if_pos htable] at hnext
            exact ⟨line, List.mem_cons_self, hnext.symm⟩
          · rw [if_neg htable] at hnext
            cases hnext
      | false =>
          obtain ⟨found, hmem, hfound⟩ := ih hlines hin (by rwa [hkept hradio])
          exact ⟨found, List.mem_cons_of_mem line hmem, hfound⟩

/-! ### The statement of a rewritten line -/

/-- A line keeps its newline, and it does not become empty. -/
structure KeepsEnd (line line' : List Char) : Prop where
  split : ∃ body body' newline, line = body ++ newline ∧ line' = body' ++ newline ∧
    Unbroken body ∧ Unbroken body' ∧ IsNewline newline ∧ (body' = [] → body = [])

/-- The new text of a setting stays on its line. -/
theorem unbroken_replacement (settings : RadioSettings) (key : RadioKey) :
    Unbroken (settings.replacement key) := by
  have hsign : ∀ p : Prop, ∀ [Decidable p], Unbroken (if p then ['-'] else []) := by
    intro p _
    split <;> simp [Unbroken, isLineBreak]
  cases key with
  | frequencyMhz => exact unbroken_append.mpr ⟨hsign _, unbroken_fixedDigits 3 _⟩
  | txPower => exact unbroken_append.mpr ⟨hsign _, unbroken_toDigits _⟩
  | txEnabled => cases henabled : settings.txEnabled <;>
      simp [RadioSettings.replacement, henabled, Unbroken, isLineBreak]

section

variable {settings : RadioSettings} {value : List Char → Option TomlValue}
  {newValue : RadioKey → TomlValue}

/-- The sections behind a rewriting: the same keys and tables, new values in front of the
first header where the rewriting begins below `[radio]`, and in the table `radio` where the
line `[radio]` occurs. -/
structure SectionsRevised (f : List Char → Option TomlValue) (inRadio : Bool) (found : Prop)
    (s s' : TomlSections) : Prop where
  keys : s'.entries.keys = s.entries.keys
  names : s'.names = s.names
  entries : inRadio = true → s'.entries = s.entries.revise f
  radio : found →
    s'.tables.lookup "radio".toList = (s.tables.lookup "radio".toList).map (TomlTable.revise f)

/-- There is a line `[radio]`. -/
def HasRadioLine (u : Unicode) (lines : List (List Char)) : Prop :=
  ∃ line ∈ lines, isRadioLine u line = true

theorem hasRadioLine_cons {u : Unicode} {line : List Char} {lines : List (List Char)} :
    HasRadioLine u (line :: lines) ↔ isRadioLine u line = true ∨ HasRadioLine u lines := by
  simp [HasRadioLine]

/-- A line that is no header leaves the sections behind it where they are. -/
theorem SectionsRevised.skip {f : List Char → Option TomlValue} {inRadio : Bool} {line : List Char}
    {lines : List (List Char)} {s s' : TomlSections} (htable : isTableLine u.toUnicode line = false)
    (h : SectionsRevised f inRadio (HasRadioLine u.toUnicode lines) s s') :
    SectionsRevised f inRadio (HasRadioLine u.toUnicode (line :: lines)) s s' where
  keys := h.keys
  names := h.names
  entries := h.entries
  radio := by
    rw [hasRadioLine_cons]
    rintro (hradio | hfound)
    · rw [isTableLine_of_isRadioLine hradio] at htable
      cases htable
    · exact h.radio hfound

theorem KeepsEnd.terminated {line line' : List Char} (h : KeepsEnd line line')
    (hline : Terminated line) : Terminated line' := by
  obtain ⟨body, body', newline, rfl, rfl, hbody, hbody', rfl | rfl, -⟩ := h
  · obtain ⟨front, hfront, -⟩ := hline
    rw [List.append_nil] at hfront
    exact absurd (hbody '\n' (by simp [hfront])) (by decide)
  · exact ⟨body', rfl, hbody'⟩

theorem KeepsEnd.unbroken {line line' : List Char} (h : KeepsEnd line line')
    (hline : line ≠ [] ∧ Unbroken line) : line' ≠ [] ∧ Unbroken line' := by
  obtain ⟨body, body', newline, rfl, rfl, hbody, hbody', rfl | rfl, hempty⟩ := h
  · rw [List.append_nil] at hline ⊢
    exact ⟨fun hnil => hline.1 (hempty hnil), hbody'⟩
  · exact absurd (hline.2 '\n' (by simp)) (by decide)

/-- What the switcher makes of a text of readable lines. -/
theorem rewriteRadioSettings_ok {text text' : List Char}
    (h : rewriteRadioSettings u.toUnicode text settings = .ok text') :
    text' = (rewrittenLines u.toUnicode settings false (splitLines text)).flatten ∧
      HasRadioLine u.toUnicode (splitLines text) := by
  obtain ⟨s, hfold, hrest⟩ := bind_eq_ok h
  have houtput := rewriteLines_ok hfold
  rw [List.nil_append] at houtput
  by_cases hmissing : missingNames s.seen = []
  · rw [if_neg (not_not.mpr hmissing)] at hrest
    cases hrest
    refine ⟨by rw [houtput], exists_radioLine hfold rfl ?_⟩
    rintro hseen
    rw [hseen] at hmissing
    exact absurd hmissing (by decide)
  · rw [if_pos hmissing] at hrest
    cases hrest

end

end YwdTnc
