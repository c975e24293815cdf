import YwdTnc.Coding.Binary64
import YwdTnc.Coding.TextLines

/-!
# TOML documents of one statement a line

The values that a TOML document holds, and the meaning of a document whose statements are
table headers and assignments to bare keys, each on a line of its own. What stands behind
the equals sign is left to a reader of values. A line that assigns the same key a different
value changes the document at that key and nowhere else.
-/

namespace Coding

inductive TomlFloat where
  | finite (x : ℚ)
  | infinite (negative : Bool)
  | nan

/-- Arrays, dates and times are `other`. -/
inductive TomlValue where
  | string (text : String)
  | integer (n : ℤ)
  | float (x : TomlFloat)
  | boolean (b : Bool)
  | table (entries : List (List Char × TomlValue))
  | other

abbrev TomlTable := List (List Char × TomlValue)

namespace TomlTable

def keys (table : TomlTable) : List (List Char) := table.map Prod.fst

/-- `table.get(key)`. -/
def get (table : TomlTable) (key : List Char) : Option TomlValue := table.lookup key

/-- Some keys have a different value. -/
def revise (f : List Char → Option TomlValue) (table : TomlTable) : TomlTable :=
  table.map fun entry => (entry.1, (f entry.1).getD entry.2)

end TomlTable

/-! ### Lines -/

inductive TomlStatement where
  | blank
  | header (name : List Char)
  | assign (key value : List Char)
  deriving DecidableEq

/-- A blank or a tab. -/
def isTomlBlank (c : Char) : Bool := c = ' ' || c = '\t'

def isBareKeyChar (c : Char) : Bool := c.isAlphanum || c = '-' || c = '_'

/-- Nothing but blanks and perhaps a comment, which has no control characters but tabs. -/
def isLineTail (text : List Char) : Bool :=
  match text.dropWhile isTomlBlank with
  | [] => true
  | c :: comment =>
      c = '#' && comment.all fun d => d = '\t' || 32 ≤ d.toNat && d.toNat ≠ 127

/-- A header behind its bracket. -/
def readHeader (text : List Char) : Option TomlStatement :=
  let text := text.dropWhile isTomlBlank
  let name := text.takeWhile isBareKeyChar
  match (text.dropWhile isBareKeyChar).dropWhile isTomlBlank with
  | [] => none
  | c :: tail =>
      if c = ']' ∧ name ≠ [] ∧ isLineTail tail = true then some (.header name) else none

/-- An assignment from its key on. -/
def readAssignment (text : List Char) : Option TomlStatement :=
  let key := text.takeWhile isBareKeyChar
  match (text.dropWhile isBareKeyChar).dropWhile isTomlBlank with
  | [] => none
  | c :: value => if c = '=' ∧ key ≠ [] then some (.assign key value) else none

/-- A line without its newline. -/
def readBody (body : List Char) : Option TomlStatement :=
  if isLineTail body = true then some .blank
  else match body.dropWhile isTomlBlank with
  | [] => none
  | c :: text => if c = '[' then readHeader text else readAssignment (c :: text)

/-- One line with the newline at its end, if there is one. -/
def readLine (line : List Char) : Option TomlStatement :=
  let body := if line.getLast? = some '\n' then line.dropLast else line
  if body.any isLineBreak then none else readBody body

/-- The newline of a line, if there is one. -/
def IsNewline (newline : List Char) : Prop := newline = [] ∨ newline = ['\n']

theorem takeWhile_append_of_head {p : Char → Bool} {run rest : List Char}
    (hrun : ∀ c ∈ run, p c = true) (hrest : ∀ c ∈ rest.head?, p c = false) :
    (run ++ rest).takeWhile p = run := by
  rw [List.takeWhile_append_of_pos hrun]
  cases rest with
  | nil => simp
  | cons c rest => simp [hrest c rfl]

theorem dropWhile_append_of_head {p : Char → Bool} {run rest : List Char}
    (hrun : ∀ c ∈ run, p c = true) (hrest : ∀ c ∈ rest.head?, p c = false) :
    (run ++ rest).dropWhile p = rest := by
  rw [List.dropWhile_append_of_pos hrun]
  cases rest with
  | nil => simp
  | cons c rest => simp [hrest c rfl]

/-- A text is a run of such characters and something else behind it. -/
theorem exists_run (p : Char → Bool) (text : List Char) :
    ∃ run rest, text = run ++ rest ∧ (∀ c ∈ run, p c = true) ∧ ∀ c ∈ rest.head?, p c = false := by
  refine ⟨text.takeWhile p, text.dropWhile p, List.takeWhile_append_dropWhile.symm,
    fun c hc => List.all_eq_true.mp List.all_takeWhile c hc, ?_⟩
  intro c hc
  have hhead := List.head?_dropWhile_not p text
  rw [hc] at hhead
  simpa using hhead

/-! ### Assignments and headers taken apart -/

theorem isBareKeyChar_of_isTomlBlank {c : Char} (h : isTomlBlank c = true) :
    isBareKeyChar c = false := by
  simp only [isTomlBlank, Bool.or_eq_true, decide_eq_true_eq] at h
  rcases h with rfl | rfl <;> decide

theorem takeWhile_bareKey {key gap : List Char} {c : Char}
    (hkey : ∀ d ∈ key, isBareKeyChar d = true) (hgap : ∀ d ∈ gap, isTomlBlank d = true)
    (hc : isBareKeyChar c = false) (rest : List Char) :
    (key ++ (gap ++ c :: rest)).takeWhile isBareKeyChar = key ∧
      (key ++ (gap ++ c :: rest)).dropWhile isBareKeyChar = gap ++ c :: rest := by
  have hhead : ∀ d ∈ (gap ++ c :: rest).head?, isBareKeyChar d = false := by
    cases gap with
    | nil => simpa using hc
    | cons g gap => simpa using isBareKeyChar_of_isTomlBlank (hgap g List.mem_cons_self)
  exact ⟨takeWhile_append_of_head hkey hhead, dropWhile_append_of_head hkey hhead⟩

/-- Blanks, a key, blanks, the equals sign and the value. -/
structure Assigns (body indent key gap value : List Char) : Prop where
  body_eq : body = indent ++ (key ++ (gap ++ '=' :: value))
  indent_blank : ∀ c ∈ indent, isTomlBlank c = true
  key_bare : ∀ c ∈ key, isBareKeyChar c = true
  key_ne_nil : key ≠ []
  gap_blank : ∀ c ∈ gap, isTomlBlank c = true

/-- The assignments in front of the first header, and the tables behind it. -/
structure TomlSections where
  entries : TomlTable
  tables : List (List Char × TomlTable)

namespace TomlSections

def names (s : TomlSections) : List (List Char) := s.tables.map Prod.fst

def root (s : TomlSections) : TomlTable := s.entries ++ s.tables.map fun t => (t.1, .table t.2)

end TomlSections

/-- No table is declared twice, no key of a table is assigned twice, and every value is
read. -/
def readSections (value : List Char → Option TomlValue) : List TomlStatement → Option TomlSections
  | [] => some ⟨[], []⟩
  | .blank :: statements => readSections value statements
  | .header name :: statements =>
      match readSections value statements with
      | none => none
      | some s => if name ∈ s.names then none else some ⟨[], (name, s.entries) :: s.tables⟩
  | .assign key text :: statements =>
      match readSections value statements, value text with
      | some s, some v =>
          if key ∈ s.entries.keys then none else some ⟨(key, v) :: s.entries, s.tables⟩
      | _, _ => none

/-- A table has no name of a key in front of the tables. -/
def readDocument (value : List Char → Option TomlValue) (statements : List TomlStatement) :
    Option TomlTable :=
  match readSections value statements with
  | none => none
  | some s => if s.names.any (· ∈ s.entries.keys) then none else some s.root

end Coding
