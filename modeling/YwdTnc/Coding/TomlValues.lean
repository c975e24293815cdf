import YwdTnc.Coding.TomlLines
import Mathlib.Data.List.DropRight

/-!
# The values of a TOML document where they stand

Where a value begins and ends in the text of a document, whatever else stands there: strings
on one line or on several, arrays and inline tables over several lines, comments between
their elements and behind them. `replaceValues` puts other texts in the place of the values
that some keys have in one table, and leaves every other character alone. The text need not
be a valid document.
-/

namespace Coding

/-! ### Values -/

/-- Between the strings of a value, behind one or two quotes that open a string, within a
string that ends on its line, within a string over several lines and behind `count` of its
quotes, behind a backslash, or within a comment. -/
inductive ValueMode where
  | plain
  | opening (quote : Char) (count : ℕ)
  | line (quote : Char)
  | long (quote : Char) (count : ℕ)
  | escape (long : Bool)
  | comment
  deriving DecidableEq

/-- `depth` counts the brackets and braces that are open. -/
structure ValueState where
  depth : ℕ
  mode : ValueMode
  deriving DecidableEq

namespace ValueState

def start : ValueState := ⟨0, .plain⟩

def stepPlain (depth : ℕ) (c : Char) : ValueState :=
  if c = '"' ∨ c = '\'' then ⟨depth, .opening c 1⟩
  else if c = '[' ∨ c = '{' then ⟨depth + 1, .plain⟩
  else if c = ']' ∨ c = '}' then ⟨depth - 1, .plain⟩
  else if c = '#' then ⟨depth, .comment⟩
  else ⟨depth, .plain⟩

def stepLine (depth : ℕ) (quote c : Char) : ValueState :=
  if c = quote then ⟨depth, .plain⟩
  else if c = '\\' ∧ quote = '"' then ⟨depth, .escape false⟩
  else ⟨depth, .line quote⟩

def step (s : ValueState) (c : Char) : ValueState :=
  match s.mode with
  | .plain => stepPlain s.depth c
  | .opening quote count =>
      if c = quote then ⟨s.depth, if count = 1 then .opening quote 2 else .long quote 0⟩
      else if count = 1 then stepLine s.depth quote c
      else stepPlain s.depth c
  | .line quote => stepLine s.depth quote c
  | .long quote count =>
      -- behind the three closing quotes two more still belong to the string
      if c = quote then ⟨s.depth, if count = 4 then .plain else .long quote (count + 1)⟩
      else if 3 ≤ count then stepPlain s.depth c
      else if c = '\\' ∧ quote = '"' then ⟨s.depth, .escape true⟩
      else ⟨s.depth, .long quote 0⟩
  | .escape long => ⟨s.depth, if long then .long '"' 0 else .line '"'⟩
  | .comment => s

/-- Outside of strings and comments. -/
def outside (s : ValueState) : Bool :=
  match s.mode with
  | .plain | .opening _ 2 => true
  | _ => false

/-- The state on the next line, unless the value is over. -/
def atLineEnd (s : ValueState) : Option ValueState :=
  let between := if s.depth = 0 then none else some ⟨s.depth, .plain⟩
  match s.mode with
  | .long quote count => if count < 3 then some ⟨s.depth, .long quote 0⟩ else between
  | .escape true => some ⟨s.depth, .long '"' 0⟩
  | _ => between

/-- The characters of a line in front of the comment behind the value. -/
def scan (s : ValueState) : List Char → List Char × ValueState
  | [] => ([], s)
  | c :: text =>
      if s.step c = ⟨0, .comment⟩ then ([], s.step c)
      else
        let (value, last) := scan (s.step c) text
        (c :: value, last)

end ValueState

/-- The part of a line that belongs to a value, what stands behind the value, and the state on
the next line if the value is not over. -/
structure Extent where
  token : List Char
  trail : List Char
  next : Option ValueState

def readExtent (s : ValueState) (text : List Char) : Extent :=
  let (value, last) := s.scan text
  match last.atLineEnd with
  | some next => ⟨text, [], some next⟩
  | none =>
      let token := value.rdropWhile isTomlBlank
      ⟨token, text.drop token.length, none⟩

/-! ### Keys -/

def hexDigit (c : Char) : Option ℕ :=
  if c.isDigit then some (c.toNat - '0'.toNat)
  else if 'a' ≤ c ∧ c ≤ 'f' then some (c.toNat - 'a'.toNat + 10)
  else if 'A' ≤ c ∧ c ≤ 'F' then some (c.toNat - 'A'.toNat + 10)
  else none

/-- The character with a code in hexadecimal, which must not be a surrogate. -/
def hexChar (digits : List Char) : Option Char := do
  let values ← digits.mapM hexDigit
  let code := values.foldl (fun code value => 16 * code + value) 0
  if code.isValidChar then some (Char.ofNat code) else none

/-- The text of a quoted key. -/
def unescape : List Char → Option (List Char)
  | [] => some []
  | '\\' :: 'u' :: a :: b :: c :: d :: text => do
      let char ← hexChar [a, b, c, d]
      return char :: (← unescape text)
  | '\\' :: 'U' :: a :: b :: c :: d :: e :: f :: g :: h :: text => do
      let char ← hexChar [a, b, c, d, e, f, g, h]
      return char :: (← unescape text)
  | '\\' :: c :: text => do
      let char ← [('b', '\x08'), ('t', '\t'), ('n', '\n'), ('f', '\x0c'), ('r', '\r'),
        ('"', '"'), ('\\', '\\')].lookup c
      return char :: (← unescape text)
  | c :: text =>
      if c = '\\' ∨ c = '"' then none else do return c :: (← unescape text)

/-- A key of one part: bare, or in quotes. -/
def keyName (key : List Char) : Option (List Char) :=
  match key with
  | [] => none
  | c :: rest =>
      if c = '"' then if rest.getLast? = some '"' then unescape rest.dropLast else none
      else if c = '\'' then
        if rest.getLast? = some '\'' ∧ '\'' ∉ rest.dropLast then some rest.dropLast else none
      else if key.all isBareKeyChar then some key else none

/-! ### Statements -/

/-- What stands before and behind the first such character outside of strings. -/
def splitOutside (stop : Char) (s : ValueState) : List Char → Option (List Char × List Char)
  | [] => none
  | c :: text =>
      if c = stop ∧ s.outside = true then some ([], text)
      else (splitOutside stop (s.step c) text).map fun split => (c :: split.1, split.2)

/-- A line at which no value is open. The name of a table and the key of an assignment are
given where they have one part. -/
inductive LineStatement where
  | other
  | header (name : Option (List Char))
  | assign (front : List Char) (key : Option (List Char)) (value : List Char)

def readStatement (body : List Char) : LineStatement :=
  let indent := body.takeWhile isTomlBlank
  match body.dropWhile isTomlBlank with
  | [] => .other
  | c :: text =>
      if c = '[' then
        .header ((splitOutside ']' .start text).bind fun split =>
          keyName ((split.1.dropWhile isTomlBlank).rdropWhile isTomlBlank))
      else
        match splitOutside '=' .start (c :: text) with
        | none => .other
        | some (key, value) =>
            .assign (indent ++ (key ++ '=' :: value.takeWhile isTomlBlank))
              (keyName (key.rdropWhile isTomlBlank)) (value.dropWhile isTomlBlank)

/-- A line and its newline, of one character or of two. -/
def splitNewline (line : List Char) : List Char × List Char :=
  if "\r\n".toList <:+ line then (line.take (line.length - 2), "\r\n".toList)
  else if "\n".toList <:+ line then (line.take (line.length - 1), "\n".toList)
  else (line, [])

/-! ### Documents -/

/-- Whether the table is the one that is sought, and the value that began on an earlier line
and is not over, with whether it is replaced. -/
structure DocumentState where
  inTable : Bool
  unfinished : Option (ValueState × Bool)

/-- A replacement on a line: what stands in front of the value, its new text, and what stands
behind the value. -/
structure Splice where
  front : List Char
  text : List Char
  after : List Char

def Splice.line (splice : Splice) : List Char := splice.front ++ (splice.text ++ splice.after)

/-- A line with the replacement on it, if there is one. -/
def splicedLine (splice : Option Splice) (line : List Char) : List Char :=
  match splice with
  | some splice => splice.line
  | none => line

namespace DocumentState

def start : DocumentState := ⟨false, none⟩

variable (table : List Char) (replacement : List Char → Option (List Char)) (s : DocumentState)

/-- What is left of a line behind a value; a value that goes on has the newline in it. -/
def behind (extent : Extent) (newline : List Char) : List Char :=
  match extent.next with
  | none => extent.trail ++ newline
  | some _ => []

/-- The state behind a line and the replacement on it. -/
def read (line : List Char) : DocumentState × Option Splice :=
  let (body, newline) := splitNewline line
  match s.unfinished with
  | some (value, replaced) =>
      let extent := readExtent value body
      ({ s with unfinished := extent.next.map fun value => (value, replaced) },
        if replaced then some ⟨[], [], behind extent newline⟩ else none)
  | none =>
      match readStatement body with
      | .other => (s, none)
      | .header name => ({ s with inTable := name = some table }, none)
      | .assign front key value =>
          let extent := readExtent .start value
          let splice := if s.inTable then
              (key.bind replacement).map fun text => ⟨front, text, behind extent newline⟩
            else none
          ({ s with unfinished := extent.next.map fun value => (value, splice.isSome) }, splice)

def spliceLines : DocumentState → List (List Char) → List (List Char)
  | _, [] => []
  | s, line :: lines =>
      let (s, splice) := read table replacement s line
      splicedLine splice line :: spliceLines s lines

end DocumentState

/-- The text with the values of a table that have a replacement replaced. -/
def replaceValues (table : List Char) (replacement : List Char → Option (List Char))
    (text : List Char) : List Char :=
  (DocumentState.start.spliceLines table replacement (splitLines text)).flatten

/-- Brackets and equals signs in strings and in comments are text, and a value may go on over
several lines. -/
example :
    replaceValues ['t'] (fun key => if key = ['k'] then some ['1'] else none)
        "s = '''\n[t]\nk = 2'''\n[ 't' ] # c\n\"k\" = [ # ]\n '#', 3 ]\t# d\n[u]\nk = 2".toList =
      "s = '''\n[t]\nk = 2'''\n[ 't' ] # c\n\"k\" = 1\t# d\n[u]\nk = 2".toList := by
  decide +kernel

/-! ### What the pieces make up -/

theorem ValueState.scan_prefix (s : ValueState) (text : List Char) : (s.scan text).1 <+: text := by
  induction text generalizing s with
  | nil => exact List.prefix_refl _
  | cons c text ih =>
      rw [scan]
      split
      · exact List.nil_prefix
      · exact List.cons_prefix_cons.mpr ⟨rfl, ih _⟩

theorem readExtent_append (s : ValueState) (text : List Char) :
    (readExtent s text).token ++ (readExtent s text).trail = text := by
  unfold readExtent
  dsimp only
  split
  case h_1 => simp
  case h_2 =>
    obtain ⟨rest, hrest⟩ :=
      (List.rdropWhile_prefix isTomlBlank (l := (s.scan text).1)).trans (s.scan_prefix text)
    have hdrop := congrArg (List.drop ((s.scan text).1.rdropWhile isTomlBlank).length) hrest
    rw [List.drop_left] at hdrop
    rw [← hdrop]
    exact hrest

theorem splitOutside_eq_some {stop : Char} {s : ValueState} {text before after : List Char}
    (h : splitOutside stop s text = some (before, after)) : text = before ++ stop :: after := by
  induction text generalizing s before with
  | nil => cases h
  | cons c text ih =>
      rw [splitOutside] at h
      split at h
      case isTrue hstop =>
        cases h
        rw [hstop.1, List.nil_append]
      case isFalse =>
        obtain ⟨split, hsplit, heq⟩ := Option.map_eq_some_iff.mp h
        cases heq
        rw [List.cons_append, ← ih hsplit]

/-- The parts of an assignment: blanks, the key, blanks, the equals sign, blanks and the
value. -/
theorem readStatement_assign {body front value : List Char} {name : Option (List Char)}
    (h : readStatement body = .assign front name value) :
    ∃ indent key gap blanks, front = indent ++ (key ++ (gap ++ '=' :: blanks)) ∧
      body = front ++ value ∧ name = keyName key ∧ (∀ c ∈ indent, isTomlBlank c = true) ∧
      (∀ c ∈ gap, isTomlBlank c = true) ∧ ∀ c ∈ blanks, isTomlBlank c = true := by
  unfold readStatement at h
  have hbody := @List.takeWhile_append_dropWhile _ isTomlBlank body
  cases hrest : body.dropWhile isTomlBlank with
  | nil =>
      rw [hrest] at h
      cases h
  | cons c text =>
      simp only [hrest] at h
      split at h
      · cases h
      · cases hsplit : splitOutside '=' .start (c :: text) with
        | none =>
            rw [hsplit] at h
            cases h
        | some split =>
            obtain ⟨before, after⟩ := split
            rw [hsplit] at h
            cases h
            have htext := splitOutside_eq_some hsplit
            have hkey : before.rdropWhile isTomlBlank ++ before.rtakeWhile isTomlBlank = before :=
              List.rdropWhile_append_rtakeWhile
            have hafter := @List.takeWhile_append_dropWhile _ isTomlBlank after
            refine ⟨body.takeWhile isTomlBlank, before.rdropWhile isTomlBlank,
              before.rtakeWhile isTomlBlank, after.takeWhile isTomlBlank, ?_, ?_, rfl,
              fun c hc => List.all_eq_true.mp List.all_takeWhile c hc,
              fun c hc => List.mem_rtakeWhile_imp hc,
              fun c hc => List.all_eq_true.mp List.all_takeWhile c hc⟩
            · rw [← List.append_assoc (before.rdropWhile isTomlBlank), hkey]
            · rw [List.append_assoc, List.append_assoc, List.cons_append, hafter, ← htext, ← hrest,
                hbody]

theorem keyName_eq_some {key name : List Char} (h : keyName key = some name) :
    (key = name ∧ (∀ c ∈ key, isBareKeyChar c = true) ∧ key ≠ []) ∨
      ∃ c rest, key = c :: rest ∧ (c = '"' ∨ c = '\'') := by
  cases key with
  | nil => cases h
  | cons c rest =>
      by_cases hdouble : c = '"'
      · exact .inr ⟨c, rest, rfl, .inl hdouble⟩
      by_cases hsingle : c = '\''
      · exact .inr ⟨c, rest, rfl, .inr hsingle⟩
      simp only [keyName, hdouble, hsingle, if_false] at h
      split at h
      case isTrue hbare =>
        cases h
        exact .inl ⟨rfl, List.all_eq_true.mp hbare, List.cons_ne_nil c rest⟩
      case isFalse => cases h

theorem splitNewline_append {body newline : List Char} (hbody : Unbroken body)
    (hnewline : IsLineEnd newline) : splitNewline (body ++ newline) = (body, newline) := by
  have hplain : '\n' ∉ body := newline_notMem hbody
  have hreturn : '\r' ∉ body := fun hmem => absurd (hbody '\r' hmem) (by decide)
  have hnot : ∀ {tail : List Char}, '\r' ∉ tail → ¬ "\r\n".toList <:+ body ++ tail := by
    rintro tail htail ⟨front, hfront⟩
    have hmem : '\r' ∈ body ++ tail := by
      rw [← hfront]
      simp
    simp [hreturn, htail] at hmem
  rcases hnewline with rfl | rfl | rfl
  · have hnone : ¬ "\n".toList <:+ body ++ [] := by
      rintro ⟨front, hfront⟩
      rw [List.append_nil] at hfront
      apply hplain
      rw [← hfront]
      simp
    rw [splitNewline, if_neg (hnot (by simp)), if_neg hnone, List.append_nil]
  · rw [splitNewline, if_neg (hnot (by simp)), if_pos (List.suffix_append _ _)]
    simp
  · rw [splitNewline, if_pos (List.suffix_append _ _)]
    simp

namespace DocumentState

variable {table : List Char} {replacement : List Char → Option (List Char)} {s : DocumentState}
  {body newline : List Char} {splice : Splice}

/-- No value that is replaced goes on. -/
def Intact (s : DocumentState) : Prop := ∀ value, s.unfinished ≠ some (value, true)

theorem intact_start : start.Intact := nofun

/-- What is replaced on a line is a part of it; where the value goes on, the newline is in it. -/
theorem read_splice (hbody : Unbroken body) (hnewline : IsLineEnd newline)
    (h : (s.read table replacement (body ++ newline)).2 = some splice) :
    ∃ token trail, body = splice.front ++ (token ++ trail) ∧
      (splice.after = trail ++ newline ∨ splice.after = []) ∧
      (splice.text = [] ∨ ∃ name, replacement name = some splice.text) := by
  have hbehind : ∀ extent : Extent, behind extent newline = extent.trail ++ newline ∨
      behind extent newline = [] := by
    intro extent
    unfold behind
    split
    · exact .inl rfl
    · exact .inr rfl
  rw [read, splitNewline_append hbody hnewline] at h
  dsimp only at h
  split at h
  case h_1 value replaced _ =>
    dsimp only at h
    split at h
    · cases h
      exact ⟨_, _, (readExtent_append value body).symm, hbehind _, .inl rfl⟩
    · cases h
  case h_2 =>
    split at h
    · cases h
    · cases h
    case h_3 front name value hstatement =>
      dsimp only at h
      split at h
      · obtain ⟨text, htext, rfl⟩ := Option.map_eq_some_iff.mp h
        obtain ⟨key, -, hkey⟩ := Option.bind_eq_some_iff.mp htext
        obtain ⟨-, -, -, -, -, hsplit, -⟩ := readStatement_assign hstatement
        refine ⟨(readExtent .start value).token, (readExtent .start value).trail, ?_, hbehind _,
          .inr ⟨key, hkey⟩⟩
        rw [readExtent_append, hsplit]
      · cases h

/-- On a line at which no replaced value is open. -/
theorem read_cases (hs : s.Intact) (hbody : Unbroken body) (hnewline : IsLineEnd newline) :
    ((s.read table replacement (body ++ newline)).2 = none ∧
        (s.read table replacement (body ++ newline)).1.Intact) ∨
      ∃ front name text value,
        readStatement body = .assign front (some name) value ∧ replacement name = some text ∧
        ((s.read table replacement (body ++ newline)).2 = some ⟨front, text, []⟩ ∨
          (s.read table replacement (body ++ newline)).1.Intact ∧ ∃ token trail,
            body = front ++ (token ++ trail) ∧
            (s.read table replacement (body ++ newline)).2 =
              some ⟨front, text, trail ++ newline⟩) := by
  rw [read, splitNewline_append hbody hnewline]
  dsimp only
  split
  case h_1 value replaced hunfinished =>
    have hreplaced : replaced = false := by
      cases replaced with
      | false => rfl
      | true => exact absurd hunfinished (hs value)
    subst hreplaced
    refine .inl ⟨rfl, fun next => ?_⟩
    simp
  case h_2 hfinished =>
    have hintact : ∀ inTable, Intact ⟨inTable, s.unfinished⟩ := fun _ => hs
    split
    case h_1 => exact .inl ⟨rfl, hs⟩
    case h_2 => exact .inl ⟨rfl, hintact _⟩
    case h_3 front name value hstatement =>
      dsimp only
      cases hsplice : if s.inTable = true then (name.bind replacement).map fun text =>
          (⟨front, text, behind (readExtent .start value) newline⟩ : Splice) else none with
      | none =>
          refine .inl ⟨rfl, fun next => ?_⟩
          simp
      | some splice =>
          split at hsplice
          case isFalse => cases hsplice
          case isTrue =>
            obtain ⟨text, htext, rfl⟩ := Option.map_eq_some_iff.mp hsplice
            obtain ⟨key, rfl, hkey⟩ := Option.bind_eq_some_iff.mp htext
            refine .inr ⟨front, key, text, value, hstatement, hkey, ?_⟩
            unfold behind
            cases hnext : (readExtent .start value).next with
            | none =>
                obtain ⟨-, -, -, -, -, hsplit, -⟩ := readStatement_assign hstatement
                rw [← readExtent_append .start value] at hsplit
                exact .inr ⟨fun next => by simp, _, _, hsplit, rfl⟩
            | some next => exact .inl rfl

/-- Such a line keeps its end, unless a value that is replaced goes on behind it. -/
theorem splicedLine_cases (hs : s.Intact) (hbody : Unbroken body) (hnewline : IsLineEnd newline)
    (hreplacement : ∀ name text, replacement name = some text → '\n' ∉ text) :
    let next := s.read table replacement (body ++ newline)
    (next.1.Intact ∧ ∃ body', splicedLine next.2 (body ++ newline) = body' ++ newline ∧
        '\n' ∉ body') ∨
      '\n' ∉ splicedLine next.2 (body ++ newline) := by
  intro next
  have hplain := newline_notMem hbody
  rcases @read_cases table replacement s body newline hs hbody hnewline with
    ⟨hnone, hintact⟩ | ⟨front, name, text, value, hstatement, hname, hsplice | hsplice⟩
  · exact .inl ⟨hintact, body, by rw [hnone]; rfl, hplain⟩
  · obtain ⟨-, -, -, -, -, hsplit, -⟩ := readStatement_assign hstatement
    rw [hsplit, List.mem_append, not_or] at hplain
    refine .inr ?_
    simp [next, hsplice, splicedLine, Splice.line, hplain.1, hreplacement name text hname]
  · obtain ⟨hintact, token, trail, hsplit, hsplice⟩ := hsplice
    simp only [hsplit, List.mem_append, not_or] at hplain
    obtain ⟨hfront, -, htrail⟩ := hplain
    refine .inl ⟨hintact, front ++ (text ++ trail), ?_, ?_⟩
    · simp [next, hsplice, splicedLine, Splice.line]
    · simp [hfront, htrail, hreplacement name text hname]

/-- Splicing adds no newline. -/
theorem count_spliceLines {lines : List (List Char)} (hlines : Ended lines)
    (hreplacement : ∀ name text, replacement name = some text → '\n' ∉ text) :
    (s.spliceLines table replacement lines).flatten.count '\n' ≤ lines.flatten.count '\n' := by
  induction lines generalizing s with
  | nil => exact Nat.le_refl _
  | cons line lines ih =>
      obtain ⟨⟨body, newline, rfl, hbody, hnewline, -⟩, hlines⟩ := hlines
      rw [spliceLines, List.flatten_cons, List.flatten_cons, List.count_append,
        List.count_append]
      refine Nat.add_le_add ?_ (ih hlines)
      cases hsplice : (s.read table replacement (body ++ newline)).2 with
      | none => exact Nat.le_refl _
      | some splice =>
          rw [splicedLine]
          obtain ⟨token, trail, hsplit, hafter, htext⟩ := read_splice hbody hnewline hsplice
          have hplain := newline_notMem hbody
          rw [hsplit] at hplain
          simp only [List.mem_append, not_or] at hplain
          obtain ⟨hfront, -, htrail⟩ := hplain
          have htext' : '\n' ∉ splice.text := by
            rcases htext with hnil | ⟨name, hname⟩
            · simp [hnil]
            · exact hreplacement name _ hname
          have hline : splice.line.count '\n' = splice.after.count '\n' := by
            simp [Splice.line, List.count_append, List.count_eq_zero_of_not_mem hfront,
              List.count_eq_zero_of_not_mem htext']
          have hnew : splice.after.count '\n' ≤ newline.count '\n' := by
            rcases hafter with hafter | hafter
            · simp [hafter, List.count_append, List.count_eq_zero_of_not_mem htrail]
            · simp [hafter]
          calc splice.line.count '\n' ≤ newline.count '\n' := hline.trans_le hnew
            _ ≤ (body ++ newline).count '\n' := by
              rw [List.count_append]
              exact Nat.le_add_left _ _

end DocumentState

end Coding
