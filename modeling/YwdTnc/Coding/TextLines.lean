import Mathlib.Data.List.Basic

/-!
# Lines of text

Text mode reading turns every kind of line end into a newline; `splitLines` takes a text
apart behind its line boundaries and loses nothing.
-/

namespace Coding

/-- Universal newlines: a carriage return, alone or before a newline, becomes a newline. -/
def universalNewlines : List Char → List Char
  | [] => []
  | '\r' :: '\n' :: text => '\n' :: universalNewlines text
  | '\r' :: text => '\n' :: universalNewlines text
  | c :: text => c :: universalNewlines text

/-- `text.replace("\r\n", "\n")`. -/
def replaceCrlf : List Char → List Char
  | [] => []
  | '\r' :: '\n' :: text => '\n' :: replaceCrlf text
  | c :: text => c :: replaceCrlf text

theorem not_mem_universalNewlines (text : List Char) : '\r' ∉ universalNewlines text := by
  fun_induction universalNewlines text with
  | case1 => exact List.not_mem_nil
  | case2 text ih => simpa using ih
  | case3 text _ ih => simpa using ih
  | case4 c text _ hc ih =>
      rw [List.mem_cons, not_or]
      exact ⟨fun h => hc h.symm, ih⟩

theorem universalNewlines_of_notMem {text : List Char} (h : '\r' ∉ text) :
    universalNewlines text = text := by
  fun_induction universalNewlines text with
  | case1 => rfl
  | case2 text ih => exact absurd List.mem_cons_self h
  | case3 text _ ih => exact absurd List.mem_cons_self h
  | case4 c text _ hc ih => rw [ih fun hmem => h (List.mem_cons_of_mem c hmem)]

theorem universalNewlines_eq_self_iff {text : List Char} :
    universalNewlines text = text ↔ '\r' ∉ text :=
  ⟨fun h => h ▸ not_mem_universalNewlines text, universalNewlines_of_notMem⟩

/-- The characters that `str.splitlines` ends a line at: newline to carriage return, the
file, group and record separators, next line, and the two separators of Unicode. -/
def isLineBreak (c : Char) : Bool :=
  10 ≤ c.toNat && c.toNat ≤ 13 || 28 ≤ c.toNat && c.toNat ≤ 30 || c.toNat = 0x85 ||
    c.toNat = 0x2028 || c.toNat = 0x2029

/-- `splitlines(keepends=True)` behind an unfinished line. -/
def splitLinesFrom (line : List Char) : List Char → List (List Char)
  | [] => if line = [] then [] else [line]
  | '\r' :: '\n' :: text => (line ++ ['\r', '\n']) :: splitLinesFrom [] text
  | c :: text =>
      if isLineBreak c then (line ++ [c]) :: splitLinesFrom [] text
      else splitLinesFrom (line ++ [c]) text

def splitLines (text : List Char) : List (List Char) := splitLinesFrom [] text

/-- No character that ends a line. -/
def Unbroken (line : List Char) : Prop := ∀ c ∈ line, isLineBreak c = false

/-- A line with nothing but its newline at the end. -/
def Terminated (line : List Char) : Prop := ∃ body, line = body ++ ['\n'] ∧ Unbroken body

/-- Lines that all end with a newline, the last one perhaps not. -/
def AreLines : List (List Char) → Prop
  | [] => True
  | [line] => Terminated line ∨ line ≠ [] ∧ Unbroken line
  | line :: lines => Terminated line ∧ AreLines lines

theorem areLines_cons {line : List Char} {lines : List (List Char)} (hline : Terminated line)
    (hlines : AreLines lines) : AreLines (line :: lines) := by
  cases lines with
  | nil => exact .inl hline
  | cons next lines => exact ⟨hline, hlines⟩

theorem unbroken_append {text text' : List Char} :
    Unbroken (text ++ text') ↔ Unbroken text ∧ Unbroken text' := by
  simp [Unbroken, or_imp, forall_and]

theorem unbroken_singleton {c : Char} : Unbroken [c] ↔ isLineBreak c = false := by
  simp [Unbroken]

theorem splitLinesFrom_unbroken {body : List Char} (hbody : Unbroken body) (line text : List Char) :
    splitLinesFrom line (body ++ text) = splitLinesFrom (line ++ body) text := by
  induction body generalizing line with
  | nil => rw [List.nil_append, List.append_nil]
  | cons c body ih =>
      have hc : isLineBreak c = false := hbody c List.mem_cons_self
      have hreturn : c ≠ '\r' := by
        rintro rfl
        exact absurd hc (by decide)
      rw [List.cons_append, splitLinesFrom, hc, if_neg Bool.false_ne_true,
        ih (fun d hd => hbody d (List.mem_cons_of_mem c hd)), List.append_assoc]
      · rfl
      · exact fun rest heq _ => hreturn heq

/-- Lines are found again in their text. -/
theorem splitLines_of_areLines {lines : List (List Char)} (h : AreLines lines) :
    splitLines lines.flatten = lines := by
  have hterminated : ∀ {line : List Char}, Terminated line → ∀ text,
      splitLines (line ++ text) = line :: splitLines text := by
    rintro _ ⟨body, rfl, hbody⟩ text
    unfold splitLines
    rw [List.append_assoc, splitLinesFrom_unbroken hbody]
    rfl
  induction lines with
  | nil => rfl
  | cons line lines ih =>
      rw [List.flatten_cons]
      cases lines with
      | nil =>
          rcases h with hline | ⟨hne, hline⟩
          · rw [hterminated hline]
            rfl
          · unfold splitLines
            rw [List.flatten_nil, splitLinesFrom_unbroken hline, List.nil_append, splitLinesFrom,
              if_neg hne]
      | cons next lines => rw [hterminated h.1, ih h.2]

/-! ### Lines that end with one character or with two -/

/-- A newline, alone or behind a carriage return, or none. -/
def IsLineEnd (newline : List Char) : Prop :=
  newline = [] ∨ newline = "\n".toList ∨ newline = "\r\n".toList

/-- Lines that all end so, and only the last one perhaps not at all. -/
def Ended : List (List Char) → Prop
  | [] => True
  | line :: lines =>
      (∃ body newline, line = body ++ newline ∧ Unbroken body ∧ IsLineEnd newline ∧
        (newline = [] → lines = [])) ∧ Ended lines

/-- The lines of a text whose only line breaks are newlines and carriage returns with a
newline behind them. -/
theorem ended_splitLinesFrom {line text : List Char} (hline : Unbroken line)
    (h : ∀ c ∈ replaceCrlf text, isLineBreak c = true → c = '\n') :
    Ended (splitLinesFrom line text) := by
  fun_induction splitLinesFrom line text with
  | case1 => trivial
  | case2 line hne =>
      exact ⟨⟨line, [], (List.append_nil line).symm, hline, .inl rfl, fun _ => rfl⟩, trivial⟩
  | case3 line text ih =>
      rw [replaceCrlf] at h
      exact ⟨⟨line, "\r\n".toList, rfl, hline, .inr (.inr rfl), nofun⟩,
        ih nofun fun c hc => h c (List.mem_cons_of_mem _ hc)⟩
  | case4 line c text hcrlf hbreak ih =>
      rw [replaceCrlf] at h
      · obtain rfl := h c List.mem_cons_self hbreak
        exact ⟨⟨line, "\n".toList, rfl, hline, .inr (.inl rfl), nofun⟩,
          ih nofun fun c hc => h c (List.mem_cons_of_mem _ hc)⟩
      · exact hcrlf
  | case5 line c text hcrlf hbreak ih =>
      rw [replaceCrlf] at h
      · have hc := unbroken_singleton.mpr (eq_false_of_ne_true hbreak)
        exact ih (unbroken_append.mpr ⟨hline, hc⟩) fun c hc => h c (List.mem_cons_of_mem _ hc)
      · exact hcrlf

theorem ended_splitLines {text : List Char}
    (h : ∀ c ∈ replaceCrlf text, isLineBreak c = true → c = '\n') : Ended (splitLines text) :=
  ended_splitLinesFrom nofun h

/-- Behind what has no newline, the first newline is the same. -/
theorem append_newline_inj {x y r r' : List Char} (hx : '\n' ∉ x) (hy : '\n' ∉ y) :
    x ++ '\n' :: r = y ++ '\n' :: r' ↔ x = y ∧ r = r' := by
  constructor
  · intro h
    induction x generalizing y with
    | nil =>
        cases y with
        | nil => exact ⟨rfl, (List.cons.inj h).2⟩
        | cons d y => exact absurd ((List.cons.inj h).1 ▸ List.mem_cons_self) hy
    | cons c x ih =>
        cases y with
        | nil => exact absurd (by simp [(List.cons.inj h).1]) hx
        | cons d y =>
            obtain ⟨hcd, hrest⟩ := List.cons.inj h
            obtain ⟨hxy, hr⟩ := ih (fun hmem => hx (List.mem_cons_of_mem c hmem))
              (fun hmem => hy (List.mem_cons_of_mem d hmem)) hrest
            exact ⟨by rw [hcd, hxy], hr⟩
  · rintro ⟨rfl, rfl⟩
    rfl

/-- Two lines with the same end, and what follows them. -/
theorem append_lineEnd_inj {x y newline r r' : List Char} (hx : '\n' ∉ x) (hy : '\n' ∉ y)
    (hnewline : IsLineEnd newline) (hlast : newline = [] → r = [] ∧ r' = []) :
    (x ++ newline) ++ r = (y ++ newline) ++ r' ↔ x = y ∧ r = r' := by
  rcases hnewline with rfl | rfl | rfl
  · obtain ⟨rfl, rfl⟩ := hlast rfl
    simp
  · have h := @append_newline_inj x y r r' hx hy
    simpa using h
  · have hx' : '\n' ∉ x ++ ['\r'] := by simpa using hx
    have hy' : '\n' ∉ y ++ ['\r'] := by simpa using hy
    have h := @append_newline_inj _ _ r r' hx' hy'
    simpa using h

theorem newline_notMem {body : List Char} (h : Unbroken body) : '\n' ∉ body := fun hmem =>
  absurd (h '\n' hmem) (by decide)

end Coding
