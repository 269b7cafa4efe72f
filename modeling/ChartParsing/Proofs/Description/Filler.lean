import ChartParsing.Description.Layout

/-!
# What layout consists of

Layout is written with blanks and with comments that are closed; only at the end
of a text may one comment stay open.  Every text begins with such layout, and
after it either the text ends or something else begins that is no layout.
Cutting a text after its layout finds exactly this place.
-/

namespace ChartParsing.Description

/-- A complete piece of layout. -/
inductive Filler where
  | blank (c : Char) (white : Text.isBlank c = true)
  | lineComment (body : List Char) (oneLine : '\n' ∉ body)
  | blockComment (body : List Char) (unclosed : ¬['*', '/'] <:+: body)

/-- A comment that reaches to the end of the text. -/
inductive OpenComment where
  | line (body : List Char) (oneLine : '\n' ∉ body)
  | block (body : List Char) (unclosed : ¬['*', '/'] <:+: body)

def Filler.chars : Filler → List Char
  | .blank c _ => [c]
  | .lineComment body _ => '/' :: '/' :: (body ++ ['\n'])
  | .blockComment body _ => '/' :: '*' :: (body ++ ['*', '/'])

def layoutChars (layout : List Filler) : List Char :=
  layout.flatMap Filler.chars

def OpenComment.chars : OpenComment → List Char
  | .line body _ => '/' :: '/' :: body
  | .block body _ => '/' :: '*' :: body

/-- The characters after the last complete piece of layout at the end of a text. -/
def openChars (unclosed : Option OpenComment) : List Char :=
  unclosed.elim [] OpenComment.chars

/-- A text goes on with something that is no layout. -/
structure BeginsToken (text : List Char) : Prop where
  visible : ∃ c ∈ text.head?, Text.isBlank c = false
  noLineComment : ¬['/', '/'] <+: text
  noBlockComment : ¬['/', '*'] <+: text

theorem layoutChars_cons (filler : Filler) (layout : List Filler) :
    layoutChars (filler :: layout) = filler.chars ++ layoutChars layout :=
  List.flatMap_cons

theorem Filler.chars_ne_nil (filler : Filler) : filler.chars ≠ [] := by
  cases filler <;> exact List.cons_ne_nil _ _

/-! ## Cutting a text that begins with layout -/

/-- A text without the end of a line is part of the comment before it. -/
theorem splitLayout_line_append {body : List Char} (oneLine : '\n' ∉ body) (rest : List Char) :
    splitLayout .line (body ++ rest) =
      (body ++ (splitLayout .line rest).1, (splitLayout .line rest).2) := by
  induction body with
  | nil => rfl
  | cons c body induction =>
      obtain ⟨apart, later⟩ := not_or.mp (mt List.mem_cons.mpr oneLine)
      simp [splitLayout, Ne.symm apart, induction later]

theorem splitLayout_block_cons {c : Char} {rest : List Char}
    (unclosed : ¬['*', '/'] <+: c :: rest) :
    splitLayout .block (c :: rest) =
      (c :: (splitLayout .block rest).1, (splitLayout .block rest).2) := by
  rw [splitLayout]
  intro more star slash
  apply unclosed
  rw [star, slash]
  exact ⟨more, rfl⟩

/-- A text without a closing mark is part of the comment before it, if what follows does
not complete such a mark. -/
theorem splitLayout_block_append {body : List Char} (unclosed : ¬['*', '/'] <:+: body)
    {rest : List Char} (apart : rest.head? ≠ some '/') :
    splitLayout .block (body ++ rest) =
      (body ++ (splitLayout .block rest).1, (splitLayout .block rest).2) := by
  induction body with
  | nil => rfl
  | cons c body induction =>
      have later : ¬['*', '/'] <:+: body :=
        fun inside => unclosed (inside.trans (List.suffix_cons c body).isInfix)
      have here : ¬['*', '/'] <+: c :: (body ++ rest) := by
        intro begins
        cases body with
        | nil =>
            obtain ⟨more, same⟩ := begins
            cases same
            exact apart rfl
        | cons d body =>
            apply unclosed
            simp only [List.cons_append, List.cons_prefix_cons] at begins
            obtain ⟨rfl, rfl, _⟩ := begins
            exact ⟨[], body, rfl⟩
      rw [List.cons_append, splitLayout_block_cons here, induction later]
      rfl

theorem splitLayout_blank {c : Char} (white : Text.isBlank c = true) (rest : List Char) :
    splitLayout .plain (c :: rest) =
      (c :: (splitLayout .plain rest).1, (splitLayout .plain rest).2) := by
  have apart : c ≠ '/' := by
    rintro rfl
    exact absurd white (by decide)
  rw [splitLayout, if_pos white]
  · exact fun _ slash => absurd slash apart
  · exact fun _ slash => absurd slash apart

theorem splitLayout_filler (filler : Filler) (rest : List Char) :
    splitLayout .plain (filler.chars ++ rest) =
      (filler.chars ++ (splitLayout .plain rest).1, (splitLayout .plain rest).2) := by
  cases filler with
  | blank c white => exact splitLayout_blank white rest
  | lineComment body oneLine =>
      simp [Filler.chars, splitLayout, splitLayout_line_append oneLine]
  | blockComment body unclosed =>
      have star : ('*' :: '/' :: rest).head? ≠ some '/' := by simp
      simp [Filler.chars, splitLayout, splitLayout_block_append unclosed star]

theorem splitLayout_layoutChars (layout : List Filler) (rest : List Char) :
    splitLayout .plain (layoutChars layout ++ rest) =
      (layoutChars layout ++ (splitLayout .plain rest).1, (splitLayout .plain rest).2) := by
  induction layout with
  | nil => rfl
  | cons filler layout induction =>
      rw [layoutChars_cons, List.append_assoc, splitLayout_filler, induction, List.append_assoc]

theorem splitLayout_openChars (unclosed : Option OpenComment) :
    splitLayout .plain (openChars unclosed) = (openChars unclosed, []) := by
  cases unclosed with
  | none => rfl
  | some comment =>
      cases comment with
      | line body oneLine =>
          have whole : splitLayout .line (body ++ []) = (body ++ [], []) :=
            splitLayout_line_append oneLine []
          rw [List.append_nil] at whole
          simp [openChars, OpenComment.chars, splitLayout, whole]
      | block body unclosed =>
          have whole : splitLayout .block (body ++ []) = (body ++ [], []) :=
            splitLayout_block_append unclosed (by simp)
          rw [List.append_nil] at whole
          simp [openChars, OpenComment.chars, splitLayout, whole]

theorem splitLayout_of_beginsToken {text : List Char} (begins : BeginsToken text) :
    splitLayout .plain text = ([], text) := by
  obtain ⟨⟨c, first, visible⟩, noLine, noBlock⟩ := begins
  obtain ⟨rest, rfl⟩ := List.head?_eq_some_iff.mp first
  rw [splitLayout, visible]
  · rfl
  · rintro more rfl rfl
    exact noLine ⟨more, rfl⟩
  · rintro more rfl rfl
    exact noBlock ⟨more, rfl⟩

/-! ## The layout of a text -/

theorem line_cases (text : List Char) :
    '\n' ∉ text ∨ ∃ body rest, '\n' ∉ body ∧ text = body ++ '\n' :: rest := by
  by_cases ends : '\n' ∈ text
  · obtain ⟨body, rest, same, oneLine⟩ := List.eq_append_cons_of_mem ends
    exact .inr ⟨body, rest, oneLine, same⟩
  · exact .inl ends

theorem block_cases (text : List Char) :
    ¬['*', '/'] <:+: text ∨
      ∃ body rest, ¬['*', '/'] <:+: body ∧ text = body ++ '*' :: '/' :: rest := by
  induction text with
  | nil => exact .inl (by simp)
  | cons c text induction =>
      by_cases here : ['*', '/'] <+: c :: text
      · obtain ⟨rest, same⟩ := here
        exact .inr ⟨[], rest, by simp, same.symm⟩
      · rcases induction with unclosed | ⟨body, rest, unclosed, rfl⟩
        · left
          rw [List.infix_cons_iff, not_or]
          exact ⟨here, unclosed⟩
        · refine .inr ⟨c :: body, rest, ?_, rfl⟩
          rw [List.infix_cons_iff, not_or]
          exact ⟨fun begins => here (begins.trans (List.prefix_append (c :: body) _)), unclosed⟩

/-- A text is layout to its end, or it goes on with something else after some layout. -/
inductive LaidOut : List Char → Prop where
  | whole (layout : List Filler) (unclosed : Option OpenComment) :
      LaidOut (layoutChars layout ++ openChars unclosed)
  | before (layout : List Filler) {rest : List Char} :
      BeginsToken rest → LaidOut (layoutChars layout ++ rest)

theorem LaidOut.filler (filler : Filler) {rest : List Char} (laidOut : LaidOut rest) :
    LaidOut (filler.chars ++ rest) := by
  cases laidOut with
  | whole layout unclosed =>
      rw [← List.append_assoc, ← layoutChars_cons]
      exact .whole (filler :: layout) unclosed
  | before layout begins =>
      rw [← List.append_assoc, ← layoutChars_cons]
      exact .before (filler :: layout) begins

theorem laidOut (text : List Char) : LaidOut text := by
  induction size : text.length using Nat.strongRecOn generalizing text with
  | ind size induction =>
      have after : ∀ (filler : Filler) (rest : List Char), filler.chars ++ rest = text →
          LaidOut text := by
        rintro filler rest rfl
        have positive := List.length_pos_iff.mpr filler.chars_ne_nil
        rw [List.length_append] at size
        exact (induction rest.length (by omega) rest rfl).filler filler
      cases text with
      | nil => exact .whole [] none
      | cons c rest =>
          by_cases white : Text.isBlank c = true
          · exact after (.blank c white) rest rfl
          by_cases line : ['/', '/'] <+: c :: rest
          · obtain ⟨body, same⟩ := line
            rw [← same] at after ⊢
            rcases line_cases body with oneLine | ⟨body, later, oneLine, rfl⟩
            · exact .whole [] (some (.line body oneLine))
            · exact after (.lineComment body oneLine) later (by simp [Filler.chars])
          by_cases block : ['/', '*'] <+: c :: rest
          · obtain ⟨body, same⟩ := block
            rw [← same] at after ⊢
            rcases block_cases body with unclosed | ⟨body, later, unclosed, rfl⟩
            · exact .whole [] (some (.block body unclosed))
            · exact after (.blockComment body unclosed) later (by simp [Filler.chars])
          have visible : Text.isBlank c = false := by simpa using white
          exact .before [] ⟨⟨c, rfl, visible⟩, line, block⟩

end ChartParsing.Description
