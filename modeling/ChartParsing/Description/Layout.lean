import ChartParsing.Text.Blank

/-!
# Layout

Between tokens a description may hold blanks, comments from `//` to the end of
the line, and comments from `/*` to the next `*/`.  A comment that is not closed
reaches to the end of the text.
-/

namespace ChartParsing.Description

inductive LayoutMode where
  | plain
  | line
  /-- A comment up to its closing mark. -/
  | block
  deriving DecidableEq, Repr

/-- Cut a text after the layout it begins with. -/
def splitLayout : LayoutMode → List Char → List Char × List Char
  | _, [] => ([], [])
  | .plain, '/' :: '/' :: rest =>
      let (layout, rest) := splitLayout .line rest
      ('/' :: '/' :: layout, rest)
  | .plain, '/' :: '*' :: rest =>
      let (layout, rest) := splitLayout .block rest
      ('/' :: '*' :: layout, rest)
  | .plain, c :: rest =>
      if Text.isBlank c then
        let (layout, rest) := splitLayout .plain rest
        (c :: layout, rest)
      else
        ([], c :: rest)
  | .line, c :: rest =>
      let (layout, rest) := splitLayout (if c = '\n' then .plain else .line) rest
      (c :: layout, rest)
  | .block, '*' :: '/' :: rest =>
      let (layout, rest) := splitLayout .plain rest
      ('*' :: '/' :: layout, rest)
  | .block, c :: rest =>
      let (layout, rest) := splitLayout .block rest
      (c :: layout, rest)

theorem splitLayout_append (mode : LayoutMode) (text : List Char) :
    (splitLayout mode text).1 ++ (splitLayout mode text).2 = text := by
  fun_induction splitLayout mode text <;> simp_all

theorem length_splitLayout_snd_le (mode : LayoutMode) (text : List Char) :
    (splitLayout mode text).2.length ≤ text.length := by
  have total := congrArg List.length (splitLayout_append mode text)
  rw [List.length_append] at total
  omega

end ChartParsing.Description
