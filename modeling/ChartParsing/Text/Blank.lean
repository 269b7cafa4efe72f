import ChartParsing.Text.CodeRange

/-!
# Blanks

The characters that separate words are those of the Unicode property
`White_Space`.  A text is cut into words at every run of blanks, so a word is
never empty and holds no blank.
-/

namespace ChartParsing.Text

/-- The code points of the property `White_Space`. -/
def blankRanges : List CodeRange :=
  [⟨0x9, 0xd⟩, ⟨0x20, 0x20⟩, ⟨0x85, 0x85⟩, ⟨0xa0, 0xa0⟩, ⟨0x1680, 0x1680⟩,
    ⟨0x2000, 0x200a⟩, ⟨0x2028, 0x2029⟩, ⟨0x202f, 0x202f⟩, ⟨0x205f, 0x205f⟩,
    ⟨0x3000, 0x3000⟩]

/-- Whether a character is white space. -/
def isBlank (c : Char) : Bool :=
  coveredBy blankRanges c

/-- The words of a text: its maximal non-empty runs without a blank. -/
def words (text : String) : List String :=
  ((text.toList.splitOnP isBlank).filter (· ≠ [])).map String.ofList

end ChartParsing.Text
