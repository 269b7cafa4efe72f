import ChartParsing.Description.Layout
import ChartParsing.Description.Token
import ChartParsing.Text.ByteLength

/-!
# Cutting a description into lexemes

After the layout before it, a token is read to its end: a punctuation mark is
one character, a quoted name reaches to the next quote that is not escaped, and
a bare name to the next blank, punctuation mark or quote.  Spellings and layout
together make up the text.
-/

namespace ChartParsing.Description

/-- Whether a character is one of those that end a bare name beside blanks. -/
def isMark (c : Char) : Bool :=
  c == ':' || c == ';' || c == '|' || c == '\''

def continuesName (c : Char) : Bool :=
  !Text.isBlank c && !isMark c

/-- A token with its spelling and the text after it. -/
structure Scan where
  token : Token
  spelling : List Char
  rest : List Char
  deriving DecidableEq, Repr

/-- The text after an opening quote. -/
structure QuotedName where
  /-- The name without escapes. -/
  name : List Char
  /-- Whether there is a closing quote. -/
  closed : Bool
  /-- The spelling, with the closing quote. -/
  spelling : List Char
  rest : List Char
  deriving DecidableEq, Repr

/-- The name with one more character in front, spelled in the given way. -/
def QuotedName.push (later : QuotedName) (c : Char) (spelling : List Char) : QuotedName :=
  ⟨c :: later.name, later.closed, spelling ++ later.spelling, later.rest⟩

/-- Read a name to the quote that closes it.  A backslash gives the character after it no
special meaning, and stands for nothing at the end of the text. -/
def readQuoted : List Char → QuotedName
  | [] => ⟨[], false, [], []⟩
  | '\'' :: rest => ⟨[], true, ['\''], rest⟩
  | ['\\'] => ⟨[], false, ['\\'], []⟩
  | '\\' :: c :: rest => (readQuoted rest).push c ['\\', c]
  | c :: rest => (readQuoted rest).push c [c]

def Token.ofName (name : List Char) : Token :=
  if name = "start".toList then .start else .identifier (String.ofList name)

/-- Read the token that begins with a given character. -/
def scan (c : Char) (rest : List Char) : Scan :=
  if c = ':' then
    ⟨.colon, [c], rest⟩
  else if c = ';' then
    ⟨.semicolon, [c], rest⟩
  else if c = '|' then
    ⟨.pipe, [c], rest⟩
  else if c = '\'' then
    let read := readQuoted rest
    let name := String.ofList read.name
    ⟨if read.closed then .quoted name else .unterminated name, c :: read.spelling, read.rest⟩
  else
    let name := c :: rest.takeWhile continuesName
    ⟨.ofName name, name, rest.dropWhile continuesName⟩

theorem readQuoted_append (text : List Char) :
    (readQuoted text).spelling ++ (readQuoted text).rest = text := by
  fun_induction readQuoted text <;> simp_all [QuotedName.push]

/-- A token takes up its spelling and leaves the rest. -/
theorem scan_append (c : Char) (rest : List Char) :
    (scan c rest).spelling ++ (scan c rest).rest = c :: rest := by
  unfold scan
  split
  · rfl
  split
  · rfl
  split
  · rfl
  split
  · simp [readQuoted_append]
  · simp

theorem scan_spelling_ne_nil (c : Char) (rest : List Char) : (scan c rest).spelling ≠ [] := by
  unfold scan
  repeat' split
  all_goals simp

theorem length_scan_rest_lt (c : Char) (rest : List Char) :
    (scan c rest).rest.length < (c :: rest).length := by
  have total := congrArg List.length (scan_append c rest)
  have positive := List.length_pos_iff.mpr (scan_spelling_ne_nil c rest)
  rw [List.length_append] at total
  omega

def lexemesFrom (offset : Nat) (text : List Char) : List Lexeme :=
  match _cut : splitLayout .plain text with
  | (_, []) => []
  | (layout, c :: rest) =>
      let start := offset + Text.byteLength layout
      let stop := start + Text.byteLength (scan c rest).spelling
      ⟨start, stop, (scan c rest).token⟩ :: lexemesFrom stop (scan c rest).rest
termination_by text.length
decreasing_by
  have shorter := length_scan_rest_lt c rest
  have inside := length_splitLayout_snd_le .plain text
  rw [_cut] at inside
  exact Nat.lt_of_lt_of_le shorter inside

def lexemes (text : String) : List Lexeme :=
  lexemesFrom 0 text.toList

end ChartParsing.Description
