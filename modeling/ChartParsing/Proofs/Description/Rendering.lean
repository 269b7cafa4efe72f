import ChartParsing.Proofs.Description.Tiling

/-!
# Writing tokens with layout

Every token but a name that is not closed can be written: a bare name as it is, a
quoted name with its quotes and backslashes escaped.  Any layout may stand before,
between and after the tokens, if it keeps a bare name apart from a bare name after
it and does not continue one.  Such a text is read as the tokens it was written
from, where they were written.
-/

namespace ChartParsing.Description

open Text (byteLength byteLength_append)

/-- A name as it is written between quotes. -/
def escape (name : List Char) : List Char :=
  name.flatMap fun c => if c = '\'' ∨ c = '\\' then ['\\', c] else [c]

namespace Token

/-- How a token is written. -/
def spelling : Token → List Char
  | .colon => [':']
  | .semicolon => [';']
  | .pipe => ['|']
  | .start => "start".toList
  | .identifier name => name.toList
  | .quoted name => '\'' :: (escape name.toList ++ ['\''])
  | .unterminated name => '\'' :: escape name.toList

/-- The tokens that can be written. -/
inductive Writable : Token → Prop where
  | colon : Writable .colon
  | semicolon : Writable .semicolon
  | pipe : Writable .pipe
  | start : Writable .start
  | identifier {name : String} : IsWord name.toList → name ≠ "start" → Writable (.identifier name)
  | quoted (name : String) : Writable (.quoted name)

end Token

/-- A token with the layout in front of it. -/
structure Piece where
  layout : List Filler
  token : Token

def Piece.chars (piece : Piece) : List Char :=
  layoutChars piece.layout ++ piece.token.spelling

/-- A text of pieces with more layout at its end. -/
def written (pieces : List Piece) (trailing : List Filler) : List Char :=
  pieces.flatMap Piece.chars ++ layoutChars trailing

/-- The lexemes of pieces that are written from an offset on. -/
def placed : Nat → List Piece → List Lexeme
  | _, [] => []
  | offset, piece :: later =>
      let start := offset + byteLength (layoutChars piece.layout)
      let stop := start + byteLength piece.token.spelling
      ⟨start, stop, piece.token⟩ :: placed stop later

/-- Layout is empty or begins with a blank. -/
def BlankFirst (layout : List Filler) : Prop :=
  ∀ c ∈ (layoutChars layout).head?, Text.isBlank c = true

/-- What comes after a bare name or keyword does not continue it. -/
inductive Spaced : List Piece → List Filler → Prop where
  | nil (trailing : List Filler) : Spaced [] trailing
  | last {piece : Piece} {trailing : List Filler} :
      (piece.token.isWord = true → BlankFirst trailing) → Spaced [piece] trailing
  | next {piece next : Piece} {later : List Piece} {trailing : List Filler} :
      (piece.token.isWord = true → BlankFirst next.layout) →
      (piece.token.isWord = true → next.token.isWord = true → next.layout ≠ []) →
      Spaced (next :: later) trailing → Spaced (piece :: next :: later) trailing

/-! ## Spellings -/

theorem quotes_escape (name : List Char) : Quotes name (escape name) := by
  induction name with
  | nil => exact .nil
  | cons c name induction =>
      rw [escape, List.flatMap_cons, ← escape]
      split
      · exact .escaped c induction
      · next plain =>
          obtain ⟨noQuote, noEscape⟩ := not_or.mp plain
          exact .plain noEscape noQuote induction

theorem isWord_start : IsWord "start".toList :=
  ⟨by decide, List.all_eq_true.mp (by decide), by decide, by decide⟩

namespace Token

variable {token : Token}

theorem ofName_toList {name : String} (other : name ≠ "start") :
    ofName name.toList = .identifier name := by
  rw [ofName, if_neg fun same => other (String.toList_injective same), String.ofList_toList]

theorem Writable.spelledBy (writable : token.Writable) : token.SpelledBy token.spelling := by
  cases writable with
  | colon => exact .colon
  | semicolon => exact .semicolon
  | pipe => exact .pipe
  | start => exact .word isWord_start
  | identifier word other =>
      have spelled := SpelledBy.word word
      rwa [ofName_toList other] at spelled
  | quoted name =>
      have spelled := SpelledBy.quoted (quotes_escape name.toList)
      rwa [String.ofList_toList] at spelled

theorem Writable.isUnterminated (writable : token.Writable) : token.isUnterminated = false := by
  cases writable <;> rfl

theorem Writable.exists_mark (writable : token.Writable) (noWord : token.isWord = false) :
    ∃ c rest, token.spelling = c :: rest ∧ isMark c = true := by
  cases writable with
  | start | identifier => cases noWord
  | _ => exact ⟨_, _, rfl, rfl⟩

end Token

/-! ## Reading what is written -/

section Written

variable {piece : Piece} {pieces : List Piece} {trailing : List Filler}

theorem written_cons (piece : Piece) (later : List Piece) (trailing : List Filler) :
    written (piece :: later) trailing =
      layoutChars piece.layout ++ (piece.token.spelling ++ written later trailing) := by
  rw [written, List.flatMap_cons, Piece.chars, List.append_assoc, List.append_assoc, ← written]

theorem layoutChars_ne_nil {layout : List Filler} (some : layout ≠ []) :
    layoutChars layout ≠ [] := by
  obtain ⟨filler, layout, rfl⟩ := List.exists_cons_of_ne_nil some
  rw [layoutChars_cons]
  exact List.append_ne_nil_of_left_ne_nil filler.chars_ne_nil _

theorem blankFirst_nil : BlankFirst [] :=
  fun _ first => by cases first

theorem blankFirst_blank {c : Char} (white : Text.isBlank c = true) (layout : List Filler) :
    BlankFirst (.blank c white :: layout) := by
  rintro _ ⟨⟩
  exact white

theorem BlankFirst.not_continuesName {layout : List Filler} (blankFirst : BlankFirst layout)
    {c : Char} (first : c ∈ (layoutChars layout).head?) : continuesName c = false := by
  rw [continuesName, blankFirst c first]
  rfl

theorem Spaced.endsBefore {later : List Piece} (spaced : Spaced (piece :: later) trailing)
    (writable : ∀ other ∈ piece :: later, other.token.Writable) :
    piece.token.EndsBefore (written later trailing) := by
  obtain ⟨here, after⟩ := List.forall_mem_cons.mp writable
  refine ⟨fun word c first => ?_, fun unterminated =>
    absurd (here.isUnterminated.symm.trans unterminated) Bool.false_ne_true⟩
  cases spaced with
  | last blankFirst => exact (blankFirst word).not_continuesName first
  | @next _ next later _ blankFirst apart _ =>
      rw [written_cons] at first
      by_cases layout : next.layout = []
      · -- The token after it stands next to the word and is none.
        have noWord : next.token.isWord = false := by
          simpa using fun other => apart word other layout
        obtain ⟨mark, rest, spelled, isMark⟩ :=
          (after next List.mem_cons_self).exists_mark noWord
        rw [layout, spelled] at first
        cases first
        rw [continuesName, isMark, Bool.not_true, Bool.and_false]
      · have nonempty := layoutChars_ne_nil layout
        rw [List.head?_append, List.head?_eq_some_head nonempty, Option.some_or,
          ← List.head?_eq_some_head nonempty] at first
        exact (blankFirst word).not_continuesName first

theorem Spaced.later {later : List Piece} (spaced : Spaced (piece :: later) trailing) :
    Spaced later trailing := by
  cases spaced with
  | last => exact .nil trailing
  | next _ _ spaced => exact spaced

theorem tiles_written (offset : Nat) (writable : ∀ piece ∈ pieces, piece.token.Writable)
    (spaced : Spaced pieces trailing) :
    Tiles offset (written pieces trailing) (placed offset pieces) := by
  induction pieces generalizing offset with
  | nil =>
      have layout := Tiles.last offset trailing none
      rwa [openChars, Option.elim_none, List.append_nil] at layout
  | cons piece later induction =>
      obtain ⟨here, after⟩ := List.forall_mem_cons.mp writable
      rw [written_cons]
      exact .next piece.layout here.spelledBy (spaced.endsBefore writable) rfl rfl
        (induction _ after spaced.later)

/-- Writing tokens with layout and reading them gives back the tokens where
they were written. -/
theorem lexemes_written (writable : ∀ piece ∈ pieces, piece.token.Writable)
    (spaced : Spaced pieces trailing) :
    lexemes (String.ofList (written pieces trailing)) = placed 0 pieces := by
  rw [lexemes, String.toList_ofList]
  exact (tiles_written 0 writable spaced).lexemesFrom_eq

end Written

/-- A keyword behind a comment, a name with a slash, and a quoted name with a
comment in front. -/
def samplePieces : List Piece :=
  [⟨[.lineComment "it's é".toList (by decide)], .start⟩,
    ⟨[.blank ' ' (by decide), .blockComment "* /".toList (by decide)], .identifier "É/x"⟩,
    ⟨[], .semicolon⟩,
    ⟨[.blockComment ['*'] (by decide), .blank '\n' (by decide)], .quoted "it's \\"⟩]

theorem lexemes_written_sample :
    String.ofList (written samplePieces [.blank ' ' (by decide)]) =
        "//it's é\nstart /** /*/É/x;/***/\n'it\\'s \\\\' " ∧
      lexemes (String.ofList (written samplePieces [.blank ' ' (by decide)])) =
        [⟨10, 15, .start⟩, ⟨23, 27, .identifier "É/x"⟩, ⟨27, 28, .semicolon⟩,
          ⟨34, 44, .quoted "it's \\"⟩] := by
  have word : IsWord "É/x".toList :=
    ⟨by decide, List.all_eq_true.mp (by decide), by decide, by decide⟩
  have writable : ∀ piece ∈ samplePieces, piece.token.Writable := by
    simp only [samplePieces, List.forall_mem_cons]
    exact ⟨.start, .identifier word (by decide), .semicolon, .quoted _, by simp⟩
  have spaced : Spaced samplePieces [.blank ' ' (by decide)] := by
    refine .next (fun _ => blankFirst_blank _ _) (fun _ _ => List.cons_ne_nil _ _) ?_
    refine .next (fun _ => blankFirst_nil) (fun _ other => by cases other) ?_
    refine .next (fun word => by cases word) (fun word => by cases word) ?_
    exact .last fun word => by cases word
  refine ⟨by decide +kernel, ?_⟩
  rw [lexemes_written writable spaced]
  decide +kernel

end ChartParsing.Description
