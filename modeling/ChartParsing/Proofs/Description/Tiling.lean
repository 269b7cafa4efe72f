import ChartParsing.Proofs.Description.Spelling

/-!
# Lexemes tile a text

A text is layout and spellings in turn.  Lexemes tile it if each of them covers a
spelling of its token that is not continued by what follows, and there is nothing
but layout in between.  The lexemes of a text are the only ones that tile it, so
whatever is read of a token, from its place in the text or on its own, can be
told from a tiling.
-/

namespace ChartParsing

/-- A part of a text stands between two byte offsets. -/
def Text.Between (text : String) (start stop : Nat) (part : String) : Prop :=
  ∃ front back, text = front ++ part ++ back ∧ front.utf8ByteSize = start ∧
    start + part.utf8ByteSize = stop

theorem Text.between_of_toList {text : String} {front part back : List Char}
    (same : text.toList = front ++ (part ++ back)) :
    Between text (byteLength front) (byteLength front + byteLength part) (String.ofList part) := by
  refine ⟨String.ofList front, String.ofList back, ?_, utf8ByteSize_ofList front, ?_⟩
  · rw [← String.ofList_append, ← String.ofList_append, List.append_assoc, ← same,
      String.ofList_toList]
  · rw [utf8ByteSize_ofList]

namespace Description

open Text (Between byteLength byteLength_append)

/-- The lexemes cover the spellings in a text that begins at an offset. -/
inductive Tiles : Nat → List Char → List Lexeme → Prop where
  | last (offset : Nat) (layout : List Filler) (unclosed : Option OpenComment) :
      Tiles offset (layoutChars layout ++ openChars unclosed) []
  | next {offset start stop : Nat} (layout : List Filler) {token : Token}
      {spelling rest : List Char} {lexemes : List Lexeme} :
      token.SpelledBy spelling → token.EndsBefore rest →
      start = offset + byteLength (layoutChars layout) → stop = start + byteLength spelling →
      Tiles stop rest lexemes →
      Tiles offset (layoutChars layout ++ (spelling ++ rest)) (⟨start, stop, token⟩ :: lexemes)

/-- A lexeme of a text that stands behind some bytes of another one. -/
def Lexeme.shift (amount : Nat) (lexeme : Lexeme) : Lexeme :=
  ⟨amount + lexeme.start, amount + lexeme.stop, lexeme.token⟩

/-- Where the last of some lexemes ends, or an offset if there are none. -/
def lastStop : Nat → List Lexeme → Nat
  | offset, [] => offset
  | _, lexeme :: later => lastStop lexeme.stop later

/-! ## The lexemes of a text -/

section Lexemes

variable {offset : Nat} {text layout : List Char} {lexemes : List Lexeme}

theorem lexemesFrom_of_end (cut : splitLayout .plain text = (layout, [])) :
    lexemesFrom offset text = [] := by
  rw [lexemesFrom]
  split
  · rfl
  · next c rest other =>
      cases cut.symm.trans other

theorem lexemesFrom_of_token {c : Char} {rest : List Char}
    (cut : splitLayout .plain text = (layout, c :: rest)) :
    lexemesFrom offset text =
      ⟨offset + byteLength layout,
          offset + byteLength layout + byteLength (scan c rest).spelling, (scan c rest).token⟩ ::
        lexemesFrom (offset + byteLength layout + byteLength (scan c rest).spelling)
          (scan c rest).rest := by
  rw [lexemesFrom]
  split
  · next other =>
      cases cut.symm.trans other
  · next other =>
      cases cut.symm.trans other
      rfl

theorem Tiles.lexemesFrom_eq (tiles : Tiles offset text lexemes) :
    lexemesFrom offset text = lexemes := by
  induction tiles with
  | last offset layout unclosed =>
      apply lexemesFrom_of_end
      rw [splitLayout_layoutChars, splitLayout_openChars]
  | @next _ _ _ layout _ _ rest _ spelled ends start stop _ induction =>
      have begins := spelled.beginsToken ends
      obtain ⟨c, more, rfl, scanned⟩ := spelled.exists_scan ends
      have cut : splitLayout .plain (layoutChars layout ++ (c :: more ++ rest)) =
          (layoutChars layout, c :: (more ++ rest)) := by
        rw [splitLayout_layoutChars, splitLayout_of_beginsToken begins, List.append_nil,
          List.cons_append]
      rw [lexemesFrom_of_token cut, scanned, ← start, ← stop, induction]

theorem exists_tiles (offset : Nat) (text : List Char) : ∃ lexemes, Tiles offset text lexemes := by
  induction size : text.length using Nat.strongRecOn generalizing offset text with
  | ind size induction =>
      cases laidOut text with
      | whole layout unclosed => exact ⟨[], .last offset layout unclosed⟩
      | before layout begins =>
          obtain ⟨token, spelling, rest, spelled, ends, rfl⟩ := Token.exists_spelledBy begins
          have positive := List.length_pos_iff.mpr spelled.ne_nil
          simp only [List.length_append] at size
          obtain ⟨lexemes, later⟩ := induction rest.length (by omega) _ rest rfl
          exact ⟨_, .next layout spelled ends rfl rfl later⟩

/-- The lexemes of a text are those that tile it. -/
theorem tiles_iff : Tiles offset text lexemes ↔ lexemesFrom offset text = lexemes := by
  constructor
  · exact Tiles.lexemesFrom_eq
  · rintro rfl
    obtain ⟨lexemes, tiles⟩ := exists_tiles offset text
    rwa [tiles.lexemesFrom_eq]

end Lexemes

/-! ## A lexeme in its place -/

section Place

variable {offset : Nat} {text : List Char} {earlier later lexemes : List Lexeme} {lexeme : Lexeme}

theorem Tiles.exists_split (tiles : Tiles offset text (earlier ++ lexeme :: later)) :
    ∃ front layout spelling back,
      text = front ++ (layoutChars layout ++ (spelling ++ back)) ∧
        lastStop offset earlier = offset + byteLength front ∧
        lexeme.start = lastStop offset earlier + byteLength (layoutChars layout) ∧
        lexeme.stop = lexeme.start + byteLength spelling ∧
        lexeme.token.SpelledBy spelling ∧ lexeme.token.EndsBefore back ∧
        Tiles lexeme.stop back later := by
  induction earlier generalizing offset text with
  | nil =>
      cases tiles with
      | next layout spelled ends start stop tiles =>
          exact ⟨[], layout, _, _, rfl, rfl, start, stop, spelled, ends, tiles⟩
  | cons first earlier induction =>
      cases tiles with
      | @next _ start stop before _ read _ _ _ _ startsAt stopsAt tiles =>
          obtain ⟨front, layout, spelling, back, rfl, last, place⟩ := induction tiles
          refine ⟨layoutChars before ++ (read ++ front), layout, spelling, back, ?_, ?_, place⟩
          · simp only [List.append_assoc]
          · rw [lastStop, last, byteLength_append, byteLength_append]
            omega

theorem Tiles.exists_end (tiles : Tiles offset text lexemes) :
    ∃ front layout unclosed, text = front ++ (layoutChars layout ++ openChars unclosed) ∧
      lastStop offset lexemes = offset + byteLength front := by
  induction tiles with
  | last offset layout unclosed => exact ⟨[], layout, unclosed, rfl, rfl⟩
  | @next _ _ _ before _ read _ _ _ _ startsAt stopsAt _ induction =>
      obtain ⟨front, layout, unclosed, rfl, last⟩ := induction
      refine ⟨layoutChars before ++ (read ++ front), layout, unclosed, ?_, ?_⟩
      · simp only [List.append_assoc]
      · rw [lastStop, last, byteLength_append, byteLength_append]
        omega

theorem Tiles.shift (amount : Nat) (tiles : Tiles offset text lexemes) :
    Tiles (amount + offset) text (lexemes.map (Lexeme.shift amount)) := by
  induction tiles with
  | last offset layout unclosed => exact .last _ layout unclosed
  | @next _ first last layout _ _ _ _ spelled ends start stop _ induction =>
      exact .next layout spelled ends (show amount + first = _ by omega)
        (show amount + last = amount + first + _ by omega) induction

theorem Tiles.map_lexemes (tiles : Tiles offset text lexemes) :
    (Description.lexemes (String.ofList text)).map (Lexeme.shift offset) = lexemes := by
  rw [Description.lexemes, String.toList_ofList]
  have shifted := (tiles_iff.mpr (rfl : lexemesFrom 0 text = _)).shift offset
  exact shifted.lexemesFrom_eq.symm.trans tiles.lexemesFrom_eq

theorem Token.SpelledBy.lexemes_eq {token : Token} {spelling : List Char}
    (spelled : token.SpelledBy spelling) :
    Description.lexemes (String.ofList spelling) = [⟨0, byteLength spelling, token⟩] := by
  rw [Description.lexemes, String.toList_ofList, ← tiles_iff]
  have alone : Tiles 0 (layoutChars [] ++ (spelling ++ [])) [⟨0, byteLength spelling, token⟩] :=
    .next [] spelled (endsBefore_nil token) rfl (Nat.zero_add _).symm (.last _ [] none)
  rwa [List.append_nil] at alone

end Place

/-- A lexeme in its place in a text, between the lexemes before it and those after it. -/
structure InPlace (text : String) (earlier : List Lexeme) (lexeme : Lexeme)
    (later : List Lexeme) : Prop where
  nonempty : lexeme.start < lexeme.stop
  inside : lexeme.stop ≤ text.utf8ByteSize
  /-- There is nothing but complete layout in front. -/
  layout : ∃ layout, Between text (lastStop 0 earlier) lexeme.start
    (String.ofList (layoutChars layout))
  /-- The lexeme is what its part of the text alone is read as. -/
  alone : ∃ spelling, Between text lexeme.start lexeme.stop spelling ∧
    lexemes spelling = [⟨0, lexeme.stop - lexeme.start, lexeme.token⟩]
  /-- The lexemes after it are what the rest of the text alone is read as, and a bare
  name or keyword ends only at the end of the text, a blank or a mark. -/
  rest : ∃ rest, Between text lexeme.stop text.utf8ByteSize rest ∧
    (lexemes rest).map (Lexeme.shift lexeme.stop) = later ∧
    (lexeme.token.isWord = true →
      ∀ c ∈ rest.toList.head?, Text.isBlank c = true ∨ isMark c = true)
  unterminated : lexeme.token.isUnterminated = true →
    later = [] ∧ lexeme.stop = text.utf8ByteSize

/-- The text after the last lexeme is layout, of which the last comment may be open. -/
def EndsInLayout (text : String) (lexemes : List Lexeme) : Prop :=
  ∃ layout unclosed, Between text (lastStop 0 lexemes) text.utf8ByteSize
    (String.ofList (layoutChars layout ++ openChars unclosed))

theorem Tiles.inPlace {text : String} {earlier later : List Lexeme} {lexeme : Lexeme}
    (tiles : Tiles 0 text.toList (earlier ++ lexeme :: later)) :
    InPlace text earlier lexeme later := by
  obtain ⟨front, layout, spelling, back, same, last, start, stop, spelled, ends, after⟩ :=
    tiles.exists_split
  rw [Nat.zero_add] at last
  have positive := Text.byteLength_pos spelled.ne_nil
  have total : text.utf8ByteSize = lexeme.stop + byteLength back := by
    rw [← Text.byteLength_toList, same]
    simp only [byteLength_append]
    omega
  have before : text.toList = (front ++ layoutChars layout) ++ (spelling ++ back) := by
    rw [same, List.append_assoc]
  have between : text.toList = (front ++ layoutChars layout ++ spelling) ++ (back ++ []) := by
    rw [before, List.append_nil, List.append_assoc _ spelling]
  have layoutPlace : Between text (lastStop 0 earlier) lexeme.start
      (String.ofList (layoutChars layout)) := by
    rw [start, last]
    exact Text.between_of_toList same
  have spellingPlace : Between text lexeme.start lexeme.stop (String.ofList spelling) := by
    rw [stop, start, last, ← byteLength_append]
    exact Text.between_of_toList before
  have restPlace : Between text lexeme.stop text.utf8ByteSize (String.ofList back) := by
    rw [total, stop, start, last, ← byteLength_append, ← byteLength_append]
    exact Text.between_of_toList between
  refine ⟨by omega, by omega, ⟨layout, layoutPlace⟩, ⟨_, spellingPlace, ?_⟩,
    ⟨_, restPlace, after.map_lexemes, ?_⟩, ?_⟩
  · rw [spelled.lexemes_eq, stop, Nat.add_sub_cancel_left]
  · intro word c next
    rw [String.toList_ofList] at next
    have stops := ends.word word c next
    rw [continuesName, Bool.and_eq_false_iff, Bool.not_eq_false', Bool.not_eq_false'] at stops
    exact stops
  · intro unterminated
    cases ends.unterminated unterminated
    exact ⟨after.lexemesFrom_eq.symm.trans (lexemesFrom_of_end rfl), total.symm⟩

/-- The lexemes of a text tile it: every one is found in its place, and after the last
there is only layout. -/
theorem lexemes_tile_text (text : String) :
    (∀ earlier lexeme later, lexemes text = earlier ++ lexeme :: later →
      InPlace text earlier lexeme later) ∧
    EndsInLayout text (lexemes text) := by
  have tiles : Tiles 0 text.toList (lexemes text) := tiles_iff.mpr rfl
  constructor
  · intro earlier lexeme later same
    rw [same] at tiles
    exact tiles.inPlace
  · obtain ⟨front, layout, unclosed, same, last⟩ := tiles.exists_end
    rw [Nat.zero_add] at last
    refine ⟨layout, unclosed, ?_⟩
    have whole : text.toList = front ++ (layoutChars layout ++ openChars unclosed ++ []) := by
      rw [same, List.append_nil]
    rw [last, ← Text.byteLength_toList, same, byteLength_append]
    exact Text.between_of_toList whole

/-- Slashes go on with a bare name, and a comment that is not closed hides the rest. -/
example : lexemes "x//y '/*'/* z" = [⟨0, 4, .identifier "x//y"⟩, ⟨5, 9, .quoted "/*"⟩] := by
  decide +kernel

end Description

end ChartParsing
