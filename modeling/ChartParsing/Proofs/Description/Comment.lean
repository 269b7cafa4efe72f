import ChartParsing.Description.Reader
import ChartParsing.Proofs.Description.Seam

/-!
# A comment directly behind a token

A closed comment may be written directly behind a punctuation mark or a quoted name.  The tokens
stay, those behind the comment stand later by its length, and the text is read with the same
result, except that an error behind the comment is reported later too.  A bare name or keyword
is different.  Only a blank, a mark or a quote ends it, so it goes on with the comment, which is
not read as one.
-/

namespace ChartParsing.Description

open Text (byteLength byteLength_append)

/-- A text with a closed comment between its two parts. -/
def commented (front body back : String) : String :=
  front ++ "/*" ++ body ++ "*/" ++ back

/-- A lexeme behind a place stands later by some bytes. -/
def Lexeme.delay (place amount : Nat) (lexeme : Lexeme) : Lexeme :=
  if place ≤ lexeme.start then lexeme.shift amount else lexeme

theorem Lexeme.delay_of_le {place amount : Nat} {lexeme : Lexeme}
    (behind : place ≤ lexeme.start) : lexeme.delay place amount = lexeme.shift amount :=
  if_pos behind

theorem Lexeme.delay_of_lt {place amount : Nat} {lexeme : Lexeme}
    (before : lexeme.start < place) : lexeme.delay place amount = lexeme :=
  if_neg (Nat.not_le_of_gt before)

/-- An error behind a place is reported later by some bytes. -/
def Error.delay (place amount : Nat) : Error → Error
  | .unexpected offset expected found =>
      .unexpected (if place ≤ offset then amount + offset else offset) expected found
  | .rule cause => .rule cause

/-! ## Layout behind a lexeme -/

section Layout

variable {offset : Nat} {text : List Char} {earlier later lexemes : List Lexeme} {lexeme : Lexeme}

/-- Where a token ends depends on the next character alone. -/
theorem Token.EndsBefore.of_append {token : Token} {front back : List Char}
    (ends : token.EndsBefore (front ++ back)) (nonempty : front ≠ []) (other : List Char) :
    token.EndsBefore (front ++ other) := by
  obtain ⟨c, front, rfl⟩ := List.exists_cons_of_ne_nil nonempty
  constructor
  · exact ends.word
  · intro unterminated
    exact absurd (ends.unterminated unterminated) (List.cons_ne_nil _ _)

/-- Layout behind a token that ends wherever it is read leaves the lexemes up to this
token in place and delays the others by its length. -/
theorem Tiles.insert_layout (tiles : Tiles offset text (earlier ++ lexeme :: later))
    (noWord : lexeme.token.isWord = false)
    (terminated : lexeme.token.isUnterminated = false) (layout : List Filler) :
    ∃ front back, front ≠ [] ∧ text = front ++ back ∧ offset + byteLength front = lexeme.stop ∧
      Tiles offset (front ++ (layoutChars layout ++ back))
        (earlier ++ lexeme :: later.map (Lexeme.shift (byteLength (layoutChars layout)))) := by
  induction earlier generalizing offset text with
  | nil =>
      cases tiles with
      | @next _ start stop before token spelling rest _ spelled ends startsAt stopsAt after =>
          have moved := after.shift (byteLength (layoutChars layout))
          rw [Nat.add_comm] at moved
          refine ⟨layoutChars before ++ spelling, rest, ?_, ?_, ?_, ?_⟩
          · simp [spelled.ne_nil]
          · simp
          · simp only [byteLength_append]
            omega
          · rw [List.append_assoc]
            exact .next before spelled (Token.endsBefore_of_closed noWord terminated _) startsAt
              stopsAt (moved.after_layout layout)
  | cons first earlier induction =>
      cases tiles with
      | @next _ start stop before token spelling rest _ spelled ends startsAt stopsAt after =>
          obtain ⟨front, back, nonempty, rfl, place, moved⟩ := induction after
          refine ⟨layoutChars before ++ (spelling ++ front), back, ?_, ?_, ?_, ?_⟩
          · simp [nonempty]
          · simp
          · simp only [byteLength_append]
            omega
          · rw [List.append_assoc, List.append_assoc]
            exact .next before spelled (ends.of_append nonempty _) startsAt stopsAt moved

theorem Tiles.endsBefore {front back : List Char}
    (tiles : Tiles offset (front ++ back) (earlier ++ lexeme :: later))
    (place : offset + byteLength front = lexeme.stop) : lexeme.token.EndsBefore back := by
  obtain ⟨before, layout, spelling, rest, same, last, start, stop, _, ends, _⟩ :=
    tiles.exists_split
  have length : byteLength front = byteLength (before ++ (layoutChars layout ++ spelling)) := by
    simp only [byteLength_append]
    omega
  have whole : front ++ back = before ++ (layoutChars layout ++ spelling) ++ rest := by
    simp [same]
  rw [(Text.append_inj_of_byteLength whole length).2]
  exact ends

theorem Tiles.le_start (tiles : Tiles offset text lexemes) :
    ∀ lexeme ∈ lexemes, offset ≤ lexeme.start := by
  induction tiles with
  | last => simp
  | next layout spelled ends startsAt stopsAt after induction =>
      rw [List.forall_mem_cons]
      constructor
      · exact Nat.le.intro startsAt.symm
      · intro lexeme member
        have behind := induction lexeme member
        omega

theorem Tiles.starts (tiles : Tiles offset text (earlier ++ lexeme :: later)) :
    lexeme.start < lexeme.stop ∧ (∀ other ∈ earlier, other.start < lexeme.stop) ∧
      ∀ other ∈ later, lexeme.stop ≤ other.start := by
  induction earlier generalizing offset text with
  | nil =>
      cases tiles with
      | next layout spelled ends startsAt stopsAt after =>
          have positive := Text.byteLength_pos spelled.ne_nil
          exact ⟨by simp only; omega, by simp, after.le_start⟩
  | cons first earlier induction =>
      cases tiles with
      | next layout spelled ends startsAt stopsAt after =>
          obtain ⟨nonempty, before, behind⟩ := induction after
          have next := after.le_start lexeme (by simp)
          refine ⟨nonempty, ?_, behind⟩
          rw [List.forall_mem_cons]
          exact ⟨by simp only; omega, before⟩

theorem Tiles.map_delay (tiles : Tiles offset text (earlier ++ lexeme :: later)) (amount : Nat) :
    (earlier ++ lexeme :: later).map (Lexeme.delay lexeme.stop amount) =
      earlier ++ lexeme :: later.map (Lexeme.shift amount) := by
  obtain ⟨nonempty, before, behind⟩ := tiles.starts
  have stay : earlier.map (Lexeme.delay lexeme.stop amount) = earlier.map id := by
    apply List.map_congr_left
    intro other member
    exact Lexeme.delay_of_lt (before other member)
  have move : later.map (Lexeme.delay lexeme.stop amount) = later.map (Lexeme.shift amount) := by
    apply List.map_congr_left
    intro other member
    exact Lexeme.delay_of_le (behind other member)
  rw [List.map_append, List.map_cons, stay, List.map_id, move, Lexeme.delay_of_lt nonempty]

end Layout

/-! ## Reading delayed lexemes -/

namespace Reader

variable {place amount : Nat}

theorem mapError_close (reader : Reader) (lhs : Nonterminal) (symbols : List Symbol)
    (next : Mode) :
    (reader.close lhs symbols next).mapError (Error.delay place amount) =
      reader.close lhs symbols next := by
  unfold close
  split <;> rfl

theorem step_delay (reader : Reader) (lexeme : Lexeme) :
    reader.step (lexeme.delay place amount) =
      (reader.step lexeme).mapError (Error.delay place amount) := by
  have token : (lexeme.delay place amount).token = lexeme.token := by
    unfold Lexeme.delay
    split <;> rfl
  have start : (lexeme.delay place amount).start =
      if place ≤ lexeme.start then amount + lexeme.start else lexeme.start := by
    unfold Lexeme.delay
    split <;> rfl
  unfold step
  rw [token, start]
  split
  all_goals first
    | rfl
    | exact (mapError_close _ _ _ _).symm

/-- Where an error is reported is all that depends on where the lexemes stand. -/
theorem run_delay (reader : Reader) (lexemes : List Lexeme) :
    reader.run (lexemes.map (Lexeme.delay place amount)) =
      ((reader.run lexemes).1, (reader.run lexemes).2.map (Error.delay place amount)) := by
  induction lexemes generalizing reader with
  | nil => rfl
  | cons lexeme rest induction =>
      rw [List.map_cons, run, run, step_delay]
      cases reader.step lexeme with
      | ok next => exact induction next
      | error error => rfl

end Reader

theorem parse_delay {text other : String} {place amount : Nat}
    (same : lexemes other = (lexemes text).map (Lexeme.delay place amount))
    (size : other.utf8ByteSize = amount + text.utf8ByteSize)
    (inside : place ≤ text.utf8ByteSize) :
    parse other = (parse text).mapError (Error.delay place amount) := by
  unfold parse read
  rw [same, Reader.run_delay]
  rcases Reader.empty.run (lexemes text) with ⟨final, error?⟩
  cases error? with
  | some error => rfl
  | none =>
      simp only [Option.map_none]
      cases final.missing? with
      | none => rfl
      | some expected =>
          have late : Error.delay place amount (.unexpected text.utf8ByteSize expected none) =
              .unexpected other.utf8ByteSize expected none := by
            simp [Error.delay, size, inside]
          exact congrArg Except.error late.symm

theorem parse_eq_error {text : String} {error : Error} (failed : (read text).error? = some error) :
    parse text = .error error := by
  simp [parse, Reading.result, failed]

/-! ## The comment as layout -/

section Comment

variable {front body back : String} {earlier later : List Lexeme} {lexeme : Lexeme}

theorem toList_commented (unclosed : ¬['*', '/'] <:+: body.toList) :
    (commented front body back).toList =
      front.toList ++ (layoutChars [.blockComment body.toList unclosed] ++ back.toList) := by
  simp [commented, layoutChars, Filler.chars]

theorem byteLength_comment (unclosed : ¬['*', '/'] <:+: body.toList) :
    byteLength (layoutChars [.blockComment body.toList unclosed]) = body.utf8ByteSize + 4 := by
  have slash : '/'.utf8Size = 1 := rfl
  have star : '*'.utf8Size = 1 := rfl
  simp only [layoutChars, List.flatMap_singleton, Filler.chars, Text.byteLength_cons,
    byteLength_append, Text.byteLength_nil, Text.byteLength_toList, slash, star]
  omega

theorem utf8ByteSize_commented :
    (commented front body back).utf8ByteSize =
      body.utf8ByteSize + 4 + (front ++ back).utf8ByteSize := by
  have opening : "/*".utf8ByteSize = 2 := rfl
  have closing : "*/".utf8ByteSize = 2 := rfl
  simp only [commented, String.utf8ByteSize_append, opening, closing]
  omega

/-- Behind a token that ends wherever it is read, a closed comment is layout. -/
theorem lexemes_commented (same : lexemes (front ++ back) = earlier ++ lexeme :: later)
    (place : front.utf8ByteSize = lexeme.stop) (terminated : lexeme.token.isUnterminated = false)
    (unclosed : ¬['*', '/'] <:+: body.toList) (noWord : lexeme.token.isWord = false) :
    lexemes (commented front body back) =
      earlier ++ lexeme :: later.map (Lexeme.shift (body.utf8ByteSize + 4)) := by
  have tiles : Tiles 0 (front ++ back).toList (earlier ++ lexeme :: later) := tiles_iff.mpr same
  obtain ⟨before, after, _, parts, last, moved⟩ :=
    tiles.insert_layout noWord terminated [.blockComment body.toList unclosed]
  have length : byteLength before = byteLength front.toList := by
    rw [Text.byteLength_toList]
    omega
  rw [String.toList_append] at parts
  obtain ⟨rfl, rfl⟩ := Text.append_inj_of_byteLength parts.symm length
  rw [← toList_commented, byteLength_comment] at moved
  exact moved.lexemesFrom_eq

theorem not_isWord_of_commented
    (same : lexemes (commented front body back) = earlier ++ lexeme :: later)
    (place : front.utf8ByteSize = lexeme.stop) (unclosed : ¬['*', '/'] <:+: body.toList) :
    lexeme.token.isWord = false := by
  have tiles : Tiles 0 (commented front body back).toList (earlier ++ lexeme :: later) :=
    tiles_iff.mpr same
  rw [toList_commented unclosed] at tiles
  have ends := tiles.endsBefore (by rw [Text.byteLength_toList, Nat.zero_add, place])
  cases word : lexeme.token.isWord with
  | false => rfl
  | true => exact absurd (ends.word word '/' rfl) (by decide)

end Comment

/-- A closed comment directly behind a token that is neither a bare name nor a keyword
changes nothing but the places behind it, in the lexemes and in what is read from them.
Directly behind a bare name or a keyword, a comment always changes the lexemes. -/
theorem comment_behind_lexeme {text : String} {earlier later : List Lexeme} {lexeme : Lexeme}
    (same : lexemes text = earlier ++ lexeme :: later)
    (terminated : lexeme.token.isUnterminated = false) :
    (∃ front back, text = front ++ back ∧ front.utf8ByteSize = lexeme.stop) ∧
    ∀ front body back : String, text = front ++ back → front.utf8ByteSize = lexeme.stop →
      ¬['*', '/'] <:+: body.toList →
      (lexemes (commented front body back) =
          earlier ++ lexeme :: later.map (Lexeme.shift (body.utf8ByteSize + 4)) ↔
        lexeme.token.isWord = false) ∧
      (lexeme.token.isWord = false →
        parse (commented front body back) =
          (parse text).mapError (Error.delay lexeme.stop (body.utf8ByteSize + 4))) := by
  have tiles : Tiles 0 text.toList (earlier ++ lexeme :: later) := tiles_iff.mpr same
  constructor
  · obtain ⟨rest, ⟨front, back, whole, place, _⟩, _⟩ := tiles.inPlace.rest
    exact ⟨front, rest ++ back, by rw [whole, String.append_assoc], place⟩
  · intro front body back whole place unclosed
    have inside := tiles.inPlace.inside
    subst whole
    have kept := lexemes_commented same place terminated unclosed
    refine ⟨⟨?_, kept⟩, ?_⟩
    · intro unchanged
      exact not_isWord_of_commented unchanged place unclosed
    · intro noWord
      apply parse_delay
      · rw [kept noWord, same, tiles.map_delay]
      · exact utf8ByteSize_commented
      · exact inside

/-- Behind the colon, a comment with a quote in it leaves the rules as they are and
moves the name behind it. -/
theorem comment_behind_lexeme_sample :
    lexemes "S:/*'é*/'a';" =
        [⟨0, 1, .identifier "S"⟩, ⟨1, 2, .colon⟩, ⟨9, 12, .quoted "a"⟩, ⟨12, 13, .semicolon⟩] ∧
      parse "S:/*'é*/'a';" = parse "S:'a';" := by
  have same : lexemes "S:'a';" = [⟨0, 1, .identifier "S"⟩] ++ ⟨1, 2, .colon⟩ ::
      [⟨2, 5, .quoted "a"⟩, ⟨5, 6, .semicolon⟩] := by
    decide +kernel
  obtain ⟨_, inserted⟩ := comment_behind_lexeme same rfl
  obtain ⟨lexed, read⟩ := inserted "S:" "'é" "'a';" rfl rfl (by decide)
  have text : commented "S:" "'é" "'a';" = "S:/*'é*/'a';" := by decide
  rw [text] at lexed read
  have accepted : (parse "S:'a';").toOption.isSome = true := by decide +kernel
  refine ⟨lexed.mpr rfl, ?_⟩
  rw [read rfl]
  cases result : parse "S:'a';" with
  | ok description => rfl
  | error error => simp [result, Except.toOption] at accepted

/-- Directly behind a keyword a comment is not read as one, and a text may be no
description any more.  Behind a colon the comment is read as one, and the error behind
it is reported later. -/
theorem comment_continues_keyword :
    ¬(∀ (text front body back : String) (earlier later : List Lexeme) (lexeme : Lexeme),
        lexemes text = earlier ++ lexeme :: later → lexeme.token.isUnterminated = false →
        text = front ++ back → front.utf8ByteSize = lexeme.stop →
        ¬['*', '/'] <:+: body.toList →
        lexemes (commented front body back) =
          earlier ++ lexeme :: later.map (Lexeme.shift (body.utf8ByteSize + 4))) ∧
      (parse "start S;").toOption.isSome = true ∧
      parse (commented "start" "" " S;") =
        .error (.unexpected 10 .colon (some (.identifier "S"))) ∧
      parse "S::" = .error (.unexpected 2 .alternative (some .colon)) ∧
      parse (commented "S:" "" ":") = .error (.unexpected 6 .alternative (some .colon)) := by
  refine ⟨?_, by decide +kernel, parse_eq_error (by decide +kernel),
    parse_eq_error (by decide +kernel), parse_eq_error (by decide +kernel)⟩
  intro transparent
  have same : lexemes "start S;" =
      [] ++ ⟨0, 5, .start⟩ :: [⟨6, 7, .identifier "S"⟩, ⟨7, 8, .semicolon⟩] := by
    decide +kernel
  have claimed := transparent "start S;" "start" "" " S;" _ _ _ same rfl rfl rfl (by decide)
  have read : lexemes (commented "start" "" " S;") =
      [⟨0, 9, .identifier "start/**/"⟩, ⟨10, 11, .identifier "S"⟩, ⟨11, 12, .semicolon⟩] := by
    decide +kernel
  rw [read] at claimed
  cases claimed

end ChartParsing.Description
