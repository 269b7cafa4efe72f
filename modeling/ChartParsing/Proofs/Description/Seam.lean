import ChartParsing.Proofs.Description.Tiling

/-!
# One text after another

A newline ends whatever a text leaves open at its end, but for a quoted name and a comment
that waits for its closing mark.  A text behind the newline is then read as it is on its own.
A comment that does wait hides all of the text behind it that has no closing mark.
-/

namespace ChartParsing

theorem Text.append_inj_of_byteLength {front other back rest : List Char}
    (same : front ++ back = other ++ rest) (length : byteLength front = byteLength other) :
    front = other ∧ back = rest := by
  induction front generalizing other with
  | nil =>
      cases other with
      | nil => exact ⟨rfl, same⟩
      | cons d other => exact absurd length.symm (Nat.ne_of_gt (byteLength_pos (by simp)))
  | cons c front induction =>
      cases other with
      | nil => exact absurd length (Nat.ne_of_gt (byteLength_pos (by simp)))
      | cons d other =>
          obtain ⟨rfl, later⟩ := List.cons_eq_cons.mp same
          obtain ⟨rfl, after⟩ := induction later (Nat.add_left_cancel length)
          exact ⟨rfl, after⟩

namespace Description

open Text (byteLength byteLength_append)

/-- After the last lexeme and some layout a comment waits for its closing mark. -/
def EndsInBlockComment (text : String) : Prop :=
  ∃ front layout body unclosed,
    text.toList = front ++ (layoutChars layout ++ OpenComment.chars (.block body unclosed)) ∧
      byteLength front = lastStop 0 (lexemes text)

theorem layoutChars_append (first second : List Filler) :
    layoutChars (first ++ second) = layoutChars first ++ layoutChars second :=
  List.flatMap_append

section Tiling

variable {offset : Nat} {text : List Char} {earlier later : List Lexeme}

theorem Tiles.after_layout (layout : List Filler)
    (tiles : Tiles (offset + byteLength (layoutChars layout)) text later) :
    Tiles offset (layoutChars layout ++ text) later := by
  cases tiles with
  | last _ more unclosed =>
      rw [← List.append_assoc, ← layoutChars_append]
      exact .last offset (layout ++ more) unclosed
  | next more spelled ends start stop tiles =>
      rw [← List.append_assoc, ← layoutChars_append]
      refine .next (layout ++ more) spelled ends ?_ stop tiles
      rw [start, layoutChars_append, byteLength_append, Nat.add_assoc]

/-- The lexemes of a text stay when more is written after it, if what is written
does not go on with a name.  What else is read is read from the layout at the end
of the text. -/
theorem Tiles.exists_append (tiles : Tiles offset text earlier)
    (terminated : ∀ lexeme ∈ earlier, lexeme.token.isUnterminated = false) :
    ∃ front layout unclosed, text = front ++ (layoutChars layout ++ openChars unclosed) ∧
      lastStop offset earlier = offset + byteLength front ∧
      ∀ {back : List Char} {later : List Lexeme}, (∀ c ∈ back.head?, continuesName c = false) →
        Tiles (lastStop offset earlier) (layoutChars layout ++ openChars unclosed ++ back) later →
        Tiles offset (text ++ back) (earlier ++ later) := by
  induction tiles with
  | last offset layout unclosed => exact ⟨[], layout, unclosed, rfl, rfl, fun _ tiles => tiles⟩
  | @next _ _ _ before token read rest _ spelled ends startsAt stopsAt _ induction =>
      obtain ⟨here, afterwards⟩ := List.forall_mem_cons.mp terminated
      obtain ⟨front, layout, unclosed, same, last, goesOn⟩ := induction afterwards
      refine ⟨layoutChars before ++ (read ++ front), layout, unclosed, ?_, ?_, ?_⟩
      · rw [same]
        simp only [List.append_assoc]
      · rw [lastStop, last, byteLength_append, byteLength_append]
        omega
      · intro back later stops tiles
        have stillEnds : token.EndsBefore (rest ++ back) := by
          refine ⟨?_, fun waits => absurd (here.symm.trans waits) Bool.false_ne_true⟩
          intro word c next
          cases rest with
          | nil => exact stops c next
          | cons d rest => exact ends.word word c next
        rw [List.append_assoc, List.append_assoc]
        exact .next before spelled stillEnds startsAt stopsAt (goesOn stops tiles)

end Tiling

theorem exists_layout_newline (layout : List Filler) {unclosed : Option OpenComment}
    (noBlock : ∀ body waits, unclosed ≠ some (.block body waits)) :
    ∃ completed : List Filler,
      layoutChars completed = layoutChars layout ++ openChars unclosed ++ ['\n'] := by
  obtain ⟨filler, closes⟩ : ∃ filler : Filler, filler.chars = openChars unclosed ++ ['\n'] := by
    match unclosed with
    | none => exact ⟨.blank '\n' (by decide), rfl⟩
    | some (.line body oneLine) => exact ⟨.lineComment body oneLine, rfl⟩
    | some (.block body waits) => exact absurd rfl (noBlock body waits)
  refine ⟨layout ++ [filler], ?_⟩
  rw [layoutChars_append, layoutChars_cons, closes, List.append_assoc, List.append_assoc]
  rfl

theorem not_isInfix_newline {body more : List Char} (unclosed : ¬['*', '/'] <:+: body)
    (later : ¬['*', '/'] <:+: more) : ¬['*', '/'] <:+: body ++ '\n' :: more := by
  induction body with
  | nil =>
      intro inside
      rcases List.infix_cons_iff.mp inside with begins | behind
      · exact absurd (List.cons_prefix_cons.mp begins).1 (by decide)
      · exact later behind
  | cons c body induction =>
      intro inside
      rcases List.infix_cons_iff.mp inside with begins | behind
      · obtain ⟨rfl, next⟩ := List.cons_prefix_cons.mp begins
        cases body with
        | nil => exact absurd (List.cons_prefix_cons.mp next).1 (by decide)
        | cons d body =>
            obtain ⟨rfl, _⟩ := List.cons_prefix_cons.mp next
            exact unclosed ⟨[], body, rfl⟩
      · exact induction
          (fun there => unclosed (there.trans (List.suffix_cons c body).isInfix)) behind

theorem stops_newline (rest : List Char) :
    ∀ c ∈ ('\n' :: rest).head?, continuesName c = false := by
  rintro c ⟨⟩
  decide

theorem toList_newline (first second : String) :
    (first ++ "\n" ++ second).toList = first.toList ++ '\n' :: second.toList := by
  simp

section Seam

variable {first second : String}

/-- On a line of its own, a text is read after another one as it is on its own. -/
theorem lexemes_newline (closed : ¬EndsInBlockComment first)
    (terminated : ∀ lexeme ∈ lexemes first, lexeme.token.isUnterminated = false) :
    lexemes (first ++ "\n" ++ second) =
      lexemes first ++ (lexemes second).map (Lexeme.shift (first.utf8ByteSize + 1)) := by
  have tiles : Tiles 0 first.toList (lexemes first) := tiles_iff.mpr rfl
  have after : Tiles 0 second.toList (lexemes second) := tiles_iff.mpr rfl
  obtain ⟨front, layout, unclosed, same, last, goesOn⟩ := tiles.exists_append terminated
  rw [Nat.zero_add] at last
  have noBlock : ∀ body waits, unclosed ≠ some (.block body waits) := by
    rintro body waits rfl
    exact closed ⟨front, layout, body, waits, same, last.symm⟩
  obtain ⟨completed, closes⟩ := exists_layout_newline layout noBlock
  have bytes : first.utf8ByteSize + 1 =
      lastStop 0 (lexemes first) + byteLength (layoutChars completed) := by
    rw [← Text.byteLength_toList, closes, same, last]
    simp only [byteLength_append, Nat.add_assoc]
    rfl
  have shifted := after.shift (first.utf8ByteSize + 1)
  rw [Nat.add_zero, bytes] at shifted
  have rest := shifted.after_layout completed
  rw [← bytes, closes, List.append_assoc _ ['\n'], List.singleton_append] at rest
  have joined := goesOn (stops_newline _) rest
  rw [lexemes, toList_newline, joined.lexemesFrom_eq]

/-- A comment that waits for its closing mark hides a text without one. -/
theorem EndsInBlockComment.lexemes_newline (ends : EndsInBlockComment first)
    (terminated : ∀ lexeme ∈ lexemes first, lexeme.token.isUnterminated = false)
    (noMark : ¬['*', '/'] <:+: second.toList) :
    lexemes (first ++ "\n" ++ second) = lexemes first := by
  have tiles : Tiles 0 first.toList (lexemes first) := tiles_iff.mpr rfl
  obtain ⟨front, layout, unclosed, same, last, goesOn⟩ := tiles.exists_append terminated
  obtain ⟨other, more, body, waits, otherSame, place⟩ := ends
  rw [Nat.zero_add] at last
  obtain ⟨rfl, behind⟩ :=
    Text.append_inj_of_byteLength (same.symm.trans otherSame) (last.symm.trans place.symm)
  have hidden := not_isInfix_newline waits noMark
  have rest : Tiles (lastStop 0 (lexemes first))
      (layoutChars layout ++ openChars unclosed ++ '\n' :: second.toList) [] := by
    rw [behind, List.append_assoc]
    exact .last _ more (some (.block (body ++ '\n' :: second.toList) hidden))
  have joined := goesOn (stops_newline _) rest
  rw [List.append_nil] at joined
  rw [lexemes, toList_newline, joined.lexemesFrom_eq]

/-- After an open comment a closed one is read only from its closing mark on. -/
example : lexemes ("a /* b" ++ "\n" ++ "c /* d */ e") =
    lexemes "a" ++ [⟨17, 18, .identifier "e"⟩] := by
  decide +kernel

end Seam

end Description

end ChartParsing
