import ChartParsing.Description.Lexer
import ChartParsing.Proofs.Description.Filler

/-!
# How tokens are spelled

A bare name spells itself, and between quotes every character may be escaped, so
a quoted name has many spellings.  A spelling is read as its token wherever it
stands, as long as what follows does not continue it: only a bare name can be
continued, and a quoted name that is not closed reaches to the end of the text.
-/

namespace ChartParsing.Description

/-- A bare name or keyword. -/
structure IsWord (name : List Char) : Prop where
  nonempty : name ≠ []
  continues : ∀ c ∈ name, continuesName c = true
  noLineComment : ¬['/', '/'] <+: name
  noBlockComment : ¬['/', '*'] <+: name

/-- A way to write a name between quotes. -/
inductive Quotes : List Char → List Char → Prop where
  | nil : Quotes [] []
  | plain {c : Char} {name spelling : List Char} : c ≠ '\\' → c ≠ '\'' →
      Quotes name spelling → Quotes (c :: name) (c :: spelling)
  | escaped (c : Char) {name spelling : List Char} :
      Quotes name spelling → Quotes (c :: name) ('\\' :: c :: spelling)

namespace Token

/-- A way to write a token. -/
inductive SpelledBy : Token → List Char → Prop where
  | colon : SpelledBy .colon [':']
  | semicolon : SpelledBy .semicolon [';']
  | pipe : SpelledBy .pipe ['|']
  | word {name : List Char} : IsWord name → SpelledBy (.ofName name) name
  | quoted {name spelling : List Char} : Quotes name spelling →
      SpelledBy (.quoted (String.ofList name)) ('\'' :: (spelling ++ ['\'']))
  | unterminated {name spelling : List Char} : Quotes name spelling →
      SpelledBy (.unterminated (String.ofList name)) ('\'' :: spelling)
  /-- The text ends after the sign of an escape. -/
  | unterminatedEscape {name spelling : List Char} : Quotes name spelling →
      SpelledBy (.unterminated (String.ofList name)) ('\'' :: (spelling ++ ['\\']))

def isWord : Token → Bool
  | .start | .identifier _ => true
  | _ => false

def isUnterminated : Token → Bool
  | .unterminated _ => true
  | _ => false

/-- Whether a token ends where a given text begins. -/
structure EndsBefore (token : Token) (rest : List Char) : Prop where
  word : token.isWord = true → ∀ c ∈ rest.head?, continuesName c = false
  unterminated : token.isUnterminated = true → rest = []

theorem isWord_ofName (name : List Char) : (ofName name).isWord = true := by
  unfold ofName
  split <;> rfl

theorem isUnterminated_ofName (name : List Char) : (ofName name).isUnterminated = false := by
  unfold ofName
  split <;> rfl

theorem endsBefore_nil (token : Token) : token.EndsBefore [] :=
  ⟨fun _ _ absent => absurd absent (by simp), fun _ => rfl⟩

theorem endsBefore_ofName {name rest : List Char}
    (ends : ∀ c ∈ rest.head?, continuesName c = false) : (ofName name).EndsBefore rest :=
  ⟨fun _ => ends, fun unterminated =>
    absurd ((isUnterminated_ofName name).symm.trans unterminated) Bool.false_ne_true⟩

theorem endsBefore_of_closed {token : Token} (noWord : token.isWord = false)
    (terminated : token.isUnterminated = false) (rest : List Char) : token.EndsBefore rest :=
  ⟨fun word => absurd (noWord.symm.trans word) Bool.false_ne_true,
    fun unterminated => absurd (terminated.symm.trans unterminated) Bool.false_ne_true⟩

end Token

/-! ## Quoted names -/

section Quotes

variable {name spelling : List Char}

theorem readQuoted_plain {c : Char} (noEscape : c ≠ '\\') (noQuote : c ≠ '\'')
    (rest : List Char) : readQuoted (c :: rest) = (readQuoted rest).push c [c] := by
  rw [readQuoted]
  · exact noQuote
  · exact fun escape _ => noEscape escape
  · exact fun _ _ escape _ => noEscape escape

theorem Quotes.readQuoted_append (quotes : Quotes name spelling) (rest : List Char) :
    readQuoted (spelling ++ rest) =
      ⟨name ++ (readQuoted rest).name, (readQuoted rest).closed,
        spelling ++ (readQuoted rest).spelling, (readQuoted rest).rest⟩ := by
  induction quotes with
  | nil => rfl
  | plain noEscape noQuote _ induction =>
      rw [List.cons_append, readQuoted_plain noEscape noQuote, induction]
      rfl
  | escaped c _ induction =>
      rw [List.cons_append, List.cons_append, readQuoted, induction]
      rfl

/-- The text after an opening quote is a closed name and more, or all of it belongs
to a name. -/
theorem quotes_cases (text : List Char) :
    ∃ name spelling, Quotes name spelling ∧
      ((∃ rest, text = spelling ++ '\'' :: rest) ∨ text = spelling ∨
        text = spelling ++ ['\\']) := by
  fun_induction readQuoted text with
  | case1 => exact ⟨[], [], .nil, .inr (.inl rfl)⟩
  | case2 rest => exact ⟨[], [], .nil, .inl ⟨rest, rfl⟩⟩
  | case3 => exact ⟨[], [], .nil, .inr (.inr rfl)⟩
  | case4 c rest induction =>
      obtain ⟨name, spelling, quotes, read⟩ := induction
      refine ⟨c :: name, '\\' :: c :: spelling, .escaped c quotes, ?_⟩
      rcases read with ⟨more, rfl⟩ | rfl | rfl
      · exact .inl ⟨more, rfl⟩
      · exact .inr (.inl rfl)
      · exact .inr (.inr rfl)
  | case5 c rest noQuote noEnd noEscape induction =>
      obtain ⟨name, spelling, quotes, read⟩ := induction
      have plain : c ≠ '\\' := by
        intro escape
        cases rest with
        | nil => exact noEnd escape rfl
        | cons next rest => exact noEscape next rest escape rfl
      refine ⟨c :: name, c :: spelling, .plain plain noQuote quotes, ?_⟩
      rcases read with ⟨more, rfl⟩ | rfl | rfl
      · exact .inl ⟨more, rfl⟩
      · exact .inr (.inl rfl)
      · exact .inr (.inr rfl)

end Quotes

/-! ## Bare names -/

theorem takeWhile_append_of_all {α : Type} {keep : α → Bool} {first rest : List α}
    (all : ∀ value ∈ first, keep value = true) (ends : ∀ value ∈ rest.head?, keep value = false) :
    (first ++ rest).takeWhile keep = first ∧ (first ++ rest).dropWhile keep = rest := by
  rw [List.takeWhile_append_of_pos all, List.dropWhile_append_of_pos all]
  cases rest with
  | nil => simp
  | cons value rest => simp [ends value rfl]

theorem scan_word {c : Char} (continues : continuesName c = true) (rest : List Char) :
    scan c rest = ⟨.ofName (c :: rest.takeWhile continuesName),
      c :: rest.takeWhile continuesName, rest.dropWhile continuesName⟩ := by
  have noMark : isMark c = false := by
    simp only [continuesName, Bool.and_eq_true, Bool.not_eq_true'] at continues
    exact continues.2
  simp only [isMark, Bool.or_eq_false_iff, beq_eq_false_iff_ne] at noMark
  obtain ⟨⟨⟨colon, semicolon⟩, pipe⟩, quote⟩ := noMark
  rw [scan, if_neg colon, if_neg semicolon, if_neg pipe, if_neg quote]

theorem scan_quote (rest : List Char) :
    scan '\'' rest =
      ⟨if (readQuoted rest).closed then .quoted (String.ofList (readQuoted rest).name)
        else .unterminated (String.ofList (readQuoted rest).name),
        '\'' :: (readQuoted rest).spelling, (readQuoted rest).rest⟩ :=
  rfl

/-! ## Reading a spelling -/

namespace Token

variable {token : Token} {spelling rest : List Char}

/-- A spelling is read as its token if the token ends there. -/
theorem SpelledBy.exists_scan (spelled : token.SpelledBy spelling)
    (ends : token.EndsBefore rest) :
    ∃ c more, spelling = c :: more ∧ scan c (more ++ rest) = ⟨token, spelling, rest⟩ := by
  cases spelled with
  | colon | semicolon | pipe => exact ⟨_, [], rfl, rfl⟩
  | @word name word =>
      obtain ⟨c, more, rfl⟩ := List.exists_cons_of_ne_nil word.nonempty
      obtain ⟨first, later⟩ := List.forall_mem_cons.mp word.continues
      obtain ⟨taken, dropped⟩ :=
        takeWhile_append_of_all later (ends.word (isWord_ofName _))
      exact ⟨c, more, rfl, by rw [scan_word first, taken, dropped]⟩
  | quoted quotes =>
      refine ⟨'\'', _, rfl, ?_⟩
      rw [List.append_assoc, List.singleton_append, scan_quote, quotes.readQuoted_append]
      simp [readQuoted]
  | unterminated quotes =>
      cases ends.unterminated rfl
      refine ⟨'\'', _, rfl, ?_⟩
      rw [scan_quote, quotes.readQuoted_append]
      simp [readQuoted]
  | unterminatedEscape quotes =>
      cases ends.unterminated rfl
      refine ⟨'\'', _, rfl, ?_⟩
      rw [List.append_nil, scan_quote, quotes.readQuoted_append]
      simp [readQuoted]

/-- Where no layout begins, some token is spelled. -/
theorem exists_spelledBy {text : List Char} (begins : BeginsToken text) :
    ∃ token spelling rest, SpelledBy token spelling ∧ token.EndsBefore rest ∧
      text = spelling ++ rest := by
  obtain ⟨⟨c, first, visible⟩, noLine, noBlock⟩ := begins
  obtain ⟨rest, rfl⟩ := List.head?_eq_some_iff.mp first
  by_cases continues : continuesName c = true
  · have isWord : IsWord (c :: rest.takeWhile continuesName) := by
      refine ⟨List.cons_ne_nil _ _, ?_, ?_, ?_⟩
      · rintro other member
        rcases List.mem_cons.mp member with rfl | later
        · exact continues
        · exact List.all_eq_true.mp List.all_takeWhile other later
      · exact fun line => noLine
          (line.trans (List.cons_prefix_cons.mpr ⟨rfl, List.takeWhile_prefix _⟩))
      · exact fun block => noBlock
          (block.trans (List.cons_prefix_cons.mpr ⟨rfl, List.takeWhile_prefix _⟩))
    refine ⟨_, _, rest.dropWhile continuesName, .word isWord, endsBefore_ofName ?_, ?_⟩
    · intro other next
      have stops := List.head?_dropWhile_not continuesName rest
      rw [next] at stops
      exact stops
    · simp
  · have mark : isMark c = true := by
      simpa [continuesName, visible] using continues
    simp only [isMark, Bool.or_eq_true, beq_iff_eq] at mark
    rcases mark with ((rfl | rfl) | rfl) | rfl
    · exact ⟨.colon, _, rest, .colon, endsBefore_of_closed rfl rfl rest, rfl⟩
    · exact ⟨.semicolon, _, rest, .semicolon, endsBefore_of_closed rfl rfl rest, rfl⟩
    · exact ⟨.pipe, _, rest, .pipe, endsBefore_of_closed rfl rfl rest, rfl⟩
    · obtain ⟨name, spelling, quotes, ⟨more, rfl⟩ | rfl | rfl⟩ := quotes_cases rest
      · exact ⟨_, _, more, .quoted quotes, endsBefore_of_closed rfl rfl more, by simp⟩
      · exact ⟨_, _, [], .unterminated quotes, endsBefore_nil _, by simp⟩
      · exact ⟨_, _, [], .unterminatedEscape quotes, endsBefore_nil _, by simp⟩

theorem not_isPrefix_of_isWord {name rest : List Char} (word : IsWord name)
    (ends : ∀ c ∈ rest.head?, continuesName c = false) {second : Char}
    (continues : continuesName second = true) (opens : ¬['/', second] <+: name) :
    ¬['/', second] <+: name ++ rest := by
  intro opened
  obtain ⟨c, more, rfl⟩ := List.exists_cons_of_ne_nil word.nonempty
  cases more with
  | cons d more =>
      simp only [List.cons_append, List.cons_prefix_cons] at opened
      obtain ⟨rfl, rfl, _⟩ := opened
      exact opens ⟨more, rfl⟩
  | nil =>
      simp only [List.singleton_append, List.cons_prefix_cons] at opened
      obtain ⟨_, after, rfl⟩ := opened
      exact absurd continues (by simp [ends second rfl])

theorem beginsToken_of_ne_slash {c : Char} (visible : Text.isBlank c = false) (apart : c ≠ '/')
    (rest : List Char) : BeginsToken (c :: rest) :=
  ⟨⟨c, rfl, visible⟩, by simp [Ne.symm apart], by simp [Ne.symm apart]⟩

theorem SpelledBy.beginsToken (spelled : token.SpelledBy spelling)
    (ends : token.EndsBefore rest) : BeginsToken (spelling ++ rest) := by
  cases spelled with
  | @word name word =>
      have stops := ends.word (isWord_ofName _)
      refine ⟨?_, ?_, ?_⟩
      · obtain ⟨c, more, rfl⟩ := List.exists_cons_of_ne_nil word.nonempty
        have continues := word.continues c List.mem_cons_self
        simp only [continuesName, Bool.and_eq_true, Bool.not_eq_true'] at continues
        exact ⟨c, rfl, continues.1⟩
      · exact not_isPrefix_of_isWord word stops (by decide) word.noLineComment
      · exact not_isPrefix_of_isWord word stops (by decide) word.noBlockComment
  | _ => exact beginsToken_of_ne_slash (by decide) (by decide) _

theorem SpelledBy.ne_nil (spelled : token.SpelledBy spelling) : spelling ≠ [] := by
  cases spelled with
  | word word => exact word.nonempty
  | _ => exact List.cons_ne_nil _ _

end Token

end ChartParsing.Description
