import ChartParsing.Proofs.Description.Reading
import ChartParsing.Proofs.Description.Viability

/-!
# The first fault of a description

A text can fail to be a description in three ways: a token cannot follow the
tokens before it, the text ends too early, or an alternative is closed that is
not in normal form.  Reading reports the fault that comes first.  An alternative
is at fault only when it is closed, so an alternative with too many symbols gives
way to a token that cannot stand inside it.
-/

namespace ChartParsing.Description

/-- The tokens that an expectation speaks of. -/
inductive Expectation.Offers : Expectation → Token → Prop where
  | rules (lhs : String) : Offers .statement (.identifier lhs)
  | declaration : Offers .statement .start
  | startSymbol (name : String) : Offers .startSymbol (.identifier name)
  | semicolon : Offers .semicolon .semicolon
  | colon : Offers .colon .colon
  | nonterminal (name : String) : Offers .alternative (.identifier name)
  | terminal (name : String) : Offers .alternative (.quoted name)
  | bar : Offers .alternative .pipe
  | close : Offers .alternative .semicolon

/-- Whatever is expected can follow some tokens. -/
def Expectation.After (expected : Expectation) (tokens : List Token) : Prop :=
  ∀ token, expected.Offers token → Viable (tokens ++ [token])

/-- Some tokens are viable and close alternatives in normal form only. -/
def Faultless (tokens : List Token) : Prop :=
  Viable tokens ∧ ∃ closed, Closes tokens closed ∧ ∀ rule ∈ closed, rule.InNormalForm

/-- The tokens before a place are without fault, but the token there
cannot follow them. -/
def FaultyToken (text : String) (error : Error) : Prop :=
  ∃ place lexeme expected,
    (lexemes text)[place]? = some lexeme ∧
    error = .unexpected lexeme.start expected (some lexeme.token) ∧
    Faultless ((tokens text).take place) ∧
    ¬Viable ((tokens text).take (place + 1)) ∧
    expected.After ((tokens text).take place)

/-- All tokens are without fault, but the last statement is not complete. -/
def FaultyEnd (text : String) (error : Error) : Prop :=
  ∃ expected,
    error = .unexpected text.utf8ByteSize expected none ∧
    Faultless (tokens text) ∧
    (∀ statements : List Statement, tokens text ≠ statements.flatMap Statement.tokens) ∧
    expected.After (tokens text)

/-- The tokens up to the one at a place are viable, and this one closes the first
alternative that is not in normal form. -/
def FaultyRule (text : String) (error : Error) : Prop :=
  ∃ place closing earlier rule cause,
    (tokens text)[place]? = some closing ∧ (closing = .pipe ∨ closing = .semicolon) ∧
    error = .rule cause ∧ rule.Refused cause ∧ ¬rule.InNormalForm ∧
    Viable ((tokens text).take (place + 1)) ∧
    Closes ((tokens text).take place) earlier ∧ (∀ rule ∈ earlier, rule.InNormalForm) ∧
    Closes ((tokens text).take (place + 1)) (earlier ++ [rule])

theorem not_faultyToken_and_faultyEnd {text : String} {error : Error} :
    ¬(FaultyToken text error ∧ FaultyEnd text error) := by
  intro both
  obtain ⟨⟨place, lexeme, _, _, _, _, stuck, _⟩, _, _, ⟨viable, _⟩, _⟩ := both
  exact stuck (viable.of_isPrefix (List.take_prefix _ _))

theorem FaultyRule.exists_rule {text : String} {error : Error} (faulty : FaultyRule text error) :
    ∃ cause, error = .rule cause := by
  obtain ⟨_, _, _, _, cause, _, _, same, _⟩ := faulty
  exact ⟨cause, same⟩

theorem not_faultyRule_of_unexpected {text : String} {error : Error}
    (syntactic : FaultyToken text error ∨ FaultyEnd text error) : ¬FaultyRule text error := by
  intro faulty
  obtain ⟨cause, rfl⟩ := faulty.exists_rule
  rcases syntactic with ⟨_, _, _, _, same, _⟩ | ⟨_, same, _⟩
  · cases same
  · cases same

/-! ## Steps -/

theorem Represents.isSome_step?_of_offers {reader : Reader} {outline : Outline} {token : Token}
    (represents : Represents reader outline) (offers : reader.expected.Offers token) :
    (outline.step? token).isSome := by
  rcases reader with ⟨grammar, declared, first, accepted, mode⟩
  rcases outline with ⟨statements, progress⟩
  cases represents.mode <;> cases offers <;> rfl

theorem Represents.isSome_step?_of_missing? {reader : Reader} {outline : Outline} {token : Token}
    (represents : Represents reader outline) {expected : Expectation}
    (missing : reader.missing? = some expected) (offers : expected.Offers token) :
    (outline.step? token).isSome := by
  rcases reader with ⟨grammar, declared, first, accepted, mode⟩
  rcases outline with ⟨statements, progress⟩
  cases represents.mode <;> cases missing <;> cases offers <;> rfl

theorem Outline.closing_of_closes? {outline : Outline} {token : Token} {rule : NamedRule}
    (closed : outline.closes? token = some rule) : token = .pipe ∨ token = .semicolon := by
  unfold closes? at closed
  split at closed
  · exact .inl rfl
  · exact .inr rfl
  · cases closed

theorem Records.refused_of_close {reader : Reader} {known : List Token}
    {denoted : List NamedRule} (records : Records reader.grammar known denoted)
    {lhs : Nonterminal} {name : String}
    (lhsNamed : reader.grammar.nonterminalName? lhs = some name) {symbols : List Symbol}
    {names : List NamedSymbol} (spelled : reader.grammar.Spells symbols names) {mode : Mode}
    {error : Error} (failed : reader.close lhs symbols mode = .error error) :
    ∃ cause, NamedRule.Refused ⟨name, names⟩ cause ∧ error = .rule cause := by
  unfold Reader.close at failed
  split at failed
  · cases failed
  · next cause refused =>
      cases failed
      exact ⟨cause, Grammar.refused_of_addProduction records.reachable.wellFormed lhsNamed spelled
        refused, rfl⟩

/-- A token that is not read cannot stand at its place, or it closes an alternative that
is not in normal form. -/
theorem Represents.step_error_cases {reader : Reader} {outline : Outline} {lexeme : Lexeme}
    {error : Error} (represents : Represents reader outline)
    (failed : reader.step lexeme = .error error) :
    (outline.step? lexeme.token = none ∧
        error = .unexpected lexeme.start reader.expected (some lexeme.token)) ∨
      ∃ after rule cause, outline.step? lexeme.token = some after ∧
        outline.closes? lexeme.token = some rule ∧ rule.Refused cause ∧ error = .rule cause := by
  rcases reader with ⟨grammar, declared, first, accepted, mode⟩
  rcases outline with ⟨statements, progress⟩
  rcases lexeme with ⟨start, stop, token⟩
  obtain ⟨records, _, _, _, fits⟩ := represents
  cases fits with
  | statement =>
      cases token with
      | semicolon | start | identifier _ => cases failed
      | _ =>
          cases failed
          exact .inl ⟨rfl, rfl⟩
  | startName =>
      cases token with
      | identifier _ => cases failed
      | _ =>
          cases failed
          exact .inl ⟨rfl, rfl⟩
  | startEnd name =>
      cases token with
      | semicolon => cases failed
      | _ =>
          cases failed
          exact .inl ⟨rfl, rfl⟩
  | colon lhsNamed =>
      cases token with
      | colon => cases failed
      | _ =>
          cases failed
          exact .inl ⟨rfl, rfl⟩
  | alternative earlier lhsNamed spelled =>
      cases token with
      | identifier _ | quoted _ => cases failed
      | pipe | semicolon =>
          obtain ⟨cause, refused, same⟩ := records.refused_of_close lhsNamed spelled failed
          exact .inr ⟨_, _, cause, rfl, rfl, refused, same⟩
      | _ =>
          cases failed
          exact .inl ⟨rfl, rfl⟩

/-! ## Runs -/

theorem Represents.run_error {reader final : Reader} {outline : Outline} {lexemes : List Lexeme}
    {error : Error} (represents : Represents reader outline)
    (ran : reader.run lexemes = (final, some error)) :
    ∃ place lexeme before, lexemes[place]? = some lexeme ∧
      outline.run? ((lexemes.map Lexeme.token).take place) = some before ∧
      Represents final before ∧ final.step lexeme = .error error := by
  induction lexemes generalizing reader outline with
  | nil => cases ran
  | cons lexeme rest induction =>
      rw [Reader.run] at ran
      split at ran
      · next next stepped =>
          obtain ⟨middle, outlined, kept⟩ := represents.step stepped
          obtain ⟨place, failing, before, found, reached, later⟩ := induction kept ran
          refine ⟨place + 1, failing, before, found, ?_, later⟩
          rw [List.map_cons, List.take_succ_cons, Outline.run?_cons, outlined]
          exact reached
      · next failed =>
          cases ran
          exact ⟨0, lexeme, outline, rfl, rfl, represents, failed⟩

theorem take_succ_tokens {text : String} {place : Nat} {lexeme : Lexeme}
    (found : (lexemes text)[place]? = some lexeme) :
    (tokens text).take (place + 1) = (tokens text).take place ++ [lexeme.token] := by
  rw [List.take_add_one, tokens, List.getElem?_map, found]
  rfl

theorem Represents.faultless {reader : Reader} {outline : Outline}
    (represents : Represents reader outline) : Faultless outline.tokens :=
  ⟨outline.viable, outline.denotes, closes_tokens_iff.mpr rfl, represents.normal⟩

theorem faulty_of_run_error {text : String} {final : Reader} {error : Error}
    (ran : Reader.empty.run (lexemes text) = (final, some error)) :
    FaultyToken text error ∨ FaultyRule text error := by
  obtain ⟨place, lexeme, before, found, reached, represents, failed⟩ :=
    represents_empty.run_error ran
  have outlined : before.tokens = (tokens text).take place :=
    Outline.run?_empty_eq_some_iff.mp reached
  have extended := take_succ_tokens found
  rw [← outlined] at extended
  rcases represents.step_error_cases failed with
    ⟨stuck, same⟩ | ⟨after, rule, cause, stepped, closes, refused, same⟩
  · left
    refine ⟨place, lexeme, final.expected, found, same, outlined ▸ represents.faultless, ?_, ?_⟩
    · rw [extended, viable_concat_iff, stuck]
      exact Bool.false_ne_true
    · intro token offers
      rw [← outlined, viable_concat_iff]
      exact represents.isSome_step?_of_offers offers
  · right
    have present : (tokens text)[place]? = some lexeme.token := by
      rw [tokens, List.getElem?_map, found, Option.map_some]
    have followed : after.tokens = (tokens text).take (place + 1) := by
      rw [Outline.tokens_step? stepped, extended]
    have grown : after.denotes = before.denotes ++ [rule] := by
      rw [Outline.denotes_step? stepped, closes]
      rfl
    refine ⟨place, lexeme.token, before.denotes, rule, cause, present,
      Outline.closing_of_closes? closes, same, refused, refused.not_inNormalForm, ?_, ?_,
      represents.normal, ?_⟩
    · exact followed ▸ after.viable
    · exact outlined ▸ closes_tokens_iff.mpr rfl
    · exact followed ▸ closes_tokens_iff.mpr grown

theorem faultyEnd_of_run {text : String} {final : Reader}
    (ran : Reader.empty.run (lexemes text) = (final, none)) {expected : Expectation}
    (missing : final.missing? = some expected) :
    FaultyEnd text (.unexpected text.utf8ByteSize expected none) := by
  obtain ⟨outline, reached, represents⟩ := represents_empty.run ran
  have outlined : outline.tokens = tokens text := Outline.run?_empty_eq_some_iff.mp reached
  refine ⟨expected, rfl, outlined ▸ represents.faultless, ?_, ?_⟩
  · intro statements complete
    cases reached.symm.trans (Outline.run?_empty_iff.mpr complete)
    rw [represents.missing?_eq_none_iff.mpr rfl] at missing
    cases missing
  · intro token offers
    rw [← outlined, viable_concat_iff]
    exact represents.isSome_step?_of_missing? missing offers

theorem parse_eq_error_iff {text : String} {error : Error} :
    parse text = .error error ↔
      ∃ final, Reader.empty.run (lexemes text) = (final, some error) ∨
        (Reader.empty.run (lexemes text) = (final, none) ∧
          ∃ expected, final.missing? = some expected ∧
            error = .unexpected text.utf8ByteSize expected none) := by
  unfold parse read
  rcases Reader.empty.run (lexemes text) with ⟨final, error?⟩
  cases error? with
  | some other => simp [Reading.result]
  | none => cases missing : final.missing? <;> simp [Reading.result, missing, eq_comm]

/-- If a text cannot be read, exactly one of three things is the case.  The error is at
the first token that cannot follow the tokens before it; or it is at the end of a text
whose last statement is not complete; or it tells the shape of the first alternative
that is not in normal form, and the tokens up to the end of this alternative are
viable.  No alternative that is closed earlier is at fault, and whatever the error
expects could follow. -/
theorem parse_reports_first_fault {text : String} {error : Error}
    (failed : parse text = .error error) :
    (FaultyToken text error ∧ ¬FaultyEnd text error ∧ ¬FaultyRule text error) ∨
      (¬FaultyToken text error ∧ FaultyEnd text error ∧ ¬FaultyRule text error) ∨
      (¬FaultyToken text error ∧ ¬FaultyEnd text error ∧ FaultyRule text error) := by
  have notBoth := @not_faultyToken_and_faultyEnd text error
  have noRule := @not_faultyRule_of_unexpected text error
  have some : FaultyToken text error ∨ FaultyEnd text error ∨ FaultyRule text error := by
    obtain ⟨final, stopped | ⟨ran, expected, missing, rfl⟩⟩ := parse_eq_error_iff.mp failed
    · exact (faulty_of_run_error stopped).imp_right .inr
    · exact .inr (.inl (faultyEnd_of_run ran missing))
  rcases some with token | atEnd | rule
  · exact .inl ⟨token, fun atEnd => notBoth ⟨token, atEnd⟩, noRule (.inl token)⟩
  · exact .inr (.inl ⟨fun token => notBoth ⟨token, atEnd⟩, atEnd, noRule (.inr atEnd)⟩)
  · exact .inr (.inr ⟨fun token => noRule (.inl token) rule, fun atEnd => noRule (.inr atEnd) rule,
      rule⟩)

/-- An alternative with a single nonterminal is closed before a colon that
cannot stand there. -/
def faultyText : String :=
  "S : 'a' | T ; : 'b' ;"

/-- The alternative is reported and not the colon. -/
theorem parse_reports_first_fault_sample :
    parse faultyText = .error (.rule (.unitRule "S" "T")) ∧
      FaultyRule faultyText (.rule (.unitRule "S" "T")) := by
  have failed : parse faultyText = .error (.rule (.unitRule "S" "T")) := by decide +kernel
  refine ⟨failed, ?_⟩
  rcases parse_reports_first_fault failed with ⟨token, _⟩ | ⟨_, atEnd, _⟩ | ⟨_, _, rule⟩
  · obtain ⟨_, _, _, _, same, _⟩ := token
    cases same
  · obtain ⟨_, same, _⟩ := atEnd
    cases same
  · exact rule

end ChartParsing.Description
