import ChartParsing.Description.Reader
import ChartParsing.Proofs.Description.Outline

/-!
# Reading builds the described grammar

The reader never holds statements, only a grammar that grows with each token.
It represents an outline nevertheless: names and rules are numbered as they first
occur in the outline, and the symbols at hand spell the alternative at hand.
Every step keeps this, so a text is read to its end exactly if its tokens are the
statements of a description in normal form.
-/

namespace ChartParsing.Description

/-- The name that a token uses for a nonterminal. -/
def Token.identifier? : Token → Option String
  | .identifier name => some name
  | _ => none

/-- The name that a token uses for a terminal. -/
def Token.quoted? : Token → Option String
  | .quoted name => some name
  | _ => none

/-- The names and rules of a grammar are those of some tokens and alternatives, in the
order in which they first occur. -/
structure Records (grammar : Grammar) (known : List Token) (denoted : List NamedRule) :
    Prop where
  reachable : grammar.Reachable
  nonterminals :
    grammar.nonterminals.toList = (known.filterMap Token.identifier?).eraseDups
  terminals : grammar.terminals.toList = (known.filterMap Token.quoted?).eraseDups
  rules : List.Forall₂ (fun rule named => grammar.namedRule? rule = some named)
    grammar.rules.toList denoted.eraseDups

namespace Records

variable {grammar : Grammar} {known : List Token} {denoted : List NamedRule}

theorem empty : Records .empty [] [] :=
  ⟨Construction.reachable_empty, rfl, rfl, .nil⟩

theorem mark (records : Records grammar known denoted) (token : Token)
    (noIdentifier : token.identifier? = none) (noQuoted : token.quoted? = none) :
    Records grammar (known ++ [token]) denoted := by
  refine ⟨records.reachable, ?_, ?_, records.rules⟩
  · simp [noIdentifier, records.nonterminals]
  · simp [noQuoted, records.terminals]

theorem identifier (records : Records grammar known denoted) (name : String) :
    Records (grammar.addNonterminal name).2 (known ++ [.identifier name]) denoted := by
  have keeps := (grammar.change_addNonterminal name).keepsNames
  obtain ⟨terminals, rules⟩ := grammar.others_addNonterminal name
  refine ⟨Construction.reachable_perform? records.reachable (.nonterminal name) rfl, ?_, ?_, ?_⟩
  · rw [Grammar.nonterminals_addNonterminal, List.filterMap_append]
    exact Numbering.toList_insert_eraseDups records.nonterminals name
  · rw [terminals, records.terminals, List.filterMap_append]
    exact congrArg List.eraseDups (List.append_nil _).symm
  · rw [rules]
    exact records.rules.imp fun _ _ found => keeps.namedRule? found

theorem quoted (records : Records grammar known denoted) (name : String) :
    Records (grammar.addTerminal name).2 (known ++ [.quoted name]) denoted := by
  have keeps := (grammar.change_addTerminal name).keepsNames
  refine ⟨Construction.reachable_perform? records.reachable (.terminal name) rfl, ?_, ?_, ?_⟩
  · rw [List.filterMap_append]
    exact records.nonterminals.trans (congrArg List.eraseDups (List.append_nil _).symm)
  · rw [List.filterMap_append]
    exact Numbering.toList_insert_eraseDups records.terminals name
  · exact records.rules.imp fun _ _ found => keeps.namedRule? found

theorem production (records : Records grammar known denoted) {lhs : Nonterminal} {name : String}
    (lhsNamed : grammar.nonterminalName? lhs = some name) {symbols : List Symbol}
    {names : List NamedSymbol} (spelled : grammar.Spells symbols names) {number : Nat}
    {after : Grammar} (success : grammar.addProduction lhs symbols = .ok (number, after)) :
    Records after known (denoted ++ [⟨name, names⟩]) := by
  have formed := records.reachable.wellFormed
  obtain ⟨rhs, rfl, added⟩ := Grammar.addProduction_cases success
  have keeps := (Grammar.change_addRule added).keepsNames
  obtain ⟨nonterminals, terminals⟩ := Grammar.names_addRule added
  have performed : Construction.perform? grammar (.production lhs rhs.symbols) =
      some (.rule number, after) := by
    rw [Construction.perform?, success]
    rfl
  refine ⟨Construction.reachable_perform? records.reachable _ performed,
    nonterminals ▸ records.nonterminals, terminals ▸ records.terminals, ?_⟩
  have found : grammar.namedRule? ⟨lhs, rhs⟩ = some ⟨name, names⟩ :=
    Grammar.namedRule?_eq_some_iff.mpr ⟨lhsNamed, spelled⟩
  rw [Grammar.rules_addRule added]
  exact (Numbering.forall₂_insert formed.namedRule?_injective records.rules found).imp
    fun _ _ named => keeps.namedRule? named

end Records

/-- A nonterminal is known under a name, or there is none and no name. -/
def Calls (grammar : Grammar) : Option Nonterminal → Option String → Prop :=
  Option.Rel fun nonterminal name => grammar.nonterminalName? nonterminal = some name

/-- What the next lexeme belongs to is the same statement and symbols by name. -/
inductive Mode.Fits (grammar : Grammar) : Mode → Progress → Prop where
  | statement : Fits grammar .statement .statement
  | startName : Fits grammar .startName .startName
  | startEnd (name : String) : Fits grammar (.startEnd name) (.startEnd name)
  | colon {lhs : Nonterminal} {name : String} :
      grammar.nonterminalName? lhs = some name → Fits grammar (.colon lhs) (.colon name)
  | alternative {lhs : Nonterminal} {name : String} {symbols : List Symbol}
      {names : List NamedSymbol} (earlier : List (List NamedSymbol)) :
      grammar.nonterminalName? lhs = some name → grammar.Spells symbols names →
      Fits grammar (.alternative lhs symbols) (.alternative name earlier names)

/-- A reader knows an outline by names and rules. -/
structure Represents (reader : Reader) (outline : Outline) : Prop where
  records : Records reader.grammar outline.known outline.denotes
  normal : ∀ rule ∈ outline.denotes, rule.InNormalForm
  declared : Calls reader.grammar reader.declared outline.declared?
  first : Calls reader.grammar reader.first outline.first?
  mode : reader.mode.Fits reader.grammar outline.progress

theorem Calls.keeps {before after : Grammar} (keeps : before.KeepsNames after)
    {nonterminal : Option Nonterminal} {name : Option String}
    (calls : Calls before nonterminal name) : Calls after nonterminal name := by
  cases calls with
  | none => exact .none
  | some named => exact .some (keeps.nonterminals named)

theorem Calls.map_eq {grammar : Grammar} {nonterminal : Option Nonterminal}
    {name : Option String} (calls : Calls grammar nonterminal name) :
    nonterminal.map grammar.nonterminalName? = name.map some := by
  cases calls with
  | none => rfl
  | some named => exact congrArg some named

theorem Calls.orElse {grammar : Grammar} {first second : Option Nonterminal}
    {firstName secondName : Option String} (calls : Calls grammar first firstName)
    (otherwise : Calls grammar second secondName) :
    Calls grammar (first <|> second) (firstName <|> secondName) := by
  cases calls with
  | none => exact otherwise
  | some named => exact .some named

theorem Records.exists_close {reader : Reader} {known : List Token} {denoted : List NamedRule}
    (records : Records reader.grammar known denoted) {lhs : Nonterminal} {name : String}
    (lhsNamed : reader.grammar.nonterminalName? lhs = some name) {symbols : List Symbol}
    {names : List NamedSymbol} (spelled : reader.grammar.Spells symbols names)
    (normal : NamedRule.InNormalForm ⟨name, names⟩) (mode : Mode) :
    ∃ grammar accepted, reader.close lhs symbols mode =
        .ok ⟨grammar, reader.declared, reader.first, accepted, mode⟩ ∧
      Records grammar known (denoted ++ [⟨name, names⟩]) ∧ reader.grammar.KeepsNames grammar := by
  have formed := records.reachable.wellFormed
  obtain ⟨number, grammar, added⟩ :=
    (Grammar.exists_addProduction_iff formed lhsNamed spelled).mpr normal
  obtain ⟨rhs, _, entered⟩ := Grammar.addProduction_cases added
  refine ⟨grammar, reader.accepted ++ [number], ?_, records.production lhsNamed spelled added,
    (Grammar.change_addRule entered).keepsNames⟩
  rw [Reader.close, added]

theorem represents_empty : Represents .empty .empty :=
  ⟨.empty, fun _ absent => absurd absent List.not_mem_nil, .none, .none, .statement⟩

theorem Represents.of_step {outline after : Outline} {token : Token}
    (stepped : outline.step? token = some after)
    (normal : ∀ rule ∈ after.denotes, rule.InNormalForm) {next : Reader}
    (records : Records next.grammar (outline.known ++ outline.reveals token)
      ((outline.closes? token).elim outline.denotes (outline.denotes ++ [·])))
    (declared : Calls next.grammar next.declared
      ((outline.fixes? token).elim outline.declared? some))
    (first : Calls next.grammar next.first
      ((outline.opens? token).elim outline.first? (outline.first? <|> some ·)))
    (mode : next.mode.Fits next.grammar after.progress) : Represents next after := by
  rw [← Outline.known_step? stepped, ← Outline.denotes_step? stepped] at records
  rw [← Outline.declared?_step? stepped] at declared
  rw [← Outline.first?_step? stepped] at first
  exact ⟨records, normal, declared, first, mode⟩

section Step

variable {reader : Reader} {outline after : Outline} {start stop : Nat} {name : String}
  (represents : Represents reader outline)
  (normal : ∀ rule ∈ after.denotes, rule.InNormalForm)

include represents normal

theorem Represents.exists_step_identifier
    (stepped : outline.step? (.identifier name) = some after) :
    ∃ next, reader.step ⟨start, stop, .identifier name⟩ = .ok next ∧
      Represents next after := by
  rcases reader with ⟨grammar, declared, first, accepted, mode⟩
  rcases outline with ⟨statements, progress⟩
  obtain ⟨records, _, declaredCalled, firstCalled, fits⟩ := represents
  have build := @Represents.of_step _ _ _ stepped normal
  have keeps := (grammar.change_addNonterminal name).keepsNames
  have named := grammar.name_addNonterminal name
  cases fits with
  | statement =>
      cases stepped
      exact ⟨_, rfl, build (records.identifier name) (declaredCalled.keeps keeps)
        ((firstCalled.keeps keeps).orElse (.some named)) (.colon named)⟩
  | startName =>
      cases stepped
      rw [← List.append_nil (Outline.known _)] at records
      exact ⟨_, rfl, build records declaredCalled firstCalled (.startEnd name)⟩
  | alternative earlier lhsNamed spelled =>
      cases stepped
      have found : (grammar.addNonterminal name).2.namedSymbol?
          (.nonterminal (grammar.addNonterminal name).1) = some (.nonterminal name) :=
        Grammar.namedSymbol?_nonterminal_iff.mpr ⟨_, rfl, named⟩
      exact ⟨_, rfl, build (records.identifier name) (declaredCalled.keeps keeps)
        (firstCalled.keeps keeps) (.alternative earlier (keeps.nonterminals lhsNamed)
          ((keeps.spells spelled).concat found))⟩
  | _ => cases stepped

theorem Represents.exists_step_quoted
    (stepped : outline.step? (.quoted name) = some after) :
    ∃ next, reader.step ⟨start, stop, .quoted name⟩ = .ok next ∧ Represents next after := by
  rcases reader with ⟨grammar, declared, first, accepted, mode⟩
  rcases outline with ⟨statements, progress⟩
  obtain ⟨records, _, declaredCalled, firstCalled, fits⟩ := represents
  have build := @Represents.of_step _ _ _ stepped normal
  cases fits with
  | alternative earlier lhsNamed spelled =>
      cases stepped
      have keeps := (grammar.change_addTerminal name).keepsNames
      have found : (grammar.addTerminal name).2.namedSymbol?
          (.terminal (grammar.addTerminal name).1) = some (.terminal name) :=
        Grammar.namedSymbol?_terminal_iff.mpr ⟨_, rfl, grammar.name_addTerminal name⟩
      exact ⟨_, rfl, build (records.quoted name) (declaredCalled.keeps keeps)
        (firstCalled.keeps keeps) (.alternative earlier (keeps.nonterminals lhsNamed)
          ((keeps.spells spelled).concat found))⟩
  | _ => cases stepped

theorem Represents.exists_step_start (stepped : outline.step? .start = some after) :
    ∃ next, reader.step ⟨start, stop, .start⟩ = .ok next ∧ Represents next after := by
  rcases reader with ⟨grammar, declared, first, accepted, mode⟩
  rcases outline with ⟨statements, progress⟩
  obtain ⟨records, _, declaredCalled, firstCalled, fits⟩ := represents
  have build := @Represents.of_step _ _ _ stepped normal
  cases fits with
  | statement =>
      cases stepped
      exact ⟨_, rfl, build (records.mark _ rfl rfl) declaredCalled firstCalled .startName⟩
  | _ => cases stepped

theorem Represents.exists_step_colon (stepped : outline.step? .colon = some after) :
    ∃ next, reader.step ⟨start, stop, .colon⟩ = .ok next ∧ Represents next after := by
  rcases reader with ⟨grammar, declared, first, accepted, mode⟩
  rcases outline with ⟨statements, progress⟩
  obtain ⟨records, _, declaredCalled, firstCalled, fits⟩ := represents
  have build := @Represents.of_step _ _ _ stepped normal
  cases fits with
  | colon lhsNamed =>
      cases stepped
      exact ⟨_, rfl, build (records.mark _ rfl rfl) declaredCalled firstCalled
        (.alternative [] lhsNamed .nil)⟩
  | _ => cases stepped

theorem Represents.exists_step_pipe (stepped : outline.step? .pipe = some after) :
    ∃ next, reader.step ⟨start, stop, .pipe⟩ = .ok next ∧ Represents next after := by
  rcases reader with ⟨grammar, declared, first, accepted, mode⟩
  rcases outline with ⟨statements, progress⟩
  obtain ⟨records, _, declaredCalled, firstCalled, fits⟩ := represents
  have build := @Represents.of_step _ _ _ stepped normal
  cases fits with
  | alternative earlier lhsNamed spelled =>
      have closed := normal _ (Outline.mem_denotes_of_closes? stepped rfl)
      obtain ⟨_, _, done, later, keeps⟩ := records.exists_close lhsNamed spelled closed _
      cases stepped
      exact ⟨_, done, build (later.mark _ rfl rfl) (declaredCalled.keeps keeps)
        (firstCalled.keeps keeps) (.alternative _ (keeps.nonterminals lhsNamed) .nil)⟩
  | _ => cases stepped

theorem Represents.exists_step_semicolon (stepped : outline.step? .semicolon = some after) :
    ∃ next, reader.step ⟨start, stop, .semicolon⟩ = .ok next ∧ Represents next after := by
  rcases reader with ⟨grammar, declared, first, accepted, mode⟩
  rcases outline with ⟨statements, progress⟩
  obtain ⟨records, _, declaredCalled, firstCalled, fits⟩ := represents
  have build := @Represents.of_step _ _ _ stepped normal
  cases fits with
  | statement =>
      cases stepped
      exact ⟨_, rfl, build (records.mark _ rfl rfl) declaredCalled firstCalled .statement⟩
  | startEnd name =>
      cases stepped
      have keeps := (grammar.change_addNonterminal name).keepsNames
      have named := grammar.name_addNonterminal name
      have later := (records.identifier name).mark .semicolon rfl rfl
      rw [List.append_assoc] at later
      exact ⟨_, rfl, build later (.some named) (firstCalled.keeps keeps) .statement⟩
  | alternative earlier lhsNamed spelled =>
      have closed := normal _ (Outline.mem_denotes_of_closes? stepped rfl)
      obtain ⟨_, _, done, later, keeps⟩ := records.exists_close lhsNamed spelled closed _
      cases stepped
      exact ⟨_, done, build (later.mark _ rfl rfl) (declaredCalled.keeps keeps)
        (firstCalled.keeps keeps) .statement⟩
  | _ => cases stepped

/-- A token that can stand at its place is read, unless it closes an alternative that is
not in normal form. -/
theorem Represents.exists_step {lexeme : Lexeme}
    (stepped : outline.step? lexeme.token = some after) :
    ∃ next, reader.step lexeme = .ok next ∧ Represents next after := by
  rcases lexeme with ⟨start, stop, token⟩
  cases token with
  | identifier name => exact represents.exists_step_identifier normal stepped
  | quoted name => exact represents.exists_step_quoted normal stepped
  | start => exact represents.exists_step_start normal stepped
  | colon => exact represents.exists_step_colon normal stepped
  | pipe => exact represents.exists_step_pipe normal stepped
  | semicolon => exact represents.exists_step_semicolon normal stepped
  | unterminated name =>
      rcases outline with ⟨statements, progress⟩
      cases progress <;> cases stepped

end Step

theorem Records.inNormalForm_of_close {reader next : Reader} {known : List Token}
    {denoted : List NamedRule} (records : Records reader.grammar known denoted)
    {lhs : Nonterminal} {name : String}
    (lhsNamed : reader.grammar.nonterminalName? lhs = some name) {symbols : List Symbol}
    {names : List NamedSymbol} (spelled : reader.grammar.Spells symbols names) {mode : Mode}
    (closed : reader.close lhs symbols mode = .ok next) :
    NamedRule.InNormalForm ⟨name, names⟩ := by
  apply (Grammar.exists_addProduction_iff records.reachable.wellFormed lhsNamed spelled).mp
  unfold Reader.close at closed
  split at closed
  · next number grammar added => exact ⟨number, grammar, added⟩
  · cases closed

/-- A token that is read can stand at its place, and an alternative that it closes is
in normal form. -/
theorem Represents.exists_step? {reader next : Reader} {outline : Outline} {lexeme : Lexeme}
    (represents : Represents reader outline) (stepped : reader.step lexeme = .ok next) :
    ∃ after, outline.step? lexeme.token = some after ∧
      ∀ rule, outline.closes? lexeme.token = some rule → rule.InNormalForm := by
  rcases reader with ⟨grammar, declared, first, accepted, mode⟩
  rcases outline with ⟨statements, progress⟩
  rcases lexeme with ⟨start, stop, token⟩
  obtain ⟨records, _, _, _, fits⟩ := represents
  cases fits with
  | statement =>
      cases token with
      | semicolon | start | identifier _ => exact ⟨_, rfl, nofun⟩
      | _ => cases stepped
  | startName =>
      cases token with
      | identifier _ => exact ⟨_, rfl, nofun⟩
      | _ => cases stepped
  | startEnd name =>
      cases token with
      | semicolon => exact ⟨_, rfl, nofun⟩
      | _ => cases stepped
  | colon lhsNamed =>
      cases token with
      | colon => exact ⟨_, rfl, nofun⟩
      | _ => cases stepped
  | alternative earlier lhsNamed spelled =>
      cases token with
      | identifier _ | quoted _ => exact ⟨_, rfl, nofun⟩
      | pipe | semicolon =>
          refine ⟨_, rfl, ?_⟩
          intro rule closes
          cases closes
          exact records.inNormalForm_of_close lhsNamed spelled stepped
      | _ => cases stepped

theorem Represents.step {reader next : Reader} {outline : Outline} {lexeme : Lexeme}
    (represents : Represents reader outline) (stepped : reader.step lexeme = .ok next) :
    ∃ after, outline.step? lexeme.token = some after ∧ Represents next after := by
  obtain ⟨after, outlined, closedNormal⟩ := represents.exists_step? stepped
  have normal : ∀ rule ∈ after.denotes, rule.InNormalForm := by
    intro rule member
    rw [Outline.denotes_step? outlined] at member
    cases closed : outline.closes? lexeme.token with
    | none =>
        rw [closed] at member
        exact represents.normal rule member
    | some last =>
        rw [closed] at member
        rcases List.mem_append.mp member with old | new
        · exact represents.normal rule old
        · rw [List.mem_singleton.mp new]
          exact closedNormal last closed
  obtain ⟨reached, same, later⟩ := represents.exists_step normal outlined
  cases stepped.symm.trans same
  exact ⟨after, outlined, later⟩

/-! ## Whole texts -/

theorem Represents.run {reader final : Reader} {outline : Outline} {lexemes : List Lexeme}
    (represents : Represents reader outline) (ran : reader.run lexemes = (final, none)) :
    ∃ after, outline.run? (lexemes.map Lexeme.token) = some after ∧ Represents final after := by
  induction lexemes generalizing reader outline with
  | nil =>
      cases ran
      exact ⟨outline, rfl, represents⟩
  | cons lexeme rest induction =>
      rw [Reader.run] at ran
      split at ran
      · next next stepped =>
          obtain ⟨middle, outlined, kept⟩ := represents.step stepped
          obtain ⟨after, reached, final⟩ := induction kept ran
          refine ⟨after, ?_, final⟩
          rw [List.map_cons, Outline.run?_cons, outlined]
          exact reached
      · cases ran

theorem Represents.exists_run {reader : Reader} {outline after : Outline} {lexemes : List Lexeme}
    (represents : Represents reader outline)
    (ran : outline.run? (lexemes.map Lexeme.token) = some after)
    (normal : ∀ rule ∈ after.denotes, rule.InNormalForm) :
    ∃ final, reader.run lexemes = (final, none) ∧ Represents final after := by
  induction lexemes generalizing reader outline with
  | nil =>
      cases ran
      exact ⟨reader, rfl, represents⟩
  | cons lexeme rest induction =>
      rw [List.map_cons, Outline.run?_cons, Option.bind_eq_some_iff] at ran
      obtain ⟨middle, outlined, later⟩ := ran
      have early : ∀ rule ∈ middle.denotes, rule.InNormalForm :=
        fun rule member => normal rule (Outline.denotes_run? later rule member)
      obtain ⟨next, stepped, kept⟩ := represents.exists_step early outlined
      obtain ⟨final, reached, represented⟩ := induction kept later
      refine ⟨final, ?_, represented⟩
      rw [Reader.run, stepped]
      exact reached

theorem Represents.missing?_eq_none_iff {reader : Reader} {outline : Outline}
    (represents : Represents reader outline) :
    reader.missing? = none ↔ outline.progress = .statement := by
  rcases reader with ⟨grammar, declared, first, accepted, mode⟩
  rcases outline with ⟨statements, progress⟩
  cases represents.mode <;> simp [Reader.missing?]

theorem parse_eq_ok_iff {text : String} {description : Description} :
    parse text = .ok description ↔
      ∃ final, Reader.empty.run (lexemes text) = (final, none) ∧ final.missing? = none ∧
        final.description = description := by
  unfold parse read
  rcases Reader.empty.run (lexemes text) with ⟨final, error?⟩
  cases error? with
  | some error => simp [Reading.result]
  | none => cases missing : final.missing? <;> simp [Reading.result, missing]

/-- The tokens of a text. -/
def tokens (text : String) : List Token :=
  (lexemes text).map Lexeme.token

/-- The name of the start symbol: the one declared last, or else the
first left-hand side. -/
def startName? (statements : List Statement) : Option String :=
  (statements.filterMap Statement.declares?).getLast? <|>
    (statements.filterMap Statement.lhs?).head?

/-- A text that can be read has an outline of complete statements, which
the reader represents. -/
theorem exists_represents {text : String} {description : Description}
    (parsed : parse text = .ok description) :
    ∃ final statements, final.description = description ∧
      tokens text = statements.flatMap Statement.tokens ∧
      Represents final ⟨statements, .statement⟩ := by
  obtain ⟨final, ran, complete, described⟩ := parse_eq_ok_iff.mp parsed
  obtain ⟨⟨statements, progress⟩, outlined, represents⟩ := represents_empty.run ran
  cases represents.missing?_eq_none_iff.mp complete
  exact ⟨final, statements, described, Outline.run?_empty_iff.mp outlined, represents⟩

/-- A text is read exactly if its tokens are those of statements in normal form.  Then
names and rules are numbered in the order in which the text first uses them, and the
start symbol is the one declared last, or else the first left-hand side. -/
theorem parse_reads_statements (text : String) :
    ((∃ description, parse text = .ok description) ↔
      ∃ statements : List Statement, tokens text = statements.flatMap Statement.tokens ∧
        ∀ rule ∈ statements.flatMap Statement.denotes, rule.InNormalForm) ∧
      ∀ (description : Description) (statements : List Statement),
        parse text = .ok description → tokens text = statements.flatMap Statement.tokens →
        description.grammar.nonterminals.toList =
            ((tokens text).filterMap Token.identifier?).eraseDups ∧
          description.grammar.terminals.toList =
            ((tokens text).filterMap Token.quoted?).eraseDups ∧
          description.grammar.rules.toList.mapM description.grammar.namedRule? =
            some (statements.flatMap Statement.denotes).eraseDups ∧
          description.start.map description.grammar.nonterminalName? =
            (startName? statements).map some := by
  constructor
  · constructor
    · intro success
      obtain ⟨description, parsed⟩ := success
      obtain ⟨final, statements, _, written, represents⟩ := exists_represents parsed
      refine ⟨statements, written, ?_⟩
      intro rule member
      exact represents.normal rule (List.mem_append_left _ member)
    · intro described
      obtain ⟨statements, written, normal⟩ := described
      have outlined := Outline.run?_empty_iff.mpr written
      rw [← Outline.denotes_complete] at normal
      obtain ⟨final, ran, represents⟩ := represents_empty.exists_run outlined normal
      exact ⟨final.description, parse_eq_ok_iff.mpr
        ⟨final, ran, represents.missing?_eq_none_iff.mpr rfl, rfl⟩⟩
  · intro description statements parsed written
    obtain ⟨final, others, rfl, same, represents⟩ := exists_represents parsed
    have outlined := Outline.run?_empty_iff.mpr written
    cases (Outline.run?_empty_iff.mpr same).symm.trans outlined
    have known := (Outline.known_complete statements).trans written.symm
    have first := represents.first
    rw [Outline.first?_complete] at first
    refine ⟨known ▸ represents.records.nonterminals, known ▸ represents.records.terminals, ?_,
      (represents.declared.orElse first).map_eq⟩
    rw [mapM_eq_some_iff, ← Outline.denotes_complete]
    exact represents.records.rules

/-- Two declarations, an empty statement and a repeated alternative. -/
def sampleText : String :=
  "start S; start T; S : 'a' | T S; ; T : 'b' | 'b' ;"

def sampleStatements : List Statement :=
  [.start "S", .start "T", .rules "S" [[.terminal "a"]] [.nonterminal "T", .nonterminal "S"],
    .empty, .rules "T" [[.terminal "b"]] [.terminal "b"]]

/-- The sample text declares `T` last and has three different rules. -/
theorem parse_reads_statements_sample :
    ∃ description, parse sampleText = .ok description ∧
      description.grammar.nonterminals.toList = ["S", "T"] ∧
      description.grammar.terminals.toList = ["a", "b"] ∧
      description.grammar.rules.toList.mapM description.grammar.namedRule? =
        some [⟨"S", [.terminal "a"]⟩, ⟨"S", [.nonterminal "T", .nonterminal "S"]⟩,
          ⟨"T", [.terminal "b"]⟩] ∧
      description.start.map description.grammar.nonterminalName? = some (some "T") := by
  have success : (parse sampleText).toOption.isSome := by decide +kernel
  have written : tokens sampleText = sampleStatements.flatMap Statement.tokens := by
    decide +kernel
  cases parsed : parse sampleText with
  | error error =>
      rw [parsed] at success
      cases success
  | ok description =>
      obtain ⟨nonterminals, terminals, rules, start⟩ :=
        (parse_reads_statements sampleText).2 description sampleStatements parsed written
      rw [written] at nonterminals terminals
      exact ⟨description, rfl, nonterminals, terminals, rules, start⟩

end ChartParsing.Description
