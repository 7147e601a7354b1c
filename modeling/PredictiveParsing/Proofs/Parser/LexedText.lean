import PredictiveParsing.Proofs.Naming
import PredictiveParsing.Proofs.Parser.Transfer
import Mathlib.Tactic

/-!
# Parsing a text and parsing names

A text comes to the parser through a lexer, and a list of names through the symbol table.  The two
ways agree (`Grammar.lexed_as_named`): the outcome for a text is the one for the names of its tokens.
If there is an error in the text, the parser meets it only when it asks for the token in its place;
the run over the names of the tokens before it shows whether this happens, since it then asks for one
name more than there are.

The relation between the two is `Grammar.Lexes`: the names to come are those of the tokens to come,
up to the first error.  It rests on names being unique and on the tokens being terminals other than
`EPSILON`.
-/

namespace PredictiveParsing

namespace Source

variable {σ ε : Type}

/-- A source that counts how often it is asked. -/
def counted (src : Source σ ε) : Source (σ × Nat) ε where
  pull s := ((src.pull s.1).1, ((src.pull s.1).2, s.2 + 1))

end Source

namespace Grammar

/-- The names of the terminals of tokens. -/
def tokenNames (g : Grammar) (tokens : List Token) : List String :=
  tokens.map fun token => g.name token.terminal

/-- How often a run over names of terminals asks for the next name. -/
def asked (g : Grammar) (t : Table) (names : List String) (historyLimit limit : Nat) : Nat :=
  ((Parser.start g (names, 0) historyLimit).run (Source.counted (.ofNames g.symbols)) g t
    limit).parser.source.2

section

variable {g : Grammar} {lexer : Lexer} {rest : List (Except LexError Token)}
  {cursor cursor' : Cursor} {names : List String} {tokens : List Token}

/-- These tokens are to come, and then `rest`; the names are the names of the tokens. -/
structure Lexes (g : Grammar) (lexer : Lexer) (rest : List (Except LexError Token))
    (cursor : Cursor) (names : List String) (tokens : List Token) : Prop where
  items : lexer.items cursor = tokens.map .ok ++ rest
  names : names = g.tokenNames tokens

/-- What a lexer gives, the names give. -/
theorem Lexes.given
    (hg : g.Reachable)
    (hlexer : Lexer.ofSymbols g.symbols = .ok lexer)
    (hrest : ∀ token, rest.head? ≠ some (.ok token))
    (h : g.Lexes lexer rest cursor names tokens)
    {x : Option SymbolId}
    (hpull : (Source.ofLexer lexer).pull cursor = (.ok x, cursor')) :
    ∃ names' tokens',
      (Source.ofNames g.symbols).pull names = (.ok x, names') ∧
      g.Lexes lexer rest cursor' names' tokens' ∧
      (rest ≠ [] → tokens.length = tokens'.length + 1) := by
  obtain ⟨hitems, rfl⟩ := h
  rcases hnext : lexer.next? cursor with _ | ⟨e | token, next⟩
  · -- the lexer is at the end of the text
    have hend := Lexer.items_of_none hnext
    simp only [Source.ofLexer, hnext] at hpull
    cases hpull
    rw [hend] at hitems
    obtain ⟨htokens, hrest⟩ := List.nil_eq_append_iff.1 hitems
    obtain rfl := List.map_eq_nil_iff.1 htokens
    exact ⟨[], [], rfl, ⟨hend.trans hitems, rfl⟩, fun hne => absurd hrest hne⟩
  · simp only [Source.ofLexer, hnext] at hpull
    cases hpull
  · obtain ⟨hterminal, hne⟩ := Lexer.terminal_of_next? hlexer hnext
    have hname := hg.symbols.tokenNamed_name hterminal hne
    simp only [Source.ofLexer, hnext] at hpull
    cases hpull
    rw [Lexer.items_of_some hnext] at hitems
    cases tokens with
    | nil =>
        rw [List.map_nil, List.nil_append] at hitems
        exact absurd (hitems ▸ rfl) (hrest token)
    | cons first tokens =>
        obtain ⟨hfirst, hlater⟩ := List.cons_eq_cons.1 hitems
        cases hfirst
        refine ⟨g.tokenNames tokens, tokens, ?_, ⟨hlater, rfl⟩, fun _ => rfl⟩
        simp only [tokenNames, List.map_cons, Source.ofNames, Grammar.name, hname]
        rfl

/-- Where a lexer fails, the names are at their end, and the error is the first of the rest. -/
theorem Lexes.failed
    (h : g.Lexes lexer rest cursor names tokens)
    {e : LexError}
    (hpull : (Source.ofLexer lexer).pull cursor = (.error e, cursor')) :
    (Source.ofNames g.symbols).pull names = (.ok none, []) ∧ tokens = [] ∧
      rest.head? = some (.error e) := by
  obtain ⟨hitems, rfl⟩ := h
  rcases hnext : lexer.next? cursor with _ | ⟨e | token, next⟩ <;>
    simp only [Source.ofLexer, hnext] at hpull <;> cases hpull
  rw [Lexer.items_of_some hnext] at hitems
  cases tokens with
  | nil =>
      rw [List.map_nil, List.nil_append] at hitems
      exact ⟨rfl, rfl, hitems ▸ rfl⟩
  | cons first tokens =>
      cases (List.cons_eq_cons.1 hitems).1

theorem start_withInput
    {σ τ : Type} (g : Grammar) (s : σ) (s' : τ) (historyLimit : Nat) :
    (Parser.start g s historyLimit).withInput s' (Parser.start g s historyLimit).exhausted =
      Parser.start g s' historyLimit := by
  unfold Parser.start
  cases g.start <;> rfl

theorem outcome?_of_failed
    {σ ε : Type} {r : Parser.Run σ ε} {e : ε}
    (h : r.ending = .failed e) :
    r.outcome? g = some (.error e) := by
  simp only [Parser.Run.outcome?, h]

/-- A text with an error fails, or its outcome is that of the names of its tokens. -/
theorem parseText_or_failed
    (hg : g.Reachable)
    (hlexer : Lexer.ofSymbols g.symbols = .ok lexer)
    (hrest : ∀ token, rest.head? ≠ some (.ok token))
    {text : String}
    (hlex : lexer.lex text = tokens.map .ok ++ rest)
    (t : Table) (historyLimit limit : Nat) :
    (∃ e, rest.head? = some (.error e) ∧
      (g.parseText t lexer text historyLimit limit).ending = .failed e) ∨
    ∃ o : Option Outcome,
      (g.parseText t lexer text historyLimit limit).outcome? g = o.map .ok ∧
      (g.parseNames t (g.tokenNames tokens) historyLimit limit).outcome? g = o.map .ok := by
  have hgives : (Source.ofLexer lexer).Gives (Source.ofNames g.symbols)
      fun cursor names => ∃ tokens, g.Lexes lexer rest cursor names tokens := by
    rintro cursor names x cursor' ⟨tokens, h⟩ hpull
    obtain ⟨names', tokens', hpull', hlexes, _⟩ := h.given hg hlexer hrest hpull
    exact ⟨names', hpull', tokens', hlexes⟩
  have hends : (Source.ofLexer lexer).EndsFor (Source.ofNames g.symbols)
      (fun cursor names => ∃ tokens, g.Lexes lexer rest cursor names tokens)
      fun e _ => rest.head? = some (.error e) := by
    rintro cursor names e cursor' ⟨tokens, h⟩ hpull
    obtain ⟨hpull', _, hhead⟩ := h.failed hpull
    exact ⟨[], hpull', hhead⟩
  have hstart := Parser.runFrom_transfer (g := g) (t := t)
    (p := Parser.start g (Cursor.start text) historyLimit) hgives hends
    ⟨tokens, hlex, rfl⟩ limit []
  rw [start_withInput] at hstart
  rcases hstart with ⟨e, hfailed, hhead⟩ | ⟨o, htext, hnames, _⟩
  · exact Or.inl ⟨e, hhead, hfailed⟩
  · exact Or.inr ⟨o, htext, hnames⟩

/-- The run over a text with an error fails if and only if the run over the names of the tokens before
it asks for one name more. -/
theorem asked_eq_iff
    (hg : g.Reachable)
    (hlexer : Lexer.ofSymbols g.symbols = .ok lexer)
    (hrest : ∀ token, rest.head? ≠ some (.ok token))
    (hne : rest ≠ [])
    {text : String}
    (hlex : lexer.lex text = tokens.map .ok ++ rest)
    (t : Table) (historyLimit limit : Nat) :
    g.asked t (g.tokenNames tokens) historyLimit limit = tokens.length + 1 ↔
      ∃ e, (g.parseText t lexer text historyLimit limit).ending = .failed e := by
  -- the tokens to come and the pulls so far make up the number of tokens
  have hgives : (Source.ofLexer lexer).Gives (Source.ofNames g.symbols).counted
      fun cursor s => ∃ before, g.Lexes lexer rest cursor s.1 before ∧
        s.2 + before.length = tokens.length := by
    rintro cursor ⟨names, count⟩ x cursor' ⟨before, h, hcount⟩ hpull
    obtain ⟨names', after, hpull', hlexes, hlength⟩ := h.given hg hlexer hrest hpull
    refine ⟨(names', count + 1), ?_, after, hlexes, ?_⟩
    · simp only [Source.counted, hpull']
    · have := hlength hne
      dsimp only at hcount ⊢
      omega
  have hends : (Source.ofLexer lexer).EndsFor (Source.ofNames g.symbols).counted
      (fun cursor s => ∃ before, g.Lexes lexer rest cursor s.1 before ∧
        s.2 + before.length = tokens.length)
      fun _ s => s.2 = tokens.length + 1 := by
    rintro cursor ⟨names, count⟩ e cursor' ⟨before, h, hcount⟩ hpull
    obtain ⟨hpull', rfl, _⟩ := h.failed hpull
    refine ⟨([], count + 1), ?_, ?_⟩
    · simp only [Source.counted, hpull']
    · simpa using hcount
  have hstart := Parser.runFrom_transfer (g := g) (t := t)
    (p := Parser.start g (Cursor.start text) historyLimit) hgives hends
    (s := (g.tokenNames tokens, 0)) ⟨tokens, ⟨hlex, rfl⟩, Nat.zero_add _⟩ limit []
  rw [start_withInput] at hstart
  rcases hstart with ⟨e, hfailed, hcount⟩ | ⟨o, htext, _, _, before, _, hcount⟩
  · exact ⟨fun _ => ⟨e, hfailed⟩, fun _ => hcount⟩
  · constructor
    · intro hasked
      unfold asked Parser.run at hasked
      omega
    · rintro ⟨e, hfailed⟩
      have hsame := (outcome?_of_failed hfailed).symm.trans htext
      cases o <;> cases hsame

/-- **A text is parsed as the names of its tokens are.**  If all of the text is tokens, its outcome is
that of their names, or neither run comes to an end within the limit.  If there is an error, the result
is the first error when the run over the names of the tokens before it asks for one name more than
there are, and the outcome of that run otherwise. -/
theorem lexed_as_named
    (hg : g.Reachable)
    (hlexer : Lexer.ofSymbols g.symbols = .ok lexer)
    (t : Table) (text : String) (historyLimit limit : Nat) :
    (∀ tokens, lexer.lex text = tokens.map .ok →
      ∃ o : Option Outcome,
        (g.parseNames t (g.tokenNames tokens) historyLimit limit).outcome? g = o.map .ok ∧
        g.lexAndParse t text historyLimit limit = o.map .ok) ∧
    ∀ tokens e more, lexer.lex text = tokens.map .ok ++ .error e :: more →
      (g.asked t (g.tokenNames tokens) historyLimit limit = tokens.length + 1 →
        g.lexAndParse t text historyLimit limit = some (.error (.lex e))) ∧
      (g.asked t (g.tokenNames tokens) historyLimit limit ≠ tokens.length + 1 →
        ∃ o : Option Outcome,
          (g.parseNames t (g.tokenNames tokens) historyLimit limit).outcome? g = o.map .ok ∧
          g.lexAndParse t text historyLimit limit = o.map .ok) := by
  have hparse : g.lexAndParse t text historyLimit limit =
      ((g.parseText t lexer text historyLimit limit).outcome? g).map (Except.mapError .lex) := by
    simp only [lexAndParse, hlexer]
  have hok : ∀ o : Option Outcome,
      (o.map Except.ok).map (Except.mapError Failure.lex) = o.map .ok := by
    rintro (_ | o) <;> rfl
  rw [hparse]
  constructor
  · intro tokens hlex
    rw [← List.append_nil (tokens.map _)] at hlex
    rcases parseText_or_failed hg hlexer (by simp) hlex t historyLimit limit with
      ⟨e, hhead, _⟩ | ⟨o, htext, hnames⟩
    · cases hhead
    · exact ⟨o, hnames, by rw [htext, hok]⟩
  · intro tokens e more hlex
    have hasked := asked_eq_iff hg hlexer (by simp) (by simp) hlex t historyLimit limit
    rcases parseText_or_failed hg hlexer (by simp) hlex t historyLimit limit with
      ⟨e', hhead, hfailed⟩ | ⟨o, htext, hnames⟩
    · cases hhead
      refine ⟨fun _ => ?_, fun hne => absurd (hasked.2 ⟨e, hfailed⟩) hne⟩
      rw [outcome?_of_failed hfailed]
      rfl
    · refine ⟨fun heq => ?_, fun _ => ⟨o, hnames, by rw [htext, hok]⟩⟩
      obtain ⟨e', hfailed⟩ := hasked.1 heq
      have hsame := (outcome?_of_failed hfailed).symm.trans htext
      cases o <;> cases hsame

theorem eq_some_of_map_ok
    {ε : Type} {o : Option Outcome} {outcome : Outcome}
    (h : o.map (Except.ok (ε := ε)) = some (.ok outcome)) :
    o = some outcome := by
  cases o <;> cases h
  rfl

/-- The text `a+` is rejected at its end.  In `+?` the first token is rejected before the error is met,
and in `a?` the error is met. -/
theorem lexed_as_named_sums :
    sums.lexAndParse Table.sums "a+" 5 20 =
      some (.ok ⟨false, some (.noProduction "T" "$"), ["T", "X"], ["id", "PLUS"]⟩) ∧
    sums.lexAndParse Table.sums "+?" 5 20 =
      some (.ok ⟨false, some (.noProduction "E" "PLUS"), ["E"], []⟩) ∧
    sums.lexAndParse Table.sums "a?" 5 20 = some (.error (.lex ⟨'?', ⟨1, 2⟩⟩)) := by
  have htokens : (Lexer.ofSymbols sums.symbols).map (fun l => l.lex "a+") =
      .ok [.ok ⟨3, ['a'], ⟨0, 1⟩⟩, .ok ⟨2, ['+'], ⟨1, 2⟩⟩] := by
    cbv
  have hrejected : (Lexer.ofSymbols sums.symbols).map (fun l => l.lex "+?") =
      .ok [.ok ⟨2, ['+'], ⟨0, 1⟩⟩, .error ⟨'?', ⟨1, 2⟩⟩] := by
    cbv
  have hmet : (Lexer.ofSymbols sums.symbols).map (fun l => l.lex "a?") =
      .ok [.ok ⟨3, ['a'], ⟨0, 1⟩⟩, .error ⟨'?', ⟨1, 2⟩⟩] := by
    cbv
  cases hlexer : Lexer.ofSymbols sums.symbols with
  | error e =>
      rw [hlexer] at hmet
      cases hmet
  | ok lexer =>
      rw [hlexer] at htokens hrejected hmet
      refine ⟨?_, ?_, ?_⟩
      · obtain ⟨h, _⟩ := lexed_as_named reachable_sums hlexer Table.sums "a+" 5 20
        obtain ⟨o, hnames, ho⟩ :=
          h [⟨3, ['a'], ⟨0, 1⟩⟩, ⟨2, ['+'], ⟨1, 2⟩⟩] (Except.ok.inj htokens)
        refine ho.trans (congrArg _ (eq_some_of_map_ok (hnames.symm.trans ?_)))
        decide +kernel
      · obtain ⟨_, h⟩ := lexed_as_named reachable_sums hlexer Table.sums "+?" 5 20
        obtain ⟨o, hnames, ho⟩ :=
          (h [⟨2, ['+'], ⟨0, 1⟩⟩] ⟨'?', ⟨1, 2⟩⟩ [] (Except.ok.inj hrejected)).2 (by decide +kernel)
        refine ho.trans (congrArg _ (eq_some_of_map_ok (hnames.symm.trans ?_)))
        decide +kernel
      · obtain ⟨_, h⟩ := lexed_as_named reachable_sums hlexer Table.sums "a?" 5 20
        exact (h [⟨3, ['a'], ⟨0, 1⟩⟩] ⟨'?', ⟨1, 2⟩⟩ [] (Except.ok.inj hmet)).1 (by decide +kernel)

end

end Grammar
end PredictiveParsing
