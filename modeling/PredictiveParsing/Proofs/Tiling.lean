import PredictiveParsing.Proofs.LongestMatch
import PredictiveParsing.Text.Position
import Mathlib.Tactic

/-!
# A lexer leaves nothing of a text out

The tokens and errors of a text and the skipped characters between them take up every byte of the text
once (`Lexer.Partitions`).  A token has the terminal that leads at its place; an error is one character
that no terminal begins.

Each step of a lexer is told by `Lexer.next?_eq_some`: what it skips, what it takes, and where it goes on.
What holds of all tokens and errors follows by `Lexer.items_induction`, from the end of the text.  They do
not depend on what is behind: further on in a text they are the same, with their places shifted
(`Lexer.items_shift`).
-/

namespace PredictiveParsing

namespace Text

theorem takeBytes?_append
    (before rest : List Char) :
    takeBytes? (byteCount before) (before ++ rest) = some before := by
  induction before with
  | nil =>
      rw [byteCount_nil, takeBytes?]
  | cons c before ih =>
      obtain ⟨n, hn⟩ : ∃ n, c.utf8Size + byteCount before = n + 1 :=
        Nat.exists_eq_succ_of_ne_zero (by have hpos := c.utf8Size_pos; omega)
      rw [byteCount_cons, List.cons_append, hn, takeBytes?, ← hn, if_pos (Nat.le_add_right _ _),
        Nat.add_sub_cancel_left, ih, Option.map_some]

end Text

open Text

/-- Whether the bytes include the one with this number. -/
def Span.covers (s : Span) (n : Nat) : Bool :=
  s.first ≤ n && n < s.stop

/-- The same bytes behind `n` others. -/
def Span.shift (n : Nat) (s : Span) : Span where
  first := s.first + n
  stop := s.stop + n

/-- The same place behind `n` more bytes. -/
def Cursor.shift (n : Nat) (cursor : Cursor) : Cursor where
  rest := cursor.rest
  offset := cursor.offset + n

namespace Lexer

/-- The bytes that a token or an error takes up. -/
def itemSpan : Except LexError Token → Span
  | .ok token => token.span
  | .error e => e.span

/-- The same token or error behind `n` bytes. -/
def shiftItem (n : Nat) : Except LexError Token → Except LexError Token
  | .ok token => .ok { token with span := token.span.shift n }
  | .error e => .error { e with span := e.span.shift n }

/-- The characters that are skipped from a byte offset of the text on, as many as stand there. -/
def gapAt (text : List Char) (offset : Nat) : Span where
  first := offset
  stop := offset +
    byteCount ((text.drop ((takeBytes? offset text).getD text).length).takeWhile Cursor.isSkipped)

/-- What is skipped at the beginning of the text and after each token or error. -/
def gaps (text : List Char) (items : List (Except LexError Token)) : List Span :=
  (0 :: items.map fun item => (itemSpan item).stop).map (gapAt text)

/-- Whether a token or an error is what comes of a text, of which it takes up the word.  A token has the
terminal that leads there; an error is one character, and no terminal begins the text. -/
def Due (t : SymbolTable) (word rest : List Char) : Except LexError Token → Prop
  | .ok token =>
      token.text = word ∧ t.isTerminal token.terminal = true ∧ token.terminal ≠ epsilon ∧
        t.Leads token.terminal word rest
  | .error e =>
      word = [e.char] ∧
        ∀ id word' rest', word' ++ rest' = word ++ rest → t.Begins id word' rest' → word' = []

/-- All that lexing a text comes to. -/
structure Partitions (lexer : Lexer) (t : SymbolTable) (text : String) : Prop where
  /-- lexing ends: more steps than there are characters find no more -/
  ends : ∀ steps, text.toList.length ≤ steps →
    lexer.itemsFrom steps (.start text) = lexer.lex text
  length_le : (lexer.lex text).length ≤ text.toList.length
  nonempty : ∀ item ∈ lexer.lex text, (itemSpan item).first < (itemSpan item).stop
  ascending : (lexer.lex text).Pairwise fun a b => (itemSpan a).stop ≤ (itemSpan b).first
  /-- with what is skipped, every byte is taken up once -/
  covers : ∀ n, ((lexer.lex text).map itemSpan ++ gaps text.toList (lexer.lex text)).countP
    (·.covers n) = if n < byteCount text.toList then 1 else 0
  /-- what stands before a token or an error, at it and after it, and how lexing goes on there -/
  item : ∀ done item more, lexer.lex text = done ++ item :: more →
    ∃ before word rest, text.toList = before ++ (word ++ rest) ∧
      itemSpan item = { first := byteCount before, stop := byteCount (before ++ word) } ∧
      Due t word rest item ∧
      more = (lexer.lex (String.ofList rest)).map (shiftItem (byteCount (before ++ word)))

variable {t : SymbolTable} {lexer : Lexer} {cursor cursor' : Cursor}
  {item : Except LexError Token} {text before word rest : List Char}

/-! ### One step -/

theorem advance_append
    (word rest : List Char) (offset : Nat) :
    Cursor.advance { rest := word ++ rest, offset := offset } word.length =
      { rest := rest, offset := offset + byteCount word } := by
  simp [Cursor.advance]

theorem skip_eq
    (cursor : Cursor) :
    cursor.skip =
      { rest := cursor.rest.dropWhile Cursor.isSkipped,
        offset := cursor.offset + byteCount (cursor.rest.takeWhile Cursor.isSkipped) } := by
  have h := advance_append (cursor.rest.takeWhile Cursor.isSkipped)
    (cursor.rest.dropWhile Cursor.isSkipped) cursor.offset
  rwa [List.takeWhile_append_dropWhile] at h

/-- At the end of the text, and only there, everything else is skipped. -/
theorem next?_eq_none_iff :
    lexer.next? cursor = none ↔ cursor.rest.dropWhile Cursor.isSkipped = [] := by
  unfold next?
  simp only [skip_eq]
  split
  · rename_i hrest
    simp [hrest]
  · rename_i hrest
    split <;> simp [hrest]

/-- A step skips all that can be skipped, takes up at least one character, and goes on after it. -/
theorem next?_eq_some
    (hlexer : ofSymbols t = .ok lexer)
    (h : lexer.next? cursor = some (item, cursor')) :
    ∃ skipped word rest, cursor.rest = skipped ++ (word ++ rest) ∧
      cursor.rest.takeWhile Cursor.isSkipped = skipped ∧ word ≠ [] ∧
      itemSpan item =
        { first := cursor.offset + byteCount skipped,
          stop := cursor.offset + byteCount (skipped ++ word) } ∧
      cursor' = { rest := rest, offset := cursor.offset + byteCount (skipped ++ word) } ∧
      Due t word rest item := by
  have hsplit : cursor.rest = cursor.rest.takeWhile Cursor.isSkipped ++
      cursor.rest.dropWhile Cursor.isSkipped := List.takeWhile_append_dropWhile.symm
  unfold next? at h
  simp only [skip_eq] at h
  generalize cursor.rest.takeWhile Cursor.isSkipped = skipped at h hsplit ⊢
  split at h
  · cases h
  · rename_i c rest hrest
    rw [hrest] at h hsplit
    split at h
    · rename_i terminal length hmatch
      obtain ⟨word, rest', htext, rfl, hleads⟩ := leads_of_longestMatch? hlexer hmatch
      rw [← htext] at h hsplit
      simp only [Cursor.spanOf, advance_append, List.take_left'] at h
      cases h
      obtain ⟨hid, pattern, _, hpattern, _⟩ := hleads.begins
      refine ⟨skipped, word, rest', hsplit, rfl, hleads.ne_nil, ?_, ?_, rfl,
        isTerminal_of_pattern? hpattern, hid, hleads⟩
      · simp [itemSpan, Nat.add_assoc]
      · simp [Nat.add_assoc]
    · rename_i hmatch
      have hnone {id : SymbolId} {word' rest' : List Char} (htext : word' ++ rest' = [c] ++ rest)
          (hbegins : t.Begins id word' rest') : word' = [] :=
        eq_nil_of_longestMatch? hlexer hmatch htext hbegins
      have hadvance (offset : Nat) : Cursor.advance { rest := c :: rest, offset := offset } 1 =
          { rest := rest, offset := offset + byteCount [c] } :=
        advance_append [c] rest offset
      simp only [Cursor.spanOf, hadvance] at h
      cases h
      refine ⟨skipped, [c], rest, hsplit, rfl, List.cons_ne_nil c [], ?_, ?_, rfl,
        fun _ _ _ => hnone⟩
      · simp [itemSpan, Nat.add_assoc]
      · simp [Nat.add_assoc]

/-! ### All tokens and errors -/

/-- What holds at the end of the text, and before each step if it holds after it, holds of all tokens
and errors from a place on. -/
theorem items_induction
    {motive : Cursor → List (Except LexError Token) → Prop}
    (done : ∀ cursor, lexer.next? cursor = none → motive cursor [])
    (more : ∀ cursor item cursor', lexer.next? cursor = some (item, cursor') →
      motive cursor' (lexer.items cursor') → motive cursor (item :: lexer.items cursor'))
    (cursor : Cursor) :
    motive cursor (lexer.items cursor) := by
  induction hlength : cursor.rest.length using Nat.strong_induction_on generalizing cursor with
  | _ length ih =>
      subst hlength
      cases hnext : lexer.next? cursor with
      | none =>
          rw [items_of_none hnext]
          exact done cursor hnext
      | some found =>
          obtain ⟨item, cursor'⟩ := found
          rw [items_of_some hnext]
          exact more cursor item cursor' hnext (ih _ (length_lt_of_next? hnext) cursor' rfl)

theorem lex_eq_items
    (lexer : Lexer) (text : String) :
    lexer.lex text = lexer.items (.start text) := by
  rfl

theorem length_items_le
    (lexer : Lexer) (cursor : Cursor) :
    (lexer.items cursor).length ≤ cursor.rest.length := by
  induction cursor using items_induction with
  | done cursor hnext =>
      exact Nat.zero_le _
  | more cursor item cursor' hnext ih =>
      exact Nat.succ_le_of_lt (ih.trans_lt (length_lt_of_next? hnext))

theorem items_ascending
    (hlexer : ofSymbols t = .ok lexer) (cursor : Cursor) :
    (∀ item ∈ lexer.items cursor, cursor.offset ≤ (itemSpan item).first) ∧
      (lexer.items cursor).Pairwise fun a b => (itemSpan a).stop ≤ (itemSpan b).first := by
  induction cursor using items_induction with
  | done cursor hnext =>
      exact ⟨fun _ h => absurd h List.not_mem_nil, .nil⟩
  | more cursor item cursor' hnext ih =>
      obtain ⟨hfirst, hascending⟩ := ih
      obtain ⟨skipped, word, rest, _, _, _, hspan, rfl, _⟩ := next?_eq_some hlexer hnext
      refine ⟨?_, List.pairwise_cons.2 ⟨?_, hascending⟩⟩
      · intro b hb
        rcases List.mem_cons.1 hb with rfl | hb
        · rw [hspan]
          exact Nat.le_add_right _ _
        · exact (Nat.le_add_right _ _).trans (hfirst b hb)
      · intro b hb
        rw [hspan]
        exact hfirst b hb

/-- Each token or error stands after something that is skipped or taken up by others, and lexing goes on
after it. -/
theorem exists_of_items_eq
    {done more : List (Except LexError Token)}
    (hlexer : ofSymbols t = .ok lexer)
    (h : lexer.items cursor = done ++ item :: more) :
    ∃ before word rest, cursor.rest = before ++ (word ++ rest) ∧ word ≠ [] ∧
      itemSpan item =
        { first := cursor.offset + byteCount before,
          stop := cursor.offset + byteCount (before ++ word) } ∧
      Due t word rest item ∧
      more = lexer.items
        { rest := rest, offset := cursor.offset + byteCount (before ++ word) } := by
  induction cursor using items_induction generalizing done with
  | done cursor hnext =>
      cases done <;> cases h
  | more cursor first cursor' hnext ih =>
      obtain ⟨skipped, word, rest, hrest, _, hne, hspan, rfl, hdue⟩ := next?_eq_some hlexer hnext
      cases done with
      | nil =>
          cases h
          exact ⟨skipped, word, rest, hrest, hne, hspan, hdue, rfl⟩
      | cons _ done =>
          obtain ⟨before, word', rest', hrest', hne', hspan', hdue', hmore⟩ := ih (List.cons.inj h).2
          dsimp only at hrest' hspan' hmore
          subst hrest'
          refine ⟨skipped ++ (word ++ before), word', rest', ?_, hne', ?_, hdue', ?_⟩
          · rw [hrest]
            simp
          · rw [hspan']
            simp [Nat.add_assoc]
          · rw [hmore]
            simp [Nat.add_assoc]

/-! ### Every byte once -/

theorem gapAt_append
    (before rest : List Char) :
    gapAt (before ++ rest) (byteCount before) =
      { first := byteCount before,
        stop := byteCount before + byteCount (rest.takeWhile Cursor.isSkipped) } := by
  simp [gapAt, takeBytes?_append]

/-- What two adjoining spans cover. -/
theorem covers_add
    {a b c : Nat} (hab : a ≤ b) (hbc : b ≤ c) (n : Nat) :
    ((if (Span.mk a b).covers n then 1 else 0) + if (Span.mk b c).covers n then 1 else 0) =
      if (Span.mk a c).covers n then 1 else 0 := by
  simp only [Span.covers, Bool.and_eq_true, decide_eq_true_eq]
  split_ifs <;> omega

theorem countP_covers
    (hlexer : ofSymbols t = .ok lexer) (cursor : Cursor) (before : List Char)
    (htext : text = before ++ cursor.rest)
    (hbefore : byteCount before = cursor.offset) (n : Nat) :
    ((lexer.items cursor).map itemSpan ++
        (cursor.offset :: (lexer.items cursor).map fun item => (itemSpan item).stop).map
          (gapAt text)).countP (·.covers n) =
      if (Span.mk cursor.offset (cursor.offset + byteCount cursor.rest)).covers n then 1 else 0 := by
  induction cursor using items_induction generalizing before with
  | done cursor hnext =>
      have hskipped : cursor.rest.takeWhile Cursor.isSkipped = cursor.rest := by
        have hsplit : cursor.rest.takeWhile Cursor.isSkipped ++
            cursor.rest.dropWhile Cursor.isSkipped = cursor.rest := List.takeWhile_append_dropWhile
        rwa [next?_eq_none_iff.1 hnext, List.append_nil] at hsplit
      rw [htext, ← hbefore]
      simp [gapAt_append, hskipped, Span.covers]
  | more cursor item cursor' hnext ih =>
      obtain ⟨skipped, word, rest, hrest, hskipped, _, hspan, rfl, _⟩ := next?_eq_some hlexer hnext
      have hgap : gapAt text cursor.offset =
          { first := cursor.offset, stop := cursor.offset + byteCount skipped } := by
        rw [htext, ← hbefore, gapAt_append, hskipped]
      have hothers := ih (before ++ (skipped ++ word)) (by simp [htext, hrest])
        (by rw [byteCount_append, hbefore])
      have hitem := covers_add (Nat.le_add_right cursor.offset (byteCount skipped))
        (Nat.le_add_right _ (byteCount word)) n
      have hrun := covers_add (Nat.le_add_right cursor.offset (byteCount (skipped ++ word)))
        (Nat.le_add_right _ (byteCount rest)) n
      have hsize : cursor.offset + byteCount cursor.rest =
          cursor.offset + byteCount (skipped ++ word) + byteCount rest := by
        simp [hrest, Nat.add_assoc]
      simp only [List.map_cons, List.countP_append, List.countP_cons, hspan, hgap, hsize,
        byteCount_append, ← Nat.add_assoc] at hothers hitem hrun ⊢
      omega

/-! ### Further on in a text -/

theorem advance_shift
    (n k : Nat) (cursor : Cursor) :
    (cursor.shift n).advance k = (cursor.advance k).shift n := by
  simp [Cursor.advance, Cursor.shift, Nat.add_right_comm]

theorem spanOf_shift
    (n k : Nat) (cursor : Cursor) :
    (cursor.shift n).spanOf k = (cursor.spanOf k).shift n := by
  rw [Cursor.spanOf, advance_shift]
  rfl

theorem next?_shift
    (lexer : Lexer) (n : Nat) (cursor : Cursor) :
    lexer.next? (cursor.shift n) =
      (lexer.next? cursor).map fun found => (shiftItem n found.1, found.2.shift n) := by
  have hskip : (cursor.shift n).skip = cursor.skip.shift n :=
    advance_shift n _ cursor
  have hrest : (cursor.skip.shift n).rest = cursor.skip.rest := rfl
  unfold next?
  simp only [hskip, hrest, advance_shift, spanOf_shift]
  split
  · rfl
  · split <;> rfl

theorem items_shift
    (lexer : Lexer) (n : Nat) (cursor : Cursor) :
    lexer.items (cursor.shift n) = (lexer.items cursor).map (shiftItem n) := by
  induction cursor using items_induction with
  | done cursor hnext =>
      rw [items_of_none]
      · rfl
      · rw [next?_shift, hnext, Option.map_none]
  | more cursor item cursor' hnext ih =>
      rw [List.map_cons, ← ih]
      refine items_of_some ?_
      rw [next?_shift, hnext, Option.map_some]

/-! ### A whole text -/

/-- **A lexer leaves nothing of a text out.**  Lexing ends after at most as many tokens and errors as the
text has characters.  They take up whole characters, one after the other, and with what is skipped
before the first and after each of them they take up every byte once.  A token is the longest word
that a terminal begins the rest of the text with, and of several terminals the first one has it; an
error is one character, where no terminal begins the rest of the text.  What comes after either is
what lexing the text after it gives. -/
theorem lex_partitions
    (hlexer : ofSymbols t = .ok lexer) (text : String) :
    lexer.Partitions t text where
  ends := by
    intro steps hsteps
    exact itemsFrom_of_le hsteps
  length_le := length_items_le lexer (.start text)
  nonempty := by
    intro item hitem
    obtain ⟨done, more, hitems⟩ := List.append_of_mem hitem
    rw [lex_eq_items] at hitems
    obtain ⟨before, word, rest, _, hne, hspan, _⟩ := exists_of_items_eq hlexer hitems
    have hpos := byteCount_pos hne
    rw [hspan, byteCount_append]
    dsimp only
    omega
  ascending := (items_ascending hlexer (.start text)).2
  covers := by
    intro n
    have h := countP_covers hlexer (.start text) [] rfl rfl n
    have hwhole : (Span.mk 0 (0 + byteCount text.toList)).covers n =
        decide (n < byteCount text.toList) := by
      simp [Span.covers]
    refine h.trans ?_
    simp only [Cursor.start, hwhole, decide_eq_true_eq]
  item := by
    intro done item more hitems
    rw [lex_eq_items] at hitems
    obtain ⟨before, word, rest, htext, _, hspan, hdue, hmore⟩ := exists_of_items_eq hlexer hitems
    have hstart : (Cursor.start text).offset = 0 := rfl
    have hshift : (Cursor.start (String.ofList rest)).shift (byteCount (before ++ word)) =
        { rest := rest, offset := (Cursor.start text).offset + byteCount (before ++ word) } := by
      simp [Cursor.start, Cursor.shift]
    refine ⟨before, word, rest, htext, ?_, hdue, ?_⟩
    · rw [hspan, hstart, Nat.zero_add, Nat.zero_add]
    · rw [hmore, lex_eq_items, ← items_shift, hshift]

/-- A table in which both terminals match `if`. -/
def words : SymbolTable where
  symbols := SymbolTable.initial.symbols ++
    [{ name := "IF", kind := .terminal "if" }, { name := "ID", kind := .terminal "[a-z]+" }]

/-- Of the two terminals that match `if`, the first one is taken, but not for `iff`; the letter with an
accent takes up two bytes. -/
theorem lex_partitions_words :
    ∃ lexer, ofSymbols words = .ok lexer ∧
      lexer.lex "if é\r\niff" =
        [.ok { terminal := 2, text := ['i', 'f'], span := { first := 0, stop := 2 } },
          .error { char := 'é', span := { first := 3, stop := 5 } },
          .ok { terminal := 3, text := ['i', 'f', 'f'], span := { first := 7, stop := 10 } }] ∧
      lexer.Partitions words "if é\r\niff" := by
  have hlex : (ofSymbols words).map (fun lexer => lexer.lex "if é\r\niff") =
      .ok [.ok ⟨2, ['i', 'f'], ⟨0, 2⟩⟩, .error ⟨'é', ⟨3, 5⟩⟩, .ok ⟨3, ['i', 'f', 'f'], ⟨7, 10⟩⟩] := by
    cbv
  cases hlexer : ofSymbols words with
  | error e =>
      rw [hlexer] at hlex
      cases hlex
  | ok lexer =>
      rw [hlexer] at hlex
      exact ⟨lexer, rfl, Except.ok.inj hlex, lex_partitions hlexer _⟩

end Lexer
end PredictiveParsing
