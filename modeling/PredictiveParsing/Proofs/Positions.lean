import PredictiveParsing.Proofs.Lines
import PredictiveParsing.Proofs.Loading
import PredictiveParsing.Proofs.Tiling
import PredictiveParsing.Report
import Mathlib

/-!
# Positions point at what they are reported for

Faults and errors carry byte offsets, and reports show lines and columns.  The offsets between two
characters of a text, and at its ends, have positions that ascend with them
(`Text.position_precedes`).

The position of a character is where it is found when the text is split at its line feeds
(`Text.position_of_char`), and the error of a lexer is at its character (`Lexer.errorAt_of_mem_lex`).
Each fault of a grammar text is that of one of its lines (`Grammar.offending_of_mem`), and its place is
the first column of this line.  None of these places is past the end of the text or inside a
character.
-/

namespace PredictiveParsing

namespace Text

variable {text before after whole last between : List Char} {m n offset : Nat}

/-! ### Offsets and positions -/

/-- An offset between two characters of a text, or at one of its ends. -/
def Boundary (text : List Char) (offset : Nat) : Prop :=
  ∃ before after, text = before ++ after ∧ offset = byteCount before

/-- One position comes before another, in the order of reading. -/
def Position.Precedes (p q : Position) : Prop :=
  p.line < q.line ∨ p.line = q.line ∧ p.column < q.column

theorem boundary_append
    (before after : List Char) :
    Boundary (before ++ after) (byteCount before) :=
  ⟨before, after, rfl, rfl⟩

/-- The characters before such an offset are found. -/
theorem Boundary.isSome_takeBytes?
    (h : Boundary text offset) :
    (takeBytes? offset text).isSome = true := by
  obtain ⟨before, after, rfl, rfl⟩ := h
  rw [takeBytes?_append]
  rfl

theorem position_append
    (before after : List Char) :
    position (before ++ after) (byteCount before) = .after before := by
  rw [position, takeBytes?_append, Option.getD_some]

/-- A text is some whole lines and the beginning of one more. -/
theorem exists_lines_append
    (text : List Char) :
    ∃ whole last, text = whole ++ last ∧ (whole = [] ∨ whole.getLast? = some '\n') ∧
      '\n' ∉ last := by
  induction text using List.reverseRecOn with
  | nil =>
      exact ⟨[], [], rfl, Or.inl rfl, List.not_mem_nil⟩
  | append_singleton text c ih =>
      by_cases hc : c = '\n'
      · subst hc
        exact ⟨text ++ ['\n'], [], by simp, Or.inr (by simp), List.not_mem_nil⟩
      · obtain ⟨whole, last, rfl, hwhole, hlast⟩ := ih
        exact ⟨whole, last ++ [c], by simp, hwhole, by simp [hlast, Ne.symm hc]⟩

theorem Position.after_append
    (hwhole : whole = [] ∨ whole.getLast? = some '\n')
    (hlast : '\n' ∉ last) :
    Position.after (whole ++ last) =
      { line := whole.count '\n' + 1, column := last.length + 1 } := by
  have hstart : whole.reverse.takeWhile (· ≠ '\n') = [] := by
    rcases hwhole with rfl | hnewline
    · rfl
    · obtain ⟨others, rfl⟩ := List.getLast?_eq_some_iff.1 hnewline
      simp
  have hcolumn : (whole ++ last).reverse.takeWhile (· ≠ '\n') = last.reverse := by
    rw [List.reverse_append, List.takeWhile_append_of_pos, hstart, List.append_nil]
    intro c hc
    simpa using ne_of_mem_of_not_mem (List.mem_reverse.1 hc) hlast
  rw [Position.after, hcolumn, List.count_append, List.count_eq_zero.2 hlast, Nat.add_zero,
    List.length_reverse]

/-- More characters come to a later position: on a later line, or farther on in the same one. -/
theorem Position.after_precedes
    (hbetween : between ≠ []) :
    (Position.after before).Precedes (.after (before ++ between)) := by
  by_cases hnewline : '\n' ∈ between
  · have hcount := List.count_pos_iff.2 hnewline
    left
    simp only [Position.after, List.count_append]
    omega
  · obtain ⟨whole, last, rfl, hwhole, hlast⟩ := exists_lines_append before
    have hlonger : '\n' ∉ last ++ between := by
      simp [hlast, hnewline]
    have hpos := List.length_pos_of_ne_nil hbetween
    rw [List.append_assoc, after_append hwhole hlast, after_append hwhole hlonger]
    refine Or.inr ⟨rfl, ?_⟩
    dsimp only
    rw [List.length_append]
    omega

theorem position_precedes
    (hm : Boundary text m)
    (hn : Boundary text n)
    (hlt : m < n) :
    (position text m).Precedes (position text n) := by
  obtain ⟨before, after, rfl, rfl⟩ := hm
  obtain ⟨longer, rest, htext, rfl⟩ := hn
  rw [position_append, htext, position_append]
  have hprefix : before <+: longer := by
    have hbefore : before <+: longer ++ rest := ⟨after, htext⟩
    refine (List.prefix_or_prefix_of_prefix hbefore (List.prefix_append _ _)).resolve_right ?_
    rintro ⟨between, rfl⟩
    rw [byteCount_append] at hlt
    omega
  obtain ⟨between, rfl⟩ := hprefix
  refine Position.after_precedes ?_
  rintro rfl
  simp at hlt

/-- No two offsets have the same position. -/
theorem position_injective
    (hm : Boundary text m)
    (hn : Boundary text n)
    (h : position text m = position text n) :
    m = n := by
  rcases Nat.lt_trichotomy m n with hlt | heq | hgt
  · have hprecedes := position_precedes hm hn hlt
    rw [h] at hprecedes
    simp [Position.Precedes] at hprecedes
  · exact heq
  · have hprecedes := position_precedes hn hm hgt
    rw [h] at hprecedes
    simp [Position.Precedes] at hprecedes

end Text

/-! ### Characters -/

namespace Document

open Text

variable {text whole line : List Char}

theorem length_lines
    (text : List Char) :
    (lines text).length = text.count '\n' + 1 := by
  induction text with
  | nil =>
      rfl
  | cons c text ih =>
      rw [lines]
      by_cases hc : c = '\n'
      · simp [hc, ih]
      · cases hlines : lines text with
        | nil =>
            simp [hlines] at ih
        | cons first rest =>
            rw [hlines] at ih
            simpa [hc] using ih

theorem head?_lines
    (text : List Char) :
    (lines text).head? = some (text.takeWhile (· ≠ '\n')) := by
  induction text with
  | nil =>
      rfl
  | cons c text ih =>
      rw [lines]
      by_cases hc : c = '\n'
      · simp [hc]
      · cases hlines : lines text with
        | nil =>
            simp [hlines] at ih
        | cons first rest =>
            rw [hlines, List.head?_cons, Option.some.injEq] at ih
            simp [hc, ih]

/-- After whole lines, the next line is the first of the rest. -/
theorem getElem?_lines
    (hwhole : whole = [] ∨ whole.getLast? = some '\n')
    (rest : List Char) :
    (lines (whole ++ rest))[whole.count '\n']? = some (rest.takeWhile (· ≠ '\n')) := by
  rw [← head?_lines, List.head?_eq_getElem?]
  rcases hwhole with rfl | hnewline
  · rfl
  · obtain ⟨others, rfl⟩ := List.getLast?_eq_some_iff.1 hnewline
    have hcount : (others ++ ['\n']).count '\n' = (lines others).length := by
      simp [length_lines]
    rw [hcount, List.append_assoc, List.singleton_append, lines_append,
      List.getElem?_append_right le_rfl, Nat.sub_self]

end Document

namespace Text

/-- The position of a character is its line, of those between line feeds, and its place in this line. -/
theorem position_of_char
    {c : Char}
    (hc : c ≠ '\n')
    (before rest : List Char) :
    ∃ piece i j, ((before ++ c :: rest).splitOn '\n')[i]? = some piece ∧ piece[j]? = some c ∧
      position (before ++ c :: rest) (byteCount before) = { line := i + 1, column := j + 1 } := by
  obtain ⟨whole, last, rfl, hwhole, hlast⟩ := exists_lines_append before
  have hline := Document.getElem?_lines hwhole (last ++ c :: rest)
  have hkept : ∀ d ∈ last, decide (d ≠ '\n') = true := by
    intro d hd
    simpa using ne_of_mem_of_not_mem hd hlast
  rw [List.takeWhile_append_of_pos hkept, Document.lines_eq_splitOn, ← List.append_assoc] at hline
  refine ⟨_, whole.count '\n', last.length, hline, by simp [hc], ?_⟩
  rw [position_append, Position.after_append hwhole hlast]

end Text

/-! ### Errors of a lexer -/

namespace Lexer

open Text

variable {lexer : Lexer} {cursor cursor' : Cursor} {text : List Char}
  {item : Except LexError Token} {e : LexError}

/-- The cursor is somewhere in the text, with the bytes before it. -/
def StandsIn (text : List Char) (cursor : Cursor) : Prop :=
  ∃ before, text = before ++ cursor.rest ∧ cursor.offset = byteCount before

theorem StandsIn.advance
    (h : StandsIn text cursor)
    (n : Nat) :
    StandsIn text (cursor.advance n) := by
  obtain ⟨before, htext, hoffset⟩ := h
  refine ⟨before ++ cursor.rest.take n, ?_, ?_⟩
  · simp [Cursor.advance, htext]
  · simp [Cursor.advance, hoffset]

/-- The error is at its character, which is no line feed. -/
def ErrorAt (text : List Char) (e : LexError) : Prop :=
  ∃ before rest, text = before ++ e.char :: rest ∧ e.span.first = byteCount before ∧
    e.char ≠ '\n'

/-- Going on, a lexer stays in the text, and an error is at its character. -/
theorem StandsIn.next?
    (h : StandsIn text cursor)
    (hnext : lexer.next? cursor = some (item, cursor')) :
    StandsIn text cursor' ∧ ∀ e, item = .error e → ErrorAt text e := by
  have hskip : StandsIn text cursor.skip := h.advance _
  have hrest : cursor.skip.rest = cursor.rest.dropWhile Cursor.isSkipped := by
    rw [skip_eq]
  unfold Lexer.next? at hnext
  dsimp only at hnext
  split at hnext
  · cases hnext
  · rename_i c rest hcs
    split at hnext
    · cases hnext
      refine ⟨hskip.advance _, fun e he => ?_⟩
      cases he
    · cases hnext
      refine ⟨hskip.advance 1, fun e he => ?_⟩
      cases he
      obtain ⟨before, htext, hoffset⟩ := hskip
      refine ⟨before, rest, by rw [htext, hcs], hoffset, ?_⟩
      rintro rfl
      have hkept := List.head?_dropWhile_not Cursor.isSkipped cursor.rest
      rw [← hrest, hcs] at hkept
      cases hkept

theorem errorAt_of_mem_items
    (h : StandsIn text cursor)
    (he : .error e ∈ lexer.items cursor) :
    ErrorAt text e := by
  induction cursor using items_induction with
  | done cursor hnext =>
      cases he
  | more cursor item cursor' hnext ih =>
      obtain ⟨hstands, herror⟩ := h.next? hnext
      rcases List.mem_cons.1 he with heq | hmem
      · exact herror e heq.symm
      · exact ih hstands hmem

theorem errorAt_of_mem_lex
    {text : String}
    (he : .error e ∈ lexer.lex text) :
    ErrorAt text.toList e := by
  have hstart : StandsIn text.toList (.start text) := ⟨[], rfl, rfl⟩
  exact errorAt_of_mem_items hstart he

end Lexer

/-! ### Faults of a grammar text -/

namespace Document

open Text

variable {raws : List (List Char)} {before : List Char} {line : Spanned (List Char)} {i : Nat}

/-- A line begins at the first column of its number. -/
theorem position_of_getElem?_placeLines
    (hbefore : before = [] ∨ before.getLast? = some '\n')
    (hraws : ∀ raw ∈ raws, '\n' ∉ raw)
    (hline : (placeLines (byteCount before) raws)[i]? = some line) :
    Boundary (before ++ ['\n'].intercalate raws) line.span.first ∧
      position (before ++ ['\n'].intercalate raws) line.span.first =
        { line := before.count '\n' + i + 1, column := 1 } := by
  induction raws generalizing before i with
  | nil =>
      cases hline
  | cons raw raws ih =>
      have hraw := hraws raw List.mem_cons_self
      cases i with
      | zero =>
          cases hline
          refine ⟨boundary_append _ _, ?_⟩
          have hafter := Position.after_append hbefore (List.not_mem_nil (a := '\n'))
          rw [position_append]
          simpa using hafter
      | succ i =>
          have hne : raws ≠ [] := by
            rintro rfl
            cases hline
          have hcount : byteCount (before ++ raw ++ ['\n']) =
              byteCount before + byteCount raw + 1 := by
            simp
            rfl
          have hlines : (before ++ raw ++ ['\n']).count '\n' + i = before.count '\n' + (i + 1) := by
            simp [List.count_eq_zero.2 hraw]
            omega
          rw [placeLines, List.getElem?_cons_succ, ← hcount] at hline
          have h := ih (Or.inr (by simp)) (fun raw hmem => hraws raw (List.mem_cons_of_mem _ hmem))
            hline
          rw [hlines] at h
          rwa [List.intercalate_cons_of_ne_nil hne, ← List.append_assoc, ← List.append_assoc]

/-- The lines of a text with their places. -/
def placed (text : String) : List (Spanned (List Char)) :=
  placeLines 0 (text.toList.splitOn '\n')

theorem position_of_placed
    {text : String}
    (hline : (placed text)[i]? = some line) :
    Boundary text.toList line.span.first ∧
      position text.toList line.span.first = { line := i + 1, column := 1 } := by
  have hbefore : ([] : List Char) = [] ∨ ([] : List Char).getLast? = some '\n' := Or.inl rfl
  rw [placed, ← lines_eq_splitOn] at hline
  have h := position_of_getElem?_placeLines hbefore (fun _ => newline_not_mem) hline
  simpa [intercalate_lines] using h

/-- A fault is that of a line, counted from zero, that is no declaration of its part, or of one whose
declaration fails when the document is loaded. -/
inductive Offending (text : String) (i : Nat) : PlacedFault → Prop
  | malformed
      {part : Part} {line : Spanned (List Char)}
      (hline : (placed text)[i]? = some line)
      (hcounts : (part, line) ∈ relevantLines text)
      (hnone : part.declaration? line.item = none) :
      Offending text i ((part.fault line.item).placed line.span)
  | refused
      {part : Part} {line : Spanned (List Char)}
      (hline : (placed text)[i]? = some line)
      (hcounts : (part, line) ∈ relevantLines text)
      {d : Declaration}
      (hd : part.declaration? line.item = some d)
      {document : Document} {fault : Fault}
      (hread : (read text).result = .ok document)
      (hfails : (⟨line.span, d⟩, .error fault) ∈ document.symbolAnswers ++ document.ruleAnswers) :
      Offending text i (fault.placed line.span)

theorem exists_of_mem_relevantLines
    {text : String} {part : Part}
    (h : (part, line) ∈ relevantLines text) :
    ∃ i : Nat, (placed text)[i]? = some line := by
  have hmem : line ∈ (relevantLines text).map Prod.snd := List.mem_map_of_mem h
  exact List.mem_iff_getElem?.1 ((relevant_sublist _).subset hmem)

/-- Each fault of reading is that of a line. -/
theorem offending_of_mem_faults
    {text : String} {f : PlacedFault}
    (h : f ∈ (read text).faults) :
    ∃ i, Offending text i f := by
  rw [(read_eq text).2] at h
  obtain ⟨⟨part, line⟩, hmem, rfl⟩ := List.mem_map.1 h
  obtain ⟨hcounts, hmalformed⟩ := List.mem_filter.1 hmem
  obtain ⟨i, hline⟩ := exists_of_mem_relevantLines hcounts
  exact ⟨i, .malformed hline hcounts (by simpa [isMalformed] using hmalformed)⟩

/-- Each fault of loading is that of the line of a declaration. -/
theorem offending_of_mem_failed
    {text : String} {document : Document} {f : PlacedFault}
    (hread : (read text).result = .ok document)
    (h : f ∈ (document.symbolAnswers ++ document.ruleAnswers).failed) :
    ∃ i, Offending text i f := by
  obtain ⟨⟨d, answer⟩, hanswer, hfault⟩ := List.mem_filterMap.1 h
  have hd : d ∈ document := by
    have hmem := List.mem_map_of_mem (f := Prod.fst) hanswer
    rw [List.map_append, symbolAnswers, ruleAnswers, Grammar.map_fst_answers,
      Grammar.map_fst_answers, List.mem_append] at hmem
    exact hmem.elim (fun h => List.mem_of_mem_filter h) fun h => List.mem_of_mem_filter h
  rw [(result_eq_ok_iff.1 hread).2] at hd
  obtain ⟨⟨part, line⟩, hcounts, hdeclared⟩ := List.mem_filterMap.1 hd
  obtain ⟨declaration, hdeclaration, rfl⟩ := Option.map_eq_some_iff.1 hdeclared
  obtain ⟨i, hline⟩ := exists_of_mem_relevantLines hcounts
  cases answer with
  | ok answer =>
      cases hfault
  | error fault =>
      cases hfault
      exact ⟨i, .refused hline hcounts hdeclaration hread hanswer⟩

end Document

namespace Grammar

/-- Each fault of a grammar text is that of a line. -/
theorem offending_of_mem
    {text : String} {faults : List PlacedFault} {f : PlacedFault}
    (h : ofText text = .error faults)
    (hf : f ∈ faults) :
    ∃ i, Document.Offending text i f := by
  unfold ofText at h
  cases hread : (Document.read text).result with
  | error malformed =>
      rw [hread] at h
      cases h
      unfold Document.Reading.result at hread
      split at hread
      · cases hread
      · cases hread
        exact Document.offending_of_mem_faults hf
  | ok document =>
      rw [hread] at h
      change document.load.result = .error faults at h
      rw [Document.result_load] at h
      split at h
      · cases h
      · cases h
        exact Document.offending_of_mem_failed hread hf

end Grammar

namespace Document

open Text

/-- The span of a fault is that of its line. -/
theorem Offending.place
    {text : String} {i : Nat} {f : PlacedFault}
    (h : Offending text i f) :
    ∃ span, f.span = some span ∧ Boundary text.toList span.first ∧
      position text.toList span.first = { line := i + 1, column := 1 } := by
  cases h with
  | malformed hline | refused hline =>
      obtain ⟨hboundary, hposition⟩ := position_of_placed hline
      exact ⟨_, rfl, hboundary, hposition⟩

end Document

namespace Report

open Text

theorem place_eq
    {text : String} {offset line column : Nat}
    (h : position text.toList offset = { line := line, column := column })
    (path : String) :
    place path text offset = path ++ ":" ++ toString line ++ ":" ++ toString column := by
  unfold place
  rw [h]

/-- **Reported positions point at the fault.**  On the offsets between two characters of a text and at
its ends, positions ascend strictly, so that no two are the same.  Where an error of a lexer is
reported stands its character.  Every fault of a grammar text is reported at the first column of the line of
the declaration that is wrong.  None of these is looked up past the end of the text or inside a
character. -/
theorem positions_point_at_faults
    (text : String) :
    (∀ m n, Boundary text.toList m → Boundary text.toList n →
      (m < n → (position text.toList m).Precedes (position text.toList n)) ∧
      (position text.toList m = position text.toList n → m = n)) ∧
    (∀ (lexer : Lexer) e, .error e ∈ lexer.lex text →
      (takeBytes? e.span.first text.toList).isSome = true ∧
      ∃ piece i j, (text.toList.splitOn '\n')[i]? = some piece ∧ piece[j]? = some e.char ∧
        position text.toList e.span.first = { line := i + 1, column := j + 1 } ∧
        ∀ path, lexError path text e = "invalid character " ++ quoteChar e.char ++ " at " ++
          (path ++ ":" ++ toString (i + 1) ++ ":" ++ toString (j + 1)) ++ "\n") ∧
    ∀ faults, Grammar.ofText text = .error faults → ∀ f ∈ faults,
      ∃ span i, f.span = some span ∧ (takeBytes? span.first text.toList).isSome = true ∧
        Document.Offending text i f ∧
        position text.toList span.first = { line := i + 1, column := 1 } ∧
        ∀ path, fault path text f = "error at " ++
          (path ++ ":" ++ toString (i + 1) ++ ":" ++ toString 1) ++ ": " ++ f.fault.message ++
            "\n" := by
  refine ⟨fun m n hm hn => ⟨position_precedes hm hn, position_injective hm hn⟩,
    fun lexer e he => ?_, fun faults h f hf => ?_⟩
  · obtain ⟨before, rest, htext, hfirst, hchar⟩ := Lexer.errorAt_of_mem_lex he
    obtain ⟨line, i, j, hline, hcolumn, hposition⟩ := position_of_char hchar before rest
    rw [← htext, ← hfirst] at hposition
    rw [← htext] at hline
    have hboundary : Boundary text.toList e.span.first := ⟨before, _, htext, hfirst⟩
    refine ⟨hboundary.isSome_takeBytes?, line, i, j, hline, hcolumn, hposition, fun path => ?_⟩
    unfold lexError
    rw [place_eq hposition]
  · obtain ⟨i, hoffending⟩ := Grammar.offending_of_mem h hf
    obtain ⟨span, hspan, hboundary, hposition⟩ := hoffending.place
    refine ⟨span, i, hspan, hboundary.isSome_takeBytes?, hoffending, hposition, fun path => ?_⟩
    simp only [fault, hspan, place_eq hposition]

/-- A text of three lines, two of which are wrong, with letters of two bytes and carriage returns. -/
def accents : String :=
  "terminal é é;\r\n;\r\nS = a;\n"

/-- The second letter with an accent is found at its position, behind the first one, and the last line
is reported at its number. -/
theorem positions_point_at_faults_accents :
    (position accents.toList 9).Precedes (position accents.toList 12) ∧
    (∃ piece i j, (accents.toList.splitOn '\n')[i]? = some piece ∧ piece[j]? = some 'é' ∧
      position accents.toList 12 = { line := i + 1, column := j + 1 }) ∧
    ∃ i, Document.Offending accents i
        ⟨.malformed "invalid production `S = a;`", some ⟨20, 26⟩⟩ ∧
      position accents.toList 20 = { line := i + 1, column := 1 } := by
  obtain ⟨horder, herrors, hfaults⟩ := positions_point_at_faults accents
  refine ⟨?_, ?_, ?_⟩
  · have hm : Boundary accents.toList 9 := ⟨"terminal ".toList, _, rfl, by decide⟩
    have hn : Boundary accents.toList 12 := ⟨"terminal é ".toList, _, rfl, by decide⟩
    exact (horder 9 12 hm hn).1 (by decide)
  · have hlex : (Lexer.ofSymbols Lexer.words).map (fun lexer =>
        decide (.error ⟨'é', ⟨12, 14⟩⟩ ∈ lexer.lex accents)) = .ok true := by
      cbv
    cases hlexer : Lexer.ofSymbols Lexer.words with
    | error e =>
        rw [hlexer] at hlex
        cases hlex
    | ok lexer =>
        rw [hlexer] at hlex
        have hmem := of_decide_eq_true (Except.ok.inj hlex)
        obtain ⟨_, line, i, j, hline, hchar, hposition, _⟩ := herrors lexer _ hmem
        exact ⟨line, i, j, hline, hchar, hposition⟩
  · have htext : Grammar.ofText accents = .error
        [⟨.malformed "invalid symbol declaration `terminal é é;`", some ⟨0, 15⟩⟩,
          ⟨.malformed "invalid production `S = a;`", some ⟨20, 26⟩⟩] := by
      cbv
    obtain ⟨span, i, hspan, _, hoffending, hposition, _⟩ :=
      hfaults _ htext _ (List.mem_cons_of_mem _ List.mem_cons_self)
    cases hspan
    exact ⟨i, hoffending, hposition⟩

end Report
end PredictiveParsing
