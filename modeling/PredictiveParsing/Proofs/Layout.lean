import PredictiveParsing.Proofs.Lines
import PredictiveParsing.Proofs.Tiling
import Mathlib.Tactic

/-!
# The layout of a grammar text

A text may end its lines with a carriage return and a line feed instead of a line feed, and it may have
blank lines anywhere.  Neither changes what the text declares or what is wrong with it; only the places
are moved, each by the bytes that were inserted before it (`Document.MovedBy`).

The lines of the new text are those of the old one, moved, with blank lines between
(`Document.Spread`).  Blank lines do not count, so the lines that count are those that counted before
(`Document.relevant_spread`), and loading does not look at places (`Document.load_moved`).
-/

namespace PredictiveParsing

open Text

/-- The same thing further on, by the bytes that were inserted before the place where it began. -/
def Spanned.moved {α : Type} (inserted : Nat → Nat) (d : Spanned α) : Spanned α where
  span := d.span.shift (inserted d.span.first)
  item := d.item

/-- The same fault further on. -/
def PlacedFault.moved (inserted : Nat → Nat) (f : PlacedFault) : PlacedFault where
  fault := f.fault
  span := f.span.map fun s => s.shift (inserted s.first)

namespace Document

/-- The same document, or the same faults, further on. -/
def movedResult (inserted : Nat → Nat) :
    Except (List PlacedFault) Document → Except (List PlacedFault) Document
  | .ok document => .ok (document.map (Spanned.moved inserted))
  | .error faults => .error (faults.map (PlacedFault.moved inserted))

/-! ### Lines that are spread -/

/-- The lines `ls` are moved, and there are blank lines between them. -/
inductive Spread (inserted : Nat → Nat) :
    List (Spanned (List Char)) → List (Spanned (List Char)) → Prop
  | nil : Spread inserted [] []
  | line
      {ls ls' : List (Spanned (List Char))}
      (l : Spanned (List Char))
      (h : Spread inserted ls ls') :
      Spread inserted (l :: ls) (l.moved inserted :: ls')
  | blank
      {ls ls' : List (Spanned (List Char))} {l : Spanned (List Char)}
      (hl : allBlank l.item = true)
      (h : Spread inserted ls ls') :
      Spread inserted ls (l :: ls')

section

variable {inserted : Nat → Nat} {ls ls' : List (Spanned (List Char))} {raw raw' : List Char}
  {raws raws' : List (List Char)} {offset offset' : Nat}

/-- The same line of the same part, further on. -/
def movedLine (inserted : Nat → Nat) (l : Part × Spanned (List Char)) : Part × Spanned (List Char) :=
  (l.1, l.2.moved inserted)

/-- One part of the lines. -/
theorem part_spread
    (part : Part)
    (h : Spread inserted ls ls') :
    ofPart part ls' = (ofPart part ls).map (movedLine inserted) ∧
      Spread inserted (afterPart ls) (afterPart ls') := by
  induction h with
  | nil =>
      exact ⟨rfl, Spread.nil⟩
  | @line ls ls' l h ih =>
      obtain ⟨hpart, hafter⟩ := ih
      cases hsep : isSeparator l.item with
      | true =>
          have hsep' : isSeparator (l.moved inserted).item = true := hsep
          simp [ofPart, afterPart, hsep, hsep', h]
      | false =>
          have hsep' : isSeparator (l.moved inserted).item = false := hsep
          rw [ofPart_cons part hsep, ofPart_cons part hsep', afterPart_cons hsep, afterPart_cons hsep',
            hpart]
          refine ⟨?_, hafter⟩
          change (if allBlank l.item = true then _ else _) = _
          split <;> rfl
  | @blank ls ls' l hl _ ih =>
      have hsep := isSeparator_of_allBlank hl
      rw [ofPart_cons part hsep, if_pos hl, afterPart_cons hsep]
      exact ih

/-- Blank lines do not count. -/
theorem relevant_spread
    (h : Spread inserted ls ls') :
    relevant ls' = (relevant ls).map (movedLine inserted) := by
  obtain ⟨hsymbols, hafter⟩ := part_spread .symbols h
  obtain ⟨hrules, _⟩ := part_spread .rules hafter
  rw [relevant, relevant, hsymbols, hrules, List.map_append]

/-! ### What is read and loaded -/

theorem declared?_moved
    (l : Part × Spanned (List Char)) :
    declared? (movedLine inserted l) = (declared? l).map (Spanned.moved inserted) := by
  simp only [declared?, Option.map_map]
  rfl

theorem result_moved
    {text text' : String}
    (h : relevantLines text' = (relevantLines text).map (movedLine inserted)) :
    (read text').result = movedResult inserted (read text).result := by
  obtain ⟨hdeclarations, hfaults⟩ := read_eq text
  obtain ⟨hdeclarations', hfaults'⟩ := read_eq text'
  have hmoved : (read text').declarations = (read text).declarations.map (Spanned.moved inserted) := by
    rw [hdeclarations, hdeclarations', h, List.filterMap_map, List.map_filterMap]
    exact List.filterMap_congr fun l _ => declared?_moved l
  have hmoved' : (read text').faults = (read text).faults.map (PlacedFault.moved inserted) := by
    rw [hfaults, hfaults', h, List.filter_map, List.map_map, List.map_map]
    rfl
  unfold Reading.result
  rw [hmoved, hmoved', List.isEmpty_map]
  split <;> rfl

theorem pass_moved
    (declare : Grammar → Declaration → Except Fault Grammar) (l : Loading) (document : Document) :
    Loading.pass declare { l with faults := l.faults.map (PlacedFault.moved inserted) }
        (document.map (Spanned.moved inserted)) =
      { Loading.pass declare l document with
        faults := (Loading.pass declare l document).faults.map (PlacedFault.moved inserted) } := by
  induction document generalizing l with
  | nil =>
      rfl
  | cons d document ih =>
      have hstep : Loading.step declare
            { l with faults := l.faults.map (PlacedFault.moved inserted) } (d.moved inserted) =
          { Loading.step declare l d with
            faults := (Loading.step declare l d).faults.map (PlacedFault.moved inserted) } := by
        simp only [Loading.step, Spanned.moved]
        cases declare l.grammar d.item with
        | ok g =>
            rfl
        | error fault =>
            simp [PlacedFault.moved, Fault.placed]
      simp only [Loading.pass] at ih ⊢
      rw [List.map_cons, List.foldl_cons, List.foldl_cons, hstep, ih]

/-- Loading does not look at the places of declarations. -/
theorem load_moved
    (document : Document) :
    load (document.map (Spanned.moved inserted)) =
      { document.load with faults := document.load.faults.map (PlacedFault.moved inserted) } := by
  have hstart : ({} : Loading) =
      { ({} : Loading) with faults := ({} : Loading).faults.map (PlacedFault.moved inserted) } := rfl
  simp only [load]
  rw [hstart, pass_moved, pass_moved, pass_moved]
  rfl

end

end Document

namespace Grammar

theorem ofText_moved
    {inserted : Nat → Nat} {text text' : String}
    (h : (Document.read text').result = Document.movedResult inserted (Document.read text).result) :
    ofText text' = (ofText text).mapError (List.map (PlacedFault.moved inserted)) := by
  unfold ofText
  rw [h]
  cases (Document.read text).result with
  | error faults =>
      rfl
  | ok document =>
      change (Document.load _).result = document.load.result.mapError _
      rw [Document.load_moved, Loading.result, Loading.result, List.isEmpty_map]
      split <;> rfl

end Grammar

namespace Document

section

variable {inserted : Nat → Nat} {ls ls' : List (Spanned (List Char))} {raw raw' before : List Char}
  {raws raws' : List (List Char)} {offset offset' : Nat}

/-- Both texts give the same, with each place moved by what was inserted before it: they are read as
the same document or with the same faults, and they build the same grammar or have the same faults. -/
structure MovedBy (inserted : Nat → Nat) (text text' : String) : Prop where
  read : (Document.read text').result = movedResult inserted (Document.read text).result
  build : Grammar.ofText text' = (Grammar.ofText text).mapError (List.map (PlacedFault.moved inserted))

theorem movedBy_of_spread
    {text text' : String}
    (h : Spread inserted (placeLines 0 (text.toList.splitOn '\n'))
      (placeLines 0 (text'.toList.splitOn '\n'))) :
    MovedBy inserted text text' := by
  have hread := result_moved (relevant_spread h)
  exact ⟨hread, Grammar.ofText_moved hread⟩

/-! ### Inserting -/

/-- A line that is as far behind as is inserted before it, and may have more carriage returns. -/
theorem spread_cons
    (hstrip : stripReturns raw' = stripReturns raw)
    (hoffset : offset' = offset + inserted offset)
    (h : Spread inserted (placeLines (offset + byteCount raw + 1) raws)
      (placeLines (offset' + byteCount raw' + 1) raws')) :
    Spread inserted (placeLines offset (raw :: raws)) (placeLines offset' (raw' :: raws')) := by
  have hline := Spread.line
    ({ span := { first := offset, stop := offset + byteCount (stripReturns raw) },
       item := stripReturns raw } : Spanned (List Char)) h
  simp only [placeLines, hstrip]
  convert hline using 2
  simp only [Spanned.moved, Span.shift, hoffset]
  congr 2
  omega

/-- What lines take up with their line feeds. -/
def lineBytes (raws : List (List Char)) : Nat :=
  (raws.map fun raw => byteCount raw + 1).sum

theorem spread_blanks
    {blanks : List (List Char)}
    (hblanks : ∀ raw ∈ blanks, allBlank raw = true)
    (h : Spread inserted ls (placeLines (offset + lineBytes blanks) raws)) :
    Spread inserted ls (placeLines offset (blanks ++ raws)) := by
  induction blanks generalizing offset with
  | nil =>
      exact h
  | cons raw blanks ih =>
      obtain ⟨hraw, hblanks⟩ := List.forall_mem_cons.1 hblanks
      refine Spread.blank ?_ (ih hblanks ?_)
      · obtain ⟨_, returns, heq, _⟩ := stripReturns_append raw
        rw [heq, allBlank, List.all_append, Bool.and_eq_true] at hraw
        exact hraw.1
      · rwa [lineBytes, List.map_cons, List.sum_cons, ← Nat.add_assoc, ← Nat.add_assoc] at h

theorem line_position
    (before rest : List Char) :
    (position (before ++ rest) (byteCount before)).line = before.count '\n' + 1 := by
  simp only [position, takeBytes?_append, Option.getD_some, Position.after]

/-- The next line begins one line feed further on. -/
theorem next_line
    (before : List Char)
    (hraw : '\n' ∉ raw) :
    byteCount (before ++ raw ++ ['\n']) = byteCount before + byteCount raw + 1 ∧
      (before ++ raw ++ ['\n']).count '\n' = before.count '\n' + 1 := by
  have hnewline : byteCount ['\n'] = 1 := rfl
  have hcount : raw.count '\n' = 0 := List.count_eq_zero.2 hraw
  simp [hnewline, hcount, Nat.add_assoc]

theorem append_intercalate_cons
    (before raw : List Char)
    (hne : raws ≠ []) :
    before ++ ['\n'].intercalate (raw :: raws) =
      before ++ raw ++ ['\n'] ++ ['\n'].intercalate raws := by
  rw [List.intercalate_cons_of_ne_nil hne]
  simp

/-! ### Carriage returns -/

/-- The text with a carriage return before every line feed. -/
def withReturns (text : String) : String :=
  String.ofList (text.toList.flatMap fun c => if c = '\n' then ['\r', '\n'] else [c])

/-- The lines with one more carriage return at the end of each but the last. -/
def returned : List (List Char) → List (List Char)
  | [] => []
  | [raw] => [raw]
  | raw :: next :: rest => (raw ++ ['\r']) :: returned (next :: rest)

theorem lines_returned
    (text : List Char) :
    lines (text.flatMap fun c => if c = '\n' then ['\r', '\n'] else [c]) = returned (lines text) := by
  induction text with
  | nil =>
      rfl
  | cons c text ih =>
      have hne : lines text ≠ [] := by
        rw [lines_eq_splitOn]
        exact List.splitOn_ne_nil _ _
      obtain ⟨first, rest, hlines⟩ := List.exists_cons_of_ne_nil hne
      rw [hlines] at ih
      by_cases hc : c = '\n'
      · subst hc
        simp [lines, ih, hlines, returned]
      · rw [List.flatMap_cons, if_neg hc, List.singleton_append, lines, if_neg hc, ih, lines, if_neg hc,
          hlines]
        cases rest <;> rfl

theorem stripReturns_return
    (raw : List Char) :
    stripReturns (raw ++ ['\r']) = stripReturns raw := by
  simp [stripReturns, dropEndWhile]

theorem spread_returned
    {text : List Char}
    (hraws : ∀ raw ∈ raws, '\n' ∉ raw)
    (htext : before ++ ['\n'].intercalate raws = text) :
    Spread (fun offset => (position text offset).line - 1) (placeLines (byteCount before) raws)
      (placeLines (byteCount before + before.count '\n') (returned raws)) := by
  have hoffset : byteCount before + before.count '\n' =
      byteCount before + ((position text (byteCount before)).line - 1) := by
    rw [← htext, line_position, Nat.add_sub_cancel]
  induction raws generalizing before with
  | nil =>
      exact Spread.nil
  | cons raw raws ih =>
      obtain ⟨hraw, hraws⟩ := List.forall_mem_cons.1 hraws
      cases raws with
      | nil =>
          exact spread_cons rfl hoffset Spread.nil
      | cons next raws =>
          obtain ⟨hbytes, hcount⟩ := next_line before hraw
          rw [append_intercalate_cons before raw (List.cons_ne_nil _ _)] at htext
          have hreturn : byteCount (raw ++ ['\r']) = byteCount raw + 1 := by
            rw [byteCount_append]
            rfl
          have hrest := ih hraws htext (by rw [← htext, line_position, Nat.add_sub_cancel])
          rw [hbytes, hcount] at hrest
          refine spread_cons (stripReturns_return raw) hoffset ?_
          convert hrest using 2
          omega

theorem movedBy_withReturns
    (text : String) :
    MovedBy (fun offset => (position text.toList offset).line - 1) text (withReturns text) := by
  refine movedBy_of_spread ?_
  have hlines : (withReturns text).toList.splitOn '\n' = returned (text.toList.splitOn '\n') := by
    rw [← lines_eq_splitOn, ← lines_eq_splitOn, withReturns, String.toList_ofList, lines_returned]
  rw [hlines, ← lines_eq_splitOn]
  have htext : [] ++ ['\n'].intercalate (lines text.toList) = text.toList :=
    intercalate_lines text.toList
  exact @spread_returned [] _ _ (fun _ => newline_not_mem) htext

/-! ### Blank lines -/

/-- Lines with others between them: `extra k` before the line with number `k`, and before the end. -/
def interleave (extra : Nat → List (List Char)) : Nat → List (List Char) → List (List Char)
  | k, [] => extra k
  | k, raw :: raws => extra k ++ raw :: interleave extra (k + 1) raws

/-- The text with more lines, `extra k` before the line with number `k`.  The first line has number
1. -/
def withLines (extra : Nat → List (List Char)) (text : String) : String :=
  String.ofList (['\n'].intercalate (interleave extra 1 (text.toList.splitOn '\n')))

/-- What is inserted before the lines with numbers up to `k`. -/
def extraBytes (extra : Nat → List (List Char)) : Nat → Nat
  | 0 => 0
  | k + 1 => extraBytes extra k + lineBytes (extra (k + 1))

theorem spread_interleave
    {extra : Nat → List (List Char)} {text : List Char}
    (hextra : ∀ k, ∀ raw ∈ extra k, allBlank raw = true)
    (hraws : ∀ raw ∈ raws, '\n' ∉ raw)
    (htext : before ++ ['\n'].intercalate raws = text) :
    Spread (fun offset => extraBytes extra (position text offset).line)
      (placeLines (byteCount before) raws)
      (placeLines (byteCount before + extraBytes extra (before.count '\n'))
        (interleave extra (before.count '\n' + 1) raws)) := by
  have hblank : ∀ {inserted offset} k, Spread inserted [] (placeLines offset (extra k)) := by
    intro inserted offset k
    rw [← List.append_nil (extra k)]
    exact spread_blanks (hextra k) Spread.nil
  induction raws generalizing before with
  | nil =>
      exact hblank _
  | cons raw raws ih =>
      obtain ⟨hraw, hraws⟩ := List.forall_mem_cons.1 hraws
      refine spread_blanks (hextra _) (spread_cons rfl ?_ ?_)
      · rw [← htext, line_position, extraBytes, Nat.add_assoc]
      · cases raws with
        | nil =>
            exact hblank _
        | cons next raws =>
            obtain ⟨hbytes, hcount⟩ := next_line before hraw
            rw [append_intercalate_cons before raw (List.cons_ne_nil _ _)] at htext
            have hrest := ih hraws htext
            rw [hbytes, hcount, extraBytes] at hrest
            convert hrest using 2
            omega

theorem newline_not_mem_interleave
    {extra : Nat → List (List Char)}
    (hextra : ∀ k, ∀ raw ∈ extra k, '\n' ∉ raw)
    (hraws : ∀ raw ∈ raws, '\n' ∉ raw)
    (k : Nat) :
    ∀ raw ∈ interleave extra k raws, '\n' ∉ raw := by
  induction raws generalizing k with
  | nil =>
      exact hextra k
  | cons raw raws ih =>
      obtain ⟨hraw, hraws⟩ := List.forall_mem_cons.1 hraws
      intro line hline
      rcases List.mem_append.1 hline with hline | hline
      · exact hextra k line hline
      · rcases List.mem_cons.1 hline with rfl | hline
        · exact hraw
        · exact ih hraws (k + 1) line hline

theorem movedBy_withLines
    {extra : Nat → List (List Char)}
    (hextra : ∀ k, ∀ raw ∈ extra k, allBlank raw = true ∧ '\n' ∉ raw)
    (text : String) :
    MovedBy (fun offset => extraBytes extra (position text.toList offset).line) text
      (withLines extra text) := by
  refine movedBy_of_spread ?_
  have hraws : ∀ raw ∈ text.toList.splitOn '\n', '\n' ∉ raw := by
    rw [← lines_eq_splitOn]
    exact fun _ => newline_not_mem
  have hlines : (withLines extra text).toList.splitOn '\n' =
      interleave extra 1 (text.toList.splitOn '\n') := by
    rw [withLines, String.toList_ofList, List.splitOn_intercalate]
    · exact newline_not_mem_interleave (fun k raw hraw => (hextra k raw hraw).2) hraws 1
    · cases hnil : text.toList.splitOn '\n' with
      | nil =>
          exact absurd hnil (List.splitOn_ne_nil _ _)
      | cons raw raws =>
          simp [interleave]
  have htext : [] ++ ['\n'].intercalate (text.toList.splitOn '\n') = text.toList :=
    List.intercalate_splitOn _
  rw [hlines]
  exact @spread_interleave [] _ _ _ (fun k raw hraw => (hextra k raw hraw).1) hraws htext

end

/-- **Layout makes no difference.**  With a carriage return before every line feed, or with blank lines
anywhere, a text is read as the same document or with the same faults in the same order, and it builds
the same grammar or has the same faults.  A place keeps its length and is moved by what is inserted
before it: one byte for each line before its own, or the blank lines before its own line. -/
theorem layout_irrelevant
    (text : String) :
    MovedBy (fun offset => (position text.toList offset).line - 1) text (withReturns text) ∧
    ∀ extra : Nat → List (List Char), (∀ k, ∀ raw ∈ extra k, allBlank raw = true ∧ '\n' ∉ raw) →
      MovedBy (fun offset => extraBytes extra (position text.toList offset).line) text
        (withLines extra text) :=
  ⟨movedBy_withReturns text, fun _ hextra => movedBy_withLines hextra text⟩

/-- A tab before the first line, and two lines before the third, an empty one and one of a blank and a
carriage return. -/
def threeBlankLines (k : Nat) : List (List Char) :=
  if k = 1 then [['\t']] else if k = 3 then [[], [' ', '\r']] else []

theorem threeBlankLines_blank :
    ∀ k, ∀ raw ∈ threeBlankLines k, allBlank raw = true ∧ '\n' ∉ raw := by
  intro k
  unfold threeBlankLines
  split
  · decide
  · split <;> decide

/-- The fault of the third line is moved by two carriage returns, or by the six bytes of three
lines. -/
theorem layout_irrelevant_fault :
    (read (withReturns "terminal a é;\n;\nS = a;\n;")).result =
      .error [⟨.malformed "invalid production `S = a;`", some ⟨19, 25⟩⟩] ∧
    (read (withLines threeBlankLines "terminal a é;\n;\nS = a;\n;")).result =
      .error [⟨.malformed "invalid production `S = a;`", some ⟨23, 29⟩⟩] := by
  have hread : (read "terminal a é;\n;\nS = a;\n;").result =
      .error [⟨.malformed "invalid production `S = a;`", some ⟨17, 23⟩⟩] := by
    cbv
  obtain ⟨hreturns, hlines⟩ := layout_irrelevant "terminal a é;\n;\nS = a;\n;"
  constructor
  · rw [hreturns.read, hread]
    cbv
  · rw [(hlines threeBlankLines threeBlankLines_blank).read, hread]
    cbv

end Document
end PredictiveParsing
