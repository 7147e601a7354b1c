import PredictiveParsing.Document
import Mathlib

/-!
# A text is read line by line

The lines of a text are what stands between its line feeds (`Document.lines_eq_splitOn`), and a line
that is read stands at its span, which begins where the line does and leaves its end out
(`Document.StandsAt`).

`Document.relevant` are the lines that count: those that are not blank, up to the second separating
line, each with the part that it stands in.  Reading gives one declaration or one fault for each of
them, in their order (`Document.each_line_counts`).  Whatever comes after the second separating line
makes no difference.
-/

namespace PredictiveParsing

open Text

namespace Document

section

variable {text raw before : List Char} {raws : List (List Char)} {line : Spanned (List Char)}
  {ls later : List (Spanned (List Char))} {part : Part} {offset : Nat}

/-! ### Lines -/

theorem lines_eq_splitOn
    (text : List Char) :
    lines text = text.splitOn '\n' := by
  rw [List.splitOn_eq_splitOnP]
  induction text with
  | nil =>
      rfl
  | cons c text ih =>
      rw [lines, List.splitOnP_cons_eq_if_modifyHead, ← ih]
      by_cases hc : c = '\n'
      · simp [hc]
      · simp only [hc, if_false, beq_iff_eq]
        cases hlines : lines text with
        | nil =>
            exact absurd (ih.symm.trans hlines) (List.splitOnP_ne_nil _ _)
        | cons line rest =>
            rfl

/-- The lines with line feeds between them are the text. -/
theorem intercalate_lines
    (text : List Char) :
    ['\n'].intercalate (lines text) = text := by
  rw [lines_eq_splitOn, List.intercalate_splitOn]

theorem lines_append
    (text later : List Char) :
    lines (text ++ '\n' :: later) = lines text ++ lines later := by
  simp only [lines_eq_splitOn, List.splitOn_eq_splitOnP]
  exact List.splitOnP_append_cons text later (by decide)

theorem newline_not_mem
    (h : raw ∈ lines text) :
    '\n' ∉ raw := by
  induction text generalizing raw with
  | nil =>
      rw [List.mem_singleton.1 h]
      exact List.not_mem_nil
  | cons c text ih =>
      rw [lines] at h
      split at h
      · rcases List.mem_cons.1 h with rfl | h
        · exact List.not_mem_nil
        · exact ih h
      · rename_i hc
        split at h
        · rw [List.mem_singleton.1 h, List.mem_singleton]
          exact Ne.symm hc
        · rename_i line rest hlines
          rcases List.mem_cons.1 h with rfl | h
          · have hline : '\n' ∉ line := ih (hlines ▸ List.mem_cons_self)
            exact List.not_mem_cons_of_ne_of_not_mem (Ne.symm hc) hline
          · exact ih (hlines ▸ List.mem_cons_of_mem _ h)

/-! ### Where a line stands -/

/-- A line is a whole line of the text, without the carriage returns at its end, and its span is what
it takes up there. -/
structure StandsAt (text : List Char) (line : Spanned (List Char)) : Prop where
  newline_not_mem : '\n' ∉ line.item
  getLast?_ne : line.item.getLast? ≠ some '\r'
  place : ∃ before returns after,
    text = before ++ (line.item ++ (returns ++ after)) ∧
    (before = [] ∨ before.getLast? = some '\n') ∧
    (∀ c ∈ returns, c = '\r') ∧
    (after = [] ∨ after.head? = some '\n') ∧
    line.span = { first := byteCount before, stop := byteCount (before ++ line.item) }

/-- What is stripped from a line are carriage returns, and none is left at its end. -/
theorem stripReturns_append
    (raw : List Char) :
    (stripReturns raw).getLast? ≠ some '\r' ∧
      ∃ returns, raw = stripReturns raw ++ returns ∧ ∀ c ∈ returns, c = '\r' := by
  constructor
  · intro hlast
    have hne : stripReturns raw ≠ [] := by
      rintro hnil
      rw [hnil] at hlast
      cases hlast
    have hkept : ¬ ((stripReturns raw).getLast hne == '\r') = true :=
      List.rdropWhile_last_not _ _ hne
    rw [List.getLast?_eq_some_getLast hne] at hlast
    exact hkept (beq_iff_eq.2 (Option.some.inj hlast))
  · refine ⟨raw.rtakeWhile (· == '\r'), List.rdropWhile_append_rtakeWhile.symm, ?_⟩
    intro c hc
    simpa using List.mem_rtakeWhile_imp hc

theorem standsAt_of_mem_placeLines
    (hraws : ∀ raw ∈ raws, '\n' ∉ raw)
    (hbefore : before = [] ∨ before.getLast? = some '\n')
    (hline : line ∈ placeLines (byteCount before) raws) :
    StandsAt (before ++ ['\n'].intercalate raws) line := by
  induction raws generalizing before with
  | nil =>
      cases hline
  | cons raw raws ih =>
      have hraw := hraws raw List.mem_cons_self
      have hrest := fun raw hmem => hraws raw (List.mem_cons_of_mem _ hmem)
      rcases List.mem_cons.1 hline with rfl | hline
      · obtain ⟨hlast, returns, heq, hreturns⟩ := stripReturns_append raw
        refine ⟨fun hmem => hraw ?_, hlast, before, returns,
          if raws = [] then [] else '\n' :: ['\n'].intercalate raws, ?_, hbefore, hreturns, ?_, ?_⟩
        · rw [heq]
          exact List.mem_append_left _ hmem
        · rw [← List.append_assoc (stripReturns raw), ← heq]
          split
          · rename_i hnil
            simp [hnil]
          · rename_i hne
            rw [List.intercalate_cons_of_ne_nil hne]
            simp
        · split <;> simp
        · simp
      · have hne : raws ≠ [] := by
          rintro rfl
          cases hline
        have hcount : byteCount (before ++ raw ++ ['\n']) = byteCount before + byteCount raw + 1 := by
          simp
          rfl
        rw [← hcount] at hline
        have h := ih hrest (Or.inr (by simp)) hline
        rwa [List.intercalate_cons_of_ne_nil hne, ← List.append_assoc, ← List.append_assoc]

/-- The lines of a text stand where they are placed. -/
theorem standsAt_of_mem
    (hline : line ∈ placeLines 0 (lines text)) :
    StandsAt text line := by
  have hbefore : ([] : List Char) = [] ∨ ([] : List Char).getLast? = some '\n' := Or.inl rfl
  have h := standsAt_of_mem_placeLines (fun _ => newline_not_mem) hbefore hline
  rwa [List.nil_append, intercalate_lines] at h

theorem first_le_of_mem_placeLines
    (hline : line ∈ placeLines offset raws) :
    offset ≤ line.span.first := by
  induction raws generalizing offset with
  | nil =>
      cases hline
  | cons raw raws ih =>
      rcases List.mem_cons.1 hline with rfl | hline
      · exact Nat.le_refl offset
      · have hle := ih hline
        omega

/-- The spans of lines ascend, with a line end at least between them. -/
theorem placeLines_ascending
    (offset : Nat) (raws : List (List Char)) :
    (placeLines offset raws).Pairwise fun l m => l.span.stop < m.span.first := by
  induction raws generalizing offset with
  | nil =>
      exact List.Pairwise.nil
  | cons raw raws ih =>
      refine List.Pairwise.cons (fun line hline => ?_) (ih _)
      have hle := first_le_of_mem_placeLines hline
      obtain ⟨_, returns, hraw, _⟩ := stripReturns_append raw
      have hcount := congrArg byteCount hraw
      rw [byteCount_append] at hcount
      dsimp only
      omega

/-! ### The lines that count -/

/-- The lines of a part that count. -/
def ofPart (part : Part) (ls : List (Spanned (List Char))) : List (Part × Spanned (List Char)) :=
  ((ls.takeWhile fun l => !isSeparator l.item).filter fun l => !allBlank l.item).map (part, ·)

/-- The lines after the first separating line. -/
def afterPart (ls : List (Spanned (List Char))) : List (Spanned (List Char)) :=
  (ls.dropWhile fun l => !isSeparator l.item).drop 1

/-- The lines that count, each with the part that it stands in: all before the second separating line
that are not blank, without the first separating line. -/
def relevant (ls : List (Spanned (List Char))) : List (Part × Spanned (List Char)) :=
  ofPart .symbols ls ++ ofPart .rules (afterPart ls)

/-- The lines of a text that count. -/
def relevantLines (text : String) : List (Part × Spanned (List Char)) :=
  relevant (placeLines 0 (text.toList.splitOn '\n'))

/-- How many lines of a text hold nothing but a semicolon. -/
def separatorCount (text : String) : Nat :=
  (text.toList.splitOn '\n').countP fun raw => isSeparator (stripReturns raw)

/-- Whether a line is no declaration of its part. -/
def isMalformed (l : Part × Spanned (List Char)) : Bool :=
  (l.1.declaration? l.2.item).isNone

/-- What a line declares, where it stands. -/
def declared? (l : Part × Spanned (List Char)) : Option (Spanned Declaration) :=
  (l.1.declaration? l.2.item).map fun d => { span := l.2.span, item := d }

/-- What is wrong with a line that declares nothing, where it stands. -/
def placedFault (l : Part × Spanned (List Char)) : PlacedFault :=
  (l.1.fault l.2.item).placed l.2.span

/-! ### Reading -/

theorem isSeparator_of_allBlank
    (h : allBlank raw = true) :
    isSeparator raw = false := by
  have hnil : dropBlanks raw = [] := List.dropWhile_eq_nil_iff.2 (List.all_eq_true.1 h)
  simp [isSeparator, trim, hnil]
  decide

theorem ofPart_cons
    (part : Part)
    (h : isSeparator line.item = false) :
    ofPart part (line :: ls) =
      if allBlank line.item then ofPart part ls else (part, line) :: ofPart part ls := by
  cases hblank : allBlank line.item <;> simp [ofPart, h, hblank]

theorem afterPart_cons
    (h : isSeparator line.item = false) :
    afterPart (line :: ls) = afterPart ls := by
  simp [afterPart, h]

/-- A part is read line by line, and then the next part is read. -/
theorem readFrom_eq
    (hpart : part ≠ .done)
    (ls : List (Spanned (List Char))) :
    (readFrom part ls).declarations = (ofPart part ls).filterMap declared? ++
        (readFrom part.next (afterPart ls)).declarations ∧
      (readFrom part ls).faults = ((ofPart part ls).filter isMalformed).map placedFault ++
        (readFrom part.next (afterPart ls)).faults := by
  induction ls with
  | nil =>
      exact ⟨rfl, rfl⟩
  | cons line ls ih =>
      obtain ⟨hdeclarations, hfaults⟩ := ih
      by_cases hblank : allBlank line.item = true
      · have hsep := isSeparator_of_allBlank hblank
        rw [readFrom, if_pos hblank, ofPart_cons part hsep, if_pos hblank, afterPart_cons hsep]
        exact ⟨hdeclarations, hfaults⟩
      rw [readFrom, if_neg hblank, if_neg hpart]
      by_cases hsep : isSeparator line.item = true
      · rw [if_pos hsep]
        simp [ofPart, afterPart, hsep]
      rw [if_neg hsep]
      rw [Bool.not_eq_true] at hsep
      rw [ofPart_cons part hsep, if_neg hblank, afterPart_cons hsep]
      cases hd : part.declaration? line.item with
      | some d =>
          simp [declared?, isMalformed, hd, Reading.addDeclaration, hdeclarations, hfaults]
      | none =>
          simp [declared?, isMalformed, placedFault, hd, Reading.addFault, hdeclarations, hfaults]

theorem readFrom_done
    (ls : List (Spanned (List Char))) :
    (readFrom .done ls).declarations = [] ∧ (readFrom .done ls).faults = [] := by
  induction ls with
  | nil =>
      exact ⟨rfl, rfl⟩
  | cons line ls ih =>
      rw [readFrom]
      split
      · exact ih
      · exact ⟨rfl, rfl⟩

/-- Reading gives what the lines that count declare, and what is wrong with them. -/
theorem read_eq
    (text : String) :
    (read text).declarations = (relevantLines text).filterMap declared? ∧
      (read text).faults = ((relevantLines text).filter isMalformed).map placedFault := by
  unfold read relevantLines relevant
  rw [lines_eq_splitOn]
  generalize placeLines 0 (text.toList.splitOn '\n') = ls
  obtain ⟨hsymbols, hsymbols'⟩ := readFrom_eq (show Part.symbols ≠ .done by decide) ls
  obtain ⟨hrules, hrules'⟩ := readFrom_eq (show Part.rules ≠ .done by decide) (afterPart ls)
  obtain ⟨hdone, hdone'⟩ := readFrom_done (afterPart (afterPart ls))
  rw [hsymbols, hsymbols']
  simp only [Part.next, hrules, hrules', hdone, hdone', List.append_nil, List.filterMap_append,
    List.filter_append, List.map_append, and_self]

/-! ### Text after the second part -/

theorem placeLines_append
    (offset : Nat) (raws others : List (List Char)) :
    ∃ stop, placeLines offset (raws ++ others) = placeLines offset raws ++ placeLines stop others := by
  induction raws generalizing offset with
  | nil =>
      exact ⟨offset, rfl⟩
  | cons raw raws ih =>
      obtain ⟨stop, h⟩ := ih (offset + byteCount raw + 1)
      exact ⟨stop, congrArg _ h⟩

theorem countP_placeLines
    (offset : Nat) (raws : List (List Char)) :
    (placeLines offset raws).countP (fun l => isSeparator l.item) =
      raws.countP fun raw => isSeparator (stripReturns raw) := by
  induction raws generalizing offset with
  | nil =>
      rfl
  | cons raw raws ih =>
      rw [placeLines, List.countP_cons, List.countP_cons, ih]

/-- A part ends with its separating line, and the rest is left to the next part. -/
theorem part_append
    (h : 0 < ls.countP fun l => isSeparator l.item)
    (part : Part) (later : List (Spanned (List Char))) :
    ofPart part (ls ++ later) = ofPart part ls ∧
      afterPart (ls ++ later) = afterPart ls ++ later ∧
      (ls.countP fun l => isSeparator l.item) =
        ((afterPart ls).countP fun l => isSeparator l.item) + 1 := by
  induction ls with
  | nil =>
      exact absurd h (Nat.lt_irrefl 0)
  | cons line ls ih =>
      cases hsep : isSeparator line.item with
      | true =>
          simp [ofPart, afterPart, hsep]
      | false =>
          rw [List.countP_cons_of_neg (by simp [hsep])] at h ⊢
          rw [List.cons_append, ofPart_cons part hsep, ofPart_cons part hsep, afterPart_cons hsep,
            afterPart_cons hsep]
          obtain ⟨hpart, hafter, hcount⟩ := ih h
          exact ⟨by rw [hpart], hafter, hcount⟩

theorem relevant_append
    (h : 2 ≤ ls.countP fun l => isSeparator l.item)
    (later : List (Spanned (List Char))) :
    relevant (ls ++ later) = relevant ls := by
  obtain ⟨hsymbols, hafter, hcount⟩ := part_append (Nat.lt_of_lt_of_le Nat.zero_lt_two h) .symbols later
  have hsecond : 0 < (afterPart ls).countP fun l => isSeparator l.item := by
    omega
  obtain ⟨hrules, _, _⟩ := part_append hsecond .rules later
  rw [relevant, hsymbols, hafter, hrules, relevant]

theorem result_eq_of_relevantLines_eq
    {text other : String}
    (h : relevantLines text = relevantLines other) :
    (read text).result = (read other).result := by
  simp only [Reading.result, read_eq, h]

/-- Text after the second separating line makes no difference. -/
theorem result_append
    (text later : String)
    (h : 2 ≤ separatorCount text) :
    (read (text ++ "\n" ++ later)).result = (read text).result := by
  refine result_eq_of_relevantLines_eq ?_
  have hsplit : (text ++ "\n" ++ later).toList.splitOn '\n' =
      text.toList.splitOn '\n' ++ later.toList.splitOn '\n' := by
    rw [← lines_eq_splitOn, ← lines_eq_splitOn, ← lines_eq_splitOn, ← lines_append]
    simp
  obtain ⟨stop, hplaces⟩ :=
    placeLines_append 0 (text.toList.splitOn '\n') (later.toList.splitOn '\n')
  rw [relevantLines, hsplit, hplaces, relevant_append, relevantLines]
  rwa [countP_placeLines]

/-! ### Every line counts once -/

theorem relevant_sublist
    (ls : List (Spanned (List Char))) :
    ((relevant ls).map Prod.snd).Sublist ls := by
  have hpart : ∀ (part : Part) (ls : List (Spanned (List Char))),
      ((ofPart part ls).map Prod.snd).Sublist (ls.takeWhile fun l => !isSeparator l.item) := by
    intro part ls
    simp [ofPart, Function.comp_def]
  have hafter : (afterPart ls).Sublist (ls.dropWhile fun l => !isSeparator l.item) :=
    List.drop_sublist 1 _
  have hall := (hpart .symbols ls).append
    (((hpart .rules (afterPart ls)).trans (List.takeWhile_sublist _)).trans hafter)
  rwa [List.takeWhile_append_dropWhile, ← List.map_append, ← relevant] at hall

theorem isMalformed_eq_false_iff
    {l : Part × Spanned (List Char)} :
    isMalformed l = false ↔ (l.1.declaration? l.2.item).isSome = true := by
  simp [isMalformed, Option.isSome_iff_ne_none]

theorem result_eq_ok_iff
    {text : String} {document : Document} :
    (read text).result = .ok document ↔
      (∀ l ∈ relevantLines text, (l.1.declaration? l.2.item).isSome = true) ∧
        document = (relevantLines text).filterMap declared? := by
  obtain ⟨hdeclarations, hfaults⟩ := read_eq text
  have hempty : (read text).faults = [] ↔
      ∀ l ∈ relevantLines text, (l.1.declaration? l.2.item).isSome = true := by
    simp only [hfaults, List.map_eq_nil_iff, List.filter_eq_nil_iff, Bool.not_eq_true,
      isMalformed_eq_false_iff]
  rw [← hempty, ← hdeclarations]
  unfold Reading.result
  split
  · rename_i hnil
    simp [List.isEmpty_iff.1 hnil, eq_comm]
  · rename_i hne
    simp [List.isEmpty_iff.not.1 hne]

theorem forall₂_declared
    {ls : List (Part × Spanned (List Char))}
    (h : ∀ l ∈ ls, (l.1.declaration? l.2.item).isSome = true) :
    List.Forall₂ (fun l d => l.1.declaration? l.2.item = some d.item ∧ d.span = l.2.span) ls
      (ls.filterMap declared?) := by
  induction ls with
  | nil =>
      exact List.Forall₂.nil
  | cons l ls ih =>
      obtain ⟨d, hd⟩ := Option.isSome_iff_exists.1 (h l List.mem_cons_self)
      have hl : declared? l = some { span := l.2.span, item := d } := by
        simp [declared?, hd]
      rw [List.filterMap_cons_some hl]
      exact List.Forall₂.cons ⟨hd, rfl⟩ (ih fun l hl => h l (List.mem_cons_of_mem _ hl))

/-- **Each line of a text counts once.**  A text gives a document if and only if each line that counts
is a declaration of its part.  Then the document has one declaration for each of these lines, in
their order, and otherwise there is one fault for each of them that is no declaration.  The
spans are those of the lines in the text without their ends, and they ascend.  Text after the second
separating line makes no difference. -/
theorem each_line_counts
    (text : String) :
    ((∃ document, (read text).result = .ok document) ↔
      ∀ l ∈ relevantLines text, (l.1.declaration? l.2.item).isSome = true) ∧
    (∀ document, (read text).result = .ok document →
      List.Forall₂ (fun l d => l.1.declaration? l.2.item = some d.item ∧ d.span = l.2.span)
        (relevantLines text) document) ∧
    (∀ faults, (read text).result = .error faults →
      faults = ((relevantLines text).filter isMalformed).map placedFault) ∧
    (∀ l ∈ relevantLines text, StandsAt text.toList l.2) ∧
    (relevantLines text).Pairwise (fun l m => l.2.span.stop < m.2.span.first) ∧
    (2 ≤ separatorCount text →
      ∀ later, (read (text ++ "\n" ++ later)).result = (read text).result) := by
  have hlines := relevant_sublist (placeLines 0 (text.toList.splitOn '\n'))
  refine ⟨?_, fun document h => ?_, fun faults h => ?_, fun l hl => ?_, ?_,
    fun hseparators later => result_append text later hseparators⟩
  · simp only [result_eq_ok_iff, exists_and_left, exists_eq, and_true]
  · obtain ⟨hall, rfl⟩ := result_eq_ok_iff.1 h
    exact forall₂_declared hall
  · rw [← (read_eq text).2]
    unfold Reading.result at h
    split at h <;> cases h
    rfl
  · refine standsAt_of_mem ?_
    rw [lines_eq_splitOn]
    exact hlines.subset (List.mem_map_of_mem hl)
  · exact List.pairwise_map.1 ((placeLines_ascending 0 _).sublist hlines)

/-- A text with blank lines, two carriage returns at the end of a line and a letter of two bytes: two
of its five lines count, and whatever comes after the last one makes no difference. -/
theorem each_line_counts_returns :
    (relevantLines "terminal a é;\r\r\n\r\n;\r\nS -> a;\n ;").length = 2 ∧
      ∀ later, (read ("terminal a é;\r\r\n\r\n;\r\nS -> a;\n ;" ++ "\n" ++ later)).result =
        .ok [⟨⟨0, 14⟩, .terminal "a" "é"⟩, ⟨⟨22, 29⟩, .rule "S" "a"⟩] := by
  have hread : (read "terminal a é;\r\r\n\r\n;\r\nS -> a;\n ;").result =
      .ok [⟨⟨0, 14⟩, .terminal "a" "é"⟩, ⟨⟨22, 29⟩, .rule "S" "a"⟩] := by
    cbv
  have hseparators : separatorCount "terminal a é;\r\r\n\r\n;\r\nS -> a;\n ;" = 2 := by
    cbv
  obtain ⟨_, hdocument, _, _, _, hlater⟩ :=
    each_line_counts "terminal a é;\r\r\n\r\n;\r\nS -> a;\n ;"
  refine ⟨(hdocument _ hread).length_eq, fun later => ?_⟩
  rw [hlater hseparators.ge, hread]

end

end Document
end PredictiveParsing
