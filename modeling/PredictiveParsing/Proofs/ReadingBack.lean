import PredictiveParsing.Proofs.RuleIndex
import Mathlib.Tactic

/-!
# Productions read back

A production is shown with blanks between its symbols, and a rule line is read with all blanks
removed from its right-hand side.  If there are no blanks and no semicolons in the names, what is
left of a production that was shown are its names side by side (`Grammar.ofRuleLine?_showIndex`).
If in addition no name begins another, they are found again, so the rule that is read adds the
production that was shown.
-/

namespace PredictiveParsing

open Text

namespace Declaration

variable {c d : Char} {name body rest : List Char}

/-! ### Rule lines -/

/-- Whether a text is a name from its beginning to its end. -/
def isName (text : List Char) : Bool :=
  name? text == some (text, [])

theorem isName_cons_iff :
    isName (c :: rest) = true ↔ isNameStart c = true ∧ ∀ d ∈ rest, isNameChar d = true := by
  rw [isName, beq_iff_eq, name?]
  split
  · simp_all [List.dropWhile_eq_nil_iff]
  · simp_all

theorem isBlank_of_isNameStart
    (h : isNameStart c = true) :
    isBlank c = false := by
  have hrange : 0x27 ≤ c.toNat ∧ c.toNat ≤ 0x7a := by
    simp only [isNameStart, Char.isAlpha, Char.isUpper, Char.isLower, Bool.or_eq_true,
      Bool.and_eq_true, decide_eq_true_eq, beq_iff_eq, UInt32.le_iff_toNat_le] at h
    rcases h with ((⟨hlow, hhigh⟩ | ⟨hlow, hhigh⟩) | rfl) | rfl
    · exact ⟨Nat.le_trans (by decide) hlow, Nat.le_trans hhigh (by decide)⟩
    · exact ⟨Nat.le_trans (by decide) hlow, Nat.le_trans hhigh (by decide)⟩
    · decide
    · decide
  simp only [isBlank, Bool.or_eq_false_iff, Bool.and_eq_false_iff, decide_eq_false_iff_not,
    beq_eq_false_iff_ne]
  omega

theorem dropBlanks_name
    (hname : isName name = true)
    (rest : List Char) :
    dropBlanks (name ++ rest) = name ++ rest := by
  cases name with
  | nil =>
      cases hname
  | cons c name =>
      have hstart := (isName_cons_iff.1 hname).1
      rw [dropBlanks, List.cons_append, List.dropWhile_cons_of_neg]
      simp [isBlank_of_isNameStart hstart]

theorem name?_append
    (hname : isName name = true)
    (hd : isNameChar d = false)
    (rest : List Char) :
    name? (name ++ d :: rest) = some (name, d :: rest) := by
  cases name with
  | nil =>
      cases hname
  | cons c name =>
      obtain ⟨hstart, hall⟩ := isName_cons_iff.1 hname
      rw [List.cons_append, name?, if_pos hstart, List.takeWhile_append_of_pos hall,
        List.dropWhile_append_of_pos hall]
      simp [hd]

/-- A line with a name, an arrow and a body gives a rule, with the blanks removed from the body. -/
theorem ofRuleLine?_arrow
    (hname : isName name = true)
    (hbody : ';' ∉ body) :
    ofRuleLine? (name ++ (" -> ".toList ++ (body ++ [';']))) =
      some (.rule (String.ofList name) (String.ofList (body.filter (!isBlank ·)))) := by
  have hall : ∀ c ∈ ' ' :: body, (c != ';') = true := by
    intro c hc
    rw [bne_iff_ne]
    rintro rfl
    rcases List.mem_cons.1 hc with hc | hc
    · exact absurd hc (by decide)
    · exact hbody hc
  have hline : " -> ".toList ++ (body ++ [';']) = ' ' :: '-' :: '>' :: (' ' :: body ++ [';']) := rfl
  have hblank : isNameChar ' ' = false := by decide
  rw [ofRuleLine?, dropBlanks_name hname, hline, name?_append hname hblank]
  have harrow : dropStart? "->".toList (dropBlanks (' ' :: '-' :: '>' :: (' ' :: body ++ [';']))) =
      some (' ' :: body ++ [';']) := by
    simp [dropBlanks, isBlank, dropStart?]
  simp only [Option.bind_eq_bind, Option.bind_some, harrow]
  rw [List.takeWhile_append_of_pos hall, List.dropWhile_append_of_pos hall]
  have hspace : isBlank ' ' = true := by decide
  simp [allBlank, hspace]

end Declaration

theorem filter_intercalate
    {α : Type} {p : α → Bool} {sep : List α}
    (hsep : sep.filter p = [])
    (xs : List (List α)) :
    (sep.intercalate xs).filter p = xs.flatMap (List.filter p) := by
  induction xs with
  | nil =>
      rfl
  | cons x xs ih =>
      by_cases hxs : xs = []
      · simp [hxs]
      · rw [List.intercalate_cons_of_ne_nil hxs, List.filter_append, List.filter_append, hsep,
          List.append_nil, ih, List.flatMap_cons]

namespace SymbolTable

/-- Names that can be told apart in a line of text: no name begins another, and there are no blanks
and no semicolons in them. -/
structure Separable (t : SymbolTable) : Prop extends t.PrefixFree where
  not_blank : ∀ id < t.size, ∀ c ∈ (t.name id).toList, isBlank c = false
  not_semicolon : ∀ id < t.size, ';' ∉ (t.name id).toList

end SymbolTable

namespace Grammar

variable {g : Grammar} {p : Production} {ids : List SymbolId}

/-! ### Productions that were shown -/

/-- Without the blanks, symbols that are shown are their names side by side. -/
theorem filter_showSymbols
    (h : g.symbols.Separable)
    (hids : ∀ id ∈ ids, id < g.symbols.size) :
    (g.showSymbols ids).toList.filter (!isBlank ·) = g.symbols.spelled ids := by
  have hsep : " ".toList.filter (!isBlank ·) = [] := by decide
  rw [showSymbols, String.toList_intercalate, filter_intercalate hsep, SymbolTable.names,
    List.map_map, List.flatMap_map, SymbolTable.spelled]
  refine List.flatMap_congr fun id hid => ?_
  refine List.filter_eq_self.2 fun c hc => ?_
  rw [h.not_blank id (hids id hid) c hc]
  rfl

theorem not_mem_showSymbols
    (h : g.symbols.Separable)
    (hids : ∀ id ∈ ids, id < g.symbols.size) :
    ';' ∉ (g.showSymbols ids).toList := by
  intro hmem
  have hkept : ';' ∈ (g.showSymbols ids).toList.filter (!isBlank ·) :=
    List.mem_filter.2 ⟨hmem, by decide⟩
  rw [filter_showSymbols h hids] at hkept
  obtain ⟨id, hid, hc⟩ := List.mem_flatMap.1 hkept
  exact h.not_semicolon id (hids id hid) hc

/-- The line that shows a production gives a rule with the names of its symbols side by side. -/
theorem ofRuleLine?_showIndex
    (h : g.symbols.Separable)
    {ix : Nat}
    (hp : g.productions[ix]? = some p)
    (hids : ∀ id ∈ p.rhs, id < g.symbols.size)
    (hlhs : Declaration.isName (g.name p.lhs).toList = true) :
    Declaration.ofRuleLine? (g.showIndex ix ++ ";").toList =
      some (.rule (g.name p.lhs) (String.ofList (g.symbols.spelled p.rhs))) := by
  have hline : (g.showIndex ix ++ ";").toList =
      (g.name p.lhs).toList ++ (" -> ".toList ++ ((g.showSymbols p.rhs).toList ++ [';'])) := by
    simp only [showIndex, hp, showProduction, String.toList_append, List.append_assoc]
    rfl
  rw [hline, Declaration.ofRuleLine?_arrow hlhs (not_mem_showSymbols h hids),
    filter_showSymbols h hids, String.ofList_toList]

/-- **Productions read back.**  If the names of a grammar can be told apart, a production is shown
in a form that a rule line can have: it is read as a rule for the same non-terminal, its right-hand
side is split into the symbols of the production, `EPSILON` among them or not, and the rule adds an
equal production. -/
theorem production_reads_back
    (hg : g.Reachable)
    (hnames : g.symbols.Separable)
    {ix : Nat}
    (hp : g.productions[ix]? = some p)
    (hlhs : Declaration.isName (g.name p.lhs).toList = true) :
    ∃ consequent,
      Declaration.ofRuleLine? (g.showIndex ix ++ ";").toList =
        some (.rule (g.name p.lhs) consequent) ∧
      g.symbols.split consequent = .ok p.rhs ∧
      g.addRule (g.name p.lhs) consequent = .ok (g.productions.length, g.addProduction p) := by
  have hadmits := hg.admits (List.mem_of_getElem? hp)
  have hid := (SymbolTable.mem_nonterminals.1 hadmits.lhs_mem).1
  have hresolve : g.symbols.resolve (g.name p.lhs) = .ok p.lhs :=
    SymbolTable.resolve_eq_ok_iff.2 (hg.symbols.id?_name hid)
  have hsplit := hnames.split_spelled hg.symbols hadmits.rhs_ne_nil hadmits.rhs_lt
  exact ⟨_, ofRuleLine?_showIndex hnames hp hadmits.rhs_lt hlhs, hsplit,
    hadmits.addRule hresolve hsplit⟩

/-- What may follow a term, with the numbers 2 `PLUS`, 3 `id`, 4 `X` and 5 `T`. -/
def tails : Grammar :=
  (inTurn ask .initial [.terminal "PLUS" "\\+", .terminal "id" "[a-z]+", .nonterminal "X",
    .nonterminal "T", .rule "X" "PLUSTX", .rule "X" "", .rule "T" "idEPSILON$"]).2

theorem reachable_tails :
    tails.Reachable :=
  Reachable.initial.asked _

theorem separable_tails :
    tails.symbols.Separable where
  ne_empty := by decide +kernel
  eq_of_prefix := by decide +kernel
  not_blank := by
    have hall : ∀ id < tails.symbols.size,
        (tails.symbols.name id).toList.all (!isBlank ·) = true := by
      decide +kernel
    simpa using hall
  not_semicolon := by decide +kernel

/-- Two lines that show productions, and what they are read as: the text for the empty right-hand
side, and `EPSILON` between other symbols. -/
theorem production_reads_back_tails :
    (∃ consequent,
      Declaration.ofRuleLine? "X -> EPSILON;".toList = some (.rule "X" consequent) ∧
      tails.symbols.split consequent = .ok [epsilon] ∧
      tails.addRule "X" consequent = .ok (3, tails.addProduction ⟨4, [epsilon]⟩)) ∧
    ∃ consequent,
      Declaration.ofRuleLine? "T -> id EPSILON $;".toList = some (.rule "T" consequent) ∧
      tails.symbols.split consequent = .ok [3, epsilon, endMarker] ∧
      tails.addRule "T" consequent = .ok (3, tails.addProduction ⟨5, [3, epsilon, endMarker]⟩) := by
  have hX : tails.productions[1]? = some ⟨4, [epsilon]⟩ := by decide +kernel
  have hT : tails.productions[2]? = some ⟨5, [3, epsilon, endMarker]⟩ := by decide +kernel
  have hline : tails.showIndex 1 = "X -> EPSILON" ∧ tails.showIndex 2 = "T -> id EPSILON $" := by
    decide +kernel
  have hname : tails.name 4 = "X" ∧ tails.name 5 = "T" := by decide +kernel
  have hlength : tails.productions.length = 3 := by decide +kernel
  have h1 := production_reads_back reachable_tails separable_tails hX (by decide +kernel)
  have h2 := production_reads_back reachable_tails separable_tails hT (by decide +kernel)
  rw [hline.1, hname.1, hlength] at h1
  rw [hline.2, hname.2, hlength] at h2
  exact ⟨h1, h2⟩

end Grammar
end PredictiveParsing
