import PredictiveParsing.Proofs.Counts
import PredictiveParsing.Proofs.Lexing
import Mathlib.Tactic

/-!
# The terminal with the longest match

What a lexer finds at the beginning of a text, in terms of the symbol table that it was made from: a
terminal `Begins` a text with the words that its pattern matches there, and it `Leads` with a word if
no terminal begins the text with a longer one, and none registered before it with one as long.

`Lexer.longestMatch?` gives the terminal that leads, and nothing if no terminal begins the text with
a character at least (`leads_of_longestMatch?`, `eq_nil_of_longestMatch?`).
-/

namespace PredictiveParsing

namespace Text

variable {word rest word' rest' : List Char}

theorem byteCount_pos
    (h : word ≠ []) :
    0 < byteCount word := by
  cases word with
  | nil =>
      exact absurd rfl h
  | cons c word =>
      exact Nat.add_pos_left c.utf8Size_pos _

/-- Of two beginnings of a text, the one with fewer characters has fewer bytes. -/
theorem byteCount_lt_of_length_lt
    (htext : word' ++ rest' = word ++ rest)
    (h : word'.length < word.length) :
    byteCount word' < byteCount word := by
  obtain ⟨more, rfl⟩ := List.prefix_of_prefix_length_le ⟨rest', htext⟩ ⟨rest, rfl⟩ h.le
  have hne : more ≠ [] := by
    rintro rfl
    simp at h
  rw [byteCount_append]
  exact Nat.lt_add_of_pos_right (byteCount_pos hne)

theorem byteCount_le_of_length_le
    (htext : word' ++ rest' = word ++ rest)
    (h : word'.length ≤ word.length) :
    byteCount word' ≤ byteCount word := by
  obtain ⟨more, rfl⟩ := List.prefix_of_prefix_length_le ⟨rest', htext⟩ ⟨rest, rfl⟩ h
  rw [byteCount_append]
  exact Nat.le_add_right _ _

end Text

open Text

namespace SymbolTable

/-- Whether the pattern of a terminal matches a word at the beginning of a text, where the rest comes
after it.  `EPSILON` begins no text. -/
def Begins (t : SymbolTable) (id : SymbolId) (word rest : List Char) : Prop :=
  id ≠ epsilon ∧ ∃ pattern regex, t.pattern? id = some pattern ∧
    Pattern.compile pattern = .ok regex ∧ regex.Matches [] word rest

/-- Whether a terminal begins a text with a word that is not empty, while no terminal does so with a
word of more bytes, nor one registered before it with a word of as many. -/
structure Leads (t : SymbolTable) (id : SymbolId) (word rest : List Char) : Prop where
  begins : t.Begins id word rest
  ne_nil : word ≠ []
  longest : ∀ id' word' rest', word' ++ rest' = word ++ rest → t.Begins id' word' rest' →
    byteCount word' ≤ byteCount word
  first : ∀ id' word' rest', word' ++ rest' = word ++ rest → t.Begins id' word' rest' →
    id' < id → byteCount word' < byteCount word

end SymbolTable

namespace Lexer

variable {t : SymbolTable} {lexer : Lexer} {id : SymbolId} {length : Nat}
  {text word rest word' rest' : List Char}

/-! ### The terminals that begin a text -/

theorem begins_iff
    (hlexer : ofSymbols t = .ok lexer) :
    t.Begins id word rest ↔
      ∃ rule ∈ lexer.rules, rule.terminal = id ∧ rule.regex.Matches [] word rest := by
  simp only [mem_rules_iff hlexer, rule?_eq_some_iff]
  constructor
  · rintro ⟨hid, pattern, regex, hpattern, hcompile, hmatches⟩
    exact ⟨⟨id, regex⟩, ⟨trivial, hid, pattern, hpattern, hcompile⟩, rfl, hmatches⟩
  · rintro ⟨rule, ⟨_, hid, pattern, hpattern, hcompile⟩, rfl, hmatches⟩
    exact ⟨hid, pattern, rule.regex, hpattern, hcompile, hmatches⟩

theorem inOrder_of_mem_rules
    (hlexer : ofSymbols t = .ok lexer)
    {rule : LexRule}
    (hrule : rule ∈ lexer.rules) :
    rule.regex.InOrder := by
  obtain ⟨_, _, pattern, _, hcompile⟩ := rule?_eq_some_iff.1 ((mem_rules_iff hlexer).1 hrule)
  exact Pattern.inOrder_of_compile hcompile

theorem candidates_ascending
    (hlexer : ofSymbols t = .ok lexer) (text : List Char) :
    (lexer.candidates text).Pairwise fun c d => c.1 < d.1 := by
  rw [candidates_eq, List.pairwise_filterMap]
  refine (rules_ascending hlexer).imp ?_
  intro r s hlt c hc d hd
  obtain ⟨_, _, rfl⟩ := Option.map_eq_some_iff.1 hc
  obtain ⟨_, _, rfl⟩ := Option.map_eq_some_iff.1 hd
  exact hlt

/-- A match to choose from is a word that its terminal begins the text with. -/
theorem begins_of_mem_candidates
    (hlexer : ofSymbols t = .ok lexer)
    (h : (id, length) ∈ lexer.candidates text) :
    ∃ word rest, word ++ rest = text ∧ word.length = length ∧ word ≠ [] ∧ t.Begins id word rest := by
  obtain ⟨rule, hrule, hid, hlongest, hne⟩ := mem_candidates_iff.1 h
  have hfound := Regex.isLongest_longest? (inOrder_of_mem_rules hlexer hrule) text
  rw [hlongest] at hfound
  obtain ⟨⟨word, rest, htext, hlength, hmatches⟩, _⟩ := hfound
  refine ⟨word, rest, htext, hlength, ?_, (begins_iff hlexer).2 ⟨rule, hrule, hid, hmatches⟩⟩
  rintro rfl
  exact hne hlength.symm

/-- For a terminal that begins the text with some word, there is a match of that length at least. -/
theorem exists_mem_candidates
    (hlexer : ofSymbols t = .ok lexer)
    (htext : word ++ rest = text)
    (h : t.Begins id word rest)
    (hne : word ≠ []) :
    ∃ length, (id, length) ∈ lexer.candidates text ∧ word.length ≤ length := by
  obtain ⟨rule, hrule, hid, hmatches⟩ := (begins_iff hlexer).1 h
  have hfound := Regex.isLongest_longest? (inOrder_of_mem_rules hlexer hrule) text
  cases hlongest : rule.regex.longest? text with
  | none =>
      rw [hlongest] at hfound
      exact absurd hmatches (hfound word rest htext)
  | some length =>
      rw [hlongest] at hfound
      have hle := hfound.2 word rest htext hmatches
      have hpos := List.length_pos_iff.2 hne
      exact ⟨length, mem_candidates_iff.2 ⟨rule, hrule, hid, hlongest, by omega⟩, hle⟩

/-! ### The longest match -/

/-- Since the rules come in the order of registration, the terminals of matches as long as the longest
one come after its own. -/
theorem longest_of_longestMatch?
    {best : SymbolId × Nat}
    (hlexer : ofSymbols t = .ok lexer)
    (h : lexer.longestMatch? text = some best) :
    best ∈ lexer.candidates text ∧
      ∀ c ∈ lexer.candidates text, c.2 ≤ best.2 ∧ (c.1 < best.1 → c.2 < best.2) := by
  have hascending := candidates_ascending hlexer text
  obtain ⟨before, after, hcandidates, hbefore, hafter⟩ := foldl_better_eq_some h
  rw [hcandidates] at hascending ⊢
  refine ⟨List.mem_append_cons_self, ?_⟩
  intro c hc
  rcases List.mem_append.1 hc with hc | hc
  · exact ⟨(hbefore c hc).le, fun _ => hbefore c hc⟩
  · rcases List.mem_cons.1 hc with rfl | hc
    · exact ⟨le_rfl, fun hlt => absurd hlt (lt_irrefl _)⟩
    · have hlater := (List.pairwise_cons.1 (List.pairwise_append.1 hascending).2.1).1 c hc
      exact ⟨hafter c hc, fun hlt => absurd hlt (Nat.lt_asymm hlater)⟩

theorem leads_of_longestMatch?
    (hlexer : ofSymbols t = .ok lexer)
    (h : lexer.longestMatch? text = some (id, length)) :
    ∃ word rest, word ++ rest = text ∧ word.length = length ∧ t.Leads id word rest := by
  obtain ⟨hmem, hmax⟩ := longest_of_longestMatch? hlexer h
  obtain ⟨word, rest, rfl, rfl, hne, hbegins⟩ := begins_of_mem_candidates hlexer hmem
  refine ⟨word, rest, rfl, rfl, hbegins, hne, ?_, ?_⟩
  · intro id' word' rest' htext hbegins'
    by_cases hempty : word' = []
    · simp [hempty]
    · obtain ⟨length, hmem', hle⟩ := exists_mem_candidates hlexer htext hbegins' hempty
      exact byteCount_le_of_length_le htext (hle.trans (hmax _ hmem').1)
  · intro id' word' rest' htext hbegins' hlt
    by_cases hempty : word' = []
    · exact byteCount_lt_of_length_lt htext (by simpa [hempty, List.length_pos_iff] using hne)
    · obtain ⟨length, hmem', hle⟩ := exists_mem_candidates hlexer htext hbegins' hempty
      exact byteCount_lt_of_length_lt htext (hle.trans_lt ((hmax _ hmem').2 hlt))

theorem eq_nil_of_longestMatch?
    (hlexer : ofSymbols t = .ok lexer)
    (h : lexer.longestMatch? text = none)
    (htext : word ++ rest = text)
    (hbegins : t.Begins id word rest) :
    word = [] := by
  by_contra hne
  obtain ⟨length, hmem, _⟩ := exists_mem_candidates hlexer htext hbegins hne
  rw [foldl_better_eq_none h] at hmem
  cases hmem

end Lexer
end PredictiveParsing
