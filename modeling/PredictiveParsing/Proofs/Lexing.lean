import PredictiveParsing.Lexing
import PredictiveParsing.Proofs.Reachable
import Mathlib.Tactic

/-!
# Lexing a text to its end

What a lexer finds at a place is one of the matches of its rules, and a match takes up a character at
least, so that lexing comes to an end.  `Lexer.items` are the tokens and errors from a place on; their
number of steps is enough for the rest of the text, and more steps find no more (`itemsFrom_of_le`).

The tokens of a lexer that is made from a symbol table are terminals of the table, and none of them is
`EPSILON`.
-/

namespace PredictiveParsing
namespace Lexer

variable {t : SymbolTable} {lexer : Lexer} {cursor cursor' : Cursor}
  {item : Except LexError Token}

/-! ### What is found at a place -/

theorem foldl_better_eq_none
    {cs : List (SymbolId × Nat)}
    (h : cs.foldl better none = none) :
    cs = [] := by
  induction cs using List.reverseRecOn with
  | nil =>
      rfl
  | append_singleton cs c _ =>
      rw [List.foldl_concat] at h
      unfold better at h
      split at h
      · cases h
      · split at h <;> cases h

/-- The best of several matches is one of them: those before it are shorter, and those after it are not
longer. -/
theorem foldl_better_eq_some
    {cs : List (SymbolId × Nat)} {best : SymbolId × Nat}
    (h : cs.foldl better none = some best) :
    ∃ before after, cs = before ++ best :: after ∧
      (∀ c ∈ before, c.2 < best.2) ∧ ∀ c ∈ after, c.2 ≤ best.2 := by
  induction cs using List.reverseRecOn generalizing best with
  | nil =>
      cases h
  | append_singleton cs c ih =>
      rw [List.foldl_concat] at h
      unfold better at h
      split at h
      · rename_i hnone
        cases h
        rw [foldl_better_eq_none hnone]
        exact ⟨[], [], rfl, by simp, by simp⟩
      · rename_i old hold
        obtain ⟨before, after, rfl, hbefore, hafter⟩ := ih hold
        split at h
        · rename_i hlonger
          cases h
          refine ⟨before ++ old :: after, [], rfl, ?_, by simp⟩
          intro d hd
          rcases List.mem_append.1 hd with hd | hd
          · exact (hbefore d hd).trans hlonger
          · rcases List.mem_cons.1 hd with rfl | hd
            · exact hlonger
            · exact (hafter d hd).trans_lt hlonger
        · rename_i hlonger
          cases h
          refine ⟨before, after ++ [c], by simp, hbefore, ?_⟩
          intro d hd
          rcases List.mem_append.1 hd with hd | hd
          · exact hafter d hd
          · rw [List.mem_singleton.1 hd]
            exact Nat.le_of_not_lt hlonger

/-- The longest match is the match of a rule. -/
theorem mem_candidates_of_longestMatch?
    {text : List Char} {c : SymbolId × Nat}
    (h : lexer.longestMatch? text = some c) :
    c ∈ lexer.candidates text := by
  obtain ⟨before, after, hcandidates, _⟩ := foldl_better_eq_some h
  rw [hcandidates]
  exact List.mem_append_cons_self

theorem candidates_eq
    (lexer : Lexer) (text : List Char) :
    lexer.candidates text = lexer.rules.filterMap fun rule =>
      ((rule.regex.longest? text).filter (· ≠ 0)).map fun length => (rule.terminal, length) := by
  unfold candidates
  congr 1
  funext rule
  cases rule.regex.longest? text with
  | none =>
      rfl
  | some length =>
      by_cases hlength : length = 0 <;> simp [hlength]

/-- The matches to choose from are those of the rules, as long as can be and not empty. -/
theorem mem_candidates_iff
    {text : List Char} {c : SymbolId × Nat} :
    c ∈ lexer.candidates text ↔
      ∃ rule ∈ lexer.rules, rule.terminal = c.1 ∧ rule.regex.longest? text = some c.2 ∧ c.2 ≠ 0 := by
  obtain ⟨id, length⟩ := c
  simp only [candidates_eq, List.mem_filterMap, Option.map_eq_some_iff, Option.filter_eq_some_iff,
    decide_eq_true_eq, Prod.mk.injEq]
  constructor
  · rintro ⟨rule, hrule, _, hfound, rfl, rfl⟩
    exact ⟨rule, hrule, rfl, hfound⟩
  · rintro ⟨rule, hrule, rfl, hfound⟩
    exact ⟨rule, hrule, length, hfound, rfl, rfl⟩

/-- A token that is found has the terminal of a rule. -/
theorem exists_rule_of_next?
    {token : Token}
    (h : lexer.next? cursor = some (.ok token, cursor')) :
    ∃ rule ∈ lexer.rules, rule.terminal = token.terminal := by
  unfold next? at h
  dsimp only at h
  split at h
  · cases h
  · split at h
    · rename_i hmatch
      cases h
      obtain ⟨rule, hmem, hrule, _⟩ := mem_candidates_iff.1 (mem_candidates_of_longestMatch? hmatch)
      exact ⟨rule, hmem, hrule⟩
    · cases h

/-- Lexing goes on with a shorter text. -/
theorem length_lt_of_next?
    (h : lexer.next? cursor = some (item, cursor')) :
    cursor'.rest.length < cursor.rest.length := by
  have hskip : cursor.skip.rest.length ≤ cursor.rest.length := by
    simp [Cursor.skip, Cursor.advance]
  unfold next? at h
  dsimp only at h
  split at h
  · cases h
  · rename_i c rest hrest
    have hlength : cursor.skip.rest.length = rest.length + 1 := by
      rw [hrest]
      rfl
    split at h
    · rename_i terminal length hmatch
      cases h
      obtain ⟨_, _, _, _, hne⟩ := mem_candidates_iff.1 (mem_candidates_of_longestMatch? hmatch)
      simp only [Cursor.advance, List.length_drop]
      omega
    · cases h
      simp only [Cursor.advance, List.length_drop]
      omega

/-! ### Tokens and errors from a place on -/

/-- More steps than there are characters find no more. -/
theorem itemsFrom_of_le
    {steps : Nat}
    (h : cursor.rest.length ≤ steps) :
    lexer.itemsFrom steps cursor = lexer.itemsFrom cursor.rest.length cursor := by
  induction hlength : cursor.rest.length using Nat.strong_induction_on generalizing steps cursor with
  | _ length ih =>
      subst hlength
      cases hnext : lexer.next? cursor with
      | none =>
          cases steps <;> cases cursor.rest.length <;> simp [itemsFrom, hnext]
      | some found =>
          obtain ⟨item, cursor'⟩ := found
          have hlt := length_lt_of_next? hnext
          obtain ⟨m, hm⟩ := Nat.exists_eq_succ_of_ne_zero (Nat.ne_zero_of_lt hlt)
          obtain ⟨n, rfl⟩ := Nat.exists_eq_succ_of_ne_zero (Nat.ne_zero_of_lt (Nat.lt_of_lt_of_le hlt h))
          have hsteps := ih _ hlt (by omega : cursor'.rest.length ≤ n) rfl
          have hrest := ih _ hlt (by omega : cursor'.rest.length ≤ m) rfl
          rw [hm]
          simp only [itemsFrom, hnext, hsteps, hrest]

/-- The tokens and errors from a cursor on; from the start of a text, they are what `lex` gives. -/
def items (lexer : Lexer) (cursor : Cursor) : List (Except LexError Token) :=
  lexer.itemsFrom cursor.rest.length cursor

theorem items_of_none
    (h : lexer.next? cursor = none) :
    lexer.items cursor = [] := by
  unfold items
  cases cursor.rest.length with
  | zero =>
      rfl
  | succ length =>
      simp [itemsFrom, h]

theorem items_of_some
    (h : lexer.next? cursor = some (item, cursor')) :
    lexer.items cursor = item :: lexer.items cursor' := by
  have hlt := length_lt_of_next? h
  obtain ⟨length, hlength⟩ := Nat.exists_eq_succ_of_ne_zero (Nat.ne_zero_of_lt hlt)
  have hrest : cursor'.rest.length ≤ length := by
    omega
  unfold items
  rw [hlength, itemsFrom, h]
  simp only [itemsFrom_of_le hrest]

/-! ### The terminals of tokens -/

/-- The rule of a symbol is there for a terminal other than `EPSILON`, and then it is that of its
pattern. -/
theorem rule?_eq_some_iff
    {id : SymbolId} {rule : LexRule} :
    rule? t id = .ok (some rule) ↔
      rule.terminal = id ∧ id ≠ epsilon ∧
        ∃ pattern, t.pattern? id = some pattern ∧ Pattern.compile pattern = .ok rule.regex := by
  obtain ⟨terminal, regex⟩ := rule
  unfold rule?
  split
  · rename_i pattern hpattern
    split
    · rename_i hid
      simp [hid]
    · rename_i hid
      split
      · rename_i compiled hcompile
        simp [hid, hpattern, hcompile, eq_comm]
      · rename_i hcompile
        simp [hpattern, hcompile]
  · rename_i hpattern
    simp [hpattern]

theorem isTerminal_of_pattern?
    {id : SymbolId} {pattern : String}
    (h : t.pattern? id = some pattern) :
    t.isTerminal id = true := by
  unfold SymbolTable.pattern? at h
  split at h
  · rename_i hkind
    simp [SymbolTable.isTerminal, hkind, SymbolKind.isTerminal]
  · cases h

theorem map_of_mapM
    {ε α β : Type} {f : α → Except ε β} {xs : List α} {ys : List β}
    (h : xs.mapM f = .ok ys) :
    xs.map f = ys.map .ok := by
  induction xs generalizing ys with
  | nil =>
      cases h
      rfl
  | cons x xs ih =>
      rw [List.mapM_cons] at h
      obtain ⟨first, hfirst, h⟩ := bind_eq_ok h
      obtain ⟨rest, hrest, h⟩ := bind_eq_ok h
      cases h
      rw [List.map_cons, List.map_cons, hfirst, ih hrest]

/-- The rules of a lexer are those of the symbols. -/
theorem mem_rules_iff
    (h : ofSymbols t = .ok lexer)
    {rule : LexRule} :
    rule ∈ lexer.rules ↔ rule? t rule.terminal = .ok (some rule) := by
  obtain ⟨rules, hrules, h⟩ := bind_eq_ok h
  cases h
  have hmap := map_of_mapM hrules
  have hmem : some rule ∈ rules ↔ ∃ id ∈ t.ids, rule? t id = .ok (some rule) := by
    rw [← List.mem_map, hmap, List.mem_map_of_injective fun _ _ => Except.ok.inj]
  simp only [List.mem_filterMap, id_eq, exists_eq_right, hmem]
  constructor
  · rintro ⟨id, _, hrule⟩
    rwa [(rule?_eq_some_iff.1 hrule).1]
  · intro hrule
    obtain ⟨_, _, pattern, hpattern, _⟩ := rule?_eq_some_iff.1 hrule
    have hlt := SymbolTable.lt_size_of_isTerminal (isTerminal_of_pattern? hpattern)
    exact ⟨rule.terminal, List.mem_range.2 hlt, hrule⟩

/-- The rules of a lexer come in the order of registration. -/
theorem rules_ascending
    (h : ofSymbols t = .ok lexer) :
    lexer.rules.Pairwise fun r s => r.terminal < s.terminal := by
  obtain ⟨rules, hrules, h⟩ := bind_eq_ok h
  cases h
  have hmap := map_of_mapM hrules
  have hids : (t.ids.map (rule? t)).Pairwise fun a b =>
      ∀ r s, a = .ok (some r) → b = .ok (some s) → r.terminal < s.terminal := by
    refine List.pairwise_map.2 (List.pairwise_lt_range.imp ?_)
    intro i j hlt r s hr hs
    rwa [(rule?_eq_some_iff.1 hr).1, (rule?_eq_some_iff.1 hs).1]
  rw [hmap, List.pairwise_map] at hids
  refine List.pairwise_filterMap.2 (hids.imp ?_)
  rintro _ _ hlt r rfl s rfl
  exact hlt r s rfl rfl

/-- The rules of a lexer are for terminals other than `EPSILON`. -/
theorem terminal_of_ofSymbols
    (h : ofSymbols t = .ok lexer)
    {rule : LexRule}
    (hrule : rule ∈ lexer.rules) :
    t.isTerminal rule.terminal = true ∧ rule.terminal ≠ epsilon := by
  obtain ⟨_, hid, pattern, hpattern, _⟩ := rule?_eq_some_iff.1 ((mem_rules_iff h).1 hrule)
  exact ⟨isTerminal_of_pattern? hpattern, hid⟩

/-- The tokens of a lexer are terminals other than `EPSILON`. -/
theorem terminal_of_next?
    (hlexer : ofSymbols t = .ok lexer)
    {token : Token}
    (h : lexer.next? cursor = some (.ok token, cursor')) :
    t.isTerminal token.terminal = true ∧ token.terminal ≠ epsilon := by
  obtain ⟨rule, hmem, hrule⟩ := exists_rule_of_next? h
  rw [← hrule]
  exact terminal_of_ofSymbols hlexer hmem

end Lexer
end PredictiveParsing
