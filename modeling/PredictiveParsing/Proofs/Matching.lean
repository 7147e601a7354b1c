import PredictiveParsing.Pattern.Regex
import Mathlib.Tactic

/-!
# What regular expressions match

`Regex.Matches` tells which words an expression matches between which texts; the two texts count
because of the conditions in it.  `Regex.longest?` finds the longest beginning of a text that an
expression matches, when the counts in the expression are in order (`isLongest_longest?`).

The expressions that are left after a character match what may follow it (`matches_cons_iff`).  The
argument is one for each kind of expression; for repetitions, the times before the first one that
takes a character take none and can be left out of the word, but not out of the count.
-/

namespace PredictiveParsing
namespace Regex

/-- `n` words one after the other, each with the property at its place. -/
def Times (q : List Char → List Char → List Char → Prop) :
    Nat → List Char → List Char → List Char → Prop
  | 0, _, word, _ => word = []
  | n + 1, before, word, after =>
      ∃ first second, word = first ++ second ∧ q before first (second ++ after) ∧
        Times q n (before ++ first) second after

/-- Whether the expression matches the word between the text before and the text after it. -/
def Matches : Regex → List Char → List Char → List Char → Prop
  | .empty, _, word, _ => word = []
  | .char set, _, word, _ => ∃ c, word = [c] ∧ set.contains c = true
  | .condition c, before, word, after =>
      word = [] ∧ c.holds { before := before.getLast?, after := after.head? } = true
  | .seq r s, before, word, after =>
      ∃ first second, word = first ++ second ∧ r.Matches before first (second ++ after) ∧
        s.Matches (before ++ first) second after
  | .alt r s, before, word, after => r.Matches before word after ∨ s.Matches before word after
  | .power least most r, before, word, after =>
      ∃ n, least ≤ n ∧ (∀ m ∈ most, n ≤ m) ∧ Times r.Matches n before word after

/-- Whether no repetition in the expression asks for more times than it allows. -/
def InOrder : Regex → Prop
  | .empty => True
  | .char _ => True
  | .condition _ => True
  | .seq r s => r.InOrder ∧ s.InOrder
  | .alt r s => r.InOrder ∧ s.InOrder
  | .power least most r => (∀ m ∈ most, least ≤ m) ∧ r.InOrder

section

variable {q : List Char → List Char → List Char → Prop} {r s d : Regex} {least n k : Nat}
  {most : Option Nat} {skips : Bool} {counts : Nat × Option Nat} {before word after : List Char}
  {c : Char} {p : Place}

/-! ### The empty word -/

theorem times_nil_iff :
    Times q n before [] after ↔ n = 0 ∨ q before [] after := by
  induction n with
  | zero =>
      simp [Times]
  | succ n ih =>
      constructor
      · rintro ⟨first, second, hword, hfirst, _⟩
        obtain ⟨rfl, rfl⟩ := List.append_eq_nil_iff.1 hword.symm
        exact Or.inr hfirst
      · rintro (h | h)
        · cases h
        · refine ⟨[], [], rfl, h, ?_⟩
          rw [List.append_nil]
          exact ih.2 (Or.inr h)

theorem power_matches_nil_iff
    (h : ∀ m ∈ most, least ≤ m) :
    (power least most r).Matches before [] after ↔ least = 0 ∨ r.Matches before [] after := by
  constructor
  · rintro ⟨n, hleast, _, htimes⟩
    rcases times_nil_iff.1 htimes with rfl | hnil
    · exact Or.inl (Nat.le_zero.1 hleast)
    · exact Or.inr hnil
  · intro hnil
    exact ⟨least, le_rfl, h, times_nil_iff.2 hnil⟩

theorem nullable_iff
    (hr : r.InOrder) :
    r.nullable { before := before.getLast?, after := after.head? } = true ↔
      r.Matches before [] after := by
  induction r generalizing before after with
  | empty =>
      simp [nullable, Matches]
  | char set =>
      simp [nullable, Matches]
  | condition c =>
      simp [nullable, Matches]
  | seq r s ihr ihs =>
      rw [nullable, Bool.and_eq_true, ihr hr.1, ihs hr.2]
      constructor
      · rintro ⟨hfirst, hsecond⟩
        exact ⟨[], [], rfl, hfirst, by rwa [List.append_nil]⟩
      · rintro ⟨first, second, hword, hfirst, hsecond⟩
        obtain ⟨rfl, rfl⟩ := List.append_eq_nil_iff.1 hword.symm
        rw [List.append_nil] at hsecond
        exact ⟨hfirst, hsecond⟩
  | alt r s ihr ihs =>
      rw [nullable, Bool.or_eq_true, ihr hr.1, ihs hr.2]
      rfl
  | power least most r ih =>
      rw [nullable, Bool.or_eq_true, beq_iff_eq, ih hr.2, power_matches_nil_iff hr.1]

/-- The same at a place before a character. -/
theorem nullable_cons_iff
    (hr : r.InOrder) :
    r.nullable { before := before.getLast?, after := some c } = true ↔
      r.Matches before [] (c :: word ++ after) := by
  rw [← nullable_iff hr]
  rfl

theorem nullable_of_vanishes
    (h : r.vanishes = true) (p : Place) :
    r.nullable p = true := by
  induction r with
  | empty =>
      rfl
  | char set =>
      cases h
  | condition c =>
      cases h
  | seq r s ihr ihs =>
      simp only [vanishes, Bool.and_eq_true] at h
      simp [nullable, ihr h.1, ihs h.2]
  | alt r s ihr ihs =>
      simp only [vanishes, Bool.or_eq_true] at h
      rcases h with h | h
      · simp [nullable, ihr h]
      · simp [nullable, ihs h]
  | power least most r ih =>
      simp only [vanishes, Bool.or_eq_true] at h
      rcases h with h | h
      · simp [nullable, h]
      · simp [nullable, ih h]

/-! ### Shorter forms -/

theorem eq_nil_of_times
    (h : ∀ {before word after}, q before word after → word = [])
    (htimes : Times q n before word after) :
    word = [] := by
  induction n generalizing before word with
  | zero =>
      exact htimes
  | succ n ih =>
      obtain ⟨first, second, rfl, hfirst, hsecond⟩ := htimes
      rw [h hfirst, ih hsecond, List.append_nil]

theorem eq_nil_of_takesNone
    (h : r.takesNone = true)
    (hword : r.Matches before word after) :
    word = [] := by
  induction r generalizing before word after with
  | empty =>
      exact hword
  | char set =>
      obtain ⟨c, rfl, hc⟩ := hword
      simp only [takesNone, List.isEmpty_iff] at h
      simp [CharSet.contains, CharSet.containsCode, h] at hc
  | condition c =>
      exact hword.1
  | seq r s ihr ihs =>
      simp only [takesNone, Bool.and_eq_true] at h
      obtain ⟨first, second, rfl, hfirst, hsecond⟩ := hword
      rw [ihr h.1 hfirst, ihs h.2 hsecond, List.append_nil]
  | alt r s ihr ihs =>
      simp only [takesNone, Bool.and_eq_true] at h
      rcases hword with hword | hword
      · exact ihr h.1 hword
      · exact ihs h.2 hword
  | power least most r ih =>
      obtain ⟨n, _, _, htimes⟩ := hword
      exact eq_nil_of_times (fun hword => ih h hword) htimes

theorem andThen_matches_iff :
    (r.andThen s).Matches before word after ↔ (seq r s).Matches before word after := by
  unfold andThen
  split
  · simp [Matches]
  · simp [Matches]
  · rfl

theorem repeated_matches_iff
    (h : ∀ m ∈ most, least ≤ m) :
    (r.repeated least most).Matches before word after ↔
      (power least most r).Matches before word after := by
  unfold repeated
  split
  · have hleast : least = 0 := Nat.le_zero.1 (h 0 rfl)
    subst hleast
    constructor
    · rintro rfl
      exact (power_matches_nil_iff h).2 (Or.inl rfl)
    · rintro ⟨n, _, hmost, htimes⟩
      rw [Nat.le_zero.1 (hmost 0 rfl)] at htimes
      exact htimes
  · split
    · rename_i hnone
      -- on both sides the word is empty, and only whether no time is enough is left to compare
      have honce : ∀ m ∈ some 1, min least 1 ≤ m := by
        simp
      have hzero : min least 1 = 0 ↔ least = 0 := by
        omega
      have hnil {n : Nat} {m : Option Nat} (hword : (power n m r).Matches before word after) :
          word = [] :=
        eq_nil_of_takesNone (r := power n m r) hnone hword
      constructor
      · intro hword
        cases hnil hword
        rwa [power_matches_nil_iff honce, hzero, ← power_matches_nil_iff h] at hword
      · intro hword
        cases hnil hword
        rwa [power_matches_nil_iff h, ← hzero, ← power_matches_nil_iff honce] at hword
    · rfl

/-! ### Times and counts -/

/-- Of two words that begin with a character together, the first is empty or begins with it. -/
theorem exists_append_eq_cons_iff
    {both : List Char → List Char → Prop} :
    (∃ first second, c :: word = first ++ second ∧ both first second) ↔
      both [] (c :: word) ∨ ∃ first second, word = first ++ second ∧ both (c :: first) second := by
  constructor
  · rintro ⟨first, second, hword, h⟩
    cases first with
    | nil =>
        cases hword
        exact Or.inl h
    | cons _ first =>
        cases hword
        exact Or.inr ⟨first, second, rfl, h⟩
  · rintro (h | ⟨first, second, rfl, h⟩)
    · exact ⟨[], c :: word, rfl, h⟩
    · exact ⟨c :: first, second, rfl, h⟩

/-- The first time that takes a character comes after some that take none. -/
theorem times_cons_iff :
    Times q n before (c :: word) after ↔
      ∃ i k, n = i + 1 + k ∧ (i = 0 ∨ q before [] (c :: word ++ after)) ∧
        ∃ first second, word = first ++ second ∧ q before (c :: first) (second ++ after) ∧
          Times q k (before ++ c :: first) second after := by
  induction n with
  | zero =>
      constructor
      · rintro ⟨⟩
      · rintro ⟨i, k, hn, _⟩
        omega
  | succ n ih =>
      rw [Times, exists_append_eq_cons_iff, List.append_nil, ih]
      constructor
      · rintro (⟨hnil, i, k, rfl, _, hrest⟩ | hrest)
        · exact ⟨i + 1, k, by omega, Or.inr hnil, hrest⟩
        · exact ⟨0, n, by omega, Or.inl rfl, hrest⟩
      · rintro ⟨i, k, hn, hskip, hrest⟩
        cases i with
        | zero =>
            obtain rfl : n = k := by
              omega
            exact Or.inr hrest
        | succ i =>
            have hnil := hskip.resolve_left (Nat.succ_ne_zero i)
            exact Or.inl ⟨hnil, i, k, by omega, Or.inr hnil, hrest⟩

/-- What is repeated may as well be repeated more often where it matches the empty word anyway. -/
theorem times_add
    (hnil : ∀ before after, q before [] after)
    (h : Times q k before word after) (i : Nat) :
    Times q (i + k) before word after := by
  induction i with
  | zero =>
      rwa [Nat.zero_add]
  | succ i ih =>
      rw [Nat.succ_add]
      exact ⟨[], word, rfl, hnil _ _, by rwa [List.append_nil]⟩

theorem mem_countsLeft_iff :
    counts ∈ countsLeft skips least most ↔
      ∃ i < most.getD (max least 1), (i = 0 ∨ skips = true) ∧
        (least - 1 - i, most.map (· - 1 - i)) = counts := by
  cases most with
  | none =>
      cases skips <;> simp [countsLeft, eq_comm]
  | some most =>
      cases skips <;> simp [countsLeft, eq_comm, Nat.pos_iff_ne_zero]

/-- The counts that are left allow the numbers of times that complete the counts before, together with
the time that takes a character and the times that are skipped. -/
theorem exists_mem_countsLeft_iff :
    (∃ counts ∈ countsLeft skips least most, counts.1 ≤ k ∧ ∀ m ∈ counts.2, k ≤ m) ↔
      ∃ i, (i = 0 ∨ skips = true) ∧ least ≤ i + 1 + k ∧ ∀ m ∈ most, i + 1 + k ≤ m := by
  constructor
  · rintro ⟨counts, hcounts, hleast, hmost⟩
    obtain ⟨i, hi, hskips, rfl⟩ := mem_countsLeft_iff.1 hcounts
    refine ⟨i, hskips, by omega, ?_⟩
    rintro m rfl
    have hbound : k ≤ m - 1 - i := hmost _ rfl
    simp only [Option.getD_some] at hi
    omega
  · rintro ⟨i, hskips, hleast, hmost⟩
    cases most with
    | none =>
        -- more times than the least need not be told apart
        refine ⟨_, mem_countsLeft_iff.2 ⟨min i (max least 1 - 1), ?_, ?_, rfl⟩, ?_, ?_⟩
        · simp only [Option.getD_none]
          omega
        · exact hskips.imp_left (by omega)
        · dsimp only
          omega
        · rintro m ⟨⟩
    | some most =>
        have hbound := hmost most rfl
        refine ⟨_, mem_countsLeft_iff.2 ⟨i, ?_, hskips, rfl⟩, ?_, ?_⟩
        · simp only [Option.getD_some]
          omega
        · dsimp only
          omega
        · rintro m ⟨⟩
          dsimp only
          omega

theorem inOrder_of_mem_countsLeft
    (h : ∀ m ∈ most, least ≤ m)
    (hcounts : counts ∈ countsLeft skips least most) :
    ∀ m ∈ counts.2, counts.1 ≤ m := by
  obtain ⟨i, _, _, rfl⟩ := mem_countsLeft_iff.1 hcounts
  intro m hm
  obtain ⟨bound, rfl, rfl⟩ := Option.map_eq_some_iff.1 hm
  have := h bound rfl
  dsimp only
  omega

theorem inOrder_andThen
    (hr : r.InOrder)
    (hs : s.InOrder) :
    (r.andThen s).InOrder := by
  unfold andThen
  split
  · exact hs
  · exact hr
  · exact ⟨hr, hs⟩

theorem inOrder_repeated
    (h : ∀ m ∈ most, least ≤ m)
    (hr : r.InOrder) :
    (r.repeated least most).InOrder := by
  unfold repeated
  split
  · trivial
  · split
    · exact ⟨by simp, hr⟩
    · exact ⟨h, hr⟩

/-! ### After a character -/

theorem mem_derive_seq_iff :
    d ∈ (seq r s).derive p c ↔
      (∃ left ∈ r.derive p c, left.andThen s = d) ∨ r.nullable p = true ∧ d ∈ s.derive p c := by
  rw [derive]
  split <;> simp [*]

/-- A repetition leaves what its body leaves, with the counts that are left after it. -/
theorem mem_derive_power_iff :
    d ∈ (power least most r).derive p c ↔
      ∃ left ∈ r.derive p c, ∃ counts ∈ countsLeft (r.nullable p && !r.vanishes) least most,
        left.andThen (r.repeated counts.1 counts.2) = d := by
  rw [derive]
  split
  · rename_i hnone
    simp [hnone]
  · simp [List.mem_flatMap, List.mem_map]

theorem inOrder_derive
    (hr : r.InOrder)
    (hd : d ∈ r.derive p c) :
    d.InOrder := by
  induction r generalizing d with
  | empty =>
      cases hd
  | char set =>
      rw [derive] at hd
      split at hd
      · rw [List.mem_singleton.1 hd]
        trivial
      · cases hd
  | condition c =>
      cases hd
  | seq r s ihr ihs =>
      rcases mem_derive_seq_iff.1 hd with ⟨left, hleft, rfl⟩ | ⟨_, hd⟩
      · exact inOrder_andThen (ihr hr.1 hleft) hr.2
      · exact ihs hr.2 hd
  | alt r s ihr ihs =>
      rcases List.mem_append.1 hd with hd | hd
      · exact ihr hr.1 hd
      · exact ihs hr.2 hd
  | power least most r ih =>
      obtain ⟨left, hleft, counts, hcounts, rfl⟩ := mem_derive_power_iff.1 hd
      refine inOrder_andThen (ih hr.2 hleft) (inOrder_repeated ?_ hr.2)
      exact inOrder_of_mem_countsLeft hr.1 hcounts

theorem seq_matches_cons_iff :
    (seq r s).Matches before (c :: word) after ↔
      (∃ first second, word = first ++ second ∧ r.Matches before (c :: first) (second ++ after) ∧
        s.Matches (before ++ c :: first) second after) ∨
      r.Matches before [] (c :: word ++ after) ∧ s.Matches before (c :: word) after := by
  rw [Matches, exists_append_eq_cons_iff, List.append_nil, or_comm]

/-- The times that are skipped before a character are told by the counts; where the body matches the
empty word at every place, they can be made up for after the character. -/
theorem power_matches_cons_iff
    (hr : r.InOrder) :
    (power least most r).Matches before (c :: word) after ↔
      ∃ first second k, word = first ++ second ∧ r.Matches before (c :: first) (second ++ after) ∧
        Times r.Matches k (before ++ c :: first) second after ∧
        ∃ i, (i = 0 ∨ (r.nullable { before := before.getLast?, after := some c } &&
            !r.vanishes) = true) ∧
          least ≤ i + 1 + k ∧ ∀ m ∈ most, i + 1 + k ≤ m := by
  constructor
  · rintro ⟨n, hleast, hmost, htimes⟩
    obtain ⟨i, k, rfl, hskip, first, second, rfl, hfirst, hsecond⟩ := times_cons_iff.1 htimes
    rw [← nullable_cons_iff hr] at hskip
    cases hvanishes : r.vanishes with
    | false =>
        exact ⟨first, second, k, rfl, hfirst, hsecond, i, by simpa using hskip, hleast, hmost⟩
    | true =>
        have hnil (before after : List Char) : r.Matches before [] after :=
          (nullable_iff hr).1 (nullable_of_vanishes hvanishes _)
        have hsum : 0 + 1 + (i + k) = i + 1 + k := by
          omega
        refine ⟨first, second, i + k, rfl, hfirst, times_add hnil hsecond i, 0, Or.inl rfl, ?_⟩
        rw [hsum]
        exact ⟨hleast, hmost⟩
  · rintro ⟨first, second, k, rfl, hfirst, hsecond, i, hskips, hleast, hmost⟩
    refine ⟨i + 1 + k, hleast, hmost,
      times_cons_iff.2 ⟨i, k, rfl, ?_, first, second, rfl, hfirst, hsecond⟩⟩
    refine hskips.imp_right fun hskips => (nullable_cons_iff hr).1 ?_
    exact (Bool.and_eq_true _ _ ▸ hskips).1

/-- What follows the rest of a first part, when it is known what the first part leaves. -/
theorem exists_andThen_matches_iff
    {lefts : List Regex}
    (h : ∀ word after, r.Matches before (c :: word) after ↔
      ∃ left ∈ lefts, left.Matches (before ++ [c]) word after) :
    (∃ left ∈ lefts, (left.andThen s).Matches (before ++ [c]) word after) ↔
      ∃ first second, word = first ++ second ∧ r.Matches before (c :: first) (second ++ after) ∧
        s.Matches (before ++ c :: first) second after := by
  constructor
  · rintro ⟨left, hleft, hmatches⟩
    obtain ⟨first, second, rfl, hfirst, hsecond⟩ := andThen_matches_iff.1 hmatches
    refine ⟨first, second, rfl, (h _ _).2 ⟨left, hleft, hfirst⟩, ?_⟩
    rwa [List.append_cons]
  · rintro ⟨first, second, rfl, hfirst, hsecond⟩
    obtain ⟨left, hleft, hfirst⟩ := (h _ _).1 hfirst
    rw [List.append_cons] at hsecond
    exact ⟨left, hleft, andThen_matches_iff.2 ⟨first, second, rfl, hfirst, hsecond⟩⟩

/-- An expression matches a word that begins with a character if and only if one of those that it
leaves after the character matches the rest of the word. -/
theorem matches_cons_iff
    (hr : r.InOrder) :
    r.Matches before (c :: word) after ↔
      ∃ d ∈ r.derive { before := before.getLast?, after := some c } c,
        d.Matches (before ++ [c]) word after := by
  induction r generalizing word after with
  | empty =>
      simp [derive, Matches]
  | char set =>
      rw [derive]
      split <;> simp_all [Matches]
  | condition c =>
      simp [derive, Matches]
  | seq r s ihr ihs =>
      rw [seq_matches_cons_iff, ← exists_andThen_matches_iff fun _ _ => ihr hr.1,
        ← nullable_cons_iff hr.1, ihs hr.2]
      simp only [mem_derive_seq_iff, or_and_right, exists_or, and_assoc, exists_and_left,
        exists_exists_and_eq_and]
  | alt r s ihr ihs =>
      simp only [Matches, derive, List.mem_append, or_and_right, exists_or, ihr hr.1, ihs hr.2]
  | power least most r ih =>
      rw [power_matches_cons_iff hr.2]
      constructor
      · rintro ⟨first, second, k, rfl, hfirst, hsecond, hleft⟩
        obtain ⟨counts, hcounts, hk⟩ := exists_mem_countsLeft_iff.2 hleft
        have hinOrder := inOrder_of_mem_countsLeft hr.1 hcounts
        have hrest : (r.repeated counts.1 counts.2).Matches (before ++ c :: first) second after :=
          (repeated_matches_iff hinOrder).2 ⟨k, hk.1, hk.2, hsecond⟩
        obtain ⟨left, hleft, hmatches⟩ :=
          (exists_andThen_matches_iff fun _ _ => ih hr.2).2 ⟨first, second, rfl, hfirst, hrest⟩
        exact ⟨_, mem_derive_power_iff.2 ⟨left, hleft, counts, hcounts, rfl⟩, hmatches⟩
      · rintro ⟨d, hd, hmatches⟩
        obtain ⟨left, hleft, counts, hcounts, rfl⟩ := mem_derive_power_iff.1 hd
        have hinOrder := inOrder_of_mem_countsLeft hr.1 hcounts
        obtain ⟨first, second, rfl, hfirst, hrest⟩ :=
          (exists_andThen_matches_iff fun _ _ => ih hr.2).1 ⟨left, hleft, hmatches⟩
        obtain ⟨k, hk, hk', hsecond⟩ := (repeated_matches_iff hinOrder).1 hrest
        exact ⟨first, second, k, rfl, hfirst, hsecond,
          exists_mem_countsLeft_iff.1 ⟨counts, hcounts, hk, hk'⟩⟩

end

/-! ### The longest beginning -/

/-- Whether a length, if there is one, is that of the longest beginning of the text with the property,
which may depend on the rest of the text; without a length, no beginning has it. -/
def IsLongest (q : List Char → List Char → Prop) (text : List Char) : Option Nat → Prop
  | none => ∀ word rest, word ++ rest = text → ¬ q word rest
  | some length =>
      (∃ word rest, word ++ rest = text ∧ word.length = length ∧ q word rest) ∧
        ∀ word rest, word ++ rest = text → q word rest → word.length ≤ length

section

variable {q : List Char → List Char → Prop} {states : List Regex} {before text : List Char}
  {c : Char} {found : Option Nat} {empty : Bool}

theorem isLongest_nil
    (hempty : empty = true ↔ q [] []) :
    IsLongest q [] (if empty then some 0 else none) := by
  split
  · rename_i h
    refine ⟨⟨[], [], rfl, rfl, hempty.1 h⟩, ?_⟩
    intro word rest htext _
    rw [(List.append_eq_nil_iff.1 htext).1]
    rfl
  · rename_i h
    intro word rest htext hword
    obtain ⟨rfl, rfl⟩ := List.append_eq_nil_iff.1 htext
    exact h (hempty.2 hword)

/-- With one more character in front, the longest beginning is longer by one, or it is empty. -/
theorem isLongest_cons
    (hfound : IsLongest (fun word rest => q (c :: word) rest) text found)
    (hempty : empty = true ↔ q [] (c :: text)) :
    IsLongest q (c :: text) ((found.map (· + 1)).or (if empty then some 0 else none)) := by
  cases found with
  | some length =>
      obtain ⟨⟨word, rest, rfl, rfl, hword⟩, hmax⟩ := hfound
      refine ⟨⟨c :: word, rest, rfl, rfl, hword⟩, ?_⟩
      intro word' rest' htext hword'
      rcases List.append_eq_cons_iff.1 htext with ⟨rfl, _⟩ | ⟨word', rfl, hrest⟩
      · exact Nat.zero_le _
      · exact Nat.succ_le_succ (hmax word' rest' hrest.symm hword')
  | none =>
      have hnil {word rest : List Char} (htext : word ++ rest = c :: text) (hword : q word rest) :
          word = [] ∧ rest = c :: text := by
        rcases List.append_eq_cons_iff.1 htext with h | ⟨word', rfl, hrest⟩
        · exact h
        · exact absurd hword (hfound word' rest hrest.symm)
      rw [Option.map_none, Option.none_or]
      split
      · rename_i h
        refine ⟨⟨[], c :: text, rfl, rfl, hempty.1 h⟩, ?_⟩
        intro word rest htext hword
        rw [(hnil htext hword).1]
        rfl
      · rename_i h
        intro word rest htext hword
        obtain ⟨rfl, rfl⟩ := hnil htext hword
        exact h (hempty.2 hword)

theorem any_nullable_iff
    (h : ∀ r ∈ states, r.InOrder)
    (before text : List Char) :
    states.any (nullable { before := before.getLast?, after := text.head? }) = true ↔
      ∃ r ∈ states, r.Matches before [] text := by
  rw [List.any_eq_true]
  exact exists_congr fun r => and_congr_right fun hr => nullable_iff (h r hr)

theorem longestFrom_nil
    (before : Option Char) (read : Nat) (best : Option Nat) (text : List Char) :
    longestFrom [] before read best text = best := by
  cases text <;> rfl

theorem longestFrom_cons
    (states : List Regex) (before : Option Char) (read : Nat) (best : Option Nat) (c : Char)
    (text : List Char) :
    longestFrom states before read best (c :: text) =
      longestFrom
        (distinct (states.flatMap (derive { before := before, after := some c } c)))
        (some c) (read + 1)
        (if states.any (nullable { before := before, after := some c }) then some read else best)
        text := by
  rw [longestFrom]
  split
  · rename_i hnone
    rw [hnone, longestFrom_nil]
  · rfl

theorem exists_matches_cons_iff
    (h : ∀ r ∈ states, r.InOrder) {word after : List Char} :
    (∃ r ∈ states, r.Matches before (c :: word) after) ↔
      ∃ d ∈ distinct (states.flatMap (derive { before := before.getLast?, after := some c } c)),
        d.Matches (before ++ [c]) word after := by
  simp only [mem_distinct, List.mem_flatMap]
  constructor
  · rintro ⟨r, hr, hmatches⟩
    obtain ⟨d, hd, hmatches⟩ := (matches_cons_iff (h r hr)).1 hmatches
    exact ⟨d, ⟨r, hr, hd⟩, hmatches⟩
  · rintro ⟨d, ⟨r, hr, hd⟩, hmatches⟩
    exact ⟨r, hr, (matches_cons_iff (h r hr)).2 ⟨d, hd, hmatches⟩⟩

/-- Reading on finds the longest beginning that one of the expressions matches, and keeps the best so
far if there is none. -/
theorem exists_isLongest_longestFrom
    (h : ∀ r ∈ states, r.InOrder)
    (before : List Char) (read : Nat) (best : Option Nat) (text : List Char) :
    ∃ found, IsLongest (fun word rest => ∃ r ∈ states, r.Matches before word rest) text found ∧
      longestFrom states before.getLast? read best text = (found.map (read + ·)).or best := by
  induction text generalizing states before read best with
  | nil =>
      refine ⟨_, isLongest_nil (any_nullable_iff h before []), ?_⟩
      rw [longestFrom]
      split <;> simp [*]
  | cons c text ih =>
      have hderived : ∀ d ∈ distinct
          (states.flatMap (derive { before := before.getLast?, after := some c } c)), d.InOrder := by
        intro d hd
        obtain ⟨r, hr, hd⟩ := List.mem_flatMap.1 ((mem_distinct _ _).1 hd)
        exact inOrder_derive (h r hr) hd
      obtain ⟨found, hfound, heq⟩ := ih hderived (before ++ [c]) (read + 1)
        (if states.any (nullable { before := before.getLast?, after := some c }) then some read
          else best)
      simp only [← exists_matches_cons_iff h] at hfound
      refine ⟨_, isLongest_cons hfound (any_nullable_iff h before (c :: text)), ?_⟩
      rw [List.getLast?_concat] at heq
      rw [longestFrom_cons, heq]
      cases found with
      | none =>
          split <;> simp [*]
      | some length =>
          simp [Nat.add_assoc, Nat.add_comm 1]

/-- The length that is found is that of the longest beginning that the expression matches. -/
theorem isLongest_longest?
    {r : Regex}
    (h : r.InOrder) (text : List Char) :
    IsLongest (r.Matches []) text (r.longest? text) := by
  have hstates : ∀ s ∈ [r], s.InOrder := by
    simpa using h
  obtain ⟨found, hfound, heq⟩ := exists_isLongest_longestFrom hstates [] 0 none text
  have hlongest : r.longest? text = found := by
    refine heq.trans ?_
    simp
  rw [hlongest]
  simpa using hfound

end

end Regex
end PredictiveParsing
