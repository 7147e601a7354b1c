import PredictiveParsing.Proofs.ReadingBack
import Mathlib.Tactic

/-!
# The forms of a declaration

A line that declares something is a sequence of parts: white space, keywords, a name, and what stands
before a closing semicolon.  `Declaration.SymbolLine` are the four forms of symbol lines and
`Declaration.RuleLine` the two forms of rule lines, written down part by part
(`Declaration.Sequence`).

Reading finds these forms and nothing else (`Declaration.ofSymbolLine?_eq_some_iff`,
`Declaration.ofRuleLine?_eq_some_iff`).  Each part ends where the next one begins, since the first
character of the next one cannot belong to it (`Declaration.Avoids`), so a line can be read in one way
only.
-/

namespace PredictiveParsing

open Text

namespace Declaration

section

variable {line text rest name value body : List Char} {word : String} {d d' : Declaration}
  {P : List Char → Prop} {Ps : List (List Char → Prop)} {p : Char → Bool} {c : Char}

/-! ### Parts -/

/-- A text that is made of parts, one after the other. -/
def Sequence : List (List Char → Prop) → List Char → Prop
  | [], text => text = []
  | P :: Ps, text => ∃ part rest, part ++ rest = text ∧ P part ∧ Sequence Ps rest

/-- White space, or nothing. -/
def Spaces (part : List Char) : Prop :=
  ∀ c ∈ part, isBlank c = true

/-- White space. -/
def Blanks (part : List Char) : Prop :=
  part ≠ [] ∧ Spaces part

/-- A given text. -/
def Word (word : String) (part : List Char) : Prop :=
  part = word.toList

/-- A letter from `a` to `z` or from `A` to `Z`, an underscore or an apostrophe. -/
def StartsName (c : Char) : Prop :=
  ('a' ≤ c ∧ c ≤ 'z') ∨ ('A' ≤ c ∧ c ≤ 'Z') ∨ c = '_' ∨ c = '\''

/-- This text, which begins like a name and goes on with such characters and digits. -/
def Named (name part : List Char) : Prop :=
  part = name ∧ ∃ c rest, name = c :: rest ∧ StartsName c ∧
    ∀ d ∈ rest, StartsName d ∨ ('0' ≤ d ∧ d ≤ '9')

/-- What is left of a text without the white space at its end. -/
def Trimmed (text kept : List Char) : Prop :=
  (∃ after, kept ++ after = text ∧ Spaces after) ∧ ∀ c, kept.getLast? = some c → isBlank c = false

/-- A text that does not begin with white space, and that ends with a semicolon and white space.
Before the semicolon there is something, and without the white space at its end it is `value`. -/
def Valued (value part : List Char) : Prop :=
  (∃ c rest, part = c :: rest ∧ isBlank c = false) ∧
    ∃ before, Trimmed part (before ++ [';']) ∧ before ≠ [] ∧ Trimmed before value

/-- This text, in which there is no semicolon. -/
def Body (body part : List Char) : Prop :=
  part = body ∧ ';' ∉ body

/-- The forms of a symbol line. -/
inductive SymbolLine (line : List Char) : Declaration → Prop
  | terminal
      {name pattern : List Char}
      (h : Sequence [Spaces, Word "terminal", Blanks, Named name, Blanks, Valued pattern] line) :
      SymbolLine line (.terminal (String.ofList name) (String.ofList pattern))
  | nonterminal
      {name : List Char}
      (h : Sequence [Spaces, Word "no", Blanks, Word "terminal", Blanks, Named name, Spaces, Word ";",
        Spaces] line) :
      SymbolLine line (.nonterminal (String.ofList name))
  | start
      {name : List Char}
      (h : Sequence [Spaces, Word "start", Blanks, Word "with", Blanks, Named name, Spaces, Word ";",
        Spaces] line) :
      SymbolLine line (.start (String.ofList name))
  | endMarker
      {value : List Char}
      (h : Sequence [Spaces, Word "set", Blanks, Word "EOL", Blanks, Word "char", Blanks,
        Valued value] line) :
      SymbolLine line (.endMarker (String.ofList value))

/-- A rule line, with all that stands between the arrow and the semicolon as its body. -/
def AnyRule (line name body : List Char) : Prop :=
  Sequence [Spaces, Named name, Spaces, Word "->", Body body, Word ";", Spaces] line

/-- A rule line with nothing but white space in its body. -/
def BlankRule (line name : List Char) : Prop :=
  Sequence [Spaces, Named name, Spaces, Word "->", Spaces, Word ";", Spaces] line

/-- A rule line with a body, before which white space may be left out. -/
def FullRule (line name body : List Char) : Prop :=
  body ≠ [] ∧
    Sequence [Spaces, Named name, Spaces, Word "->", Spaces, Body body, Word ";", Spaces] line

/-- The forms of a rule line. -/
inductive RuleLine (line : List Char) : Declaration → Prop
  | blank
      {name : List Char}
      (h : BlankRule line name) :
      RuleLine line (.rule (String.ofList name) "")
  | full
      {name body : List Char}
      (h : FullRule line name body) :
      RuleLine line (.rule (String.ofList name) (String.ofList (body.filter (!isBlank ·))))

/-! ### Where a part ends -/

/-- A text that does not begin with a character of this kind. -/
def Avoids (p : Char → Bool) (text : List Char) : Prop :=
  ∀ c, text.head? = some c → p c = false

theorem takeWhile_append_of_avoids
    (hpart : ∀ c ∈ text, p c = true)
    (hrest : Avoids p rest) :
    (text ++ rest).takeWhile p = text := by
  rw [List.takeWhile_append_of_pos hpart, List.takeWhile_eq_nil_iff.2, List.append_nil]
  intro hpos
  have hfirst := hrest _ (List.head?_eq_getElem? ▸ List.getElem?_eq_getElem hpos)
  simp [hfirst]

theorem dropWhile_append_of_avoids
    (hpart : ∀ c ∈ text, p c = true)
    (hrest : Avoids p rest) :
    (text ++ rest).dropWhile p = rest := by
  have hall := List.takeWhile_append_dropWhile (p := p) (l := text ++ rest)
  rw [takeWhile_append_of_avoids hpart hrest] at hall
  exact List.append_cancel_left hall

theorem avoids_dropWhile
    (p : Char → Bool) (text : List Char) :
    Avoids p (text.dropWhile p) := by
  intro c hc
  have hne : text.dropWhile p ≠ [] := by
    rintro hnil
    rw [hnil] at hc
    cases hc
  rw [List.head?_eq_some_head hne] at hc
  rw [← Option.some.inj hc]
  exact Bool.not_eq_true _ ▸ List.head_dropWhile_not p hne

/-! ### Reading a part -/

theorem spaces_iff :
    Spaces text ↔ allBlank text = true :=
  List.all_eq_true.symm

theorem isNameStart_iff :
    isNameStart c = true ↔ StartsName c := by
  have hcodes : 'a'.val = 97 ∧ 'z'.val = 122 ∧ 'A'.val = 65 ∧ 'Z'.val = 90 := by decide
  simp only [isNameStart, StartsName, Char.isAlpha, Char.isUpper, Char.isLower, Bool.or_eq_true,
    Bool.and_eq_true, decide_eq_true_eq, beq_iff_eq, Char.le_def, hcodes, ge_iff_le]
  tauto

theorem isNameChar_iff :
    isNameChar c = true ↔ StartsName c ∨ ('0' ≤ c ∧ c ≤ '9') := by
  have hcodes : '0'.val = 48 ∧ '9'.val = 57 := by decide
  simp only [isNameChar, Char.isDigit, Bool.or_eq_true, isNameStart_iff, Bool.and_eq_true,
    decide_eq_true_eq, Char.le_def, hcodes, ge_iff_le]

theorem isBlank_of_isNameChar
    (h : isNameChar c = true) :
    isBlank c = false := by
  rcases isNameChar_iff.1 h with hstart | ⟨hlow, hhigh⟩
  · exact isBlank_of_isNameStart (isNameStart_iff.2 hstart)
  · have hrange : 0x30 ≤ c.toNat ∧ c.toNat ≤ 0x39 := ⟨hlow, hhigh⟩
    simp only [isBlank, Bool.or_eq_false_iff, Bool.and_eq_false_iff, decide_eq_false_iff_not,
      beq_eq_false_iff_ne]
    omega

theorem dropStart?_eq_some_iff
    {start : List Char} :
    dropStart? start text = some rest ↔ start ++ rest = text := by
  induction start generalizing text with
  | nil =>
      simp [dropStart?, eq_comm]
  | cons c start ih =>
      cases text with
      | nil =>
          simp [dropStart?]
      | cons d text =>
          simp [dropStart?, ih]

theorem sequence_word :
    Sequence (Word word :: Ps) text ↔
      ∃ rest, dropStart? word.toList text = some rest ∧ Sequence Ps rest := by
  simp only [Sequence, Word, dropStart?_eq_some_iff]
  constructor
  · rintro ⟨_, rest, htext, rfl, hrest⟩
    exact ⟨rest, htext, hrest⟩
  · rintro ⟨rest, htext, hrest⟩
    exact ⟨_, rest, htext, rfl, hrest⟩

/-- White space is read up to its end. -/
theorem sequence_spaces
    (hPs : ∀ rest, Sequence Ps rest → Avoids isBlank rest) :
    Sequence (Spaces :: Ps) text ↔ Sequence Ps (dropBlanks text) := by
  constructor
  · rintro ⟨part, rest, rfl, hpart, hrest⟩
    rwa [dropBlanks, dropWhile_append_of_avoids hpart (hPs rest hrest)]
  · intro h
    refine ⟨text.takeWhile isBlank, dropBlanks text, List.takeWhile_append_dropWhile, ?_, h⟩
    exact fun c hc => List.mem_takeWhile_imp hc

theorem sequence_blanks
    (hPs : ∀ rest, Sequence Ps rest → Avoids isBlank rest) :
    Sequence (Blanks :: Ps) text ↔ ∃ rest, afterBlanks? text = some rest ∧ Sequence Ps rest := by
  constructor
  · rintro ⟨part, rest, rfl, ⟨hne, hpart⟩, hrest⟩
    cases part with
    | nil =>
        exact absurd rfl hne
    | cons c part =>
        obtain ⟨hc, hpart⟩ := List.forall_mem_cons.1 hpart
        refine ⟨rest, ?_, hrest⟩
        rw [List.cons_append, afterBlanks?, if_pos hc, dropBlanks,
          dropWhile_append_of_avoids hpart (hPs rest hrest)]
  · rintro ⟨rest, h, hrest⟩
    cases text with
    | nil =>
        cases h
    | cons c text =>
        rw [afterBlanks?, Option.ite_none_right_eq_some, Option.some_inj] at h
        obtain ⟨hc, rfl⟩ := h
        refine ⟨c :: text.takeWhile isBlank, dropBlanks text, ?_, ⟨List.cons_ne_nil _ _, ?_⟩, hrest⟩
        · rw [List.cons_append, dropBlanks, List.takeWhile_append_dropWhile]
        · exact List.forall_mem_cons.2 ⟨hc, fun d hd => List.mem_takeWhile_imp hd⟩

/-- A name is read up to its end. -/
theorem sequence_named
    (hPs : ∀ rest, Sequence Ps rest → Avoids isNameChar rest) :
    Sequence (Named name :: Ps) text ↔ ∃ rest, name? text = some (name, rest) ∧ Sequence Ps rest := by
  constructor
  · rintro ⟨_, rest, rfl, ⟨rfl, c, more, rfl, hc, hmore⟩, hrest⟩
    have hchars : ∀ d ∈ more, isNameChar d = true := fun d hd => isNameChar_iff.2 (hmore d hd)
    have havoids := hPs rest hrest
    refine ⟨rest, ?_, hrest⟩
    rw [List.cons_append, name?, if_pos (isNameStart_iff.2 hc),
      takeWhile_append_of_avoids hchars havoids, dropWhile_append_of_avoids hchars havoids]
  · rintro ⟨rest, h, hrest⟩
    cases text with
    | nil =>
        cases h
    | cons c text =>
        rw [name?, Option.ite_none_right_eq_some, Option.some_inj, Prod.mk.injEq] at h
        obtain ⟨hc, rfl, rfl⟩ := h
        refine ⟨_, _, ?_, ⟨rfl, c, _, rfl, isNameStart_iff.1 hc, fun d hd => ?_⟩, hrest⟩
        · rw [List.cons_append, List.takeWhile_append_dropWhile]
        · exact isNameChar_iff.1 (List.mem_takeWhile_imp hd)

/-! ### Where the next part begins -/

theorem avoids_word
    (word : String)
    (hword : word.toList.head?.any (!p ·) = true) :
    ∀ text, Sequence (Word word :: Ps) text → Avoids p text := by
  rintro _ ⟨_, rest, rfl, rfl, _⟩ d hd
  obtain ⟨c, hc, hp⟩ := (Option.any_eq_true _ _).1 hword
  rw [List.head?_append, hc] at hd
  cases hd
  simpa using hp

theorem avoids_named :
    ∀ text, Sequence (Named name :: Ps) text → Avoids isBlank text := by
  rintro _ ⟨_, rest, rfl, ⟨rfl, c, more, rfl, hc, _⟩, _⟩ d hd
  cases hd
  exact isBlank_of_isNameStart (isNameStart_iff.2 hc)

theorem avoids_valued :
    ∀ text, Sequence (Valued value :: Ps) text → Avoids isBlank text := by
  rintro _ ⟨_, rest, rfl, ⟨⟨c, more, rfl, hc⟩, _⟩, _⟩ d hd
  cases hd
  exact hc

/-- White space does not go on with a name. -/
theorem isNameChar_of_isBlank
    (h : isBlank c = true) :
    isNameChar c = false := by
  by_contra hname
  rw [Bool.not_eq_false] at hname
  rw [isBlank_of_isNameChar hname] at h
  cases h

theorem avoids_blanks :
    ∀ text, Sequence (Blanks :: Ps) text → Avoids isNameChar text := by
  rintro _ ⟨part, rest, rfl, ⟨hne, hpart⟩, _⟩ d hd
  rw [List.head?_append_of_ne_nil _ hne] at hd
  exact isNameChar_of_isBlank (hpart d (List.mem_of_head? hd))

theorem avoids_spaces
    (hPs : ∀ rest, Sequence Ps rest → Avoids isNameChar rest) :
    ∀ text, Sequence (Spaces :: Ps) text → Avoids isNameChar text := by
  rintro _ ⟨part, rest, rfl, hpart, hrest⟩ d hd
  cases part with
  | nil =>
      exact hPs rest hrest d hd
  | cons c part =>
      cases hd
      exact isNameChar_of_isBlank (hpart d List.mem_cons_self)

/-! ### What stands before the semicolon -/

theorem trimmed_iff :
    Trimmed text rest ↔ dropEndBlanks text = rest := by
  have hlast : (∀ c, rest.getLast? = some c → isBlank c = false) ↔ Avoids isBlank rest.reverse := by
    simp only [Avoids, List.head?_reverse]
  constructor
  · rintro ⟨⟨after, rfl, hafter⟩, h⟩
    have hreverse : ∀ c ∈ after.reverse, isBlank c = true :=
      fun c hc => hafter c (List.mem_reverse.1 hc)
    rw [dropEndBlanks, dropEndWhile, List.reverse_append,
      dropWhile_append_of_avoids hreverse (hlast.1 h), List.reverse_reverse]
  · rintro rfl
    refine ⟨⟨(text.reverse.takeWhile isBlank).reverse, ?_, fun c hc => ?_⟩, hlast.2 ?_⟩
    · rw [dropEndBlanks, dropEndWhile, ← List.reverse_append, List.takeWhile_append_dropWhile,
        List.reverse_reverse]
    · exact List.mem_takeWhile_imp (List.mem_reverse.1 hc)
    · rw [dropEndBlanks, dropEndWhile, List.reverse_reverse]
      exact avoids_dropWhile _ _

theorem closedValue?_eq_some_iff :
    closedValue? text = some value ↔
      ∃ before, Trimmed text (before ++ [';']) ∧ before ≠ [] ∧ Trimmed before value := by
  simp only [trimmed_iff, closedValue?]
  constructor
  · intro h
    split at h
    · rename_i c rest hreverse
      cases h
      have htrimmed := congrArg List.reverse hreverse
      rw [List.reverse_reverse, List.reverse_cons] at htrimmed
      exact ⟨(c :: rest).reverse, htrimmed, by simp, rfl⟩
    · cases h
  · rintro ⟨before, htrimmed, hne, rfl⟩
    rw [htrimmed, List.reverse_append, List.reverse_singleton, List.singleton_append]
    cases hreverse : before.reverse with
    | nil =>
        exact absurd (List.reverse_eq_nil_iff.1 hreverse) hne
    | cons c rest =>
        change some (dropEndBlanks (c :: rest).reverse) = _
        rw [← hreverse, List.reverse_reverse]

/-- A value is what is read after the white space before it. -/
theorem sequence_blanks_valued :
    Sequence [Blanks, Valued value] text ↔
      ∃ rest, afterBlanks? text = some rest ∧ closedValue? rest = some value := by
  rw [sequence_blanks avoids_valued]
  refine exists_congr fun rest => and_congr_right fun hrest => ?_
  rw [closedValue?_eq_some_iff]
  constructor
  · rintro ⟨part, more, rfl, ⟨_, h⟩, rfl⟩
    rwa [List.append_nil]
  · intro h
    refine ⟨rest, [], List.append_nil rest, ⟨?_, h⟩, rfl⟩
    have havoids : Avoids isBlank rest := by
      cases text with
      | nil =>
          cases hrest
      | cons c text =>
          rw [afterBlanks?, Option.ite_none_right_eq_some, Option.some_inj] at hrest
          rw [← hrest.2]
          exact avoids_dropWhile _ _
    obtain ⟨before, ⟨⟨after, htext, _⟩, _⟩, _, _⟩ := h
    cases rest with
    | nil =>
        simp at htext
    | cons c rest =>
        exact ⟨c, rest, rfl, havoids c rfl⟩

theorem sequence_last_spaces :
    Sequence [Spaces] text ↔ allBlank text = true := by
  rw [← spaces_iff]
  constructor
  · rintro ⟨part, rest, rfl, hpart, rfl⟩
    rwa [List.append_nil]
  · exact fun h => ⟨text, [], List.append_nil text, h, rfl⟩

theorem sequence_closed :
    Sequence [Spaces, Word ";", Spaces] text ↔ isClosed text = true := by
  rw [sequence_spaces (avoids_word ";" (by decide)), sequence_word]
  simp only [dropStart?_eq_some_iff, sequence_last_spaces]
  rw [isClosed]
  constructor
  · rintro ⟨rest, hrest, hblank⟩
    rw [← hrest]
    exact hblank
  · intro h
    split at h
    · rename_i rest hrest
      exact ⟨rest, hrest.symm, h⟩
    · cases h

theorem sequence_closed_name :
    Sequence [Named name, Spaces, Word ";", Spaces] text ↔
      ∃ rest, name? text = some (name, rest) ∧ isClosed rest = true := by
  rw [sequence_named (avoids_spaces (avoids_word ";" (by decide)))]
  simp only [sequence_closed]

theorem closedName?_eq_some_iff
    {s : String} :
    closedName? text = some s ↔
      ∃ name, s = String.ofList name ∧ Sequence [Named name, Spaces, Word ";", Spaces] text := by
  simp only [sequence_closed_name, closedName?]
  cases name? text with
  | none =>
      simp
  | some found =>
      obtain ⟨name, rest⟩ := found
      simp only [Option.ite_none_right_eq_some, Option.some_inj, Prod.mk.injEq]
      constructor
      · rintro ⟨hclosed, rfl⟩
        exact ⟨name, rfl, rest, ⟨rfl, rfl⟩, hclosed⟩
      · rintro ⟨_, rfl, _, ⟨rfl, rfl⟩, hclosed⟩
        exact ⟨hclosed, rfl⟩

/-! ### Symbol lines -/

/-- A keyword is read with the white space behind it. -/
theorem sequence_keyword
    (hPs : ∀ rest, Sequence Ps rest → Avoids isBlank rest) :
    Sequence (Word word :: Blanks :: Ps) text ↔
      ∃ rest, afterWord? word text = some rest ∧ Sequence Ps rest := by
  simp only [sequence_word, sequence_blanks hPs, afterWord?, Option.bind_eq_some_iff]
  constructor
  · rintro ⟨rest, hword, rest', hblanks, h⟩
    exact ⟨rest', ⟨rest, hword, hblanks⟩, h⟩
  · rintro ⟨rest', ⟨rest, hword, hblanks⟩, h⟩
    exact ⟨rest, hword, rest', hblanks, h⟩

theorem sequence_keyword_valued :
    Sequence [Word word, Blanks, Valued value] text ↔
      ∃ rest, afterWord? word text = some rest ∧ closedValue? rest = some value := by
  simp only [sequence_word, sequence_blanks_valued, afterWord?, Option.bind_eq_some_iff]
  constructor
  · rintro ⟨rest, hword, rest', hblanks, h⟩
    exact ⟨rest', ⟨rest, hword, hblanks⟩, h⟩
  · rintro ⟨rest', ⟨rest, hword, hblanks⟩, h⟩
    exact ⟨rest, hword, rest', hblanks, h⟩

theorem terminalLine?_eq_some_iff :
    terminalLine? line = some d ↔
      ∃ name pattern, d = .terminal (String.ofList name) (String.ofList pattern) ∧
        Sequence [Spaces, Word "terminal", Blanks, Named name, Blanks, Valued pattern] line := by
  simp only [sequence_spaces (avoids_word "terminal" (by decide)), sequence_keyword avoids_named,
    sequence_named avoids_blanks, sequence_blanks_valued, terminalLine?, Option.bind_eq_bind,
    Option.bind_eq_some_iff, Option.pure_def, Option.some_inj, Prod.exists]
  constructor
  · rintro ⟨rest, hword, name, rest', hname, behind, hblanks, pattern, hvalue, rfl⟩
    exact ⟨name, pattern, rfl, rest, hword, rest', hname, behind, hblanks, hvalue⟩
  · rintro ⟨name, pattern, rfl, rest, hword, rest', hname, behind, hblanks, hvalue⟩
    exact ⟨rest, hword, name, rest', hname, behind, hblanks, pattern, hvalue, rfl⟩

theorem nonterminalLine?_eq_some_iff :
    nonterminalLine? line = some d ↔
      ∃ name, d = .nonterminal (String.ofList name) ∧
        Sequence [Spaces, Word "no", Blanks, Word "terminal", Blanks, Named name, Spaces, Word ";",
          Spaces] line := by
  simp only [sequence_spaces (avoids_word "no" (by decide)),
    sequence_keyword (avoids_word "terminal" (by decide)), sequence_keyword avoids_named,
    nonterminalLine?, Option.bind_eq_bind, Option.bind_eq_some_iff, Option.pure_def, Option.some_inj,
    closedName?_eq_some_iff]
  constructor
  · rintro ⟨rest, hno, rest', hterminal, _, ⟨name, rfl, hname⟩, rfl⟩
    exact ⟨name, rfl, rest, hno, rest', hterminal, hname⟩
  · rintro ⟨name, rfl, rest, hno, rest', hterminal, hname⟩
    exact ⟨rest, hno, rest', hterminal, _, ⟨name, rfl, hname⟩, rfl⟩

theorem startLine?_eq_some_iff :
    startLine? line = some d ↔
      ∃ name, d = .start (String.ofList name) ∧
        Sequence [Spaces, Word "start", Blanks, Word "with", Blanks, Named name, Spaces, Word ";",
          Spaces] line := by
  simp only [sequence_spaces (avoids_word "start" (by decide)),
    sequence_keyword (avoids_word "with" (by decide)), sequence_keyword avoids_named, startLine?,
    Option.bind_eq_bind, Option.bind_eq_some_iff, Option.pure_def, Option.some_inj,
    closedName?_eq_some_iff]
  constructor
  · rintro ⟨rest, hstart, rest', hwith, _, ⟨name, rfl, hname⟩, rfl⟩
    exact ⟨name, rfl, rest, hstart, rest', hwith, hname⟩
  · rintro ⟨name, rfl, rest, hstart, rest', hwith, hname⟩
    exact ⟨rest, hstart, rest', hwith, _, ⟨name, rfl, hname⟩, rfl⟩

theorem endMarkerLine?_eq_some_iff :
    endMarkerLine? line = some d ↔
      ∃ value, d = .endMarker (String.ofList value) ∧
        Sequence [Spaces, Word "set", Blanks, Word "EOL", Blanks, Word "char", Blanks, Valued value]
          line := by
  simp only [sequence_spaces (avoids_word "set" (by decide)),
    sequence_keyword (avoids_word "EOL" (by decide)), sequence_keyword (avoids_word "char" (by decide)),
    sequence_keyword_valued, endMarkerLine?, Option.bind_eq_bind, Option.bind_eq_some_iff,
    Option.pure_def, Option.some_inj]
  constructor
  · rintro ⟨rest, hset, rest', hEOL, behind, hchar, value, hvalue, rfl⟩
    exact ⟨value, rfl, rest, hset, rest', hEOL, behind, hchar, hvalue⟩
  · rintro ⟨value, rfl, rest, hset, rest', hEOL, behind, hchar, hvalue⟩
    exact ⟨rest, hset, rest', hEOL, behind, hchar, value, hvalue, rfl⟩

/-- The word that a symbol line begins with. -/
def keyword : Declaration → String
  | .terminal _ _ => "terminal"
  | .nonterminal _ => "no"
  | .start _ => "start"
  | .endMarker _ => "set"
  | .rule _ _ => ""

/-- The first word of a line is what stands before its first white space. -/
theorem takeWhile_of_sequence
    (hword : word.toList.head?.any (!isBlank ·) = true)
    (hchars : word.toList.all (!isBlank ·) = true)
    (h : Sequence (Spaces :: Word word :: Blanks :: Ps) line) :
    (dropBlanks line).takeWhile (!isBlank ·) = word.toList := by
  rw [sequence_spaces (avoids_word word hword)] at h
  obtain ⟨_, rest, hrest, rfl, part, more, rfl, ⟨hne, hpart⟩, _⟩ := h
  rw [← hrest, takeWhile_append_of_avoids]
  · exact List.all_eq_true.1 hchars
  · intro c hc
    rw [List.head?_append_of_ne_nil _ hne] at hc
    simp [hpart c (List.mem_of_head? hc)]

theorem SymbolLine.takeWhile_eq
    (h : SymbolLine line d) :
    (dropBlanks line).takeWhile (!isBlank ·) = d.keyword.toList := by
  cases h with
  | terminal h | nonterminal h | start h | endMarker h =>
      dsimp only [keyword]
      exact takeWhile_of_sequence (by decide) (by decide) h

/-- The readers of the forms of a symbol line. -/
def symbolReaders : List (List Char → Option Declaration) :=
  [terminalLine?, nonterminalLine?, startLine?, endMarkerLine?]

theorem symbolLine_iff :
    SymbolLine line d ↔ ∃ read ∈ symbolReaders, read line = some d := by
  simp only [symbolReaders, List.mem_cons, List.not_mem_nil, or_false, exists_eq_or_imp,
    exists_eq_left, terminalLine?_eq_some_iff, nonterminalLine?_eq_some_iff, startLine?_eq_some_iff,
    endMarkerLine?_eq_some_iff]
  constructor
  · rintro (h | h | h | h)
    · exact Or.inl ⟨_, _, rfl, h⟩
    · exact Or.inr (Or.inl ⟨_, rfl, h⟩)
    · exact Or.inr (Or.inr (Or.inl ⟨_, rfl, h⟩))
    · exact Or.inr (Or.inr (Or.inr ⟨_, rfl, h⟩))
  · rintro (⟨_, _, rfl, h⟩ | ⟨_, rfl, h⟩ | ⟨_, rfl, h⟩ | ⟨_, rfl, h⟩)
    · exact .terminal h
    · exact .nonterminal h
    · exact .start h
    · exact .endMarker h

/-- A symbol line has one form, and it can be read in this form in one way. -/
theorem SymbolLine.unique
    (h : SymbolLine line d)
    (h' : SymbolLine line d') :
    d = d' := by
  have hkeyword : d.keyword.toList = d'.keyword.toList := h.takeWhile_eq.symm.trans h'.takeWhile_eq
  cases h with
  | terminal h =>
      cases h' with
      | terminal h' =>
          have hread := terminalLine?_eq_some_iff.2 ⟨_, _, rfl, h⟩
          exact Option.some.inj (hread.symm.trans (terminalLine?_eq_some_iff.2 ⟨_, _, rfl, h'⟩))
      | nonterminal | start | endMarker =>
          exact absurd hkeyword (by simp [keyword])
  | nonterminal h =>
      cases h' with
      | nonterminal h' =>
          have hread := nonterminalLine?_eq_some_iff.2 ⟨_, rfl, h⟩
          exact Option.some.inj (hread.symm.trans (nonterminalLine?_eq_some_iff.2 ⟨_, rfl, h'⟩))
      | terminal | start | endMarker =>
          exact absurd hkeyword (by simp [keyword])
  | start h =>
      cases h' with
      | start h' =>
          have hread := startLine?_eq_some_iff.2 ⟨_, rfl, h⟩
          exact Option.some.inj (hread.symm.trans (startLine?_eq_some_iff.2 ⟨_, rfl, h'⟩))
      | terminal | nonterminal | endMarker =>
          exact absurd hkeyword (by simp [keyword])
  | endMarker h =>
      cases h' with
      | endMarker h' =>
          have hread := endMarkerLine?_eq_some_iff.2 ⟨_, rfl, h⟩
          exact Option.some.inj (hread.symm.trans (endMarkerLine?_eq_some_iff.2 ⟨_, rfl, h'⟩))
      | terminal | nonterminal | start =>
          exact absurd hkeyword (by simp [keyword])

/-- The readers may be tried in any order. -/
theorem findSome?_readers_eq_some_iff
    {readers : List (List Char → Option Declaration)}
    (hreaders : readers.Perm symbolReaders) :
    readers.findSome? (fun read => read line) = some d ↔ SymbolLine line d := by
  have hline : ∀ {d}, SymbolLine line d ↔ ∃ read ∈ readers, read line = some d := by
    intro d
    simp only [symbolLine_iff, hreaders.mem_iff]
  constructor
  · intro h
    exact hline.2 (List.exists_of_findSome?_eq_some h)
  · intro h
    obtain ⟨read, hmem, hread⟩ := hline.1 h
    have hsome : (readers.findSome? fun read => read line).isSome = true :=
      List.findSome?_isSome_iff.2 ⟨read, hmem, by rw [hread]; rfl⟩
    obtain ⟨d', hd'⟩ := Option.isSome_iff_exists.1 hsome
    rw [hd', h.unique (hline.2 (List.exists_of_findSome?_eq_some hd'))]

theorem findSome?_symbolReaders
    (line : List Char) :
    symbolReaders.findSome? (fun read => read line) = ofSymbolLine? line := by
  simp only [symbolReaders, List.findSome?_cons, List.findSome?_nil, ofSymbolLine?]
  cases terminalLine? line <;> cases nonterminalLine? line <;> cases startLine? line <;>
    cases endMarkerLine? line <;> rfl

theorem ofSymbolLine?_eq_some_iff :
    ofSymbolLine? line = some d ↔ SymbolLine line d := by
  rw [← findSome?_symbolReaders, findSome?_readers_eq_some_iff (List.Perm.refl _)]

/-! ### Rule lines -/

/-- What stands before the body of a rule is read in one way. -/
theorem sequence_rule
    (name : List Char) (Ps : List (List Char → Prop)) (line : List Char) :
    Sequence (Spaces :: Named name :: Spaces :: Word "->" :: Ps) line ↔
      ∃ rest behind, name? (dropBlanks line) = some (name, rest) ∧
        dropStart? "->".toList (dropBlanks rest) = some behind ∧ Sequence Ps behind := by
  have harrow : "->".toList.head?.any (!isNameChar ·) = true ∧
      "->".toList.head?.any (!isBlank ·) = true := by decide
  simp only [sequence_spaces avoids_named, sequence_named (avoids_spaces (avoids_word "->" harrow.1)),
    sequence_spaces (avoids_word "->" harrow.2), sequence_word]
  constructor
  · rintro ⟨rest, hname, behind, harrow, h⟩
    exact ⟨rest, behind, hname, harrow, h⟩
  · rintro ⟨rest, behind, hname, harrow, h⟩
    exact ⟨rest, hname, behind, harrow, h⟩

/-- A body is read up to the first semicolon, which nothing but white space may follow. -/
theorem sequence_body :
    Sequence [Body body, Word ";", Spaces] text ↔
      text.takeWhile (· != ';') = body ∧
        ∃ rest, text.dropWhile (· != ';') = ';' :: rest ∧ allBlank rest = true := by
  constructor
  · rintro ⟨part, _, rfl, ⟨rfl, hbody⟩, _, rest, rfl, rfl, h⟩
    have hchars : ∀ c ∈ part, (c != ';') = true := by
      intro c hc
      rw [bne_iff_ne]
      rintro rfl
      exact hbody hc
    have havoids : Avoids (· != ';') (";".toList ++ rest) := by
      intro c hc
      cases hc
      rfl
    rw [takeWhile_append_of_avoids hchars havoids, dropWhile_append_of_avoids hchars havoids]
    exact ⟨rfl, rest, rfl, sequence_last_spaces.1 h⟩
  · rintro ⟨rfl, rest, hrest, hblank⟩
    refine ⟨_, ';' :: rest, ?_, ⟨rfl, fun hmem => ?_⟩, [';'], rest, rfl, rfl,
      sequence_last_spaces.2 hblank⟩
    · rw [← hrest, List.takeWhile_append_dropWhile]
    · exact absurd (List.mem_takeWhile_imp hmem) (by decide)

/-- White space before a body belongs to it as well as not. -/
theorem sequence_spaces_body :
    Sequence [Spaces, Body body, Word ";", Spaces] text ↔
      ∃ blanks, Spaces blanks ∧ Sequence [Body (blanks ++ body), Word ";", Spaces] text := by
  constructor
  · rintro ⟨blanks, _, rfl, hblanks, _, rest, rfl, ⟨rfl, hbody⟩, h⟩
    refine ⟨blanks, hblanks, _, rest, List.append_assoc _ _ _, ⟨rfl, fun hmem => ?_⟩, h⟩
    rcases List.mem_append.1 hmem with hmem | hmem
    · exact absurd (hblanks _ hmem) (by decide)
    · exact hbody hmem
  · rintro ⟨blanks, hblanks, _, rest, rfl, ⟨rfl, hbody⟩, h⟩
    refine ⟨blanks, body ++ rest, (List.append_assoc _ _ _).symm, hblanks, body, rest, rfl,
      ⟨rfl, fun hmem => hbody (List.mem_append_right _ hmem)⟩, h⟩

theorem sequence_spaces_closed :
    Sequence [Spaces, Word ";", Spaces] text ↔
      ∃ blanks, Spaces blanks ∧ Sequence [Body blanks, Word ";", Spaces] text := by
  constructor
  · rintro ⟨blanks, rest, rfl, hblanks, h⟩
    refine ⟨blanks, hblanks, blanks, rest, rfl, ⟨rfl, fun hmem => ?_⟩, h⟩
    exact absurd (hblanks _ hmem) (by decide)
  · rintro ⟨blanks, hblanks, _, rest, rfl, ⟨rfl, _⟩, h⟩
    exact ⟨_, rest, rfl, hblanks, h⟩

theorem AnyRule.unique
    {name' body' : List Char}
    (h : AnyRule line name body)
    (h' : AnyRule line name' body') :
    name = name' ∧ body = body' := by
  obtain ⟨rest, behind, hname, harrow, hbody⟩ := (sequence_rule _ _ _).1 h
  obtain ⟨rest', behind', hname', harrow', hbody'⟩ := (sequence_rule _ _ _).1 h'
  rw [hname] at hname'
  cases hname'
  rw [harrow] at harrow'
  cases harrow'
  exact ⟨rfl, (sequence_body.1 hbody).1.symm.trans (sequence_body.1 hbody').1⟩

theorem blankRule_iff :
    BlankRule line name ↔ ∃ body, Spaces body ∧ AnyRule line name body := by
  simp only [BlankRule, AnyRule, sequence_rule, sequence_spaces_closed]
  constructor
  · rintro ⟨rest, behind, hname, harrow, blanks, hblanks, h⟩
    exact ⟨blanks, hblanks, rest, behind, hname, harrow, h⟩
  · rintro ⟨blanks, hblanks, rest, behind, hname, harrow, h⟩
    exact ⟨rest, behind, hname, harrow, blanks, hblanks, h⟩

theorem fullRule_iff :
    FullRule line name body ↔
      body ≠ [] ∧ ∃ blanks, Spaces blanks ∧ AnyRule line name (blanks ++ body) := by
  simp only [FullRule, AnyRule, sequence_rule, sequence_spaces_body]
  refine and_congr_right fun _ => ?_
  constructor
  · rintro ⟨rest, behind, hname, harrow, blanks, hblanks, h⟩
    exact ⟨blanks, hblanks, rest, behind, hname, harrow, h⟩
  · rintro ⟨blanks, hblanks, rest, behind, hname, harrow, h⟩
    exact ⟨rest, behind, hname, harrow, blanks, hblanks, h⟩

theorem filter_of_spaces
    (h : Spaces text) :
    text.filter (!isBlank ·) = [] := by
  rw [List.filter_eq_nil_iff]
  exact fun c hc => by simp [h c hc]

theorem ruleLine_iff :
    RuleLine line d ↔
      ∃ name body, d = .rule (String.ofList name) (String.ofList (body.filter (!isBlank ·))) ∧
        AnyRule line name body := by
  constructor
  · rintro (h | h)
    · obtain ⟨body, hblank, h⟩ := blankRule_iff.1 h
      exact ⟨_, body, by rw [filter_of_spaces hblank], h⟩
    · obtain ⟨_, blanks, hblanks, h⟩ := fullRule_iff.1 h
      exact ⟨_, _, by rw [List.filter_append, filter_of_spaces hblanks, List.nil_append], h⟩
  · rintro ⟨name, body, rfl, h⟩
    by_cases hblank : Spaces body
    · rw [filter_of_spaces hblank]
      exact .blank (blankRule_iff.2 ⟨body, hblank, h⟩)
    · have hne : body ≠ [] := by
        rintro rfl
        exact hblank fun c hc => by cases hc
      exact .full (fullRule_iff.2 ⟨hne, [], fun c hc => (by cases hc), h⟩)

theorem ofRuleLine?_eq_some_iff :
    ofRuleLine? line = some d ↔
      ∃ name body, d = .rule (String.ofList name) (String.ofList (body.filter (!isBlank ·))) ∧
        AnyRule line name body := by
  simp only [AnyRule, sequence_rule, sequence_body, ofRuleLine?, Option.bind_eq_bind,
    Option.bind_eq_some_iff, Prod.exists]
  constructor
  · rintro ⟨name, rest, hname, behind, harrow, h⟩
    split at h
    · rename_i c more hmore
      rw [Option.ite_none_right_eq_some] at h
      obtain ⟨hblank, hd⟩ := h
      have hc : c = ';' := by
        have havoids := avoids_dropWhile (· != ';') behind c
        rw [hmore] at havoids
        simpa using havoids rfl
      subst hc
      exact ⟨name, _, (Option.some.inj hd).symm, rest, behind, hname, harrow, rfl, more, hmore,
        hblank⟩
    · cases h
  · rintro ⟨name, _, rfl, rest, behind, hname, harrow, rfl, more, hmore, hblank⟩
    refine ⟨name, rest, hname, behind, harrow, ?_⟩
    rw [hmore]
    simp [hblank]

/-- The two forms of a rule line fit the same line only if the body is blank, and then it is the same
rule in both. -/
theorem BlankRule.overlap
    {name' : List Char}
    (h : BlankRule line name)
    (h' : FullRule line name' body) :
    name = name' ∧ Spaces body := by
  obtain ⟨blank, hblank, h⟩ := blankRule_iff.1 h
  obtain ⟨_, blanks, _, h'⟩ := fullRule_iff.1 h'
  obtain ⟨hname, rfl⟩ := h.unique h'
  exact ⟨hname, fun c hc => hblank c (List.mem_append_right _ hc)⟩

end

/-- **Lines of declarations.**  A symbol line declares what one of its forms says.  It has one form at
most and can be read in one way only, so the forms may be tried in any order.  A rule line is a name,
an arrow and a body without a semicolon, closed by a semicolon, with white space between these parts or
none; it gives the name a right-hand side, which is the body without its white space.  The form for a
blank body and the form for others fit the same line only if the body is blank, and the rule is the
same in both. -/
theorem lines_read_exactly
    (line : List Char) :
    (∀ d, ofSymbolLine? line = some d ↔ SymbolLine line d) ∧
    (∀ d d', SymbolLine line d → SymbolLine line d' → d = d') ∧
    (∀ readers : List (List Char → Option Declaration), readers.Perm symbolReaders →
      readers.findSome? (fun read => read line) = ofSymbolLine? line) ∧
    (∀ d, ofRuleLine? line = some d ↔
      ∃ name body, d = .rule (String.ofList name) (String.ofList (body.filter (!isBlank ·))) ∧
        AnyRule line name body) ∧
    (∀ d, ofRuleLine? line = some d ↔ RuleLine line d) ∧
    ∀ name name' body, BlankRule line name → FullRule line name' body →
      name = name' ∧ Spaces body := by
  refine ⟨fun d => ofSymbolLine?_eq_some_iff, fun d d' h h' => h.unique h', fun readers h => ?_,
    fun d => ofRuleLine?_eq_some_iff, fun d => ?_, fun name name' body h h' => h.overlap h'⟩
  · refine Option.ext fun d => ?_
    rw [findSome?_readers_eq_some_iff h, ofSymbolLine?_eq_some_iff]
  · rw [ofRuleLine?_eq_some_iff, ruleLine_iff]

/-- A line with `->` and two blanks has both forms of a rule line, with the same name.  A symbol line
in which a keyword is a name is found by its own reader also when the others are tried first. -/
theorem lines_read_exactly_blank :
    (['A'] = ['A'] ∧ Spaces [' ']) ∧
      symbolReaders.reverse.findSome? (fun read => read "terminal no x;".toList) =
        some (.terminal "no" "x") := by
  constructor
  · obtain ⟨_, _, _, _, _, hoverlap⟩ := lines_read_exactly "A ->  ;".toList
    have hany : AnyRule "A ->  ;".toList ['A'] [' ', ' '] :=
      (sequence_rule _ _ _).2 ⟨_, _, rfl, rfl, sequence_body.2 ⟨rfl, _, rfl, rfl⟩⟩
    exact hoverlap ['A'] ['A'] [' '] (blankRule_iff.2 ⟨_, spaces_iff.2 rfl, hany⟩)
      (fullRule_iff.2 ⟨List.cons_ne_nil _ _, [' '], spaces_iff.2 rfl, hany⟩)
  · obtain ⟨_, _, hperm, _⟩ := lines_read_exactly "terminal no x;".toList
    rw [hperm _ (List.reverse_perm _)]
    decide +kernel

/-- A keyword can be a name, and semicolons before the last one belong to the pattern. -/
example :
    ofSymbolLine? "terminal no ; terminal ; ".toList = some (.terminal "no" "; terminal") := by
  decide +kernel

end Declaration
end PredictiveParsing
