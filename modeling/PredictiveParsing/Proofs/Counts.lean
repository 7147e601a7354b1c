import PredictiveParsing.Pattern.Meaning
import PredictiveParsing.Proofs.Matching

/-!
# The counts in a pattern are in order

A pattern whose repetition asks for more times than it allows is not read, so that the counts in every
tree that is read are in order (`inOrder_of_read?`), and so are those in the regular expression of a
pattern (`inOrder_of_compile`).
-/

namespace PredictiveParsing
namespace Pattern

mutual

/-- Whether no repetition in the tree asks for more times than it allows. -/
def Tree.InOrder : Tree → Prop
  | .group _ body => body.InOrder
  | .repetition body least most => (∀ m ∈ most, least ≤ m) ∧ body.InOrder
  | .concat parts => Tree.AllInOrder parts
  | .alternation branches => Tree.AllInOrder branches
  | _ => True

/-- The same for each of several trees. -/
def Tree.AllInOrder : List Tree → Prop
  | [] => True
  | tree :: trees => tree.InOrder ∧ Tree.AllInOrder trees

end

/-- The counts in all that is read so far are in order. -/
structure Progress.InOrder (p : Progress) : Prop where
  parts : ∀ part ∈ p.parts, part.InOrder
  branches : ∀ branch ∈ p.branches, branch.InOrder
  outer : ∀ group ∈ p.outer,
    (∀ part ∈ group.parts, part.InOrder) ∧ ∀ branch ∈ group.branches, branch.InOrder

section

variable {p p' : Progress} {tree : Tree} {trees : List Tree} {ignoreBlanks : Bool}
  {text rest : List Char}

/-! ### Trees -/

theorem Tree.allInOrder_iff :
    Tree.AllInOrder trees ↔ ∀ tree ∈ trees, tree.InOrder := by
  induction trees with
  | nil =>
      simp [Tree.AllInOrder]
  | cons tree trees ih =>
      simp [Tree.AllInOrder, ih]

theorem Tree.inOrder_ofParts
    (h : ∀ tree ∈ trees, tree.InOrder) :
    (Tree.ofParts trees).InOrder := by
  unfold Tree.ofParts
  split
  · trivial
  · exact h _ List.mem_cons_self
  · exact Tree.allInOrder_iff.2 h

theorem Tree.inOrder_ofBranches
    (h : ∀ tree ∈ trees, tree.InOrder) :
    (Tree.ofBranches trees).InOrder := by
  unfold Tree.ofBranches
  split
  · exact h _ List.mem_cons_self
  · exact Tree.allInOrder_iff.2 h

/-! ### What is read between repetitions -/

/-- No escape is a repetition. -/
theorem inOrder_of_escape
    (h : escape ignoreBlanks text = some (tree, rest)) :
    tree.InOrder := by
  cases text with
  | nil =>
      cases h
  | cons c text =>
      unfold escape at h
      dsimp only at h
      split at h
      -- a letter gives its tree at once or after what it reads, and any other sign gives itself
      all_goals
        first
          | cases h
            trivial
          | obtain ⟨found, _, h⟩ := Option.map_eq_some_iff.1 h
            cases h
            trivial
          | split at h
            · cases h
              trivial
            · cases h

theorem inOrder_of_classFrom
    {steps : Nat} {inner : OpenClass} {outer : List OpenClass}
    (h : classFrom ignoreBlanks steps inner outer text = some (tree, rest)) :
    tree.InOrder := by
  induction steps generalizing inner outer text with
  | zero =>
      cases h
  | succ steps ih =>
      rw [classFrom] at h
      split at h
      · cases h
      · split at h
        · exact ih h
        · obtain ⟨opened, _, h⟩ := Option.bind_eq_some_iff.1 h
          exact ih h
      · split at h
        · cases h
          trivial
        · exact ih h
      · exact ih h
      · exact ih h
      · exact ih h
      · obtain ⟨item, _, h⟩ := Option.bind_eq_some_iff.1 h
        exact ih h

theorem inOrder_of_readClass
    (h : readClass ignoreBlanks text = some (tree, rest)) :
    tree.InOrder := by
  obtain ⟨opened, _, h⟩ := Option.bind_eq_some_iff.1 h
  exact inOrder_of_classFrom h

/-- Counts in the wrong order are not read. -/
theorem le_of_counts
    {least : Nat} {most : Option Nat}
    (h : counts ignoreBlanks text = some ((least, most), rest)) :
    ∀ m ∈ most, least ≤ m := by
  obtain ⟨least', _, h⟩ := Option.bind_eq_some_iff.1 h
  dsimp only at h
  split at h
  · split at h
    · cases h
      rintro m ⟨⟩
    · obtain ⟨most', _, h⟩ := Option.bind_eq_some_iff.1 h
      split at h
      · rename_i hle
        split at h
        · cases h
          rintro m ⟨⟩
          exact hle
        · cases h
      · cases h
  · split at h
    · cases h
      rintro m ⟨⟩
      exact le_rfl
    · cases h

/-! ### All that is read so far -/

namespace Progress.InOrder

theorem start :
    Progress.start.InOrder where
  parts := by simp [Progress.start]
  branches := by simp [Progress.start]
  outer := by simp [Progress.start]

theorem add
    (h : p.InOrder)
    (htree : tree.InOrder) :
    (p.add tree).InOrder where
  parts := List.forall_mem_cons.2 ⟨htree, h.parts⟩
  branches := h.branches
  outer := h.outer

theorem branch
    (h : p.InOrder) :
    p.branch.InOrder where
  parts := by simp [Progress.branch]
  branches :=
    List.forall_mem_cons.2 ⟨Tree.inOrder_ofParts (by simpa using h.parts), h.branches⟩
  outer := h.outer

theorem body
    (h : p.InOrder) :
    p.body.InOrder := by
  exact Tree.inOrder_ofBranches fun tree htree => h.branch.branches tree (List.mem_reverse.1 htree)

theorem openGroup
    (h : p.InOrder) (change : FlagChange) :
    (p.openGroup change).InOrder where
  parts := by simp [Progress.openGroup]
  branches := by simp [Progress.openGroup]
  outer := List.forall_mem_cons.2 ⟨⟨h.parts, h.branches⟩, h.outer⟩

theorem closeGroup
    (h : p.InOrder)
    (hclose : p.closeGroup? = some p') :
    p'.InOrder := by
  unfold Progress.closeGroup? at hclose
  split at hclose
  · cases hclose
  · rename_i group outer houter
    cases hclose
    have hgroups := List.forall_mem_cons.1 (houter ▸ h.outer)
    exact
      { parts := List.forall_mem_cons.2 ⟨h.body, hgroups.1.1⟩
        branches := hgroups.1.2
        outer := hgroups.2 }

theorem repeatLast
    {least : Nat} {most : Option Nat}
    (h : p.InOrder)
    (hcounts : ∀ m ∈ most, least ≤ m)
    (hrepeat : p.repeatLast? least most = some p') :
    p'.InOrder := by
  unfold Progress.repeatLast? at hrepeat
  split at hrepeat
  · cases hrepeat
  · cases hrepeat
  · rename_i part parts _ hparts
    cases hrepeat
    have hall := List.forall_mem_cons.1 (hparts ▸ h.parts)
    exact
      { parts := List.forall_mem_cons.2 ⟨⟨hcounts, hall.1⟩, hall.2⟩
        branches := h.branches
        outer := h.outer }

theorem startGroup
    {group : GroupStart}
    (h : p.InOrder)
    (hstart : p.start? group = some p') :
    p'.InOrder := by
  unfold Progress.start? at hstart
  split at hstart
  · cases hstart
    exact h.openGroup []
  · split at hstart
    · cases hstart
    · rename_i name _
      cases hstart
      have hnamed : { p with names := name :: p.names }.InOrder := ⟨h.parts, h.branches, h.outer⟩
      exact hnamed.openGroup []
  · cases hstart
    exact h.openGroup _
  · cases hstart
    exact ⟨List.forall_mem_cons.2 ⟨trivial, h.parts⟩, h.branches, h.outer⟩

end Progress.InOrder

/-! ### Patterns -/

theorem inOrder_of_readFrom
    {steps : Nat}
    (h : readFrom steps p text = some tree)
    (hp : p.InOrder) :
    tree.InOrder := by
  induction steps generalizing p text with
  | zero =>
      cases h
  | succ steps ih =>
      have hrepeat {least : Nat} {most : Option Nat} {text : List Char}
          (hcounts : ∀ m ∈ most, least ≤ m)
          (h : (p.repeatLast? least most).bind (fun p => readFrom steps p text) = some tree) :
          tree.InOrder := by
        obtain ⟨q, hq, h⟩ := Option.bind_eq_some_iff.1 h
        exact ih h (hp.repeatLast hcounts hq)
      rw [readFrom] at h
      split at h
      · split at h
        · cases h
          exact hp.body
        · cases h
      · obtain ⟨⟨group, rest⟩, _, h⟩ := Option.bind_eq_some_iff.1 h
        obtain ⟨q, hq, h⟩ := Option.bind_eq_some_iff.1 h
        exact ih h (hp.startGroup hq)
      · obtain ⟨q, hq, h⟩ := Option.bind_eq_some_iff.1 h
        exact ih h (hp.closeGroup hq)
      · exact ih h hp.branch
      · obtain ⟨⟨class', rest⟩, hclass, h⟩ := Option.bind_eq_some_iff.1 h
        exact ih h (hp.add (inOrder_of_readClass hclass))
      · exact hrepeat (by simp) h
      · exact hrepeat (by simp) h
      · exact hrepeat (by simp) h
      · obtain ⟨⟨⟨least, most⟩, rest⟩, hcounts, h⟩ := Option.bind_eq_some_iff.1 h
        exact hrepeat (le_of_counts hcounts) h
      · obtain ⟨⟨escaped, rest⟩, hescape, h⟩ := Option.bind_eq_some_iff.1 h
        exact ih h (hp.add (inOrder_of_escape hescape))
      -- the dot, both assertions and a literal
      all_goals exact ih h (hp.add trivial)

theorem inOrder_of_read?
    (h : Tree.read? text = some tree) :
    tree.InOrder := by
  obtain ⟨tree', hread, h⟩ := Option.bind_eq_some_iff.1 h
  split at h
  · cases h
    exact inOrder_of_readFrom hread .start
  · cases h

end

mutual

theorem Tree.inOrder_regex?
    {flags : Flags} {tree : Tree} {result : Flags × Regex}
    (htree : tree.InOrder)
    (h : tree.regex? flags = some result) :
    result.2.InOrder := by
  cases tree with
  | empty =>
      cases h
      trivial
  | literal l =>
      obtain ⟨c, _, h⟩ := Option.bind_eq_some_iff.1 h
      cases h
      trivial
  | dot =>
      rw [Tree.regex?] at h
      split at h
      · cases h
        trivial
      · cases h
  | assertion a =>
      cases h
      trivial
  | property negated query =>
      obtain ⟨chars, _, h⟩ := Option.bind_eq_some_iff.1 h
      cases h
      trivial
  | short negated kind =>
      obtain ⟨chars, _, h⟩ := Option.bind_eq_some_iff.1 h
      cases h
      trivial
  | bracketed negated body =>
      obtain ⟨chars, _, h⟩ := Option.bind_eq_some_iff.1 h
      obtain ⟨chars', _, h⟩ := Option.bind_eq_some_iff.1 h
      cases h
      trivial
  | flags change =>
      cases h
      trivial
  | group change body =>
      obtain ⟨found, hregex, h⟩ := Option.bind_eq_some_iff.1 h
      cases h
      have hbody : body.InOrder := htree
      have hfound : found.2.InOrder := Tree.inOrder_regex? hbody hregex
      exact hfound
  | repetition body least most =>
      obtain ⟨found, hbody, h⟩ := Option.bind_eq_some_iff.1 h
      cases h
      exact Regex.inOrder_repeated htree.1 (Tree.inOrder_regex? htree.2 hbody)
  | concat parts =>
      exact Tree.inOrder_concatRegex? htree h
  | alternation branches =>
      exact Tree.inOrder_alternationRegex? htree h

theorem Tree.inOrder_concatRegex?
    {flags : Flags} {parts : List Tree} {result : Flags × Regex}
    (hparts : Tree.AllInOrder parts)
    (h : Tree.concatRegex? flags parts = some result) :
    result.2.InOrder := by
  cases parts with
  | nil =>
      cases h
      trivial
  | cons part parts =>
      obtain ⟨first, hfirst, h⟩ := Option.bind_eq_some_iff.1 h
      obtain ⟨rest, hrest, h⟩ := Option.bind_eq_some_iff.1 h
      cases h
      exact Regex.inOrder_andThen (Tree.inOrder_regex? hparts.1 hfirst)
        (Tree.inOrder_concatRegex? hparts.2 hrest)

theorem Tree.inOrder_alternationRegex?
    {flags : Flags} {branches : List Tree} {result : Flags × Regex}
    (hbranches : Tree.AllInOrder branches)
    (h : Tree.alternationRegex? flags branches = some result) :
    result.2.InOrder := by
  cases branches with
  | nil =>
      cases h
      trivial
  | cons branch branches =>
      obtain ⟨first, hfirst, h⟩ := Option.bind_eq_some_iff.1 h
      obtain ⟨rest, hrest, h⟩ := Option.bind_eq_some_iff.1 h
      cases h
      exact ⟨Tree.inOrder_regex? hbranches.1 hfirst,
        Tree.inOrder_alternationRegex? hbranches.2 hrest⟩

end

/-- The counts in the regular expression of a pattern are in order. -/
theorem inOrder_of_compile
    {text : String} {r : Regex}
    (h : compile text = .ok r) :
    r.InOrder := by
  unfold compile at h
  split at h
  · cases h
  · rename_i hregex
    split at h
    · cases h
    · cases h
      obtain ⟨tree, htree, hregex⟩ := Option.bind_eq_some_iff.1 hregex
      exact Tree.inOrder_regex? (inOrder_of_read? htree) hregex

end Pattern
end PredictiveParsing
