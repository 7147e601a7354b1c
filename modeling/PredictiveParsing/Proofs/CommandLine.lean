import PredictiveParsing.CommandLine
import PredictiveParsing.Proofs.Parser.History
import Mathlib.Tactic

/-!
# The command line and the library

The program goes through the same steps as a caller of the library would: it reads the grammar, builds
its table, reads the input and parses it.  `CommandLine.Exit` tells every way out of these steps, with
the exit status, what goes to the error output, and the blocks that make up the output, and it does not
mention whether the output is to be verbose: a job leaves behind what `Exit` says, and without `-v`
only the verbose blocks are missing (`CommandLine.runJob_eq_some_iff`).

The status depends neither on the number of tokens that are remembered, since the verdict of a parse
does not (`Grammar.lexAndParse_accepted`), nor on the number of steps that a parse may take, as soon as
it comes to an end (`Grammar.lexAndParse_unique`).
-/

namespace PredictiveParsing

namespace Parser

theorem Run.ending_ne_of_outcome?
    {σ ε : Type} {g : Grammar} {r : Run σ ε} {x : Except ε Outcome}
    (h : r.outcome? g = some x) :
    r.ending ≠ .unfinished := by
  intro hending
  rw [Run.outcome?, hending] at h
  cases h

end Parser

namespace Grammar

variable {g : Grammar} {t : Table} {text : String} {historyLimit limit limit' : Nat}
  {x x' : Except Failure Outcome}

theorem lexAndParse_add
    (h : g.lexAndParse t text historyLimit limit = some x)
    (more : Nat) :
    g.lexAndParse t text historyLimit (limit + more) = some x := by
  rw [← h]
  unfold lexAndParse at h ⊢
  cases hlexer : Lexer.ofSymbols g.symbols with
  | error e =>
      rfl
  | ok lexer =>
      rw [hlexer] at h
      obtain ⟨y, hy, _⟩ := Option.map_eq_some_iff.1 h
      have hsame := Parser.runFrom_add (Parser.Run.ending_ne_of_outcome? hy) more
      simp only [parseText, Parser.run, hsame]

/-- Two limits that are both enough give the same. -/
theorem lexAndParse_unique
    (h : g.lexAndParse t text historyLimit limit = some x)
    (h' : g.lexAndParse t text historyLimit limit' = some x') :
    x = x' := by
  have hlong := lexAndParse_add h limit'
  rw [Nat.add_comm, lexAndParse_add h' limit] at hlong
  exact (Option.some.inj hlong).symm

/-- Whether a text is accepted does not depend on how many tokens are remembered. -/
theorem lexAndParse_accepted
    (g : Grammar) (t : Table) (text : String) (n n' limit : Nat) :
    (g.lexAndParse t text n limit).map (Except.map Outcome.accepted) =
      (g.lexAndParse t text n' limit).map (Except.map Outcome.accepted) := by
  have hnone : ∀ n, (g.lexAndParse t text n limit).map (Except.map Outcome.accepted) =
      (g.lexAndParse t text 0 limit).map (Except.map Outcome.accepted) := by
    intro n
    rw [g.lexAndParse_withoutHistory t text n limit, Option.map_map]
    congr 1
    funext x
    cases x <;> rfl
  rw [hnone n, hnone n']

/-- With enough steps, the text is accepted. -/
def AcceptsText (g : Grammar) (t : Table) (text : String) (historyLimit : Nat) : Prop :=
  ∃ limit o, g.lexAndParse t text historyLimit limit = some (.ok o) ∧ o.accepted = true

end Grammar

namespace CommandLine

/-! ### Arguments -/

/-- The arguments are valid, do not ask for help, and give one or two paths. -/
def Asks (args : List String) (job : Job) : Prop :=
  ∃ a, Arguments.read args = .ok a ∧ a.has .help = false ∧
    historyLimit a = .ok job.historyLimit ∧ a.has .verbose = job.verbose ∧
    a.free = job.grammar :: job.input.toList

theorem task_eq_job_iff
    {args : List String} {job : Job} :
    task args = .job job ↔ Asks args job := by
  constructor
  · intro h
    unfold task at h
    split at h
    · cases h
    · rename_i a hread
      split at h
      · cases h
      · rename_i hhelp
        split at h
        · cases h
        · rename_i n hlimit
          have hhelp : a.has .help = false := by
            simpa using hhelp
          split at h
          · rename_i grammar hfree
            cases h
            exact ⟨a, hread, hhelp, hlimit, rfl, hfree⟩
          · rename_i grammar input hfree
            cases h
            exact ⟨a, hread, hhelp, hlimit, rfl, hfree⟩
          · cases h
  · rintro ⟨a, hread, hhelp, hlimit, hverbose, hfree⟩
    obtain ⟨verbose, n, grammar, input⟩ := job
    subst hverbose
    cases input <;> simp [task, hread, hhelp, hlimit, hfree]

/-! ### Files -/

section

variable {files : Files} {path : String} {file : TextFile} {g : Grammar} {t : Table}

/-- The file can be read, and it is not blank. -/
def Readable (files : Files) (path : String) (file : TextFile) : Prop :=
  files path = .ok file ∧ Text.allBlank file.text.toList = false

theorem Readable.readFile_eq
    (h : Readable files path file)
    (what : String) :
    readFile files what path = .ok file := by
  simp [readFile, h.1, h.2]

theorem Readable.unique
    {file' : TextFile}
    (h : Readable files path file)
    (h' : Readable files path file') :
    file = file' :=
  Except.ok.inj (h.1.symm.trans h'.1)

theorem readFile_spec
    (files : Files) (what path : String) :
    (∃ file, Readable files path file) ∨
      ∃ err, readFile files what path = .error (.failure err) := by
  unfold readFile
  split
  · exact .inr ⟨_, rfl⟩
  · rename_i file hfile
    split
    · exact .inr ⟨_, rfl⟩
    · rename_i hblank
      exact .inl ⟨file, hfile, by simpa using hblank⟩

/-- The file holds a grammar that has a table. -/
def Compiles (files : Files) (path : String) (g : Grammar) (t : Table) : Prop :=
  ∃ file, Readable files path file ∧ Grammar.load file.text = .ok g ∧ g.table = .ok t

theorem Compiles.unique
    {g' : Grammar} {t' : Table}
    (h : Compiles files path g t)
    (h' : Compiles files path g' t') :
    g = g' ∧ t = t' := by
  obtain ⟨file, hread, hload, htable⟩ := h
  obtain ⟨file', hread', hload', htable'⟩ := h'
  obtain rfl := hread.unique hread'
  obtain rfl := Except.ok.inj (hload.symm.trans hload')
  exact ⟨rfl, Except.ok.inj (htable.symm.trans htable')⟩

theorem compile_eq
    (hload : Grammar.load file.text = .ok g)
    (htable : g.table = .ok t) :
    compile file = .ok (g, t) := by
  simp [compile, hload, htable, bind, Except.bind, Except.mapError, pure, Except.pure]

theorem compile_spec
    (file : TextFile) :
    (∃ g t, Grammar.load file.text = .ok g ∧ g.table = .ok t) ∨
      ∃ err, compile file = .error (.failure err) := by
  unfold compile
  cases hload : Grammar.load file.text with
  | error f =>
      exact .inr ⟨_, rfl⟩
  | ok g =>
      cases htable : g.table with
      | error f =>
          refine .inr ⟨Report.failure file.path file.text f, ?_⟩
          simp only [Except.mapError, bind, Except.bind, htable]
          rfl
      | ok t =>
          exact .inl ⟨g, t, rfl, htable⟩

variable {job : Job} {limit : Nat}

theorem parse_of_failed
    {f : Failure}
    (h : g.lexAndParse t file.text job.historyLimit limit = some (.error f)) :
    parse g t job file limit = some (failed file f) := by
  simp [parse, h]

theorem parse_of_accepted
    {o : Outcome}
    (h : g.lexAndParse t file.text job.historyLimit limit = some (.ok o))
    (ho : o.accepted = true) :
    parse g t job file limit =
      some (.success
        ("Parsing was successful.\n" ++ if job.verbose then Report.outcome o else "")) := by
  simp [parse, h, ho]

theorem parse_of_rejected
    {o : Outcome}
    (h : g.lexAndParse t file.text job.historyLimit limit = some (.ok o))
    (ho : o.accepted = false) :
    parse g t job file limit =
      some (.failure ("Parsing encountered an error.\n" ++ Report.outcome o)) := by
  simp [parse, h, ho]

/-- A job with an input whose files can be used is done by parsing. -/
theorem runJob_eq_parse
    {files : Files} {path : String}
    (hcompiles : Compiles files job.grammar g t)
    (hinput : job.input = some path)
    (hread : Readable files path file)
    (limit : Nat) :
    runJob files job limit =
      (parse g t job file limit).map
        (.after ("Grammar is LL(1)\n" ++ tableBlock job g t ++ inputBlock job file)) := by
  obtain ⟨grammar, hgrammar, hload, htable⟩ := hcompiles
  simp only [runJob, hgrammar.readFile_eq, compile_eq hload htable, hinput, hread.readFile_eq]

end

/-! ### The output -/

/-- What the output is made of. -/
inductive Block where
  | verdict
  | table (g : Grammar) (t : Table)
  | input (file : TextFile)
  | success
  | outcome (o : Outcome)

namespace Block

def text : Block → String
  | .verdict => "Grammar is LL(1)\n"
  | .table g t => rule ++ "LL1 Table (Verbose Mode):\n" ++ Report.table g t ++ rule
  | .input file => "Input (Verbose Mode):\n" ++ file.text ++ rule
  | .success => "Parsing was successful.\n"
  | .outcome o => Report.outcome o

def isVerbose : Block → Bool
  | .table .. | .input _ | .outcome _ => true
  | .verdict | .success => false

/-- The output, in which the verbose blocks are left out unless they are asked for. -/
def shown (verbose : Bool) (blocks : List Block) : String :=
  String.join ((blocks.filter fun b => verbose || !b.isVerbose).map text)

theorem shown_append
    (verbose : Bool) (blocks others : List Block) :
    shown verbose (blocks ++ others) = shown verbose blocks ++ shown verbose others := by
  simp only [shown, List.filter_append, List.map_append, String.join_append]

theorem shown_plain
    {b : Block}
    (h : b.isVerbose = false)
    (verbose : Bool) :
    shown verbose [b] = b.text := by
  simp [shown, h]

theorem shown_verbose
    {b : Block}
    (h : b.isVerbose = true)
    (verbose : Bool) :
    shown verbose [b] = if verbose then b.text else "" := by
  cases verbose <;> simp [shown, h]

/-- The output on a grammar. -/
theorem shown_table
    (job : Job) (g : Grammar) (t : Table) :
    shown job.verbose [.verdict, .table g t] = "Grammar is LL(1)\n" ++ tableBlock job g t := by
  have hsplit := shown_append job.verbose [.verdict] [.table g t]
  rw [shown_plain rfl, shown_verbose rfl] at hsplit
  exact hsplit

/-- The output on a grammar and an input. -/
theorem shown_input
    (job : Job) (g : Grammar) (t : Table) (file : TextFile) :
    shown job.verbose [.verdict, .table g t, .input file] =
      "Grammar is LL(1)\n" ++ tableBlock job g t ++ inputBlock job file := by
  have hsplit := shown_append job.verbose [.verdict, .table g t] [.input file]
  rw [shown_table, shown_verbose rfl] at hsplit
  exact hsplit

/-- The output on a grammar, an input, and an outcome that is accepted. -/
theorem shown_outcome
    (job : Job) (g : Grammar) (t : Table) (file : TextFile) (o : Outcome) :
    shown job.verbose [.verdict, .table g t, .input file, .success, .outcome o] =
      "Grammar is LL(1)\n" ++ tableBlock job g t ++ inputBlock job file ++
        ("Parsing was successful.\n" ++ if job.verbose then Report.outcome o else "") := by
  have hsplit := shown_append job.verbose [.verdict, .table g t, .input file] [.success, .outcome o]
  have hend := shown_append job.verbose [.success] [.outcome o]
  rw [shown_plain rfl, shown_verbose rfl] at hend
  change shown job.verbose [.success, .outcome o] = _ at hend
  rw [shown_input, hend] at hsplit
  exact hsplit

end Block

/-! ### The ways out -/

/-- The ways out of a job: the blocks of the output, the exit status, and what goes to the error
output. -/
inductive Exit (files : Files) (grammar : String) (input : Option String)
    (historyLimit limit : Nat) : List Block → Nat → String → Prop
  | unread
      {err : String}
      (hread : readFile files "grammar file" grammar = .error (.failure err)) :
      Exit files grammar input historyLimit limit [] 1 err
  | refused
      {file : TextFile} {err : String}
      (hread : Readable files grammar file)
      (hcompile : compile file = .error (.failure err)) :
      Exit files grammar input historyLimit limit [] 1 err
  | compiled
      {g : Grammar} {t : Table}
      (hcompiles : Compiles files grammar g t)
      (hinput : input = none) :
      Exit files grammar input historyLimit limit [.verdict, .table g t] 0 ""
  | inputUnread
      {g : Grammar} {t : Table} {path err : String}
      (hcompiles : Compiles files grammar g t)
      (hinput : input = some path)
      (hread : readFile files "input file" path = .error (.failure err)) :
      Exit files grammar input historyLimit limit [.verdict, .table g t] 1 err
  | failed
      {g : Grammar} {t : Table} {path : String} {file : TextFile} {f : Failure}
      (hcompiles : Compiles files grammar g t)
      (hinput : input = some path)
      (hread : Readable files path file)
      (hparse : g.lexAndParse t file.text historyLimit limit = some (.error f)) :
      Exit files grammar input historyLimit limit [.verdict, .table g t, .input file] 1
        (Report.failure file.path file.text f)
  | accepted
      {g : Grammar} {t : Table} {path : String} {file : TextFile} {o : Outcome}
      (hcompiles : Compiles files grammar g t)
      (hinput : input = some path)
      (hread : Readable files path file)
      (hparse : g.lexAndParse t file.text historyLimit limit = some (.ok o))
      (ho : o.accepted = true) :
      Exit files grammar input historyLimit limit
        [.verdict, .table g t, .input file, .success, .outcome o] 0 ""
  | rejected
      {g : Grammar} {t : Table} {path : String} {file : TextFile} {o : Outcome}
      (hcompiles : Compiles files grammar g t)
      (hinput : input = some path)
      (hread : Readable files path file)
      (hparse : g.lexAndParse t file.text historyLimit limit = some (.ok o))
      (ho : o.accepted = false) :
      Exit files grammar input historyLimit limit [.verdict, .table g t, .input file] 1
        ("Parsing encountered an error.\n" ++ Report.outcome o)

section

variable {files : Files} {job : Job} {grammar : String} {input : Option String}
  {n n' limit : Nat} {blocks : List Block} {code : Nat} {err : String} {r : Result}

/-- What a job leaves behind, by its way out. -/
theorem Exit.eq
    (h : Exit files job.grammar job.input job.historyLimit limit blocks code err) :
    runJob files job limit =
      some { code := code, out := Block.shown job.verbose blocks, err := err } := by
  cases h with
  | unread hread =>
      simp only [runJob, hread]
      rfl
  | refused hread hcompile =>
      simp only [runJob, hread.readFile_eq, hcompile]
      rfl
  | compiled hcompiles hnone =>
      obtain ⟨file, hread, hload, htable⟩ := hcompiles
      simp only [runJob, hread.readFile_eq, compile_eq hload htable, hnone, Block.shown_table]
      rfl
  | inputUnread hcompiles hsome hread =>
      obtain ⟨file, hgrammar, hload, htable⟩ := hcompiles
      simp only [runJob, hgrammar.readFile_eq, compile_eq hload htable, hsome, hread,
        Block.shown_table]
      simp [Result.after, Result.failure]
  | failed hcompiles hsome hread hparse =>
      rw [runJob_eq_parse hcompiles hsome hread, parse_of_failed hparse, Block.shown_input]
      simp [Result.after, Result.failure, CommandLine.failed]
  | accepted hcompiles hsome hread hparse ho =>
      rw [runJob_eq_parse hcompiles hsome hread, parse_of_accepted hparse ho, Block.shown_outcome]
      rfl
  | rejected hcompiles hsome hread hparse ho =>
      rw [runJob_eq_parse hcompiles hsome hread, parse_of_rejected hparse ho,
        Block.shown_input]
      simp [Result.after, Result.failure]

/-- A job that comes to an end has a way out. -/
theorem exists_exit
    (h : runJob files job limit = some r) :
    ∃ blocks code err,
      Exit files job.grammar job.input job.historyLimit limit blocks code err := by
  obtain ⟨file, hread⟩ | ⟨err, hread⟩ := readFile_spec files "grammar file" job.grammar
  case inr =>
    exact ⟨_, _, _, .unread hread⟩
  obtain ⟨g, t, hload, htable⟩ | ⟨err, hcompile⟩ := compile_spec file
  case inr =>
    exact ⟨_, _, _, .refused hread hcompile⟩
  have hcompiles : Compiles files job.grammar g t := ⟨file, hread, hload, htable⟩
  cases hinput : job.input with
  | none =>
      exact ⟨_, _, _, .compiled hcompiles rfl⟩
  | some path =>
      obtain ⟨file', hread'⟩ | ⟨err, hread'⟩ := readFile_spec files "input file" path
      case inr =>
        exact ⟨_, _, _, .inputUnread hcompiles rfl hread'⟩
      cases hparse : g.lexAndParse t file'.text job.historyLimit limit with
      | none =>
          simp [runJob_eq_parse hcompiles hinput hread', parse, hparse] at h
      | some x =>
          cases x with
          | error f =>
              exact ⟨_, _, _, .failed hcompiles rfl hread' hparse⟩
          | ok o =>
              cases ho : o.accepted with
              | true =>
                  exact ⟨_, _, _, .accepted hcompiles rfl hread' hparse ho⟩
              | false =>
                  exact ⟨_, _, _, .rejected hcompiles rfl hread' hparse ho⟩

/-- What a job leaves behind is what one of the ways out tells. -/
theorem runJob_eq_some_iff :
    runJob files job limit = some r ↔
      ∃ blocks, Exit files job.grammar job.input job.historyLimit limit blocks r.code r.err ∧
        r.out = Block.shown job.verbose blocks := by
  constructor
  · intro h
    obtain ⟨blocks, code, err, hexit⟩ := exists_exit h
    rw [hexit.eq, Option.some.injEq] at h
    subst h
    exact ⟨blocks, hexit, rfl⟩
  · rintro ⟨blocks, hexit, hout⟩
    rw [hexit.eq, ← hout]

/-! ### The status -/

/-- The files are as they should be: the grammar has a table, and the input, if there is one, is
accepted. -/
def Succeeds (files : Files) (grammar : String) (input : Option String) (historyLimit : Nat) :
    Prop :=
  ∃ g t, Compiles files grammar g t ∧ ∀ path, input = some path →
    ∃ file, Readable files path file ∧ g.AcceptsText t file.text historyLimit

/-- An input whose files can be used succeeds if the text is accepted. -/
theorem Compiles.succeeds_iff
    {g : Grammar} {t : Table} {path : String} {file : TextFile}
    (h : Compiles files grammar g t)
    (hread : Readable files path file)
    (n : Nat) :
    Succeeds files grammar (some path) n ↔ g.AcceptsText t file.text n := by
  constructor
  · rintro ⟨g', t', hcompiles, hinput⟩
    obtain ⟨rfl, rfl⟩ := h.unique hcompiles
    obtain ⟨file', hread', haccepts⟩ := hinput path rfl
    obtain rfl := hread.unique hread'
    exact haccepts
  · intro haccepts
    refine ⟨g, t, h, ?_⟩
    rintro _ ⟨⟩
    exact ⟨file, hread, haccepts⟩

theorem Exit.succeeds_iff
    (h : Exit files grammar input n limit blocks code err) :
    code = 0 ↔ Succeeds files grammar input n := by
  cases h with
  | unread hread =>
      refine iff_of_false Nat.one_ne_zero ?_
      rintro ⟨g, t, ⟨file, hfile, _⟩, _⟩
      rw [hfile.readFile_eq] at hread
      cases hread
  | refused hread hcompile =>
      refine iff_of_false Nat.one_ne_zero ?_
      rintro ⟨g, t, ⟨file, hfile, hload, htable⟩, _⟩
      obtain rfl := hread.unique hfile
      rw [compile_eq hload htable] at hcompile
      cases hcompile
  | compiled hcompiles hnone =>
      subst hnone
      exact iff_of_true rfl ⟨_, _, hcompiles, nofun⟩
  | inputUnread hcompiles hsome hread =>
      refine iff_of_false Nat.one_ne_zero ?_
      rintro ⟨g, t, _, hinput⟩
      obtain ⟨file, hfile, _⟩ := hinput _ hsome
      rw [hfile.readFile_eq] at hread
      cases hread
  | failed hcompiles hsome hread hparse =>
      subst hsome
      rw [hcompiles.succeeds_iff hread]
      refine iff_of_false Nat.one_ne_zero ?_
      rintro ⟨limit', o, haccepts, _⟩
      cases Grammar.lexAndParse_unique hparse haccepts
  | accepted hcompiles hsome hread hparse ho =>
      subst hsome
      rw [hcompiles.succeeds_iff hread]
      exact iff_of_true rfl ⟨_, _, hparse, ho⟩
  | rejected hcompiles hsome hread hparse ho =>
      subst hsome
      rw [hcompiles.succeeds_iff hread]
      refine iff_of_false Nat.one_ne_zero ?_
      rintro ⟨limit', o, haccepts, ho'⟩
      cases Grammar.lexAndParse_unique hparse haccepts
      rw [ho] at ho'
      cases ho'

/-- With another number of tokens to remember, there is a way out with the same status. -/
theorem Exit.withHistoryLimit
    (h : Exit files grammar input n limit blocks code err)
    (n' : Nat) :
    ∃ blocks err, Exit files grammar input n' limit blocks code err := by
  -- the verdict is the same, and with it the way out
  have hsame {g : Grammar} {t : Table} {text : String} {x : Except Failure Outcome}
      (hparse : g.lexAndParse t text n limit = some x) :
      ∃ x', g.lexAndParse t text n' limit = some x' ∧
        x'.map Outcome.accepted = x.map Outcome.accepted := by
    have hverdict := g.lexAndParse_accepted t text n' n limit
    rw [hparse] at hverdict
    exact Option.map_eq_some_iff.1 hverdict
  cases h with
  | unread hread =>
      exact ⟨_, _, .unread hread⟩
  | refused hread hcompile =>
      exact ⟨_, _, .refused hread hcompile⟩
  | compiled hcompiles hnone =>
      exact ⟨_, _, .compiled hcompiles hnone⟩
  | inputUnread hcompiles hsome hread =>
      exact ⟨_, _, .inputUnread hcompiles hsome hread⟩
  | failed hcompiles hsome hread hparse =>
      obtain ⟨f | o, hparse', hverdict⟩ := hsame hparse
      · exact ⟨_, _, .failed hcompiles hsome hread hparse'⟩
      · cases hverdict
  | accepted hcompiles hsome hread hparse ho =>
      obtain ⟨f | o, hparse', hverdict⟩ := hsame hparse
      · cases hverdict
      · exact ⟨_, _, .accepted hcompiles hsome hread hparse' ((Except.ok.inj hverdict).trans ho)⟩
  | rejected hcompiles hsome hread hparse ho =>
      obtain ⟨f | o, hparse', hverdict⟩ := hsame hparse
      · cases hverdict
      · exact ⟨_, _, .rejected hcompiles hsome hread hparse' ((Except.ok.inj hverdict).trans ho)⟩

end

section

variable {args args' : List String} {job job' : Job}

theorem run_eq_runJob
    (h : Asks args job)
    (files : Files) (limit : Nat) :
    run files args limit = runJob files job limit := by
  rw [run, task_eq_job_iff.2 h]

/-- **The command line agrees with the library.**  Take any files, and arguments that are valid, do not
ask for help and give one or two paths.  Whenever the run ends, its status is zero if and only if the
grammar is readable, not blank, loaded, and has a table, and the input, if there is one, is readable,
not blank, and accepted.  With other options and the same paths, the run ends as well, with the same
status.  With `-v` the error output is the same, and the output without `-v` is the one with `-v`
without its verbose blocks. -/
theorem run_agrees_with_library
    (files : Files)
    (h : Asks args job)
    (limit : Nat)
    {r : Result}
    (hrun : run files args limit = some r) :
    (r.code = 0 ↔ Succeeds files job.grammar job.input job.historyLimit) ∧
    (∀ args' job', Asks args' job' → job'.grammar = job.grammar → job'.input = job.input →
      ∃ r', run files args' limit = some r' ∧ r'.code = r.code) ∧
    ∀ args', Asks args' { job with verbose := !job.verbose } →
      ∃ blocks r',
        Exit files job.grammar job.input job.historyLimit limit blocks r.code r.err ∧
        run files args' limit = some r' ∧ r'.code = r.code ∧ r'.err = r.err ∧
        r.out = Block.shown job.verbose blocks ∧ r'.out = Block.shown (!job.verbose) blocks := by
  rw [run_eq_runJob h, runJob_eq_some_iff] at hrun
  obtain ⟨blocks, hexit, hout⟩ := hrun
  refine ⟨hexit.succeeds_iff, fun args' job' h' hgrammar hinput => ?_, fun args' h' => ?_⟩
  · obtain ⟨blocks', err', hexit'⟩ := hexit.withHistoryLimit job'.historyLimit
    rw [← hgrammar, ← hinput] at hexit'
    exact ⟨_, (run_eq_runJob h' files limit).trans hexit'.eq, rfl⟩
  · have hother : runJob files { job with verbose := !job.verbose } limit =
        some { code := r.code, out := Block.shown (!job.verbose) blocks, err := r.err } :=
      Exit.eq hexit
    exact ⟨blocks, _, hexit, (run_eq_runJob h' files limit).trans hother, rfl, rfl, hout, rfl⟩

end

end CommandLine

/-- A grammar of which `a`, 2, is the only word. -/
def Grammar.oneWord : Grammar where
  symbols :=
    { symbols :=
        [SymbolTable.endMarkerSymbol "$", ⟨epsilonName, .terminal epsilonName⟩,
          ⟨"a", .terminal "a"⟩, ⟨"S", .nonterminal⟩] }
  productions := [⟨3, [2]⟩]
  startName := some "S"

/-- The table of `Grammar.oneWord`. -/
def Table.oneWord : Table where
  rows := [(3, [(2, 0)])]

namespace CommandLine

/-- A file with the text of `Grammar.oneWord`, and one with its word. -/
def oneWord : Files
  | "g" => .ok { path := "/g", text := "terminal a a;\nstart with S;\n;\nS -> a;\n;\n" }
  | "i" => .ok { path := "/i", text := "a" }
  | _ => .error .notFound

/-- The files are as they should be, and so the status is zero, also with `-v` or without remembering
any token. -/
theorem run_agrees_with_library_oneWord :
    Succeeds oneWord "g" (some "i") 5 ∧
      (∃ r, run oneWord ["-n0", "g", "i", "-v"] 5 = some r ∧ r.code = 0) ∧
      ∃ blocks r, run oneWord ["g", "-v", "i"] 5 = some r ∧ r.err = "" ∧
        r.out = Block.shown true blocks ∧
        Block.shown false blocks = "Grammar is LL(1)\nParsing was successful.\n" := by
  have hload : Grammar.load "terminal a a;\nstart with S;\n;\nS -> a;\n;\n" = .ok .oneWord := by
    cbv
  have htable : Grammar.oneWord.table = .ok .oneWord := by
    decide +kernel
  have hparse : Grammar.oneWord.lexAndParse .oneWord "a" 5 5 =
      some (.ok ⟨true, none, [], ["a"]⟩) := by
    cbv
  have hgrammar : Readable oneWord "g"
      ⟨"/g", "terminal a a;\nstart with S;\n;\nS -> a;\n;\n"⟩ := ⟨rfl, by cbv⟩
  have hinput : Readable oneWord "i" ⟨"/i", "a"⟩ := ⟨rfl, by cbv⟩
  have hexit : Exit oneWord "g" (some "i") 5 5
      [.verdict, .table .oneWord .oneWord, .input ⟨"/i", "a"⟩, .success,
        .outcome ⟨true, none, [], ["a"]⟩] 0 "" :=
    .accepted ⟨_, hgrammar, hload, htable⟩ rfl hinput hparse rfl
  have hquiet : Asks ["g", "i"] ⟨false, 5, "g", some "i"⟩ :=
    ⟨⟨[], ["g", "i"]⟩, by cbv, rfl, rfl, rfl, rfl⟩
  have hverbose : Asks ["g", "-v", "i"] ⟨true, 5, "g", some "i"⟩ :=
    ⟨⟨[(.verbose, none)], ["g", "i"]⟩, by cbv, rfl, rfl, rfl, rfl⟩
  have hforget : Asks ["-n0", "g", "i", "-v"] ⟨true, 0, "g", some "i"⟩ :=
    ⟨⟨[(.history, some "0"), (.verbose, none)], ["g", "i"]⟩, by cbv, rfl, by cbv, rfl, rfl⟩
  have hrun := (run_eq_runJob hquiet oneWord 5).trans hexit.eq
  obtain ⟨hstatus, hoptions, hblocks⟩ := run_agrees_with_library oneWord hquiet 5 hrun
  obtain ⟨blocks, r, _, hloud, _, herr, hout, hout'⟩ := hblocks _ hverbose
  exact ⟨hstatus.1 rfl, hoptions _ _ hforget rfl rfl, blocks, r, hloud, herr, hout',
    hout.symm.trans (by decide +kernel)⟩

end CommandLine
end PredictiveParsing
