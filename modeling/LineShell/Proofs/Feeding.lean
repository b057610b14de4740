import LineShell.Proofs.Encoding
import LineShell.Proofs.Extraction
import LineShell.Proofs.Writing

/-!
# Three ways to feed a file

An application that makes a text of a text can be given a file by name, as its input, or through a
pipe from `cat`. It reads a file as a whole or line by line, and in either way it comes to the same
lines, or refuses bytes that are not UTF-8 before it has written anything. So the three ways agree,
but for the label that `wc` adds to what it is told the name of.
-/

namespace LineShell

/-! ### Sources of text -/

/-- The job with another input. -/
def Job.withInput (job : Job) (input : Source) : Job := { job with streams.input := input }

/-- The action gives what is made of the text of a file, or of the input where no file is named. It
fails where there is no file, or no text, and it leaves a named file's job alone. -/
structure ReadsText {β : Type} (make : List Char → β)
    (read : Option String → Action ShellError β) : Prop where
  ofFile : ∀ {job : Job} {file : String} {bytes : Bytes} {text : List Char},
    job.world.files.read (job.world.environment.resolve file) = .ok bytes →
      Utf8.decode? bytes = some text → read (some file) job = .ok (make text) job
  ofNoText : ∀ {job : Job} {file : String},
    (∀ bytes, job.world.files.read (job.world.environment.resolve file) = .ok bytes →
      Utf8.decode? bytes = none) → ∃ e, read (some file) job = .error e job
  ofInput : ∀ {job : Job} {bytes : Bytes} {text : List Char},
    job.streams.input = .ofBytes bytes → Utf8.decode? bytes = some text →
      read none job = .ok (make text) (job.withInput .empty)
  ofBadInput : ∀ {job : Job} {bytes : Bytes},
    job.streams.input = .ofBytes bytes → Utf8.decode? bytes = none →
      ∃ e left, read none job = .error e (job.withInput left)

theorem readsText_readText (name : String) : ReadsText id (readText name) where
  ofFile hread htext := by
    simp only [readText, readTextFile, bind, EStateM.bind, readFile_ok hread, htext]
    rfl
  ofNoText {job file} hnone := by
    simp only [readText, readTextFile, bind, EStateM.bind]
    cases hread : job.world.files.read (job.world.environment.resolve file) with
    | ok bytes =>
      simp only [readFile_ok hread, hnone bytes hread]
      exact ⟨_, rfl⟩
    | error fault =>
      obtain ⟨e, he⟩ := readFile_error name hread
      exact ⟨e, by simp only [he]⟩
  ofInput hinput htext := by
    simp only [readText, readTextInput, bind, EStateM.bind, EStateM.adaptExcept, Job.readAll,
      hinput, Source.contents, Source.ofBytes, htext]
    rfl
  ofBadInput hinput htext := by
    simp only [readText, readTextInput, bind, EStateM.bind, EStateM.adaptExcept, Job.readAll,
      hinput, Source.contents, Source.ofBytes, htext]
    exact ⟨_, _, rfl⟩

/-- The lines of a file, or of the input where no file is named, as `grep` reads them. -/
def Grep.sourceLines : Option String → Action ShellError (List (List Char))
  | some file => fileLines file
  | none => Job.readLines.adaptExcept failed

theorem readsText_sourceLines : ReadsText Text.lines Grep.sourceLines where
  ofFile hread htext := by
    simp only [Grep.sourceLines, Grep.fileLines, bind, EStateM.bind, readFile_ok hread,
      Source.readLines_of_text htext]
    rfl
  ofNoText {job file} hnone := by
    simp only [Grep.sourceLines, Grep.fileLines, bind, EStateM.bind]
    cases hread : job.world.files.read (job.world.environment.resolve file) with
    | ok bytes =>
      obtain ⟨left, hlines⟩ := Source.readLines_of_not_text (hnone bytes hread)
      simp only [readFile_ok hread, hlines]
      exact ⟨_, rfl⟩
    | error fault =>
      obtain ⟨e, he⟩ := readFile_error "grep" hread
      exact ⟨e, by simp only [he]⟩
  ofInput hinput htext := by
    simp only [Grep.sourceLines, EStateM.adaptExcept, Job.readLines, hinput,
      Source.readLines_of_text htext]
    rfl
  ofBadInput hinput htext := by
    obtain ⟨left, hlines⟩ := Source.readLines_of_not_text htext
    simp only [Grep.sourceLines, EStateM.adaptExcept, Job.readLines, hinput, hlines]
    exact ⟨_, _, rfl⟩

/-! ### A file behind the options -/

namespace Usage

variable {usage : Usage} {args more : List String} {scan next : Scan}

/-- What has been scanned does not depend on what comes behind it. -/
theorem scanFrom_append (h : usage.scanFrom scan args = .ok next) :
    usage.scanFrom scan (args ++ more) = usage.scanFrom next more := by
  fun_induction usage.scanFrom scan args with
  | case1 scan =>
    obtain rfl := Except.ok.inj h
    rfl
  | case2 scan argument rest hhelp ih =>
    rw [List.cons_append, scanFrom, if_pos hhelp]
    exact ih h
  | case3 scan rest hhelp hdash ih =>
    rw [List.cons_append, scanFrom, if_neg hhelp, if_pos hdash, if_pos rfl]
    exact ih h
  | case6 scan argument hhelp hdash hdashes hno spec hspec rest hswitch ih =>
    rw [List.cons_append, scanFrom, if_neg hhelp, if_pos hdash, if_neg hdashes, if_neg hno]
    simp only [hspec, hswitch]
    exact ih h
  | case10 scan argument hhelp hdash hdashes hno spec hspec kind value rest hkind hnew hvalue ih =>
    rw [List.cons_append, List.cons_append, scanFrom, if_neg hhelp, if_pos hdash, if_neg hdashes,
      if_neg hno]
    simp only [hspec, hkind]
    rw [if_neg hnew]
    simp only [hvalue]
    exact ih h
  | case13 scan argument rest hhelp hdash spec hspec hvalue ih =>
    rw [List.cons_append, scanFrom, if_neg hhelp, if_neg hdash]
    simp only [hspec, hvalue]
    exact ih h
  | _ => cases h

/-- A file as an operand, which is kept from being an option where options have not ended. -/
def behindDashes (ended : Bool) (file : String) : List String :=
  if ended then [file] else ["--", file]

theorem scanFrom_behindDashes {ended : Bool} {found : Arguments} {spec : OperandSpec}
    (file : String) (h : usage.scanFrom .start args = .ok ⟨false, ended, found⟩)
    (hspec : operandAt? usage.operands found.operands.length = some spec)
    (hkind : spec.kind = .text) :
    usage.scanFrom .start (args ++ behindDashes ended file) =
      .ok ⟨false, true, { found with operands := found.operands ++ [file] }⟩ := by
  have hoperand : usage.scanFrom ⟨false, true, found⟩ [file] =
      .ok ⟨false, true, { found with operands := found.operands ++ [file] }⟩ := by
    rw [scanFrom_operand hkind rfl hspec]
    rfl
  rw [scanFrom_append h]
  cases ended with
  | true => exact hoperand
  | false =>
    rw [behindDashes, if_neg Bool.false_ne_true, scanFrom_dashes rfl]
    exact hoperand

/-- Nothing is missing behind the required operands. -/
theorem scan_eq_some {ended : Bool} {found : Arguments}
    (h : usage.scanFrom .start args = .ok ⟨false, ended, found⟩)
    (hmissing : usage.missing found.operands.length = []) :
    usage.scan args = .ok (some found) := by
  rw [Usage.scan, h]
  simp only [bind, Except.bind, Bool.false_eq_true, if_false, hmissing]
  rfl

theorem application_of_scanFrom {run : Arguments → Action ShellError Unit} {ended : Bool}
    {found : Arguments} (h : usage.scanFrom .start args = .ok ⟨false, ended, found⟩)
    (hmissing : usage.missing found.operands.length = []) :
    usage.application run args = run found :=
  application_of_scan (scan_eq_some h hmissing)

end Usage

/-! ### What is made of a text -/

theorem intercalate_append_singleton {α : Type} {separator : List α} {pieces : List (List α)}
    (h : pieces ≠ []) (last : List α) :
    separator.intercalate (pieces ++ [last]) =
      separator.intercalate pieces ++ separator ++ last := by
  induction pieces with
  | nil => exact absurd rfl h
  | cons piece others ih =>
    cases others with
    | nil => simp
    | cons other others =>
      rw [List.cons_append, List.cons_append, List.intercalate_cons_cons, ← List.cons_append,
        ih (List.cons_ne_nil _ _), List.intercalate_cons_cons]
      simp only [List.append_assoc]

theorem CountSelection.orAll_selects (selection : CountSelection) :
    selection.orAll.lines = true ∨ selection.orAll.words = true ∨ selection.orAll.bytes = true := by
  rcases selection with ⟨_ | _, _ | _, _ | _⟩ <;> decide

theorem CountSelection.report_label (selection : CountSelection) (label : String)
    (counts : Counts) :
    (selection.report (some label) counts).toList =
      (selection.report none counts).toList ++ ' ' :: label.toList := by
  simp only [report, String.toList_intercalate, List.map_append, Option.toList_some,
    Option.toList_none, List.map_cons, List.map_nil, List.append_nil]
  rw [intercalate_append_singleton]
  · simp
  · -- Something is counted, so that a blank stands before the label.
    rcases selection.orAll_selects with hsome | hsome | hsome <;> simp [hsome]

/-- The application makes this of a text with these options, whose operands are all that it needs
beside a file. The text has a label if it is that of a named file. -/
inductive Filters : String → List String → Bool → (Option String → List Char → List Char) → Prop
  | ofHead {options : List String} {ended : Bool} {found : Arguments}
      (accepted : headUsage.scanFrom .start options = .ok ⟨false, ended, found⟩)
      (alone : found.operands = []) :
      Filters "head" options ended fun _ text =>
        Text.unlines ((Text.lines text).take (found.count "--lines" defaultCount))
  | ofTail {options : List String} {ended : Bool} {found : Arguments}
      (accepted : tailUsage.scanFrom .start options = .ok ⟨false, ended, found⟩)
      (alone : found.operands = []) :
      Filters "tail" options ended fun _ text =>
        Text.unlines (lastLines (found.count "--lines" defaultCount) (Text.lines text))
  | ofSort {options : List String} {ended : Bool} {found : Arguments}
      (accepted : sortUsage.scanFrom .start options = .ok ⟨false, ended, found⟩)
      (alone : found.operands = []) :
      Filters "sort" options ended fun _ text =>
        Text.unlines (sortedLines (found.has "--reverse") (Text.lines text))
  | ofGrep {options : List String} {ended : Bool} {found : Arguments} {pattern : String}
      {regex : Regex} (accepted : grepUsage.scanFrom .start options = .ok ⟨false, ended, found⟩)
      (alone : found.operands = [pattern])
      (valid : Regex.compile (found.has "--ignore-case")
        (Grep.expression (found.has "--word-regexp") pattern) = .ok regex) :
      Filters "grep" options ended fun _ text =>
        Grep.output regex.isMatch (found.count "--after-context" 0) none (Text.lines text)
  | ofWc {options : List String} {ended : Bool} {found : Arguments}
      (accepted : wcUsage.scanFrom .start options = .ok ⟨false, ended, found⟩)
      (alone : found.operands = []) :
      Filters "wc" options ended fun label text =>
        (CountSelection.report ⟨found.has "--lines", found.has "--words", found.has "--bytes"⟩ label
          (.of text)).toList ++ ['\n']

/-- With these options, the application of the name reads a text and writes what it makes of it; a
file behind the options has the text that is read. -/
def ReadsAs (name : String) (options : List String) (ended : Bool)
    (render : Option String → List Char → List Char) : Prop :=
  ∃ application, builtins.lookup name = some application ∧
    ∃ (β : Type) (make : List Char → β) (read : Option String → Action ShellError β)
      (written : Option String → β → List Char), ReadsText make read ∧
      (∀ label text, written label (make text) = render label text) ∧
      (application options = read none >>= fun b => emit name (written none b)) ∧
      ∀ file, application (options ++ Usage.behindDashes ended file) =
        read (some file) >>= fun b => emit name (written (some file) b)

section ReadsAs

variable {options : List String} {ended : Bool} {found : Arguments}

/-- The applications that print lines choose them by their options, and take them from the file that
is their only operand. -/
theorem readsAs_printLines {name purpose : String} {usage : Usage}
    (choose : Arguments → List (List Char) → List (List Char))
    (hlookup : builtins.lookup name = some (usage.application fun arguments =>
      printLines name (choose arguments) arguments.operand?))
    (hoperands : usage.operands = lineOperand purpose)
    (hchoose : ∀ operands, choose { found with operands } = choose found)
    (accepted : usage.scanFrom .start options = .ok ⟨false, ended, found⟩)
    (alone : found.operands = []) :
    ReadsAs name options ended fun _ text => Text.unlines (choose found (Text.lines text)) := by
  have hmissing (given : Nat) : usage.missing given = [] := by
    rw [Usage.missing, hoperands]
    cases given <;> simp [lineOperand]
  refine ⟨_, hlookup, _, id, readText name,
    fun _ text => Text.unlines (choose found (Text.lines text)), readsText_readText name,
    fun _ _ => rfl, ?_, fun file => ?_⟩
  · rw [Usage.application_of_scanFrom accepted (hmissing _), Arguments.operand?, alone]
    rfl
  · have hspec : Usage.operandAt? usage.operands found.operands.length =
        (lineOperand purpose).head? := by
      rw [hoperands, alone]
      rfl
    have hscan := Usage.scanFrom_behindDashes file accepted hspec rfl
    rw [Usage.application_of_scanFrom hscan (hmissing _), Arguments.operand?, alone, hchoose]
    rfl

theorem readsAs_grep {pattern : String} {regex : Regex}
    (accepted : grepUsage.scanFrom .start options = .ok ⟨false, ended, found⟩)
    (alone : found.operands = [pattern])
    (valid : Regex.compile (found.has "--ignore-case")
      (Grep.expression (found.has "--word-regexp") pattern) = .ok regex) :
    ReadsAs "grep" options ended fun _ text =>
      Grep.output regex.isMatch (found.count "--after-context" 0) none (Text.lines text) := by
  have hmissing (given : Nat) (hgiven : given ≠ 0) : grepUsage.missing given = [] := by
    obtain ⟨more, rfl⟩ := Nat.exists_eq_succ_of_ne_zero hgiven
    cases more <;> simp [Usage.missing, grepUsage]
  have hsearch (files : List String) :
      Grep.search (found.has "--word-regexp") (found.has "--ignore-case")
        (found.count "--after-context" 0) pattern files =
      if files.isEmpty then Grep.searchInput regex.isMatch (found.count "--after-context" 0)
      else Grep.searchFiles regex.isMatch (found.count "--after-context" 0) (1 < files.length)
        files := by
    rw [Grep.search]
    simp only [valid]
  refine ⟨grep, rfl, _, Text.lines, Grep.sourceLines,
    fun _ => Grep.output regex.isMatch (found.count "--after-context" 0) none,
    readsText_sourceLines, fun _ _ => rfl, ?_, fun file => ?_⟩
  · rw [grep, Usage.application_of_scanFrom accepted (hmissing _ (by simp [alone]))]
    simp only [alone, hsearch]
    rfl
  · have hspec : Usage.operandAt? grepUsage.operands found.operands.length =
        some ⟨"files", .text, false, true, ""⟩ := by
      rw [alone]
      rfl
    have hscan := Usage.scanFrom_behindDashes file accepted hspec rfl
    rw [grep, Usage.application_of_scanFrom hscan (hmissing _ (by simp)), alone]
    refine (hsearch [file]).trans ?_
    simp [Grep.searchFiles, Grep.sourceLines]

theorem readsAs_wc (accepted : wcUsage.scanFrom .start options = .ok ⟨false, ended, found⟩)
    (alone : found.operands = []) :
    ReadsAs "wc" options ended fun label text =>
      (CountSelection.report ⟨found.has "--lines", found.has "--words", found.has "--bytes"⟩ label
        (.of text)).toList ++ ['\n'] := by
  have hmissing (given : Nat) : wcUsage.missing given = [] := by
    cases given <;> simp [Usage.missing, wcUsage]
  refine ⟨wc, rfl, _, id, readText "wc",
    fun label text => (CountSelection.report ⟨found.has "--lines", found.has "--words",
      found.has "--bytes"⟩ label (.of text)).toList ++ ['\n'],
    readsText_readText "wc", fun _ _ => rfl, ?_, fun file => ?_⟩
  · rw [wc, Usage.application_of_scanFrom accepted (hmissing _)]
    simp only [alone]
    rfl
  · have hspec : Usage.operandAt? wcUsage.operands found.operands.length =
        some ⟨"files", .text, false, true, ""⟩ := by
      rw [alone]
      rfl
    have hscan := Usage.scanFrom_behindDashes file accepted hspec rfl
    rw [wc, Usage.application_of_scanFrom hscan (hmissing _), alone]
    show countFiles _ [file] = _
    simp only [countFiles, printCounts, bind_pure_unit]
    rfl

end ReadsAs

namespace Filters

variable {name file : String} {options : List String} {ended : Bool}
  {render : Option String → List Char → List Char}

theorem readsAs (h : Filters name options ended render) : ReadsAs name options ended render := by
  cases h with
  | ofHead accepted alone =>
    exact readsAs_printLines (fun arguments => (·.take (arguments.count "--lines" defaultCount)))
      rfl rfl (fun _ => rfl) accepted alone
  | ofTail accepted alone =>
    exact readsAs_printLines (fun arguments => lastLines (arguments.count "--lines" defaultCount))
      rfl rfl (fun _ => rfl) accepted alone
  | ofSort accepted alone =>
    exact readsAs_printLines (fun arguments => sortedLines (arguments.has "--reverse")) rfl rfl
      (fun _ => rfl) accepted alone
  | ofGrep accepted alone valid => exact readsAs_grep accepted alone valid
  | ofWc accepted alone => exact readsAs_wc accepted alone

/-- Only `wc` makes use of a label. -/
theorem render_eq (h : Filters name options ended render) (hname : name ≠ "wc")
    (label : Option String) (text : List Char) : render label text = render none text := by
  cases h with
  | ofWc accepted alone => exact absurd rfl hname
  | _ => rfl

/-- The label of `wc` stands behind the counts. -/
theorem render_wc (h : Filters name options ended render) (hname : name = "wc") (label : String)
    (text : List Char) :
    ∃ counts, render none text = counts ++ ['\n'] ∧
      render (some label) text = counts ++ ' ' :: label.toList ++ ['\n'] := by
  cases h with
  | ofWc accepted alone =>
    exact ⟨_, rfl, congrArg (· ++ ['\n']) (CountSelection.report_label _ label _)⟩
  | _ => exact absurd hname (by decide)

end Filters

/-! ### Runs of applications -/

section Runs

open Eval

variable {name file : String} {options args : List String} {ended : Bool} {bytes : Bytes}
  {render : Option String → List Char → List Char} {run last : Run}
  {outcome : Except ShellError Unit}

/-- Writing has nothing to do with the input, nor with the history. -/
theorem ends_emit_elsewhere {text : List Char}
    (h : (onJob (emit name text)).Ends run outcome last) :
    last.input = run.input ∧ ∀ input history,
      (onJob (emit name text)).Ends ⟨run.job.withInput input, history⟩ outcome
        ⟨last.job.withInput input, history⟩ := by
  rcases ends_onJob_write.mp h with ⟨hfits, houtcome, rfl⟩ | ⟨hfull, houtcome, rfl⟩
  · exact ⟨rfl, fun input history => ends_onJob_write.mpr (.inl ⟨hfits, houtcome, rfl⟩)⟩
  · exact ⟨rfl, fun input history => ends_onJob_write.mpr (.inr ⟨hfull, houtcome, rfl⟩)⟩

theorem exists_ends_emit (name : String) (text : List Char) (run : Run) :
    ∃ outcome last, (onJob (emit name text)).Ends run outcome last := by
  by_cases hfits : run.output.Fits (Utf8.encode text)
  · exact ⟨_, _, ends_onJob_write.mpr (.inl ⟨hfits, rfl, rfl⟩)⟩
  · exact ⟨_, _, ends_onJob_write.mpr (.inr ⟨hfits, rfl, rfl⟩)⟩

namespace Filters

variable (h : Filters name options ended render)
include h

/-- The application on these bytes as its input. -/
theorem ends_fed {text : List Char} (htext : Utf8.decode? bytes = some text)
    (hends : (onJob (emit name (render none text))).Ends run outcome last) (history : List Event) :
    (builtins.run name options).Ends ⟨run.job.withInput (.ofBytes bytes), history⟩ outcome
      ⟨last.job.withInput .empty, .ran name (failure? outcome) :: history⟩ := by
  obtain ⟨application, hlookup, β, make, read, written, hreads, hwritten, happly, -⟩ :=
    h.readsAs
  refine ends_run_of_eq hlookup ?_ ((ends_emit_elsewhere hends).2 .empty history)
  have hinput : (run.job.withInput (.ofBytes bytes)).streams.input = .ofBytes bytes := rfl
  have hread := hreads.ofInput hinput htext
  rw [happly, ← hwritten]
  simp only [bind, EStateM.bind, hread]
  rfl

theorem ends_fed_error (htext : Utf8.decode? bytes = none) (run : Run) (history : List Event) :
    ∃ e left, (builtins.run name options).Ends ⟨run.job.withInput (.ofBytes bytes), history⟩
      (.error e) ⟨run.job.withInput left, .ran name (some e) :: history⟩ := by
  obtain ⟨application, hlookup, β, make, read, written, hreads, hwritten, happly, -⟩ :=
    h.readsAs
  have hinput : (run.job.withInput (.ofBytes bytes)).streams.input = .ofBytes bytes := rfl
  obtain ⟨e, left, hread⟩ := hreads.ofBadInput hinput htext
  refine ⟨e, left, ends_run_of_error hlookup ?_⟩
  rw [happly]
  simp only [bind, EStateM.bind, hread]
  rfl

/-- The application on a named file. -/
theorem ends_named {text : List Char}
    (hread : run.job.world.files.read (run.job.world.environment.resolve file) = .ok bytes)
    (htext : Utf8.decode? bytes = some text)
    (hends : (onJob (emit name (render (some file) text))).Ends run outcome last) :
    (builtins.run name (options ++ Usage.behindDashes ended file)).Ends run outcome
      ⟨last.job, .ran name (failure? outcome) :: run.history⟩ := by
  obtain ⟨application, hlookup, β, make, read, written, hreads, hwritten, -, happly⟩ :=
    h.readsAs
  refine ends_run_of_eq hlookup ?_ hends
  rw [happly, ← hwritten]
  simp only [bind, EStateM.bind, hreads.ofFile hread htext]

/-- Where there is no text to read, the application fails before it does anything. -/
theorem ends_named_error
    (hnone : ∀ content,
      run.job.world.files.read (run.job.world.environment.resolve file) = .ok content →
        Utf8.decode? content = none) :
    ∃ e, (builtins.run name (options ++ Usage.behindDashes ended file)).Ends run (.error e)
      ⟨run.job, .ran name (some e) :: run.history⟩ := by
  obtain ⟨application, hlookup, β, make, read, written, hreads, hwritten, -, happly⟩ :=
    h.readsAs
  obtain ⟨e, hfails⟩ := hreads.ofNoText hnone
  refine ⟨e, ends_run_of_error hlookup ?_⟩
  rw [happly]
  simp only [bind, EStateM.bind, hfails]

end Filters

end Runs

/-! ### Calls and pipes -/

section Ways

open Eval Redirection

variable {name file : String} {options : List String} {ended : Bool} {substitute : Substituter}
  {run : Run} {location : Location} {render : Option String → List Char → List Char}

/-- The application with the options and a file to read. -/
def namedCall (name : String) (options : List String) (ended : Bool) (file : String) : Command :=
  .call ⟨(name :: (options ++ Usage.behindDashes ended file)).map escape⟩

/-- The application with the options, and a file in place of its input. -/
def redirectedCall (name : String) (options : List String) (file : String) : Command :=
  .call ⟨(name :: options).map escape ++ ["<", escape file]⟩

/-- The application with the options behind a pipe from a file. -/
def catPipe (name : String) (options : List String) (file : String) : Command :=
  .pipe [⟨["cat", "--", file].map escape⟩, ⟨(name :: options).map escape⟩]

/-- The three ways to feed the file, and whether its name is known. -/
def ways (name : String) (options : List String) (ended : Bool) (file : String) :
    List (Option String × Command) :=
  [(some file, namedCall name options ended file), (none, redirectedCall name options file),
    (none, catPipe name options file)]

theorem interleaves_input (words : List String) (file : String) :
    Interleaves (words.map escape) [(.input, escape file)]
      (words.map escape ++ ["<", escape file]) := by
  induction words with
  | nil => exact .redirection (operator?_escape file) .nil
  | cons word words ih => exact .word (operator?_escape word) ih

theorem evaluate_namedCall (context : Context) :
    (namedCall name options ended file).evaluate context =
      context.registry.run name (options ++ Usage.behindDashes ended file) := by
  rw [namedCall, Command.evaluate, evaluate_escape]

/-- The redirection finds its file, and the words are what they were. -/
theorem prepare_redirectedCall {shell : Shell}
    (hfile : shell.world.files.fileAt (shell.world.environment.resolve file) = .ok location) :
    (Call.prepare substitute ⟨(name :: options).map escape ++ ["<", escape file]⟩).Ends shell
      (.ok (⟨some location, none⟩, name :: options)) shell := by
  have hopens : OpensEach substitute [(.input, escape file)] .unopened shell
      ⟨some location, none⟩ shell := by
    refine .cons (.input ?_ hfile) .nil
    rw [Argument.resolve_escape]
    exact ends_pure.mpr ⟨rfl, rfl⟩
  rw [Call.prepare_of_interleaves (interleaves_input (name :: options) file) (by simp),
    Argument.resolveAll_escape]
  exact ends_bind_ok.mpr ⟨_, _, ends_foldlM_openNext_ok.mpr hopens, ends_pure.mpr ⟨rfl, rfl⟩⟩

theorem prepare_redirectedCall_error {shell : Shell} {fault : IoFault}
    (hfile : shell.world.files.fileAt (shell.world.environment.resolve file) = .error fault) :
    (Call.prepare substitute ⟨(name :: options).map escape ++ ["<", escape file]⟩).Ends shell
      (.error (.redirect file fault.describe)) shell := by
  have hrefuses : Refuses substitute shell (.input, escape file) (.redirect file fault.describe)
      shell := by
    refine .input ?_ hfile
    rw [Argument.resolve_escape]
    exact ends_pure.mpr ⟨rfl, rfl⟩
  rw [Call.prepare_of_interleaves (interleaves_input (name :: options) file) (by simp)]
  refine ends_bind.mpr (.inr ⟨_, ends_foldlM_openNext_error.mpr ⟨_, shell, ?_, hrefuses⟩, rfl⟩)
  exact comesTo_cons.mpr (.inl ⟨rfl, rfl⟩)

/-- The application meets what the file holds in place of the input, which is as before when it
ends. -/
theorem ends_redirectedCall (substitute : Substituter) {job : Job} {history : List Event}
    {outcome : Except ShellError Unit}
    (hfile : run.job.world.files.fileAt (run.job.world.environment.resolve file) = .ok location)
    (hran : (builtins.run name options).Ends
      ⟨run.job.withInput (.ofBytes (run.job.world.files.contentAt location)), run.history⟩ outcome
        ⟨job, history⟩) :
    ((redirectedCall name options file).evaluate ⟨builtins, substitute⟩).Ends run outcome
      ⟨job.withInput run.input, history⟩ := by
  have hcourse : Call.Course ⟨builtins, substitute⟩ _ run outcome _ :=
    .dispatches (prepare_redirectedCall hfile) hran
  exact Call.ends_evaluate.mpr hcourse

/-- The application meets what the file holds in place of the input, which `cat` has left alone. -/
theorem ends_catPipe (substitute : Substituter) {job : Job} {history : List Event} {bytes : Bytes}
    {outcome : Except ShellError Unit}
    (hread : run.job.world.files.read (run.job.world.environment.resolve file) = .ok bytes)
    (hran : (builtins.run name options).Ends
      ⟨run.job.withInput (.ofBytes bytes), .ran "cat" none :: run.history⟩ outcome
        ⟨job, history⟩) :
    ((catPipe name options file).evaluate ⟨builtins, substitute⟩).Ends run outcome
      ⟨job.withInput run.input, history⟩ := by
  rw [catPipe, Command.evaluate, Command.evaluatePipe_cons (List.cons_ne_nil _ _),
    Command.evaluatePipe, evaluate_escape, evaluate_escape]
  have hcat : (builtins.run "cat" ["--", file]).Ends (run.withOutput .unlimited) (.ok ()) _ :=
    ends_cat hread (Sink.acceptsAll_unlimited bytes)
  exact ends_into.mpr (.inr ⟨_, _, hcat, hran, rfl⟩)

theorem ends_ways (substitute : Substituter) (h : Filters name options ended render)
    {text : List Char}
    (hfile : run.job.world.files.fileAt (run.job.world.environment.resolve file) = .ok location)
    (htext : Utf8.decode? (run.job.world.files.contentAt location) = some text) :
    ∀ way ∈ ways name options ended file, ∃ outcome last history,
      (onJob (emit name (render way.1 text))).Ends run outcome last ∧
        (way.2.evaluate ⟨builtins, substitute⟩).Ends run outcome ⟨last.job, history⟩ := by
  have hread := FileTree.read_of_fileAt hfile
  intro way hway
  obtain ⟨outcome, last, hemits⟩ := exists_ends_emit name (render way.1 text) run
  have hjob : (last.job.withInput .empty).withInput run.input = last.job := by
    rw [← (ends_emit_elsewhere hemits).1]
    rfl
  simp only [ways, List.mem_cons, List.not_mem_nil, or_false] at hway
  rcases hway with rfl | rfl | rfl
  · have hends := h.ends_named hread htext hemits
    exact ⟨outcome, last, _, hemits, by rwa [evaluate_namedCall]⟩
  · have hends := ends_redirectedCall substitute hfile (h.ends_fed htext hemits _)
    rw [hjob] at hends
    exact ⟨outcome, last, _, hemits, hends⟩
  · have hends := ends_catPipe substitute hread (h.ends_fed htext hemits _)
    rw [hjob] at hends
    exact ⟨outcome, last, _, hemits, hends⟩

/-- Where the file is missing or holds no text, nothing is written, and the job is as it was. -/
theorem ends_ways_error (h : Filters name options ended render)
    (hnone : ∀ location,
      run.job.world.files.fileAt (run.job.world.environment.resolve file) = .ok location →
        Utf8.decode? (run.job.world.files.contentAt location) = none) :
    ∀ way ∈ ways name options ended file, ∃ e history,
      (way.2.evaluate ⟨builtins, substitute⟩).Ends run (.error e) ⟨run.job, history⟩ := by
  have hcontent {content : Bytes}
      (hread : run.job.world.files.read (run.job.world.environment.resolve file) = .ok content) :
      Utf8.decode? content = none := by
    obtain ⟨location, hfile, hbytes⟩ := bind_eq_ok.mp hread
    obtain rfl := Except.ok.inj hbytes
    exact hnone location hfile
  have hjob (left : Source) : (run.job.withInput left).withInput run.input = run.job := rfl
  intro way hway
  simp only [ways, List.mem_cons, List.not_mem_nil, or_false] at hway
  rcases hway with rfl | rfl | rfl
  · obtain ⟨e, hends⟩ := h.ends_named_error fun content => hcontent
    exact ⟨e, _, by rwa [evaluate_namedCall]⟩
  · cases hfile : run.job.world.files.fileAt (run.job.world.environment.resolve file) with
    | ok location =>
      obtain ⟨e, left, hran⟩ := h.ends_fed_error (hnone location hfile) run run.history
      have hends := ends_redirectedCall substitute hfile hran
      rw [hjob] at hends
      exact ⟨e, _, hends⟩
    | error fault =>
      exact ⟨_, _, Call.ends_evaluate.mpr (.fails (prepare_redirectedCall_error hfile))⟩
  · cases hread : run.job.world.files.read (run.job.world.environment.resolve file) with
    | ok bytes =>
      obtain ⟨e, left, hran⟩ := h.ends_fed_error (hcontent hread) run _
      have hends := ends_catPipe substitute hread hran
      rw [hjob] at hends
      exact ⟨e, _, hends⟩
    | error fault =>
      obtain ⟨e, hcat⟩ : ∃ e, (builtins.run "cat" ["--", file]).Ends (run.withOutput .unlimited)
          (.error e) _ := ends_cat_error hread
      refine ⟨e, .ran "cat" (some e) :: run.history, ?_⟩
      rw [catPipe, Command.evaluate, Command.evaluatePipe_cons (List.cons_ne_nil _ _),
        evaluate_escape]
      exact ends_into.mpr (.inl ⟨e, _, hcat, rfl, rfl⟩)

end Ways

/-- **Three ways to feed a file.** An application that makes a text of a text can be given a file
behind `--`, as its input, or from `cat` through a pipe. Where the file holds text, each way ends as
writing what is made of it does. Then the three ways agree in the outcome and in what they leave,
save that `wc` puts the file's name behind its counts where it knows it. Where the file is missing,
is no file, or holds bytes that are not UTF-8, each way fails, and nothing has been written. -/
theorem file_feeding_agrees {name : String} {options : List String} {ended : Bool}
    {render : Option String → List Char → List Char} (h : Filters name options ended render)
    (file : String) (substitute : Substituter) (run : Run) :
    (∀ location text,
      run.job.world.files.fileAt (run.job.world.environment.resolve file) = .ok location →
        Utf8.decode? (run.job.world.files.contentAt location) = some text →
          (∀ way ∈ ways name options ended file, ∃ outcome last history,
            (Eval.onJob (emit name (render way.1 text))).Ends run outcome last ∧
              (way.2.evaluate ⟨builtins, substitute⟩).Ends run outcome ⟨last.job, history⟩) ∧
          (name ≠ "wc" → ∃ outcome job, ∀ way ∈ ways name options ended file, ∃ history,
            (way.2.evaluate ⟨builtins, substitute⟩).Ends run outcome ⟨job, history⟩) ∧
          (name = "wc" → ∃ counts, render none text = counts ++ ['\n'] ∧
            render (some file) text = counts ++ ' ' :: file.toList ++ ['\n'])) ∧
      ((∀ location,
        run.job.world.files.fileAt (run.job.world.environment.resolve file) = .ok location →
          Utf8.decode? (run.job.world.files.contentAt location) = none) →
        ∀ way ∈ ways name options ended file, ∃ e history,
          (way.2.evaluate ⟨builtins, substitute⟩).Ends run (.error e) ⟨run.job, history⟩) := by
  refine ⟨fun location text hfile htext => ?_, ends_ways_error h⟩
  have hways := ends_ways substitute h hfile htext
  refine ⟨hways, fun hname => ?_, fun hname => h.render_wc hname file text⟩
  obtain ⟨outcome, last, hemits⟩ := exists_ends_emit name (render none text) run
  refine ⟨outcome, last.job, fun way hway => ?_⟩
  obtain ⟨outcome', last', history, hemits', hends⟩ := hways way hway
  rw [h.render_eq hname] at hemits'
  obtain ⟨rfl, rfl⟩ := hemits.unique hemits'
  exact ⟨history, hends⟩

/-- The name of the first file looks like an option, and its last line is not ended. The second file
holds no text. -/
theorem file_feeding_agrees_option_name :
    let files := (FileTree.empty.insert ["-n"]
      (.file [0x61, 0x0D, 0x0A, 0x62, 0x0D, 0x0A, 0x63])).insert ["f"] (.file [0xFF, 0x0A])
    let run : Run := ⟨⟨⟨.withDirectory "/", files⟩, ⟨.empty, .unlimited⟩⟩, []⟩
    let written : Job := ⟨run.job.world, ⟨.empty, .memory [0x62, 0x0A, 0x63, 0x0A] none⟩⟩
    let context : Context := ⟨builtins, substituter builtins 0⟩
    (∀ way ∈ ways "tail" ["-n", "2"] false "-n", ∃ history,
      (way.2.evaluate context).Ends run (.ok ()) ⟨written, history⟩) ∧
    ∀ way ∈ ways "tail" ["-n", "2"] false "f", ∃ e history,
      (way.2.evaluate context).Ends run (.error e) ⟨run.job, history⟩ := by
  intro files run written context
  let render (_ : Option String) (text : List Char) : List Char :=
    Text.unlines (lastLines 2 (Text.lines text))
  have haccepted : tailUsage.scanFrom .start ["-n", "2"] =
      .ok ⟨false, false, ⟨[], [("--lines", "2")], []⟩⟩ := by
    rfl
  have hfilters : Filters "tail" ["-n", "2"] false render := .ofTail haccepted rfl
  have hemits : (Eval.onJob (emit "tail" (Text.unlines [['b'], ['c']]))).Ends run (.ok ())
      ⟨written, []⟩ := by
    decide +kernel
  refine ⟨fun way hway => ?_, (file_feeding_agrees hfilters "f" _ run).2 ?_⟩
  · obtain ⟨hways, -⟩ := (file_feeding_agrees hfilters "-n" (substituter builtins 0) run).1 ["-n"]
      ['a', '\r', '\n', 'b', '\r', '\n', 'c'] (by decide +kernel) (by decide +kernel)
    obtain ⟨outcome, last, history, hemits', hends⟩ := hways way hway
    obtain ⟨rfl, rfl⟩ := hemits.unique hemits'
    exact ⟨history, hends⟩
  · intro location hfile
    have hlocate : run.job.world.files.fileAt (run.job.world.environment.resolve "f") =
        Except.ok ["f"] := by
      decide +kernel
    obtain rfl := Except.ok.inj (hlocate.symm.trans hfile)
    decide +kernel

end LineShell
