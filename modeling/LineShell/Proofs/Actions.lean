import LineShell.Proofs.Encoding
import LineShell.Proofs.Streams

/-!
# What built-in applications do

A built-in application reads: the environment, the files, its input. It writes to its output, and it
may end with an error. It does nothing else, `cd` apart, which also moves to another directory. A
property that reading and writing have, and that is passed on when one action follows another, is so
a property of every built-in application.
-/

namespace LineShell

variable {ε α β : Type}

/-- The end of an action, in the job that it leaves. -/
def Job.ended : Except ε α → Job → EStateM.Result ε Job α
  | .ok a, job => .ok a job
  | .error e, job => .error e job

theorem Job.ended_inj {outcome other : Except ε α} {job last : Job} :
    Job.ended outcome job = Job.ended other last ↔ outcome = other ∧ job = last := by
  cases outcome <;> cases other <;> simp [Job.ended]

/-- Reading takes nothing of a source and does not depend on it, or it takes all of it where this is
text. -/
def TakesNoneOrAll (read : Source → Except ε α × Source) : Prop :=
  (∃ outcome, ∀ input, read input = (outcome, input)) ∨
    ∀ input, Utf8.IsText input.unread → (read input).2 = input.drained

/-- What the action comes to, and what it leaves of the input, depends on the world and the input
alone, and it changes nothing but the input. Of a text it takes all if it takes anything. -/
def OnlyReads (action : Action ε α) : Prop :=
  ∃ read : World → Source → Except ε α × Source, (∀ world, TakesNoneOrAll (read world)) ∧
    ∀ job, action job = Job.ended (read job.world job.streams.input).1
      { job with streams.input := (read job.world job.streams.input).2 }

namespace OnlyReads

theorem pure (a : α) : OnlyReads (pure a : Action ε α) :=
  ⟨fun _ input => (.ok a, input), fun _ => .inl ⟨_, fun _ => rfl⟩, fun _ => rfl⟩

theorem throw (e : ε) : OnlyReads (throw e : Action ε α) :=
  ⟨fun _ input => (.error e, input), fun _ => .inl ⟨_, fun _ => rfl⟩, fun _ => rfl⟩

theorem environment : OnlyReads (Job.environment : Action ε Environment) :=
  ⟨fun world input => (.ok world.environment, input), fun _ => .inl ⟨_, fun _ => rfl⟩,
    fun _ => rfl⟩

theorem files : OnlyReads (Job.files : Action ε FileTree) :=
  ⟨fun world input => (.ok world.files, input), fun _ => .inl ⟨_, fun _ => rfl⟩, fun _ => rfl⟩

theorem readAll (error : IoFault → ε) : OnlyReads (Job.readAll.adaptExcept error) := by
  refine ⟨fun _ input => (input.contents.mapError error, input.drained),
    fun _ => .inr fun _ _ => rfl, fun job => ?_⟩
  cases h : job.streams.input.contents <;>
    simp [EStateM.adaptExcept, Job.readAll, Job.ended, Except.mapError, h]

theorem readLines (error : IoFault → ε) : OnlyReads (Job.readLines.adaptExcept error) := by
  refine ⟨fun _ input => (input.readLines.1.mapError error, input.readLines.2),
    fun _ => .inr fun input htext => ?_, fun job => ?_⟩
  · simp only [Source.readLines, Source.badLine?_of_isText htext]
  · cases h : job.streams.input.readLines.1 <;>
      simp [EStateM.adaptExcept, Job.readLines, Job.ended, Except.mapError, h]

end OnlyReads

/-- Take all that is left of the input. -/
def takeInput : Action ε Source := fun job =>
  .ok job.streams.input { job with streams.input := job.streams.input.drained }

theorem OnlyReads.takeInput : OnlyReads (takeInput : Action ε Source) :=
  ⟨fun _ input => (.ok input, input.drained), fun _ => .inr fun _ _ => rfl, fun _ => rfl⟩

theorem copyInput_eq :
    copyInput = (do
      let input ← takeInput
      emitBytes "cat" input.unread
      match input.failure with
      | some fault => complain "cat" fault.text
      | none => return ()) := rfl

/-- Make another directory the current one. -/
def moveTo (directory : String) : Action ε Unit :=
  modify fun job => { job with world.environment.directory := directory }

/-- Properties of actions that reading and writing have, and that are passed on to one action after
another. A write that fails is no exit request. -/
structure ActionClosed (P : ∀ ⦃α : Type⦄, Action ShellError α → Prop) : Prop where
  ofReads : ∀ {α : Type} {action : Action ShellError α}, OnlyReads action → P action
  ofBind : ∀ {α β : Type} {action : Action ShellError α} {next : α → Action ShellError β},
    P action → (∀ a, P (next a)) → P (action >>= next)
  ofWrite : ∀ (bytes : Bytes) {error : IoFault → ShellError},
    (∀ fault, (error fault).isExit = false) → P ((Job.write bytes).adaptExcept error)

namespace ActionClosed

variable {P : ∀ ⦃α : Type⦄, Action ShellError α → Prop} (closed : ActionClosed P)
include closed

theorem complain (name message : String) : P (complain name message : Action ShellError α) :=
  closed.ofReads (.throw _)

theorem emitBytes (name : String) (bytes : Bytes) : P (emitBytes name bytes) :=
  closed.ofWrite bytes fun _ => rfl

theorem emit (name : String) (text : List Char) : P (emit name text) :=
  closed.emitBytes name _

theorem readFile (name file : String) : P (readFile name file) := by
  refine closed.ofBind (closed.ofReads .environment) fun env => ?_
  refine closed.ofBind (closed.ofReads .files) fun files => ?_
  split
  · exact closed.ofReads (.pure _)
  · exact closed.complain name _

theorem readTextFile (name file : String) : P (readTextFile name file) := by
  refine closed.ofBind (closed.readFile name file) fun bytes => ?_
  split
  · exact closed.ofReads (.pure _)
  · exact closed.complain name _

theorem readTextInput (name : String) : P (readTextInput name) := by
  refine closed.ofBind (closed.ofReads (.readAll _)) fun bytes => ?_
  split
  · exact closed.ofReads (.pure _)
  · exact closed.ofReads (.throw _)

theorem readText (name : String) (file : Option String) : P (readText name file) := by
  cases file with
  | some file => exact closed.readTextFile name file
  | none => exact closed.readTextInput name

/-- Sorting out the arguments can only end in the help text or an error. -/
theorem application {usage : Usage} {run : Arguments → Action ShellError Unit}
    (hrun : ∀ arguments, P (run arguments)) (args : List String) :
    P (usage.application run args) := by
  unfold Usage.application
  split
  · exact hrun _
  · exact closed.ofWrite _ fun _ => rfl
  · exact closed.complain _ _

theorem pwd (args : List String) : P (pwd args) :=
  closed.application (fun _ => closed.ofBind (closed.ofReads .environment) fun _ =>
    closed.emit "pwd" _) args

theorem ls (args : List String) : P (ls args) := by
  refine closed.application (fun arguments => ?_) args
  refine closed.ofBind (closed.ofReads .environment) fun env => ?_
  refine closed.ofBind (closed.ofReads .files) fun files => ?_
  split
  · exact closed.emit "ls" _
  · exact closed.complain "ls" _

theorem echo (args : List String) : P (echo args) :=
  closed.application (fun _ => closed.emit "echo" _) args

theorem copyInput : P copyInput := by
  rw [copyInput_eq]
  refine closed.ofBind (closed.ofReads .takeInput) fun input => ?_
  refine closed.ofBind (closed.emitBytes "cat" input.unread) fun _ => ?_
  split
  · exact closed.complain "cat" _
  · exact closed.ofReads (.pure _)

theorem copyFiles (files : List String) : P (copyFiles files) := by
  induction files with
  | nil => exact closed.ofReads (.pure _)
  | cons file files ih =>
    exact closed.ofBind (closed.readFile "cat" file) fun bytes =>
      closed.ofBind (closed.emitBytes "cat" bytes) fun _ => ih

theorem cat (args : List String) : P (cat args) := by
  refine closed.application (fun arguments => ?_) args
  split
  · exact closed.copyInput
  · exact closed.copyFiles _

theorem printLines (name : String) (choose : List (List Char) → List (List Char))
    (file : Option String) : P (printLines name choose file) :=
  closed.ofBind (closed.readText name file) fun _ => closed.emit name _

theorem countFiles (selection : CountSelection) (files : List String) :
    P (countFiles selection files) := by
  induction files with
  | nil => exact closed.ofReads (.pure _)
  | cons file files ih =>
    exact closed.ofBind (closed.readTextFile "wc" file) fun text =>
      closed.ofBind (closed.emit "wc" _) fun _ => ih

theorem wc (args : List String) : P (wc args) := by
  refine closed.application (fun arguments => ?_) args
  simp only
  split
  · exact closed.ofBind (closed.readTextInput "wc") fun text => closed.emit "wc" _
  · exact closed.countFiles _ _

theorem searchFiles (isMatch : List Char → Bool) (context : Nat) (labelled : Bool)
    (files : List String) : P (Grep.searchFiles isMatch context labelled files) := by
  induction files with
  | nil => exact closed.ofReads (.pure _)
  | cons file files ih =>
    have hlines : P (Grep.fileLines file) := by
      refine closed.ofBind (closed.readFile "grep" file) fun bytes => ?_
      split
      · exact closed.ofReads (.pure _)
      · exact closed.ofReads (.throw _)
    exact closed.ofBind hlines fun lines => closed.ofBind (closed.emit "grep" _) fun _ => ih

theorem grep (args : List String) : P (grep args) := by
  refine closed.application (fun arguments => ?_) args
  split
  · exact closed.ofReads (.pure _)
  · unfold Grep.search
    simp only
    split
    · exact closed.complain "grep" _
    · split
      · exact closed.ofBind (closed.ofReads (.readLines _)) fun lines => closed.emit "grep" _
      · exact closed.searchFiles _ _ _ _

/-- `cd` also moves. -/
theorem cd (hmove : ∀ directory, P (moveTo directory)) (args : List String) : P (cd args) := by
  refine closed.application (fun arguments => ?_) args
  refine closed.ofBind (closed.ofReads .environment) fun env => ?_
  refine closed.ofBind (closed.ofReads .files) fun files => ?_
  split
  · exact closed.complain "cd" _
  · simp only
    split
    · refine closed.ofBind (closed.complain "cd" _) fun _ => ?_
      split
      · exact hmove _
      · exact closed.complain "cd" _
    · split
      · exact hmove _
      · exact closed.complain "cd" _

theorem builtin {name : String} {application : Application}
    (h : builtins.lookup name = some application) (hname : name ≠ "cd") (args : List String) :
    P (application args) := by
  have hmem : (name, application) ∈ builtins := by
    obtain ⟨before, after, hsplit, -⟩ := List.lookup_eq_some_iff.mp h
    rw [hsplit]
    exact List.mem_append_right _ List.mem_cons_self
  simp only [builtins, List.mem_cons, Prod.mk.injEq, List.not_mem_nil, or_false] at hmem
  rcases hmem with ⟨rfl, rfl⟩ | ⟨rfl, rfl⟩ | ⟨rfl, rfl⟩ | ⟨rfl, rfl⟩ | ⟨rfl, rfl⟩ | ⟨rfl, rfl⟩ |
    ⟨rfl, rfl⟩ | ⟨rfl, rfl⟩ | ⟨rfl, rfl⟩ | ⟨rfl, rfl⟩ | ⟨rfl, rfl⟩
  · exact closed.pwd args
  · exact absurd rfl hname
  · exact closed.ls args
  · exact closed.echo args
  · exact closed.cat args
  · exact closed.application (fun _ => closed.printLines _ _ _) args
  · exact closed.application (fun _ => closed.printLines _ _ _) args
  · exact closed.wc args
  · exact closed.grep args
  · exact closed.application (fun _ => closed.printLines _ _ _) args
  · exact closed.application (fun _ => closed.ofReads (.throw _)) args

end ActionClosed

/-! ### Actions in a run -/

section Runs

variable {run after : Run}

theorem Eval.onJob_bind {action : Action ShellError α} {next : α → Action ShellError β} :
    Eval.onJob (action >>= next) = Eval.onJob action >>= fun a => Eval.onJob (next a) := by
  funext run
  simp only [Eval.onJob, bind, EStateM.bind]
  cases action run.job <;> rfl

theorem Eval.ends_onJob {action : Action ShellError α} {outcome : Except ShellError α} :
    (Eval.onJob action).Ends run outcome after ↔
      ∃ job, action run.job = Job.ended outcome job ∧ after = { run with job } := by
  cases hresult : action run.job <;> cases outcome <;>
    simp [Eval.Ends, Eval.onJob, Job.ended, hresult, eq_comm, and_assoc]

theorem Eval.ends_moveTo {directory : String} {outcome : Except ShellError Unit} :
    (Eval.onJob (moveTo directory)).Ends run outcome after ↔
      outcome = .ok () ∧ after = { run with job.world.environment.directory := directory } := by
  have happly : Eval.onJob (moveTo directory) run =
      some (.ok () { run with job.world.environment.directory := directory }) := rfl
  cases outcome <;> simp [Eval.Ends, happly, eq_comm]

/-- Reading leaves another input, and would do so whatever the output is. -/
theorem OnlyReads.ends_onJob {action : Action ShellError α} {outcome : Except ShellError α}
    (h : OnlyReads action) (hends : (Eval.onJob action).Ends run outcome after) :
    ∃ input, after = run.withInput input ∧ ∀ sink,
      (Eval.onJob action).Ends (run.withOutput sink) outcome (after.withOutput sink) := by
  obtain ⟨read, -, hread⟩ := h
  obtain ⟨job, hjob, rfl⟩ := Eval.ends_onJob.mp hends
  rw [hread, Job.ended_inj] at hjob
  obtain ⟨rfl, rfl⟩ := hjob
  exact ⟨_, rfl, fun sink => Eval.ends_onJob.mpr ⟨_, hread _, rfl⟩⟩

/-- The name is unknown, or its application acts on the job and this is recorded. -/
theorem Registry.ends_run {registry : Registry} {name : String} {args : List String}
    {outcome : Except ShellError Unit} :
    (registry.run name args).Ends run outcome after ↔
      (registry.lookup name = none ∧ outcome = .error (.unknownApplication name) ∧ after = run) ∨
      ∃ application last, registry.lookup name = some application ∧
        (Eval.onJob (application args)).Ends run outcome last ∧
        after = { last with history := .ran name (failure? outcome) :: run.history } := by
  unfold Registry.run
  cases hlookup : registry.lookup name with
  | none => simp [Eval.ends_fail]
  | some application =>
    simp only [reduceCtorEq, false_and, false_or, Option.some.injEq, exists_eq_left',
      exists_and_left, Eval.ends_onJob]
    cases hresult : application args run.job <;> cases outcome <;>
      simp +contextual [Eval.Ends, Job.ended, failure?, hresult, eq_comm, and_assoc]

end Runs

end LineShell
