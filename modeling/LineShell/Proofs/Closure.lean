import LineShell.Proofs.Faults
import LineShell.Proofs.Pipes
import LineShell.Proofs.QuoteAgreement
import LineShell.Proofs.Sequences

/-!
# What calls and pipes inherit

A call is put together from few kinds of steps: it looks at the shell, opens files, fails with
errors of its own, hands lines over and runs an application. A property that each of these has, and
that steps pass on to what is built from them, is so a property of every call and of every pipe. The
first one is to have an answer: evaluation only lacks one where a substitution does.
-/

namespace LineShell

/-- Neither an exit request nor the fault of a line that breaks inside quotes. The errors of the
evaluation itself are like this, unless it reads a line. -/
def ShellError.Plain : ShellError → Prop
  | .exit _ => False
  | .malformed .quotedLineBreak => False
  | _ => True

/-- Properties of steps on the shell that are passed on to what is built from the steps. A file may
be opened for output. -/
structure ShellClosed (P : ∀ ⦃α : Type⦄, Eval Shell α → Prop) : Prop where
  ofPure : ∀ {α : Type} (a : α), P (pure a)
  ofFail : ∀ {α : Type} {e : ShellError}, e.Plain → P (Eval.fail e : Eval Shell α)
  ofGet : P Eval.get
  ofBind : ∀ {α β : Type} {m : Eval Shell α} {f : α → Eval Shell β},
    P m → (∀ a, P (f a)) → P (m >>= f)
  ofOpenOutput : ∀ opening name, P (Redirection.openOutput opening name)

/-- Properties of steps on the shell and on a run, closed under the ways in which calls and pipes
are built. -/
structure StepClosed (P : ∀ ⦃α : Type⦄, Eval Shell α → Prop)
    (Q : ∀ ⦃α : Type⦄, Eval Run α → Prop) : Prop where
  ofPure : ∀ {α : Type} (a : α), P (pure a)
  ofFail : ∀ {α : Type} {e : ShellError}, e.Plain → P (Eval.fail e : Eval Shell α)
  ofGet : P Eval.get
  ofFiles : ∀ files, P (Eval.modify fun shell : Shell => { shell with world.files := files })
  ofBind : ∀ {α β : Type} {m : Eval Shell α} {f : α → Eval Shell β},
    P m → (∀ a, P (f a)) → P (m >>= f)
  ofShell : ∀ {α : Type} {m : Eval Shell α}, P m → Q (Eval.onShell m)
  ofRunBind : ∀ {α β : Type} {m : Eval Run α} {f : α → Eval Run β},
    Q m → (∀ a, Q (f a)) → Q (m >>= f)
  ofRedirect : ∀ {m : Eval Run Unit} (opened : Redirection.Files), Q m → Q (opened.redirect m)
  ofInto : ∀ {first second : Eval Run Unit}, Q first → Q second → Q (first.into second)
  ofRun : ∀ (registry : Registry) (name : String) (args : List String),
    Q (registry.run name args)

namespace Redirection

theorem divide_error {tokens : List String} {fault : SyntaxFault}
    (h : divide tokens = .error fault) : fault = .invalid := by
  fun_induction divide tokens with
  | case1 => cases h
  | case2 token rest _ ih | case5 token direction _ target rest _ ih =>
    rcases bind_eq_error.mp h with hrest | ⟨division, -, hdivision⟩
    · exact ih hrest
    · cases hdivision
  | case3 | case4 => exact (Except.error.inj h).symm

/-- Whatever came of looking for a file, there is a value or an error of the evaluation. -/
theorem ofFile_induct {α : Type} {motive : Eval Shell α → Prop} (name : String)
    (x : Except IoFault α) (hpure : ∀ a, motive (pure a))
    (hfail : ∀ e : ShellError, e.Plain → motive (Eval.fail e)) : motive (ofFile name x) := by
  cases x with
  | ok a => exact hpure a
  | error fault => exact hfail _ trivial

end Redirection

namespace ShellClosed

variable {P : ∀ ⦃α : Type⦄, Eval Shell α → Prop} {α β : Type} {substitute : Substituter}

section Steps

variable (closed : ShellClosed P)
include closed

theorem ofSyntax {x : Except SyntaxFault α}
    (hx : ∀ fault, x = .error fault → (ShellError.malformed fault).Plain) :
    P (Eval.ofSyntax x : Eval Shell α) := by
  cases x with
  | ok a => exact closed.ofPure a
  | error fault => exact closed.ofFail (hx fault rfl)

theorem foldlM {f : β → α → Eval Shell β} (hf : ∀ b a, P (f b a)) (as : List α) (b : β) :
    P (as.foldlM f b) := by
  induction as generalizing b with
  | nil => exact closed.ofPure b
  | cons a as ih => exact closed.ofBind (hf b a) ih

theorem finish (scan : Argument.Scan) : P (Eval.ofSyntax scan.finish) := by
  refine closed.ofSyntax fun fault hfault => ?_
  unfold Argument.Scan.finish QuoteStack.checkClosed at hfault
  split at hfault
  · cases hfault
    trivial
  · split at hfault
    · cases hfault
    · cases hfault
      trivial

end Steps

section Substitutions

variable (closed : ShellClosed P) (h : ∀ line, P (Argument.runSubstitution substitute line))
include closed h

theorem feed (scan : Argument.Scan) (c : Char) : P (scan.feed substitute c) := by
  rcases scan.goesOn_or_closes c with ⟨next, hgoesOn⟩ | ⟨outer, rfl, hquotes, hcloses⟩
  · rw [hgoesOn.feed_eq]
    exact closed.ofPure next
  · rw [hcloses]
    exact closed.ofBind (h _) fun output => closed.ofPure _

theorem resolve (token : String) : P (Argument.resolve substitute token) := by
  refine closed.ofBind (closed.foldlM (closed.feed h) _ _) fun scan => ?_
  exact closed.ofBind (closed.finish scan) fun _ => closed.ofBind closed.ofGet fun _ =>
    closed.ofPure _

theorem resolveAll (tokens : List String) : P (Argument.resolveAll substitute tokens) := by
  induction tokens with
  | nil => exact closed.ofPure []
  | cons token tokens ih =>
    exact closed.ofBind (closed.resolve h token) fun first =>
      closed.ofBind ih fun others => closed.ofPure _

theorem openNext (opened : Redirection.Files) (redirection : Redirection.Direction × String) :
    P (Redirection.openNext substitute opened redirection) := by
  have htarget : P (Redirection.resolveTarget substitute redirection.2) := by
    refine closed.ofBind (closed.resolve h _) fun names => ?_
    split
    · exact closed.ofPure _
    · exact closed.ofFail trivial
  refine closed.ofBind htarget fun name => ?_
  cases redirection.1 with
  | input =>
    have hinput : P (Redirection.openInput name) :=
      closed.ofBind closed.ofGet fun shell =>
        Redirection.ofFile_induct name _ closed.ofPure fun _ => closed.ofFail
    exact closed.ofBind hinput fun location => closed.ofPure _
  | output opening =>
    exact closed.ofBind (closed.ofOpenOutput opening name) fun sink => closed.ofPure _

theorem extract (tokens : List String) : P (Redirection.extract substitute tokens) := by
  have hdivide : P (Eval.ofSyntax (Redirection.divide tokens)) := by
    refine closed.ofSyntax fun fault hfault => ?_
    obtain rfl := Redirection.divide_error hfault
    trivial
  exact closed.ofBind hdivide fun division =>
    closed.ofBind (closed.foldlM (closed.openNext h) _ _) fun opened => closed.ofPure _

end Substitutions

end ShellClosed

namespace StepClosed

variable {P : ∀ ⦃α : Type⦄, Eval Shell α → Prop} {Q : ∀ ⦃α : Type⦄, Eval Run α → Prop}
  {context : Context}

section Steps

variable (closed : StepClosed P Q)
include closed

theorem openOutput (opening : FileTree.Opening) (name : String) :
    P (Redirection.openOutput opening name) := by
  refine closed.ofBind closed.ofGet fun shell => closed.ofBind ?_ ?_
  · exact Redirection.ofFile_induct name _ closed.ofPure fun _ => closed.ofFail
  intro (location, files)
  refine closed.ofBind (closed.ofFiles files) fun _ => ?_
  cases opening with
  | truncate => exact closed.ofPure _
  | append => exact closed.ofPure _

theorem shellClosed : ShellClosed P :=
  ⟨closed.ofPure, closed.ofFail, closed.ofGet, closed.ofBind, closed.openOutput⟩

theorem emptyCommand : Q (Eval.fail (.malformed .emptyCommand) : Eval Run Unit) := by
  have hfail : P (Eval.fail (.malformed .emptyCommand) : Eval Shell Unit) := closed.ofFail trivial
  exact closed.ofShell hfail

end Steps

section Commands

variable (closed : StepClosed P Q)
  (h : ∀ line, P (Argument.runSubstitution context.substitute line))
include closed h

theorem call (call : Call) : Q (call.evaluate context) := by
  unfold Call.evaluate
  split
  · exact closed.emptyCommand
  · refine closed.ofRunBind (closed.ofShell (closed.shellClosed.extract h call.tokens)) ?_
    intro (opened, tokens)
    refine closed.ofRunBind (closed.ofShell (closed.shellClosed.resolveAll h tokens)) ?_
    intro words
    split
    · exact closed.ofShell (closed.ofPure ())
    · exact closed.ofRedirect opened (closed.ofRun _ _ _)

theorem pipe (calls : List Call) : Q (Command.evaluatePipe context calls) := by
  induction calls with
  | nil => exact closed.emptyCommand
  | cons call calls ih =>
    by_cases hlast : calls = []
    · subst hlast
      exact closed.call h call
    · rw [Command.evaluatePipe_cons hlast]
      exact closed.ofInto (closed.call h call) ih

end Commands

end StepClosed

namespace Command

/-- What holds of a sequence when it holds of its commands holds of every command. -/
@[elab_as_elim]
theorem induct_members {motive : Command → Prop} (command : Command)
    (call : ∀ single, motive (.call single)) (pipe : ∀ stages, motive (.pipe stages))
    (sequence : ∀ commands, (∀ member ∈ commands, motive member) → motive (.sequence commands)) :
    motive command :=
  @Command.rec motive (fun commands => ∀ member ∈ commands, motive member) call pipe sequence
    (List.forall_mem_nil _)
    (fun _ _ hfirst hothers => List.forall_mem_cons.mpr ⟨hfirst, hothers⟩) command

end Command

/-- Properties of steps on a run, closed under the ways in which commands are built from calls. -/
structure CommandClosed (Q : ∀ ⦃α : Type⦄, Eval Run α → Prop) : Prop where
  ofPure : ∀ {α : Type} (a : α), Q (pure a)
  ofFail : ∀ {α : Type} (e : ShellError), Q (Eval.fail e : Eval Run α)
  ofBind : ∀ {α β : Type} {m : Eval Run α} {f : α → Eval Run β},
    Q m → (∀ a, Q (f a)) → Q (m >>= f)
  ofCapture : ∀ {m : Eval Run Unit}, Q m → Q m.capture
  ofReading : ∀ {m : Eval Run Unit} (bytes : Bytes), Q m → Q (m.reading bytes)
  ofWrite : ∀ bytes, Q (Eval.write bytes)

namespace CommandClosed

variable {Q : ∀ ⦃α : Type⦄, Eval Run α → Prop} {context : Context} (closed : CommandClosed Q)
  (hcall : ∀ call : Call, Q (call.evaluate context))
include closed

include hcall in
theorem pipe (stages : List Call) : Q (Command.evaluatePipe context stages) := by
  induction stages with
  | nil => exact closed.ofFail _
  | cons stage stages ih =>
    by_cases hlast : stages = []
    · subst hlast
      exact hcall stage
    · rw [Command.evaluatePipe_cons hlast, Eval.into_eq_capture]
      refine closed.ofBind (closed.ofCapture (hcall stage)) fun collected => ?_
      cases collected with
      | ok bytes => exact closed.ofReading bytes ih
      | error e => exact closed.ofFail e

theorem each {commands : List Command} (hmembers : ∀ member ∈ commands, Q (member.evaluate context))
    (exit : Option ShellError) : Q (Command.evaluateEach context exit commands) := by
  induction commands generalizing exit with
  | nil => exact closed.ofPure exit
  | cons command commands ih =>
    obtain ⟨hcommand, hcommands⟩ := List.forall_mem_cons.mp hmembers
    refine closed.ofBind (closed.ofCapture hcommand) fun ended => ?_
    exact closed.ofBind (closed.ofWrite _) fun _ => ih hcommands _

include hcall in
theorem evaluate (command : Command) : Q (command.evaluate context) := by
  induction command using Command.induct_members with
  | call single => exact hcall single
  | pipe stages => exact closed.pipe hcall stages
  | sequence commands ih =>
    refine closed.ofBind (closed.each ih none) fun exit => ?_
    cases exit with
    | some exit => exact closed.ofFail exit
    | none => exact closed.ofPure ()

/-- A line that is read wrongly fails without being evaluated. -/
theorem line (hevaluate : ∀ command : Command, Q (command.evaluate context)) (line : String) :
    Q (evaluateLine context line) := by
  refine closed.ofBind ?_ hevaluate
  cases Command.parse line with
  | ok command => exact closed.ofPure command
  | error fault => exact closed.ofFail _

end CommandClosed

/-! ### Answers -/

namespace Eval

variable {σ α β : Type}

/-- The step has an answer wherever it begins. -/
def Answers (m : Eval σ α) : Prop := ∀ s, m s ≠ none

theorem Answers.exists_ends {m : Eval σ α} (hm : m.Answers) (s : σ) :
    ∃ outcome t, m.Ends s outcome t :=
  (m.eq_none_or_ends s).resolve_left (hm s)

theorem Answers.bind {m : Eval σ α} {f : α → Eval σ β} (hm : m.Answers)
    (hf : ∀ a, (f a).Answers) : (m >>= f).Answers := by
  intro s
  rw [bind_apply]
  cases h : m s with
  | none => exact absurd h (hm s)
  | some result =>
    cases result with
    | ok a t => exact hf a t
    | error e t => exact Option.some_ne_none _

theorem Answers.onShell {m : Eval Shell α} (hm : m.Answers) : (Eval.onShell m).Answers := by
  intro run
  unfold Eval.onShell
  cases h : m run.shell with
  | none => exact absurd h (hm _)
  | some result => cases result <;> exact Option.some_ne_none _

theorem Answers.redirect {m : Eval Run α} (hm : m.Answers) (opened : Redirection.Files) :
    (opened.redirect m).Answers := by
  have hthrough (streams : Streams) (leave : Streams → Streams) :
      (m.through streams leave).Answers := by
    intro run
    unfold Eval.through
    cases h : m { run with job.streams := streams } with
    | none => exact absurd h (hm _)
    | some result => cases result <;> exact Option.some_ne_none _
  intro run
  unfold Redirection.Files.redirect
  exact hthrough _ _ run

theorem Answers.into {first second : Eval Run Unit} (hfirst : first.Answers)
    (hsecond : second.Answers) : (first.into second).Answers := by
  intro run
  unfold Eval.into
  cases h : first (run.withOutput .unlimited) with
  | none => exact absurd h (hfirst _)
  | some result =>
    cases result with
    | error e mid => exact Option.some_ne_none _
    | ok a mid =>
      cases h' : second (mid.relay run.output) with
      | none => exact absurd h' (hsecond _)
      | some result => cases result <;> simp [h']

theorem answers_run (registry : Registry) (name : String) (args : List String) :
    (registry.run name args).Answers := by
  unfold Registry.run
  split
  · exact fun run => Option.some_ne_none _
  · intro run
    simp only
    split <;> exact Option.some_ne_none _

theorem answers_closed :
    StepClosed (fun _ m => m.Answers) (fun _ m => m.Answers) where
  ofPure _ _ := Option.some_ne_none _
  ofFail _ _ := Option.some_ne_none _
  ofGet _ := Option.some_ne_none _
  ofFiles _ _ := Option.some_ne_none _
  ofBind := Answers.bind
  ofShell := Answers.onShell
  ofRunBind := Answers.bind
  ofRedirect opened hm := hm.redirect opened
  ofInto := Answers.into
  ofRun := answers_run

end Eval

theorem Command.answers_evaluate {context : Context}
    (h : ∀ line, (context.substitute line).Answers) (command : Command) :
    (command.evaluate context).Answers := by
  have hrun (line : String) :
      (Argument.runSubstitution context.substitute line).Answers :=
    Eval.Answers.bind (fun _ => Option.some_ne_none _) fun _ =>
      (h line).bind fun _ _ => Option.some_ne_none _
  induction command using induct_members with
  | call single => exact Eval.answers_closed.call hrun single
  | pipe stages => exact Eval.answers_closed.pipe hrun stages
  | sequence commands ih =>
    intro run hnone
    obtain ⟨outcome, after, hends⟩ := exists_ends_sequence ih run
    cases outcome <;> simp [Eval.Ends, hnone] at hends

end LineShell
