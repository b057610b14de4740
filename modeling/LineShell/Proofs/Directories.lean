import LineShell.Proofs.Actions
import LineShell.Proofs.Interleaving
import LineShell.Proofs.Walks

/-!
# What becomes of the environment

Evaluation leaves the variables alone, and the current directory is changed by `cd` only, where it
succeeds: it then names a directory by a canonical path. It goes on to do so, for all that is ever
written are files, and these are not put in the place of directories.
-/

namespace LineShell

/-- The history and the files have grown. The variables are as before, and so is the directory,
unless `cd` has succeeded since and the directory is there. -/
structure Shell.Travels (before after : Shell) : Prop where
  files : before.world.files.Keeps after.world.files
  bindings : after.world.environment.bindings = before.world.environment.bindings
  moves : ∃ events, after.history = events ++ before.history ∧
    (after.world.environment.directory = before.world.environment.directory ∨
      .ran "cd" none ∈ events ∧
        after.world.files.IsCanonical after.world.environment.directory)

namespace Shell.Travels

variable {before mid after : Shell}

theorem of_environment_eq {events : List Event}
    (henvironment : after.world.environment = before.world.environment)
    (hfiles : before.world.files.Keeps after.world.files)
    (hhistory : after.history = events ++ before.history) : before.Travels after :=
  ⟨hfiles, congrArg _ henvironment, events, hhistory, .inl (congrArg _ henvironment)⟩

theorem refl (shell : Shell) : shell.Travels shell :=
  of_environment_eq rfl (.refl _) (List.nil_append _).symm

theorem trans (hfirst : before.Travels mid) (hlater : mid.Travels after) :
    before.Travels after := by
  obtain ⟨hfiles, hbindings, first, hfirst, hmid⟩ := hfirst
  obtain ⟨hmoreFiles, hmoreBindings, later, hlater, hafter⟩ := hlater
  refine ⟨hfiles.trans hmoreFiles, hmoreBindings.trans hbindings, later ++ first, ?_, ?_⟩
  · rw [hlater, hfirst, List.append_assoc]
  · rcases hafter with hsame | ⟨hcd, hthere⟩
    · rcases hmid with hdirectory | ⟨hcd, hthere⟩
      · exact .inl (hsame.trans hdirectory)
      · -- The directory of the first part is still there.
        rw [hsame]
        exact .inr ⟨List.mem_append_right _ hcd, hmoreFiles.isCanonical hthere⟩
    · exact .inr ⟨List.mem_append_left _ hcd, hthere⟩

end Shell.Travels

/-! ### Applications -/

/-- `cd` fails and leaves everything as it is, or it moves to a directory that is there. -/
theorem changeDirectory_apply (target : Option String) (job : Job) :
    (∃ e, changeDirectory target job = .error e job) ∨
      ∃ directory, job.world.files.IsCanonical directory ∧
        changeDirectory target job = moveTo directory job := by
  unfold changeDirectory
  simp only [bind, EStateM.bind, Job.environment, Job.files]
  cases directoryTarget job.world.environment target with
  | none => exact .inl ⟨_, rfl⟩
  | some name =>
    cases hdirectory : job.world.files.isDirectory (job.world.environment.resolve name) with
    | false => exact .inl ⟨_, by simp only [hdirectory]; rfl⟩
    | true =>
      cases hpath : job.world.files.canonicalPath (job.world.environment.resolve name) with
      | error fault => exact .inl ⟨_, by simp only [hdirectory, hpath]; rfl⟩
      | ok directory =>
        refine .inr ⟨directory, FileTree.isCanonical_canonicalPath hdirectory hpath, ?_⟩
        simp only [hdirectory, hpath]
        rfl

namespace Eval

variable {α β : Type}

/-- The step leaves the environment alone. -/
def Unmoved (m : Eval Run α) : Prop :=
  ∀ (run : Run) outcome (after : Run), m.Ends run outcome after →
    after.job.world.environment = run.job.world.environment

theorem unmoved_closed : ActionClosed fun _ action => (onJob action).Unmoved where
  ofReads h run outcome after hends := by
    obtain ⟨input, rfl, -⟩ := h.ends_onJob hends
    rfl
  ofBind haction hnext run outcome after hends := by
    rw [onJob_bind] at hends
    rcases ends_bind.mp hends with ⟨a, mid, hfirst, hlater⟩ | ⟨e, hfails, rfl⟩
    · exact (hnext a _ _ _ hlater).trans (haction _ _ _ hfirst)
    · exact haction _ _ _ hfails
  ofWrite bytes error _ run outcome after hends := by
    rcases ends_onJob_write.mp hends with ⟨-, -, rfl⟩ | ⟨-, -, rfl⟩ <;> rfl

/-- Where the output stands, the step writes files at most, and the output stands afterwards. -/
def WritesFiles (m : Eval Run α) : Prop :=
  ∀ (run : Run) outcome (after : Run), run.output.Stands run.job.world.files →
    m.Ends run outcome after →
      run.job.world.files.Keeps after.job.world.files ∧
        after.output.Stands after.job.world.files

theorem writesFiles_closed : ActionClosed fun _ action => (onJob action).WritesFiles where
  ofReads h run outcome after hstands hends := by
    obtain ⟨input, rfl, -⟩ := h.ends_onJob hends
    exact ⟨.refl _, hstands⟩
  ofBind haction hnext run outcome after hstands hends := by
    rw [onJob_bind] at hends
    rcases ends_bind.mp hends with ⟨a, mid, hfirst, hlater⟩ | ⟨e, hfails, rfl⟩
    · obtain ⟨hkeeps, hmid⟩ := haction _ _ _ hstands hfirst
      obtain ⟨hmore, hafter⟩ := hnext a _ _ _ hmid hlater
      exact ⟨hkeeps.trans hmore, hafter⟩
    · exact haction _ _ _ hstands hfails
  ofWrite bytes error _ run outcome after hstands hends := by
    rcases ends_onJob_write.mp hends with ⟨-, -, rfl⟩ | ⟨-, -, rfl⟩
    · exact hstands.accept _
    · exact hstands.accept _

end Eval

section Builtins

open Eval

variable {run after : Run} {name : String} {args : List String} {outcome : Except ShellError Unit}

/-- `cd` has moved to a directory that is there. -/
def Moved (run : Run) (name : String) (outcome : Except ShellError Unit) (after : Run) : Prop :=
  name = "cd" ∧ outcome = .ok () ∧
    after.job.world.environment.bindings = run.job.world.environment.bindings ∧
    after.job.world.files.IsCanonical after.job.world.environment.directory

theorem moved_of_changeDirectory {target : Option String}
    (h : (onJob (changeDirectory target)).Ends run outcome after) :
    after.job.world.environment = run.job.world.environment ∨ Moved run "cd" outcome after := by
  obtain ⟨job, hjob, rfl⟩ := ends_onJob.mp h
  rcases changeDirectory_apply target run.job with ⟨e, hfails⟩ | ⟨directory, hthere, hmoves⟩
  · have hended : Job.ended (.error e) run.job = Job.ended outcome job := hfails.symm.trans hjob
    obtain ⟨-, rfl⟩ := Job.ended_inj.mp hended
    exact .inl rfl
  · have hended : Job.ended (.ok ()) _ = Job.ended outcome job := hmoves.symm.trans hjob
    obtain ⟨rfl, rfl⟩ := Job.ended_inj.mp hended
    exact .inr ⟨rfl, rfl, rfl, hthere⟩

theorem unmoved_or_moved_of_lookup {application : Application}
    (hlookup : builtins.lookup name = some application)
    (h : (onJob (application args)).Ends run outcome after) :
    after.job.world.environment = run.job.world.environment ∨ Moved run name outcome after := by
  by_cases hname : name = "cd"
  · subst hname
    obtain rfl : cd = application := Option.some.inj hlookup
    unfold cd Usage.application at h
    simp only at h
    split at h
    · exact moved_of_changeDirectory h
    · exact .inl (unmoved_closed.ofWrite _ (fun _ => rfl) _ _ _ h)
    · exact .inl (unmoved_closed.complain _ _ _ _ _ h)
  · exact .inl (unmoved_closed.builtin hlookup hname args _ _ _ h)

theorem unmoved_or_moved (h : (builtins.run name args).Ends run outcome after) :
    after.job.world.environment = run.job.world.environment ∨ Moved run name outcome after := by
  rcases Registry.ends_run.mp h with ⟨-, -, rfl⟩ | ⟨application, last, hlookup, hran, rfl⟩
  · exact .inl rfl
  · have hmoved := unmoved_or_moved_of_lookup hlookup hran
    exact hmoved

theorem writesFiles_of_lookup {application : Application}
    (hlookup : builtins.lookup name = some application) (args : List String) :
    (onJob (application args)).WritesFiles := by
  by_cases hname : name = "cd"
  · subst hname
    obtain rfl : cd = application := Option.some.inj hlookup
    refine writesFiles_closed.cd (fun directory run outcome after hstands hmoves => ?_) args
    obtain ⟨-, rfl⟩ := ends_moveTo.mp hmoves
    exact ⟨.refl _, hstands⟩
  · exact writesFiles_closed.builtin hlookup hname args

theorem writesFiles_run (name : String) (args : List String) :
    (builtins.run name args).WritesFiles := by
  intro run outcome after hstands h
  rcases Registry.ends_run.mp h with ⟨-, -, rfl⟩ | ⟨application, last, hlookup, hran, rfl⟩
  · exact ⟨.refl _, hstands⟩
  · have hwritten := writesFiles_of_lookup hlookup args _ _ _ hstands hran
    exact hwritten

/-- The history tells of `cd` whenever the environment has changed. -/
theorem travels_run (hstands : run.output.Stands run.job.world.files)
    (h : (builtins.run name args).Ends run outcome after) : run.shell.Travels after.shell := by
  obtain ⟨hkeeps, -⟩ := writesFiles_run name args _ _ _ hstands h
  have hhistory : ∃ events, after.history = events ++ run.history ∧
      (Moved run name outcome after → .ran "cd" none ∈ events) := by
    rcases Registry.ends_run.mp h with ⟨-, rfl, rfl⟩ | ⟨application, last, -, hran, rfl⟩
    · exact ⟨[], rfl, fun hmoved => nomatch hmoved.2.1⟩
    · obtain ⟨job, -, rfl⟩ := ends_onJob.mp hran
      refine ⟨[_], rfl, ?_⟩
      rintro ⟨rfl, rfl, -⟩
      exact List.mem_singleton_self _
  obtain ⟨events, hevents, htold⟩ := hhistory
  rcases unmoved_or_moved h with hsame | hmoved
  · exact .of_environment_eq hsame hkeeps hevents
  · obtain ⟨-, -, hbindings, hthere⟩ := id hmoved
    exact ⟨hkeeps, hbindings, events, hevents, .inr ⟨htold hmoved, hthere⟩⟩

end Builtins

/-! ### Steps of evaluation -/

namespace Eval

variable {α β : Type}

/-- However a step on the shell ends, it has travelled there. -/
def Travels (m : Eval Shell α) : Prop :=
  ∀ (shell : Shell) outcome (after : Shell), m.Ends shell outcome after → shell.Travels after

theorem Travels.bind {m : Eval Shell α} {f : α → Eval Shell β} (hm : m.Travels)
    (hf : ∀ a, (f a).Travels) : (m >>= f).Travels := by
  intro shell outcome after h
  rcases ends_bind.mp h with ⟨a, mid, hfirst, hlater⟩ | ⟨e, hfails, rfl⟩
  · exact (hm _ _ _ hfirst).trans (hf a _ _ _ hlater)
  · exact hm _ _ _ hfails

theorem travels_openOutput (opening : FileTree.Opening) (name : String) :
    (Redirection.openOutput opening name).Travels := by
  intro shell outcome after h
  cases outcome with
  | ok sink =>
    obtain ⟨location, files, hopened, -, rfl⟩ := Redirection.ends_openOutput_ok.mp h
    obtain ⟨-, hputs⟩ := FileTree.openOutput_ok hopened
    exact .of_environment_eq rfl hputs.keeps (List.nil_append _).symm
  | error e =>
    obtain ⟨-, -, -, rfl⟩ := Redirection.ends_openOutput_error.mp h
    exact .refl _

theorem travels_closed : ShellClosed fun _ m => m.Travels where
  ofPure a shell outcome after h := by
    obtain ⟨-, rfl⟩ := ends_pure.mp h
    exact .refl _
  ofFail _ shell outcome after h := by
    obtain ⟨-, rfl⟩ := ends_fail.mp h
    exact .refl _
  ofGet shell outcome after h := by
    obtain ⟨-, rfl⟩ := ends_get.mp h
    exact .refl _
  ofBind := Travels.bind
  ofOpenOutput := travels_openOutput

theorem travels_runSubstitution {substitute : Substituter} {line : String}
    (h : (substitute line).Travels) : (Argument.runSubstitution substitute line).Travels := by
  refine Travels.bind (fun shell outcome after hends => ?_) fun _ =>
    h.bind fun output => travels_closed.ofPure _
  obtain ⟨-, rfl⟩ := ends_modify.mp hends
  exact .of_environment_eq rfl (.refl _) (List.singleton_append.symm)

/-- However a step on a run ends whose output stands, it has travelled there, and the output
stands. -/
def Proceeds (m : Eval Run α) : Prop :=
  ∀ (run : Run) outcome (after : Run), run.output.Stands run.job.world.files →
    m.Ends run outcome after →
      run.shell.Travels after.shell ∧ after.output.Stands after.job.world.files

theorem Travels.onShell {m : Eval Shell α} (hm : m.Travels) : (Eval.onShell m).Proceeds := by
  intro run outcome after hstands h
  obtain ⟨shell, hends, rfl⟩ := ends_onShell.mp h
  have htravels := hm _ _ _ hends
  exact ⟨htravels, hstands.mono htravels.files⟩

theorem proceeds_run (name : String) (args : List String) : (builtins.run name args).Proceeds :=
  fun _ _ _ hstands h => ⟨travels_run hstands h, (writesFiles_run name args _ _ _ hstands h).2⟩

theorem proceeds_closed : CommandClosed fun _ m => m.Proceeds where
  ofPure a run outcome after hstands h := by
    obtain ⟨-, rfl⟩ := ends_pure.mp h
    exact ⟨.refl _, hstands⟩
  ofFail e run outcome after hstands h := by
    obtain ⟨-, rfl⟩ := ends_fail.mp h
    exact ⟨.refl _, hstands⟩
  ofBind hm hf run outcome after hstands h := by
    rcases ends_bind.mp h with ⟨a, mid, hfirst, hlater⟩ | ⟨e, hfails, rfl⟩
    · obtain ⟨htravels, hmid⟩ := hm _ _ _ hstands hfirst
      obtain ⟨hmore, hafter⟩ := hf a _ _ _ hmid hlater
      exact ⟨htravels.trans hmore, hafter⟩
    · exact hm _ _ _ hstands hfails
  ofCapture hm run outcome after hstands h := by
    obtain ⟨-, -, @⟨ended, last, hends⟩⟩ := ends_capture.mp h
    obtain ⟨htravels, -⟩ := hm (run.withOutput .unlimited) ended last trivial hends
    exact ⟨htravels, hstands.mono htravels.files⟩
  ofReading bytes hm run outcome after hstands h := by
    obtain ⟨last, hends, rfl⟩ := ends_reading.mp h
    have hlast := hm (run.withInput (.ofBytes bytes)) outcome last hstands hends
    exact hlast
  ofWrite bytes run outcome after hstands h := by
    rcases ends_write.mp h with ⟨-, -, rfl⟩ | ⟨-, -, rfl⟩
    · obtain ⟨hkeeps, hafter⟩ := hstands.accept bytes
      exact ⟨.of_environment_eq rfl hkeeps (List.nil_append _).symm, hafter⟩
    · obtain ⟨hkeeps, hafter⟩ := hstands.accept (bytes.take (run.output.room bytes.length))
      exact ⟨.of_environment_eq rfl hkeeps (List.nil_append _).symm, hafter⟩

end Eval

/-! ### Calls and lines -/

section Lines

open Eval

variable {substitute : Substituter}

namespace Redirection

theorem stands_sinkAt {opening : FileTree.Opening} {location : Location} {files : FileTree}
    (h : ∃ content, files.get? location = some (.file content)) :
    (sinkAt opening location).Stands files := by
  cases opening with
  | truncate => exact h
  | append => exact h

/-- What has been opened for output stands when all redirections have been opened, whatever the
substitutions in later targets do. -/
theorem OpensEach.stands (h : ∀ line, (substitute line).Travels)
    {targets : List (Direction × String)} {opened last : Files} {shell after : Shell}
    (hopens : OpensEach substitute targets opened shell last after)
    (hopened : ∀ sink ∈ opened.output, sink.Stands shell.world.files) :
    ∀ sink ∈ last.output, sink.Stands after.world.files := by
  have hresolve := travels_closed.resolve fun line => travels_runSubstitution (h line)
  induction hopens with
  | nil => exact hopened
  | cons first others ih =>
    refine ih fun sink hsink => ?_
    cases first with
    | input named found => exact (hopened sink hsink).mono (hresolve _ _ _ _ named).files
    | output named created =>
      obtain ⟨-, hputs⟩ := FileTree.openOutput_ok created
      obtain rfl := Option.some.inj hsink
      exact stands_sinkAt ⟨_, hputs.there⟩

end Redirection

namespace Call

theorem travels_prepare (h : ∀ line, (substitute line).Travels) (call : Call) :
    (call.prepare substitute).Travels := by
  have hrun (line : String) := travels_runSubstitution (h line)
  unfold prepare
  split
  · exact travels_closed.ofFail trivial
  · refine (travels_closed.extract hrun call.tokens).bind fun (opened, tokens) => ?_
    exact (travels_closed.resolveAll hrun tokens).bind fun words => travels_closed.ofPure _

theorem prepare_stands (h : ∀ line, (substitute line).Travels) {call : Call} {shell after : Shell}
    {opened : Redirection.Files} {words : List String}
    (hends : (call.prepare substitute).Ends shell (.ok (opened, words)) after) :
    ∀ sink ∈ opened.output, sink.Stands after.world.files := by
  unfold prepare at hends
  split at hends
  · cases hends
  · obtain ⟨⟨files, tokens⟩, mid, hextract, hends⟩ := ends_bind_ok.mp hends
    obtain ⟨values, last, hwords, hends⟩ := ends_bind_ok.mp hends
    obtain ⟨hsame, rfl⟩ := ends_pure.mp hends
    obtain ⟨rfl, rfl⟩ := Prod.mk.inj (Except.ok.inj hsame)
    obtain ⟨division, -, hopens, -⟩ := Redirection.ends_extract_ok.mp hextract
    have hstands := (Redirection.ends_foldlM_openNext_ok.mp hopens).stands h
      (by simp [Redirection.Files.unopened])
    have hrun (line : String) := travels_runSubstitution (h line)
    exact fun sink hsink =>
      (hstands sink hsink).mono (travels_closed.resolveAll hrun tokens _ _ _ hwords).files

/-- The application runs on what has been opened, or on the output of the run, which is still
there. -/
theorem proceeds_evaluate {context : Context} (hregistry : context.registry = builtins)
    (h : ∀ line, (context.substitute line).Travels) (call : Call) :
    (call.evaluate context).Proceeds := by
  intro run outcome after hstands hends
  rcases ends_evaluate.mp hends with hprepared | hprepared |
    @⟨opened, name, args, shell, _, last, hprepared, hran⟩
  · exact (travels_prepare h call).onShell _ _ _ hstands (ends_onShell.mpr ⟨_, hprepared, rfl⟩)
  · exact (travels_prepare h call).onShell _ _ _ hstands (ends_onShell.mpr ⟨_, hprepared, rfl⟩)
  · rw [hregistry] at hran
    have htravels := travels_prepare h call _ _ _ hprepared
    have hthere := hstands.mono htravels.files
    have henter : (opened.enter (run.resume shell)).output.Stands shell.world.files := by
      show (opened.output.getD run.output).Stands shell.world.files
      cases hsink : opened.output with
      | none => exact hthere
      | some sink => exact prepare_stands h hprepared sink hsink
    obtain ⟨hmore, hlast⟩ := proceeds_run name args _ _ _ henter hran
    refine ⟨htravels.trans hmore, ?_⟩
    show (if opened.output.isSome then run.output else last.output).Stands last.job.world.files
    split
    · exact hthere.mono hmore.files
    · exact hlast

end Call

theorem proceeds_evaluateLine (h : ∀ line, (substitute line).Travels) (line : String) :
    (evaluateLine ⟨builtins, substitute⟩ line).Proceeds :=
  proceeds_closed.line (proceeds_closed.evaluate (Call.proceeds_evaluate rfl h)) line

theorem travels_substituter (depth : Nat) (line : String) :
    (substituter builtins depth line).Travels := by
  induction depth generalizing line with
  | zero =>
    intro shell outcome after hends
    cases outcome <;> cases hends
  | succ depth ih =>
    intro shell outcome after hends
    obtain ⟨ended, last, hended, -, rfl⟩ := ends_capturedLine.mp hends
    exact (proceeds_evaluateLine ih line shell.capturing ended last trivial hended).1

end Lines

/-! ### Sessions -/

/-- A line to be evaluated, with its own input, and the number of bytes that its output takes if it
does not take all. -/
structure Request where
  line : String
  input : Source
  limit : Option Nat

/-- The run in which a shell meets the request. -/
def Request.begin (request : Request) (shell : Shell) : Run :=
  ⟨⟨shell.world, ⟨request.input, .memory [] request.limit⟩⟩, shell.history⟩

/-- The requests are met one after the other, however each of them ends. -/
inductive Session (interpreter : Interpreter) : List Request → Shell → Shell → Prop
  | nil {shell : Shell} : Session interpreter [] shell shell
  | cons {request : Request} {requests : List Request} {shell after : Shell}
      {outcome : Except ShellError Unit} {last : Run}
      (ends : (interpreter.evaluate request.line).Ends (request.begin shell) outcome last)
      (others : Session interpreter requests last.shell after) :
      Session interpreter (request :: requests) shell after

theorem Session.travels {depth : Nat} {requests : List Request} {shell after : Shell}
    (h : Session ⟨builtins, depth⟩ requests shell after) : shell.Travels after := by
  induction h with
  | nil => exact .refl _
  | @cons request requests shell after outcome last ends others ih =>
    have hline := proceeds_evaluateLine (travels_substituter depth) request.line
    obtain ⟨htravels, -⟩ := hline (request.begin shell) outcome last trivial ends
    exact htravels.trans ih

/-- Whatever the lines of a session are and however each of them ends: the variables are as they
were, and the current directory is as it was, or it is the canonical path of a directory that is
there, and `cd` has succeeded. Of the applications, only `cd` changes anything of the environment,
and when it fails it does not. -/
theorem environment_changed_by_cd_alone {depth : Nat} {requests : List Request}
    {shell after : Shell} (h : Session ⟨builtins, depth⟩ requests shell after) :
    after.world.environment.bindings = shell.world.environment.bindings ∧
    (after.world.environment.directory = shell.world.environment.directory ∨
      after.world.files.IsCanonical after.world.environment.directory) ∧
    (∃ events, after.history = events ++ shell.history ∧
      (.ran "cd" none ∉ events →
        after.world.environment.directory = shell.world.environment.directory)) ∧
    ∀ name args run outcome last, (builtins.run name args).Ends run outcome last →
      last.job.world.environment = run.job.world.environment ∨
        name = "cd" ∧ outcome = .ok () ∧
          last.job.world.environment.bindings = run.job.world.environment.bindings ∧
          last.job.world.files.IsCanonical last.job.world.environment.directory := by
  obtain ⟨-, hbindings, events, hevents, hmoves⟩ := h.travels
  refine ⟨hbindings, hmoves.imp_right And.right, ⟨events, hevents, fun hno => ?_⟩,
    fun name args run outcome last => unmoved_or_moved⟩
  exact hmoves.resolve_right fun hcd => hno hcd.1

/-- Both lines fail, the first one in `cd`. In the second one a substitution follows a link down to
the directory that it stands for, and this is the current one afterwards, although another `cd`
fails behind it. -/
theorem environment_changed_by_cd_alone_link :
    let folders := (FileTree.empty.insert ["d"] .directory).insert ["d", "e"] .directory
    let files := folders.insert ["l"] (.link "d/e")
    let world (directory : String) : World := ⟨⟨[("HOME", "/gone")], directory⟩, files⟩
    let failed (target : String) : Event :=
      .ran "cd" (some (.application "cd" (target ++ ": No such directory")))
    let requests : List Request := [⟨"cd", .empty, none⟩, ⟨"echo `cd l` | cd gone", .empty, some 0⟩]
    let after : Shell :=
      ⟨world "/d/e",
        [failed "gone", .ran "echo" none, .ran "cd" none, .substituted "cd l", failed "/gone"]⟩
    Session ⟨builtins, 1⟩ requests ⟨world "/", []⟩ after ∧
      after.world.files.IsCanonical after.world.environment.directory := by
  intro folders files world failed requests after
  have hfirst : (Interpreter.evaluate ⟨builtins, 1⟩ "cd").Ends
      ⟨⟨world "/", ⟨.empty, .memory [] none⟩⟩, []⟩
      (.error (.application "cd" "/gone: No such directory"))
      ⟨⟨world "/", ⟨.empty, .memory [] none⟩⟩, [failed "/gone"]⟩ := by
    decide +kernel
  have hsecond : (Interpreter.evaluate ⟨builtins, 1⟩ "echo `cd l` | cd gone").Ends
      ⟨⟨world "/", ⟨.empty, .memory [] (some 0)⟩⟩, [failed "/gone"]⟩
      (.error (.application "cd" "gone: No such directory"))
      ⟨⟨world "/d/e", ⟨.empty, .memory [] (some 0)⟩⟩, after.history⟩ := by
    decide +kernel
  have hsession : Session ⟨builtins, 1⟩ requests ⟨world "/", []⟩ after :=
    .cons hfirst (.cons hsecond .nil)
  obtain ⟨-, hdirectory, -⟩ := environment_changed_by_cd_alone hsession
  exact ⟨hsession, hdirectory.resolve_left (by decide)⟩

end LineShell
