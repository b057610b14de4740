import LineShell.Proofs.Deepening
import LineShell.Proofs.Directories
import LineShell.Proofs.Extraction

/-!
# Files change where they are opened

Whatever lines are evaluated and however they end, a file changes only if a redirection in one of
the calls has opened it for output, in a line of a substitution or outside. Which openings there are
is said from where the evaluation comes to each call, and followed from there: the resolution of a
token changes what the lines that it hands over change, a call also what it opens, and a command
what its calls do. Directories, links and all other files stay, and with them what every path to
them leads to.
-/

namespace LineShell

open FileTree (Opening)

/-! ### What is opened -/

namespace Call

/-- The call, prepared from the shell on, opens the file at the location for output. -/
inductive OpensOutput (substitute : Substituter) (call : Call) (shell : Shell) :
    Opening → Location → Prop
  | intro {division : Redirection.Division} {opening : Opening} {target name : String}
      {now mid : Shell} {location : Location} {files : FileTree}
      (divided : Redirection.divide call.tokens = .ok division)
      (visited : Visits (Redirection.Opens substitute) division.targets shell
        (.output opening, target) now)
      (named : (Argument.resolve substitute target).Ends now (.ok [name]) mid)
      (created : mid.world.files.openOutput opening (mid.world.environment.resolve name) =
        .ok (location, files)) :
      OpensOutput substitute call shell opening location

end Call

/-- A call of the line opens the file for output, or a call of a line that is handed over does. -/
inductive Task.OpensOutput (registry : Registry) : Nat → Task → Opening → Location → Prop
  | own {depth : Nat} {task : Task} {command : Command} {call : Call} {shell : Shell}
      {opening : Opening} {location : Location} (parsed : Command.parse task.line = .ok command)
      (prepared : command.Prepares ⟨registry, substituter registry depth⟩ task.run call shell)
      (opens : call.OpensOutput (substituter registry depth) shell opening location) :
      OpensOutput registry depth task opening location
  | nested {depth : Nat} {task : Task} {command : Command} {line : String} {now : Shell}
      {opening : Opening} {location : Location} (parsed : Command.parse task.line = .ok command)
      (handed : command.Hands ⟨registry, substituter registry (depth + 1)⟩ task.run line now)
      (opens : OpensOutput registry depth ⟨line, now.capturing⟩ opening location) :
      OpensOutput registry (depth + 1) task opening location

/-- The file is opened for output while one of the requests is met. -/
inductive Session.OpensOutput (interpreter : Interpreter) :
    List Request → Shell → Opening → Location → Prop
  | here {request : Request} {requests : List Request} {shell : Shell} {opening : Opening}
      {location : Location}
      (opens : Task.OpensOutput interpreter.registry interpreter.depth
        ⟨request.line, request.begin shell⟩ opening location) :
      OpensOutput interpreter (request :: requests) shell opening location
  | later {request : Request} {requests : List Request} {shell : Shell} {opening : Opening}
      {location : Location} {outcome : Except ShellError Unit} {last : Run}
      (ends : (interpreter.evaluate request.line).Ends (request.begin shell) outcome last)
      (opens : OpensOutput interpreter requests last.shell opening location) :
      OpensOutput interpreter (request :: requests) shell opening location

/-! ### Changes at opened locations -/

namespace FileTree

/-- Files have been written at opened locations only, and where a location has been opened for
appending alone, behind what the file held. -/
def Alters (opened : Opening → Location → Prop) (before after : FileTree) : Prop :=
  ∀ location, after.get? location = before.get? location ∨
    before.TakesFile location ∧ ∃ content, after.get? location = some (.file content) ∧
      (opened .truncate location ∨
        opened .append location ∧ before.contentAt location <+: content)

namespace Alters

variable {opened : Opening → Location → Prop} {before mid after : FileTree} {location : Location}
  {bytes : Bytes}

theorem refl (tree : FileTree) : tree.Alters opened tree := fun _ => .inl rfl

theorem trans (hfirst : before.Alters opened mid) (hlater : mid.Alters opened after) :
    before.Alters opened after := by
  intro location
  rcases hlater location with hlast | ⟨htakes, content, hcontent, hopened⟩
  · rw [hlast]
    exact hfirst location
  rcases hfirst location with hsame | ⟨htakes', held, hheld, hopened'⟩
  · have hcontentAt : mid.contentAt location = before.contentAt location := by
      rw [contentAt, contentAt, hsame]
    rw [TakesFile, hsame] at htakes
    rw [hcontentAt] at hopened
    exact .inr ⟨htakes, content, hcontent, hopened⟩
  · refine .inr ⟨htakes', content, hcontent, ?_⟩
    have hcontentAt : mid.contentAt location = held := by rw [contentAt, hheld]
    rw [hcontentAt] at hopened
    rcases hopened with htruncate | ⟨happend, hprefix⟩
    · exact .inl htruncate
    · rcases hopened' with htruncate | ⟨-, hheldPrefix⟩
      · exact .inl htruncate
      · exact .inr ⟨happend, hheldPrefix.trans hprefix⟩

theorem of_puts (hputs : before.Puts location bytes after)
    (hopened : opened .truncate location ∨
      opened .append location ∧ before.contentAt location <+: bytes) :
    before.Alters opened after := by
  intro other
  by_cases hother : other = location
  · subst hother
    exact .inr ⟨hputs.takes, bytes, hputs.there, hopened⟩
  · exact .inl (hputs.others other hother)

theorem keeps (h : before.Alters opened after) : before.Keeps after := fun location =>
  (h location).imp_right fun ⟨htakes, content, hcontent, _⟩ => ⟨htakes, content, hcontent⟩

end Alters

end FileTree

namespace Sink

variable {opened : Opening → Location → Prop} {files : FileTree} {sink : Sink}

/-- The sink is of memory, or of a file that has been opened so. -/
def Among (opened : Opening → Location → Prop) : Sink → Prop
  | .memory _ _ => True
  | .file location (some _) => opened .truncate location
  | .file location none => opened .append location

theorem among_sinkAt {opening : Opening} {location : Location} (h : opened opening location) :
    (Redirection.sinkAt opening location).Among opened := by
  cases opening with
  | truncate => exact h
  | append => exact h

theorem Among.accept (h : sink.Among opened) (hstands : sink.Stands files) (bytes : Bytes) :
    files.Alters opened (sink.accept files bytes).2 ∧ (sink.accept files bytes).1.Among opened := by
  rcases sink with ⟨written, limit⟩ | ⟨location, _ | position⟩
  · exact ⟨.refl files, trivial⟩
  · have hputs := FileTree.Puts.insert (.inr hstands) (files.contentAt location ++ bytes)
    exact ⟨.of_puts hputs (.inr ⟨h, List.prefix_append _ _⟩), h⟩
  · have hputs := FileTree.Puts.insert (.inr hstands)
      (FileTree.overlay (files.contentAt location) position bytes)
    exact ⟨.of_puts hputs (.inl h), h⟩

end Sink

/-- The output of the run stands, and has been opened so if it is a file. -/
def Run.Ready (opened : Opening → Location → Prop) (run : Run) : Prop :=
  run.output.Stands run.job.world.files ∧ run.output.Among opened

namespace Run.Ready

variable {opened : Opening → Location → Prop} {run after : Run}

theorem mono (h : run.Ready opened)
    (halters : run.job.world.files.Alters opened after.job.world.files) :
    (after.withOutput run.output).Ready opened :=
  ⟨h.1.mono halters.keeps, h.2⟩

theorem unlimited (run : Run) : (run.withOutput .unlimited).Ready opened := ⟨trivial, trivial⟩

theorem wrote (h : run.Ready opened) (bytes : Bytes) :
    run.job.world.files.Alters opened (run.wrote bytes).job.world.files ∧
      (run.wrote bytes).Ready opened := by
  obtain ⟨halters, hamong⟩ := h.2.accept h.1 bytes
  exact ⟨halters, (h.1.accept bytes).2, hamong⟩

end Run.Ready

namespace Eval

variable {opened : Opening → Location → Prop} {α β : Type}

/-- However the step ends that begins in the shell, it has altered opened files only. -/
def AltersAt (opened : Opening → Location → Prop) (m : Eval Shell α) (shell : Shell) : Prop :=
  ∀ outcome after, m.Ends shell outcome after →
    shell.world.files.Alters opened after.world.files

/-- However the step ends that begins in the run, if the output is ready, then it has altered opened
files only, and the output is ready again. -/
def WritesAt (opened : Opening → Location → Prop) (m : Eval Run α) (run : Run) : Prop :=
  run.Ready opened → ∀ outcome after, m.Ends run outcome after →
    run.job.world.files.Alters opened after.job.world.files ∧ after.Ready opened

section Steps

variable {shell : Shell} {run : Run}

theorem AltersAt.of_eq {m : Eval Shell α}
    (h : ∀ outcome after, m.Ends shell outcome after → after = shell) :
    m.AltersAt opened shell := by
  intro outcome after hends
  rw [h _ _ hends]
  exact .refl _

theorem AltersAt.bind {m : Eval Shell α} {f : α → Eval Shell β} (hm : m.AltersAt opened shell)
    (hf : ∀ a mid, m.Ends shell (.ok a) mid → (f a).AltersAt opened mid) :
    (m >>= f).AltersAt opened shell := by
  intro outcome after hends
  rcases ends_bind.mp hends with ⟨a, mid, hfirst, hlater⟩ | ⟨e, hfails, rfl⟩
  · exact (hm _ _ hfirst).trans (hf a mid hfirst _ _ hlater)
  · exact hm _ _ hfails

theorem altersAt_pure (a : α) : (pure a : Eval Shell α).AltersAt opened shell :=
  .of_eq fun _ _ hends => (ends_pure.mp hends).2

theorem altersAt_fail (e : ShellError) : (fail e : Eval Shell α).AltersAt opened shell :=
  .of_eq fun _ _ hends => (ends_fail.mp hends).2

theorem writesAt_fail (e : ShellError) : (fail e : Eval Run α).WritesAt opened run := by
  intro hready outcome after hends
  obtain ⟨-, rfl⟩ := ends_fail.mp hends
  exact ⟨.refl _, hready⟩

end Steps

/-! ### Applications -/

theorem writesAt_closed :
    ActionClosed fun _ action => ∀ run, (onJob action).WritesAt opened run where
  ofReads h run hready outcome after hends := by
    obtain ⟨input, rfl, -⟩ := h.ends_onJob hends
    exact ⟨.refl _, hready⟩
  ofBind haction hnext run hready outcome after hends := by
    rw [onJob_bind] at hends
    rcases ends_bind.mp hends with ⟨a, mid, hfirst, hlater⟩ | ⟨e, hfails, rfl⟩
    · obtain ⟨halters, hmid⟩ := haction _ hready _ _ hfirst
      obtain ⟨hmore, hafter⟩ := hnext a _ hmid _ _ hlater
      exact ⟨halters.trans hmore, hafter⟩
    · exact haction _ hready _ _ hfails
  ofWrite bytes error _ run hready outcome after hends := by
    rcases ends_onJob_write.mp hends with ⟨-, -, rfl⟩ | ⟨-, -, rfl⟩
    · exact hready.wrote _
    · exact hready.wrote _

theorem writesAt_run (name : String) (args : List String) (run : Run) :
    (builtins.run name args).WritesAt opened run := by
  intro hready outcome after hends
  rcases Registry.ends_run.mp hends with ⟨-, -, rfl⟩ | ⟨application, last, hlookup, hran, rfl⟩
  · exact ⟨.refl _, hready⟩
  · have hstep : (onJob (application args)).WritesAt opened run := by
      by_cases hname : name = "cd"
      · subst hname
        obtain rfl : cd = application := Option.some.inj hlookup
        refine writesAt_closed.cd (fun directory run hready outcome after hmoves => ?_) args run
        obtain ⟨-, rfl⟩ := ends_moveTo.mp hmoves
        exact ⟨.refl _, hready⟩
      · exact writesAt_closed.builtin hlookup hname args run
    have hlast := hstep hready _ _ hran
    exact hlast

end Eval

/-! ### From the lines handed over to the token -/

section Tokens

open Eval

variable {opened : Opening → Location → Prop} {substitute : Substituter} {shell : Shell}

theorem Argument.Scan.altersAt_feedText {scan : Scan} {text : List Char}
    (h : ∀ line now, scan.HandsOver substitute text shell line now →
      (substitute line).AltersAt opened now) :
    (scan.feedText substitute text).AltersAt opened shell := by
  induction text generalizing scan shell with
  | nil => exact altersAt_pure scan
  | cons c text ih =>
    rw [feedText_cons]
    refine AltersAt.bind ?_ fun next mid hfeed => ih fun line now hhands =>
      h line now (hhands.cons hfeed)
    rcases scan.goesOn_or_closes c with ⟨next, hgoesOn⟩ | ⟨outer, rfl, hquotes, hcloses⟩
    · rw [hgoesOn.feed_eq]
      exact altersAt_pure next
    · rw [hcloses]
      intro outcome after hends
      obtain ⟨ended, hended, -⟩ := ends_closeSubstitution.mp hends
      have hhands : scan.HandsOver substitute (Quote.back.char :: text) shell scan.pending
          (shell.handing scan.pending) :=
        .intro (List.nil_append _).symm rfl (by rw [hquotes]; rfl)
      exact h _ _ hhands _ _ hended

theorem Argument.altersAt_resolve {token : String}
    (h : ∀ line now, Scan.start.HandsOver substitute token.toList shell line now →
      (substitute line).AltersAt opened now) :
    (resolve substitute token).AltersAt opened shell := by
  refine AltersAt.bind (Scan.altersAt_feedText h) fun scan mid _ => ?_
  refine AltersAt.bind (.of_eq fun _ _ hends => (ends_ofSyntax.mp hends).2) fun _ _ _ => ?_
  exact AltersAt.bind (.of_eq fun _ _ hends => (ends_get.mp hends).2) fun _ _ _ => altersAt_pure _

theorem Argument.altersAt_resolveAll {tokens : List String}
    (h : ∀ token now, Visits (Resolves substitute) tokens shell token now →
      (resolve substitute token).AltersAt opened now) :
    (resolveAll substitute tokens).AltersAt opened shell := by
  induction tokens generalizing shell with
  | nil => exact altersAt_pure []
  | cons token tokens ih =>
    refine AltersAt.bind (h _ _ .here) fun args mid hfirst => ?_
    refine AltersAt.bind (ih fun token now hvisited => ?_) fun _ _ _ => altersAt_pure _
    exact h _ _ (.later ⟨args, hfirst⟩ hvisited)

/-! ### From the tokens to the call -/

namespace Redirection

variable {targets : List (Direction × String)}

/-- The redirections among these that are for output open their files so, from this shell on. -/
def OpenAmong (opened : Opening → Location → Prop) (substitute : Substituter)
    (targets : List (Direction × String)) (shell : Shell) : Prop :=
  ∀ opening target now, Visits (Opens substitute) targets shell (.output opening, target) now →
    ∀ name mid location files, (Argument.resolve substitute target).Ends now (.ok [name]) mid →
      mid.world.files.openOutput opening (mid.world.environment.resolve name) =
        .ok (location, files) → opened opening location

theorem OpenAmong.tail {redirection : Direction × String} {next : Files} {files : Files}
    {mid : Shell} (h : OpenAmong opened substitute (redirection :: targets) shell)
    (hopens : (openNext substitute files redirection).Ends shell (.ok next) mid) :
    OpenAmong opened substitute targets mid :=
  fun opening target now hvisited => h opening target now (.later ⟨files, next, hopens⟩ hvisited)

theorem altersAt_openNext {files : Files} {redirection : Direction × String}
    (hresolve : (Argument.resolve substitute redirection.2).AltersAt opened shell)
    (hopen : OpenAmong opened substitute (redirection :: targets) shell) :
    (openNext substitute files redirection).AltersAt opened shell := by
  intro outcome after hends
  cases outcome with
  | error e =>
    rcases ends_openNext_error.mp hends with hfails | ⟨hnames, -⟩ | ⟨hname, -⟩ | ⟨hname, -⟩
    · exact hresolve _ _ hfails
    · exact hresolve _ _ hnames
    · exact hresolve _ _ hname
    · exact hresolve _ _ hname
  | ok next =>
    rcases ends_openNext_ok.mp hends with
      ⟨hname, -⟩ | @⟨opening, target, name, location, created, mid, hname, hcreated⟩
    · exact hresolve _ _ hname
    · obtain ⟨-, hputs⟩ := FileTree.openOutput_ok hcreated
      have hopened := hopen opening target shell .here name mid location created hname hcreated
      refine (hresolve _ _ hname).trans (.of_puts hputs ?_)
      cases opening with
      | truncate => exact .inl hopened
      | append => exact .inr ⟨hopened, List.prefix_rfl⟩

theorem altersAt_foldlM_openNext {files : Files}
    (hresolve : ∀ redirection now, Visits (Opens substitute) targets shell redirection now →
      (Argument.resolve substitute redirection.2).AltersAt opened now)
    (hopen : OpenAmong opened substitute targets shell) :
    (targets.foldlM (openNext substitute) files).AltersAt opened shell := by
  induction targets generalizing files shell with
  | nil => exact altersAt_pure files
  | cons redirection targets ih =>
    rw [List.foldlM_cons]
    refine AltersAt.bind (altersAt_openNext (hresolve _ _ .here) hopen) fun next mid hopens => ?_
    refine ih (fun later now hvisited => ?_) (hopen.tail hopens)
    exact hresolve _ _ (.later ⟨files, next, hopens⟩ hvisited)

theorem OpensEach.among {files last : Files} {after : Shell}
    (hopens : OpensEach substitute targets files shell last after)
    (hopen : OpenAmong opened substitute targets shell)
    (hfiles : ∀ sink ∈ files.output, sink.Among opened) :
    ∀ sink ∈ last.output, sink.Among opened := by
  induction hopens with
  | nil => exact hfiles
  | cons first others ih =>
    refine ih (hopen.tail (ends_openNext_ok.mpr first)) ?_
    cases first with
    | input named found => exact hfiles
    | output named created =>
      rintro sink hsink
      obtain rfl := Option.some.inj hsink
      exact Sink.among_sinkAt (hopen _ _ _ .here _ _ _ _ named created)

end Redirection

namespace Call

variable {call : Call}

theorem altersAt_prepare
    (hscans : ∀ token now, call.Scans substitute shell token now →
      (Argument.resolve substitute token).AltersAt opened now)
    (hopens : ∀ opening location, call.OpensOutput substitute shell opening location →
      opened opening location) :
    (call.prepare substitute).AltersAt opened shell ∧
      ∀ files words after, (call.prepare substitute).Ends shell (.ok (files, words)) after →
        ∀ sink ∈ files.output, sink.Among opened := by
  have hopen {division : Redirection.Division}
      (hdivided : Redirection.divide call.tokens = .ok division) :
      Redirection.OpenAmong opened substitute division.targets shell :=
    fun _ _ _ hvisited _ _ _ _ hnamed hcreated =>
      hopens _ _ (.intro hdivided hvisited hnamed hcreated)
  have hextract : (Redirection.extract substitute call.tokens).AltersAt opened shell := by
    refine AltersAt.bind (.of_eq fun _ _ hends => (ends_ofSyntax.mp hends).2) ?_
    intro division mid hdivided
    obtain ⟨hdivision, rfl⟩ := ends_ofSyntax_ok.mp hdivided
    refine AltersAt.bind ?_ fun _ _ _ => altersAt_pure _
    exact Redirection.altersAt_foldlM_openNext
      (fun redirection now hvisited => hscans _ _ (.target hdivision hvisited)) (hopen hdivision)
  unfold prepare
  split
  · exact ⟨altersAt_fail _, fun files words after hends => nomatch (ends_fail.mp hends).1⟩
  · refine ⟨AltersAt.bind hextract fun (files, tokens) mid hextracted => ?_, ?_⟩
    · refine AltersAt.bind ?_ fun _ _ _ => altersAt_pure _
      exact Argument.altersAt_resolveAll fun token now hvisited =>
        hscans _ _ (.word hextracted hvisited)
    · intro files words after hends
      obtain ⟨⟨others, tokens⟩, mid, hextracted, hends⟩ := ends_bind_ok.mp hends
      obtain ⟨args, last, -, hends⟩ := ends_bind_ok.mp hends
      obtain ⟨rfl, -⟩ := Prod.mk.inj (Except.ok.inj (ends_pure.mp hends).1)
      obtain ⟨division, hdivided, hfold, -⟩ := Redirection.ends_extract_ok.mp hextracted
      exact (Redirection.ends_foldlM_openNext_ok.mp hfold).among (hopen hdivided)
        (by simp [Redirection.Files.unopened])

/-- The application writes to what the call has opened, or to the output of the run. -/
theorem writesAt_evaluate {run : Run} (htravels : ∀ line, (substitute line).Travels)
    (hscans : ∀ token now, call.Scans substitute run.shell token now →
      (Argument.resolve substitute token).AltersAt opened now)
    (hopens : ∀ opening location, call.OpensOutput substitute run.shell opening location →
      opened opening location) :
    (call.evaluate ⟨builtins, substitute⟩).WritesAt opened run := by
  intro hready outcome after hends
  obtain ⟨hprepare, hamong⟩ := altersAt_prepare hscans hopens
  rcases ends_evaluate.mp hends with hprepared | hprepared |
    @⟨files, name, args, shell, _, last, hprepared, hran⟩
  · have halters := hprepare _ _ hprepared
    exact ⟨halters, hready.1.mono halters.keeps, hready.2⟩
  · have halters := hprepare _ _ hprepared
    exact ⟨halters, hready.1.mono halters.keeps, hready.2⟩
  · have halters := hprepare _ _ hprepared
    have hthere : (run.resume shell).Ready opened := ⟨hready.1.mono halters.keeps, hready.2⟩
    have henter : (files.enter (run.resume shell)).Ready opened := by
      show (files.output.getD run.output).Stands shell.world.files ∧
        (files.output.getD run.output).Among opened
      cases hsink : files.output with
      | none => exact hthere
      | some sink =>
        exact ⟨prepare_stands htravels hprepared sink hsink, hamong _ _ _ hprepared sink hsink⟩
    obtain ⟨hmore, hlast⟩ := writesAt_run name args _ henter _ _ hran
    refine ⟨halters.trans hmore, ?_⟩
    show (if files.output.isSome then run.output else last.output).Stands last.job.world.files ∧
      (if files.output.isSome then run.output else last.output).Among opened
    split
    · exact ⟨hthere.1.mono hmore.keeps, hthere.2⟩
    · exact hlast

end Call

end Tokens

/-! ### From the calls to the line -/

namespace Command

open Eval

variable {opened : Opening → Location → Prop} {context : Context}

theorem writesAt_evaluatePipe {stages : List Call} {run : Run}
    (h : ∀ stage start, Visits (Relays context) stages run stage start →
      ∀ now : Run, now.shell = start.shell → (stage.evaluate context).WritesAt opened now) :
    (evaluatePipe context stages).WritesAt opened run := by
  induction stages generalizing run with
  | nil => exact writesAt_fail _
  | cons stage stages ih =>
    by_cases hlast : stages = []
    · subst hlast
      exact h _ _ .here _ rfl
    · rw [evaluatePipe_cons hlast]
      intro hready outcome after hends
      have hstage := h _ _ .here (run.withOutput .unlimited) rfl (.unlimited run)
      rcases ends_into.mp hends with ⟨e, mid, hfails, rfl, rfl⟩ | ⟨mid, last, hfirst, hothers, rfl⟩
      · obtain ⟨halters, -⟩ := hstage _ _ hfails
        exact ⟨halters, hready.mono halters⟩
      · obtain ⟨halters, -⟩ := hstage _ _ hfirst
        have hrelay : (mid.relay run.output).Ready opened := hready.mono halters
        have hrest := ih (fun later start hvisited =>
          h _ _ (.later ⟨mid, hfirst, rfl⟩ hvisited)) hrelay _ _ hothers
        exact ⟨halters.trans hrest.1, hrest.2⟩

theorem writesAt_evaluateEach {exit : Option ShellError} {commands : List Command} {run : Run}
    (h : ∀ member start, Visits (Contributes context) commands run member start →
      (member.evaluate context).WritesAt opened (start.withOutput .unlimited)) :
    (evaluateEach context exit commands).WritesAt opened run := by
  induction commands generalizing exit run with
  | nil =>
    intro hready outcome after hends
    obtain ⟨-, rfl⟩ := ends_pure.mp hends
    exact ⟨.refl _, hready⟩
  | cons command commands ih =>
    rw [evaluateEach]
    intro hready outcome after hends
    obtain ⟨collected, mid, hchild, hends⟩ := ends_capture_bind.mp hends
    have hmid : run.job.world.files.Alters opened mid.job.world.files ∧ mid.Ready opened := by
      obtain ⟨hended⟩ := hchild
      obtain ⟨halters, -⟩ := h _ _ .here (.unlimited run) _ _ hended
      exact ⟨halters, hready.mono halters⟩
    obtain ⟨halters, hmid⟩ := hmid
    rcases ends_bind.mp hends with ⟨done, next, hwritten, hothers⟩ | ⟨e, hfails, rfl⟩
    · rcases ends_write.mp hwritten with ⟨hfits, -, rfl⟩ | ⟨-, hno, -⟩
      · obtain ⟨hwrote, hnext⟩ := hmid.wrote (contribution collected)
        rw [hchild.output_eq] at hfits
        obtain ⟨hmore, hafter⟩ := ih (fun member start hvisited =>
          h _ _ (.later ⟨collected, mid, hchild, hfits, rfl⟩ hvisited)) hnext _ _ hothers
        exact ⟨halters.trans (hwrote.trans hmore), hafter⟩
      · cases hno
    · rcases ends_write.mp hfails with ⟨-, hno, -⟩ | ⟨-, -, rfl⟩
      · cases hno
      · obtain ⟨hwrote, hafter⟩ := hmid.wrote
          ((contribution collected).take (mid.output.room (contribution collected).length))
        exact ⟨halters.trans hwrote, hafter⟩

theorem writesAt_evaluate {command : Command} {run : Run}
    (h : ∀ call shell, Prepares context command run call shell →
      ∀ now : Run, now.shell = shell → (call.evaluate context).WritesAt opened now) :
    (command.evaluate context).WritesAt opened run := by
  induction command using induct_members generalizing run with
  | call single => exact h _ _ .call _ rfl
  | pipe stages => exact writesAt_evaluatePipe fun stage start hvisited => h _ _ (.pipe hvisited)
  | sequence commands ih =>
    have heach : (evaluateEach context none commands).WritesAt opened run :=
      writesAt_evaluateEach fun member start hvisited => ih member hvisited.mem fun call shell
        hprepared => h call shell (.sequence hvisited hprepared)
    rw [evaluate]
    intro hready outcome after hends
    rcases ends_bind.mp hends with ⟨exit, mid, hmid, hexit⟩ | ⟨e, hfails, rfl⟩
    · obtain ⟨halters, hafter⟩ := heach hready _ _ hmid
      obtain rfl : after = mid := by
        cases exit with
        | some e => exact (ends_fail.mp hexit).2
        | none => exact (ends_pure.mp hexit).2
      exact ⟨halters, hafter⟩
    · exact heach hready _ _ hfails

end Command

section Lines

open Eval

variable {opened : Opening → Location → Prop}

/-- A line alters what its calls open and what the lines do that it hands over. -/
theorem writesAt_evaluateLine {substitute : Substituter} {line : String} {run : Run}
    (htravels : ∀ next, (substitute next).Travels)
    (hhands : ∀ command next now, Command.parse line = .ok command →
      command.Hands ⟨builtins, substitute⟩ run next now → (substitute next).AltersAt opened now)
    (hopens : ∀ command call shell opening location, Command.parse line = .ok command →
      command.Prepares ⟨builtins, substitute⟩ run call shell →
        call.OpensOutput substitute shell opening location → opened opening location) :
    (evaluateLine ⟨builtins, substitute⟩ line).WritesAt opened run := by
  intro hready outcome after hends
  rcases ends_bind.mp hends with ⟨command, mid, hparsed, hevaluated⟩ | ⟨e, hfails, rfl⟩
  · obtain ⟨hparse, rfl⟩ := ends_ofSyntax_ok.mp hparsed
    refine Command.writesAt_evaluate (fun call shell hprepared now hnow => ?_) hready _ _ hevaluated
    subst hnow
    refine Call.writesAt_evaluate htravels (fun token later hscans => ?_)
      fun opening location => hopens command call _ opening location hparse hprepared
    exact Argument.altersAt_resolve fun next last hhanded =>
      hhands command next last hparse (.intro (.intro hprepared hscans) hhanded)
  · obtain ⟨-, rfl⟩ := ends_ofSyntax.mp hfails
    exact ⟨.refl _, hready⟩

/-- The lines that are handed over are evaluated one level less deep. -/
theorem Task.writesAt {depth : Nat} {task : Task}
    (h : ∀ opening location, task.OpensOutput builtins depth opening location →
      opened opening location) :
    (evaluateLine ⟨builtins, substituter builtins depth⟩ task.line).WritesAt opened task.run := by
  induction depth generalizing task with
  | zero =>
    refine writesAt_evaluateLine (travels_substituter 0) (fun command next now _ _ => ?_)
      fun command call shell opening location hparse hprepared hopens =>
        h _ _ (.own hparse hprepared hopens)
    intro outcome after hends
    cases outcome <;> cases hends
  | succ depth ih =>
    refine writesAt_evaluateLine (travels_substituter (depth + 1))
      (fun command next now hparse hhands => ?_)
      fun command call shell opening location hparse hprepared hopens =>
        h _ _ (.own hparse hprepared hopens)
    intro outcome after hends
    obtain ⟨ended, last, hended, -, rfl⟩ := ends_capturedLine.mp hends
    have hnested (opening : Opening) (location : Location)
        (hopens : Task.OpensOutput builtins depth ⟨next, now.capturing⟩ opening location) :
        opened opening location :=
      h _ _ (.nested hparse hhands hopens)
    exact (ih hnested ⟨trivial, trivial⟩ _ _ hended).1

theorem Session.alters {depth : Nat} {requests : List Request} {shell after : Shell}
    (h : Session ⟨builtins, depth⟩ requests shell after)
    (hopened : ∀ opening location, OpensOutput ⟨builtins, depth⟩ requests shell opening location →
      opened opening location) :
    shell.world.files.Alters opened after.world.files := by
  induction h with
  | nil => exact .refl _
  | cons ends others ih =>
    have hline := Task.writesAt (fun opening location hopens =>
      hopened opening location (.here hopens)) ⟨trivial, trivial⟩ _ _ ends
    exact hline.1.trans (ih fun opening location hopens => hopened _ _ (.later ends hopens))

end Lines

/-! ### What paths lead to -/

namespace FileTree

variable {before after : FileTree} {links : Nat} {above location : Location} {parts : List String}
  {path : String} {bytes : Bytes}

theorem read_eq_ok_iff {tree : FileTree} :
    tree.read path = .ok bytes ↔
      ∃ location, tree.locate false path = .ok location ∧
        tree.get? location = some (.file bytes) := by
  constructor
  · intro h
    obtain ⟨location, hfile, hbytes⟩ := bind_eq_ok.mp h
    obtain ⟨same, hlocate, hfile⟩ := bind_eq_ok.mp hfile
    split at hfile
    · next content hcontent =>
      obtain rfl := Except.ok.inj hfile
      obtain rfl := Except.ok.inj hbytes
      rw [contentAt, hcontent]
      exact ⟨same, hlocate, hcontent⟩
    · cases hfile
    · cases hfile
  · rintro ⟨location, hlocate, hfile⟩
    exact read_of_locate hlocate hfile

/-- Every walk leads where it led before. -/
theorem Leads.mono (h : Leads before false links above parts location)
    (hkeeps : before.Keeps after) : Leads after false links above parts location := by
  induction h with
  | stop => exact .stop
  | stay isDirectory stays others ih => exact .stay (hkeeps.get?_directory isDirectory) stays ih
  | up isDirectory others ih => exact .up (hkeeps.get?_directory isDirectory) ih
  | down isDirectory plain inside short stands noLink others ih =>
    obtain ⟨node, hnode, hnoLink⟩ := hkeeps.exists_node stands noLink
    exact .down (hkeeps.get?_directory isDirectory) plain inside short hnode hnoLink ih
  | follow isDirectory plain inside short isLink others ih =>
    exact .follow (hkeeps.get?_directory isDirectory) plain inside short
      (hkeeps.get?_eq isLink fun _ => Node.noConfusion) ih
  | create creates => cases creates

/-- A walk to where something stood before led there before. -/
theorem Leads.of_keeps (h : Leads after false links above parts location)
    (hkeeps : before.Keeps after) (hstood : before.get? location ≠ none) :
    Leads before false links above parts location := by
  -- What is no file now was there before.
  have hsame {place : Location} {node : Node} (hnow : after.get? place = some node)
      (hnode : ∀ content, node ≠ .file content) : before.get? place = some node := by
    rcases hkeeps place with heq | ⟨-, content, hfile⟩
    · rw [← heq, hnow]
    · exact absurd (Option.some.inj (hnow.symm.trans hfile)) (hnode content)
  induction h with
  | stop => exact .stop
  | stay isDirectory stays others ih =>
    exact .stay (hsame isDirectory fun _ => Node.noConfusion) stays (ih hstood)
  | up isDirectory others ih => exact .up (hsame isDirectory fun _ => Node.noConfusion) (ih hstood)
  | @down links above last name rest node isDirectory plain inside short stands noLink others ih =>
    have hbefore : ∃ other, before.get? (above ++ [name]) = some other ∧
        ∀ target, other ≠ .link target := by
      rcases hkeeps (above ++ [name]) with heq | ⟨hmissing | ⟨content, hfile⟩, content', hfile'⟩
      · exact ⟨node, heq ▸ stands, noLink⟩
      · -- The walk cannot go on behind a file, and so it ends where nothing stood.
        cases others with
        | stop => exact absurd hmissing hstood
        | stay isFolder | up isFolder | down isFolder | follow isFolder =>
          exact nomatch hfile'.symm.trans isFolder
        | create creates => cases creates
      · exact ⟨_, hfile, fun _ => Node.noConfusion⟩
    obtain ⟨other, hother, hnoLink⟩ := hbefore
    exact .down (hsame isDirectory fun _ => Node.noConfusion) plain inside short hother hnoLink
      (ih hstood)
  | follow isDirectory plain inside short isLink others ih =>
    exact .follow (hsame isDirectory fun _ => Node.noConfusion) plain inside short
      (hsame isLink fun _ => Node.noConfusion) (ih hstood)
  | create creates => cases creates

theorem locate_mono (h : before.locate false path = .ok location) (hkeeps : before.Keeps after) :
    after.locate false path = .ok location := by
  obtain ⟨hnul, hshort, hleads⟩ := locate_eq_ok_iff.mp h
  exact locate_eq_ok_iff.mpr ⟨hnul, hshort, hleads.mono hkeeps⟩

theorem locate_of_keeps (h : after.locate false path = .ok location) (hkeeps : before.Keeps after)
    (hstood : before.get? location ≠ none) : before.locate false path = .ok location := by
  obtain ⟨hnul, hshort, hleads⟩ := locate_eq_ok_iff.mp h
  exact locate_eq_ok_iff.mpr ⟨hnul, hshort, hleads.of_keeps hkeeps hstood⟩

namespace Alters

variable {opened : Opening → Location → Prop}

theorem get?_eq (h : before.Alters opened after) (hclosed : ∀ opening, ¬ opened opening location) :
    after.get? location = before.get? location := by
  rcases h location with hsame | ⟨-, content, -, htruncate | ⟨happend, -⟩⟩
  · exact hsame
  · exact absurd htruncate (hclosed .truncate)
  · exact absurd happend (hclosed .append)

/-- What stands where nothing stood is a file that has been opened. -/
theorem of_new (h : before.Alters opened after) (hmissing : before.get? location = none)
    (hstands : after.get? location ≠ none) :
    (∃ content, after.get? location = some (.file content)) ∧
      ∃ opening, opened opening location := by
  rcases h location with hsame | ⟨-, content, hcontent, hopened⟩
  · exact absurd (hsame.trans hmissing) hstands
  · refine ⟨⟨content, hcontent⟩, ?_⟩
    rcases hopened with htruncate | ⟨happend, -⟩
    · exact ⟨.truncate, htruncate⟩
    · exact ⟨.append, happend⟩

/-- A file that is never emptied keeps what it held, as a beginning. -/
theorem of_kept (h : before.Alters opened after)
    (hfile : before.get? location = some (.file bytes)) (hkept : ¬ opened .truncate location) :
    ∃ more, after.get? location = some (.file (bytes ++ more)) := by
  rcases h location with hsame | ⟨-, content, hcontent, htruncate | ⟨-, hprefix⟩⟩
  · exact ⟨[], by rw [hsame, hfile, List.append_nil]⟩
  · exact absurd htruncate hkept
  · rw [contentAt, hfile] at hprefix
    obtain ⟨more, rfl⟩ := hprefix
    exact ⟨more, hcontent⟩

theorem read_iff (h : before.Alters opened after)
    (hclosed : ∀ location, after.locate false path = .ok location →
      ∀ opening, ¬ opened opening location) :
    after.read path = .ok bytes ↔ before.read path = .ok bytes := by
  simp only [read_eq_ok_iff]
  constructor
  · rintro ⟨location, hlocate, hfile⟩
    rw [h.get?_eq (hclosed _ hlocate)] at hfile
    exact ⟨location, locate_of_keeps hlocate h.keeps (by simp [hfile]), hfile⟩
  · rintro ⟨location, hlocate, hfile⟩
    have hafter := locate_mono hlocate h.keeps
    exact ⟨location, hafter, by rw [h.get?_eq (hclosed _ hafter), hfile]⟩

end Alters

end FileTree

/-- Whatever the lines of a session are and however each of them ends: directories and links stay as
they are, and what is a file stays one. A location that no redirection opens for output keeps what
stands there; where nothing stood before, nothing does, or a file that has been opened. A file that
is only opened for appending still begins with what it held. So every path leads where it led, or
newly to such a file, and a path whose file has not been opened gives the same content as before. -/
theorem files_change_where_opened {depth : Nat} {requests : List Request} {shell after : Shell}
    (h : Session ⟨builtins, depth⟩ requests shell after) :
    (∀ location node, shell.world.files.get? location = some node →
      (∀ content, node ≠ .file content) → after.world.files.get? location = some node) ∧
    (∀ location, (∃ content, shell.world.files.get? location = some (.file content)) →
      ∃ content, after.world.files.get? location = some (.file content)) ∧
    (∀ location,
      (∀ opening, ¬ Session.OpensOutput ⟨builtins, depth⟩ requests shell opening location) →
        after.world.files.get? location = shell.world.files.get? location) ∧
    (∀ location, shell.world.files.get? location = none →
      after.world.files.get? location ≠ none →
        (∃ content, after.world.files.get? location = some (.file content)) ∧
          ∃ opening, Session.OpensOutput ⟨builtins, depth⟩ requests shell opening location) ∧
    (∀ location content, shell.world.files.get? location = some (.file content) →
      ¬ Session.OpensOutput ⟨builtins, depth⟩ requests shell .truncate location →
        ∃ more, after.world.files.get? location = some (.file (content ++ more))) ∧
    (∀ path location, shell.world.files.locate false path = .ok location →
      after.world.files.locate false path = .ok location) ∧
    (∀ path location, after.world.files.locate false path = .ok location →
      shell.world.files.get? location ≠ none →
        shell.world.files.locate false path = .ok location) ∧
    ∀ path,
      (∀ location, after.world.files.locate false path = .ok location →
        ∀ opening, ¬ Session.OpensOutput ⟨builtins, depth⟩ requests shell opening location) →
      ∀ content, after.world.files.read path = .ok content ↔
        shell.world.files.read path = .ok content := by
  have halters := h.alters fun _ _ hopens => hopens
  exact ⟨fun location node => halters.keeps.get?_eq, fun location => halters.keeps.exists_file,
    fun location => halters.get?_eq, fun location => halters.of_new,
    fun location content => halters.of_kept, fun path location hlocate =>
      FileTree.locate_mono hlocate halters.keeps, fun path location hlocate =>
      FileTree.locate_of_keeps hlocate halters.keeps, fun path hclosed content =>
      halters.read_iff hclosed⟩

/-- The first line appends through a link. The second one fails, but a line that it hands over has
gone to another directory before and created a file there. -/
theorem files_change_where_opened_link :
    let files := ((FileTree.empty.insert ["d"] .directory).insert ["f"] (.file [0x61])).insert ["l"]
      (.link "f")
    let appended := files.insert ["f"] (.file [0x61, 0x62, 0x0A])
    let created := (appended.insert ["d", "g"] (.file [])).insert ["d", "g"] (.file [0x0A])
    let shell : Shell := ⟨⟨.withDirectory "/", files⟩, []⟩
    let after : Shell := ⟨⟨.withDirectory "/d", created⟩,
      [.ran "cat" (some (.application "cat" "nope: No such file or directory")), .ran "echo" none,
        .ran "echo" none, .ran "cd" none, .substituted "cd d; echo > g", .ran "echo" none]⟩
    let requests : List Request :=
      [⟨"echo b >> l", .empty, some 0⟩, ⟨"echo `cd d; echo > g` | cat nope", .empty, none⟩]
    Session ⟨builtins, 1⟩ requests shell after ∧
      after.world.files.get? ["l"] = some (.link "f") ∧
      ∃ opening, Session.OpensOutput ⟨builtins, 1⟩ requests shell opening ["d", "g"] := by
  intro files appended created shell after requests
  have hfirst : (Interpreter.evaluate ⟨builtins, 1⟩ "echo b >> l").Ends
      ⟨⟨⟨.withDirectory "/", files⟩, ⟨.empty, .memory [] (some 0)⟩⟩, []⟩ (.ok ())
      ⟨⟨⟨.withDirectory "/", appended⟩, ⟨.empty, .memory [] (some 0)⟩⟩, [.ran "echo" none]⟩ := by
    decide +kernel
  have hsecond : (Interpreter.evaluate ⟨builtins, 1⟩ "echo `cd d; echo > g` | cat nope").Ends
      ⟨⟨⟨.withDirectory "/", appended⟩, ⟨.empty, .memory [] none⟩⟩, [.ran "echo" none]⟩
      (.error (.application "cat" "nope: No such file or directory"))
      ⟨⟨⟨.withDirectory "/d", created⟩, ⟨.empty, .memory [] none⟩⟩, after.history⟩ := by
    decide +kernel
  have hsession : Session ⟨builtins, 1⟩ requests shell after := .cons hfirst (.cons hsecond .nil)
  obtain ⟨hnodes, -, -, hnew, -⟩ := files_change_where_opened hsession
  have hlink := hnodes ["l"] (.link "f") (by decide +kernel) fun _ => Node.noConfusion
  obtain ⟨-, hopened⟩ := hnew ["d", "g"] (by decide +kernel) (by decide +kernel)
  exact ⟨hsession, hlink, hopened⟩

end LineShell
