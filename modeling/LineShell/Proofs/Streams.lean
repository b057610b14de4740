import LineShell.Builtin
import LineShell.Proofs.Escape
import LineShell.Proofs.Faults
import LineShell.Proofs.Histories

/-!
# Whose streams a call touches

A call prepares itself before it runs anything: it opens its redirections and resolves its words,
and all of this happens on the shell, where no stream of the run can be reached. Then it runs at
most one application, and this is the only thing that meets the streams of the run: the input if the
call has no `<`, the output if it has neither `>` nor `>>`.
-/

namespace LineShell

namespace Redirection

/-- A call has redirections in just the directions of its operators. -/
theorem divide_directions {tokens : List String} {division : Division}
    (h : divide tokens = .ok division) (direction : Direction) :
    (∃ redirection ∈ division.targets, redirection.1 = direction) ↔
      ∃ token ∈ tokens, operator? token = some direction := by
  fun_induction divide tokens generalizing division with
  | case1 =>
    obtain rfl := Except.ok.inj h
    simp
  | case2 token rest hordinary ih =>
    obtain ⟨others, hrest, hothers⟩ := bind_eq_ok.mp h
    obtain rfl := Except.ok.inj hothers
    simp [ih hrest, hordinary]
  | case3 | case4 => cases h
  | case5 token own hoperator target rest htarget ih =>
    obtain ⟨others, hrest, hothers⟩ := bind_eq_ok.mp h
    obtain rfl := Except.ok.inj hothers
    have hnone : operator? target = none := by simpa using htarget
    simp [ih hrest, hoperator, hnone]

theorem exists_operator_input {tokens : List String} :
    (∃ token ∈ tokens, operator? token = some .input) ↔ "<" ∈ tokens := by
  have hinput (token : String) : operator? token = some .input ↔ token = "<" := by
    constructor
    · intro h
      unfold operator? at h
      split at h <;> simp_all
    · rintro rfl
      rfl
  simp [hinput]

theorem exists_operator_output {tokens : List String} :
    (∃ token ∈ tokens, ∃ opening, operator? token = some (.output opening)) ↔
      ">" ∈ tokens ∨ ">>" ∈ tokens := by
  have houtput (token : String) :
      (∃ opening, operator? token = some (.output opening)) ↔ token = ">" ∨ token = ">>" := by
    constructor
    · rintro ⟨opening, h⟩
      unfold operator? at h
      split at h <;> simp_all
    · rintro (rfl | rfl)
      · exact ⟨.truncate, rfl⟩
      · exact ⟨.append, rfl⟩
  simp only [houtput]
  constructor
  · rintro ⟨token, hmem, rfl | rfl⟩
    · exact .inl hmem
    · exact .inr hmem
  · rintro (hmem | hmem)
    · exact ⟨">", hmem, .inl rfl⟩
    · exact ⟨">>", hmem, .inr rfl⟩

section Opening

variable {substitute : Substituter} {shell after : Shell}

theorem openNext_ok {opened next : Files} {redirection : Direction × String}
    (h : (openNext substitute opened redirection).Ends shell (.ok next) after) :
    (next.input.isSome = true ↔ opened.input.isSome = true ∨ redirection.1 = .input) ∧
      (next.output.isSome = true ↔
        opened.output.isSome = true ∨ ∃ opening, redirection.1 = .output opening) := by
  obtain ⟨direction, target⟩ := redirection
  obtain ⟨name, mid, -, h⟩ := Eval.ends_bind_ok.mp h
  cases direction with
  | input =>
    obtain ⟨location, last, -, h⟩ := Eval.ends_bind_ok.mp h
    obtain ⟨hnext, -⟩ := Eval.ends_pure.mp h
    obtain rfl := Except.ok.inj hnext
    simp
  | output opening =>
    obtain ⟨sink, last, -, h⟩ := Eval.ends_bind_ok.mp h
    obtain ⟨hnext, -⟩ := Eval.ends_pure.mp h
    obtain rfl := Except.ok.inj hnext
    simp

theorem foldlM_openNext_ok {targets : List (Direction × String)} {opened last : Files}
    (h : (targets.foldlM (openNext substitute) opened).Ends shell (.ok last) after) :
    (last.input.isSome = true ↔
        opened.input.isSome = true ∨ ∃ redirection ∈ targets, redirection.1 = .input) ∧
      (last.output.isSome = true ↔ opened.output.isSome = true ∨
        ∃ redirection ∈ targets, ∃ opening, redirection.1 = .output opening) := by
  induction targets generalizing opened shell with
  | nil =>
    obtain ⟨hlast, -⟩ := Eval.ends_pure.mp h
    obtain rfl := Except.ok.inj hlast
    simp
  | cons redirection targets ih =>
    rw [List.foldlM_cons] at h
    obtain ⟨next, mid, hnext, hlast⟩ := Eval.ends_bind_ok.mp h
    obtain ⟨hinput, houtput⟩ := openNext_ok hnext
    obtain ⟨hinputs, houtputs⟩ := ih hlast
    constructor
    · rw [hinputs, hinput, List.exists_mem_cons_iff, or_assoc]
    · rw [houtputs, houtput, List.exists_mem_cons_iff, or_assoc]

theorem ends_extract_ok {tokens others : List String} {opened : Files} :
    (extract substitute tokens).Ends shell (.ok (opened, others)) after ↔
      ∃ division, divide tokens = .ok division ∧
        (division.targets.foldlM (openNext substitute) .unopened).Ends shell (.ok opened) after ∧
        others = division.tokens := by
  simp only [extract, Eval.ends_bind_ok, Eval.ends_ofSyntax_ok, Eval.ends_pure, Except.ok.injEq,
    Prod.mk.injEq]
  constructor
  · rintro ⟨division, mid, ⟨hdivide, rfl⟩, files, last, hfold, ⟨rfl, rfl⟩, rfl⟩
    exact ⟨division, hdivide, hfold, rfl⟩
  · rintro ⟨division, hdivide, hfold, rfl⟩
    exact ⟨division, shell, ⟨hdivide, rfl⟩, opened, after, hfold, ⟨rfl, rfl⟩, rfl⟩

/-- A file is open in just the directions in which the call has operators. -/
theorem extract_ok {tokens others : List String} {opened : Files}
    (h : (extract substitute tokens).Ends shell (.ok (opened, others)) after) :
    (opened.input.isSome = true ↔ "<" ∈ tokens) ∧
      (opened.output.isSome = true ↔ ">" ∈ tokens ∨ ">>" ∈ tokens) := by
  obtain ⟨division, hdivide, hfold, -⟩ := ends_extract_ok.mp h
  obtain ⟨hinput, houtput⟩ := foldlM_openNext_ok hfold
  constructor
  · rw [hinput, ← exists_operator_input, ← divide_directions hdivide]
    simp [Files.unopened]
  · rw [houtput, ← exists_operator_output]
    simp only [Files.unopened, Option.isSome_none, Bool.false_eq_true, false_or]
    constructor
    · rintro ⟨redirection, hmem, opening, hdirection⟩
      obtain ⟨token, htoken, hoperator⟩ :=
        (divide_directions hdivide _).mp ⟨redirection, hmem, hdirection⟩
      exact ⟨token, htoken, opening, hoperator⟩
    · rintro ⟨token, htoken, opening, hoperator⟩
      obtain ⟨redirection, hmem, hdirection⟩ :=
        (divide_directions hdivide _).mpr ⟨token, htoken, hoperator⟩
      exact ⟨redirection, hmem, opening, hdirection⟩

end Opening

namespace Files

/-- The run with the open files in place of its streams. A file is read as it is now. -/
def enter (opened : Files) (run : Run) : Run :=
  let source (location : Location) := Source.ofBytes (run.job.world.files.contentAt location)
  { run with
    job.streams := ⟨(opened.input.map source).getD run.input, opened.output.getD run.output⟩ }

/-- The run after a step on the open files: the streams of the run are back, as the step has left
those that it was given. -/
def leave (opened : Files) (run last : Run) : Run :=
  { last with
    job.streams := ⟨if opened.input.isSome then run.input else last.input,
      if opened.output.isSome then run.output else last.output⟩ }

/-- Nothing is changed by opening files and going back. -/
theorem leave_enter (opened : Files) (run mid : Run) (hinput : mid.input = run.input)
    (houtput : mid.output = run.output) : opened.leave run (opened.enter mid) = mid := by
  obtain ⟨⟨world, input, output⟩, history⟩ := mid
  obtain ⟨source, sink⟩ := opened
  obtain rfl : input = run.input := hinput
  obtain rfl : output = run.output := houtput
  cases source <;> cases sink <;> rfl

theorem ends_redirect {α : Type} {opened : Files} {m : Eval Run α} {run after : Run}
    {outcome : Except ShellError α} :
    (opened.redirect m).Ends run outcome after ↔
      ∃ last, m.Ends (opened.enter run) outcome last ∧ after = opened.leave run last := by
  unfold redirect
  exact Eval.ends_through

end Files

end Redirection

namespace Registry

/-- One application runs, or nothing happens. -/
theorem ends_run_history {registry : Registry} {name : String} {args : List String}
    {before after : Run} {outcome : Except ShellError Unit}
    (h : (registry.run name args).Ends before outcome after) :
    after = before ∨ after.history = .ran name (failure? outcome) :: before.history := by
  unfold Registry.run at h
  split at h
  · obtain ⟨-, rfl⟩ := Eval.ends_fail.mp h
    exact .inl rfl
  · next application _ =>
    cases hresult : application args before.job <;> cases outcome <;>
      simp only [Eval.Ends, hresult, Option.some.injEq, EStateM.Result.ok.injEq,
        EStateM.Result.error.injEq, reduceCtorEq] at h
    · obtain ⟨-, rfl⟩ := h
      exact .inr rfl
    · obtain ⟨rfl, rfl⟩ := h
      exact .inr rfl

end Registry

namespace Call

/-- What a call does before it runs anything: it opens its redirections, then it resolves its
words. -/
def prepare (substitute : Substituter) (call : Call) :
    Eval Shell (Redirection.Files × List String) := do
  if call.tokens.isEmpty then Eval.fail (.malformed .emptyCommand)
  else
    let (opened, tokens) ← Redirection.extract substitute call.tokens
    let words ← Argument.resolveAll substitute tokens
    return (opened, words)

/-- Without operators, only words are resolved. -/
theorem prepare_of_words (substitute : Substituter) {tokens : List String} (hne : tokens ≠ [])
    (h : ∀ token ∈ tokens, Redirection.operator? token = none) :
    prepare substitute ⟨tokens⟩ =
      Argument.resolveAll substitute tokens >>= fun words => pure (.unopened, words) := by
  rw [prepare, if_neg (by simpa using hne), Redirection.extract_of_words substitute h]
  rfl

/-- Run what the first word names, on the open files. -/
def dispatch (registry : Registry) (opened : Redirection.Files) : List String → Eval Run Unit
  | [] => pure ()
  | name :: args => opened.redirect (registry.run name args)

theorem evaluate_eq (context : Context) (call : Call) :
    call.evaluate context =
      Eval.onShell (call.prepare context.substitute) >>= fun prepared =>
        dispatch context.registry prepared.1 prepared.2 := by
  unfold evaluate prepare
  split
  · rfl
  · simp only [Eval.onShell_bind, Eval.onShell_pure, bind_assoc, pure_bind]
    refine bind_congr fun (opened, tokens) => bind_congr fun words => ?_
    cases words <;> rfl

/-- The three ways in which a call comes to an end. Only the last one runs something, on the streams
of the run where no file is open in place of them. -/
inductive Course (context : Context) (call : Call) (run : Run) :
    Except ShellError Unit → Run → Prop
  | fails {e : ShellError} {shell : Shell}
      (prepared : (call.prepare context.substitute).Ends run.shell (.error e) shell) :
      Course context call run (.error e) (run.resume shell)
  | idle {opened : Redirection.Files} {shell : Shell}
      (prepared : (call.prepare context.substitute).Ends run.shell (.ok (opened, [])) shell) :
      Course context call run (.ok ()) (run.resume shell)
  | dispatches {opened : Redirection.Files} {name : String} {args : List String} {shell : Shell}
      {outcome : Except ShellError Unit} {last : Run}
      (prepared :
        (call.prepare context.substitute).Ends run.shell (.ok (opened, name :: args)) shell)
      (ran : (context.registry.run name args).Ends (opened.enter (run.resume shell)) outcome last) :
      Course context call run outcome (opened.leave run last)

section Course

variable {context : Context} {call : Call} {run after : Run} {outcome : Except ShellError Unit}

theorem ends_evaluate :
    (call.evaluate context).Ends run outcome after ↔ Course context call run outcome after := by
  rw [evaluate_eq, Eval.ends_bind]
  simp only [Eval.ends_onShell]
  constructor
  · rintro (⟨⟨opened, words⟩, mid, ⟨shell, hprepared, rfl⟩, hends⟩ |
      ⟨e, ⟨shell, hprepared, rfl⟩, rfl⟩)
    · cases words with
      | nil =>
        obtain ⟨rfl, rfl⟩ := Eval.ends_pure.mp hends
        exact .idle hprepared
      | cons name args =>
        obtain ⟨last, hran, rfl⟩ := Redirection.Files.ends_redirect.mp hends
        exact .dispatches hprepared hran
    · exact .fails hprepared
  · rintro (hprepared | hprepared | ⟨hprepared, hran⟩)
    · exact .inr ⟨_, ⟨_, hprepared, rfl⟩, rfl⟩
    · exact .inl ⟨_, _, ⟨_, hprepared, rfl⟩, Eval.ends_pure.mpr ⟨rfl, rfl⟩⟩
    · exact .inl ⟨_, _, ⟨_, hprepared, rfl⟩,
        Redirection.Files.ends_redirect.mpr ⟨_, hran, rfl⟩⟩

theorem evaluate_eq_none_iff :
    call.evaluate context run = none ↔ call.prepare context.substitute run.shell = none := by
  rcases (call.prepare context.substitute).eq_none_or_ends run.shell with
    hnone | ⟨e | ⟨opened, words⟩, shell, hprepared⟩
  · simp [evaluate_eq, Eval.bind_apply, Eval.onShell, hnone]
  · have hends : (call.evaluate context).Ends run (.error e) (run.resume shell) :=
      ends_evaluate.mpr (.fails hprepared)
    have hevaluate : call.evaluate context run = some (.error e (run.resume shell)) := hends
    have hprepare : call.prepare context.substitute run.shell = some (.error e shell) := hprepared
    simp [hevaluate, hprepare]
  · have hprepare : call.prepare context.substitute run.shell = some (.ok (opened, words) shell) :=
      hprepared
    have hdispatch : (dispatch context.registry opened words).Answers := by
      cases words with
      | nil => exact fun _ => Option.some_ne_none _
      | cons name args => exact (Eval.answers_run context.registry name args).redirect opened
    rw [evaluate_eq, Eval.bind_apply, Eval.onShell, hprepare]
    simpa using hdispatch _

theorem prepare_ok {substitute : Substituter} {shell last : Shell} {opened : Redirection.Files}
    {words : List String}
    (h : (call.prepare substitute).Ends shell (.ok (opened, words)) last) :
    (opened.input.isSome = true ↔ "<" ∈ call.tokens) ∧
      (opened.output.isSome = true ↔ ">" ∈ call.tokens ∨ ">>" ∈ call.tokens) := by
  unfold prepare at h
  split at h
  · cases h
  · obtain ⟨⟨files, tokens⟩, mid, hextract, h⟩ := Eval.ends_bind_ok.mp h
    obtain ⟨others, last, -, h⟩ := Eval.ends_bind_ok.mp h
    obtain ⟨hpair, -⟩ := Eval.ends_pure.mp h
    obtain ⟨rfl, -⟩ := Prod.mk.inj (Except.ok.inj hpair)
    exact Redirection.extract_ok hextract

/-- Either only the preparation has happened, or behind it one application has run. -/
theorem Course.untouched_or_ran (h : Course context call run outcome after) :
    ∃ ended shell, (call.prepare context.substitute).Ends run.shell ended shell ∧
      (after = run.resume shell ∨ ∃ opened name args failure, ended = .ok (opened, name :: args) ∧
        after.history = .ran name failure :: shell.history) := by
  rcases h with hprepared | hprepared | @⟨opened, name, args, shell, outcome, last, hprepared, hran⟩
  · exact ⟨_, _, hprepared, .inl rfl⟩
  · exact ⟨_, _, hprepared, .inl rfl⟩
  · refine ⟨_, _, hprepared, ?_⟩
    rcases Registry.ends_run_history hran with rfl | hhistory
    · exact .inl (opened.leave_enter run (run.resume shell) rfl rfl)
    · exact .inr ⟨opened, name, args, _, rfl, hhistory⟩

theorem Course.input_eq (h : Course context call run outcome after) (hinput : "<" ∈ call.tokens) :
    after.input = run.input := by
  rcases h with hprepared | hprepared | ⟨hprepared, hran⟩
  · rfl
  · rfl
  · exact if_pos ((prepare_ok hprepared).1.mpr hinput)

theorem Course.output_eq (h : Course context call run outcome after)
    (houtput : ">" ∈ call.tokens ∨ ">>" ∈ call.tokens) : after.output = run.output := by
  rcases h with hprepared | hprepared | ⟨hprepared, hran⟩
  · rfl
  · rfl
  · exact if_pos ((prepare_ok hprepared).2.mpr houtput)

/-- A call with an input file of its own does not depend on the input of the run. -/
theorem Course.withInput (h : Course context call run outcome after) (hinput : "<" ∈ call.tokens)
    (source : Source) :
    Course context call (run.withInput source) outcome (after.withInput source) := by
  rcases h with hprepared | hprepared | @⟨opened, name, args, shell, outcome, last, hprepared, hran⟩
  · exact .fails hprepared
  · exact .idle hprepared
  · have hopen := (prepare_ok hprepared).1.mpr hinput
    obtain ⟨location, hlocation⟩ := Option.isSome_iff_exists.mp hopen
    have henter : opened.enter ((run.withInput source).resume shell) =
        opened.enter (run.resume shell) := by
      simp [Redirection.Files.enter, hlocation, Run.resume, Run.withInput]
    have hleave : (opened.leave run last).withInput source =
        opened.leave (run.withInput source) last := by
      simp [Redirection.Files.leave, hlocation, Run.withInput]
    rw [hleave]
    exact .dispatches hprepared (henter ▸ hran)

end Course

/-- A call prepares itself on the shell, and ends there or runs one application; it lacks an answer
only if its preparation does. Where nothing runs, neither stream of the run has been touched. The
application is given a file in place of the input just where the call has a `<`, in place of the
output just where it has a `>` or a `>>`, and the stream that the file replaces is then as it was;
with a `<`, the input of the run makes no difference. A substitution evaluates its line on an empty
input and a buffer, at every depth. -/
theorem evaluate_stream_ownership (registry : Registry) (call : Call) :
    (∀ (substitute : Substituter) (run : Run),
      (call.evaluate ⟨registry, substitute⟩ run = none ↔
        call.prepare substitute run.shell = none) ∧
      (∀ outcome after, (call.evaluate ⟨registry, substitute⟩).Ends run outcome after ↔
        Course ⟨registry, substitute⟩ call run outcome after) ∧
      ∀ outcome after, Course ⟨registry, substitute⟩ call run outcome after →
        (∃ ended shell, (call.prepare substitute).Ends run.shell ended shell ∧
          (after = run.resume shell ∨ ∃ opened name args failure,
            ended = .ok (opened, name :: args) ∧
              after.history = .ran name failure :: shell.history)) ∧
        ("<" ∈ call.tokens → after.input = run.input ∧ ∀ source,
          Course ⟨registry, substitute⟩ call (run.withInput source) outcome
            (after.withInput source)) ∧
        (">" ∈ call.tokens ∨ ">>" ∈ call.tokens → after.output = run.output)) ∧
    (∀ substitute shell opened words after,
      (call.prepare substitute).Ends shell (.ok (opened, words)) after →
        (opened.input.isSome = true ↔ "<" ∈ call.tokens) ∧
          (opened.output.isSome = true ↔ ">" ∈ call.tokens ∨ ">>" ∈ call.tokens)) ∧
    ∀ depth line shell outcome after,
      (substituter registry (depth + 1) line).Ends shell outcome after ↔
        ∃ ended last, (evaluateLine ⟨registry, substituter registry depth⟩ line).Ends
            ⟨⟨shell.world, .empty, .unlimited⟩, shell.history⟩ ended last ∧
          outcome = ended.map (fun _ => last.output.collected) ∧ after = last.shell := by
  refine ⟨fun substitute run => ⟨evaluate_eq_none_iff, fun outcome after => ends_evaluate, ?_⟩,
    fun substitute shell opened words after => prepare_ok, fun depth line shell outcome after => ?_⟩
  · intro outcome after hcourse
    refine ⟨hcourse.untouched_or_ran, fun hinput => ⟨hcourse.input_eq hinput, ?_⟩,
      hcourse.output_eq⟩
    exact hcourse.withInput hinput
  · exact ends_capturedLine

/-- The redirected call of `cat` leaves the input of the run alone, whose bytes the substitution in
its target does not get either. -/
theorem evaluate_stream_ownership_redirected :
    let files := FileTree.empty.insert ["f"] (.file [0x61])
    let run (unread : Bytes) : Run :=
      ⟨⟨⟨.withDirectory "/", files⟩, ⟨.ofBytes unread, .unlimited⟩⟩, []⟩
    let after (unread : Bytes) : Run :=
      ⟨⟨⟨.withDirectory "/", files⟩, ⟨.ofBytes unread, .memory [0x61] none⟩⟩,
        [.ran "cat" none, .ran "echo" none, .ran "cat" none, .substituted "cat; echo f"]⟩
    let call : Call := ⟨["cat", "<", "`cat; echo f`"]⟩
    "<" ∈ call.tokens ∧
      (call.evaluate ⟨builtins, substituter builtins 1⟩).Ends (run [0x62]) (.ok ()) (after [0x62]) ∧
      ∀ unread, Course ⟨builtins, substituter builtins 1⟩ call (run unread) (.ok ())
        (after unread) := by
  intro files run after call
  have hends : (call.evaluate ⟨builtins, substituter builtins 1⟩).Ends (run [0x62]) (.ok ())
      (after [0x62]) := by
    unfold Eval.Ends
    cbv
  have hinput : "<" ∈ call.tokens := by simp [call]
  obtain ⟨-, hcourse, hstreams⟩ :=
    (evaluate_stream_ownership builtins call).1 (substituter builtins 1) (run [0x62])
  obtain ⟨-, hredirected, -⟩ := hstreams _ _ ((hcourse _ _).mp hends)
  exact ⟨hinput, hends, fun unread => (hredirected hinput).2 (.ofBytes unread)⟩

end Call

end LineShell
