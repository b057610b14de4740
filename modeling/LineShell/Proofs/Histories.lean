import LineShell.Proofs.Closure

/-!
# What a history tells

Evaluation only adds to the history. An account relates the events that a step adds to how the step
fails, if it does: it knows what single events tell, and what is told by events that follow others.
What an account says of every substitution it then says of whole calls and pipes, and of sequences
where it says so of their commands.
-/

namespace LineShell

/-- The error of a step that has failed. -/
def failure? {α : Type} : Except ShellError α → Option ShellError
  | .ok _ => none
  | .error e => some e

theorem ShellError.isExit_iff {e : ShellError} : e.isExit = true ↔ ∃ code, e = .exit code := by
  cases e <;> simp [isExit]

/-- A way to read the events of a step, latest first, together with its failure. The events of a
step that has succeeded may come before those of another one. A sequence drops a failure that is no
exit request, and holds one back that is. -/
structure Account where
  Tells : List Event → Option ShellError → Prop
  nil : Tells [] none
  plain : ∀ {e : ShellError}, e.Plain → Tells [] (some e)
  ran : ∀ name failure, Tells [.ran name failure] failure
  append : ∀ {first later failure}, Tells first none → Tells later failure →
    Tells (later ++ first) failure
  dropped : ∀ {events e}, Tells events (some e) → e.isExit = false → Tells events none
  held : ∀ {first later code other}, Tells first (some (.exit code)) → Tells later other →
    Tells (later ++ first) (some (.exit code))

namespace Account

variable {σ α β : Type} {account : Account} {history : σ → List Event}

/-- Between the two states the history has grown by events that account for the outcome. -/
def Explains (account : Account) (history : σ → List Event) (s : σ) (outcome : Except ShellError α)
    (t : σ) : Prop :=
  ∃ events, history t = events ++ history s ∧ account.Tells events (failure? outcome)

/-- However the step ends, the history explains it. -/
def Covers (account : Account) (history : σ → List Event) (m : Eval σ α) : Prop :=
  ∀ s outcome t, m.Ends s outcome t → account.Explains history s outcome t

section Steps

variable {s t : σ}

theorem explains_ok {a : α} (h : history t = history s) : account.Explains history s (.ok a) t :=
  ⟨[], h, account.nil⟩

/-- Only what is in the history matters of the states. -/
theorem Explains.congr {s' t' : σ} {outcome : Except ShellError α}
    (h : account.Explains history s outcome t) (hs : history s' = history s)
    (ht : history t' = history t) : account.Explains history s' outcome t' := by
  obtain ⟨events, hevents, htells⟩ := h
  exact ⟨events, by rw [ht, hs, hevents], htells⟩

theorem Explains.trans {mid : σ} {a : α} {outcome : Except ShellError β}
    (hfirst : account.Explains history s (.ok a) mid)
    (hlater : account.Explains history mid outcome t) : account.Explains history s outcome t := by
  obtain ⟨first, hmid, hcalm⟩ := hfirst
  obtain ⟨later, ht, htells⟩ := hlater
  exact ⟨later ++ first, by rw [ht, hmid, List.append_assoc], account.append hcalm htells⟩

theorem covers_pure (a : α) : account.Covers history (pure a : Eval σ α) := by
  intro s outcome t h
  obtain ⟨rfl, rfl⟩ := Eval.ends_pure.mp h
  exact explains_ok rfl

theorem covers_fail {e : ShellError} (he : account.Tells [] (some e)) :
    account.Covers history (Eval.fail e : Eval σ α) := by
  intro s outcome t h
  obtain ⟨rfl, rfl⟩ := Eval.ends_fail.mp h
  exact ⟨[], rfl, he⟩

theorem covers_get : account.Covers history (Eval.get : Eval σ σ) := by
  intro s outcome t h
  obtain ⟨rfl, rfl⟩ := Eval.ends_get.mp h
  exact explains_ok rfl

theorem covers_modify {f : σ → σ} (hf : ∀ s, history (f s) = history s) :
    account.Covers history (Eval.modify f) := by
  intro s outcome t h
  obtain ⟨rfl, rfl⟩ := Eval.ends_modify.mp h
  exact explains_ok (hf s)

theorem covers_ofSyntax {x : Except SyntaxFault α}
    (hx : ∀ fault, x = .error fault → account.Tells [] (some (.malformed fault))) :
    account.Covers history (Eval.ofSyntax x : Eval σ α) := by
  cases x with
  | ok a => exact covers_pure a
  | error fault => exact covers_fail (hx fault rfl)

theorem Covers.bind {m : Eval σ α} {f : α → Eval σ β} (hm : account.Covers history m)
    (hf : ∀ a, account.Covers history (f a)) : account.Covers history (m >>= f) := by
  intro s outcome t h
  rcases Eval.ends_bind.mp h with ⟨a, mid, hfirst, hlater⟩ | ⟨e, hfails, rfl⟩
  · exact (hm _ _ _ hfirst).trans (hf a _ _ _ hlater)
  · exact hm _ _ _ hfails

end Steps

section Runs

variable {m : Eval Run α}

theorem Covers.onShell {m : Eval Shell α} (hm : account.Covers Shell.history m) :
    account.Covers Run.history (Eval.onShell m) := by
  intro run outcome after h
  obtain ⟨shell, hends, rfl⟩ := Eval.ends_onShell.mp h
  exact hm run.shell outcome shell hends

theorem Covers.redirect (hm : account.Covers Run.history m) (opened : Redirection.Files) :
    account.Covers Run.history (opened.redirect m) := by
  intro run outcome after h
  unfold Redirection.Files.redirect at h
  obtain ⟨last, hends, rfl⟩ := Eval.ends_through.mp h
  exact (hm _ _ _ hends).congr rfl rfl

theorem Covers.into {first second : Eval Run Unit} (hfirst : account.Covers Run.history first)
    (hsecond : account.Covers Run.history second) :
    account.Covers Run.history (first.into second) := by
  intro run outcome after h
  rcases Eval.ends_into.mp h with ⟨e, mid, hfails, rfl, rfl⟩ | ⟨mid, last, hends, hlast, rfl⟩
  · exact (hfirst _ _ _ hfails).congr rfl rfl
  · have hmid : account.Explains Run.history run (.ok ()) mid :=
      (hfirst _ _ _ hends).congr rfl rfl
    have hrest : account.Explains Run.history mid outcome (last.withInput mid.input) :=
      (hsecond _ _ _ hlast).congr rfl rfl
    exact hmid.trans hrest

theorem covers_run (registry : Registry) (name : String) (args : List String) :
    account.Covers Run.history (registry.run name args) := by
  unfold Registry.run
  split
  · exact covers_fail (account.plain trivial)
  · next application _ =>
    intro run outcome after h
    cases hresult : application args run.job <;> cases outcome <;>
      simp only [Eval.Ends, hresult, Option.some.injEq, EStateM.Result.ok.injEq,
        EStateM.Result.error.injEq, reduceCtorEq] at h
    · obtain ⟨-, rfl⟩ := h
      exact ⟨[.ran name none], rfl, account.ran name none⟩
    · obtain ⟨rfl, rfl⟩ := h
      exact ⟨_, rfl, account.ran name _⟩

end Runs

theorem covers_closed (account : Account) :
    StepClosed (fun _ m => account.Covers Shell.history m)
      (fun _ m => account.Covers Run.history m) where
  ofPure := covers_pure
  ofFail he := covers_fail (account.plain he)
  ofGet := covers_get
  ofFiles _ := covers_modify fun _ => rfl
  ofBind := Covers.bind
  ofShell := Covers.onShell
  ofRunBind := Covers.bind
  ofRedirect opened hm := hm.redirect opened
  ofInto := Covers.into
  ofRun := covers_run

end Account

/-! ### Commands -/

section Commands

variable {account : Account} {context : Context}

theorem Eval.EndsApart.explains {m : Eval Run Unit} {run after : Run}
    {outcome : Except ShellError Bytes}
    (hm : ∀ ended last, m.Ends (run.withOutput .unlimited) ended last →
      account.Explains Run.history (run.withOutput .unlimited) ended last)
    (h : m.EndsApart run outcome after) : account.Explains Run.history run outcome after := by
  obtain @⟨ended, last, hends⟩ := h
  obtain ⟨events, hevents, htells⟩ := hm ended last hends
  refine ⟨events, hevents, ?_⟩
  cases ended <;> exact htells

namespace Command

/-- The first exit request of a sequence is held back, whatever its other commands come to. -/
theorem RunsEach.explains {commands : List Command} {run after : Run}
    {outcomes : List (Except ShellError Bytes)}
    (hcommands : ∀ command ∈ commands, ∀ run outcome after,
      (command.evaluate context).EndsApart run outcome after →
        account.Explains Run.history run outcome after)
    (h : RunsEach context commands run outcomes after) :
    account.Explains Run.history run (verdict outcomes) after := by
  induction h with
  | nil => exact Account.explains_ok rfl
  | @cons command commands run mid after outcome outcomes hchild hfits hothers ih =>
    obtain ⟨hcommand, hrest⟩ := List.forall_mem_cons.mp hcommands
    obtain ⟨first, hmid, htells⟩ := hcommand _ _ _ hchild
    obtain ⟨later, hafter, hlater⟩ := ih hrest
    refine ⟨later ++ first, ?_, ?_⟩
    · rw [hafter, Run.wrote_history, hmid, List.append_assoc]
    · rw [verdict_cons]
      rcases outcome with e | bytes
      · cases hexit : e.isExit with
        | true =>
          obtain ⟨code, rfl⟩ := ShellError.isExit_iff.mp hexit
          exact account.held htells hlater
        | false =>
          rw [exitCode?_eq_none hexit]
          exact account.append (account.dropped htells hexit) hlater
      · exact account.append htells hlater

theorem explains_evaluate
    (h : ∀ line, account.Covers Shell.history (Argument.runSubstitution context.substitute line))
    {command : Command} {run after : Run} {outcome : Except ShellError Unit}
    (haccepts : run.output.AcceptsAll) (hends : (command.evaluate context).Ends run outcome after) :
    account.Explains Run.history run outcome after := by
  induction command using induct_members generalizing run outcome after with
  | call single => exact account.covers_closed.call h single _ _ _ hends
  | pipe stages => exact account.covers_closed.pipe h stages _ _ _ hends
  | sequence commands ih =>
    rcases ends_sequence.mp hends with ⟨outcomes, hran, rfl⟩ | ⟨outcomes, hbreaks, -⟩
    · -- The commands of a sequence write to buffers, which take everything.
      refine hran.explains fun command hmem run outcome after hchild => ?_
      exact hchild.explains fun ended last => ih command hmem Sink.acceptsAll_unlimited
    · exact absurd hbreaks (not_breaksOff haccepts)

end Command

/-! ### Substitutions -/

/-- The run of a line that a shell evaluates for substitution. -/
def Shell.capturing (shell : Shell) : Run := ⟨⟨shell.world, .empty, .unlimited⟩, shell.history⟩

theorem capturedLine_apply (line : String) (shell : Shell) :
    capturedLine context line shell =
      match evaluateLine context line shell.capturing with
      | none => none
      | some (.ok () last) => some (.ok last.output.collected last.shell)
      | some (.error e last) => some (.error e last.shell) := rfl

theorem ends_capturedLine {line : String} {shell after : Shell}
    {outcome : Except ShellError Bytes} :
    (capturedLine context line).Ends shell outcome after ↔
      ∃ ended last, (evaluateLine context line).Ends shell.capturing ended last ∧
        outcome = Eval.collect ended last ∧ after = last.shell := by
  constructor
  · intro h
    rcases (evaluateLine context line).eq_none_or_ends shell.capturing with
      hnone | ⟨ended, last, hended⟩
    · cases outcome <;> simp [Eval.Ends, capturedLine_apply, hnone] at h
    · refine ⟨ended, last, hended, ?_⟩
      cases ended <;> cases outcome <;>
        simp_all [Eval.Ends, capturedLine_apply, Eval.collect, Except.map]
  · rintro ⟨ended, last, hended, rfl, rfl⟩
    cases ended <;> simp_all [Eval.Ends, capturedLine_apply, Eval.collect, Except.map]

theorem covers_capturedLine {line : String}
    (h : ∀ line, account.Covers Shell.history (Argument.runSubstitution context.substitute line))
    (hparse : ∀ fault, Command.parse line = .error fault →
      account.Tells [] (some (.malformed fault))) :
    account.Covers Shell.history (capturedLine context line) := by
  intro shell outcome after hends
  obtain ⟨ended, last, hline, rfl, rfl⟩ := ends_capturedLine.mp hends
  have hended : account.Explains Run.history shell.capturing ended last := by
    rcases Eval.ends_bind.mp hline with ⟨command, mid, hcommand, hlast⟩ | ⟨e, hfails, rfl⟩
    · obtain ⟨-, rfl⟩ := Eval.ends_ofSyntax.mp hcommand
      exact Command.explains_evaluate h Sink.acceptsAll_unlimited hlast
    · exact Account.covers_ofSyntax hparse _ _ _ hfails
  obtain ⟨events, hevents, htells⟩ := hended
  refine ⟨events, hevents, ?_⟩
  cases ended <;> exact htells

theorem covers_runSubstitution {substitute : Substituter} {line : String}
    (hline : account.Tells [.substituted line] none)
    (h : account.Covers Shell.history (substitute line)) :
    account.Covers Shell.history (Argument.runSubstitution substitute line) := by
  refine Account.Covers.bind ?_ fun _ => h.bind fun output => Account.covers_pure _
  intro shell outcome after hends
  obtain ⟨rfl, rfl⟩ := Eval.ends_modify.mp hends
  exact ⟨[.substituted line], rfl, hline⟩

theorem covers_runSubstitution_of_never {substitute : Substituter} {line : String}
    (h : substitute line = Eval.never) :
    account.Covers Shell.history (Argument.runSubstitution substitute line) := by
  intro shell outcome after hends
  have hnone : Argument.runSubstitution substitute line shell = none := by
    rw [Argument.runSubstitution_apply, h]
    rfl
  cases outcome <;> simp [Eval.Ends, hnone] at hends

end Commands

end LineShell
