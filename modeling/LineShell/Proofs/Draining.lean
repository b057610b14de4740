import LineShell.Proofs.Directories

/-!
# What becomes of the input

An application that reads its input reads it to the end if it is text. So a line does not meet its
input at all, and does the same on any other, or a single application is given the whole of it and
leaves nothing. The history tells which application this was.
-/

namespace LineShell

/-- On the way from one run to another, an application was given the whole input and took all of
it. -/
inductive Run.Drains (run after : Run) : Prop
  | intro {name : String} {args : List String} {start last : Run} {outcome : Except ShellError Unit}
      (ran : (builtins.run name args).Ends start outcome last)
      (told : last.history = .ran name (failure? outcome) :: start.history)
      (since : run.history <:+ start.history) (still : last.history <:+ after.history)
      (given : start.input = run.input) (left : last.input = run.input.drained)

/-- What happens to an input can be told before or behind steps that leave it alone. -/
structure Carried (drains : Run → Run → Prop) : Prop where
  before : ∀ {run mid after : Run}, run.history <:+ mid.history → mid.input = run.input →
    drains mid after → drains run after
  behind : ∀ {run mid after : Run}, drains run mid → mid.history <:+ after.history →
    drains run after

theorem carried_true : Carried fun _ _ => True := ⟨fun _ _ _ => trivial, fun _ _ => trivial⟩

theorem Run.carried_drains : Carried Run.Drains where
  before hgrown hinput := by
    rintro ⟨ran, told, since, still, given, left⟩
    exact ⟨ran, told, hgrown.trans since, still, given.trans hinput, by rw [left, hinput]⟩
  behind := by
    rintro _ _ _ ⟨ran, told, since, still, given, left⟩ hgrown
    exact ⟨ran, told, since, still.trans hgrown, given, left⟩

namespace Eval

variable {α β : Type} {drains : Run → Run → Prop} {m : Eval Run α}

/-- The step ends as it does without having met the input. -/
def Ignores (m : Eval Run α) (run : Run) (outcome : Except ShellError α) (after : Run) : Prop :=
  after.input = run.input ∧ ∀ input, m.Ends (run.withInput input) outcome (after.withInput input)

/-- The step only adds to the history, and of an input that is text it takes nothing or all. -/
def NoneOrAll (drains : Run → Run → Prop) (m : Eval Run α) : Prop :=
  ∀ (run : Run) outcome (after : Run), m.Ends run outcome after →
    run.history <:+ after.history ∧
      (Utf8.IsText run.input.unread → m.Ignores run outcome after ∨
        after.input = run.input.drained ∧ drains run after)

/-- A step that never meets the input. -/
theorem noneOrAll_of_ignores
    (h : ∀ (run : Run) outcome (after : Run), m.Ends run outcome after →
      run.history <:+ after.history ∧ m.Ignores run outcome after) : m.NoneOrAll drains :=
  fun _ _ _ hends => ⟨(h _ _ _ hends).1, fun _ => .inl (h _ _ _ hends).2⟩

theorem noneOrAll_pure (a : α) : (pure a : Eval Run α).NoneOrAll drains := by
  refine noneOrAll_of_ignores fun run outcome after hends => ?_
  obtain ⟨rfl, rfl⟩ := ends_pure.mp hends
  exact ⟨List.suffix_rfl, rfl, fun _ => ends_pure.mpr ⟨rfl, rfl⟩⟩

theorem noneOrAll_fail (e : ShellError) : (fail e : Eval Run α).NoneOrAll drains := by
  refine noneOrAll_of_ignores fun run outcome after hends => ?_
  obtain ⟨rfl, rfl⟩ := ends_fail.mp hends
  exact ⟨List.suffix_rfl, rfl, fun _ => ends_fail.mpr ⟨rfl, rfl⟩⟩

/-- The shell has no streams. -/
theorem noneOrAll_onShell {m : Eval Shell α} (h : m.Travels) :
    (onShell m).NoneOrAll drains := by
  refine noneOrAll_of_ignores fun run outcome after hends => ?_
  obtain ⟨shell, hshell, rfl⟩ := ends_onShell.mp hends
  obtain ⟨-, -, events, hevents, -⟩ := h _ _ _ hshell
  exact ⟨⟨events, hevents.symm⟩, rfl, fun _ => ends_onShell.mpr ⟨shell, hshell, rfl⟩⟩

theorem noneOrAll_write (bytes : Bytes) (error : IoFault → ShellError) :
    (onJob ((Job.write bytes).adaptExcept error)).NoneOrAll drains := by
  refine noneOrAll_of_ignores fun run outcome after hends => ?_
  rcases ends_onJob_write.mp hends with ⟨hfits, rfl, rfl⟩ | ⟨hfull, rfl, rfl⟩
  · exact ⟨List.suffix_rfl, rfl, fun _ => ends_onJob_write.mpr (.inl ⟨hfits, rfl, rfl⟩)⟩
  · exact ⟨List.suffix_rfl, rfl, fun _ => ends_onJob_write.mpr (.inr ⟨hfull, rfl, rfl⟩)⟩

theorem noneOrAll_moveTo (directory : String) : (onJob (moveTo directory)).NoneOrAll drains := by
  refine noneOrAll_of_ignores fun run outcome after hends => ?_
  obtain ⟨rfl, rfl⟩ := ends_moveTo.mp hends
  exact ⟨List.suffix_rfl, rfl, fun _ => ends_moveTo.mpr ⟨rfl, rfl⟩⟩

/-- Once the input is drained there is nothing left to take. -/
theorem NoneOrAll.bind {f : α → Eval Run β} (carried : Carried drains) (hm : m.NoneOrAll drains)
    (hf : ∀ a, (f a).NoneOrAll drains) : (m >>= f).NoneOrAll drains := by
  intro run outcome after hends
  rcases ends_bind.mp hends with ⟨a, mid, hfirst, hlater⟩ | ⟨e, hfails, rfl⟩
  · obtain ⟨hmid, htakes⟩ := hm _ _ _ hfirst
    obtain ⟨hafter, hrest⟩ := hf a _ _ _ hlater
    refine ⟨hmid.trans hafter, fun htext => ?_⟩
    rcases htakes htext with ⟨hinput, hany⟩ | ⟨hinput, hdrains⟩
    · rcases hrest (by rwa [hinput]) with ⟨hkept, hmore⟩ | ⟨hdrained, hdrains⟩
      · refine .inl ⟨hkept.trans hinput, fun input => ?_⟩
        exact ends_bind.mpr (.inl ⟨a, _, hany input, hmore input⟩)
      · exact .inr ⟨by rw [hdrained, hinput], carried.before hmid hinput hdrains⟩
    · -- What is left is text again, the empty one.
      refine .inr ⟨?_, carried.behind hdrains hafter⟩
      rcases hrest (by rw [hinput]; rfl) with ⟨hkept, -⟩ | ⟨hdrained, -⟩
      · rw [hkept, hinput]
      · rw [hdrained, hinput]
        rfl
  · obtain ⟨hafter, hfirst⟩ := hm _ _ _ hfails
    refine ⟨hafter, fun htext => (hfirst htext).imp_left fun ⟨hkept, hany⟩ => ?_⟩
    exact ⟨hkept, fun input => ends_bind.mpr (.inr ⟨e, hany input, rfl⟩)⟩

/-! ### Applications -/

theorem noneOrAll_reads {action : Action ShellError α} (h : OnlyReads action) :
    (onJob action).NoneOrAll fun _ _ => True := by
  intro run outcome after hends
  obtain ⟨read, htakes, hread⟩ := h
  obtain ⟨job, hjob, rfl⟩ := ends_onJob.mp hends
  rw [hread, Job.ended_inj] at hjob
  obtain ⟨rfl, rfl⟩ := hjob
  refine ⟨List.suffix_rfl, fun htext => ?_⟩
  rcases htakes run.job.world with ⟨outcome, hnone⟩ | hall
  · refine .inl ⟨by simp only [hnone], fun input => ?_⟩
    have hother : read (run.withInput input).job.world (run.withInput input).input =
        (outcome, input) := hnone input
    have happly := hread (run.withInput input).job
    rw [hother] at happly
    simp only [hnone]
    exact ends_onJob.mpr ⟨_, happly, rfl⟩
  · exact .inr ⟨hall _ htext, trivial⟩

theorem noneOrAll_actions :
    ActionClosed fun _ action => (onJob action).NoneOrAll fun _ _ => True where
  ofReads := noneOrAll_reads
  ofBind haction hnext := by
    rw [onJob_bind]
    exact haction.bind carried_true hnext
  ofWrite bytes error _ := noneOrAll_write bytes error

theorem noneOrAll_run (name : String) (args : List String) :
    (builtins.run name args).NoneOrAll Run.Drains := by
  intro run outcome after hends
  rcases Registry.ends_run.mp hends with
    ⟨hlookup, rfl, rfl⟩ | ⟨application, last, hlookup, hran, rfl⟩
  · exact ⟨List.suffix_rfl, fun _ => .inl ⟨rfl, fun _ =>
      Registry.ends_run.mpr (.inl ⟨hlookup, rfl, rfl⟩)⟩⟩
  · have happlication : (onJob (application args)).NoneOrAll fun _ _ => True := by
      by_cases hname : name = "cd"
      · subst hname
        obtain rfl : cd = application := Option.some.inj hlookup
        exact noneOrAll_actions.cd noneOrAll_moveTo args
      · exact noneOrAll_actions.builtin hlookup hname args
    refine ⟨List.suffix_cons _ _, fun htext => ?_⟩
    rcases (happlication _ _ _ hran).2 htext with ⟨hkept, hany⟩ | ⟨hdrained, -⟩
    · exact .inl ⟨hkept, fun input => Registry.ends_run.mpr
        (.inr ⟨application, last.withInput input, hlookup, hany input, rfl⟩)⟩
    · exact .inr ⟨hdrained, hends, rfl, List.suffix_rfl, List.suffix_rfl, rfl, hdrained⟩

/-! ### Commands -/

theorem NoneOrAll.capture {m : Eval Run Unit} (hm : m.NoneOrAll Run.Drains) :
    m.capture.NoneOrAll Run.Drains := by
  intro run outcome after hends
  obtain ⟨collected, rfl, @⟨ended, last, hended⟩⟩ := ends_capture.mp hends
  obtain ⟨hgrown, htakes⟩ := hm _ _ _ hended
  refine ⟨hgrown, fun htext => ?_⟩
  rcases htakes htext with ⟨hkept, hany⟩ | ⟨hdrained, ran, told, since, still, given, left⟩
  · exact .inl ⟨hkept, fun input => ends_capture.mpr
      ⟨_, rfl, @EndsApart.intro m (run.withInput input) ended _ (hany input)⟩⟩
  · exact .inr ⟨hdrained, ran, told, since, still, given, left⟩

/-- What stands in place of the input is not the input. -/
theorem NoneOrAll.reading (hm : m.NoneOrAll Run.Drains) (bytes : Bytes) :
    (m.reading bytes).NoneOrAll Run.Drains := by
  refine noneOrAll_of_ignores fun run outcome after hends => ?_
  obtain ⟨last, hlast, rfl⟩ := ends_reading.mp hends
  have hgrown : run.history <:+ last.history := (hm _ _ _ hlast).1
  exact ⟨hgrown, rfl, fun input => ends_reading.mpr ⟨last, hlast, rfl⟩⟩

theorem NoneOrAll.redirect (hm : m.NoneOrAll Run.Drains) (opened : Redirection.Files) :
    (opened.redirect m).NoneOrAll Run.Drains := by
  obtain ⟨source, sink⟩ := opened
  cases source with
  | some location =>
    refine noneOrAll_of_ignores fun run outcome after hends => ?_
    obtain ⟨last, hlast, rfl⟩ := Redirection.Files.ends_redirect.mp hends
    have hgrown : run.history <:+ last.history := (hm _ _ _ hlast).1
    exact ⟨hgrown, rfl, fun input => Redirection.Files.ends_redirect.mpr ⟨last, hlast, rfl⟩⟩
  | none =>
    intro run outcome after hends
    obtain ⟨last, hlast, rfl⟩ := Redirection.Files.ends_redirect.mp hends
    obtain ⟨hgrown, htakes⟩ := hm _ _ _ hlast
    refine ⟨hgrown, fun htext => ?_⟩
    rcases htakes htext with ⟨hkept, hany⟩ | ⟨hdrained, ran, told, since, still, given, left⟩
    · exact .inl ⟨hkept, fun input => Redirection.Files.ends_redirect.mpr
        ⟨last.withInput input, hany input, rfl⟩⟩
    · exact .inr ⟨hdrained, ran, told, since, still, given, left⟩

theorem noneOrAll_commands : CommandClosed fun _ m => m.NoneOrAll Run.Drains where
  ofPure := noneOrAll_pure
  ofFail := noneOrAll_fail
  ofBind := NoneOrAll.bind Run.carried_drains
  ofCapture := NoneOrAll.capture
  ofReading bytes hm := hm.reading bytes
  ofWrite bytes := noneOrAll_write bytes .io

end Eval

theorem Call.noneOrAll_evaluate {context : Context} (hregistry : context.registry = builtins)
    (h : ∀ line, (context.substitute line).Travels) (call : Call) :
    (call.evaluate context).NoneOrAll Run.Drains := by
  rw [evaluate_eq, hregistry]
  refine (Eval.noneOrAll_onShell (travels_prepare h call)).bind Run.carried_drains ?_
  intro (opened, words)
  cases words with
  | nil => exact Eval.noneOrAll_pure ()
  | cons name args => exact (Eval.noneOrAll_run name args).redirect opened

/-- A line does not meet its input, or one application of it takes all. -/
theorem Interpreter.noneOrAll_evaluate (depth : Nat) (line : String) :
    (Interpreter.evaluate ⟨builtins, depth⟩ line).NoneOrAll Run.Drains :=
  Eval.noneOrAll_commands.line
    (Eval.noneOrAll_commands.evaluate
      (Call.noneOrAll_evaluate rfl (travels_substituter depth))) line

end LineShell
