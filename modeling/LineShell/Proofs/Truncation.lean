import LineShell.Proofs.Actions

/-!
# Outputs with a limit

An output that takes so many bytes and no more makes a difference only where it is full. Most steps
never meet the output of the run: they work on the shell, or on a buffer, or on a file that stands
in its place. A write is cut off where the limit is reached, and fails; and since every step behind
a failure is left out, nothing is written any more, and the failure is how the whole line ends.
-/

namespace LineShell

namespace Run

theorem withOutput_of_output_eq {run : Run} {sink : Sink} (h : run.output = sink) :
    run.withOutput sink = run := by
  obtain rfl := h
  rfl

end Run

namespace Eval

variable {α β : Type} {m : Eval Run α} {f : α → Eval Run β}

/-- The step does not meet the output: this stays as it is, and any other would do as well. -/
def Silent (m : Eval Run α) : Prop :=
  ∀ (run : Run) outcome (after : Run), m.Ends run outcome after → after.output = run.output ∧
    ∀ sink, m.Ends (run.withOutput sink) outcome (after.withOutput sink)

/-- What the limit makes of a step that would have ended with the outcome, in the run `after`, and
brought all that is written to these bytes: nothing if they fit, and else a failure with just as
many of them written as fit. -/
inductive Clipped (m : Eval Run α) (run : Run) (limit : Nat) (outcome : Except ShellError α)
    (after : Run) (written : Bytes) : Prop
  | fits (short : written.length ≤ limit)
      (ends : m.Ends run outcome (after.withOutput (.memory written (some limit))))
  | full {e : ShellError} {last : Run} (long : limit < written.length)
      (ends : m.Ends run (.error e) last) (failure : e.isExit = false)
      (output : last.output = .memory (written.take limit) (some limit))

/-- The step only adds to what is written, and a limit only cuts this off. -/
def Truncates (m : Eval Run α) : Prop :=
  ∀ (run : Run) outcome (after : Run) (written : Bytes) limit, written.length ≤ limit →
    m.Ends (run.withOutput (.memory written none)) outcome after →
      ∃ more, after.output = .memory (written ++ more) none ∧
        Clipped m (run.withOutput (.memory written (some limit))) limit outcome after
          (written ++ more)

/-- Where another step runs this one and only gives back what is not its output, the limit makes of
it what it makes of this one. -/
theorem Clipped.through {other : Eval Run α} {run start after : Run} {limit : Nat}
    {outcome : Except ShellError α} {written : Bytes}
    (h : Clipped m run limit outcome after written) (back : Except ShellError α → Run → Run)
    (hends : ∀ ended last, m.Ends run ended last → other.Ends start ended (back ended last))
    (houtput : ∀ ended last, (back ended last).output = last.output)
    (hback : ∀ sink, back outcome (after.withOutput sink) =
      (back outcome after).withOutput sink) :
    Clipped other start limit outcome (back outcome after) written := by
  cases h with
  | fits hfits hended => exact .fits hfits (hback _ ▸ hends _ _ hended)
  | full hlong hended hfailure hfull =>
    exact .full hlong (hends _ _ hended) hfailure ((houtput _ _).trans hfull)

theorem Silent.truncates (h : m.Silent) : m.Truncates := by
  intro run outcome after written limit hshort hends
  obtain ⟨houtput, hany⟩ := h _ _ _ hends
  refine ⟨[], by rw [houtput, List.append_nil, Run.withOutput_output], ?_⟩
  rw [List.append_nil]
  exact .fits hshort (hany _)

theorem silent_pure (a : α) : (pure a : Eval Run α).Silent := by
  intro run outcome after hends
  obtain ⟨rfl, rfl⟩ := ends_pure.mp hends
  exact ⟨rfl, fun _ => ends_pure.mpr ⟨rfl, rfl⟩⟩

theorem silent_fail (e : ShellError) : (fail e : Eval Run α).Silent := by
  intro run outcome after hends
  obtain ⟨rfl, rfl⟩ := ends_fail.mp hends
  exact ⟨rfl, fun _ => ends_fail.mpr ⟨rfl, rfl⟩⟩

/-- The shell has no streams. -/
theorem silent_onShell (m : Eval Shell α) : (onShell m).Silent := by
  intro run outcome after hends
  obtain ⟨shell, hshell, rfl⟩ := ends_onShell.mp hends
  exact ⟨rfl, fun _ => ends_onShell.mpr ⟨shell, hshell, rfl⟩⟩

/-- A step that is captured writes to a buffer. -/
theorem silent_capture (m : Eval Run Unit) : m.capture.Silent := by
  intro run outcome after hends
  obtain ⟨collected, rfl, @⟨ended, last, happart⟩⟩ := ends_capture.mp hends
  refine ⟨rfl, fun sink => ends_capture.mpr ⟨_, rfl, ?_⟩⟩
  exact @EndsApart.intro m (run.withOutput sink) ended last happart

theorem silent_onJob {action : Action ShellError α} (h : OnlyReads action) :
    (onJob action).Silent := by
  intro run outcome after hends
  obtain ⟨input, rfl, hany⟩ := h.ends_onJob hends
  exact ⟨rfl, fun sink => hany sink⟩

theorem silent_moveTo (directory : String) : (onJob (moveTo directory)).Silent := by
  intro run outcome after hends
  obtain ⟨rfl, rfl⟩ := ends_moveTo.mp hends
  exact ⟨rfl, fun sink => ends_moveTo.mpr ⟨rfl, rfl⟩⟩

theorem Truncates.bind (hm : m.Truncates) (hf : ∀ a, (f a).Truncates) : (m >>= f).Truncates := by
  intro run outcome after written limit hshort hends
  rcases ends_bind.mp hends with ⟨a, mid, hfirst, hsecond⟩ | ⟨e, hfails, rfl⟩
  · obtain ⟨first, hmid, hclipped⟩ := hm _ _ _ _ _ hshort hfirst
    rw [← Run.withOutput_of_output_eq hmid] at hsecond
    cases hclipped with
    | fits hfits hended =>
      obtain ⟨second, hafter, hrest⟩ := hf a _ _ _ _ _ hfits hsecond
      refine ⟨first ++ second, by rw [hafter, List.append_assoc], ?_⟩
      rw [← List.append_assoc]
      cases hrest with
      | fits hall hlast => exact .fits hall (ends_bind.mpr (.inl ⟨a, _, hended, hlast⟩))
      | full hlong hlast hfailure houtput =>
        exact .full hlong (ends_bind.mpr (.inl ⟨a, _, hended, hlast⟩)) hfailure houtput
    | full hlong hended hfailure houtput =>
      -- What the second step would have written is behind the limit.
      obtain ⟨second, hafter, -⟩ := hf a _ _ _ _ _ le_rfl hsecond
      refine ⟨first ++ second, by rw [hafter, List.append_assoc], ?_⟩
      rw [← List.append_assoc]
      refine .full ?_ (ends_bind.mpr (.inr ⟨_, hended, rfl⟩)) hfailure ?_
      · rw [List.length_append]
        omega
      · rw [houtput, List.take_append_of_le_length hlong.le]
  · obtain ⟨more, hafter, hclipped⟩ := hm _ _ _ _ _ hshort hfails
    refine ⟨more, hafter, ?_⟩
    cases hclipped with
    | fits hfits hended => exact .fits hfits (ends_bind.mpr (.inr ⟨e, hended, rfl⟩))
    | full hlong hended hfailure houtput =>
      exact .full hlong (ends_bind.mpr (.inr ⟨_, hended, rfl⟩)) hfailure houtput

theorem Truncates.reading (hm : m.Truncates) (bytes : Bytes) : (m.reading bytes).Truncates := by
  intro run outcome after written limit hshort hends
  obtain ⟨last, hlast, rfl⟩ := ends_reading.mp hends
  obtain ⟨more, houtput, hclipped⟩ :=
    hm (run.withInput (.ofBytes bytes)) outcome last written limit hshort hlast
  refine ⟨more, houtput, ?_⟩
  exact hclipped.through (fun _ last => last.withInput run.input)
    (fun ended last hlast => ends_reading.mpr ⟨last, hlast, rfl⟩) (fun _ _ => rfl) fun _ => rfl

/-- A write is cut off at the limit, and then fails. -/
theorem truncates_write (bytes : Bytes) {error : IoFault → ShellError}
    (herror : ∀ fault, (error fault).isExit = false) :
    (onJob ((Job.write bytes).adaptExcept error)).Truncates := by
  intro run outcome after written limit hshort hends
  have htaken : (run.withOutput (.memory written none)).output.Fits bytes := le_rfl
  rcases ends_onJob_write.mp hends with ⟨-, rfl, rfl⟩ | ⟨hfull, -⟩
  · refine ⟨bytes, rfl, ?_⟩
    by_cases hfits : (written ++ bytes).length ≤ limit
    · refine .fits hfits (ends_onJob_write.mpr (.inl ⟨?_, rfl, rfl⟩))
      rw [List.length_append] at hfits
      simp only [Sink.Fits, Run.withOutput_output, Sink.room]
      omega
    · refine .full (not_le.mp hfits) (ends_onJob_write.mpr (.inr ⟨?_, rfl, rfl⟩)) (herror _) ?_
      · rw [List.length_append] at hfits
        simp only [Sink.Fits, Run.withOutput_output, Sink.room]
        omega
      · show Sink.memory (written ++ bytes.take (min (limit - written.length) bytes.length)) _ = _
        rw [← List.take_eq_take_min, List.take_append, List.take_of_length_le hshort]
  · exact absurd htaken hfull

/-- Built-in applications meet their output by writing only. -/
theorem truncates_closed : ActionClosed fun _ action => (onJob action).Truncates where
  ofReads h := (silent_onJob h).truncates
  ofBind haction hnext := by
    rw [onJob_bind]
    exact haction.bind hnext
  ofWrite bytes _ herror := truncates_write bytes herror

theorem truncates_run (name : String) (args : List String) :
    (builtins.run name args).Truncates := by
  intro run outcome after written limit hshort hends
  rcases Registry.ends_run.mp hends with
    ⟨hlookup, rfl, rfl⟩ | ⟨application, last, hlookup, hran, rfl⟩
  · refine ⟨[], by simp, ?_⟩
    rw [List.append_nil]
    exact .fits hshort (Registry.ends_run.mpr (.inl ⟨hlookup, rfl, rfl⟩))
  · have hstep : (onJob (application args)).Truncates := by
      by_cases hname : name = "cd"
      · subst hname
        obtain rfl : cd = application := Option.some.inj hlookup
        exact truncates_closed.cd (fun directory => (silent_moveTo directory).truncates) args
      · exact truncates_closed.builtin hlookup hname args
    obtain ⟨more, houtput, hclipped⟩ := hstep _ _ _ _ _ hshort hran
    refine ⟨more, houtput, ?_⟩
    exact hclipped.through
      (fun ended last => { last with history := .ran name (failure? ended) :: run.history })
      (fun ended last hlast =>
        Registry.ends_run.mpr (.inr ⟨application, last, hlookup, hlast, rfl⟩))
      (fun _ _ => rfl) fun _ => rfl

theorem Truncates.redirect (hm : m.Truncates) (opened : Redirection.Files) :
    (opened.redirect m).Truncates := by
  obtain ⟨input, output⟩ := opened
  cases output with
  | some sink =>
    -- A file stands in place of the output.
    refine Silent.truncates fun run outcome after hends => ?_
    obtain ⟨last, hlast, rfl⟩ := Redirection.Files.ends_redirect.mp hends
    exact ⟨rfl, fun _ => Redirection.Files.ends_redirect.mpr ⟨last, hlast, rfl⟩⟩
  | none =>
    intro run outcome after written limit hshort hends
    obtain ⟨last, hlast, rfl⟩ := Redirection.Files.ends_redirect.mp hends
    obtain ⟨more, houtput, hclipped⟩ :=
      hm (Redirection.Files.enter ⟨input, none⟩ run) outcome last written limit hshort hlast
    refine ⟨more, houtput, ?_⟩
    exact hclipped.through (fun _ last => Redirection.Files.leave ⟨input, none⟩ run last)
      (fun ended last hlast => Redirection.Files.ends_redirect.mpr ⟨last, hlast, rfl⟩)
      (fun _ _ => rfl) fun _ => rfl

end Eval

section Commands

open Eval

variable {context : Context}

theorem Call.truncates_evaluate (hregistry : context.registry = builtins) (call : Call) :
    (call.evaluate context).Truncates := by
  rw [evaluate_eq, hregistry]
  refine (silent_onShell _).truncates.bind fun (opened, words) => ?_
  cases words with
  | nil => exact (silent_pure ()).truncates
  | cons name args => exact (truncates_run name args).redirect opened

theorem truncates_commandClosed : CommandClosed fun _ m => m.Truncates where
  ofPure a := (silent_pure a).truncates
  ofFail e := (silent_fail e).truncates
  ofBind := Truncates.bind
  ofCapture _ := (silent_capture _).truncates
  ofReading bytes hm := hm.reading bytes
  ofWrite bytes := truncates_write bytes fun _ => rfl

/-- On an output that takes so many bytes altogether, a line ends as on one that takes everything,
with the same bytes written, if these are no more than that; otherwise just so many of them have
been written, and the line ends with an error that is no exit request, whatever it would have ended
with. -/
theorem limited_output_truncates {depth : Nat} {line : String} {run after : Run}
    {outcome : Except ShellError Unit} (limit : Nat)
    (h : (Interpreter.evaluate ⟨builtins, depth⟩ line).Ends (run.withOutput .unlimited) outcome
      after) :
    (after.output.collected.length ≤ limit →
      (Interpreter.evaluate ⟨builtins, depth⟩ line).Ends
        (run.withOutput (.memory [] (some limit))) outcome
        (after.withOutput (.memory after.output.collected (some limit)))) ∧
    (limit < after.output.collected.length → ∃ e last,
      (Interpreter.evaluate ⟨builtins, depth⟩ line).Ends
        (run.withOutput (.memory [] (some limit))) (.error e) last ∧
      e.isExit = false ∧
      last.output = .memory (after.output.collected.take limit) (some limit)) := by
  have hline : (Interpreter.evaluate ⟨builtins, depth⟩ line).Truncates :=
    truncates_commandClosed.line
      (truncates_commandClosed.evaluate (Call.truncates_evaluate rfl)) line
  obtain ⟨written, houtput, hclipped⟩ := hline run outcome after [] limit (Nat.zero_le _) h
  have hcollected : after.output.collected = written := by rw [houtput]; rfl
  rw [List.nil_append] at hclipped
  rw [hcollected]
  cases hclipped with
  | fits hshort hends => exact ⟨fun _ => hends, fun hlong => absurd hshort hlong.not_ge⟩
  | full hlong hends hfailure hfull =>
    exact ⟨fun hshort => absurd hlong hshort.not_gt, fun _ => ⟨_, _, hends, hfailure, hfull⟩⟩

/-- The output is full in the middle of what the first command of a sequence contributes, and so
the exit request is not made. -/
theorem limited_output_truncates_exit :
    let run : Run := ⟨⟨⟨.withDirectory "/", .empty⟩, ⟨.empty, .unlimited⟩⟩, []⟩
    let evaluated := Interpreter.evaluate ⟨builtins, 0⟩ "echo ab; exit 3"
    let after (limit : Option Nat) : Run :=
      ⟨⟨run.job.world, ⟨.empty, .memory [0x61, 0x62, 0x0A] limit⟩⟩,
        [.ran "exit" (some (.exit 3)), .ran "echo" none]⟩
    evaluated.Ends run (.error (.exit 3)) (after none) ∧
      evaluated.Ends (run.withOutput (.memory [] (some 3))) (.error (.exit 3)) (after (some 3)) ∧
      ∃ e last, evaluated.Ends (run.withOutput (.memory [] (some 2))) (.error e) last ∧
        e.isExit = false ∧ last.output = .memory [0x61, 0x62] (some 2) := by
  intro run evaluated after
  have hends : evaluated.Ends (run.withOutput .unlimited) (.error (.exit 3)) (after none) := by
    decide +kernel
  have hfits := (limited_output_truncates 3 hends).1 le_rfl
  have hfull := (limited_output_truncates 2 hends).2 (by decide)
  exact ⟨hends, hfits, hfull⟩

end Commands

end LineShell
