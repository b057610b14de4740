import LineShell.Proofs.Histories

/-!
# The first exit request

An exit request that an application makes is never lost. Calls, pipes, redirections and
substitutions pass it on at once; a sequence holds it back, and whatever its other commands request
or fail with afterwards comes later. So a command ends with the exit request that was made first,
and with none if no application has made one.
-/

namespace LineShell

/-- The code of the exit request that an application has ended with. -/
def Event.exitCode? : Event → Option Int
  | .ran _ (some (.exit code)) => some code
  | _ => none

/-- The code of the exit request that was made first. The events are read from the oldest one on. -/
def firstExit? (events : List Event) : Option Int := events.reverse.findSome? Event.exitCode?

theorem firstExit?_append (later first : List Event) :
    firstExit? (later ++ first) = (firstExit? first).or (firstExit? later) := by
  rw [firstExit?, List.reverse_append, List.findSome?_append]
  rfl

/-- A step fails with an exit request just when its events tell of one, and then with the first. -/
def exits : Account where
  Tells events failure := ∀ code, failure = some (.exit code) ↔ firstExit? events = some code
  nil code := by simp [firstExit?]
  plain {e} he code := by
    cases e with
    | exit => exact he.elim
    | _ => simp [firstExit?]
  ran name failure code := by
    cases failure with
    | none => simp [firstExit?, Event.exitCode?]
    | some e => cases e <;> simp [firstExit?, Event.exitCode?]
  append {first later failure} hfirst hlater code := by
    have hnone : firstExit? first = none :=
      Option.eq_none_iff_forall_ne_some.mpr fun code hcode => by simpa using (hfirst code).mpr hcode
    rw [firstExit?_append, hnone, Option.none_or]
    exact hlater code
  dropped {events e} h hexit code := by
    rw [← h code]
    simp only [reduceCtorEq, Option.some.injEq, false_iff]
    rintro rfl
    cases hexit
  held {first later code other} hfirst hlater wanted := by
    rw [firstExit?_append, (hfirst code).mp rfl, Option.some_or]
    simp

theorem exits_substituter (registry : Registry) (depth : Nat) (line : String) :
    exits.Covers Shell.history
      (Argument.runSubstitution (substituter registry depth) line) := by
  have hline (line : String) : exits.Tells [.substituted line] none := by
    intro code
    simp [firstExit?, Event.exitCode?]
  induction depth generalizing line with
  | zero => exact covers_runSubstitution_of_never rfl
  | succ depth ih =>
    refine covers_runSubstitution (hline line) (covers_capturedLine ih fun fault _ code => ?_)
    simp [firstExit?]

namespace Command

/-- A command has an answer if its substitutions have. On an output that takes everything, the
history then has grown by events of which the first exit request is how the command ends; without
one among them it ends otherwise. -/
theorem evaluate_first_exit (registry : Registry) (command : Command) (run : Run) :
    (∀ substitute : Substituter, (∀ line, (substitute line).Answers) →
      ∃ outcome after, (command.evaluate ⟨registry, substitute⟩).Ends run outcome after) ∧
    ∀ depth outcome after, run.output.AcceptsAll →
      (command.evaluate ⟨registry, substituter registry depth⟩).Ends run outcome after →
        ∃ events, after.history = events ++ run.history ∧
          ∀ code, outcome = .error (.exit code) ↔ firstExit? events = some code := by
  refine ⟨fun substitute hanswers => ?_, fun depth outcome after haccepts hends => ?_⟩
  · have hcommand : (command.evaluate ⟨registry, substitute⟩).Answers :=
      answers_evaluate hanswers command
    exact hcommand.exists_ends run
  · have hexplains : exits.Explains Run.history run outcome after := by
      refine explains_evaluate ?_ haccepts hends
      exact exits_substituter registry depth
    obtain ⟨events, hevents, htells⟩ := hexplains
    refine ⟨events, hevents, fun code => ?_⟩
    rw [← htells code]
    cases outcome <;> simp [failure?]

/-- The target of a redirection requests an exit while it is substituted; the sequence goes on, and
the request of its last command comes too late. -/
theorem evaluate_first_exit_redirection :
    let context : Context := ⟨builtins, substituter builtins 1⟩
    let commands : List Command :=
      [.call ⟨["echo", "a"]⟩, .call ⟨["cat", "<", "\x60exit 3\x60"]⟩, .call ⟨["exit", "4"]⟩]
    let run : Run := ⟨⟨⟨.withDirectory "/", .empty⟩, ⟨.empty, .unlimited⟩⟩, []⟩
    (∃ outcome after,
      (evaluate ⟨builtins, fun _ => pure []⟩ (.sequence commands)).Ends run outcome after) ∧
    run.output.AcceptsAll ∧
      ∃ after, (evaluate context (.sequence commands)).Ends run (.error (.exit 3)) after ∧
        ∃ events, after.history = events ++ run.history ∧ firstExit? events = some 3 := by
  intro context commands run
  have hends : (evaluate context (.sequence commands)).Ends run (.error (.exit 3))
      ⟨⟨run.job.world, ⟨.empty, .memory [0x61, 0x0A] none⟩⟩,
        [.ran "exit" (some (.exit 4)), .ran "exit" (some (.exit 3)), .substituted "exit 3",
          .ran "echo" none]⟩ := by
    unfold Eval.Ends
    cbv
  obtain ⟨hanswers, hfirst⟩ := evaluate_first_exit builtins (.sequence commands) run
  obtain ⟨events, hevents, hexit⟩ := hfirst 1 _ _ Sink.acceptsAll_unlimited hends
  refine ⟨hanswers _ fun _ _ => Option.some_ne_none _, Sink.acceptsAll_unlimited, _, hends, ?_⟩
  exact ⟨events, hevents, (hexit 3).mp rfl⟩

end Command

end LineShell
