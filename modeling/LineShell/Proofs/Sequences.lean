import LineShell.Builtin
import LineShell.Proofs.Endings

/-!
# The commands of a sequence

A sequence runs its commands one after the other, each into a buffer of its own, and writes what
each contributes before the next one runs. This is said here as a relation, without the evaluation
of the sequence: which runs the commands have, what came of each, and the run after them. Either the
output takes every contribution, or the sequence breaks off at the first one that it does not take.
-/

namespace LineShell

namespace Sink

/-- The sink takes all of the bytes. -/
def Fits (sink : Sink) (bytes : Bytes) : Prop := bytes.length ≤ sink.room bytes.length

instance (sink : Sink) (bytes : Bytes) : Decidable (sink.Fits bytes) :=
  inferInstanceAs (Decidable (_ ≤ _))

/-- No write to the sink fails. -/
def AcceptsAll (sink : Sink) : Prop := ∀ bytes, sink.Fits bytes

/-- The sink after it has taken the bytes. -/
def took : Sink → Bytes → Sink
  | .memory written limit, bytes => .memory (written ++ bytes) limit
  | .file location position, bytes => .file location (position.map (· + bytes.length))

theorem accept_fst (sink : Sink) (files : FileTree) (bytes : Bytes) :
    (sink.accept files bytes).1 = sink.took bytes := by
  rcases sink with ⟨written, limit⟩ | ⟨location, _ | position⟩
  · rfl
  · rfl
  · rfl

@[simp] theorem took_nil (sink : Sink) : sink.took [] = sink := by
  rcases sink with ⟨written, limit⟩ | ⟨location, _ | position⟩
  · simp [took]
  · rfl
  · rfl

theorem took_took (sink : Sink) (bytes more : Bytes) :
    (sink.took bytes).took more = sink.took (bytes ++ more) := by
  rcases sink with ⟨written, limit⟩ | ⟨location, _ | position⟩
  · simp [took]
  · rfl
  · simp [took, Nat.add_assoc]

theorem acceptsAll_unlimited : unlimited.AcceptsAll := fun _ => Nat.le_refl _

theorem AcceptsAll.took {sink : Sink} (h : sink.AcceptsAll) (bytes : Bytes) :
    (sink.took bytes).AcceptsAll := by
  rcases sink with ⟨written, _ | limit⟩ | ⟨location, position⟩
  · exact fun _ => Nat.le_refl _
  · -- A limit leaves no room for bytes beyond it.
    have hfull := h (List.replicate (limit + 1) 0)
    simp only [Fits, room, List.length_replicate] at hfull
    omega
  · exact fun _ => Nat.le_refl _

end Sink

namespace Run

/-- The run after its output has taken the bytes. -/
def wrote (run : Run) (bytes : Bytes) : Run :=
  { run with
    job.world.files := (run.output.accept run.job.world.files bytes).2
    job.streams.output := (run.output.accept run.job.world.files bytes).1 }

@[simp] theorem wrote_output (run : Run) (bytes : Bytes) :
    (run.wrote bytes).output = run.output.took bytes :=
  Sink.accept_fst _ _ _

@[simp] theorem wrote_history (run : Run) (bytes : Bytes) :
    (run.wrote bytes).history = run.history := rfl

/-- What is written to a buffer changes nothing but the buffer. -/
theorem wrote_of_memory {run : Run} {written : Bytes} {limit : Option Nat}
    (h : run.output = .memory written limit) (bytes : Bytes) :
    run.wrote bytes = run.withOutput (.memory (written ++ bytes) limit) := by
  have houtput : run.job.streams.output = .memory written limit := h
  simp only [wrote, houtput, Sink.accept]
  rfl

end Run

theorem Job.write_apply (bytes : Bytes) (run : Run) :
    Job.write bytes run.job =
      if run.output.Fits bytes then .ok () (run.wrote bytes).job
      else .error .streamFull (run.wrote (bytes.take (run.output.room bytes.length))).job := by
  by_cases hfits : run.output.Fits bytes
  · have hroom : ¬ run.job.streams.output.room bytes.length < bytes.length := Nat.not_lt.mpr hfits
    have htake : bytes.take (run.job.streams.output.room bytes.length) = bytes :=
      List.take_of_length_le hfits
    simp [Job.write, hroom, htake, hfits, Run.wrote]
  · have hroom : run.job.streams.output.room bytes.length < bytes.length := Nat.not_le.mp hfits
    simp [Job.write, hroom, hfits, Run.wrote]

namespace Eval

/-- A write ends well if the output takes everything, and else with the error that is made of the
fault, behind the bytes that the output has taken. -/
theorem ends_onJob_write {bytes : Bytes} {error : IoFault → ShellError} {run after : Run}
    {outcome : Except ShellError Unit} :
    (onJob ((Job.write bytes).adaptExcept error)).Ends run outcome after ↔
      (run.output.Fits bytes ∧ outcome = .ok () ∧ after = run.wrote bytes) ∨
        ¬ run.output.Fits bytes ∧ outcome = .error (error .streamFull) ∧
          after = run.wrote (bytes.take (run.output.room bytes.length)) := by
  have happly : onJob ((Job.write bytes).adaptExcept error) run =
      some (if run.output.Fits bytes then .ok () (run.wrote bytes)
        else .error (error .streamFull)
          (run.wrote (bytes.take (run.output.room bytes.length)))) := by
    simp only [onJob, EStateM.adaptExcept, Job.write_apply]
    by_cases hfits : run.output.Fits bytes
    · simp only [hfits, if_true]
      rfl
    · simp only [hfits, if_false]
      rfl
  by_cases hfits : run.output.Fits bytes
  · cases outcome <;> simp [Ends, happly, hfits, eq_comm]
  · cases outcome <;> simp [Ends, happly, hfits, eq_comm]

theorem ends_write {bytes : Bytes} {run after : Run} {outcome : Except ShellError Unit} :
    (Eval.write bytes).Ends run outcome after ↔
      (run.output.Fits bytes ∧ outcome = .ok () ∧ after = run.wrote bytes) ∨
        ¬ run.output.Fits bytes ∧ outcome = .error (.io .streamFull) ∧
          after = run.wrote (bytes.take (run.output.room bytes.length)) :=
  ends_onJob_write

end Eval

namespace Command

variable {context : Context}

/-- The commands run one after the other, and come to these outcomes: each runs into a buffer of its
own, on what the one before it has left, and what it contributes is written before the next runs. -/
inductive RunsEach (context : Context) :
    List Command → Run → List (Except ShellError Bytes) → Run → Prop
  | nil {run : Run} : RunsEach context [] run [] run
  | cons {command : Command} {commands : List Command} {run mid after : Run}
      {outcome : Except ShellError Bytes} {outcomes : List (Except ShellError Bytes)}
      (child : (command.evaluate context).EndsApart run outcome mid)
      (fits : run.output.Fits (contribution outcome))
      (others : RunsEach context commands (mid.wrote (contribution outcome)) outcomes after) :
      RunsEach context (command :: commands) run (outcome :: outcomes) after

/-- The part of the bytes that the output of the run still takes is written. -/
def overrun (run : Run) (bytes : Bytes) : Run :=
  run.wrote (bytes.take (run.output.room bytes.length))

/-- The commands run so up to one whose contribution the output does not take. No command behind
that one runs. -/
inductive BreaksOff (context : Context) :
    List Command → Run → List (Except ShellError Bytes) → Run → Prop
  | intro {before rest : List Command} {command : Command} {run mid last : Run}
      {outcome : Except ShellError Bytes} {outcomes : List (Except ShellError Bytes)}
      (ran : RunsEach context before run outcomes mid)
      (child : (command.evaluate context).EndsApart mid outcome last)
      (full : ¬ mid.output.Fits (contribution outcome)) :
      BreaksOff context (before ++ command :: rest) run (outcomes ++ [outcome])
        (overrun last (contribution outcome))

/-- The code of the exit request that a step ends with. -/
def exitCode? {α : Type} : Except ShellError α → Option Int
  | .error (.exit code) => some code
  | _ => none

/-- How a sequence ends whose commands have come to these outcomes. -/
def verdict (outcomes : List (Except ShellError Bytes)) : Except ShellError Unit :=
  match outcomes.findSome? exitCode? with
  | some code => .error (.exit code)
  | none => .ok ()

theorem verdict_cons (outcome : Except ShellError Bytes)
    (outcomes : List (Except ShellError Bytes)) :
    verdict (outcome :: outcomes) =
      match exitCode? outcome with
      | some code => .error (.exit code)
      | none => verdict outcomes := by
  rw [verdict, List.findSome?_cons]
  cases exitCode? outcome <;> rfl

theorem exitCode?_eq_none {e : ShellError} (h : e.isExit = false) :
    exitCode? (.error e : Except ShellError Bytes) = none := by
  cases e with
  | exit code => cases h
  | _ => rfl

theorem heldBack_eq (exit : Option Int) (outcome : Except ShellError Bytes) :
    heldBack (exit.map .exit) outcome = (exit.or (exitCode? outcome)).map .exit := by
  cases outcome with
  | ok bytes => simp [heldBack, exitCode?]
  | error e => cases e <;> cases exit <;> rfl

theorem foldl_heldBack (exit : Option Int) (outcomes : List (Except ShellError Bytes)) :
    outcomes.foldl heldBack (exit.map .exit) =
      (exit.or (outcomes.findSome? exitCode?)).map .exit := by
  induction outcomes generalizing exit with
  | nil => simp
  | cons outcome outcomes ih =>
    rw [List.foldl_cons, heldBack_eq, ih, List.findSome?_cons]
    cases exit <;> cases exitCode? outcome <;> rfl

/-- The next command is run, and then the output takes what it contributes, or does not. -/
theorem ends_evaluateEach_cons {exit : Option ShellError} {command : Command}
    {commands : List Command} {run after : Run} {outcome : Except ShellError (Option ShellError)} :
    (evaluateEach context exit (command :: commands)).Ends run outcome after ↔
      ∃ collected mid, (command.evaluate context).EndsApart run collected mid ∧
        ((run.output.Fits (contribution collected) ∧
          (evaluateEach context (heldBack exit collected) commands).Ends
            (mid.wrote (contribution collected)) outcome after) ∨
        ¬ run.output.Fits (contribution collected) ∧ outcome = .error (.io .streamFull) ∧
          after = overrun mid (contribution collected)) := by
  rw [evaluateEach, Eval.ends_capture_bind]
  refine exists_congr fun collected => exists_congr fun mid => and_congr_right fun hchild => ?_
  have houtput : mid.output = run.output := hchild.output_eq
  rw [Eval.ends_bind]
  simp only [Eval.ends_write, houtput, overrun]
  constructor
  · rintro (⟨a, next, ⟨hfits, -, rfl⟩ | ⟨-, h, -⟩, hothers⟩ |
      ⟨e, ⟨-, h, -⟩ | ⟨hfull, he, hafter⟩, hfails⟩)
    · exact .inl ⟨hfits, hothers⟩
    · cases h
    · cases h
    · exact .inr ⟨hfull, hfails.trans (congrArg _ (Except.error.inj he)), hafter⟩
  · rintro (⟨hfits, hothers⟩ | ⟨hfull, houtcome, hafter⟩)
    · exact .inl ⟨(), _, .inl ⟨hfits, trivial, rfl⟩, hothers⟩
    · exact .inr ⟨_, .inr ⟨hfull, rfl, hafter⟩, houtcome⟩

theorem breaksOff_cons {command : Command} {commands : List Command} {run after : Run}
    {outcomes : List (Except ShellError Bytes)} :
    BreaksOff context (command :: commands) run outcomes after ↔
      ∃ outcome mid, (command.evaluate context).EndsApart run outcome mid ∧
        ((run.output.Fits (contribution outcome) ∧ ∃ others, outcomes = outcome :: others ∧
          BreaksOff context commands (mid.wrote (contribution outcome)) others after) ∨
        ¬ run.output.Fits (contribution outcome) ∧ outcomes = [outcome] ∧
          after = overrun mid (contribution outcome)) := by
  constructor
  · intro h
    generalize hwhole : command :: commands = whole at h
    obtain @⟨before, rest, last, run, start, mid, outcome, outcomes, hran, hchild, hfull⟩ := h
    cases hran with
    | nil =>
      obtain ⟨rfl, rfl⟩ := List.cons.inj hwhole
      exact ⟨outcome, mid, hchild, .inr ⟨hfull, rfl, rfl⟩⟩
    | cons hfirst hfits hothers =>
      obtain ⟨rfl, rfl⟩ := List.cons.inj hwhole
      exact ⟨_, _, hfirst, .inl ⟨hfits, _, rfl, .intro hothers hchild hfull⟩⟩
  · rintro ⟨outcome, mid, hchild, (⟨hfits, others, rfl, hothers⟩ | ⟨hfull, rfl, rfl⟩)⟩
    · cases hothers with
      | intro hran hlast hfull => exact .intro (.cons hchild hfits hran) hlast hfull
    · exact .intro .nil hchild hfull

theorem ends_evaluateEach {exit : Option ShellError} {commands : List Command} {run after : Run}
    {outcome : Except ShellError (Option ShellError)} :
    (evaluateEach context exit commands).Ends run outcome after ↔
      (∃ outcomes, RunsEach context commands run outcomes after ∧
        outcome = .ok (outcomes.foldl heldBack exit)) ∨
      ∃ outcomes, BreaksOff context commands run outcomes after ∧
        outcome = .error (.io .streamFull) := by
  induction commands generalizing exit run with
  | nil =>
    have hbreaks (outcomes : List (Except ShellError Bytes)) :
        ¬ BreaksOff context [] run outcomes after := by
      intro h
      generalize hnil : ([] : List Command) = commands at h
      cases h
      exact absurd hnil (by simp)
    rw [evaluateEach, Eval.ends_pure]
    constructor
    · rintro ⟨rfl, rfl⟩
      exact .inl ⟨[], .nil, rfl⟩
    · rintro (⟨outcomes, hran, rfl⟩ | ⟨outcomes, h, -⟩)
      · cases hran
        exact ⟨rfl, rfl⟩
      · exact absurd h (hbreaks outcomes)
  | cons command commands ih =>
    rw [ends_evaluateEach_cons]
    simp only [ih, breaksOff_cons]
    constructor
    · rintro ⟨collected, mid, hchild, ⟨hfits, ⟨outcomes, hran, rfl⟩ | ⟨outcomes, h, rfl⟩⟩ |
        ⟨hfull, rfl, rfl⟩⟩
      · exact .inl ⟨_, .cons hchild hfits hran, rfl⟩
      · exact .inr ⟨_, ⟨collected, mid, hchild, .inl ⟨hfits, outcomes, rfl, h⟩⟩, rfl⟩
      · exact .inr ⟨_, ⟨collected, mid, hchild, .inr ⟨hfull, rfl, rfl⟩⟩, rfl⟩
    · rintro (⟨outcomes, hran, rfl⟩ | ⟨outcomes, ⟨collected, mid, hchild, h⟩, rfl⟩)
      · cases hran with
        | cons hchild hfits hothers =>
          exact ⟨_, _, hchild, .inl ⟨hfits, .inl ⟨_, hothers, rfl⟩⟩⟩
      · refine ⟨collected, mid, hchild, ?_⟩
        rcases h with ⟨hfits, others, rfl, h⟩ | ⟨hfull, rfl, rfl⟩
        · exact .inl ⟨hfits, .inr ⟨others, h, rfl⟩⟩
        · exact .inr ⟨hfull, rfl, rfl⟩

/-- The exit request that is held back after all commands is how the sequence ends. -/
theorem ends_heldBack {outcomes : List (Except ShellError Bytes)} {run after : Run}
    {outcome : Except ShellError Unit} :
    (match outcomes.foldl heldBack none with
      | some exit => Eval.fail exit
      | none => pure () : Eval Run Unit).Ends run outcome after ↔
        outcome = verdict outcomes ∧ after = run := by
  have hfold := foldl_heldBack none outcomes
  rw [Option.map_none, Option.none_or] at hfold
  rw [hfold, verdict]
  cases outcomes.findSome? exitCode? with
  | none => exact Eval.ends_pure
  | some code => exact Eval.ends_fail

theorem ends_sequence {commands : List Command} {run after : Run}
    {outcome : Except ShellError Unit} :
    (evaluate context (.sequence commands)).Ends run outcome after ↔
      (∃ outcomes, RunsEach context commands run outcomes after ∧ outcome = verdict outcomes) ∨
      ∃ outcomes, BreaksOff context commands run outcomes after ∧
        outcome = .error (.io .streamFull) := by
  rw [evaluate, Eval.ends_bind]
  simp only [ends_evaluateEach]
  constructor
  · rintro (⟨held, mid, ⟨outcomes, hran, hheld⟩ | ⟨outcomes, -, h⟩, hend⟩ |
      ⟨e, ⟨outcomes, -, h⟩ | ⟨outcomes, hbreaks, he⟩, houtcome⟩)
    · obtain rfl := Except.ok.inj hheld
      obtain ⟨rfl, rfl⟩ := ends_heldBack.mp hend
      exact .inl ⟨outcomes, hran, rfl⟩
    · cases h
    · cases h
    · exact .inr ⟨outcomes, hbreaks, houtcome.trans (congrArg _ (Except.error.inj he))⟩
  · rintro (⟨outcomes, hran, houtcome⟩ | ⟨outcomes, hbreaks, houtcome⟩)
    · refine .inl ⟨_, after, .inl ⟨outcomes, hran, rfl⟩, ?_⟩
      exact ends_heldBack.mpr ⟨houtcome, rfl⟩
    · exact .inr ⟨_, .inr ⟨outcomes, hbreaks, rfl⟩, houtcome⟩

/-! ### What reaches the output -/

section Output

variable {commands : List Command} {run after : Run} {outcomes : List (Except ShellError Bytes)}

theorem RunsEach.length_eq (h : RunsEach context commands run outcomes after) :
    outcomes.length = commands.length := by
  induction h with
  | nil => rfl
  | cons child fits others ih => rw [List.length_cons, List.length_cons, ih]

theorem RunsEach.output_eq (h : RunsEach context commands run outcomes after) :
    after.output = run.output.took (outcomes.flatMap contribution) := by
  induction h with
  | nil => exact (Sink.took_nil _).symm
  | cons child fits others ih =>
    rw [ih, Run.wrote_output, child.output_eq, Sink.took_took, List.flatMap_cons]

theorem BreaksOff.output_eq (h : BreaksOff context commands run outcomes after) :
    ∃ reached, reached <+: outcomes.flatMap contribution ∧
      after.output = run.output.took reached := by
  obtain @⟨before, rest, command, run, mid, last, outcome, outcomes, hran, hchild, hfull⟩ := h
  refine ⟨outcomes.flatMap contribution ++
    (contribution outcome).take (last.output.room (contribution outcome).length), ?_, ?_⟩
  · rw [List.flatMap_append, List.flatMap_singleton, List.prefix_append_right_inj]
    exact List.take_prefix _ _
  · rw [overrun, Run.wrote_output, hchild.output_eq, hran.output_eq, Sink.took_took]

theorem not_breaksOff (haccepts : run.output.AcceptsAll) :
    ¬ BreaksOff context commands run outcomes after := by
  rintro @⟨before, rest, command, run, mid, last, outcome, outcomes, hran, hchild, hfull⟩
  rw [hran.output_eq] at hfull
  exact hfull (haccepts.took _ _)

/-- A sequence has an answer when its commands have one wherever they are begun. -/
theorem exists_ends_sequence
    (h : ∀ command ∈ commands, ∀ start, command.evaluate context start ≠ none) (run : Run) :
    ∃ outcome after, (evaluate context (.sequence commands)).Ends run outcome after := by
  have heach (exit : Option ShellError) :
      ∃ outcome after, (evaluateEach context exit commands).Ends run outcome after := by
    induction commands generalizing exit run with
    | nil => exact ⟨.ok exit, run, rfl⟩
    | cons command commands ih =>
      obtain ⟨hcommand, hcommands⟩ := List.forall_mem_cons.mp h
      obtain ⟨ended, last, hends⟩ := ((command.evaluate context).eq_none_or_ends
        (run.withOutput .unlimited)).resolve_left (hcommand _)
      by_cases hfits : run.output.Fits (contribution (Eval.collect ended last))
      · obtain ⟨outcome, after, hothers⟩ := ih hcommands _ _
        refine ⟨outcome, after, ends_evaluateEach_cons.mpr ?_⟩
        exact ⟨_, _, .intro hends, .inl ⟨hfits, hothers⟩⟩
      · exact ⟨_, _, ends_evaluateEach_cons.mpr ⟨_, _, .intro hends, .inr ⟨hfits, rfl, rfl⟩⟩⟩
  obtain ⟨outcome, after, hends⟩ := heach none
  rcases ends_evaluateEach.mp hends with ⟨outcomes, hran, -⟩ | ⟨outcomes, hbreaks, -⟩
  · exact ⟨_, _, ends_sequence.mpr (.inl ⟨outcomes, hran, rfl⟩)⟩
  · exact ⟨_, _, ends_sequence.mpr (.inr ⟨outcomes, hbreaks, rfl⟩)⟩

/-- A sequence comes to an end just when each of its commands has run once, in order, or the output
has not taken what one of them contributes. It ends with the first exit request among the outcomes,
if there is one, and its output has taken the contributions in order; a write that fails is an
error whatever has been requested, and what the output has taken is a beginning of them. -/
theorem evaluate_sequence_runs_each (context : Context) (commands : List Command) (run : Run) :
    ((∀ command ∈ commands, ∀ start, command.evaluate context start ≠ none) →
      ∃ outcome after, (evaluate context (.sequence commands)).Ends run outcome after) ∧
    (∀ outcome after, (evaluate context (.sequence commands)).Ends run outcome after ↔
      (∃ outcomes, RunsEach context commands run outcomes after ∧ outcome = verdict outcomes) ∨
      ∃ outcomes, BreaksOff context commands run outcomes after ∧
        outcome = .error (.io .streamFull)) ∧
    (∀ outcomes after, RunsEach context commands run outcomes after →
      outcomes.length = commands.length ∧
        after.output = run.output.took (outcomes.flatMap contribution)) ∧
    (∀ outcomes after, BreaksOff context commands run outcomes after →
      ¬ run.output.AcceptsAll ∧ ∃ reached, reached <+: outcomes.flatMap contribution ∧
        after.output = run.output.took reached) := by
  refine ⟨fun h => exists_ends_sequence h run, fun outcome after => ends_sequence, ?_, ?_⟩
  · intro outcomes after hran
    exact ⟨hran.length_eq, hran.output_eq⟩
  · intro outcomes after hbreaks
    exact ⟨fun haccepts => not_breaksOff haccepts hbreaks, hbreaks.output_eq⟩

/-- An exit request is held back while an unknown application is reported, and a second one is
dropped. An output with room for five bytes ends the sequence in the middle of the report. -/
theorem evaluate_sequence_runs_each_held_exit :
    let context : Context := ⟨builtins, fun _ _ => none⟩
    let commands : List Command := [.call ⟨["exit", "3"]⟩, .call ⟨["gone"]⟩, .call ⟨["exit", "4"]⟩]
    let run (limit : Option Nat) : Run :=
      ⟨⟨⟨.withDirectory "/", .empty⟩, ⟨.empty, .memory [] limit⟩⟩, []⟩
    let report := Utf8.encode "shell: gone: invalid application\n".toList
    (∃ outcome after, (evaluate context (.sequence commands)).Ends (run none) outcome after) ∧
    (∃ outcomes after, RunsEach context commands (run none) outcomes after ∧
      outcomes.length = 3 ∧ .error (.exit 3) = verdict outcomes ∧
      Sink.memory report none = (run none).output.took (outcomes.flatMap contribution)) ∧
    ∃ outcomes after reached, BreaksOff context commands (run (some 5)) outcomes after ∧
      reached <+: outcomes.flatMap contribution ∧
      Sink.memory [0x73, 0x68, 0x65, 0x6C, 0x6C] (some 5) = (run (some 5)).output.took reached := by
  intro context commands run report
  have hheld : (evaluate context (.sequence commands)).Ends (run none) (.error (.exit 3))
      ⟨⟨(run none).job.world, ⟨.empty, .memory report none⟩⟩,
        [.ran "exit" (some (.exit 4)), .ran "exit" (some (.exit 3))]⟩ := by
    unfold Eval.Ends
    cbv
  have hfull : (evaluate context (.sequence commands)).Ends (run (some 5))
      (.error (.io .streamFull))
      ⟨⟨(run none).job.world, ⟨.empty, .memory [0x73, 0x68, 0x65, 0x6C, 0x6C] (some 5)⟩⟩,
        [.ran "exit" (some (.exit 3))]⟩ := by
    unfold Eval.Ends
    cbv
  obtain ⟨hanswers, hends, hran, -⟩ := evaluate_sequence_runs_each context commands (run none)
  obtain ⟨-, hlimited, -, hbreaks⟩ := evaluate_sequence_runs_each context commands (run (some 5))
  refine ⟨hanswers ?_, ?_, ?_⟩
  · simp only [commands, List.forall_mem_cons, List.not_mem_nil, false_implies, implies_true,
      and_true]
    exact ⟨fun _ => Option.some_ne_none _, fun _ => Option.some_ne_none _,
      fun _ => Option.some_ne_none _⟩
  · rcases (hends _ _).mp hheld with ⟨outcomes, hall, hverdict⟩ | ⟨outcomes, -, h⟩
    · obtain ⟨hlength, houtput⟩ := hran _ _ hall
      exact ⟨outcomes, _, hall, hlength, hverdict, houtput⟩
    · cases h
  · rcases (hlimited _ _).mp hfull with ⟨outcomes, -, hverdict⟩ | ⟨outcomes, h, -⟩
    · unfold verdict at hverdict
      split at hverdict <;> cases hverdict
    · obtain ⟨-, reached, hprefix, houtput⟩ := hbreaks _ _ h
      exact ⟨outcomes, _, reached, h, hprefix, houtput⟩

end Output

end Command

end LineShell
