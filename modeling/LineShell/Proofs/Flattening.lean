import Mathlib
import LineShell.Proofs.BackQuotes
import LineShell.Proofs.Outputs

/-!
# Sequences in sequences

A sequence that stands in another one runs into a buffer of its own. The outer sequence writes what
is in it once the inner one has ended, and drops it where an exit has been requested in it. So what
the inner commands contribute comes later to the output, or not at all. Where none of them looks for
it there, they might as well stand in the outer sequence themselves: they run on what they would
have run on there, and the first exit request among all commands is the one that counts.
-/

namespace LineShell

/-! ### Steps aside from the output -/

namespace Eval

variable {m : Eval Run Unit} {run after last : Run} {outcome : Except ShellError Bytes}

theorem ends_capture_ok {collected : Except ShellError Bytes} :
    m.capture.Ends run (.ok collected) after ↔ m.EndsApart run collected after := by
  simp [ends_capture]

/-- A step in a buffer of its own does not see the output behind it. -/
theorem EndsApart.withOutput (h : m.EndsApart run outcome after) (output : Sink) :
    m.EndsApart (run.withOutput output) outcome (after.withOutput output) := by
  cases h with
  | intro ends => exact .intro ends

/-- What has been written to the output makes no difference to the step, which leaves it there. This
is so unless the output is a file that the step reads or writes itself. -/
def SparesOutput (m : Eval Run Unit) (run : Run) : Prop :=
  ∀ bytes outcome after, m.EndsApart (run.wrote bytes) outcome after ↔
    ∃ last, m.EndsApart run outcome last ∧ after = last.wrote bytes

theorem sparesOutput_of_ends (h : m.EndsApart run outcome last)
    (hwrote : ∀ bytes, m.EndsApart (run.wrote bytes) outcome (last.wrote bytes)) :
    m.SparesOutput run := by
  intro bytes other after
  constructor
  · intro hends
    obtain ⟨rfl, rfl⟩ := hends.unique (hwrote bytes)
    exact ⟨last, h, rfl⟩
  · rintro ⟨same, hends, rfl⟩
    obtain ⟨rfl, rfl⟩ := hends.unique h
    exact hwrote bytes

theorem sparesOutput_of_memory {written : Bytes} {limit : Option Nat}
    (h : run.output = .memory written limit) (m : Eval Run Unit) : m.SparesOutput run := by
  intro bytes outcome after
  rw [Run.wrote_of_memory h]
  constructor
  · intro hends
    have houtput : after.output = .memory (written ++ bytes) limit := hends.output_eq
    have hlast : (after.withOutput run.output).output = .memory written limit := h
    refine ⟨after.withOutput run.output, hends.withOutput run.output, ?_⟩
    rw [Run.wrote_of_memory hlast, ← houtput]
    rfl
  · rintro ⟨last, hends, rfl⟩
    rw [Run.wrote_of_memory (hends.output_eq.trans h)]
    exact hends.withOutput _

end Eval

namespace Command

variable {context : Context} {commands : List Command} {run after : Run}
  {outcomes : List (Except ShellError Bytes)}

/-! ### Outcomes held together -/

/-- What commands that came to these outcomes contribute together. -/
def contributed (outcomes : List (Except ShellError Bytes)) : Bytes :=
  outcomes.flatMap contribution

/-- What is left of the contributions if they go through a buffer, which an exit empties. -/
def kept (outcomes : List (Except ShellError Bytes)) : Bytes :=
  if (outcomes.findSome? exitCode?).isSome then [] else contributed outcomes

/-- What a sequence in a buffer comes to when its commands have come to these outcomes. -/
def gathered (outcomes : List (Except ShellError Bytes)) : Except ShellError Bytes :=
  (verdict outcomes).map fun _ => contributed outcomes

@[simp] theorem contributed_cons (outcome : Except ShellError Bytes)
    (outcomes : List (Except ShellError Bytes)) :
    contributed (outcome :: outcomes) = contribution outcome ++ contributed outcomes :=
  List.flatMap_cons

theorem kept_of_no_exit {outcomes : List (Except ShellError Bytes)}
    (h : ∀ outcome ∈ outcomes, exitCode? outcome = none) :
    kept outcomes = contributed outcomes := by
  have hnone : outcomes.findSome? exitCode? = none := List.findSome?_eq_none_iff.mpr h
  rw [kept, hnone]
  rfl

theorem kept_of_exit {outcomes : List (Except ShellError Bytes)}
    (h : ∃ outcome ∈ outcomes, exitCode? outcome ≠ none) : kept outcomes = [] := by
  have hsome : (outcomes.findSome? exitCode?).isSome = true := by
    rw [List.findSome?_isSome_iff]
    obtain ⟨outcome, hmem, hcode⟩ := h
    exact ⟨outcome, hmem, Option.isSome_iff_ne_none.mpr hcode⟩
  rw [kept, if_pos hsome]

theorem no_exit_or_exit (outcomes : List (Except ShellError Bytes)) :
    (∀ outcome ∈ outcomes, exitCode? outcome = none) ∨
      ∃ outcome ∈ outcomes, exitCode? outcome ≠ none := by
  by_cases h : ∃ outcome ∈ outcomes, exitCode? outcome ≠ none
  · exact .inr h
  · exact .inl fun outcome hmem => of_not_not fun hne => h ⟨outcome, hmem, hne⟩

theorem contribution_gathered (outcomes : List (Except ShellError Bytes)) :
    contribution (gathered outcomes) = kept outcomes := by
  unfold gathered verdict kept
  cases outcomes.findSome? exitCode? <;> rfl

theorem exitCode?_gathered (outcomes : List (Except ShellError Bytes)) :
    exitCode? (gathered outcomes) = outcomes.findSome? exitCode? := by
  unfold gathered verdict
  cases outcomes.findSome? exitCode? <;> rfl

/-- Held back one level further in or not, the first exit request is the same. -/
theorem verdict_gathered (us vs ws : List (Except ShellError Bytes)) :
    verdict (us ++ [gathered vs] ++ ws) = verdict (us ++ vs ++ ws) := by
  simp only [verdict, List.findSome?_append, List.findSome?_singleton, exitCode?_gathered]

/-! ### Commands one after the other -/

theorem runsEach_append {xs ys : List Command} {outcomes : List (Except ShellError Bytes)} :
    RunsEach context (xs ++ ys) run outcomes after ↔
      ∃ us vs mid, outcomes = us ++ vs ∧ RunsEach context xs run us mid ∧
        RunsEach context ys mid vs after := by
  induction xs generalizing run outcomes with
  | nil =>
    constructor
    · intro h
      exact ⟨[], outcomes, run, rfl, .nil, h⟩
    · rintro ⟨us, vs, mid, rfl, hxs, hys⟩
      cases hxs
      exact hys
  | cons command xs ih =>
    constructor
    · intro h
      cases h with
      | cons child fits others =>
        obtain ⟨us, vs, mid, rfl, hxs, hys⟩ := ih.mp others
        exact ⟨_ :: us, vs, mid, rfl, .cons child fits hxs, hys⟩
    · rintro ⟨us, vs, mid, rfl, hxs, hys⟩
      cases hxs with
      | cons child fits others => exact .cons child fits (ih.mpr ⟨_, vs, mid, rfl, others, hys⟩)

/-- The commands run one after the other, each into a buffer of its own, and what they contribute is
not written. -/
inductive RunsAside (context : Context) :
    List Command → Run → List (Except ShellError Bytes) → Run → Prop
  | nil {run : Run} : RunsAside context [] run [] run
  | cons {command : Command} {commands : List Command} {run mid after : Run}
      {outcome : Except ShellError Bytes} {outcomes : List (Except ShellError Bytes)}
      (child : (command.evaluate context).EndsApart run outcome mid)
      (others : RunsAside context commands mid outcomes after) :
      RunsAside context (command :: commands) run (outcome :: outcomes) after

/-- What has been written to the output makes no difference to any of the commands, each on what the
one before it has left. -/
def SpareOutput (context : Context) : List Command → Run → Prop
  | [], _ => True
  | command :: commands, run => (command.evaluate context).SparesOutput run ∧
    ∀ outcome mid, (command.evaluate context).EndsApart run outcome mid →
      SpareOutput context commands mid

/-- What the commands contribute makes no difference to those of them that run behind. -/
def SpareEachOther (context : Context) : List Command → Run → Prop
  | [], _ => True
  | command :: commands, run => ∀ outcome mid,
      (command.evaluate context).EndsApart run outcome mid → SpareOutput context commands mid

theorem SpareOutput.cons {command : Command} {outcome : Except ShellError Bytes} {mid : Run}
    (h : (command.evaluate context).EndsApart run outcome mid)
    (hwrote : ∀ bytes,
      (command.evaluate context).EndsApart (run.wrote bytes) outcome (mid.wrote bytes))
    (hothers : SpareOutput context commands mid) :
    SpareOutput context (command :: commands) run := by
  refine ⟨Eval.sparesOutput_of_ends h hwrote, fun other next hother => ?_⟩
  obtain ⟨rfl, rfl⟩ := hother.unique h
  exact hothers

theorem SpareOutput.spareEachOther (h : SpareOutput context commands run) :
    SpareEachOther context commands run := by
  cases commands with
  | nil => trivial
  | cons command commands => exact h.2

theorem RunsAside.output_eq (h : RunsAside context commands run outcomes after) :
    after.output = run.output := by
  induction h with
  | nil => rfl
  | cons child others ih => exact ih.trans child.output_eq

theorem RunsAside.unique {others : List (Except ShellError Bytes)} {last : Run}
    (h : RunsAside context commands run outcomes after)
    (hother : RunsAside context commands run others last) : outcomes = others ∧ after = last := by
  induction h generalizing others with
  | nil =>
    cases hother
    exact ⟨rfl, rfl⟩
  | cons child _ ih =>
    cases hother with
    | cons same rest =>
      obtain ⟨rfl, rfl⟩ := child.unique same
      obtain ⟨rfl, rfl⟩ := ih rest
      exact ⟨rfl, rfl⟩

theorem RunsEach.unique {others : List (Except ShellError Bytes)} {last : Run}
    (h : RunsEach context commands run outcomes after)
    (hother : RunsEach context commands run others last) : outcomes = others ∧ after = last := by
  induction h generalizing others with
  | nil =>
    cases hother
    exact ⟨rfl, rfl⟩
  | cons child _ _ ih =>
    cases hother with
    | cons same _ rest =>
      obtain ⟨rfl, rfl⟩ := child.unique same
      obtain ⟨rfl, rfl⟩ := ih rest
      exact ⟨rfl, rfl⟩

theorem RunsAside.withOutput (h : RunsAside context commands run outcomes after) (output : Sink) :
    RunsAside context commands (run.withOutput output) outcomes (after.withOutput output) := by
  induction h with
  | nil => exact .nil
  | cons child others ih => exact .cons (child.withOutput output) ih

theorem spareOutput_of_memory {written : Bytes} {limit : Option Nat}
    (h : run.output = .memory written limit) : SpareOutput context commands run := by
  induction commands generalizing run with
  | nil => trivial
  | cons command commands ih =>
    exact ⟨Eval.sparesOutput_of_memory h _, fun outcome mid hchild => ih (hchild.output_eq.trans h)⟩

/-- The commands run on an output to which something has been written as they run aside, and what
they contribute comes behind that. -/
theorem runsEach_wrote_iff (haccepts : run.output.AcceptsAll) (hplaced : run.output.Placed)
    (hspare : SpareOutput context commands run) (bytes : Bytes) :
    RunsEach context commands (run.wrote bytes) outcomes after ↔
      ∃ last, RunsAside context commands run outcomes last ∧
        after = last.wrote (bytes ++ contributed outcomes) := by
  induction commands generalizing run bytes outcomes with
  | nil =>
    constructor
    · rintro ⟨-⟩
      exact ⟨run, .nil, by simp [contributed]⟩
    · rintro ⟨last, ⟨-⟩, rfl⟩
      simpa [contributed] using RunsEach.nil
  | cons command commands ih =>
    obtain ⟨hcommand, hothers⟩ := hspare
    have hnext {outcome : Except ShellError Bytes} {mid : Run}
        (hchild : (command.evaluate context).EndsApart run outcome mid) :
        ∀ {outcomes}, RunsEach context commands ((mid.wrote bytes).wrote (contribution outcome))
            outcomes after ↔
          ∃ last, RunsAside context commands mid outcomes last ∧
            after = last.wrote (bytes ++ contributed (outcome :: outcomes)) := by
      intro outcomes
      have hmid := hchild.output_eq
      rw [Run.wrote_wrote (hmid ▸ hplaced), ih (hmid ▸ haccepts) (hmid ▸ hplaced)
        (hothers _ _ hchild)]
      simp only [contributed_cons, List.append_assoc]
    constructor
    · intro h
      cases h with
      | cons child fits others =>
        obtain ⟨mid, hchild, rfl⟩ := (hcommand _ _ _).mp child
        obtain ⟨last, haside, hafter⟩ := (hnext hchild).mp others
        exact ⟨last, .cons hchild haside, hafter⟩
    · rintro ⟨last, haside, hafter⟩
      cases haside with
      | cons child others =>
        have hrest := (hnext child).mpr ⟨_, others, hafter⟩
        refine .cons ((hcommand _ _ _).mpr ⟨_, child, rfl⟩) ?_ hrest
        rw [Run.wrote_output]
        exact haccepts.took _ _

theorem runsEach_iff (haccepts : run.output.AcceptsAll)
    (hstands : run.output.Stands run.job.world.files)
    (hspare : SpareEachOther context commands run) :
    RunsEach context commands run outcomes after ↔
      ∃ last, RunsAside context commands run outcomes last ∧
        after = last.wrote (contributed outcomes) := by
  have hplaced := hstands.placed
  cases commands with
  | nil =>
    constructor
    · rintro ⟨-⟩
      exact ⟨run, .nil, (Run.wrote_nil hstands).symm⟩
    · rintro ⟨last, ⟨-⟩, rfl⟩
      rw [contributed, List.flatMap_nil, Run.wrote_nil hstands]
      exact .nil
  | cons command commands =>
    have hothers {outcome : Except ShellError Bytes} {outcomes : List (Except ShellError Bytes)}
        {mid : Run} (hchild : (command.evaluate context).EndsApart run outcome mid) :
        RunsEach context commands (mid.wrote (contribution outcome)) outcomes after ↔
          ∃ last, RunsAside context commands mid outcomes last ∧
            after = last.wrote (contributed (outcome :: outcomes)) := by
      have hmid := hchild.output_eq
      rw [contributed_cons]
      exact runsEach_wrote_iff (hmid ▸ haccepts) (hmid ▸ hplaced) (hspare _ _ hchild) _
    constructor
    · intro h
      cases h with
      | cons child fits others =>
        obtain ⟨last, haside, hafter⟩ := (hothers child).mp others
        exact ⟨last, .cons child haside, hafter⟩
    · rintro ⟨last, haside, hafter⟩
      cases haside with
      | cons child others =>
        exact .cons child (haccepts _) ((hothers child).mpr ⟨last, others, hafter⟩)

theorem RunsEach.stands (h : RunsEach context commands run outcomes after)
    (hstands : run.output.Stands run.job.world.files) :
    after.output.Stands after.job.world.files := by
  induction h with
  | nil => exact hstands
  | cons child fits others ih =>
    exact ih (Run.stands_wrote (child.output_eq ▸ hstands.placed) _)

theorem RunsEach.acceptsAll (h : RunsEach context commands run outcomes after)
    (haccepts : run.output.AcceptsAll) : after.output.AcceptsAll := by
  rw [h.output_eq]
  exact haccepts.took _

/-- Where the output takes everything, a sequence ends when its commands have run. -/
theorem ends_sequence_of_acceptsAll {outcome : Except ShellError Unit}
    (haccepts : run.output.AcceptsAll) :
    (evaluate context (.sequence commands)).Ends run outcome after ↔
      ∃ outcomes, RunsEach context commands run outcomes after ∧ outcome = verdict outcomes := by
  rw [ends_sequence]
  constructor
  · rintro (hran | ⟨outcomes, hbreaks, -⟩)
    · exact hran
    · exact absurd hbreaks (not_breaksOff haccepts)
  · exact .inl

/-- What an inner sequence comes to, said of its commands: nothing reaches the outer output yet. -/
theorem endsApart_sequence {outcome : Except ShellError Bytes} :
    (evaluate context (.sequence commands)).EndsApart run outcome after ↔
      ∃ outcomes, RunsAside context commands run outcomes after ∧ outcome = gathered outcomes := by
  have hbuffer {outcomes : List (Except ShellError Bytes)} {last : Run} :
      RunsEach context commands (run.withOutput .unlimited) outcomes last ↔
        ∃ inner, RunsAside context commands (run.withOutput .unlimited) outcomes inner ∧
          last = inner.wrote (contributed outcomes) :=
    runsEach_iff Sink.acceptsAll_unlimited trivial (spareOutput_of_memory rfl).spareEachOther
  have hwrote {outcomes : List (Except ShellError Bytes)} {inner : Run}
      (h : RunsAside context commands (run.withOutput .unlimited) outcomes inner) :
      inner.wrote (contributed outcomes) =
        inner.withOutput (.memory (contributed outcomes) none) :=
    Run.wrote_of_memory h.output_eq _
  constructor
  · rintro @⟨ended, last, hends⟩
    obtain ⟨outcomes, hran, rfl⟩ := (ends_sequence_of_acceptsAll Sink.acceptsAll_unlimited).mp hends
    obtain ⟨inner, haside, rfl⟩ := hbuffer.mp hran
    rw [hwrote haside]
    exact ⟨outcomes, haside.withOutput run.output, rfl⟩
  · rintro ⟨outcomes, haside, rfl⟩
    have hinner := haside.withOutput .unlimited
    have hends := (ends_sequence_of_acceptsAll Sink.acceptsAll_unlimited).mpr
      ⟨outcomes, hbuffer.mpr ⟨_, hinner, rfl⟩, rfl⟩
    rw [hwrote hinner] at hends
    have hback : after = (after.withOutput (.memory (contributed outcomes) none)).withOutput
        run.output := by
      rw [← haside.output_eq]
      rfl
    rw [hback]
    exact .intro hends

/-- For the commands behind it, an inner sequence has written what it keeps of the contributions. -/
theorem runsEach_sequence (haccepts : run.output.AcceptsAll) :
    RunsEach context [.sequence commands] run outcomes after ↔
      ∃ vs last, RunsAside context commands run vs last ∧ outcomes = [gathered vs] ∧
        after = last.wrote (kept vs) := by
  constructor
  · intro h
    cases h with
    | cons child fits others =>
      cases others
      obtain ⟨vs, haside, rfl⟩ := endsApart_sequence.mp child
      exact ⟨vs, _, haside, rfl, by rw [contribution_gathered]⟩
  · rintro ⟨vs, last, haside, rfl, rfl⟩
    rw [← contribution_gathered]
    exact .cons (endsApart_sequence.mpr ⟨vs, haside, rfl⟩) (haccepts _) .nil

/-! ### The two sequences -/

/-- No write to the output fails, what it writes to is there, and what the inner commands contribute
makes no difference to those of them that run behind; and where one of them requests an exit, so
that their contributions are dropped, what has been written makes none to the commands behind the
inner sequence. -/
structure OutputSpared (context : Context) (xs ys zs : List Command) (run : Run) : Prop where
  accepts : run.output.AcceptsAll
  stands : run.output.Stands run.job.world.files
  inner : ∀ us first, RunsEach context xs run us first → SpareEachOther context ys first
  behind : ∀ us first vs last, RunsEach context xs run us first →
    RunsAside context ys first vs last → (∃ outcome ∈ vs, exitCode? outcome ≠ none) →
      SpareOutput context zs last

section Nested

variable {xs ys zs : List Command} {outcome : Except ShellError Unit}
  {us vs ws : List (Except ShellError Bytes)} {first last second : Run}

theorem ends_sequence_append (haccepts : run.output.AcceptsAll) :
    (evaluate context (.sequence (xs ++ ys ++ zs))).Ends run outcome after ↔
      ∃ us vs ws first second, RunsEach context xs run us first ∧
        RunsEach context ys first vs second ∧ RunsEach context zs second ws after ∧
          outcome = verdict (us ++ vs ++ ws) := by
  rw [ends_sequence_of_acceptsAll haccepts]
  constructor
  · rintro ⟨outcomes, hran, rfl⟩
    obtain ⟨_, ws, second, rfl, hfront, hzs⟩ := runsEach_append.mp hran
    obtain ⟨us, vs, first, rfl, hxs, hys⟩ := runsEach_append.mp hfront
    exact ⟨us, vs, ws, first, second, hxs, hys, hzs, rfl⟩
  · rintro ⟨us, vs, ws, first, second, hxs, hys, hzs, rfl⟩
    have hfront := runsEach_append.mpr ⟨us, vs, first, rfl, hxs, hys⟩
    exact ⟨_, runsEach_append.mpr ⟨_, ws, second, rfl, hfront, hzs⟩, rfl⟩

/-- Of the inner commands, the nested sequence writes what is kept. -/
theorem ends_nested (haccepts : run.output.AcceptsAll) :
    (evaluate context (.sequence (xs ++ [.sequence ys] ++ zs))).Ends run outcome after ↔
      ∃ us vs ws first last, RunsEach context xs run us first ∧
        RunsAside context ys first vs last ∧ RunsEach context zs (last.wrote (kept vs)) ws after ∧
          outcome = verdict (us ++ vs ++ ws) := by
  rw [ends_sequence_append haccepts]
  constructor
  · rintro ⟨us, _, ws, first, mid, hxs, hinner, hzs, rfl⟩
    obtain ⟨vs, last, hys, rfl, rfl⟩ := (runsEach_sequence (hxs.acceptsAll haccepts)).mp hinner
    exact ⟨us, vs, ws, first, last, hxs, hys, hzs, verdict_gathered us vs ws⟩
  · rintro ⟨us, vs, ws, first, last, hxs, hys, hzs, rfl⟩
    have hinner := (runsEach_sequence (hxs.acceptsAll haccepts)).mpr ⟨vs, last, hys, rfl, rfl⟩
    exact ⟨us, _, ws, first, _, hxs, hinner, hzs, (verdict_gathered us vs ws).symm⟩

namespace OutputSpared

variable (h : OutputSpared context xs ys zs run)
include h

theorem runsEach_inner (hxs : RunsEach context xs run us first) :
    RunsEach context ys first vs second ↔
      ∃ last, RunsAside context ys first vs last ∧ second = last.wrote (contributed vs) :=
  runsEach_iff (hxs.acceptsAll h.accepts) (hxs.stands h.stands) (h.inner us first hxs)

theorem runsEach_behind (hxs : RunsEach context xs run us first)
    (haside : RunsAside context ys first vs last)
    (hexit : ∃ outcome ∈ vs, exitCode? outcome ≠ none) (bytes : Bytes) :
    RunsEach context zs (last.wrote bytes) ws after ↔
      ∃ final, RunsAside context zs last ws final ∧
        after = final.wrote (bytes ++ contributed ws) := by
  have houtput := haside.output_eq
  exact runsEach_wrote_iff (houtput ▸ hxs.acceptsAll h.accepts)
    (houtput ▸ (hxs.stands h.stands).placed) (h.behind us first vs last hxs haside hexit) bytes

/-- Of the inner commands, the flat sequence writes all that they contribute. -/
theorem ends_flat :
    (evaluate context (.sequence (xs ++ ys ++ zs))).Ends run outcome after ↔
      ∃ us vs ws first last, RunsEach context xs run us first ∧
        RunsAside context ys first vs last ∧
        RunsEach context zs (last.wrote (contributed vs)) ws after ∧
          outcome = verdict (us ++ vs ++ ws) := by
  rw [ends_sequence_append h.accepts]
  constructor
  · rintro ⟨us, vs, ws, first, second, hxs, hys, hzs, rfl⟩
    obtain ⟨last, haside, rfl⟩ := (h.runsEach_inner hxs).mp hys
    exact ⟨us, vs, ws, first, last, hxs, haside, hzs, rfl⟩
  · rintro ⟨us, vs, ws, first, last, hxs, haside, hzs, rfl⟩
    have hys := (h.runsEach_inner hxs).mpr ⟨last, haside, rfl⟩
    exact ⟨us, vs, ws, first, _, hxs, hys, hzs, rfl⟩

/-- The commands behind the inner ones come to an end on both outputs or on neither, and to the same
outcomes. -/
theorem exists_runsEach_behind_iff (hxs : RunsEach context xs run us first)
    (haside : RunsAside context ys first vs last) :
    (∃ after, RunsEach context zs (last.wrote (kept vs)) ws after) ↔
      ∃ after, RunsEach context zs (last.wrote (contributed vs)) ws after := by
  rcases no_exit_or_exit vs with hnone | hexit
  · rw [kept_of_no_exit hnone]
  · have hbehind (bytes : Bytes) : (∃ after, RunsEach context zs (last.wrote bytes) ws after) ↔
        ∃ final, RunsAside context zs last ws final := by
      simp only [h.runsEach_behind hxs haside hexit]
      exact ⟨fun ⟨_, final, hfinal, _⟩ => ⟨final, hfinal⟩, fun ⟨final, hfinal⟩ =>
        ⟨_, final, hfinal, rfl⟩⟩
    rw [hbehind, hbehind]

theorem eq_none_iff :
    evaluate context (.sequence (xs ++ [.sequence ys] ++ zs)) run = none ↔
      evaluate context (.sequence (xs ++ ys ++ zs)) run = none := by
  have hends : evaluate context (.sequence (xs ++ [.sequence ys] ++ zs)) run ≠ none ↔
      evaluate context (.sequence (xs ++ ys ++ zs)) run ≠ none := by
    rw [Eval.ne_none_iff_ends, Eval.ne_none_iff_ends]
    constructor
    · rintro ⟨outcome, after, hends⟩
      obtain ⟨us, vs, ws, first, last, hxs, haside, hzs, rfl⟩ := (ends_nested h.accepts).mp hends
      obtain ⟨final, hfinal⟩ := (h.exists_runsEach_behind_iff hxs haside).mp ⟨after, hzs⟩
      exact ⟨_, final, h.ends_flat.mpr ⟨us, vs, ws, first, last, hxs, haside, hfinal, rfl⟩⟩
    · rintro ⟨outcome, after, hends⟩
      obtain ⟨us, vs, ws, first, last, hxs, haside, hzs, rfl⟩ := h.ends_flat.mp hends
      obtain ⟨final, hfinal⟩ := (h.exists_runsEach_behind_iff hxs haside).mpr ⟨after, hzs⟩
      exact ⟨_, final,
        (ends_nested h.accepts).mpr ⟨us, vs, ws, first, last, hxs, haside, hfinal, rfl⟩⟩
  exact not_iff_not.mp hends

end OutputSpared

end Nested

/-- A buffer is spared by whatever runs. -/
theorem outputSpared_of_memory {xs ys zs : List Command} {written : Bytes}
    (h : run.output = .memory written none) : OutputSpared context xs ys zs run := by
  have haccepts : run.output.AcceptsAll := by
    rw [h]
    exact fun _ => Nat.le_refl _
  have hstands : run.output.Stands run.job.world.files := by
    rw [h]
    trivial
  have hfirst {us : List (Except ShellError Bytes)} {first : Run}
      (hxs : RunsEach context xs run us first) :
      first.output = .memory (written ++ contributed us) none := by
    rw [hxs.output_eq, h]
    rfl
  exact ⟨haccepts, hstands, fun us first hxs =>
      (spareOutput_of_memory (hfirst hxs)).spareEachOther,
    fun us first vs last hxs haside _ =>
      spareOutput_of_memory (haside.output_eq.trans (hfirst hxs))⟩

/-- **A sequence in a sequence.** Where it makes no difference to an inner command what the ones
before it have contributed to the output, as is so for every buffer, all of them run as they would
in the place of the inner sequence in the outer one. If none of them requests an exit, all is the
same. Else the commands behind them, to which it makes no difference either, run as they would
there, too: the outcome is the same, and so are the history, the environment, the files and what is
left of the input, but what is written to the output lacks just what the inner commands
contribute. -/
theorem evaluate_nested_sequence (context : Context) (xs ys zs : List Command) (run : Run) :
    let nested := evaluate context (.sequence (xs ++ [.sequence ys] ++ zs))
    let flat := evaluate context (.sequence (xs ++ ys ++ zs))
    (∀ written, run.output = .memory written none → OutputSpared context xs ys zs run) ∧
    (OutputSpared context xs ys zs run →
      (nested run = none ↔ flat run = none) ∧
      ∀ outcome after, flat.Ends run outcome after →
        ∃ us vs ws first, ∃ last : Run, RunsEach context xs run us first ∧
          RunsEach context ys first vs (last.wrote (contributed vs)) ∧
          RunsEach context zs (last.wrote (contributed vs)) ws after ∧
          ((∀ inner ∈ vs, exitCode? inner = none) → nested.Ends run outcome after) ∧
          ((∃ inner ∈ vs, exitCode? inner ≠ none) →
            ∃ final : Run, final.output = run.output.took (contributed us) ∧
              after = final.wrote (contributed vs ++ contributed ws) ∧
              nested.Ends run outcome (final.wrote (contributed ws)))) := by
  intro nested flat
  refine ⟨fun written => outputSpared_of_memory, fun h => ⟨h.eq_none_iff, ?_⟩⟩
  intro outcome after hends
  obtain ⟨us, vs, ws, first, last, hxs, haside, hzs, rfl⟩ := h.ends_flat.mp hends
  have hys := (h.runsEach_inner hxs).mpr ⟨last, haside, rfl⟩
  have hnested {after : Run} (hzs : RunsEach context zs (last.wrote (kept vs)) ws after) :
      nested.Ends run (verdict (us ++ vs ++ ws)) after :=
    (ends_nested h.accepts).mpr ⟨us, vs, ws, first, last, hxs, haside, hzs, rfl⟩
  refine ⟨us, vs, ws, first, last, hxs, hys, hzs, fun hnone => hnested ?_, fun hexit => ?_⟩
  · rwa [kept_of_no_exit hnone]
  · obtain ⟨final, hfinal, rfl⟩ := (h.runsEach_behind hxs haside hexit _).mp hzs
    refine ⟨final, ?_, rfl, hnested ?_⟩
    · rw [hfinal.output_eq, haside.output_eq, hxs.output_eq]
      rfl
    · rw [kept_of_exit hexit]
      exact (h.runsEach_behind hxs haside hexit []).mpr ⟨final, hfinal, rfl⟩

/-- The output is appended to a file that no command reads. An exit is requested in the inner
sequence: what is read before it there is missing in the file where the sequences are nested, and
the command behind the inner sequence still runs. -/
theorem evaluate_nested_sequence_exit :
    let context : Context := ⟨builtins, fun _ _ => none⟩
    let xs : List Command := [.call ⟨["echo", "a"]⟩]
    let ys : List Command := [.call ⟨["cat", "f"]⟩, .call ⟨["exit", "3"]⟩]
    let zs : List Command := [.call ⟨["wc", "f"]⟩]
    let files (content : Bytes) : FileTree := (FileTree.empty.insert ["f"]
      (.file (Utf8.encode "x\n".toList))).insert ["g"] (.file content)
    let appended (content : Bytes) (history : List Event) : Run :=
      ⟨⟨⟨.withDirectory "/", files content⟩, ⟨.empty, .file ["g"] none⟩⟩, history⟩
    let after (text : String) : Run := appended (Utf8.encode text.toList)
      [.ran "wc" none, .ran "exit" (some (.exit 3)), .ran "cat" none, .ran "echo" none]
    let run := appended [] []
    OutputSpared context xs ys zs run ∧
      (evaluate context (.sequence (xs ++ ys ++ zs))).Ends run (.error (.exit 3))
        (after "a\nx\n1 1 2 f\n") ∧
      (evaluate context (.sequence (xs ++ [.sequence ys] ++ zs))).Ends run (.error (.exit 3))
        (after "a\n1 1 2 f\n") ∧
      ∃ vs ws, ∃ final : Run, contributed vs = Utf8.encode "x\n".toList ∧
        after "a\nx\n1 1 2 f\n" = final.wrote (contributed vs ++ contributed ws) ∧
        after "a\n1 1 2 f\n" = final.wrote (contributed ws) := by
  intro context xs ys zs files appended after run
  have hflat : (evaluate context (.sequence (xs ++ ys ++ zs))).Ends run (.error (.exit 3))
      (after "a\nx\n1 1 2 f\n") := by
    decide +kernel
  have hnested : (evaluate context (.sequence (xs ++ [.sequence ys] ++ zs))).Ends run
      (.error (.exit 3)) (after "a\n1 1 2 f\n") := by
    decide +kernel
  have hwrote (content bytes : Bytes) (history : List Event) :
      (appended content history).wrote bytes = appended (content ++ bytes) history := rfl
  -- Whatever the file holds that the output is appended to, the commands do the same.
  have hecho (content : Bytes) (history : List Event) :
      (evaluate context (.call ⟨["echo", "a"]⟩)).EndsApart (appended content history)
        (.ok (Utf8.encode "a\n".toList)) (appended content (.ran "echo" none :: history)) := by
    rw [← Eval.ends_capture_ok]
    unfold Eval.Ends
    cbv
  have hcat (content : Bytes) (history : List Event) :
      (evaluate context (.call ⟨["cat", "f"]⟩)).EndsApart (appended content history)
        (.ok (Utf8.encode "x\n".toList)) (appended content (.ran "cat" none :: history)) := by
    rw [← Eval.ends_capture_ok]
    unfold Eval.Ends
    cbv
  have hexit (content : Bytes) (history : List Event) :
      (evaluate context (.call ⟨["exit", "3"]⟩)).EndsApart (appended content history)
        (.error (.exit 3)) (appended content (.ran "exit" (some (.exit 3)) :: history)) := by
    rw [← Eval.ends_capture_ok]
    unfold Eval.Ends
    cbv
  have hwc (content : Bytes) (history : List Event) :
      (evaluate context (.call ⟨["wc", "f"]⟩)).EndsApart (appended content history)
        (.ok (Utf8.encode "1 1 2 f\n".toList)) (appended content (.ran "wc" none :: history)) := by
    rw [← Eval.ends_capture_ok]
    unfold Eval.Ends
    cbv
  have hfits (content bytes : Bytes) (history : List Event) :
      (appended content history).output.Fits bytes := Nat.le_refl _
  have hxs := RunsEach.cons (hecho [] []) (hfits _ _ _) .nil
  have haside := RunsAside.cons (hcat (Utf8.encode "a\n".toList) [.ran "echo" none])
    (.cons (hexit _ _) .nil)
  have hspared : OutputSpared context xs ys zs run := by
    refine ⟨fun _ => Nat.le_refl _, ⟨[], rfl⟩, ?_, ?_⟩
    · intro us first hfirst
      obtain ⟨rfl, rfl⟩ := hxs.unique hfirst
      intro outcome mid hmid
      obtain ⟨rfl, rfl⟩ := (hcat _ _).unique hmid
      exact .cons (hexit _ _) (fun _ => hexit _ _) trivial
    · intro us first vs last hfirst hlast _
      obtain ⟨rfl, rfl⟩ := hxs.unique hfirst
      obtain ⟨rfl, rfl⟩ := haside.unique hlast
      exact .cons (hwc _ _) (fun _ => hwc _ _) trivial
  obtain ⟨us, vs, ws, first, last, hfirst, hys, -, -, hlacks⟩ :=
    ((evaluate_nested_sequence context xs ys zs run).2 hspared).2 _ _ hflat
  obtain ⟨rfl, rfl⟩ := hxs.unique hfirst
  have hvs := RunsEach.cons (hcat (Utf8.encode "a\n".toList) [.ran "echo" none]) (hfits _ _ _)
    (.cons (hexit _ _) (hfits _ _ _) .nil)
  obtain ⟨rfl, -⟩ := hvs.unique hys
  obtain ⟨final, -, hwhole, hends⟩ := hlacks ⟨_, .tail _ (.head _), Option.some_ne_none _⟩
  exact ⟨hspared, hflat, hnested, _, ws, final, rfl, hwhole, (hnested.unique hends).2⟩

/-- The output is appended to a file that an inner command reads. That command finds in it what the
command before it contributes only where both stand in the outer sequence. And a sequence need not
end at all: the line of its first command is handed over in that command again and again. -/
theorem evaluate_nested_sequence_own_output :
    let context : Context := ⟨builtins, fun _ _ => none⟩
    let xs : List Command := []
    let ys : List Command := [.call ⟨["echo", "a"]⟩, .call ⟨["cat", "f"]⟩]
    let zs : List Command := []
    let appended (text : String) (history : List Event) : Run :=
      ⟨⟨⟨.withDirectory "/", FileTree.empty.insert ["f"] (.file (Utf8.encode text.toList))⟩,
        ⟨.empty, .file ["f"] none⟩⟩, history⟩
    let run := appended "" []
    let history : List Event := [.ran "cat" none, .ran "echo" none]
    run.output.AcceptsAll ∧
      (evaluate context (.sequence (xs ++ ys ++ zs))).Ends run (.ok ())
        (appended "a\na\n" history) ∧
      (evaluate context (.sequence (xs ++ [.sequence ys] ++ zs))).Ends run (.ok ())
        (appended "a\n" history) ∧
      ∀ depth, evaluate ⟨builtins, substituter builtins depth⟩
        (.sequence [.call selfCapturing, .call ⟨["echo", "b"]⟩])
        ⟨⟨selfCapturingWorld, ⟨.empty, .unlimited⟩⟩, []⟩ = none := by
  refine ⟨fun _ => Nat.le_refl _, by decide +kernel, by decide +kernel, fun depth => ?_⟩
  have hnone (run : Run) (hworld : run.job.world = selfCapturingWorld) :
      evaluate ⟨builtins, substituter builtins depth⟩ (.call selfCapturing) run = none := by
    rw [evaluate]
    exact evaluate_selfCapturing_never depth hworld
  rw [evaluate]
  exact Eval.bind_eq_none (evaluateEach_eq_none .here (hnone _ rfl) none)

end Command

end LineShell
