import LineShell.Builtin
import LineShell.Proofs.Endings

/-!
# Pipes in a row

To put a pipe behind another is to run the first one into a fresh buffer and the second one on what
is in it. Putting steps behind each other so is associative, and a pipe is nothing but its calls put
behind each other, so it may be cut at any place between two calls. The input of the whole is then
met by the first call alone, and its output by the last.
-/

namespace LineShell

namespace Run

/-- The run whose input is what has been collected, with an output again. -/
def relay (run : Run) (output : Sink) : Run :=
  (run.withInput (.ofBytes run.output.collected)).withOutput output

end Run

namespace Eval

/-- Run a step into a fresh buffer and, if it succeeds, the other one on what it wrote. The input
afterwards is what the first one has left of it. -/
def into (first second : Eval Run Unit) : Eval Run Unit := fun run =>
  match first (run.withOutput .unlimited) with
  | none => none
  | some (.error e mid) => some (.error e (mid.withOutput run.output))
  | some (.ok () mid) =>
    match second (mid.relay run.output) with
    | none => none
    | some (.error e last) => some (.error e (last.withInput mid.input))
    | some (.ok () last) => some (.ok () (last.withInput mid.input))

section Into

variable {first second third : Eval Run Unit}

theorem into_eq_capture (first second : Eval Run Unit) :
    first.into second = (do
      match ← first.capture with
      | .ok bytes => second.reading bytes
      | .error e => fail e) := by
  funext run
  rw [bind_apply, capture_apply, into]
  cases first (run.withOutput .unlimited) with
  | none => rfl
  | some result =>
    cases result with
    | error e mid => rfl
    | ok a mid =>
      have hrelay : (mid.withOutput run.output).withInput (.ofBytes mid.output.collected) =
          mid.relay run.output := rfl
      simp only [reading_apply, hrelay]
      cases second (mid.relay run.output) with
      | none => rfl
      | some result => cases result <;> rfl

theorem into_assoc (first second third : Eval Run Unit) :
    (first.into second).into third = first.into (second.into third) := by
  funext run
  have hfresh : (run.withOutput .unlimited).withOutput .unlimited = run.withOutput .unlimited := rfl
  simp only [into, hfresh]
  cases first (run.withOutput .unlimited) with
  | none => rfl
  | some result =>
    cases result with
    | error e mid => rfl
    | ok a mid =>
      have hrelay : (mid.relay run.output).withOutput .unlimited = mid.relay .unlimited := rfl
      simp only [Run.withOutput_output, hrelay]
      cases second (mid.relay .unlimited) with
      | none => rfl
      | some result =>
        cases result with
        | error e last => rfl
        | ok b last =>
          have hlast : (last.withInput mid.input).relay run.output = last.relay run.output := rfl
          have houtput : (mid.relay run.output).output = run.output := rfl
          simp only [hlast, houtput]
          cases third (last.relay run.output) with
          | none => rfl
          | some result => cases result <;> rfl

theorem ends_into {run after : Run} {outcome : Except ShellError Unit} :
    (first.into second).Ends run outcome after ↔
      (∃ e mid, first.Ends (run.withOutput .unlimited) (.error e) mid ∧ outcome = .error e ∧
        after = mid.withOutput run.output) ∨
      ∃ mid last, first.Ends (run.withOutput .unlimited) (.ok ()) mid ∧
        second.Ends (mid.relay run.output) outcome last ∧ after = last.withInput mid.input := by
  rw [into_eq_capture, ends_capture_bind]
  constructor
  · rintro ⟨collected, mid, @⟨ended, last, hfirst⟩, hsecond⟩
    cases ended with
    | error e => exact .inl ⟨e, last, hfirst, ends_fail.mp hsecond⟩
    | ok a =>
      obtain ⟨final, hfinal, hafter⟩ := ends_reading.mp hsecond
      exact .inr ⟨last, final, hfirst, hfinal, hafter⟩
  · rintro (⟨e, mid, hfirst, rfl, rfl⟩ | ⟨mid, last, hfirst, hsecond, rfl⟩)
    · exact ⟨.error e, _, .intro hfirst, ends_fail.mpr ⟨rfl, rfl⟩⟩
    · exact ⟨.ok mid.output.collected, _, .intro hfirst, ends_reading.mpr ⟨last, hsecond, rfl⟩⟩

theorem into_eq_none {run : Run} (h : first (run.withOutput .unlimited) = none) :
    first.into second run = none := by
  unfold into
  rw [h]

theorem Ends.into_eq_none {run mid : Run} (h : first.Ends (run.withOutput .unlimited) (.ok ()) mid)
    (hsecond : second (mid.relay run.output) = none) : first.into second run = none := by
  have hfirst : first (run.withOutput .unlimited) = some (.ok () mid) := h
  unfold into
  rw [hfirst]
  simp only [hsecond]

theorem into_congr_at {other after : Eval Run Unit} {run : Run}
    (hfirst : first (run.withOutput .unlimited) = other (run.withOutput .unlimited))
    (hsecond : ∀ mid, first.Ends (run.withOutput .unlimited) (.ok ()) mid →
      second (mid.relay run.output) = after (mid.relay run.output)) :
    first.into second run = other.into after run := by
  unfold into
  rw [← hfirst]
  cases hresult : first (run.withOutput .unlimited) with
  | none => rfl
  | some result =>
    cases result with
    | error e mid => rfl
    | ok a mid => simp only [hsecond mid hresult]

end Into

end Eval

namespace Command

variable {context : Context}

theorem evaluatePipe_cons {stages : List Call} (hstages : stages ≠ []) (stage : Call) :
    evaluatePipe context (stage :: stages) =
      (stage.evaluate context).into (evaluatePipe context stages) := by
  obtain ⟨next, others, rfl⟩ := List.exists_cons_of_ne_nil hstages
  rw [Eval.into_eq_capture]
  rfl

theorem evaluatePipe_append {xs ys : List Call} (hxs : xs ≠ []) (hys : ys ≠ []) :
    evaluatePipe context (xs ++ ys) = (evaluatePipe context xs).into (evaluatePipe context ys) := by
  induction xs with
  | nil => exact absurd rfl hxs
  | cons stage xs ih =>
    cases xs with
    | nil => exact evaluatePipe_cons hys stage
    | cons next others =>
      have hnext : next :: others ≠ [] := List.cons_ne_nil next others
      calc evaluatePipe context (stage :: (next :: others ++ ys))
        _ = (stage.evaluate context).into (evaluatePipe context (next :: others ++ ys)) :=
          evaluatePipe_cons (List.append_ne_nil_of_left_ne_nil hnext ys) stage
        _ = (stage.evaluate context).into
              ((evaluatePipe context (next :: others)).into (evaluatePipe context ys)) := by
          rw [ih hnext]
        _ = (evaluatePipe context (stage :: next :: others)).into (evaluatePipe context ys) := by
          rw [← Eval.into_assoc, ← evaluatePipe_cons hnext]

/-- A pipe that is cut in two is its first part, run into a buffer, and its second part on that
buffer: if the first part fails, that is how the pipe fails, and nothing of the second part has run.
So only the first call meets the input of the pipe, and only the last one its output. -/
theorem evaluate_pipe_append (context : Context) :
    (∀ xs ys : List Call, xs ≠ [] → ys ≠ [] →
      evaluate context (.pipe (xs ++ ys)) =
          (evaluate context (.pipe xs)).into (evaluate context (.pipe ys)) ∧
        ∀ run e mid, (evaluate context (.pipe xs)).Ends (run.withOutput .unlimited) (.error e) mid →
          (evaluate context (.pipe (xs ++ ys))).Ends run (.error e) (mid.withOutput run.output)) ∧
    (∀ single, evaluate context (.pipe [single]) = evaluate context (.call single)) ∧
    (∀ first others, others ≠ [] → ∀ run outcome after,
      (evaluate context (.pipe (first :: others))).Ends run outcome after →
        ∃ ended mid, (first.evaluate context).Ends (run.withOutput .unlimited) ended mid ∧
          after.input = mid.input) ∧
    ∀ stages last, stages ≠ [] → ∀ run outcome after,
      (evaluate context (.pipe (stages ++ [last]))).Ends run outcome after →
        (∃ e mid,
          (evaluate context (.pipe stages)).Ends (run.withOutput .unlimited) (.error e) mid ∧
          outcome = .error e ∧ after.output = run.output) ∨
        ∃ mid final,
          (evaluate context (.pipe stages)).Ends (run.withOutput .unlimited) (.ok ()) mid ∧
          (last.evaluate context).Ends (mid.relay run.output) outcome final ∧
          after.output = final.output := by
  simp only [evaluate]
  refine ⟨fun xs ys hxs hys => ?_, fun single => rfl, ?_, ?_⟩
  · have happend := @evaluatePipe_append context xs ys hxs hys
    refine ⟨happend, fun run e mid hfails => ?_⟩
    rw [happend, Eval.ends_into]
    exact .inl ⟨e, mid, hfails, rfl, rfl⟩
  · intro first others hothers run outcome after h
    rw [evaluatePipe_cons hothers, Eval.ends_into] at h
    rcases h with ⟨e, mid, hfirst, -, rfl⟩ | ⟨mid, last, hfirst, -, rfl⟩
    · exact ⟨.error e, mid, hfirst, rfl⟩
    · exact ⟨.ok (), mid, hfirst, rfl⟩
  · intro stages last hstages run outcome after h
    rw [evaluatePipe_append hstages (List.cons_ne_nil last []), Eval.ends_into] at h
    rcases h with ⟨e, mid, hfails, houtcome, rfl⟩ | ⟨mid, final, hstages, hlast, rfl⟩
    · exact .inl ⟨e, mid, hfails, houtcome, rfl⟩
    · exact .inr ⟨mid, final, hstages, hlast, rfl⟩

/-- An exit request in the middle of a pipe: the call behind it does not run, and neither stream of
the pipe has been touched. -/
theorem evaluate_pipe_append_exit :
    let context : Context := ⟨builtins, fun _ _ => none⟩
    let run : Run :=
      ⟨⟨⟨.withDirectory "/", .empty⟩, ⟨.ofBytes [0x61], .memory [0x62] (some 5)⟩⟩, []⟩
    let mid : Run := ⟨(run.withOutput .unlimited).job,
      [.ran "exit" (some (.exit 3)), .ran "echo" none]⟩
    (evaluate context (.pipe [⟨["echo", "a"]⟩, ⟨["exit", "3"]⟩])).Ends (run.withOutput .unlimited)
        (.error (.exit 3)) mid ∧
      (evaluate context (.pipe ([⟨["echo", "a"]⟩, ⟨["exit", "3"]⟩] ++ [⟨["cat"]⟩]))).Ends run
        (.error (.exit 3)) (mid.withOutput (.memory [0x62] (some 5))) := by
  intro context run mid
  have hfails : (evaluate context (.pipe [⟨["echo", "a"]⟩, ⟨["exit", "3"]⟩])).Ends
      (run.withOutput .unlimited) (.error (.exit 3)) mid := by
    unfold Eval.Ends
    cbv
  have hstages := (evaluate_pipe_append context).1 [⟨["echo", "a"]⟩, ⟨["exit", "3"]⟩] [⟨["cat"]⟩]
    (by simp) (by simp)
  exact ⟨hfails, hstages.2 run (.exit 3) mid hfails⟩

end Command

end LineShell
