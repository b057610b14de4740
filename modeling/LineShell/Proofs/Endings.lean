import Mathlib
import LineShell.Evaluation

/-!
# How steps end

A step that has an answer ends with a value or an error, and in a state. What is known about the end
of a step built from others is said here once for each way of building: the parts ended, each where
the one before it did. A step whose ends are known has no other answer, so what holds at every end
holds of the step.
-/

namespace LineShell

deriving instance DecidableEq for
  Environment, FileTree, World, Source, Sink, Streams, Job, Shell, Run, Redirection.Files

namespace Run

abbrev input (run : Run) : Source := run.job.streams.input

abbrev output (run : Run) : Sink := run.job.streams.output

def withInput (run : Run) (input : Source) : Run := { run with job.streams.input := input }

def withOutput (run : Run) (output : Sink) : Run := { run with job.streams.output := output }

/-- The run with what a step on the shell alone has left. -/
def resume (run : Run) (shell : Shell) : Run :=
  { run with job.world := shell.world, history := shell.history }

@[simp] theorem withOutput_output (run : Run) (sink : Sink) :
    (run.withOutput sink).output = sink := rfl

end Run

namespace Eval

variable {σ α β γ : Type}

/-- A step without an answer. -/
def never : Eval σ α := fun _ => none

/-- The step, begun in the first state, ends with the outcome in the second. -/
def Ends (m : Eval σ α) (s : σ) : Except ShellError α → σ → Prop
  | .ok a, t => m s = some (.ok a t)
  | .error e, t => m s = some (.error e t)

/-- How a step ends can be found out by running it. -/
instance [DecidableEq σ] [DecidableEq α] (m : Eval σ α) (s : σ) (outcome : Except ShellError α)
    (t : σ) : Decidable (m.Ends s outcome t) :=
  match outcome, h : m s with
  | .ok a, some (.ok b u) => decidable_of_iff (b = a ∧ u = t) (by simp [Ends, h])
  | .error e, some (.error f u) => decidable_of_iff (f = e ∧ u = t) (by simp [Ends, h])
  | .ok _, some (.error _ _) => .isFalse (by simp [Ends, h])
  | .error _, some (.ok _ _) => .isFalse (by simp [Ends, h])
  | .ok _, none => .isFalse (by simp [Ends, h])
  | .error _, none => .isFalse (by simp [Ends, h])

section Ends

variable {m : Eval σ α} {f : α → Eval σ β} {s t : σ} {a : α} {e : ShellError}

/-- A step has no answer, or it ends. -/
theorem eq_none_or_ends (m : Eval σ α) (s : σ) :
    m s = none ∨ ∃ outcome t, m.Ends s outcome t := by
  cases h : m s with
  | none => exact .inl rfl
  | some result =>
    cases result with
    | ok a t => exact .inr ⟨.ok a, t, h⟩
    | error e t => exact .inr ⟨.error e, t, h⟩

theorem Ends.ne_none {outcome : Except ShellError α} (h : m.Ends s outcome t) : m s ≠ none := by
  cases outcome <;> simp_all [Ends]

theorem ne_none_iff_ends : m s ≠ none ↔ ∃ outcome t, m.Ends s outcome t :=
  ⟨(eq_none_or_ends m s).resolve_left, fun ⟨_, _, h⟩ => h.ne_none⟩

/-- A step ends in one way at most. -/
theorem Ends.unique {outcome other : Except ShellError α} {u : σ} (h : m.Ends s outcome t)
    (hother : m.Ends s other u) : outcome = other ∧ t = u := by
  cases outcome <;> cases other <;> simp_all [Ends]

theorem ends_pure {outcome : Except ShellError α} :
    (pure a : Eval σ α).Ends s outcome t ↔ outcome = .ok a ∧ t = s := by
  cases outcome with
  | ok b => simp [Ends, pure_apply, eq_comm]
  | error e => simp [Ends, pure_apply]

theorem ends_fail {outcome : Except ShellError α} :
    (fail e : Eval σ α).Ends s outcome t ↔ outcome = .error e ∧ t = s := by
  cases outcome with
  | ok b => simp [Ends, fail]
  | error e => simp [Ends, fail, eq_comm]

theorem ends_get {outcome : Except ShellError σ} :
    (get : Eval σ σ).Ends s outcome t ↔ outcome = .ok s ∧ t = s := by
  cases outcome with
  | ok b => simp [Ends, get, eq_comm]
  | error e => simp [Ends, get]

theorem ends_modify {g : σ → σ} {outcome : Except ShellError Unit} :
    (modify g).Ends s outcome t ↔ outcome = .ok () ∧ t = g s := by
  cases outcome with
  | ok b => simp [Ends, modify, eq_comm]
  | error e => simp [Ends, modify]

/-- A bind lacks an answer where its first step does, or its second one behind it. -/
theorem bind_eq_none_iff :
    (m >>= f) s = none ↔ m s = none ∨ ∃ a mid, m.Ends s (.ok a) mid ∧ f a mid = none := by
  cases h : m s with
  | none => simp [bind_apply, h]
  | some result => cases result <;> simp [bind_apply, h, Ends]

theorem bind_eq_none (h : m s = none) : (m >>= f) s = none :=
  bind_eq_none_iff.mpr (.inl h)

theorem Ends.bind_eq_none (h : m.Ends s (.ok a) t) (hf : f a t = none) : (m >>= f) s = none :=
  bind_eq_none_iff.mpr (.inr ⟨a, t, h, hf⟩)

theorem ends_bind {outcome : Except ShellError β} :
    (m >>= f).Ends s outcome t ↔
      (∃ a mid, m.Ends s (.ok a) mid ∧ (f a).Ends mid outcome t) ∨
        ∃ e, m.Ends s (.error e) t ∧ outcome = .error e := by
  cases h : m s with
  | none => cases outcome <;> simp [Ends, bind_apply, h]
  | some result =>
    cases result with
    | ok a mid => cases outcome <;> simp [Ends, bind_apply, h, and_assoc]
    | error e mid => cases outcome <;> simp [Ends, bind_apply, h, eq_comm, and_comm, and_assoc]

theorem ends_bind_pure {g : α → β} {outcome : Except ShellError β} :
    (m >>= fun a => pure (g a)).Ends s outcome t ↔
      ∃ ended, m.Ends s ended t ∧ outcome = ended.map g := by
  simp only [ends_bind, ends_pure]
  constructor
  · rintro (⟨a, mid, hm, rfl, rfl⟩ | ⟨e, hm, rfl⟩)
    · exact ⟨.ok a, hm, rfl⟩
    · exact ⟨.error e, hm, rfl⟩
  · rintro ⟨e | a, hm, rfl⟩
    · exact .inr ⟨e, hm, rfl⟩
    · exact .inl ⟨a, t, hm, rfl, rfl⟩

theorem ends_ofSyntax {x : Except SyntaxFault α} {outcome : Except ShellError α} :
    (ofSyntax x : Eval σ α).Ends s outcome t ↔ outcome = x.mapError .malformed ∧ t = s := by
  cases x with
  | ok a => exact ends_pure
  | error fault => exact ends_fail

theorem ends_ofSyntax_ok {x : Except SyntaxFault α} :
    (ofSyntax x : Eval σ α).Ends s (.ok a) t ↔ x = .ok a ∧ t = s := by
  rw [ends_ofSyntax]
  cases x <;> simp [Except.mapError, eq_comm]

/-- What a bind gives comes from its second step. -/
theorem ends_bind_ok {b : β} :
    (m >>= f).Ends s (.ok b) t ↔ ∃ a mid, m.Ends s (.ok a) mid ∧ (f a).Ends mid (.ok b) t := by
  simp [ends_bind]

/-- A bind depends on its second step only where the first one ends well. -/
theorem bind_congr_at {n : Eval σ α} {g : α → Eval σ β} (hm : m s = n s)
    (hf : ∀ a t, m.Ends s (.ok a) t → f a t = g a t) : (m >>= f) s = (n >>= g) s := by
  rw [bind_apply, bind_apply, ← hm]
  cases hresult : m s with
  | none => rfl
  | some result =>
    cases result with
    | ok a t => exact hf a t hresult
    | error e t => rfl

/-- The step gives no value, and this is because the other one gives none: it ends with the same
error in the same state, or has no answer either. -/
def FailsAs (m : Eval σ α) (s : σ) (n : Eval σ β) (t : σ) : Prop :=
  (m s = none ∧ n t = none) ∨ ∃ e u, m.Ends s (.error e) u ∧ n.Ends t (.error e) u

theorem ok_or_failsAs_self (m : Eval σ α) (s : σ) :
    (∃ a t, m.Ends s (.ok a) t) ∨ m.FailsAs s m s := by
  rcases m.eq_none_or_ends s with hnone | ⟨e | a, t, hends⟩
  · exact .inr (.inl ⟨hnone, hnone⟩)
  · exact .inr (.inr ⟨e, t, hends, hends⟩)
  · exact .inl ⟨a, t, hends⟩

theorem FailsAs.bind {n : Eval σ γ} (h : m.FailsAs s n t) (f : α → Eval σ β) :
    (m >>= f).FailsAs s n t := by
  rcases h with ⟨hm, hn⟩ | ⟨e, u, hm, hn⟩
  · exact .inl ⟨by rw [bind_apply, hm], hn⟩
  · exact .inr ⟨e, u, ends_bind.mpr (.inr ⟨e, hm, rfl⟩), hn⟩

theorem FailsAs.of_ok_bind {n : Eval σ γ} {mid : σ} (hm : m.Ends s (.ok a) mid)
    (h : (f a).FailsAs mid n t) : (m >>= f).FailsAs s n t := by
  rcases h with ⟨hf, hn⟩ | ⟨e, u, hf, hn⟩
  · have hm' : m s = some (.ok a mid) := hm
    exact .inl ⟨by simp only [bind_apply, hm', hf], hn⟩
  · exact .inr ⟨e, u, ends_bind.mpr (.inl ⟨a, mid, hm, hf⟩), hn⟩

end Ends

section Runs

variable {m : Eval Run α} {run after : Run}

theorem onShell_pure (a : α) : onShell (pure a) = pure a := rfl

theorem onShell_bind {m : Eval Shell α} {f : α → Eval Shell β} :
    onShell (m >>= f) = onShell m >>= fun a => onShell (f a) := by
  funext run
  simp only [onShell, bind_apply]
  cases m run.shell with
  | none => rfl
  | some result => cases result <;> rfl

theorem ends_onShell {m : Eval Shell α} {outcome : Except ShellError α} :
    (onShell m).Ends run outcome after ↔
      ∃ shell, m.Ends run.shell outcome shell ∧ after = run.resume shell := by
  cases h : m run.shell with
  | none => cases outcome <;> simp [Ends, onShell, h]
  | some result =>
    cases result <;> cases outcome <;>
      simp [Ends, onShell, h, Run.resume, eq_comm, and_assoc]

theorem onShell_congr_at {m n : Eval Shell α} (h : m run.shell = n run.shell) :
    onShell m run = onShell n run := by
  rw [onShell, onShell, h]

theorem ends_through {streams : Streams} {leave : Streams → Streams}
    {outcome : Except ShellError α} :
    (m.through streams leave).Ends run outcome after ↔
      ∃ last, m.Ends { run with job.streams := streams } outcome last ∧
        after = { last with job.streams := leave last.job.streams } := by
  cases h : m { run with job.streams := streams } with
  | none => cases outcome <;> simp [Ends, through, h]
  | some result => cases result <;> cases outcome <;> simp [Ends, through, h, eq_comm, and_assoc]

theorem capture_apply (m : Eval Run Unit) (run : Run) :
    m.capture run =
      match m (run.withOutput .unlimited) with
      | none => none
      | some (.ok () last) => some (.ok (.ok last.output.collected) (last.withOutput run.output))
      | some (.error e last) => some (.ok (.error e) (last.withOutput run.output)) := by
  have hstart : ({ run with job.streams := ⟨run.job.streams.input, .unlimited⟩ } : Run) =
      run.withOutput .unlimited := rfl
  unfold capture through
  simp only [bind_apply, attempt, hstart]
  cases m (run.withOutput .unlimited) with
  | none => rfl
  | some result => cases result <;> rfl

theorem capture_congr_at {m n : Eval Run Unit}
    (h : m (run.withOutput .unlimited) = n (run.withOutput .unlimited)) :
    m.capture run = n.capture run := by
  rw [capture_apply, capture_apply, h]

/-- What a step into a buffer comes to: what it wrote, or its error. -/
def collect (ended : Except ShellError Unit) (last : Run) : Except ShellError Bytes :=
  ended.map fun _ => last.output.collected

/-- The step, run into a buffer of its own, comes to this outcome; afterwards the run has its output
again. -/
inductive EndsApart (m : Eval Run Unit) (run : Run) : Except ShellError Bytes → Run → Prop
  | intro {ended : Except ShellError Unit} {last : Run}
      (ends : m.Ends (run.withOutput .unlimited) ended last) :
      EndsApart m run (collect ended last) (last.withOutput run.output)

theorem EndsApart.output_eq {m : Eval Run Unit} {outcome : Except ShellError Bytes}
    (h : m.EndsApart run outcome after) : after.output = run.output := by
  cases h
  rfl

theorem EndsApart.unique {m : Eval Run Unit} {outcome other : Except ShellError Bytes} {last : Run}
    (h : m.EndsApart run outcome after) (hother : m.EndsApart run other last) :
    outcome = other ∧ after = last := by
  obtain ⟨hends⟩ := h
  obtain ⟨hothers⟩ := hother
  obtain ⟨rfl, rfl⟩ := hends.unique hothers
  exact ⟨rfl, rfl⟩

theorem ends_capture {m : Eval Run Unit} {outcome : Except ShellError (Except ShellError Bytes)} :
    m.capture.Ends run outcome after ↔
      ∃ collected, outcome = .ok collected ∧ m.EndsApart run collected after := by
  constructor
  · intro h
    rcases m.eq_none_or_ends (run.withOutput .unlimited) with hnone | ⟨ended, last, hended⟩
    · cases outcome <;> simp [Ends, capture_apply, hnone] at h
    · obtain ⟨rfl, rfl⟩ : outcome = .ok (collect ended last) ∧
          after = last.withOutput run.output := by
        cases ended <;> cases outcome <;> simp_all [Ends, capture_apply, collect, Except.map]
      exact ⟨_, rfl, .intro hended⟩
  · rintro ⟨collected, rfl, @⟨ended, last, h⟩⟩
    cases ended <;> simp_all [Ends, capture_apply, collect, Except.map]

theorem ends_capture_bind {m : Eval Run Unit} {f : Except ShellError Bytes → Eval Run β}
    {outcome : Except ShellError β} :
    (m.capture >>= f).Ends run outcome after ↔
      ∃ collected mid, m.EndsApart run collected mid ∧ (f collected).Ends mid outcome after := by
  rw [ends_bind]
  simp only [ends_capture]
  constructor
  · rintro (⟨collected, mid, ⟨other, hcollected, hm⟩, hf⟩ | ⟨e, ⟨other, hother, -⟩, -⟩)
    · obtain rfl := Except.ok.inj hcollected
      exact ⟨collected, mid, hm, hf⟩
    · cases hother
  · rintro ⟨collected, mid, hm, hf⟩
    exact .inl ⟨collected, mid, ⟨collected, rfl, hm⟩, hf⟩

theorem reading_apply (bytes : Bytes) (m : Eval Run α) (run : Run) :
    m.reading bytes run =
      match m (run.withInput (.ofBytes bytes)) with
      | none => none
      | some (.ok a last) => some (.ok a (last.withInput run.input))
      | some (.error e last) => some (.error e (last.withInput run.input)) := rfl

theorem ends_reading {bytes : Bytes} {outcome : Except ShellError α} :
    (m.reading bytes).Ends run outcome after ↔
      ∃ last, m.Ends (run.withInput (.ofBytes bytes)) outcome last ∧
        after = last.withInput run.input := by
  unfold reading
  exact ends_through

end Runs

end Eval

end LineShell
