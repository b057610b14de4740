import LineShell.Application

/-!
# Evaluation steps

A step of evaluation works on a state, and either needs substitutions nested deeper than allowed,
which is no answer at all, or ends with a value or an error and the state it leaves. The state of a
shell also keeps a history: the lines handed over for substitution and the applications that ran.
-/

namespace LineShell

/-- What is worth recording while a line is evaluated. -/
inductive Event
  | substituted (line : String)
  | ran (application : String) (failure : Option ShellError)
  deriving DecidableEq

/-- The history has the latest event first. -/
structure Shell where
  world : World
  history : List Event

/-- A shell in the middle of a command, with the streams of that command. -/
structure Run where
  job : Job
  history : List Event

def Run.shell (run : Run) : Shell := ⟨run.job.world, run.history⟩

def Eval (σ α : Type) : Type :=
  σ → Option (EStateM.Result ShellError σ α)

namespace Eval

variable {σ α β γ : Type}

instance : Monad (Eval σ) where
  pure a := fun s => some (.ok a s)
  bind m f := fun s =>
    match m s with
    | none => none
    | some (.ok a t) => f a t
    | some (.error e t) => some (.error e t)

theorem pure_apply (a : α) (s : σ) : (pure a : Eval σ α) s = some (.ok a s) := rfl

theorem bind_apply (m : Eval σ α) (f : α → Eval σ β) (s : σ) :
    (m >>= f) s =
      match m s with
      | none => none
      | some (.ok a t) => f a t
      | some (.error e t) => some (.error e t) := rfl

theorem bind_bind (m : Eval σ α) (f : α → Eval σ β) (g : β → Eval σ γ) :
    m >>= f >>= g = m >>= fun a => f a >>= g := by
  funext s
  simp only [bind_apply]
  cases m s with
  | none => rfl
  | some result => cases result <;> rfl

instance : LawfulMonad (Eval σ) :=
  LawfulMonad.mk' (Eval σ)
    (fun m => by
      funext s
      change (m >>= fun a => pure (id a)) s = m s
      rw [bind_apply]
      cases m s with
      | none => rfl
      | some result => cases result <;> rfl)
    (fun _ _ => rfl)
    bind_bind

def fail (error : ShellError) : Eval σ α := fun s => some (.error error s)

theorem fail_bind (error : ShellError) (f : α → Eval σ β) : fail error >>= f = fail error := rfl

def get : Eval σ σ := fun s => some (.ok s s)

def modify (f : σ → σ) : Eval σ Unit := fun s => some (.ok () (f s))

/-- A value, or a fault of form. -/
def ofSyntax : Except SyntaxFault α → Eval σ α
  | .ok a => pure a
  | .error fault => fail (.malformed fault)

/-- A step on the shell alone, which has no access to the streams. -/
def onShell (m : Eval Shell α) : Eval Run α := fun run =>
  let resume (shell : Shell) : Run :=
    { run with job.world := shell.world, history := shell.history }
  match m run.shell with
  | none => none
  | some (.ok a shell) => some (.ok a (resume shell))
  | some (.error e shell) => some (.error e (resume shell))

/-- A step on the job alone, which has no access to the history. -/
def onJob (action : Action ShellError α) : Eval Run α := fun run =>
  match action run.job with
  | .ok a job => some (.ok a { run with job })
  | .error e job => some (.error e { run with job })

def record (event : Event) : Eval Run Unit :=
  modify fun run => { run with history := event :: run.history }

def write (bytes : Bytes) : Eval Run Unit :=
  onJob ((Job.write bytes).adaptExcept .io)

/-- The value of a step or its error, as a value. -/
def attempt (m : Eval σ α) : Eval σ (Except ShellError α) := fun s =>
  match m s with
  | none => none
  | some (.ok a t) => some (.ok (.ok a) t)
  | some (.error e t) => some (.ok (.error e) t)

/-- Run a step with other streams; `leave` gives the streams to go on with afterwards. -/
def through (streams : Streams) (leave : Streams → Streams) (m : Eval Run α) : Eval Run α :=
  fun run =>
    let back (after : Run) : Run := { after with job.streams := leave after.job.streams }
    match m { run with job.streams := streams } with
    | none => none
    | some (.ok a after) => some (.ok a (back after))
    | some (.error e after) => some (.error e (back after))

end Eval

end LineShell
