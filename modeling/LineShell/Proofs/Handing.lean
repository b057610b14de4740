import LineShell.Proofs.Streams

/-!
# What an evaluation hands over

An evaluation comes to the calls of a command one after the other, in a call to one token after the
other, and in a token to the lines that it hands over. Each of these places is reached by what has
ended well before it, and so the places that are reached can be told without the evaluation of what
stands there. The evaluation has no answer where a line that it hands over has none. Two
substituters that do the same wherever the evaluation hands a line over to the first one make no
difference to it.
-/

namespace LineShell

/-- Going through the list, with a step for each member, comes to the member in that state. -/
inductive Visits {α σ : Type} (step : α → σ → σ → Prop) : List α → σ → α → σ → Prop
  | here {a : α} {others : List α} {s : σ} : Visits step (a :: others) s a s
  | later {a b : α} {others : List α} {s mid t : σ} (done : step a s mid)
      (visited : Visits step others mid b t) : Visits step (a :: others) s b t

theorem Visits.mem {α σ : Type} {step : α → σ → σ → Prop} {as : List α} {a : α} {s t : σ}
    (h : Visits step as s a t) : a ∈ as := by
  induction h with
  | here => exact List.mem_cons_self
  | later done visited ih => exact List.mem_cons_of_mem _ ih

namespace Argument

/-- The token is resolved from the one shell to the other. -/
def Resolves (substitute : Substituter) (token : String) (shell after : Shell) : Prop :=
  ∃ args, (resolve substitute token).Ends shell (.ok args) after

end Argument

namespace Redirection

/-- The redirection is opened from the one shell to the other, whatever is open already. -/
def Opens (substitute : Substituter) (redirection : Direction × String) (shell after : Shell) :
    Prop :=
  ∃ opened next, (openNext substitute opened redirection).Ends shell (.ok next) after

end Redirection

namespace Call

/-- The call, prepared from the one shell on, comes to resolve the token in the other: as the target
of a redirection, or as a word behind all of them. -/
inductive Scans (substitute : Substituter) (call : Call) (shell : Shell) : String → Shell → Prop
  | target {division : Redirection.Division} {redirection : Redirection.Direction × String}
      {now : Shell} (divided : Redirection.divide call.tokens = .ok division)
      (visited : Visits (Redirection.Opens substitute) division.targets shell redirection now) :
      Scans substitute call shell redirection.2 now
  | word {opened : Redirection.Files} {tokens : List String} {token : String} {mid now : Shell}
      (extracted : (Redirection.extract substitute call.tokens).Ends shell (.ok (opened, tokens))
        mid)
      (visited : Visits (Argument.Resolves substitute) tokens mid token now) :
      Scans substitute call shell token now

end Call

namespace Command

/-- The call runs into a buffer, and this is the run of the call behind it in a pipe. -/
def Relays (context : Context) (stage : Call) (run next : Run) : Prop :=
  ∃ mid, (stage.evaluate context).Ends (run.withOutput .unlimited) (.ok ()) mid ∧
    next = mid.relay run.output

/-- The command runs into a buffer, and this is the run of the command behind it in a sequence. -/
def Contributes (context : Context) (command : Command) (run next : Run) : Prop :=
  ∃ outcome mid, (command.evaluate context).EndsApart run outcome mid ∧
    run.output.Fits (contribution outcome) ∧ next = mid.wrote (contribution outcome)

/-- The evaluation of the command comes to prepare the call in that shell. -/
inductive Prepares (context : Context) : Command → Run → Call → Shell → Prop
  | call {single : Call} {run : Run} : Prepares context (.call single) run single run.shell
  | pipe {stages : List Call} {stage : Call} {run start : Run}
      (visited : Visits (Relays context) stages run stage start) :
      Prepares context (.pipe stages) run stage start.shell
  | sequence {commands : List Command} {member : Command} {call : Call} {run start : Run}
      {shell : Shell} (visited : Visits (Contributes context) commands run member start)
      (prepared : Prepares context member (start.withOutput .unlimited) call shell) :
      Prepares context (.sequence commands) run call shell

/-- The evaluation of the command comes to resolve the token in that shell. -/
inductive Scans (context : Context) (command : Command) (run : Run) : String → Shell → Prop
  | intro {call : Call} {token : String} {shell now : Shell}
      (prepared : Prepares context command run call shell)
      (scanned : call.Scans context.substitute shell token now) :
      Scans context command run token now

/-- The evaluation of the command hands the line over, in that shell. -/
inductive Hands (context : Context) (command : Command) (run : Run) : String → Shell → Prop
  | intro {token line : String} {shell now : Shell}
      (scanned : command.Scans context run token shell)
      (handed : Argument.Scan.start.HandsOver context.substitute token.toList shell line now) :
      Hands context command run line now

end Command

/-! ### What is handed over needs an answer -/

section None

variable {substitute : Substituter}

namespace Argument

variable {shell now : Shell} {token line : String}

/-- A scan has no answer where a line that it hands over has none. -/
theorem Scan.HandsOver.feedText_eq_none {scan : Scan} {text : List Char}
    (h : scan.HandsOver substitute text shell line now) (hnone : substitute line now = none) :
    scan.feedText substitute text shell = none := by
  obtain @⟨before, rest, reached, mid, rfl, hscanned, hcloses⟩ := h
  obtain ⟨outer, hquotes⟩ := List.head?_eq_some_iff.mp hcloses
  have hbefore : scan.feedText substitute before shell = some (.ok reached mid) := hscanned
  have hclose : reached.closeSubstitution substitute mid = none := by
    rw [Scan.closeSubstitution_apply, Eval.bind_apply, hnone]
  simp only [Scan.feedText_append, Eval.bind_apply, hbefore, Scan.feedText_cons,
    Scan.feed_close_back hquotes, hclose]

theorem resolve_eq_none (h : Scan.start.HandsOver substitute token.toList shell line now)
    (hnone : substitute line now = none) : resolve substitute token shell = none := by
  have hscan : scan substitute token.toList shell = none := h.feedText_eq_none hnone
  rw [resolve, Eval.bind_apply, hscan]

theorem resolveAll_eq_none {tokens : List String}
    (h : Visits (Resolves substitute) tokens shell token now)
    (hnone : resolve substitute token now = none) : resolveAll substitute tokens shell = none := by
  induction h with
  | here => exact Eval.bind_eq_none hnone
  | later done visited ih =>
    obtain ⟨args, hfirst⟩ := done
    exact hfirst.bind_eq_none (Eval.bind_eq_none (ih hnone))

end Argument

namespace Redirection

variable {redirection : Direction × String} {shell now : Shell}

theorem openNext_eq_none (opened : Files)
    (hnone : Argument.resolve substitute redirection.2 shell = none) :
    openNext substitute opened redirection shell = none :=
  Eval.bind_eq_none (Eval.bind_eq_none hnone)

/-- What is open already makes no difference to what a redirection leaves. -/
theorem Opens.exists_ends (h : Opens substitute redirection shell now) (opened : Files) :
    ∃ next, (openNext substitute opened redirection).Ends shell (.ok next) now := by
  obtain ⟨direction, target⟩ := redirection
  obtain ⟨others, last, hends⟩ := h
  obtain ⟨name, mid, hname, hopens⟩ := Eval.ends_bind_ok.mp hends
  cases direction with
  | input =>
    obtain ⟨location, later, hfound, hpure⟩ := Eval.ends_bind_ok.mp hopens
    obtain ⟨-, rfl⟩ := Eval.ends_pure.mp hpure
    refine ⟨{ opened with input := some location }, Eval.ends_bind_ok.mpr ⟨name, mid, hname, ?_⟩⟩
    exact Eval.ends_bind_ok.mpr ⟨location, now, hfound, Eval.ends_pure.mpr ⟨rfl, rfl⟩⟩
  | output opening =>
    obtain ⟨sink, later, hcreated, hpure⟩ := Eval.ends_bind_ok.mp hopens
    obtain ⟨-, rfl⟩ := Eval.ends_pure.mp hpure
    refine ⟨{ opened with output := some sink }, Eval.ends_bind_ok.mpr ⟨name, mid, hname, ?_⟩⟩
    exact Eval.ends_bind_ok.mpr ⟨sink, now, hcreated, Eval.ends_pure.mpr ⟨rfl, rfl⟩⟩

theorem foldlM_openNext_eq_none {targets : List (Direction × String)}
    (h : Visits (Opens substitute) targets shell redirection now)
    (hnone : Argument.resolve substitute redirection.2 now = none) (opened : Files) :
    targets.foldlM (openNext substitute) opened shell = none := by
  induction h generalizing opened with
  | here =>
    rw [List.foldlM_cons]
    exact Eval.bind_eq_none (openNext_eq_none opened hnone)
  | later done visited ih =>
    obtain ⟨next, hnext⟩ := done.exists_ends opened
    rw [List.foldlM_cons]
    exact hnext.bind_eq_none (ih hnone next)

end Redirection

theorem Call.Scans.tokens_ne_nil {call : Call} {token : String} {shell now : Shell}
    (h : call.Scans substitute shell token now) : call.tokens ≠ [] := by
  intro hnil
  cases h with
  | target divided visited =>
    rw [hnil] at divided
    cases divided
    cases visited
  | word extracted visited =>
    rw [hnil] at extracted
    obtain ⟨hnothing, -⟩ := Eval.ends_pure.mp extracted
    cases hnothing
    cases visited

theorem Call.prepare_eq_none {call : Call} {token : String} {shell now : Shell}
    (h : call.Scans substitute shell token now)
    (hnone : Argument.resolve substitute token now = none) :
    call.prepare substitute shell = none := by
  unfold prepare
  rw [if_neg (by simpa using h.tokens_ne_nil)]
  cases h with
  | @target division redirection now divided visited =>
    have hdivided : (Eval.ofSyntax (Redirection.divide call.tokens)).Ends shell (.ok division)
        shell := Eval.ends_ofSyntax_ok.mpr ⟨divided, rfl⟩
    have hfold := Redirection.foldlM_openNext_eq_none visited hnone .unopened
    exact Eval.bind_eq_none (hdivided.bind_eq_none (Eval.bind_eq_none hfold))
  | word extracted visited =>
    exact extracted.bind_eq_none (Eval.bind_eq_none (Argument.resolveAll_eq_none visited hnone))

namespace Command

variable {context : Context}

theorem evaluatePipe_eq_none {stages : List Call} {stage : Call} {run start : Run}
    (h : Visits (Relays context) stages run stage start)
    (hnone : stage.prepare context.substitute start.shell = none) :
    evaluatePipe context stages run = none := by
  induction h with
  | @here stage stages run =>
    have hstage (now : Run) (hshell : now.shell = run.shell) : stage.evaluate context now = none :=
      Call.evaluate_eq_none_iff.mpr (hshell ▸ hnone)
    by_cases hlast : stages = []
    · subst hlast
      exact hstage run rfl
    · rw [evaluatePipe_cons hlast]
      exact Eval.into_eq_none (hstage _ rfl)
  | @later stage member stages run next start done visited ih =>
    have hstages : stages ≠ [] := List.ne_nil_of_mem visited.mem
    obtain ⟨mid, hends, rfl⟩ := done
    rw [evaluatePipe_cons hstages]
    exact hends.into_eq_none (ih hnone)

theorem evaluateEach_eq_none {commands : List Command} {member : Command} {run start : Run}
    (h : Visits (Contributes context) commands run member start)
    (hnone : member.evaluate context (start.withOutput .unlimited) = none)
    (exit : Option ShellError) : evaluateEach context exit commands run = none := by
  induction h generalizing exit with
  | here =>
    rw [evaluateEach]
    refine Eval.bind_eq_none ?_
    rw [Eval.capture_apply, hnone]
  | later done visited ih =>
    obtain ⟨outcome, mid, hapart, hfits, rfl⟩ := done
    have hwritten := Eval.ends_write.mpr (.inl ⟨hapart.output_eq ▸ hfits, rfl, rfl⟩)
    rw [evaluateEach]
    have hcaptured := Eval.ends_capture.mpr ⟨outcome, rfl, hapart⟩
    exact hcaptured.bind_eq_none (hwritten.bind_eq_none (ih hnone _))

/-- An evaluation has no answer where a line that it hands over has none. -/
theorem evaluate_eq_none_of_hands {command : Command} {run : Run} {line : String} {now : Shell}
    (h : command.Hands context run line now) (hnone : context.substitute line now = none) :
    command.evaluate context run = none := by
  obtain ⟨⟨hprepares, hscans⟩, hhands⟩ := h
  have hprepare := Call.prepare_eq_none hscans (Argument.resolve_eq_none hhands hnone)
  clear hscans hhands
  induction hprepares with
  | call => exact Call.evaluate_eq_none_iff.mpr hprepare
  | pipe visited => exact evaluatePipe_eq_none visited hprepare
  | sequence visited prepared ih =>
    rw [evaluate]
    exact Eval.bind_eq_none (evaluateEach_eq_none visited (ih hprepare) none)

end Command

end None

/-! ### Only what is handed over matters -/

section Congr

variable {substitute other : Substituter}

theorem Argument.resolveAll_congr_at {tokens : List String} {shell : Shell}
    (h : ∀ token now, Visits (Resolves substitute) tokens shell token now →
      resolve substitute token now = resolve other token now) :
    resolveAll substitute tokens shell = resolveAll other tokens shell := by
  induction tokens generalizing shell with
  | nil => rfl
  | cons token tokens ih =>
    refine Eval.bind_congr_at (h _ _ .here) fun args mid hfirst => ?_
    refine Eval.bind_congr_at (ih fun token now hvisited => ?_) fun _ _ _ => rfl
    exact h _ _ (.later ⟨args, hfirst⟩ hvisited)

namespace Redirection

theorem openNext_congr_at {opened : Files} {redirection : Direction × String} {shell : Shell}
    (h : Argument.resolve substitute redirection.2 shell =
      Argument.resolve other redirection.2 shell) :
    openNext substitute opened redirection shell = openNext other opened redirection shell := by
  refine Eval.bind_congr_at ?_ fun _ _ _ => rfl
  exact Eval.bind_congr_at h fun _ _ _ => rfl

theorem foldlM_openNext_congr_at {opened : Files} {targets : List (Direction × String)}
    {shell : Shell}
    (h : ∀ redirection now, Visits (Opens substitute) targets shell redirection now →
      Argument.resolve substitute redirection.2 now = Argument.resolve other redirection.2 now) :
    targets.foldlM (openNext substitute) opened shell =
      targets.foldlM (openNext other) opened shell := by
  induction targets generalizing opened shell with
  | nil => rfl
  | cons redirection targets ih =>
    rw [List.foldlM_cons, List.foldlM_cons]
    refine Eval.bind_congr_at (openNext_congr_at (h _ _ .here)) fun next mid hopened => ?_
    exact ih fun redirection now hvisited => h _ _ (.later ⟨opened, next, hopened⟩ hvisited)

end Redirection

theorem Call.prepare_congr_at {call : Call} {shell : Shell}
    (h : ∀ token now, call.Scans substitute shell token now →
      Argument.resolve substitute token now = Argument.resolve other token now) :
    call.prepare substitute shell = call.prepare other shell := by
  have hextract : Redirection.extract substitute call.tokens shell =
      Redirection.extract other call.tokens shell := by
    unfold Redirection.extract
    refine Eval.bind_congr_at rfl fun division mid hdivided => ?_
    obtain ⟨hdivision, rfl⟩ := Eval.ends_ofSyntax_ok.mp hdivided
    refine Eval.bind_congr_at ?_ fun _ _ _ => rfl
    exact Redirection.foldlM_openNext_congr_at fun redirection now hvisited =>
      h _ _ (.target hdivision hvisited)
  unfold prepare
  split
  · rfl
  · refine Eval.bind_congr_at hextract fun (opened, tokens) mid hextracted => ?_
    refine Eval.bind_congr_at ?_ fun _ _ _ => rfl
    exact Argument.resolveAll_congr_at fun token now hvisited => h _ _ (.word hextracted hvisited)

variable {registry : Registry}

theorem Call.evaluate_congr_at {call : Call} {run : Run}
    (h : call.prepare substitute run.shell = call.prepare other run.shell) :
    call.evaluate ⟨registry, substitute⟩ run = call.evaluate ⟨registry, other⟩ run := by
  rw [evaluate_eq, evaluate_eq]
  exact Eval.bind_congr_at (Eval.onShell_congr_at h) fun _ _ _ => rfl

namespace Command

theorem evaluatePipe_congr_at {stages : List Call} {run : Run}
    (h : ∀ stage start, Visits (Relays ⟨registry, substitute⟩) stages run stage start →
      stage.prepare substitute start.shell = stage.prepare other start.shell) :
    evaluatePipe ⟨registry, substitute⟩ stages run = evaluatePipe ⟨registry, other⟩ stages run := by
  induction stages generalizing run with
  | nil => rfl
  | cons stage stages ih =>
    by_cases hlast : stages = []
    · subst hlast
      exact Call.evaluate_congr_at (h _ _ .here)
    · rw [evaluatePipe_cons hlast, evaluatePipe_cons hlast]
      have hstage := @Call.evaluate_congr_at _ _ registry stage (run.withOutput .unlimited)
        (h stage run .here)
      refine Eval.into_congr_at hstage fun mid hends => ih fun later start hvisited => ?_
      exact h _ _ (.later ⟨mid, hends, rfl⟩ hvisited)

theorem evaluateEach_congr_at {exit : Option ShellError} {commands : List Command} {run : Run}
    (h : ∀ member start, Visits (Contributes ⟨registry, substitute⟩) commands run member start →
      member.evaluate ⟨registry, substitute⟩ (start.withOutput .unlimited) =
        member.evaluate ⟨registry, other⟩ (start.withOutput .unlimited)) :
    evaluateEach ⟨registry, substitute⟩ exit commands run =
      evaluateEach ⟨registry, other⟩ exit commands run := by
  induction commands generalizing exit run with
  | nil => rfl
  | cons command commands ih =>
    rw [evaluateEach, evaluateEach]
    refine Eval.bind_congr_at (Eval.capture_congr_at (h _ _ .here)) fun ended mid hends => ?_
    refine Eval.bind_congr_at rfl fun _ next hwritten => ?_
    obtain ⟨collected, hcollected, happart⟩ := Eval.ends_capture.mp hends
    obtain rfl := Except.ok.inj hcollected
    rcases Eval.ends_write.mp hwritten with ⟨hfits, -, rfl⟩ | ⟨-, hfails, -⟩
    · rw [happart.output_eq] at hfits
      exact ih fun member start hvisited =>
        h member start (.later ⟨ended, mid, happart, hfits, rfl⟩ hvisited)
    · cases hfails

theorem evaluate_congr_of_prepares {command : Command} {run : Run}
    (h : ∀ call shell, Prepares ⟨registry, substitute⟩ command run call shell →
      call.prepare substitute shell = call.prepare other shell) :
    command.evaluate ⟨registry, substitute⟩ run = command.evaluate ⟨registry, other⟩ run := by
  induction command using induct_members generalizing run with
  | call single => exact Call.evaluate_congr_at (h _ _ .call)
  | pipe stages => exact evaluatePipe_congr_at fun stage start hvisited => h _ _ (.pipe hvisited)
  | sequence commands ih =>
    rw [evaluate, evaluate]
    refine Eval.bind_congr_at ?_ fun _ _ _ => rfl
    exact evaluateEach_congr_at fun member start hvisited =>
      ih member hvisited.mem fun call shell hprepared => h call shell (.sequence hvisited hprepared)

theorem evaluate_congr_of_scans {command : Command} {run : Run}
    (h : ∀ token now, command.Scans ⟨registry, substitute⟩ run token now →
      Argument.resolve substitute token now = Argument.resolve other token now) :
    command.evaluate ⟨registry, substitute⟩ run = command.evaluate ⟨registry, other⟩ run :=
  evaluate_congr_of_prepares fun _ _ hprepares => Call.prepare_congr_at fun token now hscans =>
    h token now (.intro hprepares hscans)

theorem evaluate_congr_of_hands {command : Command} {run : Run}
    (h : ∀ line now, command.Hands ⟨registry, substitute⟩ run line now →
      substitute line now = other line now) :
    command.evaluate ⟨registry, substitute⟩ run = command.evaluate ⟨registry, other⟩ run :=
  evaluate_congr_of_scans fun _ _ hscans => Argument.resolve_congr_at fun line now hhands =>
    h line now (.intro hscans hhands)

end Command

end Congr

end LineShell
