import LineShell.Proofs.Streams

/-!
# Redirections among words

A call may have its redirections anywhere among its words. Taking them out gives the same
redirections and the same words in the same orders wherever they stand, and so the call does the
same: it opens its redirections from left to right, each target resolved in what the ones before it
have left, and resolves its words in what all of them have left.
-/

namespace LineShell

namespace Redirection

open FileTree (Opening)

/-- The operator that a redirection is written with. -/
def Direction.operator : Direction → String
  | .input => "<"
  | .output .truncate => ">"
  | .output .append => ">>"

@[simp] theorem operator?_operator (direction : Direction) :
    operator? direction.operator = some direction := by
  rcases direction with _ | _ | _ <;> rfl

/-- The tokens are the words and the redirections put together: each operator stands right before
its target, and words and redirections keep their orders. -/
inductive Interleaves : List String → List (Direction × String) → List String → Prop
  | nil : Interleaves [] [] []
  | word {token : String} {words tokens : List String} {targets : List (Direction × String)}
      (ordinary : operator? token = none) (others : Interleaves words targets tokens) :
      Interleaves (token :: words) targets (token :: tokens)
  | redirection {direction : Direction} {target : String} {words tokens : List String}
      {targets : List (Direction × String)} (ordinary : operator? target = none)
      (others : Interleaves words targets tokens) :
      Interleaves words ((direction, target) :: targets) (direction.operator :: target :: tokens)

theorem Interleaves.divide_eq {words tokens : List String} {targets : List (Direction × String)}
    (h : Interleaves words targets tokens) : divide tokens = .ok ⟨targets, words⟩ := by
  induction h with
  | nil => rfl
  | word ordinary others ih =>
    rw [divide, ordinary, ih]
    rfl
  | redirection ordinary others ih =>
    rw [divide, operator?_operator]
    simp only [ordinary, ih]
    rfl

theorem Interleaves.eq_nil_iff {words tokens : List String} {targets : List (Direction × String)}
    (h : Interleaves words targets tokens) : tokens = [] ↔ words = [] ∧ targets = [] := by
  cases h <;> simp

/-- What writes to a file opened so: from its beginning on, or always at its end. -/
def sinkAt : Opening → Location → Sink
  | .truncate, location => .file location (some 0)
  | .append, location => .file location none

/-- The redirection is opened beside the files that are open already: its target comes to one name,
and the name is looked up from the directory that is the current one just then. -/
inductive OpensBeside (substitute : Substituter) (opened : Files) (shell : Shell) :
    Direction × String → Files → Shell → Prop
  | input {target name : String} {location : Location} {mid : Shell}
      (named : (Argument.resolve substitute target).Ends shell (.ok [name]) mid)
      (found : mid.world.files.fileAt (mid.world.environment.resolve name) = .ok location) :
      OpensBeside substitute opened shell (.input, target) { opened with input := some location }
        mid
  | output {opening : Opening} {target name : String} {location : Location} {files : FileTree}
      {mid : Shell} (named : (Argument.resolve substitute target).Ends shell (.ok [name]) mid)
      (created : mid.world.files.openOutput opening (mid.world.environment.resolve name) =
        .ok (location, files)) :
      OpensBeside substitute opened shell (.output opening, target)
        { opened with output := some (sinkAt opening location) }
        { mid with world.files := files }

/-- The redirections are opened one after the other, each in what the ones before it have left. -/
inductive OpensEach (substitute : Substituter) :
    List (Direction × String) → Files → Shell → Files → Shell → Prop
  | nil {opened : Files} {shell : Shell} : OpensEach substitute [] opened shell opened shell
  | cons {redirection : Direction × String} {targets : List (Direction × String)}
      {opened next last : Files} {shell mid after : Shell}
      (first : OpensBeside substitute opened shell redirection next mid)
      (others : OpensEach substitute targets next mid last after) :
      OpensEach substitute (redirection :: targets) opened shell last after

section Opening

variable {substitute : Substituter} {shell after : Shell} {name : String} {opened next last : Files}

theorem ends_resolveTarget_ok {target : String} :
    (resolveTarget substitute target).Ends shell (.ok name) after ↔
      (Argument.resolve substitute target).Ends shell (.ok [name]) after := by
  unfold resolveTarget
  rw [Eval.ends_bind_ok]
  constructor
  · rintro ⟨names, mid, hnames, hname⟩
    split at hname
    · obtain ⟨hsame, rfl⟩ := Eval.ends_pure.mp hname
      obtain rfl := Except.ok.inj hsame
      exact hnames
    · obtain ⟨hfails, -⟩ := Eval.ends_fail.mp hname
      cases hfails
  · intro hname
    exact ⟨[name], after, hname, Eval.ends_pure.mpr ⟨rfl, rfl⟩⟩

theorem ends_ofFile {α : Type} {x : Except IoFault α} {outcome : Except ShellError α} :
    (ofFile name x).Ends shell outcome after ↔
      outcome = x.mapError (fun fault => .redirect name fault.describe) ∧ after = shell := by
  cases x with
  | ok a => exact Eval.ends_pure
  | error fault => exact Eval.ends_fail

theorem ends_ofFile_ok {α : Type} {x : Except IoFault α} {a : α} :
    (ofFile name x).Ends shell (.ok a) after ↔ x = .ok a ∧ after = shell := by
  rw [ends_ofFile]
  cases x <;> simp [Except.mapError, eq_comm]

theorem ends_ofFile_error {α : Type} {x : Except IoFault α} {e : ShellError} :
    (ofFile name x).Ends shell (.error e) after ↔
      ∃ fault, x = .error fault ∧ e = .redirect name fault.describe ∧ after = shell := by
  rw [ends_ofFile]
  cases x <;> simp [Except.mapError]

theorem ends_openInput_ok {location : Location} :
    (openInput name).Ends shell (.ok location) after ↔
      shell.world.files.fileAt (shell.world.environment.resolve name) = .ok location ∧
        after = shell := by
  unfold openInput
  rw [Eval.ends_bind_ok]
  constructor
  · rintro ⟨same, mid, hget, hfile⟩
    obtain ⟨hsame, rfl⟩ := Eval.ends_get.mp hget
    obtain rfl := Except.ok.inj hsame
    exact ends_ofFile_ok.mp hfile
  · intro hfound
    exact ⟨shell, shell, Eval.ends_get.mpr ⟨rfl, rfl⟩, ends_ofFile_ok.mpr hfound⟩

theorem openOutput_eq (opening : Opening) (name : String) :
    openOutput opening name = do
      let shell ← Eval.get
      let path := shell.world.environment.resolve name
      let (location, files) ← ofFile name (shell.world.files.openOutput opening path)
      Eval.modify fun shell => { shell with world.files := files }
      return sinkAt opening location := by
  cases opening <;> rfl

theorem ends_openOutput_ok {opening : Opening} {sink : Sink} :
    (openOutput opening name).Ends shell (.ok sink) after ↔
      ∃ location files, shell.world.files.openOutput opening
          (shell.world.environment.resolve name) = .ok (location, files) ∧
        sink = sinkAt opening location ∧ after = { shell with world.files := files } := by
  rw [openOutput_eq, Eval.ends_bind_ok]
  constructor
  · rintro ⟨same, mid, hget, hopens⟩
    obtain ⟨hsame, rfl⟩ := Eval.ends_get.mp hget
    obtain rfl := Except.ok.inj hsame
    obtain ⟨⟨location, files⟩, now, hfile, hstores⟩ := Eval.ends_bind_ok.mp hopens
    obtain ⟨hcreated, rfl⟩ := ends_ofFile_ok.mp hfile
    obtain ⟨done, last, hmodify, hsink⟩ := Eval.ends_bind_ok.mp hstores
    obtain ⟨-, rfl⟩ := Eval.ends_modify.mp hmodify
    obtain ⟨hsame, rfl⟩ := Eval.ends_pure.mp hsink
    exact ⟨location, files, hcreated, Except.ok.inj hsame, rfl⟩
  · rintro ⟨location, files, hcreated, rfl, rfl⟩
    refine ⟨shell, shell, Eval.ends_get.mpr ⟨rfl, rfl⟩, ?_⟩
    refine Eval.ends_bind_ok.mpr ⟨_, _, ends_ofFile_ok.mpr ⟨hcreated, rfl⟩, ?_⟩
    refine Eval.ends_bind_ok.mpr ⟨_, _, Eval.ends_modify.mpr ⟨rfl, rfl⟩, ?_⟩
    exact Eval.ends_pure.mpr ⟨rfl, rfl⟩

/-- Nothing has been opened where this fails. -/
theorem ends_openOutput_error {opening : Opening} {e : ShellError} :
    (openOutput opening name).Ends shell (.error e) after ↔
      ∃ fault, shell.world.files.openOutput opening (shell.world.environment.resolve name) =
          .error fault ∧
        e = .redirect name fault.describe ∧ after = shell := by
  rw [openOutput_eq]
  constructor
  · intro h
    rcases Eval.ends_bind.mp h with ⟨same, mid, hget, hopens⟩ | ⟨error, hget, -⟩
    · obtain ⟨hsame, rfl⟩ := Eval.ends_get.mp hget
      obtain rfl := Except.ok.inj hsame
      rcases Eval.ends_bind.mp hopens with ⟨⟨location, files⟩, now, hfile, hstores⟩ |
        ⟨error, hfile, hsame⟩
      · rcases Eval.ends_bind.mp hstores with ⟨done, last, hmodify, hsink⟩ | ⟨error, hmodify, -⟩
        · cases (Eval.ends_pure.mp hsink).1
        · cases (Eval.ends_modify.mp hmodify).1
      · obtain rfl := Except.error.inj hsame
        exact ends_ofFile_error.mp hfile
    · cases (Eval.ends_get.mp hget).1
  · intro hrefused
    refine Eval.ends_bind.mpr (.inl ⟨shell, shell, Eval.ends_get.mpr ⟨rfl, rfl⟩, ?_⟩)
    exact Eval.ends_bind.mpr (.inr ⟨e, ends_ofFile_error.mpr hrefused, rfl⟩)

theorem ends_openNext_ok {redirection : Direction × String} :
    (openNext substitute opened redirection).Ends shell (.ok next) after ↔
      OpensBeside substitute opened shell redirection next after := by
  obtain ⟨direction, target⟩ := redirection
  unfold openNext
  rw [Eval.ends_bind_ok]
  simp only [ends_resolveTarget_ok]
  constructor
  · rintro ⟨name, mid, hname, hopens⟩
    cases direction with
    | input =>
      obtain ⟨location, same, hfound, hnext⟩ := Eval.ends_bind_ok.mp hopens
      obtain ⟨hfound, rfl⟩ := ends_openInput_ok.mp hfound
      obtain ⟨hsame, rfl⟩ := Eval.ends_pure.mp hnext
      obtain rfl := Except.ok.inj hsame
      exact .input hname hfound
    | output opening =>
      obtain ⟨sink, later, hsink, hnext⟩ := Eval.ends_bind_ok.mp hopens
      obtain ⟨location, files, hcreated, rfl, rfl⟩ := ends_openOutput_ok.mp hsink
      obtain ⟨hsame, rfl⟩ := Eval.ends_pure.mp hnext
      obtain rfl := Except.ok.inj hsame
      exact .output hname hcreated
  · rintro (⟨hname, hfound⟩ | ⟨hname, hcreated⟩)
    · refine ⟨_, _, hname, Eval.ends_bind_ok.mpr ⟨_, _, ends_openInput_ok.mpr ⟨hfound, rfl⟩, ?_⟩⟩
      exact Eval.ends_pure.mpr ⟨rfl, rfl⟩
    · refine ⟨_, _, hname, Eval.ends_bind_ok.mpr ⟨_, _, ends_openOutput_ok.mpr
        ⟨_, _, hcreated, rfl, rfl⟩, ?_⟩⟩
      exact Eval.ends_pure.mpr ⟨rfl, rfl⟩

theorem ends_foldlM_openNext_ok {targets : List (Direction × String)} :
    (targets.foldlM (openNext substitute) opened).Ends shell (.ok last) after ↔
      OpensEach substitute targets opened shell last after := by
  induction targets generalizing opened shell with
  | nil =>
    rw [List.foldlM_nil, Eval.ends_pure]
    constructor
    · rintro ⟨hlast, rfl⟩
      obtain rfl := Except.ok.inj hlast
      exact .nil
    · intro h
      cases h
      exact ⟨rfl, rfl⟩
  | cons redirection targets ih =>
    rw [List.foldlM_cons, Eval.ends_bind_ok]
    simp only [ends_openNext_ok, ih]
    constructor
    · rintro ⟨next, mid, hfirst, hothers⟩
      exact .cons hfirst hothers
    · intro h
      cases h with
      | cons first others => exact ⟨_, _, first, others⟩

end Opening

theorem Interleaves.extract_eq {words tokens : List String} {targets : List (Direction × String)}
    (h : Interleaves words targets tokens) (substitute : Substituter) :
    extract substitute tokens =
      targets.foldlM (openNext substitute) .unopened >>= fun opened => pure (opened, words) := by
  rw [extract, h.divide_eq]
  rfl

end Redirection

namespace Call

open Redirection

variable {words tokens : List String} {targets : List (Direction × String)}

theorem prepare_of_interleaves (h : Interleaves words targets tokens) (hne : tokens ≠ [])
    (substitute : Substituter) :
    prepare substitute ⟨tokens⟩ =
      targets.foldlM (openNext substitute) .unopened >>= fun opened =>
        Argument.resolveAll substitute words >>= fun args => pure (opened, args) := by
  rw [prepare, if_neg (by simpa using hne), h.extract_eq substitute, bind_assoc]
  simp only [pure_bind]

theorem prepare_ok_of_interleaves (h : Interleaves words targets tokens) {substitute : Substituter}
    {shell after : Shell} {opened : Files} {args : List String}
    (hends : (prepare substitute ⟨tokens⟩).Ends shell (.ok (opened, args)) after) :
    ∃ mid, OpensEach substitute targets .unopened shell opened mid ∧
      (Argument.resolveAll substitute words).Ends mid (.ok args) after := by
  have hne : tokens ≠ [] := by
    rintro rfl
    cases hends
  rw [prepare_of_interleaves h hne] at hends
  obtain ⟨files, mid, hopens, hends⟩ := Eval.ends_bind_ok.mp hends
  obtain ⟨values, last, hwords, hends⟩ := Eval.ends_bind_ok.mp hends
  obtain ⟨hsame, rfl⟩ := Eval.ends_pure.mp hends
  obtain ⟨rfl, rfl⟩ := Prod.mk.inj (Except.ok.inj hsame)
  exact ⟨mid, ends_foldlM_openNext_ok.mp hopens, hwords⟩

theorem evaluate_of_interleaves (h : Interleaves words targets tokens) (hne : tokens ≠ [])
    (context : Context) :
    evaluate context ⟨tokens⟩ =
      Eval.onShell (targets.foldlM (openNext context.substitute) .unopened) >>= fun opened =>
        Eval.onShell (Argument.resolveAll context.substitute words) >>= fun args =>
          dispatch context.registry opened args := by
  rw [evaluate_eq, prepare_of_interleaves h hne]
  simp only [Eval.onShell_bind, Eval.onShell_pure, bind_assoc, pure_bind]

/-- Wherever the redirections stand among the words, the evaluation of the call is the same. All of
them are opened first, from left to right, and the words are resolved in what they have left; so
what a call opens depends on its redirections alone, whatever its words do, and each target and
each word meets what the redirections before it have done. -/
theorem evaluate_interleaved (context : Context) (h : Interleaves words targets tokens) :
    (∀ other, Interleaves words targets other →
      evaluate context ⟨other⟩ = evaluate context ⟨tokens⟩) ∧
    (tokens ≠ [] → evaluate context ⟨tokens⟩ =
      Eval.onShell (targets.foldlM (openNext context.substitute) .unopened) >>= fun opened =>
        Eval.onShell (Argument.resolveAll context.substitute words) >>= fun args =>
          dispatch context.registry opened args) ∧
    (∀ shell opened after,
      (targets.foldlM (openNext context.substitute) .unopened).Ends shell (.ok opened) after ↔
        OpensEach context.substitute targets .unopened shell opened after) ∧
    ∀ otherWords otherTokens, Interleaves otherWords targets otherTokens →
      ∀ shell opened args after otherOpened otherArgs otherAfter,
        (prepare context.substitute ⟨tokens⟩).Ends shell (.ok (opened, args)) after →
        (prepare context.substitute ⟨otherTokens⟩).Ends shell (.ok (otherOpened, otherArgs))
          otherAfter →
        opened = otherOpened := by
  refine ⟨fun other hother => ?_, fun hne => evaluate_of_interleaves h hne context,
    fun shell opened after => ends_foldlM_openNext_ok, ?_⟩
  · have hempty : other = [] ↔ tokens = [] := by rw [hother.eq_nil_iff, h.eq_nil_iff]
    by_cases hne : tokens = []
    · rw [hempty.mpr hne, hne]
    · rw [evaluate_of_interleaves hother (mt hempty.mp hne), evaluate_of_interleaves h hne]
  · intro otherWords otherTokens hother shell opened args after otherOpened otherArgs otherAfter
      hends hotherEnds
    obtain ⟨mid, hopens, -⟩ := prepare_ok_of_interleaves h hends
    obtain ⟨otherMid, hotherOpens, -⟩ := prepare_ok_of_interleaves hother hotherEnds
    obtain ⟨hsame, -⟩ := (ends_foldlM_openNext_ok.mpr hopens).unique
      (ends_foldlM_openNext_ok.mpr hotherOpens)
    exact Except.ok.inj hsame

/-- The substitution before the first redirection changes the directory too late for it; the one in
the last target decides where this target, the word of the substitution and the star are looked up,
and the star finds the file that has just been created. -/
theorem evaluate_interleaved_directories :
    let files := (FileTree.empty.insert ["d"] .directory).insert ["d", "e"] .directory
    let run : Run := ⟨⟨⟨.withDirectory "/", files⟩, ⟨.empty, .unlimited⟩⟩, []⟩
    let after : Run :=
      ⟨⟨⟨.withDirectory "/d/e", ((files.insert ["f"] (.file [])).insert ["d", "e", "g"]
          (.file [])).insert ["d", "e", "g"] (.file [0x67, 0x0A])⟩, ⟨.empty, .unlimited⟩⟩,
        [.ran "echo" none, .ran "cd" none, .substituted "cd e", .ran "echo" none, .ran "cd" none,
          .substituted "cd d; echo e/g"]⟩
    let words := ["echo", "`cd e`", "*"]
    let targets : List (Direction × String) :=
      [(.output .truncate, "f"), (.output .append, "`cd d; echo e/g`")]
    let tokens := [">", "f", ">>", "`cd d; echo e/g`", "echo", "`cd e`", "*"]
    let other := ["echo", "`cd e`", ">", "f", "*", ">>", "`cd d; echo e/g`"]
    Interleaves words targets tokens ∧ Interleaves words targets other ∧
      (evaluate ⟨builtins, substituter builtins 1⟩ ⟨tokens⟩).Ends run (.ok ()) after ∧
      (evaluate ⟨builtins, substituter builtins 1⟩ ⟨other⟩).Ends run (.ok ()) after := by
  intro files run after words targets tokens other
  have htokens : Interleaves words targets tokens :=
    .redirection rfl (.redirection rfl (.word rfl (.word rfl (.word rfl .nil))))
  have hother : Interleaves words targets other :=
    .word rfl (.word rfl (.redirection rfl (.word rfl (.redirection rfl .nil))))
  have hends : (evaluate ⟨builtins, substituter builtins 1⟩ ⟨tokens⟩).Ends run (.ok ()) after := by
    decide +kernel
  have hsame := (evaluate_interleaved ⟨builtins, substituter builtins 1⟩ htokens).1 other hother
  exact ⟨htokens, hother, hends, hsame ▸ hends⟩

end Call

end LineShell
