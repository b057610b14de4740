import LineShell.Proofs.Interleaving
import LineShell.Proofs.Walks

/-!
# Taking redirections out

The tokens of a call can be parted into redirections and words, unless an operator lacks a target,
and there is one way to do so. Nothing is opened before this is settled. Then the redirections are
opened from left to right, up to the first one that cannot be, and what has been opened up to there
stays. So how the extraction ends, and in which state, is told by the redirections alone.
-/

namespace LineShell

namespace Redirection

/-! ### Operators and their targets -/

/-- Some operator stands last, or right before another one. -/
def Dangles (tokens : List String) : Prop :=
  ∃ before operator rest, tokens = before ++ operator :: rest ∧ (operator? operator).isSome = true ∧
    ∀ next ∈ rest.head?, (operator? next).isSome = true

theorem not_dangles_nil : ¬ Dangles [] := by
  rintro ⟨before, operator, rest, h, -⟩
  simp at h

theorem dangles_cons {token : String} {rest : List String} :
    Dangles (token :: rest) ↔
      ((operator? token).isSome = true ∧ ∀ next ∈ rest.head?, (operator? next).isSome = true) ∨
        Dangles rest := by
  constructor
  · rintro ⟨_ | ⟨first, before⟩, operator, others, h, hoperator, hnext⟩
    · obtain ⟨rfl, rfl⟩ := List.cons.inj h
      exact .inl ⟨hoperator, hnext⟩
    · obtain ⟨-, rfl⟩ := List.cons.inj h
      exact .inr ⟨before, operator, others, rfl, hoperator, hnext⟩
  · rintro (⟨hoperator, hnext⟩ | ⟨before, operator, others, rfl, hoperator, hnext⟩)
    · exact ⟨[], token, rest, rfl, hoperator, hnext⟩
    · exact ⟨token :: before, operator, others, rfl, hoperator, hnext⟩

theorem divide_eq_error_iff {tokens : List String} {fault : SyntaxFault} :
    divide tokens = .error fault ↔ fault = .invalid ∧ Dangles tokens := by
  fun_induction divide tokens with
  | case1 => simp [not_dangles_nil]
  | case2 token rest hordinary ih =>
    simp [bind_eq_error, ih, dangles_cons, hordinary, pure, Except.pure]
  | case3 token direction hoperator =>
    rw [dangles_cons, Except.error.injEq, eq_comm]
    simp [hoperator]
  | case4 token direction hoperator target rest htarget =>
    rw [dangles_cons, Except.error.injEq, eq_comm]
    simp [hoperator, htarget]
  | case5 token direction hoperator target rest htarget ih =>
    simp [bind_eq_error, ih, dangles_cons, htarget, pure, Except.pure]

theorem operator_of_operator? {token : String} {direction : Direction}
    (h : operator? token = some direction) : direction.operator = token := by
  unfold operator? at h
  split at h <;> cases h <;> rfl

/-- The tokens are divided into the redirections and words that they are put together from. -/
theorem divide_eq_ok_iff {words tokens : List String} {targets : List (Direction × String)} :
    divide tokens = .ok ⟨targets, words⟩ ↔ Interleaves words targets tokens := by
  refine ⟨fun h => ?_, Interleaves.divide_eq⟩
  fun_induction divide tokens generalizing words targets with
  | case1 =>
    cases h
    exact .nil
  | case2 token rest hordinary ih =>
    obtain ⟨division, hrest, hdivision⟩ := bind_eq_ok.mp h
    cases hdivision
    exact .word hordinary (ih hrest)
  | case3 | case4 => cases h
  | case5 token direction hoperator target rest htarget ih =>
    obtain ⟨division, hrest, hdivision⟩ := bind_eq_ok.mp h
    cases hdivision
    rw [← operator_of_operator? hoperator]
    exact .redirection (by simpa using htarget) (ih hrest)

/-- Tokens are parted in one way at most. -/
theorem Interleaves.unique {words others tokens : List String}
    {targets otherTargets : List (Direction × String)} (h : Interleaves words targets tokens)
    (hother : Interleaves others otherTargets tokens) :
    words = others ∧ targets = otherTargets := by
  have hsame := Except.ok.inj (h.divide_eq.symm.trans hother.divide_eq)
  obtain ⟨rfl, rfl⟩ := Division.mk.inj hsame
  exact ⟨rfl, rfl⟩

theorem dangles_iff {tokens : List String} :
    Dangles tokens ↔ ¬ ∃ words targets, Interleaves words targets tokens := by
  simp only [← divide_eq_ok_iff]
  cases h : divide tokens with
  | ok division =>
    obtain ⟨targets, words⟩ := division
    have hnot : ¬ Dangles tokens := fun hdangles => by
      have := divide_eq_error_iff.mpr ⟨rfl, hdangles⟩
      simp [h] at this
    simp [hnot]
  | error fault => simp [(divide_eq_error_iff.mp h).2]

end Redirection

theorem Eval.ends_bind_pure_error {σ α β : Type} {m : Eval σ α} {g : α → β} {s t : σ}
    {e : ShellError} :
    (m >>= fun a => pure (g a)).Ends s (.error e) t ↔ m.Ends s (.error e) t := by
  rw [ends_bind_pure]
  constructor
  · rintro ⟨error | a, hends, hsame⟩
    · rwa [Except.error.inj hsame]
    · cases hsame
  · exact fun hends => ⟨.error e, hends, rfl⟩

namespace Redirection

open FileTree (Opening)

/-! ### Redirections that cannot be opened -/

/-- The redirection cannot be opened: its target is not resolved, or does not come to one name, or
nothing can be opened under the name. What the resolution has done stays. -/
inductive Refuses (substitute : Substituter) (shell : Shell) :
    Direction × String → ShellError → Shell → Prop
  | unresolved {direction : Direction} {target : String} {e : ShellError} {after : Shell}
      (fails : (Argument.resolve substitute target).Ends shell (.error e) after) :
      Refuses substitute shell (direction, target) e after
  | ambiguous {direction : Direction} {target : String} {names : List String} {after : Shell}
      (named : (Argument.resolve substitute target).Ends shell (.ok names) after)
      (several : names.length ≠ 1) :
      Refuses substitute shell (direction, target) (.malformed .ambiguousRedirect) after
  | input {target name : String} {fault : IoFault} {after : Shell}
      (named : (Argument.resolve substitute target).Ends shell (.ok [name]) after)
      (missing : after.world.files.fileAt (after.world.environment.resolve name) = .error fault) :
      Refuses substitute shell (.input, target) (.redirect name fault.describe) after
  | output {opening : Opening} {target name : String} {fault : IoFault} {after : Shell}
      (named : (Argument.resolve substitute target).Ends shell (.ok [name]) after)
      (refused : after.world.files.openOutput opening (after.world.environment.resolve name) =
        .error fault) :
      Refuses substitute shell (.output opening, target) (.redirect name fault.describe) after

section Opening

variable {substitute : Substituter} {shell after : Shell} {name target : String}
  {opened next last : Files} {e : ShellError}

theorem ends_resolveTarget_error :
    (resolveTarget substitute target).Ends shell (.error e) after ↔
      (Argument.resolve substitute target).Ends shell (.error e) after ∨
        ∃ names, (Argument.resolve substitute target).Ends shell (.ok names) after ∧
          names.length ≠ 1 ∧ e = .malformed .ambiguousRedirect := by
  unfold resolveTarget
  rw [Eval.ends_bind]
  constructor
  · rintro (⟨names, mid, hnames, hname⟩ | ⟨error, hfails, hsame⟩)
    · split at hname
      · cases (Eval.ends_pure.mp hname).1
      · next hnone =>
        obtain ⟨hsame, rfl⟩ := Eval.ends_fail.mp hname
        refine .inr ⟨names, hnames, fun hone => ?_, Except.error.inj hsame⟩
        obtain ⟨name, rfl⟩ := List.length_eq_one_iff.mp hone
        exact hnone name rfl
    · rw [Except.error.inj hsame]
      exact .inl hfails
  · rintro (hfails | ⟨names, hnames, hseveral, rfl⟩)
    · exact .inr ⟨e, hfails, rfl⟩
    · refine .inl ⟨names, after, hnames, ?_⟩
      split
      · exact absurd rfl hseveral
      · exact Eval.ends_fail.mpr ⟨rfl, rfl⟩

theorem ends_openInput_error :
    (openInput name).Ends shell (.error e) after ↔
      ∃ fault, shell.world.files.fileAt (shell.world.environment.resolve name) = .error fault ∧
        e = .redirect name fault.describe ∧ after = shell := by
  unfold openInput
  simp [Eval.ends_bind, Eval.ends_get, ends_ofFile_error]

theorem ends_openNext_error {redirection : Direction × String} :
    (openNext substitute opened redirection).Ends shell (.error e) after ↔
      Refuses substitute shell redirection e after := by
  obtain ⟨direction, target⟩ := redirection
  unfold openNext
  rw [Eval.ends_bind]
  simp only [ends_resolveTarget_ok, ends_resolveTarget_error]
  constructor
  · rintro (⟨name, mid, hname, hopens⟩ | ⟨error, hfails | ⟨names, hnames, hseveral, rfl⟩, hsame⟩)
    · cases direction with
      | input =>
        obtain ⟨fault, hmissing, rfl, rfl⟩ :=
          ends_openInput_error.mp (Eval.ends_bind_pure_error.mp hopens)
        exact .input hname hmissing
      | output opening =>
        obtain ⟨fault, hrefused, rfl, rfl⟩ :=
          ends_openOutput_error.mp (Eval.ends_bind_pure_error.mp hopens)
        exact .output hname hrefused
    · rw [Except.error.inj hsame]
      exact .unresolved hfails
    · rw [Except.error.inj hsame]
      exact .ambiguous hnames hseveral
  · rintro (hfails | ⟨hnames, hseveral⟩ | ⟨hname, hmissing⟩ | ⟨hname, hrefused⟩)
    · exact .inr ⟨e, .inl hfails, rfl⟩
    · exact .inr ⟨_, .inr ⟨_, hnames, hseveral, rfl⟩, rfl⟩
    · refine .inl ⟨_, after, hname, Eval.ends_bind_pure_error.mpr ?_⟩
      exact ends_openInput_error.mpr ⟨_, hmissing, rfl, rfl⟩
    · refine .inl ⟨_, after, hname, Eval.ends_bind_pure_error.mpr ?_⟩
      exact ends_openOutput_error.mpr ⟨_, hrefused, rfl, rfl⟩

/-- Where its target is resolved or fails to be, a redirection is opened or refused. -/
theorem opensBeside_or_refuses {redirection : Direction × String} (opened : Files)
    {named : Except ShellError (List String)} {mid : Shell}
    (hnamed : (Argument.resolve substitute redirection.2).Ends shell named mid) :
    (∃ next after, OpensBeside substitute opened shell redirection next after) ∨
      ∃ e after, Refuses substitute shell redirection e after := by
  obtain ⟨direction, target⟩ := redirection
  cases named with
  | error e => exact .inr ⟨e, mid, .unresolved hnamed⟩
  | ok names =>
    by_cases hone : names.length = 1
    · obtain ⟨name, rfl⟩ := List.length_eq_one_iff.mp hone
      cases direction with
      | input =>
        cases hfound : mid.world.files.fileAt (mid.world.environment.resolve name) with
        | ok location => exact .inl ⟨_, _, .input hnamed hfound⟩
        | error fault => exact .inr ⟨_, _, .input hnamed hfound⟩
      | output opening =>
        cases hcreated : mid.world.files.openOutput opening
            (mid.world.environment.resolve name) with
        | ok created => exact .inl ⟨_, _, .output hnamed hcreated⟩
        | error fault => exact .inr ⟨_, _, .output hnamed hcreated⟩
    · exact .inr ⟨_, _, .ambiguous hnamed hone⟩

theorem openNext_eq_none_iff {redirection : Direction × String} :
    openNext substitute opened redirection shell = none ↔
      Argument.resolve substitute redirection.2 shell = none := by
  constructor
  · intro hnone
    rcases (Argument.resolve substitute redirection.2).eq_none_or_ends shell with
      h | ⟨named, mid, hnamed⟩
    · exact h
    · rcases opensBeside_or_refuses opened hnamed with ⟨next, last, hopens⟩ | ⟨e, last, hrefuses⟩
      · exact absurd hnone (ends_openNext_ok.mpr hopens).ne_none
      · exact absurd hnone (ends_openNext_error.mpr hrefuses).ne_none
  · intro hnone
    unfold openNext resolveTarget
    simp only [Eval.bind_apply, hnone]

/-! ### One redirection after the other -/

theorem opensEach_append {before rest : List (Direction × String)} :
    OpensEach substitute (before ++ rest) opened shell last after ↔
      ∃ next mid, OpensEach substitute before opened shell next mid ∧
        OpensEach substitute rest next mid last after := by
  induction before generalizing opened shell with
  | nil =>
    constructor
    · exact fun hrest => ⟨opened, shell, .nil, hrest⟩
    · rintro ⟨next, mid, hbefore, hrest⟩
      cases hbefore
      exact hrest
  | cons redirection before ih =>
    constructor
    · intro h
      cases h with
      | cons first others =>
        obtain ⟨next, mid, hbefore, hrest⟩ := ih.mp others
        exact ⟨next, mid, .cons first hbefore, hrest⟩
    · rintro ⟨next, mid, hbefore, hrest⟩
      cases hbefore with
      | cons first others => exact .cons first (ih.mpr ⟨next, mid, others, hrest⟩)

/-- The redirections are opened up to this one, which is the next to be opened in that shell. -/
def ComesTo (substitute : Substituter) (targets : List (Direction × String)) (opened : Files)
    (shell : Shell) (redirection : Direction × String) (now : Shell) : Prop :=
  ∃ before rest next, targets = before ++ redirection :: rest ∧
    OpensEach substitute before opened shell next now

theorem comesTo_cons {first redirection : Direction × String}
    {targets : List (Direction × String)} {now : Shell} :
    ComesTo substitute (first :: targets) opened shell redirection now ↔
      (redirection = first ∧ now = shell) ∨
        ∃ next mid, OpensBeside substitute opened shell first next mid ∧
          ComesTo substitute targets next mid redirection now := by
  constructor
  · rintro ⟨_ | ⟨head, before⟩, rest, next, htargets, hopens⟩
    · obtain ⟨rfl, rfl⟩ := List.cons.inj htargets
      cases hopens
      exact .inl ⟨rfl, rfl⟩
    · obtain ⟨rfl, rfl⟩ := List.cons.inj htargets
      cases hopens with
      | cons hfirst hothers => exact .inr ⟨_, _, hfirst, before, rest, next, rfl, hothers⟩
  · rintro (⟨rfl, rfl⟩ | ⟨next, mid, hfirst, before, rest, last, rfl, hothers⟩)
    · exact ⟨[], targets, opened, rfl, .nil⟩
    · exact ⟨first :: before, rest, last, rfl, .cons hfirst hothers⟩

/-- The first redirection that cannot be opened is how opening them all ends. -/
theorem ends_foldlM_openNext_error {targets : List (Direction × String)} :
    (targets.foldlM (openNext substitute) opened).Ends shell (.error e) after ↔
      ∃ redirection now, ComesTo substitute targets opened shell redirection now ∧
        Refuses substitute now redirection e after := by
  induction targets generalizing opened shell with
  | nil =>
    rw [List.foldlM_nil, Eval.ends_pure]
    simp [ComesTo]
  | cons first targets ih =>
    rw [List.foldlM_cons, Eval.ends_bind]
    simp only [ends_openNext_ok, ends_openNext_error, ih, comesTo_cons]
    constructor
    · rintro (⟨next, mid, hfirst, redirection, now, hcomes, hrefuses⟩ | ⟨error, hrefuses, hsame⟩)
      · exact ⟨redirection, now, .inr ⟨next, mid, hfirst, hcomes⟩, hrefuses⟩
      · rw [Except.error.inj hsame]
        exact ⟨first, shell, .inl ⟨rfl, rfl⟩, hrefuses⟩
    · rintro ⟨redirection, now, ⟨rfl, rfl⟩ | ⟨next, mid, hfirst, hcomes⟩, hrefuses⟩
      · exact .inr ⟨e, hrefuses, rfl⟩
      · exact .inl ⟨next, mid, hfirst, redirection, now, hcomes, hrefuses⟩

/-- Opening them all only lacks an answer where it comes to a target that has none. -/
theorem foldlM_openNext_eq_none_iff {targets : List (Direction × String)} :
    targets.foldlM (openNext substitute) opened shell = none ↔
      ∃ redirection now, ComesTo substitute targets opened shell redirection now ∧
        Argument.resolve substitute redirection.2 now = none := by
  induction targets generalizing opened shell with
  | nil => simp [ComesTo, Eval.pure_apply]
  | cons first targets ih =>
    rw [List.foldlM_cons, Eval.bind_eq_none_iff]
    simp only [ends_openNext_ok, openNext_eq_none_iff, ih, comesTo_cons]
    constructor
    · rintro (hnone | ⟨next, mid, hfirst, redirection, now, hcomes, hnone⟩)
      · exact ⟨first, shell, .inl ⟨rfl, rfl⟩, hnone⟩
      · exact ⟨redirection, now, .inr ⟨next, mid, hfirst, hcomes⟩, hnone⟩
    · rintro ⟨redirection, now, ⟨rfl, rfl⟩ | ⟨next, mid, hfirst, hcomes⟩, hnone⟩
      · exact .inl hnone
      · exact .inr ⟨next, mid, hfirst, redirection, now, hcomes, hnone⟩

/-! ### The last redirections -/

theorem OpensEach.input_eq {targets : List (Direction × String)}
    (h : OpensEach substitute targets opened shell last after)
    (hnone : ∀ redirection ∈ targets, redirection.1 ≠ .input) : last.input = opened.input := by
  induction h with
  | nil => rfl
  | cons first others ih =>
    obtain ⟨hfirst, hothers⟩ := List.forall_mem_cons.mp hnone
    rw [ih hothers]
    cases first with
    | input named found => exact absurd rfl hfirst
    | output named created => rfl

theorem OpensEach.output_eq {targets : List (Direction × String)}
    (h : OpensEach substitute targets opened shell last after)
    (hnone : ∀ redirection ∈ targets, ∀ opening, redirection.1 ≠ .output opening) :
    last.output = opened.output := by
  induction h with
  | nil => rfl
  | cons first others ih =>
    obtain ⟨hfirst, hothers⟩ := List.forall_mem_cons.mp hnone
    rw [ih hothers]
    cases first with
    | input named found => rfl
    | output named created => exact absurd rfl (hfirst _)

/-- A redirection on the way is opened in what the ones before it have left. -/
theorem opensEach_split {before rest : List (Direction × String)}
    {redirection : Direction × String} :
    OpensEach substitute (before ++ redirection :: rest) opened shell last after ↔
      ∃ first mid next later, OpensEach substitute before opened shell first mid ∧
        OpensBeside substitute first mid redirection next later ∧
          OpensEach substitute rest next later last after := by
  rw [opensEach_append]
  constructor
  · rintro ⟨first, mid, hbefore, hothers⟩
    cases hothers with
    | cons hopens hrest => exact ⟨first, mid, _, _, hbefore, hopens, hrest⟩
  · rintro ⟨first, mid, next, later, hbefore, hopens, hrest⟩
    exact ⟨first, mid, hbefore, .cons hopens hrest⟩

/-- The last redirection of the input gives the file that it has found. -/
theorem OpensEach.last_input {before rest : List (Direction × String)}
    (h : OpensEach substitute (before ++ (.input, target) :: rest) opened shell last after)
    (hlast : ∀ redirection ∈ rest, redirection.1 ≠ .input) :
    ∃ first mid name location now, OpensEach substitute before opened shell first mid ∧
      (Argument.resolve substitute target).Ends mid (.ok [name]) now ∧
      now.world.files.fileAt (now.world.environment.resolve name) = .ok location ∧
      last.input = some location := by
  obtain ⟨first, mid, next, later, hbefore, hopens, hrest⟩ := opensEach_split.mp h
  cases hopens with
  | input named found =>
    exact ⟨first, mid, _, _, _, hbefore, named, found, hrest.input_eq hlast⟩

/-- Every redirection of the output that is passed has emptied or created its file, or kept what the
file holds; the last one of them gives what the output goes to. -/
theorem OpensEach.output_opened {before rest : List (Direction × String)} {opening : Opening}
    (h : OpensEach substitute (before ++ (.output opening, target) :: rest) opened shell last
      after) :
    ∃ first mid name location now files next, OpensEach substitute before opened shell first mid ∧
      (Argument.resolve substitute target).Ends mid (.ok [name]) now ∧
      now.world.files.locate true (now.world.environment.resolve name) = .ok location ∧
      now.world.files.Puts location (opening.kept (now.world.files.contentAt location)) files ∧
      OpensEach substitute rest next { now with world.files := files } last after ∧
      ((∀ redirection ∈ rest, ∀ other, redirection.1 ≠ .output other) →
        last.output = some (sinkAt opening location)) := by
  obtain ⟨first, mid, next, later, hbefore, hopens, hrest⟩ := opensEach_split.mp h
  cases hopens with
  | output named created =>
    obtain ⟨hlocate, hputs⟩ := FileTree.openOutput_ok created
    exact ⟨first, mid, _, _, _, _, _, hbefore, named, hlocate, hputs, hrest,
      fun hlast => hrest.output_eq hlast⟩

end Opening

/-! ### Extraction -/

section Extraction

variable {substitute : Substituter} {tokens words : List String}
  {targets : List (Direction × String)} {shell : Shell}

theorem extract_of_dangles (h : Dangles tokens) :
    extract substitute tokens = Eval.fail (.malformed .invalid) := by
  rw [extract, divide_eq_error_iff.mpr ⟨rfl, h⟩]
  rfl

theorem Interleaves.ends_extract_ok (h : Interleaves words targets tokens) {opened : Files}
    {others : List String} {after : Shell} :
    (extract substitute tokens).Ends shell (.ok (opened, others)) after ↔
      others = words ∧ OpensEach substitute targets .unopened shell opened after := by
  rw [h.extract_eq, Eval.ends_bind_ok]
  simp only [ends_foldlM_openNext_ok, Eval.ends_pure, Except.ok.injEq, Prod.mk.injEq]
  constructor
  · rintro ⟨files, mid, hopens, ⟨rfl, rfl⟩, rfl⟩
    exact ⟨rfl, hopens⟩
  · rintro ⟨rfl, hopens⟩
    exact ⟨opened, after, hopens, ⟨rfl, rfl⟩, rfl⟩

theorem Interleaves.ends_extract_error (h : Interleaves words targets tokens) {e : ShellError}
    {after : Shell} :
    (extract substitute tokens).Ends shell (.error e) after ↔
      ∃ redirection now, ComesTo substitute targets .unopened shell redirection now ∧
        Refuses substitute now redirection e after := by
  rw [h.extract_eq, Eval.ends_bind_pure_error, ends_foldlM_openNext_error]

theorem Interleaves.extract_eq_none_iff (h : Interleaves words targets tokens) :
    extract substitute tokens shell = none ↔
      ∃ redirection now, ComesTo substitute targets .unopened shell redirection now ∧
        Argument.resolve substitute redirection.2 now = none := by
  rw [h.extract_eq, Eval.bind_eq_none_iff, foldlM_openNext_eq_none_iff]
  simp [Eval.pure_apply]

/-- A refusal is an invalid form only if the target of the redirection has already failed so when
it was resolved. -/
theorem refuses_invalid_iff {redirection : Direction × String} {after : Shell} :
    Refuses substitute shell redirection (.malformed .invalid) after ↔
      (Argument.resolve substitute redirection.2).Ends shell (.error (.malformed .invalid))
        after := by
  constructor
  · intro h
    cases h with
    | unresolved fails => exact fails
  · exact .unresolved

/-- Tokens in which an operator stands last or right before another one are of invalid form, and
then nothing at all happens. All other tokens are parted, in their order, into redirections and
words, in one way. The redirections are then opened strictly from left to right, each one in what
the ones before it have left, and extraction fails at the first one that is refused, with its error
and its effects and those of the ones before it only; this error is again one of invalid form just
where the target fails so itself. If none is refused, the words are left, the input is the file of
the last `<`, and the output goes to the file of the last `>` or `>>`. Of all redirections passed,
in a failure too, each `>` has emptied or created its file when it was opened. -/
theorem extract_in_order (substitute : Substituter) (tokens : List String) (shell : Shell) :
    ((∃ after, (extract substitute tokens).Ends shell (.error (.malformed .invalid)) after) ↔
      Dangles tokens ∨ ∃ words targets redirection now after,
        Interleaves words targets tokens ∧
        ComesTo substitute targets .unopened shell redirection now ∧
        (Argument.resolve substitute redirection.2).Ends now (.error (.malformed .invalid)) after) ∧
    (Dangles tokens → extract substitute tokens = Eval.fail (.malformed .invalid)) ∧
    (¬ Dangles tokens → ∃ words targets, Interleaves words targets tokens ∧
      (∀ otherWords otherTargets, Interleaves otherWords otherTargets tokens →
        otherWords = words ∧ otherTargets = targets) ∧
      (extract substitute tokens shell = none ↔
        ∃ redirection now, ComesTo substitute targets .unopened shell redirection now ∧
          Argument.resolve substitute redirection.2 now = none) ∧
      (∀ e after, (extract substitute tokens).Ends shell (.error e) after ↔
        ∃ redirection now, ComesTo substitute targets .unopened shell redirection now ∧
          Refuses substitute now redirection e after) ∧
      ∀ opened others after,
        (extract substitute tokens).Ends shell (.ok (opened, others)) after ↔
          others = words ∧ OpensEach substitute targets .unopened shell opened after) ∧
    ∀ passed opened after, OpensEach substitute passed .unopened shell opened after →
      ((∀ redirection ∈ passed, redirection.1 ≠ .input) → opened.input = none) ∧
      (∀ before target rest, passed = before ++ (.input, target) :: rest →
        (∀ redirection ∈ rest, redirection.1 ≠ .input) →
        ∃ first mid name location now, OpensEach substitute before .unopened shell first mid ∧
          (Argument.resolve substitute target).Ends mid (.ok [name]) now ∧
          now.world.files.fileAt (now.world.environment.resolve name) = .ok location ∧
          opened.input = some location) ∧
      ((∀ redirection ∈ passed, ∀ opening, redirection.1 ≠ .output opening) →
        opened.output = none) ∧
      ∀ before opening target rest, passed = before ++ (.output opening, target) :: rest →
        ∃ first mid name location now files next,
          OpensEach substitute before .unopened shell first mid ∧
          (Argument.resolve substitute target).Ends mid (.ok [name]) now ∧
          now.world.files.locate true (now.world.environment.resolve name) = .ok location ∧
          now.world.files.Puts location (opening.kept (now.world.files.contentAt location))
            files ∧
          OpensEach substitute rest next { now with world.files := files } opened after ∧
          ((∀ redirection ∈ rest, ∀ other, redirection.1 ≠ .output other) →
            opened.output = some (sinkAt opening location)) := by
  refine ⟨?_, extract_of_dangles, fun hdangles => ?_, fun passed opened after hopens => ?_⟩
  · by_cases hdangles : Dangles tokens
    · have hfails :
          (extract substitute tokens).Ends shell (.error (.malformed .invalid)) shell := by
        rw [extract_of_dangles hdangles]
        exact Eval.ends_fail.mpr ⟨rfl, rfl⟩
      exact ⟨fun _ => .inl hdangles, fun _ => ⟨shell, hfails⟩⟩
    · obtain ⟨words, targets, hparts⟩ := not_not.mp (mt dangles_iff.mpr hdangles)
      simp only [hparts.ends_extract_error, refuses_invalid_iff, hdangles, false_or]
      constructor
      · rintro ⟨after, redirection, now, hcomes, hfails⟩
        exact ⟨words, targets, redirection, now, after, hparts, hcomes, hfails⟩
      · rintro ⟨others, otherTargets, redirection, now, after, hother, hcomes, hfails⟩
        obtain ⟨-, rfl⟩ := hother.unique hparts
        exact ⟨after, redirection, now, hcomes, hfails⟩
  · obtain ⟨words, targets, hparts⟩ := not_not.mp (mt dangles_iff.mpr hdangles)
    refine ⟨words, targets, hparts, fun otherWords otherTargets hother => ?_,
      hparts.extract_eq_none_iff, fun e after => hparts.ends_extract_error,
      fun opened others after => hparts.ends_extract_ok⟩
    obtain ⟨rfl, rfl⟩ := hother.unique hparts
    exact ⟨rfl, rfl⟩
  · refine ⟨hopens.input_eq, ?_, hopens.output_eq, ?_⟩
    · rintro before target rest rfl hlast
      exact hopens.last_input hlast
    · rintro before opening target rest rfl
      exact hopens.output_opened

/-- The two files are opened in different directories, and the third target comes to no name because
the first redirection has emptied the file that it reads. -/
theorem extract_in_order_ambiguous :
    let files := (FileTree.empty.insert ["d"] .directory).insert ["f"] (.file [0x61])
    let shell : Shell := ⟨⟨.withDirectory "/", files⟩, []⟩
    let tokens := ["a", ">", "f", "b", ">>", "`cd d; echo g`", "<", "`cat /f`"]
    let now : Shell := ⟨⟨.withDirectory "/d", (files.insert ["f"] (.file [])).insert ["d", "g"]
      (.file [])⟩, [.ran "cat" none, .substituted "cat /f", .ran "echo" none, .ran "cd" none,
        .substituted "cd d; echo g"]⟩
    ¬ Dangles tokens ∧
      (extract (substituter builtins 1) tokens).Ends shell
        (.error (.malformed .ambiguousRedirect)) now ∧
      ∃ words targets, Interleaves words targets tokens ∧ ∃ redirection last,
        ComesTo (substituter builtins 1) targets .unopened shell redirection last ∧
          Refuses (substituter builtins 1) last redirection (.malformed .ambiguousRedirect)
            now := by
  intro files shell tokens now
  have hparts : Interleaves ["a", "b"] [(.output .truncate, "f"),
      (.output .append, "`cd d; echo g`"), (.input, "`cat /f`")] tokens :=
    .word rfl (.redirection rfl (.word rfl (.redirection rfl (.redirection rfl .nil))))
  have hdangles : ¬ Dangles tokens := fun h => dangles_iff.mp h ⟨_, _, hparts⟩
  have hends : (extract (substituter builtins 1) tokens).Ends shell
      (.error (.malformed .ambiguousRedirect)) now := by
    decide +kernel
  obtain ⟨-, -, hextract, -⟩ := extract_in_order (substituter builtins 1) tokens shell
  obtain ⟨words, targets, hwords, -, -, herror, -⟩ := hextract hdangles
  exact ⟨hdangles, hends, words, targets, hwords, (herror _ _).mp hends⟩

/-- No operator dangles, yet the form is said to be invalid, and a file has been created: it is the
line of the substitution in the target that is of invalid form. -/
theorem extract_invalid_target :
    let shell : Shell := ⟨⟨.withDirectory "/", .empty⟩, []⟩
    let tokens := ["<", "`echo x > made | cat <`"]
    ¬ Dangles tokens ∧ ∃ after,
      (extract (substituter builtins 1) tokens).Ends shell (.error (.malformed .invalid)) after ∧
        after.world.files.get? ["made"] = some (.file [0x78, 0x0A]) := by
  intro shell tokens
  have hparts : Interleaves [] [(.input, "`echo x > made | cat <`")] tokens :=
    .redirection rfl .nil
  have hends : (extract (substituter builtins 1) tokens).Ends shell (.error (.malformed .invalid))
      ⟨⟨.withDirectory "/", (FileTree.empty.insert ["made"] (.file [])).insert ["made"]
          (.file [0x78, 0x0A])⟩,
        [.ran "echo" none, .substituted "echo x > made | cat <"]⟩ := by
    decide +kernel
  refine ⟨fun h => dangles_iff.mp h ⟨_, _, hparts⟩, _, hends, ?_⟩
  decide +kernel

end Extraction

end Redirection

end LineShell
