import LineShell.Proofs.Quiet

/-!
# Deep enough

An evaluation hands finitely many lines over. So where for each of them some depth is enough, there
is a depth that is enough for all of them, and the evaluation has an answer from that depth on,
which is always the same. Evaluations that nest without end are the only ones for which no depth is
enough.
-/

namespace LineShell

open Filter

/-! ### Finitely many lines -/

/-- The relation holds of finitely many pairs. -/
def FinitelyMany {α β : Type} (R : α → β → Prop) : Prop := {pair : α × β | R pair.1 pair.2}.Finite

namespace FinitelyMany

variable {ι α β γ δ : Type} {R : α → β → Prop}

theorem of_unique (h : ∀ a b c d, R a b → R c d → a = c ∧ b = d) : FinitelyMany R :=
  Set.Subsingleton.finite fun _ hpair _ hother => Prod.ext_iff.mpr (h _ _ _ _ hpair hother)

theorem mono {S : α → β → Prop} (hS : FinitelyMany S) (h : ∀ a b, R a b → S a b) :
    FinitelyMany R :=
  Set.Finite.subset hS fun _ hpair => h _ _ hpair

theorem or {S : α → β → Prop} (hR : FinitelyMany R) (hS : FinitelyMany S) :
    FinitelyMany fun a b => R a b ∨ S a b :=
  Set.Finite.union hR hS

theorem bind {S : α → β → γ → δ → Prop} (hR : FinitelyMany R)
    (hS : ∀ a b, R a b → FinitelyMany (S a b)) :
    FinitelyMany fun c d => ∃ a b, R a b ∧ S a b c d := by
  refine (Set.Finite.biUnion hR fun pair hpair => hS pair.1 pair.2 hpair).subset ?_
  rintro other ⟨a, b, hpair, hother⟩
  exact Set.mem_biUnion (show (a, b) ∈ {pair : α × β | R pair.1 pair.2} from hpair) hother

theorem map (hR : FinitelyMany R) (f : α → γ) (g : β → δ) :
    FinitelyMany fun c d => ∃ a b, R a b ∧ c = f a ∧ d = g b :=
  hR.bind fun _ _ _ => of_unique fun _ _ _ _ ⟨hc, hd⟩ ⟨hc', hd'⟩ =>
    ⟨hc.trans hc'.symm, hd.trans hd'.symm⟩

/-- Finitely many pairs for the only choice there is. -/
theorem of_choice {P : ι → Prop} {S : ι → α → β → Prop} (hP : ∀ i j, P i → P j → i = j)
    (hS : ∀ i, FinitelyMany (S i)) : FinitelyMany fun a b => ∃ i, P i ∧ S i a b := by
  by_cases h : ∃ i, P i
  · obtain ⟨i, hi⟩ := h
    exact (hS i).mono fun a b ⟨j, hj, hpair⟩ => hP j i hj hi ▸ hpair
  · exact of_unique fun _ _ _ _ ⟨i, hi, _⟩ _ => absurd ⟨i, hi⟩ h

end FinitelyMany

theorem Visits.finitelyMany {α σ : Type} (step : α → σ → σ → Prop)
    (hstep : ∀ a s t u, step a s t → step a s u → t = u) (as : List α) (s : σ) :
    FinitelyMany (Visits step as s) := by
  induction as generalizing s with
  | nil => exact .of_unique nofun
  | cons a as ih =>
    have hhere : FinitelyMany fun b t => b = a ∧ t = s :=
      .of_unique fun _ _ _ _ ⟨hb, ht⟩ ⟨hb', ht'⟩ => ⟨hb.trans hb'.symm, ht.trans ht'.symm⟩
    have hlater := FinitelyMany.of_choice (hstep a s) ih
    refine (hhere.or hlater).mono fun b t hvisits => ?_
    cases hvisits with
    | here => exact .inl ⟨rfl, rfl⟩
    | later done visited => exact .inr ⟨_, done, visited⟩

section Finite

variable {substitute : Substituter} {context : Context}

theorem Argument.Scan.HandsOver.finitelyMany (scan : Scan) (text : List Char) (shell : Shell) :
    FinitelyMany (scan.HandsOver substitute text shell) := by
  -- There are finitely many places, and from each of them one line at most.
  have hplaces : FinitelyMany fun (n : Nat) (_ : Unit) => n ≤ text.length :=
    ((Set.finite_le_nat text.length).prod Set.finite_univ).subset fun _ h => ⟨h, trivial⟩
  have hlines (n : Nat) : FinitelyMany fun line now => ∃ reached : Scan × Shell,
      (scan.feedText substitute (text.take n)).Ends shell (.ok reached.1) reached.2 ∧
        line = reached.1.pending ∧ now = reached.2.handing reached.1.pending := by
    refine .of_choice (fun ⟨reached, mid⟩ ⟨last, after⟩ hreached hlast => ?_) fun reached =>
      .of_unique fun _ _ _ _ ⟨hline, hnow⟩ ⟨hline', hnow'⟩ =>
        ⟨hline.trans hline'.symm, hnow.trans hnow'.symm⟩
    obtain ⟨hsame, hmid⟩ := hreached.unique hlast
    exact Prod.ext_iff.mpr ⟨Except.ok.inj hsame, hmid⟩
  refine (hplaces.bind fun n _ _ => hlines n).mono fun line now hhands => ?_
  obtain @⟨before, rest, reached, mid, rfl, hscanned, -⟩ := hhands
  refine ⟨before.length, (), by simp, (reached, mid), ?_, rfl, rfl⟩
  rwa [List.take_left]

theorem Redirection.Opens.unique {redirection : Direction × String} {shell after other : Shell}
    (h : Opens substitute redirection shell after)
    (hother : Opens substitute redirection shell other) : after = other := by
  obtain ⟨opened, next, hopens⟩ := h
  obtain ⟨last, hlast⟩ := hother.exists_ends opened
  exact (hopens.unique hlast).2

theorem Argument.Resolves.unique {token : String} {shell after other : Shell}
    (h : Resolves substitute token shell after) (hother : Resolves substitute token shell other) :
    after = other := by
  obtain ⟨args, hends⟩ := h
  obtain ⟨others, hothers⟩ := hother
  exact (hends.unique hothers).2

theorem Call.Scans.finitelyMany (call : Call) (shell : Shell) :
    FinitelyMany (call.Scans substitute shell) := by
  have hopened (targets : List (Redirection.Direction × String)) :
      FinitelyMany (Visits (Redirection.Opens substitute) targets shell) :=
    Visits.finitelyMany (Redirection.Opens substitute) (fun _ _ _ _ => Redirection.Opens.unique)
      targets shell
  have hresolved (tokens : List String) (mid : Shell) :
      FinitelyMany (Visits (Argument.Resolves substitute) tokens mid) :=
    Visits.finitelyMany (Argument.Resolves substitute) (fun _ _ _ _ => Argument.Resolves.unique)
      tokens mid
  have htargets : FinitelyMany fun token now => ∃ division,
      Redirection.divide call.tokens = .ok division ∧ ∃ redirection later,
        Visits (Redirection.Opens substitute) division.targets shell redirection later ∧
          token = redirection.2 ∧ now = id later :=
    .of_choice (fun _ _ hdivision hother => Except.ok.inj (hdivision.symm.trans hother))
      fun division => (hopened division.targets).map Prod.snd id
  have hwords : FinitelyMany fun token now =>
      ∃ extracted : (Redirection.Files × List String) × Shell,
        (Redirection.extract substitute call.tokens).Ends shell (.ok extracted.1) extracted.2 ∧
        Visits (Argument.Resolves substitute) extracted.1.2 extracted.2 token now := by
    refine .of_choice (fun extracted other hends hother => ?_) fun extracted =>
      hresolved extracted.1.2 extracted.2
    obtain ⟨hsame, hmid⟩ := hends.unique hother
    exact Prod.ext_iff.mpr ⟨Except.ok.inj hsame, hmid⟩
  refine (htargets.or hwords).mono fun token now hscans => ?_
  cases hscans with
  | target divided visited => exact .inl ⟨_, divided, _, _, visited, rfl, rfl⟩
  | word extracted visited => exact .inr ⟨(_, _), extracted, visited⟩

namespace Command

theorem Relays.unique {stage : Call} {run next other : Run} (h : Relays context stage run next)
    (hother : Relays context stage run other) : next = other := by
  obtain ⟨mid, hends, rfl⟩ := h
  obtain ⟨middle, hmiddle, rfl⟩ := hother
  rw [(hends.unique hmiddle).2]

theorem Contributes.unique {command : Command} {run next other : Run}
    (h : Contributes context command run next) (hother : Contributes context command run other) :
    next = other := by
  obtain ⟨outcome, mid, hends, -, rfl⟩ := h
  obtain ⟨others, middle, hothers, -, rfl⟩ := hother
  obtain ⟨rfl, rfl⟩ := hends.unique hothers
  rfl

theorem Prepares.finitelyMany (command : Command) (run : Run) :
    FinitelyMany (command.Prepares context run) := by
  induction command using induct_members generalizing run with
  | call single =>
    refine .of_unique fun _ _ _ _ hprepares hother => ?_
    cases hprepares
    cases hother
    exact ⟨rfl, rfl⟩
  | pipe stages =>
    have hstages : FinitelyMany (Visits (Relays context) stages run) :=
      Visits.finitelyMany (Relays context) (fun _ _ _ _ => Relays.unique) stages run
    refine (hstages.map id Run.shell).mono fun call shell hprepares => ?_
    cases hprepares with
    | pipe visited => exact ⟨_, _, visited, rfl, rfl⟩
  | sequence commands ih =>
    have hmembers : FinitelyMany (Visits (Contributes context) commands run) :=
      Visits.finitelyMany (Contributes context) (fun _ _ _ _ => Contributes.unique) commands run
    refine (hmembers.bind fun member start hvisited =>
      ih member hvisited.mem (start.withOutput .unlimited)).mono fun call shell hprepares => ?_
    cases hprepares with
    | sequence visited prepared => exact ⟨_, _, visited, prepared⟩

/-- An evaluation hands finitely many lines over. -/
theorem Hands.finitelyMany (command : Command) (run : Run) :
    FinitelyMany (command.Hands context run) := by
  have hscans : FinitelyMany (command.Scans context run) :=
    ((Prepares.finitelyMany command run).bind fun call shell _ =>
      Call.Scans.finitelyMany call shell).mono fun _ _ ⟨hprepared, hscanned⟩ =>
        ⟨_, _, hprepared, hscanned⟩
  exact (hscans.bind fun token shell _ =>
    Argument.Scan.HandsOver.finitelyMany .start token.toList shell).mono
      fun _ _ ⟨hscanned, hhanded⟩ => ⟨_, _, hscanned, hhanded⟩

end Command

end Finite

/-! ### The same answer at every greater depth -/

section Deeper

variable {registry : Registry} {depth deeper : Nat} {line : String}

/-- A substituter that has the answers of the first one, and perhaps others, gives the same answer
to the whole evaluation. -/
theorem Command.evaluate_eq_of_answers {substitute other : Substituter} {command : Command}
    {run : Run} (h : ∀ line now, substitute line now ≠ none → other line now = substitute line now)
    (hanswer : command.evaluate ⟨registry, substitute⟩ run ≠ none) :
    command.evaluate ⟨registry, other⟩ run = command.evaluate ⟨registry, substitute⟩ run := by
  refine (evaluate_congr_of_hands fun line now hhands => (h line now fun hnone => ?_).symm).symm
  exact hanswer (evaluate_eq_none_of_hands hhands hnone)

theorem evaluateLine_eq_of_answers {substitute other : Substituter} {run : Run}
    (h : ∀ line now, substitute line now ≠ none → other line now = substitute line now)
    (hanswer : evaluateLine ⟨registry, substitute⟩ line run ≠ none) :
    evaluateLine ⟨registry, other⟩ line run = evaluateLine ⟨registry, substitute⟩ line run := by
  unfold evaluateLine at hanswer ⊢
  cases hparse : Command.parse line with
  | error fault => rfl
  | ok command =>
    rw [hparse] at hanswer
    exact Command.evaluate_eq_of_answers h hanswer

theorem substituter_succ {shell : Shell} (hanswer : substituter registry depth line shell ≠ none) :
    substituter registry (depth + 1) line shell = substituter registry depth line shell := by
  induction depth generalizing line shell with
  | zero => exact absurd rfl hanswer
  | succ depth ih =>
    rw [substituter, capturedLine_apply] at hanswer
    have hline : evaluateLine ⟨registry, substituter registry depth⟩ line shell.capturing ≠ none :=
      fun hnone => hanswer (by rw [hnone])
    rw [substituter, substituter, capturedLine_apply, capturedLine_apply,
      evaluateLine_eq_of_answers (fun _ _ => ih) hline]

theorem substituter_of_le {shell : Shell} (hdeeper : depth ≤ deeper)
    (hanswer : substituter registry depth line shell ≠ none) :
    substituter registry deeper line shell = substituter registry depth line shell := by
  induction deeper, hdeeper using Nat.le_induction with
  | base => rfl
  | succ deeper hdeeper ih => rw [substituter_succ (ih ▸ hanswer), ih]

theorem Interpreter.ends_evaluate_of_le {run after : Run} {outcome : Except ShellError Unit}
    (hdeeper : depth ≤ deeper)
    (h : (Interpreter.evaluate ⟨registry, depth⟩ line).Ends run outcome after) :
    (Interpreter.evaluate ⟨registry, deeper⟩ line).Ends run outcome after := by
  have hsame : Interpreter.evaluate ⟨registry, deeper⟩ line run =
      Interpreter.evaluate ⟨registry, depth⟩ line run :=
    evaluateLine_eq_of_answers (fun _ _ => substituter_of_le hdeeper) h.ne_none
  cases outcome <;> exact hsame.trans h

end Deeper

/-! ### From some depth on -/

open Classical in
/-- The substituter where the condition holds, and no output elsewhere. -/
noncomputable def Substituter.restrict (substitute : Substituter) (keeps : String → Shell → Prop) :
    Substituter :=
  fun line shell => if keeps line shell then substitute line shell else some (.ok [] shell)

section Depth

variable {registry : Registry}

/-- Where substituters settle for every line, evaluation does with them. -/
theorem Command.eventually_evaluate {substituters : Nat → Substituter}
    (h : ∀ line shell, ∃ answer, ∀ᶠ depth in atTop, substituters depth line shell = some answer)
    (command : Command) (run : Run) :
    ∃ answer, ∀ᶠ depth in atTop,
      command.evaluate ⟨registry, substituters depth⟩ run = some answer := by
  choose answer hanswer using h
  let limit : Substituter := fun line shell => some (answer line shell)
  have hanswers : (command.evaluate ⟨registry, limit⟩).Answers :=
    Command.answers_evaluate (fun _ _ => Option.some_ne_none _) command
  obtain ⟨last, hlast⟩ := Option.ne_none_iff_exists'.mp (hanswers run)
  have hagree : ∀ᶠ depth in atTop,
      ∀ pair ∈ {pair : String × Shell | command.Hands ⟨registry, limit⟩ run pair.1 pair.2},
        substituters depth pair.1 pair.2 = some (answer pair.1 pair.2) :=
    (eventually_all_finite (Hands.finitelyMany command run)).mpr fun pair _ =>
      hanswer pair.1 pair.2
  refine ⟨last, hagree.mono fun depth hdepth => ?_⟩
  rw [← hlast]
  exact (evaluate_congr_of_hands fun line now hhands => (hdepth (line, now) hhands).symm).symm

/-- If each line that is handed over has an answer from some depth on, so has the evaluation. -/
theorem Command.eventually_evaluate_of_hands {command : Command} {run : Run}
    (h : ∀ depth line now, command.Hands ⟨registry, substituter registry depth⟩ run line now →
      ∃ answer, ∀ᶠ deeper in atTop, substituter registry deeper line now = some answer) :
    ∃ answer, ∀ᶠ depth in atTop,
      command.evaluate ⟨registry, substituter registry depth⟩ run = some answer := by
  let keeps (line : String) (shell : Shell) : Prop :=
    ∃ answer, ∀ᶠ deeper in atTop, substituter registry deeper line shell = some answer
  let kept (depth : Nat) : Substituter := (substituter registry depth).restrict keeps
  have hsettles (line : String) (shell : Shell) :
      ∃ answer, ∀ᶠ depth in atTop, kept depth line shell = some answer := by
    by_cases hkeeps : keeps line shell
    · obtain ⟨answer, hanswer⟩ := hkeeps
      exact ⟨answer, hanswer.mono fun depth hdepth => (if_pos ⟨answer, hanswer⟩).trans hdepth⟩
    · exact ⟨_, .of_forall fun depth => if_neg hkeeps⟩
  obtain ⟨answer, hanswer⟩ := @eventually_evaluate registry kept hsettles command run
  refine ⟨answer, hanswer.mono fun depth hdepth => ?_⟩
  rw [← hdepth]
  exact evaluate_congr_of_hands fun line now hhands => (if_pos (h depth line now hhands)).symm

end Depth

/-! ### Evaluations inside evaluations -/

/-- A line to evaluate, and where. -/
structure Task where
  line : String
  run : Run

namespace Task

variable {registry : Registry}

/-- The evaluation of the task hands the line of the inner one over, with some depth. -/
inductive Nests (registry : Registry) (task : Task) : Task → Prop
  | intro {depth : Nat} {command : Command} {line : String} {now : Shell}
      (parsed : Command.parse task.line = .ok command)
      (handed : command.Hands ⟨registry, substituter registry depth⟩ task.run line now) :
      Nests registry task ⟨line, now.capturing⟩

/-- From some depth on, the evaluation of the task has an answer, and always the same one. -/
def Settles (registry : Registry) (task : Task) : Prop :=
  ∃ answer, ∀ᶠ depth in atTop,
    evaluateLine ⟨registry, substituter registry depth⟩ task.line task.run = some answer

/-- A substitution goes one level deeper than the evaluation of its line. -/
theorem Settles.substitution {line : String} {shell : Shell}
    (h : Settles registry ⟨line, shell.capturing⟩) :
    ∃ answer, ∀ᶠ depth in atTop, substituter registry depth line shell = some answer := by
  obtain ⟨answer, hanswer⟩ := h
  have hcaptured : ∃ captured, ∀ depth,
      evaluateLine ⟨registry, substituter registry depth⟩ line shell.capturing = some answer →
        substituter registry (depth + 1) line shell = some captured := by
    cases answer with
    | ok value last =>
      refine ⟨.ok last.output.collected last.shell, fun depth hdepth => ?_⟩
      rw [substituter, capturedLine_apply, hdepth]
    | error e last =>
      refine ⟨.error e last.shell, fun depth hdepth => ?_⟩
      rw [substituter, capturedLine_apply, hdepth]
  obtain ⟨captured, hcaptured⟩ := hcaptured
  refine ⟨captured, ?_⟩
  rw [← Filter.map_add_atTop_eq_nat 1, eventually_map]
  exact hanswer.mono hcaptured

/-- Only evaluations that nest without end have no answer at any depth. -/
theorem settles_of_acc {task : Task}
    (h : Acc (fun inner outer => outer.Nests registry inner) task) : task.Settles registry := by
  induction h with
  | intro task _ ih =>
    unfold Settles evaluateLine
    cases hparse : Command.parse task.line with
    | error fault => exact ⟨_, .of_forall fun _ => rfl⟩
    | ok command =>
      exact Command.eventually_evaluate_of_hands fun depth line now hhands =>
        (ih _ (.intro hparse hhands)).substitution

end Task

end LineShell
