import Mathlib
import LineShell.Proofs.FileLists
import LineShell.Proofs.Selections

/-!
# Applications that are given files

`cat`, `wc` and `grep` go through the files that they are given by one loop, and differ in what they
make of each. So a list of files is handled as its parts are, one behind the other, and a file is
handled as it is alone, but for the labels that tell several files apart.
-/

namespace LineShell

/-! ### Switches and files as arguments -/

namespace Usage

variable {usage : Usage} {scan : Scan} {args : List String}

/-- The argument is the long name of a switch. -/
def IsSwitch (usage : Usage) (long : String) : Prop :=
  long.toList.head? = some '-' ∧ long ∉ ["--help", "help", "--"] ∧
    (usage.option? long).any (fun option => option.long == long && option.value.isNone) = true

instance (usage : Usage) (long : String) : Decidable (usage.IsSwitch long) :=
  inferInstanceAs (Decidable (_ ∧ _ ∧ _))

theorem scanFrom_switches {longs : List String} (hended : scan.optionsEnded = false)
    (hhelp : scan.help = false) (hlongs : ∀ long ∈ longs, usage.IsSwitch long) :
    usage.scanFrom scan (longs ++ args) =
      usage.scanFrom { scan with found.switches := scan.found.switches ++ longs } args := by
  induction longs generalizing scan with
  | nil => rw [List.nil_append, List.append_nil]
  | cons long longs ih =>
    obtain ⟨⟨hdash, hplain, hswitch⟩, hothers⟩ := List.forall_mem_cons.mp hlongs
    obtain ⟨option, hoption, hlong, hvalue⟩ : ∃ option, usage.option? long = some option ∧
        option.long = long ∧ option.value = none := by
      cases hoption : usage.option? long with
      | none => simp [hoption] at hswitch
      | some option => exact ⟨option, rfl, by simpa [hoption] using hswitch⟩
    have hnext := @ih (scan.addSwitch long) hended hhelp hothers
    rw [List.cons_append, scanFrom_switch hended hhelp hdash hplain hoption hvalue, hlong, hnext]
    simp [Scan.addSwitch]

end Usage

/-- The switches that are on among those that there are. -/
theorem Arguments.has_filter {longs operands : List String} {on : String → Bool}
    {values : List (String × String)} {long : String} (h : long ∈ longs) :
    Arguments.has ⟨longs.filter on, values, operands⟩ long = on long := by
  simp [Arguments.has, h]

def wcSwitches : List String := ["--lines", "--words", "--bytes"]

theorem isSwitch_of_mem_wcSwitches : ∀ long ∈ wcSwitches, wcUsage.IsSwitch long := by decide

theorem scan_wcSwitches (on : String → Bool) (files : List String) :
    wcUsage.scan (wcSwitches.filter on ++ "--" :: files) =
      .ok (some ⟨wcSwitches.filter on, [], files⟩) := by
  refine Usage.scan_of_scanFrom rfl rfl ?_
  rw [Usage.scanFrom_switches rfl rfl fun long hlong =>
      isSwitch_of_mem_wcSwitches long (List.mem_of_mem_filter hlong),
    Usage.scanFrom_dashes rfl, Usage.scanFrom_operands rfl rfl rfl rfl]
  rfl

def grepSwitches : List String := ["--word-regexp", "--ignore-case"]

theorem isSwitch_of_mem_grepSwitches : ∀ long ∈ grepSwitches, grepUsage.IsSwitch long := by
  decide

theorem scan_grepSwitches {n : Nat} (hn : n < Numeral.countBound) (on : String → Bool)
    (pattern : String) (files : List String) :
    grepUsage.scan (grepSwitches.filter on ++
        "--after-context" :: toString n :: "--" :: pattern :: files) =
      .ok (some ⟨grepSwitches.filter on, [("--after-context", toString n)],
        pattern :: files⟩) := by
  have hvalue : ValueKind.count.fault? (toString n) = none := by
    rw [ValueKind.fault?, Numeral.readCount_toString hn]
  have hmissing (given : Nat) : grepUsage.missing (given + 1) = [] := by
    cases given <;> simp [Usage.missing, grepUsage]
  -- Behind the pattern, every operand is a file.
  have hspec : ∀ given ≥ 1, Usage.operandAt? grepUsage.operands given =
      some ⟨"files", .text, false, true, ""⟩ := by
    intro given hgiven
    obtain ⟨given, rfl⟩ := Nat.exists_eq_add_of_le' hgiven
    rfl
  have hfiles := @Usage.scanFrom_list grepUsage
    ⟨false, true, ⟨grepSwitches.filter on, [("--after-context", toString n)], [pattern]⟩⟩ files _
    rfl rfl hspec
  refine @Usage.scan_eq_some grepUsage _ true _ ?_ (hmissing _)
  rw [Usage.scanFrom_switches rfl rfl fun long hlong =>
      isSwitch_of_mem_grepSwitches long (List.mem_of_mem_filter hlong),
    Usage.scanFrom_value rfl rfl rfl (by decide) rfl rfl rfl hvalue, Usage.scanFrom_dashes rfl,
    Usage.scanFrom_operand rfl rfl rfl]
  exact hfiles

/-! ### Going through the files -/

/-- The application of the name, given these arguments, goes through these files; what it makes of
each may depend on whether there are several, which are told apart by labels. -/
inductive TakesFiles : String → List String → List String → (Bool → Making) → Prop
  | ofCat {args : List String} {found : Arguments}
      (accepted : catUsage.scan args = .ok (some found)) :
      TakesFiles "cat" args found.operands fun _ => contentOf
  | ofWc {args : List String} {found : Arguments}
      (accepted : wcUsage.scan args = .ok (some found)) :
      TakesFiles "wc" args found.operands fun _ =>
        countsOf ⟨found.has "--lines", found.has "--words", found.has "--bytes"⟩
  | ofGrep {args files : List String} {found : Arguments} {pattern : String} {regex : Regex}
      (accepted : grepUsage.scan args = .ok (some found))
      (listed : found.operands = pattern :: files)
      (valid : Regex.compile (found.has "--ignore-case")
        (Grep.expression (found.has "--word-regexp") pattern) = .ok regex) :
      TakesFiles "grep" args files (matchesOf regex.isMatch (found.count "--after-context" 0))

/-- The run after it has been recorded how the application ended. -/
def Run.ran (run : Run) (name : String) (outcome : Except ShellError Unit) : Run :=
  { run with history := .ran name (failure? outcome) :: run.history }

theorem Run.blind_withInput (input : Source) : Run.Blind (·.withInput input) :=
  ⟨fun _ _ _ => rfl, fun _ _ => rfl⟩

theorem Run.blind_ran (name : String) (outcome : Except ShellError Unit) :
    Run.Blind (·.ran name outcome) :=
  ⟨fun _ _ _ => rfl, fun _ _ => rfl⟩

namespace TakesFiles

variable {name file : String} {args files : List String} {make : Bool → Making} {run after : Run}
  {outcome : Except ShellError Unit} {labelled : Bool} {content : Bytes}

theorem apply_eq (h : TakesFiles name args files make) (hne : files ≠ []) :
    ∃ application, builtins.lookup name = some application ∧
      application args = handleFiles name (make (1 < files.length)) files := by
  cases h with
  | ofCat accepted =>
    refine ⟨cat, rfl, ?_⟩
    rw [cat, Usage.application_of_scan accepted, if_neg (by simpa using hne), copyFiles_eq]
  | ofWc accepted =>
    refine ⟨wc, rfl, ?_⟩
    rw [wc, Usage.application_of_scan accepted]
    exact (if_neg (by simpa using hne)).trans (countFiles_eq _ _)
  | ofGrep accepted listed valid =>
    refine ⟨grep, rfl, ?_⟩
    rw [grep, Usage.application_of_scan accepted, listed]
    simp only [Grep.search, valid]
    rw [if_neg (by simpa using hne), searchFiles_eq]

/-- Only labels make a difference. -/
theorem make_eq (h : TakesFiles name args files make) (hname : name ≠ "grep") (labelled : Bool) :
    make labelled = make false := by
  cases h with
  | ofGrep accepted listed valid => exact absurd rfl hname
  | _ => rfl

theorem make_congr (h : TakesFiles name args files make) {one other : Bool}
    (hsame : name = "grep" → one = other) : make one = make other := by
  by_cases hname : name = "grep"
  · rw [hsame hname]
  · rw [h.make_eq hname one, h.make_eq hname other]

/-- Which file is an error, and which error, does not depend on labels. -/
theorem make_eq_error_iff (h : TakesFiles name args files make) {e : ShellError} :
    make labelled file content = .error e ↔ make false file content = .error e := by
  cases h with
  | ofGrep accepted listed valid => simp only [matchesOf, ofText_eq_error_iff]
  | _ => rfl

theorem exists_error_iff (h : TakesFiles name args files make) :
    (∃ e, make labelled file content = .error e) ↔ name ≠ "cat" ∧ ¬ Utf8.IsText content := by
  cases h <;> simp [contentOf, countsOf, matchesOf, ofText_eq_error_iff]

/-- Which file is an error, and which error, does not depend on labels. -/
theorem gives_eq_error_iff (h : TakesFiles name args files make) {e : ShellError} :
    run.gives name (make labelled) file = .error e ↔
      run.gives name (make false) file = .error e := by
  cases hopens : run.opens name file with
  | error fault => rw [Run.gives_of_opens_error hopens, Run.gives_of_opens_error hopens]
  | ok content =>
    rw [Run.gives_of_opens hopens, Run.gives_of_opens hopens]
    exact h.make_eq_error_iff

/-- A file is bad if it cannot be opened, or if it is no text where text is needed. -/
theorem exists_gives_error_iff (h : TakesFiles name args files make) :
    (∃ e, run.gives name (make labelled) file = .error e) ↔
      (∃ e, run.opens name file = .error e) ∨
      name ≠ "cat" ∧ ∃ content, run.opens name file = .ok content ∧ ¬ Utf8.IsText content := by
  cases hopens : run.opens name file with
  | error fault => simp [Run.gives_of_opens_error hopens]
  | ok content => simp [Run.gives_of_opens hopens, h.exists_error_iff]

/-- Other files can be given to the application in the same way. -/
theorem exists_args (h : TakesFiles name args files make) (others : List String) :
    ∃ more, TakesFiles name more others make := by
  cases h with
  | ofCat accepted =>
    have htakes := TakesFiles.ofCat (@Usage.scan_operands catUsage others _ rfl rfl rfl rfl)
    exact ⟨_, htakes⟩
  | @ofWc _ found accepted =>
    have htakes := TakesFiles.ofWc (scan_wcSwitches found.has others)
    rw [Arguments.has_filter (by decide), Arguments.has_filter (by decide),
      Arguments.has_filter (by decide)] at htakes
    exact ⟨_, htakes⟩
  | @ofGrep _ _ found pattern regex accepted listed valid =>
    obtain ⟨n, hcount⟩ : ∃ n, n = found.count "--after-context" 0 := ⟨_, rfl⟩
    have hn : n < Numeral.countBound := hcount ▸ found.count_lt _ (by decide)
    have htakes := @TakesFiles.ofGrep _ others _ pattern regex
      (scan_grepSwitches hn found.has pattern others) rfl
      (by rw [Arguments.has_filter (by decide), Arguments.has_filter (by decide), valid])
    rw [Arguments.count_toString hn, hcount] at htakes
    exact ⟨_, htakes⟩

theorem ends_run (h : TakesFiles name args files make) (hne : files ≠ [])
    (houtput : run.output.AcceptsAll) :
    (builtins.run name args).Ends run outcome after ↔
      ∃ pieces, run.HandlesEach name (make (1 < files.length)) files pieces outcome ∧
        after = (run.wroteEach pieces).ran name outcome := by
  obtain ⟨application, hlookup, happly⟩ := h.apply_eq hne
  have hrun : (builtins.run name args).Ends run outcome after ↔
      ∃ last, (Eval.onJob (application args)).Ends run outcome last ∧
        after = { last with history := .ran name (failure? outcome) :: run.history } := by
    rw [Registry.ends_run, hlookup]
    simp
  rw [hrun, happly]
  simp only [ends_handleFiles houtput]
  constructor
  · rintro ⟨last, ⟨pieces, hhandles, rfl⟩, rfl⟩
    exact ⟨pieces, hhandles, by rw [Run.ran, Run.wroteEach_history]⟩
  · rintro ⟨pieces, hhandles, rfl⟩
    exact ⟨_, ⟨pieces, hhandles, rfl⟩, by rw [Run.ran, Run.wroteEach_history]⟩

/-- What is left of a run, but for the record of it. -/
theorem exists_ends_run_iff (h : TakesFiles name args files make) (hne : files ≠ [])
    (houtput : run.output.AcceptsAll) {job : Job} :
    (∃ history, (builtins.run name args).Ends run outcome ⟨job, history⟩) ↔
      ∃ pieces, run.HandlesEach name (make (1 < files.length)) files pieces outcome ∧
        job = (run.wroteEach pieces).job := by
  simp only [h.ends_run hne houtput]
  constructor
  · rintro ⟨history, pieces, hhandles, hjob⟩
    exact ⟨pieces, hhandles, congrArg Run.job hjob⟩
  · rintro ⟨pieces, hhandles, rfl⟩
    exact ⟨_, pieces, hhandles, rfl⟩

/-- Files behind others are gone through as by a run of their own, if that of the others has gone
well. -/
theorem ends_run_append {first second both xs ys : List String} {job : Job}
    (hfirst : TakesFiles name first xs make) (hsecond : TakesFiles name second ys make)
    (hboth : TakesFiles name both (xs ++ ys) make) (hxs : xs ≠ []) (hys : ys ≠ [])
    (hlabels : name = "grep" → 1 < xs.length ∧ 1 < ys.length) (houtput : run.output.AcceptsAll) :
    (∃ history, (builtins.run name both).Ends run outcome ⟨job, history⟩) ↔
      (∃ mid, (builtins.run name first).Ends run (.ok ()) mid ∧
        ∃ history, (builtins.run name second).Ends mid outcome ⟨job, history⟩) ∨
      ∃ e, (∃ history, (builtins.run name first).Ends run (.error e) ⟨job, history⟩) ∧
        outcome = .error e := by
  have hbothMake : make (1 < (xs ++ ys).length) = make (1 < xs.length) :=
    hboth.make_congr fun hname => by
      have hlonger : 1 < xs.length + ys.length := Nat.lt_add_right _ (hlabels hname).1
      simp [hlonger, (hlabels hname).1]
  have hsecondMake : make (1 < ys.length) = make (1 < xs.length) :=
    hboth.make_congr fun hname => by simp [hlabels hname]
  have hxys : xs ++ ys ≠ [] := List.append_ne_nil_of_left_ne_nil hxs ys
  -- The second run starts from what the first has left, with a record of it, which it does not see.
  have hnext (front : List Bytes) :
      (∃ history, (builtins.run name second).Ends ((run.wroteEach front).ran name (.ok ()))
          outcome ⟨job, history⟩) ↔
        ∃ back, (run.wroteEach front).HandlesEach name (make (1 < xs.length)) ys back outcome ∧
          job = (run.wroteEach (front ++ back)).job := by
    have houtput : ((run.wroteEach front).ran name (.ok ())).output.AcceptsAll := by
      show (run.wroteEach front).output.AcceptsAll
      rw [Run.wroteEach_output]
      exact houtput.took _
    have hblind := Run.blind_ran name (.ok ())
    simp only [hsecond.exists_ends_run_iff hys houtput, hsecondMake, hblind.handlesEach_iff,
      hblind.wroteEach, Run.wroteEach_append]
    rfl
  have hstopped {e : ShellError} :=
    @hfirst.exists_ends_run_iff _ _ _ _ run (.error e) hxs houtput job
  simp only [hboth.exists_ends_run_iff hxys houtput, hstopped, hbothMake, Run.handlesEach_append]
  simp only [hfirst.ends_run hxs houtput]
  constructor
  · rintro ⟨pieces, ⟨front, back, rfl, hfront, hback⟩ | ⟨e, hstops, rfl⟩, hjob⟩
    · exact .inl ⟨_, ⟨front, hfront, rfl⟩, (hnext front).mpr ⟨back, hback, hjob⟩⟩
    · exact .inr ⟨e, ⟨pieces, hstops, hjob⟩, rfl⟩
  · rintro (⟨mid, ⟨front, hfront, rfl⟩, hsecond⟩ | ⟨e, ⟨pieces, hstops, hjob⟩, rfl⟩)
    · obtain ⟨back, hback, hjob⟩ := (hnext front).mp hsecond
      exact ⟨_, .inl ⟨front, back, rfl, hfront, hback⟩, hjob⟩
    · exact ⟨pieces, .inr ⟨e, hstops, rfl⟩, hjob⟩

/-- A file alone: its piece is written, or the run ends with the error that it gives among
others. -/
theorem ends_run_alone (h : TakesFiles name args [file] make) (houtput : run.output.AcceptsAll) :
    (∀ piece, run.gives name (make false) file = .ok piece →
      (builtins.run name args).Ends run (.ok ()) ((run.wrote piece).ran name (.ok ()))) ∧
    ∀ labelled e, run.gives name (make labelled) file = .error e →
      (builtins.run name args).Ends run (.error e) (run.ran name (.error e)) := by
  have hone : make (1 < [file].length) = make false := rfl
  constructor
  · intro piece hgives
    exact (h.ends_run (List.cons_ne_nil _ _) houtput).mpr ⟨[piece], .next hgives .done, rfl⟩
  · intro labelled e hgives
    have hgivesAlone := h.gives_eq_error_iff.mp hgives
    exact (h.ends_run (List.cons_ne_nil _ _) houtput).mpr ⟨[], .stops hgivesAlone, rfl⟩

end TakesFiles

/-- **Files are handled in order.** `cat`, `wc` and `grep` go through the files they are given one
after the other, up to the first that cannot be opened or is no text where text is needed. If the
output is none of the files, what is written to it is what each of the files before that one gives
now, and nothing of that or of a later one; its error is how the run ends. What a file gives, and
which error it is, is so in a run on that file alone, but for labels; a list of files is gone
through as its parts are in two runs, for any other list can be given in the same way; and the input
stays as it is. -/
theorem files_handled_in_order {name : String} {args files : List String} {make : Bool → Making}
    {run : Run} (htakes : TakesFiles name args files make) (hne : files ≠ [])
    (houtput : run.output.AcceptsAll) (hspares : run.Spares files) :
    (∃ pieces outcome,
      ((outcome = .ok () ∧ run.GaveEach name (make (1 < files.length)) files pieces) ∨
        ∃ before file later e, files = before ++ file :: later ∧ outcome = .error e ∧
          run.GaveEach name (make (1 < files.length)) before pieces ∧
          run.gives name (make (1 < files.length)) file = .error e) ∧
      ∀ input, (builtins.run name args).Ends (run.withInput input) outcome
        (((run.wrote pieces.flatten).ran name outcome).withInput input)) ∧
    (∀ others, ∃ more, TakesFiles name more others make) ∧
    (∀ file labelled, (∃ e, run.gives name (make labelled) file = .error e) ↔
      (∃ e, run.opens name file = .error e) ∨
      name ≠ "cat" ∧ ∃ content, run.opens name file = .ok content ∧ ¬ Utf8.IsText content) ∧
    (∀ alone, ∀ file ∈ files, TakesFiles name alone [file] make →
      (∀ piece, run.gives name (make false) file = .ok piece →
        (builtins.run name alone).Ends run (.ok ()) ((run.wrote piece).ran name (.ok ()))) ∧
      ∀ labelled e, run.gives name (make labelled) file = .error e →
        (builtins.run name alone).Ends run (.error e) (run.ran name (.error e))) ∧
    (name ≠ "grep" → ∀ labelled, make labelled = make false) ∧
    ∀ more both others, TakesFiles name more others make → others ≠ [] → run.Spares others →
      TakesFiles name both (files ++ others) make →
      (name = "grep" → 1 < files.length ∧ 1 < others.length) → ∀ outcome job,
        (∃ history, (builtins.run name both).Ends run outcome ⟨job, history⟩) ↔
          (∃ mid, (builtins.run name args).Ends run (.ok ()) mid ∧
            ∃ history, (builtins.run name more).Ends mid outcome ⟨job, history⟩) ∨
          ∃ e, (∃ history, (builtins.run name args).Ends run (.error e) ⟨job, history⟩) ∧
            outcome = .error e := by
  refine ⟨?_, htakes.exists_args, fun file labelled => htakes.exists_gives_error_iff,
    fun alone file _ halone => halone.ends_run_alone houtput, htakes.make_eq, ?_⟩
  · obtain ⟨pieces, outcome, hhandles⟩ :=
      Run.exists_handlesEach name (make (1 < files.length)) run files
    have hgave := (handlesEach_iff_of_same hspares fun _ _ => rfl).mp hhandles
    refine ⟨pieces, outcome, hgave, fun input => ?_⟩
    have hblind := Run.blind_withInput input
    have hsame : (run.withInput input).output.AcceptsAll := houtput
    refine (htakes.ends_run hne hsame).mpr ⟨pieces, hblind.handlesEach_iff.mpr hhandles, ?_⟩
    rw [hblind.wroteEach, Run.wroteEach_eq hspares.1]
    rfl
  · intro more both others hmore hothers _ hboth hlabels outcome job
    exact htakes.ends_run_append hmore hboth hne hothers hlabels houtput

/-- The third of four files is no text. What the search finds in the first two has been written
then, with labels, and the input is as it was. -/
theorem files_handled_in_order_no_text :
    let files := (((FileTree.empty.insert ["f"] (.file (Utf8.encode "x\ny\n".toList))).insert ["g"]
      (.file (Utf8.encode "x".toList))).insert ["b"] (.file [0x78, 0xff])).insert ["h"]
      (.file (Utf8.encode "x".toList))
    let run : Run := ⟨⟨⟨.withDirectory "/", files⟩, ⟨.ofBytes [0x61], .unlimited⟩⟩, []⟩
    let regex : Regex := ⟨.one (.ranges [(0x78, 0x78)])⟩
    let failed := Grep.failed .notUtf8
    let make := matchesOf regex.isMatch 0
    let args := ["x", "f", "g", "b", "h"]
    TakesFiles "grep" args ["f", "g", "b", "h"] make ∧ run.output.AcceptsAll ∧
      run.Spares ["f", "g", "b", "h"] ∧
      (builtins.run "grep" args).Ends run (.error failed)
        ((run.withOutput (.memory (Utf8.encode "f:x\ng:x\n".toList) none)).ran "grep"
          (.error failed)) := by
  intro files run regex failed make args
  have houtput : run.output.AcceptsAll := Sink.acceptsAll_unlimited
  have hscan : grepUsage.scan args = .ok (some ⟨[], [], args⟩) := rfl
  have hregex : Regex.compile false (Grep.expression false "x") = .ok regex := rfl
  have htakes : TakesFiles "grep" args ["f", "g", "b", "h"] make := .ofGrep hscan rfl hregex
  have hspares : run.Spares ["f", "g", "b", "h"] := .memory rfl _
  obtain ⟨pieces, outcome, hgave, hends⟩ :=
    (files_handled_in_order htakes (List.cons_ne_nil _ _) houtput hspares).1
  have hexpected : run.HandlesEach "grep" (make true) ["f", "g", "b", "h"]
      [Utf8.encode "f:x\n".toList, Utf8.encode "g:x\n".toList] (.error failed) :=
    .next (by decide +kernel) (.next (by decide +kernel) (.stops (by decide +kernel)))
  have hhandles := (handlesEach_iff_of_same hspares fun _ _ => rfl).mpr hgave
  obtain ⟨rfl, rfl⟩ := hhandles.unique hexpected
  exact ⟨htakes, houtput, hspares, hends (.ofBytes [0x61])⟩

/-- The output is appended to the second file. So that file holds the counts of the first one, too,
when it is read, and they are counted with it; alone it gives less. -/
theorem files_handled_in_order_own_output :
    let files := (FileTree.empty.insert ["f"] (.file (Utf8.encode "a\n".toList))).insert ["g"]
      (.file (Utf8.encode "b\n".toList))
    let run : Run := ⟨⟨⟨.withDirectory "/", files⟩, ⟨.empty, .file ["g"] none⟩⟩, []⟩
    let appended (text : String) : Run := (run.wrote (Utf8.encode text.toList)).ran "wc" (.ok ())
    run.output.AcceptsAll ∧
      (builtins.run "wc" ["f"]).Ends run (.ok ()) (appended "1 1 2 f\n") ∧
      (builtins.run "wc" ["g"]).Ends run (.ok ()) (appended "1 1 2 g\n") ∧
      ¬ (builtins.run "wc" ["f", "g"]).Ends run (.ok ()) (appended "1 1 2 f\n1 1 2 g\n") ∧
      (builtins.run "wc" ["f", "g"]).Ends run (.ok ()) (appended "1 1 2 f\n2 5 10 g\n") := by
  refine ⟨fun _ => Nat.le_refl _, ?_, ?_, ?_, ?_⟩ <;> decide +kernel

end LineShell
