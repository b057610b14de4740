import Mathlib
import LineShell.Proofs.Rereading

/-!
# Files one after the other

The applications that take a list of files share one loop: they read a file, make something of its
content, write that, and go on to the next file. What cannot be opened, or is no text where text is
needed, ends the loop, and nothing of that file has been written then. So a list of files is handled
as its parts are, one behind the other, and neither a file behind the first bad one nor the input
makes any difference.
-/

namespace LineShell

/-! ### The loop -/

/-- What is made of the content of a file of some name, or the error that it is. -/
abbrev Making := String → Bytes → Except ShellError Bytes

/-- Each file in turn is read, and what is made of it is written. -/
def handleFiles (name : String) (make : Making) : List String → Action ShellError Unit
  | [] => return ()
  | file :: files => do
    let content ← readFile name file
    match make file content with
    | .ok bytes =>
      emitBytes name bytes
      handleFiles name make files
    | .error e => throw e

/-- What is made of a text; bytes that are no text are an error. -/
def ofText (render : List Char → List Char) (e : ShellError) (content : Bytes) :
    Except ShellError Bytes :=
  match Utf8.decode? content with
  | some text => .ok (Utf8.encode (render text))
  | none => .error e

theorem ofText_eq_error_iff {render : List Char → List Char} {e other : ShellError}
    {content : Bytes} :
    ofText render e content = .error other ↔ ¬ Utf8.IsText content ∧ e = other := by
  cases h : Utf8.decode? content <;> simp [ofText, Utf8.IsText, h]

theorem throw_bind {α β : Type} (e : ShellError) (f : α → Action ShellError β) :
    (throw e : Action ShellError α) >>= f = throw e := rfl

/-- `cat` takes the content as it is. -/
def contentOf : Making := fun _ content => .ok content

theorem copyFiles_eq (files : List String) :
    copyFiles files = handleFiles "cat" contentOf files := by
  induction files with
  | nil => rfl
  | cons file files ih => simp only [copyFiles, handleFiles, contentOf, ih]

/-- The line of counts of a file that is named. -/
def countsLine (selection : CountSelection) (file : String) (text : List Char) : List Char :=
  (selection.report (some file) (.of text)).toList ++ ['\n']

def countsOf (selection : CountSelection) : Making := fun file =>
  ofText (countsLine selection file)
    (.application "wc" (file ++ ": cannot read: " ++ IoFault.notUtf8.text))

theorem countFiles_eq (selection : CountSelection) (files : List String) :
    countFiles selection files = handleFiles "wc" (countsOf selection) files := by
  induction files with
  | nil => rfl
  | cons file files ih =>
    rw [countFiles, readTextFile, bind_assoc, handleFiles]
    refine bind_congr fun content => ?_
    cases h : Utf8.decode? content with
    | none => simp only [countsOf, ofText, h, complain, throw_bind]
    | some text => simp only [countsOf, ofText, h, pure_bind, ih, printCounts, emit, countsLine]

theorem fileLines_eq (file : String) :
    Grep.fileLines file = readFile "grep" file >>= fun content =>
      match Utf8.decode? content with
      | some text => pure (Text.lines text)
      | none => throw (Grep.failed .notUtf8) := by
  rw [Grep.fileLines]
  refine bind_congr fun content => ?_
  cases h : Utf8.decode? content with
  | none =>
    obtain ⟨left, hlines⟩ := Source.readLines_of_not_text h
    simp only [hlines]
  | some text => simp only [Source.readLines_of_text h]

/-- The windows of the matches, with the name as their label if there are several files. -/
def matchesOf (isMatch : List Char → Bool) (context : Nat) (labelled : Bool) : Making :=
  fun file => ofText (fun text =>
    Grep.output isMatch context (if labelled then some file else none) (Text.lines text))
    (Grep.failed .notUtf8)

theorem searchFiles_eq (isMatch : List Char → Bool) (context : Nat) (labelled : Bool)
    (files : List String) :
    Grep.searchFiles isMatch context labelled files =
      handleFiles "grep" (matchesOf isMatch context labelled) files := by
  induction files with
  | nil => rfl
  | cons file files ih =>
    rw [Grep.searchFiles, fileLines_eq, bind_assoc, handleFiles]
    refine bind_congr fun content => ?_
    cases h : Utf8.decode? content with
    | none => simp only [matchesOf, ofText, h, throw_bind]
    | some text => simp only [matchesOf, ofText, h, pure_bind, ih, emit]

/-! ### How the loop ends -/

/-- The content of the file as it is now, or the error of opening it. -/
def Run.opens (run : Run) (name file : String) : Except ShellError Bytes :=
  (run.job.world.files.read (run.job.world.environment.resolve file)).mapError fun fault =>
    .application name (file ++ ": " ++ fault.describe)

/-- What the file gives now: what is made of its content, or an error. -/
def Run.gives (run : Run) (name : String) (make : Making) (file : String) :
    Except ShellError Bytes :=
  run.opens name file >>= make file

theorem Run.gives_of_opens {run : Run} {name file : String} {content : Bytes}
    (h : run.opens name file = .ok content) (make : Making) :
    run.gives name make file = make file content := by
  rw [Run.gives, h]
  rfl

theorem Run.gives_of_opens_error {run : Run} {name file : String} {e : ShellError}
    (h : run.opens name file = .error e) (make : Making) :
    run.gives name make file = .error e := by
  rw [Run.gives, h]
  rfl

/-- The run after its output has taken the pieces, one after the other. -/
def Run.wroteEach (run : Run) (pieces : List Bytes) : Run := pieces.foldl Run.wrote run

/-- The files are handled one after the other: each gives its piece, which is written before the
next one is read, up to the first that gives an error. -/
inductive Run.HandlesEach (name : String) (make : Making) :
    Run → List String → List Bytes → Except ShellError Unit → Prop
  | done {run : Run} : HandlesEach name make run [] [] (.ok ())
  | stops {run : Run} {file : String} {files : List String} {e : ShellError}
      (here : run.gives name make file = .error e) :
      HandlesEach name make run (file :: files) [] (.error e)
  | next {run : Run} {file : String} {files : List String} {bytes : Bytes} {pieces : List Bytes}
      {outcome : Except ShellError Unit} (here : run.gives name make file = .ok bytes)
      (others : HandlesEach name make (run.wrote bytes) files pieces outcome) :
      HandlesEach name make run (file :: files) (bytes :: pieces) outcome

section Loop

variable {name : String} {make : Making} {files : List String} {run after : Run}
  {outcome : Except ShellError Unit}

theorem Run.wroteEach_output (run : Run) (pieces : List Bytes) :
    (run.wroteEach pieces).output = run.output.took pieces.flatten := by
  induction pieces generalizing run with
  | nil => exact (Sink.took_nil _).symm
  | cons bytes pieces ih =>
    rw [Run.wroteEach, List.foldl_cons, ← Run.wroteEach, ih, Run.wrote_output, Sink.took_took,
      List.flatten_cons]

theorem Run.wroteEach_append (run : Run) (front back : List Bytes) :
    run.wroteEach (front ++ back) = (run.wroteEach front).wroteEach back :=
  List.foldl_append

theorem Run.wroteEach_history (run : Run) (pieces : List Bytes) :
    (run.wroteEach pieces).history = run.history := by
  induction pieces generalizing run with
  | nil => rfl
  | cons bytes pieces ih => exact ih (run.wrote bytes)

theorem Run.wroteEach_eq (h : run.output.Stands run.job.world.files) (pieces : List Bytes) :
    run.wroteEach pieces = run.wrote pieces.flatten := by
  induction pieces generalizing run with
  | nil => exact (Run.wrote_nil h).symm
  | cons bytes pieces ih =>
    rw [Run.wroteEach, List.foldl_cons, ← Run.wroteEach, List.flatten_cons,
      ← Run.wrote_wrote h.placed]
    exact ih (Run.stands_wrote h.placed bytes)

theorem ends_readFile {file : String} {content : Except ShellError Bytes} :
    (Eval.onJob (readFile name file)).Ends run content after ↔
      content = run.opens name file ∧ after = run := by
  have happly : Eval.onJob (readFile name file) run =
      match run.opens name file with
      | .ok bytes => some (.ok bytes run)
      | .error e => some (.error e run) := by
    unfold Run.opens
    cases h : run.job.world.files.read (run.job.world.environment.resolve file) <;>
      simp only [Eval.onJob, readFile, bind, EStateM.bind, Job.environment, Job.files, h] <;> rfl
  cases h : run.opens name file <;> cases content <;> simp [Eval.Ends, happly, h, eq_comm]

theorem Eval.ends_onJob_throw {α : Type} {e : ShellError} {outcome : Except ShellError α} :
    (Eval.onJob (throw e)).Ends run outcome after ↔ outcome = .error e ∧ after = run :=
  Eval.ends_fail

/-- The first file decides whether the loop goes on. -/
theorem ends_handleFiles_cons (houtput : run.output.AcceptsAll) (file : String) :
    (Eval.onJob (handleFiles name make (file :: files))).Ends run outcome after ↔
      (∃ bytes, run.gives name make file = .ok bytes ∧
        (Eval.onJob (handleFiles name make files)).Ends (run.wrote bytes) outcome after) ∨
      ∃ e, run.gives name make file = .error e ∧ outcome = .error e ∧ after = run := by
  rw [handleFiles, Eval.onJob_bind, Eval.ends_bind]
  simp only [ends_readFile]
  cases hopens : run.opens name file with
  | error e => simp [Run.gives_of_opens_error hopens, and_comm]
  | ok content =>
    have hgives := Run.gives_of_opens hopens make
    cases hmake : make file content with
    | error e => simp [hgives, hmake, Eval.ends_onJob_throw]
    | ok bytes =>
      have hemits {outcome : Except ShellError Unit} {after : Run} :
          (Eval.onJob (emitBytes name bytes)).Ends run outcome after ↔
            outcome = .ok () ∧ after = run.wrote bytes := by
        rw [emitBytes, Eval.ends_onJob_write]
        simp [houtput bytes]
      simp [hgives, hmake, Eval.onJob_bind, Eval.ends_bind, hemits]

theorem ends_handleFiles (houtput : run.output.AcceptsAll) :
    (Eval.onJob (handleFiles name make files)).Ends run outcome after ↔
      ∃ pieces, run.HandlesEach name make files pieces outcome ∧ after = run.wroteEach pieces := by
  induction files generalizing run with
  | nil =>
    have hnothing : Eval.onJob (handleFiles name make []) = pure () := rfl
    rw [hnothing, Eval.ends_pure]
    constructor
    · rintro ⟨rfl, rfl⟩
      exact ⟨[], .done, rfl⟩
    · rintro ⟨pieces, ⟨-⟩, rfl⟩
      exact ⟨rfl, rfl⟩
  | cons file files ih =>
    have hnext (bytes : Bytes) : (run.wrote bytes).output.AcceptsAll := by
      rw [Run.wrote_output]
      exact houtput.took bytes
    rw [ends_handleFiles_cons houtput]
    constructor
    · rintro (⟨bytes, hgives, hends⟩ | ⟨e, hgives, rfl, rfl⟩)
      · obtain ⟨pieces, hothers, rfl⟩ := (ih (hnext bytes)).mp hends
        exact ⟨bytes :: pieces, .next hgives hothers, rfl⟩
      · exact ⟨[], .stops hgives, rfl⟩
    · rintro ⟨pieces, hhandles, rfl⟩
      cases hhandles with
      | stops hgives => exact .inr ⟨_, hgives, rfl, rfl⟩
      | next hgives hothers =>
        exact .inl ⟨_, hgives, (ih (hnext _)).mpr ⟨_, hothers, rfl⟩⟩

theorem Run.exists_handlesEach (name : String) (make : Making) (run : Run) (files : List String) :
    ∃ pieces outcome, run.HandlesEach name make files pieces outcome := by
  induction files generalizing run with
  | nil => exact ⟨[], _, .done⟩
  | cons file files ih =>
    cases hgives : run.gives name make file with
    | error e => exact ⟨[], _, .stops hgives⟩
    | ok bytes =>
      obtain ⟨pieces, outcome, hothers⟩ := ih (run.wrote bytes)
      exact ⟨bytes :: pieces, outcome, .next hgives hothers⟩

theorem Run.HandlesEach.unique {pieces others : List Bytes} {other : Except ShellError Unit}
    (h : run.HandlesEach name make files pieces outcome)
    (hother : run.HandlesEach name make files others other) :
    pieces = others ∧ outcome = other := by
  induction h generalizing others with
  | done =>
    cases hother
    exact ⟨rfl, rfl⟩
  | stops here =>
    cases hother with
    | stops hsame =>
      obtain rfl := Except.error.inj (here.symm.trans hsame)
      exact ⟨rfl, rfl⟩
    | next hdiffers others => exact nomatch here.symm.trans hdiffers
  | next here others ih =>
    cases hother with
    | stops hdiffers => exact nomatch here.symm.trans hdiffers
    | next hsame others =>
      obtain rfl := Except.ok.inj (here.symm.trans hsame)
      obtain ⟨rfl, rfl⟩ := ih others
      exact ⟨rfl, rfl⟩

end Loop

/-! ### Outputs that are none of the files -/

/-- What the files give does not depend on what has been written. -/
theorem Run.Spares.gives_wrote {run : Run} {files : List String} (h : run.Spares files)
    (bytes : Bytes) (name : String) (make : Making) :
    ∀ file ∈ files, (run.wrote bytes).gives name make file = run.gives name make file := by
  intro file hfile
  have hread := h.read_wrote bytes file hfile
  have henvironment : (run.wrote bytes).job.world.environment = run.job.world.environment := rfl
  rw [Run.gives, Run.gives, Run.opens, Run.opens, henvironment, hread]

section Loop

variable {name : String} {make : Making} {files : List String} {run now : Run}
  {pieces : List Bytes} {outcome : Except ShellError Unit}

/-- The files gave these pieces from the beginning. -/
abbrev Run.GaveEach (run : Run) (name : String) (make : Making) :
    List String → List Bytes → Prop :=
  List.Forall₂ fun file piece => run.gives name make file = .ok piece

/-- The induction is over the files that are left: what they give is what they gave. -/
theorem handlesEach_iff_of_same (hspares : now.Spares files)
    (hsame : ∀ file ∈ files, now.gives name make file = run.gives name make file) :
    now.HandlesEach name make files pieces outcome ↔
      (outcome = .ok () ∧ run.GaveEach name make files pieces) ∨
      ∃ before file later e, files = before ++ file :: later ∧ outcome = .error e ∧
        run.GaveEach name make before pieces ∧ run.gives name make file = .error e := by
  induction files generalizing now pieces with
  | nil =>
    constructor
    · rintro ⟨-⟩
      exact .inl ⟨rfl, .nil⟩
    · rintro (⟨rfl, ⟨-⟩⟩ | ⟨before, file, later, e, hfiles, -⟩)
      · exact .done
      · simp at hfiles
  | cons file files ih =>
    obtain ⟨hfile, hfiles⟩ := List.forall_mem_cons.mp hsame
    have hnext (bytes : Bytes) (pieces : List Bytes) :=
      @ih (now.wrote bytes) pieces (hspares.tail.wrote bytes) fun other h =>
        (hspares.tail.gives_wrote bytes name make other h).trans (hfiles other h)
    constructor
    · intro hhandles
      cases hhandles with
      | stops here => exact .inr ⟨[], file, files, _, rfl, rfl, .nil, hfile ▸ here⟩
      | @next _ _ _ bytes pieces _ here others =>
        rcases (hnext bytes pieces).mp others with
          ⟨rfl, hgave⟩ | ⟨before, bad, later, e, rfl, rfl, hgave, hbad⟩
        · exact .inl ⟨rfl, .cons (hfile ▸ here) hgave⟩
        · exact .inr ⟨file :: before, bad, later, e, rfl, rfl, .cons (hfile ▸ here) hgave, hbad⟩
    · rintro (⟨rfl, hgave⟩ | ⟨before, bad, later, e, hsplit, rfl, hgave, hbad⟩)
      · cases hgave with
        | cons here hgave =>
          exact .next (hfile.trans here) ((hnext _ _).mpr (.inl ⟨rfl, hgave⟩))
      · rcases List.cons_eq_append_iff.mp hsplit with ⟨rfl, hcons⟩ | ⟨before, rfl, rfl⟩
        · obtain ⟨rfl, rfl⟩ := List.cons.inj hcons
          obtain ⟨-⟩ := hgave
          exact .stops (hfile.trans hbad)
        · cases hgave with
          | cons here hgave =>
            exact .next (hfile.trans here)
              ((hnext _ _).mpr (.inr ⟨before, bad, later, e, rfl, rfl, hgave, hbad⟩))

/-- Neither the files nor the output depend on it. -/
structure Run.Blind (change : Run → Run) : Prop where
  opens (run : Run) (name file : String) : (change run).opens name file = run.opens name file
  wrote (run : Run) (bytes : Bytes) : (change run).wrote bytes = change (run.wrote bytes)

namespace Run.Blind

variable {change : Run → Run}

theorem wroteEach (h : Run.Blind change) (run : Run) (pieces : List Bytes) :
    (change run).wroteEach pieces = change (run.wroteEach pieces) := by
  induction pieces generalizing run with
  | nil => rfl
  | cons bytes pieces ih =>
    exact (congrArg (Run.wroteEach · pieces) (h.wrote run bytes)).trans (ih _)

theorem handlesEach_iff (h : Run.Blind change) :
    (change run).HandlesEach name make files pieces outcome ↔
      run.HandlesEach name make files pieces outcome := by
  have hgives (run : Run) (file : String) :
      (change run).gives name make file = run.gives name make file := by
    rw [Run.gives, h.opens, Run.gives]
  induction files generalizing run pieces with
  | nil =>
    constructor <;>
    · rintro ⟨-⟩
      exact .done
  | cons file files ih =>
    constructor
    · intro hhandles
      cases hhandles with
      | stops here => exact .stops (hgives run file ▸ here)
      | next here others => exact .next (hgives run file ▸ here) (ih.mp (h.wrote run _ ▸ others))
    · intro hhandles
      cases hhandles with
      | stops here => exact .stops ((hgives run file).trans here)
      | next here others =>
        refine .next ((hgives run file).trans here) ?_
        rw [h.wrote]
        exact ih.mpr others

end Run.Blind

theorem Run.handlesEach_append {xs ys : List String} :
    run.HandlesEach name make (xs ++ ys) pieces outcome ↔
      (∃ front back, pieces = front ++ back ∧ run.HandlesEach name make xs front (.ok ()) ∧
        (run.wroteEach front).HandlesEach name make ys back outcome) ∨
      ∃ e, run.HandlesEach name make xs pieces (.error e) ∧ outcome = .error e := by
  induction xs generalizing run pieces with
  | nil =>
    constructor
    · exact fun h => .inl ⟨[], pieces, rfl, .done, h⟩
    · rintro (⟨front, back, rfl, ⟨-⟩, h⟩ | ⟨e, ⟨-⟩, -⟩)
      exact h
  | cons file xs ih =>
    constructor
    · intro hhandles
      cases hhandles with
      | stops here => exact .inr ⟨_, .stops here, rfl⟩
      | next here others =>
        rcases ih.mp others with ⟨front, back, rfl, hfront, hback⟩ | ⟨e, hstops, rfl⟩
        · exact .inl ⟨_ :: front, back, rfl, .next here hfront, hback⟩
        · exact .inr ⟨e, .next here hstops, rfl⟩
    · rintro (⟨front, back, rfl, hfront, hback⟩ | ⟨e, hstops, rfl⟩)
      · cases hfront with
        | next here others => exact .next here (ih.mpr (.inl ⟨_, back, rfl, others, hback⟩))
      · cases hstops with
        | stops here => exact .stops here
        | next here others => exact .next here (ih.mpr (.inr ⟨e, others, rfl⟩))

end Loop

end LineShell
