import LineShell.Proofs.Actions
import LineShell.Proofs.Capture
import LineShell.Proofs.Interleaving
import LineShell.Proofs.Walks

/-!
# Writing to files line by line

A line that echoes one text into a file, both the text and the name of the file in single quotes,
does to this file what its operator says and nothing else to anything: `>` makes the text all that
the file holds, `>>` puts it behind what the file holds. The file is found again by every line that
names it, so a run of such lines leaves in it the texts from the last `>` on.
-/

namespace LineShell

open FileTree (Opening)
open Text (isLineBreak)

/-- The line that echoes a text into a file, without anything around the text. -/
def writeLine (opening : Opening) (text name : String) : String :=
  "echo -n -- " ++ escape text ++ " " ++ (Redirection.Direction.output opening).operator ++ " " ++
    escape name

/-- The line that writes out what a file holds. -/
def catLine (name : String) : String := "cat -- " ++ escape name

/-- The file at the location holds these bytes, and the history has grown. Nothing else has
changed. -/
structure Run.Stores (before : Run) (location : Location) (bytes : Bytes) (after : Run) : Prop where
  files : before.job.world.files.Puts location bytes after.job.world.files
  environment : after.job.world.environment = before.job.world.environment
  streams : after.job.streams = before.job.streams

theorem Run.Stores.trans {before mid after : Run} {location : Location} {bytes more : Bytes}
    (hfirst : before.Stores location bytes mid) (hlater : mid.Stores location more after) :
    before.Stores location more after :=
  ⟨hfirst.files.trans hlater.files, hlater.environment.trans hfirst.environment,
    hlater.streams.trans hfirst.streams⟩

/-! ### Running `cat` -/

section Cat

variable {name file : String} {args : List String} {bytes : Bytes} {run last : Run}
  {outcome : Except ShellError Unit} {application : Application}

theorem cat_operands (hne : args ≠ []) : cat ("--" :: args) = copyFiles args := by
  unfold cat
  rw [Usage.application_of_scan (Usage.scan_operands rfl rfl rfl rfl)]
  simp [hne]

theorem cat_file (file : String) : cat ["--", file] = readFile "cat" file >>= emitBytes "cat" := by
  rw [cat_operands (List.cons_ne_nil _ _)]
  simp only [copyFiles, bind_pure_unit]

theorem readFile_ok {job : Job}
    (h : job.world.files.read (job.world.environment.resolve file) = .ok bytes) :
    readFile name file job = .ok bytes job := by
  simp only [readFile, bind, EStateM.bind, Job.environment, Job.files, h]
  rfl

theorem readFile_error (name : String) {job : Job} {fault : IoFault}
    (h : job.world.files.read (job.world.environment.resolve file) = .error fault) :
    ∃ e, readFile name file job = .error e job := by
  simp only [readFile, bind, EStateM.bind, Job.environment, Job.files, h]
  exact ⟨_, rfl⟩

/-- What an application does is what an action does somewhere. -/
theorem ends_run_of_eq {action : Action ShellError Unit} {start : Run}
    (hlookup : builtins.lookup name = some application)
    (happly : application args run.job = action start.job)
    (hends : (Eval.onJob action).Ends start outcome last) :
    (builtins.run name args).Ends run outcome
      ⟨last.job, .ran name (failure? outcome) :: run.history⟩ := by
  obtain ⟨job, hjob, rfl⟩ := Eval.ends_onJob.mp hends
  exact Registry.ends_run.mpr
    (.inr ⟨application, _, hlookup, Eval.ends_onJob.mpr ⟨job, happly.trans hjob, rfl⟩, rfl⟩)

theorem ends_run_of_error {e : ShellError} {left : Job}
    (hlookup : builtins.lookup name = some application)
    (happly : application args run.job = .error e left) :
    (builtins.run name args).Ends run (.error e) ⟨left, .ran name (some e) :: run.history⟩ :=
  Registry.ends_run.mpr
    (.inr ⟨application, _, hlookup, Eval.ends_onJob.mpr ⟨left, happly, rfl⟩, rfl⟩)

theorem ends_cat
    (hread : run.job.world.files.read (run.job.world.environment.resolve file) = .ok bytes)
    (hfits : run.output.Fits bytes) :
    (builtins.run "cat" ["--", file]).Ends run (.ok ())
      ⟨(run.wrote bytes).job, .ran "cat" none :: run.history⟩ := by
  have hlookup : builtins.lookup "cat" = some cat := rfl
  have hemits : (Eval.onJob (emitBytes "cat" bytes)).Ends run (.ok ()) (run.wrote bytes) :=
    Eval.ends_onJob_write.mpr (.inl ⟨hfits, rfl, rfl⟩)
  refine ends_run_of_eq hlookup ?_ hemits
  rw [cat_file]
  simp only [bind, EStateM.bind, readFile_ok hread]

theorem ends_cat_error {fault : IoFault}
    (hread : run.job.world.files.read (run.job.world.environment.resolve file) = .error fault) :
    ∃ e, (builtins.run "cat" ["--", file]).Ends run (.error e)
      ⟨run.job, .ran "cat" (some e) :: run.history⟩ := by
  have hlookup : builtins.lookup "cat" = some cat := rfl
  obtain ⟨e, he⟩ := readFile_error "cat" hread
  refine ⟨e, ends_run_of_error hlookup ?_⟩
  rw [cat_file]
  simp only [bind, EStateM.bind, he]

end Cat

/-! ### One line -/

section Line

variable {context : Context} {opening : Opening} {text name : String}

theorem interleaves_writeLine (opening : Opening) (text name : String) :
    Redirection.Interleaves ["echo", "-n", "--", escape text] [(.output opening, escape name)]
      ["echo", "-n", "--", escape text, (Redirection.Direction.output opening).operator,
        escape name] :=
  .word rfl (.word rfl (.word rfl (.word (Redirection.operator?_escape text)
    (.redirection (Redirection.operator?_escape name) .nil))))

theorem parse_writeLine (htext : OneLine text.toList) (hname : OneLine name.toList) :
    Command.parse (writeLine opening text name) =
      .ok (.call ⟨["echo", "-n", "--", escape text,
        (Redirection.Direction.output opening).operator, escape name]⟩) := by
  have hline : writeLine opening text name = " ".intercalate ["echo", "-n", "--", escape text,
      (Redirection.Direction.output opening).operator, escape name] := by
    apply String.toList_injective
    simp [writeLine]
  have hoperator : IsToken (Redirection.Direction.output opening).operator := by
    cases opening with
    | truncate => exact .inr (.inl rfl)
    | append => exact .inr (.inr (.inl rfl))
  rw [hline]
  refine parse_call (List.cons_ne_nil _ _) ?_
  show ∀ token ∈ ["echo", "-n", "--"] ++ [escape text, _, escape name], IsToken token
  refine List.forall_mem_append.mpr ⟨fun token h => (isWordToken_echo token h).isToken, ?_⟩
  simp only [List.forall_mem_cons, List.not_mem_nil, false_implies, implies_true, and_true]
  exact ⟨(isWordToken_escape htext).isToken, hoperator, (isWordToken_escape hname).isToken⟩

/-- What is written to a file that has just been opened stands behind what has been kept of it. -/
theorem puts_accept_sinkAt {files : FileTree} {location : Location} {held : Bytes}
    (h : files.get? location = some (.file (opening.kept held))) (bytes : Bytes) :
    files.Puts location (opening.kept held ++ bytes)
      ((Redirection.sinkAt opening location).accept files bytes).2 := by
  have hcontent : files.contentAt location = opening.kept held := by
    rw [FileTree.contentAt, h]
  have hputs := FileTree.Puts.insert (.inr ⟨_, h⟩) (opening.kept held ++ bytes)
  cases opening with
  | truncate =>
    have hwritten : FileTree.overlay [] 0 bytes = bytes := FileTree.overlay_length [] bytes
    simpa [Redirection.sinkAt, Sink.accept, FileTree.writeAt, hwritten, hcontent,
      Opening.kept] using hputs
  | append => simpa [Redirection.sinkAt, Sink.accept, FileTree.appendTo, hcontent] using hputs

theorem ends_writeLine {run : Run} {location : Location} (opening : Opening)
    (hregistry : context.registry = builtins) (htext : OneLine text.toList)
    (hname : OneLine name.toList)
    (hlocate : run.job.world.files.locate true (run.job.world.environment.resolve name) =
      .ok location)
    (htakes : run.job.world.files.TakesFile location) :
    ∃ after, (evaluateLine context (writeLine opening text name)).Ends run (.ok ()) after ∧
      run.Stores location
        (opening.kept (run.job.world.files.contentAt location) ++ Utf8.encode text.toList)
        after := by
  obtain ⟨files, hcreated⟩ := FileTree.openOutput_of_locate opening hlocate htakes
  obtain ⟨-, hopened⟩ := FileTree.openOutput_ok hcreated
  let opened : Redirection.Files := ⟨none, some (Redirection.sinkAt opening location)⟩
  let shell : Shell := { run.shell with world.files := files }
  let entered : Run := opened.enter (run.resume shell)
  have hnamed : (Argument.resolve context.substitute (escape name)).Ends run.shell (.ok [name])
      run.shell := by
    rw [Argument.resolve_escape]
    exact Eval.ends_pure.mpr ⟨rfl, rfl⟩
  have hopens : ([(.output opening, escape name)].foldlM (Redirection.openNext context.substitute)
      .unopened).Ends run.shell (.ok opened) shell :=
    Redirection.ends_foldlM_openNext_ok.mpr (.cons (.output hnamed hcreated) .nil)
  have hwords : (Argument.resolveAll context.substitute ["echo", "-n", "--", escape text]).Ends
      shell (.ok ["echo", "-n", "--", text]) shell := by
    have hplain : Argument.resolveAll context.substitute [escape text] = pure [text] :=
      Argument.resolveAll_escape [text]
    rw [resolveAll_echo, hplain]
    exact Eval.ends_pure.mpr ⟨rfl, rfl⟩
  have hran : (builtins.run "echo" ["-n", "--", text]).Ends entered (.ok ())
      (entered.echoed text.toList) := by
    refine ends_echo (by simp) ?_
    cases opening <;> exact le_rfl
  refine ⟨opened.leave (run.resume shell) (entered.echoed text.toList), ?_, ?_⟩
  · rw [evaluateLine_of_parse_call (parse_writeLine htext hname),
      Call.evaluate_of_interleaves (interleaves_writeLine opening text name) (List.cons_ne_nil _ _),
      hregistry]
    refine Eval.ends_bind_ok.mpr ⟨_, _, Eval.ends_onShell.mpr ⟨_, hopens, rfl⟩, ?_⟩
    refine Eval.ends_bind_ok.mpr ⟨_, _, Eval.ends_onShell.mpr ⟨_, hwords, rfl⟩, ?_⟩
    exact Redirection.Files.ends_redirect.mpr ⟨_, hran, rfl⟩
  · refine ⟨hopened.trans (puts_accept_sinkAt hopened.there _), rfl, ?_⟩
    rfl

theorem parse_catLine (hname : OneLine name.toList) :
    Command.parse (catLine name) = .ok (.call ⟨["cat", "--", escape name]⟩) := by
  have hline : catLine name = " ".intercalate ["cat", "--", escape name] := by
    apply String.toList_injective
    simp [catLine]
  have hcat : IsWordToken "cat" := ⟨by decide, rfl, by simp [isLineBreak], by decide⟩
  rw [hline]
  refine parse_call (List.cons_ne_nil _ _) ?_
  simp only [List.forall_mem_cons, List.not_mem_nil, false_implies, implies_true, and_true]
  exact ⟨hcat.isToken, (isWordToken_echo "--" (by simp)).isToken,
    (isWordToken_escape hname).isToken⟩

theorem ends_catLine {run : Run} {location : Location} {bytes : Bytes}
    (hregistry : context.registry = builtins) (hname : OneLine name.toList)
    (hlocate : run.job.world.files.locate false (run.job.world.environment.resolve name) =
      .ok location)
    (hfile : run.job.world.files.get? location = some (.file bytes))
    (hfits : run.output.Fits bytes) :
    (evaluateLine context (catLine name)).Ends run (.ok ())
      { run.wrote bytes with history := .ran "cat" none :: run.history } := by
  have hwords : Argument.resolveAll context.substitute ["cat", "--", escape name] =
      pure ["cat", "--", name] := by
    have hcat : Argument.resolve context.substitute "cat" = pure ["cat"] := rfl
    have hdashes : Argument.resolve context.substitute "--" = pure ["--"] := rfl
    simp only [Argument.resolveAll, hcat, hdashes, Argument.resolve_escape, pure_bind]
    rfl
  have hoperators : ∀ token ∈ ["cat", "--", escape name], Redirection.operator? token = none := by
    simp only [List.forall_mem_cons, List.not_mem_nil, false_implies, implies_true, and_true]
    exact ⟨rfl, rfl, Redirection.operator?_escape name⟩
  rw [evaluateLine_of_parse_call (parse_catLine hname), Call.evaluate_eq,
    Call.prepare_of_words context.substitute (List.cons_ne_nil _ _) hoperators, hwords, pure_bind,
    Eval.onShell_pure, pure_bind, Call.dispatch, Redirection.Files.redirect_unopened, hregistry]
  exact ends_cat (FileTree.read_of_locate hlocate hfile) hfits

end Line

/-! ### Files to write to -/

namespace FileTree

variable {tree : FileTree} {path : String} {location : Location} {content : Bytes}

/-- The path leads to a file with this content; or it leads to a place in a directory where nothing
stands, under a name that may be created there. -/
inductive Target (tree : FileTree) (path : String) : Location → Bytes → Prop
  | file {location : Location} {content : Bytes} (found : tree.locate false path = .ok location)
      (holds : tree.get? location = some (.file content)) : Target tree path location content
  | absent {location : Location} (found : tree.locate true path = .ok location)
      (missing : tree.get? location = none) : Target tree path location []

theorem Target.locate_eq (h : tree.Target path location content) :
    tree.locate true path = .ok location := by
  cases h with
  | file found holds =>
    obtain ⟨hnul, hshort, hleads⟩ := locate_eq_ok_iff.mp found
    have hne : tree.get? location ≠ some .directory := by simp [holds]
    exact locate_eq_ok_iff.mpr ⟨hnul, hshort, hleads.creating_of_ne_directory hne⟩
  | absent found missing => exact found

theorem Target.takesFile (h : tree.Target path location content) : tree.TakesFile location := by
  cases h with
  | file found holds => exact .inr ⟨content, holds⟩
  | absent found missing => exact .inl missing

theorem Target.contentAt_eq (h : tree.Target path location content) :
    tree.contentAt location = content := by
  cases h with
  | file found holds => rw [contentAt, holds]
  | absent found missing => rw [contentAt, missing]

/-- A name that is missing in a directory, behind the path of the directory. -/
theorem Target.of_name {folder name : String} {directory : Location}
    (hfound : tree.locate false folder = .ok directory)
    (hdirectory : tree.get? directory = some .directory) (hname : Path.IsName name)
    (hnul : '\x00' ∉ name.toList) (hshort : name.utf8ByteSize ≤ longestName)
    (hpath : (folder ++ "/" ++ name).utf8ByteSize < pathLimit)
    (hmissing : tree.get? (directory ++ [name]) = none) :
    tree.Target (folder ++ "/" ++ name) (directory ++ [name]) [] := by
  obtain ⟨hfolderNul, -, hleads⟩ := locate_eq_ok_iff.mp hfound
  refine .absent (locate_eq_ok_iff.mpr ⟨?_, hpath, ?_⟩) hmissing
  · simp [hfolderNul, hnul]
  · rw [Path.parts_append_name hname.2]
    exact hleads.append_name hdirectory hname.1 hshort hmissing

end FileTree

/-! ### Runs of lines -/

/-- What a file holds after such lines. -/
def stored (content : Bytes) (writes : List (Opening × String)) : Bytes :=
  writes.foldl (fun held write => write.1.kept held ++ Utf8.encode write.2.toList) content

theorem stored_of_append {writes : List (Opening × String)}
    (h : ∀ write ∈ writes, write.1 = .append) (content : Bytes) :
    stored content writes = content ++ writes.flatMap fun write => Utf8.encode write.2.toList := by
  induction writes generalizing content with
  | nil => exact (List.append_nil content).symm
  | cons write writes ih =>
    obtain ⟨hwrite, hwrites⟩ := List.forall_mem_cons.mp h
    rw [stored, List.foldl_cons, ← stored, ih hwrites, hwrite, List.flatMap_cons,
      ← List.append_assoc]
    rfl

theorem stored_truncate (content : Bytes) (before later : List (Opening × String)) (text : String) :
    stored content (before ++ (.truncate, text) :: later) =
      stored (Utf8.encode text.toList) later := by
  rw [stored, List.foldl_append, List.foldl_cons]
  rfl

section Lines

variable {name : String} {location : Location}

/-- Each line finds the file where the one before it has written to it. -/
theorem ends_writeLines {run : Run} {writes : List (Opening × String)} (context : Context)
    (hregistry : context.registry = builtins) (htexts : ∀ write ∈ writes, OneLine write.2.toList)
    (hname : OneLine name.toList)
    (hlocate : run.job.world.files.locate true (run.job.world.environment.resolve name) =
      .ok location)
    (htakes : run.job.world.files.TakesFile location) :
    ∃ after, (writes.forM fun write =>
        evaluateLine context (writeLine write.1 write.2 name)).Ends run (.ok ()) after ∧
      (writes = [] ∧ after = run ∨
        run.Stores location (stored (run.job.world.files.contentAt location) writes) after) := by
  induction writes generalizing run with
  | nil => exact ⟨run, Eval.ends_pure.mpr ⟨rfl, rfl⟩, .inl ⟨rfl, rfl⟩⟩
  | cons write writes ih =>
    obtain ⟨htext, hothers⟩ := List.forall_mem_cons.mp htexts
    obtain ⟨mid, hfirst, hmid⟩ := ends_writeLine write.1 hregistry htext hname hlocate htakes
    have hfound : mid.job.world.files.locate true (mid.job.world.environment.resolve name) =
        .ok location := by
      rw [hmid.environment]
      exact FileTree.locate_keeps hlocate hmid.files.keeps ⟨_, hmid.files.there⟩
    obtain ⟨after, hlater, hafter⟩ := ih hothers hfound (.inr ⟨_, hmid.files.there⟩)
    refine ⟨after, Eval.ends_bind_ok.mpr ⟨(), mid, hfirst, hlater⟩, .inr ?_⟩
    rcases hafter with ⟨rfl, rfl⟩ | hstores
    · exact hmid
    · rw [hmid.files.contentAt_eq] at hstores
      exact hmid.trans hstores

/-- Lines that echo texts into one file, each with `>` or `>>`, come to an end without an error.
They do not touch the streams that they run on, nor anything else but the file. This holds what it
held and then all of the texts, if every operator was `>>`, and otherwise the texts from the last
`>` on; and it is what a line that writes out the file writes, on any streams that take it and do
not lead to the file itself. -/
theorem echoed_texts_accumulate {depth : Nat} {run : Run} {content : Bytes}
    {writes : List (Opening × String)} (hname : OneLine name.toList)
    (htexts : ∀ write ∈ writes, OneLine write.2.toList)
    (htarget : run.job.world.files.Target (run.job.world.environment.resolve name) location
      content) :
    ∃ after, (writes.forM fun write =>
        Interpreter.evaluate ⟨builtins, depth⟩ (writeLine write.1 write.2 name)).Ends run (.ok ())
          after ∧
      after.job.streams = run.job.streams ∧
      after.job.world.environment = run.job.world.environment ∧
      (∀ other, other ≠ location →
        after.job.world.files.get? other = run.job.world.files.get? other) ∧
      ((∀ write ∈ writes, write.1 = .append) →
        after.job.world.files.contentAt location =
          content ++ writes.flatMap fun write => Utf8.encode write.2.toList) ∧
      (∀ before text later, writes = before ++ (.truncate, text) :: later →
        (∀ write ∈ later, write.1 = .append) →
          after.job.world.files.contentAt location =
            Utf8.encode text.toList ++ later.flatMap fun write => Utf8.encode write.2.toList) ∧
      (writes ≠ [] ∨ run.job.world.files.get? location ≠ none → ∀ streams : Streams,
        (∀ position, streams.output ≠ .file location position) →
        let reading : Run := { after with job.streams := streams }
        let held := after.job.world.files.contentAt location
        reading.output.Fits held →
          (Interpreter.evaluate ⟨builtins, depth⟩ (catLine name)).Ends reading (.ok ())
            { reading.wrote held with history := .ran "cat" none :: reading.history }) := by
  obtain ⟨after, hends, hafter⟩ := ends_writeLines (Interpreter.context ⟨builtins, depth⟩) rfl
    htexts hname htarget.locate_eq htarget.takesFile
  rw [htarget.contentAt_eq] at hafter
  have hkept : after.job.streams = run.job.streams ∧
      after.job.world.environment = run.job.world.environment ∧
      (∀ other, other ≠ location →
        after.job.world.files.get? other = run.job.world.files.get? other) ∧
      after.job.world.files.contentAt location = stored content writes := by
    rcases hafter with ⟨rfl, rfl⟩ | hstores
    · exact ⟨rfl, rfl, fun _ _ => rfl, htarget.contentAt_eq⟩
    · exact ⟨hstores.streams, hstores.environment, hstores.files.others,
        hstores.files.contentAt_eq⟩
  obtain ⟨hstreams, henvironment, hothers, hcontent⟩ := hkept
  refine ⟨after, hends, hstreams, henvironment, hothers, fun happends => ?_,
    fun before text later hwrites happends => ?_, ?_⟩
  · rw [hcontent, stored_of_append happends]
  · rw [hcontent, hwrites, stored_truncate, stored_of_append happends]
  · intro hthere streams _ reading held hfits
    have hfound : after.job.world.files.locate false (run.job.world.environment.resolve name) =
        .ok location ∧ after.job.world.files.get? location = some (.file held) := by
      rcases hafter with ⟨rfl, rfl⟩ | hstores
      · cases htarget with
        | file found holds => exact ⟨found, by simp only [held, FileTree.contentAt, holds]⟩
        | absent found missing => simp [missing] at hthere
      · refine ⟨FileTree.locate_keeps htarget.locate_eq hstores.files.keeps
          ⟨_, hstores.files.there⟩, ?_⟩
        rw [hstores.files.there, ← hcontent]
    rw [← henvironment] at hfound
    exact ends_catLine rfl hname hfound.1 hfound.2 hfits

/-- Quotes, operators and stars are characters of a text and of a name like any other. The file is
created behind a link, and what the first line has put into it is dropped by the second one. -/
theorem echoed_texts_accumulate_special_characters :
    let name := "l/it's >"
    let writes : List (Opening × String) :=
      [(.append, "a'b"), (.truncate, "\"c; *"), (.append, "`d`")]
    let files := (FileTree.empty.insert ["d"] .directory).insert ["l"] (.link "d")
    let run : Run := ⟨⟨⟨.withDirectory "/", files⟩, ⟨.empty, .unlimited⟩⟩, []⟩
    let held := Utf8.encode "\"c; *`d`".toList
    writes.map (fun write => writeLine write.1 write.2 name) =
        ["echo -n -- 'a'\"'\"'b' >> 'l/it'\"'\"'s >'", "echo -n -- '\"c; *' > 'l/it'\"'\"'s >'",
          "echo -n -- '`d`' >> 'l/it'\"'\"'s >'"] ∧
      catLine name = "cat -- 'l/it'\"'\"'s >'" ∧
      files.Target "/l/it's >" ["d", "it's >"] [] ∧
      ∃ after, (writes.forM fun write =>
          Interpreter.evaluate ⟨builtins, 0⟩ (writeLine write.1 write.2 name)).Ends run (.ok ())
            after ∧
        after.job.streams = run.job.streams ∧
        after.job.world.files.contentAt ["d", "it's >"] = held ∧
        (Interpreter.evaluate ⟨builtins, 0⟩ (catLine name)).Ends after (.ok ())
          { after.wrote held with history := .ran "cat" none :: after.history } := by
  intro name writes files run held
  have hname : OneLine name.toList := any_isLineBreak_eq_false.mp (by decide)
  have htexts : ∀ write ∈ writes, OneLine write.2.toList := by
    simp only [writes, List.forall_mem_cons, List.not_mem_nil, false_implies, implies_true,
      and_true]
    exact ⟨any_isLineBreak_eq_false.mp (by decide), any_isLineBreak_eq_false.mp (by decide),
      any_isLineBreak_eq_false.mp (by decide)⟩
  have htarget : files.Target ("/l" ++ "/" ++ "it's >") (["d"] ++ ["it's >"]) [] :=
    .of_name (by decide +kernel) (by decide +kernel) ⟨by decide, by decide⟩ (by decide)
      (by decide +kernel) (by decide +kernel) (by decide +kernel)
  have hresolve : run.job.world.environment.resolve name = "/l" ++ "/" ++ "it's >" := by
    decide +kernel
  obtain ⟨after, hends, hstreams, -, -, -, hlast, hcat⟩ :=
    @echoed_texts_accumulate name ["d", "it's >"] 0 run [] writes hname htexts
      (by rwa [hresolve])
  have hheld : after.job.world.files.contentAt ["d", "it's >"] = held :=
    (hlast [(.append, "a'b")] "\"c; *" [(.append, "`d`")] rfl
      (List.forall_mem_singleton.mpr rfl)).trans (by decide +kernel)
  refine ⟨by decide +kernel, by decide +kernel, htarget, after, hends, hstreams, hheld, ?_⟩
  have hwritten := hcat (.inl (List.cons_ne_nil _ _)) after.job.streams
  rw [hheld] at hwritten
  refine hwritten ?_ ?_
  · rw [hstreams]
    exact nofun
  · rw [hstreams]
    exact Sink.acceptsAll_unlimited held

end Lines

end LineShell
