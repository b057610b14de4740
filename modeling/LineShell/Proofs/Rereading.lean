import Mathlib
import LineShell.Proofs.Windows

/-!
# Lines written and read again

Lines that are written with a line feed each are read again as they were, but for a carriage return
at the end of a line, which then belongs to its end. So an application that chooses among the lines
of a text may be put behind another one in a pipe, and chooses among the lines that the first one
has chosen, provided that none of them ends in a carriage return.
-/

namespace LineShell

namespace Text

variable {text line : List Char} {written : List (List Char)}

/-- The last character of the line is a carriage return. -/
def EndsInReturn (line : List Char) : Prop := line.getLast? = some '\r'

instance (line : List Char) : Decidable (EndsInReturn line) :=
  inferInstanceAs (Decidable (_ = _))

theorem dropReturn_eq_self (h : ¬ EndsInReturn line) : dropReturn line = line := if_neg h

theorem length_dropReturn_lt (h : EndsInReturn line) :
    (dropReturn line).length < line.length := by
  have hne : line ≠ [] := by
    rintro rfl
    cases h
  have hdrop : dropReturn line = line.dropLast := if_pos h
  rw [hdrop, List.length_dropLast]
  exact Nat.sub_one_lt_of_lt (List.length_pos_of_ne_nil hne)

theorem length_dropReturn_le (line : List Char) : (dropReturn line).length ≤ line.length := by
  by_cases h : EndsInReturn line
  · exact (length_dropReturn_lt h).le
  · rw [dropReturn_eq_self h]

theorem mem_of_mem_dropReturn {c : Char} (h : c ∈ dropReturn line) : c ∈ line := by
  unfold dropReturn at h
  split at h
  · exact List.mem_of_mem_dropLast h
  · exact h

theorem lineFeed_notMem_of_mem_lines (h : line ∈ lines text) : '\n' ∉ line := by
  have hpieces {piece : List Char} (hpiece : piece ∈ cutAt (· == '\n') text) : '\n' ∉ piece :=
    fun hmem => absurd (not_separates_of_mem_cutAt hpiece '\n' hmem) (by decide)
  rcases List.mem_append.mp h with hended | hlast
  · obtain ⟨piece, hpiece, rfl⟩ := List.mem_map.mp hended
    exact fun hmem => hpieces (List.mem_of_mem_dropLast hpiece) (mem_of_mem_dropReturn hmem)
  · obtain ⟨hlast, -⟩ := Option.mem_filter_iff.mp (Option.mem_toList.mp hlast)
    exact hpieces (List.mem_of_getLast? hlast)

theorem lines_append_cons (h : '\n' ∉ line) (rest : List Char) :
    lines (line ++ '\n' :: rest) = dropReturn line :: lines rest := by
  have hplain : ∀ c ∈ line, (c == '\n') = false := fun c hc =>
    beq_eq_false_iff_ne.mpr (ne_of_mem_of_not_mem hc h)
  obtain ⟨piece, pieces, hpieces⟩ := List.exists_cons_of_ne_nil (cutAt_ne_nil (· == '\n') rest)
  rw [lines, cutAt_append_cons rfl, cutAt_of_not_separates hplain, lines, hpieces]
  rfl

theorem lines_unlines (h : ∀ line ∈ written, '\n' ∉ line) :
    lines (unlines written) = written.map dropReturn := by
  induction written with
  | nil => rfl
  | cons line written ih =>
    obtain ⟨hline, hwritten⟩ := List.forall_mem_cons.mp h
    rw [unlines, List.flatMap_cons, List.append_assoc, List.singleton_append,
      lines_append_cons hline, List.map_cons, ← unlines, ih hwritten]

theorem lines_unlines_of_no_return (h : ∀ line ∈ written, '\n' ∉ line)
    (hreturn : ∀ line ∈ written, ¬ EndsInReturn line) : lines (unlines written) = written := by
  rw [lines_unlines h]
  calc written.map dropReturn
    _ = written.map id :=
      List.map_congr_left fun line hline => dropReturn_eq_self (hreturn line hline)
    _ = written := List.map_id written

end Text

theorem Utf8.encode_inj {text other : List Char} : encode text = encode other ↔ text = other := by
  refine ⟨fun h => ?_, congrArg encode⟩
  have hdecode := congrArg decode? h
  rw [decode?_encode, decode?_encode] at hdecode
  exact Option.some.inj hdecode

/-! ### What is printed of a text -/

/-- The text of a file that is named, or that of the input where no file is named. -/
inductive Job.Supplies (job : Job) : Option String → List Char → Prop
  | file {file : String} {text : List Char} (held : Grep.HasText job file text) :
      job.Supplies (some file) text
  | input {bytes : Bytes} {text : List Char} (unread : job.streams.input = .ofBytes bytes)
      (encodes : Utf8.decode? bytes = some text) : job.Supplies none text

theorem Job.Supplies.readText {job : Job} {source : Option String} {text : List Char}
    (h : job.Supplies source text) (name : String) :
    ∃ input, readText name source job = .ok text (job.withInput input) := by
  cases h with
  | file held =>
    obtain ⟨bytes, hread, hencodes⟩ := held
    exact ⟨job.streams.input, (readsText_readText name).ofFile hread hencodes⟩
  | input unread encodes => exact ⟨.empty, (readsText_readText name).ofInput unread encodes⟩

theorem Job.Supplies.withOutput {run : Run} {source : Option String} {text : List Char}
    (h : run.job.Supplies source text) (sink : Sink) :
    (run.withOutput sink).job.Supplies source text := by
  cases h with
  | file held => exact .file held
  | input unread encodes => exact .input unread encodes

/-- What has been written is the text of an input. -/
theorem Job.supplies_encode (job : Job) (text : List Char) :
    (job.withInput (.ofBytes (Utf8.encode text))).Supplies none text :=
  .input rfl (Utf8.decode?_encode text)

/-- The step ends well and has written the bytes. It changes nothing else, but that it may take some
of the input. -/
def Eval.Prints (m : Eval Run Unit) (run : Run) (bytes : Bytes) : Prop :=
  ∃ input history, m.Ends run (.ok ()) ⟨(run.wrote bytes).job.withInput input, history⟩

theorem prints_of_emit {name : String} {args : List String} {application : Application}
    (render : List Char → List Char) {source : Option String} {text : List Char} {run : Run}
    (hlookup : builtins.lookup name = some application)
    (happly : application args = readText name source >>= fun text => emit name (render text))
    (houtput : run.output.AcceptsAll) (hsupplies : run.job.Supplies source text) :
    (builtins.run name args).Prints run (Utf8.encode (render text)) := by
  obtain ⟨input, hread⟩ := hsupplies.readText name
  have hemits : (Eval.onJob (emit name (render text))).Ends (run.withInput input) (.ok ())
      ((run.withInput input).wrote (Utf8.encode (render text))) :=
    Eval.ends_onJob_write.mpr (.inl ⟨houtput _, rfl, rfl⟩)
  refine ⟨input, _, ends_run_of_eq hlookup ?_ hemits⟩
  rw [happly]
  simp only [bind, EStateM.bind, hread]
  rfl

theorem prints_of_printLines {name : String} {args : List String} {application : Application}
    {choose : List (List Char) → List (List Char)} {source : Option String} {text : List Char}
    {run : Run} (hlookup : builtins.lookup name = some application)
    (happly : application args = printLines name choose source)
    (houtput : run.output.AcceptsAll) (hsupplies : run.job.Supplies source text) :
    (builtins.run name args).Prints run
      (Utf8.encode (Text.unlines (choose (Text.lines text)))) :=
  prints_of_emit (fun text => Text.unlines (choose (Text.lines text))) hlookup happly houtput
    hsupplies

/-- A pipe of calls, each given by its words. -/
def pipeOf (calls : List (List String)) : Command :=
  .pipe (calls.map fun words => ⟨words.map escape⟩)

/-- What a pipe prints is what its second call prints of what the first one has printed. -/
theorem prints_pipeOf (substitute : Substituter) {name next : String} {args more : List String}
    {run : Run} {bytes written : Bytes}
    (hfirst : (builtins.run name args).Prints (run.withOutput .unlimited) bytes)
    (hsecond : ∀ history, (builtins.run next more).Prints
      ⟨run.job.withInput (.ofBytes bytes), history⟩ written) :
    ((pipeOf [name :: args, next :: more]).evaluate ⟨builtins, substitute⟩).Prints run
      written := by
  obtain ⟨input, history, hends⟩ := hfirst
  obtain ⟨left, events, hlast⟩ := hsecond history
  rw [Run.wrote_of_memory (run.withOutput_output .unlimited)] at hends
  rw [pipeOf, Command.evaluate, List.map_cons, Command.evaluatePipe_cons (by simp),
    List.map_singleton, Command.evaluatePipe, evaluate_escape, evaluate_escape]
  exact ⟨input, events, Eval.ends_into.mpr (.inr ⟨_, _, hends, hlast, rfl⟩)⟩

end LineShell
