import Mathlib
import LineShell.Proofs.Feeding
import LineShell.Proofs.Outputs

/-!
# Lines in the windows of matches

A line that matches opens a window: the line itself and the lines of context behind it. A search
prints just the lines that some window holds, each once and in order, and a separator where lines
are left out between two printed ones. The search itself keeps no windows, only the end of the
latest one and the index of the line printed last. Each file begins anew: what was printed of the
one before has no bearing on it.
-/

namespace LineShell.Grep

variable {isMatch : List Char → Bool} {context : Nat} {lines : List (List Char)}

/-- The line of the index, or one at most so many lines before it, matches. -/
def InWindow (isMatch : List Char → Bool) (context : Nat) (lines : List (List Char))
    (index : Nat) : Prop :=
  ∃ found line, lines[found]? = some line ∧ isMatch line = true ∧ found ≤ index ∧
    index ≤ found + context

/-- The lines of these indexes are laid out one after the other, with a separator between two of
them just where there is context and they are not neighbours. -/
inductive LaysOut (context : Nat) (lines : List (List Char)) : List Nat → List Printed → Prop
  | nil : LaysOut context lines [] []
  | single {index : Nat} {line : List Char} (holds : lines[index]? = some line) :
      LaysOut context lines [index] [.line line]
  | near {index next : Nat} {line : List Char} {others : List Nat} {printed : List Printed}
      (holds : lines[index]? = some line) (close : context = 0 ∨ next = index + 1)
      (rest : LaysOut context lines (next :: others) printed) :
      LaysOut context lines (index :: next :: others) (.line line :: printed)
  | apart {index next : Nat} {line : List Char} {others : List Nat} {printed : List Printed}
      (holds : lines[index]? = some line) (far : 0 < context ∧ next ≠ index + 1)
      (rest : LaysOut context lines (next :: others) printed) :
      LaysOut context lines (index :: next :: others) (.line line :: .separator :: printed)

/-! ### The end of the latest window -/

/-- The windows of the matches among so many lines at the beginning end, as far as the last of these
lines and those behind it are concerned, at `shownUntil`. -/
def EndsWindows (isMatch : List Char → Bool) (context : Nat) (lines : List (List Char))
    (seen shownUntil : Nat) : Prop :=
  ∀ i, seen ≤ i + 1 → (i < shownUntil ↔ ∃ found line, lines[found]? = some line ∧
    isMatch line = true ∧ found < seen ∧ i ≤ found + context)

theorem endsWindows_zero : EndsWindows isMatch context lines 0 0 := by
  intro i _
  simp

/-- The end of the latest window once the line of the index has been looked at. -/
def windowEnd (isMatch : List Char → Bool) (context index shownUntil : Nat) (line : List Char) :
    Nat :=
  if isMatch line then index + context + 1 else shownUntil

section Step

variable {index shownUntil : Nat} {line : List Char}

/-- The window of a match ends behind all windows before it. -/
theorem EndsWindows.step (h : EndsWindows isMatch context lines index shownUntil)
    (hline : lines[index]? = some line) :
    EndsWindows isMatch context lines (index + 1)
      (windowEnd isMatch context index shownUntil line) := by
  intro i hi
  unfold windowEnd
  split
  · next hmatch =>
    constructor
    · intro hlt
      exact ⟨index, line, hline, hmatch, by omega, by omega⟩
    · rintro ⟨found, other, -, -, hfound, hi⟩
      omega
  · next hmatch =>
    rw [h i (by omega)]
    constructor
    · rintro ⟨found, other, hother, hfits, hfound, hi⟩
      exact ⟨found, other, hother, hfits, by omega, hi⟩
    · rintro ⟨found, other, hother, hfits, hfound, hi⟩
      have hne : found ≠ index := by
        rintro rfl
        obtain rfl := Option.some.inj (hline.symm.trans hother)
        exact hmatch hfits
      exact ⟨found, other, hother, hfits, by omega, hi⟩

/-- Whether a line is in a window can be told as soon as it has been looked at. -/
theorem EndsWindows.inWindow_iff (h : EndsWindows isMatch context lines (index + 1) shownUntil) :
    InWindow isMatch context lines index ↔ index < shownUntil := by
  simp only [h index (Nat.le_refl _), InWindow, Nat.lt_succ_iff]

theorem select_skip (last : Option Nat) (rest : List (List Char))
    (hend : windowEnd isMatch context index shownUntil line ≤ index) :
    select isMatch context index shownUntil last (line :: rest) =
      select isMatch context (index + 1) (windowEnd isMatch context index shownUntil line) last
        rest := by
  rw [select]
  exact if_pos hend

theorem select_print (last : Option Nat) (rest : List (List Char))
    (hend : index < windowEnd isMatch context index shownUntil line) :
    select isMatch context index shownUntil last (line :: rest) =
      (if 0 < context && last.any (· + 1 < index) then [.separator] else []) ++
        .line line :: select isMatch context (index + 1)
          (windowEnd isMatch context index shownUntil line) (some index) rest := by
  have hshown : ¬ windowEnd isMatch context index shownUntil line ≤ index := Nat.not_le.mpr hend
  have hlead (apart : Bool) (printed : List Printed) :
      (if apart then .separator :: printed else printed) =
        (if apart then [.separator] else []) ++ printed := by
    cases apart <;> rfl
  rw [select]
  exact (if_neg hshown).trans (hlead _ _)

end Step

/-! ### The search -/

/-- The line printed last, if there is one. -/
def printedLast (lines : List (List Char)) (last : Option Nat) : List Printed :=
  (last.bind (lines[·]?)).toList.map .line

/-- A line is laid out behind the one printed last, and what comes behind it stays there. -/
theorem LaysOut.behind {index : Nat} {last : Option Nat} {line : List Char} {shown : List Nat}
    {printed : List Printed}
    (hrest : LaysOut context lines (index :: shown) (.line line :: printed))
    (hlast : ∀ before ∈ last, before < index ∧ before < lines.length) :
    LaysOut context lines (last.toList ++ index :: shown) (printedLast lines last ++
      ((if 0 < context && last.any (· + 1 < index) then [.separator] else []) ++
        .line line :: printed)) := by
  cases last with
  | none => simpa [printedLast] using hrest
  | some before =>
    obtain ⟨hbefore, hlength⟩ := hlast before rfl
    have hholds := List.getElem?_eq_getElem hlength
    by_cases hfar : 0 < context ∧ before + 1 < index
    · have hne : index ≠ before + 1 := by omega
      simpa [printedLast, hholds, hfar] using LaysOut.apart hholds ⟨hfar.1, hne⟩ hrest
    · have hclose : context = 0 ∨ index = before + 1 := by omega
      simpa [printedLast, hholds, hfar] using LaysOut.near hholds hclose hrest

/-- The rest of the lines is laid out behind the line printed last. The invariant is that the end of
the latest window is known for the lines before the rest. -/
theorem exists_laysOut_select {index shownUntil : Nat} {last : Option Nat}
    {rest : List (List Char)} (hrest : lines.drop index = rest)
    (hend : EndsWindows isMatch context lines index shownUntil)
    (hlast : ∀ before ∈ last, before < index ∧ before < lines.length) :
    ∃ shown : List Nat, shown.Pairwise (· < ·) ∧
      (∀ i, i ∈ shown ↔ index ≤ i ∧ i < lines.length ∧ InWindow isMatch context lines i) ∧
      LaysOut context lines (last.toList ++ shown)
        (printedLast lines last ++ select isMatch context index shownUntil last rest) := by
  induction rest generalizing index shownUntil last with
  | nil =>
    have hlength : lines.length ≤ index := List.drop_eq_nil_iff.mp hrest
    refine ⟨[], .nil, fun i => ?_, ?_⟩
    · simp only [List.not_mem_nil, false_iff]
      omega
    · cases last with
      | none => exact .nil
      | some before =>
        obtain ⟨-, hbefore⟩ := hlast before rfl
        have hline := List.getElem?_eq_getElem hbefore
        simpa [select, printedLast, hline] using LaysOut.single hline
  | cons line rest ih =>
    have hline : lines[index]? = some line := by
      rw [← List.head?_drop, hrest, List.head?_cons]
    have hlength : index < lines.length := (List.getElem?_eq_some_iff.mp hline).1
    have hothers : lines.drop (index + 1) = rest := by
      rw [← List.tail_drop, hrest, List.tail_cons]
    have hstep := hend.step hline
    by_cases hshown : index < windowEnd isMatch context index shownUntil line
    · have hwindow := hstep.inWindow_iff.mpr hshown
      obtain ⟨shown, hsorted, hmem, hlays⟩ := @ih _ _ (some index) hothers hstep (by
        simpa using hlength)
      refine ⟨index :: shown, ?_, ?_, ?_⟩
      · exact .cons (fun i hi => ((hmem i).mp hi).1) hsorted
      · intro i
        rw [List.mem_cons, hmem]
        constructor
        · rintro (rfl | ⟨hi, hlt, hin⟩)
          · exact ⟨Nat.le_refl _, hlength, hwindow⟩
          · exact ⟨by omega, hlt, hin⟩
        · rintro ⟨hi, hlt, hin⟩
          by_cases hne : i = index
          · exact .inl hne
          · exact .inr ⟨by omega, hlt, hin⟩
      · rw [select_print _ _ hshown]
        refine LaysOut.behind ?_ hlast
        simpa [printedLast, hline] using hlays
    · have hskip := Nat.not_lt.mp hshown
      obtain ⟨shown, hsorted, hmem, hlays⟩ := @ih _ _ last hothers hstep (by
        intro before hbefore
        have := hlast before hbefore
        omega)
      refine ⟨shown, hsorted, fun i => ?_, by rwa [select_skip _ _ hskip]⟩
      rw [hmem]
      constructor
      · rintro ⟨hi, hlt, hin⟩
        exact ⟨by omega, hlt, hin⟩
      · rintro ⟨hi, hlt, hin⟩
        have hne : i ≠ index := by
          rintro rfl
          exact hshown (hstep.inWindow_iff.mp hin)
        exact ⟨by omega, hlt, hin⟩

/-! ### Several files -/

section Files

variable {run : Run} {textOf : String → List Char}

/-- The file can be read, and this is its text. -/
def HasText (job : Job) (file : String) (text : List Char) : Prop :=
  ∃ bytes, job.world.files.read (job.world.environment.resolve file) = .ok bytes ∧
    Utf8.decode? bytes = some text

/-- What is printed of a file. -/
def fileOutput (isMatch : List Char → Bool) (context : Nat) (labelled : Bool)
    (textOf : String → List Char) (file : String) : List Char :=
  output isMatch context (if labelled then some file else none) (Text.lines (textOf file))

theorem HasText.wrote {files : List String} {file : String} {text : List Char}
    (h : HasText run.job file text) (hspares : run.Spares files) (hfile : file ∈ files)
    (bytes : Bytes) : HasText (run.wrote bytes).job file text := by
  obtain ⟨content, hread, hdecode⟩ := h
  exact ⟨content, (hspares.read_wrote bytes file hfile).trans hread, hdecode⟩

/-- The files are searched one after the other, and nothing of one search goes into the next. -/
theorem ends_searchFiles {labelled : Bool} {files : List String} (haccepts : run.output.AcceptsAll)
    (hspares : run.Spares files) (htext : ∀ file ∈ files, HasText run.job file (textOf file)) :
    (Eval.onJob (searchFiles isMatch context labelled files)).Ends run (.ok ())
      (run.wrote (Utf8.encode (files.flatMap (fileOutput isMatch context labelled textOf)))) := by
  induction files generalizing run with
  | nil =>
    have hnothing : Utf8.encode [] = [] := rfl
    rw [List.flatMap_nil, hnothing, Run.wrote_nil hspares.1]
    rfl
  | cons file files ih =>
    obtain ⟨⟨bytes, hread, hdecode⟩, hothers⟩ := List.forall_mem_cons.mp htext
    have hlines : (Eval.onJob (fileLines file)).Ends run (.ok (Text.lines (textOf file))) run :=
      Eval.ends_onJob.mpr ⟨run.job, readsText_sourceLines.ofFile hread hdecode, rfl⟩
    set first := Utf8.encode (fileOutput isMatch context labelled textOf file) with hfirst
    have hemits : (Eval.onJob (emit "grep" (fileOutput isMatch context labelled textOf file))).Ends
        run (.ok ()) (run.wrote first) :=
      Eval.ends_onJob_write.mpr (.inl ⟨haccepts _, rfl, rfl⟩)
    have hnext : (run.wrote first).output.AcceptsAll := by
      rw [Run.wrote_output]
      exact haccepts.took first
    have hrest : (Eval.onJob (searchFiles isMatch context labelled files)).Ends (run.wrote first)
        (.ok ()) ((run.wrote first).wrote
          (Utf8.encode (files.flatMap (fileOutput isMatch context labelled textOf)))) :=
      ih hnext (hspares.tail.wrote first) fun other hother =>
        (hothers other hother).wrote hspares.tail hother first
    rw [List.flatMap_cons, Utf8.encode_append, ← hfirst, ← Run.wrote_wrote hspares.1.placed,
      searchFiles, Eval.onJob_bind]
    refine Eval.ends_bind_ok.mpr ⟨_, _, hlines, ?_⟩
    rw [Eval.onJob_bind]
    exact Eval.ends_bind_ok.mpr ⟨_, _, hemits, hrest⟩

end Files

/-- **Which lines a search prints.** They are the lines in the windows of the matches, each once and
in order, and two of them have a separator between them just where there is context and they are no
neighbours; a label goes to the lines alone. Of several files, what is written to an output that is
none of them is what each of them gives by itself, with its name as the label of its lines. -/
theorem search_prints_windows (context : Nat) :
    (∀ (isMatch : List Char → Bool) (lines : List (List Char)), ∃ shown printed,
      shown.Pairwise (· < ·) ∧
      (∀ i, i ∈ shown ↔ i < lines.length ∧ InWindow isMatch context lines i) ∧
      LaysOut context lines shown printed ∧
      ∀ label, output isMatch context label lines = printed.flatMap (render label)) ∧
    ∀ wholeWords ignoreCase pattern regex,
      Regex.compile ignoreCase (expression wholeWords pattern) = .ok regex →
      ∀ (files : List String) (textOf : String → List Char) (run : Run),
        files ≠ [] → run.output.AcceptsAll → run.Spares files →
        (∀ file ∈ files, HasText run.job file (textOf file)) →
          (Eval.onJob (search wholeWords ignoreCase context pattern files)).Ends run (.ok ())
            (run.wrote (Utf8.encode (files.flatMap
              (fileOutput regex.isMatch context (1 < files.length) textOf)))) := by
  constructor
  · intro isMatch lines
    obtain ⟨shown, hsorted, hmem, hlays⟩ := @exists_laysOut_select isMatch context lines 0 0 none
      lines List.drop_zero endsWindows_zero (by simp)
    refine ⟨shown, _, hsorted, ?_, hlays, fun label => rfl⟩
    simpa using hmem
  · intro wholeWords ignoreCase pattern regex hregex files textOf run hfiles haccepts hspares htext
    have hsearch : search wholeWords ignoreCase context pattern files =
        searchFiles regex.isMatch context (1 < files.length) files := by
      rw [search]
      simp [hregex, hfiles]
    rw [hsearch]
    exact ends_searchFiles haccepts hspares htext

/-- In the first file two windows are apart, in the second they touch. The second file is begun
without a separator. -/
theorem search_prints_windows_two_files :
    let texts : List (String × List Char) :=
      [("f", "x\na\nb\nx\n".toList), ("g", "c\nx\nd\nx".toList)]
    let textOf (file : String) := (texts.lookup file).getD []
    let files := texts.foldl (fun tree file =>
      tree.insert [file.1] (.file (Utf8.encode file.2))) FileTree.empty
    let run : Run := ⟨⟨⟨.withDirectory "/", files⟩, ⟨.empty, .unlimited⟩⟩, []⟩
    let regex : Regex := ⟨.one (.ranges [(0x78, 0x78)])⟩
    Regex.compile false (expression false "x") = .ok regex ∧
      run.output.AcceptsAll ∧ run.Spares ["f", "g"] ∧
      (∀ file ∈ ["f", "g"], HasText run.job file (textOf file)) ∧
      (Eval.onJob (search false false 1 "x" ["f", "g"])).Ends run (.ok ())
        (run.withOutput (.memory
          (Utf8.encode "f:x\nf:a\n--\nf:x\ng:x\ng:d\ng:x\n".toList) none)) := by
  intro texts textOf files run regex
  have hregex : Regex.compile false (expression false "x") = .ok regex := rfl
  have htext : ∀ file ∈ ["f", "g"], HasText run.job file (textOf file) := by
    refine List.forall_mem_cons.mpr ⟨?_, List.forall_mem_singleton.mpr ?_⟩
    · exact ⟨Utf8.encode (textOf "f"), by decide +kernel, Utf8.decode?_encode _⟩
    · exact ⟨Utf8.encode (textOf "g"), by decide +kernel, Utf8.decode?_encode _⟩
  have haccepts : run.output.AcceptsAll := Sink.acceptsAll_unlimited
  have hspares : run.Spares ["f", "g"] := .memory rfl _
  have hends := (search_prints_windows 1).2 false false "x" regex hregex ["f", "g"] textOf run
    (by simp) haccepts hspares htext
  have hwritten : run.wrote (Utf8.encode (["f", "g"].flatMap
      (fileOutput regex.isMatch 1 (1 < ["f", "g"].length) textOf))) =
      run.withOutput (.memory
        (Utf8.encode "f:x\nf:a\n--\nf:x\ng:x\ng:d\ng:x\n".toList) none) := by
    decide +kernel
  rw [hwritten] at hends
  exact ⟨hregex, haccepts, hspares, htext, hends⟩

end LineShell.Grep
