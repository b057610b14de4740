import Mathlib
import LineShell.Proofs.Decoding
import LineShell.Proofs.FilesInOrder

/-!
# Counts of joined texts

A line or a word is counted at its last character, and whether a character is the last one depends
on no more than the next. So where two texts are joined, the counts can differ from the sums only by
what the first text has open at its end: a line or a word that the second text goes on with is then
counted once and not twice.
-/

namespace LineShell

namespace Text

variable {text : List Char}

/-! ### Counting at the last characters -/

theorem head?_cutAt_eq_nil {separates : Char → Bool} :
    (cutAt separates text).head? = some [] ↔ ∀ c ∈ text.head?, separates c = true := by
  cases text with
  | nil => simp
  | cons c text =>
    obtain ⟨piece, pieces, hpieces⟩ := List.exists_cons_of_ne_nil (cutAt_ne_nil separates text)
    rw [cutAt_cons, hpieces]
    cases hc : separates c <;> simp [hc]

theorem cutAt_eq_nil_iff {separates : Char → Bool} : cutAt separates text = [[]] ↔ text = [] := by
  cases text with
  | nil => simp
  | cons c text =>
    obtain ⟨piece, pieces, hpieces⟩ := List.exists_cons_of_ne_nil (cutAt_ne_nil separates text)
    rw [cutAt_cons, hpieces]
    cases separates c <;> simp

/-- A line ends at a line feed, and at the end of the text. -/
def endsLine (c : Char) (next : Option Char) : Bool := c == '\n' || next.isNone

/-- A word ends in front of a blank, and at the end of the text. -/
def endsWord (c : Char) (next : Option Char) : Bool := !isBlank c && next.all isBlank

theorem length_lines_cons (c : Char) (text : List Char) :
    (lines (c :: text)).length = (lines text).length + (endsLine c text.head?).toNat := by
  by_cases hc : c = '\n'
  · subst hc
    have hlines : lines ('\n' :: text) = [] :: lines text := lines_append_cons List.not_mem_nil text
    rw [hlines]
    rfl
  · have hcut (text : List Char) :
        cutAt (· == '\n') (c :: text) = (cutAt (· == '\n') text).modifyHead (c :: ·) := by
      rw [cutAt_cons, if_neg (by simpa using hc)]
    cases text with
    | nil => simp [lines, hcut, endsLine, Option.filter]
    | cons d rest =>
      obtain ⟨piece, pieces, hpieces⟩ :=
        List.exists_cons_of_ne_nil (cutAt_ne_nil (· == '\n') (d :: rest))
      have hopen : endsLine c (some d) = false := by simp [endsLine, hc]
      rw [List.head?_cons, hopen, lines, hcut, lines, hpieces]
      cases pieces with
      | nil =>
        -- A text that is one piece and not empty has a line already, which goes on to the left.
        have hpiece : piece ≠ [] := by
          rintro rfl
          exact List.cons_ne_nil d rest (cutAt_eq_nil_iff.mp hpieces)
        simp [Option.filter, hpiece]
      | cons second others => simp

theorem length_words_cons (c : Char) (text : List Char) :
    (words (c :: text)).length = (words text).length + (endsWord c text.head?).toNat := by
  cases hc : isBlank c with
  | true =>
    have hwords : words (c :: text) = words text := words_append_cons hc [] text
    simp [hwords, endsWord, hc]
  | false =>
    obtain ⟨piece, pieces, hpieces⟩ := List.exists_cons_of_ne_nil (cutAt_ne_nil isBlank text)
    have hpiece : endsWord c text.head? = piece.isEmpty := by
      have hhead := @head?_cutAt_eq_nil text isBlank
      rw [hpieces, List.head?_cons, Option.some.injEq] at hhead
      rw [Bool.eq_iff_iff, List.isEmpty_iff, hhead, endsWord, hc]
      cases text.head? <;> simp
    rw [words, cutAt_cons, hc, words, hpieces, hpiece]
    cases piece <;> simp

/-- What is counted at last characters is counted alike in joined texts, but for the last character
of the first one. -/
theorem count_append {count : List Char → Nat} {ends : Char → Option Char → Bool}
    (hcons : ∀ c text, count (c :: text) = count text + (ends c text.head?).toNat)
    (hnil : count [] = 0) (front : List Char) (last : Char) (back : List Char) :
    count (front ++ last :: back) + (ends last none).toNat =
      count (front ++ [last]) + count back + (ends last back.head?).toNat := by
  induction front with
  | nil =>
    have hlast := hcons last []
    rw [List.head?_nil] at hlast
    rw [List.nil_append, List.nil_append, hcons, hlast]
    omega
  | cons c front ih =>
    have hhead : (front ++ last :: back).head? = (front ++ [last]).head? := by
      cases front <;> rfl
    rw [List.cons_append, List.cons_append, hcons, hcons, hhead]
    omega

/-- Two lines are one where the first text has no line feed at its end. -/
theorem length_lines_append (u v : List Char) :
    (lines (u ++ v)).length + (if u ≠ [] ∧ v ≠ [] ∧ u.getLast? ≠ some '\n' then 1 else 0) =
      (lines u).length + (lines v).length := by
  obtain rfl | ⟨front, last, rfl⟩ := u.eq_nil_or_concat'
  · simp [lines]
  · have hcount := @count_append (fun text => (lines text).length) endsLine length_lines_cons rfl
      front last v
    have hends : (endsLine last v.head?).toNat +
        (if front ++ [last] ≠ [] ∧ v ≠ [] ∧ (front ++ [last]).getLast? ≠ some '\n' then 1 else 0) =
        (endsLine last none).toNat := by
      by_cases hlast : last = '\n'
      · simp [endsLine, hlast]
      · cases v <;> simp [endsLine, hlast, beq_eq_false_iff_ne.mpr hlast]
    rw [List.append_assoc, List.singleton_append]
    omega

/-- Two words are one where no blank is between them. -/
theorem length_words_append (u v : List Char) :
    (words (u ++ v)).length + (if u ≠ [] ∧ v ≠ [] ∧ (∀ c ∈ u.getLast?, isBlank c = false) ∧
      ∀ c ∈ v.head?, isBlank c = false then 1 else 0) = (words u).length + (words v).length := by
  obtain rfl | ⟨front, last, rfl⟩ := u.eq_nil_or_concat'
  · simp [words]
  · have hcount := @count_append (fun text => (words text).length) endsWord length_words_cons rfl
      front last v
    have hends : (endsWord last v.head?).toNat +
        (if front ++ [last] ≠ [] ∧ v ≠ [] ∧
          (∀ c ∈ (front ++ [last]).getLast?, isBlank c = false) ∧
          ∀ c ∈ v.head?, isBlank c = false then 1 else 0) = (endsWord last none).toNat := by
      cases v with
      | nil => simp [endsWord]
      | cons d v =>
        cases hlast : isBlank last <;> cases hd : isBlank d <;> simp [endsWord, hlast, hd]
    rw [List.append_assoc, List.singleton_append]
    omega

end Text

/-! ### Counts of files -/

/-- The three counts in a line, with a label behind them if there is one. -/
def Counts.printed (counts : Counts) (label : Option String) : List Char :=
  (" ".intercalate ([toString counts.lines, toString counts.words, toString counts.bytes] ++
    label.toList)).toList ++ ['\n']

/-- The arguments ask `wc` for all three counts of the files, or of the input if there are none. -/
def AsksToCount (args files : List String) : Prop :=
  ∃ found, wcUsage.scan args = .ok (some found) ∧
    CountSelection.orAll ⟨found.has "--lines", found.has "--words", found.has "--bytes"⟩ =
      ⟨true, true, true⟩ ∧
    found.operands = files

/-- The arguments ask `cat` for the contents of the files. -/
def AsksToCopy (args files : List String) : Prop :=
  ∃ found, catUsage.scan args = .ok (some found) ∧ found.operands = files

theorem asksToCopy_behindDashes (files : List String) : AsksToCopy ("--" :: files) files :=
  ⟨⟨[], [], files⟩, Usage.scan_operands rfl rfl rfl rfl, rfl⟩

theorem asksToCount_behindDashes (files : List String) : AsksToCount ("--" :: files) files :=
  ⟨⟨[], [], files⟩, Usage.scan_operands rfl rfl rfl rfl, rfl, rfl⟩

section Files

variable {args files : List String} {texts : List (List Char)} {text : List Char} {run : Run}

theorem report_eq_printed {selection : CountSelection} (h : selection.orAll = ⟨true, true, true⟩)
    (label : Option String) (counts : Counts) :
    (selection.report label counts).toList ++ ['\n'] = counts.printed label := by
  rw [CountSelection.report, h]
  rfl

theorem countsOf_encode {selection : CountSelection} (h : selection.orAll = ⟨true, true, true⟩)
    (file : String) (text : List Char) :
    countsOf selection file (Utf8.encode text) =
      .ok (Utf8.encode ((Counts.of text).printed (some file))) := by
  simp only [countsOf, ofText, Utf8.decode?_encode, countsLine, report_eq_printed h]

theorem prints_count (h : AsksToCount args []) (houtput : run.output.AcceptsAll)
    (hsupplies : run.job.Supplies none text) :
    (builtins.run "wc" args).Prints run (Utf8.encode ((Counts.of text).printed none)) := by
  obtain ⟨found, hscan, hall, hnone⟩ := h
  refine prints_of_emit (fun text => (Counts.of text).printed none) rfl ?_ houtput hsupplies
  rw [wc, Usage.application_of_scan hscan, hnone]
  simp only [← report_eq_printed hall]
  rfl

/-- The files hold the texts. -/
abbrev Job.HoldTexts (job : Job) : List String → List (List Char) → Prop :=
  List.Forall₂ (Grep.HasText job)

theorem gives_of_hasText {name file : String} {make : Making} {content : Bytes}
    (htext : Grep.HasText run.job file text) (hmake : make file (Utf8.encode text) = .ok content) :
    run.gives name make file = .ok content := by
  obtain ⟨bytes, hread, hbytes⟩ := htext
  obtain rfl := Utf8.decode?_eq_some_iff.mp hbytes
  have hopens : run.opens name file = .ok (Utf8.encode text) := by
    rw [Run.opens, hread]
    rfl
  exact (Run.gives_of_opens hopens make).trans hmake

theorem prints_cat {written : Bytes} (h : AsksToCopy args files) (hne : files ≠ [])
    (houtput : run.output = .memory written none) (htexts : run.job.HoldTexts files texts) :
    (builtins.run "cat" args).Prints run (Utf8.encode texts.flatten) := by
  obtain ⟨found, hscan, rfl⟩ := h
  have hgave : run.GaveEach "cat" contentOf found.operands (texts.map Utf8.encode) :=
    List.forall₂_map_right_iff.mpr (htexts.imp fun file text htext => gives_of_hasText htext rfl)
  have hhandles := (handlesEach_iff_of_same (.memory houtput _) fun _ _ => rfl).mpr
    (.inl ⟨rfl, hgave⟩)
  have hwritten : (texts.map Utf8.encode).flatten = Utf8.encode texts.flatten := by
    simp only [Utf8.encode, List.flatMap_def, List.map_flatten, List.flatten_flatten, List.map_map]
    rfl
  have hall : run.output.AcceptsAll := by
    rw [houtput]
    exact Sink.acceptsAll_unlimited
  obtain ⟨history, hends⟩ := ((TakesFiles.ofCat hscan).exists_ends_run_iff hne hall).mpr
    ⟨_, hhandles, rfl⟩
  rw [Run.wroteEach_eq (Run.Spares.memory houtput []).1, hwritten] at hends
  exact ⟨_, history, hends⟩

theorem ends_wc (h : AsksToCount args files) (hne : files ≠ [])
    (houtput : run.output.AcceptsAll) (hspares : run.Spares files)
    (htexts : run.job.HoldTexts files texts) :
    ∃ history, (builtins.run "wc" args).Ends run (.ok ())
      ⟨(run.wroteEach (List.zipWith
        (fun file text => Utf8.encode ((Counts.of text).printed (some file))) files texts)).job,
        history⟩ := by
  obtain ⟨found, hscan, hall, rfl⟩ := h
  have hgave : run.GaveEach "wc"
      (countsOf ⟨found.has "--lines", found.has "--words", found.has "--bytes"⟩) found.operands
      (List.zipWith (fun file text => Utf8.encode ((Counts.of text).printed (some file)))
        found.operands texts) := by
    generalize found.operands = files at htexts
    induction htexts with
    | nil => exact .nil
    | cons htext htexts ih =>
      exact .cons (gives_of_hasText htext (countsOf_encode hall _ _)) ih
  exact ((TakesFiles.ofWc hscan).exists_ends_run_iff hne houtput).mpr
    ⟨_, (handlesEach_iff_of_same hspares fun _ _ => rfl).mpr (.inl ⟨rfl, hgave⟩), rfl⟩

end Files

/-- **Counts of two files and of both.** `wc` counts each of two files, or what `cat` has made of
them. The bytes of both are as many as those of the one and the other. There is one line less if the
first text is open at its end and the second goes on with it, and one word less if a word ends the
first text and a word begins the second. -/
theorem counts_of_joined_files (u v : List Char) :
    let joined := Counts.of (u ++ v)
    let first := Counts.of u
    let second := Counts.of v
    (∀ files, AsksToCopy ("--" :: files) files ∧ AsksToCount ("--" :: files) files) ∧
    (∀ f g copying counting more substitute run, AsksToCopy copying [f, g] →
      AsksToCount counting [] → AsksToCount more [f, g] → run.output.AcceptsAll →
      Grep.HasText run.job f u → Grep.HasText run.job g v →
        ((pipeOf ["cat" :: copying, "wc" :: counting]).evaluate ⟨builtins, substitute⟩).Prints run
          (Utf8.encode (joined.printed none)) ∧
        (run.Spares [f, g] → ∃ history, (builtins.run "wc" more).Ends run (.ok ())
          ⟨(run.wroteEach [Utf8.encode (first.printed (some f)),
            Utf8.encode (second.printed (some g))]).job, history⟩)) ∧
    joined.bytes = first.bytes + second.bytes ∧
    joined.lines + (if u ≠ [] ∧ v ≠ [] ∧ u.getLast? ≠ some '\n' then 1 else 0) =
      first.lines + second.lines ∧
    joined.words + (if u ≠ [] ∧ v ≠ [] ∧ (∀ c ∈ u.getLast?, Text.isBlank c = false) ∧
      ∀ c ∈ v.head?, Text.isBlank c = false then 1 else 0) = first.words + second.words := by
  intro joined first second
  refine ⟨fun files => ⟨asksToCopy_behindDashes files, asksToCount_behindDashes files⟩, ?_, ?_,
    Text.length_lines_append u v, Text.length_words_append u v⟩
  · intro f g copying counting more substitute run hcopying hcounting hmore houtput hu hv
    have htexts : run.job.HoldTexts [f, g] [u, v] := .cons hu (.cons hv .nil)
    have hne : [f, g] ≠ [] := List.cons_ne_nil _ _
    refine ⟨?_, fun hspares => ends_wc hmore hne houtput hspares htexts⟩
    have hcat := prints_cat hcopying hne (run.withOutput_output .unlimited) htexts
    have hflatten : [u, v].flatten = u ++ v := by simp
    rw [hflatten] at hcat
    exact prints_pipeOf substitute hcat fun history =>
      prints_count hcounting houtput (run.job.supplies_encode _)
  · show (Utf8.encode (u ++ v)).length = _
    rw [Utf8.encode_append, List.length_append]
    rfl

/-- The line feed behind a carriage return is in the second file. Both files have a part of that
line, so there is one line less, but a blank is between their words. -/
theorem counts_of_joined_files_return :
    let u := "a b\r".toList
    let v := "\nc".toList
    let files := (FileTree.empty.insert ["f"] (.file (Utf8.encode u))).insert ["-l"]
      (.file (Utf8.encode v))
    let run : Run := ⟨⟨⟨.withDirectory "/", files⟩, ⟨.empty, .unlimited⟩⟩, []⟩
    run.output.AcceptsAll ∧ run.Spares ["f", "-l"] ∧ Grep.HasText run.job "f" u ∧
      Grep.HasText run.job "-l" v ∧
      ((pipeOf [["cat", "--", "f", "-l"], ["wc"]]).evaluate
        ⟨builtins, substituter builtins 0⟩).Prints run (Utf8.encode "2 3 6\n".toList) ∧
      ∃ history, (builtins.run "wc" ["--", "f", "-l"]).Ends run (.ok ())
        ⟨(run.withOutput (.memory (Utf8.encode "1 2 4 f\n2 1 2 -l\n".toList) none)).job,
          history⟩ := by
  intro u v files run
  have houtput : run.output.AcceptsAll := Sink.acceptsAll_unlimited
  have hspares : run.Spares ["f", "-l"] := .memory rfl _
  have hu : Grep.HasText run.job "f" u :=
    ⟨Utf8.encode u, by decide +kernel, Utf8.decode?_encode u⟩
  have hv : Grep.HasText run.job "-l" v :=
    ⟨Utf8.encode v, by decide +kernel, Utf8.decode?_encode v⟩
  have hpiped : AsksToCount [] [] := ⟨⟨[], [], []⟩, rfl, rfl, rfl⟩
  obtain ⟨hasks, hends, -⟩ := counts_of_joined_files u v
  obtain ⟨hpipe, hwc⟩ := hends "f" "-l" _ _ _ (substituter builtins 0) run
    (hasks ["f", "-l"]).1 hpiped (hasks ["f", "-l"]).2 houtput hu hv
  have hprinted : (Counts.of (u ++ v)).printed none = "2 3 6\n".toList := by decide +kernel
  have hwritten : run.wroteEach [Utf8.encode ((Counts.of u).printed (some "f")),
      Utf8.encode ((Counts.of v).printed (some "-l"))] =
      run.withOutput (.memory (Utf8.encode "1 2 4 f\n2 1 2 -l\n".toList) none) := by
    decide +kernel
  rw [hprinted] at hpipe
  rw [hwritten] at hwc
  exact ⟨houtput, hspares, hu, hv, hpipe, hwc hspares⟩

end LineShell
