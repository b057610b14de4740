import Mathlib
import LineShell.Proofs.ByteOrder
import LineShell.Proofs.Rereading

/-!
# Lines in order

Sorting keeps every line as often as it occurs and puts the lines in the order of their bytes. Lines
that are sorted stay as they are when they are sorted again, but what has been written is read
before it is sorted again, and reading takes away a carriage return at the end of a line. So a
second sorting writes the same bytes unless a line ends in a carriage return.
-/

namespace LineShell

variable {lines : List (List Char)}

/-! ### Sorted lists of lines -/

theorem perm_sortedLines (reverse : Bool) (lines : List (List Char)) :
    (sortedLines reverse lines).Perm lines := by
  have hsorted : (((lines.map String.ofList).mergeSort (· ≤ ·)).map String.toList).Perm lines := by
    have hperm := (List.mergeSort_perm (lines.map String.ofList) (· ≤ ·)).map String.toList
    simpa [Function.comp_def] using hperm
  cases reverse with
  | false => exact hsorted
  | true => exact (List.reverse_perm _).trans hsorted

/-- The lines are in the order of their bytes. -/
def InByteOrder (lines : List (List Char)) : Prop :=
  lines.Pairwise fun line other => Utf8.encode line ≤ Utf8.encode other

theorem inByteOrder_map_toList {texts : List String} :
    InByteOrder (texts.map String.toList) ↔ texts.Pairwise (· ≤ ·) := by
  have hle {text other : String} :
      Utf8.encode text.toList ≤ Utf8.encode other.toList ↔ text ≤ other := by
    rw [← not_lt, ← bytesBefore_iff]
    rfl
  simp only [InByteOrder, List.pairwise_map, hle]

theorem inByteOrder_sortedLines (lines : List (List Char)) :
    InByteOrder (sortedLines false lines) :=
  inByteOrder_map_toList.mpr (List.pairwise_mergeSort' (· ≤ ·) (lines.map String.ofList))

theorem sortedLines_eq_self (h : InByteOrder lines) : sortedLines false lines = lines := by
  obtain ⟨texts, rfl⟩ : ∃ texts : List String, texts.map String.toList = lines :=
    ⟨lines.map String.ofList, by simp [Function.comp_def]⟩
  have hmerge : texts.mergeSort (· ≤ ·) = texts :=
    List.mergeSort_of_pairwise ((inByteOrder_map_toList.mp h).imp fun hle => decide_eq_true hle)
  simp only [sortedLines, List.map_map, Function.comp_def, String.ofList_toList, List.map_id',
    Bool.false_eq_true, if_false]
  rw [hmerge]

/-! ### What is lost by reading again -/

theorem length_unlines_lt (h : ∃ line ∈ lines, Text.EndsInReturn line) :
    (Text.unlines (lines.map Text.dropReturn)).length < (Text.unlines lines).length := by
  obtain ⟨line, hline, hreturn⟩ := h
  simp only [Text.unlines, List.length_flatMap, List.map_map, Function.comp_def,
    List.length_append]
  refine List.sum_lt_sum _ _ (fun other _ => ?_) ⟨line, hline, ?_⟩
  · exact Nat.add_le_add_right (Text.length_dropReturn_le other) _
  · exact Nat.add_lt_add_right (Text.length_dropReturn_lt hreturn) _

/-- Sorted lines that are read and sorted again are the same just if no line loses anything. -/
theorem unlines_sortedLines_eq_iff (h : InByteOrder lines) :
    Text.unlines (sortedLines false (lines.map Text.dropReturn)) = Text.unlines lines ↔
      ∀ line ∈ lines, ¬ Text.EndsInReturn line := by
  constructor
  · intro heq line hline hreturn
    have hlength := ((perm_sortedLines false (lines.map Text.dropReturn)).flatMap_right
      (· ++ ['\n'])).length_eq
    have hlost := length_unlines_lt ⟨line, hline, hreturn⟩
    rw [← heq] at hlost
    exact hlost.ne hlength.symm
  · intro hkept
    have hsame : lines.map Text.dropReturn = lines.map id :=
      List.map_congr_left fun line hline => Text.dropReturn_eq_self (hkept line hline)
    rw [hsame, List.map_id, sortedLines_eq_self h]

/-! ### The application -/

/-- The arguments ask `sort` for the lines of the source in order, or in the reverse order. -/
def AsksToSort (args : List String) (reverse : Bool) (source : Option String) : Prop :=
  ∃ found, sortUsage.scan args = .ok (some found) ∧ found.has "--reverse" = reverse ∧
    found.operand? = source

theorem prints_sort {args : List String} {reverse : Bool} {source : Option String}
    {text : List Char} {run : Run} (h : AsksToSort args reverse source)
    (houtput : run.output.AcceptsAll) (hsupplies : run.job.Supplies source text) :
    (builtins.run "sort" args).Prints run
      (Utf8.encode (Text.unlines (sortedLines reverse (Text.lines text)))) := by
  obtain ⟨found, hscan, rfl, rfl⟩ := h
  exact prints_of_printLines rfl (Usage.application_of_scan hscan) houtput hsupplies

/-- **What sorting writes.** It is all lines of the text, each as often as it occurs and ended by
one line feed, in the order of their bytes or in just the reverse order. What a pipe of two sortings
writes is the same just if no line ends in a carriage return. -/
theorem sort_orders_lines (text : List Char) :
    let sorted := sortedLines false (Text.lines text)
    sorted.Perm (Text.lines text) ∧ InByteOrder sorted ∧
      (∀ args reverse source run, AsksToSort args reverse source → run.output.AcceptsAll →
        run.job.Supplies source text →
          (builtins.run "sort" args).Prints run (Utf8.encode (Text.unlines
            (if reverse then sorted.reverse else sorted)))) ∧
      ∀ args more source substitute run, AsksToSort args false source → AsksToSort more false none →
        run.output.AcceptsAll → run.job.Supplies source text → ∃ written,
          ((pipeOf ["sort" :: args, "sort" :: more]).evaluate ⟨builtins, substitute⟩).Prints run
            written ∧
          (written = Utf8.encode (Text.unlines sorted) ↔
            ∀ line ∈ Text.lines text, ¬ Text.EndsInReturn line) := by
  intro sorted
  have hperm : sorted.Perm (Text.lines text) := perm_sortedLines false _
  have hsorted : InByteOrder sorted := inByteOrder_sortedLines _
  refine ⟨hperm, hsorted, fun args reverse source run hargs houtput hsupplies => ?_,
    fun args more source substitute run hargs hmore houtput hsupplies => ?_⟩
  · have hreverse : (if reverse then sorted.reverse else sorted) =
        sortedLines reverse (Text.lines text) := rfl
    rw [hreverse]
    exact prints_sort hargs houtput hsupplies
  · have hfirst := prints_sort hargs Sink.acceptsAll_unlimited (hsupplies.withOutput .unlimited)
    have hread : Text.lines (Text.unlines sorted) = sorted.map Text.dropReturn :=
      Text.lines_unlines fun line hline =>
        Text.lineFeed_notMem_of_mem_lines (hperm.mem_iff.mp hline)
    refine ⟨_, prints_pipeOf substitute hfirst fun history =>
      prints_sort hmore houtput (run.job.supplies_encode _), ?_⟩
    rw [hread, Utf8.encode_inj, unlines_sortedLines_eq_iff hsorted]
    exact forall_congr' fun line => imp_congr_left hperm.mem_iff

/-- Of three lines that end in three ways, two are the same, and one ends in a carriage return: in
front of the one that belongs to its end stands another. -/
theorem sort_orders_lines_returns :
    let text := "b\r\na\r\r\nb".toList
    let files := FileTree.empty.insert ["f"] (.file (Utf8.encode text))
    let run : Run := ⟨⟨⟨.withDirectory "/", files⟩, ⟨.empty, .unlimited⟩⟩, []⟩
    AsksToSort ["f"] false (some "f") ∧ AsksToSort ["-r", "f"] true (some "f") ∧
      AsksToSort [] false none ∧ run.output.AcceptsAll ∧ run.job.Supplies (some "f") text ∧
      (builtins.run "sort" ["f"]).Prints run (Utf8.encode "a\r\nb\nb\n".toList) ∧
      (builtins.run "sort" ["-r", "f"]).Prints run (Utf8.encode "b\nb\na\r\n".toList) ∧
      ∃ written, ((pipeOf [["sort", "f"], ["sort"]]).evaluate
          ⟨builtins, substituter builtins 0⟩).Prints run written ∧
        written ≠ Utf8.encode "a\r\nb\nb\n".toList := by
  intro text files run
  have hlines : Text.lines text = [['b'], ['a', '\r'], ['b']] := by decide
  have hsorted : sortedLines false (Text.lines text) = [['a', '\r'], ['b'], ['b']] := by
    rw [hlines]
    simp [sortedLines, List.mergeSort, List.MergeSort.Internal.splitInTwo]
  have hforward : AsksToSort ["f"] false (some "f") := ⟨⟨[], [], ["f"]⟩, rfl, rfl, rfl⟩
  have hbackward : AsksToSort ["-r", "f"] true (some "f") :=
    ⟨⟨["--reverse"], [], ["f"]⟩, rfl, rfl, rfl⟩
  have hpiped : AsksToSort [] false none := ⟨⟨[], [], []⟩, rfl, rfl, rfl⟩
  have houtput : run.output.AcceptsAll := Sink.acceptsAll_unlimited
  have hsupplies : run.job.Supplies (some "f") text :=
    .file ⟨Utf8.encode text, by decide +kernel, Utf8.decode?_encode text⟩
  obtain ⟨-, -, hprints, hpipe⟩ := sort_orders_lines text
  rw [hsorted, hlines] at hpipe
  rw [hsorted] at hprints
  obtain ⟨written, hwritten, hsame⟩ :=
    hpipe _ _ _ (substituter builtins 0) run hforward hpiped houtput hsupplies
  refine ⟨hforward, hbackward, hpiped, houtput, hsupplies,
    hprints _ _ _ run hforward houtput hsupplies, hprints _ _ _ run hbackward houtput hsupplies,
    written, hwritten, fun heq => ?_⟩
  exact hsame.mp heq ['a', '\r'] (by simp) rfl

end LineShell
