import Mathlib
import LineShell.Proofs.Cuts
import LineShell.Proofs.Tokens

/-!
# Reading a line in one scan

Reading a line takes three passes, each with quotes of its own, but what comes out can be told from
a single scan with one account of the open quotes. A fault of the quotes anywhere in the line comes
before everything else; then no stretch between the separators may be blank; then the separators
give the nesting of the command, and the tokens of the stretches its calls.
-/

namespace LineShell

open Text QuoteStack

/-- The stretches between unquoted separators, grouped at the semicolons. -/
def layout : QuoteStack → List Char → List (List (List Char))
  | _, [] => [[[]]]
  | quotes, c :: rest =>
    if quotes.exposes c = true ∧ c = ';' then [[]] :: layout (quotes.feed c) rest
    else if quotes.exposes c = true ∧ c = '|' then
      (layout (quotes.feed c) rest).modifyHead ([] :: ·)
    else (layout (quotes.feed c) rest).modifyHead (·.modifyHead (c :: ·))

/-- The call with the tokens of a stretch. -/
def Call.ofStretch (stretch : List Char) : Call :=
  ⟨(tokenize (String.ofList stretch)).toOption.getD []⟩

namespace Command

/-- Calls next to each other are a pipe, a call alone is itself. -/
def ofCalls : List Call → Command
  | [single] => .call single
  | several => .pipe several

/-- Commands next to each other are a sequence, a command alone is itself. -/
def ofParts : List Command → Command
  | [single] => single
  | several => .sequence several

/-- The command whose nesting and calls a layout gives. -/
def ofLayout (parts : List (List (List Char))) : Command :=
  ofParts (parts.map fun part => ofCalls (part.map Call.ofStretch))

end Command

/-- Nothing but blanks stands in some stretch. -/
abbrev HasBlankStretch (parts : List (List (List Char))) : Prop :=
  ∃ part ∈ parts, ∃ stretch ∈ part, ∀ c ∈ stretch, isBlank c = true

/-- What one scan of a line tells about reading it. -/
def oneScan (line : List Char) : Except SyntaxFault Command :=
  if BreaksInside [] line then .error .quotedLineBreak
  else if .back ∈ after [] line then .error .unmatchedBackquote
  else if after [] line ≠ [] then .error .unmatchedQuote
  else if HasBlankStretch (layout [] line) then .error .emptyCommand
  else .ok (.ofLayout (layout [] line))

/-! ### The layout and the cuts -/

theorem layout_eq (quotes : QuoteStack) (text : List Char) :
    ∃ first others, cutUnquoted (· == ';') quotes text = first :: others ∧
      layout quotes text =
        cutUnquoted (· == '|') quotes first :: others.map (cutUnquoted (· == '|') []) := by
  induction text generalizing quotes with
  | nil => exact ⟨[], [], rfl, rfl⟩
  | cons c text ih =>
    obtain ⟨first, others, hcut, hlayout⟩ := ih (quotes.feed c)
    by_cases hpart : quotes.exposes c = true ∧ c = ';'
    · obtain ⟨hexposed, rfl⟩ := hpart
      obtain rfl := (exposes_iff.mp hexposed).1
      rw [feed_of_exposes hexposed] at hcut hlayout
      refine ⟨[], first :: others, ?_, ?_⟩
      · rw [cutUnquoted, hexposed, feed_of_exposes hexposed, hcut]
        rfl
      · rw [layout, if_pos ⟨hexposed, rfl⟩, feed_of_exposes hexposed, hlayout]
        rfl
    · refine ⟨c :: first, others, ?_, ?_⟩
      · have hguard : (quotes.exposes c && c == ';') = false := by simpa using hpart
        rw [cutUnquoted, hguard, hcut]
        rfl
      · rw [layout, if_neg hpart, cutUnquoted, hlayout]
        by_cases hbar : quotes.exposes c = true ∧ c = '|'
        · obtain ⟨hexposed, rfl⟩ := hbar
          simp [hexposed]
        · have hguard : (quotes.exposes c && c == '|') = false := by simpa using hbar
          rw [if_neg hbar, hguard]
          rfl

theorem layout_nil_eq (text : List Char) :
    layout [] text = (cutUnquoted (· == ';') [] text).map (cutUnquoted (· == '|') []) := by
  obtain ⟨first, others, hcut, hlayout⟩ := layout_eq [] text
  rw [hlayout, hcut, List.map_cons]

/-- With the separators between them again, the stretches are the line. -/
theorem intercalate_layout (text : List Char) :
    [';'].intercalate ((layout [] text).map (['|'].intercalate ·)) = text := by
  rw [layout_nil_eq, List.map_map]
  simp only [Function.comp_def, intercalate_cutUnquoted, List.map_id']

theorem layout_ne_nil (text : List Char) : layout [] text ≠ [] := by
  rw [layout_nil_eq]
  exact mt List.map_eq_nil_iff.mp cutUnquoted_ne_nil

theorem ne_nil_of_mem_layout {text : List Char} {part : List (List Char)}
    (h : part ∈ layout [] text) : part ≠ [] := by
  rw [layout_nil_eq] at h
  obtain ⟨whole, hwhole, rfl⟩ := List.mem_map.mp h
  exact cutUnquoted_ne_nil

/-- No stretch shows a separator. -/
theorem not_shows_of_mem_layout {text : List Char} {part : List (List Char)}
    {stretch : List Char} (hpart : part ∈ layout [] text) (hstretch : stretch ∈ part) :
    ¬ Shows [] (fun c => c == ';' || c == '|') stretch := by
  rw [layout_nil_eq] at hpart
  obtain ⟨whole, hwhole, rfl⟩ := List.mem_map.mp hpart
  rintro ⟨before, c, rest, rfl, hexposed, hc⟩
  rcases Bool.or_eq_true _ _ ▸ hc with hc | hc
  · exact (cut_cutUnquoted _ _).hidden_of_mem hwhole
      ((cut_cutUnquoted _ _).meets_of_mem hstretch ⟨before, c, rest, rfl, hexposed, hc⟩)
  · exact (cut_cutUnquoted _ _).hidden_of_mem hstretch ⟨before, c, rest, rfl, hexposed, hc⟩

/-- Every stretch of a line without a fault in its quotes is complete by itself. -/
theorem completes_of_mem_layout {text : List Char} (htext : Completes [] text)
    {part : List (List Char)} {stretch : List Char} (hpart : part ∈ layout [] text)
    (hstretch : stretch ∈ part) : Completes [] stretch := by
  rw [layout_nil_eq] at hpart
  obtain ⟨whole, hwhole, rfl⟩ := List.mem_map.mp hpart
  have hcomplete := (cut_cutUnquoted _ _).completes_of_mem htext hwhole
  exact (cut_cutUnquoted _ _).completes_of_mem hcomplete hstretch

/-! ### The later passes -/

theorem splitUnquoted_of_completes {separates : Char → Bool} {text : List Char}
    (h : Completes [] text) :
    splitUnquoted separates [] text = .ok (cutUnquoted separates [] text) :=
  splitUnquoted_eq_ok_iff.mpr ⟨h, rfl⟩

theorem tokenize_of_completes {stretch : List Char} (h : Completes [] stretch) :
    tokenize (String.ofList stretch) = .ok (Call.ofStretch stretch).tokens := by
  obtain ⟨tokens, htokens⟩ := @exists_tokensFrom [] "" stretch h
  have : tokenize (String.ofList stretch) = .ok tokens := by
    rwa [tokenize, String.toList_ofList]
  rw [Call.ofStretch, this]
  rfl

theorem tokens_ofStretch {stretch : List Char} (h : Completes [] stretch) :
    Tokens stretch (Call.ofStretch stretch).tokens := by
  have htokens := tokenize_eq_ok_iff.mp (tokenize_of_completes h)
  rwa [String.toList_ofList] at htokens

theorem Call.parse_of_completes {stretch : List Char} (h : Completes [] stretch) :
    Call.parse stretch =
      if ∀ c ∈ stretch, isBlank c = true then .error .emptyCommand
      else .ok (Call.ofStretch stretch) := by
  have hempty : (Call.ofStretch stretch).tokens.isEmpty = true ↔
      ∀ c ∈ stretch, isBlank c = true := by
    rw [List.isEmpty_iff]
    exact (tokens_ofStretch h).eq_nil_iff
  rw [Call.parse, tokenize_of_completes h]
  simp only [bind, Except.bind, hempty]

theorem Command.parsePart_eq (part : List Char) :
    Command.parsePart part = do
      let stages ← splitUnquoted (· == '|') [] part
      let calls ← stages.mapM Call.parse
      return ofCalls calls := by
  rw [parsePart]
  refine bind_congr fun stages => bind_congr fun calls => ?_
  cases calls with
  | nil => rfl
  | cons first others => cases others <;> rfl

theorem Command.parse_eq (line : String) :
    Command.parse line = do
      let parts ← splitUnquoted (· == ';') [] line.toList
      let commands ← parts.mapM Command.parsePart
      return ofParts commands := by
  rw [parse]
  refine bind_congr fun parts => bind_congr fun commands => ?_
  cases commands with
  | nil => rfl
  | cons first others => cases others <;> rfl

theorem Command.parsePart_of_completes {part : List Char} (h : Completes [] part) :
    Command.parsePart part =
      if ∃ stretch ∈ cutUnquoted (· == '|') [] part, ∀ c ∈ stretch, isBlank c = true then
        .error .emptyCommand
      else .ok (.ofCalls ((cutUnquoted (· == '|') [] part).map Call.ofStretch)) := by
  have hcalls : (cutUnquoted (· == '|') [] part).mapM Call.parse = _ :=
    mapM_eq_ite fun stretch hstretch =>
      Call.parse_of_completes ((cut_cutUnquoted _ part).completes_of_mem h hstretch)
  simp only [parsePart_eq, splitUnquoted_of_completes h, hcalls, bind, Except.bind]
  split_ifs <;> rfl

theorem Command.parse_of_completes {line : String} (h : Completes [] line.toList) :
    Command.parse line =
      if HasBlankStretch (layout [] line.toList) then .error .emptyCommand
      else .ok (.ofLayout (layout [] line.toList)) := by
  have hparts : (cutUnquoted (· == ';') [] line.toList).mapM Command.parsePart = _ :=
    mapM_eq_ite fun part hpart =>
      Command.parsePart_of_completes ((cut_cutUnquoted _ _).completes_of_mem h hpart)
  simp only [parse_eq, splitUnquoted_of_completes h, hparts, bind, Except.bind, layout_nil_eq,
    HasBlankStretch, ofLayout, List.mem_map, exists_exists_and_eq_and, List.map_map,
    Function.comp_def]
  split_ifs <;> rfl

/-! ### The line as a whole -/

theorem oneScan_of_verdict {line : List Char} {fault : SyntaxFault}
    (h : QuoteStack.verdict [] line = .error fault) : oneScan line = .error fault := by
  simp only [verdict, checkClosed, List.contains_iff_mem, List.isEmpty_iff] at h
  simp only [oneScan, ne_eq, ite_not]
  split_ifs at h ⊢ with hbreak hback hclosed
  · exact congrArg _ (Except.error.inj h)
  · exact congrArg _ (Except.error.inj h)
  · exact congrArg _ (Except.error.inj h)

theorem oneScan_of_completes {line : List Char} (h : Completes [] line) :
    oneScan line =
      if HasBlankStretch (layout [] line) then .error .emptyCommand
      else .ok (.ofLayout (layout [] line)) := by
  simp [oneScan, h.unbroken, h.closed]

theorem Command.parse_oneScan (line : String) : Command.parse line = oneScan line.toList := by
  cases hverdict : QuoteStack.verdict [] line.toList with
  | error fault =>
    rw [parse_eq, splitUnquoted_eq, hverdict, oneScan_of_verdict hverdict]
    rfl
  | ok =>
    have hline := verdict_eq_ok_iff.mp hverdict
    rw [parse_of_completes hline, oneScan_of_completes hline]

/-- Reading a line gives what one scan of it tells, whose stretches are the line but for the
separators between them. Where the first pass gets through, the second one cuts its parts as the
scan does, and the third finds tokens in every stretch. -/
theorem parse_eq_oneScan (line : String) :
    Command.parse line = oneScan line.toList ∧
      [';'].intercalate ((layout [] line.toList).map (['|'].intercalate ·)) = line.toList ∧
      ∀ parts, splitUnquoted (· == ';') [] line.toList = .ok parts →
        parts.mapM (splitUnquoted (· == '|') []) = .ok (layout [] line.toList) ∧
          ∀ part ∈ layout [] line.toList, ∀ stretch ∈ part,
            tokenize (String.ofList stretch) = .ok (Call.ofStretch stretch).tokens := by
  refine ⟨Command.parse_oneScan line, intercalate_layout line.toList, fun parts hparts => ?_⟩
  obtain ⟨hline, rfl⟩ := splitUnquoted_eq_ok_iff.mp hparts
  constructor
  · rw [layout_nil_eq]
    exact mapM_of_ok fun part hpart =>
      splitUnquoted_of_completes ((cut_cutUnquoted _ _).completes_of_mem hline hpart)
  · intro part hpart stretch hstretch
    exact tokenize_of_completes (completes_of_mem_layout hline hpart hstretch)

theorem parse_eq_oneScan_quoted_separator :
    splitUnquoted (· == ';') [] "a 'b;c' | d; e".toList =
        .ok ["a 'b;c' | d".toList, " e".toList] ∧
      ["a 'b;c' | d".toList, " e".toList].mapM (splitUnquoted (· == '|') []) =
        .ok (layout [] "a 'b;c' | d; e".toList) :=
  have hparts : splitUnquoted (· == ';') [] "a 'b;c' | d; e".toList =
      .ok ["a 'b;c' | d".toList, " e".toList] := by cbv
  ⟨hparts, ((parse_eq_oneScan "a 'b;c' | d; e").2.2 _ hparts).1⟩

end LineShell
