import Mathlib
import LineShell.Proofs.Rereading

/-!
# The first and the last lines

The first lines of a text and the last ones make up the text again where their counts do, and more
lines than there are cannot be asked for. Where no line ends in a carriage return, what has been
chosen is read again as it was chosen, and so a choice among chosen lines is one choice among the
lines of the text.
-/

namespace LineShell

/-! ### Counts as numerals -/

namespace Numeral

theorem le_ofDigitChars (digits : List Char) (value : Nat) :
    value ≤ Nat.ofDigitChars 10 digits value := by
  induction digits generalizing value with
  | nil => exact le_rfl
  | cons c digits ih =>
    refine le_trans ?_ (ih (10 * value + (c.toNat - '0'.toNat)))
    omega

theorem readDigits_of_lt {bound value : Nat} (overflow : Fault) {digits : List Char}
    (hdigits : ∀ c ∈ digits, c.isDigit = true) (h : Nat.ofDigitChars 10 digits value < bound) :
    readDigits bound overflow value digits = .ok (Nat.ofDigitChars 10 digits value) := by
  induction digits generalizing value with
  | nil => rfl
  | cons c digits ih =>
    obtain ⟨hc, hdigits⟩ := List.forall_mem_cons.mp hdigits
    have hnext : Nat.ofDigitChars 10 (c :: digits) value =
        Nat.ofDigitChars 10 digits (value * 10 + (c.toNat - '0'.toNat)) := by
      rw [Nat.mul_comm]
      rfl
    rw [hnext] at h ⊢
    have hsmall := lt_of_le_of_lt (le_ofDigitChars digits _) h
    rw [readDigits, if_pos hc]
    exact (if_pos hsmall).trans (ih hdigits h)

/-- Every count is read from its decimal digits. -/
theorem readCount_toString {n : Nat} (h : n < countBound) : readCount (toString n) = .ok n := by
  have hdigits : ∀ c ∈ Nat.toDigits 10 n, c.isDigit = true := fun c hc =>
    Nat.isDigit_of_mem_toDigits (by decide) (by decide) hc
  have hread := readDigits_of_lt .tooLarge hdigits (by rwa [Nat.ofDigitChars_ten_toDigits])
  rw [Nat.ofDigitChars_ten_toDigits] at hread
  rw [readCount, Nat.toString_eq_repr, Nat.toList_repr]
  split
  · next hnone => exact absurd hnone Nat.toDigits_ne_nil
  · next digits hsign =>
    have hplus := hdigits '+' (by simp [hsign])
    cases hplus
  · exact hread

theorem lt_of_readDigits {bound value n : Nat} {overflow : Fault} {digits : List Char}
    (hvalue : value < bound) (h : readDigits bound overflow value digits = .ok n) : n < bound := by
  induction digits generalizing value with
  | nil =>
    obtain rfl := Except.ok.inj h
    exact hvalue
  | cons c digits ih =>
    rw [readDigits] at h
    by_cases hdigit : c.isDigit = true
    · rw [if_pos hdigit] at h
      by_cases hnext : value * 10 + (c.toNat - '0'.toNat) < bound
      · exact ih hnext ((if_pos hnext).symm.trans h)
      · cases (if_neg hnext).symm.trans h
    · rw [if_neg hdigit] at h
      cases h

theorem lt_of_readCount {text : String} {n : Nat} (h : readCount text = .ok n) :
    n < countBound := by
  have hzero : 0 < countBound := by decide
  rw [readCount] at h
  split at h
  · cases h
  · next digits hsign =>
    clear hsign
    cases digits with
    | nil => cases h
    | cons c digits => exact lt_of_readDigits hzero h
  · exact lt_of_readDigits hzero h

end Numeral

theorem Arguments.count_lt (arguments : Arguments) (long : String) {otherwise : Nat}
    (h : otherwise < Numeral.countBound) : arguments.count long otherwise < Numeral.countBound := by
  rw [Arguments.count]
  split
  · next n hread =>
    obtain ⟨text, -, htext⟩ := Option.map_eq_some_iff.mp hread
    exact Numeral.lt_of_readCount htext
  · exact h

theorem Arguments.count_toString {n otherwise : Nat} {switches operands : List String}
    {long : String} (h : n < Numeral.countBound) :
    Arguments.count ⟨switches, [(long, toString n)], operands⟩ long otherwise = n := by
  have hgiven : Arguments.value? ⟨switches, [(long, toString n)], operands⟩ long =
      some (toString n) := by
    simp [Arguments.value?]
  rw [Arguments.count, hgiven, Option.map_some, Numeral.readCount_toString h]

/-! ### Asking for lines -/

namespace Usage

variable {usage : Usage} {n : Nat}

/-- The arguments ask for so many lines of the source. -/
def AsksFor (usage : Usage) (args : List String) (count : Nat) (source : Option String) : Prop :=
  ∃ found, usage.scan args = .ok (some found) ∧ found.count "--lines" defaultCount = count ∧
    found.operand? = source

/-- A count, and behind it the file that is to be read, if it is not the input. -/
def countArgs (n : Nat) (source : Option String) : List String :=
  ["-n", toString n] ++ source.elim [] (behindDashes false)

theorem asksFor_countArgs {purpose : String} (hoptions : usage.options = [lineCount])
    (hoperands : usage.operands = lineOperand purpose) (hn : n < Numeral.countBound)
    (source : Option String) : usage.AsksFor (countArgs n source) n source := by
  have hread := Numeral.readCount_toString hn
  have hmissing (given : Nat) : usage.missing given = [] := by
    rw [Usage.missing, hoperands]
    cases given <;> simp [lineOperand]
  have hcount : usage.scanFrom .start ["-n", toString n] =
      .ok ⟨false, false, ⟨[], [("--lines", toString n)], []⟩⟩ := by
    have hoption : usage.option? "-n" = some lineCount := by
      rw [option?, hoptions]
      rfl
    have hvalue : ValueKind.count.fault? (toString n) = none := by
      rw [ValueKind.fault?, hread]
    rw [scanFrom_value rfl rfl rfl (by decide) hoption rfl rfl hvalue]
    rfl
  cases source with
  | none => exact ⟨_, scan_eq_some hcount (hmissing _), Arguments.count_toString hn, rfl⟩
  | some file =>
    have hspec : operandAt? usage.operands 0 = (lineOperand purpose).head? := by
      rw [hoperands]
      rfl
    have hfile := scanFrom_behindDashes file hcount hspec rfl
    exact ⟨_, scan_eq_some hfile (hmissing _), Arguments.count_toString hn, rfl⟩

end Usage

section Applications

variable {args : List String} {count : Nat} {source : Option String} {text : List Char} {run : Run}

theorem prints_head (h : headUsage.AsksFor args count source) (houtput : run.output.AcceptsAll)
    (hsupplies : run.job.Supplies source text) :
    (builtins.run "head" args).Prints run
      (Utf8.encode (Text.unlines ((Text.lines text).take count))) := by
  obtain ⟨found, hscan, rfl, rfl⟩ := h
  exact prints_of_printLines rfl (Usage.application_of_scan hscan) houtput hsupplies

theorem prints_tail (h : tailUsage.AsksFor args count source) (houtput : run.output.AcceptsAll)
    (hsupplies : run.job.Supplies source text) :
    (builtins.run "tail" args).Prints run
      (Utf8.encode (Text.unlines (lastLines count (Text.lines text)))) := by
  obtain ⟨found, hscan, rfl, rfl⟩ := h
  exact prints_of_printLines rfl (Usage.application_of_scan hscan) houtput hsupplies

end Applications

/-! ### Choices among lines -/

section Choices

variable {lines chosen : List (List Char)} {a : Nat}

theorem lastLines_sublist (a : Nat) (lines : List (List Char)) :
    (lastLines a lines).Sublist lines :=
  List.drop_sublist _ lines

theorem lastLines_of_le (h : lines.length ≤ a) : lastLines a lines = lines := by
  rw [lastLines, Nat.sub_eq_zero_of_le h, List.drop_zero]

theorem take_append_lastLines (h : a ≤ lines.length) :
    lines.take a ++ lastLines (lines.length - a) lines = lines := by
  rw [lastLines, Nat.sub_sub_self h, List.take_append_drop]

theorem lastLines_lastLines (a b : Nat) (lines : List (List Char)) :
    lastLines b (lastLines a lines) = lastLines (min a b) lines := by
  simp only [lastLines, List.length_drop, List.drop_drop]
  congr 1
  omega

theorem lastLines_take (a b : Nat) (lines : List (List Char)) :
    lastLines b (lines.take a) =
      (lines.take (min a lines.length)).drop
        (min a lines.length - min b (min a lines.length)) := by
  rw [lastLines, List.length_take, ← List.take_eq_take_min]
  congr 1
  omega

/-- Lines of a text without a carriage return at their end are read again as they are. -/
theorem lines_unlines_of_sublist {text : List Char} (hchosen : chosen.Sublist (Text.lines text))
    (hreturn : ∀ line ∈ Text.lines text, ¬ Text.EndsInReturn line) :
    Text.lines (Text.unlines chosen) = chosen :=
  Text.lines_unlines_of_no_return
    (fun _ hline => Text.lineFeed_notMem_of_mem_lines (hchosen.subset hline))
    fun line hline => hreturn line (hchosen.subset hline)

end Choices

/-- **The first and the last lines.** Every count can be asked for. The first lines and as many last
ones as are left are all lines of the text in order, and a count greater than their number gives all
of them. Where no line ends in a carriage return, pipes choose as one application would: the smaller
count of first lines or of last lines, and the last ones of the first lines. -/
theorem first_and_last_lines (text : List Char) :
    let lines := Text.lines text
    let written (chosen : List (List Char)) := Utf8.encode (Text.unlines chosen)
    (∀ n < Numeral.countBound, ∀ source,
      headUsage.AsksFor (Usage.countArgs n source) n source ∧
        tailUsage.AsksFor (Usage.countArgs n source) n source) ∧
    (∀ a source first run, headUsage.AsksFor first a source → run.output.AcceptsAll →
      run.job.Supplies source text →
        (a ≤ lines.length → ∀ last, tailUsage.AsksFor last (lines.length - a) source →
          ∃ front back, (builtins.run "head" first).Prints run front ∧
            (builtins.run "tail" last).Prints run back ∧ front ++ back = written lines) ∧
        (lines.length < a → ∀ last, tailUsage.AsksFor last a source →
          (builtins.run "head" first).Prints run (written lines) ∧
            (builtins.run "tail" last).Prints run (written lines))) ∧
    ((∀ line ∈ lines, ¬ Text.EndsInReturn line) → ∀ a b source substitute run,
      run.output.AcceptsAll → run.job.Supplies source text → ∀ first second,
        (headUsage.AsksFor first a source → headUsage.AsksFor second b none →
          ∀ both, headUsage.AsksFor both (min a b) source →
            (builtins.run "head" both).Prints run (written (lines.take (min a b))) ∧
            ((pipeOf ["head" :: first, "head" :: second]).evaluate ⟨builtins, substitute⟩).Prints
              run (written (lines.take (min a b)))) ∧
        (tailUsage.AsksFor first a source → tailUsage.AsksFor second b none →
          ∀ both, tailUsage.AsksFor both (min a b) source →
            (builtins.run "tail" both).Prints run (written (lastLines (min a b) lines)) ∧
            ((pipeOf ["tail" :: first, "tail" :: second]).evaluate ⟨builtins, substitute⟩).Prints
              run (written (lastLines (min a b) lines))) ∧
        (headUsage.AsksFor first a source → tailUsage.AsksFor second b none →
          ((pipeOf ["head" :: first, "tail" :: second]).evaluate ⟨builtins, substitute⟩).Prints run
            (written ((lines.take (min a lines.length)).drop
              (min a lines.length - min b (min a lines.length)))))) := by
  intro lines written
  refine ⟨fun n hn source => ⟨Usage.asksFor_countArgs rfl rfl hn source,
      Usage.asksFor_countArgs rfl rfl hn source⟩,
    fun a source first run hfirst houtput hsupplies => ⟨fun ha last hlast => ?_,
      fun ha last hlast => ?_⟩,
    fun hreturn a b source substitute run houtput hsupplies first second => ⟨?_, ?_, ?_⟩⟩
  · refine ⟨_, _, prints_head hfirst houtput hsupplies, prints_tail hlast houtput hsupplies, ?_⟩
    rw [← Utf8.encode_append, Text.unlines, Text.unlines, ← List.flatMap_append,
      take_append_lastLines ha]
    rfl
  · have hhead := prints_head hfirst houtput hsupplies
    have htail := prints_tail hlast houtput hsupplies
    rw [List.take_of_length_le ha.le] at hhead
    rw [lastLines_of_le ha.le] at htail
    exact ⟨hhead, htail⟩
  · intro hfirst hsecond both hboth
    refine ⟨prints_head hboth houtput hsupplies, ?_⟩
    have hpipe := prints_pipeOf substitute
      (prints_head hfirst Sink.acceptsAll_unlimited (hsupplies.withOutput .unlimited))
      fun history => prints_head hsecond houtput (run.job.supplies_encode _)
    rwa [lines_unlines_of_sublist (List.take_sublist _ _) hreturn, List.take_take,
      Nat.min_comm] at hpipe
  · intro hfirst hsecond both hboth
    refine ⟨prints_tail hboth houtput hsupplies, ?_⟩
    have hpipe := prints_pipeOf substitute
      (prints_tail hfirst Sink.acceptsAll_unlimited (hsupplies.withOutput .unlimited))
      fun history => prints_tail hsecond houtput (run.job.supplies_encode _)
    rwa [lines_unlines_of_sublist (lastLines_sublist _ _) hreturn, lastLines_lastLines] at hpipe
  · intro hfirst hsecond
    have hpipe := prints_pipeOf substitute
      (prints_head hfirst Sink.acceptsAll_unlimited (hsupplies.withOutput .unlimited))
      fun history => prints_tail hsecond houtput (run.job.supplies_encode _)
    rwa [lines_unlines_of_sublist (List.take_sublist _ _) hreturn, lastLines_take] at hpipe

/-- The text is on the input, its lines end in three ways, and none ends in a carriage return then.
The greatest count is more than the text has lines. -/
theorem first_and_last_lines_greatest_count :
    let text := "a\r\n\nb\rc\nd".toList
    let run : Run := ⟨⟨⟨.withDirectory "/", .empty⟩,
      ⟨.ofBytes (Utf8.encode text), .unlimited⟩⟩, []⟩
    let context : Context := ⟨builtins, substituter builtins 0⟩
    run.output.AcceptsAll ∧ run.job.Supplies none text ∧
      (∀ line ∈ Text.lines text, ¬ Text.EndsInReturn line) ∧
      (∃ front back, (builtins.run "head" ["-n", "1"]).Prints run front ∧
        (builtins.run "tail" ["-n", "3"]).Prints run back ∧
        front ++ back = Utf8.encode "a\n\nb\rc\nd\n".toList) ∧
      (builtins.run "tail" ["-n", "18446744073709551615"]).Prints run
        (Utf8.encode "a\n\nb\rc\nd\n".toList) ∧
      ((pipeOf [["head", "-n", "3"], ["tail", "-n", "2"]]).evaluate context).Prints run
        (Utf8.encode "\nb\rc\n".toList) := by
  intro text run context
  obtain ⟨hcounts, hends, hpipes⟩ := first_and_last_lines text
  have hlines : Text.lines text = [['a'], [], ['b', '\r', 'c'], ['d']] := by decide
  have houtput : run.output.AcceptsAll := Sink.acceptsAll_unlimited
  have hsupplies : run.job.Supplies none text := .input rfl (Utf8.decode?_encode text)
  have hreturn : ∀ line ∈ Text.lines text, ¬ Text.EndsInReturn line := by
    rw [hlines]
    decide
  have hhead (n : Nat) (hn : n < Numeral.countBound) :
      headUsage.AsksFor ["-n", toString n] n none := (hcounts n hn none).1
  have htail (n : Nat) (hn : n < Numeral.countBound) :
      tailUsage.AsksFor ["-n", toString n] n none := (hcounts n hn none).2
  rw [hlines] at hends
  refine ⟨houtput, hsupplies, hreturn, ?_, ?_, ?_⟩
  · exact (hends 1 none _ run (hhead 1 (by decide)) houtput hsupplies).1 (by decide) _
      (htail 3 (by decide))
  · have hgreatest := htail 18446744073709551615 (by decide)
    exact ((hends _ none _ run (hhead 18446744073709551615 (by decide)) houtput hsupplies).2
      (by decide) _ hgreatest).2
  · have hpipe := (hpipes hreturn 3 2 none (substituter builtins 0) run houtput hsupplies
      ["-n", "3"] ["-n", "2"]).2.2 (hhead 3 (by decide)) (htail 2 (by decide))
    rw [hlines] at hpipe
    exact hpipe

end LineShell
