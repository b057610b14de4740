import LineShell.Proofs.Handing
import LineShell.Proofs.NormalForm

/-!
# Line breaks stay outside quotes

The tokens of a line that has been read are balanced, and each of them is one line. So is whatever
is handed over for substitution, and a single line cannot break inside quotes when it is read. The
argument goes down through the substitutions: those that are made only concern single lines, so a
substituter may refuse all others without being noticed.
-/

namespace LineShell

open Text

namespace Command

mutual

/-- All tokens of a command, in order. -/
def tokens : Command → List String
  | .call single => single.tokens
  | .pipe calls => calls.flatMap Call.tokens
  | .sequence commands => tokensEach commands

def tokensEach : List Command → List String
  | [] => []
  | command :: commands => command.tokens ++ tokensEach commands

end

theorem mem_tokensEach {commands : List Command} {token : String} :
    token ∈ tokensEach commands ↔ ∃ command ∈ commands, token ∈ command.tokens := by
  induction commands with
  | nil => simp [tokensEach]
  | cons command commands ih => simp [tokensEach, ih]

end Command

/-! ### The tokens of a line -/

theorem IsToken.balanced {token : String} (h : IsToken token) :
    QuoteStack.after [] token.toList = [] := by
  rcases h with rfl | rfl | rfl | hword
  · decide
  · decide
  · decide
  · exact hword.balanced

theorem IsToken.oneLine {token : String} (h : IsToken token) : OneLine token.toList := by
  rcases h with rfl | rfl | rfl | hword
  · simp [OneLine, isLineBreak]
  · simp [OneLine, isLineBreak]
  · simp [OneLine, isLineBreak]
  · exact hword.oneLine

namespace Command

theorem IsPart.isToken {command : Command} (h : command.IsPart) :
    ∀ token ∈ command.tokens, IsToken token := by
  cases command with
  | call single => exact h.2
  | pipe calls =>
    intro token htoken
    obtain ⟨call, hcall, hmem⟩ := List.mem_flatMap.mp htoken
    exact (h.2 call hcall).2 token hmem
  | sequence commands => exact h.elim

theorem IsNormal.isToken {command : Command} (h : command.IsNormal) :
    ∀ token ∈ command.tokens, IsToken token := by
  cases command with
  | call single =>
    have hpart : IsPart (.call single) := h
    exact hpart.isToken
  | pipe calls =>
    have hpart : IsPart (.pipe calls) := h
    exact hpart.isToken
  | sequence commands =>
    intro token htoken
    obtain ⟨command, hcommand, hmem⟩ := mem_tokensEach.mp htoken
    exact (h.2 command hcommand).isToken token hmem

theorem oneLine_of_parse {line : String} {command : Command}
    (h : Command.parse line = .ok command) : ∀ token ∈ command.tokens, OneLine token.toList :=
  fun token htoken => ((isNormal_of_parse h).isToken token htoken).oneLine

/-- No single line breaks inside quotes. -/
theorem parse_ne_quotedLineBreak {line : String} (h : OneLine line.toList) :
    Command.parse line ≠ .error .quotedLineBreak := by
  rw [parse_oneScan, oneScan, if_neg h.unbroken]
  split_ifs <;> simp

end Command

/-! ### Substitution of single lines -/

section Agreement

variable {substitute other : Substituter}

namespace Redirection

/-- Targets and other tokens of a division are tokens of the call. -/
theorem divide_mem {tokens : List String} {division : Division}
    (h : divide tokens = .ok division) :
    (∀ redirection ∈ division.targets, redirection.2 ∈ tokens) ∧
      ∀ token ∈ division.tokens, token ∈ tokens := by
  fun_induction divide tokens generalizing division with
  | case1 =>
    obtain rfl := Except.ok.inj h
    simp
  | case2 token rest _ ih =>
    obtain ⟨others, hrest, hothers⟩ := bind_eq_ok.mp h
    obtain rfl := Except.ok.inj hothers
    obtain ⟨htargets, htokens⟩ := ih hrest
    refine ⟨fun redirection hmem => List.mem_cons_of_mem _ (htargets redirection hmem), ?_⟩
    exact fun other hmem => List.cons_subset_cons token htokens hmem
  | case3 | case4 => cases h
  | case5 token direction _ target rest _ ih =>
    obtain ⟨others, hrest, hothers⟩ := bind_eq_ok.mp h
    obtain rfl := Except.ok.inj hothers
    obtain ⟨htargets, htokens⟩ := ih hrest
    refine ⟨List.forall_mem_cons.mpr ⟨by simp, fun redirection hmem => ?_⟩, fun other hmem => ?_⟩
    · exact List.mem_cons_of_mem _ (List.mem_cons_of_mem _ (htargets redirection hmem))
    · exact List.mem_cons_of_mem _ (List.mem_cons_of_mem _ (htokens other hmem))

end Redirection

theorem Call.Scans.mem {call : Call} {shell now : Shell} {token : String}
    (h : call.Scans substitute shell token now) : token ∈ call.tokens := by
  cases h with
  | target divided visited => exact (Redirection.divide_mem divided).1 _ visited.mem
  | word extracted visited =>
    obtain ⟨division, hdivide, -, rfl⟩ := Redirection.ends_extract_ok.mp extracted
    exact (Redirection.divide_mem hdivide).2 _ visited.mem

variable {registry : Registry}

namespace Command

theorem Prepares.mem {context : Context} {command : Command} {run : Run} {call : Call}
    {shell : Shell} (h : command.Prepares context run call shell) :
    ∀ token ∈ call.tokens, token ∈ command.tokens := by
  intro token htoken
  induction h with
  | call => exact htoken
  | pipe visited => exact List.mem_flatMap.mpr ⟨_, visited.mem, htoken⟩
  | sequence visited prepared ih => exact mem_tokensEach.mpr ⟨_, visited.mem, ih htoken⟩

theorem Scans.mem {context : Context} {command : Command} {run : Run} {token : String}
    {now : Shell} (h : command.Scans context run token now) : token ∈ command.tokens := by
  obtain ⟨hprepares, hscans⟩ := h
  exact hprepares.mem _ hscans.mem

theorem evaluate_congr (hagree : substitute.Agree other) {command : Command}
    (htokens : ∀ token ∈ command.tokens, OneLine token.toList) :
    command.evaluate ⟨registry, substitute⟩ = command.evaluate ⟨registry, other⟩ := by
  funext run
  exact evaluate_congr_of_scans fun token now hscans =>
    congrFun (Argument.resolve_congr hagree (htokens token hscans.mem)) now

end Command

theorem evaluateLine_congr (hagree : substitute.Agree other) (line : String) :
    evaluateLine ⟨registry, substitute⟩ line = evaluateLine ⟨registry, other⟩ line := by
  unfold evaluateLine
  cases hparse : Command.parse line with
  | error fault => rfl
  | ok command => exact Command.evaluate_congr hagree (Command.oneLine_of_parse hparse)

theorem capturedLine_congr (hagree : substitute.Agree other) (line : String) :
    capturedLine ⟨registry, substitute⟩ line = capturedLine ⟨registry, other⟩ line := by
  funext shell
  rw [capturedLine_apply, capturedLine_apply, evaluateLine_congr hagree]

end Agreement

/-! ### What is handed over at any depth -/

/-- Only single lines are handed over, and where a step fails because of a line break inside quotes,
an application has failed so. -/
def lineBreaks : Account where
  Tells events failure :=
    (∀ line, Event.substituted line ∈ events → OneLine line.toList) ∧
      (failure = some (.malformed .quotedLineBreak) →
        ∃ name, Event.ran name (some (.malformed .quotedLineBreak)) ∈ events)
  nil := by simp
  plain {e} he := by
    refine ⟨by simp, fun h => ?_⟩
    obtain rfl := Option.some.inj h
    exact he.elim
  ran name failure := by
    refine ⟨by simp, ?_⟩
    rintro rfl
    exact ⟨name, List.mem_singleton_self _⟩
  append {first later failure} hfirst hlater := by
    refine ⟨fun line hline => ?_, fun hfailure => ?_⟩
    · exact (List.mem_append.mp hline).elim (hlater.1 line) (hfirst.1 line)
    · obtain ⟨name, hname⟩ := hlater.2 hfailure
      exact ⟨name, List.mem_append_left _ hname⟩
  dropped {events e} h _ := ⟨h.1, by simp⟩
  held {first later code other} hfirst hlater := by
    refine ⟨fun line hline => ?_, by simp⟩
    exact (List.mem_append.mp hline).elim (hlater.1 line) (hfirst.1 line)

/-- The substituter on single lines, without an answer to others. -/
def singleLines (substitute : Substituter) : Substituter := fun line =>
  if line.toList.any isLineBreak then Eval.never else substitute line

theorem any_isLineBreak_eq_false {text : List Char} :
    text.any isLineBreak = false ↔ OneLine text := by
  simp [OneLine]

theorem agree_singleLines (substitute : Substituter) :
    substitute.Agree (singleLines substitute) := by
  intro line hline
  rw [singleLines, any_isLineBreak_eq_false.mpr hline]
  rfl

theorem lineBreaks_substituter (registry : Registry) (depth : Nat) (line : String) :
    lineBreaks.Covers Shell.history
      (Argument.runSubstitution (singleLines (substituter registry depth)) line) := by
  induction depth generalizing line with
  | zero => exact covers_runSubstitution_of_never (ite_self _)
  | succ depth ih =>
    cases hbreaks : line.toList.any isLineBreak with
    | true => exact covers_runSubstitution_of_never (if_pos hbreaks)
    | false =>
      -- A single line has tokens of one line each, so below it only single lines matter again.
      have hline : OneLine line.toList := any_isLineBreak_eq_false.mp hbreaks
      refine covers_runSubstitution ⟨by simpa using hline, by simp⟩ ?_
      have hcaptured : singleLines (substituter registry (depth + 1)) line =
          capturedLine ⟨registry, singleLines (substituter registry depth)⟩ line := by
        rw [← agree_singleLines _ line hline]
        exact capturedLine_congr (agree_singleLines _) line
      rw [hcaptured]
      refine covers_capturedLine ih fun fault hfault => ⟨by simp, fun hbreak => ?_⟩
      cases hbreak
      exact absurd hfault (Command.parse_ne_quotedLineBreak hline)

theorem lineBreaks_evaluate {context : Context}
    (h : ∀ line, lineBreaks.Covers Shell.history
      (Argument.runSubstitution context.substitute line)) (command : Command) :
    lineBreaks.Covers Run.history (command.evaluate context) := by
  intro run outcome after hends
  cases command with
  | call single => exact lineBreaks.covers_closed.call h single _ _ _ hends
  | pipe calls => exact lineBreaks.covers_closed.pipe h calls _ _ _ hends
  | sequence commands =>
    have hchild (command : Command) (run : Run) (outcome : Except ShellError Bytes) (after : Run)
        (hends : (command.evaluate context).EndsApart run outcome after) :
        lineBreaks.Explains Run.history run outcome after :=
      hends.explains fun ended last =>
        Command.explains_evaluate h Sink.acceptsAll_unlimited
    rcases Command.ends_sequence.mp hends with ⟨outcomes, hran, rfl⟩ | ⟨outcomes, hbreaks, rfl⟩
    · exact hran.explains fun command _ => hchild command
    · obtain @⟨before, rest, last, run, mid, final, outcome, outcomes, hran, hlast, -⟩ := hbreaks
      obtain ⟨first, hmid, hfirst⟩ := hran.explains fun command _ => hchild command
      obtain ⟨later, hfinal, hlater⟩ := hchild _ _ _ _ hlast
      refine ⟨later ++ first, ?_, fun line hline => ?_, by simp [failure?]⟩
      · rw [Command.overrun, Run.wrote_history, hfinal, hmid, List.append_assoc]
      · exact (List.mem_append.mp hline).elim (hlater.1 line) (hfirst.1 line)

/-- Reading a line and resolving a token of it agree on the quotes: after each beginning of the
token that the scan gets through, and it gets through unless a substitution fails. A whole token is
resolved unless a substitution fails, and only single lines matter for it. Wherever the command of
the line goes on from there, into the substitutions of substituted lines, no line is met that breaks
inside quotes. -/
theorem Command.quotes_agree_of_parse {line : String} {command : Command}
    (h : Command.parse line = .ok command) :
    (∀ token ∈ command.tokens, ∀ (substitute : Substituter) (shell : Shell),
      (∀ before, before <+: token.toList →
        (∃ reached mid, (Argument.scan substitute before).Ends shell (.ok reached) mid ∧
          reached.quotes = QuoteStack.after [] before) ∨
        ∃ next now, Argument.Scan.start.HandsOver substitute before shell next now ∧
          (Argument.scan substitute before).FailsAs shell (substitute next) now) ∧
      ((∃ args after, (Argument.resolve substitute token).Ends shell (.ok args) after) ∨
        ∃ next now, Argument.Scan.start.HandsOver substitute token.toList shell next now ∧
          (Argument.resolve substitute token).FailsAs shell (substitute next) now) ∧
      (∀ next now, Argument.Scan.start.HandsOver substitute token.toList shell next now →
        OneLine next.toList) ∧
      ∀ other, substitute.Agree other →
        Argument.resolve substitute token = Argument.resolve other token) ∧
    ∀ registry depth run outcome after,
      (command.evaluate ⟨registry, substituter registry depth⟩).Ends run outcome after →
        ∃ events, after.history = events ++ run.history ∧
          (∀ next, .substituted next ∈ events →
            OneLine next.toList ∧ Command.parse next ≠ .error .quotedLineBreak) ∧
          (outcome = .error (.malformed .quotedLineBreak) →
            ∃ name, .ran name (some (.malformed .quotedLineBreak)) ∈ events) := by
  have htokens := (isNormal_of_parse h).isToken
  refine ⟨fun token hmem substitute shell => ⟨fun before _ => ?_, ?_, fun next now hhands => ?_,
    fun other hagree => ?_⟩, fun registry depth run outcome after hends => ?_⟩
  · exact Argument.scan_ok_or_failsAs substitute before shell
  · exact Argument.resolve_ok_or_failsAs (htokens token hmem).balanced shell
  · exact hhands.oneLine (htokens token hmem).oneLine Argument.holdsLines_start
  · exact Argument.resolve_congr hagree (htokens token hmem).oneLine
  · rw [evaluate_congr (agree_singleLines _) (oneLine_of_parse h)] at hends
    obtain ⟨events, hevents, hlines, hbreak⟩ :=
      lineBreaks_evaluate (lineBreaks_substituter registry depth) command _ _ _ hends
    refine ⟨events, hevents, fun next hnext => ?_, fun houtcome => hbreak ?_⟩
    · exact ⟨hlines next hnext, parse_ne_quotedLineBreak (hlines next hnext)⟩
    · rw [houtcome]
      rfl

/-- The output of the inner substitution has a line break in it, and is pasted between the double
quotes of the line that is handed over next. -/
theorem Command.quotes_agree_of_parse_pasted :
    let breaking : Application := fun _ => (Job.write [0x78, 0x0A, 0x79]).adaptExcept .io
    let registry : Registry := [("a", fun _ => pure ()), ("b", fun _ => pure ()), ("c", breaking)]
    let run : Run := ⟨⟨⟨.withDirectory "/", .empty⟩, ⟨.empty, .unlimited⟩⟩, []⟩
    Command.parse "a `b \"`c`\"`" = .ok (.call ⟨["a", "`b \"`c`\"`"]⟩) ∧
      ∃ after, ((Command.call ⟨["a", "`b \"`c`\"`"]⟩).evaluate
          ⟨registry, substituter registry 2⟩).Ends run (.ok ()) after ∧
        .substituted "b \"x y\"" ∈ after.history ∧
        ∀ next, .substituted next ∈ after.history →
          OneLine next.toList ∧ Command.parse next ≠ .error .quotedLineBreak := by
  intro breaking registry run
  have hparse : Command.parse "a `b \"`c`\"`" = .ok (.call ⟨["a", "`b \"`c`\"`"]⟩) := by cbv
  have hends : ((Command.call ⟨["a", "`b \"`c`\"`"]⟩).evaluate
      ⟨registry, substituter registry 2⟩).Ends run (.ok ())
      ⟨run.job, [.ran "a" none, .ran "b" none, .substituted "b \"x y\"", .ran "c" none,
        .substituted "c"]⟩ := by
    unfold Eval.Ends
    cbv
  obtain ⟨events, hevents, hlines, -⟩ :=
    (quotes_agree_of_parse hparse).2 registry 2 run _ _ hends
  refine ⟨hparse, _, hends, by simp, fun next hnext => hlines next ?_⟩
  rwa [hevents, List.append_nil] at hnext

end LineShell
