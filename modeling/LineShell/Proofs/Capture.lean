import LineShell.Builtin
import LineShell.Proofs.Quiet

/-!
# Captured output is data

A line in back-quotes that substitutes nothing itself is handed over as it was written, and what it
wrote goes into the arguments without being read again. So a line that echoes it writes the output
of the line in it, whatever characters this has.
-/

namespace LineShell

open Text QuoteStack

/-! ### The two ways to capture a line -/

namespace Pattern

theorem expand_ofText (text : List Char) (env : Environment) (files : FileTree) :
    (ofText text).expand env files = [String.ofList text] := by
  have hwildcard : (ofText text).hasWildcard = false := hasWildcard_pushText empty text
  rw [expand_of_not_hasWildcard hwildcard, ofText, plain_pushText]
  rfl

theorem expand_markQuoted (p : Pattern) (env : Environment) (files : FileTree) :
    p.markQuoted.expand env files = p.expand env files := rfl

theorem isSignificant_ofText {text : List Char} (h : text ≠ []) :
    (ofText text).isSignificant = true := by
  have hplain : (ofText text).plain = text := by
    rw [ofText, plain_pushText]
    rfl
  have hpieces : (ofText text).pieces ≠ #[] := by
    intro hnil
    rw [plain, hnil] at hplain
    exact h hplain.symm
  simp [isSignificant, hpieces]

end Pattern

namespace Argument

/-- The line in back-quotes. -/
def captured (line : String) : String := String.ofList (quote .back line.toList)

/-- The line in back-quotes between double quotes. -/
def quotedCapture (line : String) : String :=
  String.ofList (quote .double (quote .back line.toList))

variable {substitute : Substituter} {line : String}

theorem isWordToken_captured (honeLine : OneLine line.toList)
    (hclosed : after [] line.toList = []) (h : ¬ Substitutes [] line.toList) :
    IsWordToken (captured line) := by
  refine isWordToken_quote ?_ (@not_shows_above_back [] [] _ h _) honeLine
  have hafter := @after_above_back [] [] _ h
  rwa [hclosed] at hafter

theorem isWordToken_quotedCapture (honeLine : OneLine line.toList)
    (hclosed : after [] line.toList = []) (h : ¬ Substitutes [] line.toList) :
    IsWordToken (quotedCapture line) := by
  have hopen : QuoteStack.feed [.double] Quote.back.char = [.back, .double] := rfl
  have hafter := @after_above_back [] [.double] _ h
  rw [hclosed, List.nil_append] at hafter
  have hinside : after [.double] (Quote.back.char :: line.toList) = [.back, .double] := by
    rw [after_cons, hopen, hafter]
  have hquote (quotes : QuoteStack) : ¬ quotes.exposes Quote.back.char = true := by simp [exposes]
  refine isWordToken_quote ?_ ?_ ?_
  · rw [quote, after_append, hinside]
    rfl
  · rw [quote, Shows, meets_append, meets_cons, hopen, hinside, meets_cons]
    rintro ((hshows | hshows) | hshows | hshows)
    · exact hquote _ hshows.1
    · exact @not_shows_above_back [] [.double] _ h _ hshows
    · exact hquote _ hshows.1
    · exact not_meets_nil hshows
  · have hplain : isLineBreak Quote.back.char = false := rfl
    exact List.forall_mem_append.mpr
      ⟨List.forall_mem_cons.mpr ⟨hplain, honeLine⟩, List.forall_mem_singleton.mpr hplain⟩

/-- What a token stands for that comes down to fields without wildcards, which depend on the output
of one substitution. -/
theorem resolve_of_capture {token : String} {fields : List Char → List Pattern}
    {args : List Char → List String}
    (hscan : scan substitute token.toList = do
      let output ← runSubstitution substitute line
      return Scan.start.absorb (fields output))
    (hplain : ∀ output env files,
      ((fields output).filter (·.isSignificant)).flatMap (·.expand env files) = args output) :
    resolve substitute token = do
      let output ← runSubstitution substitute line
      return args output := by
  have hget (output : List Char) :
      (Eval.get >>= fun _ => pure (args output) : Eval Shell (List String)) = pure (args output) :=
    rfl
  rw [resolve, hscan]
  simp only [bind_assoc, pure_bind, Scan.start_absorb_finish, Eval.ofSyntax, hplain, hget]

theorem resolve_captured (hclosed : after [] line.toList = [])
    (h : ¬ Substitutes [] line.toList) :
    resolve substitute (captured line) = do
      let output ← runSubstitution substitute line
      return (words output).map String.ofList := by
  have hpaste (output : List Char) :
      Scan.start.paste output = Scan.start.absorb ((words output).map .ofText) :=
    Scan.pushWords_eq_absorb _ _
  have hscan : scan substitute (captured line).toList = do
      let output ← runSubstitution substitute line
      return Scan.start.absorb ((words output).map .ofText) := by
    show Scan.start.feedText substitute _ = _
    rw [captured, String.toList_ofList,
      (Writes.copied hclosed h).feedText_eq_paste (by simp [Scan.start]) (by simp [Scan.start])]
    simp only [pure_bind, String.ofList_toList, hpaste]
  refine resolve_of_capture hscan fun output env files => ?_
  have hsignificant : ∀ field ∈ (words output).map Pattern.ofText, field.isSignificant = true := by
    refine List.forall_mem_map.mpr fun word hword => Pattern.isSignificant_ofText ?_
    simpa using (List.mem_filter.mp hword).2
  rw [List.filter_eq_self.mpr hsignificant, List.flatMap_map]
  simp only [Pattern.expand_ofText]
  exact List.flatMap_pure_eq_map _ _

theorem resolve_quotedCapture (hclosed : after [] line.toList = [])
    (h : ¬ Substitutes [] line.toList) :
    resolve substitute (quotedCapture line) = do
      let output ← runSubstitution substitute line
      return [String.ofList output] := by
  have hwrites := (@Writes.copied substitute _ hclosed h).substitution
  have hscan : scan substitute (quotedCapture line).toList = do
      let output ← runSubstitution substitute line
      return Scan.start.absorb [(Pattern.ofText output).markQuoted] := by
    show Scan.start.feedText substitute _ = _
    rw [quotedCapture, String.toList_ofList, hwrites.feedText_eq_extend ⟨rfl, rfl⟩ (by decide)]
    simp only [pure_bind, String.ofList_toList]
    rfl
  refine resolve_of_capture hscan fun output env files => ?_
  have hsignificant : (Pattern.ofText output).markQuoted.isSignificant = true := rfl
  rw [List.filter_cons_of_pos hsignificant, List.filter_nil, List.flatMap_singleton,
    Pattern.expand_markQuoted, Pattern.expand_ofText]

end Argument

/-! ### Writing what was captured -/

namespace Usage

variable {usage : Usage} {scan : Scan} {args : List String}

theorem scanFrom_switch {argument : String} {option : OptionSpec}
    (hended : scan.optionsEnded = false) (hhelp : scan.help = false)
    (hdash : argument.toList.head? = some '-') (hplain : argument ∉ ["--help", "help", "--"])
    (hoption : usage.option? argument = some option) (hvalue : option.value = none) :
    usage.scanFrom scan (argument :: args) = usage.scanFrom (scan.addSwitch option.long) args := by
  simp only [List.mem_cons, List.not_mem_nil, or_false, not_or] at hplain
  obtain ⟨hlong, hshort, hdashes⟩ := hplain
  rw [scanFrom]
  simp [hended, hhelp, hdash, hlong, hshort, hdashes, hoption, hvalue]

theorem scanFrom_value {argument value : String} {option : OptionSpec} {kind : ValueKind}
    (hended : scan.optionsEnded = false) (hhelp : scan.help = false)
    (hdash : argument.toList.head? = some '-') (hplain : argument ∉ ["--help", "help", "--"])
    (hoption : usage.option? argument = some option) (hkind : option.value = some kind)
    (hnew : scan.found.value? option.long = none) (hvalue : kind.fault? value = none) :
    usage.scanFrom scan (argument :: value :: args) =
      usage.scanFrom (scan.addValue option.long value) args := by
  simp only [List.mem_cons, List.not_mem_nil, or_false, not_or] at hplain
  obtain ⟨hlong, hshort, hdashes⟩ := hplain
  rw [scanFrom]
  simp [hended, hhelp, hdash, hlong, hshort, hdashes, hoption, hkind, hnew, hvalue]

theorem scanFrom_dashes (hended : scan.optionsEnded = false) :
    usage.scanFrom scan ("--" :: args) =
      usage.scanFrom { scan with optionsEnded := true } args := by
  rw [scanFrom]
  simp [hended]

theorem scanFrom_operand {spec : OperandSpec} {arg : String} (hkind : spec.kind = .text)
    (hended : scan.optionsEnded = true)
    (hspec : operandAt? usage.operands scan.found.operands.length = some spec) :
    usage.scanFrom scan (arg :: args) = usage.scanFrom (scan.addOperand spec arg) args := by
  rw [scanFrom]
  simp only [hended, hspec, hkind, ValueKind.fault?, Bool.not_true, Bool.false_and,
    Bool.false_eq_true, if_false]

/-- Behind the options, everything goes to a list of texts. -/
theorem scanFrom_list {spec : OperandSpec} (hkind : spec.kind = .text)
    (hended : scan.optionsEnded = true)
    (hspec : ∀ given ≥ scan.found.operands.length,
      operandAt? usage.operands given = some spec) :
    usage.scanFrom scan args =
      .ok { scan with found.operands := scan.found.operands ++ args } := by
  induction args generalizing scan with
  | nil => rw [scanFrom, List.append_nil]
  | cons arg args ih =>
    have hnext : (scan.addOperand spec arg).optionsEnded = true := by
      simp [Scan.addOperand, hended]
    have hothers : ∀ given ≥ (scan.addOperand spec arg).found.operands.length,
        operandAt? usage.operands given = some spec := fun given hgiven =>
      hspec given (le_trans (by simp [Scan.addOperand]) hgiven)
    rw [scanFrom_operand hkind hended (hspec _ le_rfl), ih hnext hothers]
    simp [Scan.addOperand, hended]

theorem scanFrom_operands {spec : OperandSpec} (hoperands : usage.operands = [spec])
    (hlist : spec.isList = true) (hkind : spec.kind = .text) (hended : scan.optionsEnded = true) :
    usage.scanFrom scan args =
      .ok { scan with found.operands := scan.found.operands ++ args } := by
  refine scanFrom_list hkind hended fun given _ => ?_
  simp [hoperands, operandAt?, hlist]

/-- Nothing is missing where the only operand is not required. -/
theorem scan_of_scanFrom {spec : OperandSpec} {found : Arguments}
    (hoperands : usage.operands = [spec]) (hrequired : spec.required = false)
    (h : usage.scanFrom .start args = .ok ⟨false, true, found⟩) :
    usage.scan args = .ok (some found) := by
  have hmissing (given : Nat) : usage.missing given = [] := by
    rw [missing, hoperands]
    cases given <;> simp [hrequired]
  rw [Usage.scan, h]
  simp only [bind, Except.bind, Bool.false_eq_true, if_false, hmissing]
  rfl

/-- Behind `--` stands a list of texts. -/
theorem scan_operands {spec : OperandSpec} (hoperands : usage.operands = [spec])
    (hlist : spec.isList = true) (hkind : spec.kind = .text) (hrequired : spec.required = false) :
    usage.scan ("--" :: args) = .ok (some ⟨[], [], args⟩) := by
  refine scan_of_scanFrom hoperands hrequired ?_
  rw [scanFrom_dashes rfl, scanFrom_operands hoperands hlist hkind rfl]
  rfl

/-- A switch, and behind `--` a list of texts. -/
theorem scan_switch_operands {argument long : String} {option : OptionSpec} {spec : OperandSpec}
    (hdash : argument.toList.head? = some '-') (hplain : argument ∉ ["--help", "help", "--"])
    (hoption : usage.option? argument = some option) (hvalue : option.value = none)
    (hlong : option.long = long) (hoperands : usage.operands = [spec])
    (hlist : spec.isList = true) (hkind : spec.kind = .text) (hrequired : spec.required = false) :
    usage.scan (argument :: "--" :: args) = .ok (some ⟨[long], [], args⟩) := by
  refine scan_of_scanFrom hoperands hrequired ?_
  rw [scanFrom_switch rfl rfl hdash hplain hoption hvalue, scanFrom_dashes rfl,
    scanFrom_operands hoperands hlist hkind rfl, hlong]
  rfl

theorem application_of_scan {run : Arguments → Action ShellError Unit} {arguments : Arguments}
    (h : usage.scan args = .ok (some arguments)) : usage.application run args = run arguments := by
  rw [application, h]

end Usage

theorem echo_operands (args : List String) :
    echo ("-n" :: "--" :: args) = echoArguments false args := by
  have hdash : "-n".toList.head? = some '-' := rfl
  have hplain : "-n" ∉ ["--help", "help", "--"] := by decide
  have hswitch : Arguments.has ⟨["--no-newline"], [], args⟩ "--no-newline" = true := rfl
  unfold echo
  rw [Usage.application_of_scan
    (Usage.scan_switch_operands hdash hplain rfl rfl rfl rfl rfl rfl rfl), hswitch]
  rfl

/-- The run after `echo` has written the text. -/
def Run.echoed (run : Run) (text : List Char) : Run :=
  { run.wrote (Utf8.encode text) with history := .ran "echo" none :: run.history }

theorem ends_echo {run : Run} {args : List String} {text : List Char}
    (htext : (" ".intercalate args).toList = text) (hfits : run.output.Fits (Utf8.encode text)) :
    (builtins.run "echo" ("-n" :: "--" :: args)).Ends run (.ok ()) (run.echoed text) := by
  have hlookup : builtins.lookup "echo" = some echo := rfl
  have hwrite : echo ("-n" :: "--" :: args) run.job =
      .ok () (run.wrote (Utf8.encode text)).job := by
    rw [echo_operands]
    simp [echoArguments, emit, emitBytes, EStateM.adaptExcept, htext, Job.write_apply, hfits]
  unfold Eval.Ends Registry.run
  rw [hlookup]
  simp only [hwrite]
  rfl

/-! ### Lines that echo what they capture -/

/-- A line that echoes one token. -/
def echoLine (token : String) : String := "echo -n -- " ++ token

theorem IsWordToken.tokenize_eq {token : String} (h : IsWordToken token) :
    tokenize token = .ok [token] := by
  have htokens := Tokens.intercalate (List.cons_ne_nil token [])
    (List.forall_mem_singleton.mpr h.isToken) 0
  simpa [tokenize_eq_ok_iff, spaces] using htokens

section Lines

variable {line token : String} {args : List Char → List String} {depth : Nat} {run last : Run}
  {ended : Except ShellError Unit}

theorem isWordToken_echo : ∀ token ∈ ["echo", "-n", "--"], IsWordToken token := by
  simp only [List.forall_mem_cons, List.not_mem_nil, false_implies, implies_true, and_true]
  exact ⟨⟨by decide, rfl, by simp [isLineBreak], by decide⟩,
    ⟨by decide, rfl, by simp [isLineBreak], by decide⟩,
    ⟨by decide, rfl, by simp [isLineBreak], by decide⟩⟩

theorem parse_echoLine (h : IsWordToken token) :
    Command.parse (echoLine token) = .ok (.call ⟨["echo", "-n", "--", token]⟩) := by
  have hline : echoLine token = " ".intercalate ["echo", "-n", "--", token] := by
    apply String.toList_injective
    simp [echoLine]
  rw [hline]
  refine parse_call (List.cons_ne_nil _ _) ?_
  show ∀ word ∈ ["echo", "-n", "--"] ++ [token], IsToken word
  exact List.forall_mem_append.mpr ⟨fun word hword => (isWordToken_echo word hword).isToken,
    List.forall_mem_singleton.mpr h.isToken⟩

theorem resolveAll_echo (substitute : Substituter) (tokens : List String) :
    Argument.resolveAll substitute ("echo" :: "-n" :: "--" :: tokens) =
      Argument.resolveAll substitute tokens >>= fun args =>
        pure ("echo" :: "-n" :: "--" :: args) := by
  have hecho : Argument.resolve substitute "echo" = pure ["echo"] := rfl
  have hswitch : Argument.resolve substitute "-n" = pure ["-n"] := rfl
  have hdashes : Argument.resolve substitute "--" = pure ["--"] := rfl
  simp only [Argument.resolveAll, hecho, hswitch, hdashes, pure_bind, bind_assoc, List.cons_append,
    List.nil_append]

theorem evaluateLine_of_parse_call {call : Call} {context : Context}
    (h : Command.parse line = .ok (.call call)) :
    evaluateLine context line = call.evaluate context := by
  have hsyntax : (Eval.ofSyntax (.ok (.call call)) : Eval Run Command) = pure (.call call) := rfl
  rw [evaluateLine, h, hsyntax, pure_bind, Command.evaluate]

/-- The line resolves its token, and then only `echo` runs. -/
theorem evaluateLine_echoLine (context : Context) (h : IsWordToken token)
    (hoperator : Redirection.operator? token = none) :
    evaluateLine context (echoLine token) =
      Eval.onShell (Argument.resolve context.substitute token) >>= fun args =>
        context.registry.run "echo" ("-n" :: "--" :: args) := by
  have hoperators : ∀ word ∈ ["echo", "-n", "--", token], Redirection.operator? word = none := by
    simp only [List.forall_mem_cons, List.not_mem_nil, false_implies, implies_true, and_true]
    exact ⟨rfl, rfl, rfl, hoperator⟩
  have hwords : Argument.resolveAll context.substitute ["echo", "-n", "--", token] =
      Argument.resolve context.substitute token >>= fun args =>
        pure ("echo" :: "-n" :: "--" :: args) := by
    rw [resolveAll_echo]
    simp only [Argument.resolveAll, pure_bind, bind_assoc, List.append_nil]
  have hprepare : Call.prepare context.substitute ⟨["echo", "-n", "--", token]⟩ =
      Argument.resolve context.substitute token >>= fun args =>
        pure (.unopened, "echo" :: "-n" :: "--" :: args) := by
    rw [Call.prepare_of_words context.substitute (List.cons_ne_nil _ _) hoperators, hwords,
      bind_assoc]
    simp only [pure_bind]
  rw [evaluateLine_of_parse_call (parse_echoLine h), Call.evaluate_eq, hprepare, Eval.onShell_bind,
    bind_assoc]
  simp only [Eval.onShell_pure, pure_bind, Call.dispatch, Redirection.Files.redirect_unopened]

/-- What the line comes to that echoes a capture. -/
theorem ends_echo_capture (h : IsWordToken token) (hoperator : Redirection.operator? token = none)
    (hresolve : ∀ substitute, Argument.resolve substitute token = do
      let output ← Argument.runSubstitution substitute line
      return args output)
    (hline : (Interpreter.evaluate ⟨builtins, depth⟩ line).Ends (run.shell.handing line).capturing
      ended last) :
    (∀ e, ended = .error e →
      (Interpreter.evaluate ⟨builtins, depth + 1⟩ (echoLine token)).Ends run (.error e)
        (run.resume last.shell)) ∧
    (ended = .ok () → ∀ text,
      (" ".intercalate (args (Argument.flatten last.output.collected))).toList = text →
      run.output.Fits (Utf8.encode text) →
      (Interpreter.evaluate ⟨builtins, depth + 1⟩ (echoLine token)).Ends run (.ok ())
        ((run.resume last.shell).echoed text)) := by
  have hcaptured : (substituter builtins (depth + 1) line).Ends (run.shell.handing line)
      (Eval.collect ended last) last.shell := ends_capturedLine.mpr ⟨ended, last, hline, rfl, rfl⟩
  have hresolved : (Argument.resolve (substituter builtins (depth + 1)) token).Ends run.shell
      ((Eval.collect ended last).map fun output => args (Argument.flatten output)) last.shell := by
    rw [hresolve, Eval.ends_bind_pure]
    refine ⟨_, Argument.ends_runSubstitution.mpr ⟨_, hcaptured, rfl⟩, ?_⟩
    cases ended <;> rfl
  unfold Interpreter.evaluate
  rw [evaluateLine_echoLine _ h hoperator]
  constructor
  · rintro e rfl
    exact Eval.ends_bind.mpr (.inr ⟨e, Eval.ends_onShell.mpr ⟨_, hresolved, rfl⟩, rfl⟩)
  · rintro rfl text htext hfits
    exact Eval.ends_bind.mpr
      (.inl ⟨_, _, Eval.ends_onShell.mpr ⟨_, hresolved, rfl⟩, ends_echo htext hfits⟩)

end Lines

/-- A line that has been read, without line breaks and substituting nothing itself, is one token in
back-quotes, and one with double quotes around them. To resolve the token is to hand over just this
line, once. A line that echoes the token fails as the line in it does, with nothing written; or it
writes what that line wrote, flattened, and without the double quotes cut into words with single
spaces between them, whatever characters there are in it. -/
theorem captured_output_is_data {line : String} {command : Command}
    (hparse : Command.parse line = .ok command) (honeLine : OneLine line.toList)
    (h : ¬ Substitutes [] line.toList) :
    (tokenize (Argument.captured line) = .ok [Argument.captured line] ∧
      tokenize (Argument.quotedCapture line) = .ok [Argument.quotedCapture line]) ∧
    (∀ substitute,
      (Argument.resolve substitute (Argument.captured line) = do
        let output ← Argument.runSubstitution substitute line
        return (words output).map String.ofList) ∧
      (Argument.resolve substitute (Argument.quotedCapture line) = do
        let output ← Argument.runSubstitution substitute line
        return [String.ofList output])) ∧
    ∀ (depth : Nat) (run : Run), ∃ ended last,
      (∀ inner, (Interpreter.evaluate ⟨builtins, inner⟩ line).Ends
        (run.shell.handing line).capturing ended last) ∧
      (∀ e, ended = .error e →
        ∀ token ∈ [Argument.captured line, Argument.quotedCapture line],
          (Interpreter.evaluate ⟨builtins, depth + 1⟩ (echoLine token)).Ends run (.error e)
            (run.resume last.shell)) ∧
      (ended = .ok () →
        let output := Argument.flatten last.output.collected
        let joined := [' '].intercalate (words output)
        (run.output.Fits (Utf8.encode output) →
          (Interpreter.evaluate ⟨builtins, depth + 1⟩ (echoLine (Argument.quotedCapture line))).Ends
            run (.ok ()) ((run.resume last.shell).echoed output)) ∧
        (run.output.Fits (Utf8.encode joined) →
          (Interpreter.evaluate ⟨builtins, depth + 1⟩ (echoLine (Argument.captured line))).Ends
            run (.ok ()) ((run.resume last.shell).echoed joined))) := by
  have hclosed := (Command.parse_eq_ok_iff.mp hparse).1.closed
  have hcaptured := Argument.isWordToken_captured honeLine hclosed h
  have hquoted := Argument.isWordToken_quotedCapture honeLine hclosed h
  have hresolve (substitute : Substituter) :=
    @Argument.resolve_captured substitute line hclosed h
  have hresolveQuoted (substitute : Substituter) :=
    @Argument.resolve_quotedCapture substitute line hclosed h
  refine ⟨⟨hcaptured.tokenize_eq, hquoted.tokenize_eq⟩,
    fun substitute => ⟨hresolve substitute, hresolveQuoted substitute⟩, fun depth run => ?_⟩
  obtain ⟨ended, last, hends⟩ := (@answers_evaluateLine (substituter builtins depth) builtins line
    h).exists_ends (run.shell.handing line).capturing
  have hoperator := Redirection.operator?_quote .back line.toList
  have hoperatorQuoted := Redirection.operator?_quote .double (Argument.quote .back line.toList)
  obtain ⟨hfails, hwrites⟩ := ends_echo_capture hcaptured hoperator hresolve hends
  obtain ⟨hfailsQuoted, hwritesQuoted⟩ :=
    ends_echo_capture hquoted hoperatorQuoted hresolveQuoted hends
  refine ⟨ended, last, fun inner => ?_, fun e he => ?_,
    fun hok => ⟨fun hfits => ?_, fun hfits => ?_⟩⟩
  · have hsame := @evaluateLine_of_not_substitutes (substituter builtins inner)
      (substituter builtins depth) builtins line h
    rw [Interpreter.evaluate, Interpreter.context, hsame]
    exact hends
  · exact List.forall_mem_cons.mpr ⟨hfails e he, List.forall_mem_singleton.mpr (hfailsQuoted e he)⟩
  · exact hwritesQuoted hok _ (by simp) hfits
  · exact hwrites hok _ (by simp [String.toList_intercalate]) hfits

/-- Quotes, separators and stars that a line has written are characters like any other. -/
theorem captured_output_is_data_special_characters :
    let line := "echo '\"`;*  >'"
    let run : Run := ⟨⟨⟨.withDirectory "/", .empty⟩, ⟨.empty, .unlimited⟩⟩, []⟩
    let shell : Shell := ⟨run.job.world, [.ran "echo" none, .substituted line]⟩
    Command.parse line = .ok (.call ⟨["echo", "'\"`;*  >'"]⟩) ∧ OneLine line.toList ∧
      ¬ Substitutes [] line.toList ∧
      tokenize "\"`echo '\"`;*  >'`\"" = .ok ["\"`echo '\"`;*  >'`\""] ∧
      (Interpreter.evaluate ⟨builtins, 1⟩ "echo -n -- \"`echo '\"`;*  >'`\"").Ends run (.ok ())
        ((run.resume shell).echoed "\"`;*  >".toList) ∧
      (Interpreter.evaluate ⟨builtins, 1⟩ "echo -n -- `echo '\"`;*  >'`").Ends run (.ok ())
        ((run.resume shell).echoed "\"`;* >".toList) := by
  intro line run shell
  have hparse : Command.parse line = .ok (.call ⟨["echo", "'\"`;*  >'"]⟩) := by cbv
  have honeLine : OneLine line.toList := any_isLineBreak_eq_false.mp (by decide)
  have hquiet : ¬ Substitutes [] line.toList := by decide
  let written : Run := ⟨⟨shell.world, ⟨.empty, .memory (Utf8.encode "\"`;*  >\n".toList) none⟩⟩,
    shell.history⟩
  have hline : (Interpreter.evaluate ⟨builtins, 0⟩ line).Ends (run.shell.handing line).capturing
      (.ok ()) written := by
    unfold Eval.Ends
    cbv
  obtain ⟨⟨-, htoken⟩, -, hechoes⟩ := captured_output_is_data hparse honeLine hquiet
  obtain ⟨ended, last, hinner, -, hwrites⟩ := hechoes 0 run
  obtain ⟨rfl, rfl⟩ := (hinner 0).unique hline
  obtain ⟨hquoted, hwords⟩ := hwrites rfl
  have hcaptured : Argument.captured line = "`echo '\"`;*  >'`" := by cbv
  have hcapture : Argument.quotedCapture line = "\"`echo '\"`;*  >'`\"" := by cbv
  have houtput : Argument.flatten written.output.collected = "\"`;*  >".toList := by cbv
  have hjoined : [' '].intercalate (words "\"`;*  >".toList) = "\"`;* >".toList := by cbv
  have htaken (bytes : Bytes) : run.output.Fits bytes := Sink.acceptsAll_unlimited bytes
  rw [hcapture] at htoken
  refine ⟨hparse, honeLine, hquiet, htoken, ?_, ?_⟩
  · have hwritten := hquoted (htaken _)
    rwa [hcapture, houtput] at hwritten
  · have hwritten := hwords (htaken _)
    rwa [hcaptured, houtput, hjoined] at hwritten

end LineShell
