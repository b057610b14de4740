import LineShell.Builtin
import LineShell.Proofs.Bodies
import LineShell.Proofs.Deepening

/-!
# Counting back-quotes

A line that is handed over has stood between two back-quotes. It has fewer of them than the line it
comes from, unless an output with a back-quote has been pasted into it. So evaluations can nest
without end only where that happens again and again.
-/

namespace LineShell

open Text QuoteStack Filter

def backQuotes (text : List Char) : Nat := text.count Quote.back.char

@[simp] theorem backQuotes_nil : backQuotes [] = 0 := rfl

@[simp] theorem backQuotes_append (text more : List Char) :
    backQuotes (text ++ more) = backQuotes text + backQuotes more :=
  List.count_append

@[simp] theorem backQuotes_back (text : List Char) :
    backQuotes (Quote.back.char :: text) = backQuotes text + 1 :=
  List.count_cons_self

theorem backQuotes_eq_zero {text : List Char} (h : Quote.back.char ∉ text) : backQuotes text = 0 :=
  List.count_eq_zero.mpr h

theorem StandsIn.backQuotes_le {part text : List Char} (h : StandsIn part text) :
    backQuotes part ≤ backQuotes text := by
  obtain ⟨before, rest, rfl, -⟩ := h
  simp only [backQuotes_append]
  omega

namespace Argument

namespace Scan

/-- The back-quotes in the lines in progress, and those that opened them. -/
def backQuotes (scan : Scan) : Nat :=
  (scan.bodies.map fun body => LineShell.backQuotes body.toList + 1).sum

variable {substitute : Substituter} {scan next : Scan} {c : Char} {text : List Char}
  {shell after : Shell}

theorem GoesOn.backQuotes_le (h : scan.GoesOn c next) (hc : ¬ scan.quotes.Live c) :
    next.backQuotes ≤ scan.backQuotes + LineShell.backQuotes [c] := by
  rcases h.bodies_eq with hsame | hpushed | ⟨hopens, -⟩
  · simp [backQuotes, hsame]
  · obtain ⟨quotes, current, segments, bodies⟩ := scan
    cases bodies with
    | nil => simp [backQuotes, hpushed, push]
    | cons body bodies =>
      simp only [backQuotes, hpushed, push, List.map_cons, List.sum_cons, String.toList_push,
        backQuotes_append]
      omega
  · exact absurd hopens hc

/-- Closing a substitution takes its line away, and pastes no back-quote. -/
theorem closed_paste_backQuotes {outer : QuoteStack} {output : List Char} (hpaired : scan.Paired)
    (hquotes : scan.quotes = .back :: outer)
    (houtput : .back ∈ outer → Quote.back.char ∉ output) :
    (scan.closed.paste output).backQuotes + LineShell.backQuotes scan.pending.toList + 1 ≤
      scan.backQuotes := by
  obtain ⟨quotes, current, segments, bodies⟩ := scan
  obtain rfl : quotes = .back :: outer := hquotes
  cases bodies with
  | nil => simp [Paired] at hpaired
  | cons body bodies =>
    have houter : bodies.length = outer.count .back := by simpa [Paired] using hpaired
    have hbodies := paste_bodies ⟨outer, current, segments, bodies⟩ output
    cases bodies with
    | nil => simp [backQuotes, closed, pending, hbodies]
    | cons enclosing bodies =>
      have hin : .back ∈ outer := List.count_pos_iff.mp (by simp [← houter])
      simp only [backQuotes, closed, pending, hbodies, List.tail_cons, List.headD_cons,
        List.modifyHead_cons, List.map_cons, List.sum_cons, String.toList_append,
        String.toList_ofList, backQuotes_append, backQuotes_eq_zero (houtput hin)]
      omega

theorem feed_backQuotes (hpaired : scan.Paired)
    (hpastes : ∀ output, scan.Pastes substitute [c] shell output → Quote.back.char ∉ output)
    (hfeed : (scan.feed substitute c).Ends shell (.ok next) after) :
    next.backQuotes ≤ scan.backQuotes + LineShell.backQuotes [c] := by
  by_cases hc : scan.quotes.Live c
  · obtain ⟨rfl, hsingle⟩ := hc
    by_cases hback : scan.quotes.head? = some .back
    · obtain ⟨outer, hquotes⟩ := List.head?_eq_some_iff.mp hback
      rw [feed_close_back hquotes] at hfeed
      obtain ⟨ended, hgiven, hnext⟩ := ends_closeSubstitution.mp hfeed
      cases ended with
      | error e => cases hnext
      | ok output =>
        obtain rfl := Except.ok.inj hnext
        have hle := @closed_paste_backQuotes scan outer (flatten output) hpaired hquotes
          fun hin => hpastes _ (.intro (List.nil_append _).symm rfl hquotes hin hgiven)
        show (scan.closed.paste (flatten output)).backQuotes ≤ _
        omega
    · rw [feed_open_back hsingle hback, Eval.ends_pure] at hfeed
      obtain rfl := Except.ok.inj hfeed.1
      simp only [backQuotes, List.map_cons, List.sum_cons, String.toList_empty, backQuotes_back,
        backQuotes_nil]
      omega
  · obtain ⟨other, hother⟩ := exists_goesOn hc
    rw [hother.feed_eq, Eval.ends_pure] at hfeed
    obtain rfl := Except.ok.inj hfeed.1
    exact hother.backQuotes_le hc

theorem feedText_backQuotes (hpaired : scan.Paired)
    (hpastes : ∀ output, scan.Pastes substitute text shell output → Quote.back.char ∉ output)
    (hends : (scan.feedText substitute text).Ends shell (.ok next) after) :
    next.backQuotes ≤ scan.backQuotes + LineShell.backQuotes text := by
  induction text generalizing scan shell with
  | nil =>
    obtain ⟨hnext, -⟩ := Eval.ends_pure.mp hends
    obtain rfl := Except.ok.inj hnext
    exact Nat.le_add_right _ _
  | cons c text ih =>
    rw [feedText_cons] at hends
    obtain ⟨mid, middle, hfeed, hends⟩ := Eval.ends_bind_ok.mp hends
    have hfirst (output : List Char) (hpasted : scan.Pastes substitute [c] shell output) :
        Quote.back.char ∉ output := hpastes output (hpasted.append_right text)
    have hle := feed_backQuotes hpaired hfirst hfeed
    have hlater (output : List Char) (hpasted : mid.Pastes substitute text middle output) :
        Quote.back.char ∉ output := hpastes output (hpasted.cons hfeed)
    have hrest := ih ((feed_turn hfeed).paired hpaired) hlater hends
    have htext := backQuotes_append [c] text
    rw [List.singleton_append] at htext
    omega

/-- What is handed over has lost the two back-quotes around it. -/
theorem HandsOver.backQuotes_add_two_le {line : String} {now : Shell}
    (h : start.HandsOver substitute text shell line now)
    (hpastes : ∀ output, start.Pastes substitute text shell output → Quote.back.char ∉ output) :
    LineShell.backQuotes line.toList + 2 ≤ LineShell.backQuotes text := by
  obtain @⟨before, rest, reached, mid, rfl, hscanned, hcloses⟩ := h
  have hbefore (output : List Char) (hpasted : start.Pastes substitute before shell output) :
      Quote.back.char ∉ output := hpastes output (hpasted.append_right _)
  have hpaired := (sound_start.feedText hscanned).paired
  have hle := feedText_backQuotes sound_start.paired hbefore hscanned
  obtain ⟨outer, hquotes⟩ := List.head?_eq_some_iff.mp hcloses
  have hpending := @closed_paste_backQuotes reached outer [] hpaired hquotes fun _ => nofun
  have hstart : start.backQuotes = 0 := rfl
  rw [backQuotes_append, backQuotes_back]
  omega

end Scan

end Argument

namespace Task

variable {registry : Registry} {task inner : Task}

/-- The evaluation of the task hands the line of the inner one over, out of a token in which an
output with a back-quote is pasted into the line of a substitution. -/
inductive NestsPasting (registry : Registry) (task : Task) : Task → Prop
  | intro {depth : Nat} {command : Command} {token line : String} {shell now : Shell}
      {output : List Char} (parsed : Command.parse task.line = .ok command)
      (scanned : command.Scans ⟨registry, substituter registry depth⟩ task.run token shell)
      (handed : Argument.Scan.start.HandsOver (substituter registry depth) token.toList shell line
        now)
      (pasted : Argument.Scan.start.Pastes (substituter registry depth) token.toList shell output)
      (back : Quote.back.char ∈ output) : NestsPasting registry task ⟨line, now.capturing⟩

theorem Nests.backQuotes_lt (h : task.Nests registry inner)
    (hpasting : ¬ task.NestsPasting registry inner) :
    backQuotes inner.line.toList < backQuotes task.line.toList := by
  obtain @⟨depth, command, line, now, hparse, ⟨hscans, hhands⟩⟩ := h
  have htoken := (Command.standsIn_of_parse hparse hscans.mem).backQuotes_le
  have hline := hhands.backQuotes_add_two_le fun output hpasted hback =>
    hpasting (.intro hparse hscans hhands hpasted hback)
  show backQuotes line.toList < _
  omega

/-- Where evaluations nest without end, back-quotes are pasted again and again. -/
theorem exists_nestsPasting {tasks : Nat → Task}
    (h : ∀ n, (tasks n).Nests registry (tasks (n + 1))) (n : Nat) :
    ∃ m ≥ n, (tasks m).NestsPasting registry (tasks (m + 1)) := by
  by_contra hnone
  have hfalls (k : Nat) :
      backQuotes (tasks (n + k)).line.toList + k ≤ backQuotes (tasks n).line.toList := by
    induction k with
    | zero => exact le_rfl
    | succ k ih =>
      have hnext := (h (n + k)).backQuotes_lt fun hpasting =>
        hnone ⟨n + k, Nat.le_add_right n k, hpasting⟩
      show backQuotes (tasks (n + k + 1)).line.toList + (k + 1) ≤ _
      omega
  have hlast := hfalls (backQuotes (tasks n).line.toList + 1)
  omega

end Task

/-! ### Lines that are handed over again -/

/-- A file with this text in it captures the line that captures the file. -/
def selfCapture : List Char := "`echo \"`cat f`\"`".toList

theorem handsOver_cat (substitute : Substituter) (shell : Shell) :
    Argument.Scan.start.HandsOver substitute "\"`echo \"`cat f`\"`\"".toList shell "cat f"
      (shell.handing "cat f") := by
  have hscanned : (Argument.Scan.start.feedText substitute "\"`echo \"`cat f".toList).Ends shell
      (.ok ⟨[.back, .double, .back, .double], Pattern.empty.markQuoted, #[], ["cat f", "echo \""]⟩)
        shell := rfl
  exact .intro rfl hscanned rfl

theorem handsOver_selfCapture {substitute : Substituter} {shell mid : Shell}
    (h : (substitute "cat f").Ends (shell.handing "cat f") (.ok (Utf8.encode selfCapture)) mid) :
    Argument.Scan.start.HandsOver substitute "\"`echo \"`cat f`\"`\"".toList shell
      "echo \"`echo \"`cat f`\"`\"" (mid.handing "echo \"`echo \"`cat f`\"`\"") := by
  let reached : Argument.Scan :=
    ⟨[.back, .double, .back, .double], Pattern.empty.markQuoted, #[], ["cat f", "echo \""]⟩
  have hscanned : (Argument.Scan.start.feedText substitute "\"`echo \"`cat f".toList).Ends shell
      (.ok reached) shell := rfl
  have hflat : Argument.flatten (Utf8.encode selfCapture) = selfCapture := by cbv
  have hclosed : (reached.feed substitute '`').Ends shell
      (.ok ⟨[.double, .back, .double], Pattern.empty.markQuoted, #[],
        ["echo \"`echo \"`cat f`\"`"]⟩) mid := by
    refine Argument.Scan.ends_closeSubstitution.mpr ⟨_, h, ?_⟩
    rw [Except.map, hflat]
    rfl
  have hpasted : (Argument.Scan.start.feedText substitute "\"`echo \"`cat f`\"".toList).Ends shell
      (.ok ⟨[.back, .double], Pattern.empty.markQuoted, #[], ["echo \"`echo \"`cat f`\"`\""]⟩)
        mid := by
    have happend : "\"`echo \"`cat f`\"".toList = "\"`echo \"`cat f".toList ++ ['`', '"'] := rfl
    rw [happend, Argument.Scan.feedText_append]
    refine Eval.ends_bind_ok.mpr ⟨reached, shell, hscanned, ?_⟩
    rw [Argument.Scan.feedText_cons]
    exact Eval.ends_bind_ok.mpr ⟨_, mid, hclosed, rfl⟩
  exact .intro rfl hpasted rfl

/-- The call whose word makes the line of the call again where the file holds the text. -/
def selfCapturing : Call := ⟨["echo", "\"`echo \"`cat f`\"`\""]⟩

theorem parse_selfCapturing :
    Command.parse "echo \"`echo \"`cat f`\"`\"" = .ok (.call selfCapturing) := by
  have hecho : IsWordToken "echo" := ⟨by decide, rfl, by simp [isLineBreak], by decide⟩
  have htoken : IsWordToken "\"`echo \"`cat f`\"`\"" :=
    ⟨by decide, rfl, by simp [isLineBreak], by decide⟩
  have hprint : "echo \"`echo \"`cat f`\"`\"" = Command.print (.call selfCapturing) := by
    rw [selfCapturing, print_call]
    rfl
  rw [hprint]
  refine @Command.parse_print (.call _) ⟨List.cons_ne_nil _ _, ?_⟩
  simp only [selfCapturing, List.forall_mem_cons, List.not_mem_nil, false_implies, implies_true,
    and_true]
  exact ⟨hecho.isToken, htoken.isToken⟩

theorem evaluate_selfCapturing_eq_none {registry : Registry} {substitute : Substituter} {run : Run}
    (h : Argument.resolve substitute "\"`echo \"`cat f`\"`\"" run.shell = none) :
    selfCapturing.evaluate ⟨registry, substitute⟩ run = none := by
  have hecho : Argument.resolve substitute "echo" = pure ["echo"] := rfl
  have hoperators : ∀ token ∈ ["echo", "\"`echo \"`cat f`\"`\""],
      Redirection.operator? token = none := by decide
  refine Call.evaluate_eq_none_iff.mpr ?_
  rw [selfCapturing, Call.prepare_of_words substitute (List.cons_ne_nil _ _) hoperators]
  simp only [Argument.resolveAll, hecho, Eval.bind_apply, Eval.pure_apply, h]

/-- A world in which the file captures the line. -/
def selfCapturingWorld : World :=
  ⟨.withDirectory "/", FileTree.empty.insert ["f"] (.file (Utf8.encode selfCapture))⟩

theorem ends_cat_selfCapture (depth : Nat) {shell : Shell}
    (hworld : shell.world = selfCapturingWorld) :
    (substituter builtins (depth + 1) "cat f").Ends shell (.ok (Utf8.encode selfCapture))
      ⟨selfCapturingWorld, .ran "cat" none :: shell.history⟩ := by
  have hquiet : ¬ Substitutes [] "cat f".toList := by decide
  obtain ⟨world, history⟩ := shell
  obtain rfl : world = selfCapturingWorld := hworld
  rw [substituter, @capturedLine_of_not_substitutes _ .silent builtins _ hquiet]
  unfold Eval.Ends
  cbv

/-- However deep substitutions may nest, the line is handed over again one level deeper. -/
theorem evaluate_selfCapturing_never (depth : Nat) {run : Run}
    (hworld : run.job.world = selfCapturingWorld) :
    selfCapturing.evaluate ⟨builtins, substituter builtins depth⟩ run = none := by
  induction depth generalizing run with
  | zero =>
    have hdeep := handsOver_cat (substituter builtins 0) run.shell
    exact evaluate_selfCapturing_eq_none (Argument.resolve_eq_none hdeep rfl)
  | succ depth ih =>
    have hcat : (run.shell.handing "cat f").world = selfCapturingWorld := hworld
    have hagain := handsOver_selfCapture (ends_cat_selfCapture depth hcat)
    have hnone (now : Shell) (hnow : now.world = selfCapturingWorld) :
        substituter builtins (depth + 1) "echo \"`echo \"`cat f`\"`\"" now = none := by
      have hline : evaluateLine ⟨builtins, substituter builtins depth⟩
          "echo \"`echo \"`cat f`\"`\"" now.capturing = none := by
        rw [evaluateLine, parse_selfCapturing]
        exact ih hnow
      rw [substituter, capturedLine_apply, hline]
    exact evaluate_selfCapturing_eq_none (Argument.resolve_eq_none hagain (hnone _ rfl))

/-! ### Evaluations that end -/

/-- An evaluation has an answer from some depth on, unless evaluations nest in it without end. Then
an output that holds a back-quote is pasted into the line of a substitution again and again. -/
theorem evaluate_ends_unless_back_quotes_are_pasted (registry : Registry) (line : String)
    (run : Run) :
    (∃ depth outcome after, ∀ deeper ≥ depth,
      (Interpreter.evaluate ⟨registry, deeper⟩ line).Ends run outcome after) ∨
    ∃ tasks : Nat → Task, tasks 0 = ⟨line, run⟩ ∧
      (∀ n, (tasks n).Nests registry (tasks (n + 1))) ∧
      ∀ n, ∃ m ≥ n, (tasks m).NestsPasting registry (tasks (m + 1)) := by
  by_cases hacc : Acc (fun inner outer : Task => outer.Nests registry inner) ⟨line, run⟩
  · obtain ⟨answer, hanswer⟩ := Task.settles_of_acc hacc
    obtain ⟨depth, hdepth⟩ := eventually_atTop.mp hanswer
    left
    cases answer with
    | ok value after => exact ⟨depth, .ok value, after, hdepth⟩
    | error e after => exact ⟨depth, .error e, after, hdepth⟩
  · obtain ⟨tasks, hstart, hnests⟩ := not_acc_iff_exists_descending_chain.mp hacc
    exact .inr ⟨tasks, hstart, hnests, Task.exists_nestsPasting hnests⟩

/-- The file is pasted into the line that captures it, which makes this line again. -/
theorem evaluate_nests_without_end :
    let files := FileTree.empty.insert ["f"] (.file (Utf8.encode selfCapture))
    let run : Run := ⟨⟨⟨.withDirectory "/", files⟩, ⟨.empty, .unlimited⟩⟩, []⟩
    ¬ ∃ depth outcome after, (Interpreter.evaluate ⟨builtins, depth⟩
      "echo \"`echo \"`cat f`\"`\"").Ends run outcome after := by
  rintro files run ⟨depth, outcome, after, hends⟩
  refine hends.ne_none ?_
  rw [Interpreter.evaluate, evaluateLine, parse_selfCapturing]
  exact evaluate_selfCapturing_never depth rfl

end LineShell
