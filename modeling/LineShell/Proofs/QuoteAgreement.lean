import LineShell.Proofs.Endings
import LineShell.Proofs.Resolution

/-!
# Two accounts of the quotes

Reading a line and resolving its tokens each keep a stack of open quotes of their own. Character by
character the two stacks are the same, whatever the substitutions on the way have given. So a token
that is balanced for the one is balanced for the other, and its scan can only fail in a
substitution. What is handed over for substitution is made of characters of the token and of outputs
that were flattened, and so it is one line if the token is.
-/

namespace LineShell

open Text

/-- The text has no line break in it. -/
abbrev OneLine (text : List Char) : Prop := ∀ c ∈ text, isLineBreak c = false

theorem OneLine.unbroken {text : List Char} (h : OneLine text) {quotes : QuoteStack} :
    ¬ quotes.BreaksInside text := by
  rintro ⟨before, c, rest, htext, -, hc⟩
  rw [h c (by simp [htext])] at hc
  cases hc

/-- The substituters do the same to single lines. -/
def Substituter.Agree (substitute other : Substituter) : Prop :=
  ∀ line, OneLine line.toList → substitute line = other line

namespace Argument

theorem oneLine_joinLines (text : List Char) : OneLine (joinLines text) := by
  have hspace : isLineBreak ' ' = false := rfl
  fun_induction joinLines text with
  | case1 => exact List.forall_mem_nil _
  | case2 rest ih => exact List.forall_mem_cons.mpr ⟨hspace, ih⟩
  | case3 c rest hpair ih =>
    refine List.forall_mem_cons.mpr ⟨?_, ih⟩
    split
    · exact hspace
    · next h => exact Bool.eq_false_iff.mpr h

theorem oneLine_flatten (output : Bytes) : OneLine (flatten output) :=
  oneLine_joinLines _

namespace Scan

/-- Every line in progress is one line so far. -/
def HoldsLines (scan : Scan) : Prop := ∀ body ∈ scan.bodies, OneLine body.toList

theorem push_quotes (scan : Scan) (c : Char) : (scan.push c).quotes = scan.quotes := by
  unfold push
  split <;> rfl

theorem HoldsLines.push {scan : Scan} {c : Char} (h : scan.HoldsLines)
    (hc : isLineBreak c = false) : (scan.push c).HoldsLines := by
  obtain ⟨quotes, current, segments, bodies⟩ := scan
  cases bodies with
  | nil => exact h
  | cons body outer =>
    obtain ⟨hbody, houter⟩ := List.forall_mem_cons.mp h
    refine List.forall_mem_cons.mpr ⟨?_, houter⟩
    rw [String.toList_push]
    exact List.forall_mem_append.mpr ⟨hbody, List.forall_mem_singleton.mpr hc⟩

/-- Pushing words changes neither the quotes nor the lines in progress. -/
theorem pushWords_eq (scan : Scan) (words : List (List Char)) :
    ∃ current segments, scan.pushWords words = ⟨scan.quotes, current, segments, scan.bodies⟩ := by
  have hfold (scan : Scan) : ∃ current segments,
      words.tail.foldl (fun scan word => scan.endSegment.pushText word) scan =
        ⟨scan.quotes, current, segments, scan.bodies⟩ := by
    induction words.tail generalizing scan with
    | nil => exact ⟨scan.current, scan.segments, rfl⟩
    | cons word words ih =>
      have hend : ∃ current segments,
          scan.endSegment = ⟨scan.quotes, current, segments, scan.bodies⟩ := by
        unfold endSegment
        split
        · exact ⟨_, _, rfl⟩
        · exact ⟨_, _, rfl⟩
      obtain ⟨current, segments, hend⟩ := hend
      rw [List.foldl_cons, hend]
      exact ih _
  cases words with
  | nil => exact ⟨scan.current, scan.segments, rfl⟩
  | cons word words => exact hfold (scan.pushText word)

theorem paste_quotes (scan : Scan) (output : List Char) :
    (scan.paste output).quotes = scan.quotes := by
  obtain ⟨current, segments, hwords⟩ := scan.pushWords_eq (words output)
  unfold paste
  split
  · rfl
  · split
    · rfl
    · rw [hwords]

theorem HoldsLines.paste {scan : Scan} {output : List Char} (h : scan.HoldsLines)
    (houtput : OneLine output) : (scan.paste output).HoldsLines := by
  obtain ⟨current, segments, hwords⟩ := scan.pushWords_eq (words output)
  obtain ⟨quotes, latest, pieces, bodies⟩ := scan
  cases bodies with
  | nil =>
    unfold Scan.paste
    simp only
    split
    · exact h
    · rw [hwords]
      exact h
  | cons body outer =>
    obtain ⟨hbody, houter⟩ := List.forall_mem_cons.mp h
    refine List.forall_mem_cons.mpr ⟨?_, houter⟩
    rw [String.toList_append, String.toList_ofList]
    exact List.forall_mem_append.mpr ⟨hbody, houtput⟩

/-- What is pushed does not depend on the quotes. -/
theorem push_bodies (scan : Scan) (quotes : QuoteStack) (c : Char) :
    (push { scan with quotes } c).bodies = (scan.push c).bodies := by
  obtain ⟨other, current, segments, bodies⟩ := scan
  cases bodies <;> rfl

/-- The character does not close a substitution, and the scan goes on so whatever substitutions
would do. A back-quote outside single quotes begins a line. -/
structure GoesOn (scan : Scan) (c : Char) (next : Scan) : Prop where
  feed_eq : ∀ substitute, scan.feed substitute c = pure next
  quotes_eq : next.quotes = scan.quotes.feed c
  bodies_eq : next.bodies = scan.bodies ∨ next.bodies = (scan.push c).bodies ∨
    scan.quotes.Live c ∧ next.bodies = "" :: scan.bodies

/-- A character that changes no quote is pushed. -/
theorem GoesOn.of_push {scan : Scan} {c : Char}
    (hfeed : ∀ substitute, scan.feed substitute c = pure (scan.push c))
    (hquotes : scan.quotes.feed c = scan.quotes) : scan.GoesOn c (scan.push c) :=
  ⟨hfeed, (push_quotes scan c).trans hquotes.symm, .inr (.inl rfl)⟩

theorem GoesOn.holdsLines {scan next : Scan} {c : Char} (h : scan.GoesOn c next)
    (hc : isLineBreak c = false) (hlines : scan.HoldsLines) : next.HoldsLines := by
  rcases h.bodies_eq with hsame | hpushed | ⟨-, hopened⟩
  · rwa [HoldsLines, hsame]
  · rw [HoldsLines, hpushed]
    exact hlines.push hc
  · rw [HoldsLines, hopened]
    exact List.forall_mem_cons.mpr ⟨List.forall_mem_nil _, hlines⟩

section Quotes

variable {quotes outer : QuoteStack} {current : Pattern} {segments : Array Pattern}
  {bodies : List String} {q : Quote}

/-- A quote opens or closes, and is kept where a back-quote is open. -/
theorem goesOn_of_turn
    (hfeed : ∀ substitute, feed substitute ⟨quotes, current, segments, bodies⟩ q.char =
      pure (if bodies.isEmpty then ⟨outer, current, segments, bodies⟩
        else push ⟨outer, current, segments, bodies⟩ q.char))
    (hquotes : quotes.feed q.char = outer) :
    ∃ next, GoesOn ⟨quotes, current, segments, bodies⟩ q.char next := by
  refine ⟨_, hfeed, ?_, ?_⟩
  · split
    · exact hquotes.symm
    · rw [push_quotes, hquotes]
  · split
    · exact .inl rfl
    · exact .inr (.inl (push_bodies ⟨quotes, current, segments, bodies⟩ outer q.char))

end Quotes

/-- A character closes a substitution, or the scan goes on without one. -/
theorem goesOn_or_closes (scan : Scan) (c : Char) :
    (∃ next, scan.GoesOn c next) ∨
      ∃ outer, c = Quote.back.char ∧ scan.quotes = .back :: outer ∧
        ∀ substitute, scan.feed substitute c = scan.closeSubstitution substitute := by
  obtain ⟨quotes, current, segments, bodies⟩ := scan
  cases hquote : Quote.ofChar? c with
  | none =>
    have hsame (quotes : QuoteStack) : quotes.feed c = quotes := by simp [QuoteStack.feed, hquote]
    cases quotes with
    | nil =>
      by_cases hstar : c = '*'
      · subst hstar
        exact .inl ⟨_, fun substitute => rfl, rfl, .inl rfl⟩
      · exact .inl ⟨_, .of_push (fun substitute => by simp [feed, hquote, hstar]) (hsame _)⟩
    | cons innermost outer =>
      exact .inl ⟨_, .of_push (fun substitute => by simp [feed, hquote]) (hsame _)⟩
  | some q =>
    -- Of the quotes in quotes, only a back-quote between back-quotes closes a substitution.
    obtain rfl := Quote.ofChar?_eq_some_iff.mp hquote
    have hkept (opened : QuoteStack) : (push ⟨opened, current, segments, bodies⟩ q.char).bodies =
        (push ⟨quotes, current, segments, bodies⟩ q.char).bodies :=
      push_bodies ⟨quotes, current, segments, bodies⟩ opened q.char
    cases quotes with
    | nil =>
      cases q with
      | single => exact .inl ⟨_, fun substitute => rfl, rfl, .inl rfl⟩
      | double => exact .inl ⟨_, fun substitute => rfl, rfl, .inl rfl⟩
      | back => exact .inl ⟨_, fun substitute => rfl, rfl, .inr (.inr ⟨⟨rfl, by simp⟩, rfl⟩)⟩
    | cons innermost outer =>
      cases innermost with
      | single =>
        cases q with
        | single => exact .inl (goesOn_of_turn (fun substitute => rfl) rfl)
        | double => exact .inl ⟨_, .of_push (fun substitute => rfl) rfl⟩
        | back => exact .inl ⟨_, .of_push (fun substitute => rfl) rfl⟩
      | double =>
        cases q with
        | single => exact .inl ⟨_, .of_push (fun substitute => rfl) rfl⟩
        | double => exact .inl (goesOn_of_turn (fun substitute => rfl) rfl)
        | back => exact .inl ⟨_, fun substitute => rfl, rfl, .inr (.inr ⟨⟨rfl, by simp⟩, rfl⟩)⟩
      | back =>
        cases q with
        | single => exact .inl ⟨_, fun substitute => rfl, push_quotes _ _, .inr (.inl (hkept _))⟩
        | double => exact .inl ⟨_, fun substitute => rfl, push_quotes _ _, .inr (.inl (hkept _))⟩
        | back => exact .inr ⟨outer, rfl, rfl, fun substitute => rfl⟩

/-- What the innermost back-quote hands over when it closes. -/
def pending (scan : Scan) : String := scan.bodies.headD ""

/-- The scan behind the innermost back-quote. -/
def closed (scan : Scan) : Scan :=
  { scan with quotes := scan.quotes.tail, bodies := scan.bodies.tail }

theorem HoldsLines.pending {scan : Scan} (h : scan.HoldsLines) : OneLine scan.pending.toList := by
  obtain ⟨quotes, current, segments, bodies⟩ := scan
  cases bodies with
  | nil => exact List.forall_mem_nil _
  | cons body outer => exact (List.forall_mem_cons.mp h).1

theorem HoldsLines.closed {scan : Scan} (h : scan.HoldsLines) : scan.closed.HoldsLines :=
  fun body hbody => h body (List.mem_of_mem_tail hbody)

end Scan

end Argument

/-- The shell when the line is handed over. -/
def Shell.handing (shell : Shell) (line : String) : Shell :=
  { shell with history := .substituted line :: shell.history }

namespace Argument

section Substitution

variable {substitute : Substituter} {shell after : Shell}

theorem runSubstitution_apply (line : String) (shell : Shell) :
    runSubstitution substitute line shell =
      (substitute line >>= fun output => pure (flatten output)) (shell.handing line) := rfl

theorem ends_runSubstitution {line : String} {outcome : Except ShellError (List Char)} :
    (runSubstitution substitute line).Ends shell outcome after ↔
      ∃ ended, (substitute line).Ends (shell.handing line) ended after ∧
        outcome = ended.map flatten := by
  rw [← Eval.ends_bind_pure]
  cases outcome <;> simp only [Eval.Ends, runSubstitution_apply]

namespace Scan

theorem closeSubstitution_apply (scan : Scan) (shell : Shell) :
    scan.closeSubstitution substitute shell =
      (substitute scan.pending >>= fun output => pure (scan.closed.paste (flatten output)))
        (shell.handing scan.pending) := by
  have hclose : scan.closeSubstitution substitute =
      runSubstitution substitute scan.pending >>= fun output => pure (scan.closed.paste output) :=
    rfl
  rw [hclose, Eval.bind_apply, runSubstitution_apply, ← Eval.bind_apply, bind_assoc]
  simp only [pure_bind]

theorem ends_closeSubstitution {scan : Scan} {outcome : Except ShellError Scan} :
    (scan.closeSubstitution substitute).Ends shell outcome after ↔
      ∃ ended, (substitute scan.pending).Ends (shell.handing scan.pending) ended after ∧
        outcome = ended.map fun output => scan.closed.paste (flatten output) := by
  rw [← Eval.ends_bind_pure]
  cases outcome <;> simp only [Eval.Ends, closeSubstitution_apply]

/-! ### The two stacks -/

theorem feed_ok {scan next : Scan} {c : Char}
    (h : (scan.feed substitute c).Ends shell (.ok next) after) :
    next.quotes = scan.quotes.feed c ∧
      (isLineBreak c = false → scan.HoldsLines → next.HoldsLines) := by
  rcases scan.goesOn_or_closes c with ⟨only, hgoesOn⟩ | ⟨outer, rfl, hquotes, hcloses⟩
  · rw [hgoesOn.feed_eq, Eval.ends_pure] at h
    obtain rfl := Except.ok.inj h.1
    exact ⟨hgoesOn.quotes_eq, hgoesOn.holdsLines⟩
  · rw [hcloses, ends_closeSubstitution] at h
    obtain ⟨e | output, -, hnext⟩ := h
    · cases hnext
    · obtain rfl := Except.ok.inj hnext
      refine ⟨?_, fun _ hlines => hlines.closed.paste (oneLine_flatten output)⟩
      rw [paste_quotes, closed, hquotes]
      rfl

/-- The quotes that the scan of a text has open are the ones that reading the text has. -/
theorem feedText_ok {scan last : Scan} {text : List Char}
    (h : (scan.feedText substitute text).Ends shell (.ok last) after) :
    last.quotes = scan.quotes.after text ∧ (OneLine text → scan.HoldsLines → last.HoldsLines) := by
  induction text generalizing scan shell with
  | nil =>
    obtain ⟨hlast, -⟩ := Eval.ends_pure.mp h
    obtain rfl := Except.ok.inj hlast
    exact ⟨rfl, fun _ hlines => hlines⟩
  | cons c text ih =>
    rw [feedText_cons, Eval.ends_bind] at h
    rcases h with ⟨next, mid, hnext, hlast⟩ | ⟨e, -, h⟩
    · obtain ⟨hquotes, hlines⟩ := feed_ok hnext
      obtain ⟨hquotes', hlines'⟩ := ih hlast
      refine ⟨?_, fun htext hscan => ?_⟩
      · rw [hquotes', hquotes, QuoteStack.after_cons]
      · obtain ⟨hc, htext⟩ := List.forall_mem_cons.mp htext
        exact hlines' htext (hlines hc hscan)
    · cases h

/-! ### What is handed over -/

/-- When the scan goes over the text from this shell on, a back-quote closes somewhere, and the line
is handed over in the other shell. -/
inductive HandsOver (substitute : Substituter) (scan : Scan) (text : List Char) (shell : Shell) :
    String → Shell → Prop
  | intro {before rest : List Char} {reached : Scan} {mid : Shell}
      (place : text = before ++ Quote.back.char :: rest)
      (scanned : (scan.feedText substitute before).Ends shell (.ok reached) mid)
      (closes : reached.quotes.head? = some .back) :
      HandsOver substitute scan text shell reached.pending (mid.handing reached.pending)

theorem HandsOver.oneLine {scan : Scan} {text : List Char} {line : String} {now : Shell}
    (h : scan.HandsOver substitute text shell line now) (htext : OneLine text)
    (hscan : scan.HoldsLines) : OneLine line.toList := by
  obtain ⟨rfl, hscanned, -⟩ := h
  have hbefore := (List.forall_mem_append.mp htext).1
  exact ((feedText_ok hscanned).2 hbefore hscan).pending

theorem HandsOver.cons {scan next : Scan} {c : Char} {text : List Char} {line : String}
    {mid now : Shell} (hfeed : (scan.feed substitute c).Ends shell (.ok next) mid)
    (h : next.HandsOver substitute text mid line now) :
    scan.HandsOver substitute (c :: text) shell line now := by
  obtain ⟨rfl, hscanned, hcloses⟩ := h
  rw [← List.cons_append]
  refine .intro rfl ?_ hcloses
  rw [feedText_cons, Eval.ends_bind]
  exact .inl ⟨next, mid, hfeed, hscanned⟩

theorem closeSubstitution_ok_or_failsAs (scan : Scan) (shell : Shell) :
    (∃ next after, (scan.closeSubstitution substitute).Ends shell (.ok next) after) ∨
      (scan.closeSubstitution substitute).FailsAs shell (substitute scan.pending)
        (shell.handing scan.pending) := by
  rcases (substitute scan.pending).ok_or_failsAs_self (shell.handing scan.pending) with
    ⟨output, after, hends⟩ | hfails
  · exact .inl ⟨_, after, ends_closeSubstitution.mpr ⟨.ok output, hends, rfl⟩⟩
  · have hclose := @closeSubstitution_apply substitute scan shell
    have hpaste := hfails.bind fun output => pure (scan.closed.paste (flatten output))
    exact .inr (by simpa only [Eval.FailsAs, Eval.Ends, hclose] using hpaste)

/-- A character is taken, or it closes a substitution that fails. -/
theorem feed_ok_or_failsAs (scan : Scan) (c : Char) (shell : Shell) :
    (∃ next after, (scan.feed substitute c).Ends shell (.ok next) after) ∨
      c = Quote.back.char ∧ scan.quotes.head? = some .back ∧
        (scan.feed substitute c).FailsAs shell (substitute scan.pending)
          (shell.handing scan.pending) := by
  rcases scan.goesOn_or_closes c with ⟨next, hgoesOn⟩ | ⟨outer, rfl, hquotes, hcloses⟩
  · refine .inl ⟨next, shell, ?_⟩
    rw [hgoesOn.feed_eq]
    rfl
  · rw [hcloses, hquotes]
    rcases scan.closeSubstitution_ok_or_failsAs shell with hnext | hfails
    · exact .inl hnext
    · exact .inr ⟨rfl, rfl, hfails⟩

/-- The scan gets through, or it fails as a substitution does that it hands a line to. -/
theorem feedText_ok_or_failsAs (scan : Scan) (text : List Char) (shell : Shell) :
    (∃ last after, (scan.feedText substitute text).Ends shell (.ok last) after) ∨
      ∃ line now, scan.HandsOver substitute text shell line now ∧
        (scan.feedText substitute text).FailsAs shell (substitute line) now := by
  induction text generalizing scan shell with
  | nil => exact .inl ⟨scan, shell, rfl⟩
  | cons c text ih =>
    rw [feedText_cons]
    rcases scan.feed_ok_or_failsAs c shell with ⟨next, mid, hfeed⟩ | ⟨rfl, hcloses, hfails⟩
    · rcases ih next mid with ⟨last, after, hlast⟩ | ⟨line, now, hhands, hfails⟩
      · exact .inl ⟨last, after, Eval.ends_bind.mpr (.inl ⟨next, mid, hfeed, hlast⟩)⟩
      · exact .inr ⟨line, now, hhands.cons hfeed, hfails.of_ok_bind hfeed⟩
    · exact .inr ⟨_, _, .intro (List.nil_append _).symm rfl hcloses, hfails.bind _⟩

/-- Only what is handed over matters of a substituter. -/
theorem feedText_congr_at {other : Substituter} {scan : Scan} {text : List Char} {shell : Shell}
    (h : ∀ line now, scan.HandsOver substitute text shell line now →
      substitute line now = other line now) :
    scan.feedText substitute text shell = scan.feedText other text shell := by
  induction text generalizing scan shell with
  | nil => rfl
  | cons c text ih =>
    rw [feedText_cons, feedText_cons]
    refine Eval.bind_congr_at ?_ fun next mid hfeed => ih fun line now hhands =>
      h line now (hhands.cons hfeed)
    rcases scan.goesOn_or_closes c with ⟨next, hgoesOn⟩ | ⟨outer, rfl, hquotes, hcloses⟩
    · rw [hgoesOn.feed_eq, hgoesOn.feed_eq]
    · have hhanded := h _ _ (.intro (List.nil_append _).symm rfl (by rw [hquotes]; rfl))
      rw [hcloses, hcloses, closeSubstitution_apply, closeSubstitution_apply, Eval.bind_apply,
        Eval.bind_apply, hhanded]

end Scan

/-! ### Tokens -/

theorem holdsLines_start : Scan.start.HoldsLines := List.forall_mem_nil _

theorem resolve_congr_at {other : Substituter} {token : String} {shell : Shell}
    (h : ∀ line now, Scan.start.HandsOver substitute token.toList shell line now →
      substitute line now = other line now) :
    resolve substitute token shell = resolve other token shell :=
  Eval.bind_congr_at (Scan.feedText_congr_at h) fun _ _ _ => rfl

/-- Substitutions matter only for lines without a line break, if the token has none. -/
theorem resolve_congr {other : Substituter} (hagree : substitute.Agree other) {token : String}
    (htoken : OneLine token.toList) : resolve substitute token = resolve other token := by
  funext shell
  exact resolve_congr_at fun line now hhands =>
    congrFun (hagree line (hhands.oneLine htoken holdsLines_start)) now

/-- The scan of a text ends with the quotes that reading the text ends with, or a substitution in it
fails. -/
theorem scan_ok_or_failsAs (substitute : Substituter) (text : List Char) (shell : Shell) :
    (∃ reached mid, (scan substitute text).Ends shell (.ok reached) mid ∧
      reached.quotes = QuoteStack.after [] text) ∨
    ∃ line now, Scan.start.HandsOver substitute text shell line now ∧
      (scan substitute text).FailsAs shell (substitute line) now := by
  rcases Scan.start.feedText_ok_or_failsAs text shell with ⟨reached, mid, hreached⟩ | hfails
  · exact .inl ⟨reached, mid, hreached, (Scan.feedText_ok hreached).1⟩
  · exact .inr hfails

/-- A balanced token has arguments, or a substitution in it fails. -/
theorem resolve_ok_or_failsAs {token : String}
    (hbalanced : QuoteStack.after [] token.toList = []) (shell : Shell) :
    (∃ args after, (resolve substitute token).Ends shell (.ok args) after) ∨
      ∃ line now, Scan.start.HandsOver substitute token.toList shell line now ∧
        (resolve substitute token).FailsAs shell (substitute line) now := by
  rcases scan_ok_or_failsAs substitute token.toList shell with
    ⟨last, after, hlast, hquotes⟩ | ⟨line, now, hhands, hfails⟩
  · have hclosed : last.quotes = [] := hquotes.trans hbalanced
    have hfinish := Scan.finish_of_closed hclosed
    let segments := last.endSegment.segments.toList
    let world := after.world
    refine .inl ⟨segments.flatMap (·.expand world.environment world.files), after, ?_⟩
    refine Eval.ends_bind.mpr (.inl ⟨last, after, hlast, ?_⟩)
    rw [hfinish]
    exact Eval.ends_bind.mpr (.inl ⟨segments, after, rfl, rfl⟩)
  · exact .inr ⟨line, now, hhands, hfails.bind _⟩

end Substitution

end Argument

end LineShell
