import LineShell.Proofs.Infills

/-!
# Outputs in the lines of other substitutions

The line of a substitution may hold others, between double quotes, and their outputs are pasted into
it before it is handed over. In the middle of a token the open quotes are those of the token, and
above each open back-quote those of the line in progress there. So an output is pasted where the
line has a double quote open, and stays inside it if it holds no quote itself. What is handed over
then is read as its outline is, and substitutes nothing.
-/

namespace LineShell

open Text QuoteStack

/-- Gives nothing for any line. -/
def Substituter.silent : Substituter := fun _ => pure []

namespace QuoteStack

/-- Only a back-quote outside single quotes opens or closes back-quotes. -/
theorem count_back_feed {quotes : QuoteStack} {c : Char} (h : ¬ quotes.Live c) :
    (quotes.feed c).count .back = quotes.count .back := by
  cases hquote : Quote.ofChar? c with
  | none => rw [feed_of_not_quote hquote]
  | some q =>
    obtain rfl := Quote.ofChar?_eq_some_iff.mp hquote
    cases quotes with
    | nil =>
      cases q with
      | single => rfl
      | double => rfl
      | back => exact absurd ⟨rfl, by simp⟩ h
    | cons innermost outer =>
      cases innermost with
      | single => cases q <;> simp [QuoteStack.feed]
      | double =>
        cases q with
        | single => simp [QuoteStack.feed]
        | double => simp [QuoteStack.feed]
        | back => exact absurd ⟨rfl, by simp⟩ h
      | back =>
        cases q with
        | single => simp [QuoteStack.feed]
        | double => simp [QuoteStack.feed]
        | back => exact absurd ⟨rfl, by simp⟩ h

theorem back_notMem_feed {quotes : QuoteStack} {c : Char} (h : .back ∉ quotes)
    (hc : ¬ quotes.Live c) : .back ∉ quotes.feed c := by
  rw [← List.count_eq_zero, count_back_feed hc, List.count_eq_zero]
  exact h

theorem back_notMem_after {quotes : QuoteStack} {text : List Char}
    (htext : ¬ quotes.Substitutes text) (h : .back ∉ quotes) : .back ∉ quotes.after text := by
  induction text generalizing quotes with
  | nil => exact h
  | cons c text ih =>
    obtain ⟨hc, hrest⟩ := not_or.mp (mt meets_cons.mpr htext)
    exact ih hrest (back_notMem_feed h hc)

end QuoteStack

namespace Argument

namespace Scan

/-- When the scan goes over the text from this shell on, a substitution closes inside another one,
and this is what is pasted into the line of the other one. -/
inductive Pastes (substitute : Substituter) (scan : Scan) (text : List Char) (shell : Shell) :
    List Char → Prop
  | intro {before rest : List Char} {reached : Scan} {mid after : Shell} {outer : QuoteStack}
      {output : Bytes} (place : text = before ++ Quote.back.char :: rest)
      (scanned : (scan.feedText substitute before).Ends shell (.ok reached) mid)
      (closes : reached.quotes = .back :: outer) (enclosed : .back ∈ outer)
      (given : (substitute reached.pending).Ends (mid.handing reached.pending) (.ok output) after) :
      Pastes substitute scan text shell (flatten output)

/-- Behind the text, a back-quote would hand the line over. -/
def Offers (substitute : Substituter) (scan : Scan) (text : List Char) (shell : Shell)
    (line : String) : Prop :=
  ∃ reached mid, (scan.feedText substitute text).Ends shell (.ok reached) mid ∧
    reached.quotes.head? = some .back ∧ reached.pending = line

section Steps

variable {substitute : Substituter} {scan next : Scan} {c : Char} {text output : List Char}
  {shell mid : Shell}

theorem Pastes.cons (hfeed : (scan.feed substitute c).Ends shell (.ok next) mid)
    (h : next.Pastes substitute text mid output) :
    scan.Pastes substitute (c :: text) shell output := by
  obtain @⟨before, rest, reached, mid, after, outer, output, rfl, hscanned, hcloses, hin,
    hgiven⟩ := h
  rw [← List.cons_append]
  refine .intro rfl ?_ hcloses hin hgiven
  rw [feedText_cons, Eval.ends_bind]
  exact .inl ⟨next, _, hfeed, hscanned⟩

theorem Pastes.append_right (h : scan.Pastes substitute text shell output) (more : List Char) :
    scan.Pastes substitute (text ++ more) shell output := by
  obtain @⟨before, rest, reached, mid, after, outer, output, rfl, hscanned, hcloses, hin,
    hgiven⟩ := h
  rw [List.append_assoc, List.cons_append]
  exact .intro rfl hscanned hcloses hin hgiven

theorem exists_goesOn (hc : ¬ scan.quotes.Live c) :
    ∃ next, scan.GoesOn c next := by
  refine (scan.goesOn_or_closes c).resolve_right ?_
  rintro ⟨outer, rfl, hquotes, -⟩
  exact hc ⟨rfl, by simp [hquotes]⟩

/-- Outside every back-quote, no line is in progress. -/
theorem GoesOn.bodies_eq_nil (h : scan.GoesOn c next) (hbodies : scan.bodies = [])
    (hc : ¬ scan.quotes.Live c) : next.bodies = [] := by
  rcases h.bodies_eq with hsame | hpushed | ⟨hopens, -⟩
  · exact hsame.trans hbodies
  · rw [hpushed, push_eq_write, write_bodies_eq_nil, hbodies]
  · exact absurd hopens hc

end Steps

/-! ### The lines in progress and their outlines -/

/-- The lines in progress, innermost first, are the other ones with outputs filled in; and the open
quotes are, above each back-quote, those of the line in progress there. -/
inductive Frames (fits : List Char → Prop) : QuoteStack → List String → List String → Prop
  | outside {quotes : QuoteStack} (plain : .back ∉ quotes) : Frames fits quotes [] []
  | inside {own outer : QuoteStack} {plan body : String} {plans bodies : List String}
      (filled : Infills fits [] plan.toList body.toList)
      (own_eq : QuoteStack.after [] body.toList = own) (opened : outer.head? ≠ some .single)
      (openedOnce : outer.head? ≠ some .back) (others : Frames fits outer plans bodies) :
      Frames fits (own ++ .back :: outer) (plan :: plans) (body :: bodies)

/-- The two scans have the same open quotes, and the lines in progress of the first one are those of
the second with outputs filled in. -/
structure Follows (fits : List Char → Prop) (scan silent : Scan) : Prop where
  quotes_eq : silent.quotes = scan.quotes
  frames : Frames fits scan.quotes silent.bodies scan.bodies

section Follows

variable {fits : List Char → Prop} {substitute : Substituter} {scan silent next : Scan} {c : Char}
  {text : List Char} {shell after : Shell}

theorem follows_start : Follows fits start start := ⟨rfl, .outside (by decide)⟩

theorem paste_bodies_of_nil {scan : Scan} (h : scan.bodies = []) (output : List Char) :
    (scan.paste output).bodies = [] := by
  obtain ⟨current, segments, hwords⟩ := scan.pushWords_eq (words output)
  unfold paste
  rw [h]
  simp only
  split
  · exact h
  · rw [hwords]
    exact h

theorem paste_bodies_of_cons {scan : Scan} {body : String} {outer : List String}
    (h : scan.bodies = body :: outer) (output : List Char) :
    (scan.paste output).bodies = (body ++ String.ofList output) :: outer := by
  unfold paste
  rw [h]

theorem Frames.of_back {quotes : QuoteStack} {plans bodies : List String}
    (h : Frames fits quotes plans bodies) (hback : quotes.head? = some .back) :
    ∃ outer plan body otherPlans otherBodies, quotes = .back :: outer ∧
      plans = plan :: otherPlans ∧ bodies = body :: otherBodies ∧
      Infills fits [] plan.toList body.toList ∧ QuoteStack.after [] body.toList = [] ∧
      outer.head? ≠ some .single ∧ outer.head? ≠ some .back ∧
      Frames fits outer otherPlans otherBodies := by
  cases h with
  | outside plain => exact absurd (List.mem_of_head? hback) plain
  | @inside own outer plan body otherPlans otherBodies filled own_eq opened openedOnce others =>
    have hown : .back ∉ own := by
      rw [← own_eq]
      exact QuoteStack.back_notMem_after filled.not_substitutes (by decide)
    cases own with
    | nil =>
      exact ⟨outer, plan, body, otherPlans, otherBodies, rfl, rfl, rfl, filled, own_eq, opened,
        openedOnce, others⟩
    | cons innermost own =>
      obtain rfl : innermost = .back := Option.some.inj hback
      exact absurd List.mem_cons_self hown

/-- Where the innermost line is pasted into the one around it, that one has a double quote open. -/
theorem Frames.paste {outer : QuoteStack} {plans bodies : List String} {output : List Char}
    (h : Frames fits outer plans bodies) (hsingle : outer.head? ≠ some .single)
    (hback : outer.head? ≠ some .back)
    (hfits : .back ∈ outer → fits output ∧ Harmless output) {scan silent : Scan}
    (hscan : scan.bodies = bodies) (hsilent : silent.bodies = plans) :
    Frames fits outer (silent.paste []).bodies (scan.paste output).bodies := by
  cases h with
  | outside plain =>
    rw [paste_bodies_of_nil hscan, paste_bodies_of_nil hsilent]
    exact .outside plain
  | @inside own outer plan body plans bodies filled own_eq opened openedOnce others =>
    obtain ⟨hfitting, hharmless⟩ := hfits (by simp)
    have hinside : own.head? = some .double := by
      cases own with
      | nil => exact absurd rfl hback
      | cons innermost own =>
        cases innermost with
        | single => exact absurd rfl hsingle
        | double => rfl
        | back => exact absurd rfl hback
    rw [paste_bodies_of_cons hscan, paste_bodies_of_cons hsilent]
    refine .inside ?_ ?_ opened openedOnce others
    · have hplan : QuoteStack.after [] plan.toList = own := filled.after_eq.symm.trans own_eq
      rw [String.toList_append, String.toList_append, String.toList_ofList, String.toList_ofList]
      refine filled.append ?_
      rw [hplan]
      simpa using Infills.paste hinside hfitting hharmless (@Infills.nil fits own)
    · rw [String.toList_append, String.toList_ofList, QuoteStack.after_append, own_eq,
        QuoteStack.after_of_quoteless hharmless.quoteless]

theorem Follows.close (h : Follows fits scan silent) (hback : scan.quotes.head? = some .back)
    (hfits : ∀ output, scan.Pastes substitute [Quote.back.char] shell output →
      fits output ∧ Harmless output)
    (hends : (scan.closeSubstitution substitute).Ends shell (.ok next) after) :
    ∃ nextSilent, (∀ shell, ∃ after,
        (silent.closeSubstitution .silent).Ends shell (.ok nextSilent) after) ∧
      Follows fits next nextSilent := by
  obtain ⟨hquotes, hframes⟩ := h
  obtain ⟨outer, plan, body, plans, bodies, hstack, hplans, hbodies, -, -, hsingle, honce,
    hothers⟩ := hframes.of_back hback
  obtain ⟨ended, hgiven, hnext⟩ := ends_closeSubstitution.mp hends
  cases ended with
  | error e => cases hnext
  | ok output =>
    obtain rfl := Except.ok.inj hnext
    refine ⟨silent.closed.paste [], fun shell => ⟨shell.handing silent.pending, ?_⟩, ?_, ?_⟩
    · exact ends_closeSubstitution.mpr ⟨.ok [], rfl, rfl⟩
    · rw [paste_quotes, paste_quotes, closed, closed, hquotes]
    · rw [paste_quotes]
      have houter : scan.closed.quotes = outer := by rw [closed, hstack]; rfl
      rw [houter]
      refine hothers.paste hsingle honce (fun hin => hfits _ ?_) ?_ ?_
      · exact .intro (List.nil_append _).symm rfl hstack hin hgiven
      · rw [closed, hbodies]
        rfl
      · rw [closed, hplans]
        rfl

/-- A back-quote that opens a substitution begins a line. -/
theorem Follows.open (h : Follows fits scan silent) (hsingle : scan.quotes.head? ≠ some .single)
    (hback : scan.quotes.head? ≠ some .back) :
    Follows fits { scan with quotes := .back :: scan.quotes, bodies := "" :: scan.bodies }
      { silent with quotes := .back :: silent.quotes, bodies := "" :: silent.bodies } := by
  refine ⟨by rw [h.quotes_eq], ?_⟩
  exact @Frames.inside fits [] _ "" "" _ _ .nil rfl hsingle hback h.frames

/-- Any other character is taken as it is. -/
theorem Follows.copy (h : Follows fits scan silent) (hc : ¬ scan.quotes.Live c) :
    ∃ next nextSilent, (∀ substitute, scan.feed substitute c = pure next) ∧
      (∀ substitute, silent.feed substitute c = pure nextSilent) ∧
      Follows fits next nextSilent := by
  obtain ⟨hquotes, hframes⟩ := h
  generalize hstack : scan.quotes = quotes at *
  generalize hbodies : scan.bodies = bodies at *
  generalize hplans : silent.bodies = plans at *
  cases hframes with
  | outside plain =>
    have hscan : ¬ scan.quotes.Live c := by rwa [hstack]
    have hsilent : ¬ silent.quotes.Live c := by rwa [hquotes]
    obtain ⟨next, hnext⟩ := exists_goesOn hscan
    obtain ⟨nextSilent, hnextSilent⟩ := exists_goesOn hsilent
    refine ⟨next, nextSilent, hnext.feed_eq, hnextSilent.feed_eq, ?_, ?_⟩
    · rw [hnext.quotes_eq, hnextSilent.quotes_eq, hstack, hquotes]
    · rw [hnext.bodies_eq_nil hbodies hscan, hnextSilent.bodies_eq_nil hplans hsilent,
        hnext.quotes_eq, hstack]
      exact .outside (QuoteStack.back_notMem_feed plain hc)
  | @inside own outer plan body plans bodies filled own_eq opened openedOnce others =>
    have hother : ¬ own.Live c := by
      rintro ⟨rfl, hlive⟩
      cases own with
      | nil => exact hc ⟨rfl, by simp⟩
      | cons innermost own => exact hc ⟨rfl, hlive⟩
    have hscan : scan.bodies ≠ [] := by simp [hbodies]
    have hsilent : silent.bodies ≠ [] := by simp [hplans]
    refine ⟨_, _, fun _ => feed_above_back hstack hscan hother,
      fun _ => feed_above_back hquotes hsilent hother, rfl, ?_⟩
    have hwrite {scan : Scan} {body : String} {bodies : List String} {quotes : QuoteStack}
        (hbodies : scan.bodies = body :: bodies) :
        ((scan.write [c]).withQuotes quotes).bodies = (body ++ String.ofList [c]) :: bodies := by
      unfold write
      rw [hbodies]
      rfl
    rw [hwrite hbodies, hwrite hplans, withQuotes_quotes]
    have hplan : QuoteStack.after [] plan.toList = own := filled.after_eq.symm.trans own_eq
    refine .inside ?_ ?_ opened openedOnce others
    · rw [String.toList_append, String.toList_append, String.toList_ofList]
      exact filled.append (.cons (by rwa [hplan]) .nil)
    · rw [String.toList_append, String.toList_ofList, QuoteStack.after_append, own_eq]
      rfl

/-- After one more character, the one scan still follows the other. -/
theorem Follows.feed (h : Follows fits scan silent)
    (hfits : ∀ output, scan.Pastes substitute [c] shell output → fits output ∧ Harmless output)
    (hfeed : (scan.feed substitute c).Ends shell (.ok next) after) :
    ∃ nextSilent, (∀ shell, ∃ after,
        (silent.feed .silent c).Ends shell (.ok nextSilent) after) ∧
      Follows fits next nextSilent := by
  by_cases hc : scan.quotes.Live c
  · obtain ⟨rfl, hsingle⟩ := hc
    by_cases hback : scan.quotes.head? = some .back
    · obtain ⟨outer, hstack⟩ := List.head?_eq_some_iff.mp hback
      have hstackSilent := h.quotes_eq.trans hstack
      rw [feed_close_back hstack] at hfeed
      obtain ⟨nextSilent, hends, hfollows⟩ := h.close hback hfits hfeed
      refine ⟨nextSilent, ?_, hfollows⟩
      rwa [feed_close_back hstackSilent]
    · rw [feed_open_back hsingle hback, Eval.ends_pure] at hfeed
      obtain rfl := Except.ok.inj hfeed.1
      refine ⟨_, fun shell => ⟨shell, ?_⟩, h.open hsingle hback⟩
      rw [feed_open_back (by rwa [h.quotes_eq]) (by rwa [h.quotes_eq])]
      rfl
  · obtain ⟨copied, copiedSilent, hcopy, hcopySilent, hfollows⟩ := h.copy hc
    rw [hcopy, Eval.ends_pure] at hfeed
    obtain rfl := Except.ok.inj hfeed.1
    refine ⟨copiedSilent, fun shell => ⟨shell, ?_⟩, hfollows⟩
    rw [hcopySilent]
    rfl

theorem Follows.feedText (h : Follows fits scan silent)
    (hfits : ∀ output, scan.Pastes substitute text shell output → fits output ∧ Harmless output)
    (hends : (scan.feedText substitute text).Ends shell (.ok next) after) :
    ∃ nextSilent, (∀ shell, ∃ after,
        (silent.feedText .silent text).Ends shell (.ok nextSilent) after) ∧
      Follows fits next nextSilent := by
  induction text generalizing scan silent shell with
  | nil =>
    obtain ⟨hnext, -⟩ := Eval.ends_pure.mp hends
    obtain rfl := Except.ok.inj hnext
    exact ⟨silent, fun shell => ⟨shell, rfl⟩, h⟩
  | cons c text ih =>
    rw [feedText_cons] at hends
    obtain ⟨mid, middle, hfeed, hends⟩ := Eval.ends_bind_ok.mp hends
    have hfirst (output : List Char) (hpastes : scan.Pastes substitute [c] shell output) :
        fits output ∧ Harmless output := hfits output (hpastes.append_right text)
    obtain ⟨midSilent, hmidSilent, hmid⟩ := h.feed hfirst hfeed
    obtain ⟨nextSilent, hnextSilent, hnext⟩ :=
      ih hmid (fun output hpastes => hfits output (hpastes.cons hfeed)) hends
    refine ⟨nextSilent, fun shell => ?_, hnext⟩
    obtain ⟨later, hlater⟩ := hmidSilent shell
    obtain ⟨last, hlast⟩ := hnextSilent later
    rw [feedText_cons]
    exact ⟨last, Eval.ends_bind_ok.mpr ⟨midSilent, later, hlater, hlast⟩⟩

end Follows

/-! ### What is handed over -/

theorem HandsOver.offers {substitute : Substituter} {scan : Scan} {text : List Char} {line : String}
    {shell now : Shell} (h : scan.HandsOver substitute text shell line now) :
    ∃ before rest, text = before ++ Quote.back.char :: rest ∧
      scan.Offers substitute before shell line := by
  obtain @⟨before, rest, reached, mid, rfl, hscanned, hcloses⟩ := h
  exact ⟨before, rest, rfl, reached, mid, hscanned, hcloses, rfl⟩

theorem Offers.unique {substitute : Substituter} {scan : Scan} {text : List Char}
    {line other : String} {shell : Shell} (h : scan.Offers substitute text shell line)
    (hother : scan.Offers substitute text shell other) : line = other := by
  obtain ⟨reached, mid, hreached, -, rfl⟩ := h
  obtain ⟨last, after, hlast, -, rfl⟩ := hother
  rw [Except.ok.inj (hreached.unique hlast).1]

end Scan

variable {substitute : Substituter} {token next : String} {before rest : List Char} {shell : Shell}

/-- No output that is pasted into the line of another substitution holds a quote. -/
def PastesQuoteless (substitute : Substituter) (token : String) (shell : Shell) : Prop :=
  ∀ output, Scan.start.Pastes substitute token.toList shell output →
    ∀ c ∈ output, Quote.ofChar? c = none

/-- The line is the plan with outputs filled in between double quotes. It is balanced, is read as
the plan is, and substitutes nothing. -/
structure KeepsTo (fits : List Char → Prop) (plan line : String) : Prop where
  filled : Infills fits [] plan.toList line.toList
  completes : Completes [] line.toList
  inert : ¬ Substitutes [] line.toList
  reads : (Command.parse plan = .error .emptyCommand ∧ Command.parse line = .error .emptyCommand) ∨
    ∃ command other, Command.parse plan = .ok command ∧ Command.parse line = .ok other ∧
      command.Fills fits other

theorem Scan.Offers.keepsTo (place : token.toList = before ++ Quote.back.char :: rest)
    (honeLine : OneLine token.toList) (hquoteless : PastesQuoteless substitute token shell)
    (h : Scan.start.Offers substitute before shell next) :
    ∃ plan, (∀ shell, Scan.start.Offers .silent before shell plan) ∧
      KeepsTo (Scan.start.Pastes substitute token.toList shell) plan next := by
  obtain ⟨reached, mid, hscanned, hcloses, rfl⟩ := h
  have hnext : OneLine reached.pending.toList :=
    (HandsOver.intro place hscanned hcloses).oneLine honeLine holdsLines_start
  have hfits (output : List Char) (hpastes : Scan.start.Pastes substitute before shell output) :
      Scan.start.Pastes substitute token.toList shell output ∧ Harmless output := by
    have hwhole : Scan.start.Pastes substitute token.toList shell output := by
      rw [place]
      exact hpastes.append_right _
    refine ⟨hwhole, hquoteless output hwhole, ?_⟩
    obtain ⟨-, -, -, -, -⟩ := hpastes
    exact oneLine_flatten _
  obtain ⟨silent, hsilent, hquotes, hframes⟩ := follows_start.feedText hfits hscanned
  obtain ⟨outer, plan, body, plans, bodies, -, hplans, hbodies, hfilled, hclosed, -⟩ :=
    hframes.of_back hcloses
  have hbody : reached.pending = body := by
    rw [pending, hbodies]
    rfl
  have hplan : silent.pending = plan := by
    rw [pending, hplans]
    rfl
  rw [hbody] at hnext ⊢
  have hcompletes : Completes [] body.toList := ⟨hnext.unbroken, hclosed⟩
  refine ⟨plan, fun shell => ?_, hfilled, hcompletes, hfilled.not_substitutes,
    parse_of_infills hfilled (hfilled.completes_iff.mp hcompletes)⟩
  obtain ⟨after, hafter⟩ := hsilent shell
  exact ⟨silent, after, hafter, by rwa [hquotes], hplan⟩

/-- Whatever stands at the place of a token, all that is handed over there keeps to one plan. -/
theorem exists_plan (place : token.toList = before ++ Quote.back.char :: rest)
    (honeLine : OneLine token.toList) :
    ∃ plan, ∀ substitute shell next, PastesQuoteless substitute token shell →
      Scan.start.Offers substitute before shell next →
        KeepsTo (Scan.start.Pastes substitute token.toList shell) plan next := by
  by_cases hplanned : ∃ plan, ∀ shell, Scan.start.Offers .silent before shell plan
  · obtain ⟨plan, hplan⟩ := hplanned
    refine ⟨plan, fun substitute shell next hquoteless hoffers => ?_⟩
    obtain ⟨other, hother, hkeeps⟩ := hoffers.keepsTo place honeLine hquoteless
    rwa [(hplan shell).unique (hother shell)]
  · refine ⟨"", fun substitute shell next hquoteless hoffers => ?_⟩
    obtain ⟨plan, hplan, -⟩ := hoffers.keepsTo place honeLine hquoteless
    exact absurd ⟨plan, hplan⟩ hplanned

end Argument

/-- Where no output that is pasted into the line of another substitution holds a quote, everything
handed over at one place of a token keeps to one plan, whatever the outputs are, and its evaluation
hands nothing over. So resolving the token has an answer, with a depth of one. -/
theorem pasted_outputs_stay_quoted {line token : String} {command : Command}
    (hparse : Command.parse line = .ok command) (htoken : token ∈ command.tokens) :
    (∀ before rest, token.toList = before ++ Quote.back.char :: rest →
      ∃ plan, ∀ substitute shell next, Argument.PastesQuoteless substitute token shell →
        Argument.Scan.start.Offers substitute before shell next →
          Argument.KeepsTo (Argument.Scan.start.Pastes substitute token.toList shell) plan next ∧
            ∀ inner, Command.parse next = .ok inner → ∀ context run deeper now,
              ¬ inner.Hands context run deeper now) ∧
    ∀ registry depth shell,
      Argument.PastesQuoteless (substituter registry (depth + 1)) token shell →
        Argument.resolve (substituter registry (depth + 1)) token shell =
          Argument.resolve (substituter registry 1) token shell ∧
        ∃ outcome after,
          (Argument.resolve (substituter registry (depth + 1)) token).Ends shell outcome after := by
  have honeLine := Command.oneLine_of_parse hparse token htoken
  refine ⟨fun before rest hplace => ?_, fun registry depth shell hquoteless => ?_⟩
  · obtain ⟨plan, hplan⟩ := Argument.exists_plan hplace honeLine
    refine ⟨plan, fun substitute shell next hquoteless hoffers => ?_⟩
    have hkeeps := hplan substitute shell next hquoteless hoffers
    exact ⟨hkeeps, fun inner hinner context run deeper now =>
      Command.not_hands_of_parse hkeeps.inert hinner⟩
  · have hinert (next : String) (now : Shell) (hhands : Argument.Scan.start.HandsOver
        (substituter registry (depth + 1)) token.toList shell next now) :
        ¬ Substitutes [] next.toList := by
      obtain ⟨before, rest, hplace, hoffers⟩ := hhands.offers
      obtain ⟨plan, -, hkeeps⟩ := hoffers.keepsTo hplace honeLine hquoteless
      exact hkeeps.inert
    constructor
    · exact Argument.resolve_congr_at fun next now hhands =>
        congrFun (capturedLine_of_not_substitutes (hinert next now hhands)) now
    · have hbalanced := ((Command.isNormal_of_parse hparse).isToken token htoken).balanced
      rcases Argument.resolve_ok_or_failsAs hbalanced shell with
        ⟨args, after, hends⟩ | ⟨next, now, hhands, hnone | ⟨e, after, hends, -⟩⟩
      · exact ⟨_, _, hends⟩
      · exact absurd hnone.2 (answers_capturedLine (hinert next now hhands) now)
      · exact ⟨_, _, hends⟩

/-- An output full of separators, operators and a wildcard is pasted into the line around it. -/
theorem pasted_outputs_stay_quoted_separators :
    let writing : Application := fun _ => (Job.write [0x3B, 0x2A, 0x3E, 0x7C]).adaptExcept .io
    let registry : Registry := [("a", fun _ => pure ()), ("b", writing)]
    let shell : Shell := ⟨⟨.withDirectory "/", .empty⟩, []⟩
    Command.parse "c `a \"`b`\"`" = .ok (.call ⟨["c", "`a \"`b`\"`"]⟩) ∧
      Argument.PastesQuoteless (substituter registry 2) "`a \"`b`\"`" shell ∧
      Argument.Scan.start.Offers (substituter registry 2) "`a \"`b`\"".toList shell
        "a \";*>|\"" ∧
      (∃ plan, Argument.KeepsTo
        (Argument.Scan.start.Pastes (substituter registry 2) "`a \"`b`\"`".toList shell) plan
          "a \";*>|\"") ∧
      Argument.resolve (substituter registry 2) "`a \"`b`\"`" shell =
        Argument.resolve (substituter registry 1) "`a \"`b`\"`" shell := by
  intro writing registry shell
  have hparse : Command.parse "c `a \"`b`\"`" = .ok (.call ⟨["c", "`a \"`b`\"`"]⟩) := by cbv
  let inner : Argument.Scan := ⟨[.back, .double, .back], .empty, #[], ["b", "a \""]⟩
  have hinner : (Argument.Scan.start.feedText (substituter registry 2) "`a \"`b".toList).Ends shell
      (.ok inner) shell := by
    unfold Eval.Ends
    cbv
  have hgiven : (substituter registry 2 "b").Ends (shell.handing "b")
      (.ok [0x3B, 0x2A, 0x3E, 0x7C]) ⟨shell.world, [.ran "b" none, .substituted "b"]⟩ := by
    unfold Eval.Ends
    cbv
  have hflat : Argument.flatten [0x3B, 0x2A, 0x3E, 0x7C] = ";*>|".toList := by cbv
  have houter : Argument.Scan.start.Offers (substituter registry 2) "`a \"`b`\"".toList shell
      "a \";*>|\"" := by
    refine ⟨⟨[.back], .empty, #[], ["a \";*>|\""]⟩,
      ⟨shell.world, [.ran "b" none, .substituted "b"]⟩, ?_, rfl, rfl⟩
    unfold Eval.Ends
    cbv
  have hquoteless : Argument.PastesQuoteless (substituter registry 2) "`a \"`b`\"`" shell := by
    rintro _ @⟨before, rest, reached, mid, after, outer, output, hplace, hscanned, hcloses, hin,
      hends⟩
    have hquotes := (Argument.Scan.feedText_ok hscanned).1
    rw [hcloses] at hquotes
    have hplaces : before = [] ∨ before = "`a \"".toList ∨ before = "`a \"`b".toList ∨
        before = "`a \"`b`\"".toList := by
      simp [List.cons_eq_append_iff, Quote.char] at hplace
      grind
    have hbefore : before = "`a \"`b".toList := by
      rcases hplaces with rfl | rfl | rfl | rfl
      · cases hquotes
      · cases hquotes
      · rfl
      · cases hquotes
        cases hin
    subst hbefore
    obtain ⟨hreached, rfl⟩ := hscanned.unique hinner
    obtain rfl := Except.ok.inj hreached
    obtain ⟨houtput, -⟩ := hends.unique hgiven
    obtain rfl := Except.ok.inj houtput
    rw [hflat]
    simp [Quote.ofChar?]
  obtain ⟨hplans, hdepth⟩ := pasted_outputs_stay_quoted hparse
    (List.mem_cons_of_mem "c" (List.mem_singleton_self "`a \"`b`\"`"))
  obtain ⟨plan, hplan⟩ := hplans "`a \"`b`\"".toList [] rfl
  exact ⟨hparse, hquoteless, houter, ⟨plan, (hplan _ _ _ hquoteless houter).1⟩,
    (hdepth registry 1 shell hquoteless).1⟩

end LineShell
