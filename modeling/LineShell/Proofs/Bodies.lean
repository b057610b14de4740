import LineShell.Proofs.Pasting

/-!
# The state of a scan

Quotes nest in few ways: single quotes hold no others, double quotes hold only back-quotes, and
back-quotes only the other two. A character does one of three things to the bodies. It goes into the
innermost one, begins one with its back-quote, or ends one with its back-quote, and the output goes
into the next one. So there is one body for each open back-quote at every place of a token, and the
body that ends with a back-quote is the one that began with it. A segment is finished only if it is
an argument.
-/

namespace LineShell

open Text QuoteStack

/-! ### How quotes nest -/

/-- The one quote may be open right inside the other one. -/
inductive Quote.Inside : Quote → Quote → Prop
  | single_back : Inside .single .back
  | double_back : Inside .double .back
  | back_double : Inside .back .double

namespace QuoteStack

/-- Each open quote may be open right inside the next one. -/
def Nested (quotes : QuoteStack) : Prop := quotes.IsChain Quote.Inside

theorem nested_nil : Nested [] := .nil

theorem Nested.tail {q : Quote} {outer : QuoteStack} (h : Nested (q :: outer)) : outer.Nested :=
  List.IsChain.tail h

/-- What a character does to the open quotes. -/
inductive Move (quotes : QuoteStack) (c : Char) (next : QuoteStack) : Prop
  | stays (next_eq : next = quotes)
  | closes {q : Quote} (char_eq : c = q.char) (quotes_eq : quotes = q :: next)
  | opens {q : Quote} (char_eq : c = q.char) (next_eq : next = q :: quotes)
      (inside : ∀ innermost ∈ quotes.head?, q.Inside innermost)

theorem feed_move (quotes : QuoteStack) (c : Char) : quotes.Move c (quotes.feed c) := by
  cases hquote : Quote.ofChar? c with
  | none => exact .stays (feed_of_not_quote hquote quotes)
  | some q =>
    obtain rfl := Quote.ofChar?_eq_some_iff.mp hquote
    cases quotes with
    | nil => cases q <;> exact .opens rfl rfl nofun
    | cons innermost outer =>
      cases innermost with
      | single =>
        cases q with
        | single => exact .closes rfl rfl
        | double => exact .stays rfl
        | back => exact .stays rfl
      | double =>
        cases q with
        | single => exact .stays rfl
        | double => exact .closes rfl rfl
        | back => exact .opens rfl rfl (by simpa using Quote.Inside.back_double)
      | back =>
        cases q with
        | single => exact .opens rfl rfl (by simpa using Quote.Inside.single_back)
        | double => exact .opens rfl rfl (by simpa using Quote.Inside.double_back)
        | back => exact .closes rfl rfl

theorem Nested.feed {quotes : QuoteStack} (h : quotes.Nested) (c : Char) :
    (quotes.feed c).Nested := by
  cases feed_move quotes c with
  | stays next_eq => rwa [next_eq]
  | closes _ quotes_eq =>
    rw [quotes_eq] at h
    exact h.tail
  | opens _ next_eq inside =>
    rw [next_eq]
    exact List.isChain_cons.mpr ⟨inside, h⟩

theorem Nested.head?_eq {q : Quote} {outer : QuoteStack} (h : Nested (.back :: outer))
    (hq : outer.head? = some q) : q = .double := by
  obtain ⟨others, rfl⟩ := List.head?_eq_some_iff.mp hq
  cases (List.isChain_cons_cons.mp h).1
  rfl

/-- A back-quote with no other one around it stands alone or between double quotes. -/
theorem Nested.outermost {outer : QuoteStack} (h : Nested (.back :: outer))
    (hplain : .back ∉ outer) : outer = [] ∨ outer = [.double] := by
  cases outer with
  | nil => exact .inl rfl
  | cons q outer =>
    obtain rfl : q = .double := h.head?_eq rfl
    cases outer with
    | nil => exact .inr rfl
    | cons r outer =>
      cases (List.isChain_cons_cons.mp h.tail).1
      exact absurd (by simp) hplain

/-- The back-quote in front of the text, above these quotes, is not closed in it. -/
def StaysOpen (outer : QuoteStack) (text : List Char) : Prop :=
  ¬ Meets (.back :: outer) (fun quotes c => quotes = .back :: outer ∧ c = Quote.back.char) text

instance (outer : QuoteStack) (text : List Char) : Decidable (outer.StaysOpen text) :=
  inferInstanceAs (Decidable (¬ _))

/-- Only its own back-quote takes a back-quote away. -/
theorem suffix_feed {quotes outer : QuoteStack} {c : Char} (h : .back :: outer <:+ quotes)
    (hc : ¬ (quotes = .back :: outer ∧ c = Quote.back.char)) :
    .back :: outer <:+ quotes.feed c := by
  cases feed_move quotes c with
  | stays next_eq => rwa [next_eq]
  | closes char_eq quotes_eq =>
    rw [quotes_eq, List.suffix_cons_iff] at h
    rcases h with hclosed | hopen
    · obtain ⟨rfl, -⟩ := List.cons.inj hclosed
      exact absurd ⟨quotes_eq.trans hclosed.symm, char_eq⟩ hc
    · exact hopen
  | opens _ next_eq _ =>
    rw [next_eq]
    exact h.trans (List.suffix_cons _ _)

/-- A back-quote that is open was open before, or its own character is what has opened it. -/
theorem suffix_of_suffix_feed {quotes outer : QuoteStack} {c : Char}
    (h : .back :: outer <:+ quotes.feed c) :
    .back :: outer <:+ quotes ∨
      quotes = outer ∧ c = Quote.back.char ∧ outer.feed c = .back :: outer := by
  cases feed_move quotes c with
  | stays next_eq => exact .inl (next_eq ▸ h)
  | closes _ quotes_eq =>
    rw [quotes_eq]
    exact .inl (h.trans (List.suffix_cons _ _))
  | opens char_eq next_eq _ =>
    rw [next_eq, List.suffix_cons_iff] at h
    rcases h with hopened | hopen
    · obtain ⟨rfl, rfl⟩ := List.cons.inj hopened
      exact .inr ⟨rfl, char_eq, next_eq⟩
    · exact .inl hopen

/-- An open back-quote stands somewhere in the text, and is not closed behind that place. -/
theorem exists_opening {outer : QuoteStack} {text : List Char}
    (h : .back :: outer <:+ QuoteStack.after [] text) :
    ∃ before inside, text = before ++ Quote.back.char :: inside ∧
      QuoteStack.after [] before = outer ∧ outer.feed Quote.back.char = .back :: outer ∧
      outer.StaysOpen inside := by
  induction text using List.reverseRecOn with
  | nil => simp at h
  | append_singleton text c ih =>
    rw [after_append, after_cons, after_nil] at h
    rcases suffix_of_suffix_feed h with hopen | ⟨houter, rfl, hopened⟩
    · obtain ⟨before, inside, rfl, houter, hopened, hstays⟩ := ih hopen
      refine ⟨before, inside ++ [c], by simp, houter, hopened, ?_⟩
      rw [StaysOpen, meets_append, meets_cons]
      rintro (hinside | ⟨hat, rfl⟩ | hnil)
      · exact hstays hinside
      · -- Its own back-quote would have closed it.
        rw [after_append, after_cons, houter, hopened, hat] at h
        have hlength := h.length_le
        simp [QuoteStack.feed, Quote.ofChar?_char] at hlength
      · exact not_meets_nil hnil
    · exact ⟨text, [], rfl, houter, hopened, not_meets_nil⟩

end QuoteStack

namespace Argument

namespace Scan

variable {substitute : Substituter} {scan next : Scan} {c : Char} {text : List Char}
  {shell after : Shell}

/-! ### The bodies -/

/-- What a character does to the open back-quotes and their bodies. -/
inductive Turn (scan next : Scan) : Prop
  | writes {text : String} (count_eq : next.quotes.count .back = scan.quotes.count .back)
      (bodies_eq : next.bodies = scan.bodies.modifyHead (· ++ text))
  | begins (quotes_eq : next.quotes = .back :: scan.quotes)
      (bodies_eq : next.bodies = "" :: scan.bodies)
  | ends {output : String} (quotes_eq : scan.quotes = .back :: next.quotes)
      (bodies_eq : next.bodies = scan.bodies.tail.modifyHead (· ++ output))

theorem write_bodies (scan : Scan) (text : List Char) :
    (scan.write text).bodies = scan.bodies.modifyHead (· ++ String.ofList text) := by
  obtain ⟨quotes, current, segments, bodies⟩ := scan
  cases bodies <;> rfl

theorem paste_bodies (scan : Scan) (output : List Char) :
    (scan.paste output).bodies = scan.bodies.modifyHead (· ++ String.ofList output) := by
  cases hbodies : scan.bodies with
  | nil => exact paste_bodies_of_nil hbodies output
  | cons body outer => exact paste_bodies_of_cons hbodies output

theorem GoesOn.turn (h : scan.GoesOn c next) (hc : ¬ scan.quotes.Live c) : scan.Turn next := by
  have hcount : next.quotes.count .back = scan.quotes.count .back := by
    rw [h.quotes_eq, count_back_feed hc]
  rcases h.bodies_eq with hsame | hpushed | ⟨hlive, -⟩
  · refine @Turn.writes _ _ "" hcount ?_
    rw [hsame]
    cases scan.bodies <;> simp
  · refine @Turn.writes _ _ (String.ofList [c]) hcount ?_
    rw [hpushed, push_eq_write, write_bodies]
  · exact absurd hlive hc

theorem feed_turn (hfeed : (scan.feed substitute c).Ends shell (.ok next) after) :
    scan.Turn next := by
  by_cases hc : scan.quotes.Live c
  · obtain ⟨rfl, hsingle⟩ := hc
    by_cases hback : scan.quotes.head? = some .back
    · obtain ⟨outer, hquotes⟩ := List.head?_eq_some_iff.mp hback
      rw [feed_close_back hquotes] at hfeed
      obtain ⟨ended, -, hnext⟩ := ends_closeSubstitution.mp hfeed
      cases ended with
      | error e => cases hnext
      | ok output =>
        obtain rfl := Except.ok.inj hnext
        refine .ends ?_ (paste_bodies scan.closed (flatten output))
        rw [paste_quotes, closed, hquotes]
        rfl
    · rw [feed_open_back hsingle hback, Eval.ends_pure] at hfeed
      obtain rfl := Except.ok.inj hfeed.1
      exact .begins rfl rfl
  · obtain ⟨other, hother⟩ := exists_goesOn hc
    rw [hother.feed_eq, Eval.ends_pure] at hfeed
    obtain rfl := Except.ok.inj hfeed.1
    exact hother.turn hc

/-- There is one body for each open back-quote. -/
def Paired (scan : Scan) : Prop := scan.bodies.length = scan.quotes.count .back

theorem Turn.paired (h : scan.Turn next) (hpaired : scan.Paired) : next.Paired := by
  unfold Paired at *
  cases h with
  | writes count_eq bodies_eq => rw [bodies_eq, List.length_modifyHead, hpaired, count_eq]
  | begins quotes_eq bodies_eq =>
    rw [bodies_eq, List.length_cons, hpaired, quotes_eq, List.count_cons_self]
  | ends quotes_eq bodies_eq =>
    rw [bodies_eq, List.length_modifyHead, List.length_tail, hpaired, quotes_eq,
      List.count_cons_self, Nat.add_sub_cancel]

/-- Only the innermost body has changed, and at most one is gone. -/
theorem Turn.suffix (h : scan.Turn next) : next.bodies.tail <:+ scan.bodies := by
  cases h with
  | writes count_eq bodies_eq =>
    rw [bodies_eq, List.tail_modifyHead]
    exact List.tail_suffix _
  | begins quotes_eq bodies_eq =>
    rw [bodies_eq]
    exact List.suffix_rfl
  | ends quotes_eq bodies_eq =>
    rw [bodies_eq, List.tail_modifyHead]
    exact (List.tail_suffix _).trans (List.tail_suffix _)

/-- The bodies that were there when a back-quote opened are still there, unless it has closed. -/
theorem suffix_of_staysOpen {outer : QuoteStack} {others : List String} {last : Scan}
    (hpaired : scan.Paired) (hquotes : .back :: outer <:+ scan.quotes)
    (hbodies : others <:+ scan.bodies) (hothers : others.length = outer.count .back)
    (hstays : ¬ scan.quotes.Meets
      (fun quotes c => quotes = .back :: outer ∧ c = Quote.back.char) text)
    (hends : (scan.feedText substitute text).Ends shell (.ok last) after) :
    others <:+ last.bodies := by
  induction text generalizing scan shell with
  | nil =>
    obtain ⟨hlast, -⟩ := Eval.ends_pure.mp hends
    obtain rfl := Except.ok.inj hlast
    exact hbodies
  | cons c text ih =>
    rw [feedText_cons] at hends
    obtain ⟨next, mid, hfeed, hends⟩ := Eval.ends_bind_ok.mp hends
    obtain ⟨hc, htext⟩ := not_or.mp (mt meets_cons.mpr hstays)
    have hturn := feed_turn hfeed
    have hnext : next.quotes = scan.quotes.feed c := (feed_ok hfeed).1
    have hsuffix : .back :: outer <:+ next.quotes := hnext ▸ suffix_feed hquotes hc
    have hpairedNext := hturn.paired hpaired
    -- The back-quote that stays open has a body above the others.
    have hlength : others.length ≤ next.bodies.tail.length := by
      have hcount := hsuffix.sublist.count_le Quote.back
      rw [List.count_cons_self] at hcount
      rw [List.length_tail, hpairedNext, hothers]
      omega
    refine ih hpairedNext hsuffix ?_ (hnext ▸ htext) hends
    exact (List.suffix_of_suffix_length_le hbodies hturn.suffix hlength).trans
      (List.tail_suffix _)

/-! ### The segments -/

/-- Every finished segment is an argument. -/
def Significant (scan : Scan) : Prop :=
  ∀ segment ∈ scan.segments.toList, segment.isSignificant = true

theorem Significant.endSegment (h : scan.Significant) : scan.endSegment.Significant := by
  unfold Scan.endSegment
  split
  · next hcurrent =>
    rw [Significant, Array.toList_push]
    exact List.forall_mem_append.mpr ⟨h, List.forall_mem_singleton.mpr hcurrent⟩
  · exact h

theorem Significant.pushEach (h : scan.Significant) (words : List (List Char)) :
    (words.foldl (fun scan word => scan.endSegment.pushText word) scan).Significant := by
  induction words generalizing scan with
  | nil => exact h
  | cons word words ih =>
    have hnext : (scan.endSegment.pushText word).Significant := h.endSegment
    exact ih hnext

theorem Significant.pushWords (h : scan.Significant) (words : List (List Char)) :
    (scan.pushWords words).Significant := by
  cases words with
  | nil => exact h
  | cons word words =>
    have hfirst : (scan.pushText word).Significant := h
    exact hfirst.pushEach words

theorem Significant.paste (h : scan.Significant) (output : List Char) :
    (scan.paste output).Significant := by
  unfold Scan.paste
  split
  · exact h
  · split
    · exact h
    · exact h.pushWords _

theorem push_segments (scan : Scan) (c : Char) : (scan.push c).segments = scan.segments := by
  unfold push
  split <;> rfl

/-- Only an output finishes segments. -/
theorem feed_segments (hfeed : (scan.feed substitute c).Ends shell (.ok next) after) :
    next.segments = scan.segments ∨ ∃ output, next = scan.closed.paste output := by
  have hpure {given : Scan} (hsegments : given.segments = scan.segments)
      (h : (pure given : Eval Shell Scan).Ends shell (.ok next) after) :
      next.segments = scan.segments ∨ ∃ output, next = scan.closed.paste output := by
    obtain rfl := Except.ok.inj (Eval.ends_pure.mp h).1
    exact .inl hsegments
  unfold feed at hfeed
  split at hfeed
  · exact hpure (push_segments scan c) hfeed
  · obtain ⟨ended, -, hnext⟩ := ends_closeSubstitution.mp hfeed
    cases ended with
    | error e => cases hnext
    | ok output => exact .inr ⟨_, Except.ok.inj hnext⟩
  · refine hpure ?_ hfeed
    rfl
  · refine hpure ?_ hfeed
    rfl
  · split at hfeed
    · refine hpure ?_ hfeed
      split
      · rfl
      · exact push_segments _ c
    · split at hfeed
      · refine hpure ?_ hfeed
        exact push_segments _ c
      · exact hpure (push_segments scan c) hfeed
  · split at hfeed
    · refine hpure ?_ hfeed
      rfl
    · exact hpure (push_segments scan c) hfeed
  · exact hpure (push_segments scan c) hfeed

theorem Significant.feed (h : scan.Significant)
    (hfeed : (scan.feed substitute c).Ends shell (.ok next) after) : next.Significant := by
  rcases feed_segments hfeed with hsame | ⟨output, rfl⟩
  · rwa [Significant, hsame]
  · have hclosed : scan.closed.Significant := h
    exact hclosed.paste output

theorem Significant.finish {segments : List Pattern} (h : scan.Significant)
    (hfinish : scan.finish = .ok segments) :
    ∀ segment ∈ segments, segment.isSignificant = true := by
  rw [Scan.finish, bind_eq_ok] at hfinish
  obtain ⟨-, -, hsegments⟩ := hfinish
  obtain rfl := Except.ok.inj hsegments
  exact h.endSegment

/-! ### All of the state -/

/-- What holds of a scan wherever it stands. -/
structure Sound (scan : Scan) : Prop where
  nested : scan.quotes.Nested
  paired : scan.Paired
  significant : scan.Significant

theorem sound_start : start.Sound := ⟨nested_nil, rfl, nofun⟩

theorem Sound.feed (h : scan.Sound)
    (hfeed : (scan.feed substitute c).Ends shell (.ok next) after) : next.Sound where
  nested := by
    rw [(feed_ok hfeed).1]
    exact h.nested.feed c
  paired := (feed_turn hfeed).paired h.paired
  significant := h.significant.feed hfeed

theorem Sound.feedText (h : scan.Sound)
    (hends : (scan.feedText substitute text).Ends shell (.ok next) after) : next.Sound := by
  induction text generalizing scan shell with
  | nil =>
    obtain ⟨hnext, -⟩ := Eval.ends_pure.mp hends
    obtain rfl := Except.ok.inj hnext
    exact h
  | cons c text ih =>
    rw [feedText_cons] at hends
    obtain ⟨mid, middle, hfeed, hends⟩ := Eval.ends_bind_ok.mp hends
    exact ih (h.feed hfeed) hends

/-- A back-quote closes with a body at hand, and behind the outermost one there is nothing but a
double quote. -/
theorem Sound.exists_body {outer : QuoteStack} (h : scan.Sound)
    (hquotes : scan.quotes = .back :: outer) :
    ∃ body others, scan.bodies = body :: others ∧ others.length = outer.count .back ∧
      (others = [] → outer = [] ∨ outer = [.double]) := by
  obtain ⟨hnested, hpaired, -⟩ := h
  rw [hquotes] at hnested
  rw [Paired, hquotes, List.count_cons_self] at hpaired
  obtain ⟨body, others, hbodies⟩ := List.exists_cons_of_length_eq_add_one hpaired
  have hlength : others.length = outer.count .back := by simpa [hbodies] using hpaired
  refine ⟨body, others, hbodies, hlength, fun hnone => hnested.outermost ?_⟩
  rw [hnone, List.length_nil] at hlength
  exact List.count_eq_zero.mp hlength.symm

/-- What stands below the body of a back-quote is what stood there when it opened. -/
theorem bodies_of_staysOpen {before inside : List Char} {outer : QuoteStack} {body : String}
    {others : List String} {last : Scan} (hnested : Nested (.back :: outer))
    (houter : QuoteStack.after [] before = outer) (hstays : outer.StaysOpen inside)
    (hbodies : last.bodies = body :: others) (hlength : others.length = outer.count .back)
    (hends : (start.feedText substitute (before ++ Quote.back.char :: inside)).Ends shell (.ok last)
      after) :
    ∃ reached mid, (start.feedText substitute before).Ends shell (.ok reached) mid ∧
      others = reached.bodies := by
  rw [feedText_append] at hends
  obtain ⟨reached, mid, hreached, hends⟩ := Eval.ends_bind_ok.mp hends
  have hquotes : reached.quotes = outer := (feedText_ok hreached).1.trans houter
  have hpaired : reached.bodies.length = outer.count .back := by
    rw [← hquotes]
    exact (sound_start.feedText hreached).paired
  have hsingle : outer.head? ≠ some .single := fun h => by cases hnested.head?_eq h
  have hback : outer.head? ≠ some .back := fun h => by cases hnested.head?_eq h
  rw [← hquotes] at hsingle hback
  rw [feedText_cons, feed_open_back hsingle hback, pure_bind] at hends
  rw [hquotes] at hends
  have hopened : Paired ⟨.back :: outer, reached.current, reached.segments,
      "" :: reached.bodies⟩ := by
    simpa [Paired] using hpaired
  have hsuffix : reached.bodies <:+ last.bodies :=
    suffix_of_staysOpen hopened List.suffix_rfl (List.suffix_cons _ _) hpaired hstays hends
  rw [hbodies, List.suffix_cons_iff] at hsuffix
  refine ⟨reached, mid, hreached, ?_⟩
  rcases hsuffix with hall | hothers
  · have hlengths := congrArg List.length hall
    rw [List.length_cons] at hlengths
    omega
  · exact (hothers.eq_of_length (hpaired.trans hlength.symm)).symm

end Scan

section Theorem

variable {substitute : Substituter} {text : List Char} {shell after : Shell} {reached : Scan}

/-- **Wherever a scan stands, its quotes are well nested, there is one body for each open
back-quote, and its finished segments are arguments.** A back-quote that closes ends the body that
its opening one has begun: the others are those there were in front of that place. Behind the
outermost one there is nothing, or one double quote. Outside every quote there is no body left, and
the scan finishes with arguments alone. -/
theorem bodies_match_back_quotes (h : (scan substitute text).Ends shell (.ok reached) after) :
    reached.Sound ∧
    (∀ outer : QuoteStack, reached.quotes = .back :: outer →
      ∃ body others, reached.bodies = body :: others ∧
        (reached.feed substitute Quote.back.char = do
          let output ← runSubstitution substitute body
          return Scan.paste ⟨outer, reached.current, reached.segments, others⟩ output) ∧
        (∃ before inside opening mid, text = before ++ Quote.back.char :: inside ∧
          QuoteStack.after [] before = outer ∧ outer.StaysOpen inside ∧
          (scan substitute before).Ends shell (.ok opening) mid ∧ others = opening.bodies) ∧
        (others = [] → outer = [] ∨ outer = [.double])) ∧
    (reached.quotes = [] → reached.bodies = [] ∧ ∃ segments, reached.finish = .ok segments ∧
      ∀ segment ∈ segments, segment.isSignificant = true) := by
  have hsound : reached.Sound := Scan.sound_start.feedText h
  refine ⟨hsound, fun outer hquotes => ?_, fun hclosed => ?_⟩
  · obtain ⟨body, others, hbodies, hlength, houtermost⟩ := hsound.exists_body hquotes
    refine ⟨body, others, hbodies, ?_, ?_, houtermost⟩
    · rw [Scan.feed_close_back hquotes]
      simp [Scan.closeSubstitution, hquotes, hbodies]
    · have hopen : .back :: outer <:+ QuoteStack.after [] text := by
        rw [← hquotes, (Scan.feedText_ok h).1]
        exact List.suffix_rfl
      obtain ⟨before, inside, rfl, houter, -, hstays⟩ := QuoteStack.exists_opening hopen
      obtain ⟨opening, mid, hopening, hothers⟩ := Scan.bodies_of_staysOpen
        (hquotes ▸ hsound.nested) houter hstays hbodies hlength h
      exact ⟨before, inside, opening, mid, rfl, houter, hstays, hopening, hothers⟩
  · have hpaired := hsound.paired
    rw [Scan.Paired, hclosed] at hpaired
    have hfinish := Scan.finish_of_closed hclosed
    exact ⟨List.length_eq_zero_iff.mp hpaired, _, hfinish, hsound.significant.finish hfinish⟩

/-- The body around the inner back-quote holds a quoted one as it is. -/
theorem bodies_match_back_quotes_nested :
    let substitute : Substituter := fun line => pure (Utf8.encode line.toList)
    let shell : Shell := ⟨⟨.withDirectory "/", .empty⟩, []⟩
    let first : Pattern := Pattern.empty.pushText ['a', 'w']
    let second : Pattern := (Pattern.empty.pushText ['x', 'b']).markQuoted
    let reached : Scan :=
      ⟨[.back, .double, .back, .double], second, #[first], ["i", "echo '`' \""]⟩
    let last : Scan := ⟨[], second.pushText "echo '`' \"i\"".toList, #[first], []⟩
    (∃ after, (scan substitute "a`w x`b\"`echo '`' \"`i".toList).Ends shell (.ok reached) after) ∧
      reached.Sound ∧
      (∃ before opening mid, QuoteStack.after [] before = [.double, .back, .double] ∧
        (scan substitute before).Ends shell (.ok opening) mid ∧
        opening.bodies = ["echo '`' \""]) ∧
      (∃ after,
        (scan substitute "a`w x`b\"`echo '`' \"`i`\"`\"".toList).Ends shell (.ok last) after) ∧
      last.bodies = [] ∧ ∃ segments, last.finish = .ok segments ∧
        ∀ segment ∈ segments, segment.isSignificant = true := by
  intro substitute shell first second reached last
  have hreached : (scan substitute "a`w x`b\"`echo '`' \"`i".toList).Ends shell (.ok reached)
      ⟨shell.world, [.substituted "w x"]⟩ := by
    unfold Eval.Ends
    cbv
  have hlast : (scan substitute "a`w x`b\"`echo '`' \"`i`\"`\"".toList).Ends shell (.ok last)
      ⟨shell.world, [.substituted "echo '`' \"i\"", .substituted "i", .substituted "w x"]⟩ := by
    unfold Eval.Ends
    cbv
  obtain ⟨hsound, hback, -⟩ := bodies_match_back_quotes hreached
  obtain ⟨body, others, hbodies, -, ⟨before, inside, opening, mid, -, houter, -, hopening, hothers⟩,
    -⟩ := hback _ rfl
  obtain ⟨-, rfl⟩ := List.cons.inj hbodies
  obtain ⟨-, -, hclosed⟩ := bodies_match_back_quotes hlast
  obtain ⟨hnone, hfinish⟩ := hclosed rfl
  exact ⟨⟨_, hreached⟩, hsound, ⟨before, opening, mid, houter, hopening, hothers.symm⟩, ⟨_, hlast⟩,
    hnone, hfinish⟩

end Theorem

end Argument

end LineShell
