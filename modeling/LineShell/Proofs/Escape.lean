import LineShell.Evaluation
import LineShell.Proofs.Printing
import LineShell.Proofs.Resolution

/-!
# Words that mean themselves

A word is escaped by single quotes around it, with every single quote in it written between double
quotes. Reading a line and resolving a token both pass over an escaped word with a single quote open
before each of its characters, so nothing in the word is special to either: a line of escaped words
is one call, and runs the application that its first word names on the others as they are.
-/

namespace LineShell

open Text QuoteStack

/-- How a character is written where a single quote is open. -/
def escapeChar (c : Char) : List Char :=
  if c = Quote.single.char then
    Quote.single.char :: Argument.quote .double [Quote.single.char] ++ [Quote.single.char]
  else [c]

def escape (word : String) : String :=
  String.ofList (Argument.quote .single (word.toList.flatMap escapeChar))

theorem escapeChar_of_ne {c : Char} (h : c ≠ Quote.single.char) : escapeChar c = [c] :=
  if_neg h

/-! ### Reading escaped words -/

theorem feed_single_of_ne {c : Char} (h : c ≠ Quote.single.char) :
    QuoteStack.feed [.single] c = [.single] := by
  cases hquote : Quote.ofChar? c with
  | none => exact feed_of_not_quote hquote _
  | some q =>
    obtain rfl := Quote.ofChar?_eq_some_iff.mp hquote
    cases q with
    | single => exact absurd rfl h
    | double => rfl
    | back => rfl

theorem after_escapeChar (c : Char) : after [.single] (escapeChar c) = [.single] := by
  by_cases h : c = Quote.single.char
  · subst h
    rfl
  · rw [escapeChar_of_ne h, after_cons, feed_single_of_ne h, after_nil]

theorem not_shows_escapeChar (class? : Char → Bool) (c : Char) :
    ¬ Shows [.single] class? (escapeChar c) := by
  by_cases h : c = Quote.single.char
  · subst h
    have hnone : ¬ Shows [.single] (fun _ => true) (escapeChar Quote.single.char) := by decide
    exact fun hshows => hnone (hshows.imp fun stack d hd => ⟨hd.1, rfl⟩)
  · rw [escapeChar_of_ne h, Shows, meets_cons]
    exact not_or.mpr ⟨by simp [exposes], not_meets_nil⟩

theorem after_escapeChars (text : List Char) :
    after [.single] (text.flatMap escapeChar) = [.single] := by
  induction text with
  | nil => rfl
  | cons c text ih => rw [List.flatMap_cons, after_append, after_escapeChar, ih]

theorem not_shows_escapeChars (class? : Char → Bool) (text : List Char) :
    ¬ Shows [.single] class? (text.flatMap escapeChar) := by
  induction text with
  | nil => exact not_meets_nil
  | cons c text ih =>
    rw [List.flatMap_cons, Shows, meets_append, after_escapeChar]
    exact not_or.mpr ⟨not_shows_escapeChar class? c, ih⟩

theorem oneLine_escapeChar {c : Char} (h : isLineBreak c = false) :
    ∀ d ∈ escapeChar c, isLineBreak d = false := by
  by_cases hc : c = Quote.single.char
  · subst hc
    simp [escapeChar, Argument.quote, Quote.char, isLineBreak]
  · rw [escapeChar_of_ne hc]
    exact List.forall_mem_singleton.mpr h

/-- A text between two quotes is one word if all of it stands inside them. -/
theorem isWordToken_quote {q : Quote} {text : List Char} (hafter : after [q] text = [q])
    (hhidden : ¬ Shows [q] breaksToken text) (honeLine : ∀ c ∈ text, isLineBreak c = false) :
    IsWordToken (String.ofList (Argument.quote q text)) := by
  have hopen : QuoteStack.feed [] q.char = [q] := by cases q <;> rfl
  have hclose : QuoteStack.feed [q] q.char = [] := by cases q <;> rfl
  have hinside : after [] (q.char :: text) = [q] := by rw [after_cons, hopen, hafter]
  have hquote (quotes : QuoteStack) : ¬ quotes.exposes q.char = true := by simp [exposes]
  have hplain : isLineBreak q.char = false := by cases q <;> rfl
  refine ⟨?_, ?_, ?_, ?_⟩
  · rw [ne_eq, ← String.toList_eq_nil_iff, String.toList_ofList]
    exact List.cons_ne_nil _ _
  · rw [String.toList_ofList, Argument.quote, after_append, hinside, after_cons, hclose, after_nil]
  · rw [String.toList_ofList, Argument.quote]
    exact List.forall_mem_append.mpr
      ⟨List.forall_mem_cons.mpr ⟨hplain, honeLine⟩, List.forall_mem_singleton.mpr hplain⟩
  · rw [String.toList_ofList, Argument.quote, Shows, meets_append, meets_cons, hopen, hinside,
      meets_cons]
    rintro ((h | h) | h | h)
    · exact hquote _ h.1
    · exact hhidden h
    · exact hquote _ h.1
    · exact not_meets_nil h

theorem isWordToken_escape {word : String} (h : ∀ c ∈ word.toList, isLineBreak c = false) :
    IsWordToken (escape word) := by
  refine isWordToken_quote (after_escapeChars _) (not_shows_escapeChars _ _) fun c hc => ?_
  obtain ⟨d, hd, hc⟩ := List.mem_flatMap.mp hc
  exact oneLine_escapeChar (h d hd) c hc

theorem isNormal_escape {words : List String} (hne : words ≠ [])
    (h : ∀ word ∈ words, ∀ c ∈ word.toList, isLineBreak c = false) :
    Call.IsNormal ⟨words.map escape⟩ := by
  refine ⟨mt List.map_eq_nil_iff.mp hne, ?_⟩
  intro token htoken
  obtain ⟨word, hword, rfl⟩ := List.mem_map.mp htoken
  exact .inr (.inr (.inr (isWordToken_escape (h word hword))))

theorem print_call (tokens : List String) :
    Command.print (.call ⟨tokens⟩) = " ".intercalate tokens := by
  apply String.toList_injective
  rw [String.toList_intercalate, Command.print, String.toList_ofList]
  rfl

/-- Tokens with single spaces between them are one call. -/
theorem parse_call {tokens : List String} (hne : tokens ≠ [])
    (h : ∀ token ∈ tokens, IsToken token) :
    Command.parse (" ".intercalate tokens) = .ok (.call ⟨tokens⟩) := by
  rw [← print_call]
  exact @Command.parse_print (.call ⟨tokens⟩) ⟨hne, h⟩

/-! ### Resolving escaped words -/

namespace Pattern

theorem hasWildcard_pushText (p : Pattern) (text : List Char) :
    (p.pushText text).hasWildcard = p.hasWildcard := by
  induction text generalizing p with
  | nil => rfl
  | cons c text ih =>
    have hpush : (p.pushChar c).hasWildcard = p.hasWildcard := by
      simp [hasWildcard, pushChar]
    rw [pushText_cons, ih, hpush]

theorem expand_of_not_hasWildcard {p : Pattern} (h : p.hasWildcard = false) (env : Environment)
    (files : FileTree) : p.expand env files = [String.ofList p.plain] := by
  rw [expand, h]
  rfl

end Pattern

namespace Argument

variable {substitute : Substituter}

theorem feedText_escapeChar (c : Char) (current : Pattern) (segments : Array Pattern) :
    Scan.feedText substitute ⟨[.single], current.markQuoted, segments, []⟩ (escapeChar c) =
      pure ⟨[.single], (current.pushChar c).markQuoted, segments, []⟩ := by
  by_cases h : c = Quote.single.char
  · subst h
    rfl
  · rw [escapeChar_of_ne h, Scan.feedText_singleton, Scan.feed_of_single rfl h]
    rfl

theorem feedText_escapeChars (text : List Char) (current : Pattern) (segments : Array Pattern) :
    Scan.feedText substitute ⟨[.single], current.markQuoted, segments, []⟩
        (text.flatMap escapeChar) =
      pure ⟨[.single], (current.pushText text).markQuoted, segments, []⟩ := by
  induction text generalizing current with
  | nil => rfl
  | cons c text ih =>
    rw [List.flatMap_cons, Scan.feedText_append, feedText_escapeChar, pure_bind, ih]
    rfl

theorem resolve_escape (word : String) : resolve substitute (escape word) = pure [word] := by
  have hopen : Scan.start.feed substitute Quote.single.char =
      pure ⟨[.single], Pattern.empty.markQuoted, #[], []⟩ := rfl
  have hscan : scan substitute (escape word).toList =
      pure ⟨[], (Pattern.empty.pushText word.toList).markQuoted, #[], []⟩ := by
    show Scan.start.feedText substitute _ = _
    rw [escape, String.toList_ofList, quote, Scan.feedText_append, Scan.feedText_cons, hopen,
      pure_bind, feedText_escapeChars, pure_bind, Scan.feedText_singleton]
    rfl
  have hplain (p : Pattern) : p.markQuoted.plain = p.plain := rfl
  have hword (env : Environment) (files : FileTree) :
      (Pattern.empty.pushText word.toList).markQuoted.expand env files = [word] := by
    rw [Pattern.expand_of_not_hasWildcard, hplain, Pattern.plain_pushText]
    · simp [Pattern.plain, Pattern.empty]
    · exact Pattern.hasWildcard_pushText Pattern.empty word.toList
  have hfinish : Scan.finish ⟨[], (Pattern.empty.pushText word.toList).markQuoted, #[], []⟩ =
      .ok [(Pattern.empty.pushText word.toList).markQuoted] := rfl
  funext shell
  rw [resolve, hscan, pure_bind, hfinish]
  show some (EStateM.Result.ok _ shell) = some (.ok [word] shell)
  rw [List.flatMap_singleton, hword]

theorem resolveAll_escape (words : List String) :
    resolveAll substitute (words.map escape) = pure words := by
  induction words with
  | nil => rfl
  | cons word words ih =>
    rw [List.map_cons, resolveAll, resolve_escape, ih]
    rfl

end Argument

/-! ### Calls of escaped words -/

namespace Redirection

/-- No operator begins with a quote. -/
theorem operator?_quote (q : Quote) (text : List Char) :
    operator? (String.ofList (Argument.quote q text)) = none := by
  have hne {operator : String} (h : operator.toList.head? ≠ some q.char) :
      String.ofList (Argument.quote q text) ≠ operator := by
    rintro rfl
    rw [String.toList_ofList] at h
    exact h rfl
  unfold operator?
  split
  · next h => exact absurd h (hne (by cases q <;> decide))
  · next h => exact absurd h (hne (by cases q <;> decide))
  · next h => exact absurd h (hne (by cases q <;> decide))
  · rfl

theorem operator?_escape (word : String) : operator? (escape word) = none :=
  operator?_quote .single _

/-- Without operators, all tokens are words. -/
theorem divide_of_words {tokens : List String} (h : ∀ token ∈ tokens, operator? token = none) :
    divide tokens = .ok ⟨[], tokens⟩ := by
  induction tokens with
  | nil => rfl
  | cons token tokens ih =>
    obtain ⟨htoken, htokens⟩ := List.forall_mem_cons.mp h
    rw [divide, htoken, ih htokens]
    rfl

theorem extract_of_words (substitute : Substituter) {tokens : List String}
    (h : ∀ token ∈ tokens, operator? token = none) :
    extract substitute tokens = pure (.unopened, tokens) := by
  rw [extract, divide_of_words h]
  rfl

theorem extract_escape (substitute : Substituter) (words : List String) :
    extract substitute (words.map escape) = pure (.unopened, words.map escape) :=
  extract_of_words substitute (List.forall_mem_map.mpr fun word _ => operator?_escape word)

theorem Files.redirect_unopened {α : Type} (m : Eval Run α) : unopened.redirect m = m := by
  funext run
  show Eval.through run.job.streams id m run = m run
  rw [Eval.through]
  cases m run with
  | none => rfl
  | some result => cases result <;> rfl

end Redirection

theorem evaluate_escape (context : Context) (word : String) (words : List String) :
    Call.evaluate context ⟨(word :: words).map escape⟩ = context.registry.run word words := by
  have hcall : ((word :: words).map escape).isEmpty = false := rfl
  have hpure {α : Type} (a : α) : Eval.onShell (pure a) = pure a := rfl
  rw [Call.evaluate, hcall, Redirection.extract_escape, hpure]
  simp only [Bool.false_eq_true, if_false, pure_bind]
  rw [Argument.resolveAll_escape, hpure, pure_bind]
  exact Redirection.Files.redirect_unopened _

/-- A line of escaped words is one call, with a token for each word and no redirection, and its
arguments are the words, whatever substitutions would do. So it runs what the first word names. -/
theorem escape_transparent (word : String) (words : List String)
    (honeLine : ∀ w ∈ word :: words, ∀ c ∈ w.toList, isLineBreak c = false) :
    Command.parse (" ".intercalate ((word :: words).map escape)) =
        .ok (.call ⟨(word :: words).map escape⟩) ∧
      (∀ substitute, Redirection.extract substitute ((word :: words).map escape) =
        pure (.unopened, (word :: words).map escape)) ∧
      (∀ substitute, Argument.resolveAll substitute ((word :: words).map escape) =
        pure (word :: words)) ∧
      ∀ context, evaluateLine context (" ".intercalate ((word :: words).map escape)) =
        context.registry.run word words := by
  have hparse : Command.parse (" ".intercalate ((word :: words).map escape)) =
      .ok (.call ⟨(word :: words).map escape⟩) := by
    have hnormal := isNormal_escape (List.cons_ne_nil word words) honeLine
    rw [← print_call]
    exact @Command.parse_print (.call ⟨(word :: words).map escape⟩) hnormal
  refine ⟨hparse, ?_, ?_, ?_⟩
  · intro substitute
    exact Redirection.extract_escape substitute (word :: words)
  · intro substitute
    exact Argument.resolveAll_escape (word :: words)
  · intro context
    have hsyntax (command : Command) :
        (Eval.ofSyntax (.ok command) : Eval Run Command) = pure command := rfl
    rw [evaluateLine, hparse, hsyntax, pure_bind, Command.evaluate, evaluate_escape]

theorem escape_transparent_special_characters :
    escape "it's; `a` | *" = "'it'\"'\"'s; `a` | *'" ∧
      Command.parse "'echo' '' 'it'\"'\"'s; `a` | *'" =
        .ok (.call ⟨["'echo'", "''", "'it'\"'\"'s; `a` | *'"]⟩) ∧
      Argument.resolveAll (fun _ => Eval.fail (.malformed .invalid))
          ["'echo'", "''", "'it'\"'\"'s; `a` | *'"] =
        pure ["echo", "", "it's; `a` | *"] := by
  have hwords : ["echo", "", "it's; `a` | *"].map escape =
      ["'echo'", "''", "'it'\"'\"'s; `a` | *'"] := by cbv
  have htransparent := escape_transparent "echo" ["", "it's; `a` | *"] (by simp [isLineBreak])
  rw [hwords] at htransparent
  obtain ⟨hparse, -, hresolve, -⟩ := htransparent
  exact ⟨by cbv, hparse, hresolve _⟩

end LineShell
