import Mathlib
import LineShell.Proofs.Nesting
import LineShell.Proofs.Quotes

/-!
# Tokens are resolved as their form says

The scan of a token goes character by character, with a stack of open quotes and a body for each
open back-quote. What it does over a whole quoted text is told by the form of that text: it writes
what stands there in the end into the innermost body, or into the current segment. From there the
parts of a token come out as rows of fields, one after the other.
-/

namespace LineShell

open Text

/-! ### Patterns in a row -/

namespace Pattern

theorem pushChar_eq_append (p : Pattern) (c : Char) : p.pushChar c = p.append (ofChar c) := by
  simp [pushChar, append, ofChar, empty]

theorem pushWildcard_eq_append (p : Pattern) : p.pushWildcard = p.append wildcard := by
  simp [pushWildcard, append, wildcard, empty]

@[simp] theorem append_empty (p : Pattern) : p.append empty = p := by
  simp [append, empty]

@[simp] theorem empty_append (p : Pattern) : empty.append p = p := by
  simp [append, empty]

theorem append_assoc (p q r : Pattern) : (p.append q).append r = p.append (q.append r) := by
  simp [append, Bool.or_assoc]

theorem markQuoted_append (p q : Pattern) : p.markQuoted.append q = p.append q.markQuoted := by
  simp [append, markQuoted]

theorem pushText_cons (p : Pattern) (c : Char) (text : List Char) :
    p.pushText (c :: text) = (p.pushChar c).pushText text := rfl

theorem pushText_append (p : Pattern) (text more : List Char) :
    p.pushText (text ++ more) = (p.pushText text).pushText more :=
  List.foldl_append

theorem pushText_eq_append (p : Pattern) (text : List Char) :
    p.pushText text = p.append (ofText text) := by
  induction text generalizing p with
  | nil =>
    show p = p.append empty
    rw [append_empty]
  | cons c text ih =>
    have htext : ofText (c :: text) = (ofChar c).append (ofText text) := ih (ofChar c)
    rw [pushText_cons, ih, pushChar_eq_append, append_assoc, htext]

end Pattern

namespace Argument

namespace Scan

/-- Put a text where the scan is: into the innermost body, or into the current segment. -/
def write (scan : Scan) (text : List Char) : Scan :=
  match scan.bodies with
  | body :: outer => { scan with bodies := (body ++ String.ofList text) :: outer }
  | [] => scan.pushText text

@[simp] theorem write_quotes (scan : Scan) (text : List Char) :
    (scan.write text).quotes = scan.quotes := by
  unfold write
  split <;> rfl

theorem write_bodies_eq_nil {scan : Scan} {text : List Char} :
    (scan.write text).bodies = [] ↔ scan.bodies = [] := by
  unfold write
  split <;> simp [pushText, *]

@[simp] theorem write_nil (scan : Scan) : scan.write [] = scan := by
  obtain ⟨quotes, current, segments, bodies⟩ := scan
  cases bodies with
  | nil => rfl
  | cons body outer => simp [write]

theorem write_write (scan : Scan) (text more : List Char) :
    (scan.write text).write more = scan.write (text ++ more) := by
  obtain ⟨quotes, current, segments, bodies⟩ := scan
  cases bodies with
  | nil => simp [write, pushText, Pattern.pushText_append]
  | cons body outer => simp [write, String.append_assoc]

theorem push_eq_write (scan : Scan) (c : Char) : scan.push c = scan.write [c] := by
  obtain ⟨quotes, current, segments, bodies⟩ := scan
  cases bodies with
  | nil => rfl
  | cons body outer =>
    have hbody : body.push c = body ++ String.ofList [c] := by
      apply String.toList_injective
      simp
    show Scan.mk quotes current segments (body.push c :: outer) =
      ⟨quotes, current, segments, (body ++ String.ofList [c]) :: outer⟩
    rw [hbody]

/-- The scan after a text. -/
def feedText (substitute : Substituter) (scan : Scan) (text : List Char) : Eval Shell Scan :=
  text.foldlM (feed substitute) scan

section Run

variable {substitute : Substituter}

theorem feedText_nil (scan : Scan) : scan.feedText substitute [] = pure scan := rfl

theorem feedText_cons (scan : Scan) (c : Char) (text : List Char) :
    scan.feedText substitute (c :: text) =
      scan.feed substitute c >>= fun next => next.feedText substitute text :=
  List.foldlM_cons

theorem feedText_singleton (scan : Scan) (c : Char) :
    scan.feedText substitute [c] = scan.feed substitute c := by
  rw [feedText_cons]
  exact bind_pure _

theorem feedText_append (scan : Scan) (text more : List Char) :
    scan.feedText substitute (text ++ more) =
      scan.feedText substitute text >>= fun next => next.feedText substitute more :=
  List.foldlM_append

theorem feed_of_single {scan : Scan} {outer : QuoteStack} {c : Char}
    (hquotes : scan.quotes = .single :: outer) (hc : c ≠ Quote.single.char) :
    scan.feed substitute c = pure (scan.write [c]) := by
  rw [← push_eq_write]
  cases hquote : Quote.ofChar? c with
  | none => simp [feed, hquote, hquotes]
  | some q =>
    obtain rfl := Quote.ofChar?_eq_some_iff.mp hquote
    cases q with
    | single => exact absurd rfl hc
    | double => simp [feed, hquotes]
    | back => simp [feed, hquotes]

theorem feed_of_double {scan : Scan} {outer : QuoteStack} (c : Literal)
    (hquotes : scan.quotes = .double :: outer) :
    scan.feed substitute c = pure (scan.write [c.val]) := by
  obtain ⟨c, hdouble, hback⟩ := c
  rw [← push_eq_write]
  cases hquote : Quote.ofChar? c with
  | none => simp [feed, hquote, hquotes]
  | some q =>
    obtain rfl := Quote.ofChar?_eq_some_iff.mp hquote
    cases q with
    | single => simp [feed, hquotes]
    | double => exact absurd rfl hdouble
    | back => exact absurd rfl hback

theorem feed_of_back {scan : Scan} {outer : QuoteStack} (c : Plain)
    (hquotes : scan.quotes = .back :: outer) :
    scan.feed substitute c = pure (scan.write [c.val]) := by
  rw [← push_eq_write]
  simp [feed, c.2, hquotes]

/-- Inside back-quotes, other quotes open and are kept. -/
theorem feed_open_in_back {scan : Scan} {outer : QuoteStack} {q : Quote} (hq : q ≠ .back)
    (hquotes : scan.quotes = .back :: outer) :
    scan.feed substitute q.char =
      pure ({ scan with quotes := q :: .back :: outer }.write [q.char]) := by
  rw [← push_eq_write]
  cases q with
  | single => simp [feed, hquotes]
  | double => simp [feed, hquotes]
  | back => exact absurd rfl hq

theorem feed_close {scan : Scan} {outer : QuoteStack} {q : Quote} (hq : q ≠ .back)
    (hquotes : scan.quotes = q :: outer) :
    scan.feed substitute q.char =
      pure (if scan.bodies.isEmpty then { scan with quotes := outer }
        else { scan with quotes := outer }.write [q.char]) := by
  rw [← push_eq_write]
  cases q with
  | single => simp [feed, hquotes]
  | double => simp [feed, hquotes]
  | back => exact absurd rfl hq

theorem feed_open_back {scan : Scan} (hsingle : scan.quotes.head? ≠ some .single)
    (hback : scan.quotes.head? ≠ some .back) :
    scan.feed substitute Quote.back.char =
      pure { scan with quotes := .back :: scan.quotes, bodies := "" :: scan.bodies } := by
  obtain ⟨quotes, current, segments, bodies⟩ := scan
  cases quotes with
  | nil => simp [feed]
  | cons innermost outer =>
    cases innermost with
    | single => exact absurd rfl hsingle
    | double => simp [feed]
    | back => exact absurd rfl hback

theorem feed_close_back {scan : Scan} {outer : QuoteStack}
    (hquotes : scan.quotes = .back :: outer) :
    scan.feed substitute Quote.back.char = scan.closeSubstitution substitute := by
  simp [feed, hquotes]

/-- The segments of a token of which this text is still to be scanned. -/
def finishAfter (substitute : Substituter) (scan : Scan) (text : List Char) :
    Eval Shell (List Pattern) := do
  let last ← scan.feedText substitute text
  Eval.ofSyntax last.finish

theorem finishAfter_nil (scan : Scan) :
    scan.finishAfter substitute [] = Eval.ofSyntax scan.finish := rfl

theorem finishAfter_append (scan : Scan) (text more : List Char) :
    scan.finishAfter substitute (text ++ more) =
      scan.feedText substitute text >>= fun next => next.finishAfter substitute more := by
  rw [finishAfter, feedText_append, bind_assoc]
  rfl

theorem finish_of_checkClosed {scan : Scan} {fault : SyntaxFault}
    (h : scan.quotes.checkClosed = .error fault) : scan.finish = .error fault := by
  rw [finish, h]
  rfl

theorem finish_of_closed {scan : Scan} (h : scan.quotes = []) :
    scan.finish = .ok scan.endSegment.segments.toList := by
  rw [finish, h]
  rfl

end Run

end Scan

/-! ### Between quotes -/

/-- Where such a quote is the innermost, scanning the text writes what the step gives. -/
def Writes (substitute : Substituter) (q : Quote) (text : List Char)
    (content : Eval Shell (List Char)) : Prop :=
  ∀ (scan : Scan) (outer : QuoteStack), scan.quotes = q :: outer →
    (q = .back → scan.bodies ≠ []) →
      scan.feedText substitute text = do
        let written ← content
        return scan.write written

namespace Writes

variable {substitute : Substituter} {q : Quote} {text more : List Char}
  {content others : Eval Shell (List Char)}

theorem nil : Writes substitute q [] (pure []) := by
  intro scan outer hquotes hbodies
  rw [Scan.feedText_nil, pure_bind, Scan.write_nil]

theorem append (h : Writes substitute q text content) (hmore : Writes substitute q more others) :
    Writes substitute q (text ++ more) (do
      let first ← content
      let second ← others
      return first ++ second) := by
  intro scan outer hquotes hbodies
  have hnext (written : List Char) :
      (scan.write written).feedText substitute more = do
        let second ← others
        return scan.write (written ++ second) := by
    rw [hmore (scan.write written) outer (by rw [Scan.write_quotes, hquotes])
      fun hq => mt Scan.write_bodies_eq_nil.mp (hbodies hq)]
    simp only [Scan.write_write]
  rw [Scan.feedText_append, h scan outer hquotes hbodies]
  simp only [bind_assoc, pure_bind, hnext]

theorem cons {c : Char} (h : ∀ (scan : Scan) (outer : QuoteStack), scan.quotes = q :: outer →
      scan.feed substitute c = pure (scan.write [c]))
    (hmore : Writes substitute q more others) :
    Writes substitute q (c :: more) (do
      let rest ← others
      return c :: rest) := by
  have hfirst : Writes substitute q [c] (pure [c]) := by
    intro scan outer hquotes hbodies
    rw [Scan.feedText_singleton, h scan outer hquotes, pure_bind]
  simpa only [pure_bind, List.singleton_append] using hfirst.append hmore

theorem verbatim (text : Verbatim) : Writes substitute .single text (pure text.val) := by
  obtain ⟨text, htext⟩ := text
  induction text with
  | nil => exact nil
  | cons c text ih =>
    obtain ⟨hc, hrest⟩ := not_or.mp (mt List.mem_cons.mpr htext)
    have hfeed (scan : Scan) (outer : QuoteStack) (hquotes : scan.quotes = .single :: outer) :=
      @Scan.feed_of_single substitute scan outer c hquotes (Ne.symm hc)
    simpa only [pure_bind] using cons hfeed (ih hrest)

/-- What follows an opening quote is written after it has been taken in. -/
theorem feedText_open {scan opened : Scan} {outer : QuoteStack}
    (h : Writes substitute q text content) (hfeed : scan.feed substitute q.char = pure opened)
    (hquotes : opened.quotes = q :: outer) (hbodies : q = .back → opened.bodies ≠ []) :
    scan.feedText substitute (q.char :: text) = do
      let written ← content
      return opened.write written := by
  rw [Scan.feedText_cons, hfeed, pure_bind, h opened outer hquotes hbodies]

/-- A quoted text in a body is copied with its quotes. -/
theorem quote (hq : q ≠ .back) (h : Writes substitute q text content) :
    Writes substitute .back (quote q text) (do
      let written ← content
      return Argument.quote q written) := by
  intro scan outer hquotes hbodies
  obtain ⟨quotes, current, segments, bodies⟩ := scan
  obtain ⟨body, bodies, rfl⟩ := List.exists_cons_of_ne_nil (hbodies rfl)
  obtain rfl := hquotes
  rw [Argument.quote, Scan.feedText_append,
    h.feedText_open (Scan.feed_open_in_back hq rfl) rfl fun hback => absurd hback hq]
  simp only [bind_assoc, pure_bind, Scan.feedText_singleton, Scan.write_write]
  apply bind_congr
  intro written
  have hbody : body ++ String.ofList ([q.char] ++ written) ++ String.ofList [q.char] =
      body ++ String.ofList (Argument.quote q written) := by
    rw [String.append_assoc, ← String.ofList_append]
    rfl
  rw [Scan.feed_close hq rfl]
  show pure (Scan.mk _ current segments (_ :: bodies)) = _
  rw [hbody]
  rfl

/-- What closes a substitution is handed over as the line that has been written. -/
theorem feedText_eq_paste {scan : Scan} (h : Writes substitute .back text content)
    (hsingle : scan.quotes.head? ≠ some .single) (hback : scan.quotes.head? ≠ some .back) :
    scan.feedText substitute (Argument.quote .back text) = do
      let line ← content
      let output ← runSubstitution substitute (String.ofList line)
      return scan.paste output := by
  rw [Argument.quote, Scan.feedText_append,
    h.feedText_open (Scan.feed_open_back hsingle hback) rfl fun _ => List.cons_ne_nil _ _]
  simp only [bind_assoc, pure_bind, Scan.feedText_singleton]
  apply bind_congr
  intro line
  rw [Scan.feed_close_back rfl]
  simp [Scan.closeSubstitution, Scan.write]

/-- Between double quotes, an output is put in the place of its substitution. -/
theorem substitution (h : Writes substitute .back text content) :
    Writes substitute .double (Argument.quote .back text) (do
      let line ← content
      runSubstitution substitute (String.ofList line)) := by
  intro scan outer hquotes hbodies
  have hpaste (output : List Char) : scan.paste output = scan.write output := by
    unfold Scan.paste Scan.write
    rw [hquotes]
    rfl
  rw [h.feedText_eq_paste (by simp [hquotes]) (by simp [hquotes])]
  simp only [bind_assoc, hpaste]

end Writes

mutual

theorem Body.writes {substitute : Substituter} (body : Body) :
    Writes substitute .back body.text (body.line substitute) := by
  cases body with
  | nil => exact .nil
  | plain c rest => exact .cons (fun scan outer => Scan.feed_of_back c) rest.writes
  | single text rest =>
    have hquoted := (@Writes.verbatim substitute text).quote (by decide)
    simpa only [Body.text, Body.line, pure_bind] using hquoted.append rest.writes
  | double inner rest =>
    have hquoted := (@Inner.writes substitute inner).quote (by decide)
    simpa only [Body.text, Body.line, bind_assoc, pure_bind] using hquoted.append rest.writes

theorem Inner.writes {substitute : Substituter} (inner : Inner) :
    Writes substitute .double inner.text (inner.content substitute) := by
  cases inner with
  | nil => exact .nil
  | literal c rest => exact .cons (fun scan outer => Scan.feed_of_double c) rest.writes
  | substitution body rest =>
    have houtput := (@Body.writes substitute body).substitution
    simpa only [Inner.text, Inner.content, bind_assoc] using houtput.append rest.writes

end

/-! ### Rows of fields -/

theorem glue_ne_nil {fields : List Pattern} (h : fields ≠ []) (others : List Pattern) :
    glue fields others ≠ [] := by
  fun_cases glue fields others with
  | case1 => exact absurd rfl h
  | case2 last => simp
  | case3 last first others => simp
  | case4 first second fields => simp

namespace Scan

/-- Join a field to the current segment. -/
def extend (scan : Scan) (field : Pattern) : Scan :=
  { scan with current := scan.current.append field }

/-- Join a row of fields, the first to the current segment. -/
def absorb (scan : Scan) : List Pattern → Scan
  | [] => scan
  | first :: others =>
    others.foldl (fun scan field => scan.endSegment.extend field) (scan.extend first)

theorem absorb_cons {others : List Pattern} (hothers : others ≠ []) (scan : Scan)
    (first : Pattern) :
    scan.absorb (first :: others) = (scan.extend first).endSegment.absorb others := by
  obtain ⟨second, others, rfl⟩ := List.exists_cons_of_ne_nil hothers
  rfl

theorem absorb_glue (scan : Scan) (fields others : List Pattern) :
    scan.absorb (glue fields others) = (scan.absorb fields).absorb others := by
  fun_induction glue fields others generalizing scan with
  | case1 others => rfl
  | case2 last => rfl
  | case3 last first others =>
    have hjoined : scan.extend (last.append first) = (scan.extend last).extend first := by
      simp only [extend, Pattern.append_assoc]
    rw [absorb, hjoined]
    rfl
  | case4 first second fields others ih =>
    rw [absorb_cons (glue_ne_nil (List.cons_ne_nil _ _) others), ih,
      absorb_cons (List.cons_ne_nil _ _)]

/-- No quote is open. -/
structure Outside (scan : Scan) : Prop where
  quotes : scan.quotes = []
  bodies : scan.bodies = []

theorem Outside.endSegment {scan : Scan} (h : scan.Outside) : scan.endSegment.Outside := by
  unfold Scan.endSegment
  split
  · exact ⟨h.quotes, h.bodies⟩
  · exact ⟨h.quotes, h.bodies⟩

theorem Outside.absorb {scan : Scan} (h : scan.Outside) (fields : List Pattern) :
    (scan.absorb fields).Outside := by
  induction fields generalizing scan with
  | nil => exact h
  | cons first others ih =>
    have hfirst : (scan.extend first).Outside := ⟨h.quotes, h.bodies⟩
    by_cases hothers : others = []
    · rw [hothers]
      exact hfirst
    · rw [absorb_cons hothers]
      exact ih hfirst.endSegment

theorem pushWords_eq_absorb (scan : Scan) (words : List (List Char)) :
    scan.pushWords words = scan.absorb (words.map .ofText) := by
  cases words with
  | nil => rfl
  | cons first others =>
    have hextend (scan : Scan) (word : List Char) :
        scan.pushText word = scan.extend (.ofText word) := by
      rw [pushText, extend, Pattern.pushText_eq_append]
    simp only [pushWords, absorb, List.map_cons, List.foldl_map, hextend]

theorem endSegment_segments (scan : Scan) :
    scan.endSegment.segments.toList =
      scan.segments.toList ++ [scan.current].filter (·.isSignificant) := by
  unfold endSegment
  split
  · next h => simp [h]
  · next h => simp [h]

theorem endSegment_current (scan : Scan) : scan.endSegment.current = .empty := by
  unfold endSegment
  split <;> rfl

theorem absorb_segments (scan : Scan) (first : Pattern) (others : List Pattern) :
    (scan.absorb (first :: others)).endSegment.segments.toList =
      scan.segments.toList ++ (scan.current.append first :: others).filter (·.isSignificant) := by
  induction others generalizing scan first with
  | nil => exact endSegment_segments (scan.extend first)
  | cons second others ih =>
    rw [absorb_cons (List.cons_ne_nil _ _), ih, endSegment_current, Pattern.empty_append,
      endSegment_segments, List.append_assoc, ← List.filter_append]
    rfl

theorem start_absorb_finish (fields : List Pattern) :
    (start.absorb fields).finish = .ok (fields.filter (·.isSignificant)) := by
  have hquotes := (Outside.absorb ⟨rfl, rfl⟩ fields : (start.absorb fields).Outside).quotes
  have hsegments : (start.absorb fields).endSegment.segments.toList =
      fields.filter (·.isSignificant) := by
    cases fields with
    | nil => rfl
    | cons first others =>
      rw [absorb_segments]
      simp [start]
  rw [finish_of_closed hquotes, hsegments]

end Scan

/-! ### Parts and endings -/

section Outside

variable {substitute : Substituter} {scan : Scan}

theorem feed_open_outside (h : scan.Outside) {q : Quote} (hq : q ≠ .back) :
    scan.feed substitute q.char =
      pure { scan with quotes := [q], current := scan.current.markQuoted } := by
  cases q with
  | single => simp [Scan.feed, h.quotes]
  | double => simp [Scan.feed, h.quotes]
  | back => exact absurd rfl hq

/-- A quoted text outside every quote is a field of its own. -/
theorem Writes.feedText_eq_extend (h : scan.Outside) {q : Quote} (hq : q ≠ .back)
    {text : List Char} {content : Eval Shell (List Char)}
    (hwrites : Writes substitute q text content) :
    scan.feedText substitute (Argument.quote q text) = do
      let written ← content
      return scan.extend (Pattern.ofText written).markQuoted := by
  rw [Argument.quote, Scan.feedText_append,
    hwrites.feedText_open (feed_open_outside h hq) rfl fun hback => absurd hback hq]
  simp only [bind_assoc, pure_bind, Scan.feedText_singleton]
  apply bind_congr
  intro written
  obtain ⟨quotes, current, segments, bodies⟩ := scan
  obtain rfl := h.quotes
  obtain rfl := h.bodies
  rw [Scan.feed_close hq rfl]
  show pure (Scan.mk [] (current.markQuoted.pushText written) segments []) = _
  rw [Pattern.pushText_eq_append, Pattern.markQuoted_append]
  rfl

theorem Part.feedText_text (part : Part) (h : scan.Outside) :
    scan.feedText substitute part.text = do
      let fields ← part.fields substitute
      return scan.absorb fields := by
  cases part with
  | plain c =>
    obtain ⟨quotes, current, segments, bodies⟩ := scan
    obtain rfl := h.quotes
    obtain rfl := h.bodies
    rw [Part.text, Scan.feedText_singleton, Part.fields, pure_bind]
    simp only [Scan.feed, c.2, Scan.push, Pattern.pushWildcard_eq_append,
      Pattern.pushChar_eq_append]
    split
    · rfl
    · rfl
  | single text =>
    rw [Part.text, (Writes.verbatim text).feedText_eq_extend h (by decide), Part.fields]
    rfl
  | double inner =>
    rw [Part.text, inner.writes.feedText_eq_extend h (by decide), Part.fields]
    simp only [bind_assoc, pure_bind]
    rfl
  | substitution body =>
    have hpaste (output : List Char) :
        scan.paste output = scan.absorb ((words output).map .ofText) := by
      rw [← Scan.pushWords_eq_absorb, Scan.paste, h.bodies, h.quotes]
      rfl
    rw [Part.text, body.writes.feedText_eq_paste (by simp [h.quotes]) (by simp [h.quotes]),
      Part.fields]
    simp only [bind_assoc, pure_bind, hpaste]

theorem feedText_parts (parts : List Part) (h : scan.Outside) :
    scan.feedText substitute (parts.flatMap Part.text) = do
      let fields ← fieldsOf substitute parts
      return scan.absorb fields := by
  induction parts generalizing scan with
  | nil => rfl
  | cons part parts ih =>
    have hnext (fields : List Pattern) := ih (h.absorb fields)
    rw [List.flatMap_cons, Scan.feedText_append, part.feedText_text h, fieldsOf]
    simp only [bind_assoc, pure_bind, hnext, Scan.absorb_glue]

theorem checkClosed_of_back {quotes : QuoteStack} (h : .back ∈ quotes) :
    quotes.checkClosed = .error .unmatchedBackquote :=
  if_pos (List.contains_iff_mem.mpr h)

section Open

variable {opened : Scan} {q : Quote} {outer : QuoteStack} {text : List Char}
  {content : Eval Shell (List Char)}

/-- What stands behind an opening quote comes before what the rest of the token does. -/
theorem Writes.finishAfter_append {more : List Char} {later : Eval Shell (List Pattern)}
    (hwrites : Writes substitute q text content)
    (hfeed : scan.feed substitute q.char = pure opened) (hquotes : opened.quotes = q :: outer)
    (hbodies : q = .back → opened.bodies ≠ [])
    (hmore : ∀ written, (opened.write written).finishAfter substitute more = later) :
    scan.finishAfter substitute (q.char :: text ++ more) =
      content >>= fun _ => later := by
  rw [Scan.finishAfter_append, hwrites.feedText_open hfeed hquotes hbodies]
  simp only [bind_assoc, pure_bind, hmore]

/-- A token that ends where a quote is open comes to a fault. -/
theorem Writes.finishAfter_open {fault : SyntaxFault} (hwrites : Writes substitute q text content)
    (hfeed : scan.feed substitute q.char = pure opened) (hquotes : opened.quotes = q :: outer)
    (hq : q ≠ .back) (hfault : QuoteStack.checkClosed (q :: outer) = .error fault) :
    scan.finishAfter substitute (q.char :: text) =
      content >>= fun _ => Eval.fail (.malformed fault) := by
  have hfinish (written : List Char) : (opened.write written).finish = .error fault := by
    apply Scan.finish_of_checkClosed
    rw [Scan.write_quotes, hquotes, hfault]
  rw [← List.append_nil (q.char :: text)]
  apply hwrites.finishAfter_append hfeed hquotes fun hback => absurd hback hq
  intro written
  rw [Scan.finishAfter_nil, hfinish]
  rfl

end Open

theorem Body.finishAfter_append (body : Body) {more : List Char}
    {later : Eval Shell (List Pattern)} (hsingle : scan.quotes.head? ≠ some .single)
    (hback : scan.quotes.head? ≠ some .back)
    (hmore : ∀ next : Scan, next.quotes = .back :: scan.quotes → next.bodies ≠ [] →
      next.finishAfter substitute more = later) :
    scan.finishAfter substitute (Quote.back.char :: body.text ++ more) =
      body.line substitute >>= fun _ => later := by
  apply body.writes.finishAfter_append (Scan.feed_open_back hsingle hback) rfl
  · exact fun _ => List.cons_ne_nil _ _
  · intro written
    apply hmore
    · exact Scan.write_quotes _ _
    · exact mt Scan.write_bodies_eq_nil.mp (List.cons_ne_nil _ _)

theorem Stop.finishAfter_text (stop : Stop) {outer : QuoteStack}
    (hquotes : scan.quotes = .back :: outer) (hbodies : scan.bodies ≠ []) :
    scan.finishAfter substitute stop.text =
      stop.run substitute >>= fun _ => Eval.fail (.malformed .unmatchedBackquote) := by
  induction stop generalizing scan outer with
  | here =>
    have hback : scan.quotes.checkClosed = .error .unmatchedBackquote :=
      checkClosed_of_back (by simp [hquotes])
    rw [Stop.text, Scan.finishAfter_nil, Scan.finish_of_checkClosed hback]
    rfl
  | single text =>
    exact (Writes.verbatim text).finishAfter_open (Scan.feed_open_in_back nofun hquotes)
      (Scan.write_quotes _ _) nofun (checkClosed_of_back (by simp))
  | double inner =>
    have hinner := (@Inner.writes substitute inner).finishAfter_open
      (Scan.feed_open_in_back nofun hquotes) (Scan.write_quotes _ _) nofun
      (checkClosed_of_back (by simp))
    simpa only [Stop.text, Stop.run, bind_assoc, pure_bind] using hinner
  | substitution inner body deeper ih =>
    have hinner := (@Inner.writes substitute inner).finishAfter_append
      (Scan.feed_open_in_back nofun hquotes) (Scan.write_quotes _ _) nofun
      fun content => body.finishAfter_append (by simp) (by simp) fun next => ih
    simpa only [Stop.text, Stop.run, bind_assoc, List.append_assoc] using hinner

theorem Ending.finishAfter_text (ending : Ending) (h : scan.Outside) :
    scan.finishAfter substitute ending.text =
      ending.check substitute >>= fun _ => Eval.ofSyntax scan.finish := by
  cases ending with
  | complete => rfl
  | single text =>
    exact (Writes.verbatim text).finishAfter_open (feed_open_outside h nofun) rfl nofun rfl
  | double inner =>
    have hinner := (@Inner.writes substitute inner).finishAfter_open (feed_open_outside h nofun)
      rfl nofun rfl
    simpa only [Ending.text, Ending.check, bind_assoc, Eval.fail_bind] using hinner
  | substitution body stop =>
    have hbody := @Body.finishAfter_append substitute scan body _ _ (by simp [h.quotes])
      (by simp [h.quotes]) fun next => stop.finishAfter_text
    simpa only [Ending.text, Ending.check, bind_assoc, Eval.fail_bind] using hbody
  | quotedSubstitution inner body stop =>
    have hinner := (@Inner.writes substitute inner).finishAfter_append
      (feed_open_outside h nofun) rfl nofun
      fun content => body.finishAfter_append (by simp) (by simp) fun next => stop.finishAfter_text
    simpa only [Ending.text, Ending.check, bind_assoc, Eval.fail_bind, List.append_assoc]
      using hinner

end Outside

/-! ### Whole tokens -/

theorem Form.resolve_eq (form : Form) {token : String} (h : form.text = token.toList)
    (substitute : Substituter) : resolve substitute token = form.evaluate substitute := by
  have hstart : Scan.start.Outside := ⟨rfl, rfl⟩
  have hending (fields : List Pattern) := @Ending.finishAfter_text substitute _ form.ending
    (hstart.absorb fields)
  have hsegments : Scan.start.finishAfter substitute token.toList = do
      let fields ← fieldsOf substitute form.parts
      form.ending.check substitute
      return fields.filter (·.isSignificant) := by
    rw [← h, Form.text, Scan.finishAfter_append, feedText_parts form.parts hstart]
    simp only [bind_assoc, pure_bind, hending, Scan.start_absorb_finish]
    rfl
  have hresolve : resolve substitute token = do
      let segments ← Scan.start.finishAfter substitute token.toList
      let shell ← Eval.get
      return segments.flatMap (·.expand shell.world.environment shell.world.files) := by
    rw [Scan.finishAfter, bind_assoc]
    rfl
  rw [hresolve, hsegments, Form.evaluate]
  simp only [bind_assoc, pure_bind]

/-- Resolving a token is evaluating its form, which every token has. -/
theorem resolve_eq_evaluate (token : String) :
    (∃ form : Form, form.text = token.toList) ∧
      ∀ form : Form, form.text = token.toList → ∀ (substitute : Substituter) (shell : Shell),
        resolve substitute token shell = form.evaluate substitute shell :=
  ⟨exists_form token.toList, fun form h substitute shell =>
    congrFun (form.resolve_eq h substitute) shell⟩

/-- The substitution between the inner double quotes comes first, and its output is a part of the
line that is handed over next. -/
theorem resolve_eq_evaluate_nested :
    resolve (fun line => pure (Utf8.encode line.toList)) "a`x \"y`z`\"`b"
        ⟨⟨.withDirectory "/", .empty⟩, []⟩ =
      some (.ok ["ax", "\"yz\"b"] ⟨⟨.withDirectory "/", .empty⟩,
        [.substituted "x \"yz\"", .substituted "z"]⟩) := by
  have hform := (resolve_eq_evaluate "a`x \"y`z`\"`b").2
    ⟨[.plain ⟨'a', rfl⟩,
      .substitution (.plain ⟨'x', rfl⟩ (.plain ⟨' ', rfl⟩
        (.double (.literal ⟨'y', by decide⟩ (.substitution (.plain ⟨'z', rfl⟩ .nil) .nil)) .nil))),
      .plain ⟨'b', rfl⟩], .complete⟩ rfl
  rw [hform]
  cbv

end Argument

end LineShell
