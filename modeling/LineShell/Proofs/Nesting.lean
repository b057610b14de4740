import LineShell.Argument

/-!
# How quotes nest in a token

A token is a row of parts: plain characters, texts in single quotes, texts in double quotes and
substitutions. Substitutions may stand between double quotes, and quoted texts in the line of a
substitution, to any depth. Where a quote is never closed, the parts end before it, and what it
opens is the ending. Every text has this form.

What a token stands for is told from its form alone, from the inside out: the lines of the
substitutions, the fields of the parts, and how the fields of neighbours join.
-/

namespace LineShell

open Text

namespace Argument

/-- A character that is no quote. -/
abbrev Plain := {c : Char // Quote.ofChar? c = none}

/-- A character that is nothing special between double quotes. -/
abbrev Literal := {c : Char // c ≠ Quote.double.char ∧ c ≠ Quote.back.char}

/-- A text that single quotes can hold. -/
abbrev Verbatim := {text : List Char // Quote.single.char ∉ text}

mutual

/-- What stands between two back-quotes. -/
inductive Body
  | nil
  | plain (c : Plain) (rest : Body)
  | single (text : Verbatim) (rest : Body)
  | double (inner : Inner) (rest : Body)

/-- What stands between two double quotes. -/
inductive Inner
  | nil
  | literal (c : Literal) (rest : Inner)
  | substitution (body : Body) (rest : Inner)

end

inductive Part
  | plain (c : Plain)
  | single (text : Verbatim)
  | double (inner : Inner)
  | substitution (body : Body)

/-- What a text ends with inside a back-quote that is never closed. -/
inductive Stop
  | here
  | single (text : Verbatim)
  | double (inner : Inner)
  | substitution (inner : Inner) (body : Body) (deeper : Stop)

/-- What a token ends with. -/
inductive Ending
  | complete
  | single (text : Verbatim)
  | double (inner : Inner)
  | substitution (body : Body) (stop : Stop)
  | quotedSubstitution (inner : Inner) (body : Body) (stop : Stop)

structure Form where
  parts : List Part
  ending : Ending

/-! ### The text of a form -/

/-- A text between two of the same quotes. -/
def quote (q : Quote) (text : List Char) : List Char := q.char :: text ++ [q.char]

mutual

def Body.text : Body → List Char
  | .nil => []
  | .plain c rest => c :: rest.text
  | .single text rest => quote .single text ++ rest.text
  | .double inner rest => quote .double inner.text ++ rest.text

def Inner.text : Inner → List Char
  | .nil => []
  | .literal c rest => c :: rest.text
  | .substitution body rest => quote .back body.text ++ rest.text

end

def Part.text : Part → List Char
  | .plain c => [c]
  | .single text => quote .single text
  | .double inner => quote .double inner.text
  | .substitution body => quote .back body.text

def Stop.text : Stop → List Char
  | .here => []
  | .single text => Quote.single.char :: text
  | .double inner => Quote.double.char :: inner.text
  | .substitution inner body deeper =>
    Quote.double.char :: inner.text ++ Quote.back.char :: body.text ++ deeper.text

def Ending.text : Ending → List Char
  | .complete => []
  | .single text => Quote.single.char :: text
  | .double inner => Quote.double.char :: inner.text
  | .substitution body stop => Quote.back.char :: body.text ++ stop.text
  | .quotedSubstitution inner body stop =>
    Quote.double.char :: inner.text ++ Quote.back.char :: body.text ++ stop.text

def Form.text (form : Form) : List Char :=
  form.parts.flatMap Part.text ++ form.ending.text

/-! ### Every text has a form -/

/-- How a text goes on where a double quote is open. -/
inductive InnerRead : List Char → Prop
  | closed (inner : Inner) (rest : List Char) :
      InnerRead (inner.text ++ Quote.double.char :: rest)
  | ended (inner : Inner) : InnerRead inner.text
  | opened (inner : Inner) (body : Body) (stop : Stop) :
      InnerRead (inner.text ++ Quote.back.char :: body.text ++ stop.text)

/-- How a text goes on where a back-quote is open. -/
inductive BodyRead : List Char → Prop
  | closed (body : Body) (rest : List Char) : BodyRead (body.text ++ Quote.back.char :: rest)
  | ended (body : Body) (stop : Stop) : BodyRead (body.text ++ stop.text)

namespace InnerRead

theorem literal {text : List Char} (c : Literal) (h : InnerRead text) :
    InnerRead (c :: text) := by
  cases h with
  | closed inner rest => simpa [Inner.text] using closed (.literal c inner) rest
  | ended inner => simpa [Inner.text] using ended (.literal c inner)
  | opened inner body stop => simpa [Inner.text] using opened (.literal c inner) body stop

theorem substitution {text : List Char} (body : Body) (h : InnerRead text) :
    InnerRead (quote .back body.text ++ text) := by
  cases h with
  | closed inner rest => simpa [Inner.text] using closed (.substitution body inner) rest
  | ended inner => simpa [Inner.text] using ended (.substitution body inner)
  | opened inner other stop =>
    simpa [Inner.text] using opened (.substitution body inner) other stop

end InnerRead

namespace BodyRead

theorem plain {text : List Char} (c : Plain) (h : BodyRead text) : BodyRead (c :: text) := by
  cases h with
  | closed body rest => simpa [Body.text] using closed (.plain c body) rest
  | ended body stop => simpa [Body.text] using ended (.plain c body) stop

theorem single {text : List Char} (inside : Verbatim) (h : BodyRead text) :
    BodyRead (quote .single inside ++ text) := by
  cases h with
  | closed body rest => simpa [Body.text] using closed (.single inside body) rest
  | ended body stop => simpa [Body.text] using ended (.single inside body) stop

theorem double {text : List Char} (inner : Inner) (h : BodyRead text) :
    BodyRead (quote .double inner.text ++ text) := by
  cases h with
  | closed body rest => simpa [Body.text] using closed (.double inner body) rest
  | ended body stop => simpa [Body.text] using ended (.double inner body) stop

end BodyRead

def Plain.literal (c : Plain) : Literal :=
  ⟨c, fun h => absurd c.2 (by simp [h]), fun h => absurd c.2 (by simp [h])⟩

/-- The text up to the next single quote, if there is one. -/
theorem verbatim_or_closed (text : List Char) :
    Quote.single.char ∉ text ∨
      ∃ (inside : Verbatim) (rest : List Char), text = inside ++ Quote.single.char :: rest := by
  by_cases h : Quote.single.char ∈ text
  · obtain ⟨inside, rest, rfl, hinside⟩ := List.eq_append_cons_of_mem h
    exact .inr ⟨⟨inside, hinside⟩, rest, rfl⟩
  · exact .inl h

theorem innerRead_and_bodyRead (text : List Char) : InnerRead text ∧ BodyRead text := by
  -- What follows a quote is read as a text where that quote is open, and it is shorter.
  induction hlength : text.length using Nat.strongRecOn generalizing text with
  | ind n ih =>
    cases text with
    | nil => exact ⟨.ended .nil, .ended .nil .here⟩
    | cons c rest =>
      have hrest := ih _ (by simp [← hlength]) rest rfl
      have hlater {before later : List Char} {d : Char} (h : rest = before ++ d :: later) :
          InnerRead later ∧ BodyRead later :=
        ih later.length (by simp [← hlength, h]; omega) later rfl
      cases hquote : Quote.ofChar? c with
      | none => exact ⟨hrest.1.literal (Plain.literal ⟨c, hquote⟩), hrest.2.plain ⟨c, hquote⟩⟩
      | some q =>
        obtain rfl := Quote.ofChar?_eq_some_iff.mp hquote
        cases q with
        | single =>
          refine ⟨hrest.1.literal ⟨Quote.single.char, by decide⟩, ?_⟩
          rcases verbatim_or_closed rest with hopen | ⟨inside, later, rfl⟩
          · exact .ended .nil (.single ⟨rest, hopen⟩)
          · simpa [quote] using (hlater rfl).2.single inside
        | double =>
          refine ⟨.closed .nil rest, ?_⟩
          rcases hrest.1 with ⟨inner, later⟩ | ⟨inner⟩ | ⟨inner, body, stop⟩
          · simpa [quote] using (hlater rfl).2.double inner
          · exact .ended .nil (.double inner)
          · exact .ended .nil (.substitution inner body stop)
        | back =>
          refine ⟨?_, .closed .nil rest⟩
          rcases hrest.2 with ⟨body, later⟩ | ⟨body, stop⟩
          · simpa [quote] using (hlater rfl).1.substitution body
          · exact .opened .nil body stop

theorem exists_form (text : List Char) : ∃ form : Form, form.text = text := by
  have hpart {text : List Char} (part : Part) (h : ∃ form : Form, form.text = text) :
      ∃ form : Form, form.text = part.text ++ text := by
    obtain ⟨form, rfl⟩ := h
    exact ⟨⟨part :: form.parts, form.ending⟩, by simp [Form.text]⟩
  induction hlength : text.length using Nat.strongRecOn generalizing text with
  | ind n ih =>
    cases text with
    | nil => exact ⟨⟨[], .complete⟩, rfl⟩
    | cons c rest =>
      have hlater {before later : List Char} {d : Char} (h : rest = before ++ d :: later) :
          ∃ form : Form, form.text = later :=
        ih later.length (by simp [← hlength, h]; omega) later rfl
      cases hquote : Quote.ofChar? c with
      | none => exact hpart (.plain ⟨c, hquote⟩) (ih _ (by simp [← hlength]) rest rfl)
      | some q =>
        obtain rfl := Quote.ofChar?_eq_some_iff.mp hquote
        cases q with
        | single =>
          rcases verbatim_or_closed rest with hopen | ⟨inside, later, rfl⟩
          · exact ⟨⟨[], .single ⟨rest, hopen⟩⟩, rfl⟩
          · simpa [Part.text, quote] using hpart (.single inside) (hlater rfl)
        | double =>
          rcases (innerRead_and_bodyRead rest).1 with ⟨inner, later⟩ | ⟨inner⟩ | ⟨inner, body, stop⟩
          · simpa [Part.text, quote] using hpart (.double inner) (hlater rfl)
          · exact ⟨⟨[], .double inner⟩, rfl⟩
          · exact ⟨⟨[], .quotedSubstitution inner body stop⟩, rfl⟩
        | back =>
          rcases (innerRead_and_bodyRead rest).2 with ⟨body, later⟩ | ⟨body, stop⟩
          · simpa [Part.text, quote] using hpart (.substitution body) (hlater rfl)
          · exact ⟨⟨[], .substitution body stop⟩, rfl⟩

/-! ### What a form stands for -/

end Argument

namespace Pattern

def append (p q : Pattern) : Pattern := ⟨p.pieces ++ q.pieces, p.quoted || q.quoted⟩

def ofChar (c : Char) : Pattern := empty.pushChar c

def ofText (text : List Char) : Pattern := empty.pushText text

def wildcard : Pattern := empty.pushWildcard

end Pattern

namespace Argument

/-- Rows of fields next to each other: the last of the first row and the first of the second are
one field. -/
def glue : List Pattern → List Pattern → List Pattern
  | [], others => others
  | [last], [] => [last]
  | [last], first :: others => last.append first :: others
  | first :: second :: fields, others => first :: glue (second :: fields) others

section Evaluation

variable (substitute : Substituter)

mutual

/-- The line that a substitution hands over. Quotes are kept, and a substitution between double
quotes has been replaced with its output. -/
def Body.line : Body → Eval Shell (List Char)
  | .nil => pure []
  | .plain c rest => do
    let others ← rest.line
    return c :: others
  | .single text rest => do
    let others ← rest.line
    return quote .single text ++ others
  | .double inner rest => do
    let between ← inner.content
    let others ← rest.line
    return quote .double between ++ others

/-- The text that stands between double quotes in the end. -/
def Inner.content : Inner → Eval Shell (List Char)
  | .nil => pure []
  | .literal c rest => do
    let others ← rest.content
    return c :: others
  | .substitution body rest => do
    let line ← body.line
    let output ← runSubstitution substitute (String.ofList line)
    let others ← rest.content
    return output ++ others

end

/-- The fields of a part. Only an output outside quotes can have none or several. -/
def Part.fields : Part → Eval Shell (List Pattern)
  | .plain c => pure [if c.val = '*' then .wildcard else .ofChar c]
  | .single text => pure [(Pattern.ofText text).markQuoted]
  | .double inner => do
    let content ← inner.content substitute
    return [(Pattern.ofText content).markQuoted]
  | .substitution body => do
    let line ← body.line substitute
    let output ← runSubstitution substitute (String.ofList line)
    return (words output).map .ofText

def fieldsOf : List Part → Eval Shell (List Pattern)
  | [] => pure []
  | part :: parts => do
    let fields ← part.fields substitute
    let others ← fieldsOf parts
    return glue fields others

/-- The substitutions that are complete although a back-quote around them is not. -/
def Stop.run : Stop → Eval Shell Unit
  | .here => pure ()
  | .single _ => pure ()
  | .double inner => do
    let _ ← inner.content substitute
  | .substitution inner body deeper => do
    let _ ← inner.content substitute
    let _ ← body.line substitute
    deeper.run

/-- What is not closed is a fault, but only after everything before it has been evaluated. -/
def Ending.check : Ending → Eval Shell Unit
  | .complete => pure ()
  | .single _ => Eval.fail (.malformed .unmatchedQuote)
  | .double inner => do
    let _ ← inner.content substitute
    Eval.fail (.malformed .unmatchedQuote)
  | .substitution body stop => do
    let _ ← body.line substitute
    stop.run substitute
    Eval.fail (.malformed .unmatchedBackquote)
  | .quotedSubstitution inner body stop => do
    let _ ← inner.content substitute
    let _ ← body.line substitute
    stop.run substitute
    Eval.fail (.malformed .unmatchedBackquote)

/-- The arguments that a form stands for. A field with nothing in it and no quotes is none. -/
def Form.evaluate (form : Form) : Eval Shell (List String) := do
  let fields ← fieldsOf substitute form.parts
  form.ending.check substitute
  let shell ← Eval.get
  return (fields.filter (·.isSignificant)).flatMap
    (·.expand shell.world.environment shell.world.files)

end Evaluation

end Argument

end LineShell
