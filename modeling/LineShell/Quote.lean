import LineShell.Error

/-!
# Open quotes

Inside single quotes nothing is special up to the closing one. Inside double quotes only a
back-quote opens something. Inside back-quotes all three kinds nest, so a substitution with quotes
in it is one unit.
-/

namespace LineShell

inductive Quote
  | single
  | double
  | back
  deriving DecidableEq

namespace Quote

def ofChar? : Char → Option Quote
  | '\x27' => some .single
  | '\x22' => some .double
  | '\x60' => some .back
  | _ => none

def char : Quote → Char
  | .single => '\x27'
  | .double => '\x22'
  | .back => '\x60'

@[simp] theorem ofChar?_char (q : Quote) : ofChar? q.char = some q := by
  cases q <;> rfl

theorem ofChar?_eq_some_iff {c : Char} {q : Quote} : ofChar? c = some q ↔ c = q.char := by
  constructor
  · intro h
    simp only [ofChar?] at h
    split at h <;> cases h <;> rfl
  · rintro rfl
    exact ofChar?_char q

end Quote

/-- The open quotes, innermost first. -/
abbrev QuoteStack := List Quote

namespace QuoteStack

/-- The open quotes after one more character. -/
def feed (quotes : QuoteStack) (c : Char) : QuoteStack :=
  match Quote.ofChar? c, quotes with
  | none, quotes => quotes
  | some q, [] => [q]
  | some q, .single :: outer => if q = .single then outer else .single :: outer
  | some .double, .double :: outer => outer
  | some .single, .double :: outer => .double :: outer
  | some .back, .double :: outer => .back :: .double :: outer
  | some q, .back :: outer => if q = .back then outer else q :: .back :: outer

/-- The open quotes after a whole text. -/
def after (quotes : QuoteStack) (text : List Char) : QuoteStack :=
  text.foldl feed quotes

@[simp] theorem after_nil (quotes : QuoteStack) : quotes.after [] = quotes := rfl

@[simp] theorem after_cons (quotes : QuoteStack) (c : Char) (text : List Char) :
    quotes.after (c :: text) = (quotes.feed c).after text := rfl

@[simp] theorem after_append (quotes : QuoteStack) (text more : List Char) :
    quotes.after (text ++ more) = (quotes.after text).after more :=
  List.foldl_append

/-- Whether the next character stands outside every quote and is none itself. -/
def exposes (quotes : QuoteStack) (c : Char) : Bool :=
  quotes.isEmpty && (Quote.ofChar? c).isNone

/-- An open back-quote is reported before any other open quote. -/
def checkClosed (quotes : QuoteStack) : Except SyntaxFault Unit :=
  if quotes.contains .back then .error .unmatchedBackquote
  else if quotes.isEmpty then .ok ()
  else .error .unmatchedQuote

end QuoteStack

end LineShell
