import LineShell.Unicode.Script
import LineShell.Unicode.Table.Break

/-!
# Boundaries in text

Where a text may be divided is decided by classes of characters. There are three divisions: into
characters as a reader sees them, into words, and into sentences.
-/

namespace LineShell.Unicode

open CharSet

def carriageReturn : CharSet := .single '\r'

def lineFeed : CharSet := .single '\n'

/-- The joiner of zero width. -/
def joiner : CharSet := .single '\u200D'

/-! ## Characters as a reader sees them -/

namespace Grapheme

def control : CharSet :=
  difference
    (unionAll [ofCategories "zl", ofCategories "zp", ofCategories "cc", ofCategories "cf",
      difference defaultIgnorable assigned])
    (unionAll [carriageReturn, lineFeed, joiner, prependedConcatenationMark, graphemeExtend])

def extension : CharSet := .union graphemeExtend emojiModifier

def spacingMark : CharSet :=
  .union
    (difference (ofCategories "mc") (.union graphemeExtend (ofTable detachedSpacingMarks)))
    (ofTable ["E33 EB3"])

def prepended : CharSet := ofTable prependedSigns

def leadingJamo : CharSet := ofTable ["1100-115F A960-A97C"]

def vowelJamo : CharSet := ofTable ["1160-11A7 D7B0-D7C6 16D63 16D67-16D6A"]

def trailingJamo : CharSet := ofTable ["11A8-11FF D7CB-D7FB"]

/-- Hangul syllables that end in a vowel. -/
def openSyllable : CharSet :=
  .ranges ((List.range 399).map fun n => (0xAC00 + 28 * n, 0xAC00 + 28 * n))

def closedSyllable : CharSet := difference (ofTable ["AC00-D7A3"]) openSyllable

end Grapheme

/-- The classes for the division into characters, with their names. -/
def graphemeBreaks : List (List String × CharSet) :=
  [(["cr"], carriageReturn),
    (["lf"], lineFeed),
    (["control", "cn"], Grapheme.control),
    (["extend", "ex"], Grapheme.extension),
    (["zwj"], joiner),
    (["regionalindicator", "ri"], regionalIndicator),
    (["prepend", "pp"], Grapheme.prepended),
    (["spacingmark", "sm"], Grapheme.spacingMark),
    (["l"], Grapheme.leadingJamo),
    (["v"], Grapheme.vowelJamo),
    (["t"], Grapheme.trailingJamo),
    (["lv"], Grapheme.openSyllable),
    (["lvt"], Grapheme.closedSyllable)]

/-! ## Words -/

namespace Word

def extension : CharSet := unionAll [graphemeExtend, ofCategories "mc", emojiModifier]

def hebrew : CharSet := ofTable hebrewWords

def katakana : CharSet := ofTable katakanaWords

def numeric : CharSet := .union (ofCategories "nd") (ofTable otherWordNumerics)

def alphabetical : CharSet :=
  .union
    (difference alphabetic
      (unionAll [extension, ideographic, hebrew, katakana, (script? "hiragana").getD empty,
        ofTable unspacedLetters]))
    (ofTable otherWordLetters)

def format : CharSet :=
  difference (ofCategories "cf")
    (unionAll [ofTable ["200B-200D"], graphemeExtend, prependedConcatenationMark])

end Word

/-- The classes for the division into words, with their names. -/
def wordBreaks : List (List String × CharSet) :=
  [(["cr"], carriageReturn),
    (["lf"], lineFeed),
    (["newline", "nl"], ofTable ["B-C 85 2028-2029"]),
    (["extend"], Word.extension),
    (["zwj"], joiner),
    (["regionalindicator", "ri"], regionalIndicator),
    (["format", "fo"], Word.format),
    (["katakana", "ka"], Word.katakana),
    (["hebrewletter", "hl"], Word.hebrew),
    (["aletter", "le"], Word.alphabetical),
    (["singlequote", "sq"], .single '\x27'),
    (["doublequote", "dq"], .single '\x22'),
    (["midnumlet", "mb"], ofTable midNumLets),
    (["midletter", "ml"], ofTable midLetters),
    (["midnum", "mn"], ofTable midNums),
    (["numeric", "nu"], Word.numeric),
    (["extendnumlet", "ex"], ofTable wordConnectors),
    (["wsegspace"], ofTable wordBlanks)]

/-! ## Sentences -/

namespace Sentence

def extension : CharSet := unionAll [graphemeExtend, ofCategories "mc", joiner]

def numeric : CharSet := .union Word.numeric (ofTable ["66C"])

def separator : CharSet := ofTable ["85 2028-2029"]

def lower : CharSet := difference lowercase (.union graphemeExtend georgianSmall)

def upper : CharSet := difference (.union uppercase titlecase) (ofTable ["1C90-1CBA 1CBD-1CBF"])

def uncased : CharSet :=
  .union (difference alphabetic (unionAll [lower, upper, extension])) (ofTable ["5F3"])

def format : CharSet :=
  difference (ofCategories "cf") (unionAll [joiner, graphemeExtend, numeric])

def fullStop : CharSet := ofTable fullStops

def closer : CharSet :=
  unionAll [ofCategories "ps", ofCategories "pe", ofCategories "pi", ofCategories "pf",
    ofTable otherClosers]

end Sentence

/-- The classes for the division into sentences, with their names. -/
def sentenceBreaks : List (List String × CharSet) :=
  [(["cr"], carriageReturn),
    (["lf"], lineFeed),
    (["extend", "ex"], Sentence.extension),
    (["sep", "se"], Sentence.separator),
    (["format", "fo"], Sentence.format),
    (["sp"], difference blank (unionAll [carriageReturn, lineFeed, Sentence.separator])),
    (["lower", "lo"], Sentence.lower),
    (["upper", "up"], Sentence.upper),
    (["oletter", "le"], Sentence.uncased),
    (["numeric", "nu"], Sentence.numeric),
    (["aterm", "at"], Sentence.fullStop),
    (["scontinue", "sc"], ofTable sentenceContinuers),
    (["sterm", "st"], difference sentenceTerminal Sentence.fullStop),
    (["close", "cl"], Sentence.closer)]

end LineShell.Unicode
