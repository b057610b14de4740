import LineShell.Text.Blank
import LineShell.Unicode.CharSet
import LineShell.Unicode.Table.Category
import LineShell.Unicode.Table.Property

/-!
# Categories and properties

Most properties are made of general categories and of a table of further characters. Names are
looked up in lower case and without blanks, hyphens and underscores.
-/

namespace LineShell.Unicode

open Text CharSet

/-! ## General categories -/

def categories : List (String × CharSet) :=
  categoryTables.map fun entry => (entry.1, ofTable entry.2)

/-- The characters of the categories whose short name begins so. -/
def ofCategories (beginning : String) : CharSet :=
  unionAll ((categories.filter fun entry => beginning.toList.isPrefixOf entry.1.toList).map (·.2))

def letter : CharSet := ofCategories "l"

def mark : CharSet := ofCategories "m"

def assigned : CharSet := ofCategories ""

def casedLetter : CharSet := unionAll [ofCategories "lu", ofCategories "ll", ofCategories "lt"]

/-- The category of a name. Groups of categories have names too; the category of surrogates has one,
but no characters to be found. -/
def category? (name : String) : Option CharSet :=
  let short := (categoryNames.lookup name).getD name
  match short with
  | "any" => some all
  | "ascii" => some (.ranges [(0, 0x7F)])
  | "assigned" => some assigned
  | "cn" => some (.complement assigned)
  | "lc" => some casedLetter
  | "c" => some (.union (ofCategories "c") (.complement assigned))
  | "l" | "m" | "n" | "p" | "s" | "z" => some (ofCategories short)
  | _ => categories.lookup short

/-! ## Letters -/

def alphabetic : CharSet := unionAll [letter, ofCategories "nl", ofTable otherAlphabetic]

def lowercase : CharSet := .union (ofCategories "ll") (ofTable otherLowercase)

def uppercase : CharSet := .union (ofCategories "lu") (ofTable otherUppercase)

def titlecase : CharSet := ofCategories "lt"

def cased : CharSet := unionAll [lowercase, uppercase, titlecase]

/-- Characters that differ from another one in case only. -/
def paired : CharSet :=
  .ranges ((foldingSets.flatten.mergeSort (· ≤ ·)).map fun code => (code, code))

def changedByLowercasing : CharSet :=
  .union (.intersection (.union uppercase titlecase) paired) (ofTable ["130"])

def changedByUppercasing : CharSet :=
  .union (.intersection (.union lowercase titlecase) paired) (ofTable otherUppercased)

/-- Georgian letters keep their form in titles. -/
def georgianSmall : CharSet := ofTable ["10D0-10FA 10FD-10FF"]

def changedByTitlecasing : CharSet :=
  unionAll [difference (.intersection lowercase paired) georgianSmall, ofTable otherUppercased,
    ofTable ["1C4 1C7 1CA 1F1"]]

/-- Cherokee letters fold to their upper-case form. -/
def cherokeeCapital : CharSet := ofTable ["13A0-13F5"]

def changedByCasefolding : CharSet :=
  .union (difference (.intersection (.union uppercase titlecase) paired) cherokeeCapital)
    (ofTable otherCasefolded)

def changedByCasemapping : CharSet :=
  unionAll [changedByLowercasing, changedByUppercasing, changedByTitlecasing]

/-! ## Marks and signs -/

def blank : CharSet := .ranges blankRanges

def mathematical : CharSet := .union (ofCategories "sm") (ofTable otherMath)

def graphemeExtend : CharSet :=
  unionAll [ofCategories "me", ofCategories "mn", ofTable otherGraphemeExtend]

def graphemeBase : CharSet :=
  difference assigned
    (unionAll [ofCategories "c", ofCategories "zl", ofCategories "zp", graphemeExtend])

def prependedConcatenationMark : CharSet := ofTable prependedConcatenationMarkTable

def variationSelector : CharSet := ofTable variationSelectorTable

def ideographic : CharSet := ofTable ideographicTable

def emojiModifier : CharSet := ofTable emojiModifierTable

def extendedPictographic : CharSet := ofTable extendedPictographicTable

def sentenceTerminal : CharSet := ofTable sentenceTerminalTable

def regionalIndicator : CharSet := ofTable regionalIndicatorTable

def joinControl : CharSet := ofTable joinControlTable

def defaultIgnorable : CharSet :=
  difference (unionAll [ofTable otherDefaultIgnorable, ofCategories "cf", variationSelector])
    (unionAll [blank, ofTable ["FFF9-FFFB 13430-13440"], prependedConcatenationMark])

/-- Punctuation inside words, and characters that go with the letters around them. -/
def caseIgnorable : CharSet :=
  unionAll [ofCategories "mn", ofCategories "me", ofCategories "cf", ofCategories "lm",
    ofCategories "sk",
    ofTable ["27 2E 3A B7 387 55F 5F4 2018-2019 2024 2027 FE13 FE52 FE55 FF07 FF0E FF1A"]]

/-! ## Identifiers -/

def patternSyntax : CharSet := ofTable patternSyntaxTable

def patternWhiteSpace : CharSet := ofTable patternWhiteSpaceTable

def idStart : CharSet :=
  difference (unionAll [letter, ofCategories "nl", ofTable otherIdStart])
    (.union patternSyntax patternWhiteSpace)

def idContinue : CharSet :=
  .union idStart
    (difference
      (unionAll [ofCategories "mn", ofCategories "mc", ofCategories "nd", ofCategories "pc",
        ofTable otherIdContinue])
      (.union patternSyntax patternWhiteSpace))

/-- Characters of identifiers that compatible forms of them do not keep. -/
def unstable : CharSet :=
  ofTable ["37A 309B-309C FC5E-FC63 FDFA-FDFB FE70 FE72 FE74 FE76 FE78 FE7A FE7C FE7E"]

def xidStart : CharSet :=
  difference idStart (.union unstable (ofTable ["E33 EB3 FF9E-FF9F"]))

def xidContinue : CharSet := difference idContinue unstable

/-! ## Names -/

/-- The properties made of other sets, with their names. -/
def derivedProperties : List (List String × CharSet) :=
  [(["alphabetic", "alpha"], alphabetic),
    (["lowercase", "lower"], lowercase),
    (["uppercase", "upper"], uppercase),
    (["cased"], cased),
    (["caseignorable", "ci"], caseIgnorable),
    (["changeswhenlowercased", "cwl"], changedByLowercasing),
    (["changeswhenuppercased", "cwu"], changedByUppercasing),
    (["changeswhentitlecased", "cwt"], changedByTitlecasing),
    (["changeswhencasefolded", "cwcf"], changedByCasefolding),
    (["changeswhencasemapped", "cwcm"], changedByCasemapping),
    (["whitespace", "wspace", "space"], blank),
    (["math"], mathematical),
    (["graphemeextend", "grext"], graphemeExtend),
    (["graphemebase", "grbase"], graphemeBase),
    (["prependedconcatenationmark", "pcm"], prependedConcatenationMark),
    (["variationselector", "vs"], variationSelector),
    (["ideographic", "ideo"], ideographic),
    (["emojimodifier", "emod"], emojiModifier),
    (["extendedpictographic", "extpict"], extendedPictographic),
    (["sentenceterminal", "sterm"], sentenceTerminal),
    (["regionalindicator", "ri"], regionalIndicator),
    (["joincontrol", "joinc"], joinControl),
    (["defaultignorablecodepoint", "di"], defaultIgnorable),
    (["patternsyntax", "patsyn"], patternSyntax),
    (["patternwhitespace", "patws"], patternWhiteSpace),
    (["idstart", "ids"], idStart),
    (["idcontinue", "idc"], idContinue),
    (["xidstart", "xids"], xidStart),
    (["xidcontinue", "xidc"], xidContinue),
    (["otheralphabetic", "oalpha"], ofTable otherAlphabetic),
    (["otherlowercase", "olower"], ofTable otherLowercase),
    (["otheruppercase", "oupper"], ofTable otherUppercase),
    (["othermath", "omath"], ofTable otherMath),
    (["othergraphemeextend", "ogrext"], ofTable otherGraphemeExtend),
    (["otheridstart", "oids"], ofTable otherIdStart),
    (["otheridcontinue", "oidc"], ofTable otherIdContinue),
    (["otherdefaultignorablecodepoint", "odi"], ofTable otherDefaultIgnorable)]

/-- The entry that has the name among its names. -/
def named? (entries : List (List String × α)) (name : String) : Option α :=
  (entries.find? (·.1.contains name)).map (·.2)

/-- The property of a name, among those that characters have or have not. -/
def property? (name : String) : Option CharSet :=
  (named? derivedProperties name).or ((named? propertyTables name).map ofTable)

/-! ## Words, digits and blanks -/

def digit (unicode : Bool) : CharSet :=
  if unicode then ofCategories "nd" else .ranges [(0x30, 0x39)]

def space (unicode : Bool) : CharSet :=
  if unicode then blank else .ranges [(0x09, 0x0D), (0x20, 0x20)]

/-- The characters of words: letters and what counts as one, marks, digits, connecting punctuation,
and the two characters that control joining. -/
def word (unicode : Bool) : CharSet :=
  if unicode then
    unionAll [alphabetic, mark, ofCategories "nd", ofCategories "pc", joinControl]
  else .ranges [(0x30, 0x39), (0x41, 0x5A), (0x5F, 0x5F), (0x61, 0x7A)]

end LineShell.Unicode
