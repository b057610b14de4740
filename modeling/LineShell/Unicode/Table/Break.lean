/-!
# Boundaries in text

Tables for the classes of characters that decide where a text may be divided into characters as a
reader sees them, into words and into sentences.
-/

namespace LineShell.Unicode

/-- Spacing marks that do not go with the character before them. -/
def detachedSpacingMarks : List String :=
  ["102B-102C 1038 1062-1064 1067-106D 1083 1087-108C 108F 109A-109C 1A61 1A63-1A64 AA7B AA7D",
    "11720-11721"]

/-- Signs that go with the character behind them. -/
def prependedSigns : List String :=
  ["600-605 6DD 70F 890-891 8E2 D4E 110BD 110CD 111C2-111C3 113D1 1193F 11941 11A3A 11A84-11A89",
    "11D46 11F02"]

/-- Consonants that a linking sign joins to the one behind. -/
def linkedConsonants : List String :=
  ["915-939 958-95F 978-97F 995-9A8 9AA-9B0 9B2 9B6-9B9 9DC-9DD 9DF 9F0-9F1 A95-AA8 AAA-AB0",
    "AB2-AB3 AB5-AB9 AF9 B15-B28 B2A-B30 B32-B33 B35-B39 B5C-B5D B5F B71 C15-C28 C2A-C39 C58-C5A",
    "D15-D3A"]

/-- Signs that link consonants. -/
def consonantLinkers : List String :=
  ["94D 9CD ACD B4D C4D D4D"]

/-- Numbers of words that are no decimal digits. -/
def otherWordNumerics : List String :=
  ["600-605 66B 6DD 890-891 8E2 19DA 110BD 110CD"]

/-- Alphabetic characters of scripts that are written without blanks between words. -/
def unspacedLetters : List String :=
  ["E01-E30 E32-E33 E40-E46 E81-E82 E84 E86-E8A E8C-EA3 EA5 EA7-EB0 EB2-EB3 EBD EC0-EC4 EC6",
    "EDC-EDF 1000-102A 103F 1050-1055 105A-105D 1061 1065-1066 106E-1070 1075-1081 108E 1780-17B3",
    "17D7 17DC 1950-196D 1970-1974 1980-19AB 19B0-19C9 1A20-1A54 1AA7 A9E0-A9E4 A9E6-A9EF",
    "A9FA-A9FE AA60-AA76 AA7A AA7E-AAAF AAB1 AAB5-AAB6 AAB9-AABD AAC0 AAC2 AADB-AADD 11700-1171A",
    "11740-11746"]

/-- Characters of words that are not alphabetic. -/
def otherWordLetters : List String :=
  ["2C2-2C5 2D2-2D7 2DE-2DF 2E5-2EB 2ED 2EF-2FF 55A-55C 55E 58A 5F3 70F A708-A716 A720-A721",
    "A789-A78A AB5B"]

/-- Katakana as a kind of words. -/
def katakanaWords : List String :=
  ["3031-3035 309B-309C 30A0-30FA 30FC-30FF 31F0-31FF 32D0-32FE 3300-3357 FF66-FF9D 1AFF0-1AFF3",
    "1AFF5-1AFFB 1AFFD-1AFFE 1B000 1B120-1B122 1B155 1B164-1B167"]

/-- Hebrew letters as a kind of words. -/
def hebrewWords : List String :=
  ["5D0-5EA 5EF-5F2 FB1D FB1F-FB28 FB2A-FB36 FB38-FB3C FB3E FB40-FB41 FB43-FB44 FB46-FB4F"]

/-- Punctuation inside words of letters. -/
def midLetters : List String :=
  ["3A B7 387 55F 5F4 2027 FE13 FE55 FF1A"]

/-- Punctuation inside words and numbers. -/
def midNumLets : List String :=
  ["2E 2018-2019 2024 FE52 FF07 FF0E"]

/-- Punctuation inside numbers. -/
def midNums : List String :=
  ["2C 3B 37E 589 60C-60D 66C 7F8 2044 FE50 FE54 FF0C FF1B"]

/-- Characters that connect words and numbers. -/
def wordConnectors : List String :=
  ["5F 202F 203F-2040 2054 FE33-FE34 FE4D-FE4F FF3F"]

/-- Blanks between words. -/
def wordBlanks : List String :=
  ["20 1680 2000-2006 2008-200A 205F 3000"]

/-- Quotation marks and other signs, beside brackets, that close a sentence. -/
def otherClosers : List String :=
  ["22 27 275B-2760 2E00-2E01 2E06-2E08 2E0B 1F676-1F678"]

/-- Punctuation inside sentences. -/
def sentenceContinuers : List String :=
  ["2C-2D 3A-3B 37E 55D 60C-60D 7F8 1802 1808 2013-2014 3001 FE10-FE11 FE13-FE14 FE31-FE32",
    "FE50-FE51 FE54-FE55 FE58 FE63 FF0C-FF0D FF1A-FF1B FF64"]

/-- Full stops, which may stand for something else than the end of a sentence. -/
def fullStops : List String :=
  ["2E 2024 FE52 FF0E"]

end LineShell.Unicode
