/-!
# Decimal numerals with a bound

A numeral is read from the left, and the first thing wrong with it is the reason given: a character
that is no ASCII digit, or a digit that takes the value beyond the bound.
-/

namespace LineShell.Numeral

inductive Fault
  | empty
  | invalidDigit
  | tooLarge
  | tooSmall
  deriving DecidableEq

def Fault.message : Fault → String
  | .empty => "cannot parse integer from empty string"
  | .invalidDigit => "invalid digit found in string"
  | .tooLarge => "number too large to fit in target type"
  | .tooSmall => "number too small to fit in target type"

/-- The value of the digits appended to `value`, as long as it stays below the bound. -/
def readDigits (bound : Nat) (overflow : Fault) : Nat → List Char → Except Fault Nat
  | value, [] => .ok value
  | value, c :: rest =>
    if c.isDigit then
      let next := value * 10 + (c.toNat - '0'.toNat)
      if next < bound then readDigits bound overflow next rest else .error overflow
    else .error .invalidDigit

/-- At least one digit is needed after a sign. -/
def readSigned (bound : Nat) (overflow : Fault) : List Char → Except Fault Nat
  | [] => .error .invalidDigit
  | digits => readDigits bound overflow 0 digits

/-- The bound of counts, two to the power 64. -/
def countBound : Nat := 18446744073709551616

/-- The bound of positive statuses, two to the power 31. -/
def statusBound : Nat := 2147483648

/-- A count of 64 bits, with an optional plus sign. -/
def readCount (text : String) : Except Fault Nat :=
  match text.toList with
  | [] => .error .empty
  | '+' :: digits => readSigned countBound .tooLarge digits
  | digits => readDigits countBound .tooLarge 0 digits

/-- A signed number of 32 bits, with an optional sign. -/
def readStatus (text : String) : Except Fault Int :=
  match text.toList with
  | [] => .error .empty
  | '+' :: digits => (readSigned statusBound .tooLarge digits).map Int.ofNat
  | '-' :: digits => (readSigned (statusBound + 1) .tooSmall digits).map fun n => -Int.ofNat n
  | digits => (readDigits statusBound .tooLarge 0 digits).map Int.ofNat

end LineShell.Numeral
