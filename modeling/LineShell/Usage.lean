import LineShell.Text.Numeral
import LineShell.Text.Split

/-!
# Options and operands

A usage lists the options of a program and its operands. Arguments are scanned from the left. An
option is recognised by one of its exact names; one with a value takes the next argument, whatever
it is. Any other argument is the next operand, and the first one that goes to a list of operands
ends the options, as `--` does. Asking for help counts only if nothing is wrong before the end.
-/

namespace LineShell

open Text

/-- What a value has to be. -/
inductive ValueKind
  | text
  | count
  | status
  | level

/-- The names of the levels of diagnostics. -/
def levelNames : List String := ["off", "error", "warn", "info", "debug", "trace"]

/-- Why a text is no value of the kind. -/
def ValueKind.fault? (kind : ValueKind) (text : String) : Option String :=
  match kind with
  | .text => none
  | .count =>
    match Numeral.readCount text with
    | .ok _ => none
    | .error fault => some fault.message
  | .status =>
    match Numeral.readStatus text with
    | .ok _ => none
    | .error fault => some fault.message
  | .level =>
    if levelNames.contains (String.ofList (text.toList.map Char.toLower)) then none
    else some "attempted to convert a string that doesn't match an existing log level"

/-- An option; a switch takes no value. -/
structure OptionSpec where
  long : String
  short : Option String
  value : Option ValueKind
  meaning : String

/-- An operand. A list takes all operands that are left, and is not described in the help. -/
structure OperandSpec where
  name : String
  kind : ValueKind
  required : Bool
  isList : Bool
  meaning : String

structure Usage where
  name : String
  purpose : String
  options : List OptionSpec
  operands : List OperandSpec

/-- The arguments sorted out: the long names of the switches, the values by the long names of their
options, and the operands in order. -/
structure Arguments where
  switches : List String
  values : List (String × String)
  operands : List String

namespace Arguments

def has (arguments : Arguments) (long : String) : Bool :=
  arguments.switches.contains long

def value? (arguments : Arguments) (long : String) : Option String :=
  arguments.values.lookup long

/-- The count that an option gives, or else another. -/
def count (arguments : Arguments) (long : String) (otherwise : Nat) : Nat :=
  match (arguments.value? long).map Numeral.readCount with
  | some (.ok n) => n
  | _ => otherwise

def operand? (arguments : Arguments) : Option String :=
  arguments.operands.head?

end Arguments

namespace Usage

inductive Fault
  | unrecognized (argument : String)
  | trailing
  | valueMissing (option : String)
  | badValue (option value reason : String)
  | badOperand (name value reason : String)
  | operandMissing (names : List String)

def Fault.message : Fault → String
  | .unrecognized argument => "Unrecognized argument: " ++ argument ++ "\n"
  | .trailing => "Trailing arguments are not allowed after `help`."
  | .valueMissing option => "No value provided for option '" ++ option ++ "'.\n"
  | .badValue option value reason =>
    "Error parsing option '" ++ option ++ "' with value '" ++ value ++ "': " ++ reason ++ "\n"
  | .badOperand name value reason =>
    "Error parsing positional argument '" ++ name ++ "' with value '" ++ value ++ "': " ++ reason ++
      "\n"
  | .operandMissing names =>
    "Required positional arguments not provided:" ++
      String.join (names.map fun name => "\n    " ++ name)

structure Scan where
  help : Bool
  optionsEnded : Bool
  found : Arguments

namespace Scan

def start : Scan := ⟨false, false, ⟨[], [], []⟩⟩

def addSwitch (scan : Scan) (long : String) : Scan :=
  { scan with found.switches := scan.found.switches ++ [long] }

def addValue (scan : Scan) (long value : String) : Scan :=
  { scan with found.values := scan.found.values ++ [(long, value)] }

def addOperand (scan : Scan) (spec : OperandSpec) (value : String) : Scan :=
  { scan with
    optionsEnded := scan.optionsEnded || spec.isList
    found.operands := scan.found.operands ++ [value] }

end Scan

def option? (usage : Usage) (argument : String) : Option OptionSpec :=
  usage.options.find? fun spec => argument == spec.long || spec.short == some argument

/-- What the next operand is for, after so many others. -/
def operandAt? (operands : List OperandSpec) (given : Nat) : Option OperandSpec :=
  match operands with
  | [] => none
  | [spec] => if spec.isList || given == 0 then some spec else none
  | spec :: operands => if given = 0 then some spec else operandAt? operands (given - 1)

def scanFrom (usage : Usage) : Scan → List String → Except Fault Scan
  | scan, [] => .ok scan
  | scan, argument :: rest =>
    if !scan.optionsEnded && (argument == "--help" || argument == "help") then
      scanFrom usage { scan with help := true } rest
    else if !scan.optionsEnded && argument.toList.head? == some '-' then
      if argument = "--" then scanFrom usage { scan with optionsEnded := true } rest
      else if scan.help then .error .trailing
      else
        match usage.option? argument with
        | none => .error (.unrecognized argument)
        | some spec =>
          match spec.value, rest with
          | none, rest => scanFrom usage (scan.addSwitch spec.long) rest
          | some _, [] => .error (.valueMissing argument)
          | some kind, value :: rest =>
            if (scan.found.value? spec.long).isSome then
              .error (.badValue argument value "duplicate values provided")
            else
              match kind.fault? value with
              | some reason => .error (.badValue argument value reason)
              | none => scanFrom usage (scan.addValue spec.long value) rest
    else
      match operandAt? usage.operands scan.found.operands.length with
      | none => .error (.unrecognized argument)
      | some spec =>
        match spec.kind.fault? argument with
        | some reason => .error (.badOperand spec.name argument reason)
        | none => scanFrom usage (scan.addOperand spec argument) rest

/-- The names of required operands behind the ones given. -/
def missing (usage : Usage) (given : Nat) : List String :=
  ((usage.operands.drop given).filter (·.required)).map (·.name)

/-- The arguments sorted out, or nothing if help is asked for. -/
def scan (usage : Usage) (arguments : List String) : Except Fault (Option Arguments) := do
  let scan ← usage.scanFrom .start arguments
  if scan.help then return none
  else
    let missing := usage.missing scan.found.operands.length
    if missing.isEmpty then return some scan.found else throw (.operandMissing missing)

/-! ## Help -/

/-- The column in which descriptions begin. -/
def descriptionColumn : Nat := 20

/-- The width of the help text. -/
def helpWidth : Nat := 80

def spaces (n : Nat) : List Char := List.replicate n ' '

/-- Append words to a line, and go on in new lines that begin at the column of descriptions where
the line would get too wide. -/
def fill (line : List Char) : List (List Char) → List Char
  | [] => line ++ ['\n']
  | word :: words =>
    if line.length ≤ descriptionColumn then
      let gap := spaces (descriptionColumn - line.length)
      fill (line ++ gap ++ word) words
    else if helpWidth < line.length + 1 + word.length then
      line ++ '\n' :: fill (spaces descriptionColumn ++ word) words
    else fill (line ++ ' ' :: word) words

/-- A name and what it means. A name that leaves no room has a line of its own. -/
def entry (name meaning : String) : List Char :=
  let margin := spaces 2 ++ name.toList
  if descriptionColumn ≤ margin.length then margin ++ '\n' :: fill [] (words meaning.toList)
  else fill margin (words meaning.toList)

/-- An option as the help lists it. -/
def OptionSpec.label (spec : OptionSpec) : String :=
  match spec.short with
  | some short => short ++ ", " ++ spec.long
  | none => spec.long

/-- An option as the first line of the help shows it. -/
def OptionSpec.synopsis (spec : OptionSpec) : String :=
  let name := spec.short.getD spec.long
  let value := String.ofList (spec.long.toList.drop 2)
  if spec.value.isSome then " [" ++ name ++ " <" ++ value ++ ">]" else " [" ++ name ++ "]"

def OperandSpec.synopsis (spec : OperandSpec) : String :=
  if spec.isList then " [" ++ spec.name ++ "...]"
  else if spec.required then " <" ++ spec.name ++ ">"
  else " [<" ++ spec.name ++ ">]"

def help (usage : Usage) : String :=
  let single := usage.operands.filter (!·.isList)
  let dashes := if single.isEmpty then "" else " [--]"
  let operands := String.join (single.map fun spec => String.ofList (entry spec.name spec.meaning))
  let options :=
    String.join (usage.options.map fun spec =>
      String.ofList (entry (OptionSpec.label spec) spec.meaning))
  "Usage: " ++ usage.name ++ String.join (usage.options.map OptionSpec.synopsis) ++ dashes ++
    String.join (usage.operands.map OperandSpec.synopsis) ++ "\n\n" ++ usage.purpose ++ "\n\n" ++
    (if single.isEmpty then "" else "Positional Arguments:\n" ++ operands ++ "\n") ++
    "Options:\n" ++ options ++
    String.ofList (entry "--help, help" "display usage information")

end Usage

end LineShell
