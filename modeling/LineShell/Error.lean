/-!
# Errors

Each kind of failure is a constructor that holds what its wording needs. An exit request travels
the same way, although it is no failure: it asks the shell to end with a status.
-/

namespace LineShell

/-- What can be wrong with the form of a line. -/
inductive SyntaxFault
  | invalid
  | unmatchedBackquote
  | unmatchedQuote
  | quotedLineBreak
  | emptyCommand
  | ambiguousRedirect
  deriving DecidableEq

def SyntaxFault.message : SyntaxFault → String
  | .invalid => "Invalid syntax"
  | .unmatchedBackquote => "unmatched back-quote"
  | .unmatchedQuote => "unmatched quote"
  | .quotedLineBreak => "line break inside quotes"
  | .emptyCommand => "empty command"
  | .ambiguousRedirect => "ambiguous redirect"

/-- The failures of files and streams that have a wording of their own, and all others. -/
inductive IoKind
  | notFound
  | permissionDenied
  | isADirectory
  | notADirectory
  | other
  deriving DecidableEq

/-- A failed access to a file or a stream, with the text that came with it. -/
structure IoFault where
  kind : IoKind
  text : String
  deriving DecidableEq

namespace IoFault

/-- The wording shown to the user of a file. -/
def describe (fault : IoFault) : String :=
  match fault.kind with
  | .notFound => "No such file or directory"
  | .permissionDenied => "Permission denied"
  | .isADirectory => "Is a directory"
  | .notADirectory => "Not a directory"
  | .other => fault.text

def notFound : IoFault := ⟨.notFound, "No such file or directory (os error 2)"⟩

def notADirectory : IoFault := ⟨.notADirectory, "Not a directory (os error 20)"⟩

def isADirectory : IoFault := ⟨.isADirectory, "Is a directory (os error 21)"⟩

def nameTooLong : IoFault := ⟨.other, "File name too long (os error 36)"⟩

def tooManyLinks : IoFault := ⟨.other, "Too many levels of symbolic links (os error 40)"⟩

def nulInName : IoFault := ⟨.other, "file name contained an unexpected NUL byte"⟩

def streamFull : IoFault := ⟨.other, "stream full"⟩

def notUtf8 : IoFault := ⟨.other, "stream did not contain valid UTF-8"⟩

end IoFault

/-- Everything that ends the evaluation of a command early. -/
inductive ShellError
  | malformed (fault : SyntaxFault)
  | redirect (path reason : String)
  | unknownApplication (name : String)
  | application (name message : String)
  | io (fault : IoFault)
  | exit (code : Int)
  deriving DecidableEq

namespace ShellError

def message : ShellError → String
  | .malformed fault => "shell: " ++ fault.message
  | .redirect path reason => "shell: " ++ path ++ ": " ++ reason
  | .unknownApplication name => "shell: " ++ name ++ ": invalid application"
  | .application name message => name ++ ": " ++ message
  | .io fault => "shell: " ++ fault.text
  | .exit _ => "exit"

def isExit : ShellError → Bool
  | .exit _ => true
  | _ => false

end ShellError

end LineShell
