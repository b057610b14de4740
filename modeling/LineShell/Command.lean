/-!
# Commands

A command is one call, a pipe of calls, or a sequence of commands. A call holds its tokens as they
were written, quotes included.
-/

namespace LineShell

structure Call where
  tokens : List String
  deriving DecidableEq

inductive Command
  | call (call : Call)
  | pipe (calls : List Call)
  | sequence (commands : List Command)

end LineShell
