/-!
# Commands

A program with its arguments, as it is handed to the operating system. `text` is the form in which
reports show it: no quoting, so it does not tell one argument with a space from two arguments.
-/

namespace DpuNetwork

/-- A program and its arguments. -/
structure Command where
  /-- The program. -/
  program : String
  /-- Its arguments. -/
  args : List String
  deriving DecidableEq, Inhabited

/-- The words of a command with single spaces between them. -/
def Command.text (c : Command) : String := " ".intercalate (c.program :: c.args)

end DpuNetwork
