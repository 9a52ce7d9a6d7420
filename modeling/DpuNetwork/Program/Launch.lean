import DpuNetwork.Program.Shell.Run

/-!
# Programs of a host

Which programs a host has and what running one comes to. A program is found by its name, or by its
path in one of the two directories of the system's programs; its input is empty.
-/

namespace DpuNetwork.Program

/-- A bound on the number of nested calls that running a program may take. -/
def callBound : Nat := 1000000

/-- The longest argument, in bytes. -/
def argumentLimit : Nat := 131071

/-- Whether a text can be an argument: it is not too long and holds no NUL. -/
def isArgument (s : String) : Bool := s.utf8ByteSize ≤ argumentLimit && !s.toList.contains '\x00'

/-- What a program comes to: `none` says that it cannot be started, and a program that never ends is
ended by force. -/
def finished? (c : Command) : Option Finished :=
  let name := Shell.programName c.program
  let args := c.args.map String.toList
  if !(c.program :: c.args).all isArgument then none
  else if Shell.isShell name then
    some ((Shell.shell callBound {} args).getD { ending := .killed sigkill })
  else (program? name [] args).map fun e ↦
    { output := e.output, errors := e.errors, ending := .exited e.code }

/-- The states of a program in the background: right after its start if it is to be killed then,
once it is not running any more, and asked again. `none` says that it cannot be started. -/
def states? (c : Command) (kill : Bool) : Option (List ChildState) :=
  match finished? c with
  | none => none
  | some f =>
    if kill then
      let killed := ChildState.exited (Ending.killed sigkill).status
      some [.running, killed, killed]
    else
      let ended := ChildState.exited f.ending.status
      some [ended, ended]

end DpuNetwork.Program
