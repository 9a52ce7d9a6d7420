import DpuNetwork.Assoc
import DpuNetwork.Host
import DpuNetwork.Text.Blank
import DpuNetwork.Text.Utf8

/-!
# How a program ends

A program ends by itself with a code or is ended by a signal, and leaves what it has written. From
this follows what running it means to the agent: the output of a success, or a failure with the
status and the trimmed error output; and for a program in the background its state whenever it is
asked for.
-/

namespace DpuNetwork.Program

/-- How a program ends. -/
inductive Ending where
  /-- By itself, with a code. -/
  | exited (code : UInt8)
  /-- By a signal. -/
  | killed (signal : Nat)
  deriving DecidableEq

/-- The signals with their numbers. -/
def signals : List (String × Nat) := [
  ("HUP", 1), ("INT", 2), ("QUIT", 3), ("ILL", 4), ("TRAP", 5), ("ABRT", 6), ("BUS", 7), ("FPE", 8),
  ("KILL", 9), ("USR1", 10), ("SEGV", 11), ("USR2", 12), ("PIPE", 13), ("ALRM", 14), ("TERM", 15),
  ("STKFLT", 16), ("CHLD", 17), ("CONT", 18), ("STOP", 19), ("TSTP", 20), ("TTIN", 21),
  ("TTOU", 22), ("URG", 23), ("XCPU", 24), ("XFSZ", 25), ("VTALRM", 26), ("PROF", 27),
  ("WINCH", 28), ("IO", 29), ("PWR", 30), ("SYS", 31)]

/-- The signal that ends a program at once. -/
def sigkill : Nat := 9

/-- The name of a signal. -/
def signalName? (n : Nat) : Option String := (signals.find? fun e ↦ e.2 == n).map Prod.fst

/-- Whether a signal leaves a program that does not care for it running. -/
def isHarmless (n : Nat) : Bool := n == 0 || n == 17 || n == 18 || n == 23 || n == 28

/-- Whether a signal holds a program that does not care for it. -/
def holds (n : Nat) : Bool := n == 19 || n == 20 || n == 21 || n == 22

/-- The wording of an ending. -/
def Ending.text : Ending → String
  | exited code => "exit status: " ++ toString code.toNat
  | killed n => "signal: " ++ toString n ++ match signalName? n with
    | some name => " (SIG" ++ name ++ ")"
    | none => ""

/-- A program that has ended, with what it has written. -/
structure Finished where
  /-- The standard output. -/
  output : List UInt8 := []
  /-- The error output. -/
  errors : List UInt8 := []
  /-- The ending. -/
  ending : Ending := .exited 0

/-- The output and the error output of a program as texts. -/
structure Captured where
  /-- The standard output. -/
  output : String
  /-- The error output. -/
  errors : String
  deriving DecidableEq

/-- What running a command means to the agent; `none` says that it could not be started. -/
def runOutcome (c : Command) : Option Finished → Except Failure Captured
  | none => .error (.spawn c.text)
  | some f =>
    let errors := Text.Utf8.decode f.errors
    if f.ending = .exited 0 then .ok ⟨Text.Utf8.decode f.output, errors⟩
    else .error (.command c.text f.ending.text (String.ofList (Text.trim errors.toList)))

/-- The state of a program in the background once it has ended. -/
def Ending.status : Ending → ExitStatus
  | exited code => .code code.toNat
  | killed _ => .signal

end DpuNetwork.Program
