import DpuNetwork.Program.Tools
import DpuNetwork.Program.Shell.Arithmetic
import DpuNetwork.Program.Shell.Token
import DpuNetwork.Assoc
import DpuNetwork.Text.Utf8

/-!
# The state of a shell

What a script works on: variables, arguments, what is left of the input, and what was written. How a
command is left behind is its `Flow`, and the fields that a word gives are put together in `Fields`.
Exit codes are bytes, so a larger number loses what does not fit.
-/

namespace DpuNetwork.Program.Shell

open Text

/-- Where a stream leads. -/
inductive Sink where
  /-- To the output. -/
  | output
  /-- To the error output. -/
  | errors
  /-- Nowhere. -/
  | nowhere
  deriving DecidableEq

/-- Where the two streams that are written lead. -/
structure Streams where
  /-- The standard output. -/
  output : Sink := .output
  /-- The error output. -/
  errors : Sink := .errors

/-- Where a numbered stream leads. -/
def Streams.sink (streams : Streams) : Nat → Option Sink
  | 1 => some streams.output
  | 2 => some streams.errors
  | _ => none

/-- The streams with a numbered one led elsewhere. -/
def Streams.lead (streams : Streams) (stream : Nat) (sink : Sink) : Streams :=
  match stream with
  | 1 => { streams with output := sink }
  | 2 => { streams with errors := sink }
  | _ => streams

/-- Where a script goes on, if not with its next command. -/
inductive Flow where
  /-- Out of a number of loops. -/
  | leave (loops : Nat)
  /-- With the next turn of a loop, out of the given number of others. -/
  | again (loops : Nat)
  /-- Nowhere: the shell ends. -/
  | exit
  /-- Nowhere: a signal has ended the shell. -/
  | killed (signal : Nat)
  deriving DecidableEq

/-- The state of a shell. -/
structure State where
  /-- The name under which the shell reports. -/
  name : List Char := ['s', 'h']
  /-- The arguments. -/
  args : List (List Char) := []
  /-- The variables with their values. -/
  bindings : Assoc (List Char) (List Char) := {}
  /-- The variables that programs find in their environment. -/
  exported : List (List Char) := []
  /-- What is done on a signal; nothing is done where the action is empty. Zero stands for the end
  of the shell. -/
  traps : Assoc Nat (List Char) := {}
  /-- The exit code of the last command. -/
  status : UInt8 := 0
  /-- The number of loops that commands stand in. -/
  loops : Nat := 0
  /-- Whether a command that fails ends the shell. -/
  strict : Bool := false
  /-- What is left of the input. -/
  input : List UInt8 := []
  /-- What was written, the last byte first. -/
  output : List UInt8 := []
  /-- What was reported, the last byte first. -/
  errors : List UInt8 := []

namespace State

/-- The state after bytes were written to a stream. -/
def write (sink : Sink) (bs : List UInt8) (st : State) : State :=
  match sink with
  | .output => { st with output := bs.foldl (fun l b ↦ b :: l) st.output }
  | .errors => { st with errors := bs.foldl (fun l b ↦ b :: l) st.errors }
  | .nowhere => st

/-- The state after a program has done something. -/
def after (streams : Streams) (e : Effect) (st : State) : State :=
  { (st.write streams.output e.output).write streams.errors e.errors with status := e.code }

/-- The state with a report of the shell and an exit code. -/
def report (streams : Streams) (code : UInt8) (text : String) (st : State) : State :=
  st.after streams (faulty code (String.ofList st.name ++ ": 1: " ++ text))

/-- The number under which the shell runs, as its scripts see it. -/
def processNumber : List Char := ['1', '0', '0', '0']

/-- The value of a parameter that is set. -/
def parameter? (st : State) (name : List Char) : Option (List Char) :=
  match name with
  | ['$'] => some processNumber
  | ['?'] => some (numeral st.status.toNat)
  | ['#'] => some (numeral st.args.length)
  | ['@'] | ['*'] => some (join ' ' st.args)
  | ['0'] => some st.name
  | _ => match natural? name with
    | some n => st.args[n - 1]?
    | none => st.bindings.get? name

/-- The value of a parameter, which may be asked for with a text in its place or for its length. -/
def parameter (st : State) (asked : List Char) : List Char :=
  let name := match asked.takeWhile isNameChar with
    | [] => asked.take 1
    | name => name
  let value := st.parameter? name
  let filled := value.filter (· ≠ [])
  match asked, asked.drop name.length with
  | '#' :: c :: r, _ => numeral ((st.parameter? (c :: r)).getD []).length
  | _, ':' :: '-' :: text => filled.getD text
  | _, '-' :: text => value.getD text
  | _, ':' :: '+' :: text => if filled.isSome then text else []
  | _, '+' :: text => if value.isSome then text else []
  | _, _ => value.getD []

/-- The variables that a program finds in its environment. -/
def environment (st : State) : List (List Char × List Char) :=
  st.exported.filterMap fun name ↦ (st.bindings.get? name).map fun value ↦ (name, value)

/-- The value of a name in an expression. -/
def number (st : State) (name : List Char) : Int := (integer? (st.parameter name)).getD 0

/-- An expression with the values of its parameters in place of their names. -/
def substituted (st : State) : Nat → List Char → List Char
  | 0, s => s
  | _, [] => []
  | n + 1, '$' :: r => match dollar true r with
    | .ok (.parameter name _, r') => st.parameter name ++ substituted st n r'
    | _ => '$' :: substituted st n r
  | n + 1, c :: r => c :: substituted st n r

/-- How the shell words its reports on formatting. -/
def printfWording (st : State) : Wording where
  start := String.ofList st.name ++ ": 1: printf: "
  quote := ""
  noNumber := ": expected numeric value"
  noArgument := (2, "usage: printf format [arg ...]")

/-- A line of the input and the rest. -/
def takeLine (input : List UInt8) : List UInt8 × List UInt8 × Bool :=
  let l := input.takeWhile (· != 10)
  match input.drop l.length with
  | [] => (l, [], false)
  | _ :: r => (l, r, true)

end State

/-- A field that a word gives, or what a further piece is added to. -/
structure Fields where
  /-- The fields that are complete, the last one first. -/
  complete : List (List Char) := []
  /-- The field that is not complete, if one has begun. -/
  current : Option (List Char) := none

namespace Fields

/-- The fields with text at the end of the current one. -/
def add (f : Fields) (s : List Char) : Fields := { f with current := some (f.current.getD [] ++ s) }

/-- The fields with the current one complete. -/
def close (f : Fields) : Fields :=
  match f.current with
  | some s => ⟨s :: f.complete, none⟩
  | none => f

/-- The fields with a text that falls apart at blanks. -/
def addSplit (f : Fields) (s : List Char) : Fields :=
  s.foldl (fun f c ↦ if c = ' ' ∨ c = '\t' ∨ c = '\n' then f.close else f.add [c]) f

/-- The fields with the value of an expansion, which falls apart unless it is quoted. -/
def expand (f : Fields) ( isQuoted : Bool) (s : List Char) : Fields :=
  if isQuoted then f.add s else f.addSplit s

/-- The fields with each of some texts in a field of its own; the first continues the current
one. -/
def addEach (f : Fields) : List (List Char) → Fields
  | [] => f
  | s :: ss => ss.foldl (fun f s ↦ f.close.add s) (f.add s)

/-- The fields with the value of a parameter; the arguments in quotes stay apart. -/
def addParameter (f : Fields) (st : State) ( isQuoted : Bool) (name : List Char) : Fields :=
  if isQuoted && name == ['@'] then f.addEach st.args else f.expand isQuoted (st.parameter name)

/-- The fields in order. -/
def toList (f : Fields) : List (List Char) := f.close.complete.reverse

end Fields

end DpuNetwork.Program.Shell
