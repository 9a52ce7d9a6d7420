import DpuNetwork.Program.Ending
import DpuNetwork.Program.Shell.State

/-!
# Commands of the shell itself

The commands that the shell carries out without running anything else, as functions of their
arguments and the state, and what it knows of signals. A command tells how the script goes on and
leaves a state.
-/

namespace DpuNetwork.Program.Shell

open Text

/-- The signal that a word names. -/
def signal? (s : List Char) : Option Nat :=
  match natural? s with
  | some n => if n ≤ 64 then some n else none
  | none =>
    let name := String.ofList (s.map Char.toUpper)
    if name = "EXIT" then some 0
    else (signals.find? fun e ↦ e.1 == name).map Prod.snd

/-- The signal and the receivers that arguments of `kill` name. -/
def killArgs? : List (List Char) → Option (Nat × List (List Char))
  | ['-', 's'] :: name :: r => (signal? name).map (·, r)
  | ('-' :: name) :: r => (signal? name).map (·, r)
  | r => some (15, r)

/-- What the shell reports when a signal has ended a program. -/
def signalReport (k : Nat) : List UInt8 :=
  match k with
  | 1 => line "Hangup"
  | 3 => line "Quit"
  | 4 => line "Illegal instruction"
  | 6 => line "Aborted"
  | 8 => line "Floating point exception"
  | 9 => line "Killed"
  | 10 => line "User defined signal 1"
  | 11 => line "Segmentation fault"
  | 12 => line "User defined signal 2"
  | 14 => line "Alarm clock"
  | 15 => line "Terminated"
  | _ => []

namespace State

/-- The state with what is done on signals. -/
def trap (st : State) : List (List Char) → State
  | [] => st
  | action :: names =>
    let add (m : Assoc Nat (List Char)) (s : List Char) := match signal? s with
      | some k => if action = ['-'] then m.erase k else m.insert k action
      | none => m
    { st with traps := names.foldl add st.traps }

/-- The state after a line of the input was read into a variable. -/
def read (st : State) (args : List (List Char)) : State :=
  let (l, rest, ended) := takeLine st.input
  let name := (args.filter fun a ↦ a != ['-', 'r']).headD ['R', 'E', 'P', 'L', 'Y']
  { st with
    input := rest
    bindings := st.bindings.insert name (trim (Utf8.decode l).toList)
    status := if ended then 0 else 1 }

/-- The state with an option of the shell, or with other arguments. -/
def setOption (st : State) : List (List Char) → State
  | [['-', 'e']] => { st with strict := true }
  | [['+', 'e']] => { st with strict := false }
  | ['-', '-'] :: r => { st with args := r }
  | _ => st

/-- The state with a variable that programs find, and its value if it is given. -/
def exporting (st : State) (arg : List Char) : State :=
  match cutOnce '=' arg with
  | some (name, value) =>
    { st with bindings := st.bindings.insert name value, exported := name :: st.exported }
  | none => { st with exported := arg :: st.exported }

/-- The state after a test in brackets. -/
def bracket (streams : Streams) (st : State) (args : List (List Char)) : State :=
  if args.getLast? = some [']'] then
    match test? args.dropLast with
    | some b => { st with status := if b then 0 else 1 }
    | none => st.report streams 2 "[: unexpected operator"
  else st.report streams 2 "[: missing ]"

/-- The state in which the shell ends. -/
def leaving (streams : Streams) (name : String) (st : State) : List (List Char) → State
  | [] => st
  | a :: _ => match natural? a with
    | some k => { st with status := k.toUInt8 }
    | none => st.report streams 2 (name ++ ": Illegal number: " ++ String.ofList a)

end State

/-- The number of loops that an argument asks for. -/
def loopCount (args : List (List Char)) : Nat := (natural? (args.headD ['1'])).getD 1

/-- Leaves as many of the loops around a command as its argument asks for; outside of loops there is
nothing to leave. -/
def State.leaveLoops (st : State) (flow : Nat → Flow) (args : List (List Char)) :
    Except Flow Unit :=
  if st.loops = 0 then .ok () else .error (flow (min (loopCount args) st.loops))

/-- Carries out a command of the shell that runs nothing else; `none` says that it is no such
command. -/
def builtin? (streams : Streams) (name : String) (args : List (List Char)) (st : State) :
    Option (Except Flow Unit × State) :=
  match name with
  | "exit" | "return" => some (.error .exit, st.leaving streams name args)
  | "break" => some (st.leaveLoops .leave args, { st with status := 0 })
  | "continue" => some (st.leaveLoops .again args, { st with status := 0 })
  | "trap" => some (.ok (), { st.trap args with status := 0 })
  | "read" => some (.ok (), st.read args)
  | "set" => some (.ok (), { st.setOption args with status := 0 })
  | "shift" => some (.ok (), { st with args := st.args.drop (loopCount args), status := 0 })
  | "unset" => some (.ok (), { st with
      bindings := args.foldl (fun m a ↦ m.erase a) st.bindings, status := 0 })
  | "export" => some (.ok (), { args.foldl State.exporting st with status := 0 })
  | ":" | "cd" | "wait" => some (.ok (), { st with status := 0 })
  | "echo" => some (.ok (), st.after streams (shellEcho args))
  | "printf" => some (.ok (), st.after streams (printf st.printfWording args))
  | "[" => some (.ok (), st.bracket streams args)
  | _ => none

/-- The commands of the shell that run something else. -/
inductive Runner where
  /-- Runs its arguments as a script. -/
  | eval
  /-- Runs a program in place of the shell. -/
  | exec
  /-- Sends a signal, for which the shell may run a script. -/
  | kill

/-- The command of a name. -/
def Runner.ofName? : String → Option Runner
  | "eval" => some .eval
  | "exec" => some .exec
  | "kill" => some .kill
  | _ => none

/-- The name of a program without the directory of the system's programs. -/
def programName (name : String) : String :=
  match (cut '/' name.toList).map String.ofList with
  | ["", "bin", p] => p
  | ["", "usr", "bin", p] => p
  | _ => name

/-- Whether a program is a shell. -/
def isShell (name : String) : Bool := name == "sh" || name == "dash"

end DpuNetwork.Program.Shell
