import DpuNetwork.Text.Cut

/-!
# The command line

Three options: `--version`, `--once`, and `--config-path` with a value, which stands in the next
argument or behind an equals sign. Arguments are read from left to right and the first fault counts.
A value in an argument of its own is only taken in when the next argument has been recognised, so an
argument that is not recognised comes before a fault of the value in front of it.
-/

namespace DpuNetwork

open Text

/-- What the command line asks for. -/
structure Options where
  /-- To print the version and end. -/
  version : Bool := false
  /-- To read settings from this file. -/
  configPath : Option String := none
  /-- To make a single pass and end. -/
  once : Bool := false
  deriving DecidableEq

/-- Why a command line is refused. -/
inductive UsageFault where
  /-- An argument is no option, and no value belongs there. -/
  | unknownArgument
  /-- The value of an option is missing or empty. -/
  | invalidValue
  /-- An option is repeated. -/
  | repeated
  /-- An option that takes no value has one. -/
  | tooManyValues
  /-- Help is asked for. -/
  | help
  deriving DecidableEq

/-- The name of the program on its command line. -/
def programName : String := "dpu-cni-provisioner"

/-- The first line of the help. -/
def usageLine : String := "Usage: " ++ programName ++ " [OPTIONS]"

namespace CommandLine

/-- What is still to be taken in. -/
inductive Pending where
  /-- Nothing. -/
  | nothing
  /-- An option whose value is yet to come. -/
  | option
  /-- The value of an option. -/
  | value (v : String)

/-- What an argument looks like. -/
inductive Shape where
  /-- The end of the options. -/
  | endOfOptions
  /-- A long option, with what stands behind an equals sign. -/
  | long (name : String) (value : Option String)
  /-- Short options. -/
  | short (letters : List Char)
  /-- Anything else; a single hyphen too. -/
  | word

/-- What an argument looks like. -/
def shape (arg : String) : Shape :=
  match arg.toList with
  | ['-', '-'] => .endOfOptions
  | '-' :: '-' :: r => match cutOnce '=' r with
    | some (name, value) => .long (String.ofList name) (some (String.ofList value))
    | none => .long (String.ofList r) none
  | '-' :: c :: r => .short (c :: r)
  | _ => .word

/-- The options with a configuration path. -/
def withConfigPath (o : Options) (path : String) : Except UsageFault Options :=
  if o.configPath.isSome then .error .repeated
  else if path.isEmpty then .error .invalidValue
  else .ok { o with configPath := some path }

/-- Takes in what is pending. -/
def settle (o : Options) : Pending → Except UsageFault Options
  | .nothing => .ok o
  | .option => .error .invalidValue
  | .value v => withConfigPath o v

/-- Takes in a long option. -/
def long (o : Options) (p : Pending) (name : String) (value : Option String) :
    Except UsageFault (Options × Pending) :=
  match name, value with
  | "config-path", none => do return (← settle o p, .option)
  | "config-path", some v => do return (← withConfigPath (← settle o p) v, .nothing)
  | "version", none => do
    let o ← settle o p
    if o.version then throw .repeated else return ({ o with version := true }, .nothing)
  | "once", none => do
    let o ← settle o p
    if o.once then throw .repeated else return ({ o with once := true }, .nothing)
  | "help", none => do
    let _ ← settle o p
    throw .help
  | "version", some _ => .error .tooManyValues
  | "once", some _ => .error .tooManyValues
  | "help", some _ => .error .tooManyValues
  | _, _ => .error .unknownArgument

/-- Reads the arguments on. -/
def read (o : Options) (p : Pending) : List String → Except UsageFault Options
  | [] => settle o p
  | arg :: args =>
    match shape arg with
    | .endOfOptions => if args.isEmpty then settle o p else .error .unknownArgument
    | .long name value => match long o p name value with
      | .ok (o, p) => read o p args
      | .error f => .error f
    | .short letters =>
      if letters.head? = some 'h' then
        match settle o p with
        | .ok _ => .error .help
        | .error f => .error f
      else .error .unknownArgument
    | .word => match p with
      | .option => read o (.value arg) args
      | _ => .error .unknownArgument

end CommandLine

/-- The options that a command line gives, without the name of the program. -/
def Options.ofArgs (args : List String) : Except UsageFault Options :=
  CommandLine.read {} .nothing args

end DpuNetwork
