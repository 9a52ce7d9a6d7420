import DpuNetwork.CommandLine
import DpuNetwork.Config.Load
import DpuNetwork.FileTree.Path
import DpuNetwork.LogFilter

/-!
# Starting the agent

What the agent does before its first pass: it reads its command line, loads its settings and makes a
plan of them. Every way in which this ends is a `Start`, with its exit code and its reports. With a
plan the agent goes on to its passes, for which it needs a client of the cluster.
-/

namespace DpuNetwork

/-- The version of the agent. -/
def agentVersion : String := "0.1.0"

/-- The target under which the agent logs. -/
def logTarget : String := "dpu_cni_provisioner"

/-- The environment variable that holds the log filter. -/
def logVariable : String := "RUST_LOG"

/-- The directory of a path and those above it, as many as the bound. -/
def directoriesUp : Nat → String → List String
  | 0, _ => []
  | n + 1, dir => dir :: match Path.parent? dir with
    | some up => directoriesUp n up
    | none => []

/-- The paths at which a file of settings is looked for, from the directory that the agent was
started in: a relative path also stands for files in the directories above. -/
def settingsPaths (current path : String) : List String :=
  if path.toList.head? = some '/' then [path]
  else (directoriesUp (current.length + 1) current).map fun dir ↦ Path.child dir path

/-- How starting the agent ends. -/
inductive Start where
  /-- The command line is refused. -/
  | refused (f : UsageFault)
  /-- The version is printed. -/
  | version
  /-- The settings cannot be loaded. -/
  | unloadable (f : ConfigFault)
  /-- The settings make no plan. -/
  | invalid (f : ConfigFault)
  /-- There is a plan. -/
  | planned (o : Options) (s : Settings) (p : Plan)

namespace Start

/-- The first line of the report when there is no client of the cluster. -/
def noClient : String := "failed to create Kubernetes client"

/-- Starts the agent from its arguments, the files it can read, and its environment variables. -/
def ofArgs (args : List String) (readFile : String → Option ByteArray)
    (vars : Config.Environment.Variables) : Start :=
  match Options.ofArgs args with
  | .error f => .refused f
  | .ok o =>
    if o.version then .version
    else match Settings.load (o.configPath.bind readFile) vars with
      | .error f => .unloadable f
      | .ok s => match s.plan with
        | .error f => .invalid f
        | .ok p => .planned o s p

/-- The exit code, where no client of the cluster can be created. -/
def exitCode : Start → Nat
  | refused .help => 0
  | refused _ => 2
  | version => 0
  | _ => 1

/-- What is printed. -/
def output : Start → Option String
  | refused .help => some usageLine
  | version => some agentVersion
  | _ => none

/-- The report of a failure: what was being done and why it failed, where no client of the cluster
can be created. -/
def report : Start → List String
  | unloadable f => [(Failure.config f).message]
  | invalid f => ["invalid provisioner configuration", (Failure.config f).message]
  | planned _ _ _ => [noClient]
  | _ => []

/-- Whether the agent has come so far that it reads the log filter. -/
def logs : Start → Bool
  | refused _ | version => false
  | _ => true

/-- The line that is logged when the agent starts. -/
def announcement (p : Plan) : String :=
  "INFO " ++ logTarget ++ ": Starting version=" ++ agentVersion ++ " node=" ++ p.nodeName

/-- Whether it is logged that the agent starts. -/
def announces (filter : LogFilter) : Start → Bool
  | planned _ _ _ => filter.enables logTarget .info
  | _ => false

/-- The log filter in the environment. -/
def filter (vars : Config.Environment.Variables) : LogFilter :=
  LogFilter.ofText ((vars.get? logVariable).getD "")

/-- The lines on standard error: the directives that are ignored, and the report. -/
def errorLines (filter : LogFilter) (s : Start) : List String :=
  (if s.logs then filter.ignored.map fun d ↦ "ignoring '" ++ d ++ "'" else []) ++
    match s.report with
    | [] => []
    | [what] => ["Error: " ++ what]
    | what :: causes => ["Error: " ++ what, "", "Caused by:"] ++ causes.map ("    " ++ ·)

end Start

end DpuNetwork
