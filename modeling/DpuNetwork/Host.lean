import DpuNetwork.Failure
import DpuNetwork.Node

/-!
# The host that a pass works on

Everything outside the agent that a pass asks for or acts on, apart from the file tree it writes
into: programs that are run, a program that is started in the background, the nodes of the cluster,
device files. A `Host` is a state machine that answers requests; nothing is assumed about it, so a
statement about all hosts covers failures, misleading answers and changes behind the agent's back.

How the agent is asked to stop is a matter of its own (`Stops`), since no pass asks for it.

An `Exchange` is a request together with its answer. The exchanges of a run, in order, are its
trace.
-/

namespace DpuNetwork

/-- How running a program fails. -/
inductive RunFault where
  /-- It ran and did not succeed. -/
  | failed (status stderr : String)
  /-- It could not be started. -/
  | notStarted
  deriving DecidableEq

/-- The cause to report when running a command fails. -/
def RunFault.toFailure (c : Command) : RunFault → Failure
  | .failed status stderr => .command c.text status stderr
  | .notStarted => .spawn c.text

/-- What is known of a program in the background. -/
inductive ChildState where
  /-- It runs. -/
  | running
  /-- It ended. -/
  | exited (status : ExitStatus)
  deriving DecidableEq

/-- Why the state of a program in the background is not known. -/
structure ChildFault where
  /-- The command in question. -/
  command : String
  /-- What was tried. -/
  status : String
  /-- What came of it. -/
  detail : String
  deriving DecidableEq

/-- The cause to report when the state of a program in the background is not known. -/
def ChildFault.toFailure (f : ChildFault) : Failure := .command f.command f.status f.detail

/-- How a request to the cluster fails. -/
inductive ClusterFault where
  /-- The cluster refused or could not be reached. -/
  | refused
  /-- The agent is being stopped. -/
  | cancelled
  deriving DecidableEq

/-- The cause to report when a request to the cluster fails. -/
def ClusterFault.toFailure : ClusterFault → Failure
  | .refused => .cluster
  | .cancelled => .cancelled

/-- A host: how each request is answered in a state, and the state afterwards. -/
structure Host (σ : Type) where
  /-- Runs a program to its end and gives its standard output. -/
  run : Command → σ → Except RunFault String × σ
  /-- Starts a program in the background; `false` says that it could not be started. -/
  start : Command → σ → Bool × σ
  /-- Asks for the state of the program in the background. -/
  childState : σ → Except ChildFault ChildState × σ
  /-- Reads a node of the cluster. -/
  getNode : String → σ → Except ClusterFault (Option Node) × σ
  /-- Puts labels on a node of the cluster. -/
  applyLabels : String → Labels → σ → Except ClusterFault Unit × σ
  /-- Reads a device file as text. -/
  readDevice : String → σ → Option String × σ

/-- How stops are requested on a host, and how time goes by on it. -/
structure Stops (σ : Type) where
  /-- Whether a stop was requested. -/
  isRequested : σ → Bool
  /-- Requests a stop. -/
  request : σ → σ
  /-- Lets time go by until a moment. -/
  wait : Nat → σ → σ
  /-- What the clock shows when a pass begins that was due at a moment. -/
  clock : Nat → σ → Nat := fun due _ ↦ due

/-- A request together with its answer. -/
inductive Exchange where
  /-- A program was run. -/
  | run (c : Command) (answer : Except RunFault String)
  /-- A program was started in the background. -/
  | start (c : Command) (answer : Bool)
  /-- The state of the program in the background was asked for. -/
  | childState (answer : Except ChildFault ChildState)
  /-- A node was read. -/
  | getNode (name : String) (answer : Except ClusterFault (Option Node))
  /-- Labels were put on a node. -/
  | applyLabels (name : String) (labels : Labels) (answer : Except ClusterFault Unit)
  /-- A device file was read. -/
  | readDevice (path : String) (answer : Option String)

end DpuNetwork
