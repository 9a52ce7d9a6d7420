import DpuNetwork.FileTree.Replace
import DpuNetwork.Host
import DpuNetwork.Throttle

/-!
# Passes

A pass is a computation that asks a host, writes files and may fail. Its `Session` holds all that it
can see and change: the state of the host, the file tree, what the agent remembers from pass to
pass, and the trace of the exchanges so far. A failure ends the computation but keeps the session:
whatever was done before stays done.

Every request goes through one of the operations of this module, so the trace is complete.
-/

namespace DpuNetwork

/-- What the agent remembers from pass to pass. -/
structure Memory where
  /-- The limit on applying the bridge definition. -/
  throttle : Throttle
  /-- Whether the DHCP server was started. -/
  dhcpStarted : Bool := false
  deriving DecidableEq

/-- All that a pass can see and change. -/
structure Session (σ : Type) where
  /-- The state of the host. -/
  host : σ
  /-- The files. -/
  files : FileTree := {}
  /-- What the agent remembers. -/
  memory : Memory
  /-- The exchanges so far, in order. -/
  trace : List Exchange := []

/-- A computation on a session that may fail. -/
abbrev Pass (σ : Type) := ExceptT Failure (StateM (Session σ))

namespace Pass

variable {σ α : Type}

/-- Runs a pass from a session. -/
def exec (p : Pass σ α) (s : Session σ) : Except Failure α × Session σ :=
  StateT.run (ExceptT.run p) s

/-- Goes on with the answer of the host, or fails with the given cause. -/
def request (ask : σ → α × σ) (record : α → Exchange) : Pass σ α := do
  let s ← get
  let (answer, host) := ask s.host
  set { s with host := host, trace := s.trace ++ [record answer] }
  return answer

/-- Goes on with a value, or fails with a cause. -/
def ofExcept {ε : Type} (toFailure : ε → Failure) : Except ε α → Pass σ α
  | .ok a => pure a
  | .error e => throw (toFailure e)

/-- Goes on with a value, or fails with its cause. -/
def lift (r : Except Failure α) : Pass σ α := ofExcept id r

variable (H : Host σ)

/-- Runs a program to its end and gives its standard output. -/
def run (c : Command) : Pass σ String := do
  ofExcept (RunFault.toFailure c) (← request (H.run c) (.run c))

/-- Starts a program in the background. -/
def start (c : Command) : Pass σ Unit := do
  if ← request (H.start c) (.start c) then return else throw (.spawn c.text)

/-- The state of the program in the background. -/
def childState : Pass σ ChildState := do
  ofExcept ChildFault.toFailure (← request H.childState .childState)

/-- Reads a node of the cluster. -/
def getNode (name : String) : Pass σ (Option Node) := do
  ofExcept ClusterFault.toFailure (← request (H.getNode name) (.getNode name))

/-- Puts labels on a node of the cluster. -/
def applyLabels (name : String) (labels : Labels) : Pass σ Unit := do
  ofExcept ClusterFault.toFailure (← request (H.applyLabels name labels) (.applyLabels name labels))

/-- Reads a device file as text. -/
def readDevice (path : String) : Pass σ String := do
  match ← request (H.readDevice path) (.readDevice path) with
  | some text => return text
  | none => throw (.file .read path)

/-- Gives a file new contents in one step and tells whether it has changed. -/
def replaceFile (path text : String) : Pass σ Bool := do
  let s ← get
  let (outcome, files) := s.files.replace path text
  set { s with files := files }
  ofExcept (fun (step, path) ↦ .file step path) outcome

/-- What the agent remembers. -/
def remembered : Pass σ Memory := return (← get).memory

/-- Changes what the agent remembers. -/
def remember (f : Memory → Memory) : Pass σ Unit :=
  modify fun s ↦ { s with memory := f s.memory }

end Pass

end DpuNetwork
