import DpuNetwork.FileTree.Replace
import DpuNetwork.Host

/-!
# A host that follows a script

A host that keeps the nodes of a cluster and a tree of device files, and otherwise answers from
lists of replies. Each question takes the next reply of its list and the last one stays, so that a
list with one reply is a constant answer and an empty list stands for the answer that is expected of
a healthy host.

A stop of the agent can be requested by a number: it comes with the read of a node of that number,
which goes on normally.
-/

namespace DpuNetwork

/-- Takes the next reply of a list; the last one stays. -/
def nextReply {α : Type} : List α → Option α × List α
  | [] => (none, [])
  | [a] => (some a, [a])
  | a :: b :: r => (some a, b :: r)

/-- A scripted answer to a command. -/
inductive Reply where
  /-- The standard output of a success. -/
  | output (text : String)
  /-- A failure. -/
  | failure (status stderr : String)
  /-- The program cannot be started. -/
  | notStarted

/-- The outcome of a program that is run. -/
def Reply.outcome : Reply → Except RunFault String
  | output text => .ok text
  | failure status stderr => .error (.failed status stderr)
  | notStarted => .error .notStarted

/-- Whether a program in the background is started. -/
def Reply.starts : Reply → Bool
  | output _ => true
  | _ => false

/-- The state of a host that follows a script. -/
structure Script where
  /-- The replies to each command line. -/
  commands : Assoc String (List Reply) := {}
  /-- The answers to questions after the program in the background. -/
  children : List (Except ChildFault ChildState) := []
  /-- The nodes with their label maps. -/
  nodes : Assoc String (Option Labels) := {}
  /-- What becomes of the next requests to the cluster; `none` is no fault. -/
  clusterFaults : List (Option ClusterFault) := []
  /-- The device files. -/
  devices : FileTree := {}
  /-- The number of reads of a node so far. -/
  reads : Nat := 0
  /-- The number of the read with which a stop is requested. -/
  stopAt : Option Nat := none
  /-- Whether a stop was requested. -/
  stopped : Bool := false

namespace Script

/-- Takes the next reply to a command line. -/
def reply (line : String) (s : Script) : Reply × Script :=
  match s.commands.get? line with
  | none => (.output "", s)
  | some replies =>
    let (r, rest) := nextReply replies
    (r.getD (.output ""), { s with commands := s.commands.insert line rest })

/-- The line under which the replies to starting a program stand. -/
def startLine (program : String) : String := "spawn " ++ program

/-- Takes the next fault of a request to the cluster. -/
def clusterFault (s : Script) : Option ClusterFault × Script :=
  match s.clusterFaults with
  | [] => (none, s)
  | f :: r => (f, { s with clusterFaults := r })

/-- Counts a read of a node, and requests a stop when it is the one. -/
def countRead (s : Script) : Script :=
  let n := s.reads + 1
  { s with reads := n, stopped := s.stopped || s.stopAt == some n }

/-- A node, if there is one of the name. -/
def node? (s : Script) (name : String) : Option Node :=
  (s.nodes.get? name).map fun labels ↦ { name := some name, labels }

/-- The nodes after labels were put on one of them; a missing node stays missing. -/
def withLabels (s : Script) (name : String) (labels : Labels) : Script :=
  match s.node? name with
  | none => s
  | some node => { s with nodes := s.nodes.insert name (node.withLabels labels).labels }

end Script

/-- The host that follows a script. -/
def scriptedHost : Host Script where
  run c s :=
    let (r, s) := s.reply c.text
    (r.outcome, s)
  start c s :=
    let (r, s) := s.reply (Script.startLine c.program)
    (r.starts, s)
  childState s :=
    let (r, rest) := nextReply s.children
    (r.getD (.ok .running), { s with children := rest })
  getNode name s :=
    match s.countRead.clusterFault with
    | (some f, s) => (.error f, s)
    | (none, s) => (.ok (s.node? name), s)
  applyLabels name labels s :=
    match s.clusterFault with
    | (some f, s) => (.error f, s)
    | (none, s) => (.ok (), s.withLabels name labels)
  readDevice path s := (s.devices.readText path, s)

/-- The script with one answer to one command. -/
def Script.answering (c : Command) (text : String) : Script where
  commands := ⟨[(c.text, [.output text])]⟩

theorem Script.run_answering (c : Command) (text : String) :
    (scriptedHost.run c (answering c text)).1 = .ok text := by
  simp [scriptedHost, answering, reply, Assoc.get?, Assoc.lookup, nextReply, Reply.outcome]

/-- How a stop is requested on a host that follows a script; time goes by without effect. -/
def scriptedStops : Stops Script where
  isRequested s := s.stopped
  request s := { s with stopped := true }
  wait _ s := s

end DpuNetwork
