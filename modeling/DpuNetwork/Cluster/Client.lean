import DpuNetwork.Cluster.Answer
import DpuNetwork.Cluster.Request
import DpuNetwork.Host

/-!
# Asking the cluster

The two operations on nodes that a pass needs, over any transport. A stop of the agent ends an
operation at once: one that has not begun makes no request, and one that waits for its answer gives
it up. The requests that were made are part of the result.
-/

namespace DpuNetwork.Cluster

/-- What becomes of a request. -/
inductive Delivery where
  /-- It is answered. -/
  | answered (a : Answer)
  /-- It cannot be sent, or its answer is lost. -/
  | failed
  /-- The agent is stopped before there is an answer. -/
  | stopped

/-- The outcome of an operation together with the requests that were made. -/
structure Asked (α : Type) where
  /-- The outcome. -/
  outcome : Except ClusterFault α
  /-- The requests. -/
  requests : List Request

/-- Makes a request, if there is one and the agent is not being stopped, and reads what its answer
says. -/
def ask {α : Type} (deliver : Request → Delivery) (stopped : Bool) (request : Option Request)
    (read : Finding → Except ClusterFault α) : Asked α :=
  if stopped then ⟨.error .cancelled, []⟩
  else match request with
    | none => ⟨.error .refused, []⟩
    | some r =>
      let outcome := match deliver r with
        | .answered a => read a.finding
        | .failed => .error .refused
        | .stopped => .error .cancelled
      ⟨outcome, [r]⟩

/-- Reads a node. That there is none is an outcome and no fault. -/
def getNode (deliver : Request → Delivery) (stopped : Bool) (name : String) : Asked (Option Node) :=
  ask deliver stopped (readNode? name) fun
    | .node n => .ok (some n)
    | .missing => .ok none
    | .refused => .error .refused

/-- Puts labels on a node. -/
def applyLabels (deliver : Request → Delivery) (stopped : Bool) (name : String) (labels : Labels) :
    Asked Unit :=
  ask deliver stopped (applyLabels? name labels) fun
    | .node _ => .ok ()
    | _ => .error .refused

end DpuNetwork.Cluster
