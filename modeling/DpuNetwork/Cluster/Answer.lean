import DpuNetwork.Json.Reader
import DpuNetwork.Json.Record
import DpuNetwork.Node

/-!
# Answers of the cluster

What an answer about a node says, by its status and its body. A status that reports an error comes
with a record of the reason, and one reason says that there is no such node. Any other status comes
with the node itself.

A member of a node may be given more than once; each has to have the right type, and the last one
counts.
-/

namespace DpuNetwork.Cluster

/-- An answer. -/
structure Answer where
  /-- The status. -/
  status : Nat
  /-- The bytes of the body. -/
  body : ByteArray

/-- What an answer says. -/
inductive Finding where
  /-- There is a node. -/
  | node (n : Node)
  /-- There is no such node. -/
  | missing
  /-- The request was not granted, or the answer is no answer. -/
  | refused
  deriving DecidableEq

/-- Whether a status reports an error. -/
def isErrorStatus (status : Nat) : Bool := 400 ≤ status && status < 600

/-- The reason that says that there is no such node. -/
def notFoundReason : String := "NotFound"

/-- The reason in the record that comes with an error. -/
def reason? (j : Json) : Option String :=
  match Json.fields? ["status", "message", "reason", "code"] j with
  | some [status, message, reason, code] => do
    let _ ← status.required? Json.text?
    let _ ← message.withDefault? "" Json.text?
    let _ ← code.required? (Json.natural? 65535)
    reason.withDefault? "" Json.text?
  | _ => none

/-- Whether each member of a name has a value that `read` takes. -/
def each {α : Type} (name : String) (read : Json → Option α) (ms : List (String × Json)) : Bool :=
  ms.all fun (k, v) ↦ k != name || (read v).isSome

/-- The value of a named member that may be missing, if each member of the name can be read. -/
def last? {α : Type} (name : String) (read : Json → Option α) (ms : List (String × Json)) :
    Option (Option α) :=
  if each name read ms then some ((Json.lastMember? name ms).bind read) else none

/-- The value of a named member that may be missing or `null`. -/
def lastOrNull? {α : Type} (name : String) (read : Json → Option α) (ms : List (String × Json)) :
    Option (Option α) :=
  (last? name (Json.orNull? read) ms).map fun v ↦ v.bind id

/-- A word that has to be this one. -/
def word? (s : String) (j : Json) : Option Unit := if j.text? = some s then some () else none

/-- A map of texts. -/
def textMap? (j : Json) : Option (Assoc String String) :=
  match Json.members? j with
  | none => none
  | some ms => (ms.mapM fun m ↦ (Json.text? m.2).map fun t ↦ (m.1, t)).map Assoc.ofList

/-- An object, whatever it holds. -/
def object? (j : Json) : Option (List (String × Json)) := Json.members? j

/-- The part of a node that names and labels it. -/
def metadata? (j : Json) : Option Node := do
  let ms ← Json.members? j
  for k in ["generateName", "namespace", "resourceVersion", "selfLink", "uid"] do
    let _ ← lastOrNull? k Json.text? ms
  let _ ← lastOrNull? "annotations" textMap? ms
  let _ ← lastOrNull? "finalizers" (Json.list? Json.text?) ms
  let name ← lastOrNull? "name" Json.text? ms
  let labels ← lastOrNull? "labels" textMap? ms
  return { name, labels }

/-- The node that an answer describes. -/
def node? (j : Json) : Option Node := do
  let ms ← Json.members? j
  let _ ← last? "apiVersion" (word? "v1") ms
  let _ ← last? "kind" (word? "Node") ms
  let _ ← lastOrNull? "spec" object? ms
  let _ ← lastOrNull? "status" object? ms
  return (← last? "metadata" metadata? ms).getD {}

/-- What an answer says about a node. -/
def Answer.finding (a : Answer) : Finding :=
  let j := (String.fromUTF8? a.body).bind Json.ofString?
  if isErrorStatus a.status then
    if j.bind reason? = some notFoundReason then .missing else .refused
  else match j.bind node? with
    | some n => .node n
    | none => .refused

end DpuNetwork.Cluster
