import DpuNetwork.Json.Basic
import DpuNetwork.Node

/-!
# Requests to the cluster

The two requests that are made about a node: reading it, and putting labels on it as one of several
owners of its fields. The name of the node goes into the path as it is, so it decides whether there
is a request at all: a name that makes no path is refused, and what stands behind a `#` is not sent.
-/

namespace DpuNetwork.Cluster

/-- What a request asks for. -/
inductive Method where
  /-- To read. -/
  | get
  /-- To change. -/
  | patch
  deriving DecidableEq

/-- The word for a method. -/
def Method.text : Method → String
  | get => "GET"
  | patch => "PATCH"

/-- A request. -/
structure Request where
  /-- What is asked for. -/
  method : Method
  /-- The path with the query. -/
  uri : String
  /-- The media type of the body. -/
  contentType : Option String := none
  /-- The media type of the answer. -/
  accept : Option String := none
  /-- The body. -/
  body : Option Json := none

/-- Where the nodes stand. -/
def nodesPath : String := "/api/v1/nodes/"

/-- The owner in whose name labels are applied. -/
def fieldManager : String := "dpu-cni-provisioner"

/-- The query of a request that applies labels, also to fields of other owners. -/
def applyQuery : String := "?&force=true&fieldManager=" ++ fieldManager

/-- The longest path with a query, in bytes. -/
def uriLimit : Nat := 65534

/-- Whether a character may stand in a path or a query. -/
def isPlain (c : Char) : Bool :=
  0x20 < c.toNat && c.toNat != 0x7F && c != '<' && c != '>'

/-- Whether a character may stand in a path. -/
def isPathChar (c : Char) : Bool := isPlain c && c.toNat != 0x60

/-- Whether a character may stand in a query. -/
def isQueryChar (c : Char) : Bool := isPlain c && c != '"'

/-- The path with the query that a text stands for: up to the first `#`, if all characters of it may
stand where they do. -/
def uri? (s : String) : Option String :=
  if uriLimit < s.utf8ByteSize then none
  else
    let sent := s.toList.takeWhile (· != '#')
    let path := sent.takeWhile (· != '?')
    let query := (sent.drop path.length).drop 1
    if path.all isPathChar && query.all isQueryChar then some (String.ofList sent) else none

/-- The path of a node with a query behind it. -/
def nodeUri? (name query : String) : Option String :=
  if name.isEmpty then none else uri? (nodesPath ++ name ++ query)

/-- The request that reads a node. -/
def readNode? (name : String) : Option Request :=
  (nodeUri? name "").map fun uri ↦ { method := .get, uri }

/-- The body that applies labels to a node. -/
def labelsBody (name : String) (labels : Labels) : Json :=
  .record [
    ("apiVersion", .ofText "v1"),
    ("kind", .ofText "Node"),
    ("metadata", .record [
      ("name", .ofText name),
      ("labels", .record (labels.entries.map fun (k, v) ↦ (k, .ofText v)))])]

/-- The request that puts labels on a node. -/
def applyLabels? (name : String) (labels : Labels) : Option Request :=
  (nodeUri? name applyQuery).map fun uri ↦ {
    method := .patch
    uri
    contentType := some "application/apply-patch+yaml"
    accept := some "application/json"
    body := some (labelsBody name labels) }

end DpuNetwork.Cluster
