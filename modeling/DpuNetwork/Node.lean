import DpuNetwork.Assoc

/-!
# Nodes of the cluster

What the provisioner sees of a node: its name and its labels. A node without a label map is told
apart from one whose map is empty.
-/

namespace DpuNetwork

/-- Labels: names with values. -/
abbrev Labels := Assoc String String

/-- A node of the cluster. -/
structure Node where
  /-- The name, if the node carries one. -/
  name : Option String := none
  /-- The labels, if the node has a label map. -/
  labels : Option Labels := none
  deriving DecidableEq

namespace Node

/-- The value of a label. -/
def label? (n : Node) (name : String) : Option String := n.labels.bind fun m ↦ m.get? name

/-- The node with labels put into its label map. -/
def withLabels (n : Node) (new : Labels) : Node :=
  { n with labels := some ((n.labels.getD {}).union new) }

/-- The label that names the host node a device belongs to. -/
def hostNameLabel : String := "provisioning.dpu.nvidia.com/dpunode-name"

/-- The label that names the overlay zone of a node. -/
def zoneLabel : String := "k8s.ovn.org/zone-name"

/-- The name of the host node, if it is given and not empty. -/
def hostName? (n : Node) : Option String := (n.label? hostNameLabel).filter fun s ↦ !s.isEmpty

variable {n : Node}

@[simp] theorem withLabels_name (new : Labels) : (n.withLabels new).name = n.name := rfl

/-- What is seen of the labels after one of them was put. -/
theorem label?_withLabels (name value other : String) :
    (n.withLabels (.ofList [(name, value)])).label? other =
      if name = other then some value else n.label? other := by
  obtain ⟨_, _ | labels⟩ := n
  · exact Assoc.get?_insert {} name other value
  · exact Assoc.get?_insert labels name other value

theorem hostName?_eq_some_iff {hostName : String} :
    n.hostName? = some hostName ↔ n.label? hostNameLabel = some hostName ∧ hostName ≠ "" := by
  simp [hostName?, Option.filter_eq_some_iff]

end Node

end DpuNetwork
