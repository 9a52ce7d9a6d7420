import DpuNetwork.DhcpServer
import DpuNetwork.Plan

/-!
# Settings

The settings of the agent as one record, with their names and defaults, and the step from a record
to a plan. A record may lack settings or mix those of both modes; `Settings.plan` accepts exactly
the complete records of one mode and otherwise tells the first thing that is wrong.
-/

namespace DpuNetwork

open Ipv4

/-- The settings, in the order in which a record without names gives them. -/
inductive Setting where
  /-- The mode of address management. -/
  | mode
  /-- The address of the tunnel endpoint. -/
  | endpoint
  /-- The gateway of the overlay. -/
  | gateway
  /-- The address for the host's physical function. -/
  | client
  /-- The network whose route tells the gateway. -/
  | discovery
  /-- The subnet of all tunnel endpoints. -/
  | endpoints
  /-- The subnet of the hosts. -/
  | hosts
  /-- The name of the cluster node. -/
  | nodeName
  /-- The MTU of the overlay. -/
  | mtu
  /-- The least time between two applications of the bridge definition. -/
  | cooldown
  /-- The time between two passes. -/
  | interval
  /-- The root of the files that are written. -/
  | files
  /-- The root of the device files. -/
  | devices
  deriving DecidableEq

/-- The name of a setting in every source. -/
def Setting.name : Setting → String
  | mode => "ipam_mode"
  | endpoint => "vtep_ip"
  | gateway => "gateway"
  | client => "pf_ip"
  | discovery => "gateway_discovery_network"
  | endpoints => "vtep_cidr"
  | hosts => "host_cidr"
  | nodeName => "node_name"
  | mtu => "mtu"
  | cooldown => "apply_cooldown_secs"
  | interval => "run_interval_secs"
  | files => "filesystem_root"
  | devices => "sysfs_root"

/-- All settings in order. -/
def Setting.all : List Setting :=
  [mode, endpoint, gateway, client, discovery, endpoints, hosts, nodeName, mtu, cooldown, interval,
    files, devices]

/-- A record of settings. -/
structure Settings where
  /-- The mode of address management. -/
  mode : ModeKind := .internal
  /-- The address of the tunnel endpoint; only in internal mode. -/
  endpoint : Option Cidr := none
  /-- The gateway of the overlay; only in internal mode. -/
  gateway : Option Address := none
  /-- The address for the host's physical function; only in internal mode. -/
  client : Option Cidr := none
  /-- The network whose route tells the gateway; only in external mode. -/
  discovery : Option Cidr := none
  /-- The subnet of all tunnel endpoints. -/
  endpoints : Option Cidr := none
  /-- The subnet of the hosts. -/
  hosts : Option Cidr := none
  /-- The name of the cluster node. -/
  nodeName : Option String := none
  /-- The MTU of the overlay. -/
  mtu : BitVec 32 := 1500
  /-- The least time between two applications of the bridge definition, in seconds. -/
  cooldown : Nat := 120
  /-- The time between two passes, in seconds. -/
  interval : Nat := 30
  /-- Where files are found and left. -/
  roots : Roots := {}
  deriving DecidableEq

namespace Settings

/-- The smallest MTU that an IPv4 link may have. -/
def minMtu : BitVec 32 := 68

/-- A setting that has to be there. -/
def required {α : Type} (s : Setting) : Option α → Except ConfigFault α
  | some a => .ok a
  | none => .error (.required s.name)

/-- A setting that only the other mode has. -/
def refused {α : Type} (s : Setting) (only : ModeKind) : Option α → Except ConfigFault Unit
  | some _ => .error (.stray s.name only)
  | none => .ok ()

/-- The settings of the mode. Those of the other mode are refused before anything is missed. -/
def modePlan (s : Settings) : Except ConfigFault Mode :=
  match s.mode with
  | .internal => do
    refused .discovery .external s.discovery
    return .internal {
      endpoint := ← required .endpoint s.endpoint
      gateway := ← required .gateway s.gateway
      client := ← required .client s.client }
  | .external => do
    refused .endpoint .internal s.endpoint
    refused .gateway .internal s.gateway
    refused .client .internal s.client
    return .external { discovery := ← required .discovery s.discovery }

/-- The MTU, if it is one of an IPv4 link and leaves room for the encapsulation. -/
def mtuPlan (s : Settings) : Except ConfigFault (BitVec 32) :=
  if minMtu ≤ s.mtu ∧ s.mtu ≤ maxOverlayMtu then .ok s.mtu
  else .error (.mtuOutside s.mtu minMtu maxOverlayMtu)

/-- The plan that the settings amount to, or the first thing that is wrong with them. -/
def plan (s : Settings) : Except ConfigFault Plan := do
  let mode ← s.modePlan
  let nodeName ← required .nodeName (s.nodeName.filter fun n ↦ !n.isEmpty)
  let mtu ← s.mtuPlan
  let endpoints ← required .endpoints s.endpoints
  let hosts ← required .hosts s.hosts
  return { mode, endpoints, hosts, nodeName, mtu, cooldown := s.cooldown * 1000 }

end Settings

end DpuNetwork
