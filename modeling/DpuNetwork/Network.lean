import DpuNetwork.FunctionConfig
import DpuNetwork.Listing
import DpuNetwork.Pass.Basic

/-!
# Operations on the network of the host

Interface addresses, routes, policy rules and the overlay switch's settings, each read or changed by
one command. A change is never made here without being asked for; whether it is needed is a question
of its own (`hasAddress`, `hasRoute`, `hasRule`).

Destinations and sources are networks: `route` and `rule` commands are given the network of their
argument, so the host bits of a configured network never reach them.
-/

namespace DpuNetwork

open Ipv4

namespace Network

/-- A command of the network tool. -/
def ip (args : List String) : Command := ⟨"ip", args⟩

/-- The words that name a routing table other than the main one. -/
def tableArgs : Option Nat → List String
  | some table => ["table", toString table]
  | none => []

/-- The words that give a route a metric. -/
def metricArgs : Option Nat → List String
  | some metric => ["metric", toString metric]
  | none => []

/-- Lists the addresses of an interface. -/
def showAddresses (link : String) : Command := ip ["-4", "-j", "addr", "show", "dev", link]

/-- Gives an interface an address. -/
def addAddress (link : String) (a : Cidr) : Command := ip ["addr", "add", a.text, "dev", link]

/-- Puts an interface into operation. -/
def setUp (link : String) : Command := ip ["link", "set", "dev", link, "up"]

/-- Lists the routes to exactly one network. -/
def showRoutes (destination : Cidr) (table : Option Nat) : Command :=
  ip (["-4", "-j", "route", "show"] ++ tableArgs table ++ ["exact", destination.network.text])

/-- Adds a route. -/
def addRoute (destination : Cidr) (gateway : Address) (device : String)
    (metric table : Option Nat) : Command :=
  ip (["route", "add", destination.network.text, "via", gateway.text, "dev", device] ++
    metricArgs metric ++ tableArgs table)

/-- Lists the policy rules. -/
def showRules : Command := ip ["-4", "-j", "rule", "show"]

/-- Adds a policy rule. -/
def addRule (source : Cidr) (table priority : Nat) : Command :=
  ip ["rule", "add", "from", source.network.text, "table", toString table, "priority",
    toString priority]

/-- Looks up the route to a network; the route to every address is the default route, which has a
listing of its own. -/
def lookUp (destination : Cidr) : Command :=
  if destination.prefixLength = 0 then ip ["-4", "-j", "route", "show", "default"]
  else ip ["-4", "-j", "route", "get", destination.networkAddress.text]

/-- Sets an external identifier of the overlay switch. -/
def setExternalId (key value : String) : Command :=
  ⟨"ovs-vsctl", ["set", "Open_vSwitch", ".", "external_ids:" ++ key ++ "=" ++ value]⟩

end Network

namespace Pass

variable {σ : Type} (H : Host σ)

open Network

/-- Runs a command for its effect. -/
def perform (c : Command) : Pass σ Unit := do
  let _ ← run H c

/-- The IPv4 addresses of an interface. -/
def addressesOf (link : String) : Pass σ (List Cidr) := do
  let links ← lift (Listing.links (← run H (showAddresses link)))
  lift (Listing.addresses links)

/-- Whether an interface has an address, with exactly this prefix length. -/
def hasAddress (link : String) (a : Cidr) : Pass σ Bool :=
  return (← addressesOf H link).contains a

/-- Whether a route through a gateway out of an interface is there. -/
def hasRoute (destination : Cidr) (gateway : Address) (device : String) (table : Option Nat) :
    Pass σ Bool := do
  let routes ← lift (Listing.routes (← run H (showRoutes destination table)))
  return Listing.hasRoute gateway device routes

/-- Whether a policy rule is there. -/
def hasRule (source : Cidr) (table priority : Nat) : Pass σ Bool := do
  let rules ← lift (Listing.rules (← run H showRules))
  return Listing.hasRule source table priority rules

/-- The gateway that leads to a network. -/
def gatewayTo (destination : Cidr) : Pass σ Address := do
  let routes ← lift (Listing.routes (← run H (lookUp destination)))
  lift (Listing.firstGateway destination routes)

/-- The Ethernet address of a physical function of the host. -/
def functionMac (devices : String) (index : Nat) : Pass σ Mac := do
  lift (FunctionConfig.mac (← readDevice H (Path.child devices (FunctionConfig.path index))))

/-- Tells the overlay switch the address of its tunnel endpoint. -/
def setEndpoint (a : Address) : Pass σ Unit := perform H (setExternalId "ovn-encap-ip" a.text)

/-- Tells the overlay switch the cluster node of the host it serves. -/
def setHostNode (name : String) : Pass σ Unit := perform H (setExternalId "host-k8s-nodename" name)

/-- Tells the overlay switch its host name. -/
def setHostName (name : String) : Pass σ Unit := perform H (setExternalId "hostname" name)

end Pass

end DpuNetwork
