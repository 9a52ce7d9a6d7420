import DpuNetwork.Network
import DpuNetwork.Plan

/-!
# Making sure that addresses, routes and rules are there

Each of these looks first and changes only what is missing, so that it can be repeated forever.

The policy routing that both modes share steers two kinds of traffic into a table of its own: what
comes from the pod network and what comes from the out-of-band address. The table holds one route,
to the tunnel endpoints through the out-of-band default gateway. Both interfaces are read before
anything is changed.
-/

namespace DpuNetwork

open Ipv4

/-- The bridge of the overlay. -/
def overlayBridge : String := "br-ovn"

/-- The bridge of the pod network. -/
def podBridge : String := "cni0"

/-- The out-of-band bridge. -/
def outOfBandBridge : String := "br-comm-ch"

/-- The routing table of the policy rules. -/
def policyTable : Nat := 60

/-- The priority of the rule for the pod network. -/
def podRulePriority : Nat := 31000

/-- The priority of the rule for the out-of-band address. -/
def outOfBandRulePriority : Nat := 32000

/-- The metric of the route to the hosts over the overlay; any other route is preferred. -/
def hostRouteMetric : Nat := 10000

namespace Pass

variable {σ : Type} (H : Host σ)

/-- Makes sure that an interface has an address. -/
def ensureAddress (link : String) (a : Cidr) : Pass σ Unit := do
  unless ← hasAddress H link a do
    perform H (Network.addAddress link a)

/-- Makes sure that a route is there. -/
def ensureRoute (destination : Cidr) (gateway : Address) (device : String)
    (metric table : Option Nat) : Pass σ Unit := do
  unless ← hasRoute H destination gateway device table do
    perform H (Network.addRoute destination gateway device metric table)

/-- Makes sure that a policy rule is there. -/
def ensureRule (source : Cidr) (table priority : Nat) : Pass σ Unit := do
  unless ← hasRule H source table priority do
    perform H (Network.addRule source table priority)

/-- The only address of an interface; any other number of addresses is ambiguous. -/
def singleAddress (link : String) : Pass σ Cidr := do
  match ← addressesOf H link with
  | [a] => return a
  | as => throw (.addressCount link as.length)

/-- Makes sure that traffic to the tunnel endpoints takes the out-of-band network. -/
def ensurePolicyRouting (plan : Plan) : Pass σ Unit := do
  let pods ← singleAddress H podBridge
  let outOfBand ← singleAddress H outOfBandBridge
  ensureRule H pods.network policyTable podRulePriority
  ensureRule H outOfBand.host policyTable outOfBandRulePriority
  let gateway ← gatewayTo H Cidr.defaultRoute
  ensureRoute H plan.endpoints gateway outOfBandBridge none (some policyTable)

end Pass

end DpuNetwork
