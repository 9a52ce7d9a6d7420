import DpuNetwork.DhcpServer
import DpuNetwork.GatewayOptions
import DpuNetwork.Pass.Routing

/-!
# Addressing the overlay bridge

The two ways in which the overlay bridge gets its address. In internal mode the address is set here
and a DHCP server for the host is kept running; in external mode a bridge definition is written and
applied, and whatever address the bridge has got is taken. Both end with the gateway options written
and give the address of the tunnel endpoint.

The DHCP server is started once and never again: when it is gone, the pass fails for good.
-/

namespace DpuNetwork

open Ipv4

/-- The physical function of the host that gets the lease. -/
def hostFunction : Nat := 0

/-- Applies the bridge definition, which takes the bridge down for a moment. -/
def applyBridgeDefinition : Command := ⟨"netplan", ["apply"]⟩

namespace Pass

variable {σ : Type} (H : Host σ) (roots : Roots) (plan : Plan)

/-- Writes the gateway options. -/
def writeGatewayOptions (o : GatewayOptions) : Pass σ Unit := do
  let _ ← replaceFile (Path.child roots.files gatewayOptionsPath) o.text

/-- What the DHCP server is told in internal mode. -/
def dhcpServer (m : InternalMode) (mac : Mac) : DhcpServer where
  interface := overlayBridge
  mtu := plan.mtu
  endpoint := m.endpoint
  endpoints := plan.endpoints
  gateway := m.gateway
  clientMac := mac
  client := m.client

/-- Makes sure that the DHCP server runs: starts it the first time, and looks after it from then
on. -/
def ensureDhcpServer (m : InternalMode) (mac : Mac) : Pass σ Unit := do
  if (← remembered).dhcpStarted then
    match ← childState H with
    | .running => return
    | .exited status => throw (.dhcpServerExited status)
  else
    let args ← lift (dhcpServer plan m mac).args
    start H ⟨dhcpProgram, args⟩
    remember fun memory ↦ { memory with dhcpStarted := true }

/-- Sets the bridge address and serves the host; gives the address of the tunnel endpoint. -/
def ensureInternal (m : InternalMode) : Pass σ Address := do
  ensureAddress H overlayBridge m.endpoint
  perform H (Network.setUp overlayBridge)
  if DhcpServer.needsRoute m.endpoint plan.endpoints then
    ensureRoute H plan.endpoints m.gateway overlayBridge none none
  ensureRoute H plan.hosts m.gateway overlayBridge (some hostRouteMetric) none
  let mac ← functionMac H roots.devices hostFunction
  ensureDhcpServer H plan m mac
  writeGatewayOptions roots ⟨m.gateway, m.endpoint.network⟩
  return m.endpoint.address

/-- Applies the bridge definition unless the throttle forbids it. The moment is recorded before the
command runs, so that a failing one is throttled too. -/
def applyThrottled (now : Nat) : Pass σ Unit := do
  if (← remembered).throttle.isReady now then
    remember fun memory ↦ { memory with throttle := memory.throttle.record now }
    perform H applyBridgeDefinition

/-- The only address of the overlay bridge. Having none yet is a matter of waiting. -/
def bridgeAddress : Pass σ Cidr := do
  match ← addressesOf H overlayBridge with
  | [] => throw (.noBridgeAddress overlayBridge)
  | [a] => return a
  | as => throw (.addressCount overlayBridge as.length)

/-- Defines the bridge and takes the address it has got; gives the address of the tunnel
endpoint. -/
def ensureExternal (m : ExternalMode) (now : Nat) : Pass σ Address := do
  let _ ← replaceFile (Path.child roots.files bridgeDefinitionPath) bridgeDefinition
  applyThrottled H now
  let endpoint ← bridgeAddress H
  let gateway ← gatewayTo H m.discovery
  ensureRoute H plan.hosts gateway overlayBridge (some hostRouteMetric) none
  writeGatewayOptions roots ⟨gateway, endpoint.network⟩
  return endpoint.address

end Pass

end DpuNetwork
