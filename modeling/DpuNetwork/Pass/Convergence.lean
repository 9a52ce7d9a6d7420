import DpuNetwork.Pass.Addressing

/-!
# The convergence pass

One pass brings the networking of the device in line with its plan: the node's zone label, the
overlay bridge, the policy routing, and the identity of the overlay switch, in this order. It stops
at the first failure and takes nothing back; since every step looks before it changes anything, the
next pass goes on from there.
-/

namespace DpuNetwork

open Ipv4

namespace Pass

variable {σ : Type} (H : Host σ) (roots : Roots) (plan : Plan)

/-- Puts the node into the overlay zone of its host node and gives the host node's name. -/
def ensureZone : Pass σ String := do
  match ← getNode H plan.nodeName with
  | none => throw (.nodeNotFound plan.nodeName)
  | some node => match node.hostName? with
    | none => throw (.missingLabel plan.nodeName Node.hostNameLabel)
    | some hostName =>
      applyLabels H plan.nodeName (.ofList [(Node.zoneLabel, hostName)])
      return hostName

/-- Addresses the overlay bridge in the mode of the plan; gives the address of the tunnel
endpoint. -/
def ensureBridge (now : Nat) : Pass σ Address :=
  match plan.mode with
  | .internal m => ensureInternal H roots plan m
  | .external m => ensureExternal H roots plan m now

/-- Tells the overlay switch who it is. -/
def identify (endpoint : Address) (hostName : String) : Pass σ Unit := do
  setEndpoint H endpoint
  setHostNode H hostName
  setHostName H hostName

/-- One pass, at a moment of the agent's clock. -/
def converge (now : Nat) : Pass σ Unit := do
  let hostName ← ensureZone H plan
  let endpoint ← ensureBridge H roots plan now
  ensurePolicyRouting H plan
  identify H endpoint hostName

end Pass

/-- What an agent remembers before its first pass. -/
def Plan.memory (plan : Plan) : Memory := { throttle := { cooldown := plan.cooldown } }

/-- The session of an agent before its first pass. -/
def Plan.session {σ : Type} (plan : Plan) (host : σ) (files : FileTree) : Session σ :=
  { host, files, memory := plan.memory }

end DpuNetwork
