import DpuNetwork.Proofs.Addition

/-!
# The parts of a pass

The steps of a pass, cut where a proof about them is cut: what reads the host name from what applies
the zone, what applies the bridge definition from what takes the address it brought, what sets the
bridge up from what serves the host.
-/

namespace DpuNetwork

open Ipv4

namespace Pass

variable {σ : Type} (H : Host σ) (roots : Roots) (plan : Plan)

/-- Reads the host name from the label of the node. -/
def hostNameOf : Pass σ String := do
  match ← getNode H plan.nodeName with
  | none => throw (.nodeNotFound plan.nodeName)
  | some node => match node.hostName? with
    | none => throw (.missingLabel plan.nodeName Node.hostNameLabel)
    | some hostName => return hostName

/-- The zone is applied with the name that `hostNameOf` reads, so that the reading can be judged
before anything is written. -/
theorem ensureZone_eq :
    ensureZone H plan = (do
      let hostName ← hostNameOf H plan
      applyLabels H plan.nodeName (.ofList [(Node.zoneLabel, hostName)])
      return hostName) := by
  refine ext fun s ↦ ?_
  rw [ensureZone, hostNameOf, bind_assoc, exec_bind, exec_bind]
  rcases (getNode H plan.nodeName).exec s with ⟨e | node, s₁⟩
  · rfl
  · cases node with
    | none => rfl
    | some node => dsimp only; cases node.hostName? <;> rfl

/-- The host name that a node gives; `none` is a node that is not there. -/
def judgeNode : Option (Option String) → Except Failure String
  | none => .error (.nodeNotFound plan.nodeName)
  | some none => .error (.missingLabel plan.nodeName Node.hostNameLabel)
  | some (some hostName) => .ok hostName

/-- One request for the node, and a judgement of the answer alone. -/
theorem exec_hostNameOf (s : Session σ) :
    (hostNameOf H plan).exec s =
      (((H.getNode plan.nodeName s.host).1.mapError ClusterFault.toFailure).bind fun node ↦
          judgeNode plan (node.map Node.hostName?),
        s.told (H.getNode plan.nodeName s.host).2
          (.getNode plan.nodeName (H.getNode plan.nodeName s.host).1)) := by
  rw [hostNameOf, exec_bind, exec_getNode]
  rcases (H.getNode plan.nodeName s.host).1 with e | node
  · rfl
  · cases node with
    | none => rfl
    | some node =>
      simp only [mapError_ok, Except.bind, Option.map_some]
      cases node.hostName? <;> rfl

/-- What internal mode does once the bridge has its address and is in operation. -/
def serveHost (m : InternalMode) : Pass σ Address := do
  ensure H (.route plan.hosts m.gateway overlayBridge (some hostRouteMetric) none)
  let mac ← functionMac H roots.devices hostFunction
  ensureDhcpServer H plan m mac
  writeGatewayOptions roots ⟨m.gateway, m.endpoint.network⟩
  return m.endpoint.address

/-- Internal mode: the bridge first, then what hosts need to reach it. -/
theorem ensureInternal_eq (m : InternalMode) :
    ensureInternal H roots plan m = (do
      ensure H (.address overlayBridge m.endpoint)
      perform H (Network.setUp overlayBridge)
      if DhcpServer.needsRoute m.endpoint plan.endpoints then
        ensure H (.route plan.endpoints m.gateway overlayBridge none none)
      serveHost H roots plan m) := by
  simp only [ensureInternal, serveHost, ensureAddress_eq, ensureRoute_eq]

/-- Writes the bridge definition. -/
def writeBridgeDefinition : Pass σ Unit := do
  let _ ← replaceFile (Path.child roots.files bridgeDefinitionPath) bridgeDefinition

/-- What external mode does once the bridge definition was applied, or kept from being applied. -/
def adoptBridge (m : ExternalMode) : Pass σ Address := do
  let endpoint ← bridgeAddress H
  let gateway ← gatewayTo H m.discovery
  ensure H (.route plan.hosts gateway overlayBridge (some hostRouteMetric) none)
  writeGatewayOptions roots ⟨gateway, endpoint.network⟩
  return endpoint.address

/-- External mode: the bridge comes from its definition, and what it brought is adopted. -/
theorem ensureExternal_eq (m : ExternalMode) (now : Nat) :
    ensureExternal H roots plan m now = (do
      writeBridgeDefinition roots
      applyThrottled H now
      adoptBridge H roots plan m) := by
  simp only [ensureExternal, writeBridgeDefinition, adoptBridge, ensureRoute_eq, bind_assoc,
    pure_bind]

/-- The text that is read from a device file; `none` is a file that cannot be read. -/
def judgeDevice (path : String) : Option String → Except Failure String
  | some text => .ok text
  | none => .error (.file .read path)

/-- Whether the program in the background runs. -/
def judgeChild (answer : Except ChildFault ChildState) : Except Failure Unit :=
  (answer.mapError ChildFault.toFailure).bind fun
    | .running => .ok ()
    | .exited status => .error (.dhcpServerExited status)

/-- A DHCP server that was started is looked after. -/
theorem exec_ensureDhcpServer_of_started {m : InternalMode} {mac : Mac} {s : Session σ}
    (h : s.memory.dhcpStarted = true) :
    (ensureDhcpServer H plan m mac).exec s =
      (judgeChild (H.childState s.host).1,
        s.told (H.childState s.host).2 (.childState (H.childState s.host).1)) := by
  rw [ensureDhcpServer, exec_bind, exec_remembered]
  dsimp only
  rw [if_pos h, exec_bind, exec_childState]
  rcases (H.childState s.host).1 with f | state
  · rfl
  · cases state <;> rfl

/-- A DHCP server that was not started is started, if it can be told what to do. -/
theorem exec_ensureDhcpServer_of_not_started {m : InternalMode} {mac : Mac} {s : Session σ}
    (h : ¬ s.memory.dhcpStarted = true) :
    (ensureDhcpServer H plan m mac).exec s =
      match (dhcpServer plan m mac).args with
      | .error f => (.error f, s)
      | .ok args =>
        let c : Command := ⟨dhcpProgram, args⟩
        let s₁ := s.told (H.start c s.host).2 (.start c (H.start c s.host).1)
        if (H.start c s.host).1 then
          (.ok (), { s₁ with memory := { s₁.memory with dhcpStarted := true } })
        else (.error (.spawn c.text), s₁) := by
  rw [ensureDhcpServer, exec_bind, exec_remembered]
  dsimp only
  rw [if_neg h, exec_bind, exec_lift]
  rcases (dhcpServer plan m mac).args with f | args
  · rfl
  · dsimp only
    rw [exec_bind, exec_start]
    cases (H.start ⟨dhcpProgram, args⟩ s.host).1 <;> rfl

end Pass

end DpuNetwork
