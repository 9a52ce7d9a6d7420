import DpuNetwork.Proofs.Kernel.Host
import DpuNetwork.Proofs.Retry.Steps

/-!
# Retrying comes to the same end

However often passes are struck by failures, and wherever: one pass without failures afterwards
leaves the host and the files as a single pass without failures would have left them, and ends in
the same way (`retry_confluent`). The reason is that a whole pass can be resumed
(`Pass.resumesTo_converge`), so an attempt never changes what an undisturbed pass would come to
(`Pass.Resumes.afterAttempts`).
-/

namespace DpuNetwork

open Ipv4

namespace Pass

variable {σ : Type} {H : Host σ} {plan : Plan} {W : World H plan} {roots : Roots}

/-! ### The whole pass -/

/-- The parts of a pass resume as their steps do (`ResumesTo.bind`). -/
theorem resumesTo_ensurePolicyRouting :
    ResumesTo W roots (fun _ ↦ True) fun _ ↦ ensurePolicyRouting H.withFaults plan := by
  simp only [ensurePolicyRouting, ensureRule_eq, ensureRoute_eq]
  exact (resumesTo_singleAddress (.inl rfl)).bind fun _ _ ↦
    (resumesTo_singleAddress (.inr (.inl rfl))).bind fun _ _ ↦
    (resumesTo_ensure (plan.mayAdd_podRule _)).bind fun _ _ ↦
    (resumesTo_ensure (plan.mayAdd_outOfBandRule _)).bind fun _ _ ↦
    (resumesTo_gatewayTo (.inr (.inr (.inl rfl)))).bind fun _ _ ↦
    resumesTo_ensure (plan.mayAdd_route _ _ _ _ _)

/-- The address that addressing the bridge gives is the one that the switch is to be told. -/
def IsEndpoint (W : World H plan) (endpoint : Address) : Prop :=
  ∃ a g, W.endpoint? = some (a, g) ∧ endpoint = a.address

theorem resumesTo_serveHost {m : InternalMode} (hm : plan.mode = .internal m) :
    ResumesTo W roots (IsEndpoint W) fun _ ↦ serveHost H.withFaults roots plan m := by
  have hendpoint : W.endpoint? = some (m.endpoint, m.gateway) := by simp [World.endpoint?, hm]
  have hoptions : W.options? = some (GatewayOptions.text ⟨m.gateway, m.endpoint.network⟩) := by
    rw [World.options?, hendpoint]
    rfl
  exact (resumesTo_ensure (plan.mayAdd_route _ _ _ _ _)).bind fun _ _ ↦
    (resumesTo_functionMac _ _).bind fun mac _ ↦
    (resumesTo_ensureDhcpServer m mac).bind fun _ _ ↦
    (resumesTo_writeGatewayOptions hoptions).bind fun _ _ ↦
    resumesTo_pure ⟨_, _, hendpoint, rfl⟩

/-- In internal mode the endpoint is that of the plan. -/
theorem resumesTo_ensureInternal {m : InternalMode} (hm : plan.mode = .internal m) :
    ResumesTo W roots (IsEndpoint W) fun _ ↦ ensureInternal H.withFaults roots plan m := by
  simp only [ensureInternal_eq]
  refine (resumesTo_ensure (Plan.mayAdd_address hm)).bind fun _ _ ↦
    resumesTo_setUp.bind fun _ _ ↦ ?_
  split
  · exact (resumesTo_ensure (plan.mayAdd_route _ _ _ _ _)).bind fun _ _ ↦ resumesTo_serveHost hm
  · exact resumesTo_serveHost hm

/-- In external mode it is that of the bridge, which the world determines. -/
theorem resumesTo_adoptBridge {m : ExternalMode} (hm : plan.mode = .external m) :
    ResumesTo W roots (IsEndpoint W) fun _ ↦ adoptBridge H.withFaults roots plan m := by
  refine (resumesTo_bridgeAddress (.inr (.inr (.inr ⟨m, hm, .inl rfl⟩)))).bind fun a ha ↦
    (resumesTo_gatewayTo (.inr (.inr (.inr ⟨m, hm, .inr rfl⟩)))).bind fun g hg ↦
    (resumesTo_ensure (plan.mayAdd_route _ _ _ _ _)).bind fun _ _ ↦ ?_
  have hendpoint : W.endpoint? = some (a, g) := by simp [World.endpoint?, hm, ha, hg]
  have hoptions : W.options? = some (GatewayOptions.text ⟨g, a.network⟩) := by
    rw [World.options?, hendpoint]
    rfl
  exact (resumesTo_writeGatewayOptions hoptions).bind fun _ _ ↦
    resumesTo_pure ⟨a, g, hendpoint, rfl⟩

theorem resumesTo_ensureBridge :
    ResumesTo W roots (IsEndpoint W) fun now ↦ ensureBridge H.withFaults roots plan now := by
  rcases hmode : plan.mode with m | m
  · simp only [ensureBridge, hmode]
    exact resumesTo_ensureInternal hmode
  · simp only [ensureBridge, hmode, ensureExternal_eq]
    exact resumesTo_writeBridgeDefinition.bind fun _ _ ↦ resumesTo_applyThrottled.bind fun _ _ ↦
      resumesTo_adoptBridge hmode

/-- **A pass can be resumed**, whatever its mode and at whatever times it is made. -/
theorem resumesTo_converge (W : World H plan) (roots : Roots) :
    ResumesTo W roots (fun _ ↦ True) fun now ↦ converge H.withFaults roots plan now := by
  refine resumesTo_ensureZone.bind fun hostName hname ↦ resumesTo_ensureBridge.bind fun endpoint h ↦
    resumesTo_ensurePolicyRouting.bind fun _ _ ↦ ?_
  obtain ⟨a, g, hendpoint, rfl⟩ := h
  exact resumesTo_identify (by rw [hendpoint]; rfl) hname

/-! ### Attempts -/

/-- Attempts do not change what an undisturbed pass would come to. -/
theorem Resumes.afterAttempts {Q : Unit → Prop} {c : View → Except Failure Unit × View}
    (hc : Resumes W roots Q (fun now ↦ converge H.withFaults roots plan now) c)
    (attempts : List (Nat × List (Option Fault))) (s : Session (σ × List (Option Fault)))
    (hs : (W.view s).Sound roots) :
    (W.view (afterAttempts H roots plan attempts s)).Sound roots ∧
      c (W.view (afterAttempts H roots plan attempts s)) = c (W.view s) := by
  -- What `c` says is the same behind every attempt, wherever the attempt was struck.
  induction attempts generalizing s with
  | nil => exact ⟨hs, rfl⟩
  | cons attempt rest ih =>
    obtain ⟨now, faults⟩ := attempt
    have hfacing : (W.view (s.facing faults)).Sound roots := hs
    obtain ⟨hsound, hrest⟩ := ih _ ((hc.grows now (s.facing faults) hfacing).sound hfacing)
    exact ⟨hsound, hrest.trans (hc.resumes now (s.facing faults) hfacing)⟩

end Pass

/-- **Retrying comes to the same end.** In a world whose files can be written, an agent makes any
number of passes at any times, with failures striking any of their requests, and then one that is
not struck. What the host holds in the end, the files, and the result of the last pass are those of
a single pass that is not struck, made from the same beginning. -/
theorem retry_confluent {σ : Type} {H : Host σ} {plan : Plan} (W : World H plan) (roots : Roots)
    (host : σ) (files : FileTree) (hfiles : files.Writable roots.ownedPaths)
    (attempts : List (Nat × List (Option Fault))) (now now' : Nat) :
    let start := plan.session (host, []) files
    let last := (Pass.converge H.withFaults roots plan now).exec
      ((afterAttempts H roots plan attempts start).facing [])
    let single := (Pass.converge H.withFaults roots plan now').exec start
    last.1 = single.1 ∧ W.holds last.2.host.1 = W.holds single.2.host.1 ∧
      last.2.files = single.2.files := by
  intro start last single
  obtain ⟨c, hc⟩ := Pass.resumesTo_converge W roots
  have hstart : (W.view start).Sound roots := ⟨hfiles, fun h ↦ nomatch h⟩
  obtain ⟨hsound, hsame⟩ := hc.afterAttempts attempts start hstart
  -- Both passes show what `c` says of the beginning.
  have hlast : W.shows last = c (W.view start) :=
    (hc.clean now ((afterAttempts H roots plan attempts start).facing []) rfl hsound).1.trans hsame
  have hsingle : W.shows single = c (W.view start) := (hc.clean now' start rfl hstart).1
  obtain ⟨hresult, hview⟩ := Prod.mk.inj (hlast.trans hsingle.symm)
  exact ⟨hresult, congrArg View.holdings hview, congrArg View.files hview⟩

/-- A tree with the directories of the files that a pass writes, and without these files. -/
def rootDirectories : FileTree where
  entries := ⟨[(["etc"], .directory), (["etc", "openvswitch"], .directory),
    (["etc", "netplan"], .directory)]⟩

/-- The witness begins with the directories that are there on every host. -/
theorem writable_rootDirectories : rootDirectories.Writable (Roots.ownedPaths {}) := by
  refine FileTree.writable_of_ready fun s hs ↦ ?_
  simp only [Roots.ownedPaths, List.mem_cons, List.not_mem_nil, or_false] at hs
  rcases hs with rfl | rfl
  · exact ⟨⟨"/etc/openvswitch", by decide +kernel, by decide +kernel, by decide +kernel⟩,
      ⟨["etc", "openvswitch", "ovn_k8s.conf"], eq_ok_of_toOption (by decide +kernel),
        by decide +kernel⟩,
      ⟨["etc", "openvswitch", "ovn_k8s.conf.TMP"], eq_ok_of_toOption (by decide +kernel),
        by decide +kernel⟩⟩
  · exact ⟨⟨"/etc/netplan", by decide +kernel, by decide +kernel, by decide +kernel⟩,
      ⟨["etc", "netplan", "80-br-ovn.yaml"], eq_ok_of_toOption (by decide +kernel),
        by decide +kernel⟩,
      ⟨["etc", "netplan", "80-br-ovn.yaml.TMP"], eq_ok_of_toOption (by decide +kernel),
        by decide +kernel⟩⟩

/-- An interruption: programs cannot be started, and the agent is being stopped. -/
def interruption : Fault where
  run := .notStarted
  child := ⟨"dnsmasq", "try_wait", "interrupted"⟩
  cluster := .cancelled

/-- Two attempts: one is interrupted when it adds the bridge address, the other one when it adds the
route to the hosts. -/
def twoAttempts : List (Nat × List (Option Fault)) :=
  [(0, List.replicate 3 none ++ [some interruption]),
    (60000, List.replicate 8 none ++ [some interruption])]

/-- On a host that keeps what it is told, the pass behind two interrupted attempts comes to the end
of a single one. -/
theorem retry_confluent_twoAttempts :
    rootDirectories.Writable (Roots.ownedPaths {}) ∧
    let start := staticPlan.session (Kernel.fresh staticPlan, []) rootDirectories
    let last := (Pass.converge (Kernel.host smallNetwork).withFaults {} staticPlan 120000).exec
      ((afterAttempts (Kernel.host smallNetwork) {} staticPlan twoAttempts start).facing [])
    let single := (Pass.converge (Kernel.host smallNetwork).withFaults {} staticPlan 0).exec start
    last.1 = single.1 ∧
      (Kernel.world smallNetwork).holds last.2.host.1 =
        (Kernel.world smallNetwork).holds single.2.host.1 ∧
      last.2.files = single.2.files :=
  ⟨writable_rootDirectories, retry_confluent (Kernel.world smallNetwork) {}
    (Kernel.fresh staticPlan) rootDirectories writable_rootDirectories twoAttempts 120000 0⟩

end DpuNetwork
