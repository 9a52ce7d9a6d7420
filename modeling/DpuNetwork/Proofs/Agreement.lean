import DpuNetwork.Host.Scripted
import DpuNetwork.Json.Printer
import DpuNetwork.Proofs.FileTree.ReadBack
import DpuNetwork.Proofs.Pass.History

/-!
# What a successful pass has brought about

A pass that succeeds has read its host's name from the node, has found or added every address, route
and rule it is to make sure of, and has told the node, the switch and the gateway options the same
values. What it has found or added is read off its trace.

## Main statements

* `Pass.ensure_ok`, `Pass.gatewayTo_ok`, `Pass.singleAddress_ok`, …: what each step leaves in the
  trace when it succeeds;
* `Pass.ensureBridge_ok`: what addressing the bridge leaves, in either mode;
* `agreement_of_ok`: all artifacts of a successful pass agree.
-/

namespace DpuNetwork

open Ipv4

/-! ### Reading a trace -/

/-- Whether an exchange concerns neither the cluster nor the overlay switch. -/
def Exchange.IsLocal : Exchange → Prop
  | .run c _ => c.program ≠ "ovs-vsctl"
  | .getNode _ _ | .applyLabels _ _ _ => False
  | _ => True

/-- The host has told the addresses of an interface. -/
def ListsAddresses (t : List Exchange) (link : String) (as : List Cidr) : Prop :=
  ∃ text links, .run (Network.showAddresses link) (.ok text) ∈ t ∧
    Listing.links text = .ok links ∧ Listing.addresses links = .ok as

/-- The host has told a gateway that leads to a network. -/
def TellsGateway (t : List Exchange) (destination : Cidr) (g : Address) : Prop :=
  ∃ text rs, .run (Network.lookUp destination) (.ok text) ∈ t ∧ Listing.routes text = .ok rs ∧
    Listing.firstGateway destination rs = .ok g

/-- An addition was found or made. -/
def IsPresent (t : List Exchange) (A : Addition) : Prop :=
  (∃ text, .run A.listing (.ok text) ∈ t ∧ A.ListedIn text) ∨ ∃ out, .run A.command (.ok out) ∈ t

section

variable {t u : List Exchange}

/-- What was listed stays in the trace, whatever is exchanged after it. So it is with what
follows. -/
theorem ListsAddresses.mono {link : String} {as : List Cidr} (h : ListsAddresses t link as)
    (htu : t ⊆ u) : ListsAddresses u link as := by
  obtain ⟨text, links, hmem, hlinks, has⟩ := h
  exact ⟨text, links, htu hmem, hlinks, has⟩

/-- A gateway that was told is still told by a longer trace. -/
theorem TellsGateway.mono {destination : Cidr} {g : Address} (h : TellsGateway t destination g)
    (htu : t ⊆ u) : TellsGateway u destination g := by
  obtain ⟨text, rs, hmem, hrs, hg⟩ := h
  exact ⟨text, rs, htu hmem, hrs, hg⟩

/-- What was found or added is still present in a longer trace. -/
theorem IsPresent.mono {A : Addition} (h : IsPresent t A) (htu : t ⊆ u) : IsPresent u A := by
  rcases h with ⟨text, hmem, hlisted⟩ | ⟨out, hmem⟩
  · exact .inl ⟨text, htu hmem, hlisted⟩
  · exact .inr ⟨out, htu hmem⟩

end

namespace Pass

variable {σ : Type}

/-! ### What a pass adds to the trace -/

/-- The trace goes on with exchanges of some kind. -/
def Appends (P : Exchange → Prop) (s s' : Session σ) : Prop :=
  ∃ t, s'.trace = s.trace ++ t ∧ ∀ e ∈ t, P e

variable {P : Exchange → Prop}

/-- Appending to the trace chains, so that a whole part of a pass is judged by its requests. -/
theorem Appends.chains : Chains (Appends (σ := σ) P) where
  refl s := ⟨[], (List.append_nil _).symm, by simp⟩
  trans := by
    rintro s₁ s₂ s₃ ⟨t, ht, hP⟩ ⟨u, hu, hP'⟩
    refine ⟨t ++ u, by rw [hu, ht, List.append_assoc], fun e he ↦ ?_⟩
    exact (List.mem_append.mp he).elim (hP e) (hP' e)

theorem Appends.told {s : Session σ} {host : σ} {e : Exchange} (he : P e) :
    Appends P s (s.told host e) :=
  ⟨[e], rfl, by simpa using he⟩

/-- What is appended under a stronger condition is appended under a weaker one. -/
theorem Appends.mono {Q : Exchange → Prop} {s s' : Session σ} (h : Appends P s s')
    (hPQ : ∀ e, P e → Q e) : Appends Q s s' := by
  obtain ⟨t, ht, hP⟩ := h
  exact ⟨t, ht, fun e he ↦ hPQ e (hP e he)⟩

/-- A step that exchanges nothing appends nothing. -/
theorem Appends.of_trace_eq {s s' : Session σ} (h : s'.trace = s.trace) : Appends P s s' :=
  ⟨[], by rw [h, List.append_nil], by simp⟩

/-- Nothing is taken from the trace. -/
theorem Appends.subset {s s' : Session σ} (h : Appends P s s') : s.trace ⊆ s'.trace := by
  obtain ⟨t, ht, -⟩ := h
  exact ht ▸ List.subset_append_left _ _

/-- What a part of a pass saw is still in the trace when it ends. -/
theorem Respects.subset {α : Type} {p : Pass σ α} (hp : Respects (Appends P) p)
    {s s' : Session σ} {r : Except Failure α} (h : p.exec s = (r, s')) : s.trace ⊆ s'.trace := by
  have hs := hp s
  rw [h] at hs
  exact hs.subset

variable (H : Host σ)

/-- A command is one exchange, whatever answers it. -/
theorem appends_run {c : Command} (hc : ∀ answer, P (.run c answer)) :
    Respects (Appends P) (run H c) := by
  intro s
  rw [exec_run]
  exact Appends.told (hc _)

/-- Whatever a pass does with `ip` is local. -/
theorem respectsNetwork_appends (plan : Plan) :
    RespectsNetwork (Appends Exchange.IsLocal) H plan :=
  .of_ip Appends.chains (fun _ ↦ appends_run H fun _ ↦ by show "ip" ≠ "ovs-vsctl"; decide) plan

/-- Files are no exchange. -/
theorem appends_replaceFile (path text : String) :
    Respects (σ := σ) (Appends P) (replaceFile path text) := by
  intro s
  rw [exec_replaceFile]
  exact .of_trace_eq rfl

theorem appends_writeBridgeDefinition (roots : Roots) :
    Respects (σ := σ) (Appends P) (writeBridgeDefinition roots) :=
  (appends_replaceFile _ _).bind Appends.chains fun _ ↦ .pure Appends.chains _

theorem appends_readDevice (path : String) :
    Respects (Appends Exchange.IsLocal) (readDevice H path) := by
  intro s
  rw [exec_readDevice]
  exact .told trivial

theorem appends_childState : Respects (Appends Exchange.IsLocal) (childState H) := by
  intro s
  rw [exec_childState]
  exact .told trivial

theorem appends_start (c : Command) : Respects (Appends Exchange.IsLocal) (start H c) := by
  intro s
  rw [exec_start]
  exact .told trivial

theorem appends_remember (f : Memory → Memory) :
    Respects (σ := σ) (Appends P) (remember f) := fun _ ↦ .of_trace_eq rfl

/-- An addition that the plan allows is looked for and made by local exchanges. -/
theorem appends_ensure {plan : Plan} {A : Addition} (hA : plan.MayAdd A) :
    Respects (Appends Exchange.IsLocal) (ensure H A) :=
  .ensure H (respectsNetwork_appends H plan) hA

/-! ### Steps that succeed -/

variable {H} {s s' : Session σ}

/-- A command that succeeded is the last exchange. -/
theorem run_ok {c : Command} {out : String} (h : (run H c).exec s = (.ok out, s')) :
    s' = s.told s'.host (.run c (.ok out)) := by
  rw [exec_run] at h
  rcases hrun : H.run c s.host with ⟨e | text, host⟩
  · simp [hrun] at h
  · rw [hrun] at h
    obtain ⟨hout, hs'⟩ := Prod.mk.inj h
    have htext : text = out := by simpa using hout
    rw [← hs', htext]
    rfl

/-- The output of a command that is performed is dropped, but it is in the trace. -/
theorem perform_ok {c : Command} (h : (perform H c).exec s = (.ok (), s')) :
    ∃ out, s' = s.told s'.host (.run c (.ok out)) := by
  obtain ⟨out, s₁, hrun, hpure⟩ := exec_bind_eq_ok_iff.mp h
  cases hpure
  exact ⟨out, run_ok hrun⟩

/-- A command that succeeded is in the trace with its output. -/
theorem mem_trace_of_run_ok {c : Command} {out : String} (h : (run H c).exec s = (.ok out, s')) :
    .run c (.ok out) ∈ s'.trace := by
  rw [run_ok h]
  simp

/-- A step that only judges a value succeeds exactly when the value is one, and changes nothing. -/
theorem lift_ok {α : Type} {r : Except Failure α} {a : α} (h : (lift r).exec s = (.ok a, s')) :
    r = .ok a ∧ s' = s := by
  rw [exec_lift] at h
  obtain ⟨hr, hs⟩ := Prod.mk.inj h
  exact ⟨hr, hs.symm⟩

/-- Addresses that were told are those of a listing. -/
theorem addressesOf_ok {link : String} {as : List Cidr}
    (h : (addressesOf H link).exec s = (.ok as, s')) : ListsAddresses s'.trace link as := by
  obtain ⟨text, s₁, hrun, hrest⟩ := exec_bind_eq_ok_iff.mp h
  obtain ⟨links, s₂, hread, hjudge⟩ := exec_bind_eq_ok_iff.mp hrest
  obtain ⟨hlinks, rfl⟩ := lift_ok hread
  obtain ⟨has, rfl⟩ := lift_ok hjudge
  exact ⟨text, links, mem_trace_of_run_ok hrun, hlinks, has⟩

/-- The addresses of an interface are only read if there is exactly one. -/
theorem singleAddress_ok {link : String} {a : Cidr}
    (h : (singleAddress H link).exec s = (.ok a, s')) : ListsAddresses s'.trace link [a] := by
  obtain ⟨as, s₁, has, hrest⟩ := exec_bind_eq_ok_iff.mp h
  split at hrest
  · cases hrest
    exact addressesOf_ok has
  · cases hrest

/-- The overlay bridge was listed with the one address that is used. -/
theorem bridgeAddress_ok {a : Cidr} (h : (bridgeAddress H).exec s = (.ok a, s')) :
    ListsAddresses s'.trace overlayBridge [a] := by
  obtain ⟨as, s₁, has, hrest⟩ := exec_bind_eq_ok_iff.mp h
  split at hrest
  · cases hrest
  · cases hrest
    exact addressesOf_ok has
  · cases hrest

/-- A gateway that is used was told by a listing of routes to the destination. -/
theorem gatewayTo_ok {destination : Cidr} {g : Address}
    (h : (gatewayTo H destination).exec s = (.ok g, s')) :
    TellsGateway s'.trace destination g := by
  obtain ⟨text, s₁, hrun, hrest⟩ := exec_bind_eq_ok_iff.mp h
  obtain ⟨rs, s₂, hread, hjudge⟩ := exec_bind_eq_ok_iff.mp hrest
  obtain ⟨hrs, rfl⟩ := lift_ok hread
  obtain ⟨hg, rfl⟩ := lift_ok hjudge
  exact ⟨text, rs, mem_trace_of_run_ok hrun, hrs, hg⟩

/-- An addition that was made sure of was found in its listing or has been made. -/
theorem ensure_ok {A : Addition} (h : (ensure H A).exec s = (.ok (), s')) :
    IsPresent s'.trace A := by
  obtain ⟨b, s₁, hthere, hrest⟩ := exec_bind_eq_ok_iff.mp h
  obtain ⟨text, s₂, hrun, hread⟩ := exec_bind_eq_ok_iff.mp hthere
  obtain ⟨hrecognise, rfl⟩ := lift_ok hread
  -- It was found there, or what is left of the pass is its command.
  cases b with
  | true =>
    cases hrest
    exact .inl ⟨text, mem_trace_of_run_ok hrun, Addition.recognise_eq_ok_true_iff.mp hrecognise⟩
  | false =>
    obtain ⟨out, hs'⟩ := perform_ok hrest
    refine .inr ⟨out, ?_⟩
    rw [hs']
    simp

/-- The gateway options that were written can be read back. -/
theorem writeGatewayOptions_ok {roots : Roots} {o : GatewayOptions}
    (h : (writeGatewayOptions roots o).exec s = (.ok (), s')) :
    s'.files.read (Path.child roots.files gatewayOptionsPath) = some o.text.toUTF8 := by
  obtain ⟨changed, s₁, hfile, hpure⟩ := exec_bind_eq_ok_iff.mp h
  cases hpure
  rw [exec_replaceFile] at hfile
  obtain ⟨hresult, rfl⟩ := Prod.mk.inj hfile
  rcases hreplace : s.files.replace (Path.child roots.files gatewayOptionsPath) o.text
    with ⟨e | b, files⟩
  · simp [hreplace] at hresult
  · exact FileTree.read_replace hreplace

/-- The node has the label of its host, which is not empty, and the zone of that name was put on
it. -/
theorem ensureZone_ok {plan : Plan} {hostName : String}
    (h : (ensureZone H plan).exec s = (.ok hostName, s')) :
    ∃ node : Node, node.label? Node.hostNameLabel = some hostName ∧ hostName ≠ "" ∧
      s'.trace = s.trace ++ [Exchange.getNode plan.nodeName (.ok (some node)),
        Exchange.applyLabels plan.nodeName (.ofList [(Node.zoneLabel, hostName)]) (.ok ())] := by
  obtain ⟨node?, s₁, hget, hrest⟩ := exec_bind_eq_ok_iff.mp h
  rw [exec_getNode] at hget
  obtain ⟨hnode, rfl⟩ := Prod.mk.inj hget
  have hanswer : (H.getNode plan.nodeName s.host).1 = .ok node? := by
    rcases hr : (H.getNode plan.nodeName s.host).1 with e | n
    · simp [hr] at hnode
    · simpa [hr] using hnode
  split at hrest
  · cases hrest
  rename_i node
  split at hrest
  · cases hrest
  rename_i name hname
  obtain ⟨u, s₂, happly, hpure⟩ := exec_bind_eq_ok_iff.mp hrest
  cases hpure
  rw [exec_applyLabels] at happly
  obtain ⟨hlabels, rfl⟩ := Prod.mk.inj happly
  -- A label without a text counts as no label, so the host name has one.
  rw [Node.hostName?, Option.filter_eq_some_iff] at hname
  refine ⟨node, hname.1, by simpa using hname.2, ?_⟩
  rw [hanswer] at hlabels ⊢
  rcases hr : (H.applyLabels plan.nodeName (.ofList [(Node.zoneLabel, hostName)])
    (s.told (H.getNode plan.nodeName s.host).2
      (.getNode plan.nodeName (.ok (some node)))).host).1 with e | u
  · rw [hr] at hlabels
    cases hlabels
  · simp

/-- The three settings are made one after the other, and nothing else is exchanged between them. -/
theorem identify_ok {endpoint : Address} {hostName : String}
    (h : (identify H endpoint hostName).exec s = (.ok (), s')) :
    ∃ o₁ o₂ o₃, s'.trace = s.trace ++
      [Exchange.run (Network.setExternalId "ovn-encap-ip" endpoint.text) (.ok o₁),
        Exchange.run (Network.setExternalId "host-k8s-nodename" hostName) (.ok o₂),
        Exchange.run (Network.setExternalId "hostname" hostName) (.ok o₃)] := by
  obtain ⟨_, s₁, hendpoint, hrest⟩ := exec_bind_eq_ok_iff.mp h
  obtain ⟨_, s₂, hnode, hname⟩ := exec_bind_eq_ok_iff.mp hrest
  obtain ⟨o₁, h₁⟩ := perform_ok hendpoint
  obtain ⟨o₂, h₂⟩ := perform_ok hnode
  obtain ⟨o₃, h₃⟩ := perform_ok hname
  refine ⟨o₁, o₂, o₃, ?_⟩
  rw [h₃, Session.told_trace, h₂, Session.told_trace, h₁, Session.told_trace]
  simp

/-- The policy rules and their route are there, for the addresses and the gateway that the host has
told. -/
theorem ensurePolicyRouting_ok {plan : Plan}
    (h : (ensurePolicyRouting H plan).exec s = (.ok (), s')) :
    ∃ pods outOfBand defaultGateway,
      ListsAddresses s'.trace podBridge [pods] ∧
      ListsAddresses s'.trace outOfBandBridge [outOfBand] ∧
      TellsGateway s'.trace Cidr.defaultRoute defaultGateway ∧
      IsPresent s'.trace (.rule pods.network policyTable podRulePriority) ∧
      IsPresent s'.trace (.rule outOfBand.host policyTable outOfBandRulePriority) ∧
      IsPresent s'.trace
        (.route plan.endpoints defaultGateway outOfBandBridge none (some policyTable)) := by
  rw [ensurePolicyRouting] at h
  simp only [ensureRule_eq, ensureRoute_eq] at h
  obtain ⟨pods, s₁, hpods, h⟩ := exec_bind_eq_ok_iff.mp h
  obtain ⟨outOfBand, s₂, houtOfBand, h⟩ := exec_bind_eq_ok_iff.mp h
  obtain ⟨_, s₃, hpodRule, h⟩ := exec_bind_eq_ok_iff.mp h
  obtain ⟨_, s₄, houtOfBandRule, h⟩ := exec_bind_eq_ok_iff.mp h
  obtain ⟨g, s₅, hg, hroute⟩ := exec_bind_eq_ok_iff.mp h
  -- What a step has left in the trace stays there during the steps that follow.
  have hask := (respectsNetwork_appends H plan).ask
  have h₅ : s₅.trace ⊆ s'.trace := (appends_ensure H (plan.mayAdd_route _ _ _ _ _)).subset hroute
  have h₄ := List.Subset.trans ((Respects.gatewayTo H Appends.chains hask _).subset hg) h₅
  have h₃ := List.Subset.trans
    ((appends_ensure H (plan.mayAdd_outOfBandRule _)).subset houtOfBandRule) h₄
  have h₂ := List.Subset.trans ((appends_ensure H (plan.mayAdd_podRule _)).subset hpodRule) h₃
  have h₁ := List.Subset.trans
    ((Respects.singleAddress H Appends.chains hask _).subset houtOfBand) h₂
  exact ⟨pods, outOfBand, g, (singleAddress_ok hpods).mono h₁,
    (singleAddress_ok houtOfBand).mono h₂, (gatewayTo_ok hg).mono h₅, (ensure_ok hpodRule).mono h₃,
    (ensure_ok houtOfBandRule).mono h₄, ensure_ok hroute⟩

/-- What addressing the bridge leaves: the gateway options for an address and a gateway, which are
those of the plan in internal mode and those that the host has told in external mode. -/
structure BridgeReady (roots : Roots) (plan : Plan) (s : Session σ) (a : Cidr) (g : Address) :
    Prop where
  /-- The options hold the gateway and the network of the address. -/
  options : s.files.read (Path.child roots.files gatewayOptionsPath) =
    some (GatewayOptions.text ⟨g, a.network⟩).toUTF8
  /-- The address and the gateway come from where the mode says. -/
  source : match plan.mode with
    | .internal m => a = m.endpoint ∧ g = m.gateway ∧
        IsPresent s.trace (.address overlayBridge m.endpoint)
    | .external m => ListsAddresses s.trace overlayBridge [a] ∧ TellsGateway s.trace m.discovery g
  /-- The route to the hosts is there. -/
  hostRoute : IsPresent s.trace (.route plan.hosts g overlayBridge (some hostRouteMetric) none)

/-- Internal mode ends with the bridge as it is planned. -/
theorem ensureInternal_ok {roots : Roots} {plan : Plan} {m : InternalMode}
    (hmode : plan.mode = .internal m) {endpoint : Address}
    (h : (ensureInternal H roots plan m).exec s = (.ok endpoint, s')) :
    endpoint = m.endpoint.address ∧ BridgeReady roots plan s' m.endpoint m.gateway := by
  rw [ensureInternal_eq] at h
  obtain ⟨_, s₁, haddress, h⟩ := exec_bind_eq_ok_iff.mp h
  obtain ⟨_, s₂, hup, h⟩ := exec_bind_eq_ok_iff.mp h
  have h₁₂ := (Respects.perform H Appends.chains (respectsNetwork_appends H plan).setUp).subset hup
  -- A route to the endpoints comes in between if the address does not imply it.
  obtain ⟨s₃, h₂₃, h⟩ : ∃ s₃ : Session σ, s₂.trace ⊆ s₃.trace ∧
      (serveHost H roots plan m).exec s₃ = (.ok endpoint, s') := by
    split at h
    · obtain ⟨_, s₃, hroute, h⟩ := exec_bind_eq_ok_iff.mp h
      exact ⟨s₃, (appends_ensure H (plan.mayAdd_route _ _ _ _ _)).subset hroute, h⟩
    · exact ⟨s₂, List.Subset.refl _, h⟩
  obtain ⟨_, s₄, hroute, h⟩ := exec_bind_eq_ok_iff.mp h
  obtain ⟨mac, s₅, hmac, h⟩ := exec_bind_eq_ok_iff.mp h
  obtain ⟨_, s₆, hserver, h⟩ := exec_bind_eq_ok_iff.mp h
  obtain ⟨_, s₇, hoptions, hpure⟩ := exec_bind_eq_ok_iff.mp h
  cases hpure
  have h₆ : s₆.trace ⊆ s'.trace :=
    (Respects.writeGatewayOptions (Appends.chains (P := Exchange.IsLocal)) roots _
      appends_replaceFile).subset hoptions
  have h₅ := List.Subset.trans ((Respects.ensureDhcpServer H Appends.chains plan m mac
    (appends_childState H) (appends_start H) (appends_remember _)).subset hserver) h₆
  have h₄ := List.Subset.trans
    ((Respects.functionMac H Appends.chains (appends_readDevice H) _ _).subset hmac) h₅
  have h₃ := List.Subset.trans ((appends_ensure H (plan.mayAdd_route _ _ _ _ _)).subset hroute) h₄
  have h₁ := List.Subset.trans (List.Subset.trans h₁₂ h₂₃) h₃
  refine ⟨rfl, writeGatewayOptions_ok hoptions, ?_, (ensure_ok hroute).mono h₄⟩
  rw [hmode]
  exact ⟨rfl, rfl, (ensure_ok haddress).mono h₁⟩

/-- Applying the definition, or not yet, is local. -/
theorem appends_applyThrottled (now : Nat) :
    Respects (Appends Exchange.IsLocal) (applyThrottled H now) := by
  refine (Respects.remembered Appends.chains).bind Appends.chains fun memory ↦ ?_
  split
  · refine (appends_remember _).bind Appends.chains fun _ ↦ .perform H Appends.chains ?_
    exact appends_run H fun _ ↦ by show "netplan" ≠ "ovs-vsctl"; decide
  · exact .pure Appends.chains _

/-- External mode ends with the bridge as it was found: the address and the gateway are those that
were told. -/
theorem adoptBridge_ok {roots : Roots} {plan : Plan} {m : ExternalMode}
    (hmode : plan.mode = .external m) {endpoint : Address}
    (h : (adoptBridge H roots plan m).exec s = (.ok endpoint, s')) :
    ∃ a g, endpoint = a.address ∧ BridgeReady roots plan s' a g := by
  obtain ⟨a, s₁, ha, h⟩ := exec_bind_eq_ok_iff.mp h
  obtain ⟨g, s₂, hg, h⟩ := exec_bind_eq_ok_iff.mp h
  obtain ⟨_, s₃, hroute, h⟩ := exec_bind_eq_ok_iff.mp h
  obtain ⟨_, s₄, hoptions, hpure⟩ := exec_bind_eq_ok_iff.mp h
  cases hpure
  have h₃ : s₃.trace ⊆ s'.trace :=
    (Respects.writeGatewayOptions (Appends.chains (P := Exchange.IsLocal)) roots _
      appends_replaceFile).subset hoptions
  have h₂ := List.Subset.trans ((appends_ensure H (plan.mayAdd_route _ _ _ _ _)).subset hroute) h₃
  have h₁ := List.Subset.trans
    ((Respects.gatewayTo H Appends.chains (respectsNetwork_appends H plan).ask _).subset hg) h₂
  refine ⟨a, g, rfl, writeGatewayOptions_ok hoptions, ?_, (ensure_ok hroute).mono h₃⟩
  rw [hmode]
  exact ⟨(bridgeAddress_ok ha).mono h₁, (gatewayTo_ok hg).mono h₂⟩

/-- Addressing the bridge gives the address of the tunnel endpoint, and what it leaves is for that
address. -/
theorem ensureBridge_ok {roots : Roots} {plan : Plan} {now : Nat} {endpoint : Address}
    (h : (ensureBridge H roots plan now).exec s = (.ok endpoint, s')) :
    ∃ a g, endpoint = a.address ∧ BridgeReady roots plan s' a g := by
  rw [ensureBridge] at h
  split at h
  · rename_i m hmode
    exact ⟨m.endpoint, m.gateway, ensureInternal_ok hmode h⟩
  · rename_i m hmode
    rw [ensureExternal_eq] at h
    obtain ⟨_, s₁, -, h⟩ := exec_bind_eq_ok_iff.mp h
    obtain ⟨_, s₂, -, h⟩ := exec_bind_eq_ok_iff.mp h
    exact adoptBridge_ok hmode h

/-- In both modes, nothing but the zone and the identity of the switch goes beyond local
exchanges. -/
theorem appends_ensureBridge (roots : Roots) (plan : Plan) (now : Nat) :
    Respects (Appends Exchange.IsLocal) (ensureBridge H roots plan now) := by
  rw [ensureBridge]
  split
  · rename_i m hmode
    exact .ensureInternal H (respectsNetwork_appends H plan) (appends_readDevice H)
      (appends_childState H) (appends_start H) (appends_remember _) appends_replaceFile roots hmode
  · rw [ensureExternal_eq]
    exact (appends_writeBridgeDefinition roots).bind Appends.chains fun _ ↦
      (appends_applyThrottled now).bind Appends.chains fun _ ↦
      .adoptBridge H (respectsNetwork_appends H plan) appends_replaceFile roots _

/-- The files stay as they are. -/
def SameFiles (s s' : Session σ) : Prop := s'.files = s.files

/-- Leaving the files alone chains. -/
theorem SameFiles.chains : Chains (SameFiles (σ := σ)) where
  refl _ := rfl
  trans h h' := Eq.trans h' h

theorem sameFiles_run (c : Command) : Respects SameFiles (run H c) := by
  intro s
  rw [exec_run]
  rfl

/-- Policy routing writes no file, so the options written before it are those at the end. -/
theorem sameFiles_ensurePolicyRouting (plan : Plan) :
    Respects SameFiles (ensurePolicyRouting H plan) :=
  .ensurePolicyRouting H (.of_ip SameFiles.chains (fun _ ↦ sameFiles_run _) plan)

/-- Nor does the identity of the switch. -/
theorem sameFiles_identify (endpoint : Address) (hostName : String) :
    Respects SameFiles (identify H endpoint hostName) :=
  .identify H SameFiles.chains (fun _ _ ↦ sameFiles_run _) endpoint hostName

end Pass

/-! ### A whole pass -/

/-- What a successful pass has brought about, in terms of its exchanges and of the files after it:
for a host name, the bridge address `a`, the gateway `g`, the addresses of the pod network and of
the out-of-band network, and the default gateway. -/
structure Agreement (roots : Roots) (plan : Plan) (t : List Exchange) (files : FileTree)
    (hostName : String) (a : Cidr) (g : Address) (pods outOfBand : Cidr)
    (defaultGateway : Address) : Prop where
  /-- The host name was read from the node's label. -/
  hostName_ne : hostName ≠ ""
  /-- The name that was read is the zone that was applied and both names that the switch was told;
  the tunnel endpoint that it was told is the address of the bridge. Nothing else was said to either
  of them. -/
  exchanges : ∃ node work o₁ o₂ o₃, Node.label? node Node.hostNameLabel = some hostName ∧
    (∀ e ∈ work, Exchange.IsLocal e) ∧
    t = [Exchange.getNode plan.nodeName (.ok (some node)),
        Exchange.applyLabels plan.nodeName (.ofList [(Node.zoneLabel, hostName)]) (.ok ())] ++
      work ++ [Exchange.run (Network.setExternalId "ovn-encap-ip" a.address.text) (.ok o₁),
        Exchange.run (Network.setExternalId "host-k8s-nodename" hostName) (.ok o₂),
        Exchange.run (Network.setExternalId "hostname" hostName) (.ok o₃)]
  /-- The gateway options are those of the gateway and of the network of the bridge address. -/
  options : files.read (Path.child roots.files "etc/openvswitch/ovn_k8s.conf") =
    some ("[Gateway]\nnext-hop=" ++ g.text ++ "\nrouter-subnet=" ++ a.network.text ++ "\n").toUTF8
  /-- That network has no host bits, and the bridge address lies in it. -/
  network : a.network.networkAddress = a.network.address ∧ a.network.contains a.address = true
  /-- In internal mode the bridge address is the configured one and is there; in external mode it
  is the only one that was observed. -/
  source : match plan.mode with
    | .internal m => a = m.endpoint ∧ g = m.gateway ∧ IsPresent t (.address "br-ovn" m.endpoint)
    | .external m => ListsAddresses t "br-ovn" [a] ∧ TellsGateway t m.discovery g
  /-- The route to the hosts goes through the gateway. -/
  hostRoute : IsPresent t (.route plan.hosts g "br-ovn" (some hostRouteMetric) none)
  /-- What comes from the pod network is sent to the policy table. -/
  podRule : ListsAddresses t "cni0" [pods] ∧ IsPresent t (.rule pods.network 60 31000)
  /-- What comes from the out-of-band address is sent to the policy table. -/
  outOfBandRule : ListsAddresses t "br-comm-ch" [outOfBand] ∧
    IsPresent t (.rule outOfBand.host 60 32000)
  /-- The policy table leads to the tunnel endpoints over the default gateway. -/
  endpointRoute : TellsGateway t Cidr.defaultRoute defaultGateway ∧
    IsPresent t (.route plan.endpoints defaultGateway "br-comm-ch" none (some 60))

/-- An address lies in its network. -/
theorem contains_network_address (c : Cidr) : c.network.contains c.address = true := by
  rw [← Cidr.network_eq_iff (by simp)]
  exact c.network_network

/-- **Success means agreement.** Whatever an agent remembers, whatever the host does and whatever
files there are: if a pass succeeds, then all its artifacts agree. -/
theorem agreement_of_ok {σ : Type} (H : Host σ) (roots : Roots) (plan : Plan) (memory : Memory)
    (v : Visit σ) (h : (makePass H roots plan memory v).result = .ok ()) :
    ∃ hostName a g pods outOfBand defaultGateway,
      Agreement roots plan (makePass H roots plan memory v).after.trace
        (makePass H roots plan memory v).after.files
        hostName a g pods outOfBand defaultGateway := by
  have hexec : (Pass.converge H roots plan v.now).exec (makePass H roots plan memory v).before =
      (.ok (), (makePass H roots plan memory v).after) := Prod.ext h rfl
  rw [Pass.converge] at hexec
  obtain ⟨hostName, s₁, hzone, hexec⟩ := Pass.exec_bind_eq_ok_iff.mp hexec
  obtain ⟨endpoint, s₂, hbridge, hexec⟩ := Pass.exec_bind_eq_ok_iff.mp hexec
  obtain ⟨_, s₃, hrouting, hidentify⟩ := Pass.exec_bind_eq_ok_iff.mp hexec
  obtain ⟨node, hnode, hne, h₁⟩ := Pass.ensureZone_ok hzone
  obtain ⟨a, g, rfl, hready⟩ := Pass.ensureBridge_ok hbridge
  obtain ⟨pods, outOfBand, defaultGateway, hpods, houtOfBand, hdefault, hpodRule, houtOfBandRule,
    hroute⟩ := Pass.ensurePolicyRouting_ok hrouting
  obtain ⟨o₁, o₂, o₃, h₄⟩ := Pass.identify_ok hidentify
  -- The exchanges in between, and what of them is still there at the end.
  have h₂ := Pass.appends_ensureBridge (H := H) roots plan v.now s₁
  have h₃ := Pass.Respects.ensurePolicyRouting H (Pass.respectsNetwork_appends H plan) s₂
  rw [hbridge] at h₂
  rw [hrouting] at h₃
  have h₃₄ : s₃.trace ⊆ (makePass H roots plan memory v).after.trace :=
    h₄ ▸ List.subset_append_left _ _
  have h₂₄ := List.Subset.trans h₃.subset h₃₄
  have hfiles : (makePass H roots plan memory v).after.files = s₂.files := by
    have hrouting' := Pass.sameFiles_ensurePolicyRouting (H := H) plan s₂
    have hidentify' := Pass.sameFiles_identify (H := H) a.address hostName s₃
    rw [hrouting] at hrouting'
    rw [hidentify] at hidentify'
    exact Eq.trans hidentify' hrouting'
  obtain ⟨work, hwork, hlocal⟩ := Pass.Appends.chains.trans h₂ h₃
  refine ⟨hostName, a, g, pods, outOfBand, defaultGateway, hne,
    ⟨node, work, o₁, o₂, o₃, hnode, hlocal, ?_⟩, ?_, ⟨?_, contains_network_address a⟩, ?_,
    hready.hostRoute.mono h₂₄, ⟨hpods.mono h₃₄, hpodRule.mono h₃₄⟩,
    ⟨houtOfBand.mono h₃₄, houtOfBandRule.mono h₃₄⟩, hdefault.mono h₃₄, hroute.mono h₃₄⟩
  -- The whole trace: the node first, the switch last, and nothing but local work in between.
  · rw [h₄, hwork, h₁, makePass_before, List.nil_append]
  · rw [hfiles]
    exact hready.options
  · exact Cidr.clearLow_clearLow _ _
  · have hsource := hready.source
    split at hsource
    · exact ⟨hsource.1, hsource.2.1, hsource.2.2.mono h₂₄⟩
    · exact ⟨hsource.1.mono h₂₄, hsource.2.mono h₂₄⟩

/-- The address with these bits and a prefix length, which is 32 if it were more. -/
def Ipv4.Cidr.ofBits (bits : BitVec 32) (n : Nat) : Cidr :=
  ⟨⟨bits⟩, min n 32, Nat.min_le_right n 32⟩

/-- A plan in external mode for a small network. -/
def leasePlan : Plan where
  mode := .external ⟨Cidr.ofBits 0x0a000000 24⟩
  endpoints := Cidr.ofBits 0x0a000000 16
  hosts := Cidr.ofBits 0x0a010000 16
  nodeName := "dpu"
  mtu := 1500
  cooldown := 120000

/-- The listing of an interface with one address. -/
def oneAddress (address : String) (prefixLength : Nat) : String :=
  (Json.arr [.record [("addr_info", .arr [.record [("family", .ofText "inet"),
    ("local", .ofText address), ("prefixlen", .int prefixLength)]])]]).toText

/-- The listing of one route with a gateway. -/
def oneRoute (gateway : String) : String :=
  (Json.arr [.record [("gateway", .ofText gateway), ("dev", .ofText "eth0")]]).toText

/-- A visit to a host on which the bridge has got a lease and nothing else is set up yet. -/
def leaseVisit : Visit Script where
  now := 0
  host := {
    nodes := ⟨[("dpu", some (.ofList [(Node.hostNameLabel, "worker")]))]⟩
    commands := ⟨[
      ("ip -4 -j addr show dev br-ovn", [.output (oneAddress "10.0.0.5" 24)]),
      ("ip -4 -j addr show dev cni0", [.output (oneAddress "10.2.0.1" 24)]),
      ("ip -4 -j addr show dev br-comm-ch", [.output (oneAddress "10.3.0.1" 24)]),
      ("ip -4 -j route get 10.0.0.0", [.output (oneRoute "10.0.0.1")]),
      ("ip -4 -j route show default", [.output (oneRoute "10.3.0.254")]),
      ("ip -4 -j route show exact 10.1.0.0/16", [.output "[]"]),
      ("ip -4 -j route show table 60 exact 10.0.0.0/16", [.output "[]"]),
      ("ip -4 -j rule show", [.output "[]"])]⟩ }
  files := {}

/-- The first pass after the lease succeeds, and it adds the rule for the pod network. -/
theorem makePass_leaseVisit :
    (makePass scriptedHost {} leasePlan leasePlan.memory leaseVisit).result.toOption = some () ∧
    ((makePass scriptedHost {} leasePlan leasePlan.memory leaseVisit).after.trace.any fun
      | .run c _ => c = Network.addRule (Cidr.ofBits 0x0a020000 24) policyTable podRulePriority
      | _ => false) = true := by
  decide +kernel

/-- The first pass after the lease adds the rules and the routes and succeeds. -/
theorem agreement_of_ok_lease :
    (makePass scriptedHost {} leasePlan leasePlan.memory leaseVisit).result = .ok () ∧
    ∃ hostName a g pods outOfBand defaultGateway, Agreement {} leasePlan
      (makePass scriptedHost {} leasePlan leasePlan.memory leaseVisit).after.trace
      (makePass scriptedHost {} leasePlan leasePlan.memory leaseVisit).after.files
      hostName a g pods outOfBand defaultGateway := by
  have hok : (makePass scriptedHost {} leasePlan leasePlan.memory leaseVisit).result = .ok () :=
    eq_ok_of_toOption makePass_leaseVisit.1
  exact ⟨hok, agreement_of_ok scriptedHost {} leasePlan leasePlan.memory leaseVisit hok⟩

end DpuNetwork
