import DpuNetwork.Proofs.Course.Reservation
import DpuNetwork.Proofs.Ipv4.Networks
import DpuNetwork.Proofs.Mtu
import DpuNetwork.Proofs.Routing.Gateways

/-!
# The way to the other tunnel endpoints

In internal mode the network of the bridge address is at hand, and what lies beyond it is to be
reached through the gateway: over a route of this host's own, and over the one that the DHCP server
announces. Both are there exactly when the subnet of all endpoints has the shorter prefix
(`DhcpServer.needsRoute`). This means that the subnet contains the network of the bridge address and
more if the one contains the other at all; nothing makes sure of that, though. If they lie apart,
the endpoints may be left without any route (`makePass_overlayReach` tells when), and there may be
one although the endpoints do not contain the network of the bridge address.

## Main statements

* `makePass_overlayReach`: what a successful pass in internal mode makes reachable, and what is
  announced to the host;
* `makePass_unreached`: accepted settings with which no other endpoint is reached.
-/

namespace DpuNetwork

open Ipv4 Pass

variable {plan : Plan} {m : InternalMode} {roots : Roots} {l l' : Store} {t u : List Exchange}
  {r : Except Failure Unit} {w : List Stage} {x : Findings} {now : Nat}

/-! ### The routes to the endpoints -/

/-- A route to the tunnel endpoints through the gateway of the overlay was found or made. -/
def RoutesEndpoints (plan : Plan) (m : InternalMode) (t : List Exchange) : Prop :=
  ∃ metric, IsPresent t (.route plan.endpoints m.gateway overlayBridge metric none)

/-- Routes to one network are looked up and made in the same way. -/
theorem isPresent_route_congr {d d' : Cidr} (hd : d.network = d'.network) {g : Address}
    {device : String} {metric table : Option Nat} :
    IsPresent t (.route d g device metric table) ↔
      IsPresent t (.route d' g device metric table) := by
  have hlisting : Network.showRoutes d table = Network.showRoutes d' table :=
    Addition.showRoutes_inj.mpr ⟨hd, rfl⟩
  have hcommand : Network.addRoute d g device metric table =
      Network.addRoute d' g device metric table := by
    rw [Network.addRoute, Network.addRoute, hd]
  simp only [IsPresent, Addition.listing, Addition.command, hlisting, hcommand, Addition.ListedIn]

/-- The command for a route tells its network. -/
theorem Network.network_eq_of_addRoute_eq {d d' : Cidr} {g g' : Address} {device device' : String}
    {metric metric' table table' : Option Nat}
    (h : addRoute d g device metric table = addRoute d' g' device' metric' table') :
    d.network = d'.network := by
  simp only [addRoute, ip, Command.mk.injEq, List.cons_append, List.cons.injEq, Cidr.text_inj] at h
  exact h.2.2.2.1

/-- What was found or made is a route that the pass asks for, up to its metric. -/
theorem Follows.exists_request (hw : ∀ st ∈ w, st.MayOccur roots plan) (h : Follows plan w l t r l')
    {d : Cidr} {g : Address} {device : String} {metric table : Option Nat}
    (hpresent : IsPresent t (.route d g device metric table)) :
    ∃ R : RouteRequest, .ensure R.addition ∈ w ∧ R.destination.network = d.network ∧
      R.table = table := by
  rcases hpresent with ⟨text, hmem, -⟩ | ⟨out, hmem⟩
  · obtain ⟨st, hst, hmakes⟩ := h.makes hmem
    obtain ⟨A, rfl, hA⟩ := hmakes.of_looksFor (hw st hst) (.inl ⟨d, table, rfl⟩)
    obtain ⟨R, rfl, -⟩ := Addition.exists_request_of_listing hA
    obtain ⟨hnetwork, htable⟩ := Addition.showRoutes_inj.mp hA
    exact ⟨R, hst, hnetwork.symm, htable.symm⟩
  · obtain ⟨st, hst, hmakes⟩ := h.makes hmem
    obtain ⟨A, rfl, hA⟩ := hmakes.of_isAdd (hw st hst) (Addition.isAdd_command _)
    obtain ⟨R, rfl, htable⟩ := Addition.exists_request_of_command hA
    exact ⟨R, hst, (Network.network_eq_of_addRoute_eq hA).symm, htable⟩

/-- What a stage made sure of was found or made. -/
theorem Follows.isPresent (h : Follows plan w l t (.ok ()) l') {A : Addition}
    (hA : .ensure A ∈ w) : IsPresent t A := by
  obtain ⟨l₁, u, l₂, htakes, hsub⟩ := h.exists_takes hA
  refine IsPresent.mono ?_ hsub
  obtain ⟨⟨answer, rfl, hread⟩ | ⟨text, answer, rfl, -, hread⟩, -⟩ := htakes
  · rcases answer with fault | text
    · cases hread
    · exact .inl ⟨text, List.mem_singleton.mpr rfl, Addition.recognise_eq_ok_true_iff.mp hread⟩
  · rcases answer with fault | out
    · cases hread
    · exact .inr ⟨out, by simp⟩

theorem DhcpServer.needsRoute_iff {c d : Cidr} :
    needsRoute c d = true ↔ d.prefixLength < c.prefixLength := by
  simp [needsRoute, Cidr.isWiderThan]

/-- What a pass asks for in internal mode. -/
theorem mem_requests_iff (hmode : plan.mode = .internal m) {R : RouteRequest} :
    R ∈ plan.requests x ↔
      DhcpServer.needsRoute m.endpoint plan.endpoints = true ∧ R = plan.overlayRoute m.gateway ∨
        R = plan.hostRoute m.gateway ∨ R = plan.policyRoute x.defaultGateway := by
  rw [DhcpServer.needsRoute_iff, Plan.requests, Plan.overlayGateway, hmode]
  by_cases h : plan.endpoints.prefixLength < m.endpoint.prefixLength <;> simp [h]

theorem ensure_mem_course {R : RouteRequest} (h : R ∈ plan.requests x) :
    .ensure R.addition ∈ plan.course roots now x := by
  rw [← requestsOf_course plan roots now x] at h
  obtain ⟨st, hst, hrequest⟩ := List.mem_filterMap.mp h
  rwa [Stage.request?_eq_some_iff.mp hrequest] at hst

/-- **The route to the endpoints**: a successful pass has it exactly when the subnet of the
endpoints has the shorter prefix, or when the hosts have the same subnet. -/
theorem Follows.routesEndpoints_iff (hmode : plan.mode = .internal m)
    (h : Follows plan (plan.course roots now x) l t (.ok ()) l') : RoutesEndpoints plan m t ↔
      DhcpServer.needsRoute m.endpoint plan.endpoints = true ∨
        plan.hosts.network = plan.endpoints.network := by
  constructor
  · rintro ⟨metric, hpresent⟩
    obtain ⟨R, hR, hnetwork, htable⟩ :=
      h.exists_request (fun _ hst ↦ mayOccur_of_mem_course hst) hpresent
    rcases (mem_requests_iff hmode).mp (request_mem_requests hR) with ⟨hneeds, -⟩ | rfl | rfl
    · exact .inl hneeds
    · exact .inr hnetwork
    · cases htable
  · rintro (hneeds | hsame)
    · have hR : plan.overlayRoute m.gateway ∈ plan.requests x :=
        (mem_requests_iff hmode).mpr (.inl ⟨hneeds, rfl⟩)
      exact ⟨none, h.isPresent (ensure_mem_course hR)⟩
    · have hR : plan.hostRoute m.gateway ∈ plan.requests x :=
        (mem_requests_iff hmode).mpr (.inr (.inl rfl))
      have hpresent := h.isPresent (ensure_mem_course hR)
      exact ⟨some hostRouteMetric, (isPresent_route_congr hsame).mp hpresent⟩

/-! ### What is reached -/

/-- The addresses to which there is a way out of the overlay bridge: those of its own network, and
those of the tunnel endpoints if there is a route to them. -/
def reached (plan : Plan) (m : InternalMode) (t : List Exchange) : Set Address :=
  m.endpoint.addresses ∪ {a | a ∈ plan.endpoints.addresses ∧ RoutesEndpoints plan m t}

theorem endpoints_subset_reached_iff : plan.endpoints.addresses ⊆ reached plan m t ↔
    RoutesEndpoints plan m t ∨ plan.endpoints.addresses ⊆ m.endpoint.addresses := by
  by_cases hroute : RoutesEndpoints plan m t
  · exact iff_of_true (fun a ha ↦ .inr ⟨ha, hroute⟩) (.inl hroute)
  · simp [reached, hroute]

/-- What a successful pass in internal mode leaves for the way to the other tunnel endpoints. -/
structure OverlayReach (plan : Plan) (m : InternalMode) (t : List Exchange) : Prop where
  /-- The subnet of the endpoints properly contains the network of the bridge address exactly when
  it has the shorter prefix and contains the bridge address. -/
  wider_iff : m.endpoint.addresses ⊂ plan.endpoints.addresses ↔
    DhcpServer.needsRoute m.endpoint plan.endpoints = true ∧
      plan.endpoints.contains m.endpoint.address = true
  /-- The DHCP server can be told what to do, and a route to the endpoints is announced exactly when
  their subnet has the shorter prefix. -/
  announced_iff : ∀ mac, ∃ args, (dhcpServer plan m mac).args = .ok args ∧
    ∀ rest, DhcpServer.routeOption ++ rest ∈ args ↔
      DhcpServer.needsRoute m.endpoint plan.endpoints = true ∧
        rest = plan.endpoints.text ++ "," ++ m.gateway.text
  /-- A server that was started was told so. -/
  started : ∀ c b, .start c b ∈ t → ∃ mac, (dhcpServer plan m mac).args = .ok c.args
  /-- There is a route to the endpoints in the same case, and when the hosts have the same
  subnet. -/
  routed_iff : RoutesEndpoints plan m t ↔
    DhcpServer.needsRoute m.endpoint plan.endpoints = true ∨
      plan.hosts.network = plan.endpoints.network
  /-- So all endpoints are reached in these cases, and when they lie in the network of the bridge
  address. -/
  reached_iff : plan.endpoints.addresses ⊆ reached plan m t ↔
    DhcpServer.needsRoute m.endpoint plan.endpoints = true ∨
      plan.hosts.network = plan.endpoints.network ∨
        plan.endpoints.addresses ⊆ m.endpoint.addresses
  /-- If the endpoints contain the network of the bridge address, all of them are reached, and a
  shorter prefix means that there are more. -/
  nested : m.endpoint.addresses ⊆ plan.endpoints.addresses →
    plan.endpoints.addresses ⊆ reached plan m t ∧
      (DhcpServer.needsRoute m.endpoint plan.endpoints = true ↔
        m.endpoint.addresses ⊂ plan.endpoints.addresses)

/-- **The reach of a pass in internal mode**, for accepted settings, whatever the agent remembers
and whatever the host answers, if only the pass succeeds. -/
theorem makePass_overlayReach {σ : Type} (H : Host σ) (roots : Roots) {s : Settings} {plan : Plan}
    {m : InternalMode} (hplan : s.plan = .ok plan) (hmode : plan.mode = .internal m)
    (memory : Memory) (v : Visit σ) (hok : (makePass H roots plan memory v).result = .ok ()) :
    OverlayReach plan m (makePass H roots plan memory v).after.trace := by
  obtain ⟨x, hfollows⟩ := makePass_follows H roots plan memory v
  rw [hok] at hfollows
  have hrouted := hfollows.routesEndpoints_iff hmode
  have hreached := endpoints_subset_reached_iff.trans
    ((or_congr_left hrouted).trans
      (or_assoc (c := plan.endpoints.addresses ⊆ m.endpoint.addresses)))
  refine ⟨?_, fun mac ↦ ?_, fun c b hmem ↦ ?_, hrouted, hreached, fun hsub ↦ ?_⟩
  · rw [Cidr.addresses_ssubset_iff, DhcpServer.needsRoute_iff]
  · obtain ⟨args, hargs⟩ := exists_args_eq_ok (Settings.mtu_le_of_plan_eq_ok hplan) m mac
    exact ⟨args, hargs, DhcpServer.routeOption_append_mem_args_iff hargs⟩
  · obtain ⟨m', mac, hmode', hargs⟩ :=
      hfollows.args_of_start (fun _ hst ↦ mayOccur_of_mem_course hst) hmem
    obtain rfl := Mode.internal.inj (hmode.symm.trans hmode')
    exact ⟨mac, hargs⟩
  · obtain ⟨hle, hcontains⟩ := Cidr.addresses_subset_iff.mp hsub
    rw [hreached, Cidr.addresses_ssubset_iff, DhcpServer.needsRoute_iff, and_iff_left hcontains]
    refine ⟨?_, Iff.rfl⟩
    rcases Nat.lt_or_eq_of_le hle with hlt | heq
    · exact .inl hlt
    · -- Of two networks of one length, each lies in the other.
      exact .inr (.inr (Cidr.addresses_subset_iff.mpr
        ⟨heq.ge, (Cidr.contains_comm heq).mp hcontains⟩))

/-- Settings for a small network; the endpoints reach beyond the network of the bridge. -/
def staticSettings : Settings where
  endpoint := some (Cidr.ofBits 0x0a000005 24)
  gateway := some ⟨0x0a000001⟩
  client := some (Cidr.ofBits 0x0a000006 24)
  endpoints := some (Cidr.ofBits 0x0a000000 16)
  hosts := some (Cidr.ofBits 0x0a010000 16)
  nodeName := some "dpu"

/-- The mode of these settings. -/
def staticMode : InternalMode :=
  ⟨Cidr.ofBits 0x0a000005 24, ⟨0x0a000001⟩, Cidr.ofBits 0x0a000006 24⟩

/-- A visit to a host on which the server can be started and everything else is set up. -/
def startVisit : Visit Script := serverVisit (.output "") (.ok .running)

/-- Settings with which the endpoints lie apart from the network of the bridge. -/
def apartSettings : Settings :=
  { staticSettings with endpoints := some (Cidr.ofBits 0x0a090000 24) }

/-- The plan with which the endpoints lie apart from the network of the bridge. -/
def apartPlan : Plan := { staticPlan with endpoints := Cidr.ofBits 0x0a090000 24 }

/-- The same host, which has no route to those endpoints. -/
def apartVisit : Visit Script :=
  { startVisit with host := { startVisit.host with
      commands := startVisit.host.commands.insert "ip -4 -j route show table 60 exact 10.9.0.0/24"
        [.output "[]"] } }

/-- The first pass succeeds with both plans. -/
theorem makePass_startVisit_apartVisit :
    (makePass scriptedHost {} staticPlan staticPlan.memory startVisit).result.toOption = some () ∧
      (makePass scriptedHost {} apartPlan apartPlan.memory apartVisit).result.toOption =
        some () := by
  decide +kernel

/-- The first pass in the small network. -/
theorem makePass_overlayReach_staticSettings :
    staticSettings.plan = .ok staticPlan ∧
      (makePass scriptedHost {} staticPlan staticPlan.memory startVisit).result = .ok () ∧
      OverlayReach staticPlan staticMode
        (makePass scriptedHost {} staticPlan staticPlan.memory startVisit).after.trace := by
  have hplan : staticSettings.plan = .ok staticPlan := rfl
  have hok : (makePass scriptedHost {} staticPlan staticPlan.memory startVisit).result = .ok () :=
    eq_ok_of_toOption makePass_startVisit_apartVisit.1
  exact ⟨hplan, hok,
    makePass_overlayReach scriptedHost {} hplan rfl staticPlan.memory startVisit hok⟩

/-- **Endpoints that are not reached**: accepted settings with which a successful pass leaves no way
to some endpoint; and endpoints that do not contain the network of the bridge address although their
prefix is shorter. -/
theorem makePass_unreached :
    apartSettings.plan = .ok apartPlan ∧ apartPlan.mode = .internal staticMode ∧
      (makePass scriptedHost {} apartPlan apartPlan.memory apartVisit).result = .ok () ∧
      (⟨0x0a090001⟩ : Address) ∈ apartPlan.endpoints.addresses ∧
      ⟨0x0a090001⟩ ∉ reached apartPlan staticMode
        (makePass scriptedHost {} apartPlan apartPlan.memory apartVisit).after.trace ∧
      DhcpServer.needsRoute (Cidr.ofBits 0xc0a80101 24) (Cidr.ofBits 0x0a000000 16) = true ∧
      ¬ (Cidr.ofBits 0xc0a80101 24).addresses ⊂ (Cidr.ofBits 0x0a000000 16).addresses := by
  have hok : (makePass scriptedHost {} apartPlan apartPlan.memory apartVisit).result = .ok () :=
    eq_ok_of_toOption makePass_startVisit_apartVisit.2
  obtain ⟨x, hfollows⟩ := makePass_follows scriptedHost {} apartPlan apartPlan.memory apartVisit
  rw [hok] at hfollows
  have hmode : apartPlan.mode = .internal staticMode := rfl
  refine ⟨rfl, hmode, hok, by decide, ?_, by decide, ?_⟩
  · rintro (hown | ⟨-, hroute⟩)
    · exact absurd hown (by decide)
    · exact absurd ((hfollows.routesEndpoints_iff hmode).mp hroute) (by decide)
  · rw [Cidr.addresses_ssubset_iff]
    decide

end DpuNetwork
