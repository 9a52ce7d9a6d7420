import Mathlib.Data.List.Basic
import Mathlib.Data.List.Chain
import DpuNetwork.Proofs.Course.Lookups
import DpuNetwork.Proofs.Course.Severity
import DpuNetwork.Proofs.Routing.FirstGateway
import DpuNetwork.Proofs.Routing.Settling

/-!
# Which gateways a pass uses

A route through a gateway that the plan does not fix is made sure of right behind the lookup of that
gateway (`UsesGateway`). The gateway is that of the first route of the listing that has one. The
device of that route is not regarded. So the gateway belongs to the device that it is used on where
the first route with a gateway leaves through that device, and a default route through another
device that is listed first gives the gateway for the out-of-band bridge
(`makePass_foreignGateway`).

## Main statements

* `gatewayIn_eq_ok_iff`: the gateway that a listing tells;
* `makePass_usesGateways`: the gateways of the two routes, and when there is none;
* `makePass_foreignGateway`: a gateway of another device is used.
-/

namespace DpuNetwork

open Ipv4 Pass

/-- A listing of routes in which this is the first one with a gateway. -/
def FirstGateway (text : String) (first : RouteEntry) (g : Address) : Prop :=
  ∃ before after, Listing.routes text = .ok (before ++ first :: after) ∧
    (∀ r ∈ before, r.gateway = none) ∧ first.gateway = some g.text

/-- Every gateway through which a route is added was listed with a route out of the same device. -/
def HasOwnGateway (t : List Exchange) (network destination : Cidr) (device : String)
    (metric table : Option Nat) : Prop :=
  ∀ g answer, .run (Network.addRoute destination g device metric table) answer ∈ t →
    ∃ text rs r, .run (Network.lookUp network) (.ok text) ∈ t ∧ Listing.routes text = .ok rs ∧
      r ∈ rs ∧ r.gateway = some g.text ∧ r.device = some device

/-- No route is added to a table but this one, which is added right behind the lookup of its gateway
and the listing in which it is missing. -/
def AddsRoute (t : List Exchange) (network destination : Cidr) (device : String)
    (metric table : Option Nat) : Prop :=
  ∀ pre d g' device' metric' answer post,
    t = pre ++ Exchange.run (Network.addRoute d g' device' metric' table) answer :: post →
    ∃ pre' text first g listing, Network.addRoute d g' device' metric' table =
        Network.addRoute destination g device metric table ∧
      pre = pre' ++ [Exchange.run (Network.lookUp network) (.ok text),
        Exchange.run (Network.showRoutes destination table) (.ok listing)] ∧
      FirstGateway text first g

/-- How a route through a gateway to a network is made sure of. -/
structure UsesGateway (t : List Exchange) (network destination : Cidr) (device : String)
    (metric table : Option Nat) : Prop where
  /-- It is looked for right behind the lookup of the gateway, which is that of the first route
  listed with one. It is added exactly if it is found missing. -/
  checked : ∀ pre answer post,
    t = pre ++ Exchange.run (Network.showRoutes destination table) answer :: post →
    ∃ pre' text first g, pre = pre' ++ [Exchange.run (Network.lookUp network) (.ok text)] ∧
      FirstGateway text first g ∧
      ((∃ answer' post', post =
          .run (Network.addRoute destination g device metric table) answer' :: post') ↔
        ∃ listing, answer = .ok listing ∧
          (Addition.route destination g device metric table).MissingIn listing)
  /-- No other route is added to the table, and this one only behind both. -/
  added : AddsRoute t network destination device metric table
  /-- The gateway is one of the device, if the first route listed with a gateway leaves through it
  in every lookup. -/
  own : (∀ text first g, Exchange.run (Network.lookUp network) (.ok text) ∈ t →
      FirstGateway text first g → first.device = some device) →
    HasOwnGateway t network destination device metric table

/-- The gateways that a pass uses. -/
structure UsesGateways {σ : Type} (plan : Plan) (p : MadePass σ) : Prop where
  /-- The route of the policy table goes through the first gateway of the default routes. -/
  policy : UsesGateway p.after.trace Cidr.defaultRoute plan.endpoints outOfBandBridge none
    (some policyTable)
  /-- In external mode, the route to the hosts goes through the first gateway to the discovery
  network. -/
  hosts : ∀ m, plan.mode = .external m → UsesGateway p.after.trace m.discovery plan.hosts
    overlayBridge (some hostRouteMetric) none
  /-- A pass that tells of no gateway ends with a listing in which no route has one. -/
  noGateway : ∀ d, p.result = .error (.noGateway d) → plan.LooksUp d ∧
    ∃ pre text rs, p.after.trace = pre ++ [Exchange.run (Network.lookUp d) (.ok text)] ∧
      Listing.routes text = .ok rs ∧ ∀ r ∈ rs, r.gateway = none
  /-- A pass that is told such a listing ends there and tells of it. -/
  ends : ∀ pre d text rs post, plan.LooksUp d →
    p.after.trace = pre ++ Exchange.run (Network.lookUp d) (.ok text) :: post →
    Listing.routes text = .ok rs → (∀ r ∈ rs, r.gateway = none) →
    post = [] ∧ ∃ d', plan.LooksUp d' ∧ Network.lookUp d' = Network.lookUp d ∧
      p.result = .error (.noGateway d')

variable {plan : Plan} {roots : Roots} {l l' : Store} {t : List Exchange}
  {r : Except Failure Unit} {st : Stage} {w : List Stage} {x : Findings} {now : Nat}
  {network destination : Cidr} {device : String} {metric table : Option Nat} {g : Address}
  {text : String}

/-! ### The first gateway -/

/-- **The gateway that a listing tells** is that of the first route that has one. -/
theorem gatewayIn_eq_ok_iff : gatewayIn network text = .ok g ↔
    ∃ first, FirstGateway text first g := by
  rw [gatewayIn, Addition.except_bind_eq_ok_iff]
  simp only [Listing.firstGateway_eq_ok_iff]
  constructor
  · rintro ⟨_, hrs, before, first, after, rfl, hbefore, hfirst⟩
    exact ⟨first, before, after, hrs, hbefore, hfirst⟩
  · rintro ⟨first, before, after, hrs, hbefore, hfirst⟩
    exact ⟨_, hrs, before, first, after, rfl, hbefore, hfirst⟩

/-- A listing of routes without a gateway is refused wherever it is to lead. -/
theorem gatewayIn_of_forall_eq_none {rs : List RouteEntry} (hrs : Listing.routes text = .ok rs)
    (hnone : ∀ r ∈ rs, r.gateway = none) :
    gatewayIn network text = .error (.noGateway network) :=
  Addition.except_bind_eq_error_iff.mpr
    (.inr ⟨rs, hrs, Listing.firstGateway_eq_error_iff.mpr (.inl ⟨hnone, rfl⟩)⟩)

theorem Exchange.Refused.of_lookUp {f : Failure} {rs : List RouteEntry}
    (h : (Exchange.run (Network.lookUp network) (.ok text)).Refused plan f)
    (hnetwork : plan.LooksUp network) (hrs : Listing.routes text = .ok rs)
    (hnone : ∀ r ∈ rs, r.gateway = none) :
    ∃ d, plan.LooksUp d ∧ Network.lookUp d = Network.lookUp network ∧ f = .noGateway d := by
  rcases h.output with ⟨A, hA, hc, -⟩ | ⟨link, -, hc, -⟩ | ⟨m, -, hc, -⟩ | ⟨d, hd, hc, hread⟩
  · exact absurd hc.symm (Plan.listing_ne_of_observes hnetwork.observes hA)
  · exact absurd hc.symm (Network.showAddresses_ne_lookUp _ _)
  · exact absurd hc.symm (Network.showAddresses_ne_lookUp _ _)
  · rw [gatewayIn_of_forall_eq_none hrs hnone] at hread
    exact ⟨d, hd, hc.symm, (Except.error.inj hread).symm⟩

/-! ### The place of a route -/

/-- The network whose gateway is looked up for the routes of a table. -/
def Plan.discovers (plan : Plan) : Option Nat → Option Cidr
  | some _ => some Cidr.defaultRoute
  | none => match plan.mode with
    | .internal _ => none
    | .external m => some m.discovery

/-- The network whose gateway is looked up for the route that a stage makes sure of, and the gateway
that the route goes through. -/
def Stage.discovered? (plan : Plan) (st : Stage) : Option (Cidr × Address) := do
  let R ← st.request?
  return (← plan.discovers R.table, R.gateway)

/-- A route through a gateway that is looked up stands right behind that lookup. -/
theorem isChain_course_gateway : (plan.course roots now x).IsChain fun st st' ↦
    ∀ p, st'.discovered? plan = some p → st = .findGateway p.1 p.2 := by
  rcases hmode : plan.mode with m | m
  · simp only [Plan.course, Plan.bridgeCourse, Plan.endpoint, hmode, InternalMode.course,
      InternalMode.approach]
    split <;> simp [Plan.routingCourse, Plan.identityCourse, Stage.discovered?, Stage.request?,
      Plan.discovers, hmode]
  · simp [Plan.course, Plan.bridgeCourse, Plan.endpoint, hmode, ExternalMode.course,
      Plan.routingCourse, Plan.identityCourse, Stage.discovered?, Stage.request?, Plan.discovers]

theorem exists_findGateway {before after : List Stage} {R : RouteRequest}
    (h : plan.course roots now x = before ++ Stage.ensure R.addition :: after)
    (hR : plan.discovers R.table = some network) :
    ∃ before', before = before' ++ [Stage.findGateway network R.gateway] := by
  obtain ⟨before', st, rfl, hst⟩ := plan.exists_stage_before _ _ _ isChain_course_gateway h nofun
  have hdiscovered := hst (network, R.gateway) (by
    simp [Stage.discovered?, Stage.request?_eq_some_iff.mpr rfl, hR])
  exact ⟨before', by rw [hdiscovered]⟩

/-- A gateway that was looked up is the first one of its listing. -/
theorem Follows.firstGateway
    (h : Follows plan (w ++ [Stage.findGateway network g]) l t (.ok ()) l') :
    ∃ t' text first, t = t' ++ [Exchange.run (Network.lookUp network) (.ok text)] ∧
      FirstGateway text first g := by
  obtain ⟨t', l₁, _, rfl, -, ⟨answer, rfl, hread⟩, -⟩ := h.ok_concat
  rcases answer with fault | text
  · cases hread
  · obtain ⟨first, hfirst⟩ := gatewayIn_eq_ok_iff.mp hread
    exact ⟨t', text, first, rfl, hfirst⟩

theorem request_mem_requests {R : RouteRequest} (h : .ensure R.addition ∈ plan.course roots now x) :
    R ∈ plan.requests x := by
  rw [← requestsOf_course plan roots now x]
  exact List.mem_filterMap.mpr ⟨_, h, Stage.request?_eq_some_iff.mpr rfl⟩

/-- In the policy table there is only the route to the tunnel endpoints. -/
theorem eq_policyRoute_of_mem_requests {R : RouteRequest} (h : R ∈ plan.requests x)
    (htable : R.table = some policyTable) : R = plan.policyRoute R.gateway := by
  have hmain {R' : RouteRequest} (hR' : R'.table = none) : R ≠ R' := by
    rintro rfl
    rw [hR'] at htable
    cases htable
  rw [Plan.requests, List.mem_append] at h
  rcases h with h | h
  · split at h
    · split at h
      · exact absurd (List.mem_singleton.mp h) (hmain rfl)
      · simp at h
    · simp at h
  · simp only [List.mem_cons, List.not_mem_nil, or_false] at h
    rcases h with h | rfl
    · exact absurd h (hmain rfl)
    · rfl

/-- In external mode the main table only gets the route to the hosts. -/
theorem eq_hostRoute_of_mem_requests {m : ExternalMode} (hmode : plan.mode = .external m)
    {R : RouteRequest} (h : R ∈ plan.requests x) (htable : R.table = none) :
    R = plan.hostRoute R.gateway := by
  rw [Plan.requests, hmode, List.nil_append] at h
  simp only [List.mem_cons, List.not_mem_nil, or_false] at h
  rcases h with rfl | rfl
  · rfl
  · cases htable

/-! ### Commands for routes -/

/-- The command for a route tells its gateway and its table. -/
theorem Network.eq_of_addRoute_eq {d d' : Cidr} {g g' : Address} {device device' : String}
    {metric metric' table table' : Option Nat}
    (h : addRoute d g device metric table = addRoute d' g' device' metric' table') :
    g = g' ∧ table = table' := by
  rcases metric with - | metric <;> rcases metric' with - | metric' <;>
    rcases table with - | table <;> rcases table' with - | table' <;>
    simp_all [addRoute, ip, metricArgs, tableArgs, Address.text_inj]

/-- What is looked up in a listing of routes is a route of the table. -/
theorem Addition.exists_request_of_listing {A : Addition}
    (h : Network.showRoutes destination table = A.listing) :
    ∃ R : RouteRequest, A = R.addition ∧ R.table = table := by
  cases A with
  | route destination' gateway device metric table' =>
    exact ⟨⟨destination', gateway, device, metric, table'⟩, rfl, (showRoutes_inj.mp h).2.symm⟩
  | _ => simp [listing, Network.showAddresses, Network.showRoutes, Network.showRules,
      Network.ip] at h

/-- What is added with the command for a route is a route of the table. -/
theorem Addition.exists_request_of_command {A : Addition}
    (h : Network.addRoute destination g device metric table = A.command) :
    ∃ R : RouteRequest, A = R.addition ∧ R.table = table := by
  obtain ⟨R, rfl⟩ := RouteRequest.exists_addition
    (R := ⟨destination, g, device, metric, table⟩) h.symm
  exact ⟨R, rfl, (Network.eq_of_addRoute_eq h).2.symm⟩

/-- A gateway is one of the device if the first route with a gateway always leaves through it. -/
theorem AddsRoute.hasOwnGateway
    (h : AddsRoute t network destination device metric table)
    (hfirst : ∀ text first g, .run (Network.lookUp network) (.ok text) ∈ t →
      FirstGateway text first g → first.device = some device) :
    HasOwnGateway t network destination device metric table := by
  intro g answer hmem
  obtain ⟨pre, post, rfl⟩ := List.append_of_mem hmem
  obtain ⟨pre', text, first, g', listing, hsame, rfl, hg⟩ := h pre _ _ _ _ answer post rfl
  obtain rfl := (Network.eq_of_addRoute_eq hsame).1
  have hdevice := hfirst text first g (by simp) hg
  obtain ⟨before, after, hrs, -, hgateway⟩ := hg
  exact ⟨text, _, first, by simp, hrs, by simp, hgateway, hdevice⟩

/-! ### A pass -/

section

variable {σ : Type} (H : Host σ) (roots : Roots) (memory : Memory) (v : Visit σ)

/-- Whenever the routes of a table are listed, it is for the one route that the table is to get, and
right behind the lookup of its gateway. -/
theorem makePass_routeLookup (hnetwork : plan.discovers table = some network)
    (hroute : ∀ x, ∀ R ∈ plan.requests x, R.table = table →
      R = ⟨destination, R.gateway, device, metric, table⟩)
    {d : Cidr} {pre post : List Exchange} {answer : Except RunFault String}
    (ht : (makePass H roots plan memory v).after.trace =
      pre ++ Exchange.run (Network.showRoutes d table) answer :: post) :
    ∃ pre' text first g,
      Network.showRoutes d table = Network.showRoutes destination table ∧
      pre = pre' ++ [Exchange.run (Network.lookUp network) (.ok text)] ∧ FirstGateway text first g ∧
      (∀ listing, answer = .ok listing →
        (Addition.route destination g device metric table).MissingIn listing →
        ∃ answer' post', post =
          .run (Network.addRoute destination g device metric table) answer' :: post') ∧
      ((∀ listing, answer = .ok listing →
        ¬ (Addition.route destination g device metric table).MissingIn listing) →
        ∀ c answer' post', post = .run c answer' :: post' → ¬ Network.IsAdd c) := by
  obtain ⟨x, before, A, after, l, hcourse, hbefore, hlisting, hmissing, hfound⟩ :=
    (makePass_looksFirst H roots plan memory v).lookup pre _ answer post ht (.inl ⟨d, table, rfl⟩)
  obtain ⟨R, rfl, htable⟩ := Addition.exists_request_of_listing hlisting
  obtain ⟨before', rfl⟩ := exists_findGateway hcourse (htable ▸ hnetwork)
  obtain ⟨pre', text, first, hpre, hfirst⟩ := hbefore.firstGateway
  have hmem : Stage.ensure R.addition ∈ plan.course roots (makePass H roots plan memory v).now x :=
    hcourse ▸ by simp
  have hR := hroute x R (request_mem_requests hmem) htable
  have hadd : R.addition = .route destination R.gateway device metric table := by
    rw [RouteRequest.addition, hR]
  rw [hadd] at hlisting hmissing hfound
  exact ⟨pre', text, first, R.gateway, hlisting, hpre, hfirst, hmissing, hfound⟩

/-- The one route that a table is to get is the only one that is added to it. -/
theorem makePass_addsRoute (hnetwork : plan.discovers table = some network)
    (hroute : ∀ x, ∀ R ∈ plan.requests x, R.table = table →
      R = ⟨destination, R.gateway, device, metric, table⟩) :
    AddsRoute (makePass H roots plan memory v).after.trace network destination device metric
      table := by
  intro pre d g' device' metric' answer post ht
  have hadd : Network.IsAdd (Network.addRoute d g' device' metric' table) :=
    Addition.isAdd_command (.route d g' device' metric' table)
  obtain ⟨A, pre₁, listing, -, hcommand, rfl, -⟩ :=
    (makePass_looksFirst H roots plan memory v).add pre _ answer post ht hadd
  obtain ⟨R, rfl, htable⟩ := Addition.exists_request_of_command hcommand
  have hlisting : R.addition.listing = Network.showRoutes R.destination table := by
    rw [← htable]
    rfl
  rw [hlisting, List.append_assoc, List.singleton_append] at ht
  obtain ⟨pre', text, first, g, hsame, rfl, hfirst, hmissing, hfound⟩ :=
    makePass_routeLookup H roots memory v hnetwork hroute ht
  refine ⟨pre', text, first, g, listing, ?_, by rw [hlisting, hsame]; simp, hfirst⟩
  by_cases hmissed : (Addition.route destination g device metric table).MissingIn listing
  · obtain ⟨answer', post', hpost⟩ := hmissing listing rfl hmissed
    exact (Exchange.run.inj (List.cons.inj hpost).1).1
  · refine absurd hadd (hfound (fun listing' hanswer ↦ ?_) _ answer post rfl)
    rw [← Except.ok.inj hanswer]
    exact hmissed

/-- **A route through a gateway** is made sure of right behind the lookup of that gateway. -/
theorem makePass_usesGateway (hnetwork : plan.discovers table = some network)
    (hroute : ∀ x, ∀ R ∈ plan.requests x, R.table = table →
      R = ⟨destination, R.gateway, device, metric, table⟩) :
    UsesGateway (makePass H roots plan memory v).after.trace network destination device metric
      table := by
  have hadds := makePass_addsRoute H roots memory v hnetwork hroute
  refine ⟨fun pre answer post ht ↦ ?_, hadds, hadds.hasOwnGateway⟩
  obtain ⟨pre', text, first, g, -, hpre, hfirst, hmissing, hfound⟩ :=
    makePass_routeLookup H roots memory v hnetwork hroute ht
  refine ⟨pre', text, first, g, hpre, hfirst, fun ⟨answer', post', hpost⟩ ↦ ?_,
    fun ⟨listing, hanswer, hmissed⟩ ↦ hmissing listing hanswer hmissed⟩
  by_contra hnone
  push Not at hnone
  exact hfound hnone _ answer' post' hpost (Addition.isAdd_command (.route _ _ _ _ _))

/-- **The gateways of a pass**: whatever the agent remembers and whatever is answered, each of its
two routes through a gateway that is looked up goes through the first one listed, which is one of
the device if that route leaves through it, and a pass tells that there is none exactly when a
listing holds none. -/
theorem makePass_usesGateways : UsesGateways plan (makePass H roots plan memory v) := by
  obtain ⟨x, hword⟩ := makePass_follows H roots plan memory v
  have hends := hword.ends fun _ hst ↦ mayOccur_of_mem_course hst
  refine ⟨?_, fun m hmode ↦ ?_, fun d hresult ↦ ?_, fun pre d text rs post hd ht hrs hnone ↦ ?_⟩
  · exact makePass_usesGateway H roots memory v rfl
      fun x R hR htable ↦ eq_policyRoute_of_mem_requests hR htable
  · exact makePass_usesGateway H roots memory v (by rw [Plan.discovers, hmode])
      fun x R hR htable ↦ eq_hostRoute_of_mem_requests hmode hR htable
  · rw [hresult] at hends
    exact hends.of_noGateway
  · have hrefused : (Exchange.run (Network.lookUp d) (.ok text)).Refused plan (.noGateway d) :=
      .gateway hd (gatewayIn_of_forall_eq_none hrs hnone)
    obtain ⟨hpost, f, hrefused, hresult⟩ := hends.refused_last ht hrefused
    obtain ⟨d', hd', hsame, rfl⟩ := hrefused.of_lookUp hd hrs hnone
    exact ⟨hpost, d', hd', hsame, hresult⟩

end

/-! ### A gateway of another device -/

/-- The listing of two default routes, out of the overlay bridge and out of the out-of-band
bridge. -/
def twoDefaultRoutes : String :=
  (Json.arr [.record [("gateway", .ofText "10.0.0.1"), ("dev", .ofText overlayBridge)],
    .record [("gateway", .ofText "10.3.0.254"), ("dev", .ofText outOfBandBridge)]]).toText

/-- A visit like that of the lease, to a host with a default route through each network. -/
def twoDefaultsVisit : Visit Script :=
  { leaseVisit with host := { leaseVisit.host with
      commands := leaseVisit.host.commands.insert "ip -4 -j route show default"
        [.output twoDefaultRoutes] } }

/-- The pass on that visit. -/
def twoDefaultsPass : MadePass Script :=
  makePass scriptedHost {} leasePlan leasePlan.memory twoDefaultsVisit

/-- The pass succeeds, the two default routes are all that it is told of the default gateway, and it
has added a route through the first one. -/
theorem twoDefaultsPass_outputs :
    twoDefaultsPass.result.toOption = some () ∧
    (∀ o ∈ twoDefaultsPass.after.trace.filterMap Exchange.output?,
      o.1 = Network.lookUp Cidr.defaultRoute → o.2 = twoDefaultRoutes) ∧
    (Network.addRoute leasePlan.endpoints ⟨0x0a000001⟩ outOfBandBridge none (some policyTable),
      "") ∈ twoDefaultsPass.after.trace.filterMap Exchange.output? := by
  decide +kernel

/-- **The gateway of another device is used.** With a default route out of the overlay bridge listed
before that of the out-of-band bridge, a pass succeeds and leaves the policy table with a route out
of the out-of-band bridge through the gateway of the overlay. -/
theorem makePass_foreignGateway :
    twoDefaultsPass.result = .ok () ∧
    ¬ HasOwnGateway twoDefaultsPass.after.trace Cidr.defaultRoute leasePlan.endpoints
      outOfBandBridge none (some policyTable) := by
  obtain ⟨hok, htold, hadded⟩ := twoDefaultsPass_outputs
  refine ⟨eq_ok_of_toOption hok, fun hown ↦ ?_⟩
  obtain ⟨text, rs, r, hmem, hrs, hr, hgateway, hdevice⟩ :=
    hown _ _ (Exchange.mem_iff_output?.mpr hadded)
  obtain rfl := htold _ (Exchange.mem_iff_output?.mp hmem) rfl
  have hroutes : Listing.routes twoDefaultRoutes =
      .ok [⟨some "10.0.0.1", some overlayBridge⟩, ⟨some "10.3.0.254", some outOfBandBridge⟩] :=
    routes_toText [("10.0.0.1", overlayBridge), ("10.3.0.254", outOfBandBridge)]
  obtain rfl := Except.ok.inj (hroutes.symm.trans hrs)
  have hnone : ∀ r ∈ ([⟨some "10.0.0.1", some overlayBridge⟩,
      ⟨some "10.3.0.254", some outOfBandBridge⟩] : List RouteEntry),
      ¬ (r.gateway = some (Address.text ⟨0x0a000001⟩) ∧ r.device = some outOfBandBridge) := by
    decide +kernel
  exact hnone r hr ⟨hgateway, hdevice⟩

end DpuNetwork
