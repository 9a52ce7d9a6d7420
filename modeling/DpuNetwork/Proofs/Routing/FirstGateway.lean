import DpuNetwork.Proofs.Kernel.Routes
import DpuNetwork.Proofs.Routing.HostBits

/-!
# The gateway to a network

The gateway to a network is that of the first route listed for it that has one
(`Listing.ShowsGateway`). Routes without a gateway are passed over; what is listed behind the first
one with a gateway is not looked at, not even if that gateway cannot be read.

The network of all addresses has its own lookup, which lists the default routes. Any other network
is looked up by its network address.

## Main statements

* `Listing.firstGateway_eq_ok_iff`, `Listing.firstGateway_eq_error_iff`: what some routes tell;
* `Pass.findsGateway`: what a pass is told that looks a gateway up.
-/

namespace DpuNetwork

open Ipv4

variable {rs : List RouteEntry} {destination : Cidr} {g : Address} {t text : String} {f : Failure}

namespace Listing

/-! ### What some routes tell -/

/-- A text is the first gateway among some routes: that of the first route that has one. -/
def ShowsGateway (rs : List RouteEntry) (t : String) : Prop :=
  ∃ (before : List RouteEntry) (r : RouteEntry) (after : List RouteEntry),
    rs = before ++ r :: after ∧ (∀ b ∈ before, b.gateway = none) ∧ r.gateway = some t

theorem showsGateway_iff : ShowsGateway rs t ↔ rs.findSome? RouteEntry.gateway = some t := by
  rw [List.findSome?_eq_some_iff]
  constructor
  · rintro ⟨before, r, after, hrs, hbefore, hr⟩
    exact ⟨before, r, after, hrs, hr, hbefore⟩
  · rintro ⟨before, r, after, hrs, hr, hbefore⟩
    exact ⟨before, r, after, hrs, hbefore, hr⟩

/-- Some routes have no first gateway exactly if none of them has a gateway. -/
theorem forall_gateway_eq_none_iff :
    (∀ r ∈ rs, r.gateway = none) ↔ rs.findSome? RouteEntry.gateway = none :=
  List.findSome?_eq_none_iff.symm

/-- **The gateway that is told** is the first one. -/
theorem firstGateway_eq_ok_iff : firstGateway destination rs = .ok g ↔ ShowsGateway rs g.text := by
  rw [showsGateway_iff, firstGateway]
  cases rs.findSome? RouteEntry.gateway with
  | none => simp
  | some s =>
    rw [Option.some_inj, ← Address.ofText?_eq_some_iff]
    cases hread : Address.ofText? s <;> simp [hread]

/-- **No gateway is told** exactly if there is none, or if the first one is no address. -/
theorem firstGateway_eq_error_iff : firstGateway destination rs = .error f ↔
    (∀ r ∈ rs, r.gateway = none) ∧ f = .noGateway destination ∨
      ∃ t, ShowsGateway rs t ∧ ¬ IsDottedQuad t ∧ f = .unreadable (.gateway t) := by
  simp only [forall_gateway_eq_none_iff, showsGateway_iff, Address.isDottedQuad_iff, firstGateway]
  cases rs.findSome? RouteEntry.gateway with
  | none => simp [eq_comm]
  | some s => cases hread : Address.ofText? s <;> simp [hread, eq_comm]

/-- What is listed behind a route with a gateway does not matter. -/
theorem firstGateway_append_cons {r : RouteEntry} (hr : r.gateway ≠ none)
    (before after after' : List RouteEntry) :
    firstGateway destination (before ++ r :: after) =
      firstGateway destination (before ++ r :: after') := by
  obtain ⟨t, ht⟩ := Option.ne_none_iff_exists'.mp hr
  have hfind (rest : List RouteEntry) : (before ++ r :: rest).findSome? RouteEntry.gateway =
      (before.findSome? RouteEntry.gateway).or (some t) := by
    rw [List.findSome?_append, List.findSome?_cons_of_isSome (by simp [ht]), ht]
  rw [firstGateway, firstGateway, hfind, hfind]

end Listing

/-! ### How a network is looked up -/

namespace Network

/-- Lists the default routes. -/
def showDefaultRoutes : Command := ip ["-4", "-j", "route", "show", "default"]

/-- Asks for the route to an address. -/
def routeTo (a : Address) : Command := ip ["-4", "-j", "route", "get", a.text]

/-- The default routes are listed for the network of all addresses only. -/
theorem lookUp_eq_showDefaultRoutes_iff :
    lookUp destination = showDefaultRoutes ↔ destination.prefixLength = 0 := by
  rw [lookUp, showDefaultRoutes]
  split <;> simp [ip, *]

theorem lookUp_eq_routeTo (h : destination.prefixLength ≠ 0) :
    lookUp destination = routeTo destination.networkAddress := if_neg h

end Network

namespace Pass

variable {σ : Type} (H : Host σ) (s : Session σ) (destination : Cidr)

/-- What a pass does and is told that looks up the gateway to a network for which some routes are
listed. -/
structure FindsGateway (rs : List RouteEntry) : Prop where
  /-- It makes one request. -/
  asks : ∃ answer, ((gatewayTo H destination).exec s).2.trace =
    s.trace ++ [Exchange.run (Network.lookUp destination) answer]
  /-- This lists the default routes exactly for a network of prefix length 0. -/
  asksDefault_iff : Network.lookUp destination = Network.showDefaultRoutes ↔
    destination.prefixLength = 0
  /-- For any other network it asks for the route to the network address. -/
  asksNetwork : destination.prefixLength ≠ 0 →
    Network.lookUp destination = Network.routeTo destination.networkAddress
  /-- The pass is told the first gateway. -/
  ok_iff : ∀ g, ((gatewayTo H destination).exec s).1 = .ok g ↔ Listing.ShowsGateway rs g.text
  /-- The only failures are that there is none, and that the first one is no address. -/
  error_iff : ∀ f, ((gatewayTo H destination).exec s).1 = .error f ↔
    (∀ r ∈ rs, r.gateway = none) ∧ f = .noGateway destination ∨
      ∃ t, Listing.ShowsGateway rs t ∧ ¬ IsDottedQuad t ∧ f = .unreadable (.gateway t)
  /-- Any other listing that agrees as far as the first gateway tells the same, whatever stands
  behind. -/
  rest : ∀ before (r : RouteEntry) after after' text (s' : Session σ), rs = before ++ r :: after →
    r.gateway ≠ none → ListsRoutes (before ++ r :: after') text →
    (H.run (Network.lookUp destination) s'.host).1 = .ok text →
    ((gatewayTo H destination).exec s').1 = ((gatewayTo H destination).exec s).1

variable {H s destination}

/-- A pass is told what the listed routes tell. -/
theorem gatewayTo_of_listsRoutes
    (hanswer : (H.run (Network.lookUp destination) s.host).1 = .ok text)
    (hlists : ListsRoutes rs text) :
    ((gatewayTo H destination).exec s).1 = Listing.firstGateway destination rs := by
  rw [exec_gatewayTo, hanswer, readAnswer_ok, gatewayIn, routes_eq_ok_iff.mpr hlists]
  rfl

/-- **The gateway to a network**, for every network and for any routes that are listed. -/
theorem findsGateway (hanswer : (H.run (Network.lookUp destination) s.host).1 = .ok text)
    (hlists : ListsRoutes rs text) : FindsGateway H s destination rs := by
  have htold := gatewayTo_of_listsRoutes hanswer hlists
  refine ⟨⟨.ok text, ?_⟩, Network.lookUp_eq_showDefaultRoutes_iff, Network.lookUp_eq_routeTo,
    fun g ↦ ?_, fun f ↦ ?_, fun before r after after' text' s' hrs hr hlists' hanswer' ↦ ?_⟩
  · rw [exec_gatewayTo, hanswer, Session.told_trace]
  · rw [htold, Listing.firstGateway_eq_ok_iff]
  · rw [htold, Listing.firstGateway_eq_error_iff]
  · rw [htold, gatewayTo_of_listsRoutes hanswer' hlists', hrs]
    exact Listing.firstGateway_append_cons hr before after' after

/-- A connected route, one with a gateway, and one with a gateway that is no dotted quad. -/
def defaultEntries : List RouteEntry :=
  [⟨none, some "br-ovn"⟩, ⟨some "10.3.0.254", some "br-comm-ch"⟩, ⟨some "10.3.0.01", none⟩]

/-- The same routes with the last two exchanged. -/
def exchangedEntries : List RouteEntry :=
  [⟨none, some "br-ovn"⟩, ⟨some "10.3.0.01", none⟩, ⟨some "10.3.0.254", some "br-comm-ch"⟩]

/-- The listing of some routes, each as an array. -/
def routesText (rs : List RouteEntry) : String :=
  (Json.arr (rs.map fun r ↦ .arr [.ofText? r.gateway, .ofText? r.device])).toText

theorem listsRoutes_routesText (rs : List RouteEntry) : ListsRoutes rs (routesText rs) := by
  have hplain (t? : Option String) : (Json.ofText? t?).IsPlain := by
    cases t? <;> simp [Json.ofText?]
  refine ⟨_, Json.ofString?_toText (.arr fun j hj ↦ ?_), ?_⟩
  · obtain ⟨r, -, rfl⟩ := List.mem_map.mp hj
    exact .arr (by simp [hplain])
  · rw [List.forall₂_map_right_iff]
    exact List.forall₂_same.mpr fun r _ ↦ .inr rfl

/-- A session with a host that lists some routes for every network of prefix length 0. -/
def defaultsSession (rs : List RouteEntry) : Session Script where
  host := .answering Network.showDefaultRoutes (routesText rs)
  memory := ⟨⟨0, none⟩, false⟩

/-- Of a network of prefix length 0 the address does not matter. The connected route is passed over;
the gateway with a leading zero does no harm behind the other one, but refuses it in front. -/
theorem findsGateway_defaultEntries :
    (scriptedHost.run (Network.lookUp (Cidr.ofBits 0x0a010203 0))
        (defaultsSession defaultEntries).host).1 = .ok (routesText defaultEntries) ∧
      ListsRoutes defaultEntries (routesText defaultEntries) ∧
      ((gatewayTo scriptedHost (Cidr.ofBits 0x0a010203 0)).exec
        (defaultsSession defaultEntries)).1 = .ok ⟨0x0a0300fe⟩ ∧
      ((gatewayTo scriptedHost (Cidr.ofBits 0x0a010203 0)).exec
        (defaultsSession exchangedEntries)).1 = .error (.unreadable (.gateway "10.3.0.01")) := by
  have hanswer (rs : List RouteEntry) :
      (scriptedHost.run (Network.lookUp (Cidr.ofBits 0x0a010203 0))
        (defaultsSession rs).host).1 = .ok (routesText rs) := by
    rw [Network.lookUp_eq_showDefaultRoutes_iff.mpr rfl]
    exact Script.run_answering _ _
  have hfirst := findsGateway (hanswer defaultEntries) (listsRoutes_routesText defaultEntries)
  have hexchanged := findsGateway (hanswer exchangedEntries)
    (listsRoutes_routesText exchangedEntries)
  refine ⟨hanswer _, listsRoutes_routesText _, (hfirst.ok_iff _).mpr ?_,
    (hexchanged.error_iff _).mpr (.inr ⟨_, ?_, by decide, rfl⟩)⟩
  · exact ⟨[_], _, _, rfl, by decide, by decide⟩
  · exact ⟨[_], _, _, rfl, by decide, rfl⟩

end Pass

end DpuNetwork
