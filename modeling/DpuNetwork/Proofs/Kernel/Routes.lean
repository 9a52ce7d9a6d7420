import DpuNetwork.Host.Scripted
import DpuNetwork.Proofs.Idempotence.Listings
import DpuNetwork.Proofs.Ipv4.CidrText
import DpuNetwork.Proofs.Json.Members
import DpuNetwork.Proofs.Json.RoundTrip

/-!
# Routes in a listing

How a listing shows routes (`ListsRoutes`): each by its gateway and its interface, either of which
may be missing or `null`, in any order and among any other members. A route leads through a gateway
out of an interface if it has that gateway, read as an address, and that interface
(`RouteEntry.Leads`).

A pass finds a route in such a listing exactly when some route of it leads there; what two routes
have between them is not enough. The texts of gateways are compared and never read, which comes to
the same, because an address has only one text; a gateway with any other text is no one's gateway.

## Main statements

* `routes_eq_ok_iff`: the texts that list some routes;
* `Pass.findsRoutes`: which routes of a listing are found.
-/

namespace DpuNetwork

open Ipv4

variable {rs : List RouteEntry} {r : RouteEntry} {gateway : Address} {device text : String}

/-! ### Listings of routes -/

/-- A value shows a route: as an object by its members, or as an array of gateway and interface. -/
def ListsRoute (r : RouteEntry) (j : Json) : Prop :=
  (∃ ms, j = .record ms ∧ Json.GivesText ms "gateway" r.gateway ∧
      Json.GivesText ms "dev" r.device) ∨
    j = .arr [.ofText? r.gateway, .ofText? r.device]

/-- A text shows some routes. -/
def ListsRoutes (rs : List RouteEntry) (text : String) : Prop :=
  ∃ js, Json.ofString? text = some (.arr js) ∧ List.Forall₂ ListsRoute rs js

/-- A value is read as a route exactly when it shows that route. -/
theorem route?_eq_some_iff {j : Json} : Listing.route? j = some r ↔ ListsRoute r j := by
  have hfields : Listing.route? j = some r ↔ ∃ fs, Json.fields? ["gateway", "dev"] j = some fs ∧
      List.Forall₂ (fun f t? ↦ f.optional? Json.text? = some t?) fs [r.gateway, r.device] := by
    obtain ⟨gateway, device⟩ := r
    rw [Listing.route?]
    rcases Json.fields? ["gateway", "dev"] j with - | - | ⟨f, - | ⟨g, - | ⟨h, fs⟩⟩⟩ <;>
      simp [Option.bind_eq_some_iff]
  rw [hfields, Json.exists_fields?_iff, ListsRoute]
  simp

/-- **The texts that list some routes** are those that are read as these routes. -/
theorem routes_eq_ok_iff : Listing.routes text = .ok rs ↔ ListsRoutes rs text := by
  have hitems {js : List Json} : arrayItems? text = some js ↔
      Json.ofString? text = some (.arr js) := by
    rw [arrayItems?]
    cases Json.ofString? text with
    | none => simp
    | some j => cases j <;> simp [Json.items?]
  rw [Listing.routes, entries_eq_ok_iff, Option.bind_eq_some_iff]
  simp only [hitems, mapM_eq_some_iff, route?_eq_some_iff, ListsRoutes]
  exact exists_congr fun js ↦ and_congr_right fun _ ↦ ⟨List.Forall₂.flip, List.Forall₂.flip⟩

/-- Routes that are printed with a gateway and an interface each are read back. -/
theorem routes_toText (rs : List (String × String)) :
    Listing.routes (Json.arr (rs.map fun r ↦
      .record [("gateway", .ofText r.1), ("dev", .ofText r.2)])).toText =
      .ok (rs.map fun r ↦ ⟨some r.1, some r.2⟩) := by
  refine routes_eq_ok_iff.mpr ⟨_, Json.ofString?_toText (.arr fun j hj ↦ ?_), ?_⟩
  · obtain ⟨r, -, rfl⟩ := List.mem_map.mp hj
    exact .record (by simp)
  · rw [List.forall₂_map_left_iff, List.forall₂_map_right_iff, List.forall₂_same]
    exact fun r _ ↦ .inl ⟨_, rfl, .inl rfl, .inl rfl⟩

/-! ### What is found -/

/-- A route leads through a gateway out of an interface. -/
def RouteEntry.Leads (r : RouteEntry) (gateway : Address) (device : String) : Prop :=
  r.gateway.bind Address.ofText? = some gateway ∧ r.device = some device

instance : Decidable (r.Leads gateway device) := inferInstanceAs (Decidable (_ ∧ _))

/-- An address has one text, so it need not be read. -/
theorem RouteEntry.leads_iff :
    r.Leads gateway device ↔ r.gateway = some gateway.text ∧ r.device = some device := by
  rw [Leads, Option.bind_eq_some_iff]
  simp only [Address.ofText?_eq_some_iff]
  simp

/-- A route that leads somewhere has a gateway in the form of an address. -/
theorem RouteEntry.Leads.exists_isDottedQuad (h : r.Leads gateway device) :
    ∃ t, r.gateway = some t ∧ IsDottedQuad t := by
  obtain ⟨t, ht, hread⟩ := Option.bind_eq_some_iff.mp h.1
  exact ⟨t, ht, Address.isDottedQuad_iff.mpr ⟨gateway, hread⟩⟩

namespace Pass

variable {σ : Type} (H : Host σ) (s : Session σ) (destination : Cidr) (table : Option Nat)

/-- Which routes are found among some routes. -/
structure FindsRoutes (rs : List RouteEntry) : Prop where
  /-- Exactly where one of them leads. -/
  found : ∀ gateway device, ((hasRoute H destination gateway device table).exec s).1 =
    .ok (decide (∃ r ∈ rs, r.Leads gateway device))
  /-- Gateways can be compared as texts. -/
  written : ∀ gateway device, ((hasRoute H destination gateway device table).exec s).1 =
    .ok (decide (∃ r ∈ rs, r.gateway = some gateway.text ∧ r.device = some device))
  /-- A route without a gateway that is a dotted quad leads nowhere. -/
  illegible : ∀ gateway device,
    (∀ r ∈ rs, r.device = some device → ∀ t, r.gateway = some t → ¬ IsDottedQuad t) →
      ((hasRoute H destination gateway device table).exec s).1 = .ok false

variable {H s destination table}

/-- **Which routes are found** of those that a listing shows, whatever else it holds. -/
theorem findsRoutes (hanswer : (H.run (Network.showRoutes destination table) s.host).1 = .ok text)
    (hlists : ListsRoutes rs text) : FindsRoutes H s destination table rs := by
  have hroutes := routes_eq_ok_iff.mpr hlists
  have hwritten (gateway : Address) (device : String) :
      ((hasRoute H destination gateway device table).exec s).1 =
        .ok (decide (∃ r ∈ rs, r.gateway = some gateway.text ∧ r.device = some device)) := by
    rw [hasRoute_eq H destination gateway device none table, exec_isThere, Addition.listing,
      hanswer]
    show (Addition.route destination gateway device none table).recognise text = _
    have hlook : Listing.hasRoute gateway device rs =
        decide (∃ r ∈ rs, r.gateway = some gateway.text ∧ r.device = some device) := by
      rw [Bool.eq_iff_iff, Addition.hasRoute_eq_true_iff, decide_eq_true_iff]
    rw [Addition.recognise, hroutes, ← hlook]
    rfl
  have hfound (gateway : Address) (device : String) :
      ((hasRoute H destination gateway device table).exec s).1 =
        .ok (decide (∃ r ∈ rs, r.Leads gateway device)) := by
    simp only [hwritten, RouteEntry.leads_iff]
  refine ⟨hfound, hwritten, fun gateway device hnone ↦ ?_⟩
  rw [hfound, decide_eq_false]
  rintro ⟨r, hr, hleads⟩
  obtain ⟨t, ht, hquad⟩ := hleads.exists_isDottedQuad
  exact hnone r hr hleads.2 t ht hquad

/-- A route with a metric, one with the same gateway by a text that is no address, one that is
connected, and one that is written as an array. -/
def mixedRoutes : List Json :=
  [.record [("dst", .ofText "default"), ("dev", .ofText "br-ex"), ("metric", .int 100),
      ("gateway", .ofText "10.0.0.1")],
    .record [("gateway", .ofText "10.0.0.01"), ("dev", .ofText "br-ovn")],
    .record [("dev", .ofText "br-ovn"), ("scope", .ofText "link"), ("flags", .arr [])],
    .arr [.ofText "10.0.0.2", .null]]

/-- The routes that are shown. -/
def mixedEntries : List RouteEntry :=
  [⟨some "10.0.0.1", some "br-ex"⟩, ⟨some "10.0.0.01", some "br-ovn"⟩, ⟨none, some "br-ovn"⟩,
    ⟨some "10.0.0.2", none⟩]

/-- The text of these values shows these routes. -/
theorem listsRoutes_mixedRoutes : ListsRoutes mixedEntries (Json.arr mixedRoutes).toText := by
  have hplain : ∀ j ∈ mixedRoutes, j.IsPlain := by
    simp only [mixedRoutes, List.forall_mem_cons]
    refine ⟨.record ?_, .record ?_, .record ?_, .arr ?_, by simp⟩ <;> simp [Json.IsPlain.arr]
  refine ⟨mixedRoutes, Json.ofString?_toText (.arr hplain), ?_⟩
  refine .cons (.inl ⟨_, rfl, .inl rfl, .inl rfl⟩) <| .cons (.inl ⟨_, rfl, .inl rfl, .inl rfl⟩) <|
    .cons (.inl ⟨_, rfl, .inr ⟨rfl, by simp⟩, .inl rfl⟩) <| .cons (.inr rfl) .nil

/-- A session with a host that lists these routes as default routes. -/
def routesSession : Session Script where
  host := .answering (Network.showRoutes Cidr.defaultRoute none) (Json.arr mixedRoutes).toText
  memory := ⟨⟨0, none⟩, false⟩

/-- The route out of the one interface is found, and none through that gateway out of the other. -/
theorem findsRoutes_mixedRoutes :
    FindsRoutes scriptedHost routesSession Cidr.defaultRoute none mixedEntries ∧
      ((hasRoute scriptedHost Cidr.defaultRoute ⟨0x0a000001⟩ "br-ex" none).exec routesSession).1 =
        .ok true ∧
      ((hasRoute scriptedHost Cidr.defaultRoute ⟨0x0a000001⟩ "br-ovn" none).exec routesSession).1 =
        .ok false := by
  have hfinds : FindsRoutes scriptedHost routesSession Cidr.defaultRoute none mixedEntries :=
    findsRoutes (Script.run_answering _ _) listsRoutes_mixedRoutes
  refine ⟨hfinds, ?_, hfinds.illegible _ _ (by decide)⟩
  rw [hfinds.found]
  decide

end Pass

end DpuNetwork
