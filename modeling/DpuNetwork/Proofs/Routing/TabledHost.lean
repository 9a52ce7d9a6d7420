import DpuNetwork.Host.Scripted
import DpuNetwork.Proofs.Kernel.Host
import DpuNetwork.Proofs.Routing.Tables

/-!
# A host with routing tables

A host that keeps the routes it is told to add, refuses those that clash with one that it keeps, and
lists in JSON what it keeps. Everything else it answers from a script. With any routes in its tables
it is a host with routing tables (`tabledHost.tables`).
-/

namespace DpuNetwork

open Ipv4

/-- The state of a host with routing tables. -/
structure Tabled where
  /-- The answers to everything that does not concern routes. -/
  script : Script := {}
  /-- The routes of all tables. -/
  routes : List KernelRoute := []

namespace KernelRoute

/-- The entry by which a route is listed. -/
def entry (r : KernelRoute) : Json :=
  .record ([("dst", Json.ofText r.destination.text)] ++
    (r.gateway.map fun g ↦ ("gateway", Json.ofText g.text)).toList ++
    (r.device.map fun device ↦ ("dev", Json.ofText device)).toList)

theorem isPlain_entry (r : KernelRoute) : r.entry.IsPlain := by
  refine .record fun m hm ↦ ?_
  simp only [List.mem_append, List.mem_singleton, Option.mem_toList, Option.map_eq_some_iff] at hm
  rcases hm with (rfl | ⟨g, -, rfl⟩) | ⟨device, -, rfl⟩ <;> exact .text _

/-- The entry of a route is read as the route. -/
theorem route?_entry (r : KernelRoute) : Listing.route? r.entry = some r.listed := by
  obtain ⟨destination, gateway, device, metric, table⟩ := r
  cases gateway <;> cases device <;> rfl

end KernelRoute

/-- The listing of some routes. -/
def routeListing (T : List KernelRoute) : String := (Json.arr (T.map KernelRoute.entry)).toText

/-- A listing of routes is read as the routes. -/
theorem routes_routeListing (T : List KernelRoute) :
    Listing.routes (routeListing T) = .ok (T.map KernelRoute.listed) := by
  have hplain : ∀ j ∈ T.map KernelRoute.entry, j.IsPlain := by
    intro j hj
    obtain ⟨r, -, rfl⟩ := List.mem_map.mp hj
    exact r.isPlain_entry
  rw [Listing.routes, entries_eq_ok_iff, routeListing, arrayItems?_toText hplain, Option.bind_some,
    mapM_eq_some_iff, List.forall₂_map_left_iff, List.forall₂_map_right_iff]
  exact List.forall₂_same.mpr fun r _ ↦ r.route?_entry

/-- Reads the network and the table from a command that lists routes. -/
def Network.shownRoutes? : Command → Option (Cidr × Option Nat)
  | ⟨"ip", ["-4", "-j", "route", "show", "exact", destination]⟩ =>
    (Cidr.ofText? destination).map fun d ↦ (d, none)
  | ⟨"ip", ["-4", "-j", "route", "show", "table", table, "exact", destination]⟩ =>
    (Cidr.ofText? destination).bind fun d ↦ (number? table).map fun t ↦ (d, some t)
  | _ => none

theorem Network.shownRoutes?_showRoutes (destination : Cidr) (table : Option Nat) :
    shownRoutes? (showRoutes destination table) = some (destination.network, table) := by
  cases table <;> simp [showRoutes, ip, tableArgs, shownRoutes?]

/-- How a route that clashes with another one is refused. -/
def fileExists : RunFault := .failed "exit status: 2" "RTNETLINK answers: File exists"

/-- Runs a command on a host with routing tables. -/
def Tabled.run (c : Command) (s : Tabled) : Except RunFault String × Tabled :=
  match Addition.ofCommand? c with
  | some (.route destination gateway device metric table) =>
    let R : RouteRequest := ⟨destination, gateway, device, metric, table⟩
    if R.FreeIn s.routes then (.ok "", { s with routes := s.routes ++ [R.kept] })
    else (.error fileExists, s)
  | _ => match Network.shownRoutes? c with
    | some (destination, table) =>
      (.ok (routeListing (s.routes.filter fun r ↦ r.IsTo destination table)), s)
    | none => ((scriptedHost.run c s.script).1,
      { s with script := (scriptedHost.run c s.script).2 })

/-- The host with routing tables. -/
def tabledHost : Host Tabled where
  run := Tabled.run
  start c s := ((scriptedHost.start c s.script).1,
    { s with script := (scriptedHost.start c s.script).2 })
  childState s := ((scriptedHost.childState s.script).1,
    { s with script := (scriptedHost.childState s.script).2 })
  getNode name s := ((scriptedHost.getNode name s.script).1,
    { s with script := (scriptedHost.getNode name s.script).2 })
  applyLabels name labels s := ((scriptedHost.applyLabels name labels s.script).1,
    { s with script := (scriptedHost.applyLabels name labels s.script).2 })
  readDevice path s := ((scriptedHost.readDevice path s.script).1,
    { s with script := (scriptedHost.readDevice path s.script).2 })

namespace tabledHost

/-- A route is kept if it is free, and refused otherwise. -/
theorem run_addRoute (R : RouteRequest) (s : Tabled) :
    tabledHost.run R.addition.command s =
      if R.FreeIn s.routes then (.ok "", { s with routes := s.routes ++ [R.kept] })
      else (.error fileExists, s) := by
  -- The command has lost the host bits of the network, which the kernel does not keep either.
  let R' : RouteRequest := { R with destination := R.destination.network }
  have hfree : R'.FreeIn s.routes ↔ R.FreeIn s.routes := by
    simp [RouteRequest.FreeIn, RouteRequest.Clashes, R']
  have hkept : R'.kept = R.kept := by simp [RouteRequest.kept, R']
  show Tabled.run R.addition.command s = _
  rw [Tabled.run, Addition.ofCommand?_command]
  show (if R'.FreeIn s.routes then (_, { s with routes := s.routes ++ [R'.kept] }) else _) = _
  rw [hkept]
  exact if_congr hfree rfl rfl

theorem run_showRoutes (destination : Cidr) (table : Option Nat) (s : Tabled) :
    tabledHost.run (Network.showRoutes destination table) s =
      (.ok (routeListing (s.routes.filter fun r ↦ r.IsTo destination table)), s) := by
  have hquery : Network.IsQuery (Network.showRoutes destination table) :=
    (Addition.route destination default "" none table).isQuery_listing
  show Tabled.run (Network.showRoutes destination table) s = _
  rw [Tabled.run, Addition.ofCommand?_isQuery hquery, Network.shownRoutes?_showRoutes]
  simp only [KernelRoute.isTo_network]

/-- No other command changes a route. -/
theorem routes_run {c : Command} {s : Tabled}
    (hc : ∀ R : RouteRequest, c ≠ R.addition.command) :
    (tabledHost.run c s).2.routes = s.routes := by
  have hscript : (match Network.shownRoutes? c with
      | some (destination, table) =>
        ((.ok (routeListing (s.routes.filter fun r ↦ r.IsTo destination table)), s) :
          Except RunFault String × Tabled)
      | none => ((scriptedHost.run c s.script).1,
        { s with script := (scriptedHost.run c s.script).2 })).2.routes = s.routes := by
    split <;> rfl
  show (Tabled.run c s).2.routes = s.routes
  rw [Tabled.run]
  split
  · next destination gateway device metric table hread =>
    let R : RouteRequest := ⟨destination, gateway, device, metric, table⟩
    have hcommand : R.addition.command = c := Addition.command_of_ofCommand? hread
    exact absurd hcommand.symm (hc R)
  · exact hscript

/-- **The host has routing tables.** -/
def tables : RouteTables tabledHost where
  routes := Tabled.routes
  shown {destination table k text k'} h := by
    rw [run_showRoutes] at h
    obtain ⟨htext, -⟩ := Prod.mk.inj h
    rw [← Except.ok.inj htext, routes_routeListing]
  refuse R k h := by
    rw [run_addRoute, if_neg h]
    exact ⟨⟨_, _, rfl⟩, rfl⟩
  keep R k h := by
    rw [run_addRoute, if_pos h]
    exact ⟨⟨_, rfl⟩, rfl⟩
  other {e k k'} h hadd := by
    cases e with
    | run c answer =>
      have hrun : tabledHost.run c k = (answer, k') := h
      have hroutes := routes_run (s := k) fun R hc ↦
        hadd ⟨R, answer, congrArg (Exchange.run · answer) hc⟩
      rwa [hrun] at hroutes
    | start c started => exact congrArg (Tabled.routes ·.2) h.symm
    | childState answer => exact congrArg (Tabled.routes ·.2) h.symm
    | getNode name answer => exact congrArg (Tabled.routes ·.2) h.symm
    | applyLabels name labels answer => exact congrArg (Tabled.routes ·.2) h.symm
    | readDevice path answer => exact congrArg (Tabled.routes ·.2) h.symm

end tabledHost

end DpuNetwork
