import DpuNetwork.Proofs.Pass.Exec
import Mathlib.Data.List.Forall2

/-!
# Additions

The three things that a pass adds to a host: an address, a route, a policy rule. Each has the
command that adds it, the listing in which it is looked up, and what a listing has to hold for it to
be recognised (`Addition.ListedIn`). Making sure of any of them is the same pass: `Pass.ensure`
looks it up and adds it if it is not there (`Pass.exec_ensure` gives all its outcomes).
-/

namespace DpuNetwork

open Ipv4

/-- What a pass adds to a host. -/
inductive Addition where
  /-- An address of an interface. -/
  | address (link : String) (a : Cidr)
  /-- A route. -/
  | route (destination : Cidr) (gateway : Address) (device : String) (metric table : Option Nat)
  /-- A policy rule. -/
  | rule (source : Cidr) (table priority : Nat)
  deriving DecidableEq

namespace Addition

/-- The command that adds it. -/
def command : Addition → Command
  | address link a => Network.addAddress link a
  | route destination gateway device metric table =>
    Network.addRoute destination gateway device metric table
  | rule source table priority => Network.addRule source table priority

/-- The command that lists what is there of its kind. -/
def listing : Addition → Command
  | address link _ => Network.showAddresses link
  | route destination _ _ _ table => Network.showRoutes destination table
  | rule _ _ _ => Network.showRules

/-- The word for what kind of thing is listed. -/
def kind : Addition → String
  | address _ _ => "addr"
  | route _ _ _ _ _ => "route"
  | rule _ _ _ => "rule"

/-- Additions that are listed together are of one kind, because the listing names it. -/
theorem kind_eq_of_listing_eq {A B : Addition} (h : B.listing = A.listing) : B.kind = A.kind := by
  have hkind (C : Addition) : C.listing.args[2]? = some C.kind := by cases C <;> rfl
  exact Option.some.inj ((hkind B).symm.trans (h ▸ hkind A))

/-- The addition as a host stores it: networks have no host bits. -/
def stored : Addition → Addition
  | address link a => address link a
  | route destination gateway device metric table =>
    route destination.network gateway device metric table
  | rule source table priority => rule source.network table priority

/-- The addition as it is recognised in a listing: as it is stored, whatever the metric. -/
def object : Addition → Addition
  | address link a => address link a
  | route destination gateway device _ table =>
    route destination.network gateway device none table
  | rule source table priority => rule source.network table priority

/-- Reads a listing and tells whether it is listed. -/
def recognise : Addition → String → Except Failure Bool
  | address _ a, text => do return (← Listing.addresses (← Listing.links text)).contains a
  | route _ gateway device _ _, text => do
    return Listing.hasRoute gateway device (← Listing.routes text)
  | rule source table priority, text => do
    return Listing.hasRule source table priority (← Listing.rules text)

/-- What a listing holds for it to be there: the address with its prefix length among the addresses,
one route with both gateway and device, one rule with priority, table, source and its length. -/
def ListedIn : Addition → String → Prop
  | address _ a, text =>
    ∃ links as, Listing.links text = .ok links ∧ Listing.addresses links = .ok as ∧ a ∈ as
  | route _ gateway device _ _, text =>
    ∃ rs, Listing.routes text = .ok rs ∧
      ∃ r ∈ rs, r.gateway = some gateway.text ∧ r.device = some device
  | rule source table priority, text =>
    ∃ rs, Listing.rules text = .ok rs ∧
      ∃ r ∈ rs, r.priority = priority ∧ r.table = some (toString table) ∧
        r.source = some source.network.networkAddress.text ∧
        r.sourceLength.getD 32 = source.prefixLength

/-- What is stored looks like what was asked for. -/
@[simp] theorem object_stored (A : Addition) : A.stored.object = A.object := by
  cases A <;> simp [stored, object]

/-- A reading in two parts succeeds exactly when both do. -/
theorem except_bind_eq_ok_iff {α β : Type} {x : Except Failure α} {f : α → Except Failure β}
    {b : β} : (x >>= f) = .ok b ↔ ∃ a, x = .ok a ∧ f a = .ok b := by
  cases x with
  | error e => simp [bind, Except.bind]
  | ok a => simp [bind, Except.bind]

/-- A reading in two parts fails exactly when one of them does. -/
theorem except_bind_eq_error_iff {α β : Type} {x : Except Failure α} {f : α → Except Failure β}
    {e : Failure} : (x >>= f) = .error e ↔ x = .error e ∨ ∃ a, x = .ok a ∧ f a = .error e := by
  cases x with
  | error e => simp [bind, Except.bind]
  | ok a => simp [bind, Except.bind]

theorem except_pure_eq_ok_iff {α : Type} {a b : α} :
    (pure a : Except Failure α) = .ok b ↔ a = b := by
  simp [pure, Except.pure]

theorem except_pure_ne_error {α : Type} {a : α} {e : Failure} :
    (pure a : Except Failure α) ≠ .error e := nofun

/-- A list is read exactly when each of its elements is. -/
theorem except_mapM_eq_ok_iff {α β : Type} {g : α → Except Failure β} {as : List α}
    {bs : List β} : as.mapM g = .ok bs ↔ List.Forall₂ (fun a b ↦ g a = .ok b) as bs := by
  induction as generalizing bs with
  | nil => rw [List.mapM_nil, except_pure_eq_ok_iff, List.forall₂_nil_left_iff, eq_comm]
  | cons a as ih =>
    simp only [List.mapM_cons, except_bind_eq_ok_iff, except_pure_eq_ok_iff, ih,
      List.forall₂_cons_left_iff]
    constructor
    · rintro ⟨b, hb, bs', hbs, rfl⟩
      exact ⟨b, bs', hb, hbs, rfl⟩
    · rintro ⟨b, bs', hb, hbs, rfl⟩
      exact ⟨b, hb, bs', hbs, rfl⟩

/-- **The first element that cannot be read** is the one that a list is refused for. -/
theorem except_mapM_eq_error_iff {α β : Type} {g : α → Except Failure β} {as : List α}
    {e : Failure} : as.mapM g = .error e ↔
      ∃ before a after, as = before ++ a :: after ∧ (∀ a' ∈ before, ∃ b, g a' = .ok b) ∧
        g a = .error e := by
  induction as with
  | nil =>
    refine iff_of_false except_pure_ne_error ?_
    rintro ⟨before, a, after, h, -⟩
    exact List.append_ne_nil_of_right_ne_nil before (List.cons_ne_nil a after) h.symm
  | cons a as ih =>
    simp only [List.mapM_cons, except_bind_eq_error_iff, except_pure_ne_error, and_false,
      exists_false, or_false, ih]
    constructor
    · rintro (ha | ⟨b, hb, before, a', after, rfl, hbefore, ha'⟩)
      · exact ⟨[], a, as, rfl, by simp, ha⟩
      · exact ⟨a :: before, a', after, rfl, List.forall_mem_cons.mpr ⟨⟨b, hb⟩, hbefore⟩, ha'⟩
    · rintro ⟨before, a', after, h, hbefore, ha'⟩
      cases before with
      | nil =>
        obtain ⟨rfl, rfl⟩ := List.cons.inj h
        exact .inl ha'
      | cons c before =>
        obtain ⟨rfl, rfl⟩ := List.cons.inj h
        obtain ⟨⟨b, hb⟩, hbefore⟩ := List.forall_mem_cons.mp hbefore
        exact .inr ⟨b, hb, before, a', after, rfl, hbefore, ha'⟩

/-- A route is found if one entry has both its gateway and its device. -/
theorem hasRoute_eq_true_iff {gateway : Address} {device : String} {rs : List RouteEntry} :
    Listing.hasRoute gateway device rs = true ↔
      ∃ r ∈ rs, r.gateway = some gateway.text ∧ r.device = some device := by
  simp [Listing.hasRoute, Listing.routeMatches]

/-- A rule is found if one entry has its priority, its table and its source; a missing length stands
for 32. -/
theorem hasRule_eq_true_iff {source : Cidr} {table priority : Nat} {rs : List RuleEntry} :
    Listing.hasRule source table priority rs = true ↔
      ∃ r ∈ rs, r.priority = priority ∧ r.table = some (toString table) ∧
        r.source = some source.network.networkAddress.text ∧
        r.sourceLength.getD 32 = source.prefixLength := by
  simp [Listing.hasRule, Listing.ruleMatches, and_assoc]

/-- An addition is recognised in a listing exactly when the listing holds it. -/
theorem recognise_eq_ok_true_iff {A : Addition} {text : String} :
    A.recognise text = .ok true ↔ A.ListedIn text := by
  cases A with
  | address link a =>
    simp only [recognise, ListedIn, except_bind_eq_ok_iff, except_pure_eq_ok_iff,
      List.contains_iff_mem, exists_and_left]
  | route destination gateway device metric table =>
    simp only [recognise, ListedIn, except_bind_eq_ok_iff, except_pure_eq_ok_iff,
      hasRoute_eq_true_iff]
  | rule source table priority =>
    simp only [recognise, ListedIn, except_bind_eq_ok_iff, except_pure_eq_ok_iff,
      hasRule_eq_true_iff]

end Addition

/-- A command that asks the network tool for a listing. -/
def Network.IsQuery (c : Command) : Prop := ∃ args, c = Network.ip ("-4" :: "-j" :: args)

/-- Listings change nothing. These lemmas name the commands of which that is said. -/
theorem Network.isQuery_showAddresses (link : String) : IsQuery (showAddresses link) := ⟨_, rfl⟩

theorem Network.isQuery_lookUp (destination : Cidr) : IsQuery (lookUp destination) := by
  unfold lookUp
  split <;> exact ⟨_, rfl⟩

/-- What an addition is looked for with is a query. -/
theorem Addition.isQuery_listing (A : Addition) : Network.IsQuery A.listing := by
  cases A <;> exact ⟨_, rfl⟩

/-- What a pass of a plan may add: its own bridge address if it has one, routes, and the rules of
the policy table. -/
def Plan.MayAdd (plan : Plan) : Addition → Prop
  | .address link a => ∃ m, plan.mode = .internal m ∧ link = overlayBridge ∧ a = m.endpoint
  | .route _ _ _ _ _ => True
  | .rule _ table priority =>
    table = policyTable ∧ (priority = podRulePriority ∨ priority = outOfBandRulePriority)

/-- What a plan lets a pass add: in internal mode the address of the bridge. -/
theorem Plan.mayAdd_address {plan : Plan} {m : InternalMode} (hm : plan.mode = .internal m) :
    plan.MayAdd (.address overlayBridge m.endpoint) := ⟨m, hm, rfl, rfl⟩

/-- Every route is allowed, since gateways come from the host. -/
theorem Plan.mayAdd_route (plan : Plan) (destination : Cidr) (gateway : Address) (device : String)
    (metric table : Option Nat) : plan.MayAdd (.route destination gateway device metric table) :=
  trivial

/-- The rule for pods is one of the two that are allowed. -/
theorem Plan.mayAdd_podRule (plan : Plan) (source : Cidr) :
    plan.MayAdd (.rule source policyTable podRulePriority) := ⟨rfl, .inl rfl⟩

/-- The rule for the out-of-band network is the other. -/
theorem Plan.mayAdd_outOfBandRule (plan : Plan) (source : Cidr) :
    plan.MayAdd (.rule source policyTable outOfBandRulePriority) := ⟨rfl, .inr rfl⟩

/-- What a pass of a plan only observes: the addresses of the two other bridges, the default
gateway, and in external mode the bridge address and the gateway that leads to the discovery
network. -/
def Plan.Observes (plan : Plan) (q : Command) : Prop :=
  q = Network.showAddresses podBridge ∨ q = Network.showAddresses outOfBandBridge ∨
    q = Network.lookUp Cidr.defaultRoute ∨
    ∃ m, plan.mode = .external m ∧
      (q = Network.showAddresses overlayBridge ∨ q = Network.lookUp m.discovery)

/-- What a pass only observes is never what it adds to. -/
theorem Plan.listing_ne_of_observes {plan : Plan} {q : Command} (hq : plan.Observes q)
    {A : Addition} (hA : plan.MayAdd A) : A.listing ≠ q := by
  have hlookUp (destination : Cidr) : A.listing ≠ Network.lookUp destination := by
    unfold Network.lookUp
    cases A with
    | address link a => split <;> simp [Addition.listing, Network.showAddresses, Network.ip]
    | route d g device metric table =>
      cases table <;> split <;>
        simp [Addition.listing, Network.showRoutes, Network.ip, Network.tableArgs]
    | rule source table priority =>
      split <;> simp [Addition.listing, Network.showRules, Network.ip]
  have hshow {link : String} (h : A.listing = Network.showAddresses link) :
      ∃ m, plan.mode = .internal m ∧ link = overlayBridge := by
    cases A with
    | address link' a =>
      obtain ⟨m, hm, rfl, -⟩ := hA
      simp only [Addition.listing, Network.showAddresses, Network.ip, Command.mk.injEq, true_and,
        List.cons.injEq, and_true] at h
      exact ⟨m, hm, h.symm⟩
    | route d g device metric table =>
      simp [Addition.listing, Network.showRoutes, Network.showAddresses, Network.ip] at h
    | rule source table priority =>
      simp [Addition.listing, Network.showRules, Network.showAddresses, Network.ip] at h
  rintro rfl
  -- The overlay bridge is observed in external mode and added to in internal mode.
  rcases hq with h | h | h | ⟨m, hm, h | h⟩
  · obtain ⟨-, -, hlink⟩ := hshow h
    exact absurd hlink (by decide)
  · obtain ⟨-, -, hlink⟩ := hshow h
    exact absurd hlink (by decide)
  · exact hlookUp _ h
  · obtain ⟨m', hm', -⟩ := hshow h
    rw [hm] at hm'
    cases hm'
  · exact hlookUp _ h

namespace Pass

variable {σ : Type} (H : Host σ)

/-- Looks an addition up. -/
def isThere (A : Addition) : Pass σ Bool := do lift (A.recognise (← run H A.listing))

/-- Looks an addition up and makes it if it is not there. -/
def ensure (A : Addition) : Pass σ Unit := do
  unless ← isThere H A do
    perform H A.command

/-- Looking up is one request, whatever is looked up. -/
theorem exec_isThere (A : Addition) (s : Session σ) :
    (isThere H A).exec s =
      (match (H.run A.listing s.host).1 with
        | .ok text => A.recognise text
        | .error f => .error (f.toFailure A.listing),
        s.told (H.run A.listing s.host).2 (.run A.listing (H.run A.listing s.host).1)) := by
  rw [isThere, exec_bind, exec_run]
  cases (H.run A.listing s.host).1 <;> simp

/-- All that making sure of an addition can do. -/
theorem exec_ensure (A : Addition) (s : Session σ) :
    (ensure H A).exec s =
      let s₁ := s.told (H.run A.listing s.host).2 (.run A.listing (H.run A.listing s.host).1)
      match (H.run A.listing s.host).1 with
      | .error f => (.error (f.toFailure A.listing), s₁)
      | .ok text => match A.recognise text with
        | .error f => (.error f, s₁)
        | .ok true => (.ok (), s₁)
        | .ok false => (perform H A.command).exec s₁ := by
  rw [ensure, exec_bind, exec_isThere]
  cases (H.run A.listing s.host).1 with
  | error f => rfl
  | ok text =>
    rcases h : A.recognise text with f | b
    · simp [h]
    · cases b <;> simp [h]

/-- Each of the three checks is one look at the listing of an addition. -/
theorem hasAddress_eq (link : String) (a : Cidr) :
    hasAddress H link a = isThere H (.address link a) := by
  refine ext fun s ↦ ?_
  rw [exec_isThere, hasAddress, exec_bind, addressesOf, exec_bind, exec_run]
  simp only [Addition.listing, Addition.recognise]
  rcases (H.run (Network.showAddresses link) s.host).1 with f | text
  · rfl
  · simp only [mapError_ok, exec_bind, exec_lift]
    rcases Listing.links text with f | links
    · rfl
    · dsimp only
      show _ = ((Listing.addresses links >>= fun as ↦ pure (as.contains a)), _)
      rcases Listing.addresses links with f | as <;> rfl

theorem hasRoute_eq (destination : Cidr) (gateway : Address) (device : String)
    (metric table : Option Nat) :
    hasRoute H destination gateway device table =
      isThere H (.route destination gateway device metric table) := by
  refine ext fun s ↦ ?_
  rw [exec_isThere, hasRoute, exec_bind, exec_run]
  simp only [Addition.listing, Addition.recognise]
  rcases (H.run (Network.showRoutes destination table) s.host).1 with f | text
  · rfl
  · simp only [mapError_ok, exec_bind, exec_lift]
    rcases Listing.routes text with f | rs <;> rfl

theorem hasRule_eq (source : Cidr) (table priority : Nat) :
    hasRule H source table priority = isThere H (.rule source table priority) := by
  refine ext fun s ↦ ?_
  rw [exec_isThere, hasRule, exec_bind, exec_run]
  simp only [Addition.listing, Addition.recognise]
  rcases (H.run Network.showRules s.host).1 with f | text
  · rfl
  · simp only [mapError_ok, exec_bind, exec_lift]
    rcases Listing.rules text with f | rs <;> rfl

/-- Each of the three ways to ensure something is `ensure` of an addition, so what is proved of
`ensure` holds of all. -/
theorem ensureAddress_eq (link : String) (a : Cidr) :
    ensureAddress H link a = ensure H (.address link a) := by
  rw [ensureAddress, hasAddress_eq, ensure]
  rfl

theorem ensureRoute_eq (destination : Cidr) (gateway : Address) (device : String)
    (metric table : Option Nat) :
    ensureRoute H destination gateway device metric table =
      ensure H (.route destination gateway device metric table) := by
  rw [ensureRoute, hasRoute_eq H destination gateway device metric table, ensure]
  rfl

theorem ensureRule_eq (source : Cidr) (table priority : Nat) :
    ensureRule H source table priority = ensure H (.rule source table priority) := by
  rw [ensureRule, hasRule_eq, ensure]
  rfl

end Pass

end DpuNetwork
