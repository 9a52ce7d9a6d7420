import DpuNetwork.Proofs.Course.Leads
import DpuNetwork.Proofs.Course.Lookups
import DpuNetwork.Proofs.Kernel.Reading

/-!
# Routing tables

What a kernel does with the routes that a pass asks for. A kernel tells two routes apart by table,
network and metric: it refuses a route if the table holds one to the same network with the same
metric (`RouteRequest.Clashes`). A pass tells them apart by table, network, gateway and interface:
it takes a route for its own if these are what it asks for (`RouteRequest.IsServedBy`). A route that
the pass misses and the kernel refuses is blocked (`RouteRequest.BlockedIn`).

`RouteTables` is a host with such a kernel. `tabledHost` is one, for every content of its tables.

## Main statements

* `RouteTables.grows`: a pass adds routes that it asks for and that were free;
* `RouteTables.served`: behind the stages that were passed, all routes that they ask for are there;
* `RouteTables.blocked_of_leads`: a refused addition was blocked.
-/

namespace DpuNetwork

open Ipv4 Pass

/-- The routing table that is meant when none is named. -/
def mainTable : Nat := 254

/-- A route as a kernel keeps it. -/
structure KernelRoute where
  /-- The network that it leads to. -/
  destination : Cidr
  /-- The next hop, if it has one. -/
  gateway : Option Address
  /-- The interface, if it names one. -/
  device : Option String
  /-- The metric; the lowest one is preferred. -/
  metric : Nat
  /-- The table that holds it. -/
  table : Nat
  deriving DecidableEq

/-- A route as a pass asks for it. -/
structure RouteRequest where
  /-- The network that it is to lead to. -/
  destination : Cidr
  /-- The next hop. -/
  gateway : Address
  /-- The interface. -/
  device : String
  /-- The metric; 0 if it is left out. -/
  metric : Option Nat
  /-- The table; the main one if it is left out. -/
  table : Option Nat
  deriving DecidableEq

namespace KernelRoute

/-- The route leads to a network in a table. -/
def IsTo (r : KernelRoute) (destination : Cidr) (table : Option Nat) : Prop :=
  r.table = table.getD mainTable ∧ r.destination = destination.network

instance (r : KernelRoute) (destination : Cidr) (table : Option Nat) :
    Decidable (r.IsTo destination table) :=
  inferInstanceAs (Decidable (_ ∧ _))

/-- Whether a route leads to a network is a matter of the network alone. -/
@[simp] theorem isTo_network {r : KernelRoute} {destination : Cidr} {table : Option Nat} :
    r.IsTo destination.network table ↔ r.IsTo destination table := by
  simp [IsTo]

/-- The route in a listing. -/
def listed (r : KernelRoute) : RouteEntry := ⟨r.gateway.map Address.text, r.device⟩

end KernelRoute

namespace RouteRequest

variable (R : RouteRequest)

/-- The addition that is made sure of. -/
def addition : Addition := .route R.destination R.gateway R.device R.metric R.table

/-- The route that is kept when it is added. -/
def kept : KernelRoute where
  destination := R.destination.network
  gateway := some R.gateway
  device := some R.device
  metric := R.metric.getD 0
  table := R.table.getD mainTable

/-- The kernel does not keep the route beside this one. -/
def Clashes (r : KernelRoute) : Prop := r.IsTo R.destination R.table ∧ r.metric = R.metric.getD 0

/-- The pass takes this route for the one it asks for. -/
def IsServedBy (r : KernelRoute) : Prop :=
  r.IsTo R.destination R.table ∧ r.gateway = some R.gateway ∧ r.device = some R.device

/-- Some route is the one that is asked for. -/
def ServedIn (T : List KernelRoute) : Prop := ∃ r ∈ T, R.IsServedBy r

/-- The kernel would keep the route. -/
def FreeIn (T : List KernelRoute) : Prop := ∀ r ∈ T, ¬ R.Clashes r

/-- The route is not there, and the kernel refuses it. -/
def BlockedIn (T : List KernelRoute) : Prop := ¬ R.ServedIn T ∧ ¬ R.FreeIn T

instance (r : KernelRoute) : Decidable (R.Clashes r) := inferInstanceAs (Decidable (_ ∧ _))

instance (r : KernelRoute) : Decidable (R.IsServedBy r) := inferInstanceAs (Decidable (_ ∧ _ ∧ _))

instance (T : List KernelRoute) : Decidable (R.ServedIn T) :=
  inferInstanceAs (Decidable (∃ r ∈ T, R.IsServedBy r))

instance (T : List KernelRoute) : Decidable (R.FreeIn T) :=
  inferInstanceAs (Decidable (∀ r ∈ T, ¬ R.Clashes r))

instance (T : List KernelRoute) : Decidable (R.BlockedIn T) :=
  inferInstanceAs (Decidable (_ ∧ _))

variable {R} {T T' : List KernelRoute}

/-- A request is served by the route that is kept of it. -/
theorem isServedBy_kept (R : RouteRequest) : R.IsServedBy R.kept := ⟨⟨rfl, rfl⟩, rfl, rfl⟩

/-- What is served stays served in a larger table. -/
theorem ServedIn.mono (h : R.ServedIn T) (hT : T ⊆ T') : R.ServedIn T' := by
  obtain ⟨r, hr, hserved⟩ := h
  exact ⟨r, hT hr, hserved⟩

/-- What is free is free in a smaller table. -/
theorem FreeIn.anti (h : R.FreeIn T') (hT : T ⊆ T') : R.FreeIn T := fun r hr ↦ h r (hT hr)

/-- What serves a request serves all that its route would serve. -/
theorem IsServedBy.trans {R' : RouteRequest} {r : KernelRoute} (h : R.IsServedBy R'.kept)
    (hr : R'.IsServedBy r) : R.IsServedBy r := by
  obtain ⟨⟨htable, hdestination⟩, hgateway, hdevice⟩ := h
  obtain ⟨⟨htable', hdestination'⟩, hgateway', hdevice'⟩ := hr
  exact ⟨⟨htable'.trans htable, hdestination'.trans hdestination⟩, hgateway'.trans hgateway,
    hdevice'.trans hdevice⟩

/-- The command for a route adds nothing but a route. -/
theorem exists_addition {A : Addition} (h : A.command = R.addition.command) :
    ∃ R' : RouteRequest, A = R'.addition := by
  cases A with
  | address link a => simp [addition, Addition.command, Network.addAddress, Network.addRoute,
      Network.ip] at h
  | route destination gateway device metric table =>
    exact ⟨⟨destination, gateway, device, metric, table⟩, rfl⟩
  | rule source table priority => simp [addition, Addition.command, Network.addRule,
      Network.addRoute, Network.ip] at h

theorem isAdd_command (R : RouteRequest) : Network.IsAdd R.addition.command :=
  R.addition.isAdd_command

end RouteRequest

/-- The exchange asks for a route to be added. -/
def Exchange.AddsRoute (e : Exchange) : Prop :=
  ∃ (R : RouteRequest) (answer : Except RunFault String), e = .run R.addition.command answer

/-- A host with routing tables. -/
structure RouteTables {σ : Type} (H : Host σ) where
  /-- The routes of all tables in a state. -/
  routes : σ → List KernelRoute
  /-- A listing that is given shows the routes to its network in its table. -/
  shown : ∀ {destination table k text k'},
    H.run (Network.showRoutes destination table) k = (.ok text, k') →
      Listing.routes text =
        .ok (((routes k).filter fun r ↦ r.IsTo destination table).map KernelRoute.listed)
  /-- A route is refused if one to the same network in the same table has the same metric. -/
  refuse : ∀ (R : RouteRequest) k, ¬ R.FreeIn (routes k) →
    (∃ status stderr, (H.run R.addition.command k).1 = .error (.failed status stderr)) ∧
      routes (H.run R.addition.command k).2 = routes k
  /-- Any other route is kept. -/
  keep : ∀ (R : RouteRequest) k, R.FreeIn (routes k) →
    (∃ out, (H.run R.addition.command k).1 = .ok out) ∧
      routes (H.run R.addition.command k).2 = routes k ++ [R.kept]
  /-- Nothing else changes the routes. -/
  other : ∀ {e k k'}, Exchange.Happens H e k k' → ¬ e.AddsRoute → routes k' = routes k

/-! ### One stage -/

/-- The route that a stage makes sure of. -/
def Stage.request? : Stage → Option RouteRequest
  | ensure (.route destination gateway device metric table) =>
    some ⟨destination, gateway, device, metric, table⟩
  | _ => none

/-- A stage requests a route exactly when it ensures its addition. -/
theorem Stage.request?_eq_some_iff {st : Stage} {R : RouteRequest} :
    st.request? = some R ↔ st = .ensure R.addition := by
  constructor
  · intro h
    rcases st with _ | _ | _ | _ | (_ | _ | _) | _ | _ | _ | _ | _ | _ <;> cases h
    rfl
  · rintro rfl
    rfl

/-- The routes that the stages of a word make sure of, in order. -/
def requestsOf (w : List Stage) : List RouteRequest := w.filterMap Stage.request?

theorem requestsOf_cons (st : Stage) (w : List Stage) :
    requestsOf (st :: w) = st.request?.toList ++ requestsOf w := by
  rw [requestsOf, List.filterMap_cons]
  cases st.request? <;> rfl

/-- Some routes were added that were asked for and free. -/
def Grows (Rs : List RouteRequest) (T T' : List KernelRoute) : Prop :=
  ∃ added, T' = T ++ added ∧ ∀ r ∈ added, ∃ R ∈ Rs, r = R.kept ∧ R.FreeIn T

theorem Grows.subset {Rs : List RouteRequest} {T T' : List KernelRoute} (h : Grows Rs T T') :
    T ⊆ T' := by
  obtain ⟨added, rfl, -⟩ := h
  exact List.subset_append_left _ _

theorem Grows.refl {Rs : List RouteRequest} (T : List KernelRoute) : Grows Rs T T :=
  ⟨[], (List.append_nil T).symm, by simp⟩

/-- A table that grows twice grows by what was requested. -/
theorem Grows.trans {Rs : List RouteRequest} {T T₁ T' : List KernelRoute} (h : Grows Rs T T₁)
    (h' : Grows Rs T₁ T') : Grows Rs T T' := by
  have hsub := h.subset
  obtain ⟨added, rfl, hadded⟩ := h
  obtain ⟨added', rfl, hadded'⟩ := h'
  refine ⟨added ++ added', List.append_assoc _ _ _, fun r hr ↦ ?_⟩
  rcases List.mem_append.mp hr with hr | hr
  · exact hadded r hr
  · obtain ⟨R, hR, hkept, hfree⟩ := hadded' r hr
    exact ⟨R, hR, hkept, hfree.anti hsub⟩

theorem Grows.mono {Rs Rs' : List RouteRequest} {T T' : List KernelRoute} (h : Grows Rs T T')
    (hsub : Rs ⊆ Rs') : Grows Rs' T T' := by
  obtain ⟨added, rfl, hadded⟩ := h
  refine ⟨added, rfl, fun r hr ↦ ?_⟩
  obtain ⟨R, hR, hkept⟩ := hadded r hr
  exact ⟨R, hsub hR, hkept⟩

/-- What serves a request afterwards served it before or is a route that was added for one. -/
theorem Grows.served_cases {Rs : List RouteRequest} {T T' : List KernelRoute} {R : RouteRequest}
    (h : Grows Rs T T') (hR : R.ServedIn T') :
    R.ServedIn T ∨ ∃ R' ∈ Rs, R.IsServedBy R'.kept ∧ R'.FreeIn T := by
  obtain ⟨added, rfl, hadded⟩ := h
  obtain ⟨r, hr, hserved⟩ := hR
  rcases List.mem_append.mp hr with hr | hr
  · exact .inl ⟨r, hr, hserved⟩
  · obtain ⟨R', hR', rfl, hfree⟩ := hadded r hr
    exact .inr ⟨R', hR', hserved, hfree⟩

namespace RouteTables

variable {σ : Type} {H : Host σ} (K : RouteTables H) {plan : Plan} {roots : Roots} {l l' : Store}
  {t : List Exchange} {r : Except Failure Unit} {st : Stage} {w : List Stage} {k k' : σ}
  {R : RouteRequest}

/-- A pass misses a route exactly when no route serves it. -/
theorem missingIn_iff {text : String} {k₁ : σ}
    (h : H.run R.addition.listing k = (.ok text, k₁)) :
    R.addition.MissingIn text ↔ ¬ R.ServedIn (K.routes k) := by
  simp only [RouteRequest.addition, Addition.MissingIn, K.shown h, Except.ok.injEq,
    exists_eq_left']
  refine not_congr ⟨?_, ?_⟩
  · rintro ⟨e, he, hgateway, hdevice⟩
    obtain ⟨r, hr, rfl⟩ := List.mem_map.mp he
    obtain ⟨hr, hto⟩ := List.mem_filter.mp hr
    obtain ⟨g, hg, htext⟩ := Option.map_eq_some_iff.mp hgateway
    obtain rfl := Address.text_inj.mp htext
    exact ⟨r, hr, of_decide_eq_true hto, hg, hdevice⟩
  · rintro ⟨r, hr, hto, hgateway, hdevice⟩
    exact ⟨r.listed, List.mem_map_of_mem (List.mem_filter.mpr ⟨hr, decide_eq_true hto⟩),
      by rw [KernelRoute.listed, hgateway]; rfl, hdevice⟩

/-- Looking for a route changes no table. -/
theorem routes_listing {answer : Except RunFault String} {k₁ : σ}
    (h : (Exchange.run R.addition.listing answer).Happens H k k₁) :
    K.routes k₁ = K.routes k := by
  refine K.other h ?_
  rintro ⟨R', answer', he⟩
  exact Network.ne_command_of_isQuery R.addition.isQuery_listing _ (Exchange.run.inj he).1

/-- Making sure of a route finds it or fails, or else adds it. -/
theorem of_ensure (h : (Stage.ensure R.addition).Takes plan l t r l') (hk : Leads H t k k') :
    (K.routes k' = K.routes k ∧ (r = .ok () → R.ServedIn (K.routes k))) ∨
      R.FreeIn (K.routes k) ∧ K.routes k' = K.routes k ++ [R.kept] := by
  obtain ⟨⟨answer, rfl, hread⟩ | ⟨text, answer, rfl, hmissing, hadd⟩, -⟩ := h
  · obtain ⟨k₁, hlook, hnil⟩ := leads_cons_iff.mp hk
    obtain rfl := leads_nil_iff.mp hnil
    refine .inl ⟨K.routes_listing hlook, ?_⟩
    rintro rfl
    rcases answer with fault | text
    · cases hread
    · have hfound : R.addition.recognise text = .ok true := hread
      by_cases hserved : R.ServedIn (K.routes k)
      · exact hserved
      · rw [Addition.recognise_eq_ok_false_iff.mpr ((K.missingIn_iff hlook).mpr hserved)] at hfound
        cases hfound
  · obtain ⟨k₁, hlook, hk⟩ := leads_cons_iff.mp hk
    obtain ⟨_, hrun, hnil⟩ := leads_cons_iff.mp hk
    obtain rfl := leads_nil_iff.mp hnil
    have hrun : H.run R.addition.command k₁ = (answer, k') := hrun
    rw [← K.routes_listing hlook]
    by_cases hfree : R.FreeIn (K.routes k₁)
    · have hkeep := (K.keep R k₁ hfree).2
      rw [hrun] at hkeep
      exact .inr ⟨hfree, hkeep⟩
    · obtain ⟨⟨status, stderr, hanswer⟩, hsame⟩ := K.refuse R k₁ hfree
      rw [hrun] at hanswer hsame
      refine .inl ⟨hsame, ?_⟩
      rintro rfl
      obtain rfl : answer = .error (.failed status stderr) := hanswer
      cases hadd

/-- A stage that makes sure of no route changes none. -/
theorem of_request?_eq_none (hst : st.MayOccur roots plan) (hnone : st.request? = none)
    (h : st.Takes plan l t r l') (hk : Leads H t k k') : K.routes k' = K.routes k := by
  have hnot : ∀ e ∈ t, ¬ e.AddsRoute := by
    rintro e he ⟨R, answer, rfl⟩
    obtain ⟨A, rfl, hA⟩ := (h.makes he).of_isAdd hst R.isAdd_command
    obtain ⟨R', rfl⟩ := RouteRequest.exists_addition hA.symm
    cases hnone
  clear h
  induction hk with
  | nil k => rfl
  | cons he _ ih =>
    rw [ih fun e he ↦ hnot e (List.mem_cons_of_mem _ he), K.other he (hnot _ List.mem_cons_self)]

/-- A stage adds no route but its own, and only if it was free. -/
theorem grows_of_takes (hst : st.MayOccur roots plan) (h : st.Takes plan l t r l')
    (hk : Leads H t k k') : Grows st.request?.toList (K.routes k) (K.routes k') := by
  rcases hrequest : st.request? with - | R
  · rw [K.of_request?_eq_none hst hrequest h hk]
    exact .refl _
  · obtain rfl := Stage.request?_eq_some_iff.mp hrequest
    rcases K.of_ensure h hk with ⟨hsame, -⟩ | ⟨hfree, hkept⟩
    · rw [hsame]
      exact .refl _
    · exact ⟨[R.kept], hkept, by simpa using hfree⟩

/-! ### Whole passes -/

/-- **A pass adds routes that it asks for and that were free**, and removes none. -/
theorem grows (hw : ∀ st ∈ w, st.MayOccur roots plan) (h : Follows plan w l t r l')
    (hk : Leads H t k k') : Grows (requestsOf w) (K.routes k) (K.routes k') := by
  induction h generalizing k with
  | done l =>
    obtain rfl := leads_nil_iff.mp hk
    exact .refl _
  | @step st w _ _ _ _ _ _ h _ ih =>
    obtain ⟨k₁, hk₁, hk⟩ := leads_append_iff.mp hk
    rw [requestsOf_cons]
    exact ((K.grows_of_takes (hw st List.mem_cons_self) h hk₁).mono
      (List.subset_append_left _ _)).trans
      ((ih (fun st hst ↦ hw st (List.mem_cons_of_mem _ hst)) hk).mono
        (List.subset_append_right _ _))
  | @stop st w _ _ _ _ h =>
    rw [requestsOf_cons]
    exact (K.grows_of_takes (hw st List.mem_cons_self) h hk).mono (List.subset_append_left _ _)

/-- **Behind stages that were passed, all routes that they ask for are there.** -/
theorem served (hw : ∀ st ∈ w, st.MayOccur roots plan) (h : Follows plan w l t (.ok ()) l')
    (hk : Leads H t k k') : ∀ R ∈ requestsOf w, R.ServedIn (K.routes k') := by
  generalize hr : (.ok () : Except Failure Unit) = r at h
  induction h generalizing k with
  | done l => simp [requestsOf]
  | @step st w _ _ _ _ _ _ h hrest ih =>
    obtain ⟨k₁, hk₁, hk⟩ := leads_append_iff.mp hk
    have hw' : ∀ st ∈ w, st.MayOccur roots plan := fun st hst ↦ hw st (List.mem_cons_of_mem _ hst)
    intro R hR
    rw [requestsOf_cons] at hR
    rcases List.mem_append.mp hR with hR | hR
    · obtain rfl := Stage.request?_eq_some_iff.mp (Option.mem_toList.mp hR)
      refine RouteRequest.ServedIn.mono ?_ (K.grows hw' hrest hk).subset
      rcases K.of_ensure h hk₁ with ⟨hsame, hserved⟩ | ⟨-, hkept⟩
      · rw [hsame]
        exact hserved rfl
      · rw [hkept]
        exact ⟨R.kept, by simp, R.isServedBy_kept⟩
    · exact ih hw' hk hr R hR
  | stop h => cases hr

/-- **A refused addition was blocked**, and it changes nothing. -/
theorem blocked_of_leads {text : String} {fault : RunFault}
    (hmissing : R.addition.MissingIn text)
    (hk : Leads H [.run R.addition.listing (.ok text), .run R.addition.command (.error fault)]
      k k') :
    R.BlockedIn (K.routes k) ∧ K.routes k' = K.routes k ∧
      ∃ status stderr, fault = .failed status stderr := by
  obtain ⟨k₁, hlook, hk⟩ := leads_cons_iff.mp hk
  obtain ⟨_, hrun, hnil⟩ := leads_cons_iff.mp hk
  obtain rfl := leads_nil_iff.mp hnil
  have hrun : H.run R.addition.command k₁ = (.error fault, k') := hrun
  have hserved := (K.missingIn_iff hlook).mp hmissing
  rw [← K.routes_listing hlook] at hserved ⊢
  have hfree : ¬ R.FreeIn (K.routes k₁) := fun hfree ↦ by
    obtain ⟨⟨out, hok⟩, -⟩ := K.keep R k₁ hfree
    rw [hrun] at hok
    cases hok
  obtain ⟨⟨status, stderr, hanswer⟩, hsame⟩ := K.refuse R k₁ hfree
  rw [hrun] at hanswer hsame
  exact ⟨⟨hserved, hfree⟩, hsame, status, stderr, Except.error.inj hanswer⟩

end RouteTables

end DpuNetwork
