import DpuNetwork.Proofs.Agreement
import DpuNetwork.Proofs.Course.FailFast
import DpuNetwork.Proofs.Kernel.Routes
import DpuNetwork.Proofs.Routing.TabledHost

/-!
# What becomes of a pass on routing tables

A pass adds the routes that it misses and replaces none. So a route of an earlier gateway that the
kernel does not keep beside the current one is in the way for good: the pass misses the current
route, the kernel refuses it, and the pass ends there, before it tells the overlay switch anything.
When nothing else goes wrong, this is the only thing that keeps a pass from success
(`makePass_settles`), and no later pass gets past it either (`history_staysBlocked`).

## Main statements

* `makePass_settles`: when a pass on routing tables succeeds, and what it leaves behind;
* `makePass_staleRoute`: one route to the tunnel endpoints by an earlier gateway keeps a pass from
  success;
* `history_staysBlocked`: it does so in all passes.
-/

namespace DpuNetwork

open Ipv4 Pass

/-! ### The routes that a pass asks for -/

namespace Plan

variable (plan : Plan) (gateway : Address) (x : Findings)

/-- The route to the tunnel endpoints over the overlay. -/
def overlayRoute : RouteRequest := ⟨plan.endpoints, gateway, overlayBridge, none, none⟩

/-- The route to the hosts over the overlay. -/
def hostRoute : RouteRequest := ⟨plan.hosts, gateway, overlayBridge, some hostRouteMetric, none⟩

/-- The route to the tunnel endpoints over the out-of-band network. -/
def policyRoute : RouteRequest :=
  ⟨plan.endpoints, gateway, outOfBandBridge, none, some policyTable⟩

/-- The gateway of the overlay. -/
def overlayGateway : Address :=
  match plan.mode with
  | .internal m => m.gateway
  | .external _ => x.gateway

/-- The routes that a pass asks for, in order. -/
def requests : List RouteRequest :=
  (match plan.mode with
    | .internal m => if plan.endpoints.prefixLength < m.endpoint.prefixLength then
        [plan.overlayRoute m.gateway] else []
    | .external _ => []) ++
  [plan.hostRoute (plan.overlayGateway x), plan.policyRoute x.defaultGateway]

end Plan

variable {plan : Plan} {roots : Roots} {l l' : Store} {t : List Exchange}
  {r : Except Failure Unit} {st : Stage} {w : List Stage} {x : Findings} {now : Nat}

theorem requestsOf_course (plan : Plan) (roots : Roots) (now : Nat) (x : Findings) :
    requestsOf (plan.course roots now x) = plan.requests x := by
  rcases hmode : plan.mode with m | m
  · simp only [Plan.course, Plan.bridgeCourse, Plan.requests, Plan.overlayGateway, hmode,
      InternalMode.course, InternalMode.approach]
    split <;> rfl
  · simp only [Plan.course, Plan.bridgeCourse, Plan.requests, Plan.overlayGateway, hmode]
    rfl

theorem hostRoute_mem_requests : plan.hostRoute (plan.overlayGateway x) ∈ plan.requests x := by
  simp [Plan.requests]

theorem policyRoute_mem_requests : plan.policyRoute x.defaultGateway ∈ plan.requests x := by
  simp [Plan.requests]

/-- The kernel keeps all these routes beside each other: those of the main table have different
metrics. -/
theorem pairwise_requests (plan : Plan) (x : Findings) :
    (plan.requests x).Pairwise fun R' R ↦ ¬ R.Clashes R'.kept := by
  have hmetric (g g' : Address) : ¬ (plan.hostRoute g).Clashes (plan.overlayRoute g').kept := by
    rintro ⟨-, hmetric⟩
    have hmetric : 0 = hostRouteMetric := hmetric
    exact absurd hmetric (by decide)
  have htable {R : RouteRequest} (hR : R.table = none) (g : Address) :
      ¬ (plan.policyRoute g).Clashes R.kept := by
    rintro ⟨⟨htable, -⟩, -⟩
    have htable : R.table.getD mainTable = policyTable := htable
    rw [hR] at htable
    exact absurd htable (by decide)
  have hoverlay (g g' : Address) : ¬ (plan.policyRoute g).Clashes (plan.overlayRoute g').kept :=
    htable rfl g
  have hhosts (g g' : Address) : ¬ (plan.policyRoute g).Clashes (plan.hostRoute g').kept :=
    htable rfl g
  rw [Plan.requests]
  split
  · split <;> simp [hmetric, hoverlay, hhosts]
  · simp [hhosts]

/-- Some request cannot be met: it is blocked, and none before it would serve it too. -/
def Obstructed (T : List KernelRoute) (Rs : List RouteRequest) : Prop :=
  ∃ (before : List RouteRequest) (R : RouteRequest) (after : List RouteRequest),
    Rs = before ++ R :: after ∧ R.BlockedIn T ∧
    ∀ R' ∈ before, ¬ R.IsServedBy R'.kept

/-- What is blocked where free routes were added was blocked before, if it clashes with none of
them. -/
theorem RouteRequest.BlockedIn.of_grows {R : RouteRequest} {Rs : List RouteRequest}
    {T T' : List KernelRoute} (h : R.BlockedIn T') (hgrows : Grows Rs T T')
    (hclash : ∀ R' ∈ Rs, ¬ R.Clashes R'.kept) : R.BlockedIn T := by
  refine ⟨fun hserved ↦ h.1 (hserved.mono hgrows.subset), fun hfree ↦ h.2 fun r hr ↦ ?_⟩
  obtain ⟨added, rfl, hadded⟩ := hgrows
  rcases List.mem_append.mp hr with hr | hr
  · exact hfree r hr
  · obtain ⟨R', hR', rfl, -⟩ := hadded r hr
    exact hclash R' hR'

/-! ### Stages that were passed -/

/-- Each stage of a word that was passed has taken some of the exchanges. -/
theorem Follows.exists_takes (h : Follows plan w l t (.ok ()) l') (hst : st ∈ w) :
    ∃ l₁ u l₂, st.Takes plan l₁ u (.ok ()) l₂ ∧ u ⊆ t := by
  obtain ⟨before, after, rfl⟩ := List.append_of_mem hst
  obtain ⟨t₁, l₁, u, rfl, -, hrest⟩ := h.ok_append
  obtain ⟨t₂, l₂, u, rfl, htakes, -⟩ := hrest.ok_cons
  exact ⟨l₁, t₂, l₂, htakes, fun e he ↦ by simp [he]⟩

/-- A gateway that was found was told. -/
theorem Follows.tellsGateway (h : Follows plan w l t (.ok ()) l') {destination : Cidr} {g : Address}
    (hst : .findGateway destination g ∈ w) : TellsGateway t destination g := by
  obtain ⟨l₁, u, l₂, ⟨⟨answer, rfl, hread⟩, -⟩, hsub⟩ := h.exists_takes hst
  rcases answer with fault | text
  · cases hread
  · have hread : gatewayIn destination text = .ok g := hread
    obtain ⟨rs, hrs, hg⟩ := Addition.except_bind_eq_ok_iff.mp hread
    exact ⟨text, rs, hsub List.mem_cons_self, hrs, hg⟩

/-- A command that is run for its effect in a stage that was passed has succeeded. -/
theorem takes_perform_ok {c : Command} (h : (Stage.perform c).Takes plan l t (.ok ()) l') :
    ∃ out, t = [.run c (.ok out)] := by
  obtain ⟨⟨answer, rfl, hread⟩, -⟩ := h
  rcases answer with fault | out
  · cases hread
  · exact ⟨out, rfl⟩

/-- A pass that succeeds ends with telling the overlay switch who it is. -/
theorem Follows.identity_suffix (h : Follows plan (plan.course roots now x) l t (.ok ()) l') :
    ∃ o₁ o₂ o₃, [.run (Network.setExternalId "ovn-encap-ip" (plan.endpoint x).text) (.ok o₁),
      .run (Network.setExternalId "host-k8s-nodename" x.hostName) (.ok o₂),
      .run (Network.setExternalId "hostname" x.hostName) (.ok o₃)] <:+ t := by
  rw [course_eq_append] at h
  obtain ⟨t₀, l₀, u, rfl, -, h⟩ := h.ok_append
  obtain ⟨t₁, l₁, u, rfl, h₁, h⟩ := h.ok_cons
  obtain ⟨t₂, l₂, u, rfl, h₂, h⟩ := h.ok_cons
  obtain ⟨t₃, l₃, u, rfl, h₃, h⟩ := h.ok_cons
  obtain ⟨rfl, -, -⟩ := follows_nil_iff.mp h
  obtain ⟨o₁, rfl⟩ := takes_perform_ok h₁
  obtain ⟨o₂, rfl⟩ := takes_perform_ok h₂
  obtain ⟨o₃, rfl⟩ := takes_perform_ok h₃
  exact ⟨o₁, o₂, o₃, t₀, rfl⟩

/-- Routes are asked for before the overlay switch is told anything. -/
theorem eq_append_of_course_eq {before after : List Stage} {R : RouteRequest}
    (h : plan.course roots now x = before ++ Stage.ensure R.addition :: after) :
    ∃ v, plan.courseToIdentity roots now x = before ++ Stage.ensure R.addition :: v := by
  rw [course_eq_append] at h
  rcases append_eq_append_cons h with ⟨pre, -, hidentity⟩ | ⟨v, hfront, -⟩
  · have hmem : .ensure R.addition ∈ Plan.identityCourse (plan.endpoint x) x.hostName :=
      hidentity ▸ by simp
    simp [Plan.identityCourse] at hmem
  · exact ⟨v, hfront⟩

/-! ### Passes in which nothing else goes wrong -/

/-- Nothing but an addition of a route goes wrong in a pass: no other answer is refused, every file
can be written, and the DHCP server can be told the MTU. -/
structure Undisturbed {σ : Type} (plan : Plan) (p : MadePass σ) : Prop where
  /-- No other answer is refused. -/
  accepted : ∀ e ∈ p.after.trace, ¬ e.AddsRoute → e.IsAccepted plan
  /-- Every file can be written. -/
  written : ∀ step path, p.result ≠ .error (.file step path)
  /-- The DHCP server can be told the MTU. -/
  fits : plan.mtu ≤ maxOverlayMtu

/-- Nothing else goes wrong exactly when the pass succeeds or ends with an addition that failed. -/
theorem undisturbed_iff {σ : Type} {p : MadePass σ} (hfits : plan.mtu ≤ maxOverlayMtu)
    (hends : Ends plan p.after.trace p.result l) :
    Undisturbed plan p ↔ p.result = .ok () ∨ ∃ pre R fault,
      p.after.trace = pre ++ [Exchange.run (RouteRequest.addition R).command (.error fault)] := by
  generalize hresult : p.result = r at hends
  generalize htrace : p.after.trace = t at hends
  constructor
  · intro h
    cases hends with
    | accepted hall => exact .inl rfl
    | @refused _ pre e f ht hpre he =>
      by_cases hadd : e.AddsRoute
      · obtain ⟨R, answer, rfl⟩ := hadd
        rcases answer with fault | text
        · exact .inr ⟨pre, R, fault, ht⟩
        · exact absurd he (isAccepted_of_not_isQuery (not_isQuery_command R.addition) text f)
      · exact absurd he (h.accepted e (by rw [htrace, ht]; simp) hadd f)
    | unwritten _ _ => exact absurd hresult (h.written _ _)
    | unfit _ hmtu => exact absurd hfits (Nat.not_le.mpr hmtu)
  · rintro (rfl | ⟨pre, R, fault, rfl⟩)
    · cases hends with
      | accepted hall =>
        refine ⟨fun e he _ ↦ hall e (htrace ▸ he), fun step path h ↦ ?_, hfits⟩
        rw [hresult] at h
        cases h
    · have hrefused : (Exchange.run R.addition.command (.error fault)).Refused plan
          (fault.toFailure R.addition.command) := .run _ fault
      obtain ⟨-, f, hf, rfl⟩ := hends.refused_last rfl hrefused
      refine ⟨fun e he hadd ↦ ?_, fun step path h ↦ ?_, hfits⟩
      · rw [htrace] at he
        rcases List.mem_append.mp he with he | he
        · cases hends with
          | refused ht hpre _ =>
            obtain ⟨rfl, -⟩ := List.append_inj' ht rfl
            exact hpre e he
          | unwritten hall _ => exact absurd hrefused (hall _ (by simp) _)
          | unfit hall _ => exact absurd hrefused (hall _ (by simp) _)
        · exact absurd ⟨R, .error fault, List.mem_singleton.mp he⟩ hadd
      · -- A command does not fail as a file does.
        rw [hresult, hf.eq_toFailure] at h
        cases fault <;> cases h

/-- A pass ended with the refusal of a route: it was blocked before the pass and is blocked after
it, and the overlay switch was told nothing. -/
structure EndsBlocked {σ : Type} {H : Host σ} (K : RouteTables H) (p : MadePass σ)
    (R : RouteRequest) : Prop where
  /-- It was blocked. -/
  before : R.BlockedIn (K.routes p.before.host)
  /-- It is blocked. -/
  after : R.BlockedIn (K.routes p.after.host)
  /-- It was missed, its addition was refused, and that is the result. -/
  refused : ∃ pre text status stderr,
    p.after.trace = pre ++ [Exchange.run R.addition.listing (.ok text),
      Exchange.run R.addition.command (.error (.failed status stderr))] ∧
    p.result = .error (.command R.addition.command.text status stderr)
  /-- The overlay switch was told nothing. -/
  silent : ∀ key value answer, Exchange.run (Network.setExternalId key value) answer ∉ p.after.trace

/-- What becomes of a pass on routing tables in which nothing else goes wrong. -/
structure Settles {σ : Type} {H : Host σ} (K : RouteTables H) (roots : Roots) (plan : Plan)
    (p : MadePass σ) (x : Findings) : Prop where
  /-- It follows its course, on which it finds the gateways. -/
  follows : Follows plan (plan.course roots p.now x) p.before.store p.after.trace p.result
    p.after.store
  /-- It succeeds exactly when no route that it asks for is obstructed by what is in the tables. -/
  ok_iff : p.result = .ok () ↔ ¬ Obstructed (K.routes p.before.host) (plan.requests x)
  /-- If it succeeds, the policy table leads to the tunnel endpoints over the out-of-band default
  gateway, and the main table leads to the hosts over the gateway of the overlay, both as they were
  looked up, and the overlay switch was told who it is. -/
  settled : p.result = .ok () →
    TellsGateway p.after.trace Cidr.defaultRoute x.defaultGateway ∧
    (∀ m, plan.mode = .external m → TellsGateway p.after.trace m.discovery x.gateway) ∧
    (plan.policyRoute x.defaultGateway).ServedIn (K.routes p.after.host) ∧
    (plan.hostRoute (plan.overlayGateway x)).ServedIn (K.routes p.after.host) ∧
    ∃ o₁ o₂ o₃, [.run (Network.setExternalId "ovn-encap-ip" (plan.endpoint x).text) (.ok o₁),
      .run (Network.setExternalId "host-k8s-nodename" x.hostName) (.ok o₂),
      .run (Network.setExternalId "hostname" x.hostName) (.ok o₃)] <:+ p.after.trace
  /-- Otherwise it ends with the refusal of a route that it asks for. -/
  stuck : p.result ≠ .ok () → ∃ R ∈ plan.requests x, EndsBlocked K p R

namespace RouteTables

variable {σ : Type} {H : Host σ} (K : RouteTables H) {k k' : σ}

/-- Where the addition of a route was refused: it was missed there and blocked, and all routes asked
for before it are there. -/
theorem blocked_of_refused (hw : ∀ st ∈ w, st.MayOccur roots plan) {pre : List Exchange}
    {R₀ : RouteRequest} {fault : RunFault}
    (h : Follows plan w l (pre ++ [Exchange.run R₀.addition.command (.error fault)]) r l')
    (hk : Leads H (pre ++ [Exchange.run R₀.addition.command (.error fault)]) k k') :
    ∃ (before : List Stage) (R : RouteRequest) (after : List Stage) (p : List Exchange)
      (text status stderr : String), w = before ++ Stage.ensure R.addition :: after ∧
      Follows plan before l p (.ok ()) l' ∧
      pre = p ++ [Exchange.run R.addition.listing (.ok text)] ∧
      R₀.addition.command = R.addition.command ∧ fault = .failed status stderr ∧
      r = .error (.command R.addition.command.text status stderr) ∧ R.BlockedIn (K.routes k') ∧
      (∀ R' ∈ requestsOf before, R'.ServedIn (K.routes k')) ∧
      Grows (requestsOf before) (K.routes k) (K.routes k') := by
  obtain ⟨before, st, after, p, q, v, u, l₁, r₁, l₂, rfl, rfl, hnil, hbefore, hst, hafter⟩ :=
    h.locate
  obtain ⟨rfl, rfl⟩ := List.nil_eq_append_iff.mp hnil
  have hoccur : st.MayOccur roots plan := hw st (by simp)
  have hpassed : ∀ st ∈ before, st.MayOccur roots plan :=
    fun st hst ↦ hw st (List.mem_append_left _ hst)
  obtain ⟨A, text, rfl, hA, rfl, hmissing⟩ := hst.of_isAdd hoccur R₀.isAdd_command
  obtain ⟨R, rfl⟩ := RouteRequest.exists_addition hA.symm
  rw [hA] at hst hk
  -- Its stage has made the addition, so it ends with the fault.
  obtain ⟨⟨answer, hone, -⟩ | ⟨text', answer, htwo, -, hanswer⟩, rfl⟩ := hst
  · cases hone
  obtain ⟨-, rfl⟩ : _ ∧ .error fault = answer := by simpa using htwo
  obtain rfl : r₁ = .error (fault.toFailure R.addition.command) := hanswer.symm
  obtain ⟨-, rfl, rfl⟩ := hafter
  rw [List.append_assoc] at hk
  obtain ⟨k₁, hk₁, hk₂⟩ := leads_append_iff.mp hk
  obtain ⟨hblocked, hsame, status, stderr, rfl⟩ := K.blocked_of_leads hmissing hk₂
  rw [← hsame] at hblocked
  refine ⟨before, R, after, p, text, status, stderr, rfl, hbefore, rfl, hA, rfl, rfl, hblocked,
    ?_, ?_⟩
  · rw [hsame]
    exact K.served hpassed hbefore hk₁
  · rw [hsame]
    exact K.grows hpassed hbefore hk₁

/-- Nothing obstructs a pass that succeeds. -/
theorem not_obstructed (h : Follows plan (plan.course roots now x) l t (.ok ()) l')
    (hk : Leads H t k k') : ¬ Obstructed (K.routes k) (plan.requests x) := by
  rintro ⟨Rs, R, Rs', hRs, hblocked, hnone⟩
  have hw {st : Stage} (hst : st ∈ plan.course roots now x) : st.MayOccur roots plan :=
    mayOccur_of_mem_course hst
  -- The stages before its turn.
  rw [← requestsOf_course plan roots now, requestsOf,
    List.filterMap_eq_append_iff] at hRs
  obtain ⟨before, rest, hcourse, rfl, hrest⟩ := hRs
  obtain ⟨between, st, after, rfl, hbetween, hst, rfl⟩ := List.filterMap_eq_cons_iff.mp hrest
  obtain rfl := Stage.request?_eq_some_iff.mp hst
  have hbetween : requestsOf between = [] := List.filterMap_eq_nil_iff.mpr hbetween
  rw [← List.append_assoc] at hcourse
  rw [hcourse] at h hw
  obtain ⟨t₁, l₁, u, rfl, hbefore, h⟩ := h.ok_append
  obtain ⟨t₂, l₂, u, rfl, htakes, -⟩ := h.ok_cons
  obtain ⟨k₁, hk₁, hk⟩ := leads_append_iff.mp hk
  obtain ⟨k₂, hk₂, -⟩ := leads_append_iff.mp hk
  have hgrows := K.grows (fun st hst ↦ hw (List.mem_append_left _ hst)) hbefore hk₁
  have hrequests : requestsOf (before ++ between) = requestsOf before := by
    rw [requestsOf, List.filterMap_append, ← requestsOf, ← requestsOf, hbetween, List.append_nil]
  rw [hrequests] at hgrows
  rcases K.of_ensure htakes hk₂ with ⟨-, hserved⟩ | ⟨hfree, -⟩
  · rcases hgrows.served_cases (hserved rfl) with hserved | ⟨R', hR', hserved, -⟩
    · exact hblocked.1 hserved
    · exact hnone R' hR' hserved
  · exact hblocked.2 (hfree.anti hgrows.subset)

/-- **What becomes of a pass on routing tables** that follows its course. -/
theorem settles {p : MadePass σ}
    (hw : Follows plan (plan.course roots p.now x) p.before.store p.after.trace p.result
      p.after.store)
    (hk : Leads H p.after.trace p.before.host p.after.host) (h : Undisturbed plan p) :
    Settles K roots plan p x := by
  have hoccur : ∀ st ∈ plan.course roots p.now x, st.MayOccur roots plan :=
    fun _ hst ↦ mayOccur_of_mem_course hst
  -- A pass that fails ends with a refused addition, and its route was blocked from the beginning:
  -- no two requests clash, so none of the routes that were added before it is in its way.
  have hstuck (hne : p.result ≠ .ok ()) :
      Obstructed (K.routes p.before.host) (plan.requests x) ∧
        ∃ R ∈ plan.requests x, EndsBlocked K p R := by
    obtain ⟨pre, R₀, fault, ht⟩ :=
      ((undisturbed_iff h.fits (hw.ends hoccur)).mp h).resolve_left hne
    rw [ht] at hw hk
    obtain ⟨before, R, after, u, text, status, stderr, hcourse, hbefore, rfl, hR₀, rfl, hresult,
      hblocked, hserved, hgrows⟩ := K.blocked_of_refused hoccur hw hk
    have hrequests : plan.requests x = requestsOf before ++ R :: requestsOf after := by
      rw [← requestsOf_course plan roots p.now, hcourse, requestsOf,
        List.filterMap_append]
      rfl
    have hpair := pairwise_requests plan x
    rw [hrequests, List.pairwise_append] at hpair
    have hfirst : R.BlockedIn (K.routes p.before.host) :=
      hblocked.of_grows hgrows fun R' hR' ↦ hpair.2.2 R' hR' R List.mem_cons_self
    refine ⟨⟨_, R, _, hrequests, hfirst, fun R' hR' hserves ↦ ?_⟩, R, by simp [hrequests], hfirst,
      hblocked, ⟨u, text, status, stderr, ?_, hresult⟩, fun key value answer hmem ↦ ?_⟩
    · -- A route before it that serves it too would be there, and it would not be missed.
      obtain ⟨r, hr, hR'r⟩ := hserved R' hR'
      exact hblocked.1 ⟨r, hr, hserves.trans hR'r⟩
    · rw [ht, hR₀, List.append_assoc]
      rfl
    · obtain ⟨v, hfront⟩ := eq_append_of_course_eq hcourse
      rw [ht, List.append_assoc] at hmem
      rcases List.mem_append.mp hmem with hmem | hmem
      · obtain ⟨st, hst, hmakes⟩ := hbefore.makes hmem
        exact not_makes_setExternalId (hfront ▸ List.mem_append_left _ hst) key value answer hmakes
      · simp only [List.cons_append, List.nil_append, List.mem_cons, List.not_mem_nil, or_false,
          Exchange.run.injEq] at hmem
        rcases hmem with ⟨hc, -⟩ | ⟨hc, -⟩
        · exact not_isQuery_setExternalId key value (hc ▸ R.addition.isQuery_listing)
        · exact Network.setExternalId_ne_command key value R₀.addition hc
  refine ⟨hw, ⟨fun hok ↦ ?_, fun hnot ↦ ?_⟩, fun hok ↦ ?_, fun hne ↦ (hstuck hne).2⟩
  · rw [hok] at hw
    exact K.not_obstructed hw hk
  · by_cases hok : p.result = .ok ()
    · exact hok
    · exact absurd (hstuck hok).1 hnot
  · rw [hok] at hw
    have hserved := K.served hoccur hw hk
    rw [requestsOf_course] at hserved
    refine ⟨hw.tellsGateway (by simp [Plan.course, Plan.routingCourse]),
      fun m hmode ↦ hw.tellsGateway (by
        simp [Plan.course, Plan.bridgeCourse, hmode, ExternalMode.course]),
      hserved _ policyRoute_mem_requests, hserved _ hostRoute_mem_requests, hw.identity_suffix⟩

end RouteTables

/-- A pass that was made follows its course and leads its host along its trace. -/
theorem exists_follows_of_eq {σ : Type} (H : Host σ) (roots : Roots) (plan : Plan)
    (memory : Memory) (v : Visit σ) {p : MadePass σ} (hp : p = makePass H roots plan memory v) :
    ∃ x, Follows plan (plan.course roots p.now x) p.before.store p.after.trace p.result
        p.after.store ∧ Leads H p.after.trace p.before.host p.after.host := by
  subst hp
  obtain ⟨x, hw⟩ := makePass_follows H roots plan memory v
  exact ⟨x, hw, makePass_leads H roots plan memory v⟩

/-- **What becomes of a pass on routing tables.** If nothing but an addition of a route goes wrong,
it succeeds exactly when no route that it asks for is obstructed by the tables that it finds; then
it leaves the current routes behind, and the overlay switch knows who it is. Otherwise it ends with
the refusal of a route that was blocked and stays blocked. -/
theorem makePass_settles {σ : Type} {H : Host σ} (K : RouteTables H) (roots : Roots) (plan : Plan)
    (memory : Memory) (v : Visit σ) (h : Undisturbed plan (makePass H roots plan memory v)) :
    ∃ x, Settles K roots plan (makePass H roots plan memory v) x := by
  obtain ⟨x, hw, hk⟩ := exists_follows_of_eq H roots plan memory v rfl
  exact ⟨x, K.settles hw hk h⟩

/-! ### A small host with routing tables -/

namespace Exchange

/-- The command that was run with success, and its output. -/
def output? : Exchange → Option (Command × String)
  | run c (.ok text) => some (c, text)
  | _ => none

/-- The command that failed, and how. -/
def failure? : Exchange → Option (Command × RunFault)
  | run c (.error fault) => some (c, fault)
  | _ => none

theorem output?_eq_some_iff {e : Exchange} {c : Command} {text : String} :
    e.output? = some (c, text) ↔ e = .run c (.ok text) := by
  rcases e with ⟨c', _ | text'⟩ | _ | _ | _ | _ | _ <;> simp [output?]

theorem failure?_eq_some_iff {e : Exchange} {c : Command} {fault : RunFault} :
    e.failure? = some (c, fault) ↔ e = .run c (.error fault) := by
  rcases e with ⟨c', fault' | _⟩ | _ | _ | _ | _ | _ <;> simp [failure?]

theorem mem_iff_output? {c : Command} {text : String} :
    .run c (.ok text) ∈ t ↔ (c, text) ∈ t.filterMap output? := by
  simp [List.mem_filterMap, output?_eq_some_iff]

end Exchange

/-- A visit to the host of the lease with some routes in its tables. -/
def tabledVisit (T : List KernelRoute) : Visit Tabled where
  now := leaseVisit.now
  host := ⟨leaseVisit.host, T⟩
  files := leaseVisit.files

/-- The first pass on such a visit. -/
def tabledPass (T : List KernelRoute) : MadePass Tabled :=
  makePass tabledHost {} leasePlan leasePlan.memory (tabledVisit T)

theorem exists_follows_tabledPass (T : List KernelRoute) :
    ∃ x, Follows leasePlan (leasePlan.course {} (tabledPass T).now x) (tabledPass T).before.store
        (tabledPass T).after.trace (tabledPass T).result (tabledPass T).after.store ∧
      Leads tabledHost (tabledPass T).after.trace (tabledPass T).before.host
        (tabledPass T).after.host :=
  exists_follows_of_eq tabledHost {} leasePlan leasePlan.memory (tabledVisit T) rfl

theorem undisturbed_tabledPass_iff {T : List KernelRoute} :
    Undisturbed leasePlan (tabledPass T) ↔ (tabledPass T).result = .ok () ∨ ∃ pre R fault,
      (tabledPass T).after.trace =
        pre ++ [Exchange.run (RouteRequest.addition R).command (.error fault)] := by
  obtain ⟨x, hw, -⟩ := exists_follows_tabledPass T
  exact undisturbed_iff (by decide) (hw.ends fun _ hst ↦ mayOccur_of_mem_course hst)

/-- A route to the tunnel endpoints through an earlier default gateway. -/
def staleRoute : KernelRoute := (leasePlan.policyRoute ⟨0x0a0300fd⟩).kept

/-- The route to the tunnel endpoints through the current default gateway. -/
def currentRoute : RouteRequest := leasePlan.policyRoute ⟨0x0a0300fe⟩

/-- On empty tables the pass succeeds. With the route of the earlier gateway in the tables, it is
told the current gateway, its last command is the refused addition of the current route, and that
route is not there. -/
theorem tabledPass_outputs :
    (tabledPass []).result.toOption = some () ∧
    (tabledPass [staleRoute]).result.toOption = none ∧
      (Network.lookUp Cidr.defaultRoute, oneRoute "10.3.0.254") ∈
        (tabledPass [staleRoute]).after.trace.filterMap Exchange.output? ∧
      (tabledPass [staleRoute]).after.trace.getLast?.bind Exchange.failure? =
        some (currentRoute.addition.command, fileExists) ∧
      ¬ currentRoute.ServedIn (tabledPass [staleRoute]).after.host.routes := by
  decide +kernel

theorem tabledPass_nil_ok : (tabledPass []).result = .ok () :=
  eq_ok_of_toOption tabledPass_outputs.1

theorem exists_refused_staleRoute : ∃ pre, (tabledPass [staleRoute]).after.trace =
    pre ++ [Exchange.run currentRoute.addition.command (.error fileExists)] := by
  obtain ⟨e, he, hfailure⟩ := Option.bind_eq_some_iff.mp tabledPass_outputs.2.2.2.1
  obtain rfl := Exchange.failure?_eq_some_iff.mp hfailure
  exact List.getLast?_eq_some_iff.mp he

theorem undisturbed_staleRoute : Undisturbed leasePlan (tabledPass [staleRoute]) := by
  obtain ⟨pre, htrace⟩ := exists_refused_staleRoute
  exact undisturbed_tabledPass_iff.mpr (.inr ⟨pre, _, _, htrace⟩)

/-- Both of these passes settle: the one on empty tables, which succeeds, and the one that finds the
route of an earlier gateway, which does not. -/
theorem makePass_settles_twoTables :
    (tabledPass []).result = .ok () ∧ (tabledPass [staleRoute]).result.toOption = none ∧
      (∃ x, Settles tabledHost.tables {} leasePlan (tabledPass []) x) ∧
      ∃ x, Settles tabledHost.tables {} leasePlan (tabledPass [staleRoute]) x :=
  ⟨tabledPass_nil_ok, tabledPass_outputs.2.1,
    makePass_settles tabledHost.tables {} leasePlan leasePlan.memory (tabledVisit [])
      (undisturbed_tabledPass_iff.mpr (.inl tabledPass_nil_ok)),
    makePass_settles tabledHost.tables {} leasePlan leasePlan.memory (tabledVisit [staleRoute])
      undisturbed_staleRoute⟩

/-- **One route of an earlier gateway keeps a pass from success.** Nothing but the addition of the
current route goes wrong: the gateway is told, the kernel refuses the route because of the one that
is there, that is the result, the current route is not there afterwards, and the overlay switch is
told nothing. -/
theorem makePass_staleRoute :
    Undisturbed leasePlan (tabledPass [staleRoute]) ∧
      TellsGateway (tabledPass [staleRoute]).after.trace Cidr.defaultRoute ⟨0x0a0300fe⟩ ∧
      (tabledPass [staleRoute]).result =
        .error (fileExists.toFailure currentRoute.addition.command) ∧
      ¬ currentRoute.ServedIn (tabledPass [staleRoute]).after.host.routes ∧
      ∀ key value answer,
        .run (Network.setExternalId key value) answer ∉ (tabledPass [staleRoute]).after.trace := by
  obtain ⟨-, hnone, htold, -, hmissing⟩ := tabledPass_outputs
  have hroutes : Listing.routes (oneRoute "10.3.0.254") = .ok [⟨some "10.3.0.254", some "eth0"⟩] :=
    routes_toText [("10.3.0.254", "eth0")]
  have hgateway : Listing.firstGateway Cidr.defaultRoute [⟨some "10.3.0.254", some "eth0"⟩] =
      .ok ⟨0x0a0300fe⟩ := eq_ok_of_toOption (by decide +kernel)
  obtain ⟨pre, htrace⟩ := exists_refused_staleRoute
  obtain ⟨x, hw, hk⟩ := exists_follows_tabledPass [staleRoute]
  have hsettles : Settles tabledHost.tables {} leasePlan (tabledPass [staleRoute]) x :=
    tabledHost.tables.settles hw hk undisturbed_staleRoute
  have hne : (tabledPass [staleRoute]).result ≠ .ok () := fun hok ↦ by
    rw [hok] at hnone
    cases hnone
  obtain ⟨R, -, hblocked⟩ := hsettles.stuck hne
  obtain ⟨pre', text, status, stderr, htrace', hresult⟩ := hblocked.refused
  refine ⟨undisturbed_staleRoute, ⟨_, _, Exchange.mem_iff_output?.mpr htold, hroutes, hgateway⟩, ?_,
    hmissing, hblocked.silent⟩
  have hlast : Exchange.run R.addition.command (.error (.failed status stderr)) =
      .run currentRoute.addition.command (.error fileExists) := by
    have heq := congrArg List.getLast? (htrace'.symm.trans htrace)
    simpa using heq
  obtain ⟨hcommand, hfault⟩ := Exchange.run.inj hlast
  rw [hresult, ← hcommand, ← Except.error.inj hfault]
  rfl

/-! ### All passes -/

namespace RouteTables

variable {σ : Type} {H : Host σ} (K : RouteTables H) {k k' : σ} {g : Address}

/-- A blocked route of the policy table stays blocked: nothing is added there while it is. -/
theorem policyRoute_staysBlocked (h : Follows plan (plan.course roots now x) l t r l')
    (hk : Leads H t k k') (hblocked : (plan.policyRoute g).BlockedIn (K.routes k)) :
    (plan.policyRoute g).BlockedIn (K.routes k') := by
  have hgrows := K.grows (fun _ hst ↦ mayOccur_of_mem_course hst) h hk
  rw [requestsOf_course] at hgrows
  refine ⟨fun hserved ↦ ?_, fun hfree ↦ hblocked.2 (hfree.anti hgrows.subset)⟩
  rcases hgrows.served_cases hserved with hserved | ⟨R', hR', ⟨⟨htable, -⟩, -⟩, hfree⟩
  · exact hblocked.1 hserved
  · have htable : R'.table.getD mainTable = policyTable := htable
    have hmain : ¬ (none : Option Nat).getD mainTable = policyTable := by decide
    rw [Plan.requests, List.mem_append] at hR'
    rcases hR' with hR' | hR'
    · split at hR'
      · split at hR'
        · obtain rfl := List.mem_singleton.mp hR'
          exact hmain htable
        · simp at hR'
      · simp at hR'
    · simp only [List.mem_cons, List.not_mem_nil, or_false] at hR'
      rcases hR' with rfl | rfl
      · exact hmain htable
      · -- The gateway makes no difference to the kernel.
        exact hblocked.2 hfree

/-- A pass that is told the gateway of a route that stays blocked does not succeed. -/
theorem ne_ok_of_blocked (h : Follows plan (plan.course roots now x) l t r l') (hk : Leads H t k k')
    (hblocked : (plan.policyRoute g).BlockedIn (K.routes k))
    (hg : ∀ g', TellsGateway t Cidr.defaultRoute g' → g' = g) : r ≠ .ok () := by
  rintro rfl
  have hserved := K.served (fun _ hst ↦ mayOccur_of_mem_course hst) h hk
  rw [requestsOf_course] at hserved
  have hcurrent := hserved _ policyRoute_mem_requests
  have htold : TellsGateway t Cidr.defaultRoute x.defaultGateway :=
    h.tellsGateway (by simp [Plan.course, Plan.routingCourse])
  rw [hg _ htold] at hcurrent
  exact (K.policyRoute_staysBlocked h hk hblocked).1 hcurrent

end RouteTables

/-- **A route of an earlier gateway is in the way for good.** If nothing but the passes of an agent
changes the routes, and the first pass finds the current route to the tunnel endpoints blocked, then
no pass gets rid of what blocks it, and none that is told the current gateway succeeds. -/
theorem history_staysBlocked {σ : Type} {H : Host σ} (K : RouteTables H) (roots : Roots)
    (plan : Plan) (g : Address) (memory : Memory) (vs : List (Visit σ))
    (hfirst : ∀ v ∈ vs.head?, (plan.policyRoute g).BlockedIn (K.routes v.host))
    (hnext : ∀ (before : List (MadePass σ)) (p q : MadePass σ) (after : List (MadePass σ)),
      history H roots plan memory vs = before ++ p :: q :: after →
      K.routes q.before.host = K.routes p.after.host) :
    ∀ p ∈ history H roots plan memory vs, (plan.policyRoute g).BlockedIn (K.routes p.after.host) ∧
      ((∀ g', TellsGateway p.after.trace Cidr.defaultRoute g' → g' = g) → p.result ≠ .ok ()) := by
  induction vs generalizing memory with
  | nil => simp
  | cons v vs ih =>
    obtain ⟨x, hw⟩ := makePass_follows H roots plan memory v
    have hk := makePass_leads H roots plan memory v
    have hblocked : (plan.policyRoute g).BlockedIn (K.routes v.host) := hfirst v rfl
    have hstays := K.policyRoute_staysBlocked hw hk hblocked
    intro p hp
    rcases List.mem_cons.mp hp with rfl | hp
    · exact ⟨hstays, K.ne_ok_of_blocked hw hk hblocked⟩
    · refine ih _ (fun v' hv' ↦ ?_) (fun before p q after h ↦ ?_) p hp
      · obtain ⟨vs', rfl⟩ := List.head?_eq_some_iff.mp hv'
        have hroutes := hnext [] _ _ _ rfl
        rw [makePass_before] at hroutes
        rwa [hroutes]
      · exact hnext (_ :: before) p q after (by rw [history_cons, h]; rfl)

end DpuNetwork
