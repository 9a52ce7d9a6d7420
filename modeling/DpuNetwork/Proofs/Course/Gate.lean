import Mathlib.Data.List.Chain
import DpuNetwork.Proofs.Course.FailFast
import DpuNetwork.Proofs.Course.Server
import DpuNetwork.Proofs.Ipv4.CidrText

/-!
# The gates of a pass

Some interfaces must have exactly one IPv4 address: the bridge of the pod network, the out-of-band
bridge, and in external mode the overlay bridge. Their listings are the gates of a pass
(`Plan.Gates`). It counts the IPv4 entries of all that is listed, whatever interface they stand
under, and goes on exactly if there is one.

The gates of the two other bridges stand one behind the other, with everything that concerns the
policy routing or the overlay switch behind both. The lookup of the default route is the one request
that can also be made for another reason, namely if the discovery network is that of all addresses.

## Main statements

* `refused_showAddresses_iff`: which listings of a gate are refused, and how;
* `Follows.goes_on`: with one address a pass goes on;
* `Follows.passed_of_not_makes`: what stands behind a part of a word that cannot make it;
* `makePass_gated`: the gates of every pass.
-/

namespace DpuNetwork

open Ipv4 Pass

/-- How many IPv4 entries a listing of interfaces holds. -/
def Listing.inetCount (ls : List LinkEntry) : Nat :=
  (ls.flatMap LinkEntry.addresses).countP fun e ↦ e.family == "inet"

/-- The exchange is a listing of an interface that can be read and holds so many IPv4 entries. -/
def Exchange.Shows (link : String) (n : Nat) (e : Exchange) : Prop :=
  ∃ text ls as, e = .run (Network.showAddresses link) (.ok text) ∧ Listing.links text = .ok ls ∧
    Listing.addresses ls = .ok as ∧ Listing.inetCount ls = n

/-- The interfaces that a pass of a plan only goes past if they have exactly one address. -/
def Plan.Gates (plan : Plan) (link : String) : Prop :=
  link = podBridge ∨ link = outOfBandBridge ∨
    (∃ m, plan.mode = .external m) ∧ link = overlayBridge

/-- The failure at a gate with another number of addresses than one. An overlay bridge without
address may still get one. -/
def countFailure (link : String) (n : Nat) : Failure :=
  if link = overlayBridge ∧ n = 0 then .noBridgeAddress link else .addressCount link n

/-- A word that names policy rules or a routing table. -/
def IsPolicyWord (s : String) : Prop := s = "rule" ∨ s = "table"

instance : DecidablePred IsPolicyWord := fun s ↦
  inferInstanceAs (Decidable (s = "rule" ∨ s = "table"))

/-- A command about policy rules, about a routing table other than the main one, or of the overlay
switch: lists and additions of rules, lists and additions of routes in a table of their own, and all
settings of external identifiers. -/
def Command.IsPolicy (c : Command) : Prop :=
  c.program = "ovs-vsctl" ∨ ∃ s ∈ c.args, IsPolicyWord s

/-- The two other bridges were both listed with one address each. -/
def SeenSingle (t : List Exchange) : Prop :=
  (∃ e ∈ t, e.Shows podBridge 1) ∧ ∃ e ∈ t, e.Shows outOfBandBridge 1

variable {plan : Plan} {roots : Roots} {l l' : Store} {t : List Exchange}
  {r : Except Failure Unit} {st : Stage} {w w' : List Stage} {x : Findings} {now : Nat}
  {link text : String} {as : List Cidr}

/-! ### Counting addresses -/

/-- The addresses that are read are as many as there are entries. -/
theorem length_of_addresses {ls : List LinkEntry} (h : Listing.addresses ls = .ok as) :
    as.length = Listing.inetCount ls := by
  rw [← (Addition.except_mapM_eq_ok_iff.mp h).length_eq, Listing.inetEntries,
    ← List.countP_eq_length_filter, Listing.inetCount]

/-- How many addresses an exchange shows is read from the text that was answered. -/
theorem shows_iff {e : Exchange} {n : Nat} : e.Shows link n ↔
    ∃ text as, e = .run (Network.showAddresses link) (.ok text) ∧ addressesIn text = .ok as ∧
      as.length = n := by
  constructor
  · rintro ⟨text, ls, as, rfl, hls, has, rfl⟩
    exact ⟨text, as, rfl, Addition.except_bind_eq_ok_iff.mpr ⟨ls, hls, has⟩,
      length_of_addresses has⟩
  · rintro ⟨text, as, rfl, h, rfl⟩
    obtain ⟨ls, hls, has⟩ := Addition.except_bind_eq_ok_iff.mp h
    exact ⟨text, ls, as, rfl, hls, has, (length_of_addresses has).symm⟩

/-- A readable listing is refused for its number of addresses and for nothing else. -/
theorem onlyAddress_eq_error_iff {f : Failure} (h : addressesIn text = .ok as) :
    onlyAddress link text = .error f ↔ as.length ≠ 1 ∧ f = .addressCount link as.length := by
  rcases as with - | ⟨a, - | ⟨b, as⟩⟩ <;> simp [onlyAddress, h, bind, Except.bind, eq_comm]

/-- So it is with the listing that a lease is read from. -/
theorem leasedAddress_eq_error_iff {f : Failure} (h : addressesIn text = .ok as) :
    leasedAddress text = .error f ↔
      as.length ≠ 1 ∧ f = countFailure overlayBridge as.length := by
  rcases as with - | ⟨a, - | ⟨b, as⟩⟩ <;>
    simp [leasedAddress, h, bind, Except.bind, countFailure, eq_comm]

/-- The failure that passes is that of the overlay bridge. -/
theorem countFailure_of_ne {n : Nat} (h : link ≠ overlayBridge) :
    countFailure link n = .addressCount link n := by
  rw [countFailure, if_neg fun hand ↦ h hand.1]

/-! ### What is refused at a gate -/

/-- The listings that gate a pass are observed. -/
theorem Plan.Gates.observes (h : plan.Gates link) : plan.Observes (Network.showAddresses link) := by
  rcases h with hlink | hlink | ⟨⟨m, hmode⟩, rfl⟩
  · exact Plan.observes_of_link (.inl hlink)
  · exact Plan.observes_of_link (.inr hlink)
  · exact Plan.observes_lease hmode

/-- **A readable listing of a gate is refused** exactly if it does not hold one address. -/
theorem refused_showAddresses_iff {f : Failure} (hlink : plan.Gates link)
    (has : addressesIn text = .ok as) :
    (Exchange.run (Network.showAddresses link) (.ok text)).Refused plan f ↔
      as.length ≠ 1 ∧ f = countFailure link as.length := by
  have hother : podBridge ≠ overlayBridge ∧ outOfBandBridge ≠ overlayBridge := by decide
  constructor
  · intro h
    rcases h.output with
      ⟨A, hA, hc, -⟩ | ⟨link', hlink', hc, hread⟩ | ⟨m, -, hc, hread⟩ | ⟨d, -, hc, -⟩
    · exact absurd hc.symm (Plan.listing_ne_of_observes hlink.observes hA)
    · obtain rfl := Network.showAddresses_inj.mp hc
      rw [countFailure_of_ne (by rcases hlink' with rfl | rfl <;> simp [hother])]
      exact (onlyAddress_eq_error_iff has).mp hread
    · obtain rfl := Network.showAddresses_inj.mp hc
      exact (leasedAddress_eq_error_iff has).mp hread
    · exact absurd hc (Network.showAddresses_ne_lookUp _ _)
  · intro h
    rcases hlink with rfl | rfl | ⟨⟨m, hmode⟩, rfl⟩
    · rw [countFailure_of_ne hother.1] at h
      exact .address (.inl rfl) ((onlyAddress_eq_error_iff has).mpr h)
    · rw [countFailure_of_ne hother.2] at h
      exact .address (.inr rfl) ((onlyAddress_eq_error_iff has).mpr h)
    · exact .lease hmode ((leasedAddress_eq_error_iff has).mpr h)

/-! ### What stands behind a gate -/

/-- The stages that are gates. -/
def Stage.IsGate : Stage → Prop
  | readAddress _ _ | readLease _ => True
  | _ => False

/-- The command of a stage that only observes. -/
def Stage.observed? : Stage → Option Command
  | readAddress link _ => some (Network.showAddresses link)
  | readLease _ => some (Network.showAddresses overlayBridge)
  | findGateway destination _ => some (Network.lookUp destination)
  | _ => none

/-- **What is only observed** is asked for by the stages that only observe. -/
theorem Stage.Makes.of_observes {c : Command} {answer : Except RunFault String}
    (hst : st.MayOccur roots plan) (hc : plan.Observes c) (h : st.Makes plan (.run c answer)) :
    st.observed? = some c := by
  have hquery := Plan.isQuery_of_observes hc
  cases st with
  | perform c' =>
    obtain ⟨_, h⟩ := h
    obtain ⟨rfl, -⟩ := Exchange.run.inj h
    rcases hst with ⟨-, rfl⟩ | ⟨key, value, rfl⟩
    · exact absurd hquery (not_isQuery_setUp _)
    · exact absurd hquery (not_isQuery_setExternalId _ _)
  | applyThrottled now =>
    obtain ⟨_, h⟩ := h
    obtain ⟨rfl, -⟩ := Exchange.run.inj h
    exact absurd hquery not_isQuery_applyBridgeDefinition
  | ensure A =>
    obtain ⟨_, h | h⟩ := h
    · exact absurd (Exchange.run.inj h).1.symm (Plan.listing_ne_of_observes hc hst)
    · exact absurd (Exchange.run.inj h).1 (Network.ne_command_of_isQuery hquery A)
  | readAddress | readLease | findGateway =>
    obtain ⟨_, h⟩ := h
    rw [(Exchange.run.inj h).1, observed?]
  | serve m mac => rcases h with ⟨_, h⟩ | ⟨_, _, h⟩ <;> cases h
  | write path text => exact h.elim
  | _ =>
    obtain ⟨_, h⟩ := h
    cases h

/-- The listing of a gated interface is made at its gate. -/
theorem Stage.Makes.isGate {answer : Except RunFault String} (hlink : plan.Gates link)
    (hst : st.MayOccur roots plan)
    (h : st.Makes plan (.run (Network.showAddresses link) answer)) : st.IsGate := by
  have hobserved := h.of_observes hst hlink.observes
  cases st with
  | readAddress | readLease => trivial
  | findGateway d g =>
    exact absurd (Option.some.inj hobserved).symm (Network.showAddresses_ne_lookUp _ _)
  | _ => cases hobserved

/-- A gate that is not passed has refused its listing. -/
theorem Stage.Takes.refused_of_isGate {f : Failure} (hgate : st.IsGate)
    (hst : st.MayOccur roots plan) (h : st.Takes plan l t (.error f) l') :
    ∃ e, t = [e] ∧ e.Refused plan f := by
  cases st with
  | readAddress link a =>
    obtain ⟨⟨answer, rfl, hread⟩, -⟩ := h
    exact ⟨_, rfl, (judges_address hst).refused hread⟩
  | readLease a =>
    obtain ⟨⟨answer, rfl, hread⟩, -⟩ := h
    exact ⟨_, rfl, (judges_lease hst.choose_spec).refused hread⟩
  | _ => exact hgate.elim

/-- A stage that leaves the store as it is asks for something. -/
theorem Stage.Takes.ne_nil (hst : st.KeepsStore) (h : st.Takes plan l t r l') : t ≠ [] := by
  have hasks {α β : Type} {record : α → Exchange} {judge : α → Except Failure β} {b : β}
      (h : Asks record judge b t r) : t ≠ [] := by
    obtain ⟨answer, rfl, -⟩ := h
    exact List.cons_ne_nil _ _
  cases st with
  | applyThrottled now => exact hst.elim
  | serve m mac => exact hst.elim
  | write path text => exact hst.elim
  | ensure A =>
    obtain ⟨h | ⟨text, answer, rfl, -⟩, -⟩ := h
    · exact hasks h
    · exact List.cons_ne_nil _ _
  | _ => exact hasks h.1

/-- Right behind a gate of a course stands a stage that asks for something. -/
theorem isChain_course :
    (plan.course roots now x).IsChain fun st st' ↦ st.IsGate → st'.KeepsStore := by
  rw [Plan.course, Plan.bridgeCourse]
  split
  · rw [InternalMode.course, InternalMode.approach]
    split <;> simp [Plan.routingCourse, Plan.identityCourse, Stage.IsGate, Stage.KeepsStore]
  · simp [ExternalMode.course, Plan.routingCourse, Plan.identityCourse, Stage.IsGate,
      Stage.KeepsStore]

/-- No course ends with a gate. -/
theorem exists_cons_of_isGate {before after : List Stage}
    (h : plan.course roots now x = before ++ st :: after) (hst : st.IsGate) :
    ∃ st' after', after = st' :: after' ∧ st'.KeepsStore := by
  rcases after with - | ⟨st', after'⟩
  · rw [course_eq] at h
    obtain ⟨-, hlast⟩ := List.append_inj' h rfl
    rw [← (List.cons.inj hlast).1] at hst
    exact hst.elim
  · have hchain : (plan.course roots now x).IsChain _ := isChain_course
    rw [h, List.isChain_append_cons_cons] at hchain
    exact ⟨st', after', rfl, hchain.2.1 hst⟩

/-- **Behind a gate with one address the pass goes on.** -/
theorem Follows.goes_on {pre post : List Exchange} {e : Exchange} (hlink : plan.Gates link)
    (h : Follows plan (plan.course roots now x) l (pre ++ e :: post) r l') (he : e.Shows link 1) :
    post ≠ [] := by
  obtain ⟨text, as, rfl, has, hone⟩ := shows_iff.mp he
  obtain ⟨before, st, after, p, q, v, u, l₁, r₁, l₂, hcourse, -, rfl, -, htakes, hrest⟩ := h.locate
  have hst : st ∈ plan.course roots now x := hcourse ▸ by simp
  have hoccur : st.MayOccur roots plan := mayOccur_of_mem_course hst
  have hmem : .run (Network.showAddresses link) (.ok text) ∈
      q ++ .run (Network.showAddresses link) (.ok text) :: v := by simp
  have hgate : st.IsGate := (htakes.makes hmem).isGate hlink hoccur
  obtain ⟨st', after', rfl, hst'⟩ := exists_cons_of_isGate hcourse hgate
  rcases r₁ with f | ⟨⟩
  · -- A gate only fails on a listing that is refused, which this one is not.
    obtain ⟨e, hsingle, hrefused⟩ := htakes.refused_of_isGate hgate hoccur
    obtain ⟨-, rfl, -⟩ := singleton_eq_append_cons.mp hsingle.symm
    exact absurd hone ((refused_showAddresses_iff hlink has).mp hrefused).1
  · obtain ⟨t₁, r₂, l₃, u', rfl, hnext, -⟩ := follows_cons_iff.mp hrest
    exact List.append_ne_nil_of_right_ne_nil _
      (List.append_ne_nil_of_left_ne_nil (hnext.ne_nil hst') _)

/-! ### Before the policy routing -/

/-- **What stands behind a part of a word that cannot make it** stands behind the exchanges of that
part, all of which was passed. -/
theorem Follows.passed_of_not_makes {pre post : List Exchange} {e : Exchange}
    (hw : ∀ st ∈ w, ¬ st.Makes plan e) (h : Follows plan (w ++ w') l (pre ++ e :: post) r l') :
    ∃ t pre' l₁ , pre = t ++ pre' ∧ Follows plan w l t (.ok ()) l₁ ∧
      Follows plan w' l₁ (pre' ++ e :: post) r l' := by
  obtain ⟨t, r₁, l₁, u, ht, hpart, hrest⟩ := Follows.append_iff.mp h
  have hnot : e ∉ t := fun hmem ↦ by
    obtain ⟨st, hst, hmakes⟩ := hpart.makes hmem
    exact hw st hst hmakes
  rcases append_eq_append_cons ht.symm with ⟨pre', rfl, rfl⟩ | ⟨v, rfl, -⟩
  · rcases r₁ with f | ⟨⟩
    · exact absurd hrest.1 (by simp)
    · exact ⟨t, pre', l₁, rfl, hpart, hrest⟩
  · exact absurd (by simp) hnot

/-- The stages up to the last gate. -/
def Plan.courseToPolicy (plan : Plan) (roots : Roots) (now : Nat) (x : Findings) : List Stage :=
  [Stage.readNode x.hostName, Stage.applyZone x.hostName] ++ plan.bridgeCourse roots now x ++
  [Stage.readAddress podBridge x.pods, Stage.readAddress outOfBandBridge x.outOfBand]

/-- The stages behind the last gate. -/
def Plan.policyCourse (plan : Plan) (x : Findings) : List Stage :=
  [Stage.ensure (.rule x.pods.network policyTable podRulePriority),
    Stage.ensure (.rule x.outOfBand.host policyTable outOfBandRulePriority),
    Stage.findGateway Cidr.defaultRoute x.defaultGateway,
    Stage.ensure
      (.route plan.endpoints x.defaultGateway outOfBandBridge none (some policyTable))] ++
  Plan.identityCourse (plan.endpoint x) x.hostName

/-- A course is cut where the policy routing begins. -/
theorem course_eq_toPolicy_append : plan.course roots now x =
    plan.courseToPolicy roots now x ++ plan.policyCourse x := by
  simp [Plan.course, Plan.courseToPolicy, Plan.policyCourse, Plan.routingCourse]

/-- No network is written as one of these words, and no address. -/
theorem not_isPolicyWord_cidr (c : Cidr) : ¬ IsPolicyWord c.text := by
  rintro (h | h) <;> exact Cidr.text_ne (by decide) c h

/-- What is policy routing is seen from the words of a command; an address is none of them. -/
theorem not_isPolicyWord_address (a : Address) : ¬ IsPolicyWord a.text := by
  rintro (h | h) <;> exact Address.text_ne (by decide) a h

theorem not_isPolicy_ip {args : List String} (h : ∀ s ∈ args, ¬ IsPolicyWord s) :
    ¬ (Network.ip args).IsPolicy := by
  rintro (hprogram | ⟨s, hs, hword⟩)
  · exact absurd hprogram (by simp [Network.ip])
  · exact h s hs hword

theorem not_isPolicy_showAddresses (h : ¬ IsPolicyWord link) :
    ¬ (Network.showAddresses link).IsPolicy :=
  not_isPolicy_ip (by
    simp only [List.forall_mem_cons, List.not_mem_nil, false_implies, implies_true, and_true]
    exact ⟨by decide, by decide, by decide, by decide, by decide, h⟩)

theorem not_isPolicy_lookUp (destination : Cidr) : ¬ (Network.lookUp destination).IsPolicy := by
  rw [Network.lookUp]
  split
  · exact not_isPolicy_ip (by decide)
  · refine not_isPolicy_ip ?_
    simp only [List.forall_mem_cons, List.not_mem_nil, false_implies, implies_true, and_true]
    exact ⟨by decide, by decide, by decide, by decide, not_isPolicyWord_address _⟩

/-- What the addressing of the overlay bridge adds: an address or routes of that bridge, in the main
table. -/
def Addition.IsOverlay : Addition → Prop
  | address link _ => link = overlayBridge
  | route _ _ device metric table =>
    device = overlayBridge ∧ (metric = none ∨ metric = some hostRouteMetric) ∧ table = none
  | rule _ _ _ => False

/-- What is added for the overlay is no policy routing, neither looked for nor made. -/
theorem Addition.IsOverlay.not_isPolicy {A : Addition} (h : A.IsOverlay) :
    ¬ A.listing.IsPolicy ∧ ¬ A.command.IsPolicy := by
  cases A with
  | address link a =>
    obtain rfl : link = overlayBridge := h
    refine ⟨not_isPolicy_showAddresses (by decide), not_isPolicy_ip ?_⟩
    simp only [List.forall_mem_cons, List.not_mem_nil, false_implies, implies_true, and_true]
    exact ⟨by decide, by decide, not_isPolicyWord_cidr a, by decide, by decide⟩
  | route destination gateway device metric table =>
    obtain ⟨rfl, hmetric, rfl⟩ := h
    constructor
    · refine not_isPolicy_ip ?_
      simp only [List.forall_mem_append, List.forall_mem_cons, Network.tableArgs, List.not_mem_nil,
        false_implies, implies_true, and_true]
      exact ⟨⟨by decide, by decide, by decide, by decide⟩, by decide, not_isPolicyWord_cidr _⟩
    · refine not_isPolicy_ip ?_
      have hmetricArgs : ∀ s ∈ Network.metricArgs metric, ¬ IsPolicyWord s := by
        rcases hmetric with rfl | rfl <;> decide
      simp only [List.forall_mem_append, List.forall_mem_cons, Network.tableArgs, List.not_mem_nil,
        false_implies, implies_true, and_true]
      exact ⟨⟨by decide, by decide, not_isPolicyWord_cidr _, by decide, not_isPolicyWord_address _,
        by decide, by decide⟩, hmetricArgs⟩
  | rule source table priority => exact h.elim

/-- What is done about the bridge is for the overlay. -/
theorem isOverlay_of_mem_bridgeCourse {A : Addition}
    (h : .ensure A ∈ plan.bridgeCourse roots now x) : A.IsOverlay := by
  rw [Plan.bridgeCourse] at h
  split at h
  · simp only [InternalMode.course, InternalMode.approach, List.mem_append, List.mem_cons,
      List.not_mem_nil, or_false, reduceCtorEq, Stage.ensure.injEq] at h
    rcases h with (rfl | h) | rfl
    · rfl
    · split at h
      · obtain rfl := Stage.ensure.inj (List.mem_singleton.mp h)
        exact ⟨rfl, .inl rfl, rfl⟩
      · simp at h
    · exact ⟨rfl, .inr rfl, rfl⟩
  · simp only [ExternalMode.course, List.mem_cons, List.not_mem_nil, or_false, reduceCtorEq,
      false_or, Stage.ensure.injEq] at h
    obtain rfl := h
    exact ⟨rfl, .inr rfl, rfl⟩

/-- The stages up to the last gate, taken apart. -/
theorem mem_courseToPolicy (h : st ∈ plan.courseToPolicy roots now x) :
    st = .readNode x.hostName ∨ st = .applyZone x.hostName ∨ st ∈ plan.bridgeCourse roots now x ∨
      st = .readAddress podBridge x.pods ∨ st = .readAddress outOfBandBridge x.outOfBand := by
  simpa [Plan.courseToPolicy, or_assoc] using h

/-- What stands before the policy routing stands in the course. -/
theorem mem_course_of_mem_courseToPolicy (h : st ∈ plan.courseToPolicy roots now x) :
    st ∈ plan.course roots now x := by
  rw [course_eq_toPolicy_append]
  exact List.mem_append_left _ h

/-- **Up to the last gate no command of the policy routing or of the overlay switch is run.** -/
theorem Stage.Makes.not_isPolicy {c : Command} {answer : Except RunFault String}
    (hst : st ∈ plan.courseToPolicy roots now x) (h : st.Makes plan (.run c answer)) :
    ¬ c.IsPolicy := by
  rcases h.of_run (mayOccur_of_mem_course (mem_course_of_mem_courseToPolicy hst)) with
    ⟨rfl, -⟩ | ⟨-, rfl⟩ | ⟨A, rfl, rfl⟩ | ⟨A, rfl, rfl⟩ | hobserved
  · obtain rfl : c = Network.setUp overlayBridge := by
      have hmem := mem_courseToPolicy hst
      simp only [reduceCtorEq, false_or, or_false] at hmem
      exact eq_setUp_of_mem_bridgeCourse hmem
    exact not_isPolicy_ip (by decide)
  · rintro (hprogram | ⟨s, hs, hword⟩)
    · exact absurd hprogram (by decide)
    · obtain rfl := List.mem_singleton.mp hs
      exact absurd hword (by decide)
  · have hmem := mem_courseToPolicy hst
    simp only [reduceCtorEq, false_or, or_false] at hmem
    exact (isOverlay_of_mem_bridgeCourse hmem).not_isPolicy.1
  · have hmem := mem_courseToPolicy hst
    simp only [reduceCtorEq, false_or, or_false] at hmem
    exact (isOverlay_of_mem_bridgeCourse hmem).not_isPolicy.2
  · rcases hobserved with rfl | rfl | rfl | ⟨m, -, rfl | rfl⟩
    · exact not_isPolicy_showAddresses (by decide)
    · exact not_isPolicy_showAddresses (by decide)
    · exact not_isPolicy_lookUp _
    · exact not_isPolicy_showAddresses (by decide)
    · exact not_isPolicy_lookUp _

/-! ### The two gates of the policy routing -/

/-- A single address was read from a listing of that address alone. -/
theorem addressesIn_of_onlyAddress {a : Cidr} (h : onlyAddress link text = .ok a) :
    addressesIn text = .ok [a] := by
  obtain ⟨as, has, hone⟩ := Addition.except_bind_eq_ok_iff.mp h
  split at hone <;> cases hone
  exact has

theorem addressesIn_of_leasedAddress {a : Cidr} (h : leasedAddress text = .ok a) :
    addressesIn text = .ok [a] := by
  obtain ⟨as, has, hone⟩ := Addition.except_bind_eq_ok_iff.mp h
  split at hone <;> cases hone
  exact has

/-- A gate that is passed shows one address. -/
theorem shows_one_of_readAnswer {answer : Except RunFault String}
    {read : String → Except Failure Cidr}
    (hread : ∀ {text a}, read text = .ok a → addressesIn text = .ok [a]) {a : Cidr}
    (h : readAnswer (Network.showAddresses link) read answer = .ok a) :
    (Exchange.run (Network.showAddresses link) answer).Shows link 1 := by
  rcases answer with fault | text
  · cases h
  · exact shows_iff.mpr ⟨text, [a], rfl, hread h, rfl⟩

/-- Behind both gates, both bridges were listed with one address each. -/
theorem Follows.seenSingle {pods outOfBand : Cidr}
    (h : Follows plan (w ++ [Stage.readAddress podBridge pods,
      Stage.readAddress outOfBandBridge outOfBand]) l t (.ok ()) l') : SeenSingle t := by
  obtain ⟨t₁, l₁, u, rfl, -, hgates⟩ := h.ok_append
  obtain ⟨_, _, _, rfl, ⟨⟨answer, rfl, hpods⟩, -⟩, hlast⟩ := hgates.ok_cons
  obtain ⟨_, _, _, rfl, ⟨⟨answer', rfl, houtOfBand⟩, -⟩, -⟩ := hlast.ok_cons
  exact ⟨⟨_, by simp, shows_one_of_readAnswer addressesIn_of_onlyAddress hpods⟩,
    _, by simp, shows_one_of_readAnswer addressesIn_of_onlyAddress houtOfBand⟩

/-- What was seen stays seen. -/
theorem SeenSingle.mono {u : List Exchange} (h : SeenSingle t) (htu : t ⊆ u) : SeenSingle u := by
  obtain ⟨⟨e, he, hpods⟩, e', he', houtOfBand⟩ := h
  exact ⟨⟨e, htu he, hpods⟩, e', htu he', houtOfBand⟩

/-- **The policy routing stands behind both gates**, and so does all that the overlay switch is
told. -/
theorem Follows.seenSingle_of_isPolicy {pre post : List Exchange} {c : Command}
    {answer : Except RunFault String}
    (h : Follows plan (plan.course roots now x) l (pre ++ .run c answer :: post) r l')
    (hc : c.IsPolicy) : SeenSingle pre := by
  rw [course_eq_toPolicy_append] at h
  obtain ⟨t, pre', l₁, rfl, hgates, -⟩ :=
    h.passed_of_not_makes fun st hst hmakes ↦ hmakes.not_isPolicy hst hc
  exact hgates.seenSingle.mono (List.subset_append_left _ _)

/-- The stages of external mode up to its own gate. -/
def ExternalMode.courseToLease (roots : Roots) (now : Nat) (x : Findings) : List Stage :=
  [.readNode x.hostName, .applyZone x.hostName,
    .write (Path.child roots.files bridgeDefinitionPath) bridgeDefinition, .applyThrottled now,
    .readLease x.lease]

/-- The stages of external mode behind the lookup of the discovery network, up to the last gate. -/
def ExternalMode.courseFromLookup (roots : Roots) (plan : Plan) (x : Findings) : List Stage :=
  [Stage.ensure (.route plan.hosts x.gateway overlayBridge (some hostRouteMetric) none),
    Stage.write (Path.child roots.files gatewayOptionsPath)
      (GatewayOptions.text ⟨x.gateway, x.lease.network⟩)] ++
  [Stage.readAddress podBridge x.pods, Stage.readAddress outOfBandBridge x.outOfBand]

/-- In external mode the course is cut at the lease and at the gateway. -/
theorem course_of_external {m : ExternalMode} (hmode : plan.mode = .external m) :
    plan.course roots now x = ExternalMode.courseToLease roots now x ++
      .findGateway m.discovery x.gateway ::
        (ExternalMode.courseFromLookup roots plan x ++ plan.policyCourse x) := by
  simp [course_eq_toPolicy_append, Plan.courseToPolicy, Plan.bridgeCourse, hmode,
    ExternalMode.course, ExternalMode.courseToLease, ExternalMode.courseFromLookup]

/-- The only lookup up to the last gate is that of the discovery network. -/
theorem eq_discovery_of_mem_courseToPolicy {d : Cidr} {g : Address}
    (h : .findGateway d g ∈ plan.courseToPolicy roots now x) :
    ∃ m, plan.mode = .external m ∧ d = m.discovery := by
  have hmem := mem_courseToPolicy h
  simp only [reduceCtorEq, false_or, or_false] at hmem
  rw [Plan.bridgeCourse] at hmem
  split at hmem
  · simp only [InternalMode.course, InternalMode.approach, List.mem_append, List.mem_cons,
      List.not_mem_nil, or_false, reduceCtorEq, false_or] at hmem
    split at hmem <;> simp at hmem
  · next m hmode =>
    simp only [ExternalMode.course, List.mem_cons, List.not_mem_nil, or_false, reduceCtorEq,
      false_or, Stage.findGateway.injEq] at hmem
    exact ⟨m, hmode, hmem.1⟩

/-- A lookup is a stage of its own. -/
theorem Stage.Makes.eq_findGateway {destination : Cidr} {answer : Except RunFault String}
    (hst : st.MayOccur roots plan) (hd : plan.LooksUp destination)
    (h : st.Makes plan (.run (Network.lookUp destination) answer)) :
    ∃ d g, st = .findGateway d g ∧ Network.lookUp d = Network.lookUp destination := by
  have hobserved := h.of_observes hst hd.observes
  cases st with
  | readAddress | readLease =>
    exact absurd (Option.some.inj hobserved) (Network.showAddresses_ne_lookUp _ _)
  | findGateway d g => exact ⟨d, g, rfl, Option.some.inj hobserved⟩
  | _ => cases hobserved

/-- A network is looked up like the default route only if it is that of all addresses. -/
theorem prefixLength_eq_zero_of_lookUp {d : Cidr}
    (h : Network.lookUp d = Network.lookUp Cidr.defaultRoute) : d.prefixLength = 0 := by
  by_contra hd
  have hdefault : Cidr.defaultRoute.prefixLength = 0 := rfl
  rw [Network.lookUp, if_neg hd, Network.lookUp, if_pos hdefault] at h
  simp [Network.ip] at h

/-- **The default route is looked up behind both gates**, unless it is the discovery network of
external mode; then it can also be looked up right behind the gate of the overlay bridge. -/
theorem Follows.seenSingle_of_lookUp {pre post : List Exchange} {answer : Except RunFault String}
    (h : Follows plan (plan.course roots now x) l
      (pre ++ Exchange.run (Network.lookUp Cidr.defaultRoute) answer :: post) r l') :
    SeenSingle pre ∨ (∃ m, plan.mode = .external m ∧ m.discovery.prefixLength = 0) ∧
      ∃ (pre' : List Exchange) (e : Exchange), pre = pre' ++ [e] ∧ e.Shows overlayBridge 1 := by
  have hlookUp {st : Stage} (hst : st ∈ plan.course roots now x)
      (hmakes : st.Makes plan (.run (Network.lookUp Cidr.defaultRoute) answer)) :
      ∃ d g, st = .findGateway d g ∧ d.prefixLength = 0 := by
    obtain ⟨d, g, rfl, hd⟩ := hmakes.eq_findGateway (mayOccur_of_mem_course hst) (.inl rfl)
    exact ⟨d, g, rfl, prefixLength_eq_zero_of_lookUp hd⟩
  by_cases hdiscovery : ∃ m, plan.mode = .external m ∧ m.discovery.prefixLength = 0
  · obtain ⟨m, hmode, hzero⟩ := hdiscovery
    have hcourse : plan.course roots now x = _ := course_of_external hmode
    rw [hcourse] at h
    obtain ⟨t, pre', l₁, rfl, hlease, hrest⟩ := h.passed_of_not_makes fun st hst hmakes ↦ by
      obtain ⟨d, g, rfl, -⟩ := hlookUp (hcourse ▸ List.mem_append_left _ hst) hmakes
      simp [ExternalMode.courseToLease] at hst
    obtain ⟨_, r₁, l₂, u, ht, ⟨⟨answer', rfl, -⟩, -⟩, hcontinues⟩ := follows_cons_iff.mp hrest
    rcases pre' with - | ⟨e, pre'⟩
    · -- It is the lookup of the discovery network.
      obtain ⟨t₁, l₃, _, rfl, -, ⟨answer'', rfl, hread⟩, -⟩ := Follows.ok_concat
        (w := (ExternalMode.courseToLease roots now x).dropLast) hlease
      exact .inr ⟨⟨m, hmode, hzero⟩, t₁, _, by simp,
        shows_one_of_readAnswer addressesIn_of_leasedAddress hread⟩
    · -- The lookup of the discovery network stands before it.
      obtain ⟨rfl, rfl⟩ := List.cons.inj ht
      rcases r₁ with f | ⟨⟩
      · exact absurd hcontinues.1 (by simp)
      · obtain ⟨v, pre'', l₃, rfl, hgates, -⟩ := Follows.passed_of_not_makes (fun st hst hmakes ↦ by
          obtain ⟨d, g, rfl, -⟩ := hlookUp (hcourse ▸ by simp [hst]) hmakes
          simp [ExternalMode.courseFromLookup] at hst) hcontinues
        exact .inl (hgates.seenSingle.mono fun e he ↦ by simp [he])
  · rw [course_eq_toPolicy_append] at h
    obtain ⟨t, pre', l₁, rfl, hgates, -⟩ := h.passed_of_not_makes fun st hst hmakes ↦ by
      obtain ⟨d, g, rfl, hd⟩ := hlookUp (mem_course_of_mem_courseToPolicy hst) hmakes
      obtain ⟨m, hmode, rfl⟩ := eq_discovery_of_mem_courseToPolicy hst
      exact hdiscovery ⟨m, hmode, hd⟩
    exact .inl (hgates.seenSingle.mono (List.subset_append_left _ _))

/-- **A course that is completed** has listed every gate with one address. -/
theorem Follows.seen_of_ok (h : Follows plan (plan.course roots now x) l t (.ok ()) l')
    (hlink : plan.Gates link) : ∃ e ∈ t, e.Shows link 1 := by
  have hother : SeenSingle t := by
    rw [course_eq_toPolicy_append] at h
    obtain ⟨t₁, l₁, u, rfl, hgates, -⟩ := h.ok_append
    exact hgates.seenSingle.mono (List.subset_append_left _ _)
  rcases hlink with rfl | rfl | ⟨⟨m, hmode⟩, rfl⟩
  · exact hother.1
  · exact hother.2
  · -- In external mode the overlay bridge has shown the lease.
    rw [course_of_external hmode] at h
    obtain ⟨t₁, l₁, u, rfl, hlease, -⟩ := h.ok_append
    obtain ⟨t₂, l₂, _, rfl, -, ⟨answer, rfl, hread⟩, -⟩ := Follows.ok_concat
      (w := (ExternalMode.courseToLease roots now x).dropLast) hlease
    exact ⟨_, by simp, shows_one_of_readAnswer addressesIn_of_leasedAddress hread⟩

/-! ### The gates of a pass -/

section

variable {σ : Type}

/-- How the gates of a pass decide how it goes on. -/
structure Gated (plan : Plan) (p : MadePass σ) : Prop where
  /-- Behind the readable listing of a gate there is a further request exactly if the listing holds
  one address. -/
  goes_on : ∀ link n pre (e : Exchange) post, plan.Gates link →
    p.after.trace = pre ++ e :: post → e.Shows link n → (post ≠ [] ↔ n = 1)
  /-- Any other number is how the pass fails. -/
  fails : ∀ link n pre (e : Exchange) post, plan.Gates link →
    p.after.trace = pre ++ e :: post → e.Shows link n → n ≠ 1 →
    p.result = .error (countFailure link n)
  /-- A pass that succeeds has listed every gate with one address. -/
  succeeds : p.result = .ok () → ∀ link, plan.Gates link → ∃ e ∈ p.after.trace, e.Shows link 1
  /-- The result is only transient if, in external mode, the last request was a listing of the
  overlay bridge without address. -/
  transient : ∀ f, p.result = .error f → f.isTransient = true →
    (∃ m, plan.mode = .external m) ∧ f = .noBridgeAddress overlayBridge ∧
      ∃ (pre : List Exchange) (e : Exchange), p.after.trace = pre ++ [e] ∧ e.Shows overlayBridge 0
  /-- No command of the policy routing or of the overlay switch is run before both other bridges
  were listed with one address each. -/
  policy : ∀ pre (c : Command) answer post, p.after.trace = pre ++ Exchange.run c answer :: post →
    c.IsPolicy → SeenSingle pre
  /-- The default route is not looked up before, unless it is the discovery network of external
  mode; then it is that lookup, which follows right behind the gate of the overlay bridge. -/
  lookUp : ∀ pre answer post,
    p.after.trace = pre ++ Exchange.run (Network.lookUp Cidr.defaultRoute) answer :: post →
    SeenSingle pre ∨ (∃ m, plan.mode = .external m ∧ m.discovery.prefixLength = 0) ∧
      ∃ (pre' : List Exchange) (e : Exchange), pre = pre' ++ [e] ∧ e.Shows overlayBridge 1

/-- **Every pass goes past its gates with one address each**, it only succeeds past all of them, and
no policy is changed before both other bridges have shown theirs: whatever the agent remembers and
whatever is answered. -/
theorem makePass_gated (H : Host σ) (roots : Roots) (plan : Plan) (memory : Memory) (v : Visit σ) :
    Gated plan (makePass H roots plan memory v) := by
  obtain ⟨x, hword⟩ := makePass_follows H roots plan memory v
  have hends := hword.ends fun _ hst ↦ mayOccur_of_mem_course hst
  -- A listing with another number of addresses is refused, so the pass ends there.
  have hstop {link : String} {n : Nat} {pre post : List Exchange} {e : Exchange}
      (hlink : plan.Gates link)
      (ht : (makePass H roots plan memory v).after.trace = pre ++ e :: post)
      (he : e.Shows link n) (hn : n ≠ 1) :
      post = [] ∧ (makePass H roots plan memory v).result = .error (countFailure link n) := by
    obtain ⟨text, as, rfl, has, rfl⟩ := shows_iff.mp he
    obtain ⟨hpost, f, hrefused, hresult⟩ := hends.refused_last ht
      ((refused_showAddresses_iff hlink has).mpr ⟨hn, rfl⟩)
    rw [((refused_showAddresses_iff hlink has).mp hrefused).2] at hresult
    exact ⟨hpost, hresult⟩
  refine ⟨fun link n pre e post hlink ht he ↦ ⟨fun hpost ↦ ?_, ?_⟩,
    fun link n pre e post hlink ht he hn ↦ (hstop hlink ht he hn).2,
    fun hresult link hlink ↦ (hresult ▸ hword).seen_of_ok hlink, fun f hresult hf ↦ ?_,
    fun pre c answer post ht hc ↦ ?_, fun pre answer post ht ↦ ?_⟩
  · by_contra hn
    exact hpost (hstop hlink ht he hn).1
  · rintro rfl
    rw [ht] at hword
    exact hword.goes_on hlink he
  · rw [hresult] at hends
    obtain ⟨hmode, hfailure, pre, text, ht, hnone⟩ := hends.of_isTransient hf
    exact ⟨hmode, hfailure, pre, _, ht, shows_iff.mpr ⟨text, [], rfl, hnone, rfl⟩⟩
  · rw [ht] at hword
    exact hword.seenSingle_of_isPolicy hc
  · rw [ht] at hword
    exact hword.seenSingle_of_lookUp

end

end DpuNetwork
