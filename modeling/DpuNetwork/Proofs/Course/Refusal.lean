import DpuNetwork.Proofs.Course.Follows
import DpuNetwork.Proofs.DhcpServer
import DpuNetwork.Proofs.Idempotence.Steps

/-!
# A pass ends with the first answer that is refused

An answer is refused when the request failed or when what was told cannot be used for what the plan
asks it for (`Exchange.Refused`). The first refused answer is the last exchange of its pass, and its
failure is the result. The only other failures are a file that cannot be written and an MTU that the
DHCP server cannot be told, and they come between two exchanges (`Ends`).

Whether an answer is refused is told by the answer and the plan, without regard to the stage it was
asked in: each stage judges its answers so (`Judges`), since what is only observed is never listed
together with what is added.

## Main statements

* `Stage.Takes.ends`: how one stage ends;
* `Follows.ends`: how a pass ends.
-/

namespace DpuNetwork

open Ipv4 Pass

/-- A network whose gateway a pass of a plan looks up. -/
def Plan.LooksUp (plan : Plan) (destination : Cidr) : Prop :=
  destination = Cidr.defaultRoute ∨ ∃ m, plan.mode = .external m ∧ destination = m.discovery

/-- The answer to a request is refused, and how that is reported: the request failed, or what was
told is not what a pass of the plan has to know. -/
inductive Exchange.Refused (plan : Plan) : Exchange → Failure → Prop
  /-- A command failed. -/
  | run (c : Command) (f : RunFault) : Refused plan (.run c (.error f)) (f.toFailure c)
  /-- What is there of an addition's kind cannot be read. -/
  | listing {A : Addition} {text : String} {f : Failure} (hA : plan.MayAdd A)
      (h : A.recognise text = .error f) : Refused plan (.run A.listing (.ok text)) f
  /-- One of the two other bridges does not have one address. -/
  | address {link text : String} {f : Failure} (hlink : link = podBridge ∨ link = outOfBandBridge)
      (h : onlyAddress link text = .error f) :
      Refused plan (.run (Network.showAddresses link) (.ok text)) f
  /-- The overlay bridge has not got one address. -/
  | lease {m : ExternalMode} {text : String} {f : Failure} (hmode : plan.mode = .external m)
      (h : leasedAddress text = .error f) :
      Refused plan (.run (Network.showAddresses overlayBridge) (.ok text)) f
  /-- No gateway leads to a network. -/
  | gateway {destination : Cidr} {text : String} {f : Failure} (hd : plan.LooksUp destination)
      (h : gatewayIn destination text = .error f) :
      Refused plan (.run (Network.lookUp destination) (.ok text)) f
  /-- A program in the background was not started. -/
  | start (c : Command) : Refused plan (.start c false) (.spawn c.text)
  /-- The program in the background does not run, or that is not known. -/
  | childState {answer : Except ChildFault ChildState} {f : Failure}
      (h : judgeChild answer = .error f) : Refused plan (.childState answer) f
  /-- The node does not tell its host. -/
  | getNode {name : String} {answer : Except ClusterFault (Option Node)} {f : Failure}
      (h : hostNameIn plan answer = .error f) : Refused plan (.getNode name answer) f
  /-- The labels were not put on the node. -/
  | applyLabels {name : String} {labels : Labels} (f : ClusterFault) :
      Refused plan (.applyLabels name labels (.error f)) f.toFailure
  /-- The device file does not tell the address of the function. -/
  | readDevice {path : String} {answer : Option String} {f : Failure}
      (h : macIn path answer = .error f) : Refused plan (.readDevice path answer) f

/-- The answer to a request is not refused. -/
def Exchange.IsAccepted (plan : Plan) (e : Exchange) : Prop := ∀ f, ¬ e.Refused plan f

/-- How some exchanges end, with a result and a store. -/
inductive Ends (plan : Plan) (t : List Exchange) : Except Failure Unit → Store → Prop
  /-- Every answer was accepted. -/
  | accepted {l : Store} (h : ∀ e ∈ t, e.IsAccepted plan) : Ends plan t (.ok ()) l
  /-- The last answer was refused, and no other. -/
  | refused {l : Store} {pre : List Exchange} {e : Exchange} {f : Failure} (ht : t = pre ++ [e])
      (hpre : ∀ e ∈ pre, e.IsAccepted plan) (he : e.Refused plan f) : Ends plan t (.error f) l
  /-- A file could not be written. -/
  | unwritten {l : Store} {files : FileTree} {path text : String} {fault : FileStep × String}
      (h : ∀ e ∈ t, e.IsAccepted plan) (hfile : files.replace path text = (.error fault, l.files)) :
      Ends plan t (.error (.file fault.1 fault.2)) l
  /-- The MTU is too large for the DHCP server. -/
  | unfit {l : Store} (h : ∀ e ∈ t, e.IsAccepted plan) (hmtu : maxOverlayMtu < plan.mtu) :
      Ends plan t (.error (.config (.mtuTooLarge plan.mtu))) l

variable {plan : Plan} {roots : Roots} {l l₁ l' : Store} {t u : List Exchange}
  {r : Except Failure Unit} {st : Stage} {w : List Stage} {x : Findings} {now : Nat}

/-- What comes behind accepted answers decides how everything ends. -/
theorem Ends.append (ht : ∀ e ∈ t, e.IsAccepted plan) (hu : Ends plan u r l') :
    Ends plan (t ++ u) r l' := by
  have hall {v : List Exchange} (hv : ∀ e ∈ v, e.IsAccepted plan) :
      ∀ e ∈ t ++ v, e.IsAccepted plan := fun e he ↦ (List.mem_append.mp he).elim (ht e) (hv e)
  cases hu with
  | accepted h => exact .accepted (hall h)
  | @refused _ pre e f hlast hpre he =>
    have hlast' : t ++ u = (t ++ pre) ++ [e] := by rw [hlast, List.append_assoc]
    exact .refused hlast' (hall hpre) he
  | unwritten h hfile => exact .unwritten (hall h) hfile
  | unfit h hmtu => exact .unfit (hall h) hmtu

/-- A refused answer is the last one. -/
theorem Ends.refused_last (h : Ends plan t r l) {pre post : List Exchange} {e : Exchange}
    {f : Failure} (ht : t = pre ++ e :: post) (he : e.Refused plan f) :
    post = [] ∧ ∃ f', e.Refused plan f' ∧ r = .error f' := by
  have hmem : e ∈ t := ht ▸ by simp
  cases h with
  | accepted h => exact absurd he (h e hmem f)
  | @refused _ pre' e' f' hlast hpre he' =>
    rcases append_eq_append_cons (hlast.symm.trans ht) with ⟨pre'', -, hsingle⟩ | ⟨v, hv, -⟩
    · obtain ⟨-, rfl, rfl⟩ := singleton_eq_append_cons.mp hsingle
      exact ⟨rfl, f', he', rfl⟩
    · exact absurd he (hpre e (hv ▸ by simp) f)
  | unwritten h _ => exact absurd he (h e hmem f)
  | unfit h _ => exact absurd he (h e hmem f)

/-! ### Answers -/

/-- The answers to a request are refused as they are judged. -/
structure Judges (plan : Plan) {α β : Type} (record : α → Exchange)
    (judge : α → Except Failure β) : Prop where
  /-- What is judged a failure is refused. -/
  refused : ∀ {answer f}, judge answer = .error f → (record answer).Refused plan f
  /-- Nothing else is. -/
  accepted : ∀ {answer b}, judge answer = .ok b → (record answer).IsAccepted plan

/-- A stage that asks one thing and judges the answer ends as it must, because what it refuses is
refused for that answer. -/
theorem Judges.ends {α β : Type} {record : α → Exchange} {judge : α → Except Failure β} {b : β}
    (h : Judges plan record judge) (ht : Asks record judge b t r) : Ends plan t r l := by
  obtain ⟨answer, rfl, hjudge⟩ := ht
  rcases r with f | ⟨⟩
  · have hlast : [record answer] = [] ++ [record answer] := rfl
    exact .refused hlast (by simp) (h.refused hjudge)
  · exact .accepted (by simpa using h.accepted hjudge)

/-- The answers to a command are refused as its output is read. -/
theorem Judges.of_read {α : Type} {c : Command} {read : String → Except Failure α}
    (hrefused : ∀ {text f}, read text = .error f →
      (Exchange.run c (.ok text)).Refused plan f)
    (haccepted : ∀ {text a}, read text = .ok a → (Exchange.run c (.ok text)).IsAccepted plan) :
    Judges plan (.run c) (readAnswer c read) where
  refused {answer f} h := by
    rcases answer with fault | text
    · obtain rfl := Except.error.inj h
      exact .run c fault
    · exact hrefused h
  accepted {answer a} h := by
    rcases answer with fault | text
    · cases h
    · exact haccepted h

/-- Which outputs are refused. -/
theorem Exchange.Refused.output {c : Command} {text : String} {f : Failure}
    (h : (Exchange.run c (.ok text)).Refused plan f) :
    (∃ A, plan.MayAdd A ∧ c = A.listing ∧ A.recognise text = .error f) ∨
    (∃ link, (link = podBridge ∨ link = outOfBandBridge) ∧ c = Network.showAddresses link ∧
      onlyAddress link text = .error f) ∨
    (∃ m, plan.mode = .external m ∧ c = Network.showAddresses overlayBridge ∧
      leasedAddress text = .error f) ∨
    ∃ destination, plan.LooksUp destination ∧ c = Network.lookUp destination ∧
      gatewayIn destination text = .error f := by
  cases h with
  | listing hA h => exact .inl ⟨_, hA, rfl, h⟩
  | address hlink h => exact .inr (.inl ⟨_, hlink, rfl, h⟩)
  | lease hmode h => exact .inr (.inr (.inl ⟨_, hmode, rfl, h⟩))
  | gateway hd h => exact .inr (.inr (.inr ⟨_, hd, rfl, h⟩))

/-- A command that failed is refused as it failed. -/
theorem Exchange.Refused.eq_toFailure {c : Command} {fault : RunFault} {f : Failure}
    (h : (Exchange.run c (.error fault)).Refused plan f) : f = fault.toFailure c := by
  generalize he : Exchange.run c (.error fault) = e at h
  cases h with
  | run c' fault' =>
    obtain ⟨rfl, hfault⟩ := Exchange.run.inj he
    rw [Except.error.inj hfault]
  | _ => cases he

/-- What a plan observes covers all listings that its stages ask for: the three lemmas here say so
of those that are no addition's. -/
theorem Plan.observes_of_link {link : String} (h : link = podBridge ∨ link = outOfBandBridge) :
    plan.Observes (Network.showAddresses link) := by
  rcases h with rfl | rfl
  · exact .inl rfl
  · exact .inr (.inl rfl)

theorem Plan.LooksUp.observes {destination : Cidr} (h : plan.LooksUp destination) :
    plan.Observes (Network.lookUp destination) := by
  rcases h with rfl | ⟨m, hm, rfl⟩
  · exact .inr (.inr (.inl rfl))
  · exact .inr (.inr (.inr ⟨m, hm, .inr rfl⟩))

theorem Plan.observes_lease {m : ExternalMode} (h : plan.mode = .external m) :
    plan.Observes (Network.showAddresses overlayBridge) :=
  .inr (.inr (.inr ⟨m, h, .inl rfl⟩))

/-- The output of anything but a query is not refused. -/
theorem isAccepted_of_not_isQuery {c : Command} (hc : ¬ Network.IsQuery c) (text : String) :
    (Exchange.run c (.ok text)).IsAccepted plan := by
  intro f hf
  rcases hf.output with ⟨A, -, rfl, -⟩ | ⟨link, -, rfl, -⟩ | ⟨m, -, rfl, -⟩ | ⟨d, -, rfl, -⟩
  · exact hc A.isQuery_listing
  · exact hc (Network.isQuery_showAddresses _)
  · exact hc (Network.isQuery_showAddresses _)
  · exact hc (Network.isQuery_lookUp _)

/-- Listings of addresses are told apart by their interface. -/
theorem Network.showAddresses_inj {link link' : String} :
    showAddresses link = showAddresses link' ↔ link = link' := by
  simp [showAddresses, ip]

/-- They are not taken for listings of routes. -/
theorem Network.showAddresses_ne_lookUp (link : String) (destination : Cidr) :
    showAddresses link ≠ lookUp destination := by
  unfold lookUp
  split <;> simp [showAddresses, ip]

/-- The listing of the addresses of an interface cannot be read for one address if it cannot be read
for another; the same holds of routes and of rules. -/
theorem Addition.recognise_error_of_listing_eq {A B : Addition} (h : B.listing = A.listing)
    {text : String} {f : Failure} (hB : B.recognise text = .error f) :
    A.recognise text = .error f := by
  have hkind := kind_eq_of_listing_eq h
  cases A with
  | address link a =>
    cases B with
    | address link' b =>
      simpa only [recognise, except_bind_eq_error_iff, except_pure_ne_error] using hB
    | _ => simp [kind] at hkind
  | route destination gateway device metric table =>
    cases B with
    | route destination' gateway' device' metric' table' =>
      simpa only [recognise, except_bind_eq_error_iff, except_pure_ne_error] using hB
    | _ => simp [kind] at hkind
  | rule source table priority =>
    cases B with
    | rule source' table' priority' =>
      simpa only [recognise, except_bind_eq_error_iff, except_pure_ne_error] using hB
    | _ => simp [kind] at hkind

/-- The stages of a course, one by one: what each of them refuses is refused by its judgement of one
answer. -/
theorem judges_listing {A : Addition} (hA : plan.MayAdd A) :
    Judges plan (.run A.listing) (readAnswer A.listing A.recognise) := by
  refine .of_read (.listing hA) fun {text b} h f hf ↦ ?_
  rcases hf.output with ⟨B, -, hB, herror⟩ | ⟨link, hlink, hc, -⟩ | ⟨m, hm, hc, -⟩ | ⟨d, hd, hc, -⟩
  · rw [Addition.recognise_error_of_listing_eq hB.symm herror] at h
    cases h
  · exact Plan.listing_ne_of_observes (Plan.observes_of_link hlink) hA hc
  · exact Plan.listing_ne_of_observes (Plan.observes_lease hm) hA hc
  · exact Plan.listing_ne_of_observes hd.observes hA hc

theorem judges_address {link : String} (hlink : link = podBridge ∨ link = outOfBandBridge) :
    Judges plan (.run (Network.showAddresses link))
      (readAnswer (Network.showAddresses link) (onlyAddress link)) := by
  refine .of_read (.address hlink) fun {text b} h f hf ↦ ?_
  rcases hf.output with ⟨B, hB, hc, -⟩ | ⟨link', -, hc, herror⟩ | ⟨m, -, hc, -⟩ | ⟨d, -, hc, -⟩
  · exact Plan.listing_ne_of_observes (Plan.observes_of_link hlink) hB hc.symm
  · rw [← Network.showAddresses_inj.mp hc, h] at herror
    cases herror
  · obtain rfl := Network.showAddresses_inj.mp hc
    exact absurd hlink (by decide)
  · exact Network.showAddresses_ne_lookUp _ _ hc

theorem judges_lease {m : ExternalMode} (hmode : plan.mode = .external m) :
    Judges plan (.run (Network.showAddresses overlayBridge))
      (readAnswer (Network.showAddresses overlayBridge) leasedAddress) := by
  refine .of_read (.lease hmode) fun {text b} h f hf ↦ ?_
  rcases hf.output with ⟨B, hB, hc, -⟩ | ⟨link, hlink, hc, -⟩ | ⟨m, -, -, herror⟩ | ⟨d, -, hc, -⟩
  · exact Plan.listing_ne_of_observes (Plan.observes_lease hmode) hB hc.symm
  · obtain rfl := Network.showAddresses_inj.mp hc
    exact absurd hlink (by decide)
  · rw [h] at herror
    cases herror
  · exact Network.showAddresses_ne_lookUp _ _ hc

/-- Whether a listing of routes tells a gateway does not depend on where it is to lead. -/
theorem gatewayIn_eq_ok {destination destination' : Cidr} {text : String} {g : Address}
    (h : gatewayIn destination text = .ok g) : gatewayIn destination' text = .ok g := by
  obtain ⟨rs, hrs, hg⟩ := Addition.except_bind_eq_ok_iff.mp h
  refine Addition.except_bind_eq_ok_iff.mpr ⟨rs, hrs, ?_⟩
  rw [Listing.firstGateway] at hg ⊢
  split at hg
  · cases hg
  · exact hg

theorem judges_gateway {destination : Cidr} (hd : plan.LooksUp destination) :
    Judges plan (.run (Network.lookUp destination))
      (readAnswer (Network.lookUp destination) (gatewayIn destination)) := by
  refine .of_read (.gateway hd) fun {text b} h f hf ↦ ?_
  rcases hf.output with ⟨B, hB, hc, -⟩ | ⟨link, -, hc, -⟩ | ⟨m, -, hc, -⟩ | ⟨d, -, -, herror⟩
  · exact Plan.listing_ne_of_observes hd.observes hB hc.symm
  · exact Network.showAddresses_ne_lookUp _ _ hc.symm
  · exact Network.showAddresses_ne_lookUp _ _ hc.symm
  · rw [gatewayIn_eq_ok h] at herror
    cases herror

/-- A command that is no query is refused if it does not succeed, whatever it puts out. -/
theorem judges_perform {c : Command} (hc : ¬ Network.IsQuery c) :
    Judges plan (.run c) (readAnswer c anyOutput) :=
  .of_read (fun h ↦ by cases h) fun _ ↦ isAccepted_of_not_isQuery hc _

theorem judges_getNode (name : String) : Judges plan (.getNode name) (hostNameIn plan) where
  refused h := .getNode h
  accepted {answer hostName} h f hf := by
    cases hf with
    | getNode herror =>
      rw [h] at herror
      cases herror

/-- Labels are refused by the cluster alone. -/
theorem judges_applyLabels (name : String) (labels : Labels) :
    Judges plan (.applyLabels name labels) (Except.mapError ClusterFault.toFailure) where
  refused {answer f} h := by
    rcases answer with fault | ⟨⟩
    · obtain rfl := Except.error.inj h
      exact .applyLabels fault
    · cases h
  accepted {answer b} h f hf := by
    cases hf with
    | applyLabels fault => cases h

theorem judges_childState : Judges plan .childState judgeChild where
  refused h := .childState h
  accepted {answer b} h f hf := by
    cases hf with
    | childState herror =>
      rw [h] at herror
      cases herror

theorem judges_readDevice (path : String) : Judges plan (.readDevice path) (macIn path) where
  refused h := .readDevice h
  accepted {answer mac} h f hf := by
    cases hf with
    | readDevice herror =>
      rw [h] at herror
      cases herror

/-- A program is refused if it cannot be started. -/
theorem judges_start (c : Command) : Judges plan (.start c) (judgeStart c) where
  refused {started f} h := by
    cases started
    · obtain rfl := Except.error.inj h
      exact .start c
    · cases h
  accepted {started b} h f hf := by
    cases hf with
    | start c => cases h

/-! ### Stages -/

/-- The stages that a pass of a plan may go through. -/
def Stage.MayOccur (roots : Roots) (plan : Plan) : Stage → Prop
  | readNode _ | applyZone _ => True
  | perform c =>
    (∃ m, plan.mode = .internal m) ∧ c = Network.setUp overlayBridge ∨
      ∃ key value, c = Network.setExternalId key value
  | applyThrottled _ | readLease _ => ∃ m, plan.mode = .external m
  | ensure A => plan.MayAdd A
  | readAddress link _ => link = podBridge ∨ link = outOfBandBridge
  | findGateway destination _ => plan.LooksUp destination
  | readMac _ _ => ∃ m, plan.mode = .internal m
  | serve m _ => plan.mode = .internal m
  | write path _ => path = Path.child roots.files gatewayOptionsPath ∨
      (∃ m, plan.mode = .external m) ∧ path = Path.child roots.files bridgeDefinitionPath

/-- What is done about the bridge may occur under the plan, in both modes. -/
theorem mayOccur_of_mem_bridgeCourse (h : st ∈ plan.bridgeCourse roots now x) :
    st.MayOccur roots plan := by
  rw [Plan.bridgeCourse] at h
  split at h
  · next m hmode =>
    simp only [InternalMode.course, InternalMode.approach, List.mem_append, List.mem_cons,
      List.not_mem_nil, or_false] at h
    rcases h with (((rfl | rfl) | h) | rfl) | rfl | rfl | rfl
    · exact Plan.mayAdd_address hmode
    · exact .inl ⟨⟨m, hmode⟩, rfl⟩
    · split at h
      · obtain rfl := List.mem_singleton.mp h
        exact trivial
      · simp at h
    · exact trivial
    · exact ⟨m, hmode⟩
    · exact hmode
    · exact .inl rfl
  · next m hmode =>
    simp only [ExternalMode.course, List.mem_cons, List.not_mem_nil, or_false] at h
    rcases h with rfl | rfl | rfl | rfl | rfl | rfl
    · exact .inr ⟨⟨m, hmode⟩, rfl⟩
    · exact ⟨m, hmode⟩
    · exact ⟨m, hmode⟩
    · exact .inr ⟨m, hmode, rfl⟩
    · exact trivial
    · exact .inl rfl

/-- So may every stage of a course. -/
theorem mayOccur_of_mem_course (h : st ∈ plan.course roots now x) : st.MayOccur roots plan := by
  simp only [Plan.course, List.mem_append] at h
  rcases h with ((h | h) | h) | h
  · simp only [List.mem_cons, List.not_mem_nil, or_false] at h
    rcases h with rfl | rfl <;> trivial
  · exact mayOccur_of_mem_bridgeCourse h
  · simp only [Plan.routingCourse, List.mem_cons, List.not_mem_nil, or_false] at h
    rcases h with rfl | rfl | rfl | rfl | rfl | rfl
    · exact .inl rfl
    · exact .inr rfl
    · exact plan.mayAdd_podRule x.pods.network
    · exact plan.mayAdd_outOfBandRule x.outOfBand.host
    · exact .inl rfl
    · exact trivial
  · simp only [Plan.identityCourse, List.mem_cons, List.not_mem_nil, or_false] at h
    rcases h with rfl | rfl | rfl <;> exact .inr ⟨_, _, rfl⟩

/-- Commands that change something are no queries. -/
theorem not_isQuery_setUp (link : String) : ¬ Network.IsQuery (Network.setUp link) := by
  rintro ⟨args, h⟩
  simp [Network.setUp, Network.ip] at h

theorem not_isQuery_setExternalId (key value : String) :
    ¬ Network.IsQuery (Network.setExternalId key value) := by
  rintro ⟨args, h⟩
  simp [Network.setExternalId, Network.ip] at h

theorem not_isQuery_applyBridgeDefinition : ¬ Network.IsQuery applyBridgeDefinition := by
  rintro ⟨args, h⟩
  simp [applyBridgeDefinition, Network.ip] at h

theorem not_isQuery_command (A : Addition) : ¬ Network.IsQuery A.command :=
  fun h ↦ Network.ne_command_of_isQuery h A rfl

/-- The commands that a stage may run. -/
theorem Stage.Makes.of_run {c : Command} {answer : Except RunFault String}
    (hst : st.MayOccur roots plan) (h : st.Makes plan (.run c answer)) :
    (st = .perform c ∧ ((∃ m, plan.mode = .internal m) ∧ c = Network.setUp overlayBridge ∨
      ∃ key value, c = Network.setExternalId key value)) ∨
    ((∃ m, plan.mode = .external m) ∧ c = applyBridgeDefinition) ∨
    (∃ A, st = .ensure A ∧ c = A.listing) ∨ (∃ A, st = .ensure A ∧ c = A.command) ∨
    plan.Observes c := by
  cases st with
  | perform c' =>
    obtain ⟨_, h⟩ := h
    obtain ⟨rfl, -⟩ := Exchange.run.inj h
    exact .inl ⟨rfl, hst⟩
  | applyThrottled now =>
    obtain ⟨_, h⟩ := h
    exact .inr (.inl ⟨hst, (Exchange.run.inj h).1⟩)
  | ensure A =>
    obtain ⟨_, h | h⟩ := h
    · exact .inr (.inr (.inl ⟨A, rfl, (Exchange.run.inj h).1⟩))
    · exact .inr (.inr (.inr (.inl ⟨A, rfl, (Exchange.run.inj h).1⟩)))
  | readAddress link a =>
    obtain ⟨_, h⟩ := h
    obtain ⟨rfl, -⟩ := Exchange.run.inj h
    exact .inr (.inr (.inr (.inr (Plan.observes_of_link hst))))
  | readLease a =>
    obtain ⟨_, h⟩ := h
    obtain ⟨rfl, -⟩ := Exchange.run.inj h
    exact .inr (.inr (.inr (.inr (Plan.observes_lease hst.choose_spec))))
  | findGateway destination g =>
    obtain ⟨_, h⟩ := h
    obtain ⟨rfl, -⟩ := Exchange.run.inj h
    exact .inr (.inr (.inr (.inr (Plan.LooksUp.observes hst))))
  | serve m mac =>
    rcases h with ⟨_, h⟩ | ⟨_, _, h⟩ <;> cases h
  | write path text => exact h.elim
  | _ =>
    obtain ⟨_, h⟩ := h
    cases h

/-- The MTU alone decides whether the DHCP server can be told what to do. -/
theorem mtu_of_args_eq_error {m : InternalMode} {mac : Mac} {f : Failure}
    (h : (dhcpServer plan m mac).args = .error f) :
    maxOverlayMtu < plan.mtu ∧ f = .config (.mtuTooLarge plan.mtu) :=
  DhcpServer.args_eq_error_iff.mp h

/-- A server that can be told what to do has a unit that fits. -/
theorem mtu_of_args_eq_ok {m : InternalMode} {mac : Mac} {args : List String}
    (h : (dhcpServer plan m mac).args = .ok args) : plan.mtu ≤ maxOverlayMtu :=
  DhcpServer.mtu_le_of_args_eq_ok h

/-- **How a stage ends.** -/
theorem Stage.Takes.ends (hst : st.MayOccur roots plan) (h : st.Takes plan l t r l') :
    Ends plan t r l' := by
  cases st with
  | readNode hostName => exact (judges_getNode _).ends h.1
  | applyZone hostName => exact (judges_applyLabels _ _).ends h.1
  | perform c =>
    refine (judges_perform ?_).ends h.1
    rcases hst with ⟨-, rfl⟩ | ⟨key, value, rfl⟩
    · exact not_isQuery_setUp _
    · exact not_isQuery_setExternalId _ _
  | applyThrottled now =>
    by_cases hready : l.memory.throttle.isReady now = true
    · exact (judges_perform not_isQuery_applyBridgeDefinition).ends
        ((takes_applyThrottled_of_ready hready).mp h).1
    · obtain ⟨rfl, rfl, -⟩ := (takes_applyThrottled_of_not_ready hready).mp h
      exact .accepted (by simp)
  | ensure A =>
    obtain ⟨hasks | ⟨text, answer, rfl, hmissing, hadd⟩, -⟩ := h
    · exact (judges_listing hst).ends hasks
    · -- The listing is accepted, so the stage ends as the addition does.
      have hread : readAnswer A.listing A.recognise (.ok text) = .ok false := hmissing
      have hlooked : (Exchange.run A.listing (.ok text)).IsAccepted plan :=
        (judges_listing hst).accepted hread
      refine Ends.append (t := [.run A.listing (.ok text)]) (by simpa using hlooked) ?_
      refine (judges_perform (not_isQuery_command A)).ends (b := ()) ⟨answer, rfl, ?_⟩
      rw [hadd]
      cases r <;> rfl
  | readAddress link a => exact (judges_address hst).ends h.1
  | readLease a => exact (judges_lease hst.choose_spec).ends h.1
  | findGateway destination g => exact (judges_gateway hst).ends h.1
  | readMac path mac => exact (judges_readDevice _).ends h.1
  | serve m mac =>
    by_cases hstarted : l.memory.dhcpStarted = true
    · exact judges_childState.ends ((takes_serve_of_started hstarted).mp h).1
    · rw [takes_serve_of_not_started hstarted] at h
      split at h
      · next f hargs =>
        obtain ⟨rfl, rfl, -⟩ := h
        obtain ⟨hmtu, rfl⟩ := mtu_of_args_eq_error hargs
        exact .unfit (by simp) hmtu
      · next args _ =>
        obtain ⟨started, rfl, hstart, -⟩ := h
        refine (judges_start _).ends (b := ()) ⟨started, rfl, ?_⟩
        rw [hstart]
        cases r <;> rfl
  | write path text =>
    obtain ⟨rfl, rfl, rfl⟩ := h
    rcases hreplace : l.files.replace path text with ⟨fault | changed, files⟩
    · exact .unwritten (by simp) hreplace
    · exact .accepted (by simp)

/-- **How a pass ends.** -/
theorem Follows.ends (hw : ∀ st ∈ w, st.MayOccur roots plan) (h : Follows plan w l t r l') :
    Ends plan t r l' := by
  induction h with
  | done l => exact .accepted (by simp)
  | step h _ ih =>
    cases h.ends (hw _ List.mem_cons_self) with
    | accepted ht => exact .append ht (ih fun st hst ↦ hw st (List.mem_cons_of_mem _ hst))
  | stop h => exact h.ends (hw _ List.mem_cons_self)

end DpuNetwork
