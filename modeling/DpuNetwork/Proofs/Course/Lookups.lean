import DpuNetwork.Proofs.Agreement
import DpuNetwork.Proofs.Course.Refusal

/-!
# A pass looks before it adds

Every command that adds an address, a route or a rule stands right behind the lookup that has shown
the same thing missing, and every lookup that shows it missing stands right before that command.
Whatever the host answers, no lookup that fails, that cannot be read, or that shows what was looked
for is followed by an addition.

What a lookup is for is told by its place: the stages before it fix whose turn it is.

## Main statements

* `Stage.Takes.of_isAdd`, `Stage.Takes.of_looksFor`: additions and lookups within one stage;
* `history_looksFirst`: additions and lookups in all passes of an agent.
-/

namespace DpuNetwork

open Ipv4 Pass

/-- A command that adds an address, a route or a rule. -/
def Network.IsAdd (c : Command) : Prop :=
  ∃ kind ∈ ["addr", "route", "rule"], ∃ args, c = ip (kind :: "add" :: args)

/-- A listing can be read and holds no entry of an addition: the address with its prefix length is
not among the addresses, no route has both gateway and device, no rule has priority, table, source
and its length. -/
def Addition.MissingIn : Addition → String → Prop
  | address _ a, text =>
    ∃ links as, Listing.links text = .ok links ∧ Listing.addresses links = .ok as ∧ a ∉ as
  | route _ gateway device _ _, text =>
    ∃ rs, Listing.routes text = .ok rs ∧
      ¬ ∃ r ∈ rs, r.gateway = some gateway.text ∧ r.device = some device
  | rule source table priority, text =>
    ∃ rs, Listing.rules text = .ok rs ∧
      ¬ ∃ r ∈ rs, r.priority = priority ∧ r.table = some (toString table) ∧
        r.source = some source.network.networkAddress.text ∧
        r.sourceLength.getD 32 = source.prefixLength

/-- The commands that look an addition up: routes to exactly one network, rules, and in internal
mode the addresses of the overlay bridge. -/
def Plan.LooksFor (plan : Plan) (q : Command) : Prop :=
  (∃ destination table, q = Network.showRoutes destination table) ∨ q = Network.showRules ∨
    ∃ m, plan.mode = .internal m ∧ q = Network.showAddresses overlayBridge

namespace Addition

/-- An addition is not recognised in a listing exactly when the listing does not hold it. -/
theorem recognise_eq_ok_false_iff {A : Addition} {text : String} :
    A.recognise text = .ok false ↔ A.MissingIn text := by
  cases A with
  | address link a =>
    simp only [recognise, MissingIn, except_bind_eq_ok_iff, except_pure_eq_ok_iff,
      ← Bool.not_eq_true, List.contains_iff_mem, exists_and_left]
  | route destination gateway device metric table =>
    simp only [recognise, MissingIn, except_bind_eq_ok_iff, except_pure_eq_ok_iff,
      ← hasRoute_eq_true_iff, Bool.not_eq_true]
  | rule source table priority =>
    simp only [recognise, MissingIn, except_bind_eq_ok_iff, except_pure_eq_ok_iff,
      ← hasRule_eq_true_iff, Bool.not_eq_true]

/-- What the commands of a pass are: an addition is made by a command that adds, and by no other. -/
theorem isAdd_command (A : Addition) : Network.IsAdd A.command := by
  cases A
  · exact ⟨"addr", by simp, _, rfl⟩
  · exact ⟨"route", by simp, _, rfl⟩
  · exact ⟨"rule", by simp, _, rfl⟩

end Addition

namespace Network

theorem IsAdd.not_isQuery {c : Command} (h : IsAdd c) : ¬ IsQuery c := by
  obtain ⟨kind, hkind, args, rfl⟩ := h
  rintro ⟨args', h⟩
  simp only [ip, Command.mk.injEq, List.cons.injEq, true_and] at h
  obtain ⟨rfl, -⟩ := h
  exact absurd hkind (by decide)

theorem not_isAdd_setUp (link : String) : ¬ IsAdd (setUp link) := by
  rintro ⟨kind, -, args, h⟩
  simp [setUp, ip] at h

theorem not_isAdd_setExternalId (key value : String) : ¬ IsAdd (setExternalId key value) := by
  rintro ⟨kind, -, args, h⟩
  simp [setExternalId, ip] at h

theorem not_isAdd_applyBridgeDefinition : ¬ IsAdd applyBridgeDefinition := by
  rintro ⟨kind, -, args, h⟩
  simp [applyBridgeDefinition, ip] at h

end Network

/-- What is looked up is an addition that the plan may make. -/
theorem Plan.LooksFor.exists_listing {plan : Plan} {q : Command} (h : plan.LooksFor q) :
    ∃ A, plan.MayAdd A ∧ A.listing = q := by
  rcases h with ⟨destination, table, rfl⟩ | rfl | ⟨m, hmode, rfl⟩
  · exact ⟨.route destination default "" none table, trivial, rfl⟩
  · exact ⟨.rule default policyTable podRulePriority, plan.mayAdd_podRule _, rfl⟩
  · exact ⟨.address overlayBridge m.endpoint, Plan.mayAdd_address hmode, rfl⟩

theorem Plan.LooksFor.isQuery {plan : Plan} {q : Command} (h : plan.LooksFor q) :
    Network.IsQuery q := by
  obtain ⟨A, -, rfl⟩ := h.exists_listing
  exact A.isQuery_listing

variable {plan : Plan} {roots : Roots} {l l' : Store} {t pre post : List Exchange}
  {r : Except Failure Unit} {st : Stage} {w : List Stage} {x : Findings} {now : Nat} {c : Command}
  {answer : Except RunFault String}

/-! ### One stage -/

/-- An addition is made by the stage that makes sure of it. -/
theorem Stage.Makes.of_isAdd (hst : st.MayOccur roots plan) (hc : Network.IsAdd c)
    (h : st.Makes plan (.run c answer)) : ∃ A, st = .ensure A ∧ c = A.command := by
  rcases h.of_run hst with
    ⟨-, ⟨-, rfl⟩ | ⟨key, value, rfl⟩⟩ | ⟨-, rfl⟩ | ⟨A, -, rfl⟩ | hA | hobserved
  · exact absurd hc (Network.not_isAdd_setUp _)
  · exact absurd hc (Network.not_isAdd_setExternalId _ _)
  · exact absurd hc Network.not_isAdd_applyBridgeDefinition
  · exact absurd A.isQuery_listing hc.not_isQuery
  · exact hA
  · exact absurd (Plan.isQuery_of_observes hobserved) hc.not_isQuery

/-- An addition is looked up by the stage that makes sure of it. -/
theorem Stage.Makes.of_looksFor (hst : st.MayOccur roots plan) (hc : plan.LooksFor c)
    (h : st.Makes plan (.run c answer)) : ∃ A, st = .ensure A ∧ c = A.listing := by
  rcases h.of_run hst with
    ⟨-, ⟨-, rfl⟩ | ⟨key, value, rfl⟩⟩ | ⟨-, rfl⟩ | hA | ⟨A, -, rfl⟩ | hobserved
  · exact absurd hc.isQuery (not_isQuery_setUp _)
  · exact absurd hc.isQuery (not_isQuery_setExternalId _ _)
  · exact absurd hc.isQuery not_isQuery_applyBridgeDefinition
  · exact hA
  · exact absurd hc.isQuery (not_isQuery_command A)
  · obtain ⟨B, hB, hlisting⟩ := hc.exists_listing
    exact absurd hlisting (Plan.listing_ne_of_observes hobserved hB)

/-- Within its stage, an addition stands right behind the lookup that has shown it missing. -/
theorem Stage.Takes.of_isAdd (hst : st.MayOccur roots plan) (hc : Network.IsAdd c)
    (h : st.Takes plan l (pre ++ .run c answer :: post) r l') :
    ∃ A text, st = .ensure A ∧ c = A.command ∧ pre = [.run A.listing (.ok text)] ∧
      A.MissingIn text := by
  obtain ⟨A, rfl, rfl⟩ := (h.makes (List.mem_append_right _ List.mem_cons_self)).of_isAdd hst hc
  have hnot : A.command ≠ A.listing := fun h ↦ not_isQuery_command A (h ▸ A.isQuery_listing)
  obtain ⟨⟨answer', ht, -⟩ | ⟨text, answer', ht, hmissing, -⟩, -⟩ := h
  · -- The lookup alone has no room for the addition.
    obtain ⟨-, he, -⟩ := singleton_eq_append_cons.mp ht.symm
    exact absurd (Exchange.run.inj he).1 hnot
  · rcases pair_eq_append_cons.mp ht.symm with ⟨-, he, -⟩ | ⟨rfl, -, -⟩
    · exact absurd (Exchange.run.inj he).1 hnot
    · exact ⟨A, text, rfl, rfl, rfl, Addition.recognise_eq_ok_false_iff.mp hmissing⟩

/-- Within its stage, a lookup comes first. It is followed by the addition if it has shown it
missing; otherwise the stage ends with it. -/
theorem Stage.Takes.of_looksFor (hst : st.MayOccur roots plan) (hc : plan.LooksFor c)
    (h : st.Takes plan l (pre ++ .run c answer :: post) r l') :
    ∃ A, st = .ensure A ∧ c = A.listing ∧ pre = [] ∧
      ((post = [] ∧ ∀ text, answer = .ok text → ¬ A.MissingIn text) ∨
        ∃ text answer', answer = .ok text ∧ A.MissingIn text ∧
          post = [.run A.command answer']) := by
  obtain ⟨A, rfl, rfl⟩ := (h.makes (List.mem_append_right _ List.mem_cons_self)).of_looksFor hst hc
  have hnot : A.listing ≠ A.command := fun h ↦ not_isQuery_command A (h ▸ A.isQuery_listing)
  refine ⟨A, rfl, rfl, ?_⟩
  obtain ⟨⟨answer', ht, hread⟩ | ⟨text, answer', ht, hmissing, -⟩, -⟩ := h
  · obtain ⟨rfl, he, rfl⟩ := singleton_eq_append_cons.mp ht.symm
    obtain ⟨-, rfl⟩ := Exchange.run.inj he
    refine ⟨rfl, .inl ⟨rfl, fun text hanswer hmissing ↦ ?_⟩⟩
    rw [hanswer, readAnswer_ok, Addition.recognise_eq_ok_false_iff.mpr hmissing] at hread
    cases r <;> cases hread
  · rcases pair_eq_append_cons.mp ht.symm with ⟨rfl, he, rfl⟩ | ⟨-, he, -⟩
    · obtain ⟨-, rfl⟩ := Exchange.run.inj he
      exact ⟨rfl, .inr ⟨text, answer', rfl, Addition.recognise_eq_ok_false_iff.mp hmissing, rfl⟩⟩
    · exact absurd (Exchange.run.inj he).1 hnot

/-! ### Whole passes -/

/-- No part of a pass that begins with a stage begins with an addition. -/
theorem Follows.not_isAdd_head (hw : ∀ st ∈ w, st.MayOccur roots plan)
    (h : Follows plan w l (.run c answer :: post) r l') : ¬ Network.IsAdd c := by
  intro hc
  have hnil : Follows plan w l ([] ++ .run c answer :: post) r l' := h
  obtain ⟨before, st, after, p, q, v, u, l₁, r₁, l₂, rfl, hpre, -, -, hst, -⟩ := hnil.locate
  obtain ⟨-, rfl⟩ := List.nil_eq_append_iff.mp hpre
  obtain ⟨A, text, -, -, hlookup, -⟩ := hst.of_isAdd (hw st (by simp)) hc
  cases hlookup

/-- In a pass, additions and lookups go together. -/
structure LooksFirst {σ : Type} (roots : Roots) (plan : Plan) (r : MadePass σ) : Prop where
  /-- Right before an addition stands the lookup that has shown it missing. -/
  add : ∀ pre c answer post, r.after.trace = pre ++ Exchange.run c answer :: post →
    Network.IsAdd c →
    ∃ (A : Addition) (pre' : List Exchange) (text : String), plan.MayAdd A ∧ c = A.command ∧
      pre = pre' ++ [Exchange.run A.listing (.ok text)] ∧ A.MissingIn text
  /-- A lookup is for the addition whose turn it is. If it has shown it missing, the addition stands
  right behind it; otherwise, also if it has failed or cannot be read, no addition does. -/
  lookup : ∀ pre q answer post, r.after.trace = pre ++ Exchange.run q answer :: post →
    plan.LooksFor q →
    ∃ (x : Findings) (before : List Stage) (A : Addition) (after : List Stage) (l : Store),
      plan.course roots r.now x = before ++ Stage.ensure A :: after ∧
      Follows plan before r.before.store pre (.ok ()) l ∧ q = A.listing ∧
      (∀ text, answer = .ok text → A.MissingIn text →
        ∃ answer' post', post = .run A.command answer' :: post') ∧
      ((∀ text, answer = .ok text → ¬ A.MissingIn text) →
        ∀ c answer' post', post = .run c answer' :: post' → ¬ Network.IsAdd c)

/-- A single pass looks first, because the word that it follows does. -/
theorem makePass_looksFirst {σ : Type} (H : Host σ) (roots : Roots) (plan : Plan) (memory : Memory)
    (v : Visit σ) : LooksFirst roots plan (makePass H roots plan memory v) := by
  obtain ⟨x, hw⟩ := makePass_follows H roots plan memory v
  constructor
  · intro pre c answer post htrace hc
    rw [htrace] at hw
    obtain ⟨before, st, after, p, q, v', u, l₁, r₁, l₂, hcourse, rfl, -, -, hst, -⟩ := hw.locate
    have hmem : st ∈ plan.course roots v.now x := hcourse ▸ by simp
    have hoccur := mayOccur_of_mem_course hmem
    obtain ⟨A, text, rfl, rfl, rfl, hmissing⟩ := hst.of_isAdd hoccur hc
    exact ⟨A, p, text, hoccur, rfl, rfl, hmissing⟩
  · intro pre q answer post htrace hq
    rw [htrace] at hw
    obtain ⟨before, st, after, p, q', v', u, l₁, r₁, l₂, hcourse, rfl, rfl, hbefore, hst, hafter⟩ :=
      hw.locate
    have hoccur {st' : Stage} (h : st' ∈ st :: after) : st'.MayOccur roots plan :=
      mayOccur_of_mem_course (hcourse ▸ List.mem_append_right _ h)
    obtain ⟨A, rfl, rfl, rfl, hnext⟩ := hst.of_looksFor (hoccur List.mem_cons_self) hq
    rw [List.append_nil]
    refine ⟨x, before, A, after, l₁, hcourse, hbefore, rfl, fun text htext hmissing ↦ ?_,
      fun hfound c answer' post' hpost ↦ ?_⟩
    · rcases hnext with ⟨-, hfound⟩ | ⟨text', answer', -, -, rfl⟩
      · exact absurd hmissing (hfound text htext)
      · exact ⟨answer', u, rfl⟩
    · rcases hnext with ⟨rfl, -⟩ | ⟨text, answer', htext, hmissing, -⟩
      · -- The stage has ended, so what comes next is the beginning of another one.
        obtain rfl : u = _ := hpost
        rcases r₁ with f | ⟨⟩
        · cases hafter.1
        · exact Follows.not_isAdd_head
            (fun st' h ↦ hoccur (List.mem_cons_of_mem _ h)) hafter
      · exact absurd hmissing (hfound text htext)

/-- **An agent looks before it adds.** In every pass that it makes, whatever the host answers. -/
theorem history_looksFirst {σ : Type} (H : Host σ) (roots : Roots) (plan : Plan) (memory : Memory)
    (vs : List (Visit σ)) {r : MadePass σ} (hr : r ∈ history H roots plan memory vs) :
    LooksFirst roots plan r := by
  obtain ⟨memory', v, rfl⟩ := exists_eq_makePass_of_mem_history H roots plan hr
  exact makePass_looksFirst H roots plan memory' v

/-- The first pass after the lease adds the rule for the pod network, and it has looked for it right
before. -/
theorem history_looksFirst_lease :
    ((makePass scriptedHost {} leasePlan leasePlan.memory leaseVisit).after.trace.any fun
      | .run c _ => c = Network.addRule (Cidr.ofBits 0x0a020000 24) policyTable podRulePriority
      | _ => false) = true ∧
    LooksFirst {} leasePlan (makePass scriptedHost {} leasePlan leasePlan.memory leaseVisit) := by
  have hmem : makePass scriptedHost {} leasePlan leasePlan.memory leaseVisit ∈
      history scriptedHost {} leasePlan leasePlan.memory [leaseVisit] := by
    rw [history_cons]
    exact List.mem_cons_self
  exact ⟨makePass_leaseVisit.2,
    history_looksFirst scriptedHost {} leasePlan leasePlan.memory [leaseVisit] hmem⟩

end DpuNetwork
