import DpuNetwork.Proofs.Pass.Parts

/-!
# What holds along a pass

A relation between the session before and after that holds when nothing is done and passes on from
one step to the next holds along a whole pass once it holds along its requests (`Pass.Respects`).
The requests of a step are named in its lemma; a step that only asks and adds on the network uses
commands of the network tool and nothing else, so one assumption on these covers most of a pass
(`RespectsNetwork`).

Relations of this kind are what a pass keeps of the world: that no route was removed, that a store
stays sound, that no time was noted for the bridge definition. Each is proved for single requests,
and the lemmas here carry it to the steps that are made of them. They do not mention which relation
it is, so a new one takes no more than its own requests.

## Main definitions

* `Chains`: the relation holds when nothing is done and passes on;
* `Respects`: it holds along a pass, however that ends;
* `RespectsNetwork`: it holds along the commands of the network tool that a plan can run.
-/

namespace DpuNetwork

open Ipv4

namespace Pass

variable {σ α β : Type}

/-- A relation that holds when nothing is done and passes on from one step to the next. -/
structure Chains (R : Session σ → Session σ → Prop) : Prop where
  /-- It holds when nothing is done. -/
  refl : ∀ s, R s s
  /-- It passes on. -/
  trans : ∀ {s₁ s₂ s₃}, R s₁ s₂ → R s₂ s₃ → R s₁ s₃

/-- From every session, the relation holds between the session before the pass and the one after
it, however the pass ends. -/
def Respects (R : Session σ → Session σ → Prop) (p : Pass σ α) : Prop := ∀ s, R s (p.exec s).2

variable {R : Session σ → Session σ → Prop}

/-! ### Sequencing -/

/-- A relation that chains holds along what does nothing. -/
theorem Respects.pure (hR : Chains R) (a : α) : Respects R (pure a : Pass σ α) := hR.refl

/-- It holds along what fails at once. -/
theorem Respects.throw (hR : Chains R) (f : Failure) : Respects R (throw f : Pass σ α) := hR.refl

/-- It holds along what only reads a result. -/
theorem Respects.lift (hR : Chains R) (r : Except Failure α) : Respects R (lift r : Pass σ α) :=
  fun s ↦ by rw [exec_lift]; exact hR.refl s

/-- **It passes on from one step to the next**; where the first one fails, the second is not
reached. -/
theorem Respects.bind (hR : Chains R) {p : Pass σ α} {f : α → Pass σ β} (hp : Respects R p)
    (hf : ∀ a, Respects R (f a)) : Respects R (p >>= f) := by
  intro s
  have hs := hp s
  rw [exec_bind]
  rcases h : p.exec s with ⟨e | a, s₁⟩
  · rwa [h] at hs
  -- The first step has led to `s₁`, from where the second goes on.
  · rw [h] at hs
    exact hR.trans hs (hf a s₁)

/-- It holds along reading the memory. -/
theorem Respects.remembered (hR : Chains R) : Respects R (remembered : Pass σ Memory) := hR.refl

/-! ### Steps -/

/-- The relation holds along the commands of the network tool that a pass of a plan can run. -/
structure RespectsNetwork (R : Session σ → Session σ → Prop) (H : Host σ) (plan : Plan) : Prop where
  /-- It chains. -/
  chains : Chains R
  /-- It holds along queries. -/
  ask : ∀ q, Network.IsQuery q → Respects R (run H q)
  /-- It holds along additions. -/
  add : ∀ A, plan.MayAdd A → Respects R (run H A.command)
  /-- It holds when the bridge is put into operation. -/
  setUp : Respects R (run H (Network.setUp overlayBridge))

/-- It is enough that the relation holds along every command of the network tool. -/
theorem RespectsNetwork.of_ip {H : Host σ} (hR : Chains R)
    (hip : ∀ args, Respects R (run H (Network.ip args))) (plan : Plan) :
    RespectsNetwork R H plan where
  chains := hR
  ask _ hq := by
    obtain ⟨args, rfl⟩ := hq
    exact hip _
  add A _ := by cases A <;> exact hip _
  setUp := hip _

variable (H : Host σ)

/-- Running a program whose output does not matter is running it. -/
theorem Respects.perform (hR : Chains R) {c : Command} (hc : Respects R (run H c)) :
    Respects R (perform H c) :=
  hc.bind hR fun _ ↦ .pure hR _

/-- Listing addresses runs one query. -/
theorem Respects.addressesOf (hR : Chains R)
    (hask : ∀ q, Network.IsQuery q → Respects R (run H q)) (link : String) :
    Respects R (addressesOf H link) :=
  (hask _ (Network.isQuery_showAddresses link)).bind hR fun _ ↦
    (Respects.lift hR _).bind hR fun _ ↦ .lift hR _

/-- Looking up a gateway runs one query. -/
theorem Respects.gatewayTo (hR : Chains R)
    (hask : ∀ q, Network.IsQuery q → Respects R (run H q)) (destination : Cidr) :
    Respects R (gatewayTo H destination) :=
  (hask _ (Network.isQuery_lookUp destination)).bind hR fun _ ↦
    (Respects.lift hR _).bind hR fun _ ↦ .lift hR _

/-- The only address of a link takes one query, whatever it lists. -/
theorem Respects.singleAddress (hR : Chains R)
    (hask : ∀ q, Network.IsQuery q → Respects R (run H q)) (link : String) :
    Respects R (singleAddress H link) := by
  refine (Respects.addressesOf H hR hask link).bind hR fun as ↦ ?_
  split
  · exact .pure hR _
  · exact .throw hR _

/-- So does the address that the bridge was given. -/
theorem Respects.bridgeAddress (hR : Chains R)
    (hask : ∀ q, Network.IsQuery q → Respects R (run H q)) : Respects R (bridgeAddress H) := by
  refine (Respects.addressesOf H hR hask overlayBridge).bind hR fun as ↦ ?_
  split
  · exact .throw hR _
  · exact .pure hR _
  · exact .throw hR _

/-- Looking for something and adding it: a query, and an addition that the plan may make. -/
theorem Respects.ensure {plan : Plan} (h : RespectsNetwork R H plan) {A : Addition}
    (hA : plan.MayAdd A) : Respects R (ensure H A) := by
  refine ((h.ask _ A.isQuery_listing).bind h.chains fun _ ↦ .lift h.chains _).bind h.chains
    fun b ↦ ?_
  cases b
  · exact .perform H h.chains (h.add A hA)
  · exact .pure h.chains _

/-- The address of a function takes one device file. -/
theorem Respects.functionMac (hR : Chains R) (hdevice : ∀ path, Respects R (readDevice H path))
    (devices : String) (index : Nat) : Respects R (functionMac H devices index) :=
  (hdevice _).bind hR fun _ ↦ .lift hR _

/-- The zone takes a read of the node of the plan and at most one application to it. -/
theorem Respects.ensureZone (hR : Chains R) (plan : Plan)
    (hget : Respects R (getNode H plan.nodeName))
    (happly : ∀ l, Respects R (applyLabels H plan.nodeName l)) :
    Respects R (ensureZone H plan) := by
  refine hget.bind hR fun node ↦ ?_
  split
  · exact .throw hR _
  · split
    · exact .throw hR _
    · exact (happly _).bind hR fun _ ↦ .pure hR _

/-- The server takes a question for its state, or a start and a note that it was started. -/
theorem Respects.ensureDhcpServer (hR : Chains R) (plan : Plan) (m : InternalMode) (mac : Mac)
    (hchild : Respects R (childState H)) (hstart : ∀ c, Respects R (start H c))
    (hremember : Respects R (remember fun memory ↦ { memory with dhcpStarted := true })) :
    Respects R (ensureDhcpServer H plan m mac) := by
  refine (Respects.remembered hR).bind hR fun memory ↦ ?_
  split
  · refine hchild.bind hR fun state ↦ ?_
    split
    · exact .pure hR _
    · exact .throw hR _
  · exact (Respects.lift hR _).bind hR fun _ ↦ (hstart _).bind hR fun _ ↦ hremember

/-- Writing the gateway options replaces a file. -/
theorem Respects.writeGatewayOptions (hR : Chains R) (roots : Roots) (o : GatewayOptions)
    (hfile : ∀ path text, Respects R (replaceFile path text)) :
    Respects R (writeGatewayOptions roots o) :=
  (hfile _ _).bind hR fun _ ↦ .pure hR _

/-- Policy routing works on the network alone: queries, two rules and a route. -/
theorem Respects.ensurePolicyRouting {plan : Plan} (h : RespectsNetwork R H plan) :
    Respects R (ensurePolicyRouting H plan) := by
  unfold Pass.ensurePolicyRouting
  simp only [ensureRule_eq, ensureRoute_eq]
  exact (Respects.singleAddress H h.chains h.ask _).bind h.chains fun _ ↦
    (Respects.singleAddress H h.chains h.ask _).bind h.chains fun _ ↦
    (Respects.ensure H h (plan.mayAdd_podRule _)).bind h.chains fun _ ↦
    (Respects.ensure H h (plan.mayAdd_outOfBandRule _)).bind h.chains fun _ ↦
    (Respects.gatewayTo H h.chains h.ask _).bind h.chains fun _ ↦
    .ensure H h (plan.mayAdd_route _ _ _ _ _)

/-- Adopting the bridge asks for its address and the gateway to it, and adds a route. -/
theorem Respects.adoptBridge {plan : Plan} (h : RespectsNetwork R H plan)
    (hfile : ∀ path text, Respects R (replaceFile path text)) (roots : Roots)
    (m : ExternalMode) : Respects R (adoptBridge H roots plan m) :=
  (Respects.bridgeAddress H h.chains h.ask).bind h.chains fun _ ↦
    (Respects.gatewayTo H h.chains h.ask _).bind h.chains fun _ ↦
    (Respects.ensure H h (plan.mayAdd_route _ _ _ _ _)).bind h.chains fun _ ↦
    (Respects.writeGatewayOptions h.chains roots _ hfile).bind h.chains fun _ ↦ .pure h.chains _

/-- The identity of the switch is set by three commands for it. -/
theorem Respects.identify (hR : Chains R)
    (hswitch : ∀ key value, Respects R (run H (Network.setExternalId key value)))
    (endpoint : Address) (hostName : String) : Respects R (identify H endpoint hostName) :=
  (Respects.perform H hR (hswitch _ _)).bind hR fun _ ↦
    (Respects.perform H hR (hswitch _ _)).bind hR fun _ ↦ .perform H hR (hswitch _ _)

/-- Internal mode takes every kind of request but those for nodes and for the bridge definition. -/
theorem Respects.ensureInternal {plan : Plan} (h : RespectsNetwork R H plan)
    (hdevice : ∀ path, Respects R (readDevice H path)) (hchild : Respects R (childState H))
    (hstart : ∀ c, Respects R (start H c))
    (hremember : Respects R (remember fun memory ↦ { memory with dhcpStarted := true }))
    (hfile : ∀ path text, Respects R (replaceFile path text)) (roots : Roots) {m : InternalMode}
    (hm : plan.mode = .internal m) : Respects R (ensureInternal H roots plan m) := by
  -- Both branches end by serving the host, so this part is done once.
  have hserve : Respects R (serveHost H roots plan m) :=
    (Respects.ensure H h (plan.mayAdd_route _ _ _ _ _)).bind h.chains fun _ ↦
    (Respects.functionMac H h.chains hdevice _ _).bind h.chains fun mac ↦
    (Respects.ensureDhcpServer H h.chains plan m mac hchild hstart hremember).bind h.chains
      fun _ ↦
    (Respects.writeGatewayOptions h.chains roots _ hfile).bind h.chains fun _ ↦ .pure h.chains _
  rw [ensureInternal_eq]
  refine (Respects.ensure H h (Plan.mayAdd_address hm)).bind h.chains fun _ ↦
    (Respects.perform H h.chains h.setUp).bind h.chains fun _ ↦ ?_
  split
  · exact (Respects.ensure H h (plan.mayAdd_route _ _ _ _ _)).bind h.chains fun _ ↦ hserve
  · exact hserve

end Pass

end DpuNetwork
