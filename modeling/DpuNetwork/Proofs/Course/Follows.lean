import Mathlib.Data.List.Chain
import DpuNetwork.Proofs.Course.Stage

/-!
# Following a word of stages

A pass follows a word when it takes the stages of the word one after the other until it has passed
them all or one of them fails (`Follows`). Every pass of a plan follows a word that is fixed by the
plan but for the values that it finds on its way (`Plan.course`, `makePass_follows`).

## Main statements

* `Follows.append_iff`: a word is followed in two parts;
* `Follows.locate`: every exchange of a pass stands in a stage, behind stages that were passed;
* `Pass.Keeps.bind`: the word of a sequence of two passes;
* `makePass_follows`: the words of all passes.
-/

namespace DpuNetwork

open Ipv4

/-- Some exchanges lead through a word of stages from one store to another: through all of it, with
success, or as far as the first stage that fails. -/
inductive Follows (plan : Plan) :
    List Stage → Store → List Exchange → Except Failure Unit → Store → Prop
  /-- Behind the last stage is success. -/
  | done (l : Store) : Follows plan [] l [] (.ok ()) l
  /-- A stage that is passed leads to the next one. -/
  | step {st : Stage} {w : List Stage} {l l₁ l' : Store} {t u : List Exchange}
      {r : Except Failure Unit} (h : st.Takes plan l t (.ok ()) l₁)
      (hw : Follows plan w l₁ u r l') : Follows plan (st :: w) l (t ++ u) r l'
  /-- A stage that fails is the last one. -/
  | stop {st : Stage} {w : List Stage} {l l' : Store} {t : List Exchange} {f : Failure}
      (h : st.Takes plan l t (.error f) l') : Follows plan (st :: w) l t (.error f) l'

/-- What comes behind a part of a word: the rest of it, unless the part has failed. -/
def Continues (plan : Plan) (w : List Stage) (r₁ : Except Failure Unit) (l₁ : Store)
    (u : List Exchange) (r : Except Failure Unit) (l' : Store) : Prop :=
  match r₁ with
  | .ok () => Follows plan w l₁ u r l'
  | .error f => u = [] ∧ r = .error f ∧ l' = l₁

section

variable {plan : Plan} {w w' : List Stage} {st : Stage} {l l₁ l' : Store} {t u : List Exchange}
  {r r₁ : Except Failure Unit} {f : Failure}

@[simp] theorem follows_nil_iff : Follows plan [] l t r l' ↔ t = [] ∧ r = .ok () ∧ l' = l := by
  constructor
  · rintro ⟨⟩
    exact ⟨rfl, rfl, rfl⟩
  · rintro ⟨rfl, rfl, rfl⟩
    exact .done _

/-- A word is followed stage by stage; what is left of it is followed only if the first stage
succeeded. -/
theorem follows_cons_iff : Follows plan (st :: w) l t r l' ↔
    ∃ t₁ r₁ l₁ u, t = t₁ ++ u ∧ st.Takes plan l t₁ r₁ l₁ ∧ Continues plan w r₁ l₁ u r l' := by
  constructor
  · intro h
    cases h with
    | step h hw => exact ⟨_, _, _, _, rfl, h, hw⟩
    | stop h => exact ⟨t, _, _, [], (List.append_nil t).symm, h, rfl, rfl, rfl⟩
  · rintro ⟨t₁, r₁, l₁, u, rfl, h, hw⟩
    rcases r₁ with f | ⟨⟩
    · obtain ⟨rfl, rfl, rfl⟩ := hw
      rw [List.append_nil]
      exact .stop h
    · exact .step h hw

/-- A word is followed in two parts. -/
theorem Follows.append_iff : Follows plan (w ++ w') l t r l' ↔
    ∃ t₁ r₁ l₁ u, t = t₁ ++ u ∧ Follows plan w l t₁ r₁ l₁ ∧ Continues plan w' r₁ l₁ u r l' := by
  constructor
  · intro h
    induction w generalizing l t with
    | nil => exact ⟨[], _, l, t, rfl, .done l, h⟩
    | cons st w ih =>
      cases h with
      | step h hw =>
        obtain ⟨t₁, r₁, l₁, u, rfl, hw, hrest⟩ := ih hw
        exact ⟨_, r₁, l₁, u, (List.append_assoc _ _ _).symm, .step h hw, hrest⟩
      | stop h => exact ⟨t, _, _, [], (List.append_nil t).symm, .stop h, rfl, rfl, rfl⟩
  · rintro ⟨t₁, r₁, l₁, u, rfl, h, hrest⟩
    induction h with
    | done l => exact hrest
    | step h _ ih =>
      rw [List.append_assoc]
      exact .step h (ih hrest)
    | stop h =>
      obtain ⟨rfl, rfl, rfl⟩ := hrest
      rw [List.append_nil]
      exact .stop h

/-- A word that is passed is passed in two parts. -/
theorem Follows.ok_append (h : Follows plan (w ++ w') l t (.ok ()) l') :
    ∃ t₁ l₁ u, t = t₁ ++ u ∧ Follows plan w l t₁ (.ok ()) l₁ ∧
      Follows plan w' l₁ u (.ok ()) l' := by
  obtain ⟨t₁, r₁, l₁, u, rfl, hw, hrest⟩ := Follows.append_iff.mp h
  rcases r₁ with f | ⟨⟩
  · cases hrest.2.1
  · exact ⟨t₁, l₁, u, rfl, hw, hrest⟩

/-- In a word that is passed the first stage is passed, and so are the others. -/
theorem Follows.ok_cons (h : Follows plan (st :: w) l t (.ok ()) l') :
    ∃ t₁ l₁ u, t = t₁ ++ u ∧ st.Takes plan l t₁ (.ok ()) l₁ ∧ Follows plan w l₁ u (.ok ()) l' := by
  obtain ⟨t₁, r₁, l₁, u, rfl, hst, hrest⟩ := follows_cons_iff.mp h
  rcases r₁ with f | ⟨⟩
  · cases hrest.2.1
  · exact ⟨t₁, l₁, u, rfl, hst, hrest⟩

/-- In a word that is passed the last stage is passed behind the others. -/
theorem Follows.ok_concat (h : Follows plan (w ++ [st]) l t (.ok ()) l') :
    ∃ t₁ l₁ u, t = t₁ ++ u ∧ Follows plan w l t₁ (.ok ()) l₁ ∧ st.Takes plan l₁ u (.ok ()) l' := by
  obtain ⟨t₁, l₁, u, rfl, hw, hlast⟩ := h.ok_append
  obtain ⟨u, l₂, v, rfl, hst, hnil⟩ := hlast.ok_cons
  obtain ⟨rfl, -, rfl⟩ := follows_nil_iff.mp hnil
  exact ⟨t₁, l₁, u, by rw [List.append_nil], hw, hst⟩

/-- Where an entry of two joined lists stands: in the second one or in the first one. -/
theorem append_eq_append_cons {α : Type} {t u pre post : List α} {e : α}
    (h : t ++ u = pre ++ e :: post) :
    (∃ pre', pre = t ++ pre' ∧ u = pre' ++ e :: post) ∨ ∃ v, t = pre ++ e :: v ∧ post = v ++ u := by
  rcases List.append_eq_append_iff.mp h with ⟨pre', hpre, hu⟩ | ⟨c, ht, hc⟩
  · exact .inl ⟨pre', hpre, hu⟩
  · rcases c with - | ⟨e', v⟩
    · exact .inl ⟨[], by simpa using ht.symm, hc.symm⟩
    · obtain ⟨rfl, rfl⟩ := List.cons.inj hc
      exact .inr ⟨v, ht, rfl⟩

/-- The only entry of a list. -/
theorem singleton_eq_append_cons {α : Type} {a e : α} {pre post : List α} :
    [a] = pre ++ e :: post ↔ pre = [] ∧ e = a ∧ post = [] := by
  rcases pre with - | ⟨p, pre⟩ <;> simp [eq_comm]

/-- One of two entries of a list. -/
theorem pair_eq_append_cons {α : Type} {a b e : α} {pre post : List α} :
    [a, b] = pre ++ e :: post ↔
      (pre = [] ∧ e = a ∧ post = [b]) ∨ (pre = [a] ∧ e = b ∧ post = []) := by
  rcases pre with - | ⟨p, - | ⟨q, pre⟩⟩ <;> simp [eq_comm]

/-- **Every exchange stands in a stage**: the stages before it were passed, and what comes behind it
is the rest of its stage and of the word. -/
theorem Follows.locate {pre post : List Exchange} {e : Exchange}
    (h : Follows plan w l (pre ++ e :: post) r l') :
    ∃ before st after p q v u l₁ r₁ l₂, w = before ++ st :: after ∧ pre = p ++ q ∧ post = v ++ u ∧
      Follows plan before l p (.ok ()) l₁ ∧ st.Takes plan l₁ (q ++ e :: v) r₁ l₂ ∧
      Continues plan after r₁ l₂ u r l' := by
  generalize ht : pre ++ e :: post = t at h
  induction h generalizing pre with
  | done l => simp at ht
  | @step st w l l₂ l' t u r h hw ih =>
    rcases append_eq_append_cons ht.symm with ⟨pre', rfl, hu⟩ | ⟨v, rfl, rfl⟩
    · -- It stands behind the first stage.
      obtain ⟨before, st', after, p, q, v, u', l₁, r₁, l₃, rfl, rfl, rfl, hbefore, hst, hafter⟩ :=
        ih hu.symm
      exact ⟨st :: before, st', after, t ++ p, q, v, u', l₁, r₁, l₃, rfl,
        (List.append_assoc _ _ _).symm, rfl, .step h hbefore, hst, hafter⟩
    · exact ⟨[], st, w, [], pre, v, u, l, .ok (), l₂, rfl, rfl, rfl, .done l, h, hw⟩
  | @stop st w l l' t f h =>
    subst ht
    exact ⟨[], st, w, [], pre, post, [], l, .error f, l', rfl, rfl, (List.append_nil _).symm,
      .done l, h, rfl, rfl, rfl⟩

/-- An exchange of a pass is one of some stage of its word. -/
theorem Follows.makes (h : Follows plan w l t r l') {e : Exchange} (he : e ∈ t) :
    ∃ st ∈ w, st.Makes plan e := by
  induction h with
  | done l => simp at he
  | @step st w _ _ _ t u _ h _ ih =>
    rcases List.mem_append.mp he with he | he
    · exact ⟨st, List.mem_cons_self, h.makes he⟩
    · obtain ⟨st', hst', hmakes⟩ := ih he
      exact ⟨st', List.mem_cons_of_mem _ hst', hmakes⟩
  | @stop st w _ _ t _ h => exact ⟨st, List.mem_cons_self, h.makes he⟩

end

/-! ### The words of the passes of a plan -/

/-- The values that a pass finds on its way. -/
structure Findings where
  /-- The host name on the node's label. -/
  hostName : String
  /-- The address that the bridge has got in external mode. -/
  lease : Cidr
  /-- The gateway of the overlay in external mode. -/
  gateway : Address
  /-- The Ethernet address of the host's function in internal mode. -/
  mac : Mac
  /-- The address of the pod network's bridge. -/
  pods : Cidr
  /-- The address of the out-of-band bridge. -/
  outOfBand : Cidr
  /-- The out-of-band default gateway. -/
  defaultGateway : Address

namespace InternalMode

variable (m : InternalMode) (roots : Roots) (plan : Plan) (mac : Mac)

/-- The way to the bridge address in internal mode, up to the DHCP server. The endpoints have a
route of their own exactly when their subnet is wider than the network of the bridge address. -/
def approach : List Stage :=
  [Stage.ensure (.address overlayBridge m.endpoint), Stage.perform (Network.setUp overlayBridge)] ++
  (if plan.endpoints.prefixLength < m.endpoint.prefixLength then
    [Stage.ensure (.route plan.endpoints m.gateway overlayBridge none none)] else []) ++
  [Stage.ensure (.route plan.hosts m.gateway overlayBridge (some hostRouteMetric) none)]

/-- The stages of addressing the bridge in internal mode. -/
def course : List Stage :=
  m.approach plan ++
  [Stage.readMac (Path.child roots.devices (FunctionConfig.path hostFunction)) mac,
    Stage.serve m mac, Stage.write (Path.child roots.files gatewayOptionsPath)
      (GatewayOptions.text ⟨m.gateway, m.endpoint.network⟩)]

end InternalMode

/-- The stages of addressing the bridge in external mode. -/
def ExternalMode.course (m : ExternalMode) (roots : Roots) (plan : Plan) (now : Nat) (lease : Cidr)
    (gateway : Address) : List Stage :=
  [.write (Path.child roots.files bridgeDefinitionPath) bridgeDefinition, .applyThrottled now,
    .readLease lease, .findGateway m.discovery gateway,
    .ensure (.route plan.hosts gateway overlayBridge (some hostRouteMetric) none),
    .write (Path.child roots.files gatewayOptionsPath)
      (GatewayOptions.text ⟨gateway, lease.network⟩)]

namespace Plan

variable (plan : Plan) (roots : Roots) (now : Nat) (x : Findings)

/-- The stages of addressing the bridge. -/
def bridgeCourse : List Stage :=
  match plan.mode with
  | .internal m => m.course roots plan x.mac
  | .external m => m.course roots plan now x.lease x.gateway

/-- The address of the tunnel endpoint. -/
def endpoint : Address :=
  match plan.mode with
  | .internal m => m.endpoint.address
  | .external _ => x.lease.address

/-- The stages of the policy routing. -/
def routingCourse (pods outOfBand : Cidr) (defaultGateway : Address) : List Stage :=
  [.readAddress podBridge pods, .readAddress outOfBandBridge outOfBand,
    .ensure (.rule pods.network policyTable podRulePriority),
    .ensure (.rule outOfBand.host policyTable outOfBandRulePriority),
    .findGateway Cidr.defaultRoute defaultGateway,
    .ensure (.route plan.endpoints defaultGateway outOfBandBridge none (some policyTable))]

/-- The stages of telling the overlay switch who it is. -/
def identityCourse (endpoint : Address) (hostName : String) : List Stage :=
  [.perform (Network.setExternalId "ovn-encap-ip" endpoint.text),
    .perform (Network.setExternalId "host-k8s-nodename" hostName),
    .perform (Network.setExternalId "hostname" hostName)]

/-- **The stages of a pass.** -/
def course : List Stage :=
  [Stage.readNode x.hostName, Stage.applyZone x.hostName] ++ plan.bridgeCourse roots now x ++
  plan.routingCourse x.pods x.outOfBand x.defaultGateway ++
  identityCourse (plan.endpoint x) x.hostName

/-- Where neighbours of a course are related, a stage that is not its first one stands right behind
one that it is related to. -/
theorem exists_stage_before {R : Stage → Stage → Prop} {before after : List Stage} {st' : Stage}
    (hchain : (plan.course roots now x).IsChain R)
    (h : plan.course roots now x = before ++ st' :: after) (hst : st' ≠ .readNode x.hostName) :
    ∃ before' st, before = before' ++ [st] ∧ R st st' := by
  rcases List.eq_nil_or_concat before with rfl | ⟨before', st, rfl⟩
  · exact absurd (List.cons.inj h).1.symm hst
  · rw [h, List.concat_eq_append, List.append_assoc, List.singleton_append,
      List.isChain_append_cons_cons] at hchain
    exact ⟨before', st, List.concat_eq_append, hchain.2.1⟩

end Plan

namespace Pass

variable {σ α β : Type}

/-- From every session, a pass follows a word: one of those for the value that it gives, or for any
value if it fails. -/
def Keeps (plan : Plan) (p : Pass σ α) (C : α → List Stage → Prop) : Prop :=
  ∀ s : Session σ, ∃ t w, (p.exec s).2.trace = s.trace ++ t ∧
    Follows plan w s.store t ((p.exec s).1.map fun _ ↦ ()) (p.exec s).2.store ∧
    match (p.exec s).1 with
    | .ok a => C a w
    | .error _ => ∃ a, C a w

variable {plan : Plan}

/-! ### Sequencing -/

/-- Every part of a pass has a word, also where it fails before its values are known. -/
theorem Keeps.exists_word {p : Pass σ α} {C : α → List Stage → Prop} (h : Keeps plan p C)
    (s : Session σ) : ∃ a w, C a w := by
  obtain ⟨t, w, -, -, hC⟩ := h s
  split at hC
  · exact ⟨_, w, hC⟩
  · exact ⟨_, w, hC.choose_spec⟩

/-- A part that keeps to words of one kind keeps to those of a wider one. -/
theorem Keeps.mono {p : Pass σ α} {C D : α → List Stage → Prop} (h : Keeps plan p C)
    (hCD : ∀ a w, C a w → D a w) : Keeps plan p D := by
  intro s
  obtain ⟨t, w, ht, hw, hC⟩ := h s
  refine ⟨t, w, ht, hw, ?_⟩
  split at hC
  · exact hCD _ _ hC
  · exact hC.imp fun a ↦ hCD a w

/-- A result that is simply returned has the empty word. -/
theorem Keeps.pure (a : α) : Keeps plan (pure a : Pass σ α) fun b w ↦ b = a ∧ w = [] :=
  fun _ ↦ ⟨[], [], (List.append_nil _).symm, .done _, rfl, rfl⟩

/-- **The word of a sequence** is that of the first pass followed by that of the second one. -/
theorem Keeps.bind {p : Pass σ α} {f : α → Pass σ β} {C : α → List Stage → Prop}
    {D : α → β → List Stage → Prop} (hp : Keeps plan p C) (hf : ∀ a, Keeps plan (f a) (D a)) :
    Keeps plan (p >>= f) fun b w ↦ ∃ a w₁ w₂, w = w₁ ++ w₂ ∧ C a w₁ ∧ D a b w₂ := by
  intro s
  obtain ⟨t, w, ht, hw, hC⟩ := hp s
  rw [exec_bind]
  rcases hrun : p.exec s with ⟨e | a, s₁⟩
  · rw [hrun] at ht hw hC
    obtain ⟨a, ha⟩ := hC
    obtain ⟨b, w', hb⟩ := (hf a).exists_word s
    exact ⟨t, w ++ w', ht, Follows.append_iff.mpr ⟨t, _, _, [], (List.append_nil t).symm, hw, rfl,
      rfl, rfl⟩, b, a, w, w', rfl, ha, hb⟩
  · rw [hrun] at ht hw hC
    obtain ⟨u, w', hu, hw', hD⟩ := hf a s₁
    refine ⟨t ++ u, w ++ w', by rw [hu, ht, List.append_assoc],
      Follows.append_iff.mpr ⟨t, _, _, u, rfl, hw, hw'⟩, ?_⟩
    split at hD
    · next hb =>
      simp only [hb]
      exact ⟨a, w, w', rfl, hC, hD⟩
    · next hb =>
      simp only [hb]
      obtain ⟨b, hb⟩ := hD
      exact ⟨b, a, w, w', rfl, hC, hb⟩

/-! ### Single stages -/

/-- A pass that is one stage with nothing to give. -/
theorem Keeps.of_takes {p : Pass σ Unit} {st : Stage}
    (h : ∀ s, ∃ t r s', p.exec s = (r, s') ∧ s'.trace = s.trace ++ t ∧
      st.Takes plan s.store t r s'.store) :
    Keeps plan p fun _ w ↦ w = [st] := by
  intro s
  obtain ⟨t, r, s', hrun, ht, htakes⟩ := h s
  rw [hrun]
  rcases r with e | ⟨⟩
  · exact ⟨t, [st], ht, .stop htakes, (), rfl⟩
  · refine ⟨t, [st], ht, ?_, rfl⟩
    rw [← List.append_nil t]
    exact .step htakes (.done _)

/-- A pass that is one request whose answer is judged is a stage that finds what is judged. -/
theorem Keeps.of_request [Nonempty α] {p : Pass σ α} (ask : σ → β × σ) (record : β → Exchange)
    (judge : β → Except Failure α) (hp : ∀ s, p.exec s =
      (judge (ask s.host).1, s.told (ask s.host).2 (record (ask s.host).1)))
    {C : α → Stage}
    (hC : ∀ a l t r, Asks record judge a t r → (C a).Takes plan l t r l) :
    Keeps plan p fun a w ↦ w = [C a] := by
  intro s
  refine ⟨[record (ask s.host).1], ?_⟩
  rw [hp s]
  rcases hjudge : judge (ask s.host).1 with e | a
  · obtain ⟨a⟩ := ‹Nonempty α›
    exact ⟨[C a], rfl, .stop (hC a _ _ _ ⟨_, rfl, hjudge⟩), a, rfl⟩
  · exact ⟨[C a], rfl, .step (hC a _ _ _ ⟨_, rfl, hjudge⟩) (.done _), rfl⟩

variable (H : Host σ)

/-- A query whose answer is read is one exchange and one judgement. -/
theorem exec_run_bind_lift (c : Command) (read : String → Except Failure α) (s : Session σ) :
    (run H c >>= fun text ↦ lift (read text)).exec s =
      (readAnswer c read (H.run c s.host).1,
        s.told (H.run c s.host).2 (.run c (H.run c s.host).1)) := by
  rw [exec_bind, exec_run]
  rcases (H.run c s.host).1 with f | text
  · rfl
  · exact exec_lift _ _

/-- Running a command and reading its output is one request. -/
theorem keeps_run [Nonempty α] (c : Command) (read : String → Except Failure α) {C : α → Stage}
    (hC : ∀ a l t r, Asks (.run c) (readAnswer c read) a t r → (C a).Takes plan l t r l) :
    Keeps plan (run H c >>= fun text ↦ lift (read text)) fun a w ↦ w = [C a] :=
  .of_request (H.run c) (.run c) (readAnswer c read) (exec_run_bind_lift H c read) hC

/-- The steps of a pass, one by one, and the words they keep to. -/
theorem keeps_perform (c : Command) : Keeps plan (perform H c) fun _ w ↦ w = [.perform c] :=
  keeps_run H c anyOutput fun _ _ _ _ h ↦ ⟨h, rfl⟩

instance : Inhabited Cidr := ⟨Cidr.defaultRoute⟩

instance : Inhabited Mac := ⟨⟨Vector.replicate 6 ⟨0, by decide⟩⟩⟩

/-- Addresses are read from the answer of one query. -/
theorem addressesOf_eq (link : String) :
    addressesOf H link = (run H (Network.showAddresses link) >>= fun text ↦
      lift (addressesIn text)) := by
  refine ext fun s ↦ ?_
  rw [addressesOf, exec_bind, exec_bind, exec_run]
  rcases (H.run (Network.showAddresses link) s.host).1 with f | text
  · rfl
  · simp only [mapError_ok, exec_bind, exec_lift, addressesIn]
    rcases Listing.links text with f | links <;> rfl

theorem keeps_singleAddress (link : String) :
    Keeps plan (singleAddress H link) fun a w ↦ w = [.readAddress link a] := by
  have heq : singleAddress H link = (run H (Network.showAddresses link) >>= fun text ↦
      lift (onlyAddress link text)) := by
    refine ext fun s ↦ ?_
    rw [singleAddress, addressesOf_eq, exec_bind, exec_bind, exec_bind]
    rcases (run H (Network.showAddresses link)).exec s with ⟨f | text, s'⟩
    · rfl
    · simp only [exec_lift, onlyAddress]
      rcases addressesIn text with f | (- | ⟨a, - | ⟨b, as⟩⟩) <;> rfl
  rw [heq]
  exact keeps_run H _ _ fun _ _ _ _ h ↦ ⟨h, rfl⟩

theorem keeps_bridgeAddress : Keeps plan (bridgeAddress H) fun a w ↦ w = [.readLease a] := by
  have heq : bridgeAddress H = (run H (Network.showAddresses overlayBridge) >>= fun text ↦
      lift (leasedAddress text)) := by
    refine ext fun s ↦ ?_
    rw [bridgeAddress, addressesOf_eq, exec_bind, exec_bind, exec_bind]
    rcases (run H (Network.showAddresses overlayBridge)).exec s with ⟨f | text, s'⟩
    · rfl
    · simp only [exec_lift, leasedAddress]
      rcases addressesIn text with f | (- | ⟨a, - | ⟨b, as⟩⟩) <;> rfl
  rw [heq]
  exact keeps_run H _ _ fun _ _ _ _ h ↦ ⟨h, rfl⟩

/-- So is a gateway. -/
theorem gatewayTo_eq (destination : Cidr) :
    gatewayTo H destination = (run H (Network.lookUp destination) >>= fun text ↦
      lift (gatewayIn destination text)) := by
  refine ext fun s ↦ ?_
  rw [gatewayTo, exec_bind, exec_bind]
  rcases (run H (Network.lookUp destination)).exec s with ⟨f | text, s'⟩
  · rfl
  · simp only [exec_bind, exec_lift, gatewayIn]
    rcases Listing.routes text with f | rs <;> rfl

theorem keeps_gatewayTo (destination : Cidr) :
    Keeps plan (gatewayTo H destination) fun g w ↦ w = [.findGateway destination g] := by
  rw [gatewayTo_eq]
  exact keeps_run H _ _ fun _ _ _ _ h ↦ ⟨h, rfl⟩

theorem keeps_functionMac (devices : String) (index : Nat) :
    Keeps plan (functionMac H devices index) fun mac w ↦
      w = [.readMac (Path.child devices (FunctionConfig.path index)) mac] := by
  let path := Path.child devices (FunctionConfig.path index)
  refine .of_request (H.readDevice path) (.readDevice path) (macIn path) (fun s ↦ ?_)
    fun _ _ _ _ h ↦ ⟨h, rfl⟩
  rw [functionMac, exec_bind, exec_readDevice]
  show _ = (macIn path (H.readDevice path s.host).1, _)
  rcases (H.readDevice path s.host).1 with - | text
  · rfl
  · exact exec_lift _ _

/-- Making sure of an addition is a stage. -/
theorem keeps_ensure (A : Addition) : Keeps plan (ensure H A) fun _ w ↦ w = [.ensure A] := by
  refine .of_takes fun s ↦ ?_
  rw [exec_ensure]
  rcases hlook : (H.run A.listing s.host).1 with f | text
  · exact ⟨_, _, _, rfl, rfl, .inl ⟨.error f, rfl, rfl⟩, rfl⟩
  · dsimp only
    rcases hread : A.recognise text with f | - | -
    · exact ⟨_, _, _, rfl, rfl, .inl ⟨.ok text, rfl, hread⟩, rfl⟩
    · -- It is missing, so what is left is its command.
      rw [exec_perform]
      refine ⟨[_, _], _, _, rfl, List.append_assoc _ _ _, .inr ⟨text, _, rfl, hread, ?_⟩, rfl⟩
      rcases (H.run A.command _).1 <;> rfl
    · exact ⟨_, _, _, rfl, rfl, .inl ⟨.ok text, rfl, hread⟩, rfl⟩

theorem keeps_ensureZone : Keeps plan (ensureZone H plan) fun hostName w ↦
    w = [.readNode hostName, .applyZone hostName] := by
  have hname : Keeps plan (hostNameOf H plan) fun hostName w ↦ w = [.readNode hostName] :=
    .of_request (H.getNode plan.nodeName) (.getNode plan.nodeName) (hostNameIn plan)
      (exec_hostNameOf H plan) fun _ _ _ _ h ↦ ⟨h, rfl⟩
  have hzone (hostName : String) : Keeps plan
      (applyLabels H plan.nodeName (.ofList [(Node.zoneLabel, hostName)])) fun _ w ↦
        w = [.applyZone hostName] :=
    .of_request (H.applyLabels plan.nodeName _) (.applyLabels plan.nodeName _)
      (Except.mapError ClusterFault.toFailure) (fun s ↦ exec_applyLabels H s _ _)
      fun _ _ _ _ h ↦ ⟨h, rfl⟩
  rw [ensureZone_eq]
  refine (hname.bind fun hostName ↦ (hzone hostName).bind fun _ ↦ .pure hostName).mono ?_
  rintro _ _ ⟨hostName, _, _, rfl, rfl, _, _, _, rfl, rfl, rfl, rfl⟩
  rfl

theorem keeps_ensureDhcpServer (m : InternalMode) (mac : Mac) :
    Keeps plan (ensureDhcpServer H plan m mac) fun _ w ↦ w = [.serve m mac] := by
  refine .of_takes fun s ↦ ?_
  by_cases hstarted : s.memory.dhcpStarted = true
  · refine ⟨_, _, _, exec_ensureDhcpServer_of_started H plan hstarted, rfl,
      (Stage.takes_serve_of_started hstarted).mpr ⟨⟨_, rfl, ?_⟩, rfl⟩⟩
    cases judgeChild (H.childState s.host).1 <;> rfl
  · rw [exec_ensureDhcpServer_of_not_started H plan hstarted]
    simp only [Stage.takes_serve_of_not_started (l := s.store) hstarted]
    rcases (dhcpServer plan m mac).args with f | args
    · exact ⟨[], _, _, rfl, (List.append_nil _).symm, rfl, rfl, rfl⟩
    · dsimp only
      rcases (H.start ⟨dhcpProgram, args⟩ s.host).1
      · exact ⟨_, _, _, rfl, rfl, false, rfl, rfl, rfl⟩
      · exact ⟨_, _, _, rfl, rfl, true, rfl, rfl, rfl⟩

/-- Writing a file is a stage, whether or not its contents change. -/
theorem keeps_write (path text : String) :
    Keeps plan (do let _ ← replaceFile path text : Pass σ Unit) fun _ w ↦
      w = [.write path text] := by
  refine .of_takes fun s ↦ ?_
  rw [exec_bind, exec_replaceFile]
  refine ⟨[], judgeWrite (s.files.replace path text).1,
    { s with files := (s.files.replace path text).2 }, ?_, (List.append_nil _).symm, rfl, rfl, rfl⟩
  rcases (s.files.replace path text).1 with e | b <;> rfl

theorem keeps_applyThrottled (now : Nat) :
    Keeps plan (applyThrottled H now) fun _ w ↦ w = [.applyThrottled now] := by
  refine .of_takes fun s ↦ ?_
  rw [exec_applyThrottled]
  by_cases hready : s.memory.throttle.isReady now = true
  · rw [if_pos hready, exec_perform]
    refine ⟨_, _, _, rfl, rfl, (Stage.takes_applyThrottled_of_ready hready).mpr
      ⟨⟨_, rfl, ?_⟩, rfl⟩⟩
    rcases (H.run applyBridgeDefinition _).1 <;> rfl
  · rw [if_neg hready]
    exact ⟨[], _, _, rfl, (List.append_nil _).symm,
      (Stage.takes_applyThrottled_of_not_ready hready).mpr ⟨rfl, rfl, rfl⟩⟩

/-! ### The whole pass -/

variable (roots : Roots)

/-- The parts of a pass keep to the words that their steps make together. -/
theorem keeps_serveHost (m : InternalMode) : Keeps plan (serveHost H roots plan m) fun endpoint w ↦
    endpoint = m.endpoint.address ∧ ∃ mac,
      w = [.ensure (.route plan.hosts m.gateway overlayBridge (some hostRouteMetric) none),
        .readMac (Path.child roots.devices (FunctionConfig.path hostFunction)) mac, .serve m mac,
        .write (Path.child roots.files gatewayOptionsPath)
          (GatewayOptions.text ⟨m.gateway, m.endpoint.network⟩)] := by
  refine ((keeps_ensure H _).bind fun _ ↦ (keeps_functionMac H _ _).bind fun mac ↦
    (keeps_ensureDhcpServer H m mac).bind fun _ ↦
    (keeps_write _ _).bind fun _ ↦ .pure m.endpoint.address).mono ?_
  rintro endpoint _ ⟨_, _, _, rfl, rfl, mac, _, _, rfl, rfl, _, _, _, rfl, rfl, _, _, _, rfl, rfl,
    rfl, rfl⟩
  exact ⟨rfl, mac, rfl⟩

/-- In internal mode only the address of the function is found out. -/
theorem keeps_ensureInternal (m : InternalMode) :
    Keeps plan (ensureInternal H roots plan m) fun endpoint w ↦
      endpoint = m.endpoint.address ∧ ∃ mac, w = m.course roots plan mac := by
  rw [ensureInternal_eq]
  have hneeds : DhcpServer.needsRoute m.endpoint plan.endpoints = true ↔
      plan.endpoints.prefixLength < m.endpoint.prefixLength := decide_eq_true_iff
  by_cases hwide : plan.endpoints.prefixLength < m.endpoint.prefixLength
  · simp only [if_pos (hneeds.mpr hwide)]
    refine ((keeps_ensure H _).bind fun _ ↦ (keeps_perform H _).bind fun _ ↦
      (keeps_ensure H _).bind fun _ ↦ keeps_serveHost H roots m).mono ?_
    rintro endpoint _ ⟨_, _, _, rfl, rfl, _, _, _, rfl, rfl, _, _, _, rfl, rfl, rfl, mac, rfl⟩
    exact ⟨rfl, mac, by rw [InternalMode.course, InternalMode.approach, if_pos hwide]; rfl⟩
  · simp only [if_neg fun h ↦ hwide (hneeds.mp h)]
    refine ((keeps_ensure H _).bind fun _ ↦ (keeps_perform H _).bind fun _ ↦
      keeps_serveHost H roots m).mono ?_
    rintro endpoint _ ⟨_, _, _, rfl, rfl, _, _, _, rfl, rfl, rfl, mac, rfl⟩
    exact ⟨rfl, mac, by rw [InternalMode.course, InternalMode.approach, if_neg hwide]; rfl⟩

/-- In external mode it is the lease and the gateway. -/
theorem keeps_ensureExternal (m : ExternalMode) (now : Nat) :
    Keeps plan (ensureExternal H roots plan m now) fun endpoint w ↦
      ∃ lease gateway, endpoint = lease.address ∧ w = m.course roots plan now lease gateway := by
  rw [ensureExternal_eq]
  refine ((keeps_write _ _).bind fun _ ↦ (keeps_applyThrottled H now).bind fun _ ↦
    (keeps_bridgeAddress H).bind fun lease ↦ (keeps_gatewayTo H _).bind fun gateway ↦
    (keeps_ensure H _).bind fun _ ↦ (keeps_write _ _).bind fun _ ↦ .pure lease.address).mono ?_
  rintro endpoint _ ⟨_, _, _, rfl, rfl, _, _, _, rfl, rfl, lease, _, _, rfl, rfl, gateway, _, _,
    rfl, rfl, _, _, _, rfl, rfl, _, _, _, rfl, rfl, rfl, rfl⟩
  exact ⟨lease, gateway, rfl, rfl⟩

theorem keeps_ensurePolicyRouting : Keeps plan (ensurePolicyRouting H plan) fun _ w ↦
    ∃ pods outOfBand gateway, w = plan.routingCourse pods outOfBand gateway := by
  rw [ensurePolicyRouting]
  simp only [ensureRule_eq, ensureRoute_eq]
  refine ((keeps_singleAddress H _).bind fun pods ↦ (keeps_singleAddress H _).bind fun outOfBand ↦
    (keeps_ensure H _).bind fun _ ↦ (keeps_ensure H _).bind fun _ ↦
    (keeps_gatewayTo H _).bind fun gateway ↦ keeps_ensure H _).mono ?_
  rintro _ _ ⟨pods, _, _, rfl, rfl, outOfBand, _, _, rfl, rfl, _, _, _, rfl, rfl, _, _, _, rfl, rfl,
    gateway, _, _, rfl, rfl, rfl⟩
  exact ⟨pods, outOfBand, gateway, rfl⟩

theorem keeps_identify (endpoint : Address) (hostName : String) :
    Keeps plan (identify H endpoint hostName) fun _ w ↦
      w = Plan.identityCourse endpoint hostName := by
  refine ((keeps_perform H _).bind fun _ ↦ (keeps_perform H _).bind fun _ ↦
    keeps_perform H _).mono ?_
  rintro _ _ ⟨_, _, _, rfl, rfl, _, _, _, rfl, rfl, rfl⟩
  rfl

/-- **A pass follows its course.** -/
theorem keeps_converge (now : Nat) : Keeps plan (converge H roots plan now) fun _ w ↦
    ∃ x, w = plan.course roots now x := by
  rw [converge]
  rcases hmode : plan.mode with m | m
  · have hbridge : ensureBridge H roots plan now = ensureInternal H roots plan m := by
      rw [ensureBridge, hmode]
    rw [hbridge]
    refine ((keeps_ensureZone H).bind fun hostName ↦ (keeps_ensureInternal H roots m).bind
      fun endpoint ↦ (keeps_ensurePolicyRouting H).bind fun _ ↦
      keeps_identify H endpoint hostName).mono ?_
    rintro _ _ ⟨hostName, _, _, rfl, rfl, _, _, _, rfl, ⟨rfl, mac, rfl⟩, _, _, _, rfl,
      ⟨pods, outOfBand, gateway, rfl⟩, rfl⟩
    exact ⟨⟨hostName, pods, gateway, mac, pods, outOfBand, gateway⟩, by
      simp [Plan.course, Plan.bridgeCourse, Plan.endpoint, hmode]⟩
  · have hbridge : ensureBridge H roots plan now = ensureExternal H roots plan m now := by
      rw [ensureBridge, hmode]
    rw [hbridge]
    refine ((keeps_ensureZone H).bind fun hostName ↦ (keeps_ensureExternal H roots m now).bind
      fun endpoint ↦ (keeps_ensurePolicyRouting H).bind fun _ ↦
      keeps_identify H endpoint hostName).mono ?_
    rintro _ _ ⟨hostName, _, _, rfl, rfl, _, _, _, rfl, ⟨lease, gateway, rfl, rfl⟩, _, _, _, rfl,
      ⟨pods, outOfBand, defaultGateway, rfl⟩, rfl⟩
    exact ⟨⟨hostName, lease, gateway, default, pods, outOfBand, defaultGateway⟩, by
      simp [Plan.course, Plan.bridgeCourse, Plan.endpoint, hmode]⟩

end Pass

/-- **Every pass follows the course of its plan**, whatever the agent remembers and whatever is
answered. -/
theorem makePass_follows {σ : Type} (H : Host σ) (roots : Roots) (plan : Plan) (memory : Memory)
    (v : Visit σ) :
    ∃ x, Follows plan (plan.course roots v.now x) (makePass H roots plan memory v).before.store
      (makePass H roots plan memory v).after.trace (makePass H roots plan memory v).result
      (makePass H roots plan memory v).after.store := by
  have hkeeps : Pass.Keeps plan (Pass.converge H roots plan v.now) _ :=
    Pass.keeps_converge H roots v.now
  obtain ⟨t, w, ht, hw, hC⟩ := hkeeps (makePass H roots plan memory v).before
  have hcourse : ∃ x, w = plan.course roots v.now x := by
    split at hC
    · exact hC
    · exact hC.choose_spec
  obtain ⟨x, rfl⟩ := hcourse
  refine ⟨x, ?_⟩
  rw [makePass_before, List.nil_append] at ht
  have hresult : ((makePass H roots plan memory v).result.map fun _ ↦ ()) =
      (makePass H roots plan memory v).result := by
    rcases (makePass H roots plan memory v).result <;> rfl
  rw [← hresult, makePass_after, ht]
  exact hw

end DpuNetwork
