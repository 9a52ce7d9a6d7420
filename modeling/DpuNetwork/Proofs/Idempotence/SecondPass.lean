import DpuNetwork.Proofs.Idempotence.Steps
import DpuNetwork.Proofs.Kernel.Undisturbed
import DpuNetwork.Proofs.RateLimit

/-!
# The pass after a successful one

On a host whose network tool lists what it was told to add, a pass that follows a successful one
finds everything there.

## Main statements

* `Pass.repeats_convergeSaying`: a pass that has succeeded can be repeated from any session that
  agrees with its end;
* `quiet_of_ok`: the next pass succeeds, adds nothing, starts nothing, leaves all files as they are,
  and says the same to the cluster and to the switch.
-/

namespace DpuNetwork

open Ipv4

/-! ### What is said to the cluster and to the switch -/

/-- The commands in a trace that the overlay switch was given. -/
def switchCommands (t : List Exchange) : List Command :=
  t.filterMap fun
    | .run c _ => if c.program = "ovs-vsctl" then some c else none
    | _ => none

/-- The labels in a trace that were put on nodes. -/
def labelsApplied (t : List Exchange) : List (String × Labels) :=
  t.filterMap fun
    | .applyLabels name labels _ => some (name, labels)
    | _ => none

/-- A trace says one zone to the cluster, and three identifiers to the overlay switch. -/
structure Announces (plan : Plan) (t : List Exchange) (hostName : String) (endpoint : Address) :
    Prop where
  /-- The node is put into the zone of its host. -/
  labels : labelsApplied t = [(plan.nodeName, .ofList [("k8s.ovn.org/zone-name", hostName)])]
  /-- The switch is told the tunnel endpoint and the host name. -/
  commands : switchCommands t = [Network.setExternalId "ovn-encap-ip" endpoint.text,
    Network.setExternalId "host-k8s-nodename" hostName, Network.setExternalId "hostname" hostName]

/-- Local exchanges tell the switch nothing. -/
theorem switchCommands_of_isLocal {t : List Exchange} (h : ∀ e ∈ t, e.IsLocal) :
    switchCommands t = [] := by
  refine List.filterMap_eq_nil_iff.mpr fun e he ↦ ?_
  have hlocal := h e he
  cases e with
  | run c answer => exact if_neg hlocal
  | _ => rfl

/-- They label no node. -/
theorem labelsApplied_of_isLocal {t : List Exchange} (h : ∀ e ∈ t, e.IsLocal) :
    labelsApplied t = [] := by
  refine List.filterMap_eq_nil_iff.mpr fun e he ↦ ?_
  have hlocal := h e he
  cases e with
  | applyLabels name labels answer => exact hlocal.elim
  | _ => rfl

namespace Pass

variable {σ : Type} {H : Host σ} {L : Listings H} {roots : Roots} {plan : Plan}

/-! ### Larger parts -/

/-- Behind the gateway options only the result is given. -/
theorem repeats_options_return (o : GatewayOptions) (endpoint : Address) :
    Repeats (H := H) L roots plan (LastingFiles L roots plan) fun _ ↦ (do
      writeGatewayOptions roots o
      return endpoint) :=
  (repeats_writeGatewayOptions o).followedByNoFile (fun _ ↦ .pure _)
    fun _ _ ↦ .pure SameFiles.chains _

/-- The parts of a pass repeat as their steps do. -/
theorem repeats_serveHost (m : InternalMode) :
    Repeats L roots plan (LastingFiles L roots plan) fun _ ↦ serveHost H roots plan m :=
  (repeats_ensure (plan.mayAdd_route _ _ _ _ _)).followedBy
    (fun _ ↦ (repeats_functionMac _ _).followedBy
      (fun mac ↦ (repeats_ensureDhcpServer m mac).followedBy
        (fun _ ↦ repeats_options_return _ _) fun _ _ ↦ LastingFiles.lasting)
      fun _ _ ↦ LastingFiles.lasting)
    fun _ _ ↦ LastingFiles.lasting

/-- In internal mode every value comes from the plan. -/
theorem repeats_ensureInternal {m : InternalMode} (hmode : plan.mode = .internal m) :
    Repeats L roots plan (LastingFiles L roots plan) fun _ ↦ ensureInternal H roots plan m := by
  simp only [ensureInternal_eq]
  refine (repeats_ensure (Plan.mayAdd_address hmode)).followedBy (fun _ ↦ ?_)
    fun _ _ ↦ LastingFiles.lasting
  refine repeats_setUp.followedBy (fun _ ↦ ?_) fun _ _ ↦ LastingFiles.lasting
  split
  · exact (repeats_ensure (plan.mayAdd_route _ _ _ _ _)).followedBy
      (fun _ ↦ repeats_serveHost m) fun _ _ ↦ LastingFiles.lasting
  · exact repeats_serveHost m

/-- In external mode the address and the gateway are read again, and are the same. -/
theorem repeats_adoptBridge {m : ExternalMode} (hmode : plan.mode = .external m) :
    Repeats L roots plan (LastingFiles L roots plan) fun _ ↦ adoptBridge H roots plan m :=
  (repeats_bridgeAddress (.inr (.inr (.inr ⟨m, hmode, .inl rfl⟩)))).followedBy
    (fun _ ↦ (repeats_gatewayTo (.inr (.inr (.inr ⟨m, hmode, .inr rfl⟩)))).followedBy
      (fun _ ↦ (repeats_ensure (plan.mayAdd_route _ _ _ _ _)).followedBy
        (fun _ ↦ repeats_options_return _ _) fun _ _ ↦ LastingFiles.lasting)
      fun _ _ ↦ LastingFiles.lasting)
    fun _ _ ↦ LastingFiles.lasting

/-- In both modes the bridge is found as it was left. -/
theorem repeats_ensureBridge :
    Repeats L roots plan (LastingFiles L roots plan) fun now ↦ ensureBridge H roots plan now := by
  rcases hmode : plan.mode with m | m
  · simp only [ensureBridge, hmode]
    exact repeats_ensureInternal hmode
  · simp only [ensureBridge, hmode, ensureExternal_eq]
    exact repeats_writeBridgeDefinition.followedBy
      (fun _ ↦ (repeats_applyThrottled hmode).followedBy (fun _ ↦ repeats_adoptBridge hmode)
        fun _ _ ↦ LastingFiles.lasting)
      fun _ _ ↦ LastingFiles.lasting

/-- Policy routing reads the gateway again, and the addresses of both interfaces. -/
theorem repeats_ensurePolicyRouting :
    Repeats L roots plan (Lasting L roots plan) fun _ ↦ ensurePolicyRouting H plan := by
  simp only [ensurePolicyRouting, ensureRule_eq, ensureRoute_eq]
  refine (repeats_singleAddress (.inl rfl)).followedBy (fun pods ↦ ?_) fun _ _ ↦ id
  refine (repeats_singleAddress (.inr (.inl rfl))).followedBy (fun outOfBand ↦ ?_) fun _ _ ↦ id
  refine (repeats_ensure (plan.mayAdd_podRule _)).followedBy (fun _ ↦ ?_) fun _ _ ↦ id
  refine (repeats_ensure (plan.mayAdd_outOfBandRule _)).followedBy (fun _ ↦ ?_) fun _ _ ↦ id
  exact (repeats_gatewayTo (.inr (.inr (.inl rfl)))).followedBy
    (fun _ ↦ repeats_ensure (plan.mayAdd_route _ _ _ _ _)) fun _ _ ↦ id

/-! ### A whole pass -/

/-- A pass that gives what it has said: the host name and the address of the tunnel endpoint. -/
def convergeSaying (H : Host σ) (roots : Roots) (plan : Plan) (now : Nat) :
    Pass σ (String × Address) := do
  let hostName ← ensureZone H plan
  let endpoint ← ensureBridge H roots plan now
  ensurePolicyRouting H plan
  identify H endpoint hostName
  return (hostName, endpoint)

/-- A pass is the pass that says what it found, which is then dropped. -/
theorem converge_eq (now : Nat) : converge H roots plan now = (do
    let _ ← convergeSaying H roots plan now
    return ()) := by
  simp [converge, convergeSaying]

/-- All that is said is said when the pass begins and when it ends. -/
theorem announces_of_ok {now : Nat} {s s' : Session σ} {hostName : String} {endpoint : Address}
    (hs : s.trace = [])
    (h : (convergeSaying H roots plan now).exec s = (.ok (hostName, endpoint), s')) :
    Announces plan s'.trace hostName endpoint := by
  obtain ⟨hostName', s₁, hzone, hrest⟩ := exec_bind_eq_ok_iff.mp h
  obtain ⟨endpoint', s₂, hbridge, hrest⟩ := exec_bind_eq_ok_iff.mp hrest
  obtain ⟨_, s₃, hrouting, hrest⟩ := exec_bind_eq_ok_iff.mp hrest
  obtain ⟨_, s₄, hidentify, hpure⟩ := exec_bind_eq_ok_iff.mp hrest
  cases hpure
  obtain ⟨node, -, -, h₁⟩ := ensureZone_ok hzone
  have h₂ := appends_ensureBridge (H := H) roots plan now s₁
  have h₃ := Respects.ensurePolicyRouting H (respectsNetwork_appends H plan) s₂
  rw [hbridge] at h₂
  rw [hrouting] at h₃
  obtain ⟨work, hwork, hlocal⟩ := Appends.chains.trans h₂ h₃
  obtain ⟨o₁, o₂, o₃, h₄⟩ := identify_ok hidentify
  rw [h₄, hwork, h₁, hs]
  constructor
  · have hnone := labelsApplied_of_isLocal hlocal
    simp only [labelsApplied] at hnone
    simp [labelsApplied, hnone, Node.zoneLabel]
  · have hnone := switchCommands_of_isLocal hlocal
    simp only [switchCommands] at hnone
    simp [switchCommands, hnone, Network.setExternalId]

/-- **A pass can be repeated**, and says again what it has said. -/
theorem repeats_convergeSaying :
    Repeats L roots plan (LastingFiles L roots plan)
      fun now ↦ convergeSaying H roots plan now := by
  refine repeats_ensureZone.followedBy (fun hostName ↦ ?_) fun _ _ ↦ LastingFiles.lasting
  refine repeats_ensureBridge.followedByNoFile (fun endpoint ↦ ?_) fun endpoint _ ↦ ?_
  · exact repeats_ensurePolicyRouting.followedBy
      (fun _ ↦ (repeats_identify _ _).followedBy (fun _ ↦ .pure _) fun _ _ ↦ LastingFiles.lasting)
      fun _ _ ↦ LastingFiles.lasting
  · exact (sameFiles_ensurePolicyRouting plan).bind SameFiles.chains fun _ ↦
      (sameFiles_identify endpoint hostName).bind SameFiles.chains fun _ ↦ .pure SameFiles.chains _

end Pass

/-! ### The next pass -/

/-- What is harmless adds nothing. -/
theorem Exchange.IsHarmless.ne_add {plan : Plan} {kind : String} {args : List String}
    {answer : Except RunFault String} :
    ¬ IsHarmless plan (.run (Network.ip (kind :: "add" :: args)) answer) := by
  rintro (⟨args', h⟩ | h | ⟨key, value, h⟩ | ⟨-, h⟩)
  · simp [Network.ip] at h
  · simp [Network.ip, Network.setUp] at h
  · simp [Network.ip, Network.setExternalId] at h
  · simp [Network.ip, applyBridgeDefinition] at h

/-- What holds of a pass that follows a successful one: for a host name and a tunnel endpoint, it
succeeds and changes nothing, but may apply the bridge definition. -/
structure Quiet {σ : Type} (plan : Plan) (first second : MadePass σ) (hostName : String)
    (endpoint : Address) : Prop where
  /-- It succeeds. -/
  result : second.result = .ok ()
  /-- No address, no route and no rule is added. -/
  noAddition : ∀ kind args answer,
    .run (Network.ip (kind :: "add" :: args)) answer ∉ second.after.trace
  /-- No program is started. -/
  noStart : ∀ c answer, .start c answer ∉ second.after.trace
  /-- The files stay as they are. -/
  files : second.after.files = first.after.files
  /-- The cluster and the switch are told what they were told before. -/
  said : Announces plan first.after.trace hostName endpoint ∧
    Announces plan second.after.trace hostName endpoint
  /-- Everything it does is to ask, to say again what was said, to put the bridge into operation, or
  to apply the bridge definition. -/
  harmless : ∀ e ∈ second.after.trace, e.IsHarmless plan
  /-- The bridge definition is applied at most once, and only in external mode when the cooldown has
  elapsed since its last application. -/
  applied : applications second.after.trace ≤ 1 ∧
    (0 < applications second.after.trace → (∃ m, plan.mode = .external m) ∧
      ∀ last, first.after.memory.throttle.last = some last →
        first.after.memory.throttle.cooldown ≤ second.now - last)

/-- A harmless trace applies the bridge definition in external mode only. -/
theorem applications_eq_zero {plan : Plan} (hmode : ∀ m, plan.mode ≠ .external m)
    {t : List Exchange} (ht : ∀ e ∈ t, e.IsHarmless plan) : applications t = 0 := by
  rw [applications, List.countP_eq_zero]
  intro e he happlication
  cases e with
  | run c answer =>
    have hc : c = applyBridgeDefinition := by simpa [Exchange.isApplication] using happlication
    subst hc
    rcases ht _ he with ⟨args, h⟩ | h | ⟨key, value, h⟩ | ⟨⟨m, hm⟩, -⟩
    · simp [Network.ip, applyBridgeDefinition] at h
    · simp [Network.ip, Network.setUp, applyBridgeDefinition] at h
    · simp [Network.setExternalId, applyBridgeDefinition] at h
    · exact hmode m hm
  | _ => cases happlication

/-- **The next pass changes nothing.** On a host that lists what it was told to add, an agent makes
a pass that succeeds, and then another one, at any time and whatever it remembers. If the host lists
the same and the files are the same when the second pass begins, and none of its requests is
disturbed, then it succeeds too, adds nothing, starts nothing, leaves the files, and says the same
to the cluster and to the switch. -/
theorem quiet_of_ok {σ : Type} {H : Host σ} (L : Listings H) (roots : Roots) (plan : Plan)
    (memory : Memory) (v w : Visit σ) {first second : MadePass σ}
    (hfirst : first = makePass H roots plan memory v)
    (hsecond : second = makePass H roots plan first.after.memory w) (hok : first.result = .ok ())
    (hentries : ∀ q, L.entries q w.host = L.entries q first.after.host)
    (hfiles : w.files = first.after.files)
    (hcalm : ∀ e ∈ second.after.trace, e.Undisturbed first.after.trace) :
    ∃ hostName endpoint, Quiet plan first second hostName endpoint := by
  have hexec : (Pass.converge H roots plan v.now).exec
      { host := v.host, files := v.files, memory } = (.ok (), first.after) := by
    subst hfirst
    exact Prod.ext hok rfl
  rw [Pass.converge_eq] at hexec
  obtain ⟨⟨hostName, endpoint⟩, s', hfirst', hpure⟩ := Pass.exec_bind_eq_ok_iff.mp hexec
  obtain rfl : s' = first.after := congrArg Prod.snd hpure
  -- The second pass begins in a session that agrees with the end of the first.
  let start : Session σ := { host := w.host, files := w.files, memory := first.after.memory }
  have hagrees : Pass.Agrees L first.after start := ⟨hentries, hfiles, rfl⟩
  have hafter : second.after = ((Pass.convergeSaying H roots plan w.now).exec start).2 := by
    rw [hsecond, makePass_after, Pass.converge_eq, Pass.exec_bind]
    rcases (Pass.convergeSaying H roots plan w.now).exec start with ⟨f | a, s⟩ <;> rfl
  obtain ⟨u, hu, hagrees', t, ht, hharmless⟩ :=
    Pass.repeats_convergeSaying.again v.now _ _ _ hfirst' first.after ⟨.refl _, rfl⟩ w.now start
      hagrees ⟨second.after.trace, by rw [← hafter]; rfl, hcalm⟩
  obtain rfl : u = second.after := by rw [hafter, hu]
  obtain rfl : second.after.trace = t := ht
  have hresult : second.result = .ok () := by
    have hrun : second.result = ((Pass.converge H roots plan w.now).exec start).1 := by
      rw [hsecond]
      rfl
    rw [hrun, Pass.converge_eq, Pass.exec_bind_of_ok hu]
    rfl
  refine ⟨hostName, endpoint, hresult, fun kind args answer hmem ↦ (hharmless _ hmem).ne_add,
    fun c answer hmem ↦ hharmless _ hmem, hagrees'.files,
    ⟨Pass.announces_of_ok rfl hfirst', Pass.announces_of_ok rfl hu⟩, hharmless, ?_⟩
  -- Nothing harmless applies the definition in internal mode; in external mode the throttle says
  -- when.
  rcases hmode : plan.mode with m | m
  · have hnone : applications second.after.trace = 0 :=
      applications_eq_zero (fun m' h ↦ by rw [hmode] at h; cases h) hharmless
    rw [hnone]
    exact ⟨Nat.zero_le _, fun h ↦ absurd h (Nat.lt_irrefl 0)⟩
  · obtain ⟨hiff, hcount, -⟩ := makePass_applies_iff H roots hmode first.after.memory w
    rw [← hsecond] at hiff hcount
    refine ⟨?_, fun happlied ↦ ⟨⟨m, rfl⟩, fun last hlast ↦ ?_⟩⟩
    · rw [hcount]
      split <;> decide
    · have hready := (hiff.mp ((applies_iff second).mpr happlied)).2
      rw [Throttle.isReady, hlast] at hready
      rw [hsecond]
      exact of_decide_eq_true hready

/-- The circumstances of a pass that follows with no change in between. -/
def MadePass.revisit {σ : Type} (r : MadePass σ) (now : Nat) : Visit σ :=
  ⟨now, r.after.host, r.after.files⟩

theorem MadePass.revisit_host {σ : Type} (r : MadePass σ) (now : Nat) :
    (r.revisit now).host = r.after.host := rfl

theorem MadePass.revisit_files {σ : Type} (r : MadePass σ) (now : Nat) :
    (r.revisit now).files = r.after.files := rfl

/-- A pass on a host that holds nothing yet. -/
def firstPass : MadePass (Kernel staticPlan) :=
  makePass (Kernel.host smallNetwork) {} staticPlan staticPlan.memory
    ⟨0, Kernel.fresh staticPlan, {}⟩

/-- The pass that follows it a minute later. -/
def secondPass : MadePass (Kernel staticPlan) :=
  makePass (Kernel.host smallNetwork) {} staticPlan firstPass.after.memory (firstPass.revisit 60000)

/-- The first pass adds an address, three routes and two rules, and starts the DHCP server. The one
that follows is quiet. -/
theorem quiet_of_ok_minute :
    firstPass.result = .ok () ∧
      (∀ e ∈ secondPass.after.trace, e.Undisturbed firstPass.after.trace) ∧
      ∃ hostName endpoint, Quiet staticPlan firstPass secondPass hostName endpoint := by
  have hok : firstPass.result = .ok () := eq_ok_of_toOption (by decide +kernel)
  have hcalm : ∀ e ∈ secondPass.after.trace, e.Undisturbed firstPass.after.trace :=
    Kernel.undisturbed_of_eq_makePass smallNetwork rfl rfl (by decide +kernel)
  have hhost (q : Command) :
      (Kernel.listings smallNetwork).entries q (firstPass.revisit 60000).host =
        (Kernel.listings smallNetwork).entries q firstPass.after.host := by
    rw [firstPass.revisit_host]
  exact ⟨hok, hcalm, quiet_of_ok (Kernel.listings smallNetwork) {} staticPlan staticPlan.memory
    ⟨0, Kernel.fresh staticPlan, {}⟩ (firstPass.revisit 60000) rfl rfl hok hhost
    (firstPass.revisit_files 60000) hcalm⟩

end DpuNetwork
