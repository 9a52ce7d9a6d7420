import DpuNetwork.Proofs.Retry.Resumption
import DpuNetwork.Proofs.Pass.Respects

/-!
# The steps of a pass can be resumed

Every step of a pass falls into one of three kinds. It observes, and gives the same whenever it is
made (`ResumesTo.of_observation`); or it is a single request with an effect that is found done or
can be repeated (`Resumes.of_struck`); or it looks before it acts, and is then atomic although it
makes two requests (`resumesTo_ensure`, `resumesTo_ensureDhcpServer`).
-/

namespace DpuNetwork

open Ipv4

namespace Pass

variable {σ α β : Type} {H : Host σ} {plan : Plan} {W : World H plan} {roots : Roots}

/-! ### Kinds of steps -/

/-- A single request can be resumed, if it fails when it is struck and is found done once it is
done. -/
theorem Resumes.of_struck {Q : α → Prop} {p : Nat → Pass (σ × List (Option Fault)) α}
    {c : View → Except Failure α × View} (fail : Fault → β) (ask : σ → β × σ)
    (g : β → Except Failure α)
    (hexec : ∀ now s, ∃ e, (p now).exec s =
      (g (struck fail ask s.host).1, s.told (struck fail ask s.host).2 e))
    (hfail : ∀ f, ∃ e, g (fail f) = .error e)
    (hask : ∀ x files started, (g (ask x).1, View.mk (W.holds (ask x).2) files started) =
      c ⟨W.holds x, files, started⟩)
    (hsteps : ∀ v, v.Sound roots → W.Later roots v (c v).2)
    (hlasts : ∀ v a u u', v.Sound roots → c v = (.ok a, u) → W.Later roots u u' →
      c u' = (.ok a, u'))
    (herror : ∀ v e u, v.Sound roots → c v = (.error e, u) → u = v)
    (hgives : ∀ v a u, v.Sound roots → c v = (.ok a, u) → Q a) : Resumes W roots Q p c := by
  refine .of_atomic (fun now s _ ↦ ?_) (fun now s hs ↦ ?_) hsteps hlasts herror hgives
  · obtain ⟨e, hp⟩ := hexec now s
    rw [hp]
    rcases struck_cases fail ask s.host with ⟨f, hstruck, hne⟩ | hstruck
    · rw [hstruck]
      exact .inl ⟨hfail f, rfl, hne⟩
    · rw [hstruck]
      exact .inr (hask s.host.1 s.files s.memory.dhcpStarted)
  · obtain ⟨e, hp⟩ := hexec now s
    simp [hp, hs]

/-- A request whose answer is always the same, and that changes nothing, can be resumed. -/
theorem ResumesTo.of_observation {p : Nat → Pass (σ × List (Option Fault)) α} (fail : Fault → β)
    (ask : σ → β × σ) (g : β → Except Failure α) (r : Except Failure α)
    (hexec : ∀ now s, ∃ e, (p now).exec s =
      (g (struck fail ask s.host).1, s.told (struck fail ask s.host).2 e))
    (hfail : ∀ f, ∃ e, g (fail f) = .error e)
    (hask : ∀ x, g (ask x).1 = r ∧ W.holds (ask x).2 = W.holds x) :
    ResumesTo W roots (fun a ↦ r = .ok a) p := by
  refine ⟨fun v ↦ (r, v), .of_struck fail ask g hexec hfail (fun x files started ↦ ?_)
    (fun v _ ↦ .refl v) (fun v a u u' _ h _ ↦ ?_) (fun v e u _ h ↦ ?_) fun v a u _ h ↦ ?_⟩
  · rw [(hask x).1, (hask x).2]
  · rw [(Prod.mk.inj h).1]
  · exact (Prod.mk.inj h).2.symm
  · exact (Prod.mk.inj h).1

/-- A request that always has the same effect can be resumed, if the effect can be repeated however
far later steps got. -/
theorem ResumesTo.of_effect {p : Nat → Pass (σ × List (Option Fault)) α} (fail : Fault → β)
    (ask : σ → β × σ) (g : β → Except Failure α) (a : α) (effect : Holdings → Holdings)
    (hexec : ∀ now s, ∃ e, (p now).exec s =
      (g (struck fail ask s.host).1, s.told (struck fail ask s.host).2 e))
    (hfail : ∀ f, ∃ e, g (fail f) = .error e)
    (hask : ∀ x, g (ask x).1 = .ok a ∧ W.holds (ask x).2 = effect (W.holds x))
    (hsteps : ∀ v : View, W.Later roots v { v with holdings := effect v.holdings })
    (hlasts : ∀ v u' : View, W.Later roots { v with holdings := effect v.holdings } u' →
      effect u'.holdings = u'.holdings) : ResumesTo W roots (fun b ↦ a = b) p := by
  refine ⟨fun v ↦ (.ok a, { v with holdings := effect v.holdings }),
    .of_struck fail ask g hexec hfail (fun x files started ↦ ?_) (fun v _ ↦ hsteps v)
    (fun v b u u' _ h hlater ↦ ?_) (fun v e u _ h ↦ nomatch h)
    fun v b u _ h ↦ Except.ok.inj (Prod.mk.inj h).1⟩
  · rw [(hask x).1, (hask x).2]
  · obtain ⟨hb, rfl⟩ := Prod.mk.inj h
    rw [hb, hlasts v u' hlater]

/-- A step that makes no request can be resumed. -/
theorem resumesTo_lift (r : Except Failure α) :
    ResumesTo W roots (fun a ↦ r = .ok a) fun _ ↦ lift r := by
  refine ⟨fun v ↦ (r, v), .of_atomic (fun now s _ ↦ ?_) (fun now s hs ↦ ?_) (fun v _ ↦ .refl v)
    (fun v a u u' _ h _ ↦ ?_) (fun v e u _ h ↦ ?_) fun v a u _ h ↦ ?_⟩
  · rw [exec_lift]
    exact .inr rfl
  · rw [exec_lift]
    exact hs
  · rw [(Prod.mk.inj h).1]
  · exact (Prod.mk.inj h).2.symm
  · exact (Prod.mk.inj h).1

/-- A result that is simply returned resumes. -/
theorem resumesTo_pure {Q : α → Prop} {a : α} (ha : Q a) :
    ResumesTo W roots Q fun _ ↦ (pure a : Pass (σ × List (Option Fault)) α) :=
  (resumesTo_lift (.ok a)).imp fun _ h ↦ Except.ok.inj h ▸ ha

/-- A failure of the plan itself is no fault, so every attempt ends with it. -/
theorem resumesTo_throw (Q : α → Prop) (f : Failure) :
    ResumesTo W roots Q fun _ ↦ (throw f : Pass (σ × List (Option Fault)) α) :=
  (resumesTo_lift (.error f)).imp fun _ h ↦ nomatch h

/-- Failures run out and do not come back. -/
def RunsOut (s s' : Session (σ × List (Option Fault))) : Prop := s.host.2 = [] → s'.host.2 = []

/-- Running out of faults chains. -/
theorem RunsOut.chains : Chains (RunsOut (σ := σ)) where
  refl _ h := h
  trans h h' hs := h' (h hs)

/-- A command uses up one fault, if there is one, and brings none back. -/
theorem runsOut_run (c : Command) : Respects RunsOut (run H.withFaults c) := by
  intro s hs
  rw [exec_run]
  show (struck _ _ s.host).2.2 = []
  simp [hs]

/-- Looking at a listing brings no fault back. -/
theorem runsOut_isThere (A : Addition) : Respects RunsOut (isThere H.withFaults A) :=
  (runsOut_run _).bind RunsOut.chains fun _ ↦ .lift RunsOut.chains _

/-- Nor does ensuring something. -/
theorem runsOut_ensure {A : Addition} (hA : plan.MayAdd A) :
    Respects RunsOut (ensure H.withFaults A) :=
  .ensure _ (.of_ip RunsOut.chains (fun _ ↦ runsOut_run _) plan) hA

/-! ### Observing -/

/-- A query that no fault strikes is answered as the world answers it. -/
theorem resumesTo_run {q : Command} (hq : plan.Observes q) :
    ResumesTo W roots (fun text ↦ (W.reply q).mapError (RunFault.toFailure q) = .ok text)
      fun _ ↦ run H.withFaults q :=
  .of_observation (fun f ↦ .error f.run) (H.run q) (Except.mapError (RunFault.toFailure q)) _
    (fun _ s ↦ ⟨_, exec_run _ s q⟩) (fun f ↦ ⟨_, rfl⟩) fun x ↦ by
    rw [(W.observe q hq x).1]
    exact ⟨rfl, (W.observe q hq x).2⟩

/-- What is read from an answer is as determined as the answer. This and the next three lemmas say
so of each reading. -/
theorem resumesTo_addressesOf {link : String} (hlink : plan.Observes (Network.showAddresses link)) :
    ResumesTo W roots (fun as ↦ W.addressesOf link = .ok as)
      fun _ ↦ addressesOf H.withFaults link := by
  refine (resumesTo_run hlink).bind fun text htext ↦ (resumesTo_lift _).bind fun links hlinks ↦ ?_
  have haddresses : W.addressesOf link = Listing.addresses links := by
    rw [World.addressesOf, htext]
    show (Listing.links text >>= Listing.addresses) = _
    rw [hlinks]
    rfl
  rw [haddresses]
  exact resumesTo_lift _

theorem resumesTo_gatewayTo {destination : Cidr}
    (hdestination : plan.Observes (Network.lookUp destination)) :
    ResumesTo W roots (fun g ↦ W.gatewayTo destination = .ok g)
      fun _ ↦ gatewayTo H.withFaults destination := by
  refine (resumesTo_run hdestination).bind fun text htext ↦ (resumesTo_lift _).bind fun rs hrs ↦ ?_
  have hgateway : W.gatewayTo destination = Listing.firstGateway destination rs := by
    rw [World.gatewayTo, htext]
    show (Listing.routes text >>= Listing.firstGateway destination) = _
    rw [hrs]
    rfl
  rw [hgateway]
  exact resumesTo_lift _

theorem resumesTo_singleAddress {link : String}
    (hlink : plan.Observes (Network.showAddresses link)) :
    ResumesTo W roots (fun a ↦ W.addressesOf link = .ok [a])
      fun _ ↦ singleAddress H.withFaults link := by
  refine (resumesTo_addressesOf hlink).bind fun as has ↦ ?_
  split
  · exact resumesTo_pure has
  · exact resumesTo_throw _ _

theorem resumesTo_bridgeAddress (hlink : plan.Observes (Network.showAddresses overlayBridge)) :
    ResumesTo W roots (fun a ↦ W.addressesOf overlayBridge = .ok [a])
      fun _ ↦ bridgeAddress H.withFaults := by
  refine (resumesTo_addressesOf hlink).bind fun as has ↦ ?_
  split
  · exact resumesTo_throw _ _
  · exact resumesTo_pure has
  · exact resumesTo_throw _ _

/-! ### Acting -/

/-- Makes an addition unless it is held or refused. -/
def added (W : World H plan) (A : Addition) (v : View) : Except Failure Unit × View :=
  if v.holdings.Holds A then (.ok (), v)
  else match W.refusal A v.holdings with
    | some f => (.error (f.toFailure A.command), v)
    | none => (.ok (), { v with holdings := v.holdings.add A })

/-- A success leaves the addition held. -/
theorem holds_of_added {A : Addition} {v u : View} {a : Unit} (h : added W A v = (.ok a, u)) :
    u.holdings.Holds A := by
  unfold added at h
  split at h
  · cases h
    assumption
  · split at h
    · cases h
    · cases h
      exact v.holdings.holds_add A

/-- A view with an addition made is later. -/
theorem later_added (A : Addition) (v : View) : W.Later roots v (added W A v).2 := by
  unfold added
  split
  · exact .refl v
  · split
    · exact .refl v
    · exact { World.Later.refl v with
        objects := List.prefix_append _ _
        sound := fun h ↦ ⟨h.writable, h.served⟩ }

/-- Making the addition, which is not held, is struck or does what `added` says. -/
theorem struckOr_perform_command {A : Addition} (hA : plan.MayAdd A)
    (s : Session (σ × List (Option Fault))) (hnot : ¬ (W.view s).holdings.Holds A) :
    W.StruckOr s ((perform H.withFaults A.command).exec s) (added W A (W.view s)) := by
  rw [exec_perform, Host.withFaults_run]
  rcases struck_cases (fun f ↦ .error f.run) (H.run A.command) s.host with
    ⟨f, hstruck, hne⟩ | hstruck
  · rw [hstruck]
    exact .inl ⟨⟨f.run.toFailure A.command, rfl⟩, rfl, hne⟩
  · have hadd := W.add A hA s.host.1
    have hrefusal : W.refusal A (W.view s).holdings = W.refusal A (W.holds s.host.1) := rfl
    rw [hstruck, added, if_neg hnot, hrefusal]
    refine .inr ?_
    show (_, View.mk (W.holds (H.run A.command s.host.1).2) s.files s.memory.dhcpStarted) = _
    rcases hr : W.refusal A (W.holds s.host.1) with - | f
    · rw [hr] at hadd
      obtain ⟨⟨out, hout⟩, hholds⟩ := hadd
      rw [hout, hholds]
      rfl
    · rw [hr] at hadd
      obtain ⟨hrefused, hholds⟩ := hadd
      rw [hrefused, hholds]
      rfl

/-- Looking an addition up is struck, or tells whether it is held. -/
theorem struckOr_isThere {A : Addition} (hA : plan.MayAdd A)
    (s : Session (σ × List (Option Fault))) :
    W.StruckOr s ((isThere H.withFaults A).exec s)
      (.ok (decide ((W.view s).holdings.Holds A)), W.view s) := by
  rw [exec_isThere, Host.withFaults_run]
  rcases struck_cases (fun f ↦ .error f.run) (H.run A.listing) s.host with
    ⟨f, hstruck, hne⟩ | hstruck
  · rw [hstruck]
    exact .inl ⟨⟨f.run.toFailure A.listing, rfl⟩, rfl, hne⟩
  · obtain ⟨hholds, text, htext, hlook⟩ := W.look A hA s.host.1
    rw [hstruck, htext]
    refine .inr ?_
    show (A.recognise text, View.mk (W.holds (H.run A.listing s.host.1).2) s.files _) = _
    rw [hlook, hholds]
    rfl

/-- Making sure of an addition can be resumed: it is found held once it is made. -/
theorem resumesTo_ensure {A : Addition} (hA : plan.MayAdd A) :
    ResumesTo W roots (fun _ ↦ True) fun _ ↦ ensure H.withFaults A := by
  refine ⟨added W A, .of_atomic (fun now s _ ↦ ?_) (fun _ s ↦ runsOut_ensure hA s)
    (fun v _ ↦ later_added A v) (fun v a u u' _ h hlater ↦ ?_) (fun v e u _ h ↦ ?_)
    fun _ _ _ _ _ ↦ trivial⟩
  · rw [ensure, exec_bind]
    have hrest : RunsOut s ((isThere H.withFaults A).exec s).2 := runsOut_isThere A s
    rcases struckOr_isThere (W := W) hA s with ⟨⟨e, he⟩, hsame, hne⟩ | hlook
    · rcases hexec : (isThere H.withFaults A).exec s with ⟨f | b, s₁⟩
      · rw [hexec] at hsame
        exact .inl ⟨⟨f, rfl⟩, hsame, hne⟩
      · rw [hexec] at he
        cases he
    · rcases hexec : (isThere H.withFaults A).exec s with ⟨r, s₁⟩
      rw [hexec] at hlook hrest
      obtain ⟨rfl, hview⟩ := Prod.mk.inj hlook
      by_cases hheld : (W.view s).holdings.Holds A
      · simp only [decide_eq_true hheld]
        refine .inr ?_
        rw [added, if_pos hheld, ← hview]
        rfl
      · -- It is not held; what is left is one more request.
        simp only [decide_eq_false hheld]
        rw [← hview] at hheld ⊢
        rcases struckOr_perform_command hA s₁ hheld with ⟨herror, hsame, hne⟩ | hdone
        · exact .inl ⟨herror, hsame.trans hview, fun hnil ↦ hne (hrest hnil)⟩
        · exact .inr hdone
  · rw [added, if_pos ((holds_of_added h).mono hlater.objects)]
  · unfold added at h
    split at h
    · cases h
    · split at h <;> cases h
      rfl

/-- A command that always has the same effect. -/
theorem resumesTo_perform {q : Command} (effect : Holdings → Holdings)
    (hrun : ∀ x, (∃ out, (H.run q x).1 = .ok out) ∧ W.holds (H.run q x).2 = effect (W.holds x))
    (hsteps : ∀ v : View, W.Later roots v { v with holdings := effect v.holdings })
    (hlasts : ∀ v u' : View, W.Later roots { v with holdings := effect v.holdings } u' →
      effect u'.holdings = u'.holdings) :
    ResumesTo W roots (fun _ ↦ True) fun _ ↦ perform H.withFaults q := by
  refine (ResumesTo.of_effect (fun f ↦ .error f.run) (H.run q)
    (fun r ↦ (r.mapError (RunFault.toFailure q)).map fun _ ↦ ()) () effect
    (fun _ s ↦ ⟨_, exec_perform _ s q⟩) (fun f ↦ ⟨_, rfl⟩) (fun x ↦ ?_) hsteps hlasts).imp
    fun _ _ ↦ trivial
  obtain ⟨⟨out, hout⟩, hholds⟩ := hrun x
  rw [hout]
  exact ⟨rfl, hholds⟩

/-- Setting the bridge up a second time changes nothing. -/
theorem resumesTo_setUp :
    ResumesTo W roots (fun _ ↦ True) fun _ ↦
      perform H.withFaults (Network.setUp overlayBridge) := by
  refine resumesTo_perform (Holdings.setUp · overlayBridge) W.setUp (fun v ↦ ?_) fun v u' h ↦ ?_
  · refine { World.Later.refl v with
      up := fun link hlink ↦ ?_
      sound := fun h ↦ ⟨h.writable, h.served⟩ }
    by_cases hl : link = overlayBridge
    · simp [Holdings.setUp, hl]
    · simpa [Holdings.setUp, hl] using hlink
  · have hup : u'.holdings.up overlayBridge = true := h.up overlayBridge (by simp [Holdings.setUp])
    rw [Holdings.setUp, ← hup, Function.update_eq_self]

/-- Telling the switch an identifier that it is to have. -/
theorem resumesTo_identifier {key value : String} (hkey : key ∈ switchKeys)
    (hvalue : W.identifiers key = some value) :
    ResumesTo W roots (fun _ ↦ True) fun _ ↦
      perform H.withFaults (Network.setExternalId key value) := by
  refine resumesTo_perform (Holdings.identify · key value) (W.identify key hkey value) (fun v ↦ ?_)
    fun v u' h ↦ ?_
  · refine { World.Later.refl v with
      identifiers := fun k ↦ ?_
      sound := fun h ↦ ⟨h.writable, h.served⟩ }
    by_cases hk : k = key
    · exact .inr (by simp [Holdings.identify, hk, hvalue])
    · exact .inl (by simp [Holdings.identify, hk])
  · have hset : u'.holdings.identifiers key = some value := by
      rcases h.identifiers key with hkey | hkey
      · simpa [Holdings.identify] using hkey
      · rw [hkey, hvalue]
    rw [Holdings.identify, ← hset, Function.update_eq_self]

/-- The switch is told what the world determines, however often. -/
theorem resumesTo_identify {endpoint : Address} {hostName : String}
    (hendpoint : W.endpoint?.map (fun (a, _) ↦ a.address.text) = some endpoint.text)
    (hname : W.hostName? = some hostName) :
    ResumesTo W roots (fun _ ↦ True) fun _ ↦ identify H.withFaults endpoint hostName :=
  (resumesTo_identifier (by decide)
    (by rw [World.identifiers, if_pos rfl, hendpoint])).bind fun _ _ ↦
  (resumesTo_identifier (by decide)
    (by rw [World.identifiers, if_neg (by decide), hname])).bind fun _ _ ↦
  resumesTo_identifier (by decide) (by rw [World.identifiers, if_neg (by decide), hname])

/-- The name of the node comes from the world. -/
theorem resumesTo_hostNameOf :
    ResumesTo W roots (fun hostName ↦ W.hostName? = some hostName)
      fun _ ↦ hostNameOf H.withFaults plan := by
  refine (ResumesTo.of_observation (fun f ↦ .error f.cluster) (H.getNode plan.nodeName)
    (fun r ↦ (r.mapError ClusterFault.toFailure).bind fun node ↦
      judgeNode plan (node.map Node.hostName?)) (judgeNode plan W.label)
    (fun _ s ↦ ⟨_, exec_hostNameOf _ plan s⟩) (fun f ↦ ⟨_, rfl⟩) fun x ↦ ?_).imp fun hostName h ↦ ?_
  · obtain ⟨hholds, node, hnode, hlabel⟩ := W.node x
    rw [hnode, ← hlabel]
    exact ⟨rfl, hholds⟩
  · rw [World.hostName?]
    rcases hl : W.label with - | - | name <;> rw [hl] at h <;> cases h
    rfl

/-- So does the zone. -/
theorem resumesTo_ensureZone :
    ResumesTo W roots (fun hostName ↦ W.hostName? = some hostName)
      fun _ ↦ ensureZone H.withFaults plan := by
  simp only [ensureZone_eq]
  refine resumesTo_hostNameOf.bind fun hostName hname ↦ ?_
  have hzone : ResumesTo W roots (fun u ↦ () = u) fun _ ↦
      applyLabels H.withFaults plan.nodeName (.ofList [(Node.zoneLabel, hostName)]) := by
    refine .of_effect (fun f ↦ .error f.cluster)
      (H.applyLabels plan.nodeName (.ofList [(Node.zoneLabel, hostName)]))
      (Except.mapError ClusterFault.toFailure) () (Holdings.putInZone · hostName)
      (fun _ s ↦ ⟨_, exec_applyLabels _ s _ _⟩) (fun f ↦ ⟨_, rfl⟩) (fun x ↦ ?_) (fun v ↦ ?_)
      fun v u' h ↦ ?_
    · obtain ⟨hok, hholds⟩ := W.zone hostName x
      rw [hok]
      exact ⟨rfl, hholds⟩
    · exact { World.Later.refl v with
        zone := .inr hname.symm
        sound := fun h ↦ ⟨h.writable, h.served⟩ }
    · have hzone : u'.holdings.zone = some hostName := by
        rcases h.zone with hz | hz
        · exact hz
        · rw [hz, hname]
      rw [Holdings.putInZone, ← hzone]
  exact hzone.bind fun _ _ ↦ resumesTo_pure hname

/-- Devices are no part of what a pass changes. -/
theorem resumesTo_readDevice (path : String) :
    ResumesTo W roots (fun _ ↦ True) fun _ ↦ readDevice H.withFaults path := by
  refine (ResumesTo.of_observation (fun _ ↦ none) (H.readDevice path) (judgeDevice path)
    (judgeDevice path (W.device path)) (fun _ s ↦ ⟨_, exec_readDevice _ s path⟩)
    (fun f ↦ ⟨_, rfl⟩) fun x ↦ ?_).imp fun _ _ ↦ trivial
  rw [(W.read path x).1]
  exact ⟨rfl, (W.read path x).2⟩

theorem resumesTo_functionMac (devices : String) (index : Nat) :
    ResumesTo W roots (fun _ ↦ True) fun _ ↦ functionMac H.withFaults devices index :=
  (resumesTo_readDevice _).bind fun _ _ ↦ (resumesTo_lift _).imp fun _ _ ↦ trivial

/-- Starts a DHCP server unless one was started. -/
def served (plan : Plan) (m : InternalMode) (mac : Mac) (v : View) : Except Failure Unit × View :=
  if v.dhcpStarted then (.ok (), v)
  else match (dhcpServer plan m mac).args with
    | .error f => (.error f, v)
    | .ok _ => (.ok (), { v with holdings := v.holdings.serve, dhcpStarted := true })

/-- A server that was started is looked after, which changes nothing. -/
theorem served_of_started {m : InternalMode} {mac : Mac} {v : View} (h : v.dhcpStarted = true) :
    served plan m mac v = (.ok (), v) := by
  rw [served, if_pos h]

/-- A server that was not started is started, if it can be told what to do. -/
theorem served_of_not_started {m : InternalMode} {mac : Mac} {v : View}
    (h : ¬ v.dhcpStarted = true) : served plan m mac v =
      match (dhcpServer plan m mac).args with
      | .error f => (.error f, v)
      | .ok _ => (.ok (), { v with holdings := v.holdings.serve, dhcpStarted := true }) := by
  rw [served, if_neg h]

/-- Looking after the DHCP server is struck, or leaves a server running that was started once. -/
theorem struckOr_ensureDhcpServer (m : InternalMode) (mac : Mac)
    (s : Session (σ × List (Option Fault))) (hv : (W.view s).Sound roots) :
    W.StruckOr s ((ensureDhcpServer H.withFaults plan m mac).exec s)
      (served plan m mac (W.view s)) := by
  by_cases hstarted : s.memory.dhcpStarted = true
  · rw [exec_ensureDhcpServer_of_started _ _ hstarted, served_of_started (v := W.view s) hstarted,
      Host.withFaults_childState]
    rcases struck_cases (fun f ↦ .error f.child) H.childState s.host with
      ⟨f, hstruck, hne⟩ | hstruck
    · rw [hstruck]
      exact .inl ⟨⟨_, rfl⟩, rfl, hne⟩
    · -- The server was started in this world, so without a fault it is found running.
      obtain ⟨hholds, hrunning⟩ := W.child s.host.1
      rw [hstruck, hrunning (hv.served hstarted)]
      refine .inr ?_
      show (_, View.mk (W.holds (H.childState s.host.1).2) s.files _) = _
      rw [hholds]
      rfl
  · rw [exec_ensureDhcpServer_of_not_started _ _ hstarted,
      served_of_not_started (v := W.view s) hstarted]
    rcases (dhcpServer plan m mac).args with e | args
    · -- Without arguments nothing is asked of the host, with faults or without.
      exact .inr rfl
    · dsimp only
      rw [Host.withFaults_start]
      rcases struck_cases (fun _ ↦ false) (H.start ⟨dhcpProgram, args⟩) s.host with
        ⟨f, hstruck, hne⟩ | hstruck
      · rw [hstruck]
        exact .inl ⟨⟨_, rfl⟩, rfl, hne⟩
      · obtain ⟨htrue, hholds⟩ := W.start ⟨dhcpProgram, args⟩ s.host.1
        rw [hstruck, htrue]
        refine .inr ?_
        show (_, View.mk (W.holds (H.start ⟨dhcpProgram, args⟩ s.host.1).2) s.files _) = _
        rw [hholds]
        rfl

/-- Nor does what is done about the server. -/
theorem runsOut_ensureDhcpServer (m : InternalMode) (mac : Mac) :
    Respects RunsOut (ensureDhcpServer H.withFaults plan m mac) := by
  refine .ensureDhcpServer _ RunsOut.chains plan m mac (fun s hs ↦ ?_) (fun c s hs ↦ ?_)
    fun s hs ↦ hs
  · rw [exec_childState]
    show (struck _ _ s.host).2.2 = []
    simp [hs]
  · rw [exec_start]
    show (struck _ _ s.host).2.2 = []
    simp [hs]

/-- Looking after the DHCP server can be resumed: no second server is ever started. -/
theorem resumesTo_ensureDhcpServer (m : InternalMode) (mac : Mac) :
    ResumesTo W roots (fun _ ↦ True) fun _ ↦ ensureDhcpServer H.withFaults plan m mac := by
  refine ⟨served plan m mac, .of_atomic (fun now s hv ↦ struckOr_ensureDhcpServer m mac s hv)
    (fun _ s ↦ runsOut_ensureDhcpServer m mac s) (fun v hv ↦ ?_) (fun v a u u' _ h hlater ↦ ?_)
    (fun v e u _ h ↦ ?_) fun _ _ _ _ _ ↦ trivial⟩
  · by_cases hstarted : v.dhcpStarted = true
    · rw [served_of_started hstarted]
      exact .refl v
    · rw [served_of_not_started hstarted]
      split
      · exact .refl v
      · exact { World.Later.refl v with
          started := fun _ ↦ rfl
          sound := fun h ↦ ⟨h.writable, fun _ ↦ Nat.succ_pos _⟩ }
  · have hu : u.dhcpStarted = true := by
      by_cases hstarted : v.dhcpStarted = true
      · rw [served_of_started hstarted] at h
        cases h
        exact hstarted
      · rw [served_of_not_started hstarted] at h
        split at h <;> cases h
        rfl
    rw [served_of_started (hlater.started hu)]
  · by_cases hstarted : v.dhcpStarted = true
    · rw [served_of_started hstarted] at h
      cases h
    · rw [served_of_not_started hstarted] at h
      split at h <;> cases h
      rfl

/-- Gives a file its contents. -/
def written (path text : String) (v : View) : Except Failure Unit × View :=
  ((v.files.replace path text).1.mapError (fun e ↦ .file e.1 e.2) |>.map fun _ ↦ (),
    { v with files := (v.files.replace path text).2 })

/-- A file that is owned can be written, and it stays so. -/
theorem written_of_sound {path : String} (text : String) (hpath : path ∈ roots.ownedPaths)
    {v : View} (hv : v.Sound roots) : ∃ changed t', v.files.replace path text = (.ok changed, t') ∧
      t'.Writable roots.ownedPaths ∧ written path text v = (.ok (), { v with files := t' }) := by
  obtain ⟨changed, t', hreplace, hwritable⟩ := hv.writable.replace hpath text
  exact ⟨changed, t', hreplace, hwritable, by rw [written, hreplace]; rfl⟩

/-- Writing a file that is found written once it is can be resumed. -/
theorem resumesTo_write {path text : String} (hpath : path ∈ roots.ownedPaths)
    (hsteps : ∀ v changed t', v.Sound roots → v.files.replace path text = (.ok changed, t') →
      t'.Writable roots.ownedPaths → W.Later roots v { v with files := t' })
    (hlasts : ∀ v u, W.Later roots v u → v.files.read path = some text.toUTF8 →
      u.files.read path = some text.toUTF8) :
    ResumesTo W roots (fun _ ↦ True) fun _ ↦
      (do let _ ← replaceFile path text : Pass (σ × List (Option Fault)) Unit) := by
  refine ⟨written path text, .of_atomic (fun now s _ ↦ .inr ?_) (fun now s hs ↦ ?_) (fun v hv ↦ ?_)
    (fun v a u u' hv h hlater ↦ ?_) (fun v e u hv h ↦ ?_) fun _ _ _ _ _ ↦ trivial⟩
  · rw [exec_bind, exec_replaceFile]
    show _ = written path text (W.view s)
    rw [written]
    show _ = (((s.files.replace path text).1.mapError _).map _, _)
    cases (s.files.replace path text).1 <;> rfl
  · rw [exec_bind, exec_replaceFile]
    cases (s.files.replace path text).1 <;> exact hs
  · obtain ⟨changed, t', hreplace, hwritable, hc⟩ := written_of_sound text hpath hv
    rw [hc]
    exact hsteps v changed t' hv hreplace hwritable
  · obtain ⟨changed, t', hreplace, -, hc⟩ := written_of_sound text hpath hv
    rw [hc] at h
    obtain ⟨-, rfl⟩ := Prod.mk.inj h
    have hread := hlasts _ _ hlater (FileTree.read_replace hreplace)
    rw [written, FileTree.replace_of_read hread]
    rfl
  · obtain ⟨changed, t', -, -, hc⟩ := written_of_sound text hpath hv
    rw [hc] at h
    cases h

/-- Writing the same text again changes nothing, so an attempt that failed behind the file
resumes. -/
theorem resumesTo_writeGatewayOptions {o : GatewayOptions} (ho : W.options? = some o.text) :
    ResumesTo W roots (fun _ ↦ True) fun _ ↦
      (writeGatewayOptions roots o : Pass (σ × List (Option Fault)) Unit) := by
  refine resumesTo_write (by simp [Roots.ownedPaths]) (fun v changed t' hv hreplace hwritable ↦ ?_)
    fun v u h hread ↦ h.options _ ho hread
  have hrefl : W.Later roots v v := .refl v
  refine { hrefl with
    definition := fun hread ↦ ?_
    options := fun text htext _ ↦ ?_
    sound := fun h ↦ ⟨hwritable, h.served⟩ }
  · exact FileTree.read_replace_of_apart hreplace hread
      (apart_gatewayOptions_bridgeDefinition roots.files)
  · obtain rfl := Option.some.inj (ho.symm.trans htext)
    exact FileTree.read_replace hreplace

/-- So it is with the bridge definition. -/
theorem resumesTo_writeBridgeDefinition :
    ResumesTo W roots (fun _ ↦ True) fun _ ↦ writeBridgeDefinition roots := by
  refine resumesTo_write (by simp [Roots.ownedPaths]) (fun v changed t' hv hreplace hwritable ↦ ?_)
    fun v u h hread ↦ h.definition hread
  have hrefl : W.Later roots v v := .refl v
  refine { hrefl with
    definition := fun _ ↦ ?_
    options := fun text htext hread ↦ ?_
    sound := fun h ↦ ⟨hwritable, h.served⟩ }
  · exact FileTree.read_replace hreplace
  · exact FileTree.read_replace_of_apart hreplace hread
      (apart_bridgeDefinition_gatewayOptions roots.files)

/-- The throttle does not show: the bridge definition is applied or it is not, and nothing else
depends on it. -/
theorem resumesTo_applyThrottled :
    ResumesTo W roots (fun _ ↦ True) fun now ↦ applyThrottled H.withFaults now := by
  refine ⟨fun v ↦ (.ok (), v), .of_atomic (fun now s _ ↦ ?_) (fun now s hs ↦ ?_)
    (fun v _ ↦ .refl v) (fun v a u u' _ h _ ↦ ?_) (fun v e u _ h ↦ nomatch h)
    fun _ _ _ _ _ ↦ trivial⟩
  · rw [exec_applyThrottled]
    split
    · rw [exec_perform, Host.withFaults_run]
      rcases struck_cases (fun f ↦ .error f.run) (H.run applyBridgeDefinition) s.host with
        ⟨f, hstruck, hne⟩ | hstruck
      · rw [hstruck]
        exact .inl ⟨⟨_, rfl⟩, rfl, hne⟩
      · obtain ⟨⟨out, hout⟩, hholds⟩ := W.apply s.host.1
        rw [hstruck, hout]
        refine .inr ?_
        show (_, View.mk (W.holds (H.run applyBridgeDefinition s.host.1).2) s.files _) = _
        rw [hholds]
        rfl
    · exact .inr rfl
  · rw [exec_applyThrottled]
    split
    · rw [exec_perform]
      show (struck _ _ s.host).2.2 = []
      simp [hs]
    · exact hs
  · rw [(Prod.mk.inj h).1]

end Pass

end DpuNetwork
