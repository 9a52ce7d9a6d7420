import DpuNetwork.Proofs.FileTree.OwnedFiles
import DpuNetwork.Proofs.Idempotence.Repetition

/-!
# The steps of a pass can be repeated

What a step asks for it is told again, and what it makes sure of it finds there again
(`repeats_ensure`). The DHCP server is started only once, and a file is written only once, since it
is found with the contents it is to have. The gateway options are the only file that depends on what
was asked for; nothing is written behind them (`LastingFiles`).
-/

namespace DpuNetwork

open Ipv4

/-! ### Commands that add nothing -/

/-- No query, and no command of the following, is taken for the command of an addition. -/
theorem Network.ne_command_of_isQuery {q : Command} (hq : IsQuery q) (A : Addition) :
    q ≠ A.command := by
  obtain ⟨args, rfl⟩ := hq
  cases A <;> simp [Addition.command, addAddress, addRoute, addRule, ip]

theorem Network.setUp_ne_command (link : String) (A : Addition) : setUp link ≠ A.command := by
  cases A <;> simp [Addition.command, addAddress, addRoute, addRule, setUp, ip]

theorem Network.setExternalId_ne_command (key value : String) (A : Addition) :
    setExternalId key value ≠ A.command := by
  cases A <;> simp [Addition.command, addAddress, addRoute, addRule, setExternalId, ip]

theorem applyBridgeDefinition_ne_command (A : Addition) : applyBridgeDefinition ≠ A.command := by
  cases A <;> simp [Addition.command, Network.addAddress, Network.addRoute, Network.addRule,
    applyBridgeDefinition, Network.ip]

/-- What a plan observes changes nothing. -/
theorem Plan.isQuery_of_observes {plan : Plan} {q : Command} (hq : plan.Observes q) :
    Network.IsQuery q := by
  rcases hq with rfl | rfl | rfl | ⟨m, -, rfl | rfl⟩
  · exact Network.isQuery_showAddresses _
  · exact Network.isQuery_showAddresses _
  · exact Network.isQuery_lookUp _
  · exact Network.isQuery_showAddresses _
  · exact Network.isQuery_lookUp _

/-- A command that is no addition changes no listing. -/
theorem Listings.run_of_ne {σ : Type} {H : Host σ} (L : Listings H) {c : Command}
    (hc : ∀ A, c ≠ Addition.command A) (s : σ) (q : Command) :
    L.entries q (H.run c s).2 = L.entries q s :=
  L.run c s (fun A hA ↦ absurd hA (hc A)) q

namespace Pass

variable {σ α : Type} {H : Host σ} {L : Listings H} {roots : Roots} {plan : Plan}

/-! ### Observing -/

/-- Two judgements of what was read are one. -/
theorem lift_bind {β : Type} (r : Except Failure α) (f : α → Except Failure β) :
    (lift r >>= fun a ↦ lift (f a) : Pass σ β) = lift (r >>= f) := by
  refine ext fun s ↦ ?_
  cases r <;> rfl

/-- What is only observed is judged alike when it is asked for again. -/
theorem repeats_observe {q : Command} (hq : plan.Observes q) {judge : String → Except Failure α}
    (hjudge : ∀ text text' a, Network.entries? q text' = Network.entries? q text →
      judge text = .ok a → judge text' = .ok a) :
    Repeats L roots plan (Lasting L roots plan)
      fun _ ↦ run H q >>= fun text ↦ lift (judge text) := by
  have hquery := Plan.isQuery_of_observes hq
  refine .of_request (H.run q) (.run q)
    (fun answer ↦ (answer.mapError (RunFault.toFailure q)).bind judge) (fun s ↦ ?_)
    (L.run_of_ne (Network.ne_command_of_isQuery hquery)) (fun _ ↦ .inl hquery)
    fun s e u a ha he hu hcalm ↦ ?_
  · rw [exec_bind, exec_run]
    rcases (H.run q s.host).1 with f | text
    · rfl
    · exact exec_lift _ _
  · obtain ⟨out, hout⟩ := hcalm.run
    rcases htext : (H.run q s.host).1 with f | text
    · rw [htext] at ha
      cases ha
    · rw [htext] at ha
      -- The entries have not changed since the first run asked for them.
      have hentries : L.entries q u.host = L.entries q s.host :=
        (hu.entries q).trans ((he.observed q hq).trans
          (L.run_of_ne (Network.ne_command_of_isQuery hquery) s.host q))
      rw [hout]
      refine hjudge text out a ?_ ha
      rw [L.shown q hquery _ _ hout, L.shown q hquery _ _ htext, hentries]

/-- What was read in the first pass is read in the second, since the listing is the same. -/
theorem repeats_addressesOf {link : String} (hlink : plan.Observes (Network.showAddresses link)) :
    Repeats L roots plan (Lasting L roots plan) fun _ ↦ addressesOf H link := by
  have hread {text : String} {as : List Cidr} :
      (Listing.links text >>= Listing.addresses) = .ok as ↔
        (Network.entries? (Network.showAddresses link) text).bind inetAddresses? = some as := by
    rw [Addition.except_bind_eq_ok_iff, addresses_eq_ok_iff]
    rfl
  simp only [addressesOf, lift_bind]
  refine repeats_observe hlink fun text text' as h has ↦ ?_
  rw [hread] at has ⊢
  rw [h, has]

/-- The second pass is told the same gateway. -/
theorem repeats_gatewayTo {destination : Cidr}
    (hdestination : plan.Observes (Network.lookUp destination)) :
    Repeats L roots plan (Lasting L roots plan) fun _ ↦ gatewayTo H destination := by
  have hread {text : String} {rs : List RouteEntry} : Listing.routes text = .ok rs ↔
      (Network.entries? (Network.lookUp destination) text).bind (·.mapM Listing.route?) =
        some rs := by
    rw [Network.entries?_lookUp]
    exact entries_eq_ok_iff
  simp only [gatewayTo, lift_bind]
  refine repeats_observe hdestination fun text text' g h hg ↦ ?_
  rw [Addition.except_bind_eq_ok_iff] at hg ⊢
  obtain ⟨rs, hrs, hg⟩ := hg
  refine ⟨rs, ?_, hg⟩
  rw [hread] at hrs ⊢
  rw [h, hrs]

/-- It is told the same single address of an interface. -/
theorem repeats_singleAddress {link : String}
    (hlink : plan.Observes (Network.showAddresses link)) :
    Repeats L roots plan (Lasting L roots plan) fun _ ↦ singleAddress H link := by
  refine (repeats_addressesOf hlink).followedBy (fun as ↦ ?_) fun _ _ ↦ id
  split
  · exact .pure _
  · exact .throw _

/-- It is told the same address of the overlay bridge. -/
theorem repeats_bridgeAddress (hlink : plan.Observes (Network.showAddresses overlayBridge)) :
    Repeats L roots plan (Lasting L roots plan) fun _ ↦ bridgeAddress H := by
  refine (repeats_addressesOf hlink).followedBy (fun as ↦ ?_) fun _ _ ↦ id
  split
  · exact .throw _
  · exact .pure _
  · exact .throw _

/-! ### Acting -/

/-- A command that adds nothing is run again. -/
theorem repeats_perform {c : Command} (hc : ∀ A, c ≠ Addition.command A)
    (hharmless : ∀ answer, Exchange.IsHarmless plan (.run c answer)) :
    Repeats L roots plan (Lasting L roots plan) fun _ ↦ perform H c :=
  .of_request (H.run c) (.run c)
    (fun answer ↦ (answer.mapError (RunFault.toFailure c)).map fun _ ↦ ())
    (fun s ↦ exec_perform H s c) (L.run_of_ne hc) hharmless fun s e u a _ _ _ hcalm ↦ by
      obtain ⟨out, hout⟩ := hcalm.run
      rw [hout]
      rfl

/-- Setting the bridge up is repeated as a command; nothing depends on its output. -/
theorem repeats_setUp :
    Repeats L roots plan (Lasting L roots plan) fun _ ↦ perform H (Network.setUp overlayBridge) :=
  repeats_perform (Network.setUp_ne_command _) fun _ ↦ .inr (.inl rfl)

/-- The switch is told the same again. -/
theorem repeats_identify (endpoint : Address) (hostName : String) :
    Repeats L roots plan (Lasting L roots plan) fun _ ↦ identify H endpoint hostName := by
  have hidentifier (key value : String) : Repeats L roots plan (Lasting L roots plan)
      fun _ ↦ perform H (Network.setExternalId key value) :=
    repeats_perform (Network.setExternalId_ne_command key value)
      fun _ ↦ .inr (.inr (.inl ⟨key, value, rfl⟩))
  exact (hidentifier _ _).followedBy (fun _ ↦ (hidentifier _ _).followedBy
    (fun _ ↦ hidentifier _ _) fun _ _ ↦ id) fun _ _ ↦ id

/-- A successful addition leaves in its listing what was there. -/
theorem Lasting.add {A : Addition} (hA : plan.MayAdd A) {s : Session σ} {out : String}
    (hout : (H.run A.command s.host).1 = .ok out) (e : Exchange) :
    Lasting L roots plan s (s.told (H.run A.command s.host).2 e) where
  trace := List.subset_append_left _ _
  shows B hB := by
    obtain ⟨hinsert, hother⟩ := L.add A s.host out hout
    rw [Listings.Shows, Session.told_host]
    -- In the listing of `A` an entry has come that everyone can read; others are the same.
    by_cases hlisting : B.listing = A.listing
    · obtain ⟨entries, hentries, hseen⟩ := Option.bind_eq_some_iff.mp hB
      obtain ⟨before, j, after, rfl, hj, hafter⟩ := hinsert entries (hlisting ▸ hentries)
      obtain ⟨b, hb⟩ := Addition.exists_see?_of_shownBy hA hj hlisting
      rw [hlisting, hafter]
      exact Addition.seen?_insert_of_seen hseen hb
    · rw [hother _ hlisting]
      exact hB
  observed q hq := (L.add A s.host out hout).2 q (Plan.listing_ne_of_observes hq hA).symm
  started := id
  definition := id

/-- Once an addition was made sure of, its listing shows it, and shows what it has shown before. -/
theorem shows_of_ensure {A : Addition} (hA : plan.MayAdd A) {s s' : Session σ}
    (h : (ensure H A).exec s = (.ok (), s')) :
    L.Shows s'.host A ∧ Lasting L roots plan s s' := by
  have hask (q : Command) : L.entries q (H.run A.listing s.host).2 = L.entries q s.host :=
    L.run_of_ne (Network.ne_command_of_isQuery A.isQuery_listing) s.host q
  rw [exec_ensure] at h
  rcases htext : (H.run A.listing s.host).1 with f | text
  · simp [htext] at h
  have hshown := L.shown _ A.isQuery_listing _ _ htext
  rcases hrecognise : A.recognise text with f | b
  · simp [htext, hrecognise] at h
  have hseen : (L.entries A.listing s.host).bind A.seen? = some b := by
    rw [← hshown]
    exact Addition.recognise_eq_ok_iff.mp hrecognise
  cases b with
  | true =>
    simp only [htext, hrecognise] at h
    obtain ⟨-, rfl⟩ := Prod.mk.inj h
    refine ⟨?_, .told _ hask⟩
    rw [Listings.Shows, Session.told_host, hask]
    exact hseen
  | false =>
    simp only [htext, hrecognise] at h
    rw [exec_perform] at h
    obtain ⟨hok, rfl⟩ := Prod.mk.inj h
    rcases hout : (H.run A.command (H.run A.listing s.host).2).1 with f | out
    · rw [Session.told_host, hout] at hok
      cases hok
    refine ⟨?_, (Lasting.told _ hask).trans (.add hA hout _)⟩
    obtain ⟨entries, hentries, hb⟩ := Option.bind_eq_some_iff.mp hseen
    obtain ⟨before, j, after, rfl, hj, hafter⟩ :=
      (L.add A _ out hout).1 entries ((hask _).trans hentries)
    rw [Listings.Shows, Session.told_host, Session.told_host, hafter]
    exact Addition.seen?_insert hb (Addition.see?_of_shownBy hA hj)

theorem appends_ask (c : Command) : Respects (Appends fun _ ↦ True) (run H c) :=
  appends_run H fun _ ↦ trivial

/-- **What was made sure of is found** when it is made sure of again. -/
theorem repeats_ensure {A : Addition} (hA : plan.MayAdd A) :
    Repeats L roots plan (Lasting L roots plan) fun _ ↦ ensure H A where
  told _ := .ensure H (.of_ip Appends.chains (fun _ ↦ appends_ask _) plan) hA
  lasts _ s _ s' h := (shows_of_ensure hA h).2
  again _ s _ s' h e he _ u hu hcalm := by
    have hmade : L.Shows s'.host A ∧ Lasting L roots plan s s' := shows_of_ensure hA h
    have hshows : L.Shows u.host A := hu.shows (he.shows A hmade.1)
    -- The listing is the first thing that is asked for.
    have hthere : Respects (Appends fun _ ↦ True) (isThere H A) :=
      (appends_ask _).bind Appends.chains fun _ ↦ .lift Appends.chains _
    obtain ⟨t, ht, hundisturbed⟩ := (hcalm.parts hthere fun b ↦ by
      cases b
      · exact .perform H Appends.chains (appends_ask _)
      · exact .pure Appends.chains _).1
    rw [exec_isThere, Session.told_trace] at ht
    obtain rfl := List.append_cancel_left ht
    obtain ⟨text, htext⟩ := (hundisturbed _ List.mem_cons_self).run
    have hrecognise : A.recognise text = .ok true := by
      rw [Addition.recognise_eq_ok_iff, L.shown _ A.isQuery_listing _ _ htext]
      exact hshows
    rw [exec_ensure]
    simp only [htext, hrecognise]
    exact ⟨_, rfl, hu.told _ (L.run_of_ne (Network.ne_command_of_isQuery A.isQuery_listing) u.host),
      .told (.inl A.isQuery_listing)⟩

/-! ### The node and the device file -/

/-- The host name that a node gives depends on one label alone. -/
theorem judgeNode_eq_ok_iff {node : Option Node} {hostName : String} :
    judgeNode plan (node.map Node.hostName?) = .ok hostName ↔
      (hostNameLabel? node).filter (fun s ↦ !s.isEmpty) = some hostName := by
  cases node with
  | none => simp [judgeNode, hostNameLabel?]
  | some n =>
    rw [Option.map_some, hostNameLabel?, Option.bind_some]
    show judgeNode plan (some n.hostName?) = _ ↔ n.hostName? = _
    cases n.hostName? <;> simp [judgeNode]

/-- The node has the name that it had. -/
theorem repeats_hostNameOf :
    Repeats L roots plan (Lasting L roots plan) fun _ ↦ hostNameOf H plan := by
  refine .of_request (H.getNode plan.nodeName) (.getNode plan.nodeName)
    (fun answer ↦ (answer.mapError ClusterFault.toFailure).bind fun node ↦
      judgeNode plan (node.map Node.hostName?))
    (fun s ↦ exec_hostNameOf H plan s) (L.getNode plan.nodeName) (fun _ ↦ trivial)
    fun s e u hostName ha he hu hcalm ↦ ?_
  obtain ⟨node, hnode, hsame⟩ := hcalm.getNode
  -- The answer of the first run stands in the trace, so the second one has the same label.
  have htold : .getNode plan.nodeName (H.getNode plan.nodeName s.host).1 ∈ e.trace :=
    he.trace (by simp)
  rcases hfirst : (H.getNode plan.nodeName s.host).1 with f | node'
  · rw [hfirst] at ha
    cases ha
  rw [hfirst] at ha htold
  rw [hnode]
  exact judgeNode_eq_ok_iff.mpr (hsame node' htold ▸ judgeNode_eq_ok_iff.mp ha)

/-- So the zone is applied with the same name. -/
theorem repeats_ensureZone :
    Repeats L roots plan (Lasting L roots plan) fun _ ↦ ensureZone H plan := by
  simp only [ensureZone_eq]
  refine repeats_hostNameOf.followedBy (fun hostName ↦ ?_) fun _ _ ↦ id
  have hzone : Repeats L roots plan (Lasting L roots plan) fun _ ↦
      applyLabels H plan.nodeName (.ofList [(Node.zoneLabel, hostName)]) :=
    .of_request (H.applyLabels plan.nodeName (.ofList [(Node.zoneLabel, hostName)]))
      (.applyLabels plan.nodeName (.ofList [(Node.zoneLabel, hostName)]))
      (Except.mapError ClusterFault.toFailure)
      (fun s ↦ exec_applyLabels H s _ _) (L.applyLabels _ _) (fun _ ↦ trivial)
      fun s e u a _ _ _ hcalm ↦ by
        rw [hcalm.applyLabels]
        rfl
  exact hzone.followedBy (fun _ ↦ .pure _) fun _ _ ↦ id

/-- The device file is the same, and so is the address in it. -/
theorem repeats_functionMac (devices : String) (index : Nat) :
    Repeats L roots plan (Lasting L roots plan) fun _ ↦ functionMac H devices index := by
  let path := Path.child devices (FunctionConfig.path index)
  refine .of_request (H.readDevice path) (.readDevice path)
    (fun answer ↦ (judgeDevice path answer).bind FunctionConfig.mac) (fun s ↦ ?_)
    (L.readDevice path) (fun _ ↦ trivial) fun s e u mac ha he hu hcalm ↦ ?_
  · rw [functionMac, exec_bind, exec_readDevice]
    show _ = ((judgeDevice path (H.readDevice path s.host).1).bind FunctionConfig.mac, _)
    cases (H.readDevice path s.host).1
    · rfl
    · exact exec_lift _ _
  · obtain ⟨text, htext, hsame⟩ := hcalm.readDevice
    have htold : .readDevice path (H.readDevice path s.host).1 ∈ e.trace := he.trace (by simp)
    rcases hfirst : (H.readDevice path s.host).1 with - | text'
    · rw [hfirst] at ha
      cases ha
    rw [hfirst] at ha htold
    rw [htext, hsame text' htold]
    exact ha

/-! ### The DHCP server -/

/-- After a success the server is remembered as started, by this pass or an earlier one. -/
theorem started_of_ensureDhcpServer {m : InternalMode} {mac : Mac} {s s' : Session σ}
    (h : (ensureDhcpServer H plan m mac).exec s = (.ok (), s')) :
    s'.memory.dhcpStarted = true ∧ Lasting L roots plan s s' := by
  by_cases hstarted : s.memory.dhcpStarted = true
  · rw [exec_ensureDhcpServer_of_started _ _ hstarted] at h
    obtain ⟨-, rfl⟩ := Prod.mk.inj h
    exact ⟨hstarted, .told _ (L.childState s.host)⟩
  · rw [exec_ensureDhcpServer_of_not_started _ _ hstarted] at h
    rcases hargs : (dhcpServer plan m mac).args with f | args
    · simp [hargs] at h
    simp only [hargs] at h
    split at h
    · obtain ⟨-, rfl⟩ := Prod.mk.inj h
      have hlasts : Lasting L roots plan s (s.told _ _) :=
        .told (.start ⟨dhcpProgram, args⟩ (H.start ⟨dhcpProgram, args⟩ s.host).1)
          (L.start ⟨dhcpProgram, args⟩ s.host)
      exact ⟨rfl, hlasts.trace, hlasts.shows, hlasts.observed, fun _ ↦ rfl, hlasts.definition⟩
    · cases h

/-- **No second server is started**, since the first one is remembered and runs. -/
theorem repeats_ensureDhcpServer (m : InternalMode) (mac : Mac) :
    Repeats L roots plan (Lasting L roots plan) fun _ ↦ ensureDhcpServer H plan m mac where
  told _ s := (Respects.ensureDhcpServer H Appends.chains plan m mac (appends_childState H)
    (appends_start H) (appends_remember _) s).mono fun _ _ ↦ trivial
  lasts _ s _ s' h := (started_of_ensureDhcpServer h).2
  again _ s _ s' h e he _ u hu hcalm := by
    have hlooked : s'.memory.dhcpStarted = true ∧ Lasting L roots plan s s' :=
      started_of_ensureDhcpServer h
    have hstarted : u.memory.dhcpStarted = true := hu.started.trans (he.started hlooked.1)
    rw [exec_ensureDhcpServer_of_started _ _ hstarted] at hcalm ⊢
    obtain ⟨t, ht, hundisturbed⟩ := hcalm
    obtain rfl := List.append_cancel_left ht
    rw [(hundisturbed _ List.mem_cons_self).childState]
    exact ⟨_, rfl, hu.told _ (L.childState u.host), .told trivial⟩

/-! ### Files and the throttle -/

/-- A file that is found written is not written again. -/
theorem repeats_write {K : Session σ → Session σ → Prop} {path text : String}
    (hdefinition : ∀ (t t' : FileTree) changed, t.replace path text = (.ok changed, t') →
      t.read (Path.child roots.files bridgeDefinitionPath) = some bridgeDefinition.toUTF8 →
      t'.read (Path.child roots.files bridgeDefinitionPath) = some bridgeDefinition.toUTF8)
    (hK : ∀ s e : Session σ, K s e → s.files.read path = some text.toUTF8 →
      e.files.read path = some text.toUTF8) :
    Repeats L roots plan K fun _ ↦ (do let _ ← replaceFile path text : Pass σ Unit) where
  told _ := (appends_replaceFile _ _).bind Appends.chains fun _ ↦ .pure Appends.chains _
  lasts _ s _ s' h := by
    obtain ⟨changed, s₁, hfile, hpure⟩ := exec_bind_eq_ok_iff.mp h
    cases hpure
    rw [exec_replaceFile] at hfile
    obtain ⟨hok, rfl⟩ := Prod.mk.inj hfile
    rcases hreplace : s.files.replace path text with ⟨f | b, t⟩
    · rw [hreplace] at hok
      cases hok
    · exact ⟨List.Subset.refl _, fun _ ↦ id, fun _ _ ↦ rfl, id, hdefinition _ _ b hreplace⟩
  again _ s _ s' h e he _ u hu _ := by
    obtain ⟨changed, s₁, hfile, hpure⟩ := exec_bind_eq_ok_iff.mp h
    cases hpure
    rw [exec_replaceFile] at hfile
    obtain ⟨hok, rfl⟩ := Prod.mk.inj hfile
    rcases hreplace : s.files.replace path text with ⟨f | b, t⟩
    · rw [hreplace] at hok
      cases hok
    rw [hreplace] at he
    have hread : u.files.read path = some text.toUTF8 := by
      rw [hu.files]
      exact hK _ e he (FileTree.read_replace hreplace)
    refine ⟨u, ?_, hu, Appends.chains.refl u⟩
    rw [exec_bind, exec_replaceFile, FileTree.replace_of_read hread]
    rfl

/-- The definition is written over itself, which changes nothing. -/
theorem repeats_writeBridgeDefinition :
    Repeats (H := H) L roots plan (Lasting L roots plan) fun _ ↦ writeBridgeDefinition roots :=
  repeats_write (fun _ _ _ hreplace _ ↦ FileTree.read_replace hreplace)
    fun _ _ he hread ↦ he.definition hread

/-- The options are those of the first pass, and the file holds them already. -/
theorem repeats_writeGatewayOptions (o : GatewayOptions) :
    Repeats (H := H) L roots plan (LastingFiles L roots plan)
      fun _ ↦ writeGatewayOptions roots o :=
  repeats_write (fun _ _ _ hreplace hread ↦ FileTree.read_replace_of_apart hreplace hread
      (apart_gatewayOptions_bridgeDefinition roots.files))
    fun _ _ he hread ↦ by rwa [he.files]

/-- The bridge definition is applied again or not, and nothing else depends on it. -/
theorem repeats_applyThrottled {m : ExternalMode} (hmode : plan.mode = .external m) :
    Repeats L roots plan (Lasting L roots plan) fun now ↦ applyThrottled H now where
  told now s := (appends_applyThrottled now s).mono fun _ _ ↦ trivial
  lasts now s _ s' h := by
    rw [exec_applyThrottled] at h
    split at h
    · rw [exec_perform] at h
      obtain ⟨-, rfl⟩ := Prod.mk.inj h
      have hlasts : Lasting L roots plan s (s.told _ _) :=
        .told (.run applyBridgeDefinition (H.run applyBridgeDefinition s.host).1)
          (L.run_of_ne applyBridgeDefinition_ne_command s.host)
      exact ⟨hlasts.trace, hlasts.shows, hlasts.observed, hlasts.started, hlasts.definition⟩
    · obtain ⟨-, rfl⟩ := Prod.mk.inj h
      exact .refl s
  again _ _ _ _ _ e _ now u hu hcalm := by
    rw [exec_applyThrottled] at hcalm ⊢
    split at hcalm
    · next hready =>
      rw [if_pos hready]
      rw [exec_perform] at hcalm ⊢
      obtain ⟨t, ht, hundisturbed⟩ := hcalm
      obtain rfl := List.append_cancel_left ht
      obtain ⟨out, hout⟩ := (hundisturbed _ List.mem_cons_self).run
      -- The throttle remembers the moment, and `Agrees` does not look at the throttle.
      have hrecorded : Agrees L e
          { u with memory := { u.memory with throttle := u.memory.throttle.record now } } :=
        ⟨hu.entries, hu.files, hu.started⟩
      refine ⟨_, ?_, hrecorded.told (.run applyBridgeDefinition (.ok out))
        (L.run_of_ne applyBridgeDefinition_ne_command u.host), ⟨_, rfl, fun x hx ↦ ?_⟩⟩
      · rw [hout]
        rfl
      · obtain rfl := List.mem_singleton.mp hx
        exact .inr (.inr (.inr ⟨⟨m, hmode⟩, rfl⟩))
    · next hready =>
      rw [if_neg hready]
      exact ⟨u, rfl, hu, Appends.chains.refl u⟩

end Pass

end DpuNetwork
