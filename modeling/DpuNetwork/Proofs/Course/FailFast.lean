import Mathlib.Logic.Relation
import DpuNetwork.Proofs.Course.Refusal
import DpuNetwork.Proofs.Kernel.Host

/-!
# What a pass does, word for word

A pass follows the course of its plan, ends with the first answer that is refused, and succeeds
exactly when it gets to the end of the course and no answer is refused. What it never does in its
mode can be read off the course.

## Main statements

* `Follows.ok_iff`: when a pass succeeds;
* `Follows.files`: which files a pass writes;
* `makePass_failsFast`: all this of every pass, whatever is remembered and answered.
-/

namespace DpuNetwork

open Ipv4 Pass

variable {plan : Plan} {roots : Roots} {l l' : Store} {t : List Exchange}
  {r : Except Failure Unit} {st : Stage} {w : List Stage} {x : Findings} {now : Nat}

theorem Network.key_eq_of_setExternalId {key key' value value' : String} (hkey : '=' ∉ key.toList)
    (hkey' : '=' ∉ key'.toList) (h : setExternalId key value = setExternalId key' value') :
    key = key' := by
  have hread := congrArg Effect.ofCommand? h
  rw [Effect.ofCommand?_setExternalId hkey, Effect.ofCommand?_setExternalId hkey'] at hread
  exact (Effect.identify.inj (Option.some.inj hread)).1

/-- The stages before the overlay switch is told anything. -/
def Plan.courseToIdentity (plan : Plan) (roots : Roots) (now : Nat) (x : Findings) : List Stage :=
  [Stage.readNode x.hostName, Stage.applyZone x.hostName] ++ plan.bridgeCourse roots now x ++
  plan.routingCourse x.pods x.outOfBand x.defaultGateway

theorem course_eq_append : plan.course roots now x =
    plan.courseToIdentity roots now x ++ Plan.identityCourse (plan.endpoint x) x.hostName := rfl

theorem eq_setUp_of_mem_bridgeCourse {c : Command}
    (h : .perform c ∈ plan.bridgeCourse roots now x) : c = Network.setUp overlayBridge := by
  rw [Plan.bridgeCourse] at h
  split at h
  · simp only [InternalMode.course, InternalMode.approach, List.mem_append, List.mem_cons,
      List.not_mem_nil, or_false, reduceCtorEq, false_or, Stage.perform.injEq] at h
    rcases h with h | h
    · exact h
    · split at h <;> simp at h
  · simp [ExternalMode.course] at h

/-- A stage that talks to the overlay switch does nothing else. -/
theorem Stage.Makes.eq_perform (hst : st.MayOccur roots plan) {key value : String}
    {answer : Except RunFault String}
    (h : st.Makes plan (.run (Network.setExternalId key value) answer)) :
    st = .perform (Network.setExternalId key value) := by
  rcases h.of_run hst with ⟨hst, -⟩ | ⟨-, hc⟩ | ⟨A, -, hc⟩ | ⟨A, -, hc⟩ | hobserved
  · exact hst
  · simp [Network.setExternalId, applyBridgeDefinition] at hc
  · exact absurd (hc ▸ A.isQuery_listing) (not_isQuery_setExternalId _ _)
  · exact absurd hc (Network.setExternalId_ne_command _ _ A)
  · exact absurd (Plan.isQuery_of_observes hobserved) (not_isQuery_setExternalId _ _)

/-- Before the last stages the overlay switch is told nothing. -/
theorem not_makes_setExternalId (h : st ∈ plan.courseToIdentity roots now x) (key value : String)
    (answer : Except RunFault String) :
    ¬ st.Makes plan (.run (Network.setExternalId key value) answer) := by
  intro hmakes
  have hcourse : st ∈ plan.course roots now x := course_eq_append ▸ List.mem_append_left _ h
  obtain rfl := hmakes.eq_perform (mayOccur_of_mem_course hcourse)
  simp only [Plan.courseToIdentity, Plan.routingCourse, List.mem_append, List.mem_cons,
    List.not_mem_nil, or_false, reduceCtorEq, false_or] at h
  exact absurd (eq_setUp_of_mem_bridgeCourse h) (by
    simp [Network.setExternalId, Network.setUp, Network.ip])

/-- The course but for its last stage. -/
def Plan.courseToHostName (plan : Plan) (roots : Roots) (now : Nat) (x : Findings) : List Stage :=
  plan.courseToIdentity roots now x ++
  [Stage.perform (Network.setExternalId "ovn-encap-ip" (plan.endpoint x).text),
    Stage.perform (Network.setExternalId "host-k8s-nodename" x.hostName)]

theorem course_eq : plan.course roots now x =
    plan.courseToHostName roots now x ++
      [Stage.perform (Network.setExternalId "hostname" x.hostName)] := by
  simp [course_eq_append, Plan.courseToHostName, Plan.identityCourse]

/-- The host name is told in the last stage and in no other. -/
theorem not_makes_hostName (h : st ∈ plan.courseToHostName roots now x) (hostName : String)
    (answer : Except RunFault String) :
    ¬ st.Makes plan (.run (Network.setExternalId "hostname" hostName) answer) := by
  intro hmakes
  rcases List.mem_append.mp h with h | h
  · exact not_makes_setExternalId h _ _ _ hmakes
  · simp only [List.mem_cons, List.not_mem_nil, or_false] at h
    rcases h with rfl | rfl
    · obtain ⟨_, hc⟩ := hmakes
      exact absurd (Network.key_eq_of_setExternalId (by decide) (by decide) (Exchange.run.inj hc).1)
        (by decide)
    · obtain ⟨_, hc⟩ := hmakes
      exact absurd (Network.key_eq_of_setExternalId (by decide) (by decide) (Exchange.run.inj hc).1)
        (by decide)

/-- **A pass succeeds** exactly when it gets as far as telling the host name and no answer is
refused. -/
theorem Follows.ok_iff (h : Follows plan (plan.course roots now x) l t r l') :
    r = .ok () ↔
      (∃ hostName answer, .run (Network.setExternalId "hostname" hostName) answer ∈ t) ∧
        ∀ e ∈ t, e.IsAccepted plan := by
  have hends : Ends plan t r l' := h.ends fun _ hst ↦ mayOccur_of_mem_course hst
  rw [course_eq] at h
  constructor
  · rintro rfl
    obtain ⟨t₁, l₁, _, rfl, -, ⟨answer, rfl, -⟩, -⟩ := h.ok_concat
    cases hends with
    | accepted hall => exact ⟨⟨x.hostName, answer, by simp⟩, hall⟩
  · rintro ⟨⟨hostName, answer, hmem⟩, hall⟩
    obtain ⟨t₁, r₁, l₁, u, rfl, hbefore, hlast⟩ := Follows.append_iff.mp h
    rcases r₁ with f | ⟨⟩
    · -- Nobody has told the host name if the pass has failed before its last stage.
      obtain ⟨rfl, -, -⟩ := hlast
      rw [List.append_nil] at hmem
      obtain ⟨st, hst, hmakes⟩ := hbefore.makes hmem
      exact absurd hmakes (not_makes_hostName hst _ _)
    · obtain ⟨v, r₂, l₂, u, rfl, ⟨hasks, -⟩, hrest⟩ := follows_cons_iff.mp hlast
      rcases r₂ with f | ⟨⟩
      · obtain ⟨answer, rfl, hjudge⟩ := hasks
        have hjudges : Judges plan (.run (Network.setExternalId "hostname" x.hostName)) _ :=
          judges_perform (not_isQuery_setExternalId _ _)
        exact absurd (hjudges.refused hjudge) (hall _ (by simp) f)
      · exact (follows_nil_iff.mp hrest).2.1

/-- The files were written in some places and in no other. -/
def WrittenOnlyAt (paths : List String) : FileTree → FileTree → Prop :=
  Relation.ReflTransGen fun files files' ↦
    ∃ path ∈ paths, ∃ text, files' = (files.replace path text).2

/-- A stage changes the files in the one place that it writes. -/
theorem Stage.Takes.files (h : st.Takes plan l t r l') :
    l'.files = l.files ∨ ∃ path text, st = .write path text ∧
      l'.files = (l.files.replace path text).2 := by
  cases st with
  | applyThrottled now =>
    by_cases hready : l.memory.throttle.isReady now = true
    · rw [((takes_applyThrottled_of_ready hready).mp h).2]
      exact .inl rfl
    · rw [((takes_applyThrottled_of_not_ready hready).mp h).2.2]
      exact .inl rfl
  | serve m mac =>
    left
    by_cases hstarted : l.memory.dhcpStarted = true
    · rw [((takes_serve_of_started hstarted).mp h).2]
    · rw [takes_serve_of_not_started hstarted] at h
      split at h
      · rw [h.2.2]
      · obtain ⟨started, -, -, rfl⟩ := h
        cases started <;> rfl
  | write path text => exact .inr ⟨path, text, rfl, congrArg Store.files h.2.2⟩
  | _ => exact .inl (congrArg Store.files h.2)

/-- A pass changes the files in the places that its stages write. -/
theorem Follows.files {paths : List String} (hw : ∀ path text, .write path text ∈ w → path ∈ paths)
    (h : Follows plan w l t r l') : WrittenOnlyAt paths l.files l'.files := by
  have hstage {st : Stage} {l l₁ : Store} {t : List Exchange} {r : Except Failure Unit}
      (hst : ∀ path text, st = .write path text → path ∈ paths) (h : st.Takes plan l t r l₁) :
      WrittenOnlyAt paths l.files l₁.files := by
    rcases h.files with heq | ⟨path, text, rfl, hfiles⟩
    · rw [heq]
      exact .refl
    · exact .single ⟨path, hst path text rfl, text, hfiles⟩
  induction h with
  | done l => exact .refl
  | step h _ ih =>
    exact (hstage (fun path text heq ↦ hw path text (heq ▸ List.mem_cons_self)) h).trans
      (ih fun path text hmem ↦ hw path text (List.mem_cons_of_mem _ hmem))
  | stop h => exact hstage (fun path text heq ↦ hw path text (heq ▸ List.mem_cons_self)) h

/-- The requests that a pass of a plan can make. -/
def Plan.MayAsk (plan : Plan) : Exchange → Prop
  | .getNode _ _ | .applyLabels _ _ _ => True
  | .run c _ => Network.IsQuery c ∨ (∃ A, plan.MayAdd A ∧ c = A.command) ∨
      (∃ key value, c = Network.setExternalId key value) ∨
      (∃ m, plan.mode = .internal m) ∧ c = Network.setUp overlayBridge ∨
      (∃ m, plan.mode = .external m) ∧ c = applyBridgeDefinition
  | .start _ _ | .childState _ | .readDevice _ _ => ∃ m, plan.mode = .internal m

theorem Stage.Makes.mayAsk (hst : st.MayOccur roots plan) {e : Exchange} (h : st.Makes plan e) :
    plan.MayAsk e := by
  cases e with
  | run c answer =>
    rcases h.of_run hst with
      ⟨-, hup | hidentifier⟩ | happly | ⟨A, -, rfl⟩ | ⟨A, rfl, rfl⟩ | hobserved
    · exact .inr (.inr (.inr (.inl hup)))
    · exact .inr (.inr (.inl hidentifier))
    · exact .inr (.inr (.inr (.inr happly)))
    · exact .inl A.isQuery_listing
    · exact .inr (.inl ⟨A, hst, rfl⟩)
    · exact .inl (Plan.isQuery_of_observes hobserved)
  | getNode name answer => trivial
  | applyLabels name labels answer => trivial
  | start c started =>
    obtain ⟨m, mac, rfl⟩ := h.of_start
    exact ⟨m, hst⟩
  | childState answer =>
    obtain ⟨m, mac, rfl⟩ := h.of_childState
    exact ⟨m, hst⟩
  | readDevice path answer =>
    obtain ⟨mac, rfl⟩ := h.of_readDevice
    exact hst

/-- A pass makes no other requests. -/
theorem Follows.mayAsk (h : Follows plan (plan.course roots now x) l t r l') {e : Exchange}
    (he : e ∈ t) : plan.MayAsk e := by
  obtain ⟨st, hst, hmakes⟩ := h.makes he
  exact hmakes.mayAsk (mayOccur_of_mem_course hst)

theorem mode_ne_external {m : InternalMode} (hmode : plan.mode = .internal m) :
    ¬ ∃ m, plan.mode = .external m := by
  rintro ⟨m', hmode'⟩
  rw [hmode] at hmode'
  cases hmode'

theorem mode_ne_internal {m : ExternalMode} (hmode : plan.mode = .external m) :
    ¬ ∃ m, plan.mode = .internal m := by
  rintro ⟨m', hmode'⟩
  rw [hmode] at hmode'
  cases hmode'

/-- In internal mode nothing but the gateway options is written. -/
theorem path_of_mem_course {m : InternalMode} (hmode : plan.mode = .internal m) {path text : String}
    (h : .write path text ∈ plan.course roots now x) :
    path ∈ [Path.child roots.files gatewayOptionsPath] := by
  rcases mayOccur_of_mem_course h with rfl | ⟨hexternal, -⟩
  · exact List.mem_singleton.mpr rfl
  · exact absurd hexternal (mode_ne_external hmode)

/-- In internal mode the bridge definition is not applied. -/
theorem not_mayAsk_netplan {m : InternalMode} (hmode : plan.mode = .internal m)
    (args : List String) (answer : Except RunFault String) :
    ¬ plan.MayAsk (.run ⟨"netplan", args⟩ answer) := by
  rintro (⟨_, h⟩ | ⟨A, -, h⟩ | ⟨key, value, h⟩ | ⟨-, h⟩ | ⟨hexternal, -⟩)
  · simp [Network.ip] at h
  · cases A <;> simp [Addition.command, Network.addAddress, Network.addRoute, Network.addRule,
      Network.ip] at h
  · simp [Network.setExternalId] at h
  · simp [Network.setUp, Network.ip] at h
  · exact mode_ne_external hmode hexternal

/-- In external mode the bridge is not addressed. -/
theorem not_mayAsk_addAddress {m : ExternalMode} (hmode : plan.mode = .external m) (link : String)
    (a : Cidr) (answer : Except RunFault String) :
    ¬ plan.MayAsk (.run (Network.addAddress link a) answer) := by
  rintro (h | ⟨A, hA, h⟩ | ⟨key, value, h⟩ | ⟨hinternal, -⟩ | ⟨-, h⟩)
  · exact not_isQuery_command (.address link a) h
  · cases A with
    | address link' a' =>
      obtain ⟨m', hmode', -⟩ := hA
      exact mode_ne_internal hmode ⟨m', hmode'⟩
    | _ => simp [Addition.command, Network.addAddress, Network.addRoute, Network.addRule,
        Network.ip] at h
  · exact Network.setExternalId_ne_command key value (.address link a) h.symm
  · exact mode_ne_internal hmode hinternal
  · exact applyBridgeDefinition_ne_command (.address link a) h.symm

/-- In external mode the bridge is not put into operation. -/
theorem not_mayAsk_setUp {m : ExternalMode} (hmode : plan.mode = .external m) (link : String)
    (answer : Except RunFault String) :
    ¬ plan.MayAsk (.run (Network.setUp link) answer) := by
  rintro (h | ⟨A, -, h⟩ | ⟨key, value, h⟩ | ⟨hinternal, -⟩ | ⟨-, h⟩)
  · exact not_isQuery_setUp link h
  · exact Network.setUp_ne_command link A h
  · simp [Network.setUp, Network.setExternalId, Network.ip] at h
  · exact mode_ne_internal hmode hinternal
  · simp [Network.setUp, applyBridgeDefinition, Network.ip] at h

/-- How a pass goes that found some values on its way. -/
structure FailsFast {σ : Type} (roots : Roots) (plan : Plan) (r : MadePass σ) (x : Findings) :
    Prop where
  /-- It follows the course of the plan. -/
  word : Follows plan (plan.course roots r.now x) r.before.store r.after.trace r.result
    r.after.store
  /-- It ends with an answer that is refused, a file that cannot be written, or an MTU that is too
  large; or else no answer is refused, and it succeeds. -/
  ends : Ends plan r.after.trace r.result r.after.store
  /-- It succeeds exactly when it gets to the end of its word and no answer is refused. -/
  ok_iff : r.result = .ok () ↔
    (∃ hostName answer, .run (Network.setExternalId "hostname" hostName) answer ∈ r.after.trace) ∧
      ∀ e ∈ r.after.trace, e.IsAccepted plan
  /-- An answer that is refused is the last one, and how it is refused is the result. -/
  refused : ∀ pre (e : Exchange) post f, r.after.trace = pre ++ e :: post → e.Refused plan f →
    post = [] ∧ ∃ f', e.Refused plan f' ∧ r.result = .error f'
  /-- In internal mode the bridge definition is neither applied nor written. -/
  internal : ∀ m, plan.mode = .internal m →
    (∀ args answer, .run ⟨"netplan", args⟩ answer ∉ r.after.trace) ∧
      WrittenOnlyAt [Path.child roots.files "etc/openvswitch/ovn_k8s.conf"] r.before.files
        r.after.files
  /-- In external mode there is no program in the background, no device file is read, and the bridge
  is neither addressed nor put into operation. -/
  external : ∀ m, plan.mode = .external m →
    (∀ c answer, .start c answer ∉ r.after.trace) ∧
      (∀ answer, .childState answer ∉ r.after.trace) ∧
      (∀ path answer, .readDevice path answer ∉ r.after.trace) ∧
      (∀ link a answer, .run (Network.addAddress link a) answer ∉ r.after.trace) ∧
      ∀ link answer, .run (Network.setUp link) answer ∉ r.after.trace

/-- **A pass fails fast.** Whatever an agent remembers, whatever the host does and whatever files
there are, a pass follows the course of its plan and ends with the first answer that is refused. -/
theorem makePass_failsFast {σ : Type} (H : Host σ) (roots : Roots) (plan : Plan) (memory : Memory)
    (v : Visit σ) : ∃ x, FailsFast roots plan (makePass H roots plan memory v) x := by
  obtain ⟨x, hw⟩ := makePass_follows H roots plan memory v
  have hends := hw.ends fun _ hst ↦ mayOccur_of_mem_course hst
  refine ⟨x, hw, hends, hw.ok_iff, fun pre e post f ht he ↦ hends.refused_last ht he,
    fun m hmode ↦ ⟨fun args answer hmem ↦ not_mayAsk_netplan hmode args answer (hw.mayAsk hmem),
      hw.files fun path text hmem ↦ path_of_mem_course hmode hmem⟩, fun m hmode ↦ ?_⟩
  have hnot := mode_ne_internal hmode
  exact ⟨fun c answer hmem ↦ hnot (hw.mayAsk hmem), fun answer hmem ↦ hnot (hw.mayAsk hmem),
    fun path answer hmem ↦ hnot (hw.mayAsk hmem),
    fun link a answer hmem ↦ not_mayAsk_addAddress hmode link a answer (hw.mayAsk hmem),
    fun link answer hmem ↦ not_mayAsk_setUp hmode link answer (hw.mayAsk hmem)⟩

end DpuNetwork
