import DpuNetwork.Proofs.Course.Leads
import DpuNetwork.Proofs.Course.Lookups
import DpuNetwork.Proofs.Kernel.Host

/-!
# Passes on a host that keeps what it is told

On such a host (`Kernel.host`) only two kinds of requests can go wrong: an addition of what is held
already, and the read of a device file that is not there. A pass adds only what a listing has just
shown missing, so the first kind does not occur, whatever the host holds when the pass begins. What
is told of the node and of the device files never changes, so what an earlier pass was told is
confirmed.

A pass on such a host is therefore undisturbed if the device file that it reads is there
(`makePass_undisturbed`). Nothing is asked of the earlier exchanges but that they have happened with
the same surroundings.
-/

namespace DpuNetwork

variable {plan : Plan}

/-- The only device file that a course reads is that of the host's function. -/
theorem path_eq_of_readMac_mem_course {roots : Roots} {now : Nat} {x : Findings} {path : String}
    {mac : Mac} (h : .readMac path mac ∈ plan.course roots now x) :
    path = Path.child roots.devices (FunctionConfig.path hostFunction) := by
  simp only [Plan.course, Plan.bridgeCourse, Plan.routingCourse, Plan.identityCourse,
    List.mem_append, List.mem_cons, List.not_mem_nil, or_false, reduceCtorEq, false_or] at h
  split at h
  · simp only [InternalMode.course, InternalMode.approach, List.mem_append, List.mem_cons,
      List.not_mem_nil, or_false, reduceCtorEq, false_or, Stage.readMac.injEq] at h
    rcases h with h | h
    · split at h <;> simp at h
    · exact h.1
  · simp [ExternalMode.course] at h

namespace Kernel

variable (S : Surroundings plan) {k k' l l' : Kernel plan} {e x : Exchange}

/-! ### Single requests -/

/-- Every request but an addition and the read of a device file is answered. -/
theorem succeeds_of_happens (h : e.Happens (host S) k k')
    (hadd : ∀ c answer, e = .run c answer → ¬ Network.IsAdd c)
    (hdevice : ∀ path, e ≠ .readDevice path none) : e.succeeds = true := by
  cases e with
  | run c answer =>
    have h : run S c k = (answer, k') := h
    have hnone : Addition.ofCommand? c = none := by
      refine Option.eq_none_iff_forall_ne_some.mpr fun A hA ↦ hadd c answer rfl ?_
      rw [← Addition.command_of_ofCommand? hA]
      exact A.isAdd_command
    rw [run, hnone] at h
    rcases heffect : Effect.ofCommand? c with - | f <;> rw [heffect] at h <;> cases h <;> rfl
  | readDevice path answer =>
    rcases answer with - | text
    · exact absurd rfl (hdevice path)
    · rfl
  | _ => cases h; rfl

/-- An addition succeeds right behind a listing that has shown it missing. -/
theorem exists_ok_of_missingIn {A : Addition} {text : String} {answer : Except RunFault String}
    (hA : plan.MayAdd A) (hlook : (Exchange.run A.listing (.ok text)).Happens (host S) k l)
    (hadd : (Exchange.run A.command answer).Happens (host S) l k') (hmissing : A.MissingIn text) :
    ∃ out, answer = .ok out := by
  have hlook : (host S).run A.listing k = (.ok text, l) := hlook
  have hadd : (host S).run A.command l = (answer, k') := hadd
  rw [run_query S k A.isQuery_listing] at hlook
  obtain ⟨htext, rfl⟩ := Prod.mk.inj hlook
  obtain rfl := Except.ok.inj htext
  have hheld : ¬ k.holdings.Holds A := by
    have hseen := Addition.recognise_eq_ok_iff.mp (Addition.recognise_eq_ok_false_iff.mpr hmissing)
    rw [Network.entries?_answer _ (isPlain_entries S k _), Option.bind_some, seen?_entries S k hA,
      Option.some_inj] at hseen
    exact of_decide_eq_false hseen
  rw [run_addition S k hA, if_neg hheld] at hadd
  exact ⟨"", (Prod.mk.inj hadd).1.symm⟩

/-- What is told of the node and of the device files is the same whenever it is told. -/
theorem confirms_of_happens (he : e.Happens (host S) k k') (hx : x.Happens (host S) l l') :
    e.confirms x = true := by
  cases e with
  | getNode name answer =>
    cases x with
    | getNode name' answer' =>
      cases he
      cases hx
      simp [Exchange.confirms]
    | _ => rcases answer with - | node <;> rfl
  | readDevice path answer =>
    cases x with
    | readDevice path' answer' =>
      have he : S.device path = answer := (Prod.mk.inj he).1
      have hx : S.device path' = answer' := (Prod.mk.inj hx).1
      rcases answer with - | text
      · rfl
      rcases answer' with - | text'
      · rfl
      by_cases hpath : path = path'
      · obtain rfl : text = text' := Option.some.inj (he.symm.trans (hpath ▸ hx))
        simp [Exchange.confirms]
      · simp [Exchange.confirms, hpath]
    | _ => rcases answer with - | text <;> rfl
  | _ => rfl

/-! ### Passes -/

/-- Every request of a pass succeeds if the device file is there. -/
theorem makePass_succeeds (roots : Roots) (memory : Memory) (v : Visit (Kernel plan))
    (hdevice : (S.device (Path.child roots.devices
      (FunctionConfig.path hostFunction))).isSome = true) :
    ∀ e ∈ (makePass (host S) roots plan memory v).after.trace, e.succeeds = true := by
  intro e hmem
  have hleads := makePass_leads (host S) roots plan memory v
  obtain ⟨x, hword⟩ := makePass_follows (host S) roots plan memory v
  obtain ⟨pre, post, htrace⟩ := List.append_of_mem hmem
  rw [htrace] at hleads
  obtain ⟨k, hpre, hrest⟩ := leads_append_iff.mp hleads
  obtain ⟨k', he, -⟩ := leads_cons_iff.mp hrest
  by_cases hadd : ∃ c answer, e = .run c answer ∧ Network.IsAdd c
  · obtain ⟨c, answer, rfl, hadd⟩ := hadd
    obtain ⟨A, pre', text, hA, rfl, rfl, hmissing⟩ :=
      (makePass_looksFirst (host S) roots plan memory v).add pre c answer post htrace hadd
    obtain ⟨k₀, -, hlook⟩ := leads_append_iff.mp hpre
    obtain ⟨k₁, hlook, hnil⟩ := leads_cons_iff.mp hlook
    obtain rfl := leads_nil_iff.mp hnil
    obtain ⟨out, rfl⟩ := exists_ok_of_missingIn S hA hlook he hmissing
    rfl
  · refine succeeds_of_happens S he (fun c answer heq hc ↦ hadd ⟨c, answer, heq, hc⟩) ?_
    rintro path rfl
    obtain ⟨st, hst, hmakes⟩ := hword.makes hmem
    obtain ⟨mac, rfl⟩ := hmakes.of_readDevice
    have hnone : S.device path = none := (Prod.mk.inj he).1
    rw [path_eq_of_readMac_mem_course hst] at hnone
    rw [hnone] at hdevice
    cases hdevice

/-- Exchanges with the same surroundings confirm each other, whatever has happened between them. -/
theorem confirms_of_leads {t t' : List Exchange} {i i' : Kernel plan} (h : Leads (host S) t k k')
    (h' : Leads (host S) t' i i') (he : e ∈ t) (hx : x ∈ t') : e.confirms x = true := by
  obtain ⟨pre, post, rfl⟩ := List.append_of_mem he
  obtain ⟨pre', post', rfl⟩ := List.append_of_mem hx
  obtain ⟨a, -, hrest⟩ := leads_append_iff.mp h
  obtain ⟨b, he, -⟩ := leads_cons_iff.mp hrest
  obtain ⟨a', -, hrest'⟩ := leads_append_iff.mp h'
  obtain ⟨b', hx, -⟩ := leads_cons_iff.mp hrest'
  exact confirms_of_happens S he hx

/-- **A pass is undisturbed** on a host that keeps what it is told, if the device file is there. -/
theorem makePass_undisturbed (roots : Roots) (memory : Memory) (v : Visit (Kernel plan))
    (hdevice : (S.device (Path.child roots.devices
      (FunctionConfig.path hostFunction))).isSome = true)
    {earlier : List Exchange} (hearlier : Leads (host S) earlier l l') :
    ∀ e ∈ (makePass (host S) roots plan memory v).after.trace, e.Undisturbed earlier :=
  fun e he ↦ ⟨makePass_succeeds S roots memory v hdevice e he, fun _ hy ↦
    confirms_of_leads S (makePass_leads (host S) roots plan memory v) hearlier he hy⟩

/-- So a pass is undisturbed behind another one, whatever became of the host between them. -/
theorem undisturbed_of_eq_makePass {roots : Roots} {memory memory' : Memory}
    {v w : Visit (Kernel plan)} {first second : MadePass (Kernel plan)}
    (hfirst : first = makePass (host S) roots plan memory v)
    (hsecond : second = makePass (host S) roots plan memory' w)
    (hdevice : (S.device (Path.child roots.devices
      (FunctionConfig.path hostFunction))).isSome = true) :
    ∀ e ∈ second.after.trace, e.Undisturbed first.after.trace := by
  subst hfirst hsecond
  exact makePass_undisturbed S roots memory' w hdevice (makePass_leads (host S) roots plan memory v)

end Kernel

end DpuNetwork
