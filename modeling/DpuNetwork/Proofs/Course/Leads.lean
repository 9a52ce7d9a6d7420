import DpuNetwork.Proofs.Course.Follows

/-!
# The host along a trace

A trace leads a host from one state to another when each of its requests, made where the ones before
it have led, gets the recorded answer (`Leads`). Every pass leads its host along its trace
(`makePass_leads`), so a law about single requests of a host gives one about whole passes, stage by
stage (`leads_append_iff`).
-/

namespace DpuNetwork

variable {σ : Type} (H : Host σ)

/-- An exchange happens on a host: the request gets that answer and leads to that state. -/
def Exchange.Happens : Exchange → σ → σ → Prop
  | run c answer, k, k' => H.run c k = (answer, k')
  | start c answer, k, k' => H.start c k = (answer, k')
  | childState answer, k, k' => H.childState k = (answer, k')
  | getNode name answer, k, k' => H.getNode name k = (answer, k')
  | applyLabels name labels answer, k, k' => H.applyLabels name labels k = (answer, k')
  | readDevice path answer, k, k' => H.readDevice path k = (answer, k')

/-- Some exchanges happen on a host one after the other and lead from one state to another. -/
inductive Leads : List Exchange → σ → σ → Prop
  /-- Without exchanges the state stays. -/
  | nil (k : σ) : Leads [] k k
  /-- An exchange leads to where the others begin. -/
  | cons {e : Exchange} {t : List Exchange} {k k₁ k' : σ} (h : e.Happens H k k₁)
      (ht : Leads t k₁ k') : Leads (e :: t) k k'

variable {H} {e : Exchange} {t u : List Exchange} {k k' : σ}

@[simp] theorem leads_nil_iff : Leads H [] k k' ↔ k' = k := by
  constructor
  · rintro ⟨⟩
    rfl
  · rintro rfl
    exact .nil _

/-- A trace leads from one host to another exchange by exchange. -/
theorem leads_cons_iff : Leads H (e :: t) k k' ↔ ∃ k₁, e.Happens H k k₁ ∧ Leads H t k₁ k' := by
  constructor
  · rintro (_ | ⟨h, ht⟩)
    exact ⟨_, h, ht⟩
  · rintro ⟨k₁, h, ht⟩
    exact .cons h ht

/-- It can be cut anywhere. -/
theorem leads_append_iff : Leads H (t ++ u) k k' ↔ ∃ k₁, Leads H t k k₁ ∧ Leads H u k₁ k' := by
  constructor
  · intro h
    induction t generalizing k with
    | nil => exact ⟨k, .nil k, h⟩
    | cons e t ih =>
      obtain ⟨k₁, he, ht⟩ := leads_cons_iff.mp h
      obtain ⟨k₂, ht, hu⟩ := ih ht
      exact ⟨k₂, .cons he ht, hu⟩
  · rintro ⟨k₁, ht, hu⟩
    induction ht with
    | nil k => exact hu
    | cons he _ ih => exact .cons he (ih hu)

/-- An exchange determines the host that it leaves. -/
theorem Exchange.Happens.unique {k₁ k₂ : σ} (h₁ : e.Happens H k k₁) (h₂ : e.Happens H k k₂) :
    k₁ = k₂ := by
  cases e <;> exact (Prod.mk.inj (h₁.symm.trans h₂)).2

/-- Exchanges lead from one state to no more than one other. -/
theorem Leads.unique {k₁ k₂ : σ} (h₁ : Leads H t k k₁) (h₂ : Leads H t k k₂) : k₁ = k₂ := by
  induction h₁ with
  | nil k => exact (leads_nil_iff.mp h₂).symm
  | cons he _ ih =>
    obtain ⟨k', he', ht⟩ := leads_cons_iff.mp h₂
    obtain rfl := he.unique he'
    exact ih ht

/-- From one session to another, the host was led along what was added to the trace. -/
def Evolves (H : Host σ) (s s' : Session σ) : Prop :=
  ∃ t, s'.trace = s.trace ++ t ∧ Leads H t s.host s'.host

namespace Pass

/-! ### Passes -/

section

variable {R : Session σ → Session σ → Prop} (H)

/-- A relation that chains and holds along all requests, along files and along memory holds along a
whole pass. -/
theorem Respects.converge (hR : Chains R) (hrun : ∀ c, Respects R (run H c))
    (hstart : ∀ c, Respects R (start H c)) (hchild : Respects R (childState H))
    (hget : ∀ name, Respects R (getNode H name))
    (happly : ∀ name labels, Respects R (applyLabels H name labels))
    (hdevice : ∀ path, Respects R (readDevice H path))
    (hfile : ∀ path text, Respects R (replaceFile path text))
    (hremember : ∀ f, Respects R (remember f)) (roots : Roots) (plan : Plan) (now : Nat) :
    Respects R (converge H roots plan now) := by
  have hnetwork : RespectsNetwork R H plan := .of_ip hR (fun _ ↦ hrun _) plan
  have hthrottled : Respects R (applyThrottled H now) := by
    refine (Respects.remembered hR).bind hR fun memory ↦ ?_
    split
    · exact (hremember _).bind hR fun _ ↦ .perform H hR (hrun _)
    · exact .pure hR _
  have hbridge : Respects R (ensureBridge H roots plan now) := by
    rw [ensureBridge]
    split
    · next m hmode =>
      exact .ensureInternal H hnetwork hdevice hchild hstart (hremember _) hfile roots hmode
    · rw [ensureExternal_eq]
      exact ((hfile _ _).bind hR fun _ ↦ .pure hR _).bind hR fun _ ↦ hthrottled.bind hR fun _ ↦
        .adoptBridge H hnetwork hfile roots _
  exact (Respects.ensureZone H hR plan (hget _) (happly _)).bind hR fun _ ↦ hbridge.bind hR fun _ ↦
    (Respects.ensurePolicyRouting H hnetwork).bind hR fun _ ↦
    .identify H hR (fun _ _ ↦ hrun _) _ _

end

/-- Evolving chains. -/
theorem chains_evolves : Chains (Evolves H) where
  refl s := ⟨[], (List.append_nil _).symm, .nil _⟩
  trans := by
    rintro s₁ s₂ s₃ ⟨t, ht, hlead⟩ ⟨u, hu, hlead'⟩
    exact ⟨t ++ u, by rw [hu, ht, List.append_assoc], leads_append_iff.mpr ⟨_, hlead, hlead'⟩⟩

/-- One exchange that happens is one step. -/
theorem Evolves.told {s : Session σ} {host : σ} (h : e.Happens H s.host host) :
    Evolves H s (s.told host e) := ⟨[e], rfl, .cons h (.nil _)⟩

/-- A pass leads its host along its trace. -/
theorem evolves_converge (roots : Roots) (plan : Plan) (now : Nat) :
    Respects (Evolves H) (converge H roots plan now) := by
  refine .converge H chains_evolves (fun c s ↦ ?_) (fun c s ↦ ?_) (fun s ↦ ?_) (fun name s ↦ ?_)
    (fun name labels s ↦ ?_) (fun path s ↦ ?_) (fun path text s ↦ ?_) (fun f s ↦ ?_) roots plan now
  · rw [exec_run]
    exact Evolves.told rfl
  · rw [exec_start]
    exact Evolves.told rfl
  · rw [exec_childState]
    exact Evolves.told rfl
  · rw [exec_getNode]
    exact Evolves.told rfl
  · rw [exec_applyLabels]
    exact Evolves.told rfl
  · rw [exec_readDevice]
    exact Evolves.told rfl
  · rw [exec_replaceFile]
    exact ⟨[], (List.append_nil _).symm, .nil _⟩
  · exact ⟨[], (List.append_nil _).symm, .nil _⟩

end Pass

/-- **A pass leads its host along its trace.** -/
theorem makePass_leads (H : Host σ) (roots : Roots) (plan : Plan) (memory : Memory) (v : Visit σ) :
    Leads H (makePass H roots plan memory v).after.trace v.host
      (makePass H roots plan memory v).after.host := by
  obtain ⟨t, ht, hlead⟩ := Pass.evolves_converge (H := H) roots plan v.now
    { host := v.host, files := v.files, memory }
  rw [makePass_after, ht]
  exact hlead

end DpuNetwork
