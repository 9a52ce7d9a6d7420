import DpuNetwork.Host.Scripted
import DpuNetwork.Proofs.Pass.History

/-!
# The rate limit on applying the bridge definition

In external mode a pass applies the bridge definition, which takes the bridge down for a moment. How
often that happens is limited over all passes of an agent, whatever the clock reads and however the
passes end.

## Main statements

* `Pass.converge_applies`, `Pass.converge_idle`: one pass applies the definition exactly once and
  records its moment, or neither applies nor records anything;
* `throttle_of_history`: what is recorded is the moment of the last application in the history;
* `applications_rateLimited`: the limit over whole histories, and which passes apply.
-/

namespace DpuNetwork

open Ipv4

/-- Whether an exchange applies the bridge definition. The answer does not matter. -/
def Exchange.isApplication : Exchange → Bool
  | .run c _ => c == applyBridgeDefinition
  | _ => false

/-- How often the bridge definition is applied in a trace. -/
def applications (t : List Exchange) : Nat := t.countP Exchange.isApplication

/-- Applications are counted piece by piece. -/
theorem applications_append (t u : List Exchange) :
    applications (t ++ u) = applications t + applications u := List.countP_append

namespace Pass

variable {σ : Type} (H : Host σ) (roots : Roots) (plan : Plan)

/-! ### One pass -/

/-- Nothing was applied and nothing was recorded as applied. -/
def Idle (s s' : Session σ) : Prop :=
  applications s'.trace = applications s.trace ∧ s'.memory.throttle = s.memory.throttle

/-- Idling chains. -/
theorem Idle.chains : Chains (Idle (σ := σ)) where
  refl _ := ⟨rfl, rfl⟩
  trans h h' := ⟨h'.1.trans h.1, h'.2.trans h.2⟩

/-- An exchange that is no application leaves a pass idle. -/
theorem idle_told {s : Session σ} {host : σ} {e : Exchange} (he : e.isApplication = false) :
    Idle s (s.told host e) := by
  refine ⟨?_, rfl⟩
  rw [Session.told_trace, applications_append, applications, applications, List.countP_singleton,
    he]
  simp

/-- Every program but one leaves a pass idle. -/
theorem respects_idle_run {c : Command} (hc : c.program ≠ applyBridgeDefinition.program) :
    Respects Idle (run H c) := by
  intro s
  rw [exec_run]
  have hne : c ≠ applyBridgeDefinition := fun h ↦ hc (congrArg Command.program h)
  exact idle_told (by simpa [Exchange.isApplication] using hne)

theorem respectsNetwork_idle : RespectsNetwork Idle H plan :=
  .of_ip Idle.chains (fun _ ↦ respects_idle_run H (by show "ip" ≠ "netplan"; decide)) plan

theorem respects_idle_replaceFile (path text : String) :
    Respects (σ := σ) Idle (replaceFile path text) := by
  intro s
  rw [exec_replaceFile]
  exact ⟨rfl, rfl⟩

theorem respects_idle_ensureZone : Respects Idle (ensureZone H plan) := by
  refine .ensureZone H Idle.chains plan (fun s ↦ ?_) (fun l s ↦ ?_)
  · rw [exec_getNode]
    exact idle_told rfl
  · rw [exec_applyLabels]
    exact idle_told rfl

/-- What is left of a pass in external mode after the throttled application. -/
def finishExternal (m : ExternalMode) (hostName : String) : Pass σ Unit := do
  let endpoint ← adoptBridge H roots plan m
  ensurePolicyRouting H plan
  identify H endpoint hostName

/-- Behind the definition nothing is applied. -/
theorem respects_idle_finishExternal (m : ExternalMode) (hostName : String) :
    Respects Idle (finishExternal H roots plan m hostName) :=
  (Respects.adoptBridge H (respectsNetwork_idle H plan) respects_idle_replaceFile roots m).bind
    Idle.chains fun _ ↦
  (Respects.ensurePolicyRouting H (respectsNetwork_idle H plan)).bind Idle.chains fun _ ↦
  Respects.identify H Idle.chains
    (fun _ _ ↦ respects_idle_run H (by show "ovs-vsctl" ≠ "netplan"; decide)) _ _

/-- A pass in external mode, cut at the one place where the definition may be applied. -/
theorem converge_external {m : ExternalMode} (hmode : plan.mode = .external m) (now : Nat) :
    converge H roots plan now = (do
      let hostName ← ensureZone H plan
      let _ ← replaceFile (Path.child roots.files bridgeDefinitionPath) bridgeDefinition
      applyThrottled H now
      finishExternal H roots plan m hostName) := by
  simp only [converge, ensureBridge, hmode, ensureExternal_eq, writeBridgeDefinition,
    finishExternal, bind_assoc, pure_bind]

/-- The node bookkeeping and the write of the bridge definition succeed. -/
def Prepares (s : Session σ) : Prop :=
  ∃ hostName s₁ changed s₂, (ensureZone H plan).exec s = (.ok hostName, s₁) ∧
    (replaceFile (Path.child roots.files bridgeDefinitionPath) bridgeDefinition).exec s₁ =
      (.ok changed, s₂)

/-- **A pass that gets as far as a ready throttle** applies the bridge definition exactly once, and
its moment is the one that is remembered, however the pass ends. -/
theorem converge_applies {m : ExternalMode} (hmode : plan.mode = .external m) {now : Nat}
    {s : Session σ} (hs : Prepares H roots plan s) (hready : s.memory.throttle.isReady now = true) :
    applications ((converge H roots plan now).exec s).2.trace = applications s.trace + 1 ∧
      ((converge H roots plan now).exec s).2.memory.throttle = s.memory.throttle.record now := by
  obtain ⟨hostName, s₁, changed, s₂, hzone, hfile⟩ := hs
  have h₁ : Idle s s₁ := by simpa [hzone] using respects_idle_ensureZone H plan s
  have h₁₂ := respects_idle_replaceFile (σ := σ)
    (Path.child roots.files bridgeDefinitionPath) bridgeDefinition s₁
  rw [hfile] at h₁₂
  have h₂ : Idle s s₂ := Idle.chains.trans h₁ h₁₂
  have hready₂ : s₂.memory.throttle.isReady now = true := by rwa [h₂.2]
  -- The moment is recorded and the definition applied; only then can the answer end the pass.
  have h₃ : applications ((applyThrottled H now).exec s₂).2.trace = applications s.trace + 1 ∧
      ((applyThrottled H now).exec s₂).2.memory.throttle = s.memory.throttle.record now := by
    rw [exec_applyThrottled, if_pos hready₂, exec_perform]
    refine ⟨?_, by simp [h₂.2]⟩
    rw [Session.told_trace, applications_append, h₂.1]
    simp [applications, Exchange.isApplication]
  rw [converge_external H roots plan hmode, exec_bind_of_ok hzone, exec_bind_of_ok hfile, exec_bind]
  rcases happly : (applyThrottled H now).exec s₂ with ⟨e | u, s₃⟩
  · simpa [happly] using h₃
  · have h₄ := respects_idle_finishExternal H roots plan m hostName s₃
    rw [happly] at h₃
    exact ⟨h₄.1.trans h₃.1, h₄.2.trans h₃.2⟩

/-- **Any other pass** neither applies the bridge definition nor changes what is remembered. -/
theorem converge_idle {m : ExternalMode} (hmode : plan.mode = .external m) {now : Nat}
    {s : Session σ} (hs : ¬ (Prepares H roots plan s ∧ s.memory.throttle.isReady now = true)) :
    Idle s ((converge H roots plan now).exec s).2 := by
  have h₁ := respects_idle_ensureZone H plan s
  rw [converge_external H roots plan hmode, exec_bind]
  rcases hzone : (ensureZone H plan).exec s with ⟨e | hostName, s₁⟩
  · simpa [hzone] using h₁
  rw [hzone] at h₁
  have h₂ := respects_idle_replaceFile (σ := σ)
    (Path.child roots.files bridgeDefinitionPath) bridgeDefinition s₁
  dsimp only
  rw [exec_bind]
  rcases hfile : (replaceFile (Path.child roots.files bridgeDefinitionPath)
    bridgeDefinition).exec s₁ with ⟨e | changed, s₂⟩
  · rw [hfile] at h₂
    exact Idle.chains.trans h₁ h₂
  rw [hfile] at h₂
  have h₁₂ : Idle s s₂ := Idle.chains.trans h₁ h₂
  have hready : ¬ s₂.memory.throttle.isReady now = true := by
    rw [h₁₂.2]
    exact fun hready ↦ hs ⟨⟨hostName, s₁, changed, s₂, hzone, hfile⟩, hready⟩
  have happly : (applyThrottled H now).exec s₂ = (.ok (), s₂) := by
    rw [exec_applyThrottled, if_neg hready]
  dsimp only
  rw [exec_bind_of_ok happly]
  exact Idle.chains.trans h₁₂ (respects_idle_finishExternal H roots plan m hostName s₂)

end Pass

/-! ### Histories -/

/-- Whether a pass applied the bridge definition. -/
def MadePass.applies {σ : Type} (r : MadePass σ) : Bool := r.after.trace.any Exchange.isApplication

/-- The moment of the last application in a list of passes. -/
def lastApplication {σ : Type} (rs : List (MadePass σ)) : Option Nat :=
  ((rs.filter MadePass.applies).getLast?).map MadePass.now

section

variable {σ : Type}

@[simp] theorem lastApplication_nil : lastApplication ([] : List (MadePass σ)) = none := rfl

/-- The last application of a run is that of its last pass that applies. -/
theorem lastApplication_cons (r : MadePass σ) (rs : List (MadePass σ)) :
    lastApplication (r :: rs) =
      (lastApplication rs).or (if r.applies then some r.now else none) := by
  rw [lastApplication, lastApplication, List.filter_cons]
  split
  · rw [List.getLast?_cons]
    cases (rs.filter MadePass.applies).getLast? <;> rfl
  · simp

/-- Whether a pass applied the definition is told by the count of its applications. -/
theorem applies_iff (r : MadePass σ) : r.applies = true ↔ 0 < applications r.after.trace := by
  simp [MadePass.applies, applications, List.countP_pos_iff]

variable (H : Host σ) (roots : Roots) {plan : Plan} {m : ExternalMode}

/-- Which passes apply, how often, and what they remember of it. -/
theorem makePass_applies_iff (hmode : plan.mode = .external m) (memory : Memory) (v : Visit σ) :
    let r := makePass H roots plan memory v
    (r.applies = true ↔
        Pass.Prepares H roots plan r.before ∧ memory.throttle.isReady v.now = true) ∧
      applications r.after.trace = (if r.applies then 1 else 0) ∧
      r.after.memory.throttle =
        if r.applies then memory.throttle.record v.now else memory.throttle := by
  intro r
  by_cases h : Pass.Prepares H roots plan r.before ∧ memory.throttle.isReady v.now = true
  · have hr := Pass.converge_applies H roots plan hmode h.1 h.2
    have happlies : r.applies = true := by
      rw [applies_iff]
      exact hr.1 ▸ Nat.succ_pos _
    rw [happlies]
    exact ⟨iff_of_true rfl h, hr.1, hr.2⟩
  · have hr := Pass.converge_idle H roots plan hmode h
    have hidle : r.applies = false := by
      rw [Bool.eq_false_iff, Ne, applies_iff]
      exact hr.1 ▸ Nat.lt_irrefl 0
    rw [hidle]
    exact ⟨iff_of_false Bool.false_ne_true h, hr.1, hr.2⟩

/-- What is remembered when a pass begins is the moment of the last application before it. -/
theorem throttle_of_history (hmode : plan.mode = .external m) {memory : Memory}
    {vs : List (Visit σ)} {before after : List (MadePass σ)} {r : MadePass σ}
    (h : history H roots plan memory vs = before ++ r :: after) :
    r.before.memory.throttle =
      { memory.throttle with last := (lastApplication before).or memory.throttle.last } := by
  induction before generalizing memory vs with
  | nil =>
    cases vs with
    | nil => simp at h
    | cons v vs =>
      rw [history_cons, List.nil_append, List.cons.injEq] at h
      rw [← h.1]
      rfl
  | cons q before ih =>
    cases vs with
    | nil => simp at h
    | cons v vs =>
      rw [history_cons, List.cons_append, List.cons.injEq] at h
      obtain ⟨hq, hrest⟩ := h
      have hmemory := (makePass_applies_iff H roots hmode memory v).2.2
      rw [ih hrest, lastApplication_cons, hmemory, hq, ← hq]
      cases (makePass H roots plan memory v).applies
      · simp
      · cases lastApplication before <;> simp [Throttle.record]

/-- A throttle is ready exactly when the cooldown has passed since what it remembers, if anything.
-/
theorem isReady_iff {t : Throttle} (ht : 0 < t.cooldown) (now : Nat) :
    t.isReady now = true ↔ t.last = none ∨ ∃ q, t.last = some q ∧ q + t.cooldown ≤ now := by
  rw [Throttle.isReady]
  rcases t.last with - | q
  · simp
  · -- A clock that reads less than the remembered moment counts as no time, which is no cooldown.
    have hiff : t.cooldown ≤ Throttle.elapsed q now ↔ q + t.cooldown ≤ now := by
      rw [Throttle.elapsed]
      omega
    simp [hiff]

/-- The cooldown never changes. -/
theorem cooldown_makePass (hmode : plan.mode = .external m) (memory : Memory) (v : Visit σ) :
    (makePass H roots plan memory v).after.memory.throttle.cooldown = memory.throttle.cooldown := by
  rw [(makePass_applies_iff H roots hmode memory v).2.2]
  split <;> rfl

/-- A pass that applies is what is remembered next. -/
theorem last_makePass (hmode : plan.mode = .external m) {memory : Memory} {v : Visit σ}
    (h : (makePass H roots plan memory v).applies = true) :
    (makePass H roots plan memory v).after.memory.throttle.last = some v.now := by
  rw [(makePass_applies_iff H roots hmode memory v).2.2, if_pos h]
  rfl

/-- Once an application is remembered, the passes that follow keep the cooldown from it. -/
theorem cooldown_le_of_history (hmode : plan.mode = .external m) {memory : Memory}
    (hc : 0 < memory.throttle.cooldown) {q : Nat} (hq : memory.throttle.last = some q)
    {vs : List (Visit σ)} {r : MadePass σ} (hr : r ∈ history H roots plan memory vs)
    (happlies : r.applies = true) : q + memory.throttle.cooldown ≤ r.now := by
  induction vs generalizing memory q with
  | nil => simp at hr
  | cons v vs ih =>
    obtain ⟨hiff, -, hthrottle⟩ := makePass_applies_iff H roots hmode memory v
    have hcooldown := cooldown_makePass H roots hmode memory v
    -- If this pass applies, then not before the cooldown is over; it is what is remembered next.
    have hready : (makePass H roots plan memory v).applies = true →
        q + memory.throttle.cooldown ≤ v.now := by
      intro h
      have := (isReady_iff hc v.now).mp (hiff.mp h).2
      simpa [hq] using this
    rw [history_cons, List.mem_cons] at hr
    rcases hr with rfl | hr
    · exact hready happlies
    · by_cases h : (makePass H roots plan memory v).applies = true
      · have hnext := ih (by rwa [hcooldown]) (last_makePass H roots hmode h) hr
        have hnow := hready h
        omega
      · rw [if_neg h] at hthrottle
        have hnext := ih (by rwa [hcooldown]) (by rwa [hthrottle]) hr
        rwa [hcooldown] at hnext

/-- Two passes that apply keep the cooldown between them, whatever the clock reads in between. -/
theorem pairwise_history (hmode : plan.mode = .external m) {memory : Memory}
    (hc : 0 < memory.throttle.cooldown) (vs : List (Visit σ)) :
    (history H roots plan memory vs).Pairwise fun r r' ↦
      r.applies = true → r'.applies = true → r.now + memory.throttle.cooldown ≤ r'.now := by
  induction vs generalizing memory with
  | nil => simp
  | cons v vs ih =>
    have hcooldown := cooldown_makePass H roots hmode memory v
    rw [history_cons, List.pairwise_cons]
    constructor
    · intro r' hr' h h'
      have := cooldown_le_of_history H roots hmode (by rwa [hcooldown])
        (last_makePass H roots hmode h) hr' h'
      rwa [hcooldown] at this
    · have := @ih (makePass H roots plan memory v).after.memory (by rwa [hcooldown])
      rwa [hcooldown] at this

/-- Moments in an interval that keep a distance from each other are few. -/
theorem length_mul_le_of_pairwise {c b : Nat} {l : List Nat} (h : l.Pairwise (· + c ≤ ·))
    {a : Nat} (hl : ∀ x ∈ l, a ≤ x ∧ x ≤ b) : l.length * c ≤ b - a + c := by
  induction l generalizing a with
  | nil => simp
  | cons x l ih =>
    rw [List.pairwise_cons] at h
    obtain ⟨hx, hb⟩ := hl x List.mem_cons_self
    rcases l with - | ⟨y, l⟩
    · simp
    · have hrest := ih h.2 (a := x + c) fun z hz ↦ ⟨h.1 z hz, (hl z (List.mem_cons_of_mem _ hz)).2⟩
      have hy := h.1 y List.mem_cons_self
      have hyb := (hl y (by simp)).2
      rw [List.length_cons, Nat.succ_mul]
      omega

/-- All applications of a history are counted by the passes that apply. -/
theorem applications_history (hmode : plan.mode = .external m) (memory : Memory)
    (vs : List (Visit σ)) :
    applications ((history H roots plan memory vs).flatMap fun r ↦ r.after.trace) =
      ((history H roots plan memory vs).filter MadePass.applies).length := by
  induction vs generalizing memory with
  | nil => rfl
  | cons v vs ih =>
    have hcount := (makePass_applies_iff H roots hmode memory v).2.1
    rw [history_cons, List.flatMap_cons, applications_append, hcount, ih, List.filter_cons]
    split
    · rw [List.length_cons, Nat.add_comm]
    · rw [Nat.zero_add]

/-- **The rate limit.** In a history of an agent in external mode, with clocks, hosts and files that
are arbitrary in each pass:

* two passes that apply the bridge definition keep the cooldown between them;
* hence there are few applications while the clock reads within an interval;
* a pass that gets as far as the throttle applies exactly when no pass before it has, or the
  cooldown is over since the last one that has;
* any other pass neither applies nor changes what is remembered. -/
theorem applications_rateLimited (hmode : plan.mode = .external m) (hc : 0 < plan.cooldown)
    (vs : List (Visit σ)) :
    let run := history H roots plan plan.memory vs
    (run.Pairwise fun r r' ↦
      r.applies = true → r'.applies = true → r.now + plan.cooldown ≤ r'.now) ∧
    (∀ a b, (∀ r ∈ run, a ≤ r.now ∧ r.now ≤ b) →
      applications (run.flatMap fun r ↦ r.after.trace) ≤ (b - a) / plan.cooldown + 1) ∧
    ∀ (before : List (MadePass σ)) (r : MadePass σ) (after : List (MadePass σ)),
      run = before ++ r :: after →
      (Pass.Prepares H roots plan r.before →
        (r.applies = true ↔ lastApplication before = none ∨
          ∃ q, lastApplication before = some q ∧ q + plan.cooldown ≤ r.now)) ∧
      (¬ Pass.Prepares H roots plan r.before →
        r.applies = false ∧ r.after.memory.throttle = r.before.memory.throttle) := by
  intro run
  have hcooldown : 0 < plan.memory.throttle.cooldown := hc
  have hpairwise : run.Pairwise fun r r' ↦
      r.applies = true → r'.applies = true → r.now + plan.cooldown ≤ r'.now :=
    pairwise_history H roots hmode hcooldown vs
  refine ⟨hpairwise, fun a b hab ↦ ?_, fun before r after h ↦ ?_⟩
  · -- Moments that lie a cooldown apart are few in an interval.
    have hmoments : ((run.filter MadePass.applies).map MadePass.now).Pairwise
        (· + plan.cooldown ≤ ·) := by
      rw [List.pairwise_map, List.pairwise_filter]
      exact hpairwise.imp fun h hr hr' ↦ h hr hr'
    have hwithin : ∀ x ∈ (run.filter MadePass.applies).map MadePass.now, a ≤ x ∧ x ≤ b := by
      intro x hx
      obtain ⟨r, hr, rfl⟩ := List.mem_map.mp hx
      exact hab r (List.mem_filter.mp hr).1
    have hfew := length_mul_le_of_pairwise hmoments hwithin
    rw [List.length_map] at hfew
    rw [applications_history H roots hmode, ← Nat.add_div_right _ hc, Nat.le_div_iff_mul_le hc]
    exact hfew
  · have hr : r ∈ run := h ▸ List.mem_append_right _ List.mem_cons_self
    obtain ⟨memory, v, rfl⟩ := exists_eq_makePass_of_mem_history H roots plan hr
    obtain ⟨hiff, -, hthrottle⟩ := makePass_applies_iff H roots hmode memory v
    -- The throttle remembers the last application of the passes before, and nothing else.
    have hlast : memory.throttle =
        { plan.memory.throttle with last := lastApplication before } := by
      have := throttle_of_history H roots hmode h
      simpa [Plan.memory] using this
    constructor
    · intro hprepares
      rw [hiff, and_iff_right hprepares, isReady_iff (by rw [hlast]; exact hc), hlast]
      rfl
    · intro hprepares
      have hidle : (makePass H roots plan memory v).applies = false := by
        rw [Bool.eq_false_iff, Ne, hiff]
        exact fun h ↦ hprepares h.1
      rw [hidle] at hthrottle
      exact ⟨hidle, hthrottle⟩

end

/-- A plan in external mode with a cooldown of two minutes. -/
def twoMinutePlan : Plan where
  mode := .external ⟨Cidr.defaultRoute⟩
  endpoints := Cidr.defaultRoute
  hosts := Cidr.defaultRoute
  nodeName := "dpu"
  mtu := 1500
  cooldown := 120000

/-- A visit to a host whose node has its label and on which an application ends in some way. -/
def twoMinuteVisit (now : Nat) (application : Reply) : Visit Script where
  now
  host := {
    nodes := ⟨[("dpu", some (.ofList [(Node.hostNameLabel, "worker")]))]⟩
    commands := ⟨[(applyBridgeDefinition.text, [application])]⟩ }
  files := {}

/-- The first application fails, and the pass a minute later still keeps the cooldown from it. -/
theorem applications_rateLimited_twoMinutes :
    let run := history scriptedHost {} twoMinutePlan twoMinutePlan.memory
      [twoMinuteVisit 0 (.failure "exit status: 1" "busy"), twoMinuteVisit 60000 (.output ""),
        twoMinuteVisit 120000 (.output "")]
    twoMinutePlan.mode = .external ⟨Cidr.defaultRoute⟩ ∧ 0 < twoMinutePlan.cooldown ∧
      run.map MadePass.applies = [true, false, true] ∧
      applications (run.flatMap fun r ↦ r.after.trace) ≤
        (120000 - 0) / twoMinutePlan.cooldown + 1 := by
  intro run
  have hmode : twoMinutePlan.mode = .external ⟨Cidr.defaultRoute⟩ := rfl
  refine ⟨hmode, by decide, by decide +kernel, ?_⟩
  have hlimit := applications_rateLimited scriptedHost {} hmode (by decide)
    [twoMinuteVisit 0 (.failure "exit status: 1" "busy"), twoMinuteVisit 60000 (.output ""),
      twoMinuteVisit 120000 (.output "")]
  exact hlimit.2.1 0 120000 (by decide +kernel)

end DpuNetwork
