import DpuNetwork.Proofs.Agreement
import DpuNetwork.Proofs.Course.Severity
import DpuNetwork.Proofs.Kernel.Host

/-!
# The life of the DHCP server

An agent starts the DHCP server at most once. Until a start succeeds, every pass that gets as far as
the server tries again. From then on no pass tries, and every pass that gets as far asks once
whether the server runs and ends there if it does not.

What carries this from pass to pass is one bit of memory. It counts the successful starts of all
passes so far (`startsOf_history`), so it is set exactly when one has succeeded.

## Main statements

* `Follows.starts`: one pass keeps the count;
* `makePass_looksAfter`, `makePass_begins`: what a pass does about the server;
* `history_server`: the life of the server over all passes of an agent.
-/

namespace DpuNetwork

open Ipv4 Pass

namespace Exchange

/-- Whether the exchange has started a program in the background. -/
def hasStarted : Exchange → Bool
  | .start _ true => true
  | _ => false

/-- Whether the exchange tried to start a program in the background. -/
def triesStart : Exchange → Bool
  | .start _ _ => true
  | _ => false

/-- Whether the exchange asked for the state of the program in the background. -/
def asksChild : Exchange → Bool
  | .childState _ => true
  | _ => false

end Exchange

/-- How many programs in the background were started. -/
def startsOf (t : List Exchange) : Nat := t.countP Exchange.hasStarted

theorem startsOf_append (t u : List Exchange) : startsOf (t ++ u) = startsOf t + startsOf u :=
  List.countP_append

variable {plan : Plan} {roots : Roots} {l l₁ l' : Store} {t : List Exchange}
  {r : Except Failure Unit} {st : Stage} {w : List Stage} {x : Findings} {now : Nat}
  {m : InternalMode} {mac : Mac}

/-! ### Stages apart from the server -/

/-- The stages that concern the server. -/
def Stage.IsServer : Stage → Prop
  | readMac _ _ | serve _ _ => True
  | _ => False

theorem Stage.Makes.not_triesStart (hst : ¬ st.IsServer) {e : Exchange} (h : st.Makes plan e) :
    e.triesStart = false ∧ e.asksChild = false := by
  cases e with
  | start c started =>
    obtain ⟨m, mac, rfl⟩ := h.of_start
    exact absurd trivial hst
  | childState answer =>
    obtain ⟨m, mac, rfl⟩ := h.of_childState
    exact absurd trivial hst
  | _ => exact ⟨rfl, rfl⟩

/-- Stages apart from the server neither start it nor ask for it. -/
theorem Follows.not_triesStart (hw : ∀ st ∈ w, ¬ st.IsServer) (h : Follows plan w l t r l') :
    ∀ e ∈ t, e.triesStart = false ∧ e.asksChild = false := by
  intro e he
  obtain ⟨st, hst, hmakes⟩ := h.makes he
  exact hmakes.not_triesStart (hw st hst)

/-- A stage apart from the server remembers nothing of it. -/
theorem Stage.Takes.dhcpStarted_eq (hst : ¬ st.IsServer) (h : st.Takes plan l t r l') :
    l'.memory.dhcpStarted = l.memory.dhcpStarted := by
  cases st with
  | applyThrottled now =>
    by_cases hready : l.memory.throttle.isReady now = true
    · rw [((takes_applyThrottled_of_ready hready).mp h).2]
    · rw [((takes_applyThrottled_of_not_ready hready).mp h).2.2]
  | serve m mac => exact absurd trivial hst
  | readMac path mac => exact absurd trivial hst
  | write path text => rw [h.2.2]
  | _ => rw [h.2]

theorem Follows.dhcpStarted_eq (hw : ∀ st ∈ w, ¬ st.IsServer) (h : Follows plan w l t r l') :
    l'.memory.dhcpStarted = l.memory.dhcpStarted := by
  induction h with
  | done l => rfl
  | step h _ ih =>
    rw [ih fun st hst ↦ hw st (List.mem_cons_of_mem _ hst),
      h.dhcpStarted_eq (hw _ List.mem_cons_self)]
  | stop h => exact h.dhcpStarted_eq (hw _ List.mem_cons_self)

/-! ### The count of starts -/

/-- A stage remembers the start that has succeeded in it. -/
theorem Stage.Takes.starts (h : st.Takes plan l t r l') :
    startsOf t + l.memory.dhcpStarted.toNat = l'.memory.dhcpStarted.toNat := by
  have hnone (ht : ∀ e ∈ t, e.hasStarted = false) : startsOf t = 0 :=
    List.countP_eq_zero.mpr fun e he ↦ by simp [ht e he]
  by_cases hserver : st.IsServer
  · cases st with
    | readMac path mac =>
      obtain ⟨⟨answer, rfl, -⟩, rfl⟩ := h
      simp [startsOf, Exchange.hasStarted]
    | serve m mac =>
      by_cases hstarted : l.memory.dhcpStarted = true
      · obtain ⟨⟨answer, rfl, -⟩, rfl⟩ := (takes_serve_of_started hstarted).mp h
        simp [startsOf, Exchange.hasStarted]
      · rw [takes_serve_of_not_started hstarted] at h
        split at h
        · obtain ⟨rfl, -, rfl⟩ := h
          simp [startsOf]
        · obtain ⟨started, rfl, -, rfl⟩ := h
          cases started <;> simp [startsOf, Exchange.hasStarted, hstarted]
    | _ => exact hserver.elim
  · rw [h.dhcpStarted_eq hserver, hnone fun e he ↦ ?_, Nat.zero_add]
    have hmakes := (h.makes he).not_triesStart hserver
    cases e with
    | start c started => cases hmakes.1
    | _ => rfl

/-- **A pass remembers the start that has succeeded in it.** -/
theorem Follows.starts (h : Follows plan w l t r l') :
    startsOf t + l.memory.dhcpStarted.toNat = l'.memory.dhcpStarted.toNat := by
  induction h with
  | done l => simp [startsOf]
  | step h _ ih =>
    have hstage := h.starts
    rw [startsOf_append]
    omega
  | stop h => exact h.starts

/-! ### The way to the server and beyond -/

/-- The stages before the server in internal mode. -/
def Plan.toServer (plan : Plan) (m : InternalMode) (x : Findings) : List Stage :=
  [Stage.readNode x.hostName, Stage.applyZone x.hostName] ++ m.approach plan

/-- The stages behind the server in internal mode. -/
def Plan.fromServer (plan : Plan) (roots : Roots) (m : InternalMode) (x : Findings) : List Stage :=
  .write (Path.child roots.files gatewayOptionsPath)
    (GatewayOptions.text ⟨m.gateway, m.endpoint.network⟩) ::
  plan.routingCourse x.pods x.outOfBand x.defaultGateway ++
  Plan.identityCourse m.endpoint.address x.hostName

theorem course_of_internal (hmode : plan.mode = .internal m) : plan.course roots now x =
    plan.toServer m x ++
      .readMac (Path.child roots.devices (FunctionConfig.path hostFunction)) x.mac ::
      .serve m x.mac :: plan.fromServer roots m x := by
  simp [Plan.course, Plan.bridgeCourse, Plan.endpoint, hmode, InternalMode.course, Plan.toServer,
    Plan.fromServer]

/-- The stages that leave the store as it is. -/
def Stage.KeepsStore : Stage → Prop
  | applyThrottled _ | serve _ _ | write _ _ => False
  | _ => True

theorem Stage.Takes.store_eq (hst : st.KeepsStore) (h : st.Takes plan l t r l') : l' = l := by
  cases st with
  | applyThrottled now => exact hst.elim
  | serve m mac => exact hst.elim
  | write path text => exact hst.elim
  | _ => exact h.2

theorem Follows.store_eq (hw : ∀ st ∈ w, st.KeepsStore) (h : Follows plan w l t r l') : l' = l := by
  induction h with
  | done l => rfl
  | step h _ ih =>
    rw [ih fun st hst ↦ hw st (List.mem_cons_of_mem _ hst), h.store_eq (hw _ List.mem_cons_self)]
  | stop h => exact h.store_eq (hw _ List.mem_cons_self)

theorem keepsStore_of_mem_toServer (h : st ∈ plan.toServer m x) :
    st.KeepsStore ∧ ¬ st.IsServer := by
  simp only [Plan.toServer, InternalMode.approach, List.mem_append, List.mem_cons,
    List.not_mem_nil, or_false] at h
  rcases h with (rfl | rfl) | ((rfl | rfl) | h) | rfl
  · exact ⟨trivial, id⟩
  · exact ⟨trivial, id⟩
  · exact ⟨trivial, id⟩
  · exact ⟨trivial, id⟩
  · split at h
    · obtain rfl := List.mem_singleton.mp h
      exact ⟨trivial, id⟩
    · simp at h
  · exact ⟨trivial, id⟩

theorem not_isServer_of_mem_fromServer (h : st ∈ plan.fromServer roots m x) : ¬ st.IsServer := by
  simp only [Plan.fromServer, Plan.routingCourse, Plan.identityCourse, List.mem_append,
    List.mem_cons, List.not_mem_nil, or_false] at h
  rcases h with (rfl | rfl | rfl | rfl | rfl | rfl | rfl) | rfl | rfl | rfl <;> exact id

/-- A pass gets as far as the server when it reads an address from the device file. -/
def Reaches (t : List Exchange) : Prop :=
  ∃ path text mac, .readDevice path (some text) ∈ t ∧ FunctionConfig.mac text = .ok mac

/-- The part of a pass that concerns the server: nothing before it and behind it does, and it
begins with the store that the pass began with. -/
structure AtServer (roots : Roots) (plan : Plan) (m : InternalMode) (x : Findings) (l : Store)
    (t : List Exchange) (r : Except Failure Unit) (l' : Store) (p v u : List Exchange)
    (r₁ : Except Failure Unit) (l₁ : Store) : Prop where
  /-- It has exchanges before it and behind it. -/
  trace : t = p ++ v ++ u
  /-- Nothing before it starts the server or asks for it. -/
  before : ∀ e ∈ p, e.triesStart = false ∧ e.asksChild = false
  /-- Nothing behind it does. -/
  after : ∀ e ∈ u, e.triesStart = false ∧ e.asksChild = false
  /-- The server is made sure of. -/
  serves : (Stage.serve m x.mac).Takes plan l v r₁ l₁
  /-- The rest of the pass comes behind it. -/
  continues : Continues plan (plan.fromServer roots m x) r₁ l₁ u r l'

/-- What comes behind the server in a pass neither starts it nor asks for it. -/
theorem Continues.not_triesStart {r₁ : Except Failure Unit} {u : List Exchange}
    (h : Continues plan (plan.fromServer roots m x) r₁ l₁ u r l') :
    ∀ e ∈ u, e.triesStart = false ∧ e.asksChild = false := by
  rcases r₁ with f | ⟨⟩
  · obtain ⟨rfl, -, -⟩ := h
    simp
  · exact Follows.not_triesStart (fun st ↦ not_isServer_of_mem_fromServer) h

/-- **A pass gets as far as the server**, or it fails before, having read no address from the device
file. -/
theorem Follows.server_cases (hmode : plan.mode = .internal m)
    (h : Follows plan (plan.course roots now x) l t r l') :
    (∃ p v u r₁ l₁, AtServer roots plan m x l t r l' p v u r₁ l₁) ∨
      (∃ f, r = .error f) ∧ ¬ Reaches t ∧ ∀ e ∈ t, e.triesStart = false ∧ e.asksChild = false := by
  rw [course_of_internal hmode, Follows.append_iff] at h
  obtain ⟨p, r₀, l₀, t₀, rfl, hbefore, hrest⟩ := h
  have hp := hbefore.not_triesStart fun st hst ↦ (keepsStore_of_mem_toServer hst).2
  have hread {path : String} {answer : Option String} : .readDevice path answer ∉ p := fun hmem ↦ by
    obtain ⟨st, hst, hmakes⟩ := hbefore.makes hmem
    obtain ⟨mac, rfl⟩ := hmakes.of_readDevice
    exact (keepsStore_of_mem_toServer hst).2 trivial
  obtain rfl := hbefore.store_eq fun st hst ↦ (keepsStore_of_mem_toServer hst).1
  rcases r₀ with f | ⟨⟩
  · -- It fails before the device file is read.
    obtain ⟨rfl, rfl, -⟩ := hrest
    rw [List.append_nil]
    exact .inr ⟨⟨f, rfl⟩, fun ⟨_, _, _, hmem, _⟩ ↦ hread hmem, hp⟩
  obtain ⟨_, r₁, l₁, t₁, rfl, ⟨⟨answer, rfl, hmac⟩, rfl⟩, hrest⟩ := follows_cons_iff.mp hrest
  have hp' : ∀ e ∈ p ++ [.readDevice (Path.child roots.devices (FunctionConfig.path hostFunction))
      answer], e.triesStart = false ∧ e.asksChild = false := by
    intro e he
    rcases List.mem_append.mp he with he | he
    · exact hp e he
    · rw [List.mem_singleton.mp he]
      exact ⟨rfl, rfl⟩
  rcases r₁ with f | ⟨⟩
  · -- It fails on what it reads.
    obtain ⟨rfl, rfl, -⟩ := hrest
    rw [List.append_nil]
    refine .inr ⟨⟨f, rfl⟩, ?_, hp'⟩
    rintro ⟨path, text, mac, hmem, hok⟩
    rcases List.mem_append.mp hmem with hmem | hmem
    · exact hread hmem
    · obtain ⟨-, rfl⟩ := Exchange.readDevice.inj (List.mem_singleton.mp hmem)
      have hjudged : FunctionConfig.mac text = .error f := hmac
      rw [hok] at hjudged
      cases hjudged
  · obtain ⟨v, r₂, l₂, u, rfl, hserves, hrest⟩ := follows_cons_iff.mp hrest
    exact .inl ⟨_, v, u, r₂, l₂, by simp, hp', hrest.not_triesStart, hserves, hrest⟩

/-! ### One pass -/

section

variable {σ : Type}

/-- What a pass does about a server that was started before. -/
structure LooksAfter (p : MadePass σ) : Prop where
  /-- It starts none. -/
  start : ∀ c started, .start c started ∉ p.after.trace
  /-- If it gets as far as the server, it asks for it once. Unless the server runs, it ends there:
  nothing more is asked for or written, and the result tells how the server has ended, or why that
  is not known. -/
  ask : Reaches p.after.trace → ∃ pre answer post,
    p.after.trace = pre ++ .childState answer :: post ∧
    (∀ e ∈ pre ++ post, e.asksChild = false) ∧
    (answer = .ok .running ∨ post = [] ∧ p.after.files = p.before.files ∧
      ((∃ status, answer = .ok (.exited status) ∧ p.result = .error (.dhcpServerExited status)) ∨
        ∃ fault, answer = .error fault ∧
          p.result = .error (.command fault.command fault.status fault.detail)))
  /-- It only succeeds if the server runs. -/
  ok : p.result = .ok () → .childState (.ok .running) ∈ p.after.trace

/-- What a pass does as long as no server was started. -/
structure Begins (plan : Plan) (p : MadePass σ) : Prop where
  /-- It asks for none. -/
  ask : ∀ answer, .childState answer ∉ p.after.trace
  /-- If it gets as far as the server, it tries once to start it, and remembers whether it has. If
  it has not, it ends there: nothing more is asked for or written. -/
  start : Reaches p.after.trace → plan.mtu ≤ maxOverlayMtu → ∃ pre args started post,
    p.after.trace = pre ++ .start ⟨"dnsmasq", args⟩ started :: post ∧
    (∀ e ∈ pre ++ post, e.triesStart = false) ∧ p.after.memory.dhcpStarted = started ∧
    (started = false → post = [] ∧ p.after.files = p.before.files ∧
      p.result = .error (.spawn (Command.text ⟨"dnsmasq", args⟩)))
  /-- It cannot try if the MTU is too large for the server. -/
  unfit : Reaches p.after.trace → maxOverlayMtu < plan.mtu →
    (∀ c started, .start c started ∉ p.after.trace) ∧
      p.result = .error (.config (.mtuTooLarge plan.mtu))

variable (H : Host σ) (roots : Roots) {memory : Memory} {v : Visit σ}

/-- A pass of a plan in external mode has nothing to do with the server. -/
theorem not_triesStart_of_external {m : ExternalMode} (hmode : plan.mode = .external m)
    (h : Follows plan (plan.course roots now x) l t r l') :
    ¬ Reaches t ∧ ∀ e ∈ t, e.triesStart = false ∧ e.asksChild = false := by
  have hnot {st : Stage} (hst : st ∈ plan.course roots now x) : ¬ st.IsServer := by
    intro hserver
    have hoccur := mayOccur_of_mem_course hst
    cases st with
    | readMac path mac =>
      obtain ⟨m', hmode'⟩ := hoccur
      rw [hmode] at hmode'
      cases hmode'
    | serve m' mac =>
      have hmode' : plan.mode = .internal m' := hoccur
      rw [hmode] at hmode'
      cases hmode'
    | _ => exact hserver
  refine ⟨?_, h.not_triesStart fun st ↦ hnot⟩
  rintro ⟨path, text, mac, hmem, -⟩
  obtain ⟨st, hst, hmakes⟩ := h.makes hmem
  obtain ⟨mac, rfl⟩ := hmakes.of_readDevice
  exact hnot hst trivial

/-- What concerns the server in a trace. -/
theorem not_mem_of_not_triesStart (h : ∀ e ∈ t, e.triesStart = false ∧ e.asksChild = false) :
    (∀ c started, .start c started ∉ t) ∧ ∀ answer, .childState answer ∉ t :=
  ⟨fun _ _ hmem ↦ Bool.noConfusion (h _ hmem).1, fun _ hmem ↦ Bool.noConfusion (h _ hmem).2⟩

/-- **A server that was started is looked after.** -/
theorem makePass_looksAfter (hmode : plan.mode = .internal m)
    (hstarted : memory.dhcpStarted = true) : LooksAfter (makePass H roots plan memory v) := by
  obtain ⟨x, hw⟩ := makePass_follows H roots plan memory v
  rcases hw.server_cases hmode with ⟨p, q, u, r₁, l₁, h⟩ | ⟨⟨f, hresult⟩, hreach, hnone⟩
  · obtain ⟨⟨answer, rfl, hjudge⟩, rfl⟩ :=
      (Stage.takes_serve_of_started hstarted).mp h.serves
    have hstart (c : Command) (started : Bool) :
        .start c started ∉ (makePass H roots plan memory v).after.trace := by
      rw [h.trace]
      simp [(not_mem_of_not_triesStart h.before).1, (not_mem_of_not_triesStart h.after).1]
    have hcontinues := h.continues
    refine ⟨hstart, fun _ ↦ ⟨p, answer, u, by rw [h.trace]; simp, fun e he ↦ ?_, ?_⟩,
      fun hok ↦ ?_⟩
    · exact (List.mem_append.mp he).elim (fun he ↦ (h.before e he).2) fun he ↦ (h.after e he).2
    · rcases r₁ with f | ⟨⟩
      · -- The pass fails here: the state could not be told, or the server has ended.
        obtain ⟨rfl, hresult, hstore⟩ := hcontinues
        have hfiles := congrArg Store.files hstore
        refine .inr ⟨rfl, hfiles, ?_⟩
        rcases answer with fault | - | status
        · cases hjudge
          exact .inr ⟨fault, rfl, hresult⟩
        · cases hjudge
        · cases hjudge
          exact .inl ⟨status, rfl, hresult⟩
      · rcases answer with fault | - | status
        · cases hjudge
        · exact .inl rfl
        · cases hjudge
    · rcases r₁ with f | ⟨⟩
      · rw [hok] at hcontinues
        cases hcontinues.2.1
      · rw [h.trace]
        rcases answer with fault | - | status
        · cases hjudge
        · simp
        · cases hjudge
  · exact ⟨(not_mem_of_not_triesStart hnone).1, fun h ↦ absurd h hreach, fun hok ↦ by
      rw [hok] at hresult
      cases hresult⟩

/-- **A server that was not started is started**, if the pass gets as far. -/
theorem makePass_begins (hstarted : ¬ memory.dhcpStarted = true) :
    Begins plan (makePass H roots plan memory v) := by
  obtain ⟨x, hw⟩ := makePass_follows H roots plan memory v
  have hnever (hreach : ¬ Reaches (makePass H roots plan memory v).after.trace)
      (hnone : ∀ e ∈ (makePass H roots plan memory v).after.trace,
        e.triesStart = false ∧ e.asksChild = false) :
      Begins plan (makePass H roots plan memory v) :=
    ⟨(not_mem_of_not_triesStart hnone).2, fun h ↦ absurd h hreach, fun h ↦ absurd h hreach⟩
  rcases hmode : plan.mode with m | m
  · rcases hw.server_cases hmode with ⟨p, q, u, r₁, l₁, h⟩ | ⟨-, hreach, hnone⟩
    · have hbefore := not_mem_of_not_triesStart h.before
      have hafter := not_mem_of_not_triesStart h.after
      have hserves := (Stage.takes_serve_of_not_started hstarted).mp h.serves
      have hcontinues := h.continues
      rcases hargs : (dhcpServer plan m x.mac).args with f | args
      · -- The server cannot be told what to do.
        rw [hargs] at hserves
        obtain ⟨rfl, rfl, -⟩ := hserves
        obtain ⟨hmtu, rfl⟩ := mtu_of_args_eq_error hargs
        obtain ⟨rfl, hresult, -⟩ := hcontinues
        have htrace := h.trace
        rw [List.append_nil, List.append_nil] at htrace
        rw [← htrace] at hbefore
        exact ⟨hbefore.2, fun _ hle ↦ absurd hle (Nat.not_le.mpr hmtu),
          fun _ _ ↦ ⟨hbefore.1, hresult⟩⟩
      · rw [hargs] at hserves
        obtain ⟨started, rfl, hstart, rfl⟩ := hserves
        have hmtu := mtu_of_args_eq_ok hargs
        refine ⟨fun answer ↦ ?_, fun _ _ ↦ ⟨p, args, started, u, by rw [h.trace]; simp; rfl,
          fun e he ↦ ?_, ?_, fun hfailed ↦ ?_⟩, fun _ hlt ↦ absurd hmtu (Nat.not_le.mpr hlt)⟩
        · rw [h.trace]
          simp [hbefore.2, hafter.2]
        · exact (List.mem_append.mp he).elim (fun he ↦ (h.before e he).1)
            fun he ↦ (h.after e he).1
        · -- Only a start that succeeds is remembered, and nothing behind it changes that.
          cases started
          · cases hstart
            obtain ⟨-, -, hstore⟩ := hcontinues
            have hmemory := congrArg (fun l ↦ l.memory.dhcpStarted) hstore
            exact hmemory.trans (Bool.eq_false_iff.mpr hstarted)
          · cases hstart
            exact Follows.dhcpStarted_eq (fun st ↦ not_isServer_of_mem_fromServer) hcontinues
        · subst hfailed
          cases hstart
          obtain ⟨rfl, hresult, hstore⟩ := hcontinues
          exact ⟨rfl, congrArg Store.files hstore, hresult⟩
    · exact hnever hreach hnone
  · obtain ⟨hreach, hnone⟩ := not_triesStart_of_external roots hmode hw
    exact hnever hreach hnone

/-- **Only a server that was started can have ended.** -/
theorem makePass_exited {status : ExitStatus}
    (h : (makePass H roots plan memory v).result = .error (.dhcpServerExited status)) :
    memory.dhcpStarted = true ∧ ∃ m, plan.mode = .internal m := by
  obtain ⟨x, hw⟩ := makePass_follows H roots plan memory v
  -- The failure is an answer about the server.
  have hasked : ∃ answer, .childState answer ∈ (makePass H roots plan memory v).after.trace := by
    have hends := hw.ends fun _ hst ↦ mayOccur_of_mem_course hst
    rw [h] at hends
    cases hends with
    | refused hlast _ he =>
      obtain ⟨status', rfl, -⟩ := he.of_isFatal rfl
      refine ⟨.ok (.exited status'), ?_⟩
      rw [hlast]
      simp
  obtain ⟨answer, hmem⟩ := hasked
  refine ⟨?_, ?_⟩
  · by_contra hstarted
    exact (makePass_begins H roots hstarted).ask answer hmem
  · obtain ⟨st, hst, hmakes⟩ := hw.makes hmem
    obtain ⟨m, mac, rfl⟩ := hmakes.of_childState
    exact ⟨m, mayOccur_of_mem_course hst⟩

/-! ### All passes of an agent -/

/-- In one of the passes the server was started. -/
def Started (ps : List (MadePass σ)) : Prop := ∃ p ∈ ps, ∃ c, .start c true ∈ p.after.trace

/-- The exchanges of some passes, in order. -/
def exchanges (ps : List (MadePass σ)) : List Exchange := ps.flatMap fun p ↦ p.after.trace

theorem started_iff {ps : List (MadePass σ)} : Started ps ↔ 0 < startsOf (exchanges ps) := by
  rw [startsOf, List.countP_pos_iff, exchanges]
  constructor
  · rintro ⟨p, hp, c, hmem⟩
    exact ⟨_, List.mem_flatMap.mpr ⟨p, hp, hmem⟩, rfl⟩
  · rintro ⟨e, he, hstarted⟩
    obtain ⟨p, hp, hmem⟩ := List.mem_flatMap.mp he
    cases e with
    | start c started =>
      cases started
      · cases hstarted
      · exact ⟨p, hp, c, hmem⟩
    | _ => cases hstarted

/-- A pass remembers the start that has succeeded in it. -/
theorem startsOf_makePass (plan : Plan) (memory : Memory) (v : Visit σ) :
    startsOf (makePass H roots plan memory v).after.trace + memory.dhcpStarted.toNat =
      (makePass H roots plan memory v).after.memory.dhcpStarted.toNat := by
  obtain ⟨x, hw⟩ := makePass_follows H roots plan memory v
  exact hw.starts

/-- What is remembered when a pass begins counts the starts that have succeeded before it. -/
theorem startsOf_history {vs : List (Visit σ)} {before after : List (MadePass σ)} {p : MadePass σ}
    (h : history H roots plan memory vs = before ++ p :: after) :
    startsOf (exchanges before) + memory.dhcpStarted.toNat = p.before.memory.dhcpStarted.toNat := by
  induction before generalizing memory vs with
  | nil =>
    cases vs with
    | nil => cases h
    | cons v vs =>
      obtain ⟨rfl, -⟩ := List.cons.inj h
      simp [exchanges, startsOf]
  | cons q before ih =>
    cases vs with
    | nil => cases h
    | cons v vs =>
      obtain ⟨rfl, hrest⟩ := List.cons.inj h
      have hpass := startsOf_makePass H roots plan memory v
      have hbefore := ih hrest
      rw [exchanges, List.flatMap_cons, startsOf_append]
      rw [exchanges] at hbefore
      omega

/-- One bit of memory has room for one start. -/
theorem startsOf_history_le (plan : Plan) (memory : Memory) (vs : List (Visit σ)) :
    startsOf (exchanges (history H roots plan memory vs)) + memory.dhcpStarted.toNat ≤ 1 := by
  induction vs generalizing memory with
  | nil =>
    have := Bool.toNat_le memory.dhcpStarted
    simpa [exchanges, startsOf] using this
  | cons v vs ih =>
    have hpass := startsOf_makePass H roots plan memory v
    have hrest := ih (makePass H roots plan memory v).after.memory
    rw [history_cons, exchanges, List.flatMap_cons, startsOf_append]
    rw [exchanges] at hrest
    omega

/-- **The life of the DHCP server.** Over all passes of an agent, with hosts, files and clocks that
are arbitrary in each pass:

* at most one start succeeds;
* what is remembered is whether one has;
* once one has, every pass looks after the server and none starts it again;
* until then, every pass that gets as far as the server tries to start it;
* only a pass behind a successful start reports that the server has ended, and only in internal
  mode;
* if the server is never seen to run again, no pass succeeds again. -/
theorem history_server (plan : Plan) (vs : List (Visit σ)) :
    let run := history H roots plan plan.memory vs
    startsOf (exchanges run) ≤ 1 ∧
    ∀ before p after, run = before ++ p :: after →
      (p.before.memory.dhcpStarted = true ↔ Started before) ∧
      (Started before → LooksAfter p) ∧
      (¬ Started before → Begins plan p) ∧
      (∀ status, p.result = .error (.dhcpServerExited status) →
        Started before ∧ ∃ m, plan.mode = .internal m) ∧
      (Started before → (∀ q ∈ p :: after, .childState (.ok .running) ∉ q.after.trace) →
        ∀ q ∈ p :: after, q.result ≠ .ok ()) := by
  intro run
  have hfresh : plan.memory.dhcpStarted.toNat = 0 := rfl
  have hremembered {before after : List (MadePass σ)} {p : MadePass σ}
      (h : run = before ++ p :: after) :
      p.before.memory.dhcpStarted = true ↔ Started before := by
    have hcount := startsOf_history H roots h
    rw [hfresh, Nat.add_zero] at hcount
    rw [started_iff, hcount]
    cases p.before.memory.dhcpStarted <;> simp
  -- Only a pass in internal mode starts a server.
  have hinternal {ps : List (MadePass σ)} (hps : ∀ q ∈ ps, q ∈ run) (h : Started ps) :
      ∃ m, plan.mode = .internal m := by
    obtain ⟨q, hq, c, hmem⟩ := h
    obtain ⟨memory, v, rfl⟩ := exists_eq_makePass_of_mem_history H roots plan (hps q hq)
    obtain ⟨x, hw⟩ := makePass_follows H roots plan memory v
    obtain ⟨st, hst, hmakes⟩ := hw.makes hmem
    obtain ⟨m, mac, rfl⟩ := hmakes.of_start
    exact ⟨m, mayOccur_of_mem_course hst⟩
  have hlooks {before after : List (MadePass σ)} {p : MadePass σ} (h : run = before ++ p :: after)
      (hstarted : Started before) : LooksAfter p := by
    obtain ⟨m, hmode⟩ := hinternal (fun q hq ↦ h ▸ List.mem_append_left _ hq) hstarted
    have hp := (hremembered h).mpr hstarted
    have hmem : p ∈ run := by rw [h]; simp
    obtain ⟨memory, v, rfl⟩ := exists_eq_makePass_of_mem_history H roots plan hmem
    exact makePass_looksAfter H roots hmode hp
  refine ⟨?_, fun before p after h ↦ ⟨hremembered h, hlooks h, fun hnot ↦ ?_,
    fun status hexited ↦ ?_, fun hstarted hnever q hq ↦ ?_⟩⟩
  · have hle := startsOf_history_le H roots plan plan.memory vs
    rwa [hfresh, Nat.add_zero] at hle
  · have hp := fun hp ↦ hnot ((hremembered h).mp hp)
    have hmem : p ∈ run := by rw [h]; simp
    obtain ⟨memory, v, rfl⟩ := exists_eq_makePass_of_mem_history H roots plan hmem
    exact makePass_begins H roots hp
  · have hp := hremembered h
    have hmem : p ∈ run := by rw [h]; simp
    obtain ⟨memory, v, rfl⟩ := exists_eq_makePass_of_mem_history H roots plan hmem
    obtain ⟨hstarted, hmode⟩ := makePass_exited H roots hexited
    exact ⟨hp.mp hstarted, hmode⟩
  · obtain ⟨c, d, hcut⟩ := List.append_of_mem hq
    have hrun : run = (before ++ c) ++ q :: d := by rw [h, hcut, List.append_assoc]
    obtain ⟨q₀, hq₀, hstart⟩ := hstarted
    have hlooks := hlooks hrun ⟨q₀, List.mem_append_left _ hq₀, hstart⟩
    exact fun hok ↦ hnever q hq (hlooks.ok hok)

end

/-- The device files of a host whose function has an address. -/
def functionDevices : FileTree where
  entries := ⟨[(["sys"], .directory), (["sys", "class"], .directory),
    (["sys", "class", "net"], .directory), (["sys", "class", "net", "p0"], .directory),
    (["sys", "class", "net", "p0", "smart_nic"], .directory),
    (["sys", "class", "net", "p0", "smart_nic", "pf"], .directory),
    (["sys", "class", "net", "p0", "smart_nic", "pf", "config"],
      .file "MAC : 02:00:00:00:00:01\n".toUTF8)]⟩

/-- A visit to a host on which everything is set up but the server, which can be started or not and
is in some state. -/
def serverVisit (start : Reply) (child : Except ChildFault ChildState) : Visit Script where
  now := 0
  host := {
    nodes := ⟨[("dpu", some (.ofList [(Node.hostNameLabel, "worker")]))]⟩
    devices := functionDevices
    children := [child]
    commands := ⟨[
      ("ip -4 -j addr show dev br-ovn", [.output (oneAddress "10.0.0.5" 24)]),
      ("ip -4 -j route show exact 10.0.0.0/16", [.output "[]"]),
      ("ip -4 -j route show exact 10.1.0.0/16", [.output "[]"]),
      ("spawn dnsmasq", [start]),
      ("ip -4 -j addr show dev cni0", [.output (oneAddress "10.2.0.1" 24)]),
      ("ip -4 -j addr show dev br-comm-ch", [.output (oneAddress "10.3.0.1" 24)]),
      ("ip -4 -j rule show", [.output "[]"]),
      ("ip -4 -j route show default", [.output (oneRoute "10.3.0.254")]),
      ("ip -4 -j route show table 60 exact 10.0.0.0/16", [.output "[]"])]⟩ }
  files := {}

/-- The passes in which the server cannot be started, is started, runs, and has ended. -/
def serverPasses : List (MadePass Script) :=
  history scriptedHost {} staticPlan staticPlan.memory
    [serverVisit .notStarted (.ok .running), serverVisit (.output "") (.ok .running),
      serverVisit (.output "") (.ok .running), serverVisit (.output "") (.ok (.exited (.code 1)))]

/-- The first start fails and the second one succeeds; the passes behind it look after the server,
and the last one reports that it has ended. -/
theorem history_server_fourPasses :
    serverPasses.map (fun p ↦ p.result.toOption) = [none, some (), some (), none] ∧
      startsOf (exchanges serverPasses) ≤ 1 ∧ (∀ p ∈ serverPasses.take 2, Begins staticPlan p) ∧
      ∀ p ∈ serverPasses.drop 2, LooksAfter p := by
  obtain ⟨hcount, hlife⟩ := history_server scriptedHost {} staticPlan
    [serverVisit .notStarted (.ok .running), serverVisit (.output "") (.ok .running),
      serverVisit (.output "") (.ok .running), serverVisit (.output "") (.ok (.exited (.code 1)))]
  obtain ⟨hresults, hstarts⟩ :
      serverPasses.map (fun p ↦ p.result.toOption) = [none, some (), some (), none] ∧
      startsOf (exchanges (serverPasses.take 1)) = 0 ∧
      startsOf (exchanges (serverPasses.take 2)) = 1 ∧
      startsOf (exchanges (serverPasses.take 3)) = 1 := by decide +kernel
  obtain ⟨p₁, p₂, p₃, p₄, hpasses⟩ : ∃ p₁ p₂ p₃ p₄, serverPasses = [p₁, p₂, p₃, p₄] :=
    ⟨_, _, _, _, rfl⟩
  refine ⟨hresults, hcount, ?_⟩
  rw [hpasses] at hstarts ⊢
  have hfirst := hlife [] p₁ [p₂, p₃, p₄] hpasses
  have hsecond := hlife [p₁] p₂ [p₃, p₄] hpasses
  have hthird := hlife [p₁, p₂] p₃ [p₄] hpasses
  have hfourth := hlife [p₁, p₂, p₃] p₄ [] hpasses
  have hnone : ¬ Started ([] : List (MadePass Script)) := by simp [Started]
  have hone : ¬ Started [p₁] := by
    rw [started_iff]
    exact Nat.not_lt.mpr (Nat.le_of_eq hstarts.1)
  have htwo : Started [p₁, p₂] :=
    started_iff.mpr (Nat.lt_of_lt_of_eq Nat.zero_lt_one hstarts.2.1.symm)
  have hthree : Started [p₁, p₂, p₃] :=
    started_iff.mpr (Nat.lt_of_lt_of_eq Nat.zero_lt_one hstarts.2.2.symm)
  constructor
  · intro p hp
    simp only [List.take_succ_cons, List.take_zero, List.mem_cons, List.not_mem_nil, or_false] at hp
    rcases hp with rfl | rfl
    · exact hfirst.2.2.1 hnone
    · exact hsecond.2.2.1 hone
  · intro p hp
    simp only [List.drop_succ_cons, List.drop_zero, List.mem_cons, List.not_mem_nil, or_false] at hp
    rcases hp with rfl | rfl
    · exact hthird.2.1 htwo
    · exact hfourth.2.1 hthree

end DpuNetwork
