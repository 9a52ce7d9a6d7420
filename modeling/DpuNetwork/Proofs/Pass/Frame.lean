import DpuNetwork.Proofs.Pass.Parts

/-!
# A pass does not regard its trace

Behind other exchanges a pass runs as it does with an empty trace, and adds the same exchanges
(`IsFramed`). So a long run of passes can be taken apart into passes that each begin with nothing
exchanged, however much was exchanged before.

The trace of a session is written and never read: a request puts its exchange at the end, and
nothing else touches it. The proof follows the program. What a step is put together from is framed
(`IsFramed.pure` to `IsFramed.remember`), putting framed passes one behind the other keeps this
(`IsFramed.bind`), and then there is one lemma for each step of a pass, in the order of the program.
Where a step goes on in one of several ways, the choice depends on an answer, on the memory or on
the plan, and each way is framed.

## Main statements

* `IsFramed.bind`: sequences of framed passes are framed;
* `isFramed_converge`: the convergence pass is framed.
-/

namespace DpuNetwork

open Ipv4

namespace Session

variable {σ : Type} (s : Session σ) (t : List Exchange)

/-- The session behind other exchanges. -/
def behind : Session σ := { s with trace := t ++ s.trace }

/-- Earlier exchanges are no part of the host. -/
@[simp] theorem behind_host : (s.behind t).host = s.host := rfl

/-- Earlier exchanges are no part of the files. -/
@[simp] theorem behind_files : (s.behind t).files = s.files := rfl

/-- Earlier exchanges are no part of what is remembered. -/
@[simp] theorem behind_memory : (s.behind t).memory = s.memory := rfl

/-- The exchanges of the session stand behind the earlier ones. -/
@[simp] theorem behind_trace : (s.behind t).trace = t ++ s.trace := rfl

/-- A new exchange stands behind all others, so it does not matter whether the earlier ones are put
in front before or after it. -/
theorem told_behind (host : σ) (e : Exchange) :
    (s.behind t).told host e = (s.told host e).behind t := by
  simp [behind, told]

end Session

namespace Pass

variable {σ α β : Type}

/-- Behind other exchanges the pass runs the same and adds the same. -/
def IsFramed (p : Pass σ α) : Prop :=
  ∀ s t, p.exec (s.behind t) = ((p.exec s).1, (p.exec s).2.behind t)

/-! ### Sequencing -/

/-- What does nothing is framed. -/
theorem IsFramed.pure (a : α) : IsFramed (pure a : Pass σ α) := fun _ _ ↦ rfl

/-- What fails at once is framed. -/
theorem IsFramed.throw (f : Failure) : IsFramed (throw f : Pass σ α) := fun _ _ ↦ rfl

/-- What only reads a result is framed. -/
theorem IsFramed.lift (r : Except Failure α) : IsFramed (lift r : Pass σ α) := fun s t ↦ by
  rw [exec_lift, exec_lift]

/-- A result with another kind of fault is framed too. -/
theorem IsFramed.ofExcept {ε : Type} (toFailure : ε → Failure) (r : Except ε α) :
    IsFramed (ofExcept toFailure r : Pass σ α) := by
  cases r with
  | error e => exact .throw _
  | ok a => exact .pure a

/-- **A sequence of framed passes is framed.** -/
theorem IsFramed.bind {p : Pass σ α} {f : α → Pass σ β} (hp : IsFramed p)
    (hf : ∀ a, IsFramed (f a)) : IsFramed (p >>= f) := by
  intro s t
  rw [exec_bind, exec_bind, hp]
  rcases p.exec s with ⟨e | a, s₁⟩
  -- A failure ends both at the same session; a result is handed on in both.
  · rfl
  · exact hf a s₁ t

/-! ### Requests, files and memory -/

/-- A request is answered by the host, which earlier exchanges are no part of. -/
theorem IsFramed.request (ask : σ → α × σ) (record : α → Exchange) :
    IsFramed (request ask record) := fun s t ↦ by
  rw [exec_request, exec_request, Session.told_behind]
  rfl

/-- Replacing a file leaves no exchange. -/
theorem IsFramed.replaceFile (path text : String) :
    IsFramed (replaceFile path text : Pass σ Bool) := fun s t ↦ by
  rw [exec_replaceFile, exec_replaceFile]
  rfl

/-- Reading the memory leaves no exchange. -/
theorem IsFramed.remembered : IsFramed (remembered : Pass σ Memory) := fun _ _ ↦ rfl

/-- Changing the memory leaves no exchange. -/
theorem IsFramed.remember (f : Memory → Memory) : IsFramed (remember f : Pass σ Unit) :=
  fun _ _ ↦ rfl

variable (H : Host σ)

/-- Running a program is a request whose answer is read. -/
theorem isFramed_run (c : Command) : IsFramed (run H c) :=
  (IsFramed.request _ _).bind fun _ ↦ .ofExcept _ _

/-- So is running one whose output does not matter. -/
theorem isFramed_perform (c : Command) : IsFramed (perform H c) :=
  (isFramed_run H c).bind fun _ ↦ .pure _

/-- Starting a program is a request that may be refused. -/
theorem isFramed_start (c : Command) : IsFramed (start H c) := by
  refine (IsFramed.request _ _).bind fun started ↦ ?_
  cases started
  · exact .throw _
  · exact .pure _

/-- Asking for the state of the program in the background. -/
theorem isFramed_childState : IsFramed (childState H) :=
  (IsFramed.request _ _).bind fun _ ↦ .ofExcept _ _

/-- Reading a node. -/
theorem isFramed_getNode (name : String) : IsFramed (getNode H name) :=
  (IsFramed.request _ _).bind fun _ ↦ .ofExcept _ _

/-- Putting labels on a node. -/
theorem isFramed_applyLabels (name : String) (labels : Labels) :
    IsFramed (applyLabels H name labels) :=
  (IsFramed.request _ _).bind fun _ ↦ .ofExcept _ _

/-- Reading a device file is a request that may find nothing. -/
theorem isFramed_readDevice (path : String) : IsFramed (readDevice H path) := by
  refine (IsFramed.request _ _).bind fun text ↦ ?_
  cases text
  · exact .throw _
  · exact .pure _

/-! ### Steps -/

/-- Looking for something and adding it where it is missing. -/
theorem isFramed_ensure (A : Addition) : IsFramed (ensure H A) := by
  refine ((isFramed_run H _).bind fun _ ↦ .lift _).bind fun b ↦ ?_
  cases b
  · exact isFramed_perform H _
  · exact .pure _

/-- Listing the addresses of a link and reading the listing. -/
theorem isFramed_addressesOf (link : String) : IsFramed (addressesOf H link) :=
  (isFramed_run H _).bind fun _ ↦ (IsFramed.lift _).bind fun _ ↦ .lift _

/-- Looking up a gateway and reading the answer. -/
theorem isFramed_gatewayTo (destination : Cidr) : IsFramed (gatewayTo H destination) :=
  (isFramed_run H _).bind fun _ ↦ (IsFramed.lift _).bind fun _ ↦ .lift _

/-- The only address of a link. -/
theorem isFramed_singleAddress (link : String) : IsFramed (singleAddress H link) := by
  refine (isFramed_addressesOf H link).bind fun as ↦ ?_
  split
  · exact .pure _
  · exact .throw _

/-- The address that the bridge was given. -/
theorem isFramed_bridgeAddress : IsFramed (bridgeAddress H) := by
  refine (isFramed_addressesOf H _).bind fun as ↦ ?_
  split
  · exact .throw _
  · exact .pure _
  · exact .throw _

/-- Writing the gateway options is replacing a file. -/
theorem isFramed_writeGatewayOptions (roots : Roots) (o : GatewayOptions) :
    IsFramed (writeGatewayOptions roots o : Pass σ Unit) :=
  (IsFramed.replaceFile _ _).bind fun _ ↦ .pure _

variable (roots : Roots) (plan : Plan)

/-- Reading the node of the plan, and labelling it unless it names no host. -/
theorem isFramed_ensureZone : IsFramed (ensureZone H plan) := by
  refine (isFramed_getNode H _).bind fun node ↦ ?_
  split
  · exact .throw _
  · split
    · exact .throw _
    · exact (isFramed_applyLabels H _ _).bind fun _ ↦ .pure _

/-- Which of its two ways the server takes depends on the memory alone, not on what was
exchanged. -/
theorem isFramed_ensureDhcpServer (m : InternalMode) (mac : Mac) :
    IsFramed (ensureDhcpServer H plan m mac) := by
  refine IsFramed.remembered.bind fun memory ↦ ?_
  split
  · refine (isFramed_childState H).bind fun state ↦ ?_
    split
    · exact .pure _
    · exact .throw _
  · exact (IsFramed.lift _).bind fun _ ↦ (isFramed_start H _).bind fun _ ↦ .remember _

/-- The steps of internal mode: the bridge, the route where one is needed, and serving the host. -/
theorem isFramed_ensureInternal (m : InternalMode) : IsFramed (ensureInternal H roots plan m) := by
  -- Both branches end by serving the host, so this part is done once.
  have hserve : IsFramed (serveHost H roots plan m) :=
    (isFramed_ensure H _).bind fun _ ↦
    ((isFramed_readDevice H _).bind fun _ ↦ .lift _).bind fun mac ↦
    (isFramed_ensureDhcpServer H plan m mac).bind fun _ ↦
    (isFramed_writeGatewayOptions roots _).bind fun _ ↦ .pure _
  rw [ensureInternal_eq]
  refine (isFramed_ensure H _).bind fun _ ↦ (isFramed_perform H _).bind fun _ ↦ ?_
  split
  · exact (isFramed_ensure H _).bind fun _ ↦ hserve
  · exact hserve

/-- Whether the bridge definition is applied depends on the memory and the clock alone. -/
theorem isFramed_applyThrottled (now : Nat) : IsFramed (applyThrottled H now) := by
  refine IsFramed.remembered.bind fun memory ↦ ?_
  split
  · exact (IsFramed.remember _).bind fun _ ↦ isFramed_perform H _
  · exact .pure _

/-- The steps of external mode. -/
theorem isFramed_ensureExternal (m : ExternalMode) (now : Nat) :
    IsFramed (ensureExternal H roots plan m now) := by
  rw [ensureExternal_eq]
  exact ((IsFramed.replaceFile _ _).bind fun _ ↦ .pure _).bind fun _ ↦
    (isFramed_applyThrottled H now).bind fun _ ↦ (isFramed_bridgeAddress H).bind fun _ ↦
    (isFramed_gatewayTo H _).bind fun _ ↦ (isFramed_ensure H _).bind fun _ ↦
    (isFramed_writeGatewayOptions roots _).bind fun _ ↦ .pure _

/-- The steps of policy routing, which both modes share. -/
theorem isFramed_ensurePolicyRouting : IsFramed (ensurePolicyRouting H plan) := by
  unfold ensurePolicyRouting
  simp only [ensureRule_eq, ensureRoute_eq]
  exact (isFramed_singleAddress H _).bind fun _ ↦ (isFramed_singleAddress H _).bind fun _ ↦
    (isFramed_ensure H _).bind fun _ ↦ (isFramed_ensure H _).bind fun _ ↦
    (isFramed_gatewayTo H _).bind fun _ ↦ isFramed_ensure H _

/-- **The convergence pass does not regard its trace.** -/
theorem isFramed_converge (now : Nat) : IsFramed (converge H roots plan now) := by
  have hbridge : IsFramed (ensureBridge H roots plan now) := by
    rw [ensureBridge]
    split
    · exact isFramed_ensureInternal H roots plan _
    · exact isFramed_ensureExternal H roots plan _ now
  exact (isFramed_ensureZone H plan).bind fun _ ↦ hbridge.bind fun _ ↦
    (isFramed_ensurePolicyRouting H plan).bind fun _ ↦ (isFramed_perform H _).bind fun _ ↦
    (isFramed_perform H _).bind fun _ ↦ isFramed_perform H _

end Pass

end DpuNetwork
