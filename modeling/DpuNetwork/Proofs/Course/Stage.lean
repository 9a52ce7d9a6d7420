import DpuNetwork.Proofs.Pass.History

/-!
# The stages of a pass

A pass goes through stages: it reads the node, makes sure of an addition, looks a gateway up, writes
a file. A stage names what the pass finds or does there, and `Stage.Takes` says which exchanges it
takes, how it ends, and what it leaves of the files and of the agent's memory (`Store`). Nothing is
assumed about the answers: a stage that finds a value is one whose answer was read as that value.

Most stages are one request whose answer is judged (`Asks`). Three are not: making sure of an
addition takes a listing and, where it shows nothing, a command (`Stage.Ensures`); the server is
asked for or started, as the memory says (`Stage.Serves`); and the bridge definition may be passed
over. Writing a file takes no exchange at all, but may fail.

A stage is described twice. `Stage.Takes` is everything about one run of it, and `Stage.Makes` is
only which exchanges it can take, which does not depend on the store; `Stage.Takes.makes` connects
the two. What is said about whole passes is said in terms of these.

## Main statements

* `Stage.Takes.makes`: a stage takes no other exchanges than its own;
* `Stage.Makes.cases`: which stage a request belongs to, for every request but a command.
-/

namespace DpuNetwork

open Ipv4

/-- What a pass works on besides the host. -/
structure Store where
  /-- The files. -/
  files : FileTree
  /-- What the agent remembers. -/
  memory : Memory

/-- The store of a session. -/
def Session.store {σ : Type} (s : Session σ) : Store := ⟨s.files, s.memory⟩

/-- The files of a store are those of the session. -/
@[simp] theorem Session.store_files {σ : Type} (s : Session σ) : s.store.files = s.files := rfl

/-- So is what is remembered. -/
@[simp] theorem Session.store_memory {σ : Type} (s : Session σ) : s.store.memory = s.memory := rfl

/-- An exchange with the host leaves the store in place. -/
@[simp] theorem Session.store_told {σ : Type} (s : Session σ) (host : σ) (e : Exchange) :
    (s.told host e).store = s.store := rfl

/-- A request was made and its answer judged: it gives a value, or it ends the pass. -/
def Asks {α β : Type} (record : α → Exchange) (judge : α → Except Failure β) (b : β)
    (t : List Exchange) (r : Except Failure Unit) : Prop :=
  ∃ answer, t = [record answer] ∧ judge answer = r.map fun _ ↦ b

namespace Pass

variable {α : Type}

/-! ### Judging answers -/

/-- What is made of the answer to a command: its output is read, its fault is reported. -/
def readAnswer (c : Command) (read : String → Except Failure α)
    (answer : Except RunFault String) : Except Failure α :=
  (answer.mapError (RunFault.toFailure c)).bind read

/-- The output of a command that succeeded is read. -/
@[simp] theorem readAnswer_ok (c : Command) (read : String → Except Failure α) (text : String) :
    readAnswer c read (.ok text) = read text := rfl

/-- The fault of a command is reported with the command. -/
@[simp] theorem readAnswer_error (c : Command) (read : String → Except Failure α) (f : RunFault) :
    readAnswer c read (.error f) = .error (f.toFailure c) := rfl

/-- Any output of a command that is run for its effect will do. -/
def anyOutput (_ : String) : Except Failure Unit := .ok ()

/-- The IPv4 addresses in a listing. -/
def addressesIn (text : String) : Except Failure (List Cidr) :=
  Listing.links text >>= Listing.addresses

/-- The only address in the listing of an interface. -/
def onlyAddress (link text : String) : Except Failure Cidr :=
  addressesIn text >>= fun
    | [a] => .ok a
    | as => .error (.addressCount link as.length)

/-- The only address in the listing of the overlay bridge, which may still have to come. -/
def leasedAddress (text : String) : Except Failure Cidr :=
  addressesIn text >>= fun
    | [] => .error (.noBridgeAddress overlayBridge)
    | [a] => .ok a
    | as => .error (.addressCount overlayBridge as.length)

/-- The gateway to a network in a listing of routes. -/
def gatewayIn (destination : Cidr) (text : String) : Except Failure Address :=
  Listing.routes text >>= Listing.firstGateway destination

/-- The host name in the answer to reading the node. -/
def hostNameIn (plan : Plan) (answer : Except ClusterFault (Option Node)) : Except Failure String :=
  (answer.mapError ClusterFault.toFailure).bind fun node ↦ judgeNode plan (node.map Node.hostName?)

/-- The Ethernet address in the answer to reading a device file. -/
def macIn (path : String) (answer : Option String) : Except Failure Mac :=
  (judgeDevice path answer).bind FunctionConfig.mac

/-- Whether a program in the background was started. -/
def judgeStart (c : Command) (started : Bool) : Except Failure Unit :=
  if started then .ok () else .error (.spawn c.text)

/-- Whether a file was written; whether its contents have changed does not matter. -/
def judgeWrite (outcome : Except (FileStep × String) Bool) : Except Failure Unit :=
  (outcome.mapError fun e ↦ .file e.1 e.2).map fun _ ↦ ()

end Pass

open Pass

/-- A place on the way of a pass, with what is found or done there. -/
inductive Stage where
  /-- The host name is read from the node. -/
  | readNode (hostName : String)
  /-- The node is put into the zone of its host. -/
  | applyZone (hostName : String)
  /-- A command is run for its effect. -/
  | perform (c : Command)
  /-- The bridge definition is applied unless the throttle forbids it. -/
  | applyThrottled (now : Nat)
  /-- An addition is looked up, and made if it is missing. -/
  | ensure (A : Addition)
  /-- The only address of an interface is read. -/
  | readAddress (link : String) (a : Cidr)
  /-- The address that the overlay bridge has got is read. -/
  | readLease (a : Cidr)
  /-- The gateway to a network is looked up. -/
  | findGateway (destination : Cidr) (g : Address)
  /-- The Ethernet address of the host's function is read from its device file. -/
  | readMac (path : String) (mac : Mac)
  /-- The DHCP server is started, or looked after if it was started before. -/
  | serve (m : InternalMode) (mac : Mac)
  /-- A file is written. -/
  | write (path text : String)
  deriving DecidableEq

namespace Stage

/-- How making sure of an addition goes: it is found, or its listing is refused, or it is missing
and its command is run. -/
def Ensures (A : Addition) (t : List Exchange) (r : Except Failure Unit) : Prop :=
  Asks (.run A.listing) (readAnswer A.listing A.recognise) true t r ∨
    ∃ text answer, t = [.run A.listing (.ok text), .run A.command answer] ∧
      A.recognise text = .ok false ∧ readAnswer A.command anyOutput answer = r

/-- How the DHCP server is made sure of: a server that was started is asked for its state; otherwise
one is started, if it can be told what to do, and is remembered if it was. -/
def Serves (plan : Plan) (m : InternalMode) (mac : Mac) (l : Store) (t : List Exchange)
    (r : Except Failure Unit) (l' : Store) : Prop :=
  if l.memory.dhcpStarted then Asks .childState judgeChild () t r ∧ l' = l
  else match (dhcpServer plan m mac).args with
    | .error f => t = [] ∧ r = .error f ∧ l' = l
    | .ok args => ∃ started, t = [.start ⟨dhcpProgram, args⟩ started] ∧
        judgeStart ⟨dhcpProgram, args⟩ started = r ∧
        l' = if started then { l with memory := { l.memory with dhcpStarted := true } } else l

/-- What a stage takes: its exchanges, how it ends, and the store that it leaves. -/
def Takes (plan : Plan) (st : Stage) (l : Store) (t : List Exchange) (r : Except Failure Unit)
    (l' : Store) : Prop :=
  match st with
  | readNode hostName =>
    Asks (.getNode plan.nodeName) (hostNameIn plan) hostName t r ∧ l' = l
  | applyZone hostName =>
    Asks (.applyLabels plan.nodeName (.ofList [(Node.zoneLabel, hostName)]))
      (Except.mapError ClusterFault.toFailure) () t r ∧ l' = l
  | perform c => Asks (.run c) (readAnswer c anyOutput) () t r ∧ l' = l
  | applyThrottled now =>
    if l.memory.throttle.isReady now then
      Asks (.run applyBridgeDefinition) (readAnswer applyBridgeDefinition anyOutput) () t r ∧
        l' = { l with memory := { l.memory with throttle := l.memory.throttle.record now } }
    else t = [] ∧ r = .ok () ∧ l' = l
  | ensure A => Ensures A t r ∧ l' = l
  | readAddress link a =>
    Asks (.run (Network.showAddresses link))
      (readAnswer (Network.showAddresses link) (onlyAddress link)) a t r ∧ l' = l
  | readLease a =>
    Asks (.run (Network.showAddresses overlayBridge))
      (readAnswer (Network.showAddresses overlayBridge) leasedAddress) a t r ∧ l' = l
  | findGateway destination g =>
    Asks (.run (Network.lookUp destination))
      (readAnswer (Network.lookUp destination) (gatewayIn destination)) g t r ∧ l' = l
  | readMac path mac => Asks (.readDevice path) (macIn path) mac t r ∧ l' = l
  | serve m mac => Serves plan m mac l t r l'
  | write path text =>
    t = [] ∧ r = judgeWrite (l.files.replace path text).1 ∧
      l' = { l with files := (l.files.replace path text).2 }

/-- The exchanges that a stage can take, whatever is answered. -/
def Makes (plan : Plan) : Stage → Exchange → Prop
  | readNode _, e => ∃ answer, e = .getNode plan.nodeName answer
  | applyZone hostName, e =>
    ∃ answer, e = .applyLabels plan.nodeName (.ofList [(Node.zoneLabel, hostName)]) answer
  | perform c, e => ∃ answer, e = .run c answer
  | applyThrottled _, e => ∃ answer, e = .run applyBridgeDefinition answer
  | ensure A, e => ∃ answer, e = .run A.listing answer ∨ e = .run A.command answer
  | readAddress link _, e => ∃ answer, e = .run (Network.showAddresses link) answer
  | readLease _, e => ∃ answer, e = .run (Network.showAddresses overlayBridge) answer
  | findGateway destination _, e => ∃ answer, e = .run (Network.lookUp destination) answer
  | readMac path _, e => ∃ answer, e = .readDevice path answer
  | serve _ _, e => (∃ answer, e = .childState answer) ∨
    ∃ args started, e = .start ⟨dhcpProgram, args⟩ started
  | write _ _, _ => False

variable {plan : Plan} {st : Stage} {l l' : Store} {t : List Exchange} {r : Except Failure Unit}

/-- A server that was started is only asked for its state, and nothing is remembered anew. -/
theorem takes_serve_of_started {m : InternalMode} {mac : Mac} (h : l.memory.dhcpStarted = true) :
    (serve m mac).Takes plan l t r l' ↔ Asks .childState judgeChild () t r ∧ l' = l := by
  rw [Takes, Serves, if_pos h]

/-- A server that was not started is started, if it can be told what to do. -/
theorem takes_serve_of_not_started {m : InternalMode} {mac : Mac}
    (h : ¬ l.memory.dhcpStarted = true) :
    (serve m mac).Takes plan l t r l' ↔
      match (dhcpServer plan m mac).args with
      | .error f => t = [] ∧ r = .error f ∧ l' = l
      | .ok args => ∃ started, t = [.start ⟨dhcpProgram, args⟩ started] ∧
          judgeStart ⟨dhcpProgram, args⟩ started = r ∧
          l' = if started then { l with memory := { l.memory with dhcpStarted := true } }
            else l := by
  rw [Takes, Serves, if_neg h]

/-- Where the throttle is ready the definition is applied, and the moment is recorded whatever comes
of it. -/
theorem takes_applyThrottled_of_ready {now : Nat} (h : l.memory.throttle.isReady now = true) :
    (applyThrottled now).Takes plan l t r l' ↔
      Asks (.run applyBridgeDefinition) (readAnswer applyBridgeDefinition anyOutput) () t r ∧
        l' = { l with memory := { l.memory with throttle := l.memory.throttle.record now } } := by
  rw [Takes, if_pos h]

/-- Where the throttle is not ready the stage is passed over. -/
theorem takes_applyThrottled_of_not_ready {now : Nat}
    (h : ¬ l.memory.throttle.isReady now = true) :
    (applyThrottled now).Takes plan l t r l' ↔ t = [] ∧ r = .ok () ∧ l' = l := by
  rw [Takes, if_neg h]

/-- A request and its answer are the only exchange of a stage that asks. -/
theorem makes_of_asks {α β : Type} {record : α → Exchange} {judge : α → Except Failure β} {b : β}
    (h : Asks record judge b t r) {e : Exchange} (he : e ∈ t) : ∃ answer, e = record answer := by
  obtain ⟨answer, rfl, -⟩ := h
  exact ⟨answer, List.mem_singleton.mp he⟩

/-- A stage takes no other exchanges than its own. -/
theorem Takes.makes (h : st.Takes plan l t r l') {e : Exchange} (he : e ∈ t) :
    st.Makes plan e := by
  -- One case for each stage; where it is a single request, that one is its only exchange.
  cases st with
  | readNode hostName => exact makes_of_asks h.1 he
  | applyZone hostName => exact makes_of_asks h.1 he
  | perform c => exact makes_of_asks h.1 he
  | applyThrottled now =>
    by_cases hready : l.memory.throttle.isReady now = true
    · exact makes_of_asks ((takes_applyThrottled_of_ready hready).mp h).1 he
    · rw [takes_applyThrottled_of_not_ready hready] at h
      simp [h.1] at he
  | ensure A =>
    obtain ⟨hasks | ⟨text, answer, rfl, -⟩, -⟩ := h
    · obtain ⟨answer, rfl⟩ := makes_of_asks hasks he
      exact ⟨answer, .inl rfl⟩
    · simp only [List.mem_cons, List.not_mem_nil, or_false] at he
      rcases he with rfl | rfl
      · exact ⟨_, .inl rfl⟩
      · exact ⟨_, .inr rfl⟩
  | readAddress link a => exact makes_of_asks h.1 he
  | readLease a => exact makes_of_asks h.1 he
  | findGateway destination g => exact makes_of_asks h.1 he
  | readMac path mac => exact makes_of_asks h.1 he
  | serve m mac =>
    by_cases hstarted : l.memory.dhcpStarted = true
    · exact .inl (makes_of_asks ((takes_serve_of_started hstarted).mp h).1 he)
    · rw [takes_serve_of_not_started hstarted] at h
      split at h
      · simp [h.1] at he
      · next args _ =>
        obtain ⟨started, rfl, -⟩ := h
        exact .inr ⟨args, started, List.mem_singleton.mp he⟩
  | write path text => simp [h.1] at he

/-- Every request but a command belongs to the stages of one kind. -/
theorem Makes.cases {e : Exchange} (h : st.Makes plan e) :
    match e with
    | .run _ _ => True
    | .start _ _ | .childState _ => ∃ m mac, st = serve m mac
    | .getNode _ _ => ∃ hostName, st = readNode hostName
    | .applyLabels _ _ _ => ∃ hostName, st = applyZone hostName
    | .readDevice path _ => ∃ mac, st = readMac path mac := by
  cases st with
  | serve m mac =>
    obtain ⟨_, rfl⟩ | ⟨_, _, rfl⟩ := h
    · exact ⟨m, mac, rfl⟩
    · exact ⟨m, mac, rfl⟩
  | ensure A => obtain ⟨_, rfl | rfl⟩ := h <;> trivial
  | write path text => exact h.elim
  | readNode hostName =>
    obtain ⟨_, rfl⟩ := h
    exact ⟨hostName, rfl⟩
  | applyZone hostName =>
    obtain ⟨_, rfl⟩ := h
    exact ⟨hostName, rfl⟩
  | readMac path mac =>
    obtain ⟨_, rfl⟩ := h
    exact ⟨mac, rfl⟩
  | _ =>
    obtain ⟨_, rfl⟩ := h
    trivial

/-- Only the server is started in the background. -/
theorem Makes.of_start {c : Command} {started : Bool} (h : st.Makes plan (.start c started)) :
    ∃ m mac, st = serve m mac := h.cases

/-- Only the server is asked for its state. -/
theorem Makes.of_childState {answer : Except ChildFault ChildState}
    (h : st.Makes plan (.childState answer)) : ∃ m mac, st = serve m mac := h.cases

/-- Only the stage for the address of the function reads a device file, and only its own. -/
theorem Makes.of_readDevice {path : String} {answer : Option String}
    (h : st.Makes plan (.readDevice path answer)) : ∃ mac, st = readMac path mac := h.cases

/-- Only the stage for the zone puts labels on a node. -/
theorem Makes.of_applyLabels {name : String} {labels : Labels} {answer : Except ClusterFault Unit}
    (h : st.Makes plan (.applyLabels name labels answer)) : ∃ hostName, st = applyZone hostName :=
  h.cases

end Stage

end DpuNetwork
