import Mathlib.Logic.Function.Basic
import DpuNetwork.Proofs.Addition

/-!
# Worlds, and failures that strike in them

A `World` is a host in which what a pass does shows: a successful addition is there when it is
looked up, the switch keeps its identifiers, the node its zone, and a program that was started keeps
running. Whatever a pass only observes stays constant. What the pass can change is collected in its
`Holdings`.

Failures are injected from outside (`Host.withFaults`): every request uses up one entry of a list,
and a request that is struck fails and changes nothing. `afterAttempts` makes passes one after the
other, each with failures of its own.
-/

namespace DpuNetwork

open Ipv4

/-! ### What a host holds -/

/-- What a pass can change on a host. -/
structure Holdings where
  /-- The addresses, routes and rules in the order in which they came. -/
  objects : List Addition
  /-- The interfaces that are in operation. -/
  up : String → Bool
  /-- The external identifiers of the overlay switch. -/
  identifiers : String → Option String
  /-- The zone of the node. -/
  zone : Option String
  /-- The number of DHCP servers that run. -/
  servers : Nat

namespace Holdings

/-- An addition is held if an object that looks the same is. -/
def Holds (h : Holdings) (A : Addition) : Prop := ∃ B ∈ h.objects, B.object = A.object

instance (h : Holdings) (A : Addition) : Decidable (h.Holds A) :=
  inferInstanceAs (Decidable (∃ B ∈ h.objects, B.object = A.object))

/-- With one more address, route or rule. -/
def add (h : Holdings) (A : Addition) : Holdings :=
  { h with objects := h.objects ++ [A.stored] }

/-- With an interface in operation. -/
def setUp (h : Holdings) (link : String) : Holdings :=
  { h with up := Function.update h.up link true }

/-- With an identifier of the switch set. -/
def identify (h : Holdings) (key value : String) : Holdings :=
  { h with identifiers := Function.update h.identifiers key (some value) }

/-- With the node in a zone. -/
def putInZone (h : Holdings) (zone : String) : Holdings := { h with zone := some zone }

/-- With one more DHCP server. -/
def serve (h : Holdings) : Holdings := { h with servers := h.servers + 1 }

/-- What was added is held. -/
theorem holds_add (h : Holdings) (A : Addition) : (h.add A).Holds A :=
  ⟨A.stored, by simp [add], A.object_stored⟩

/-- What is held stays held when objects come. -/
theorem Holds.mono {h h' : Holdings} {A : Addition} (hA : h.Holds A)
    (hp : h.objects <+: h'.objects) : h'.Holds A := by
  obtain ⟨B, hB, hobject⟩ := hA
  exact ⟨B, hp.subset hB, hobject⟩

end Holdings

/-! ### Worlds -/

/-- The external identifiers that a pass sets. -/
def switchKeys : List String := ["ovn-encap-ip", "host-k8s-nodename", "hostname"]

/-- A host in which what a pass of a plan does shows and everything else stays constant. -/
structure World {σ : Type} (H : Host σ) (plan : Plan) where
  /-- What is held in a state. -/
  holds : σ → Holdings
  /-- What is answered to a query that a pass only observes. -/
  reply : Command → Except RunFault String
  /-- Why an addition is refused, if it is. -/
  refusal : Addition → Holdings → Option RunFault
  /-- Whether the node of the plan is there, and the host name on its label. -/
  label : Option (Option String)
  /-- What is read from a device file. -/
  device : String → Option String
  /-- An observed query has a constant answer and changes nothing. -/
  observe : ∀ q, plan.Observes q → ∀ s, (H.run q s).1 = reply q ∧ holds (H.run q s).2 = holds s
  /-- Looking an addition up tells whether it is held, and changes nothing. -/
  look : ∀ A, plan.MayAdd A → ∀ s, holds (H.run A.listing s).2 = holds s ∧
    ∃ text, (H.run A.listing s).1 = .ok text ∧ A.recognise text = .ok (decide ((holds s).Holds A))
  /-- An addition that is refused changes nothing, any other one is held from then on. -/
  add : ∀ A, plan.MayAdd A → ∀ s, match refusal A (holds s) with
    | some f => (H.run A.command s).1 = .error f ∧ holds (H.run A.command s).2 = holds s
    | none => (∃ out, (H.run A.command s).1 = .ok out) ∧
        holds (H.run A.command s).2 = (holds s).add A
  /-- The bridge can be put into operation. -/
  setUp : ∀ s, (∃ out, (H.run (Network.setUp overlayBridge) s).1 = .ok out) ∧
    holds (H.run (Network.setUp overlayBridge) s).2 = (holds s).setUp overlayBridge
  /-- The switch keeps the identifiers it is told. -/
  identify : ∀ key ∈ switchKeys, ∀ value s,
    (∃ out, (H.run (Network.setExternalId key value) s).1 = .ok out) ∧
      holds (H.run (Network.setExternalId key value) s).2 = (holds s).identify key value
  /-- The bridge definition can be applied, which changes nothing that is held. -/
  apply : ∀ s, (∃ out, (H.run applyBridgeDefinition s).1 = .ok out) ∧
    holds (H.run applyBridgeDefinition s).2 = holds s
  /-- Programs can be started. -/
  start : ∀ c s, (H.start c s).1 = true ∧ holds (H.start c s).2 = (holds s).serve
  /-- A program that was started keeps running. -/
  child : ∀ s, holds (H.childState s).2 = holds s ∧
    (0 < (holds s).servers → (H.childState s).1 = .ok .running)
  /-- The label of the node is constant. -/
  node : ∀ s, holds (H.getNode plan.nodeName s).2 = holds s ∧
    ∃ node, (H.getNode plan.nodeName s).1 = .ok node ∧ node.map Node.hostName? = label
  /-- The node keeps the zone it is put into. -/
  zone : ∀ z s, (H.applyLabels plan.nodeName (.ofList [(Node.zoneLabel, z)]) s).1 = .ok () ∧
    holds (H.applyLabels plan.nodeName (.ofList [(Node.zoneLabel, z)]) s).2 = (holds s).putInZone z
  /-- Device files are constant. -/
  read : ∀ path s, (H.readDevice path s).1 = device path ∧ holds (H.readDevice path s).2 = holds s

/-! ### Failures -/

/-- How a request fails that is struck, whatever it asks for. -/
structure Fault where
  /-- How running a program fails. -/
  run : RunFault
  /-- Why the state of the program in the background is not known. -/
  child : ChildFault
  /-- How a request to the cluster fails. -/
  cluster : ClusterFault
  deriving DecidableEq

section

variable {σ α : Type}

/-- A request that uses up one entry of a list of failures. If it is struck it fails and changes
nothing; behind the end of the list nothing is struck. -/
def struck (fail : Fault → α) (ask : σ → α × σ) (s : σ × List (Option Fault)) :
    α × (σ × List (Option Fault)) :=
  match s.2 with
  | some f :: rest => (fail f, (s.1, rest))
  | _ => ((ask s.1).1, ((ask s.1).2, s.2.tail))

/-- The host on which failures strike. -/
def Host.withFaults (H : Host σ) : Host (σ × List (Option Fault)) where
  run c := struck (fun f ↦ .error f.run) (H.run c)
  start c := struck (fun _ ↦ false) (H.start c)
  childState := struck (fun f ↦ .error f.child) H.childState
  getNode name := struck (fun f ↦ .error f.cluster) (H.getNode name)
  applyLabels name labels := struck (fun f ↦ .error f.cluster) (H.applyLabels name labels)
  readDevice path := struck (fun _ ↦ none) (H.readDevice path)

/-- A request is struck, which takes a failure, and changes nothing; or it is answered as if there
were no failures. One entry is used up either way. -/
theorem struck_cases (fail : Fault → α) (ask : σ → α × σ) (s : σ × List (Option Fault)) :
    (∃ f, struck fail ask s = (fail f, s.1, s.2.tail) ∧ s.2 ≠ []) ∨
      struck fail ask s = ((ask s.1).1, (ask s.1).2, s.2.tail) := by
  unfold struck
  split
  · next f rest h => exact .inl ⟨f, by rw [h, List.tail_cons], by simp [h]⟩
  · exact .inr rfl

/-- A request uses up one entry. -/
@[simp] theorem struck_rest (fail : Fault → α) (ask : σ → α × σ) (s : σ × List (Option Fault)) :
    (struck fail ask s).2.2 = s.2.tail := by
  rcases struck_cases fail ask s with ⟨f, h, -⟩ | h <;> rw [h]

/-- A fault strikes one request: the command has no effect, and its answer is the fault. -/
theorem Host.withFaults_run (H : Host σ) (c : Command) (s : σ × List (Option Fault)) :
    H.withFaults.run c s = struck (fun f ↦ .error f.run) (H.run c) s := rfl

theorem Host.withFaults_start (H : Host σ) (c : Command) (s : σ × List (Option Fault)) :
    H.withFaults.start c s = struck (fun _ ↦ false) (H.start c) s := rfl

theorem Host.withFaults_childState (H : Host σ) (s : σ × List (Option Fault)) :
    H.withFaults.childState s = struck (fun f ↦ .error f.child) H.childState s := rfl

/-- The session with the failures that are to come. -/
def Session.facing (s : Session (σ × List (Option Fault))) (faults : List (Option Fault)) :
    Session (σ × List (Option Fault)) :=
  { s with host := (s.host.1, faults) }

/-- The session after passes that were made one after the other, each at its own time and with its
own failures. -/
def afterAttempts (H : Host σ) (roots : Roots) (plan : Plan) :
    List (Nat × List (Option Fault)) → Session (σ × List (Option Fault)) →
      Session (σ × List (Option Fault))
  | [], s => s
  | (now, faults) :: rest, s =>
    afterAttempts H roots plan rest
      ((Pass.converge H.withFaults roots plan now).exec (s.facing faults)).2

end

end DpuNetwork
