import DpuNetwork.Host.Scripted
import DpuNetwork.Proofs.Course.Severity
import DpuNetwork.Proofs.Kernel.Reading

/-!
# Host bits in routes and rules

Routes and rules are about networks, and the host bits of a configured network never reach a command
that is about one. So two interface addresses of one network are the same to all operations on
routes and rules (`SameOn`): they are looked for by the same command and in the same way, and they
are added by the same command. Only where no route has a gateway, the failure names the address that
was asked for.

The network stands in a command by its text. That text has no host bits, is the same in the listing
that is asked for and in the addition that is made, and is read back as the network.

## Main statements

* `gatewayIn_alike`: how the gateway in a listing depends on where it is to lead;
* `Pass.sameOn_of_network_eq`: host bits do not matter.
-/

namespace DpuNetwork

open Ipv4 Pass

variable {a b : Cidr} {text : String}

/-- **The gateway in a listing** does not depend on where it is to lead, unless there is none. -/
theorem gatewayIn_alike (a b : Cidr) (text : String) :
    (gatewayIn a text = gatewayIn b text ∧ ∀ d, gatewayIn a text ≠ .error (.noGateway d)) ∨
      (gatewayIn a text = .error (.noGateway a) ∧ gatewayIn b text = .error (.noGateway b)) := by
  rw [gatewayIn, gatewayIn]
  cases hroutes : Listing.routes text with
  | error f =>
    have hplain : f.IsPlain := isPlain_of_entries hroutes
    refine .inl ⟨rfl, fun d hd ↦ ?_⟩
    obtain rfl := Except.error.inj hd
    exact hplain
  | ok rs =>
    show (Listing.firstGateway a rs = Listing.firstGateway b rs ∧
        ∀ d, Listing.firstGateway a rs ≠ .error (.noGateway d)) ∨
      (Listing.firstGateway a rs = .error (.noGateway a) ∧
        Listing.firstGateway b rs = .error (.noGateway b))
    rw [Listing.firstGateway, Listing.firstGateway]
    cases rs.findSome? RouteEntry.gateway with
    | none => exact .inr ⟨rfl, rfl⟩
    | some t => cases hread : Address.ofText? t <;> exact .inl ⟨rfl, by simp [hread]⟩

namespace Pass

variable {σ : Type} (H : Host σ) (s : Session σ)

theorem exec_gatewayTo (destination : Cidr) : (gatewayTo H destination).exec s =
    (readAnswer (Network.lookUp destination) (gatewayIn destination)
        (H.run (Network.lookUp destination) s.host).1,
      s.told (H.run (Network.lookUp destination) s.host).2
        (.run (Network.lookUp destination) (H.run (Network.lookUp destination) s.host).1)) := by
  rw [gatewayTo_eq, exec_run_bind_lift]

/-- Two addresses are the same to what a pass asks and does about routes and rules. -/
structure SameOn (a b : Cidr) : Prop where
  /-- The routes to exactly one network are listed by the same command. -/
  showRoutes : ∀ table, Network.showRoutes a table = Network.showRoutes b table
  /-- A route is looked for in the same way. -/
  hasRoute : ∀ gateway device table,
    Pass.hasRoute H a gateway device table = Pass.hasRoute H b gateway device table
  /-- A route is added by the same command. -/
  addRoute : ∀ gateway device metric table,
    Network.addRoute a gateway device metric table = Network.addRoute b gateway device metric table
  /-- A rule is looked for in the same way. -/
  hasRule : ∀ table priority, Pass.hasRule H a table priority = Pass.hasRule H b table priority
  /-- A rule is added by the same command. -/
  addRule : ∀ table priority, Network.addRule a table priority = Network.addRule b table priority
  /-- A gateway is looked up by the same command. -/
  lookUp : Network.lookUp a = Network.lookUp b
  /-- The same gateway or failure is found, unless no route has a gateway: then the failure names
  the address that was asked for. -/
  gatewayTo : ∀ s, ((Pass.gatewayTo H a).exec s).2 = ((Pass.gatewayTo H b).exec s).2 ∧
    ((((Pass.gatewayTo H a).exec s).1 = ((Pass.gatewayTo H b).exec s).1 ∧
        ∀ d, ((Pass.gatewayTo H a).exec s).1 ≠ .error (.noGateway d)) ∨
      (((Pass.gatewayTo H a).exec s).1 = .error (.noGateway a) ∧
        ((Pass.gatewayTo H b).exec s).1 = .error (.noGateway b)))

/-- The text by which the network of an address stands in commands. -/
structure NetworkText (a : Cidr) (text : String) : Prop where
  /-- It is what the routes to exactly one network are asked for by. -/
  asked : ∀ table, (Network.showRoutes a table).args.getLast? = some text
  /-- It is where an added route leads. -/
  added : ∀ gateway device metric table,
    (Network.addRoute a gateway device metric table).args[2]? = some text
  /-- It is read back as the network. -/
  read : Cidr.ofText? text = some a.network
  /-- The network has no host bits; in all other bits it is the address. -/
  bits : ∀ i, a.network.address.bits.getLsbD i =
    (decide (a.hostBits ≤ i) && a.address.bits.getLsbD i)

theorem networkText (a : Cidr) : NetworkText a a.network.text where
  asked table := by cases table <;> rfl
  added _ _ _ _ := rfl
  read := Cidr.ofText?_text _
  bits := Cidr.getLsbD_clearLow a.hostBits a.address

variable {H}

/-- **Host bits do not matter** to routes and rules: addresses of one network are the same to all
that is asked and done, and that network stands in the commands. -/
theorem sameOn_of_network_eq (h : a.network = b.network) :
    SameOn H a b ∧ NetworkText a a.network.text ∧ NetworkText b a.network.text := by
  have hlength : a.prefixLength = b.prefixLength := by simpa using congrArg Cidr.prefixLength h
  have haddress : a.networkAddress = b.networkAddress := by simpa using congrArg Cidr.address h
  have hshow (table : Option Nat) : Network.showRoutes a table = Network.showRoutes b table := by
    rw [Network.showRoutes, Network.showRoutes, h]
  have hlookUp : Network.lookUp a = Network.lookUp b := by
    rw [Network.lookUp, Network.lookUp, hlength, haddress]
  refine ⟨⟨hshow, fun gateway device table ↦ ?_, fun gateway device metric table ↦ ?_,
    fun table priority ↦ ?_, fun table priority ↦ ?_, hlookUp, fun s ↦ ?_⟩,
    networkText a, h ▸ networkText b⟩
  · rw [hasRoute, hasRoute, hshow]
  · rw [Network.addRoute, Network.addRoute, h]
  · have hrule : Listing.hasRule a table priority = Listing.hasRule b table priority := by
      funext rs
      rw [Listing.hasRule, Listing.hasRule, h]
    rw [hasRule, hasRule, hrule]
  · rw [Network.addRule, Network.addRule, h]
  · rw [exec_gatewayTo, exec_gatewayTo, hlookUp]
    refine ⟨rfl, ?_⟩
    cases (H.run (Network.lookUp b) s.host).1 with
    | error f => exact .inl ⟨rfl, fun d ↦ by cases f <;> simp [RunFault.toFailure]⟩
    | ok text => exact gatewayIn_alike a b text

/-- A session with a host that has no default route. -/
def routelessSession : Session Script where
  host := .answering (Network.lookUp Cidr.defaultRoute) (Json.arr []).toText
  memory := ⟨⟨0, none⟩, false⟩

/-- Two addresses of one network, and two of the network of all addresses. Where there is no default
route, the failure names the one of these that was asked for. -/
theorem sameOn_of_network_eq_wide :
    SameOn scriptedHost (Cidr.ofBits 0xc0a80100 23) (Cidr.ofBits 0xc0a80003 23) ∧
      NetworkText (Cidr.ofBits 0xc0a80003 23) "192.168.0.0/23" ∧
      SameOn scriptedHost (Cidr.ofBits 0x0a010203 0) Cidr.defaultRoute ∧
      NetworkText (Cidr.ofBits 0x0a010203 0) "0.0.0.0/0" ∧
      ((gatewayTo scriptedHost (Cidr.ofBits 0x0a010203 0)).exec routelessSession).1 =
        .error (.noGateway (Cidr.ofBits 0x0a010203 0)) := by
  have hnarrow : (Cidr.ofBits 0xc0a80100 23).network = (Cidr.ofBits 0xc0a80003 23).network := by
    decide
  have hwide : (Cidr.ofBits 0x0a010203 0).network = Cidr.defaultRoute.network := by decide
  obtain ⟨hsame, -, htext⟩ := sameOn_of_network_eq (H := scriptedHost) hnarrow
  obtain ⟨hall, htextAll, -⟩ := sameOn_of_network_eq (H := scriptedHost) hwide
  have hdefault : ((gatewayTo scriptedHost Cidr.defaultRoute).exec routelessSession).1 =
      .error (.noGateway Cidr.defaultRoute) := by
    have hroutes : Listing.routes (Json.arr []).toText = .ok [] := by
      rw [Listing.routes, entries_eq_ok_iff, arrayItems?_toText (by simp)]
      rfl
    rw [exec_gatewayTo, routelessSession, Script.run_answering, readAnswer_ok, gatewayIn, hroutes]
    rfl
  refine ⟨hsame, htext, hall, htextAll, ?_⟩
  obtain ⟨heq, hne⟩ | ⟨ha, -⟩ := (hall.gatewayTo routelessSession).2
  · exact absurd (heq.trans hdefault) (hne _)
  · exact ha

end Pass

end DpuNetwork
