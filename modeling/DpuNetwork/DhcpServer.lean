import DpuNetwork.Failure

/-!
# The DHCP server on the overlay bridge

The server hands one address to one physical function of the host. Its MTU option is the overlay MTU
plus the room that the encapsulation takes, as a sum of words of 32 bits. There is a largest overlay
MTU for which the sum is still the length of an IPv4 packet; beyond it, and where the sum overflows,
the server cannot be told what to do.
-/

namespace DpuNetwork

open Ipv4

/-- The program that serves DHCP. -/
def dhcpProgram : String := "dnsmasq"

/-- What the encapsulation adds to a packet. -/
def encapsulationOverhead : BitVec 32 := 60

/-- The largest overlay MTU whose encapsulated packets are IPv4 packets. -/
def maxOverlayMtu : BitVec 32 := 65535 - encapsulationOverhead

/-- What the DHCP server is told. -/
structure DhcpServer where
  /-- The interface it serves. -/
  interface : String
  /-- The MTU of the overlay. -/
  mtu : BitVec 32
  /-- The address of the tunnel endpoint; its network is the range that is served. -/
  endpoint : Cidr
  /-- The subnet of all tunnel endpoints. -/
  endpoints : Cidr
  /-- The gateway to the endpoints outside the served network. -/
  gateway : Address
  /-- The Ethernet address that gets the lease. -/
  clientMac : Mac
  /-- The address that is leased. -/
  client : Cidr
  deriving DecidableEq

namespace DhcpServer

/-- Whether the subnet of all endpoints reaches beyond the network of this one, so that the rest of
it needs a route. -/
def needsRoute (endpoint endpoints : Cidr) : Bool := endpoints.isWiderThan endpoint

/-- The sum of two words, unless it overflows. -/
def checkedSum? (x y : BitVec 32) : Option (BitVec 32) :=
  if x.uaddOverflow y then none else some (x + y)

/-- The MTU of the host: that of the overlay and what the encapsulation adds, if the sum does not
overflow and the overlay MTU is not too large. -/
def hostMtu? (mtu : BitVec 32) : Option (BitVec 32) :=
  (checkedSum? mtu encapsulationOverhead).filter fun _ ↦ mtu ≤ maxOverlayMtu

/-- The arguments of the server. There is no name service and no default route for the client, the
client's lease is fixed, and the rest of the endpoints is announced as a route if there is one. -/
def args (s : DhcpServer) : Except Failure (List String) :=
  match hostMtu? s.mtu with
  | none => .error (.config (.mtuTooLarge s.mtu))
  | some mtu => .ok ([
      "--keep-in-foreground",
      "--port=0",
      "--log-facility=-",
      "--interface=" ++ s.interface,
      "--dhcp-option=option:router",
      "--dhcp-option=option:mtu," ++ toString mtu.toNat,
      "--dhcp-range=" ++ s.endpoint.networkAddress.text ++ ",static",
      "--dhcp-host=" ++ String.ofList s.clientMac.renderLower ++ "," ++ s.client.address.text] ++
      if needsRoute s.endpoint s.endpoints then
        ["--dhcp-option=option:classless-static-route," ++ s.endpoints.text ++ "," ++
          s.gateway.text]
      else [])

end DhcpServer

end DpuNetwork
