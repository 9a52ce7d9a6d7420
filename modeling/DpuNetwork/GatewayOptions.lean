import DpuNetwork.Ipv4.Cidr

/-!
# Files for the overlay network

The two files that the provisioner owns: the gateway options that the overlay network's node agent
reads, and the definition of the overlay bridge for hosts whose bridge address comes from DHCP.
-/

namespace DpuNetwork

open Ipv4

/-- The next hop of the overlay and the subnet of its router. -/
structure GatewayOptions where
  /-- The next hop. -/
  nextHop : Address
  /-- The router's subnet. -/
  routerSubnet : Cidr
  deriving DecidableEq

/-- The section of the options file. -/
def GatewayOptions.text (o : GatewayOptions) : String :=
  "[Gateway]\nnext-hop=" ++ o.nextHop.text ++ "\nrouter-subnet=" ++ o.routerSubnet.text ++ "\n"

/-- Where the gateway options stand, below the root of the file system. -/
def gatewayOptionsPath : String := "etc/openvswitch/ovn_k8s.conf"

/-- Where the definition of the overlay bridge stands, below the root of the file system. -/
def bridgeDefinitionPath : String := "etc/netplan/80-br-ovn.yaml"

/-- The definition of the overlay bridge: it gets its address over DHCP and leaves name resolution
alone. -/
def bridgeDefinition : String :=
  "\nnetwork:\n  renderer: networkd\n  version: 2\n  bridges:\n    br-ovn:\n      dhcp4: yes\n" ++
  "      dhcp4-overrides:\n        use-dns: no\n      openvswitch: \x7b\x7d\n"

end DpuNetwork
