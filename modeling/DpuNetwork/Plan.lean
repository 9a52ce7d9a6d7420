import DpuNetwork.Ipv4.Cidr

/-!
# What a pass is to bring about

The complete and consistent form of a configuration: the settings of a mode exist only inside that
mode, so a plan cannot lack a setting of its mode or hold one of the other.
-/

namespace DpuNetwork

open Ipv4

/-- The settings for a bridge address that is configured here. -/
structure InternalMode where
  /-- The address of the tunnel endpoint on the overlay bridge. -/
  endpoint : Cidr
  /-- The gateway of the overlay. -/
  gateway : Address
  /-- The address that the host's physical function gets from the DHCP server. -/
  client : Cidr
  deriving DecidableEq

/-- The settings for a bridge address that comes from elsewhere. -/
structure ExternalMode where
  /-- The network whose route tells the gateway of the overlay. -/
  discovery : Cidr
  deriving DecidableEq

/-- How the overlay bridge gets its address. -/
inductive Mode where
  /-- It is configured here. -/
  | internal (m : InternalMode)
  /-- It comes from a DHCP server elsewhere. -/
  | external (m : ExternalMode)
  deriving DecidableEq

/-- Everything that a pass needs to know. -/
structure Plan where
  /-- How the overlay bridge gets its address. -/
  mode : Mode
  /-- The subnet of all tunnel endpoints. -/
  endpoints : Cidr
  /-- The subnet of the hosts. -/
  hosts : Cidr
  /-- The name of the cluster node that the agent runs on. -/
  nodeName : String
  /-- The MTU of the overlay. -/
  mtu : BitVec 32
  /-- The least time between two applications of the bridge definition, in milliseconds. -/
  cooldown : Nat
  deriving DecidableEq

/-- Where the agent finds and leaves files. -/
structure Roots where
  /-- The root of the files it writes. -/
  files : String := "/"
  /-- The root of the device files. -/
  devices : String := "/sys"
  deriving DecidableEq

end DpuNetwork
