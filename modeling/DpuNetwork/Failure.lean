import DpuNetwork.Command
import DpuNetwork.Ipv4.Cidr
import DpuNetwork.Mac

/-!
# Why something failed

Every way in which loading a configuration, an operation on the host or a whole pass can fail, as a
cause; the wording of each cause stands in its `message`. A transient failure is expected to clear
up in a later pass (`isTransient`), a fatal one is not cured by any later pass (`isFatal`); no
failure is both.
-/

namespace DpuNetwork

open Ipv4

/-- The mode of address management that a configuration asks for. -/
inductive ModeKind where
  /-- The bridge address is configured here, and the host gets its address from here. -/
  | internal
  /-- The bridge address comes from a DHCP server elsewhere. -/
  | external
  deriving DecidableEq, Inhabited

/-- The word for a mode. -/
def ModeKind.text : ModeKind → String
  | .internal => "internal"
  | .external => "external"

/-- What is wrong with a configuration. -/
inductive ConfigFault where
  /-- A source cannot be read, or a setting does not have its type. -/
  | unloadable
  /-- A setting is given that only the other mode has. -/
  | stray (setting : String) (only : ModeKind)
  /-- A setting is missing. -/
  | required (setting : String)
  /-- The MTU lies outside the accepted range. -/
  | mtuOutside (mtu low high : BitVec 32)
  /-- The MTU leaves no room for the encapsulation. -/
  | mtuTooLarge (mtu : BitVec 32)
  deriving DecidableEq

/-- The wording of a configuration fault. -/
def ConfigFault.message : ConfigFault → String
  | .unloadable => "Failed to load configuration"
  | .stray setting only => setting ++ " is only valid in " ++ only.text ++ " IPAM mode"
  | .required setting => setting ++ " is required"
  | .mtuOutside mtu low high =>
    "mtu " ++ toString mtu.toNat ++ " is outside " ++ toString low.toNat ++ "..=" ++
      toString high.toNat
  | .mtuTooLarge mtu => "mtu " ++ toString mtu.toNat ++ " is too large"

/-- What cannot be read in the answer of a program or in a device file. -/
inductive Unreadable where
  /-- The address of an interface is no dotted quad. -/
  | interfaceAddress (text : String)
  /-- The prefix length of an interface address is over 32. -/
  | interfacePrefixLength
  /-- The gateway of a route is no dotted quad. -/
  | gateway (text : String)
  /-- The device file of a host function has no line for its address. -/
  | functionConfig
  /-- The address of a host function is not readable. -/
  | functionMac (text : String) (fault : MacFault)
  deriving DecidableEq

/-- The wording of what cannot be read. -/
def Unreadable.message : Unreadable → String
  | .interfaceAddress text => "interface address: " ++ text ++ ": invalid IPv4 address syntax"
  | .interfacePrefixLength => "interface address: invalid prefix"
  | .gateway text => "gateway: " ++ text ++ ": invalid IPv4 address syntax"
  | .functionConfig => "PF config: no MAC line"
  | .functionMac text fault => "PF MAC: " ++ text ++ ": " ++ fault.message

/-- The step of file work that failed. -/
inductive FileStep where
  /-- Reading a file. -/
  | read
  /-- Creating a directory and those above it. -/
  | createDirs
  /-- Writing a file. -/
  | write
  /-- Giving a file its final name. -/
  | rename
  deriving DecidableEq

/-- The word for a step of file work. -/
def FileStep.text : FileStep → String
  | .read => "reading"
  | .createDirs => "fs::create_dir_all"
  | .write => "fs::write"
  | .rename => "fs::rename"

/-- Why the DHCP server is no longer there. -/
inductive ExitStatus where
  /-- It ended by itself. -/
  | code (n : Int)
  /-- A signal ended it. -/
  | signal
  deriving DecidableEq

/-- The wording of an exit status. -/
def ExitStatus.message : ExitStatus → String
  | .code n => "exit status: " ++ toString n
  | .signal => "killed by signal"

/-- A cause of failure. -/
inductive Failure where
  /-- The cluster did not do what was asked. -/
  | cluster
  /-- The cluster has no node of this name. -/
  | nodeNotFound (node : String)
  /-- The node lacks a label, or its value is empty. -/
  | missingLabel (node label : String)
  /-- The configuration is at fault. -/
  | config (fault : ConfigFault)
  /-- An interface does not have exactly one address. -/
  | addressCount (interface : String) (count : Nat)
  /-- The overlay bridge has no address yet. -/
  | noBridgeAddress (interface : String)
  /-- No route gives a gateway. -/
  | noGateway (destination : Cidr)
  /-- A program ran and failed. -/
  | command (text status stderr : String)
  /-- A program could not be started. -/
  | spawn (text : String)
  /-- The DHCP server ended. -/
  | dhcpServerExited (status : ExitStatus)
  /-- A file operation failed. -/
  | file (step : FileStep) (path : String)
  /-- An answer has the wrong content. -/
  | unreadable (what : Unreadable)
  /-- An answer is no JSON, or not of the expected shape. -/
  | json
  /-- The agent is being stopped. -/
  | cancelled
  deriving DecidableEq

namespace Failure

/-- The wording of a cause. The details that other programs add to a cause are left out. -/
def message : Failure → String
  | cluster => "Kubernetes client error"
  | nodeNotFound node => "Node '" ++ node ++ "' not found"
  | missingLabel node label => "Node '" ++ node ++ "' is missing label '" ++ label ++ "'"
  | config fault => "Configuration error: " ++ fault.message
  | addressCount interface count =>
    "Expected exactly 1 IPv4 address on " ++ interface ++ ", found " ++ toString count
  | noBridgeAddress interface => "No IPv4 address on " ++ interface ++ " yet, waiting for DHCP"
  | noGateway destination => "No gateway found for " ++ destination.text
  | command text status stderr => status ++ " for cmd '" ++ text ++ "': " ++ stderr
  | spawn text => "Failed to start '" ++ text ++ "'"
  | dhcpServerExited status => "DHCP server exited unexpectedly: " ++ status.message
  | file step path => step.text ++ " " ++ path
  | unreadable what => "Failed to parse " ++ what.message
  | json => "JSON error"
  | cancelled => "Operation cancelled"

/-- Whether the failure is expected to clear up by itself in a later pass. -/
def isTransient : Failure → Bool
  | noBridgeAddress _ => true
  | _ => false

/-- Whether no later pass can succeed, so that the agent has to be restarted. -/
def isFatal : Failure → Bool
  | dhcpServerExited _ => true
  | _ => false

end Failure

end DpuNetwork
