import DpuNetwork.Failure
import DpuNetwork.Text.Blank

/-!
# The device file of a host function

The driver of the network card shows the settings of each physical function of the host as lines of
the form `key : value`. The Ethernet address stands in the first line whose key is `MAC`; blanks
around key and value do not count, and a line without a colon has no key.
-/

namespace DpuNetwork.FunctionConfig

open Text

/-- The path of the device file of a function, below the root of the device files. -/
def path (index : Nat) : String := "class/net/p" ++ toString index ++ "/smart_nic/pf/config"

/-- The key and the value of a line. -/
def setting? (line : List Char) : Option (List Char × List Char) :=
  (cutOnce ':' line).map fun (k, v) ↦ (trim k, trim v)

/-- The value in the first line that has the given key. -/
def value? (key s : List Char) : Option (List Char) :=
  ((lines s).filterMap setting?).findSome? fun (k, v) ↦ if k = key then some v else none

/-- The Ethernet address of the function. -/
def mac (s : String) : Except Failure Mac :=
  match value? ['M', 'A', 'C'] s.toList with
  | none => .error (.unreadable .functionConfig)
  | some v => match Mac.parse v with
    | .ok m => .ok m
    | .error fault => .error (.unreadable (.functionMac (String.ofList v) fault))

end DpuNetwork.FunctionConfig
