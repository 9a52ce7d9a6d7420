import DpuNetwork.Config.Decoding
import DpuNetwork.Config.Environment
import DpuNetwork.Json.Reader
import DpuNetwork.Toml.Reader

/-!
# Loading settings

The settings of the agent come from a TOML file, if one is named, and from environment variables,
which count more. A file that does not exist is one that holds nothing. Whatever keeps the settings
from being loaded is one and the same fault.
-/

namespace DpuNetwork.Settings

/-- The table of settings in the bytes of a TOML file. -/
def fileTable? (contents : ByteArray) : Option Config.Table :=
  (String.fromUTF8? contents).bind Toml.parse?

/-- Loads the settings from the bytes of a file, if there is one, and from environment variables. -/
def load (file : Option ByteArray) (vars : Config.Environment.Variables) :
    Except ConfigFault Settings :=
  let table := match file with
    | some contents => fileTable? contents
    | none => some []
  match table.bind fun t ↦ ofTable? (Config.Table.layered [t, Config.Environment.table vars]) with
  | some s => .ok s
  | none => .error .unloadable

/-- Loads the settings from a JSON text. -/
def ofJsonText (s : String) : Except Failure Settings :=
  match (Json.ofString? s).bind ofJson? with
  | some s => .ok s
  | none => .error .json

end DpuNetwork.Settings
