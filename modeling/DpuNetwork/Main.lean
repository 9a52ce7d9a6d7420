import DpuNetwork.Agent
import DpuNetwork.Text.Utf8

/-!
# The program

The outer layer of the agent: it collects the arguments, the environment and the file of settings,
hands them to `Start.ofArgs`, and prints what the start has come to. There is no client of the
cluster here, so a start with a plan ends with the report of that.
-/

namespace DpuNetwork.Main

open Text

/-- The environment variables in the bytes that list them, each with a zero byte behind it. -/
def variablesOf (listing : ByteArray) : Config.Environment.Variables :=
  .ofList ((cutWhere (· == 0) listing.toList).filterMap fun entry ↦
    (cutOnce '=' (Utf8.decode entry).toList).map fun (name, value) ↦
      (String.ofList name, String.ofList value))

/-- The bytes of a file, if it can be read. -/
def contents? (path : String) : IO (Option ByteArray) := do
  try return some (← IO.FS.readBinFile path) catch _ => return none

/-- The bytes of the first file that can be read. -/
def firstContents? : List String → IO (Option ByteArray)
  | [] => return none
  | path :: paths => do
    match ← contents? path with
    | some contents => return some contents
    | none => firstContents? paths

/-- The bytes of the file of settings that the command line names. -/
def settingsFile? (args : List String) : IO (Option ByteArray) := do
  match Options.ofArgs args with
  | .ok { configPath := some path, .. } =>
    firstContents? (settingsPaths (← IO.currentDir).toString path)
  | _ => return none

end DpuNetwork.Main

open DpuNetwork in
/-- Starts the agent. -/
def main (args : List String) : IO UInt32 := do
  let file ← Main.settingsFile? args
  let vars := Main.variablesOf ((← Main.contents? "/proc/self/environ").getD .empty)
  let start := Start.ofArgs args (fun _ ↦ file) vars
  let filter := Start.filter vars
  if let some text := start.output then IO.println text
  if start.announces filter then
    if let .planned _ _ plan := start then IO.println (Start.announcement plan)
  for text in start.errorLines filter do IO.eprintln text
  return start.exitCode.toUInt32
