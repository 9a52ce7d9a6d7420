import DpuNetwork.Config.Settings
import DpuNetwork.Config.Value
import DpuNetwork.Json.Record

/-!
# Settings from values

The types of the settings, checked the same way for every kind of value: a `Reading` tells how a
kind of value gives texts, numbers and modes, and `Settings.read?` takes each setting from what is
given for it, or its default. Types are strict: no text is taken for a number or the reverse.
-/

namespace DpuNetwork

open Ipv4

/-- How a kind of value gives the types of the settings. -/
structure Reading (β : Type) where
  /-- The text of a value that is one. -/
  text? : β → Option String
  /-- The natural number of at most the given size that a value is. -/
  natural? : Nat → β → Option Nat
  /-- The mode that a value names. -/
  mode? : β → Option ModeKind
  /-- Whether a value says that nothing is given. -/
  isNull : β → Bool

/-- The mode that a word names. -/
def ModeKind.ofText? (s : String) : Option ModeKind :=
  if s = ModeKind.internal.text then some .internal
  else if s = ModeKind.external.text then some .external
  else none

namespace Settings

variable {α β : Type}

/-- A setting with a default. -/
def withDefault? (default : α) (read : β → Option α) : Option β → Option α
  | none => some default
  | some v => read v

/-- A setting that may be left open. -/
def optional? (R : Reading β) (read : β → Option α) : Option β → Option (Option α)
  | none => some none
  | some v => if R.isNull v then some none else (read v).map some

/-- The largest number of 32 bits. -/
def limit32 : Nat := 0xffffffff

/-- The largest number of 64 bits. -/
def limit64 : Nat := 0xffffffffffffffff

/-- The word of 32 bits that a value is. -/
def word? (R : Reading β) (v : β) : Option (BitVec 32) :=
  (R.natural? limit32 v).map (BitVec.ofNat 32)

/-- The settings that are given, each by a value of its type, with defaults for the others. -/
def read? (R : Reading β) (given : Setting → Option β) : Option Settings := do
  let default : Settings := {}
  let address? (v : β) := (R.text? v).bind Address.ofText?
  let cidr? (v : β) := (R.text? v).bind Cidr.ofText?
  return {
    mode := ← withDefault? default.mode R.mode? (given .mode)
    endpoint := ← optional? R cidr? (given .endpoint)
    gateway := ← optional? R address? (given .gateway)
    client := ← optional? R cidr? (given .client)
    discovery := ← optional? R cidr? (given .discovery)
    endpoints := ← optional? R cidr? (given .endpoints)
    hosts := ← optional? R cidr? (given .hosts)
    nodeName := ← optional? R R.text? (given .nodeName)
    mtu := ← withDefault? default.mtu (word? R) (given .mtu)
    cooldown := ← withDefault? default.cooldown (R.natural? limit64) (given .cooldown)
    interval := ← withDefault? default.interval (R.natural? limit64) (given .interval)
    roots := {
      files := ← withDefault? default.roots.files R.text? (given .files)
      devices := ← withDefault? default.roots.devices R.text? (given .devices) } }

/-- How values in sources of settings are read. None of them says that nothing is given. -/
def valueReading : Reading Config.Value where
  text?
    | .text s => some s
    | _ => none
  natural? limit
    | .int n => if 0 ≤ n ∧ n ≤ limit then some n.toNat else none
    | _ => none
  mode?
    | .text s => ModeKind.ofText? s
    | _ => none
  isNull _ := false

/-- The settings in a table; keys that name no setting do not matter. -/
def ofTable? (t : Config.Table) : Option Settings :=
  read? valueReading fun s ↦ Assoc.lookup s.name t

/-- How JSON values are read. A mode may also be an object whose only member has the name of the
mode and the value `null`. -/
def jsonReading : Reading Json where
  text? := Json.text?
  natural? := Json.natural?
  mode?
    | .str s => s.bind ModeKind.ofText?
    | .obj [(name, .null)] => name.bind ModeKind.ofText?
    | _ => none
  isNull
    | .null => true
    | _ => false

/-- The settings in a JSON record. -/
def ofJson? (j : Json) : Option Settings :=
  match Json.fields? (Setting.all.map Setting.name) j with
  | none => none
  | some fields => read? jsonReading fun s ↦
    match ((Setting.all.zip fields).lookup s) with
    | some (.given v) => some v
    | _ => none

end Settings

end DpuNetwork
