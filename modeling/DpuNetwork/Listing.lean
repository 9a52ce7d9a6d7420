import DpuNetwork.Failure
import DpuNetwork.Json.Reader
import DpuNetwork.Json.Record

/-!
# What the kernel reports about addresses, routes and rules

The listings of the `ip` command in JSON, decoded into entries, and the questions that are asked of
the entries: which addresses an interface has, whether a route through a gateway is there, which
gateway leads to a destination, whether a policy rule is there. Decoding and asking are apart, so
that every question is one about a list of entries.

Addresses are compared in their written form. The written form is unique, so this is the comparison
of addresses.
-/

namespace DpuNetwork

open Ipv4

/-- An address that an interface has. -/
structure AddressEntry where
  /-- The address family; `inet` is IPv4. -/
  family : String
  /-- The written form of the address. -/
  address : String
  /-- The prefix length, at most 255. -/
  prefixLength : Nat
  deriving DecidableEq

/-- An interface with its addresses. -/
structure LinkEntry where
  /-- The addresses in the order of the listing. -/
  addresses : List AddressEntry
  deriving DecidableEq

/-- A route. -/
structure RouteEntry where
  /-- The written form of the next hop, if the route has one. -/
  gateway : Option String
  /-- The interface, if the route names one. -/
  device : Option String
  deriving DecidableEq

/-- A policy rule. -/
structure RuleEntry where
  /-- The priority. -/
  priority : Nat
  /-- The written form of the source address, or a word such as `all`. -/
  source : Option String
  /-- The prefix length of the source; left out when it is 32. -/
  sourceLength : Option Nat
  /-- The routing table, a number or a name. -/
  table : Option String
  deriving DecidableEq

namespace Listing

open Json (Field)

/-- Decodes an address of an interface. -/
def address? (j : Json) : Option AddressEntry :=
  match Json.fields? ["family", "local", "prefixlen"] j with
  | some [family, address, prefixLength] => do
    pure {
      family := ← family.required? Json.text?
      address := ← address.required? Json.text?
      prefixLength := ← prefixLength.required? (Json.natural? 255) }
  | _ => none

/-- Decodes an interface. -/
def link? (j : Json) : Option LinkEntry :=
  match Json.fields? ["addr_info"] j with
  | some [addresses] => (addresses.withDefault? [] (Json.list? address?)).map LinkEntry.mk
  | _ => none

/-- Decodes a route. -/
def route? (j : Json) : Option RouteEntry :=
  match Json.fields? ["gateway", "dev"] j with
  | some [gateway, device] => do
    pure { gateway := ← gateway.optional? Json.text?, device := ← device.optional? Json.text? }
  | _ => none

/-- Decodes a policy rule. -/
def rule? (j : Json) : Option RuleEntry :=
  match Json.fields? ["priority", "src", "srclen", "table"] j with
  | some [priority, source, sourceLength, table] => do
    pure {
      priority := ← priority.required? (Json.natural? 4294967295)
      source := ← source.optional? Json.text?
      sourceLength := ← sourceLength.optional? (Json.natural? 255)
      table := ← table.optional? Json.text? }
  | _ => none

/-- Decodes a whole listing. -/
def entries {α : Type} (decode : Json → Option α) (s : String) : Except Failure (List α) :=
  match (Json.ofString? s).bind (Json.list? decode) with
  | some es => .ok es
  | none => .error .json

/-- Decodes a listing of interfaces. -/
def links (s : String) : Except Failure (List LinkEntry) := entries link? s

/-- Decodes a listing of routes. -/
def routes (s : String) : Except Failure (List RouteEntry) := entries route? s

/-- Decodes a listing of policy rules. -/
def rules (s : String) : Except Failure (List RuleEntry) := entries rule? s

/-- The IPv4 address of an entry, with its prefix length. -/
def cidr (e : AddressEntry) : Except Failure Cidr :=
  match Address.ofText? e.address with
  | none => .error (.unreadable (.interfaceAddress e.address))
  | some a => match Cidr.ofParts? a e.prefixLength with
    | none => .error (.unreadable .interfacePrefixLength)
    | some c => .ok c

/-- The IPv4 entries of all interfaces, in order. -/
def inetEntries (ls : List LinkEntry) : List AddressEntry :=
  (ls.flatMap LinkEntry.addresses).filter fun e ↦ e.family == "inet"

/-- The IPv4 addresses of all interfaces, in order. The first entry that cannot be read refuses
them all. -/
def addresses (ls : List LinkEntry) : Except Failure (List Cidr) := (inetEntries ls).mapM cidr

/-- Whether a route goes through a gateway out of an interface. -/
def routeMatches (gateway : Address) (device : String) (r : RouteEntry) : Bool :=
  r.gateway == some gateway.text && r.device == some device

/-- Whether some route goes through a gateway out of an interface. -/
def hasRoute (gateway : Address) (device : String) (rs : List RouteEntry) : Bool :=
  rs.any (routeMatches gateway device)

/-- Whether a rule sends traffic from the network `source` to a table at a priority. A rule without
prefix length is one for a single address. -/
def ruleMatches (source : Cidr) (table priority : Nat) (r : RuleEntry) : Bool :=
  r.priority == priority && r.table == some (toString table) &&
    r.source == some source.networkAddress.text &&
    r.sourceLength.getD 32 == source.prefixLength

/-- Whether some rule sends traffic from the network of `source` to a table at a priority. -/
def hasRule (source : Cidr) (table priority : Nat) (rs : List RuleEntry) : Bool :=
  rs.any (ruleMatches source.network table priority)

/-- The gateway of the first route that has one. -/
def firstGateway (destination : Cidr) (rs : List RouteEntry) : Except Failure Address :=
  match rs.findSome? RouteEntry.gateway with
  | none => .error (.noGateway destination)
  | some g => match Address.ofText? g with
    | none => .error (.unreadable (.gateway g))
    | some a => .ok a

end Listing

end DpuNetwork
