import DpuNetwork.Ipv4.Address

/-!
# Networks and interface addresses

A `Cidr` is an address with a prefix length of at most 32. Its host bits are kept, so the same type
serves for an interface address (`192.168.1.1/24`) and for a network (`192.168.1.0/24`); `network`
clears the host bits. Two interface addresses have the same network exactly when each lies in the
other's (`network_eq_iff`), and clearing twice is clearing once (`network_network`).

The written form is `address/length`. The reader also takes a bare address, which stands for
`/32`, and a netmask of contiguous leading ones in place of the length.
-/

namespace DpuNetwork.Ipv4

open Text

/-- An address together with the length of its network part. -/
structure Cidr where
  /-- The address, host bits included. -/
  address : Address
  /-- The number of leading bits that name the network. -/
  prefixLength : Nat
  /-- There are only 32 bits. -/
  prefixLength_le : prefixLength ≤ 32
  deriving DecidableEq

/-- Why a text is no network. -/
inductive CidrFault where
  /-- The part before the slash is no dotted quad. -/
  | address
  /-- The part after the slash is neither a length of at most 32 nor a netmask. -/
  | prefixLength
  /-- The text has more than one slash. -/
  | slashes (text : String)
  deriving DecidableEq

/-- The wording of a fault. -/
def CidrFault.message : CidrFault → String
  | .address => "invalid address: invalid IPv4 address syntax"
  | .prefixLength => "invalid prefix"
  | .slashes text => "invalid cidr format: CIDR must contain a single '/': " ++ text

namespace Cidr

/-- An address with a prefix length, if the length is one. -/
def ofParts? (a : Address) (n : Nat) : Option Cidr :=
  if h : n ≤ 32 then some ⟨a, n, h⟩ else none

/-- The number of host bits. -/
def hostBits (c : Cidr) : Nat := 32 - c.prefixLength

/-- An address with its lowest `k` bits cleared. -/
def clearLow (k : Nat) (a : Address) : Address := ⟨(a.bits >>> k) <<< k⟩

/-- The address of the network: all host bits cleared. -/
def networkAddress (c : Cidr) : Address := clearLow c.hostBits c.address

/-- The network that contains the address. -/
def network (c : Cidr) : Cidr := ⟨c.networkAddress, c.prefixLength, c.prefixLength_le⟩

/-- The network that contains every address. -/
def defaultRoute : Cidr := ⟨.unspecified, 0, by decide⟩

/-- The network that contains only the address `a`. -/
def single (a : Address) : Cidr := ⟨a, 32, by decide⟩

/-- The network that contains only the address of `c`. -/
def host (c : Cidr) : Cidr := single c.address

/-- Whether an address lies in the network of `c`. -/
def contains (c : Cidr) (a : Address) : Bool :=
  a.bits >>> c.hostBits == c.address.bits >>> c.hostBits

/-- Whether `c` names fewer leading bits than `d`. -/
def isWiderThan (c d : Cidr) : Bool := c.prefixLength < d.prefixLength

/-- The written form. -/
def render (c : Cidr) : List Char := c.address.render ++ '/' :: numeral c.prefixLength

/-- The written form. -/
def text (c : Cidr) : String := String.ofList c.render

/-- The netmask with `n` leading ones. -/
def mask (n : Nat) : Address := clearLow (32 - n) ⟨BitVec.allOnes 32⟩

/-- The number of leading ones of a netmask; no other address is one. -/
def maskLength? (a : Address) : Option Nat := (List.range 33).find? fun n ↦ mask n = a

/-- Reads what stands behind the slash. -/
def prefixLength? (s : List Char) : Option Nat :=
  match Address.parse? s with
  | some a => maskLength? a
  | none => bounded? 255 s

/-- Reads a network. The number of slashes is looked at first, then the address, then the length. -/
def parse (s : List Char) : Except CidrFault Cidr :=
  match cut '/' s with
  | [a] => match Address.parse? a with
    | some x => .ok (single x)
    | none => .error .address
  | [a, n] => match Address.parse? a with
    | some x => match (prefixLength? n).bind (ofParts? x) with
      | some c => .ok c
      | none => .error .prefixLength
    | none => .error .address
  | _ => .error (.slashes (String.ofList s))

/-- Reads a network. -/
def ofText (s : String) : Except CidrFault Cidr := parse s.toList

/-- Reads a network, without the reason of a refusal. -/
def ofText? (s : String) : Option Cidr := (ofText s).toOption

@[ext] theorem ext {c d : Cidr} (ha : c.address = d.address)
    (hp : c.prefixLength = d.prefixLength) : c = d := by
  cases c; cases d; simp_all

@[simp] theorem prefixLength_network (c : Cidr) : c.network.prefixLength = c.prefixLength := rfl

@[simp] theorem address_network (c : Cidr) : c.network.address = c.networkAddress := rfl

@[simp] theorem hostBits_network (c : Cidr) : c.network.hostBits = c.hostBits := rfl

/-- A bit of a cleared address. -/
theorem getLsbD_clearLow (k : Nat) (a : Address) (i : Nat) :
    (clearLow k a).bits.getLsbD i = (decide (k ≤ i) && a.bits.getLsbD i) := by
  by_cases hi : i < 32
  · by_cases hk : k ≤ i
    · simp [clearLow, hi, hk]
    · simp [clearLow, hk, Nat.lt_of_not_le hk]
  · rw [BitVec.getLsbD_of_ge _ _ (by omega), BitVec.getLsbD_of_ge _ _ (by omega), Bool.and_false]

/-- Clearing twice is clearing once. -/
theorem clearLow_clearLow (k : Nat) (a : Address) : clearLow k (clearLow k a) = clearLow k a := by
  have h : (clearLow k (clearLow k a)).bits = (clearLow k a).bits :=
    BitVec.eq_of_getLsbD_eq fun i _ ↦ by
      rw [getLsbD_clearLow, getLsbD_clearLow, ← Bool.and_assoc, Bool.and_self]
  exact congrArg Address.mk h

/-- The network of a network is that network. -/
@[simp] theorem network_network (c : Cidr) : c.network.network = c.network :=
  Cidr.ext (clearLow_clearLow _ _) rfl

/-- The bits above `k` agree exactly when the cleared addresses do. -/
theorem clearLow_eq_iff {k : Nat} {a b : Address} :
    clearLow k a = clearLow k b ↔ a.bits >>> k = b.bits >>> k := by
  constructor
  · intro h
    apply BitVec.eq_of_getLsbD_eq
    intro i _
    have := congrArg (fun x : Address ↦ x.bits.getLsbD (k + i)) h
    simpa [getLsbD_clearLow] using this
  · intro h
    simp [clearLow, h]

/-- Two interface addresses of one length have the same network exactly when one lies in the
network of the other. -/
theorem network_eq_iff {c d : Cidr} (h : c.prefixLength = d.prefixLength) :
    c.network = d.network ↔ c.contains d.address = true := by
  have hb : c.hostBits = d.hostBits := by simp [hostBits, h]
  rw [contains, beq_iff_eq, eq_comm (a := d.address.bits >>> c.hostBits), ← clearLow_eq_iff]
  constructor
  · intro e
    have := congrArg Cidr.address e
    simpa [networkAddress, hb] using this
  · intro e
    exact Cidr.ext (by simpa [networkAddress, hb] using e) h

end Cidr

end DpuNetwork.Ipv4
