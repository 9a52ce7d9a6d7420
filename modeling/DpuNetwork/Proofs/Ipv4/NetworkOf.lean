import Mathlib
import DpuNetwork.Proofs.Ipv4.CidrText
import DpuNetwork.Proofs.Ipv4.Networks

/-!
# The network of an address

Clearing the host bits of an interface address gives the network that the address is in. On words
this is the address under the netmask of its length; on numbers it is the nearest multiple, from
below, of the size of the network. So the addresses of a network are consecutive: they begin with
the address of the network and are as many as there are words of host bits.

## Main statements

* `Cidr.networkAddress_eq_and_mask`, `Cidr.toNat_networkAddress`: the network address as a word and
  as a number;
* `Cidr.contains_iff_toNat`: the addresses of a network are consecutive;
* `Cidr.isNetworkOf_network`: what `network` gives, for every address and every prefix length.
-/

namespace DpuNetwork.Ipv4

/-- Addresses are equal if they have the same bits. -/
theorem Address.eq_of_getLsbD {x y : Address}
    (h : ∀ i < 32, x.bits.getLsbD i = y.bits.getLsbD i) : x = y :=
  congrArg Address.mk (BitVec.eq_of_getLsbD_eq fun i hi ↦ h i hi)

namespace Cidr

variable {c d : Cidr} {a : Address}

/-! ### Words -/

/-- A netmask begins with as many ones as it is long. -/
theorem getLsbD_mask (n i : Nat) :
    (mask n).bits.getLsbD i = (decide (32 - n ≤ i) && decide (i < 32)) := by
  rw [mask, getLsbD_clearLow, BitVec.getLsbD_allOnes]

/-- **The network address is the address under the netmask.** -/
theorem networkAddress_eq_and_mask (c : Cidr) :
    c.networkAddress.bits = c.address.bits &&& (mask c.prefixLength).bits := by
  refine BitVec.eq_of_getLsbD_eq fun i hi ↦ ?_
  rw [networkAddress, getLsbD_clearLow, BitVec.getLsbD_and, getLsbD_mask, decide_eq_true hi,
    Bool.and_true, Bool.and_comm]
  rfl

/-- Without a leading bit nothing is left of an address. -/
theorem clearLow_all (a : Address) : clearLow 32 a = .unspecified := by
  refine Address.eq_of_getLsbD fun i hi ↦ ?_
  rw [getLsbD_clearLow, decide_eq_false (Nat.not_le.mpr hi), Bool.false_and]
  exact BitVec.getLsbD_zero.symm

/-- With no bits to clear, an address stays as it is. -/
theorem clearLow_zero (a : Address) : clearLow 0 a = a := by
  refine Address.eq_of_getLsbD fun i _ ↦ ?_
  rw [getLsbD_clearLow, decide_eq_true (Nat.zero_le i), Bool.true_and]

/-- The network of length 0 is the default route. -/
theorem network_of_prefixLength_eq_zero (h : c.prefixLength = 0) : c.network = defaultRoute := by
  refine Cidr.ext ?_ h
  rw [address_network, networkAddress, hostBits, h]
  exact clearLow_all c.address

/-- That of length 32 is the host itself. -/
theorem network_of_prefixLength_eq (h : c.prefixLength = 32) : c.network = c.host := by
  refine Cidr.ext ?_ h
  rw [address_network, networkAddress, hostBits, h]
  exact clearLow_zero c.address

/-! ### Numbers -/

/-- As a number, an address is rounded down to a multiple of the size of its network. -/
theorem toNat_clearLow (k : Nat) (a : Address) :
    (clearLow k a).bits.toNat = a.bits.toNat / 2 ^ k * 2 ^ k := by
  have hle : a.bits.toNat / 2 ^ k * 2 ^ k ≤ a.bits.toNat := Nat.div_mul_le_self _ _
  rw [clearLow, BitVec.toNat_shiftLeft, BitVec.toNat_ushiftRight, Nat.shiftLeft_eq,
    Nat.shiftRight_eq_div_pow, Nat.mod_eq_of_lt (Nat.lt_of_le_of_lt hle a.bits.isLt)]

/-- **The network address is a multiple of the size of the network.** -/
theorem toNat_networkAddress (c : Cidr) :
    c.networkAddress.bits.toNat = c.address.bits.toNat / 2 ^ c.hostBits * 2 ^ c.hostBits :=
  toNat_clearLow _ _

/-- **The addresses of a network are consecutive**, from that of the network on. -/
theorem contains_iff_toNat : c.contains a = true ↔
    c.networkAddress.bits.toNat ≤ a.bits.toNat ∧
      a.bits.toNat < c.networkAddress.bits.toNat + 2 ^ c.hostBits := by
  have hpos : 0 < 2 ^ c.hostBits := Nat.two_pow_pos _
  rw [contains, beq_iff_eq, ← BitVec.toNat_inj, BitVec.toNat_ushiftRight, BitVec.toNat_ushiftRight,
    Nat.shiftRight_eq_div_pow, Nat.shiftRight_eq_div_pow, Nat.div_eq_iff hpos,
    ← toNat_networkAddress]
  omega

/-! ### Networks -/

/-- A network and the addresses in it contain the same. -/
theorem contains_network (c : Cidr) (a : Address) : c.network.contains a = c.contains a := by
  rw [contains, contains, hostBits_network, address_network, networkAddress,
    clearLow_eq_iff.mp (clearLow_clearLow c.hostBits c.address)]

/-- A network has the addresses of the block that it is the network of. -/
theorem addresses_network (c : Cidr) : c.network.addresses = c.addresses :=
  Set.ext fun a ↦ by rw [mem_addresses_iff, mem_addresses_iff, contains_network]

/-- The networks of one address lie in each other by their lengths. -/
theorem addresses_network_subset_iff (h : d.address = c.address) :
    c.network.addresses ⊆ d.network.addresses ↔ d.prefixLength ≤ c.prefixLength := by
  rw [addresses_network, addresses_network, addresses_subset_iff, ← h]
  exact and_iff_left d.address_mem_addresses

/-- What the network of an interface address is. -/
structure IsNetworkOf (n c : Cidr) : Prop where
  /-- Its prefix is as long as that of the address. -/
  prefixLength : n.prefixLength = c.prefixLength
  /-- Its address has no host bits and agrees with the address in all others. -/
  bits : ∀ i, n.address.bits.getLsbD i =
    (decide (32 - c.prefixLength ≤ i) && c.address.bits.getLsbD i)
  /-- It is the address under the netmask. -/
  masked : n.address.bits = c.address.bits &&& (mask c.prefixLength).bits
  /-- The check of the prefix length does not refuse it. -/
  accepted : ofParts? c.networkAddress c.prefixLength = some n
  /-- It is its own network. -/
  fixed : n.network = n
  /-- The address lies in it. -/
  contains_address : n.contains c.address = true
  /-- What lies in it is as many consecutive addresses as there are words of host bits. -/
  contains_iff : ∀ a, n.contains a = true ↔ n.address.bits.toNat ≤ a.bits.toNat ∧
    a.bits.toNat < n.address.bits.toNat + 2 ^ (32 - c.prefixLength)
  /-- Of the addresses with a prefix of that length it is the network of those that lie in it. -/
  eq_network_iff : ∀ d : Cidr, d.prefixLength = c.prefixLength →
    (n = d.network ↔ n.contains d.address = true)
  /-- Without a prefix it is the network of all addresses. -/
  eq_defaultRoute : c.prefixLength = 0 → n = defaultRoute
  /-- With the longest prefix it is the network of the address alone. -/
  eq_host : c.prefixLength = 32 → n = c.host
  /-- It lies in the networks of the address with a prefix that is no longer, and in no other. -/
  subset_iff : ∀ d : Cidr, d.address = c.address →
    (n.addresses ⊆ d.network.addresses ↔ d.prefixLength ≤ c.prefixLength)
  /-- It is read back from its text. -/
  read : ofText n.text = .ok n

/-- **The network of an address**, for every address and every prefix length. -/
theorem isNetworkOf_network (c : Cidr) : c.network.IsNetworkOf c where
  prefixLength := rfl
  bits := getLsbD_clearLow c.hostBits c.address
  masked := networkAddress_eq_and_mask c
  accepted := ofParts?_eq c.networkAddress c
  fixed := network_network c
  contains_address := (contains_network c _).trans c.address_mem_addresses
  contains_iff a := by
    rw [contains_network]
    exact contains_iff_toNat
  eq_network_iff d h := by
    rw [contains_network]
    exact network_eq_iff h.symm
  eq_defaultRoute := network_of_prefixLength_eq_zero
  eq_host := network_of_prefixLength_eq
  subset_iff _ h := addresses_network_subset_iff h
  read := ofText_text _

/-- Without a prefix a word is shifted by its whole width. With the shortest prefix and the longest
but one a single bit is left or lost. -/
example : (⟨⟨0xffffffff⟩, 0, by decide⟩ : Cidr).network = defaultRoute ∧
    (⟨⟨0xffffffff⟩, 1, by decide⟩ : Cidr).network.address = ⟨0x80000000⟩ ∧
    (⟨⟨0xffffffff⟩, 31, by decide⟩ : Cidr).network.address = ⟨0xfffffffe⟩ := by decide

end Cidr

end DpuNetwork.Ipv4
