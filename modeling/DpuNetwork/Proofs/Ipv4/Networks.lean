import DpuNetwork.Ipv4.Cidr
import Mathlib.Data.Set.BooleanAlgebra
import Mathlib.Order.CompletePartialOrder

/-!
# Networks as sets of addresses

A `Cidr` stands for the set of the addresses in its network (`Cidr.addresses`): those that agree
with it in all bits but its host bits. One such set lies in another exactly when it has no fewer
leading bits and its own address lies there; the prefix lengths alone tell nothing.

## Main statements

* `Cidr.addresses_subset_iff`, `Cidr.addresses_ssubset_iff`: inclusion of networks by prefix length
  and one address.
-/

namespace DpuNetwork.Ipv4.Cidr

variable {c d : Cidr} {a : Address}

/-- The addresses in the network of `c`. -/
def addresses (c : Cidr) : Set Address := {a | c.contains a = true}

theorem mem_addresses_iff : a ∈ c.addresses ↔ c.contains a = true :=
  Iff.rfl

instance : DecidablePred (· ∈ c.addresses) := fun a ↦
  decidable_of_iff (c.contains a = true) mem_addresses_iff

/-- An address lies in a network exactly when it has the same bits above the host bits. -/
theorem mem_addresses_iff_getLsbD :
    a ∈ c.addresses ↔ ∀ i, c.hostBits ≤ i → a.bits.getLsbD i = c.address.bits.getLsbD i := by
  rw [mem_addresses_iff, contains, beq_iff_eq]
  constructor
  · intro h i hi
    have hbit := congrArg (fun x : BitVec 32 ↦ x.getLsbD (i - c.hostBits)) h
    simpa [BitVec.getLsbD_ushiftRight, Nat.add_sub_cancel' hi] using hbit
  · intro h
    refine BitVec.eq_of_getLsbD_eq fun i _ ↦ ?_
    rw [BitVec.getLsbD_ushiftRight, BitVec.getLsbD_ushiftRight]
    exact h _ (Nat.le_add_right _ _)

theorem address_mem_addresses (c : Cidr) : c.address ∈ c.addresses :=
  mem_addresses_iff_getLsbD.mpr fun _ _ ↦ rfl

/-- More leading bits are fewer host bits. -/
theorem hostBits_le_hostBits_iff : c.hostBits ≤ d.hostBits ↔ d.prefixLength ≤ c.prefixLength := by
  have hc := c.prefixLength_le
  have hd := d.prefixLength_le
  rw [hostBits, hostBits]
  omega

/-- The address that differs from `c` in one bit. -/
def flip (c : Cidr) (i : Nat) : Address := ⟨c.address.bits ^^^ BitVec.twoPow 32 i⟩

theorem getLsbD_flip {i j : Nat} (hi : i < 32) :
    (c.flip i).bits.getLsbD j = (c.address.bits.getLsbD j ^^ decide (i = j)) := by
  simp [flip, BitVec.getLsbD_twoPow, hi]

/-- A host bit does not lead out of the network. -/
theorem flip_mem_addresses {i : Nat} (hi : i < c.hostBits) : c.flip i ∈ c.addresses := by
  refine mem_addresses_iff_getLsbD.mpr fun j hj ↦ ?_
  have hlt : i < 32 := Nat.lt_of_lt_of_le hi (Nat.sub_le _ _)
  rw [getLsbD_flip hlt, decide_eq_false (by omega), Bool.xor_false]

/-- **Inclusion of networks.** -/
theorem addresses_subset_iff : c.addresses ⊆ d.addresses ↔
    d.prefixLength ≤ c.prefixLength ∧ d.contains c.address = true := by
  constructor
  · intro h
    have hc := h c.address_mem_addresses
    refine ⟨?_, hc⟩
    rw [← hostBits_le_hostBits_iff]
    by_contra hlt
    -- Otherwise a bit is a host bit of `c` only, and changing it leads out of `d` but not of `c`.
    have hbit := mem_addresses_iff_getLsbD.mp (h (flip_mem_addresses (Nat.lt_of_not_le hlt)))
      d.hostBits (Nat.le_refl _)
    rw [getLsbD_flip (Nat.lt_of_lt_of_le (Nat.lt_of_not_le hlt) (Nat.sub_le _ _)),
      mem_addresses_iff_getLsbD.mp hc _ (Nat.le_refl _)] at hbit
    simp at hbit
  · rintro ⟨hle, hc⟩ a ha
    refine mem_addresses_iff_getLsbD.mpr fun i hi ↦ ?_
    rw [mem_addresses_iff_getLsbD.mp ha i ((hostBits_le_hostBits_iff.mpr hle).trans hi)]
    exact mem_addresses_iff_getLsbD.mp hc i hi

/-- Networks of one length with a common address are the same. -/
theorem contains_comm (h : c.prefixLength = d.prefixLength) :
    c.contains d.address = true ↔ d.contains c.address = true := by
  rw [← network_eq_iff h, ← network_eq_iff h.symm, eq_comm]

/-- **Proper inclusion of networks.** -/
theorem addresses_ssubset_iff : c.addresses ⊂ d.addresses ↔
    d.prefixLength < c.prefixLength ∧ d.contains c.address = true := by
  rw [ssubset_iff_subset_not_subset, addresses_subset_iff, addresses_subset_iff]
  constructor
  · rintro ⟨⟨hle, hc⟩, hnot⟩
    refine ⟨Nat.lt_of_le_of_ne hle fun heq ↦ hnot ⟨heq.ge, ?_⟩, hc⟩
    exact (contains_comm heq).mp hc
  · rintro ⟨hlt, hc⟩
    exact ⟨⟨hlt.le, hc⟩, fun h ↦ Nat.not_lt.mpr h.1 hlt⟩

end DpuNetwork.Ipv4.Cidr
