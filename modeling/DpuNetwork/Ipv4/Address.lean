import DpuNetwork.Text.Cut
import DpuNetwork.Text.Decimal

/-!
# IPv4 addresses

An address is a word of 32 bits. Its only written form is the strict dotted quad: four decimal
numerals of at most 255 without leading zeros. `parse?` accepts exactly what `render` writes
(`parse?_render`, `render_of_parse?`), so two addresses are equal exactly when their texts are
(`text_inj`).
-/

namespace DpuNetwork.Ipv4

open Text

/-- An IPv4 address. -/
structure Address where
  /-- The address as a word, the first octet in the highest bits. -/
  bits : BitVec 32
  deriving DecidableEq, Inhabited

namespace Address

/-- The address `0.0.0.0`. -/
def unspecified : Address := ⟨0⟩

/-- The address of four octets. -/
def ofOctets (a b c d : Nat) : Address :=
  ⟨BitVec.ofNat 32 (a <<< 24 + b <<< 16 + c <<< 8 + d)⟩

/-- The octet that starts `k` bits above the lowest bit. -/
def octet (x : Address) (k : Nat) : Nat := x.bits.toNat >>> k % 256

/-- The four octets in the order of writing. -/
def octets (x : Address) : List Nat := [x.octet 24, x.octet 16, x.octet 8, x.octet 0]

/-- The dotted quad of an address. -/
def render (x : Address) : List Char := join '.' (x.octets.map numeral)

/-- The dotted quad of an address. -/
def text (x : Address) : String := String.ofList x.render

/-- Reads one octet: the numeral of a number of at most 255, as it is written. -/
def octet? (s : List Char) : Option Nat :=
  match natural? s with
  | some n => if n ≤ 255 ∧ numeral n = s then some n else none
  | none => none

/-- Reads a dotted quad. -/
def parse? (s : List Char) : Option Address :=
  match (cut '.' s).map octet? with
  | [some a, some b, some c, some d] => some (ofOctets a b c d)
  | _ => none

/-- Reads a dotted quad. -/
def ofText? (s : String) : Option Address := parse? s.toList

theorem octet_lt (x : Address) (k : Nat) : x.octet k < 256 := Nat.mod_lt _ (by decide)

/-- The octets of an address determine it. -/
theorem ofOctets_octet (x : Address) :
    ofOctets (x.octet 24) (x.octet 16) (x.octet 8) (x.octet 0) = x := by
  obtain ⟨b⟩ := x
  have h := b.isLt
  simp only [ofOctets, octet, Address.mk.injEq]
  apply BitVec.eq_of_toNat_eq
  rw [BitVec.toNat_ofNat]
  omega

/-- An octet is read as the number it is written for. -/
theorem octet?_eq_some_iff {s : List Char} {n : Nat} :
    octet? s = some n ↔ n ≤ 255 ∧ s = numeral n := by
  unfold octet?
  constructor
  · intro h
    split at h
    · split at h
      · next hc =>
        obtain rfl := Option.some.inj h
        exact ⟨hc.1, hc.2.symm⟩
      · cases h
    · cases h
  · rintro ⟨h, rfl⟩
    simp [h]

/-- A numeral holds no dot. -/
theorem dot_not_mem_numeral (n : Nat) : '.' ∉ numeral n := fun h ↦
  absurd (isDigit_of_mem_numeral h) (by decide)

/-- The parts of a dotted quad are the numerals of its octets. -/
theorem cut_render (x : Address) : cut '.' x.render = x.octets.map numeral :=
  cut_join (by simp [octets]) fun _ hp ↦ by
    obtain ⟨n, -, rfl⟩ := List.mem_map.1 hp
    exact dot_not_mem_numeral n

/-- Reading gives back what was written. -/
@[simp] theorem parse?_render (x : Address) : parse? x.render = some x := by
  have h (k : Nat) : octet? (numeral (x.octet k)) = some (x.octet k) :=
    octet?_eq_some_iff.2 ⟨Nat.le_of_lt_succ (x.octet_lt k), rfl⟩
  simp [parse?, cut_render, octets, h, ofOctets_octet]

@[simp] theorem ofText?_text (x : Address) : ofText? x.text = some x := by
  simp [ofText?, text, String.toList_ofList]

/-- The octets of an address made of four octets. -/
theorem octets_ofOctets {a b c d : Nat} (ha : a ≤ 255) (hb : b ≤ 255) (hc : c ≤ 255)
    (hd : d ≤ 255) : (ofOctets a b c d).octets = [a, b, c, d] := by
  simp only [octets, octet, ofOctets, BitVec.toNat_ofNat, List.cons.injEq, and_true]
  omega

/-- Only the written form of an address is read as that address. -/
theorem render_of_parse? {s : List Char} {x : Address} (h : parse? s = some x) : x.render = s := by
  unfold parse? at h
  split at h
  · next a b c d hq =>
    obtain rfl := Option.some.inj h
    obtain ⟨pa, ps, hs, ha, hps⟩ := List.map_eq_cons_iff.1 hq
    obtain ⟨pb, pt, rfl, hb, hpt⟩ := List.map_eq_cons_iff.1 hps
    obtain ⟨pc, pu, rfl, hc, hpu⟩ := List.map_eq_cons_iff.1 hpt
    obtain ⟨pd, pv, rfl, hd, hpv⟩ := List.map_eq_cons_iff.1 hpu
    obtain rfl := List.map_eq_nil_iff.1 hpv
    rw [octet?_eq_some_iff] at ha hb hc hd
    rw [← join_cut '.' s, hs, render, octets_ofOctets ha.1 hb.1 hc.1 hd.1]
    simp [ha.2, hb.2, hc.2, hd.2]
  · cases h

/-- A text is read as an address exactly when it is the text of that address. -/
theorem ofText?_eq_some_iff {s : String} {x : Address} : ofText? s = some x ↔ s = x.text :=
  ⟨fun h ↦ by rw [text, render_of_parse? h, String.ofList_toList], fun h ↦ h ▸ ofText?_text x⟩

/-- Different addresses are written differently. -/
theorem text_inj {x y : Address} : x.text = y.text ↔ x = y :=
  ⟨fun h ↦ by simpa using congrArg ofText? h, fun h ↦ h ▸ rfl⟩

end Address

end DpuNetwork.Ipv4
