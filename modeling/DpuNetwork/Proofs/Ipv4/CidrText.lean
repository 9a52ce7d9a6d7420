import DpuNetwork.Ipv4.Cidr

/-!
# The written forms of addresses and networks

The texts that are read as addresses are the dotted quads (`Address.isDottedQuad_iff`), and a
network is read back from its written form, host bits included (`Cidr.ofText_text`). Hence two
networks are equal exactly when their texts are (`Cidr.text_inj`). A network can be read from other
texts, too; the reader `Cidr.ofWritten?` takes none of them.
-/

namespace DpuNetwork

open Text

theorem Text.not_mem_numeral {c : Char} (hc : c.isDigit = false) (n : Nat) : c ∉ numeral n := by
  intro h
  rw [isDigit_of_mem_numeral h] at hc
  cases hc

/-- A numeral has no sign, so it is read as it stands. -/
theorem Text.bounded?_numeral {limit n : Nat} (h : n ≤ limit) :
    bounded? limit (numeral n) = some n := by
  rw [bounded?, natural?_numeral]
  · simp [h]
  · intro r hr
    exact not_mem_numeral (c := '+') (by decide) n (hr ▸ List.mem_cons_self)

namespace Ipv4

/-- A dotted quad holds nothing but digits and dots. -/
theorem Address.not_mem_render {c : Char} (hc : c.isDigit = false) (hdot : c ≠ '.') (x : Address) :
    c ∉ x.render := by
  simp only [render, octets, List.map_cons, List.map_nil, join, List.mem_append, List.mem_cons,
    not_or]
  exact ⟨not_mem_numeral hc _, hdot, not_mem_numeral hc _, hdot, not_mem_numeral hc _, hdot,
    not_mem_numeral hc _⟩

/-- What is not read as an address is not the text of one. -/
theorem Address.text_ne {s : String} (h : ofText? s = none) (x : Address) : x.text ≠ s := by
  rintro rfl
  rw [ofText?_text] at h
  cases h

/-- A single numeral is no dotted quad. -/
theorem Address.parse?_numeral (n : Nat) : parse? (numeral n) = none := by
  rw [parse?, cut_of_not_mem (dot_not_mem_numeral n)]
  simp

/-- A text is a dotted quad: four numbers of at most 255 by their numerals, with dots in between. -/
def IsDottedQuad (s : String) : Prop :=
  ∃ a b c d, (∀ n ∈ [a, b, c, d], n ≤ 255) ∧ s.toList = join '.' ([a, b, c, d].map numeral)

/-- **The dotted quads** are the texts that are read as addresses. -/
theorem Address.isDottedQuad_iff {s : String} : IsDottedQuad s ↔ ∃ x, ofText? s = some x := by
  constructor
  · rintro ⟨a, b, c, d, hle, hs⟩
    have hoctets : (ofOctets a b c d).octets = [a, b, c, d] :=
      octets_ofOctets (hle a (by simp)) (hle b (by simp)) (hle c (by simp)) (hle d (by simp))
    refine ⟨ofOctets a b c d, ofText?_eq_some_iff.mpr (String.toList_inj.mp ?_)⟩
    rw [text, String.toList_ofList, render, hoctets, hs]
  · rintro ⟨x, hx⟩
    obtain rfl := ofText?_eq_some_iff.mp hx
    refine ⟨_, _, _, _, fun n hn ↦ ?_, by rw [text, String.toList_ofList, render, octets]⟩
    simp only [List.mem_cons, List.not_mem_nil, or_false] at hn
    rcases hn with rfl | rfl | rfl | rfl <;> exact Nat.le_of_lt_succ (x.octet_lt _)

instance : DecidablePred IsDottedQuad := fun s ↦
  decidable_of_iff ((Address.ofText? s).isSome = true) <| by
    rw [Option.isSome_iff_exists, Address.isDottedQuad_iff]

namespace Cidr

theorem prefixLength?_numeral {n : Nat} (h : n ≤ 32) : prefixLength? (numeral n) = some n := by
  rw [prefixLength?, Address.parse?_numeral]
  exact bounded?_numeral (by omega)

theorem cut_render (c : Cidr) : cut '/' c.render = [c.address.render, numeral c.prefixLength] := by
  rw [render, cut_append (Address.not_mem_render (by decide) (by decide) _),
    cut_of_not_mem (not_mem_numeral (by decide) _)]

/-- The check of the prefix length accepts that of a network. -/
theorem ofParts?_eq (a : Address) (c : Cidr) :
    ofParts? a c.prefixLength = some ⟨a, c.prefixLength, c.prefixLength_le⟩ :=
  dif_pos c.prefixLength_le

theorem parse_render (c : Cidr) : parse c.render = .ok c := by
  simp [parse, cut_render, prefixLength?_numeral c.prefixLength_le, ofParts?_eq]

/-- Reading gives back what was written. -/
theorem ofText_text (c : Cidr) : ofText c.text = .ok c := by
  rw [ofText, text, String.toList_ofList, parse_render]

@[simp] theorem ofText?_text (c : Cidr) : ofText? c.text = some c := by
  rw [ofText?, ofText_text]
  rfl

/-- Reads a network by its written form alone: a bare address, a netmask, a sign and a leading zero
are refused. -/
def ofWritten? (s : List Char) : Option Cidr :=
  match cut '/' s with
  | [a, n] => do ofParts? (← Address.parse? a) (← Address.octet? n)
  | _ => none

/-- Each network is read from a single text. -/
theorem ofWritten?_eq_some_iff {s : List Char} {c : Cidr} :
    ofWritten? s = some c ↔ s = c.render := by
  constructor
  · intro h
    unfold ofWritten? at h
    split at h
    · next a n hcut =>
      obtain ⟨x, hx, h⟩ := Option.bind_eq_some_iff.mp h
      obtain ⟨m, hm, h⟩ := Option.bind_eq_some_iff.mp h
      obtain ⟨hle, rfl⟩ : ∃ hle, (⟨x, m, hle⟩ : Cidr) = c := by simpa [ofParts?] using h
      obtain ⟨rfl, -⟩ := (cut_eq_iff (by simp)).mp hcut
      rw [render, Address.render_of_parse? hx, ← (Address.octet?_eq_some_iff.mp hm).2]
      rfl
    · cases h
  · rintro rfl
    have hlength : Address.octet? (numeral c.prefixLength) = some c.prefixLength :=
      Address.octet?_eq_some_iff.mpr ⟨Nat.le_trans c.prefixLength_le (by decide), rfl⟩
    rw [ofWritten?, cut_render]
    simp [hlength, ofParts?_eq]

/-- What is not read as a network is not the text of one. -/
theorem text_ne {s : String} (h : ofText? s = none) (c : Cidr) : c.text ≠ s := by
  rintro rfl
  rw [ofText?_text] at h
  cases h

/-- A network is written with nothing but digits, dots and a slash. -/
theorem not_mem_render {x : Char} (hx : x.isDigit = false) (hdot : x ≠ '.') (hslash : x ≠ '/')
    (c : Cidr) : x ∉ c.render := by
  rw [render, List.mem_append, List.mem_cons, not_or, not_or]
  exact ⟨Address.not_mem_render hx hdot _, hslash, not_mem_numeral hx _⟩

/-- Different networks are written differently. -/
theorem text_inj {c d : Cidr} : c.text = d.text ↔ c = d :=
  ⟨fun h ↦ by simpa using congrArg ofText? h, fun h ↦ h ▸ rfl⟩

end Cidr

end Ipv4

end DpuNetwork
