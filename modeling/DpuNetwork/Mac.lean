import DpuNetwork.Text.Cut
import DpuNetwork.Text.Decimal

/-!
# Ethernet addresses

Six bytes, written as hexadecimal pairs. `render` writes them in upper case with colons, which is
how addresses are shown; `renderLower` writes them in lower case, which is how the DHCP server takes
them. The reader knows two shapes of text by their length: 17 bytes with the pairs separated by
colons or hyphens, and 12 bytes with the pairs side by side. Whatever spells an address with
separators is read as that address (`Spells.parse_eq`), and so is what the DHCP server is handed
(`parse_renderLower`).
-/

namespace DpuNetwork

open Text

/-- An Ethernet address. -/
structure Mac where
  /-- The six bytes in the order of writing. -/
  octets : Vector (Fin 256) 6
  deriving DecidableEq

/-- Why a text is no Ethernet address. -/
inductive MacFault where
  /-- A piece is no hexadecimal number of one byte. -/
  | digit
  /-- The text is neither 17 nor 12 ASCII characters long. -/
  | length
  deriving DecidableEq

/-- The wording of a fault. -/
def MacFault.message : MacFault → String
  | .digit => "invalid digit"
  | .length => "invalid length"

namespace Mac

/-- The two hexadecimal digits of a byte, in the case that `digit` writes. -/
def pair (digit : Nat → Char) (b : Fin 256) : List Char := [digit (b / 16), digit (b % 16)]

/-- The digits `0` to `F`. -/
def upperDigit (n : Nat) : Char := if n < 10 then Char.ofNat (48 + n) else Char.ofNat (55 + n)

/-- The digits `0` to `f`. -/
def lowerDigit (n : Nat) : Char := if n < 10 then Char.ofNat (48 + n) else Char.ofNat (87 + n)

/-- The pairs of an address with a separator between them. -/
def renderWith (digit : Nat → Char) (sep : Char) (m : Mac) : List Char :=
  join sep (m.octets.toList.map (pair digit))

/-- The form in upper case, with colons. -/
def render (m : Mac) : List Char := renderWith upperDigit ':' m

/-- The form in lower case, with colons. -/
def renderLower (m : Mac) : List Char := renderWith lowerDigit ':' m

/-- The form in upper case, with colons. -/
def text (m : Mac) : String := String.ofList m.render

/-- Reads a byte: hexadecimal digits with an optional plus sign, any number of leading zeros. -/
def byte? (s : List Char) : Option (Fin 256) :=
  match (match s with | '+' :: r => r | _ => s) with
  | [] => none
  | r => match hexadecimal? 0 r with
    | some n => if h : n < 256 then some ⟨n, h⟩ else none
    | none => none

/-- The pieces of a text, two characters each. -/
def pairs : List Char → List (List Char)
  | a :: b :: r => [a, b] :: pairs r
  | _ => []

/-- The address that the first six pieces denote. A missing piece is zero and further pieces are
not looked at. -/
def ofPieces (ps : List (List Char)) : Except MacFault Mac :=
  match (ps.take 6).mapM byte? with
  | some bs => .ok ⟨Vector.ofFn fun i ↦ bs[i.val]?.getD 0⟩
  | none => .error .digit

/-- Reads an address. -/
def parse (s : List Char) : Except MacFault Mac :=
  if s.any fun c ↦ 128 ≤ c.toNat then .error .length
  else if s.length = 17 then ofPieces (cutWhere (fun c ↦ c == ':' || c == '-') s)
  else if s.length = 12 then ofPieces (pairs s)
  else .error .length

/-- Reads an address. -/
def ofText (s : String) : Except MacFault Mac := parse s.toList

/-- A hexadecimal digit of some value, in either case. -/
def IsDigit (n : Nat) (c : Char) : Prop := c = upperDigit n ∨ c = lowerDigit n

/-- The two digits of a byte, each in either case. -/
def IsPair (b : Fin 256) (p : List Char) : Prop :=
  ∃ c d, p = [c, d] ∧ IsDigit (b / 16) c ∧ IsDigit (b % 16) d

/-- Bytes are spelled by their pairs, with a colon or a hyphen between each two of them. -/
inductive SpellsBytes : List (Fin 256) → List Char → Prop
  /-- One byte is its pair. -/
  | single {b : Fin 256} {p : List Char} (hp : IsPair b p) : SpellsBytes [b] p
  /-- A pair and a separator stand before the other bytes. -/
  | cons {b : Fin 256} {p : List Char} {sep : Char} {bs : List (Fin 256)} {s : List Char}
      (hp : IsPair b p) (hsep : sep = ':' ∨ sep = '-') (h : SpellsBytes bs s) :
      SpellsBytes (b :: bs) (p ++ sep :: s)

/-- A text spells an address. -/
def Spells (m : Mac) (s : List Char) : Prop := SpellsBytes m.octets.toList s

/-- A digit has its value, and is no sign, separator or character outside ASCII. -/
theorem IsDigit.reads {n : Nat} {c : Char} (h : IsDigit n c) (hn : n < 16) :
    hexDigit? c = some n ∧ c ≠ '+' ∧ (c == ':' || c == '-') = false ∧ c.toNat < 128 := by
  have hupper : ∀ n < 16, hexDigit? (upperDigit n) = some n ∧ upperDigit n ≠ '+' ∧
      (upperDigit n == ':' || upperDigit n == '-') = false ∧ (upperDigit n).toNat < 128 := by decide
  have hlower : ∀ n < 16, hexDigit? (lowerDigit n) = some n ∧ lowerDigit n ≠ '+' ∧
      (lowerDigit n == ':' || lowerDigit n == '-') = false ∧ (lowerDigit n).toNat < 128 := by decide
  rcases h with rfl | rfl
  · exact hupper n hn
  · exact hlower n hn

section

variable {b : Fin 256} {p s : List Char} {bs : List (Fin 256)} {m : Mac}

/-- A pair is read as its byte. -/
theorem IsPair.byte?_eq (h : IsPair b p) : byte? p = some b := by
  obtain ⟨c, d, rfl, hc, hd⟩ := h
  obtain ⟨hhigh, hplus, -⟩ := hc.reads (by omega)
  obtain ⟨hlow, -⟩ := hd.reads (by omega)
  have hsign : (match [c, d] with | '+' :: r => r | _ => [c, d]) = [c, d] := by
    split
    · next h => exact absurd (List.cons.inj h).1 hplus
    · rfl
  have hvalue : (0 * 16 + b.val / 16) * 16 + b.val % 16 = b.val := by omega
  unfold byte?
  rw [hsign]
  simp only [hexadecimal?, hhigh, hlow, hvalue, b.isLt, dite_true]

/-- A pair holds neither separators nor characters outside ASCII. -/
theorem IsPair.plain (h : IsPair b p) {c : Char} (hc : c ∈ p) :
    (c == ':' || c == '-') = false ∧ c.toNat < 128 := by
  obtain ⟨c₁, c₂, rfl, h₁, h₂⟩ := h
  simp only [List.mem_cons, List.not_mem_nil, or_false] at hc
  rcases hc with rfl | rfl
  · exact (h₁.reads (by omega)).2.2
  · exact (h₂.reads (by omega)).2.2

theorem IsPair.length_eq (h : IsPair b p) : p.length = 2 := by
  obtain ⟨c, d, rfl, -⟩ := h
  rfl

theorem separator_reads {sep : Char} (h : sep = ':' ∨ sep = '-') :
    (sep == ':' || sep == '-') = true ∧ sep.toNat < 128 := by
  rcases h with rfl | rfl <;> decide

/-- Two characters for each byte and one between each two bytes. -/
theorem SpellsBytes.length_eq (h : SpellsBytes bs s) : s.length + 1 = 3 * bs.length := by
  induction h with
  | single hp => simp [hp.length_eq]
  | cons hp _ _ ih =>
    simp only [List.length_append, List.length_cons, hp.length_eq]
    omega

theorem SpellsBytes.toNat_lt (h : SpellsBytes bs s) {c : Char} (hc : c ∈ s) : c.toNat < 128 := by
  induction h with
  | single hp => exact (hp.plain hc).2
  | cons hp hsep _ ih =>
    rcases List.mem_append.mp hc with hc | hc
    · exact (hp.plain hc).2
    · rcases List.mem_cons.mp hc with rfl | hc
      · exact (separator_reads hsep).2
      · exact ih hc

/-- The pieces between the separators are as many as the bytes, and are read as the bytes. -/
theorem SpellsBytes.cutWhere_reads (h : SpellsBytes bs s) :
    (cutWhere (fun c ↦ c == ':' || c == '-') s).length = bs.length ∧
      (cutWhere (fun c ↦ c == ':' || c == '-') s).mapM byte? = some bs := by
  induction h with
  | single hp =>
    rw [cutWhere_of_forall fun c hc ↦ (hp.plain hc).1]
    simp [hp.byte?_eq]
  | @cons b p sep bs s hp hsep _ ih =>
    have hcut : cutWhere (fun c ↦ c == ':' || c == '-') (p ++ sep :: s) =
        p :: cutWhere (fun c ↦ c == ':' || c == '-') s := by
      refine cutWhere_append ?_ (fun c hc ↦ (hp.plain hc).1) s
      exact (separator_reads hsep).1
    rw [hcut]
    simp [hp.byte?_eq, ih]

/-- Six pieces that are read as the bytes of an address are read as that address. -/
theorem ofPieces_eq {ps : List (List Char)} (hlength : ps.length = 6)
    (h : ps.mapM byte? = some m.octets.toList) : ofPieces ps = .ok m := by
  rw [ofPieces, List.take_of_length_le (Nat.le_of_eq hlength), h]
  refine congrArg Except.ok (congrArg Mac.mk ?_)
  ext i hi
  simp

/-- **Reading gives the address that is spelled**, in whatever cases and with whatever
separators. -/
theorem Spells.parse_eq (h : m.Spells s) : parse s = .ok m := by
  have hbytes : m.octets.toList.length = 6 := Vector.length_toList
  have hlength : s.length = 17 := by
    have hlength := h.length_eq
    omega
  have hascii : s.any (fun c ↦ 128 ≤ c.toNat) = false := by
    rw [List.any_eq_false]
    intro c hc
    simpa using h.toNat_lt hc
  rw [parse, hascii, hlength]
  exact ofPieces_eq (h.cutWhere_reads.1.trans hbytes) h.cutWhere_reads.2

theorem spellsBytes_join {digit : Nat → Char} {sep : Char} (hdigit : ∀ n, IsDigit n (digit n))
    (hsep : sep = ':' ∨ sep = '-') (hbs : bs ≠ []) :
    SpellsBytes bs (join sep (bs.map (pair digit))) := by
  have hpair (b : Fin 256) : IsPair b (pair digit b) := ⟨_, _, rfl, hdigit _, hdigit _⟩
  induction bs with
  | nil => exact absurd rfl hbs
  | cons b bs ih =>
    cases bs with
    | nil => exact .single (hpair b)
    | cons b' bs => exact .cons (hpair b) hsep (ih (List.cons_ne_nil _ _))

/-- A written form spells its address. -/
theorem spells_renderWith (m : Mac) {digit : Nat → Char} {sep : Char}
    (hdigit : ∀ n, IsDigit n (digit n)) (hsep : sep = ':' ∨ sep = '-') :
    m.Spells (renderWith digit sep m) :=
  spellsBytes_join hdigit hsep (by simp [← List.length_eq_zero_iff])

theorem spells_renderLower (m : Mac) : m.Spells m.renderLower :=
  spells_renderWith m (fun _ ↦ .inr rfl) (.inl rfl)

theorem toLower_upperDigit : ∀ n < 16, (upperDigit n).toLower = lowerDigit n := by decide

theorem map_toLower_join (bs : List (Fin 256)) :
    (join ':' (bs.map (pair upperDigit))).map Char.toLower =
      join ':' (bs.map (pair lowerDigit)) := by
  have hpair (b : Fin 256) : (pair upperDigit b).map Char.toLower = pair lowerDigit b := by
    simp [pair, toLower_upperDigit (b / 16) (by omega), toLower_upperDigit (b % 16) (by omega)]
  induction bs with
  | nil => rfl
  | cons b bs ih =>
    cases bs with
    | nil => exact hpair b
    | cons b' bs =>
      simp only [List.map_cons, join, List.map_append, hpair] at ih ⊢
      rw [ih]
      rfl

/-- The form in lower case is the one in upper case, put into lower case. -/
theorem renderLower_eq (m : Mac) : m.renderLower = m.render.map Char.toLower :=
  (map_toLower_join m.octets.toList).symm

/-- Reading gives back the address that was handed to the DHCP server. -/
theorem parse_renderLower (m : Mac) : parse m.renderLower = .ok m := (spells_renderLower m).parse_eq

end

end Mac

end DpuNetwork
