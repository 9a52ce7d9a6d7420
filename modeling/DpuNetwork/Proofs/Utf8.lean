import DpuNetwork.Text.Utf8

/-!
# Text survives its bytes

The decoder replaces what is no UTF-8 and leaves everything else as it is: the bytes of a text are
decoded to that text (`decode_toUTF8`). The decoder takes one byte at a time, so the proof follows
the bytes of one character (`decodeFrom_utf8EncodeChar`), one case for each of its lengths. In each
case the ranges of the second byte, which keep out overlong forms and surrogates, hold because the
number of a character is at least the least one of its length and is no surrogate.
-/

namespace DpuNetwork.Text.Utf8

variable {acc : List Char} {x : UInt8} {r : List UInt8}

/-! ### Taking one byte -/

/-- A first byte that is a character by itself. -/
theorem decodeFrom_char {c : Char} (h : lead x.toNat = .char c) :
    decodeFrom acc none (x :: r) = decodeFrom (c :: acc) none r := by
  simp only [decodeFrom, h]

/-- A first byte that owes further ones. -/
theorem decodeFrom_owes {o : Owed} (h : lead x.toNat = .owes o) :
    decodeFrom acc none (x :: r) = decodeFrom acc (some o) r := by
  simp only [decodeFrom, h]

/-- The last byte that was owed completes the character. -/
theorem decodeFrom_last {low high code : Nat} (h : low ≤ x.toNat ∧ x.toNat ≤ high) :
    decodeFrom acc (some ⟨0, low, high, code⟩) (x :: r) =
      decodeFrom (Char.ofNat (code * 64 + (x.toNat - 0x80)) :: acc) none r := by
  simp only [decodeFrom, h, and_self, if_true]

/-- Any other one is added to the code, and only the first of them has bounds of its own. -/
theorem decodeFrom_more {n low high code : Nat} (h : low ≤ x.toNat ∧ x.toNat ≤ high) :
    decodeFrom acc (some ⟨n + 1, low, high, code⟩) (x :: r) =
      decodeFrom acc (some ⟨n, 0x80, 0xBF, code * 64 + (x.toNat - 0x80)⟩) r := by
  simp only [decodeFrom, h, and_self, if_true]

/-! ### First bytes -/

variable {b : Nat}

/-- The first bytes of characters of one to four bytes. -/
theorem lead_one (h : b < 0x80) : lead b = .char (Char.ofNat b) := if_pos h

theorem lead_two (h : 0xC2 ≤ b) (h' : b < 0xE0) :
    lead b = .owes ⟨0, 0x80, 0xBF, b - 0xC0⟩ := by
  rw [lead, if_neg (by omega), if_neg (by omega), if_pos h']

theorem lead_three (h : 0xE0 ≤ b) (h' : b < 0xF0) :
    lead b = .owes ⟨1, if b = 0xE0 then 0xA0 else 0x80, if b = 0xED then 0x9F else 0xBF,
      b - 0xE0⟩ := by
  rw [lead, if_neg (by omega), if_neg (by omega), if_neg (by omega), if_pos h']

theorem lead_four (h : 0xF0 ≤ b) (h' : b < 0xF5) :
    lead b = .owes ⟨2, if b = 0xF0 then 0x90 else 0x80, if b = 0xF4 then 0x8F else 0xBF,
      b - 0xF0⟩ := by
  rw [lead, if_neg (by omega), if_neg (by omega), if_neg (by omega), if_neg (by omega), if_pos h']

/-! ### The bytes of a character -/

/-- A number below 256 is a byte. -/
theorem toNat_ofNat {n : Nat} (h : n < 256) : (UInt8.ofNat n).toNat = n := by
  simp [Nat.mod_eq_of_lt h]

/-- **The bytes of a character are decoded to that character.** -/
theorem decodeFrom_utf8EncodeChar (acc : List Char) (c : Char) (r : List UInt8) :
    decodeFrom acc none (String.utf8EncodeChar c ++ r) = decodeFrom (c :: acc) none r := by
  have hvalid : c.val.toNat < 0xD800 ∨ 0xDFFF < c.val.toNat ∧ c.val.toNat < 0x110000 := c.valid
  have hself : ∀ n, n = c.val.toNat → Char.ofNat n = c := fun n hn ↦ hn ▸ Char.ofNat_toNat c
  fun_cases String.utf8EncodeChar c with
  | case1 v h =>
    have hv : (UInt8.ofNat v).toNat = v := toNat_ofNat (by omega)
    rw [List.singleton_append, decodeFrom_char (lead_one (by omega)), hv, hself v rfl]
  | case2 v h h' =>
    have h0 := toNat_ofNat (n := v / 64 % 0x20 + 0xc0) (by omega)
    have h1 := toNat_ofNat (n := v % 0x40 + 0x80) (by omega)
    rw [List.cons_append, List.cons_append, List.nil_append,
      decodeFrom_owes (lead_two (by omega) (by omega)), decodeFrom_last (by omega),
      hself _ (by omega)]
  | case3 v h h' h'' =>
    have h0 := toNat_ofNat (n := v / 4096 % 0x10 + 0xe0) (by omega)
    have h1 := toNat_ofNat (n := v / 64 % 0x40 + 0x80) (by omega)
    have h2 := toNat_ofNat (n := v % 0x40 + 0x80) (by omega)
    rw [List.cons_append, List.cons_append, List.cons_append, List.nil_append,
      decodeFrom_owes (lead_three (by omega) (by omega)),
      decodeFrom_more (by rw [h0, h1]; split <;> split <;> omega), decodeFrom_last (by omega),
      hself _ (by omega)]
  | case4 v h h' h'' =>
    have h0 := toNat_ofNat (n := v / 262144 % 0x08 + 0xf0) (by omega)
    have h1 := toNat_ofNat (n := v / 4096 % 0x40 + 0x80) (by omega)
    have h2 := toNat_ofNat (n := v / 64 % 0x40 + 0x80) (by omega)
    have h3 := toNat_ofNat (n := v % 0x40 + 0x80) (by omega)
    rw [List.cons_append, List.cons_append, List.cons_append, List.cons_append, List.nil_append,
      decodeFrom_owes (lead_four (by omega) (by omega)),
      decodeFrom_more (by rw [h0, h1]; split <;> split <;> omega), decodeFrom_more (by omega),
      decodeFrom_last (by omega), hself _ (by omega)]

/-- The bytes of a text are decoded to its characters. -/
theorem decodeFrom_flatMap (acc s : List Char) :
    decodeFrom acc none (s.flatMap String.utf8EncodeChar) = acc.reverse ++ s := by
  induction s generalizing acc with
  | nil => simp [decodeFrom]
  | cons c s ih => simp [List.flatMap_cons, decodeFrom_utf8EncodeChar, ih]

/-- The loop that lists bytes gives those that are left behind the ones it has. -/
theorem toList_loop (bs : ByteArray) (i : Nat) (listed : List UInt8) :
    ByteArray.toList.loop bs i listed = listed.reverse ++ bs.data.toList.drop i := by
  fun_induction ByteArray.toList.loop bs i listed with
  | case1 i listed h ih =>
    have hi : i < bs.data.toList.length := by simpa using h
    rw [ih, List.drop_eq_getElem_cons hi]
    simp [ByteArray.get!, h]
  | case2 i listed h =>
    rw [List.drop_eq_nil_of_le (by simpa using Nat.le_of_not_lt h)]
    simp

/-- The bytes of a text are those of its characters, one after the other. -/
theorem toList_toUTF8 (s : String) : s.toUTF8.toList = s.toList.flatMap String.utf8EncodeChar := by
  have hbytes : s.toUTF8 = s.toList.utf8Encode := String.utf8Encode_toList.symm
  rw [hbytes, ByteArray.toList, toList_loop, List.reverse_nil, List.nil_append, List.drop_zero,
    List.utf8Encode, List.toList_data_toByteArray]

/-- **The bytes of a text are decoded to that text.** -/
theorem decode_toUTF8 (s : String) : decode s.toUTF8.toList = s := by
  rw [decode, toList_toUTF8, decodeFrom_flatMap, List.reverse_nil, List.nil_append,
    String.ofList_toList]

end DpuNetwork.Text.Utf8
