import DpuNetwork.Json.Printer
import DpuNetwork.Json.Reader

/-!
# JSON is read back as it was written

The reader takes the shortest text of a value back to that value (`Json.ofString?_toText`), for
every value that has a literal of its own (`Json.IsPlain`): no strings that denote no text, and no
numbers but integers.

The readers of values, items and members call each other with a bound that shrinks at every call, so
one induction on the bound covers the three (`Json.readsBack`). Behind a value anything may follow
that does not go on with a number (`Json.Follows`).
-/

namespace DpuNetwork.Json

open Text

/-! ### Strings -/

/-- What the reader makes of a written character. -/
def pieceOf (c : Char) : Piece :=
  if c ≠ '"' ∧ c ≠ '\\' ∧ c.toNat < 0x20 then .unit c.toNat else .char c

/-- The escape of a control character denotes its code. -/
theorem unit?_of_lt {n : Nat} (h : n < 0x20) :
    unit? '0' '0' (hexDigit (n / 16)) (hexDigit (n % 16)) = some n := by
  have hall : ∀ n < 0x20, unit? '0' '0' (hexDigit (n / 16)) (hexDigit (n % 16)) = some n := by
    decide
  exact hall n h

/-- Each character is rendered as one piece, by itself or escaped. -/
theorem pieces_renderChar (acc : List Piece) (c : Char) (r : List Char) :
    pieces acc (renderChar c ++ r) = pieces (pieceOf c :: acc) r := by
  unfold renderChar pieceOf
  by_cases hquote : c = '"'
  · subst hquote
    simp [pieces, escape?]
  · by_cases hslash : c = '\\'
    · subst hslash
      simp [pieces, escape?]
    · by_cases hcontrol : c.toNat < 0x20
      · simp [hquote, hslash, hcontrol, pieces, unit?_of_lt hcontrol]
      · simp [hquote, hslash, hcontrol, pieces]

/-- A rendered text is read up to its closing quote, which no character of it can be taken for. -/
theorem pieces_flatMap_renderChar (acc : List Piece) (s r : List Char) :
    pieces acc (s.flatMap renderChar ++ '"' :: r) = some (acc.reverse ++ s.map pieceOf, r) := by
  induction s generalizing acc with
  | nil => simp [pieces]
  | cons c s ih =>
    rw [List.flatMap_cons, List.append_assoc, pieces_renderChar, ih]
    simp

/-- A control character is no surrogate, so its piece denotes it whatever follows. -/
theorem joinPieces_pieceOf (c : Char) (ps : List Piece) :
    joinPieces (pieceOf c :: ps) = (joinPieces ps).map (c :: ·) := by
  unfold pieceOf
  split
  · next h =>
    have hhigh : isHighSurrogate c.toNat = false := by
      simp only [isHighSurrogate, Bool.and_eq_false_imp, decide_eq_true_eq, decide_eq_false_iff_not]
      omega
    have hlow : isLowSurrogate c.toNat = false := by
      simp only [isLowSurrogate, Bool.and_eq_false_imp, decide_eq_true_eq, decide_eq_false_iff_not]
      omega
    rcases ps with - | ⟨d | u, ps⟩ <;>
      simp [joinPieces, hhigh, hlow, Char.ofNat_toNat]
  · rw [joinPieces]

/-- The pieces put together are the text: no two of them are read as one character. -/
theorem joinPieces_map_pieceOf (s : List Char) : joinPieces (s.map pieceOf) = some s := by
  induction s with
  | nil => rfl
  | cons c s ih => rw [List.map_cons, joinPieces_pieceOf, ih, Option.map_some]

/-- So a rendered text is read back. -/
theorem string_renderString (s : String) (r : List Char) :
    string (s.toList.flatMap renderChar ++ '"' :: r) = some (some s, r) := by
  rw [string, pieces_flatMap_renderChar, List.reverse_nil, List.nil_append]
  simp only [joinPieces_map_pieceOf, Option.map_some, String.ofList_toList]

/-! ### Numbers -/

/-- What follows a value does not go on with a number. -/
def Follows (r : List Char) : Prop :=
  ∀ c ∈ r.head?, c.isDigit = false ∧ c ≠ '.' ∧ c ≠ 'e' ∧ c ≠ 'E'

/-- A numeral ends where its digits end, if no digit follows. -/
theorem digits_numeral (n : Nat) {r : List Char} (hr : Follows r) :
    digits (numeral n ++ r) = (numeral n, r) := by
  have hall : ∀ c ∈ numeral n, c.isDigit = true := fun _ ↦ isDigit_of_mem_numeral
  have hhead : ∀ c ∈ r.head?, ¬ c.isDigit = true := fun c hc ↦ by simp [(hr c hc).1]
  rw [digits, List.takeWhile_append_of_pos hall, List.dropWhile_append_of_pos hall]
  rcases r with - | ⟨c, r⟩
  · simp
  · have hc := hhead c rfl
    simp [hc]

/-- Only the numeral of zero starts with zero. -/
theorem head?_numeral_ne {n : Nat} (h : n ≠ 0) : (numeral n).head? ≠ some '0' := by
  -- The first digit of a number is that of its tenth part, down to a number of one digit.
  induction n using Nat.strongRecOn with
  | ind n ih =>
    rw [numeral, Nat.toDigits_eq_if (by decide)]
    split
    · next hn =>
      have hall : ∀ n < 10, n ≠ 0 → Nat.digitChar n ≠ '0' := by decide
      simpa using hall n hn h
    · have hdiv := ih (n / 10) (Nat.div_lt_self (by omega) (by decide)) (by omega)
      rcases hd : numeral (n / 10) with - | ⟨c, r⟩
      · exact absurd hd (numeral_ne_nil _)
      · rw [numeral] at hd
        rw [hd, List.cons_append]
        simpa [numeral, hd] using hdiv

/-- No fraction is read where none is written. -/
theorem fraction_of_follows {r : List Char} (hr : Follows r) : fraction r = some ([], r) := by
  unfold fraction
  split
  · next r => exact absurd rfl (hr '.' rfl).2.1
  · rfl

/-- Nor is an exponent. -/
theorem exponent_of_follows {r : List Char} (hr : Follows r) : exponent r = some ([], r) := by
  rcases r with - | ⟨c, r⟩
  · rfl
  · obtain ⟨-, -, he, hE⟩ := hr c rfl
    simp [exponent, he, hE]

/-- A numeral is read with the sign in front of it. -/
theorem number_numeral (negative : Bool) (n : Nat) {r : List Char} (hr : Follows r) :
    number ((if negative then ['-'] else []) ++ (numeral n ++ r)) =
      some (ofNumber negative (numeral n) [] [], r) := by
  have hdigits := digits_numeral n hr
  rcases hd : numeral n with - | ⟨c, t⟩
  · exact absurd hd (numeral_ne_nil n)
  · have hsign : c ≠ '-' := by
      rintro rfl
      exact absurd (isDigit_of_mem_numeral (n := n) (hd ▸ List.mem_cons_self)) (by decide)
    have hzero : c = '0' → t = [] := by
      rintro rfl
      by_cases hn : n = 0
      · subst hn
        exact (List.cons.inj hd).2.symm
      · exact absurd (congrArg List.head? hd) (head?_numeral_ne hn)
    rw [hd, List.cons_append] at hdigits
    rw [List.cons_append]
    cases negative <;>
      simpa [number, hsign, hdigits, fraction_of_follows hr, exponent_of_follows hr] using hzero

/-- A numeral stands for its number; with a sign it must not be zero, since `-0` is no integer. -/
theorem ofNumber_numeral (negative : Bool) (n : Nat) (h : negative = true → n ≠ 0) :
    ofNumber negative (numeral n) [] [] = .int (if negative then -(n : Int) else n) := by
  have hn : Nat.ofDigitChars 10 (numeral n) 0 = n := Nat.ofDigitChars_ten_toDigits
  cases negative
  · simp [ofNumber, hn]
  · simp [ofNumber, hn, h rfl]

/-- A rendered integer is read back, whatever may follow it in a document. -/
theorem number_renderInt (n : Int) {r : List Char} (hr : Follows r) :
    number (renderInt n ++ r) = some (.int n, r) := by
  unfold renderInt
  split
  · next hn =>
    have hread := number_numeral true n.natAbs hr
    rw [ofNumber_numeral true n.natAbs fun _ ↦ by omega] at hread
    rw [if_pos rfl, show -(n.natAbs : Int) = n by omega] at hread
    exact hread
  · next hn =>
    have hread := number_numeral false n.natAbs hr
    rw [ofNumber_numeral false n.natAbs (by simp)] at hread
    rw [if_neg Bool.false_ne_true, show (n.natAbs : Int) = n by omega] at hread
    exact hread

/-! ### Values -/

/-- A value that has a literal of its own. -/
inductive IsPlain : Json → Prop
  | null : IsPlain .null
  | bool (b : Bool) : IsPlain (.bool b)
  | int (n : Int) : IsPlain (.int n)
  | text (s : String) : IsPlain (.ofText s)
  | arr {items : List Json} (h : ∀ j ∈ items, IsPlain j) : IsPlain (.arr items)
  | record {members : List (String × Json)} (h : ∀ m ∈ members, IsPlain m.2) :
    IsPlain (.record members)

attribute [simp] IsPlain.null IsPlain.bool IsPlain.int IsPlain.text

theorem skip_cons {c : Char} (hc : isSpace c = false) (r : List Char) : skip (c :: r) = c :: r := by
  simp [skip, hc]

/-- What follows a value in a document ends a number. -/
theorem follows_cons {c : Char} (hc : c = ',' ∨ c = ']' ∨ c = '\x7d') (r : List Char) :
    Follows (c :: r) := by
  intro d hd
  obtain rfl : c = d := by simpa using hd
  rcases hc with rfl | rfl | rfl <;> decide

/-- An integer starts with a sign or a digit. -/
theorem exists_renderInt (n : Int) :
    ∃ c s, renderInt n = c :: s ∧ (c = '-' ∨ c.isDigit = true) := by
  unfold renderInt
  split
  · exact ⟨'-', _, rfl, .inl rfl⟩
  · rcases hd : numeral n.natAbs with - | ⟨c, t⟩
    · exact absurd hd (numeral_ne_nil _)
    · exact ⟨c, t, rfl, .inr (isDigit_of_mem_numeral (n := n.natAbs) (hd ▸ List.mem_cons_self))⟩

/-- A value starts with a character that is no space and closes nothing. -/
theorem exists_render {j : Json} (hj : IsPlain j) :
    ∃ c s, render j = c :: s ∧ isSpace c = false ∧ c ≠ ']' := by
  cases hj with
  | null => exact ⟨'n', _, rfl, rfl, by decide⟩
  | bool b => cases b <;> exact ⟨_, _, rfl, rfl, by decide⟩
  | int n =>
    obtain ⟨c, s, hs, hc⟩ := exists_renderInt n
    refine ⟨c, s, hs, ?_, ?_⟩
    · rcases hc with rfl | hc
      · rfl
      · simp only [isSpace, Bool.or_eq_false_iff, beq_eq_false_iff_ne]
        refine ⟨⟨⟨?_, ?_⟩, ?_⟩, ?_⟩ <;> rintro rfl <;> exact absurd hc (by decide)
    · rcases hc with rfl | hc
      · decide
      · rintro rfl
        exact absurd hc (by decide)
  | text s => exact ⟨'"', _, rfl, rfl, by decide⟩
  | arr h => exact ⟨'[', _, rfl, rfl, by decide⟩
  | record h => exact ⟨'\x7b', _, rfl, rfl, by decide⟩

/-- Items begin with a character that is neither blank nor the end of the array, so the reader takes
the right branch. -/
theorem exists_renderItems {j : Json} (hj : IsPlain j) (js : List Json) :
    ∃ c s, renderItems (j :: js) = c :: s ∧ isSpace c = false ∧ c ≠ ']' := by
  obtain ⟨c, s, hs, hspace, hc⟩ := exists_render hj
  rcases js with - | ⟨k, js⟩
  · exact ⟨c, s ++ [']'], by simp [renderItems, hs], hspace, hc⟩
  · exact ⟨c, s ++ ',' :: renderItems (k :: js), by simp [renderItems, hs], hspace, hc⟩

/-- The members of a record as an object holds them. -/
def named (ms : List (String × Json)) : List (Option String × Json) :=
  ms.map fun (k, v) ↦ (some k, v)

/-- Members begin with the quote of the first name. -/
theorem exists_renderMembers (k : String) (j : Json) (ms : List (Option String × Json)) :
    ∃ s, renderMembers ((some k, j) :: ms) = '"' :: s := by
  rcases ms with - | ⟨m, ms⟩ <;> exact ⟨_, rfl⟩

/-! #### One call of each reader -/

/-- The reader of values takes a rendered integer for a number. -/
theorem value_renderInt (n : Nat) (m : Int) {r : List Char} (hr : Follows r) :
    value (n + 1) (renderInt m ++ r) = some (.int m, r) := by
  have hnumber := number_renderInt m hr
  obtain ⟨c, s, hs, hc⟩ := exists_renderInt m
  rw [hs, List.cons_append] at hnumber ⊢
  have hne : c ≠ '\x7b' ∧ c ≠ '[' ∧ c ≠ '"' ∧ c ≠ 't' ∧ c ≠ 'f' ∧ c ≠ 'n' := by
    rcases hc with rfl | hc
    · decide
    · refine ⟨?_, ?_, ?_, ?_, ?_, ?_⟩ <;> rintro rfl <;> exact absurd hc (by decide)
  simp [value, hne, hnumber]

/-- It takes a rendered text for a text. -/
theorem value_renderString (n : Nat) (s : String) (r : List Char) :
    value (n + 1) (renderString s ++ r) = some (.ofText s, r) := by
  have hstring := string_renderString s r
  simp [value, renderString, hstring, ofText]

/-- It takes a bracket for the beginning of an array that is not empty. -/
theorem value_bracket (n : Nat) {c : Char} (hspace : isSpace c = false) (hc : c ≠ ']')
    (r : List Char) : value (n + 1) ('[' :: c :: r) = elements n [] (c :: r) := by
  simp [value, skip_cons hspace, hc]

/-- It takes a brace for the beginning of an object that is not empty. -/
theorem value_brace (n : Nat) (r : List Char) :
    value (n + 1) ('\x7b' :: '"' :: r) = members n [] ('"' :: r) := by
  simp [value, skip_cons (show isSpace '"' = false from rfl)]

/-- The items end with the item that the closing bracket follows. -/
theorem elements_last {n : Nat} {acc : List Json} {s r : List Char} {j : Json}
    (h : value n s = some (j, ']' :: r)) :
    elements (n + 1) acc s = some (.arr (j :: acc).reverse, r) := by
  simp [elements, h, skip_cons (show isSpace ']' = false from rfl)]

/-- They go on behind a comma. -/
theorem elements_comma {n : Nat} {acc : List Json} {s r : List Char} {j : Json} {c : Char}
    (h : value n s = some (j, ',' :: c :: r)) (hc : isSpace c = false) :
    elements (n + 1) acc s = elements n (j :: acc) (c :: r) := by
  simp [elements, h, skip_cons (show isSpace ',' = false from rfl), skip_cons hc]

/-- The members end with the one that the closing brace follows. -/
theorem members_last {n : Nat} {acc : List (Option String × Json)} {k : String} {j : Json}
    {s r : List Char} {c : Char} (hc : isSpace c = false)
    (h : value n (c :: s) = some (j, '\x7d' :: r)) :
    members (n + 1) acc (renderString k ++ ':' :: c :: s) =
      some (.obj ((some k, j) :: acc).reverse, r) := by
  have hstring := string_renderString k (':' :: c :: s)
  simp [members, renderString, hstring, skip_cons (show isSpace ':' = false from rfl),
    skip_cons hc, h, skip_cons (show isSpace '\x7d' = false from rfl)]

/-- They go on behind a comma. -/
theorem members_comma {n : Nat} {acc : List (Option String × Json)} {k : String} {j : Json}
    {s r : List Char} {c d : Char} (hc : isSpace c = false) (hd : isSpace d = false)
    (h : value n (c :: s) = some (j, ',' :: d :: r)) :
    members (n + 1) acc (renderString k ++ ':' :: c :: s) =
      members n ((some k, j) :: acc) (d :: r) := by
  have hstring := string_renderString k (':' :: c :: s)
  simp [members, renderString, hstring, skip_cons (show isSpace ':' = false from rfl),
    skip_cons hc, h, skip_cons (show isSpace ',' = false from rfl), skip_cons hd]

/-! #### All calls -/

/-- No value is rendered as nothing, so a bound of `0` reads nothing that was rendered. -/
theorem length_render_pos {j : Json} (hj : IsPlain j) : 0 < (render j).length := by
  obtain ⟨c, s, hs, -⟩ := exists_render hj
  simp [hs]

/-- With this bound on the calls, the three readers take what is no longer than the bound back to
what was written. -/
structure ReadsBack (n : Nat) : Prop where
  /-- The reader of values does. -/
  value : ∀ j, IsPlain j → (render j).length ≤ n → ∀ r, Follows r →
    value n (render j ++ r) = some (j, r)
  /-- The reader of items does, behind items that were read before. -/
  elements : ∀ j js, (∀ i ∈ j :: js, IsPlain i) → (renderItems (j :: js)).length ≤ n → ∀ acc r,
    elements n acc (renderItems (j :: js) ++ r) = some (.arr (acc.reverse ++ j :: js), r)
  /-- The reader of members does, behind members that were read before. -/
  members : ∀ m ms, (∀ i ∈ m :: ms, IsPlain (Prod.snd i)) →
    (renderMembers (named (m :: ms))).length ≤ n → ∀ acc r,
      members n acc (renderMembers (named (m :: ms)) ++ r) =
        some (.obj (acc.reverse ++ named (m :: ms)), r)

/-- Nothing that is written is empty. -/
theorem ReadsBack.zero : ReadsBack 0 where
  value j hj hn := absurd hn (Nat.not_le_of_gt (length_render_pos hj))
  elements j js hjs hn := by
    obtain ⟨c, s, hs, -⟩ := exists_renderItems (hjs j List.mem_cons_self) js
    simp [hs] at hn
  members m ms hms hn := by
    obtain ⟨s, hs⟩ := exists_renderMembers m.1 m.2 (named ms)
    simp [named] at hs
    simp [named, hs] at hn

/-- A value is read by one call, and what is inside it by calls with a smaller bound. -/
theorem ReadsBack.value_succ {n : Nat} (ih : ReadsBack n) {j : Json} (hj : IsPlain j)
    (hn : (render j).length ≤ n + 1) {r : List Char} (hr : Follows r) :
    Json.value (n + 1) (render j ++ r) = some (j, r) := by
  cases hj with
  | null => simp [render, Json.value]
  | bool b => cases b <;> simp [render, Json.value]
  | int m => exact value_renderInt n m hr
  | text s => exact value_renderString n s r
  | @arr items h =>
    rcases items with - | ⟨i, items⟩
    · simp [render, renderItems, Json.value, skip_cons (show isSpace ']' = false from rfl)]
    · obtain ⟨c, s, hs, hspace, hc⟩ := exists_renderItems (h i List.mem_cons_self) items
      have hlength : (renderItems (i :: items)).length ≤ n := by
        simp only [render, List.length_cons] at hn
        omega
      have hread := ih.elements i items h hlength [] r
      rw [hs, List.cons_append] at hread
      rw [render, List.cons_append, hs, List.cons_append, value_bracket n hspace hc, hread]
      rfl
  | @record ms h =>
    rcases ms with - | ⟨m, ms⟩
    · simp [record, render, renderMembers, Json.value,
        skip_cons (show isSpace '\x7d' = false from rfl)]
    · have hlength : (renderMembers (named (m :: ms))).length ≤ n := by
        have hrender : render (record (m :: ms)) = '\x7b' :: renderMembers (named (m :: ms)) := rfl
        rw [hrender, List.length_cons] at hn
        omega
      obtain ⟨s, hs⟩ := exists_renderMembers m.1 m.2 (named ms)
      have hread := ih.members m ms h hlength [] r
      show Json.value (n + 1) ('\x7b' :: (renderMembers ((some m.1, m.2) :: named ms) ++ r)) = _
      rw [show named (m :: ms) = (some m.1, m.2) :: named ms from rfl, hs, List.cons_append]
        at hread
      rw [hs, List.cons_append, value_brace, hread]
      rfl

/-- An item is read by one call, and the items behind it by calls with a smaller bound. -/
theorem ReadsBack.elements_succ {n : Nat} (ih : ReadsBack n) {j : Json} {js : List Json}
    (hjs : ∀ i ∈ j :: js, IsPlain i) (hn : (renderItems (j :: js)).length ≤ n + 1)
    (acc : List Json) (r : List Char) :
    Json.elements (n + 1) acc (renderItems (j :: js) ++ r) =
      some (.arr (acc.reverse ++ j :: js), r) := by
  have hj := hjs j List.mem_cons_self
  rcases js with - | ⟨k, js⟩
  · have hlength : (render j).length ≤ n := by
      simp only [renderItems, List.length_append, List.length_singleton] at hn
      omega
    rw [renderItems, List.append_assoc, List.singleton_append,
      elements_last (ih.value j hj hlength _ (follows_cons (by simp) r)), List.reverse_cons]
  · have hsplit : renderItems (j :: k :: js) = render j ++ ',' :: renderItems (k :: js) := by
      simp [renderItems]
    -- The item takes up room too, so less than the bound is left for the others.
    have hpos := length_render_pos hj
    rw [hsplit, List.length_append, List.length_cons] at hn
    obtain ⟨c, s, hs, hspace, -⟩ := exists_renderItems (hjs k (by simp)) js
    have hread := ih.elements k js (fun i hi ↦ hjs i (List.mem_cons_of_mem _ hi)) (by omega)
      (j :: acc) r
    have hvalue := ih.value j hj (by omega) (',' :: (renderItems (k :: js) ++ r))
      (follows_cons (by simp) _)
    rw [hs, List.cons_append] at hread hvalue
    rw [hsplit, List.append_assoc, List.cons_append, hs, List.cons_append,
      elements_comma hvalue hspace, hread]
    simp

/-- A member is read by one call, and the members behind it by calls with a smaller bound. -/
theorem ReadsBack.members_succ {n : Nat} (ih : ReadsBack n) {m : String × Json}
    {ms : List (String × Json)} (hms : ∀ i ∈ m :: ms, IsPlain (Prod.snd i))
    (hn : (renderMembers (named (m :: ms))).length ≤ n + 1) (acc : List (Option String × Json))
    (r : List Char) :
    Json.members (n + 1) acc (renderMembers (named (m :: ms)) ++ r) =
      some (.obj (acc.reverse ++ named (m :: ms)), r) := by
  obtain ⟨k, j⟩ := m
  have hj : IsPlain j := hms (k, j) List.mem_cons_self
  obtain ⟨c, s, hs, hspace, -⟩ := exists_render hj
  rcases ms with - | ⟨m, ms⟩
  · have hsplit : renderMembers (named [(k, j)]) =
        renderString k ++ ':' :: (render j ++ ['\x7d']) := by
      simp [named, renderMembers, renderText]
    rw [hsplit] at hn ⊢
    simp only [List.length_append, List.length_cons] at hn
    have hvalue := ih.value j hj (by omega) ('\x7d' :: r) (follows_cons (by simp) r)
    rw [hs, List.cons_append] at hvalue
    rw [List.append_assoc, List.cons_append, List.append_assoc, List.singleton_append, hs,
      List.cons_append, members_last hspace hvalue]
    simp [named]
  · have hsplit : renderMembers (named ((k, j) :: m :: ms)) =
        renderString k ++ ':' :: (render j ++ ',' :: renderMembers (named (m :: ms))) := by
      simp [named, renderMembers, renderText]
    rw [hsplit] at hn ⊢
    simp only [List.length_append, List.length_cons] at hn
    obtain ⟨u, hu⟩ := exists_renderMembers m.1 m.2 (named ms)
    have hread := ih.members m ms (fun i hi ↦ hms i (List.mem_cons_of_mem _ hi)) (by omega)
      ((some k, j) :: acc) r
    have hvalue := ih.value j hj (by omega) (',' :: (renderMembers (named (m :: ms)) ++ r))
      (follows_cons (by simp) _)
    have hnamed : renderMembers (named (m :: ms)) = '"' :: u := hu
    rw [hnamed, List.cons_append] at hread hvalue
    rw [hs, List.cons_append] at hvalue
    rw [List.append_assoc, List.cons_append, List.append_assoc, List.cons_append, hnamed, hs,
      List.cons_append, List.cons_append, members_comma hspace rfl hvalue, hread]
    simp [named]

/-- Values, items and members are read back together, by induction on the bound; the three
statements need each other. -/
theorem readsBack (n : Nat) : ReadsBack n := by
  induction n with
  | zero => exact .zero
  | succ n ih =>
    exact ⟨fun j hj hn r hr ↦ ih.value_succ hj hn hr,
      fun j js hjs hn acc r ↦ ih.elements_succ hjs hn acc r,
      fun m ms hms hn acc r ↦ ih.members_succ hms hn acc r⟩

/-- **A value is read back as it was written.** -/
theorem ofString?_toText {j : Json} (hj : IsPlain j) : ofString? j.toText = some j := by
  obtain ⟨c, s, hs, hspace, -⟩ := exists_render hj
  have hread := (readsBack (2 * (render j).length + 2)).value j hj (by omega) []
    (fun c hc ↦ nomatch hc)
  rw [List.append_nil] at hread
  have hskip : skip (render j) = render j := by rw [hs, skip_cons hspace]
  rw [ofString?, toText, String.toList_ofList, parse?, hskip, hread]
  rfl

end DpuNetwork.Json
