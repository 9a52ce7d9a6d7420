import Mathlib.Data.List.DropRight
import DpuNetwork.FunctionConfig

/-!
# Reading the device file of a host function

The Ethernet address of a host function stands in the first line of its device file that has the key
`MAC`. What the file says is told here by how it can be written: its lines with their ends
(`HasLines`), a key and a value with blanks around them (`Sets`), and the six pairs of an address
(`Mac.Spells`).

## Main statements

* `Text.trim_eq_iff`, `Text.lines_eq_iff`: what trimming leaves, and what the lines of a text are;
* `FunctionConfig.tellsMac`: what every text of a device file tells about the address.
-/

namespace DpuNetwork

open Text

namespace Text

variable {s x l r : List Char}

/-! ### Blanks -/

/-- A text stands in another one with nothing but blanks around it. -/
def Padded (x s : List Char) : Prop :=
  ∃ l r, s = l ++ x ++ r ∧ (∀ c ∈ l, isBlank c = true) ∧ ∀ c ∈ r, isBlank c = true

/-- A text neither begins nor ends with a blank. -/
def IsTrimmed (x : List Char) : Prop :=
  (∀ c ∈ x.head?, isBlank c = false) ∧ ∀ c ∈ x.getLast?, isBlank c = false

theorem trim_eq (s : List Char) : trim s = (s.dropWhile isBlank).rdropWhile isBlank := rfl

/-- A text without any blank is trimmed. -/
theorem isTrimmed_of_forall (h : ∀ c ∈ x, isBlank c = false) : IsTrimmed x :=
  ⟨fun c hc ↦ h c (List.mem_of_mem_head? hc), fun c hc ↦ h c (List.mem_of_mem_getLast? hc)⟩

/-- Nothing but blanks is taken away. -/
theorem padded_trim (s : List Char) : Padded (trim s) s := by
  refine ⟨s.takeWhile isBlank, (s.dropWhile isBlank).rtakeWhile isBlank, ?_,
    fun c hc ↦ List.mem_takeWhile_imp hc, fun c hc ↦ List.mem_rtakeWhile_imp hc⟩
  rw [trim_eq, List.append_assoc, List.rdropWhile_append_rtakeWhile,
    List.takeWhile_append_dropWhile]

/-- Trimming once is enough. -/
theorem isTrimmed_trim (s : List Char) : IsTrimmed (trim s) := by
  rw [trim_eq]
  constructor
  · -- What is left of the end has the first character of what was left of the beginning.
    intro c hc
    obtain ⟨t, ht⟩ := List.rdropWhile_prefix isBlank (s.dropWhile isBlank)
    have hhead : (s.dropWhile isBlank).head? = some c := by
      rw [← ht, List.head?_append, hc]
      rfl
    have hnot := List.head?_dropWhile_not isBlank s
    rwa [hhead] at hnot
  · intro c hc
    obtain ⟨hne, rfl⟩ := List.mem_getLast?_eq_getLast hc
    simpa using List.rdropWhile_last_not isBlank (s.dropWhile isBlank) hne

/-- Blanks in front are dropped up to the first character that is none. -/
theorem dropWhile_append_eq (hl : ∀ c ∈ l, isBlank c = true)
    (hx : ∀ c ∈ x.head?, isBlank c = false) : (l ++ x).dropWhile isBlank = x := by
  rw [List.dropWhile_append_of_pos hl]
  cases x with
  | nil => rfl
  | cons c x => exact List.dropWhile_cons_of_neg (by simp [hx c rfl])

/-- The same from the end. -/
theorem rdropWhile_append_eq (hr : ∀ c ∈ r, isBlank c = true)
    (hx : ∀ c ∈ x.getLast?, isBlank c = false) : (x ++ r).rdropWhile isBlank = x := by
  rw [List.rdropWhile, List.reverse_append, dropWhile_append_eq (by simpa using hr) (by simpa),
    List.reverse_reverse]

/-- Trimming leaves what the blanks stood around. -/
theorem trim_of_padded (hx : IsTrimmed x) (h : Padded x s) : trim s = x := by
  obtain ⟨l, r, rfl, hl, hr⟩ := h
  rw [trim_eq, List.append_assoc]
  cases x with
  | nil =>
    have hall : ∀ c ∈ l ++ r, isBlank c = true := List.forall_mem_append.mpr ⟨hl, hr⟩
    rw [List.nil_append, List.dropWhile_eq_nil_iff.mpr hall]
    rfl
  | cons c x =>
    have hhead : ∀ d ∈ (c :: x ++ r).head?, isBlank d = false := hx.1
    rw [dropWhile_append_eq hl hhead, rdropWhile_append_eq hr hx.2]

/-- **What trimming leaves**: the trimmed text that stands in it with blanks around it. -/
theorem trim_eq_iff : trim s = x ↔ Padded x s ∧ IsTrimmed x :=
  ⟨fun h ↦ h ▸ ⟨padded_trim s, isTrimmed_trim s⟩, fun ⟨h, hx⟩ ↦ trim_of_padded hx h⟩

/-! ### Lines -/

/-- A text has some lines. Each ends with a line feed or with a carriage return and a line feed, but
the last one, which is not empty, may also end with the text. -/
inductive HasLines : List (List Char) → List Char → Prop
  /-- The empty text has no lines. -/
  | nil : HasLines [] []
  /-- The last line ends with the text. -/
  | last {line : List Char} (h : '\n' ∉ line) (hne : line ≠ []) : HasLines [line] line
  /-- A line ends with a line feed alone. -/
  | feed {line s : List Char} {ls : List (List Char)} (h : '\n' ∉ line)
      (hreturn : line.getLast? ≠ some '\r') (hs : HasLines ls s) :
      HasLines (line :: ls) (line ++ '\n' :: s)
  /-- A line ends with a carriage return and a line feed. -/
  | returnFeed {line s : List Char} {ls : List (List Char)} (h : '\n' ∉ line)
      (hs : HasLines ls s) : HasLines (line :: ls) (line ++ '\r' :: '\n' :: s)

/-- The lines of a text are the first one, without its end, and the others. -/
theorem lines_append {line : List Char} (h : '\n' ∉ line) (s : List Char) :
    lines (line ++ '\n' :: s) =
      (if line.getLast? = some '\r' then line.dropLast else line) :: lines s := by
  obtain ⟨p, ps, hps⟩ := List.exists_cons_of_ne_nil (cutWhere_ne_nil (· == '\n') s)
  rw [← cut] at hps
  simp only [lines, cut_append h, hps, List.dropLast_cons_cons, List.map_cons,
    List.getLast?_cons_cons]
  split <;> rfl

/-- A text without a line break is one line, unless it is empty. -/
theorem lines_of_not_mem {line : List Char} (h : '\n' ∉ line) (hne : line ≠ []) :
    lines line = [line] := by
  obtain ⟨c, cs, rfl⟩ := List.exists_cons_of_ne_nil hne
  simp [lines, cut_of_not_mem h]

/-- The lines of a text are those that were put together, whichever of the two ends they have. -/
theorem HasLines.lines_eq {ls : List (List Char)} (h : HasLines ls s) : lines s = ls := by
  induction h with
  | nil => rfl
  | last h hne => exact lines_of_not_mem h hne
  | feed h hreturn _ ih => rw [lines_append h, if_neg hreturn, ih]
  | @returnFeed line s ls h _ ih =>
    have hmem : '\n' ∉ line ++ ['\r'] := by simpa using h
    rw [List.append_cons, lines_append hmem, if_pos (by simp), List.dropLast_concat, ih]

/-- Lines that are written with a line feed each are the lines of the text. -/
theorem hasLines_flatMap {ls : List (List Char)} (hfeed : ∀ line ∈ ls, '\n' ∉ line)
    (hreturn : ∀ line ∈ ls, '\r' ∉ line) : HasLines ls (ls.flatMap (· ++ ['\n'])) := by
  induction ls with
  | nil => exact .nil
  | cons line ls ih =>
    rw [List.forall_mem_cons] at hfeed hreturn
    rw [List.flatMap_cons, List.append_assoc]
    exact .feed hfeed.1 (fun h ↦ hreturn.1 (List.mem_of_getLast? h)) (ih hfeed.2 hreturn.2)

/-- Every text is put together from some lines. -/
theorem exists_hasLines (s : List Char) : ∃ ls, HasLines ls s := by
  -- By what is left behind the first line feed.
  induction hn : s.length using Nat.strong_induction_on generalizing s with
  | h n ih =>
    by_cases hmem : '\n' ∈ s
    · obtain ⟨line, rest, rfl, hline⟩ := List.eq_append_cons_of_mem hmem
      have hlt : rest.length < n := by
        rw [← hn, List.length_append, List.length_cons]
        omega
      obtain ⟨ls, hls⟩ := ih rest.length hlt rest rfl
      by_cases hreturn : line.getLast? = some '\r'
      · obtain ⟨line, rfl⟩ := List.getLast?_eq_some_iff.mp hreturn
        rw [List.append_assoc, List.singleton_append]
        exact ⟨line :: ls, .returnFeed (fun h ↦ hline (List.mem_append_left _ h)) hls⟩
      · exact ⟨line :: ls, .feed hline hreturn hls⟩
    · rcases eq_or_ne s [] with rfl | hne
      · exact ⟨[], .nil⟩
      · exact ⟨[s], .last hmem hne⟩

/-- **The lines of a text.** -/
theorem lines_eq_iff {ls : List (List Char)} : lines s = ls ↔ HasLines ls s := by
  refine ⟨?_, HasLines.lines_eq⟩
  rintro rfl
  obtain ⟨ls, hls⟩ := exists_hasLines s
  rwa [hls.lines_eq]

end Text

namespace FunctionConfig

variable {s key value line : List Char} {text : String}

/-! ### Settings -/

/-- A line has a key: blanks and the key stand in front of its first colon. -/
def HasKey (key line : List Char) : Prop :=
  ∃ k v, line = k ++ ':' :: v ∧ ':' ∉ k ∧ Padded key k

/-- A line sets a key to a value: with nothing but blanks around them, the key stands in front of
its first colon and the value behind it. -/
def Sets (key value line : List Char) : Prop :=
  ∃ k v, line = k ++ ':' :: v ∧ ':' ∉ k ∧ Padded key k ∧ Padded value v

/-- **What is read off a line**: the key and the value that it sets, without blanks around them. -/
theorem setting?_eq_some_iff : setting? line = some (key, value) ↔
    Sets key value line ∧ IsTrimmed key ∧ IsTrimmed value := by
  simp only [setting?, Option.map_eq_some_iff, Prod.exists, cutOnce_eq_some_iff, Prod.mk.injEq,
    trim_eq_iff, Sets]
  constructor
  · rintro ⟨k, v, ⟨rfl, hk⟩, ⟨hkey, hkey'⟩, hvalue, hvalue'⟩
    exact ⟨⟨k, v, rfl, hk, hkey, hvalue⟩, hkey', hvalue'⟩
  · rintro ⟨⟨k, v, rfl, hk, hkey, hvalue⟩, hkey', hvalue'⟩
    exact ⟨k, v, ⟨rfl, hk⟩, ⟨hkey, hkey'⟩, hvalue, hvalue'⟩

/-- A line has a key exactly when it is read as a setting of that key. -/
theorem hasKey_iff (hkey : IsTrimmed key) :
    HasKey key line ↔ ∃ value, setting? line = some (key, value) := by
  simp only [setting?_eq_some_iff]
  constructor
  · rintro ⟨k, v, rfl, hk, hpadded⟩
    exact ⟨trim v, ⟨k, v, rfl, hk, hpadded, padded_trim v⟩, hkey, isTrimmed_trim v⟩
  · rintro ⟨value, ⟨k, v, rfl, hk, hpadded, -⟩, -⟩
    exact ⟨k, v, rfl, hk, hpadded⟩

/-- **The value of a key** is the one that the first line with the key sets. -/
theorem value?_eq_some_iff (hkey : IsTrimmed key) : value? key s = some value ↔
    ∃ before line after, lines s = before ++ line :: after ∧ (∀ l ∈ before, ¬ HasKey key l) ∧
      setting? line = some (key, value) := by
  simp only [value?, hasKey_iff hkey, not_exists]
  constructor
  · intro h
    obtain ⟨ps, ⟨k, v⟩, qs, hsettings, hkv, hps⟩ := List.findSome?_eq_some_iff.mp h
    obtain ⟨rfl, rfl⟩ : k = key ∧ v = value := by simpa using hkv
    obtain ⟨ls, rest, hlines, rfl, hrest⟩ := List.filterMap_eq_append_iff.mp hsettings
    obtain ⟨ls', line, after, rfl, hls', hline, -⟩ := List.filterMap_eq_cons_iff.mp hrest
    refine ⟨ls ++ ls', line, after, by rw [hlines, List.append_assoc], ?_, hline⟩
    intro l hl v hv
    rcases List.mem_append.mp hl with hl | hl
    · simpa using hps _ (List.mem_filterMap.mpr ⟨l, hl, hv⟩)
    · rw [hls' l hl] at hv
      cases hv
  · rintro ⟨before, line, after, hlines, hbefore, hline⟩
    refine List.findSome?_eq_some_iff.mpr ⟨before.filterMap setting?, (key, value),
      after.filterMap setting?, ?_, if_pos rfl, ?_⟩
    · rw [hlines, List.filterMap_append, List.filterMap_cons_some hline]
    · rintro ⟨k, v⟩ hmem
      obtain ⟨l, hl, hv⟩ := List.mem_filterMap.mp hmem
      exact if_neg fun (hk : k = key) ↦ hbefore l hl v (hk ▸ hv)

/-- There is no value exactly when no line has the key; a line that is no setting is passed over. -/
theorem value?_eq_none_iff (hkey : IsTrimmed key) :
    value? key s = none ↔ ∀ l ∈ lines s, ¬ HasKey key l := by
  simp only [value?, hasKey_iff hkey, not_exists, List.findSome?_eq_none_iff]
  constructor
  · intro h l hl v hv
    simpa using h _ (List.mem_filterMap.mpr ⟨l, hl, hv⟩)
  · rintro h ⟨k, v⟩ hmem
    obtain ⟨l, hl, hv⟩ := List.mem_filterMap.mp hmem
    exact if_neg fun (hk : k = key) ↦ h l hl v (hk ▸ hv)

end FunctionConfig

/-! ### The address -/

namespace Mac

variable {m : Mac} {n : Nat} {c : Char} {b : Fin 256} {bs : List (Fin 256)} {p s : List Char}

/-- Digits are no blanks, so trimming leaves an address whole. -/
theorem IsDigit.not_isBlank (h : IsDigit n c) (hn : n < 16) : isBlank c = false := by
  have hupper : ∀ n < 16, isBlank (upperDigit n) = false := by decide
  have hlower : ∀ n < 16, isBlank (lowerDigit n) = false := by decide
  rcases h with rfl | rfl
  · exact hupper n hn
  · exact hlower n hn

theorem IsPair.not_isBlank (h : IsPair b p) (hc : c ∈ p) : isBlank c = false := by
  obtain ⟨c₁, c₂, rfl, h₁, h₂⟩ := h
  simp only [List.mem_cons, List.not_mem_nil, or_false] at hc
  rcases hc with rfl | rfl
  · exact h₁.not_isBlank (by omega)
  · exact h₂.not_isBlank (by omega)

/-- What spells an address has no blanks. -/
theorem SpellsBytes.not_isBlank (h : SpellsBytes bs s) : ∀ c ∈ s, isBlank c = false := by
  induction h with
  | single hp => exact fun c hc ↦ hp.not_isBlank hc
  | @cons b p sep bs s hp hsep _ ih =>
    have hnot : isBlank sep = false := by rcases hsep with rfl | rfl <;> decide
    intro c hc
    rcases List.mem_append.mp hc with hc | hc
    · exact hp.not_isBlank hc
    · rcases List.mem_cons.mp hc with rfl | hc
      · exact hnot
      · exact ih c hc

end Mac

namespace FunctionConfig

/-- The key of the address. -/
def macKey : List Char := ['M', 'A', 'C']

theorem isTrimmed_macKey : IsTrimmed macKey := by
  refine isTrimmed_of_forall fun c hc ↦ ?_
  simp only [macKey, List.mem_cons, List.not_mem_nil, or_false] at hc
  rcases hc with rfl | rfl | rfl <;> decide

/-- What the value of the address is read as. -/
def readMac (value : List Char) : Except Failure Mac :=
  (Mac.parse value).mapError fun fault ↦ .unreadable (.functionMac (String.ofList value) fault)

/-- The file is read in two steps: the line with the key is found, and only its value is judged. -/
theorem mac_eq (text : String) : mac text =
    match value? macKey text.toList with
    | none => .error (.unreadable .functionConfig)
    | some value => readMac value := by
  have hkey : value? ['M', 'A', 'C'] text.toList = value? macKey text.toList := rfl
  rw [mac, hkey]
  rcases value? macKey text.toList with _ | value
  · rfl
  · simp only [readMac]
    rcases Mac.parse value with fault | m <;> rfl

theorem mac_eq_of_value? {text : String} {value : List Char}
    (h : value? macKey text.toList = some value) : mac text = readMac value := by
  rw [mac_eq, h]

/-- A file without such a line is the only one that is unreadable as a whole; any other error is
about the value. -/
theorem mac_eq_error_iff {text : String} :
    mac text = .error (.unreadable .functionConfig) ↔ value? macKey text.toList = none := by
  rcases h : value? macKey text.toList with _ | value
  · simp [mac_eq, h]
  · rw [mac_eq_of_value? h, readMac]
    rcases Mac.parse value with fault | m <;> simp [Except.mapError]

/-- **What a text tells about the address.** -/
structure TellsMac (text : String) : Prop where
  /-- The first line with the key decides: it gives the address that its value spells. -/
  shown {before after : List (List Char)} {line value : List Char} {m : Mac}
    (htext : HasLines (before ++ line :: after) text.toList)
    (hbefore : ∀ l ∈ before, ¬ HasKey macKey l) (hline : Sets macKey value line)
    (hvalue : m.Spells value) : mac text = .ok m
  /-- Without such a line there is no address, and only then it is reported that there is none. -/
  missing_iff {ls : List (List Char)} (htext : HasLines ls text.toList) :
    mac text = .error (.unreadable .functionConfig) ↔ ∀ l ∈ ls, ¬ HasKey macKey l
  /-- Whatever else comes of the text is read off the value in the first line with the key. -/
  origin (h : mac text ≠ .error (.unreadable .functionConfig)) :
    ∃ before line after value, HasLines (before ++ line :: after) text.toList ∧
      (∀ l ∈ before, ¬ HasKey macKey l) ∧ Sets macKey value line ∧ IsTrimmed value ∧
      mac text = readMac value

/-- **The address in every text.** -/
theorem tellsMac (text : String) : TellsMac text where
  shown := by
    intro before after line value m htext hbefore hline hvalue
    have htrimmed : IsTrimmed value := isTrimmed_of_forall hvalue.not_isBlank
    have hsetting := setting?_eq_some_iff.mpr ⟨hline, isTrimmed_macKey, htrimmed⟩
    have hvalue? : value? macKey text.toList = some value :=
      (value?_eq_some_iff isTrimmed_macKey).mpr
        ⟨before, line, after, lines_eq_iff.mpr htext, hbefore, hsetting⟩
    rw [mac_eq_of_value? hvalue?, readMac, hvalue.parse_eq]
    rfl
  missing_iff := by
    intro ls htext
    rw [mac_eq_error_iff, value?_eq_none_iff isTrimmed_macKey, lines_eq_iff.mpr htext]
  origin := by
    intro h
    obtain ⟨value, hvalue⟩ := Option.ne_none_iff_exists'.mp (mt mac_eq_error_iff.mpr h)
    obtain ⟨before, line, after, hlines, hbefore, hsetting⟩ :=
      (value?_eq_some_iff isTrimmed_macKey).mp hvalue
    obtain ⟨hline, -, htrimmed⟩ := setting?_eq_some_iff.mp hsetting
    exact ⟨before, line, after, value, lines_eq_iff.mp hlines, hbefore, hline, htrimmed,
      mac_eq_of_value? hvalue⟩

example : (Failure.unreadable .functionConfig).message =
    "Failed to parse PF config: no MAC line" := by decide

end FunctionConfig

end DpuNetwork
