import DpuNetwork.Json.Record
import DpuNetwork.Proofs.Addition

/-!
# What listings show

A listing is a text, and the entries in it are JSON values (`Network.entries?`). What is recognised
in the text depends on the entries alone (`Addition.recognise_eq_ok_iff`), so it is enough to follow
the entries: one that is put in where all others stay is recognised (`Addition.seen?_insert`), and
keeps nothing else from being recognised (`Addition.seen?_insert_of_seen`).

The addresses of an interface stand one level deeper than other entries, inside the interfaces that
the listing names.
-/

namespace DpuNetwork

open Ipv4

/-! ### Entries of a text -/

/-- The items of a text that is an array. -/
def arrayItems? (text : String) : Option (List Json) := (Json.ofString? text).bind Json.items?

/-- The addresses of an interface in a listing; an interface may have none. -/
def addressItems? (j : Json) : Option (List Json) :=
  match Json.fields? ["addr_info"] j with
  | some [addresses] => addresses.withDefault? [] Json.items?
  | _ => none

/-- The addresses of all interfaces in a listing. -/
def interfaceItems? (text : String) : Option (List Json) :=
  (arrayItems? text).bind fun links ↦ (links.mapM addressItems?).map List.flatten

/-- The entries in the answer to a query. -/
def Network.entries? (q : Command) (text : String) : Option (List Json) :=
  match q.args with
  | "-4" :: "-j" :: "addr" :: _ => interfaceItems? text
  | _ => arrayItems? text

/-- Routes are listed as an array of entries. -/
theorem Network.entries?_lookUp (destination : Cidr) (text : String) :
    entries? (lookUp destination) text = arrayItems? text := by
  unfold lookUp
  split <;> rfl

theorem Network.entries?_showRoutes (destination : Cidr) (table : Option Nat) (text : String) :
    entries? (showRoutes destination table) text = arrayItems? text := by
  cases table <;> rfl

/-- A list is read exactly when each of its elements is. -/
theorem mapM_eq_some_iff {α β : Type} {f : α → Option β} {as : List α} {bs : List β} :
    as.mapM f = some bs ↔ List.Forall₂ (fun a b ↦ f a = some b) as bs := by
  induction as generalizing bs with
  | nil => simp [eq_comm]
  | cons a as ih =>
    simp only [List.mapM_cons, Option.bind_eq_bind, Option.bind_eq_some_iff, Option.pure_def,
      Option.some_inj, ih, List.forall₂_cons_left_iff]
    constructor
    · rintro ⟨b, hb, bs', hbs, rfl⟩
      exact ⟨b, bs', hb, hbs, rfl⟩
    · rintro ⟨b, bs', hb, hbs, rfl⟩
      exact ⟨b, hb, bs', hbs, rfl⟩

theorem mapM_map_option {α β γ : Type} (f : α → Option β) (g : β → γ) (l : List α) :
    l.mapM (fun a ↦ (f a).map g) = (l.mapM f).map (List.map g) := by
  induction l with
  | nil => rfl
  | cons a l ih =>
    rw [List.mapM_cons, List.mapM_cons, ih]
    cases f a <;> cases l.mapM f <;> rfl

theorem mapM_bind_option {α β γ : Type} (f : α → Option β) (g : β → Option γ) {l : List α}
    {bs : List β} (h : l.mapM f = some bs) : l.mapM (fun a ↦ (f a).bind g) = bs.mapM g := by
  induction l generalizing bs with
  | nil =>
    obtain rfl : [] = bs := by simpa using h
    rfl
  | cons a l ih =>
    rw [List.mapM_cons] at h
    rcases ha : f a with - | b
    · simp [ha] at h
    rcases hl : l.mapM f with - | bs'
    · simp [ha, hl] at h
    obtain rfl : b :: bs' = bs := by simpa [ha, hl] using h
    rw [List.mapM_cons, List.mapM_cons, ha, ih hl]
    rfl

/-- If both steps succeed for all elements, the first one does. -/
theorem mapM_bind_eq_some {α β γ : Type} {f : α → Option β} {g : β → Option γ} {l : List α}
    {cs : List γ} (h : l.mapM (fun a ↦ (f a).bind g) = some cs) :
    ∃ bs, l.mapM f = some bs := by
  induction l generalizing cs with
  | nil => exact ⟨[], rfl⟩
  | cons a l ih =>
    rw [List.mapM_cons] at h
    rcases ha : f a with - | b
    · simp [ha] at h
    rcases hl : l.mapM (fun a ↦ (f a).bind g) with - | cs'
    · simp [hl] at h
    obtain ⟨bs, hbs⟩ := ih hl
    exact ⟨b :: bs, by simp [List.mapM_cons, ha, hbs]⟩

/-- A listing is read exactly when its entries are. -/
theorem entries_eq_ok_iff {α : Type} {decode : Json → Option α} {text : String} {xs : List α} :
    Listing.entries decode text = .ok xs ↔ (arrayItems? text).bind (·.mapM decode) = some xs := by
  have hlist : (Json.ofString? text).bind (Json.list? decode) =
      (arrayItems? text).bind (·.mapM decode) := by
    rw [arrayItems?, Option.bind_assoc]
    congr 1
    funext j
    rw [Json.list?]
    cases j.items? <;> rfl
  rw [Listing.entries, hlist]
  cases (arrayItems? text).bind (·.mapM decode) <;> simp

/-! ### Addresses -/

/-- The IPv4 address of an entry, as a list that is empty for other families. -/
def inetCidr? (e : AddressEntry) : Option (List Cidr) :=
  if e.family == "inet" then (Listing.cidr e).toOption.map ([·]) else some []

/-- The IPv4 address that an entry of a listing gives. -/
def inetAddress? (j : Json) : Option (List Cidr) := (Listing.address? j).bind inetCidr?

/-- The IPv4 addresses that some entries give. -/
def inetAddresses? (entries : List Json) : Option (List Cidr) :=
  (entries.mapM inetAddress?).map List.flatten

/-- An interface is read by reading its addresses. -/
theorem link?_eq (j : Json) :
    Listing.link? j = (addressItems? j).bind fun items ↦
      (items.mapM Listing.address?).map LinkEntry.mk := by
  unfold Listing.link? addressItems?
  rcases Json.fields? ["addr_info"] j with - | - | ⟨f, - | ⟨g, fs⟩⟩
  · rfl
  · rfl
  · rcases f with j | - | -
    · simp only [Json.Field.withDefault?, Json.list?]
      cases j.items? <;> rfl
    · rfl
    · rfl
  · rfl

/-- The addresses of several interfaces can be read interface by interface or all at once. -/
theorem flatMap_addresses_of_mapM {links : List Json} {items : List (List Json)}
    (h : links.mapM addressItems? = some items) (es : List AddressEntry) :
    (∃ ls, links.mapM Listing.link? = some ls ∧ ls.flatMap LinkEntry.addresses = es) ↔
      items.flatten.mapM Listing.address? = some es := by
  -- Both sides read the same entries in the same order, so they fail together.
  induction links generalizing items es with
  | nil =>
    obtain rfl : [] = items := by simpa using h
    simp
  | cons j links ih =>
    rw [List.mapM_cons] at h
    rcases hj : addressItems? j with - | is
    · simp [hj] at h
    rcases hrest : links.mapM addressItems? with - | rest
    · simp [hj, hrest] at h
    obtain rfl : is :: rest = items := by simpa [hj, hrest] using h
    have ih := ih hrest
    rw [List.mapM_cons, link?_eq, hj, List.flatten_cons, List.mapM_append]
    rcases hes : is.mapM Listing.address? with - | es₁
    · simp [hes]
    · rcases hls : links.mapM Listing.link? with - | ls
      · have hnone : rest.flatten.mapM Listing.address? = none := by
          rcases hes₂ : rest.flatten.mapM Listing.address? with - | es₂
          · rfl
          · obtain ⟨ls, hls', -⟩ := (ih es₂).mpr hes₂
            rw [hls] at hls'
            cases hls'
        simp [hes, hnone]
      · have hsome := (ih _).mp ⟨ls, hls, rfl⟩
        simp [hes, hsome]

/-- The entries of the family are read one by one. -/
theorem mapM_cidr_iff (es : List AddressEntry) (as : List Cidr) :
    (es.filter fun e ↦ e.family == "inet").mapM Listing.cidr = .ok as ↔
      ∃ parts, es.mapM inetCidr? = some parts ∧ parts.flatten = as := by
  -- An entry of another family is left out on the left and gives an empty part on the right.
  induction es generalizing as with
  | nil => simp [pure, Except.pure]
  | cons e es ih =>
    rw [List.mapM_cons, List.filter_cons, inetCidr?]
    split
    · rw [List.mapM_cons]
      rcases hc : Listing.cidr e with f | c
      · simp [bind, Except.bind, Except.toOption]
      · rcases hes : (es.filter fun e ↦ e.family == "inet").mapM Listing.cidr with f | cs
        · have hnone : es.mapM inetCidr? = none := by
            rcases hp : es.mapM inetCidr? with - | parts
            · rfl
            · have := (ih parts.flatten).mpr ⟨parts, hp, rfl⟩
              rw [hes] at this
              cases this
          rw [hes, hnone]
          simp [bind, Except.bind, Except.toOption]
        · obtain ⟨parts, hparts, hflatten⟩ := (ih cs).mp hes
          rw [hes, hparts, ← hflatten]
          simp [bind, Except.bind, pure, Except.pure, Except.toOption]
    · rw [ih]
      rcases hp : es.mapM inetCidr? with - | parts <;> simp

/-- The addresses of a listing are read exactly when those of its entries are. -/
theorem addresses_eq_ok_iff {text : String} {as : List Cidr} :
    (∃ ls, Listing.links text = .ok ls ∧ Listing.addresses ls = .ok as) ↔
      (interfaceItems? text).bind inetAddresses? = some as := by
  rw [interfaceItems?]
  rcases harray : arrayItems? text with - | links
  · simp [Listing.links, entries_eq_ok_iff, harray]
  have hlinks (ls : List LinkEntry) :
      Listing.links text = .ok ls ↔ links.mapM Listing.link? = some ls := by
    rw [Listing.links, entries_eq_ok_iff, harray]
    rfl
  rcases hitems : links.mapM addressItems? with - | items
  · -- An interface whose addresses cannot be found cannot be read.
    have hnone (ls : List LinkEntry) : links.mapM Listing.link? ≠ some ls := by
      intro h
      simp only [funext link?_eq] at h
      obtain ⟨items, h⟩ := mapM_bind_eq_some h
      rw [hitems] at h
      cases h
    simp [hlinks, hnone, hitems]
  have hread : (∃ ls, links.mapM Listing.link? = some ls ∧ Listing.addresses ls = .ok as) ↔
      inetAddresses? items.flatten = some as := by
    rw [inetAddresses?, Option.map_eq_some_iff]
    constructor
    · rintro ⟨ls, hls, has⟩
      have hes := (flatMap_addresses_of_mapM hitems _).mp ⟨ls, hls, rfl⟩
      obtain ⟨parts, hparts, hflatten⟩ := (mapM_cidr_iff _ as).mp has
      exact ⟨parts, (mapM_bind_option _ _ hes).trans hparts, hflatten⟩
    · rintro ⟨parts, hparts, rfl⟩
      obtain ⟨es, hes⟩ := mapM_bind_eq_some hparts
      obtain ⟨ls, hls, rfl⟩ := (flatMap_addresses_of_mapM hitems es).mpr hes
      refine ⟨ls, hls, (mapM_cidr_iff _ _).mpr ⟨parts, ?_, rfl⟩⟩
      exact (mapM_bind_option _ _ hes).symm.trans hparts
  simpa [hlinks, hitems] using hread

/-! ### Additions among entries -/

namespace Addition

/-- Whether an entry shows an addition, if the entry can be read. -/
def see? : Addition → Json → Option Bool
  | address _ a, j => (inetAddress? j).map (·.contains a)
  | route _ gateway device _ _, j => (Listing.route? j).map (Listing.routeMatches gateway device)
  | rule source table priority, j =>
    (Listing.rule? j).map (Listing.ruleMatches source.network table priority)

/-- Whether some entries show an addition, if all of them can be read. -/
def seen? (A : Addition) (entries : List Json) : Option Bool :=
  (entries.mapM A.see?).map (·.contains true)

theorem contains_true_map {α : Type} (f : α → Bool) (l : List α) :
    (l.map f).contains true = l.any f := by
  rw [Bool.eq_iff_iff]
  simp

/-- When an addition is seen in what is read from an entry, it is seen in what is read from all. -/
theorem seen?_eq {A : Addition} {α : Type} {read : Json → Option α} {f : α → Bool}
    (h : ∀ j, A.see? j = (read j).map f) (entries : List Json) :
    A.seen? entries = (entries.mapM read).map (·.any f) := by
  rw [seen?, funext h, mapM_map_option, Option.map_map]
  congr 1
  exact funext (contains_true_map f)

/-- What is seen of an addition in some entries, for each kind. -/
theorem seen?_address (link : String) (a : Cidr) (entries : List Json) :
    (address link a).seen? entries = (inetAddresses? entries).map (·.contains a) := by
  rw [seen?_eq (fun _ ↦ rfl), inetAddresses?, Option.map_map]
  refine congrArg (Option.map · _) (funext fun parts ↦ ?_)
  rw [Function.comp_apply, Bool.eq_iff_iff]
  simp

theorem seen?_route (destination : Cidr) (gateway : Address) (device : String)
    (metric table : Option Nat) (entries : List Json) :
    (route destination gateway device metric table).seen? entries =
      (entries.mapM Listing.route?).map (Listing.hasRoute gateway device) :=
  seen?_eq (fun _ ↦ rfl) entries

theorem seen?_rule (source : Cidr) (table priority : Nat) (entries : List Json) :
    (rule source table priority).seen? entries =
      (entries.mapM Listing.rule?).map (Listing.hasRule source table priority) :=
  seen?_eq (fun _ ↦ rfl) entries

/-- What is recognised in a text depends on its entries alone. -/
theorem recognise_eq_ok_iff {A : Addition} {text : String} {b : Bool} :
    A.recognise text = .ok b ↔ (Network.entries? A.listing text).bind A.seen? = some b := by
  cases A with
  | address link a =>
    have hread : (Network.entries? (Network.showAddresses link) text).bind (address link a).seen? =
        ((interfaceItems? text).bind inetAddresses?).map (·.contains a) := by
      simp only [funext (seen?_address link a), Option.map_bind]
      rfl
    simp only [listing, hread, Option.map_eq_some_iff, ← addresses_eq_ok_iff, recognise,
      except_bind_eq_ok_iff, except_pure_eq_ok_iff]
    constructor
    · rintro ⟨ls, hls, as, has, hb⟩
      exact ⟨as, ⟨ls, hls, has⟩, hb⟩
    · rintro ⟨as, ⟨ls, hls, has⟩, hb⟩
      exact ⟨ls, hls, as, has, hb⟩
  | route destination gateway device metric table =>
    have hread : (Network.entries? (Network.showRoutes destination table) text).bind
          (route destination gateway device metric table).seen? =
        ((arrayItems? text).bind (·.mapM Listing.route?)).map
          (Listing.hasRoute gateway device) := by
      rw [funext (seen?_route destination gateway device metric table), Option.map_bind,
        Network.entries?_showRoutes]
      rfl
    simp only [listing, hread, Option.map_eq_some_iff, ← entries_eq_ok_iff, recognise,
      except_bind_eq_ok_iff, except_pure_eq_ok_iff, Listing.routes]
  | rule source table priority =>
    have hread : (Network.entries? Network.showRules text).bind (rule source table priority).seen? =
        ((arrayItems? text).bind (·.mapM Listing.rule?)).map
          (Listing.hasRule source table priority) := by
      rw [funext (seen?_rule source table priority), Option.map_bind]
      rfl
    simp only [listing, hread, Option.map_eq_some_iff, ← entries_eq_ok_iff, recognise,
      except_bind_eq_ok_iff, except_pure_eq_ok_iff, Listing.rules]

/-- The entry by which an addition is listed: an address with its family and its length, a route
with its gateway and its interface, a rule with its priority, its table and the address of its
source, where the length of a single address is left out. Further members do not matter. -/
def ShownBy : Addition → Json → Prop
  | address _ a, j => Json.fields? ["family", "local", "prefixlen"] j =
      some [.given (.ofText "inet"), .given (.ofText a.address.text), .given (.int a.prefixLength)]
  | route _ gateway device _ _, j => Json.fields? ["gateway", "dev"] j =
      some [.given (.ofText gateway.text), .given (.ofText device)]
  | rule source table priority, j => Json.fields? ["priority", "src", "srclen", "table"] j =
      some [.given (.int priority), .given (.ofText source.networkAddress.text),
        if source.prefixLength = 32 then .omitted else .given (.int source.prefixLength),
        .given (.ofText (toString table))]

theorem natural?_int {limit n : Nat} (h : n ≤ limit) : Json.natural? limit (.int n) = some n := by
  have h' : (0 : Int) ≤ n ∧ (n : Int) ≤ limit := by omega
  rw [Json.natural?, if_pos h', Int.toNat_natCast]

/-- An entry that shows an addition is read as that addition. This and the next two lemmas say so of
each kind. -/
theorem inetAddress?_of_shownBy {link : String} {a : Cidr} {j : Json}
    (h : (address link a).ShownBy j) : inetAddress? j = some [a] := by
  have haddress : Listing.address? j =
      some ⟨"inet", a.address.text, a.prefixLength⟩ := by
    have hle : a.prefixLength ≤ 255 := Nat.le_trans a.prefixLength_le (by decide)
    rw [Listing.address?, h]
    simp [Json.Field.required?, Json.text?, Json.ofText, natural?_int hle]
  rw [inetAddress?, haddress]
  simp [inetCidr?, Listing.cidr, Cidr.ofParts?, a.prefixLength_le, Except.toOption]

theorem route?_of_shownBy {destination : Cidr} {gateway : Address} {device : String}
    {metric table : Option Nat} {j : Json}
    (h : (route destination gateway device metric table).ShownBy j) :
    Listing.route? j = some ⟨some gateway.text, some device⟩ := by
  rw [Listing.route?, h]
  simp [Json.Field.optional?, Json.orNull?, Json.text?, Json.ofText]

theorem rule?_of_shownBy {source : Cidr} {table priority : Nat} {j : Json}
    (hpriority : priority ≤ 4294967295) (h : (rule source table priority).ShownBy j) :
    Listing.rule? j = some ⟨priority, some source.networkAddress.text,
      if source.prefixLength = 32 then none else some source.prefixLength,
      some (toString table)⟩ := by
  have hle : source.prefixLength ≤ 255 := Nat.le_trans source.prefixLength_le (by decide)
  rw [Listing.rule?, h]
  by_cases hlength : source.prefixLength = 32 <;>
    simp [hlength, Json.Field.required?, Json.Field.optional?, Json.orNull?, Json.text?,
      Json.ofText, natural?_int hle, natural?_int hpriority]

/-- The length that is left out of a rule is that of a single address. -/
theorem getD_sourceLength (n : Nat) : (if n = 32 then none else some n).getD 32 = n := by
  split
  · next h => exact h.symm
  · rfl

/-- The entry by which an addition is listed is recognised. -/
theorem see?_of_shownBy {plan : Plan} {A : Addition} (hA : plan.MayAdd A) {j : Json}
    (h : A.ShownBy j) : A.see? j = some true := by
  cases A with
  | address link a => simp [see?, inetAddress?_of_shownBy h]
  | route destination gateway device metric table =>
    simp [see?, route?_of_shownBy h, Listing.routeMatches]
  | rule source table priority =>
    have hpriority : priority ≤ 4294967295 := by
      rcases hA.2 with rfl | rfl <;> decide
    have hnetwork : source.network.networkAddress = source.networkAddress :=
      Cidr.clearLow_clearLow _ _
    simp [see?, rule?_of_shownBy hpriority h, Listing.ruleMatches, hnetwork, getD_sourceLength]

/-- The entry by which an addition is listed can be read by all who read the listing. -/
theorem exists_see?_of_shownBy {plan : Plan} {A B : Addition} (hA : plan.MayAdd A) {j : Json}
    (h : A.ShownBy j) (hlisting : B.listing = A.listing) : ∃ b, B.see? j = some b := by
  have hkind := kind_eq_of_listing_eq hlisting
  cases A with
  | address link a =>
    cases B with
    | address link' b => exact ⟨_, by rw [see?, inetAddress?_of_shownBy h, Option.map_some]⟩
    | _ => simp [kind] at hkind
  | route destination gateway device metric table =>
    cases B with
    | route _ gateway' device' _ _ =>
      exact ⟨_, by rw [see?, route?_of_shownBy h, Option.map_some]⟩
    | _ => simp [kind] at hkind
  | rule source table priority =>
    have hpriority : priority ≤ 4294967295 := by
      rcases hA.2 with rfl | rfl <;> decide
    cases B with
    | rule source' table' priority' =>
      exact ⟨_, by rw [see?, rule?_of_shownBy hpriority h, Option.map_some]⟩
    | _ => simp [kind] at hkind

/-- An entry that is put in adds to what the entries give. -/
theorem exists_mapM_insert {α β : Type} {f : α → Option β} {before after : List α} {bs : List β}
    (h : (before ++ after).mapM f = some bs) {a : α} {b : β} (ha : f a = some b) :
    ∃ bs', (before ++ a :: after).mapM f = some bs' ∧ b ∈ bs' ∧ bs ⊆ bs' := by
  rw [List.mapM_append] at h
  rcases hbefore : before.mapM f with - | xs
  · simp [hbefore] at h
  rcases hafter : after.mapM f with - | ys
  · simp [hbefore, hafter] at h
  obtain rfl : xs ++ ys = bs := by simpa [hbefore, hafter] using h
  exact ⟨xs ++ b :: ys, by simp [hbefore, hafter, ha], by simp, by simp⟩

/-- Behind a successful addition the listing shows it. -/
theorem seen?_insert {A : Addition} {before after : List Json} {b : Bool} {j : Json}
    (h : A.seen? (before ++ after) = some b) (hj : A.see? j = some true) :
    A.seen? (before ++ j :: after) = some true := by
  rw [seen?, Option.map_eq_some_iff] at h
  obtain ⟨bs, hbs, -⟩ := h
  obtain ⟨bs', hbs', hmem, -⟩ := exists_mapM_insert hbs hj
  simp [seen?, hbs', hmem]

/-- What is shown stays shown when an entry is put in that can be read. -/
theorem seen?_insert_of_seen {A : Addition} {before after : List Json} {b : Bool} {j : Json}
    (h : A.seen? (before ++ after) = some true) (hj : A.see? j = some b) :
    A.seen? (before ++ j :: after) = some true := by
  rw [seen?, Option.map_eq_some_iff] at h
  obtain ⟨bs, hbs, htrue⟩ := h
  obtain ⟨bs', hbs', -, hsubset⟩ := exists_mapM_insert hbs hj
  have hmem : true ∈ bs' := hsubset (List.contains_iff_mem.mp htrue)
  simp [seen?, hbs', hmem]

end Addition

end DpuNetwork
