import DpuNetwork.Proofs.Idempotence.Listings
import DpuNetwork.Proofs.Ipv4.CidrText
import DpuNetwork.Proofs.Json.RoundTrip

/-!
# Additions as the network tool reads and lists them

The other side of a pass: what a network tool makes of the commands that it is given
(`Addition.ofCommand?`), and the entries by which it lists what it has (`Addition.entry`). An
addition is read back from its command (`Addition.ofCommand?_command`), and its entry shows it and
nothing else (`Addition.see?_entry`), for every address and every prefix length.
-/

namespace DpuNetwork

open Ipv4 Text

/-- A listing that is written as an array is read as its items. -/
theorem arrayItems?_toText {js : List Json} (h : ∀ j ∈ js, j.IsPlain) :
    arrayItems? (Json.arr js).toText = some js := by
  rw [arrayItems?, Json.ofString?_toText (.arr h)]
  rfl

/-! ### Numbers -/

/-- Reads a number. -/
def number? (s : String) : Option Nat := natural? s.toList

@[simp] theorem number?_repr (n : Nat) : number? n.repr = some n := by
  have htoList : n.repr.toList = numeral n := by
    rw [Nat.repr, String.toList_ofList]
    rfl
  rw [number?, htoList, natural?_numeral]

/-- Different numbers have different texts. -/
@[simp] theorem repr_inj {m n : Nat} : m.repr = n.repr ↔ m = n :=
  ⟨fun h ↦ by simpa using congrArg number? h, fun h ↦ h ▸ rfl⟩

namespace Addition

/-! ### Commands -/

/-- Reads the metric and the table of a route. -/
def routeOptions? : List String → Option (Option Nat × Option Nat)
  | [] => some (none, none)
  | ["metric", m] => do return (some (← number? m), none)
  | ["table", t] => do return (none, some (← number? t))
  | ["metric", m, "table", t] => do return (some (← number? m), some (← number? t))
  | _ => none

/-- Reads an addition from the words of a command. -/
def ofArgs? : List String → Option Addition
  | ["addr", "add", a, "dev", link] => do return address link (← Cidr.ofText? a)
  | "route" :: "add" :: destination :: "via" :: gateway :: "dev" :: device :: options => do
    let (metric, table) ← routeOptions? options
    return route (← Cidr.ofText? destination) (← Address.ofText? gateway) device metric table
  | ["rule", "add", "from", source, "table", table, "priority", priority] => do
    return rule (← Cidr.ofText? source) (← number? table) (← number? priority)
  | _ => none

/-- Reads an addition from the command that makes it. -/
def ofCommand? (c : Command) : Option Addition :=
  (if c.program = "ip" then ofArgs? c.args else none).filter fun A ↦ A.command = c

/-- Metric and table are read back, whichever of them are written. -/
theorem routeOptions?_args (metric table : Option Nat) :
    routeOptions? (Network.metricArgs metric ++ Network.tableArgs table) =
      some (metric, table) := by
  cases metric <;> cases table <;>
    simp [Network.metricArgs, Network.tableArgs, routeOptions?]

/-- What is stored is stored as it is. -/
theorem stored_stored (A : Addition) : A.stored.stored = A.stored := by
  cases A <;> simp [stored]

/-- Host bits are cleared in what is stored, and the listing is asked without them anyway. -/
theorem listing_stored (A : Addition) : A.stored.listing = A.listing := by
  cases A <;> simp [stored, listing, Network.showRoutes]

/-- So it is with the command. -/
theorem command_stored (A : Addition) : A.stored.command = A.command := by
  cases A <;> simp [stored, command, Network.addRoute, Network.addRule]

/-- **An addition is read back from its command**, as it is stored. -/
theorem ofCommand?_command (A : Addition) : ofCommand? A.command = some A.stored := by
  have hread : (if A.command.program = "ip" then ofArgs? A.command.args else none) =
      some A.stored := by
    cases A with
    | address link a => simp [command, Network.addAddress, Network.ip, ofArgs?, stored]
    | route destination gateway device metric table =>
      simp [command, Network.addRoute, Network.ip, ofArgs?, stored, routeOptions?_args]
    | rule source table priority =>
      simp [command, Network.addRule, Network.ip, ofArgs?, stored]
  rw [ofCommand?, hread, Option.filter_some, if_pos (by simp [command_stored])]

/-- A command is read as an addition only if it is the command of that addition, word for word. -/
theorem command_of_ofCommand? {c : Command} {A : Addition} (h : ofCommand? c = some A) :
    A.command = c := by
  rw [ofCommand?, Option.filter_eq_some_iff] at h
  exact of_decide_eq_true h.2

/-! ### Entries -/

/-- The entry by which an addition is listed. -/
def entry : Addition → Json
  | address _ a => .record [("family", Json.ofText "inet"), ("local", Json.ofText a.address.text),
      ("prefixlen", Json.int a.prefixLength)]
  | route destination gateway device _ _ => .record [("dst", Json.ofText destination.text),
      ("gateway", Json.ofText gateway.text), ("dev", Json.ofText device)]
  | rule source table priority => .record ([("priority", Json.int priority),
      ("src", Json.ofText source.networkAddress.text)] ++
      (if source.prefixLength = 32 then [] else [("srclen", Json.int source.prefixLength)]) ++
      [("table", Json.ofText (toString table))])

/-- The entry of an addition is printed with names and texts that are read back as they are. -/
theorem isPlain_entry (A : Addition) : A.entry.IsPlain := by
  cases A with
  | address link a => exact .record (by simp)
  | route destination gateway device metric table => exact .record (by simp)
  | rule source table priority =>
    refine .record ?_
    split <;> simp

/-- The entry of an addition lists it. -/
theorem shownBy_entry (A : Addition) : A.ShownBy A.entry := by
  cases A with
  | address link a => rfl
  | route destination gateway device metric table => rfl
  | rule source table priority =>
    rw [ShownBy, entry]
    split <;> rfl

/-- An entry shows an addition with or without its host bits. -/
theorem shownBy_stored {A : Addition} {j : Json} : A.stored.ShownBy j ↔ A.ShownBy j := by
  cases A with
  | address link a => rfl
  | route destination gateway device metric table => rfl
  | rule source table priority =>
    have hnetwork : source.network.networkAddress = source.networkAddress :=
      Cidr.clearLow_clearLow _ _
    rw [stored, ShownBy, ShownBy, hnetwork, Cidr.prefixLength_network]

/-- Routes are listed together exactly when they lead to the same network in the same table. -/
theorem showRoutes_inj {c d : Cidr} {t u : Option Nat} :
    Network.showRoutes c t = Network.showRoutes d u ↔ c.network = d.network ∧ t = u := by
  cases t <;> cases u <;>
    simp [Network.showRoutes, Network.ip, Network.tableArgs, Cidr.text_inj, and_comm]

/-- What looks the same is listed together. -/
theorem listing_eq_of_object_eq {A B : Addition} (h : B.object = A.object) :
    B.listing = A.listing := by
  have hlisting (C : Addition) : C.object.listing = C.listing := by
    cases C <;> simp [object, listing, Network.showRoutes]
  rw [← hlisting A, ← hlisting B, h]

/-- **The entry of an addition shows it and nothing else** of what is listed with it. -/
theorem see?_entry {plan : Plan} {A B : Addition} (hB : plan.MayAdd B)
    (hlisting : B.listing = A.listing) : A.see? B.entry = some (decide (B.object = A.object)) := by
  have hshown := B.shownBy_entry
  have hkind := kind_eq_of_listing_eq hlisting
  -- What is listed with an addition is of its kind; the entry is read and compared field by field.
  cases A with
  | address link a =>
    cases B with
    | address link' b =>
      obtain rfl : link' = link := by
        simpa [listing, Network.showAddresses, Network.ip] using hlisting
      simp [see?, inetAddress?_of_shownBy hshown, object, eq_comm]
    | _ => simp [kind] at hkind
  | route destination gateway device metric table =>
    cases B with
    | route destination' gateway' device' metric' table' =>
      obtain ⟨hnetwork, rfl⟩ := showRoutes_inj.mp hlisting
      rw [see?, route?_of_shownBy hshown, Option.map_some, Option.some_inj, Bool.eq_iff_iff]
      simp [object, Listing.routeMatches, Address.text_inj, hnetwork]
    | _ => simp [kind] at hkind
  | rule source table priority =>
    cases B with
    | rule source' table' priority' =>
      have hpriority : priority' ≤ 4294967295 := by
        rcases hB.2 with rfl | rfl <;> decide
      have hnetwork : source.network.networkAddress = source.networkAddress :=
        Cidr.clearLow_clearLow _ _
      rw [see?, rule?_of_shownBy hpriority hshown, Option.map_some, Option.some_inj,
        Bool.eq_iff_iff]
      simp only [Listing.ruleMatches, getD_sourceLength, hnetwork, Cidr.prefixLength_network]
      simp only [object, Cidr.network, Bool.and_eq_true, beq_iff_eq, decide_eq_true_eq,
        Option.some_inj, Address.text_inj, rule.injEq, Cidr.mk.injEq, Nat.toString_eq_repr,
        repr_inj]
      constructor
      · rintro ⟨⟨⟨hp, ht⟩, ha⟩, hl⟩
        exact ⟨⟨ha, hl⟩, ht, hp⟩
      · rintro ⟨⟨ha, hl⟩, ht, hp⟩
        exact ⟨⟨⟨hp, ht⟩, ha⟩, hl⟩
    | _ => simp [kind] at hkind

end Addition

end DpuNetwork
