import DpuNetwork.Proofs.Agreement
import DpuNetwork.Proofs.Course.Follows
import DpuNetwork.Proofs.Kernel.Reading

/-!
# Addresses in a listing

The addresses of an interface are those of all IPv4 entries of its listing, one for each entry, in
order and with their host bits (`AddressEntry.Gives`). An entry of another family is not looked at.
An IPv4 entry that cannot be read refuses them all, and of several such entries the first one tells
why (`AddressEntry.IsRefusedFor`).

Whether the interface has an address is asked of all of them, so it is not known either where one
entry cannot be read, even if the address stands before that entry.

## Main statements

* `Listing.tells_addresses`: what a listing tells, for every list of interfaces;
* `Listing.links_print`: every list of interfaces has a listing;
* `Pass.readsAddresses`: what a pass is told.
-/

namespace DpuNetwork

open Ipv4

/-! ### Entries -/

namespace AddressEntry

variable {e : AddressEntry} {c : Cidr} {f : Failure}

/-- An entry gives an address with its prefix length. -/
def Gives (e : AddressEntry) (c : Cidr) : Prop :=
  e.address = c.address.text ∧ e.prefixLength = c.prefixLength

/-- An entry has the form of an address with its prefix length. -/
def IsReadable (e : AddressEntry) : Prop := IsDottedQuad e.address ∧ e.prefixLength ≤ 32

instance : DecidableRel Gives := fun _ _ ↦ inferInstanceAs (Decidable (_ ∧ _))

instance : DecidablePred IsReadable := fun _ ↦ inferInstanceAs (Decidable (_ ∧ _))

/-- What an entry is refused for: its address, or else its prefix length. -/
def IsRefusedFor (e : AddressEntry) (what : Unreadable) : Prop :=
  (¬ IsDottedQuad e.address ∧ what = .interfaceAddress e.address) ∨
    (IsDottedQuad e.address ∧ 32 < e.prefixLength ∧ what = .interfacePrefixLength)

/-- An entry is read as an address exactly when it gives that address. -/
theorem cidr_eq_ok_iff : Listing.cidr e = .ok c ↔ e.Gives c := by
  rw [Gives, ← Address.ofText?_eq_some_iff, Listing.cidr]
  cases Address.ofText? e.address with
  | none => simp
  | some a =>
    by_cases hle : e.prefixLength ≤ 32
    · simp [Cidr.ofParts?, hle, Cidr.ext_iff]
    · have hne : e.prefixLength ≠ c.prefixLength := fun h ↦ hle (h ▸ c.prefixLength_le)
      simp [Cidr.ofParts?, hle, hne]

/-- The address is looked at before the prefix length, so an entry that has neither form is refused
for its address. -/
theorem cidr_eq_error_iff : Listing.cidr e = .error f ↔
    ∃ what, e.IsRefusedFor what ∧ f = .unreadable what := by
  have hquad := Address.isDottedQuad_iff (s := e.address)
  simp only [IsRefusedFor, or_and_right, exists_or, Listing.cidr]
  cases ha : Address.ofText? e.address with
  | none =>
    have hnot : ¬ IsDottedQuad e.address := by simp [hquad, ha]
    simp [hnot, eq_comm]
  | some a =>
    have his : IsDottedQuad e.address := hquad.mpr ⟨a, ha⟩
    by_cases hle : e.prefixLength ≤ 32
    · simp [his, Cidr.ofParts?, hle, Nat.not_lt.mpr hle]
    · simp [his, Cidr.ofParts?, hle, Nat.lt_of_not_le hle, eq_comm]

/-- The form of an entry says whether it gives an address at all. -/
theorem isReadable_iff : e.IsReadable ↔ ∃ c, e.Gives c := by
  constructor
  · rintro ⟨hquad, hle⟩
    obtain ⟨a, ha⟩ := Address.isDottedQuad_iff.mp hquad
    exact ⟨⟨a, e.prefixLength, hle⟩, Address.ofText?_eq_some_iff.mp ha, rfl⟩
  · rintro ⟨c, haddress, hlength⟩
    exact ⟨Address.isDottedQuad_iff.mpr ⟨c.address, Address.ofText?_eq_some_iff.mpr haddress⟩,
      hlength ▸ c.prefixLength_le⟩

/-- An entry without that form is refused for something. -/
theorem not_isReadable_iff : ¬ e.IsReadable ↔ ∃ what, e.IsRefusedFor what := by
  simp only [IsReadable, IsRefusedFor, exists_or, exists_and_left, exists_eq, and_true]
  by_cases h : IsDottedQuad e.address <;> simp [h]

end AddressEntry

/-- The IPv4 entries of an interface. -/
def LinkEntry.inet (l : LinkEntry) : List AddressEntry := l.addresses.filter (·.family == "inet")

namespace Listing

variable {ls : List LinkEntry} {r : Except Failure (List Cidr)} {as : List Cidr} {f : Failure}

/-- The entries of several interfaces are taken together before any of them is read. -/
theorem inetEntries_eq (ls : List LinkEntry) : inetEntries ls = ls.flatMap LinkEntry.inet :=
  List.filter_flatMap

/-! ### What a listing tells -/

/-- All entries are read, each as one address. -/
theorem addresses_eq_ok_iff : addresses ls = .ok as ↔
    List.Forall₂ AddressEntry.Gives (ls.flatMap LinkEntry.inet) as := by
  rw [addresses, Addition.except_mapM_eq_ok_iff, inetEntries_eq]
  simp only [AddressEntry.cidr_eq_ok_iff]

/-- The first entry that cannot be read gives the error, and everything before it was read. -/
theorem addresses_eq_error_iff : addresses ls = .error f ↔ ∃ (before : List AddressEntry)
    (e : AddressEntry) (after : List AddressEntry) (what : Unreadable),
    ls.flatMap LinkEntry.inet = before ++ e :: after ∧ (∀ d ∈ before, d.IsReadable) ∧
      e.IsRefusedFor what ∧ f = .unreadable what := by
  rw [addresses, Addition.except_mapM_eq_error_iff, inetEntries_eq]
  simp only [AddressEntry.cidr_eq_ok_iff, ← AddressEntry.isReadable_iff,
    AddressEntry.cidr_eq_error_iff, exists_and_left]

/-- One entry that cannot be read is enough to refuse them all, wherever it stands. -/
theorem exists_addresses_eq_error_iff :
    (∃ f, addresses ls = .error f) ↔ ∃ e ∈ ls.flatMap LinkEntry.inet, ¬ e.IsReadable := by
  cases haddresses : addresses ls with
  | ok as =>
    have hread : List.Forall₂ (fun e c ↦ e.IsReadable ∧ e.Gives c) (ls.flatMap LinkEntry.inet) as :=
      (addresses_eq_ok_iff.mp haddresses).imp fun e c h ↦
        ⟨AddressEntry.isReadable_iff.mpr ⟨c, h⟩, h⟩
    simpa using ((List.forall₂_and_left ..).mp hread).1
  | error f =>
    obtain ⟨before, e, after, what, heq, -, hrefused, -⟩ := addresses_eq_error_iff.mp haddresses
    refine iff_of_true ⟨f, rfl⟩ ⟨e, ?_, AddressEntry.not_isReadable_iff.mpr ⟨what, hrefused⟩⟩
    exact heq ▸ List.mem_append_right before List.mem_cons_self

/-- What a list of interfaces tells about addresses. -/
structure Tells (ls : List LinkEntry) (r : Except Failure (List Cidr)) : Prop where
  /-- The addresses are those of the IPv4 entries, one for each. -/
  ok_iff : ∀ as, r = .ok as ↔ List.Forall₂ AddressEntry.Gives (ls.flatMap LinkEntry.inet) as
  /-- Nothing but an IPv4 entry that cannot be read keeps them from being told. -/
  fails_iff : (∃ f, r = .error f) ↔ ∃ e ∈ ls.flatMap LinkEntry.inet, ¬ e.IsReadable
  /-- The first such entry tells why. -/
  error_iff : ∀ f, r = .error f ↔ ∃ (before : List AddressEntry) (e : AddressEntry)
      (after : List AddressEntry) (what : Unreadable),
    ls.flatMap LinkEntry.inet = before ++ e :: after ∧ (∀ d ∈ before, d.IsReadable) ∧
      e.IsRefusedFor what ∧ f = .unreadable what
  /-- Any list with the same IPv4 entries tells the same, whatever its other entries are. -/
  others : ∀ ls', ls'.flatMap LinkEntry.inet = ls.flatMap LinkEntry.inet → addresses ls' = r

/-- **What a listing tells about addresses.** -/
theorem tells_addresses (ls : List LinkEntry) : Tells ls (addresses ls) where
  ok_iff _ := addresses_eq_ok_iff
  fails_iff := exists_addresses_eq_error_iff
  error_iff _ := addresses_eq_error_iff
  others ls' h := by rw [addresses, addresses, inetEntries_eq, inetEntries_eq, h]

end Listing

/-! ### Writing a listing -/

/-- An entry of a listing. -/
def AddressEntry.json (e : AddressEntry) : Json :=
  .record [("family", .ofText e.family), ("local", .ofText e.address),
    ("prefixlen", .int e.prefixLength)]

/-- An interface in a listing. -/
def LinkEntry.json (l : LinkEntry) : Json :=
  .record [("addr_info", .arr (l.addresses.map AddressEntry.json))]

/-- The prefix lengths of an interface are bytes. -/
def LinkEntry.HasBytes (l : LinkEntry) : Prop := ∀ e ∈ l.addresses, e.prefixLength ≤ 255

instance : DecidablePred LinkEntry.HasBytes := fun l ↦
  inferInstanceAs (Decidable (∀ e ∈ l.addresses, e.prefixLength ≤ 255))

/-- An entry is printed with the names and texts that a listing may have, so it is read back as it
is. -/
theorem AddressEntry.isPlain_json (e : AddressEntry) : e.json.IsPlain :=
  .record (by simp)

/-- The same of an interface. -/
theorem LinkEntry.isPlain_json (l : LinkEntry) : l.json.IsPlain := by
  refine .record (List.forall_mem_singleton.mpr (.arr fun j hj ↦ ?_))
  obtain ⟨e, -, rfl⟩ := List.mem_map.mp hj
  exact e.isPlain_json

/-- A printed entry is read back, if its prefix length is a byte. -/
theorem AddressEntry.address?_json {e : AddressEntry} (h : e.prefixLength ≤ 255) :
    Listing.address? e.json = some e := by
  have hlength := Addition.natural?_int h
  simp [Listing.address?, json, Json.record, Json.fields?, Json.members?, List.lookup_cons,
    Json.Field.required?, Json.text?, Json.ofText, hlength]

/-- A printed interface is read back, if the prefix lengths of its entries are bytes. -/
theorem LinkEntry.link?_json {l : LinkEntry} (h : l.HasBytes) : Listing.link? l.json = some l := by
  have hread : (l.addresses.map AddressEntry.json).mapM Listing.address? = some l.addresses := by
    rw [mapM_eq_some_iff, List.forall₂_map_left_iff]
    exact List.forall₂_same.mpr fun e he ↦ AddressEntry.address?_json (h e he)
  have hitems : addressItems? l.json = some (l.addresses.map AddressEntry.json) := rfl
  rw [link?_eq, hitems, Option.bind_some, hread, Option.map_some]

namespace Listing

/-- The listing of some interfaces. -/
def print (ls : List LinkEntry) : String := (Json.arr (ls.map LinkEntry.json)).toText

/-- **Every list of interfaces has a listing.** -/
theorem links_print {ls : List LinkEntry} (h : ∀ l ∈ ls, l.HasBytes) :
    links (print ls) = .ok ls := by
  have hplain : ∀ j ∈ ls.map LinkEntry.json, j.IsPlain := by
    intro j hj
    obtain ⟨l, -, rfl⟩ := List.mem_map.mp hj
    exact l.isPlain_json
  rw [links, entries_eq_ok_iff, print, arrayItems?_toText hplain, Option.bind_some,
    mapM_eq_some_iff, List.forall₂_map_left_iff]
  exact List.forall₂_same.mpr fun l hl ↦ LinkEntry.link?_json (h l hl)

end Listing

/-! ### Asking for addresses -/

namespace Pass

variable {σ : Type} (H : Host σ) (s : Session σ) (link : String)

/-- One listing is asked for and its answer is read; what is known about listings carries over to
passes. -/
theorem exec_addressesOf : (addressesOf H link).exec s =
    (readAnswer (Network.showAddresses link) addressesIn
        (H.run (Network.showAddresses link) s.host).1,
      s.told (H.run (Network.showAddresses link) s.host).2
        (.run (Network.showAddresses link) (H.run (Network.showAddresses link) s.host).1)) := by
  rw [addressesOf_eq, exec_run_bind_lift]

/-- Whether an address is there is asked of all addresses that were read, so what refuses them
refuses the question. -/
theorem exec_hasAddress (a : Cidr) : (hasAddress H link a).exec s =
    (((addressesOf H link).exec s).1.map fun as ↦ as.contains a,
      ((addressesOf H link).exec s).2) := by
  rw [hasAddress, exec_bind]
  rcases (addressesOf H link).exec s with ⟨f | as, s'⟩ <;> rfl

/-- What a pass is told that asks for the addresses of an interface. -/
structure ReadsAddresses : Prop where
  /-- It is told what the listing tells. -/
  tells : ∀ text ls, (H.run (Network.showAddresses link) s.host).1 = .ok text →
    Listing.links text = .ok ls → Listing.Tells ls ((addressesOf H link).exec s).1
  /-- An address is there if it is among them, with the same prefix length. -/
  found_iff : ∀ a, ((hasAddress H link a).exec s).1 = .ok true ↔
    ∃ as, ((addressesOf H link).exec s).1 = .ok as ∧ a ∈ as
  /-- Otherwise it is missing. -/
  missing_iff : ∀ a, ((hasAddress H link a).exec s).1 = .ok false ↔
    ∃ as, ((addressesOf H link).exec s).1 = .ok as ∧ a ∉ as
  /-- Where they are not told, no address can be looked for among them, and for the same reason. -/
  error_iff : ∀ a f, ((hasAddress H link a).exec s).1 = .error f ↔
    ((addressesOf H link).exec s).1 = .error f

/-- **Addresses are told as they are listed**, and looked for among those that are told. -/
theorem readsAddresses : ReadsAddresses H s link := by
  have hlooks (a : Cidr) (b : Bool) : ((hasAddress H link a).exec s).1 = .ok b ↔
      ∃ as, ((addressesOf H link).exec s).1 = .ok as ∧ as.contains a = b := by
    rw [exec_hasAddress]
    cases ((addressesOf H link).exec s).1 <;> simp [Except.map]
  refine ⟨fun text ls hanswer hls ↦ ?_, fun a ↦ ?_, fun a ↦ ?_, fun a f ↦ ?_⟩
  · rw [exec_addressesOf, hanswer, readAnswer_ok, addressesIn, hls]
    exact Listing.tells_addresses ls
  · simp only [hlooks, List.contains_iff_mem]
  · simp only [hlooks, ← Bool.not_eq_true, List.contains_iff_mem]
  · rw [exec_hasAddress]
    cases ((addressesOf H link).exec s).1 <;> simp [Except.map]

/-- Two interfaces with addresses of several families, one of the addresses twice. -/
def mixedLinks : List LinkEntry :=
  [⟨[⟨"inet6", "fe80::1", 64⟩, ⟨"inet", "10.0.0.5", 24⟩]⟩, ⟨[]⟩,
    ⟨[⟨"inet", "10.0.0.5", 24⟩, ⟨"mctp", "10.0.0", 200⟩, ⟨"inet", "10.0.0.6", 32⟩]⟩]

/-- An interface with an address in front of two entries that cannot be read. -/
def illegibleLinks : List LinkEntry :=
  [⟨[⟨"inet", "10.0.0.5", 24⟩, ⟨"inet", "10.0.0.01", 24⟩, ⟨"inet", "10.0.0.6", 33⟩]⟩]

/-- A session with a host that lists some interfaces for the overlay bridge. -/
def linksSession (ls : List LinkEntry) : Session Script where
  host := .answering (Network.showAddresses overlayBridge) (Listing.print ls)
  memory := ⟨⟨0, none⟩, false⟩

/-- Of the first listing the three IPv4 addresses are told, and one of them is not found with
another prefix length. Of the second one nothing is told for a leading zero, not even whether the
address in front is there. -/
theorem readsAddresses_mixedLinks :
    ((addressesOf scriptedHost overlayBridge).exec (linksSession mixedLinks)).1 =
        .ok [Cidr.ofBits 0x0a000005 24, Cidr.ofBits 0x0a000005 24, Cidr.ofBits 0x0a000006 32] ∧
      ((hasAddress scriptedHost overlayBridge (Cidr.ofBits 0x0a000005 24)).exec
        (linksSession mixedLinks)).1 = .ok true ∧
      ((hasAddress scriptedHost overlayBridge (Cidr.ofBits 0x0a000005 16)).exec
        (linksSession mixedLinks)).1 = .ok false ∧
      ((hasAddress scriptedHost overlayBridge (Cidr.ofBits 0x0a000005 24)).exec
        (linksSession illegibleLinks)).1 =
          .error (.unreadable (.interfaceAddress "10.0.0.01")) := by
  have hmixed := readsAddresses scriptedHost (linksSession mixedLinks) overlayBridge
  have hillegible := readsAddresses scriptedHost (linksSession illegibleLinks) overlayBridge
  have htells := hmixed.tells _ mixedLinks (Script.run_answering _ _)
    (Listing.links_print (by decide))
  have hrefused := hillegible.tells _ illegibleLinks (Script.run_answering _ _)
    (Listing.links_print (by decide))
  have hgives : List.Forall₂ AddressEntry.Gives (mixedLinks.flatMap LinkEntry.inet)
      [Cidr.ofBits 0x0a000005 24, Cidr.ofBits 0x0a000005 24, Cidr.ofBits 0x0a000006 32] := by
    decide
  have hok := (htells.ok_iff _).mpr hgives
  refine ⟨hok, (hmixed.found_iff _).mpr ⟨_, hok, by decide⟩,
    (hmixed.missing_iff _).mpr ⟨_, hok, by decide⟩, (hillegible.error_iff _ _).mpr ?_⟩
  exact (hrefused.error_iff _).mpr ⟨[_], _, _, _, rfl, by decide, .inl ⟨by decide, rfl⟩, rfl⟩

end Pass

end DpuNetwork
