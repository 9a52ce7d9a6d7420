import DpuNetwork.Proofs.Agreement
import DpuNetwork.Proofs.Json.Members
import DpuNetwork.Proofs.Kernel.Reading
import Mathlib.Tactic.Tauto

/-!
# Policy rules in a listing

The policy rules of a kernel (`KernelRule`) and how a listing shows them (`TableNames.Lists`): a
rule for a single address without a prefix length, one for all traffic as a rule from `all`, any
other with its network and its length, and a table by its name or else by its number. The members of
an entry stand in any order and among others.

A pass finds a rule in such a listing exactly when the rule is one of those that are listed and is
not one for all traffic (`hasRule_of_lists`): the word `all` is taken for no network. So of the
rules that a pass can ask for, exactly those for all traffic are missing in its eyes for good.

## Main statements

* `hasRule_of_lists`: which rules of a listing are found.
-/

namespace DpuNetwork

open Ipv4

/-! ### Policy rules -/

/-- A policy rule of a kernel: traffic from a network goes by a table. -/
structure KernelRule where
  /-- The network. -/
  source : Cidr
  /-- The number of the table. -/
  table : Nat
  /-- The priority. -/
  priority : Nat
  /-- The network has no host bits. -/
  network_source : source.network = source
  /-- A priority has 32 bits. -/
  priority_le : priority ≤ 4294967295
  deriving DecidableEq

/-- The rule that a command asks for. -/
def KernelRule.ofCommand? (c : Command) : Option KernelRule :=
  match Addition.ofCommand? c with
  | some (.rule source table priority) =>
    if h : source.network = source ∧ priority ≤ 4294967295 then
      some ⟨source, table, priority, h.1, h.2⟩
    else none
  | _ => none

/-- What is asked for is the rule for the network of the source. -/
theorem KernelRule.ofCommand?_addRule (source : Cidr) (table : Nat) {priority : Nat}
    (h : priority ≤ 4294967295) :
    ofCommand? (Network.addRule source table priority) =
      some ⟨source.network, table, priority, source.network_network, h⟩ := by
  have hread := Addition.ofCommand?_command (.rule source table priority)
  rw [Addition.command, Addition.stored] at hread
  simp only [ofCommand?, hread]
  rw [dif_pos ⟨source.network_network, h⟩]

/-- The names of some tables; none of them is a number. -/
structure TableNames where
  /-- The name of a table. -/
  name? : Nat → Option String
  /-- A name is not a number. -/
  ne_number : ∀ table name, name? table = some name → ∀ n : Nat, name ≠ toString n

namespace TableNames

variable (N : TableNames) {r : KernelRule} {rs : List KernelRule}

/-- The text by which a table is listed. -/
def text (table : Nat) : String := (N.name? table).getD (toString table)

/-- The members by which a rule is listed. All traffic has a word of its own, and for it and for a
single address the prefix length is left out. -/
def members (r : KernelRule) : List (String × Json) :=
  [("priority", Json.int r.priority),
    ("src", Json.ofText (if r.source.prefixLength = 0 then "all" else r.source.address.text))] ++
  (if r.source.prefixLength = 0 ∨ r.source.prefixLength = 32 then []
    else [("srclen", Json.int r.source.prefixLength)]) ++
  [("table", Json.ofText (N.text r.table))]

/-- The names of the members that are read of a rule. -/
def fieldNames : List String := ["priority", "src", "srclen", "table"]

/-- An object lists a rule: it has the members of the rule, in any order and among others. -/
def ListsRule (r : KernelRule) (j : Json) : Prop :=
  ∃ ms others, j = .record ms ∧ ms.Perm (N.members r ++ others) ∧
    ∀ m ∈ others, m.1 ∉ fieldNames

/-- A text lists some rules. -/
def Lists (rs : List KernelRule) (text : String) : Prop :=
  ∃ js, Json.ofString? text = some (.arr js) ∧ List.Forall₂ N.ListsRule rs js

/-- The listing that shows nothing else. -/
def listing (rs : List KernelRule) : String :=
  (Json.arr (rs.map fun r ↦ .record (N.members r))).toText

variable {N}

/-- The entry that is read where a rule is listed. -/
def entry (N : TableNames) (r : KernelRule) : RuleEntry where
  priority := r.priority
  source := some (if r.source.prefixLength = 0 then "all" else r.source.address.text)
  sourceLength := if r.source.prefixLength = 0 ∨ r.source.prefixLength = 32 then none
    else some r.source.prefixLength
  table := some (N.text r.table)

theorem nodup_members (r : KernelRule) : ((N.members r).map Prod.fst).Nodup := by
  rw [members]
  by_cases h : r.source.prefixLength = 0 ∨ r.source.prefixLength = 32 <;> simp [h]

theorem rule?_of_listsRule {j : Json} (h : N.ListsRule r j) :
    Listing.rule? j = some (N.entry r) := by
  obtain ⟨ms, others, rfl, hperm, hothers⟩ := h
  have hlength : r.source.prefixLength ≤ 255 := Nat.le_trans r.source.prefixLength_le (by decide)
  have hfields := Json.fields?_of_perm hperm (nodup_members r) hothers
  rw [fieldNames] at hfields
  rw [Listing.rule?, hfields, members, entry]
  by_cases hzero : r.source.prefixLength = 0 ∨ r.source.prefixLength = 32 <;>
    simp [hzero, Json.field, List.lookup_cons, Json.Field.required?, Json.Field.optional?,
      Json.orNull?, Json.text?, Json.ofText, Addition.natural?_int hlength,
      Addition.natural?_int r.priority_le]

/-- A listing of rules is read entry by entry. -/
theorem rules_of_lists {text : String} (h : N.Lists rs text) :
    Listing.rules text = .ok (rs.map N.entry) := by
  obtain ⟨js, htext, hjs⟩ := h
  rw [Listing.rules, entries_eq_ok_iff, arrayItems?, htext]
  refine mapM_eq_some_iff.mpr ((List.forall₂_map_right_iff ..).mpr ?_)
  exact hjs.flip.imp fun _ _ ↦ rule?_of_listsRule

/-- Every list of rules has a listing. -/
theorem lists_listing (N : TableNames) (rs : List KernelRule) : N.Lists rs (N.listing rs) := by
  refine ⟨rs.map fun r ↦ .record (N.members r), Json.ofString?_toText (.arr fun j hj ↦ ?_), ?_⟩
  · obtain ⟨r, -, rfl⟩ := List.mem_map.mp hj
    refine .record ?_
    rw [members]
    by_cases h : r.source.prefixLength = 0 ∨ r.source.prefixLength = 32 <;> simp [h]
  · rw [List.forall₂_map_right_iff]
    exact List.forall₂_same.mpr fun r _ ↦ ⟨N.members r, [], rfl, by simp, by simp⟩

/-! ### What is found -/

theorem text_eq_number_iff {t t' : Nat} (ht : N.name? t = none) :
    N.text t' = toString t ↔ t' = t := by
  rw [text]
  cases hname : N.name? t' with
  | none => simp
  | some name =>
    refine iff_of_false (N.ne_number t' name hname t) ?_
    rintro rfl
    rw [ht] at hname
    cases hname

/-- The source of an entry is compared as a text and a length. It is the right one exactly when the
network is, unless the entry is for all traffic. -/
theorem source_entry_iff {c : Cidr} (hc : c.network = c) :
    ((N.entry r).source == some c.networkAddress.text) = true ∧
        ((N.entry r).sourceLength.getD 32 == c.prefixLength) = true ↔
      c.prefixLength ≠ 0 ∧ r.source = c := by
  have haddress : c.networkAddress = c.address := congrArg Cidr.address hc
  rw [entry, haddress, beq_iff_eq, beq_iff_eq, Option.some_inj]
  by_cases hzero : r.source.prefixLength = 0
  · -- The word for all traffic is no address.
    have hall : "all" ≠ c.address.text := (Address.text_ne (by decide) _).symm
    simp only [hzero, if_true, hall, false_and, false_iff, not_and]
    rintro hne rfl
    exact hne hzero
  · have hlength : (if r.source.prefixLength = 0 ∨ r.source.prefixLength = 32 then none
        else some r.source.prefixLength).getD 32 = r.source.prefixLength := by
      split
      · next h => exact (h.resolve_left hzero).symm
      · rfl
    rw [if_neg hzero, hlength, Address.text_inj]
    constructor
    · rintro ⟨ha, hl⟩
      exact ⟨hl ▸ hzero, Cidr.ext ha hl⟩
    · rintro ⟨-, rfl⟩
      exact ⟨rfl, rfl⟩

/-- **An entry is recognised** as the rule that is asked for exactly when it lists that rule, and
not one for all traffic. -/
theorem ruleMatches_entry_iff {source : Cidr} {table priority : Nat}
    (hname : N.name? table = none) :
    Listing.ruleMatches source.network table priority (N.entry r) = true ↔
      source.prefixLength ≠ 0 ∧ r.source = source.network ∧ r.table = table ∧
        r.priority = priority := by
  have htable : ((N.entry r).table == some (toString table)) = true ↔ r.table = table := by
    rw [entry, beq_iff_eq, Option.some_inj, text_eq_number_iff hname]
  have hpriority : ((N.entry r).priority == priority) = true ↔ r.priority = priority := by
    rw [entry, beq_iff_eq]
  rw [Listing.ruleMatches, Bool.and_eq_true, Bool.and_eq_true, Bool.and_eq_true, and_assoc,
    source_entry_iff source.network_network, hpriority, htable, Cidr.prefixLength_network]
  tauto

/-- **A rule is recognised in a listing** exactly when it is listed there and is not one for all
traffic. -/
theorem recognise_of_lists {text : String} (h : N.Lists rs text) (source : Cidr) {table : Nat}
    (hname : N.name? table = none) (priority : Nat) :
    (Addition.rule source table priority).recognise text =
      .ok (decide (source.prefixLength ≠ 0 ∧ ∃ r ∈ rs,
        r.source = source.network ∧ r.table = table ∧ r.priority = priority)) := by
  have hrule : Listing.hasRule source table priority (rs.map N.entry) =
      decide (source.prefixLength ≠ 0 ∧ ∃ r ∈ rs,
        r.source = source.network ∧ r.table = table ∧ r.priority = priority) := by
    rw [Bool.eq_iff_iff, Listing.hasRule, List.any_map, List.any_eq_true, decide_eq_true_iff]
    simp only [Function.comp_apply, ruleMatches_entry_iff hname]
    constructor
    · rintro ⟨r, hr, hne, hsame⟩
      exact ⟨hne, r, hr, hsame⟩
    · rintro ⟨hne, r, hr, hsame⟩
      exact ⟨r, hr, hne, hsame⟩
  rw [Addition.recognise, rules_of_lists h, ← hrule]
  rfl

end TableNames

/-! ### Asking for a rule -/

/-- **Which rules are found.** Where a listing of some rules is given, exactly those of them are
found that are not for all traffic, whatever the order of the members of an entry and whatever else
it holds; so the rule that is asked for by a command is found afterwards unless it is for all
traffic. -/
theorem hasRule_of_lists {σ : Type} (H : Host σ) (s : Session σ) {N : TableNames}
    {rs : List KernelRule} {text : String} (hanswer : (H.run Network.showRules s.host).1 = .ok text)
    (hlists : N.Lists rs text) (source : Cidr) {table : Nat} (hname : N.name? table = none)
    (priority : Nat) :
    ((Pass.hasRule H source table priority).exec s).1 =
        .ok (decide (source.prefixLength ≠ 0 ∧ ∃ r ∈ rs,
          r.source = source.network ∧ r.table = table ∧ r.priority = priority)) ∧
      (priority ≤ 4294967295 → ∃ r,
        KernelRule.ofCommand? (Network.addRule source table priority) = some r ∧
          (r ∈ rs → ((Pass.hasRule H source table priority).exec s).1 =
            .ok (decide (source.prefixLength ≠ 0)))) := by
  have hfound : ((Pass.hasRule H source table priority).exec s).1 =
      .ok (decide (source.prefixLength ≠ 0 ∧ ∃ r ∈ rs,
        r.source = source.network ∧ r.table = table ∧ r.priority = priority)) := by
    rw [Pass.hasRule_eq, Pass.exec_isThere, Addition.listing, hanswer]
    exact TableNames.recognise_of_lists hlists source hname priority
  refine ⟨hfound, fun hpriority ↦ ⟨_, KernelRule.ofCommand?_addRule source table hpriority,
    fun hmem ↦ ?_⟩⟩
  have hthere : ∃ r ∈ rs, r.source = source.network ∧ r.table = table ∧ r.priority = priority :=
    ⟨_, hmem, rfl, rfl, rfl⟩
  simp only [hfound, hthere, and_true]

/-- The tables that have names on every host. -/
def usualNames : TableNames where
  name? table :=
    if table = 255 then some "local" else if table = 254 then some "main"
    else if table = 253 then some "default" else none
  ne_number table name h n := by
    have hread : number? name = none := by
      split at h
      · exact Option.some.inj h ▸ by decide
      · split at h
        · exact Option.some.inj h ▸ by decide
        · split at h
          · exact Option.some.inj h ▸ by decide
          · cases h
    rintro rfl
    rw [Nat.toString_eq_repr, number?_repr] at hread
    cases hread

/-- The rule for the network of an address. -/
def KernelRule.of (c : Cidr) (table priority : Nat) (h : priority ≤ 4294967295) : KernelRule :=
  ⟨c.network, table, priority, c.network_network, h⟩

/-- The rules of a host after a pass: those that every host has, and those for the pod network and
for the out-of-band address. -/
def usualRules : List KernelRule :=
  [.of Cidr.defaultRoute 255 0 (by decide), .of (Cidr.ofBits 0x0af40601 24) 60 31000 (by decide),
    .of (Cidr.ofBits 0x0a006464 32) 60 32000 (by decide),
    .of Cidr.defaultRoute 254 32766 (by decide), .of Cidr.defaultRoute 253 32767 (by decide)]

/-- A session with a host that lists some rules. -/
def rulesSession (text : String) : Session Script where
  host := { commands := ⟨[("ip -4 -j rule show", [.output text])]⟩ }
  memory := leasePlan.memory

theorem run_showRules_rulesSession (text : String) :
    (scriptedHost.run Network.showRules (rulesSession text).host).1 = .ok text := by
  rfl

/-- On a host with these rules, that of the pod network is found from the address of its bridge, and
a rule of its address alone is not. -/
theorem hasRule_of_lists_usualRules :
    usualNames.Lists usualRules (usualNames.listing usualRules) ∧ usualNames.name? 60 = none ∧
      ((Pass.hasRule scriptedHost (Cidr.ofBits 0x0af4061e 24) 60 31000).exec
        (rulesSession (usualNames.listing usualRules))).1 = .ok true ∧
      ((Pass.hasRule scriptedHost (Cidr.ofBits 0x0af40600 32) 60 31000).exec
        (rulesSession (usualNames.listing usualRules))).1 = .ok false := by
  have hlists := usualNames.lists_listing usualRules
  have hname : usualNames.name? 60 = none := rfl
  have hanswer := run_showRules_rulesSession (usualNames.listing usualRules)
  refine ⟨hlists, hname, ?_, ?_⟩
  · rw [(hasRule_of_lists scriptedHost _ hanswer hlists _ hname _).1]
    decide
  · rw [(hasRule_of_lists scriptedHost _ hanswer hlists _ hname _).1]
    decide

/-- The rule by which all traffic goes by a table. -/
def allRule : KernelRule := .of Cidr.defaultRoute 60 100 (by decide)

/-- **The rule for all traffic is not found.** It is the rule that the command asks for and the only
one that is listed, and still there is none for the one who asks. -/
theorem hasRule_allRule :
    KernelRule.ofCommand? (Network.addRule Cidr.defaultRoute 60 100) = some allRule ∧
      usualNames.Lists [allRule] (usualNames.listing [allRule]) ∧
      usualNames.name? 60 = none ∧
      ((Pass.hasRule scriptedHost Cidr.defaultRoute 60 100).exec
        (rulesSession (usualNames.listing [allRule]))).1 = .ok false := by
  have hlists := usualNames.lists_listing [allRule]
  have hname : usualNames.name? 60 = none := rfl
  refine ⟨KernelRule.ofCommand?_addRule _ _ (by decide), hlists, hname, ?_⟩
  rw [Pass.hasRule_eq, Pass.exec_isThere, Addition.listing, run_showRules_rulesSession]
  show (Addition.rule Cidr.defaultRoute 60 100).recognise _ = _
  rw [TableNames.recognise_of_lists hlists _ hname]
  decide

end DpuNetwork
