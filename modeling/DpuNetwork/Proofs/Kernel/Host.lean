import DpuNetwork.Proofs.Idempotence.Steps
import DpuNetwork.Proofs.Kernel.Reading
import DpuNetwork.Proofs.Retry.World

/-!
# A host that keeps what it is told

A host on which the commands of a pass do what they say: it keeps the additions that it reads from
commands and lists them in JSON, together with what is there anyway (`Surroundings`). It refuses an
addition that it holds already, as a kernel does.

For every plan and all surroundings, what a pass does shows on it (`Kernel.world`), and it lists
what it was told to add (`Kernel.listings`).
-/

namespace DpuNetwork

open Ipv4 Text

/-! ### Commands with other effects -/

/-- What a command changes other than by an addition. -/
inductive Effect where
  /-- An interface is put into operation. -/
  | setUp (link : String)
  /-- The switch is told an identifier. -/
  | identify (key value : String)

namespace Effect

/-- What is held behind the effect. -/
def apply : Effect → Holdings → Holdings
  | setUp link, h => h.setUp link
  | identify key value, h => h.identify key value

/-- The effects of other commands leave addresses, routes and rules alone. -/
@[simp] theorem objects_apply (e : Effect) (h : Holdings) : (e.apply h).objects = h.objects := by
  cases e <;> rfl

/-- Reads an effect from a command. The name of an identifier ends at the first equals sign. -/
def ofCommand? : Command → Option Effect
  | ⟨"ip", ["link", "set", "dev", link, "up"]⟩ => some (setUp link)
  | ⟨"ovs-vsctl", ["set", "Open_vSwitch", ".", assignment]⟩ =>
    (cutOnce '=' assignment.toList).map fun (key, value) ↦
      identify (String.ofList (key.drop "external_ids:".length)) (String.ofList value)
  | _ => none

/-- A setting of the switch is read back from its command, since the key ends at the first `=`. -/
theorem ofCommand?_setExternalId {key : String} (hkey : '=' ∉ key.toList) (value : String) :
    ofCommand? (Network.setExternalId key value) = some (identify key value) := by
  have hassignment : ("external_ids:" ++ key ++ "=" ++ value).toList =
      ("external_ids:".toList ++ key.toList) ++ '=' :: value.toList := by simp
  have hnot : '=' ∉ "external_ids:".toList ++ key.toList := by
    rw [List.mem_append]
    rintro (h | h)
    · exact absurd h (by decide)
    · exact hkey h
  have hdrop : ("external_ids:".toList ++ key.toList).drop "external_ids:".length = key.toList :=
    List.drop_left
  show (cutOnce '=' ("external_ids:" ++ key ++ "=" ++ value).toList).map _ = _
  rw [hassignment, cutOnce_append hnot, Option.map_some]
  dsimp only
  rw [hdrop, String.ofList_toList, String.ofList_toList]

/-- A query has no effect. -/
theorem ofCommand?_isQuery {q : Command} (hq : Network.IsQuery q) : ofCommand? q = none := by
  obtain ⟨args, rfl⟩ := hq
  rfl

end Effect

/-- Nor is it an addition. -/
theorem Addition.ofCommand?_isQuery {q : Command} (hq : Network.IsQuery q) :
    ofCommand? q = none := by
  rcases h : ofCommand? q with - | A
  · rfl
  · exact absurd (command_of_ofCommand? h).symm (Network.ne_command_of_isQuery hq A)

instance (plan : Plan) : (A : Addition) → Decidable (plan.MayAdd A)
  | .address link a => match hm : plan.mode with
    | .internal m => decidable_of_iff (link = overlayBridge ∧ a = m.endpoint)
        (by simp [Plan.MayAdd, hm])
    | .external m => isFalse (by simp [Plan.MayAdd, hm])
  | .route _ _ _ _ _ => isTrue trivial
  | .rule _ table priority => inferInstanceAs (Decidable
      (table = policyTable ∧ (priority = podRulePriority ∨ priority = outOfBandRulePriority)))

/-- The plan allows an addition with or without its host bits. -/
theorem Plan.mayAdd_stored {plan : Plan} {A : Addition} : plan.MayAdd A.stored ↔ plan.MayAdd A := by
  cases A <;> exact Iff.rfl

/-! ### Answers -/

/-- The text by which entries are listed to a query. -/
def Network.answer (q : Command) (entries : List Json) : String :=
  match q.args with
  | "-4" :: "-j" :: "addr" :: _ => (Json.arr [.record [("addr_info", .arr entries)]]).toText
  | _ => (Json.arr entries).toText

/-- The entries of an answer are those that were listed. -/
theorem Network.entries?_answer (q : Command) {entries : List Json}
    (h : ∀ j ∈ entries, j.IsPlain) : entries? q (answer q entries) = some entries := by
  have harray := arrayItems?_toText h
  have hplain : (Json.arr [.record [("addr_info", .arr entries)]]).IsPlain := by
    refine .arr fun j hj ↦ ?_
    obtain rfl := List.mem_singleton.mp hj
    refine .record fun m hm ↦ ?_
    obtain rfl := List.mem_singleton.mp hm
    exact .arr h
  have hinterface : interfaceItems? (Json.arr [.record [("addr_info", .arr entries)]]).toText =
      some entries := by
    have hitems : addressItems? (.record [("addr_info", .arr entries)]) = some entries := rfl
    rw [interfaceItems?, arrayItems?, Json.ofString?_toText hplain]
    show ([Json.record [("addr_info", .arr entries)]].mapM addressItems?).map List.flatten = _
    simp [hitems]
  unfold entries?
  split
  · next hargs => simpa [answer, hargs] using hinterface
  · next hargs =>
    have hanswer : answer q entries = (Json.arr entries).toText := by
      unfold answer
      split
      · next hargs' => exact absurd hargs' (hargs _)
      · rfl
    rw [hanswer, harray]

/-! ### The host -/

/-- What is there on a host besides what a pass of the plan adds. -/
structure Surroundings (plan : Plan) where
  /-- What is listed to a query besides additions of the plan. -/
  listed : Command → List Addition
  /-- Nothing is listed among the additions of the plan. -/
  listed_listing : ∀ A, plan.MayAdd A → listed A.listing = []
  /-- The node of the plan. -/
  node : Option Node
  /-- The device files. -/
  device : String → Option String

/-- The surroundings with one address on each of the bridges that a pass observes, and one gateway
on each of the routes that it looks up. -/
def Surroundings.ofAddresses (plan : Plan) (pods outOfBand lease : Cidr)
    (defaultGateway overlayGateway : Address) (node : Option Node)
    (device : String → Option String) : Surroundings plan where
  listed q :=
    if q = Network.showAddresses podBridge then [.address podBridge pods]
    else if q = Network.showAddresses outOfBandBridge then
      [.address outOfBandBridge outOfBand]
    else if q = Network.lookUp Cidr.defaultRoute then
      [.route Cidr.defaultRoute defaultGateway outOfBandBridge none none]
    else match plan.mode with
      | .internal _ => []
      | .external m =>
        if q = Network.showAddresses overlayBridge then
          [.address overlayBridge lease]
        else if q = Network.lookUp m.discovery then
          [.route m.discovery overlayGateway overlayBridge none none]
        else []
  listed_listing A hA := by
    have hne {q : Command} (hq : plan.Observes q) : A.listing ≠ q :=
      Plan.listing_ne_of_observes hq hA
    rw [if_neg (hne (.inl rfl)), if_neg (hne (.inr (.inl rfl))),
      if_neg (hne (.inr (.inr (.inl rfl))))]
    split
    · rfl
    · next m hm =>
      rw [if_neg (hne (.inr (.inr (.inr ⟨m, hm, .inl rfl⟩)))),
        if_neg (hne (.inr (.inr (.inr ⟨m, hm, .inr rfl⟩))))]
  node
  device

/-- A state of the host: what it holds, with additions of the plan only. -/
@[ext]
structure Kernel (plan : Plan) where
  /-- What is held. -/
  holdings : Holdings
  /-- The plan may add it. -/
  mayAdd : ∀ A ∈ holdings.objects, plan.MayAdd A

namespace Kernel

variable {plan : Plan} (S : Surroundings plan)

/-- The entries that are listed to a query. -/
def entries (q : Command) (k : Kernel plan) : List Json :=
  (S.listed q ++ k.holdings.objects.filter (·.listing = q)).map Addition.entry

/-- The state with one more addition. -/
def add (k : Kernel plan) {A : Addition} (hA : plan.MayAdd A) : Kernel plan where
  holdings := k.holdings.add A
  mayAdd B hB := (List.mem_append.mp hB).elim (k.mayAdd B) fun h ↦ by
    rw [List.mem_singleton.mp h]
    exact Plan.mayAdd_stored.mpr hA

/-- The state behind a change that touches no addition. -/
def change (k : Kernel plan) (f : Holdings → Holdings)
    (hf : ∀ h, (f h).objects = h.objects) : Kernel plan where
  holdings := f k.holdings
  mayAdd A hA := k.mayAdd A (hf k.holdings ▸ hA)

/-- How an addition is refused. -/
def refused : RunFault := .failed "2" "RTNETLINK answers: File exists"

/-- Runs a command: an addition of the plan is made if it is not held, any other command has its
effect or is answered with a listing. -/
def run (c : Command) (k : Kernel plan) : Except RunFault String × Kernel plan :=
  match Addition.ofCommand? c with
  | some A =>
    if hA : plan.MayAdd A ∧ ¬ k.holdings.Holds A then (.ok "", k.add hA.1) else (.error refused, k)
  | none => match Effect.ofCommand? c with
    | some e => (.ok "", k.change e.apply e.objects_apply)
    | none => (.ok (Network.answer c (entries S c k)), k)

/-- Puts labels on the node, of which only the zone is kept. -/
def label (l : Labels) (k : Kernel plan) : Kernel plan :=
  match l.get? Node.zoneLabel with
  | some zone => k.change (Holdings.putInZone · zone) fun _ ↦ rfl
  | none => k

/-- The host that keeps what it is told. Programs that were started run on. -/
def host : Host (Kernel plan) where
  run := run S
  start _ k := (true, k.change Holdings.serve fun _ ↦ rfl)
  childState k := (.ok .running, k)
  getNode _ k := (.ok S.node, k)
  applyLabels _ l k := (.ok (), label l k)
  readDevice path k := (S.device path, k)

variable (k : Kernel plan)

/-- What is listed is printed with names and texts that are read back as they are. -/
theorem isPlain_entries (q : Command) : ∀ j ∈ entries S q k, j.IsPlain := by
  intro j hj
  obtain ⟨A, -, rfl⟩ := List.mem_map.mp hj
  exact A.isPlain_entry

/-- A query is answered with what is listed and changes nothing. -/
theorem run_query {q : Command} (hq : Network.IsQuery q) :
    (host S).run q k = (.ok (Network.answer q (entries S q k)), k) := by
  show run S q k = _
  rw [run, Addition.ofCommand?_isQuery hq, Effect.ofCommand?_isQuery hq]

/-- Addresses, routes and rules are held by what they look like. -/
theorem holds_stored {h : Holdings} {A : Addition} : h.Holds A.stored ↔ h.Holds A := by
  simp [Holdings.Holds]

/-- So it makes no difference in which form one is added. -/
theorem add_stored (h : Holdings) (A : Addition) : h.add A.stored = h.add A := by
  simp [Holdings.add, Addition.stored_stored]

/-- An addition of the plan is made unless it is held. -/
theorem run_addition {A : Addition} (hA : plan.MayAdd A) :
    (host S).run A.command k =
      if k.holdings.Holds A then (.error refused, k) else (.ok "", k.add hA) := by
  show run S A.command k = _
  rw [run, Addition.ofCommand?_command]
  by_cases hheld : k.holdings.Holds A
  · have hnot : ¬ (plan.MayAdd A.stored ∧ ¬ k.holdings.Holds A.stored) :=
      fun h ↦ h.2 (holds_stored.mpr hheld)
    simp only [dif_neg hnot, if_pos hheld]
  · have hboth : plan.MayAdd A.stored ∧ ¬ k.holdings.Holds A.stored :=
      ⟨Plan.mayAdd_stored.mpr hA, fun h ↦ hheld (holds_stored.mp h)⟩
    simp only [dif_pos hboth, if_neg hheld]
    exact congrArg (Prod.mk _) (Kernel.ext (add_stored _ _))

/-- Any other addition is refused. -/
theorem run_foreign {A : Addition} (hA : ¬ plan.MayAdd A) :
    (host S).run A.command k = (.error refused, k) := by
  show run S A.command k = _
  rw [run, Addition.ofCommand?_command]
  have hnot : ¬ (plan.MayAdd A.stored ∧ ¬ k.holdings.Holds A.stored) :=
    fun h ↦ hA (Plan.mayAdd_stored.mp h.1)
  simp only [dif_neg hnot]

/-- A command that makes no addition touches none. -/
theorem objects_run {c : Command} (hc : ∀ A, c = Addition.command A → ∀ out,
    ((host S).run c k).1 ≠ .ok out) :
    ((host S).run c k).2.holdings.objects = k.holdings.objects := by
  rcases hread : Addition.ofCommand? c with - | A
  · show (run S c k).2.holdings.objects = _
    rw [run, hread]
    rcases Effect.ofCommand? c with - | e
    · rfl
    · exact e.objects_apply _
  · obtain rfl := Addition.command_of_ofCommand? hread
    by_cases hA : plan.MayAdd A
    · rw [run_addition S k hA] at hc ⊢
      split at hc
      · next hheld => rw [if_pos hheld]
      · exact absurd rfl (hc A rfl "")
    · rw [run_foreign S k hA]

/-- A host that keeps what it is told. -/
def listings : Listings (host S) where
  entries q k := some (entries S q k)
  shown q hq k text h := by
    rw [run_query S k hq] at h
    obtain rfl := Except.ok.inj h
    exact Network.entries?_answer q (isPlain_entries S k q)
  add A k out h := by
    by_cases hA : plan.MayAdd A
    · rw [run_addition S k hA] at h ⊢
      split at h
      · cases h
      · next hheld =>
        rw [if_neg hheld]
        refine ⟨fun es hes ↦ ?_, fun q hq ↦ ?_⟩
        · obtain rfl := Option.some.inj hes
          refine ⟨entries S A.listing k, A.stored.entry, [], (List.append_nil _).symm,
            Addition.shownBy_stored.mp A.stored.shownBy_entry, ?_⟩
          simp [entries, add, Holdings.add, Addition.listing_stored]
        · have hne : A.stored.listing ≠ q := fun h ↦ hq (A.listing_stored ▸ h.symm)
          simp [entries, add, Holdings.add, hne]
    · rw [run_foreign S k hA] at h
      cases h
  run c k hc q := by
    have hobjects := objects_run S k hc
    simp only [entries, hobjects]
  start _ _ _ := rfl
  childState _ _ := rfl
  getNode _ _ _ := rfl
  applyLabels _ l k q := by
    show some (entries S q (label l k)) = _
    unfold label
    split <;> rfl
  readDevice _ _ _ := rfl

/-- What is recognised in the entries of additions is what is held. -/
theorem seen?_entries {A : Addition} (hA : plan.MayAdd A) :
    A.seen? (entries S A.listing k) = some (decide (k.holdings.Holds A)) := by
  have hread (Bs : List Addition) (hBs : ∀ B ∈ Bs, plan.MayAdd B ∧ B.listing = A.listing) :
      (Bs.map Addition.entry).mapM A.see? = some (Bs.map fun B ↦ decide (B.object = A.object)) := by
    rw [mapM_eq_some_iff, List.forall₂_map_left_iff, List.forall₂_map_right_iff]
    exact List.forall₂_same.mpr fun B hB ↦ Addition.see?_entry (hBs B hB).1 (hBs B hB).2
  -- Nothing but additions of the plan is listed with one of them.
  rw [entries, S.listed_listing A hA, List.nil_append, Addition.seen?, hread]
  · rw [Option.map_some, Option.some_inj, Bool.eq_iff_iff, List.contains_iff_mem,
      decide_eq_true_iff, List.mem_map]
    constructor
    · rintro ⟨B, hB, hobject⟩
      exact ⟨B, (List.mem_filter.mp hB).1, of_decide_eq_true hobject⟩
    · rintro ⟨B, hB, hobject⟩
      have hlisting := Addition.listing_eq_of_object_eq hobject
      exact ⟨B, List.mem_filter.mpr ⟨hB, decide_eq_true hlisting⟩, decide_eq_true hobject⟩
  · intro B hB
    obtain ⟨hmem, hlisting⟩ := List.mem_filter.mp hB
    exact ⟨k.mayAdd B hmem, of_decide_eq_true hlisting⟩

/-- What a pass of the plan does shows on the host. -/
def world : World (host S) plan where
  holds := Kernel.holdings
  reply q := .ok (Network.answer q ((S.listed q).map Addition.entry))
  refusal A h := if h.Holds A then some refused else none
  label := S.node.map Node.hostName?
  device := S.device
  observe q hq k := by
    rw [run_query S k (Plan.isQuery_of_observes hq)]
    have hnone : k.holdings.objects.filter (·.listing = q) = [] :=
      List.filter_eq_nil_iff.mpr fun A hA ↦ by
        simpa using Plan.listing_ne_of_observes hq (k.mayAdd A hA)
    simp [entries, hnone]
  look A hA k := by
    rw [run_query S k A.isQuery_listing]
    refine ⟨rfl, _, rfl, ?_⟩
    rw [Addition.recognise_eq_ok_iff, Network.entries?_answer _ (isPlain_entries S k _)]
    exact seen?_entries S k hA
  add A hA k := by
    rw [run_addition S k hA]
    by_cases hheld : k.holdings.Holds A
    · simp [hheld]
    · simp [hheld, add]
  setUp k := by
    have hrun : (host S).run (Network.setUp overlayBridge) k =
        (.ok "", k.change (Effect.setUp overlayBridge).apply (Effect.objects_apply _)) := rfl
    rw [hrun]
    exact ⟨⟨_, rfl⟩, rfl⟩
  identify key hkey value k := by
    have hequals : '=' ∉ key.toList := by
      simp only [switchKeys, List.mem_cons, List.not_mem_nil, or_false] at hkey
      rcases hkey with rfl | rfl | rfl <;> decide
    have hrun : (host S).run (Network.setExternalId key value) k =
        (.ok "", k.change (Effect.identify key value).apply (Effect.objects_apply _)) := by
      show run S (Network.setExternalId key value) k = _
      have hnone : Addition.ofCommand? (Network.setExternalId key value) = none := rfl
      rw [run, hnone, Effect.ofCommand?_setExternalId hequals]
    rw [hrun]
    exact ⟨⟨_, rfl⟩, rfl⟩
  apply k := ⟨⟨_, rfl⟩, rfl⟩
  start _ _ := ⟨rfl, rfl⟩
  child _ := ⟨rfl, fun _ ↦ rfl⟩
  node _ := ⟨rfl, S.node, rfl, rfl⟩
  zone z k := ⟨rfl, by
    show (label _ k).holdings = _
    rw [label]
    rfl⟩
  read _ _ := ⟨rfl, rfl⟩

/-- The state in which nothing is held yet. -/
def fresh (plan : Plan) : Kernel plan where
  holdings := ⟨[], fun _ ↦ false, fun _ ↦ none, none, 0⟩
  mayAdd _ hA := nomatch hA

end Kernel

/-! ### A small host -/

/-- A plan in internal mode for a small network, with endpoints beyond the network of the bridge. -/
def staticPlan : Plan where
  mode := .internal ⟨Cidr.ofBits 0x0a000005 24, ⟨0x0a000001⟩, Cidr.ofBits 0x0a000006 24⟩
  endpoints := Cidr.ofBits 0x0a000000 16
  hosts := Cidr.ofBits 0x0a010000 16
  nodeName := "dpu"
  mtu := 1500
  cooldown := 120000

/-- The surroundings of that plan. -/
def smallNetwork : Surroundings staticPlan :=
  .ofAddresses staticPlan (Cidr.ofBits 0x0a020001 24) (Cidr.ofBits 0x0a030001 24)
    (Cidr.ofBits 0x0a000005 24) ⟨0x0a0300fe⟩ ⟨0x0a000001⟩
    (some { labels := some (.ofList [(Node.hostNameLabel, "worker")]) })
    fun path ↦ if path = "/sys/class/net/p0/smart_nic/pf/config" then
      some "MAC : 02:00:00:00:00:01\n" else none

end DpuNetwork
