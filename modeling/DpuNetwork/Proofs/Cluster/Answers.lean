import DpuNetwork.Proofs.Cluster.Requests
import DpuNetwork.Proofs.Json.Members
import DpuNetwork.Proofs.Json.RoundTrip

/-!
# What answers of the cluster say

The status of an answer decides what can follow from it: with a status that reports an error an
answer never describes a node, and only with such a status it says that there is none
(`isErrorStatus_of_finding`). So reading a node that the cluster fails to look up is not mistaken
for a node that is missing, unless the record of the error gives that reason.

What the agent writes about a node, the agent reads back: the body that applies labels describes a
node with that name and those labels (`node?_labelsBody`), also after it was printed as JSON and
sent as bytes (`finding_labelsBody`). The labels have to have different names, as in every map.

From both follows when the two operations succeed (`getNode_outcome_eq_ok_iff`,
`applyLabels_outcome_eq_ok_iff`), and that labels that were applied are read
(`getNode_of_applied`).
-/

namespace DpuNetwork.Cluster

/-! ### Findings and statuses -/

/-- **What an answer can say** is decided by its status. -/
theorem isErrorStatus_of_finding (a : Answer) :
    (∀ n, a.finding = .node n → isErrorStatus a.status = false) ∧
      (a.finding = .missing → isErrorStatus a.status = true) := by
  unfold Answer.finding
  cases isErrorStatus a.status with
  | true =>
    refine ⟨fun n h ↦ ?_, fun _ ↦ rfl⟩
    simp only [if_true] at h
    split at h <;> cases h
  | false =>
    refine ⟨fun _ _ ↦ rfl, fun h ↦ ?_⟩
    simp only [Bool.false_eq_true, if_false] at h
    split at h <;> cases h

/-! ### Labels that are read back -/

section Members

variable {α : Type} {before after : List (String × Json)} {name : String} {j : Json} {a : α}

/-- Members with other names do not matter. -/
theorem each_of_not_mem (read : Json → Option α) (h : name ∉ before.map Prod.fst) :
    each name read before = true := by
  refine List.all_eq_true.mpr fun m hm ↦ ?_
  have hne : m.1 ≠ name := fun e ↦ h (e ▸ List.mem_map_of_mem hm)
  simp [hne]

/-- A member that is not there is not read. -/
theorem last?_of_not_mem (read : Json → Option α) (h : name ∉ before.map Prod.fst) :
    last? name read before = some none := by
  have hlookup : Json.lastMember? name before = none := by
    rw [Json.lastMember?, List.lookup_eq_none_iff]
    intro m hm
    have hne : name ≠ m.1 := fun e ↦ h (e ▸ List.mem_map_of_mem (List.mem_reverse.mp hm))
    simpa using hne
  rw [last?, if_pos (each_of_not_mem read h), hlookup]
  rfl

/-- The only member of a name is the one that is read. -/
theorem last?_of_only (before after : List (String × Json)) {read : Json → Option α}
    (hbefore : name ∉ before.map Prod.fst) (hafter : name ∉ after.map Prod.fst)
    (hread : read j = some a) :
    last? name read (before ++ (name, j) :: after) = some (some a) := by
  have heach : each name read (before ++ (name, j) :: after) = true := by
    have h := each_of_not_mem read hbefore
    have h' := each_of_not_mem read hafter
    rw [each] at h h' ⊢
    simp [h, h', hread]
  have hlookup : Json.lastMember? name (before ++ (name, j) :: after) = some j := by
    rw [Json.lastMember?, List.lookup_eq_some_iff]
    refine ⟨after.reverse, before.reverse, by simp, fun m hm ↦ ?_⟩
    have hne : name ≠ m.1 := fun e ↦ hafter (e ▸ List.mem_map_of_mem (List.mem_reverse.mp hm))
    simpa using hne
  rw [last?, if_pos heach, hlookup, Option.bind_some, hread]

theorem lastOrNull?_of_not_mem (read : Json → Option α) (h : name ∉ before.map Prod.fst) :
    lastOrNull? name read before = some none := by
  rw [lastOrNull?, last?_of_not_mem _ h]
  rfl

theorem lastOrNull?_of_only (before after : List (String × Json)) {read : Json → Option α}
    (hbefore : name ∉ before.map Prod.fst) (hafter : name ∉ after.map Prod.fst)
    (hread : Json.orNull? read j = some (some a)) :
    lastOrNull? name read (before ++ (name, j) :: after) = some (some a) := by
  rw [lastOrNull?, last?_of_only before after hbefore hafter hread]
  rfl

end Members

/-- The texts of a map are read one by one. -/
theorem mapM_text?_map (es : List (String × String)) :
    (es.map fun e ↦ (e.1, Json.ofText e.2)).mapM
      (fun m ↦ (Json.text? m.2).map fun t ↦ (m.1, t)) = some es := by
  induction es with
  | nil => rfl
  | cons e es ih => rw [List.map_cons, List.mapM_cons, ih]; rfl

theorem textMap?_record {labels : Labels} (h : (labels.entries.map Prod.fst).Nodup) :
    textMap? (.record (labels.entries.map fun e ↦ (e.1, .ofText e.2))) = some labels := by
  simp only [textMap?, Json.members?_record, mapM_text?_map, Option.map_some,
    Assoc.ofList_entries h]

/-- The part of a node with its name and its labels, and nothing else, is read as it stands. -/
theorem metadata?_record (name : String) {j : Json} {labels : Labels}
    (hj : Json.orNull? textMap? j = some (some labels)) :
    metadata? (.record [("name", .ofText name), ("labels", j)]) =
      some { name := some name, labels := some labels } := by
  have hname : lastOrNull? "name" Json.text? [("name", .ofText name), ("labels", j)] =
      some (some name) :=
    lastOrNull?_of_only [] _ (by simp) (by simp) rfl
  have hlabels : lastOrNull? "labels" textMap? [("name", .ofText name), ("labels", j)] =
      some (some labels) :=
    lastOrNull?_of_only [("name", .ofText name)] [] (by simp) (by simp) hj
  have habsent : ∀ {k : String} {β : Type} (read : Json → Option β), k ≠ "name" → k ≠ "labels" →
      lastOrNull? k read [("name", .ofText name), ("labels", j)] = some none := fun read h h' ↦
    lastOrNull?_of_not_mem read (by simp [h, h'])
  simp [metadata?, Json.members?_record, hname, hlabels, habsent]

/-- **The body that applies labels describes the node** with these labels. -/
theorem node?_labelsBody (name : String) {labels : Labels}
    (h : (labels.entries.map Prod.fst).Nodup) :
    node? (labelsBody name labels) = some { name := some name, labels := some labels } := by
  obtain ⟨metadata, hmetadata⟩ : ∃ j, j = Json.record [("name", .ofText name),
      ("labels", .record (labels.entries.map fun e ↦ (e.1, .ofText e.2)))] := ⟨_, rfl⟩
  have hread : metadata? metadata = some { name := some name, labels := some labels } := by
    rw [hmetadata]
    refine metadata?_record name ?_
    rw [Json.orNull?, textMap?_record h]
    · rfl
    · exact Json.noConfusion
  have hbody : labelsBody name labels = .record [("apiVersion", .ofText "v1"),
      ("kind", .ofText "Node"), ("metadata", metadata)] := by
    rw [hmetadata]
    rfl
  have hversion : last? "apiVersion" (word? "v1") [("apiVersion", .ofText "v1"),
      ("kind", .ofText "Node"), ("metadata", metadata)] = some (some ()) :=
    last?_of_only [] _ (by simp) (by simp) rfl
  have hkind : last? "kind" (word? "Node") [("apiVersion", .ofText "v1"),
      ("kind", .ofText "Node"), ("metadata", metadata)] = some (some ()) :=
    last?_of_only [("apiVersion", .ofText "v1")] _ (by simp) (by simp) rfl
  have hlast : last? "metadata" metadata? [("apiVersion", .ofText "v1"),
      ("kind", .ofText "Node"), ("metadata", metadata)] =
        some (some { name := some name, labels := some labels }) :=
    last?_of_only [("apiVersion", .ofText "v1"), ("kind", .ofText "Node")] [] (by simp) (by simp)
      hread
  have habsent : ∀ {k : String}, k ≠ "apiVersion" → k ≠ "kind" → k ≠ "metadata" →
      lastOrNull? k object? [("apiVersion", .ofText "v1"), ("kind", .ofText "Node"),
        ("metadata", metadata)] = some none := fun h h' h'' ↦
    lastOrNull?_of_not_mem object? (by simp [h, h', h''])
  simp [node?, hbody, Json.members?_record, hversion, hkind, hlast, habsent]

theorem isPlain_labelsBody (name : String) (labels : Labels) :
    Json.IsPlain (labelsBody name labels) := by
  have hlabels : Json.IsPlain (.record (labels.entries.map fun e ↦ (e.1, .ofText e.2))) :=
    .record fun m hm ↦ by
      obtain ⟨e, -, rfl⟩ := List.mem_map.mp hm
      exact .text e.2
  have hmetadata : Json.IsPlain (.record [("name", .ofText name),
      ("labels", .record (labels.entries.map fun e ↦ (e.1, .ofText e.2)))]) :=
    .record (by simpa using hlabels)
  exact .record (by simpa using hmetadata)

/-- **What the agent sends, it reads back**: an answer with the bytes of such a body, and a status
that reports no error, describes the node. -/
theorem finding_labelsBody {status : Nat} (hstatus : isErrorStatus status = false) (name : String)
    {labels : Labels} (h : (labels.entries.map Prod.fst).Nodup) :
    (Answer.mk status (labelsBody name labels).toText.toUTF8).finding =
      .node { name := some name, labels := some labels } := by
  have hbytes : String.fromUTF8? (labelsBody name labels).toText.toUTF8 =
      some (labelsBody name labels).toText := by
    simp [String.fromUTF8?, String.fromUTF8, String.isValidUTF8]
  simp only [Answer.finding, hstatus, hbytes, Bool.false_eq_true, if_false, Option.bind_some,
    Json.ofString?_toText (isPlain_labelsBody name labels), node?_labelsBody name h]

/-! ### The two operations -/

section Operations

variable {deliver : Request → Delivery} {stopped : Bool} {name : String}

/-- **Reading a node succeeds** if the request for it is answered with the node, or with the reason
that there is none. -/
theorem getNode_outcome_eq_ok_iff {found : Option Node} :
    (getNode deliver stopped name).outcome = .ok found ↔
      stopped = false ∧ ∃ r a, readNode? name = some r ∧ deliver r = .answered a ∧
        a.finding = match found with
          | some n => .node n
          | none => .missing := by
  rw [getNode, ask_outcome_eq_ok_iff]
  refine and_congr_right fun _ ↦ exists_congr fun r ↦ exists_congr fun a ↦
    and_congr_right fun _ ↦ and_congr_right fun _ ↦ ?_
  cases a.finding <;> cases found <;> simp

/-- **Putting labels on a node succeeds** if the request is answered with a node. -/
theorem applyLabels_outcome_eq_ok_iff {labels : Labels} :
    (applyLabels deliver stopped name labels).outcome = .ok () ↔
      stopped = false ∧ ∃ r a, applyLabels? name labels = some r ∧ deliver r = .answered a ∧
        ∃ n, a.finding = .node n := by
  rw [applyLabels, ask_outcome_eq_ok_iff]
  refine and_congr_right fun _ ↦ exists_congr fun r ↦ exists_congr fun a ↦
    and_congr_right fun _ ↦ and_congr_right fun _ ↦ ?_
  cases a.finding <;> simp

/-- **What was applied is read**: of a cluster that answers with the body of an application, the
node is read with these labels. -/
theorem getNode_of_applied {labels : Labels} {r : Request} {status : Nat}
    (h : (labels.entries.map Prod.fst).Nodup) (hstatus : isErrorStatus status = false)
    (hr : readNode? name = some r)
    (hanswer : deliver r = .answered ⟨status, (labelsBody name labels).toText.toUTF8⟩) :
    (getNode deliver false name).outcome =
      .ok (some { name := some name, labels := some labels }) :=
  getNode_outcome_eq_ok_iff.mpr ⟨rfl, r, _, hr, hanswer, finding_labelsBody hstatus name h⟩

end Operations

end DpuNetwork.Cluster
