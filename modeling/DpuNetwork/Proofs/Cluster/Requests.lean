import DpuNetwork.Cluster.Client
import Mathlib.Data.List.TakeWhile

/-!
# Which requests are made to the cluster

A request goes to the node that it is meant for. The name of a node stands in the path as it is, so
this depends on the name: `IsNodeName` holds of the names that leave the path whole, among them all
that a node can have, which consist of small letters, digits, hyphens and dots
(`isNodeName_of_forall`). For such names the path is exact (`nodeUri?_eq_some_iff`), and requests
about different nodes are different (`nodeUri?_inj`). Whatever the name, no request leads outside
the nodes (`nodesPath_isPrefix`).

An operation makes at most one request: none when the agent is being stopped or the name makes no
path, and otherwise the one that it stands for (`ask_requests`). What its outcome is, is decided by
the stop, the transport and the answer alone (`ask_outcome_eq_ok_iff`,
`ask_outcome_eq_cancelled_iff`).
-/

namespace DpuNetwork.Cluster

/-! ### Paths of nodes -/

/-- Names that can stand in a path and do not end it. -/
structure IsNodeName (name : String) : Prop where
  /-- The name is not empty. -/
  ne_empty : name ≠ ""
  /-- Its characters may stand in a path. -/
  isPathChar : ∀ c ∈ name.toList, Cluster.isPathChar c = true
  /-- None of them ends the path. -/
  not_end : ∀ c ∈ name.toList, c ≠ '#' ∧ c ≠ '?'

/-- Queries of the requests: none at all, or one behind a question mark. -/
def IsQuery (query : List Char) : Prop :=
  query = [] ∨ ∃ r, query = '?' :: r ∧ ∀ c ∈ r, isQueryChar c = true ∧ c ≠ '#'

theorem isQuery_applyQuery : IsQuery applyQuery.toList := by
  have hall : applyQuery.toList.tail.all (fun c ↦ isQueryChar c && c != '#') = true := by decide
  refine .inr ⟨applyQuery.toList.tail, by decide, fun c hc ↦ ?_⟩
  simpa using List.all_eq_true.mp hall c hc

theorem isPathChar_of_mem_nodesPath {c : Char} (hc : c ∈ nodesPath.toList) :
    isPathChar c = true ∧ c ≠ '#' ∧ c ≠ '?' := by
  have hall : nodesPath.toList.all (fun c ↦ isPathChar c && c != '#' && c != '?') = true := by
    decide
  simpa [and_assoc] using List.all_eq_true.mp hall c hc

/-- The characters that names of nodes consist of. -/
def nameChars : List Char := "abcdefghijklmnopqrstuvwxyz0123456789-.".toList

/-- **Every name that a node can have** leaves the path whole. -/
theorem isNodeName_of_forall {name : String} (hne : name ≠ "")
    (h : ∀ c ∈ name.toList, c ∈ nameChars) : IsNodeName name := by
  have hall : nameChars.all (fun c ↦ isPathChar c && c != '#' && c != '?') = true := by decide
  have hplain : ∀ c ∈ name.toList, isPathChar c = true ∧ c ≠ '#' ∧ c ≠ '?' := fun c hc ↦ by
    simpa [and_assoc] using List.all_eq_true.mp hall c (h c hc)
  exact ⟨hne, fun c hc ↦ (hplain c hc).1, fun c hc ↦ (hplain c hc).2⟩

/-- A path with a query behind it is sent as a whole. -/
theorem uri?_append {path query : String}
    (hpath : ∀ c ∈ path.toList, isPathChar c = true ∧ c ≠ '#' ∧ c ≠ '?')
    (hquery : IsQuery query.toList) (hsize : (path ++ query).utf8ByteSize ≤ uriLimit) :
    uri? (path ++ query) = some (path ++ query) := by
  have hhash : (path ++ query).toList.takeWhile (· != '#') = (path ++ query).toList := by
    rw [List.takeWhile_eq_self_iff, String.toList_append]
    intro c hc
    rcases List.mem_append.mp hc with hc | hc
    · simpa using (hpath c hc).2.1
    · rcases hquery with hq | ⟨r, hq, hr⟩
      · simp [hq] at hc
      · rw [hq] at hc
        rcases List.mem_cons.mp hc with rfl | hc
        · decide
        · simpa using (hr c hc).2
  have hmark : (path ++ query).toList.takeWhile (· != '?') = path.toList := by
    have hfree : ∀ c ∈ path.toList, (c != '?') = true := fun c hc ↦ by
      simpa using (hpath c hc).2.2
    rw [String.toList_append, List.takeWhile_append_of_pos hfree]
    rcases hquery with hq | ⟨r, hq, -⟩ <;> simp [hq]
  have hplain : path.toList.all isPathChar = true :=
    List.all_eq_true.mpr fun c hc ↦ (hpath c hc).1
  have hrest : ((query.toList).drop 1).all isQueryChar = true := by
    rcases hquery with hq | ⟨r, hq, hr⟩
    · simp [hq]
    · simpa [hq] using fun c hc ↦ (hr c hc).1
  simp only [uri?, if_neg (Nat.not_lt.mpr hsize), hhash, hmark, hplain]
  simp [hrest, -List.drop_one]

/-- **The path of a node is its name behind the path of all nodes**, unless that is too long. -/
theorem nodeUri?_eq_some_iff {name query uri : String} (h : IsNodeName name)
    (hquery : IsQuery query.toList) : nodeUri? name query = some uri ↔
      (nodesPath ++ name ++ query).utf8ByteSize ≤ uriLimit ∧ nodesPath ++ name ++ query = uri := by
  have hpath : ∀ c ∈ (nodesPath ++ name).toList, isPathChar c = true ∧ c ≠ '#' ∧ c ≠ '?' := by
    intro c hc
    rw [String.toList_append] at hc
    rcases List.mem_append.mp hc with hc | hc
    · exact isPathChar_of_mem_nodesPath hc
    · exact ⟨h.isPathChar c hc, h.not_end c hc⟩
  rw [nodeUri?, if_neg (by simpa using h.ne_empty)]
  by_cases hsize : (nodesPath ++ name ++ query).utf8ByteSize ≤ uriLimit
  · rw [uri?_append hpath hquery hsize, Option.some.injEq]
    exact (and_iff_right hsize).symm
  · rw [uri?, if_pos (Nat.lt_of_not_le hsize)]
    exact iff_of_false (Option.some_ne_none uri).symm fun h ↦ hsize h.1

/-- Names in the same place of two texts that are equal are equal. -/
theorem eq_of_append_eq {front name name' back : String}
    (h : front ++ name ++ back = front ++ name' ++ back) : name = name' := by
  rw [← String.toList_inj] at h ⊢
  simpa using h

/-- **Requests about different nodes are different.** -/
theorem nodeUri?_inj {name name' query uri : String} (hname : IsNodeName name)
    (hname' : IsNodeName name') (hquery : IsQuery query.toList)
    (h : nodeUri? name query = some uri) (h' : nodeUri? name' query = some uri) : name = name' := by
  obtain ⟨-, huri⟩ := (nodeUri?_eq_some_iff hname hquery).mp h
  obtain ⟨-, huri'⟩ := (nodeUri?_eq_some_iff hname' hquery).mp h'
  exact eq_of_append_eq (huri.trans huri'.symm)

/-- **No request leads outside the nodes**, whatever stands in the name: what is cut off behind a
`#` stands behind the path of all nodes. -/
theorem nodesPath_isPrefix {name query uri : String} (h : nodeUri? name query = some uri) :
    nodesPath.toList <+: uri.toList := by
  have hfree : ∀ c ∈ nodesPath.toList, (c != '#') = true := fun c hc ↦ by
    simpa using (isPathChar_of_mem_nodesPath hc).2.1
  unfold nodeUri? uri? at h
  split at h
  · cases h
  · split at h
    · cases h
    · simp only [String.append_assoc, String.toList_append, List.takeWhile_append_of_pos hfree] at h
      obtain ⟨-, huri⟩ := Option.ite_none_right_eq_some.mp h
      rw [← Option.some.inj huri, String.toList_ofList]
      exact List.prefix_append _ _

/-! ### Requests of an operation -/

variable {α : Type} {deliver : Request → Delivery} {stopped : Bool} {request : Option Request}
  {read : Finding → Except ClusterFault α}

/-- **An operation makes its request once**, or none when the agent is being stopped. -/
theorem ask_requests :
    (ask deliver stopped request read).requests = if stopped then [] else request.toList := by
  unfold ask
  cases stopped <;> cases request <;> rfl

/-- **An operation succeeds** if it makes its request and the answer says so. -/
theorem ask_outcome_eq_ok_iff {a : α} : (ask deliver stopped request read).outcome = .ok a ↔
    stopped = false ∧ ∃ r answer, request = some r ∧ deliver r = .answered answer ∧
      read answer.finding = .ok a := by
  unfold ask
  cases stopped with
  | true => simp
  | false =>
    cases request with
    | none => simp
    | some r => cases h : deliver r <;> simp [h]

/-- **An operation is given up** when the agent is stopped, before it or while it waits; no answer
is read as a stop. -/
theorem ask_outcome_eq_cancelled_iff (hread : ∀ f, read f ≠ .error .cancelled) :
    (ask deliver stopped request read).outcome = .error .cancelled ↔
      stopped = true ∨ ∃ r, request = some r ∧ deliver r = .stopped := by
  unfold ask
  cases stopped with
  | true => simp
  | false =>
    cases request with
    | none => simp
    | some r => cases h : deliver r <;> simp [h, hread]

end DpuNetwork.Cluster
