import DpuNetwork.GatewayOptions
import DpuNetwork.Proofs.FileTree.ReadBack

/-!
# The two files do not disturb each other

The gateway options and the bridge definition have different names below any root, and neither has
the name under which the other is written before it takes its place. So replacing one of them leaves
the other as it is, whatever the root is.
-/

namespace DpuNetwork

open Text

/-! ### The name of a path -/

/-- Cutting a text cuts what stands before and behind a separator. -/
theorem Text.cut_append_cons {α : Type} [DecidableEq α] (sep : α) (s r : List α) :
    cut sep (s ++ sep :: r) = cut sep s ++ cut sep r := by
  induction s with
  | nil => simp [cut, cutWhere]
  | cons c s ih =>
    simp only [cut, cutWhere, List.cons_append] at ih ⊢
    split
    · rw [ih, List.cons_append]
    · -- The first piece of `s` grows by one, and there always is one.
      rcases hs : cutWhere (· == sep) s with - | ⟨p, ps⟩
      · exact absurd hs (cutWhere_ne_nil _ s)
      · rw [ih, hs]
        rfl

namespace Path

/-- The last name of a path is what stands behind its last separator. -/
theorem lastName?_of_toList {s : String} (front : List Char) {name : List Char}
    (h : s.toList = front ++ '/' :: name) (hslash : '/' ∉ name) (hne : name ≠ []) :
    lastName? s = some (String.ofList name) := by
  rw [lastName?, components, h, cut_append_cons, cut_of_not_mem hslash, List.filter_append]
  simp [hne]

/-- The path of something in a directory ends in its own text. -/
theorem exists_toList_child (dir rest : String) :
    ∃ front, (child dir rest).toList = front ++ rest.toList := by
  unfold child
  split
  · exact ⟨[], rfl⟩
  · split
    · exact ⟨dir.toList, String.toList_append⟩
    · exact ⟨(dir ++ "/").toList, String.toList_append⟩

/-- A root changes nothing about it. -/
theorem lastName?_child {dir rest : String} {front name : List Char}
    (h : rest.toList = front ++ '/' :: name) (hslash : '/' ∉ name) (hne : name ≠ []) :
    lastName? (child dir rest) = some (String.ofList name) := by
  obtain ⟨pre, hpre⟩ := exists_toList_child dir rest
  exact lastName?_of_toList (pre ++ front) (by rw [hpre, h, List.append_assoc]) hslash hne

/-- The temporary file has the same last name, but longer. -/
theorem lastName?_temporary_child {dir rest : String} {front name : List Char}
    (h : rest.toList = front ++ '/' :: name) (hslash : '/' ∉ name) :
    lastName? (FileTree.temporary (child dir rest)) =
      some (String.ofList (name ++ ['.', 'T', 'M', 'P'])) := by
  obtain ⟨pre, hpre⟩ := exists_toList_child dir rest
  refine lastName?_of_toList (pre ++ front) ?_ ?_ (by simp)
  · rw [FileTree.temporary, String.toList_append, hpre, h]
    simp
  · simp [hslash]

/-- Writing the file of one path does not touch the file of the other. -/
structure Apart (written other : String) : Prop where
  /-- They have different names. -/
  lastName_ne : lastName? other ≠ lastName? written
  /-- The other file is not the one that is written first. -/
  lastName_ne_temporary : lastName? other ≠ lastName? (FileTree.temporary written)

end Path

/-- Replacing one file leaves a file of another name readable. -/
theorem FileTree.read_replace_of_apart {t t' : FileTree} {s s' text : String} {changed : Bool}
    {b : ByteArray} (h : t.replace s text = (.ok changed, t')) (hread : t.read s' = some b)
    (hs : Path.Apart s s') : t'.read s' = some b :=
  read_replace_of_lastName_ne h hread hs.lastName_ne hs.lastName_ne_temporary

/-! ### The two files -/

theorem toList_gatewayOptionsPath :
    gatewayOptionsPath.toList = "etc/openvswitch".toList ++ '/' :: "ovn_k8s.conf".toList := by
  decide +kernel

theorem toList_bridgeDefinitionPath :
    bridgeDefinitionPath.toList = "etc/netplan".toList ++ '/' :: "80-br-ovn.yaml".toList := by
  decide +kernel

/-- The gateway options have another name than the file that is written first. -/
theorem lastName?_gatewayOptions_ne_temporary (dir : String) :
    Path.lastName? (Path.child dir gatewayOptionsPath) ≠
      Path.lastName? (FileTree.temporary (Path.child dir gatewayOptionsPath)) := by
  rw [Path.lastName?_child toList_gatewayOptionsPath (by decide) (by decide),
    Path.lastName?_temporary_child toList_gatewayOptionsPath (by decide)]
  decide

/-- Writing the gateway options leaves the bridge definition as it is. -/
theorem apart_gatewayOptions_bridgeDefinition (dir : String) :
    Path.Apart (Path.child dir gatewayOptionsPath) (Path.child dir bridgeDefinitionPath) where
  lastName_ne := by
    rw [Path.lastName?_child toList_bridgeDefinitionPath (by decide) (by decide),
      Path.lastName?_child toList_gatewayOptionsPath (by decide) (by decide)]
    decide
  lastName_ne_temporary := by
    rw [Path.lastName?_child toList_bridgeDefinitionPath (by decide) (by decide),
      Path.lastName?_temporary_child toList_gatewayOptionsPath (by decide)]
    decide

/-- Writing the bridge definition leaves the gateway options as they are. -/
theorem apart_bridgeDefinition_gatewayOptions (dir : String) :
    Path.Apart (Path.child dir bridgeDefinitionPath) (Path.child dir gatewayOptionsPath) where
  lastName_ne := by
    rw [Path.lastName?_child toList_bridgeDefinitionPath (by decide) (by decide),
      Path.lastName?_child toList_gatewayOptionsPath (by decide) (by decide)]
    decide
  lastName_ne_temporary := by
    rw [Path.lastName?_child toList_gatewayOptionsPath (by decide) (by decide),
      Path.lastName?_temporary_child toList_bridgeDefinitionPath (by decide)]
    decide

end DpuNetwork
