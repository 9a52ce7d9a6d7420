import DpuNetwork.Assoc

/-!
# A tree of files and directories

A tree without links: every entry below the root is a directory or a file with its bytes. Entries
are found by the names on the way from the root; the root itself is always a directory. What a
look-up sees after an entry was put or removed follows from the map that holds the entries
(`find?_put`, `find?_remove`).
-/

namespace DpuNetwork

/-- The contents of files are compared by their bytes. -/
instance decidableEqContents : DecidableEq ByteArray := ByteArray.decEq

/-- What stands at a place of a tree. -/
inductive Entry where
  /-- A directory. -/
  | directory
  /-- A file. -/
  | file (contents : ByteArray)
  deriving DecidableEq

/-- The names from the root to a place. -/
abbrev Route := List String

/-- A tree of files and directories. -/
structure FileTree where
  /-- The entries below the root. -/
  entries : Assoc Route Entry := {}
  deriving DecidableEq

namespace FileTree

/-- What stands at a place. -/
def find? (t : FileTree) (p : Route) : Option Entry :=
  if p = [] then some .directory else t.entries.get? p

/-- Whether a place is a directory. -/
def isDirectory (t : FileTree) (p : Route) : Bool := t.find? p == some .directory

/-- The tree with an entry put at a place below the root. -/
def put (t : FileTree) (p : Route) (e : Entry) : FileTree := ⟨t.entries.insert p e⟩

/-- The tree without the entry at a place. -/
def remove (t : FileTree) (p : Route) : FileTree := ⟨t.entries.erase p⟩

/-- The tree without a place and everything below it. -/
def removeAll (t : FileTree) (p : Route) : FileTree := ⟨t.entries.filter fun q ↦ !p.isPrefixOf q⟩

/-- The tree with a directory at every place on the way to `p` that was free. -/
def withDirectories (t : FileTree) (p : Route) : FileTree :=
  (List.range (p.length + 1)).foldl (fun t n ↦
    let q := p.take n
    if t.find? q = none then t.put q .directory else t) t

/-- The entries below a directory, with the names from that directory on. -/
def below (t : FileTree) (p : Route) : List (Route × Entry) :=
  t.entries.entries.filterMap fun (q, e) ↦
    if p.isPrefixOf q && q.length != p.length then some (q.drop p.length, e) else none

@[simp] theorem find?_root (t : FileTree) : t.find? [] = some .directory := rfl

theorem find?_of_ne (t : FileTree) {p : Route} (h : p ≠ []) : t.find? p = t.entries.get? p := by
  simp [find?, h]

/-- What a look-up sees after an entry was put. -/
theorem find?_put (t : FileTree) {p : Route} (hp : p ≠ []) (q : Route) (e : Entry) :
    (t.put p e).find? q = if p = q then some e else t.find? q := by
  by_cases hq : q = []
  · subst hq; simp [hp]
  · rw [find?_of_ne _ hq, find?_of_ne _ hq, put, Assoc.get?_insert]

/-- What a look-up sees after an entry was removed. -/
theorem find?_remove (t : FileTree) {p : Route} (hp : p ≠ []) (q : Route) :
    (t.remove p).find? q = if p = q then none else t.find? q := by
  by_cases hq : q = []
  · subst hq; simp [hp]
  · rw [find?_of_ne _ hq, find?_of_ne _ hq, remove, Assoc.get?_erase]

end FileTree

end DpuNetwork
