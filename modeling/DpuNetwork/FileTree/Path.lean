import DpuNetwork.FileTree.Basic
import DpuNetwork.Text.Cut

/-!
# Paths

A path is a text; which place of a tree it leads to depends on the tree, because every component but
the last has to be an existing directory. Empty components and `.` stay where they are, `..` goes up
and stays at the root when it is there, a name of more than 255 bytes never leads anywhere, and a
path that is too long or holds a NUL is refused before anything is looked at.

`parent?` and `child` work on the text alone.
-/

namespace DpuNetwork

open Text

/-- Why a path leads nowhere. -/
inductive PathFault where
  /-- A component does not exist. -/
  | missing
  /-- Any other reason. -/
  | refused
  deriving DecidableEq

/-- Where a path leads. -/
inductive Place where
  /-- To an existing directory that the path does not name: the root, or the path ends in `.` or
  `..`. -/
  | unnamed (p : Route)
  /-- To a name in an existing directory, taken or free; `slash` tells whether a slash follows. -/
  | named (p : Route) (slash : Bool)
  deriving DecidableEq

namespace Path

/-- The longest name of a component, in bytes. -/
def nameLimit : Nat := 255

/-- A path has fewer bytes than this. -/
def textLimit : Nat := 4096

/-- The components of a path, without the empty ones. -/
def components (s : String) : List String :=
  ((cut '/' s.toList).filter (· ≠ [])).map String.ofList

/-- Whether a path is refused as a text. -/
def isUnusable (s : String) : Bool := s.toList.contains '\x00' || textLimit ≤ s.utf8ByteSize

/-- Follows a component from a place that has to be a directory. -/
def step (t : FileTree) (p : Route) (c : String) : Except PathFault Route :=
  if !t.isDirectory p then .error .refused
  else if c = "." then .ok p
  else if c = ".." then .ok p.dropLast
  else if nameLimit < c.utf8ByteSize then .error .refused
  else if t.find? (p ++ [c]) = none then .error .missing
  else .ok (p ++ [c])

/-- Follows components to an existing directory. -/
def directory (t : FileTree) (cs : List String) : Except PathFault Route :=
  match cs.foldlM (step t) [] with
  | .ok p => if t.isDirectory p then .ok p else .error .refused
  | .error e => .error e

/-- Where components lead, with the given slash behind the last one. -/
def place (t : FileTree) (cs : List String) (slash : Bool) : Except PathFault Place :=
  match cs.getLast? with
  | none => .ok (.unnamed [])
  | some c =>
    match directory t cs.dropLast with
    | .error e => .error e
    | .ok p =>
      if c = "." then .ok (.unnamed p)
      else if c = ".." then .ok (.unnamed p.dropLast)
      else if nameLimit < c.utf8ByteSize then .error .refused
      else .ok (.named (p ++ [c]) slash)

/-- Where a path leads. -/
def locate (t : FileTree) (s : String) : Except PathFault Place :=
  if isUnusable s then .error .refused
  else if s.isEmpty then .error .missing
  else place t (components s) (s.toList.getLast? = some '/')

/-- The text of a path read backwards, without slashes and `.` components at its end. -/
def bareEnd : List Char → List Char
  | '/' :: c :: r => bareEnd (c :: r)
  | '.' :: '/' :: r => bareEnd ('/' :: r)
  | s => s

/-- The path of the directory that a path names something in. The root and the empty path have
none. -/
def parent? (s : String) : Option String :=
  match bareEnd s.toList.reverse with
  | [] | ['/'] => none
  | r => some (String.ofList (bareEnd (r.dropWhile (· ≠ '/'))).reverse)

/-- The path of something in a directory; a path from the root stays what it is. -/
def child (dir rest : String) : String :=
  if rest.toList.head? = some '/' || dir.isEmpty then rest
  else if dir.toList.getLast? = some '/' then dir ++ rest
  else dir ++ "/" ++ rest

end Path

end DpuNetwork
