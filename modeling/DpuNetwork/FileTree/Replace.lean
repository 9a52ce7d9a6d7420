import DpuNetwork.FileTree.Path
import DpuNetwork.Failure

/-!
# Replacing a file in one step

File work on a tree, as an operating system does it: making directories, writing, renaming, reading.
Out of these, `replace` gives a file new contents so that a reader sees the old contents or the new
ones and nothing in between: the new contents are written beside the file, under its path with
`.TMP` at the end, and then take its name. A file that holds the contents already is left alone.

Operations that can fail half way return the tree as they leave it together with their outcome.
-/

namespace DpuNetwork.FileTree

/-- The contents of the file that a path leads to. -/
def read (t : FileTree) (s : String) : Option ByteArray :=
  match Path.locate t s with
  | .ok (.named p false) => match t.find? p with
    | some (.file contents) => some contents
    | _ => none
  | _ => none

/-- The text of the file that a path leads to, if its bytes are UTF-8. -/
def readText (t : FileTree) (s : String) : Option String := (t.read s).bind String.fromUTF8?

/-- Makes the directory that components name in an existing one. -/
def makeDirectory (t : FileTree) (cs : List String) : Except PathFault FileTree :=
  match Path.place t cs false with
  | .ok (.named p _) => if t.find? p = none then .ok (t.put p .directory) else .error .refused
  | .ok (.unnamed _) => .error .refused
  | .error e => .error e

/-- Whether components lead to a directory. -/
def leadsToDirectory (t : FileTree) (cs : List String) : Bool :=
  match Path.place t cs false with
  | .ok (.named p _) => t.isDirectory p
  | .ok (.unnamed _) => true
  | .error _ => false

/-- Makes the directory that components name, given in reverse, and those above it. What is there
already is no fault if it is a directory. -/
def makeDirectoriesUp (t : FileTree) : List String → Bool × FileTree
  | [] => (true, t)
  | c :: up =>
    let cs := (c :: up).reverse
    match t.makeDirectory cs with
    | .ok t' => (true, t')
    | .error .refused => (t.leadsToDirectory cs, t)
    | .error .missing =>
      match t.makeDirectoriesUp up with
      | (false, t') => (false, t')
      | (true, t') => match t'.makeDirectory cs with
        | .ok t'' => (true, t'')
        | .error _ => (t'.leadsToDirectory cs, t')

/-- Makes the directory of a path and those above it; returns whether it is there then. -/
def makeDirectories (t : FileTree) (s : String) : Bool × FileTree :=
  if Path.isUnusable s then (false, t)
  else t.makeDirectoriesUp ((Path.components s).filter (· ≠ ".")).reverse

/-- Gives the file that a path names its contents; a new file is made if the name is free. -/
def write (t : FileTree) (s : String) (contents : ByteArray) : Option FileTree :=
  match Path.locate t s with
  | .ok (.named p false) =>
    if t.isDirectory p then none else some (t.put p (.file contents))
  | _ => none

/-- Gives a file another name, in place of a file that has it. -/
def rename (t : FileTree) (source target : String) : Option FileTree :=
  match Path.locate t source, Path.locate t target with
  | .ok (.named p false), .ok (.named q false) =>
    match t.find? p with
    | some (.file contents) =>
      if t.isDirectory q then none else some ((t.remove p).put q (.file contents))
    | _ => none
  | _, _ => none

/-- The path that new contents are written to before they take the name of the file. -/
def temporary (s : String) : String := s ++ ".TMP"

/-- Gives the file that a path names a text as its contents. The outcome tells whether the file has
changed, or which step failed on which path. -/
def replace (t : FileTree) (s : String) (text : String) :
    Except (FileStep × String) Bool × FileTree :=
  if t.read s = some text.toUTF8 then (.ok false, t)
  else
    let dir := Path.parent? s
    match (match dir with | some d => t.makeDirectories d | none => (true, t)) with
    | (false, t) => (.error (.createDirs, dir.getD ""), t)
    | (true, t) =>
      match t.write (temporary s) text.toUTF8 with
      | none => (.error (.write, temporary s), t)
      | some t =>
        match t.rename (temporary s) s with
        | none => (.error (.rename, s), t)
        | some t => (.ok true, t)

end DpuNetwork.FileTree
