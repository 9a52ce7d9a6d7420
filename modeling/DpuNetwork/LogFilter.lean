import DpuNetwork.Text.Cut

/-!
# What is logged

A log filter is a text of directives with commas between them. A directive is a level, or a target
with a level, where a target stands for itself and for all targets that it begins; a target without
a level stands for the lowest one. The directive with the longest target decides, and of two with
the same target the later one. A directive that cannot be read is ignored, and where no directive is
left the level is that of information.

Directives for spans are told from those for targets but never let anything through here: nothing is
logged inside a span before the first pass.
-/

namespace DpuNetwork

open Text

/-- How much is logged, from nothing to everything. -/
inductive LogLevel where
  /-- Nothing. -/
  | off
  /-- Errors. -/
  | error
  /-- Warnings too. -/
  | warn
  /-- Information too. -/
  | info
  /-- Details too. -/
  | debug
  /-- Everything. -/
  | trace
  deriving DecidableEq

namespace LogLevel

/-- The number of a level. -/
def number : LogLevel → Nat
  | off => 0
  | error => 1
  | warn => 2
  | info => 3
  | debug => 4
  | trace => 5

/-- The level that a word, in any case, or a number stands for. -/
def ofText? (s : List Char) : Option LogLevel :=
  match String.ofList (s.map Char.toLower) with
  | "off" | "0" => some off
  | "error" | "1" => some error
  | "warn" | "2" => some warn
  | "info" | "3" => some info
  | "debug" | "4" => some debug
  | "trace" | "5" => some trace
  | _ => none

end LogLevel

/-- A directive of a log filter. -/
inductive Directive where
  /-- A level for the targets that begin with a text. -/
  | target (start : List Char) (level : LogLevel)
  /-- A level for spans. -/
  | span
  deriving DecidableEq

/-- What a directive says about a target: the text that it stands for, and the level. -/
def Directive.applies? (target : List Char) : Directive → Option (List Char × LogLevel)
  | .span => none
  | .target start level => if start.isPrefixOf target then some (start, level) else none

/-- A log filter. -/
structure LogFilter where
  /-- The directives that can be read, in order. -/
  directives : List Directive
  /-- The directives that are ignored. -/
  ignored : List String

namespace LogFilter

/-- A character of a target. -/
def isTargetChar (c : Char) : Bool :=
  c.isAlphanum || c == '_' || c == ':' || c == '-' || 128 ≤ c.toNat

/-- Reads what a directive is for, with at most `n` parts left: targets, and spans in brackets. -/
def subject? : Nat → List Char → Option (List (Option (List Char)))
  | _, [] => some []
  | 0, _ => none
  | n + 1, s =>
    match s with
    | '[' :: r =>
      let inside := r.takeWhile (· != ']')
      match r.drop inside.length with
      | ']' :: r' => (subject? n r').map (none :: ·)
      | _ => none
    | _ => match s.takeWhile isTargetChar with
      | [] => none
      | t => (subject? n (s.dropWhile isTargetChar)).map (some t :: ·)

/-- Reads a directive. -/
def directive? (s : List Char) : Option Directive :=
  match LogLevel.ofText? s with
  | some level => some (.target [] level)
  | none =>
    let (subject, level) := match cutOnce '=' s with
      | some (subject, []) => (subject, some .trace)
      | some (subject, level) => (subject, LogLevel.ofText? level)
      | none => (s, some .trace)
    match level, subject? 2 subject with
    | some level, some [some t] => some (.target t level)
    | some _, some (_ :: _) => some .span
    | _, _ => none

/-- Reads a log filter. -/
def ofText (s : String) : LogFilter :=
  let parts := (cut ',' s.toList).filter (· ≠ [])
  { directives := parts.filterMap directive?
    ignored := (parts.filter fun p ↦ directive? p = none).map String.ofList }

/-- The directives that apply to a target, in order. -/
def applying (f : LogFilter) (target : List Char) : List (List Char × LogLevel) :=
  f.directives.filterMap (Directive.applies? target)

/-- What is found when one more directive applies: of two the one with the longer text, and of two
with texts of one length the later. -/
def better (found : Option (List Char × LogLevel)) (d : List Char × LogLevel) :
    Option (List Char × LogLevel) :=
  if (found.map fun e ↦ e.1.length).getD 0 ≤ d.1.length then some d else found

/-- The level for a target: that of the longest text that the target begins with. -/
def level (f : LogFilter) (target : List Char) : LogLevel :=
  if f.directives.isEmpty then .info
  else (((f.applying target).foldl better none).map Prod.snd).getD .off

/-- Whether a message of a level from a target is logged. -/
def enables (f : LogFilter) (target : String) (l : LogLevel) : Bool :=
  l.number ≤ (f.level target.toList).number

end LogFilter

end DpuNetwork
