/-!
# Scripts

The part of the shell language that is modelled: simple commands with assignments and redirections,
lists, conditions, loops and pipes. A word is kept in pieces, because what is quoted and what is
expanded decides how it falls into fields; the text of an expansion is kept as it is written.
-/

namespace DpuNetwork.Program.Shell

/-- A piece of a word. -/
inductive Piece where
  /-- Text that stands for itself. -/
  | text (s : List Char)
  /-- The value of a parameter. -/
  | parameter (name : List Char) ( isQuoted : Bool)
  /-- The value of an arithmetic expression. -/
  | arithmetic (expression : List Char) ( isQuoted : Bool)
  /-- What a script writes. -/
  | substitution (script : List Char) ( isQuoted : Bool)

/-- A piece in quotes, so that its value does not fall apart. -/
def Piece.quoted : Piece → Piece
  | text s => text s
  | parameter name _ => parameter name true
  | arithmetic e _ => arithmetic e true
  | substitution s _ => substitution s true

/-- A word. -/
abbrev Word := List Piece

/-- What a stream is redirected to. -/
inductive Target where
  /-- The stream with another number. -/
  | stream (n : Nat)
  /-- A file that is written. -/
  | write (file : Word)
  /-- A file that is read. -/
  | read (file : Word)

/-- A redirection of a numbered stream. -/
structure Redirection where
  /-- The stream. -/
  stream : Nat
  /-- What it is redirected to. -/
  target : Target

/-- A script. -/
inductive Script where
  /-- Nothing. -/
  | empty
  /-- A command with variables that are set for it. -/
  | simple (assignments : List (List Char × Word)) (words : List Word)
  /-- A script with redirected streams. -/
  | redirected (s : Script) (rs : List Redirection)
  /-- One after the other. -/
  | sequence (a b : Script)
  /-- The second only if the first succeeds. -/
  | conjunction (a b : Script)
  /-- The second only if the first fails. -/
  | disjunction (a b : Script)
  /-- Success and failure exchanged. -/
  | negation (a : Script)
  /-- The output of the first is the input of the second. -/
  | pipe (a b : Script)
  /-- The body again and again while the condition succeeds, or while it fails. -/
  | loop (negated : Bool) (condition body : Script)
  /-- One of two. -/
  | branch (condition yes no : Script)
  /-- The body once for each item, or for each argument. -/
  | each (name : List Char) (items : Option (List Word)) (body : Script)
  /-- A script that changes nothing outside itself but what it writes. -/
  | subshell (s : Script)

/-- Why a text is no script. -/
inductive Fault where
  /-- A quotation or a bracket is not closed. -/
  | unterminated
  /-- Something stands where it cannot stand, in place of an expected word. -/
  | unexpected (what : String) (expected : Option String)

/-- The wording of a fault. -/
def Fault.message : Fault → String
  | unterminated => "Syntax error: Unterminated quoted string"
  | unexpected what none => "Syntax error: " ++ what ++ " unexpected"
  | unexpected what (some e) =>
    "Syntax error: " ++ what ++ " unexpected (expecting \"" ++ e ++ "\")"

end DpuNetwork.Program.Shell
