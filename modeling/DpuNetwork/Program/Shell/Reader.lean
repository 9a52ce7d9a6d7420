import DpuNetwork.Program.Shell.Token

/-!
# Reading scripts

The grammar of scripts. Keywords count only where a command can begin. Each reader takes the tokens
in front of it and returns what it read with the rest; its bound is the number of nested calls left,
and `parse` allows for eight of them with each token.
-/

namespace DpuNetwork.Program.Shell

/-- What a reader gives. -/
abbrev Read := Except Fault (Script × List Token)

/-- The fault of a token that cannot stand here. -/
def unexpected {α : Type} (expected : Option String) : List Token → Except Fault α
  | [] => .error (.unexpected "end of file" expected)
  | t :: _ => .error (.unexpected t.shown expected)

/-- Takes a keyword. -/
def keyword (k : String) (ts : List Token) : Except Fault (List Token) :=
  match ts with
  | .word _ (some s) :: r => if s = k then .ok r else unexpected (some k) ts
  | _ => unexpected (some k) ts

/-- The tokens behind line ends. -/
def skipNewlines (ts : List Token) : List Token :=
  ts.dropWhile fun
    | .newline => true
    | _ => false

/-- Whether a list of commands ends here. -/
def endsList : List Token → Bool
  | [] => true
  | .operator ")" :: _ => true
  | .operator ";;" :: _ => true
  | .word _ (some s) :: _ => ["do", "done", "then", "elif", "else", "fi", "\x7d"].contains s
  | _ => false

/-- A word that sets a variable: its name and its value. -/
def assignment? (w : Word) : Option (List Char × Word) :=
  let isLetter : Piece → Bool := fun
    | .text [c] => c != '='
    | _ => false
  let letters := w.takeWhile isLetter
  let name := letters.flatMap fun
    | .text s => s
    | _ => []
  match w.drop letters.length, name with
  | .text ['='] :: value, c :: r =>
    if startsName c && r.all isNameChar then some (name, value) else none
  | _, _ => none

/-- Reads redirections and the words of a simple command. -/
def simple (assignments : List (List Char × Word)) (words : List Word) (rs : List Redirection) :
    List Token → Except Fault (Script × List Token)
  | .word w _ :: r =>
    match words, assignment? w with
    | [], some a => simple (a :: assignments) words rs r
    | _, _ => simple assignments (w :: words) rs r
  | .redirection stream o :: .word w bare :: r =>
    let target : Option (Nat × Target) := match o, bare.bind String.toNat? with
      | ">", _ => some (1, .write w)
      | "<", _ => some (0, .read w)
      | ">&", some n => some (1, .stream n)
      | "<&", some n => some (0, .stream n)
      | _, _ => none
    match target with
    | some (usual, t) => simple assignments words (⟨stream.getD usual, t⟩ :: rs) r
    | none => .error (.unexpected "Bad fd number" none)
  | .redirection _ _ :: r => unexpected none r
  | r =>
    let s := Script.simple assignments.reverse words.reverse
    .ok (if rs.isEmpty then s else .redirected s rs.reverse, r)

/-- The redirections behind a compound command, put on it. -/
def withRedirections (s : Script) (r : List Token) : Read :=
  match r with
  | .redirection _ _ :: _ => match simple [] [] [] r with
    | .ok (.redirected _ rs, r') => .ok (.redirected s rs, r')
    | .ok _ => .ok (s, r)
    | .error f => .error f
  | _ => .ok (s, r)

/-- The words of a list of items. -/
def itemWords : List Token → List Word × List Token
  | .word w _ :: r => let (ws, r') := itemWords r; (w :: ws, r')
  | r => ([], r)

mutual

/-- Reads commands up to the end of a list. -/
def list : Nat → List Token → Read
  | 0, ts => unexpected none ts
  | n + 1, ts =>
    let ts := skipNewlines ts
    if endsList ts then .ok (.empty, ts)
    else do
      let (a, r) ← andOr n ts
      match r with
      | .operator ";" :: r | .operator "&" :: r | .newline :: r =>
        let (b, r) ← list n r
        return (.sequence a b, r)
      | _ => if endsList r then return (a, r) else unexpected none r

/-- Reads a list that has at least one command. -/
def someList : Nat → List Token → Read
  | 0, ts => unexpected none ts
  | n + 1, ts =>
    let ts := skipNewlines ts
    if endsList ts then unexpected none ts else list n ts

/-- Reads commands that hang together by `&&` and `||`. -/
def andOr : Nat → List Token → Read
  | 0, ts => unexpected none ts
  | n + 1, ts => do
    let (a, r) ← pipeline n ts
    andOrRest n a r

/-- Reads what hangs on a command by `&&` and `||`. -/
def andOrRest : Nat → Script → List Token → Read
  | 0, _, ts => unexpected none ts
  | n + 1, a, ts =>
    match ts with
    | .operator "&&" :: r => do
      let (b, r) ← pipeline n (skipNewlines r)
      andOrRest n (.conjunction a b) r
    | .operator "||" :: r => do
      let (b, r) ← pipeline n (skipNewlines r)
      andOrRest n (.disjunction a b) r
    | _ => .ok (a, ts)

/-- Reads commands with pipes between them. -/
def pipeline : Nat → List Token → Read
  | 0, ts => unexpected none ts
  | n + 1, ts =>
    match ts with
    | .word _ (some "!") :: r => do
      let (a, r) ← pipeline n r
      return (.negation a, r)
    | _ => do
      let (a, r) ← command n ts
      pipeRest n a r

/-- Reads what hangs on a command by pipes. -/
def pipeRest : Nat → Script → List Token → Read
  | 0, _, ts => unexpected none ts
  | n + 1, a, ts =>
    match ts with
    | .operator "|" :: r => do
      let (b, r) ← command n (skipNewlines r)
      pipeRest n (.pipe a b) r
    | _ => .ok (a, ts)

/-- Reads the rest of a conditional behind its first keyword. -/
def conditional : Nat → List Token → Read
  | 0, ts => unexpected none ts
  | n + 1, ts => do
    let (c, r) ← someList n ts
    let (yes, r) ← someList n (← keyword "then" r)
    match r with
    | .word _ (some "elif") :: r =>
      let (no, r) ← conditional n r
      return (.branch c yes no, r)
    | .word _ (some "else") :: r =>
      let (no, r) ← someList n r
      return (.branch c yes no, ← keyword "fi" r)
    | r => return (.branch c yes .empty, ← keyword "fi" r)

/-- Reads one command. -/
def command : Nat → List Token → Read
  | 0, ts => unexpected none ts
  | n + 1, ts =>
    match ts with
    | .operator "(" :: r => do
      let (s, r) ← someList n r
      match r with
      | .operator ")" :: r => withRedirections (.subshell s) r
      | r => unexpected (some ")") r
    | .word _ (some "\x7b") :: r => do
      let (s, r) ← someList n r
      withRedirections s (← keyword "\x7d" r)
    | .word _ (some "if") :: r => do
      let (s, r) ← conditional n r
      withRedirections s r
    | .word _ (some "for") :: .word _ (some name) :: r => do
      let (items, r) := match skipNewlines r with
        | .word _ (some "in") :: r => let (ws, r) := itemWords r; (some ws, r)
        | r => (none, r)
      let r := match r with
        | .operator ";" :: r => r
        | r => r
      let (body, r) ← someList n (← keyword "do" (skipNewlines r))
      withRedirections (.each name.toList items body) (← keyword "done" r)
    | .word _ (some "while") :: r => do
      let (c, r) ← someList n r
      let (body, r) ← someList n (← keyword "do" r)
      withRedirections (.loop false c body) (← keyword "done" r)
    | .word _ (some "until") :: r => do
      let (c, r) ← someList n r
      let (body, r) ← someList n (← keyword "do" r)
      withRedirections (.loop true c body) (← keyword "done" r)
    | .word _ _ :: _ => if endsList ts then unexpected none ts else simple [] [] [] ts
    | .redirection _ _ :: _ => simple [] [] [] ts
    | _ => unexpected none ts

end

/-- Reads a script. -/
def parse (s : List Char) : Except Fault Script := do
  let ts ← tokens (s.length + 1) [] s
  let (script, r) ← list (8 * ts.length + 8) ts
  match r with
  | [] => return script
  | _ => unexpected none r

end DpuNetwork.Program.Shell
