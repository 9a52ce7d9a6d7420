import DpuNetwork.Program.Shell.Syntax

/-!
# The tokens of a script

A script falls into words and operators. Blanks and comments separate them, and within a word quotes
and expansions are taken apart.
-/

namespace DpuNetwork.Program.Shell

/-- A token. -/
inductive Token where
  /-- A word; one without quotes and expansions comes with its text, which may be a keyword. -/
  | word (w : Word) (bare : Option String)
  /-- An operator between commands, or a parenthesis. -/
  | operator (s : String)
  /-- The end of a line. -/
  | newline
  /-- A redirection operator with the number of the stream that it redirects. -/
  | redirection (stream : Option Nat) (operator : String)

/-- A character between words. -/
def isGap (c : Char) : Bool := c == ' ' || c == '\t'

/-- A character that ends a word. -/
def endsWord (c : Char) : Bool :=
  isGap c || c == '\n' || c == ';' || c == '&' || c == '|' || c == '<' || c == '>' || c == '(' ||
    c == ')'

/-- The first character of a name. -/
def startsName (c : Char) : Bool := c.isAlpha || c == '_'

/-- A further character of a name. -/
def isNameChar (c : Char) : Bool := c.isAlphanum || c == '_'

/-- The text up to the parenthesis that closes the given number of open ones, and the rest behind
it. -/
def closing : Nat → List Char → List Char → Option (List Char × List Char)
  | _, _, [] => none
  | open_, acc, c :: r =>
    if c = '(' then closing (open_ + 1) (c :: acc) r
    else if c = ')' then
      match open_ with
      | 0 | 1 => some (acc.reverse, r)
      | n + 1 => closing n (c :: acc) r
    else closing open_ (c :: acc) r

/-- Reads what follows a dollar sign. -/
def dollar ( isQuoted : Bool) (s : List Char) : Except Fault (Piece × List Char) :=
  match s with
  | '(' :: '(' :: r => match closing 2 [] r with
    | some (e, r') => .ok (.arithmetic e.dropLast isQuoted, r')
    | none => .error .unterminated
  | '(' :: r => match closing 1 [] r with
    | some (e, r') => .ok (.substitution e isQuoted, r')
    | none => .error .unterminated
  | '\x7b' :: r =>
    let name := r.takeWhile (· != '\x7d')
    match r.drop name.length with
    | _ :: r' => .ok (.parameter name isQuoted, r')
    | [] => .error .unterminated
  | c :: r =>
    if startsName c then
      .ok (.parameter (c :: r.takeWhile isNameChar) isQuoted, r.dropWhile isNameChar)
    else if c.isDigit || c == '$' || c == '?' || c == '#' || c == '@' || c == '*' then
      .ok (.parameter [c] isQuoted, r)
    else .ok (.text ['$'], s)
  | [] => .ok (.text ['$'], [])

/-- Reads the rest of a text in double quotes. The bound is the number of characters left. -/
def doubleQuoted : Nat → Word → List Char → Except Fault (Word × List Char)
  | 0, _, _ => .error .unterminated
  | n + 1, acc, s =>
    match s with
    | [] => .error .unterminated
    | '"' :: r => .ok (acc, r)
    | '\\' :: '\n' :: r => doubleQuoted n acc r
    | '\\' :: c :: r =>
      if c = '$' ∨ c = '"' ∨ c = '\\' ∨ c.toNat = 0x60 then doubleQuoted n (.text [c] :: acc) r
      else doubleQuoted n (.text ['\\', c] :: acc) r
    | '$' :: r => match dollar true r with
      | .ok (p, r') => doubleQuoted n (p :: acc) r'
      | .error f => .error f
    | c :: r => doubleQuoted n (.text [c] :: acc) r

/-- Reads the rest of a word, the last piece first. The bound is the number of characters left. -/
def wordRest : Nat → Word → List Char → Except Fault (Word × List Char)
  | 0, acc, s => .ok (acc, s)
  | n + 1, acc, s =>
    match s with
    | [] => .ok (acc, [])
    | '\'' :: r =>
      let inside := r.takeWhile (· != '\'')
      match r.drop inside.length with
      | _ :: r' => wordRest n (.text inside :: acc) r'
      | [] => .error .unterminated
    | '"' :: r => match doubleQuoted (r.length + 1) (.text [] :: acc) r with
      | .ok (acc', r') => wordRest n acc' r'
      | .error f => .error f
    | '\\' :: '\n' :: r => wordRest n acc r
    | '\\' :: c :: r => wordRest n (.text [c] :: acc) r
    | '$' :: r => match dollar false r with
      | .ok (p, r') => wordRest n (p :: acc) r'
      | .error f => .error f
    | c :: r => if endsWord c then .ok (acc, s) else wordRest n (.text [c] :: acc) r

/-- The longest operator at the front of a text. -/
def operator? (s : List Char) : Option (Token × List Char) :=
  match s with
  | '\n' :: r => some (.newline, r)
  | ';' :: ';' :: r => some (.operator ";;", r)
  | ';' :: r => some (.operator ";", r)
  | '&' :: '&' :: r => some (.operator "&&", r)
  | '&' :: r => some (.operator "&", r)
  | '|' :: '|' :: r => some (.operator "||", r)
  | '|' :: r => some (.operator "|", r)
  | '(' :: r => some (.operator "(", r)
  | ')' :: r => some (.operator ")", r)
  | '>' :: '>' :: r => some (.redirection none ">", r)
  | '>' :: '&' :: r => some (.redirection none ">&", r)
  | '>' :: r => some (.redirection none ">", r)
  | '<' :: '&' :: r => some (.redirection none "<&", r)
  | '<' :: r => some (.redirection none "<", r)
  | _ => none

/-- The text in front of the first character that means something in a word. -/
def bareText (s : List Char) : List Char :=
  s.takeWhile fun c ↦ !(endsWord c || c == '\'' || c == '"' || c == '\\' || c == '$')

/-- Reads all tokens. The bound is the number of characters left. -/
def tokens : Nat → List Token → List Char → Except Fault (List Token)
  | 0, acc, _ => .ok acc.reverse
  | n + 1, acc, s =>
    match s.dropWhile isGap with
    | [] => .ok acc.reverse
    | '#' :: r => tokens n acc (r.dropWhile (· != '\n'))
    | '\\' :: '\n' :: r => tokens n acc r
    | r => match operator? r with
      | some (t, r') => tokens n (t :: acc) r'
      | none =>
        let bare := bareText r
        let rest := r.drop bare.length
        match bare.all Char.isDigit && !bare.isEmpty, operator? rest with
        | true, some (.redirection _ o, r') =>
          tokens n (.redirection (some (Nat.ofDigitChars 10 bare 0)) o :: acc) r'
        | _, _ =>
          match wordRest (r.length + 1) [] r with
          | .error f => .error f
          | .ok (w, r') =>
            let isBare := rest.length == r'.length
            let asWritten := if isBare then some (String.ofList bare) else none
            tokens n (.word w.reverse asWritten :: acc) r'

/-- How a report shows a token. -/
def Token.shown : Token → String
  | .word _ (some s) =>
    if ["while", "until", "do", "done", "if", "then", "elif", "else", "fi", "for", "in", "\x7b",
        "\x7d", "!"].contains s then "\"" ++ s ++ "\"" else "word"
  | .word _ none => "word"
  | .operator s => "\"" ++ s ++ "\""
  | .newline => "newline"
  | .redirection _ _ => "redirection"

end DpuNetwork.Program.Shell
