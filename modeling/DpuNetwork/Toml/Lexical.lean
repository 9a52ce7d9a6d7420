import DpuNetwork.Config.Value
import DpuNetwork.Text.Decimal

/-!
# The words of TOML

White space, comments, strings, keys, numbers, dates and times of TOML 1.0. Each reader takes the
text in front of it and returns what it read with the rest; what may follow is the business of the
reader that called it.
-/

namespace DpuNetwork.Toml

open Text
open Config (Value)

/-- White space within a line. -/
def isSpace (c : Char) : Bool := c == ' ' || c == '\t'

/-- The text behind white space. -/
def skip (s : List Char) : List Char := s.dropWhile isSpace

/-- A character that may stand in a comment or a string: no control character but the tab. -/
def isPrintable (c : Char) : Bool := c == '\t' || (0x20 ≤ c.toNat && c.toNat != 0x7F)

/-- The text behind a line feed, which may follow a carriage return. -/
def newline? : List Char → Option (List Char)
  | '\n' :: r => some r
  | '\r' :: '\n' :: r => some r
  | _ => none

/-- The text behind the end of a line: white space, a comment, and the line feed or the end of the
text. -/
def lineEnd? (s : List Char) : Option (List Char) :=
  let r := match skip s with
    | '#' :: r => r.dropWhile isPrintable
    | r => r
  match r with
  | [] => some []
  | r => newline? r

/-- The text behind white space, line feeds and comments, as they may stand in an array. The bound
is the number of steps left. -/
def skipLines : Nat → List Char → List Char
  | 0, s => s
  | n + 1, s =>
    match skip s with
    | '#' :: r => match newline? (r.dropWhile isPrintable) with
      | some r' => skipLines n r'
      | none => '#' :: r
    | r => match newline? r with
      | some r' => skipLines n r'
      | none => r

/-- The text behind white space and line feeds. The bound is the number of steps left. -/
def skipBlankLines : Nat → List Char → List Char
  | 0, s => s
  | n + 1, s =>
    match newline? (skip s) with
    | some r => skipBlankLines n r
    | none => skip s

/-- The character that hexadecimal digits denote. -/
def scalar? (digits : List Char) : Option Char :=
  match hexadecimal? 0 digits with
  | some n => if n.isValidChar then some (Char.ofNat n) else none
  | none => none

/-- Reads the rest of an escape behind its backslash. -/
def escape? : List Char → Option (Char × List Char)
  | 'u' :: a :: b :: c :: d :: r => (scalar? [a, b, c, d]).map (·, r)
  | 'U' :: a :: b :: c :: d :: e :: f :: g :: h :: r =>
    (scalar? [a, b, c, d, e, f, g, h]).map (·, r)
  | 'b' :: r => some ('\x08', r)
  | 't' :: r => some ('\t', r)
  | 'n' :: r => some ('\n', r)
  | 'f' :: r => some ('\x0c', r)
  | 'r' :: r => some ('\r', r)
  | '"' :: r => some ('"', r)
  | '\\' :: r => some ('\\', r)
  | _ => none

/-- Reads the rest of a string in double quotes on one line. The bound is the number of characters
left. -/
def basic : Nat → List Char → List Char → Option (String × List Char)
  | 0, _, _ => none
  | n + 1, acc, s =>
    match s with
    | '"' :: r => some (String.ofList acc.reverse, r)
    | '\\' :: r => match escape? r with
      | some (c, r') => basic n (c :: acc) r'
      | none => none
    | c :: r => if isPrintable c then basic n (c :: acc) r else none
    | [] => none

/-- Reads the rest of a string in single quotes on one line. -/
def literal (s : List Char) : Option (String × List Char) :=
  let inside := s.takeWhile fun c ↦ isPrintable c && c != '\''
  match s.drop inside.length with
  | '\'' :: r => some (String.ofList inside, r)
  | _ => none

/-- The length of the run of quotes at the front of a text. -/
def quotes (q : Char) (s : List Char) : Nat := (s.takeWhile (· == q)).length

/-- Reads the rest of a string over several lines, with escapes if the quote is a double one. Up to
two quotes may stand in front of the closing three. The bound is the number of characters left. -/
def multiline (q : Char) : Nat → List Char → List Char → Option (String × List Char)
  | 0, _, _ => none
  | n + 1, acc, s =>
    match s with
    | [] => none
    | c :: r =>
      if c = q then
        let k := quotes q s
        if k < 3 then multiline q n (List.replicate k q ++ acc) (s.drop k)
        else
          let inside := min (k - 3) 2
          some (String.ofList (List.replicate inside q ++ acc).reverse, s.drop (inside + 3))
      else if c = '\\' ∧ q = '"' then
        match newline? (skip r) with
        | some r' => multiline q n acc (skipBlankLines r'.length r')
        | none => match escape? r with
          | some (e, r') => multiline q n (e :: acc) r'
          | none => none
      else match newline? s with
        | some r' => multiline q n ('\n' :: acc) r'
        | none => if isPrintable c then multiline q n (c :: acc) r else none

/-- The text behind the line feed that may follow the opening quotes of a string over several
lines. -/
def afterOpening (s : List Char) : List Char := (newline? s).getD s

/-- Reads a string. -/
def string? (s : List Char) : Option (String × List Char) :=
  match s with
  | '"' :: '"' :: '"' :: r => multiline '"' (r.length + 1) [] (afterOpening r)
  | '\'' :: '\'' :: '\'' :: r => multiline '\'' (r.length + 1) [] (afterOpening r)
  | '"' :: r => basic (r.length + 1) [] r
  | '\'' :: r => literal r
  | _ => none

/-- A character of a bare key. -/
def isKeyChar (c : Char) : Bool := c.isAlphanum || c == '_' || c == '-'

/-- Reads one key: bare, or a string on one line. -/
def simpleKey? (s : List Char) : Option (String × List Char) :=
  match s with
  | '"' :: r => basic (r.length + 1) [] r
  | '\'' :: r => literal r
  | _ => match s.takeWhile isKeyChar with
    | [] => none
    | k => some (String.ofList k, s.dropWhile isKeyChar)

/-- Reads keys with points between them and white space around each. The bound is the number of
characters left. -/
def keys : Nat → List String → List Char → Option (List String × List Char)
  | 0, _, _ => none
  | n + 1, acc, s =>
    match simpleKey? (skip s) with
    | none => none
    | some (k, r) => match skip r with
      | '.' :: r' => keys n (k :: acc) r'
      | r' => some ((k :: acc).reverse, r')

/-- How deep arrays and tables may nest, and how long a path of keys may be. -/
def depthLimit : Nat := 79

/-- Reads a path of keys. -/
def key? (s : List Char) : Option (List String × List Char) :=
  match keys (s.length + 1) [] s with
  | some (ks, r) => if ks.length ≤ depthLimit then some (ks, r) else none
  | none => none

/-- Reads the rest of a run of digits in which single underscores may stand between digits. -/
def digitsTail (isDigit : Char → Bool) (acc : List Char) : List Char → List Char × List Char
  | '_' :: c :: r =>
    if isDigit c then digitsTail isDigit (c :: acc) r else (acc.reverse, '_' :: c :: r)
  | c :: r => if isDigit c then digitsTail isDigit (c :: acc) r else (acc.reverse, c :: r)
  | [] => (acc.reverse, [])

/-- Reads a run of digits in which single underscores may stand between digits. -/
def digits? (isDigit : Char → Bool) : List Char → Option (List Char × List Char)
  | c :: r => if isDigit c then some (digitsTail isDigit [c] r) else none
  | [] => none

/-- Reads a sign, if there is one; `true` is minus. -/
def sign : List Char → Bool × List Char
  | '-' :: r => (true, r)
  | '+' :: r => (false, r)
  | s => (false, s)

/-- Reads the digits of a decimal integer; a leading zero stands alone. -/
def whole? : List Char → Option (List Char × List Char)
  | '0' :: r => some (['0'], r)
  | s => digits? Char.isDigit s

/-- The integer of 64 bits with a sign that a magnitude stands for. -/
def ofMagnitude (negative : Bool) (n : Nat) : Option Value :=
  if n < 0x8000000000000000 then some (.int (if negative then -(n : Int) else n))
  else if negative && n == 0x8000000000000000 then some (.int (-(n : Int)))
  else none

/-- The number that digits of a base denote. -/
def magnitude (base : Nat) (ds : List Char) : Nat :=
  ds.foldl (fun n c ↦ n * base + (hexDigit? c).getD 0) 0

/-- Reads an integer. -/
def integer? (s : List Char) : Option (Value × List Char) :=
  let based (base : Nat) (isDigit : Char → Bool) (r : List Char) : Option (Value × List Char) :=
    match digits? isDigit r with
    | some (ds, r') => (ofMagnitude false (magnitude base ds)).map (·, r')
    | none => none
  match s with
  | '0' :: 'x' :: r => based 16 (fun c ↦ (hexDigit? c).isSome) r
  | '0' :: 'o' :: r => based 8 (fun c ↦ '0' ≤ c && c ≤ '7') r
  | '0' :: 'b' :: r => based 2 (fun c ↦ c == '0' || c == '1') r
  | _ =>
    let (negative, r) := sign s
    match whole? r with
    | some (ds, r') => (ofMagnitude negative (magnitude 10 ds)).map (·, r')
    | none => none

/-- Reads an exponent, if there is one: its value and how it is written. -/
def exponent? : List Char → Option (Int × List Char × List Char)
  | e :: r =>
    if e = 'e' ∨ e = 'E' then
      let (negative, r') := sign r
      match digits? Char.isDigit r' with
      | some (ds, r'') =>
        let n : Int := magnitude 10 ds
        some (if negative then -n else n, 'e' :: (if negative then '-' :: ds else ds), r'')
      | none => none
    else none
  | [] => none

/-- Whether `m * 10 ^ e` is too large for a binary number of 64 bits: at least halfway from the
largest one to the next power of two. -/
def overflows (m : Nat) (e : Int) : Bool :=
  let bound := 1 <<< 1024 - 1 <<< 970
  if m = 0 then false
  else if e < 0 then
    if e.natAbs ≤ (Nat.toDigits 10 m).length then bound * Nat.pow 10 e.natAbs ≤ m else false
  else if 400 < e.natAbs then true
  else bound ≤ m * Nat.pow 10 e.natAbs

/-- Reads a number with a fraction or an exponent, or one of the words `inf` and `nan`. A positive
number that is too large is none. -/
def float? (s : List Char) : Option (Value × List Char) :=
  let (negative, r) := sign s
  let signText := if negative then ['-'] else []
  match r with
  | 'i' :: 'n' :: 'f' :: r' => some (.float (String.ofList (signText ++ ['i', 'n', 'f'])), r')
  | 'n' :: 'a' :: 'n' :: r' => some (.float (String.ofList (signText ++ ['n', 'a', 'n'])), r')
  | _ => match whole? r with
    | none => none
    | some (ws, r) =>
      let frac := match r with
        | '.' :: r' => digits? Char.isDigit r'
        | _ => none
      let (fs, r', hasFrac) := match frac with
        | some (fs, r') => (fs, r', true)
        | none => ([], r, false)
      let finish (e : Int) (es rest : List Char) : Option (Value × List Char) :=
        if !negative && overflows (magnitude 10 (ws ++ fs)) (e - fs.length) then none
        else
          let point := if hasFrac then '.' :: fs else []
          some (.float (String.ofList (signText ++ ws ++ point ++ es)), rest)
      match exponent? r' with
      | some (e, es, rest) => finish e es rest
      | none => if hasFrac then finish 0 [] r' else none

/-- Reads exactly `n` digits. -/
def fixed? (n : Nat) (s : List Char) : Option (Nat × List Char) :=
  let ds := s.take n
  if ds.length = n ∧ ds.all Char.isDigit then some (magnitude 10 ds, s.drop n) else none

/-- The number of days of a month. -/
def daysOf (year month : Nat) : Nat :=
  let leap := year % 4 == 0 && (year % 100 != 0 || year % 400 == 0)
  if month = 2 then if leap then 29 else 28
  else if month = 4 ∨ month = 6 ∨ month = 9 ∨ month = 11 then 30
  else 31

/-- The text behind a date. -/
def date? (s : List Char) : Option (List Char) :=
  match fixed? 4 s with
  | some (year, '-' :: r) => match fixed? 2 r with
    | some (month, '-' :: r) => match fixed? 2 r with
      | some (day, r) =>
        if 1 ≤ month ∧ month ≤ 12 ∧ 1 ≤ day ∧ day ≤ daysOf year month then some r else none
      | none => none
    | _ => none
  | _ => none

/-- The text behind hours and minutes. -/
def hourMinute? (s : List Char) : Option (List Char) :=
  match fixed? 2 s with
  | some (hour, ':' :: r) => match fixed? 2 r with
    | some (minute, r) => if hour ≤ 23 ∧ minute ≤ 59 then some r else none
    | none => none
  | _ => none

/-- The text behind a time of day. The second may be a leap second. -/
def time? (s : List Char) : Option (List Char) :=
  match hourMinute? s with
  | some (':' :: r) => match fixed? 2 r with
    | some (second, r) =>
      if 60 < second then none
      else match r with
        | '.' :: r' => match r'.takeWhile Char.isDigit with
          | [] => some r
          | _ => some (r'.dropWhile Char.isDigit)
        | _ => some r
    | none => none
  | _ => none

/-- The text behind the offset from universal time that may follow a date with a time. -/
def offset (s : List Char) : List Char :=
  match s with
  | 'Z' :: r => r
  | 'z' :: r => r
  | '+' :: r => (hourMinute? r).getD s
  | '-' :: r => (hourMinute? r).getD s
  | _ => s

/-- The text behind a date, a time, or both. -/
def moment? (s : List Char) : Option (List Char) :=
  match date? s with
  | some r => match r with
    | c :: r' =>
      if c = 'T' ∨ c = 't' ∨ c = ' ' then
        match time? r' with
        | some r'' => some (offset r'')
        | none => some r
      else some r
    | [] => some r
  | none => time? s

/-- Reads a number, a date or a time. -/
def number? (s : List Char) : Option (Value × List Char) :=
  match moment? s with
  | some r => some (.moment (String.ofList (s.take (s.length - r.length))), r)
  | none => match float? s with
    | some v => some v
    | none => integer? s

end DpuNetwork.Toml
