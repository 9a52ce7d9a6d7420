import DpuNetwork.Text.Cut
import DpuNetwork.Text.Decimal

/-!
# Small programs

The programs that scripts are made of, as functions of their arguments and their input: writing
text, formatting, testing, copying. Each tells what it writes, its exit code, and what it leaves of
the input. Time and files are not modelled: sleeping takes no time, and there are no files but the
empty device.
-/

namespace DpuNetwork.Program

open Text

/-- What a program has done. -/
structure Effect where
  /-- The exit code. -/
  code : UInt8 := 0
  /-- What it writes. -/
  output : List UInt8 := []
  /-- What it reports. -/
  errors : List UInt8 := []

/-- The bytes of a text. -/
def bytes (s : List Char) : List UInt8 := (String.ofList s).toUTF8.toList

/-- The bytes of a line. -/
def line (s : String) : List UInt8 := bytes (s.toList ++ ['\n'])

/-- A program that only reports a fault. -/
def faulty (code : UInt8) (report : String) : Effect := { code, errors := line report }

/-- What an escape behind its backslash stands for. -/
inductive Escape where
  /-- Some bytes. -/
  | bytes (bs : List UInt8)
  /-- The end of all output. -/
  | stop

/-- The value of an octal digit. -/
def octal? (c : Char) : Option Nat := if '0' ≤ c ∧ c ≤ '7' then some (c.toNat - '0'.toNat) else none

/-- The byte of up to `n` octal digits, read on from `acc`, and the rest. -/
def octalByte : Nat → Nat → List Char → UInt8 × List Char
  | 0, acc, s => (acc.toUInt8, s)
  | _ + 1, acc, [] => (acc.toUInt8, [])
  | n + 1, acc, c :: r => match octal? c with
    | some d => octalByte n (acc * 8 + d) r
    | none => (acc.toUInt8, c :: r)

/-- The byte of an escape of one letter. -/
def letterEscape? : Char → Option UInt8
  | 'a' => some 7
  | 'b' => some 8
  | 't' => some 9
  | 'n' => some 10
  | 'v' => some 11
  | 'f' => some 12
  | 'r' => some 13
  | '\\' => some 92
  | _ => none

/-- The byte of one or two hexadecimal digits, and the rest. -/
def hexByte? : List Char → Option (UInt8 × List Char)
  | a :: r => match hexDigit? a with
    | none => none
    | some m => match r with
      | b :: r' => match hexDigit? b with
        | some n => some ((m * 16 + n).toUInt8, r')
        | none => some (m.toUInt8, r)
      | [] => some (m.toUInt8, [])
  | [] => none

/-- Reads an escape behind its backslash. Octal digits may need a leading zero. -/
def escape? (needsZero : Bool) : List Char → Option (Escape × List Char)
  | 'c' :: r => some (.stop, r)
  | c :: r => match letterEscape? c with
    | some b => some (.bytes [b], r)
    | none =>
      if (octal? c).isSome ∧ (!needsZero ∨ c = '0') then
        let (b, r') := octalByte 3 0 (if needsZero then r else c :: r)
        some (.bytes [b], r')
      else none
  | [] => none

/-- A text with its escapes taken for what they stand for, and whether all output ends there. The
bound is the number of characters left. -/
def unescape (needsZero : Bool) : Nat → List (List UInt8) → List Char → List UInt8 × Bool
  | 0, acc, _ => (acc.reverse.flatten, false)
  | n + 1, acc, s =>
    match s with
    | [] => (acc.reverse.flatten, false)
    | '\\' :: r => match escape? needsZero r with
      | some (.bytes bs, r') => unescape needsZero n (bs :: acc) r'
      | some (.stop, _) => (acc.reverse.flatten, true)
      | none => unescape needsZero n ([92] :: acc) r
    | c :: r => unescape needsZero n (bytes [c] :: acc) r

/-- Writes a text, with its escapes taken for what they stand for if so asked. -/
def writeLine (escapes newline : Bool) (args : List (List Char)) : Effect :=
  let text := join ' ' args
  let (bs, stopped) := if escapes then unescape true (text.length + 1) [] text
    else (bytes text, false)
  { output := if newline && !stopped then bs ++ [10] else bs }

/-- Writes its arguments; the option `-n` leaves out the end of the line, `-e` and `-E` turn escapes
on and off. -/
def echo (escapes newline : Bool) : List (List Char) → Effect
  | [] => writeLine escapes newline []
  | arg :: args =>
    match arg with
    | '-' :: c :: r =>
      if (c :: r).all fun c ↦ c == 'n' || c == 'e' || c == 'E' then
        let last := ((c :: r).reverse.find? fun c ↦ c != 'n').getD (if escapes then 'e' else 'E')
        echo (last == 'e') (newline && !(c :: r).contains 'n') args
      else writeLine escapes newline (arg :: args)
    | _ => writeLine escapes newline (arg :: args)

/-- Writes its arguments as the shell does: escapes are always taken for what they stand for. -/
def shellEcho : List (List Char) → Effect
  | ['-', 'n'] :: args => writeLine true false args
  | args => writeLine true true args

/-- How a value is placed in a field. -/
structure FieldStyle where
  /-- To the left of the field. -/
  left : Bool := false
  /-- With zeros in front. -/
  zeros : Bool := false
  /-- The least width of the field. -/
  width : Nat := 0
  /-- The greatest number of characters of a text, or the least number of digits. -/
  precision : Option Nat := none

/-- Reads the flags of a field. -/
def flags (style : FieldStyle) : List Char → FieldStyle × List Char
  | '-' :: r => flags { style with left := true } r
  | '0' :: r => flags { style with zeros := true } r
  | s => (style, s)

/-- Reads the style of a field. -/
def fieldStyle (s : List Char) : FieldStyle × List Char :=
  let (style, s) := flags {} s
  let style := { style with width := Nat.ofDigitChars 10 (s.takeWhile Char.isDigit) 0 }
  match s.dropWhile Char.isDigit with
  | '.' :: r =>
    ({ style with precision := some (Nat.ofDigitChars 10 (r.takeWhile Char.isDigit) 0) },
      r.dropWhile Char.isDigit)
  | r => (style, r)

/-- A value in its field. -/
def FieldStyle.place (f : FieldStyle) (numeric : Bool) (s : List UInt8) : List UInt8 :=
  let gap := f.width - s.length
  if f.left then s ++ List.replicate gap 32
  else if f.zeros && numeric then match s with
    | 45 :: r => 45 :: List.replicate gap 48 ++ r
    | _ => List.replicate gap 48 ++ s
  else List.replicate gap 32 ++ s

/-- The number that an argument denotes: decimal, octal, hexadecimal, or the number of a quoted
character; nothing counts as zero. -/
def integer? (s : List Char) : Option Int :=
  let (negative, s') := match s with
    | '-' :: r => (true, r)
    | '+' :: r => (false, r)
    | _ => (false, s)
  let magnitude : Option Nat := match s' with
    | [] => if s.isEmpty then some 0 else none
    | '0' :: 'x' :: r => if r.isEmpty then none else hexadecimal? 0 r
    | '0' :: r => r.foldlM (fun n c ↦ (octal? c).map (n * 8 + ·)) 0
    | '\'' :: c :: _ => some c.toNat
    | '"' :: c :: _ => some c.toNat
    | r => natural? r
  magnitude.map fun n ↦ if negative then -(n : Int) else n

/-- The digits of an integer for a conversion. -/
def digits? (conversion : Char) (n : Int) : Option (List Char) :=
  let unsigned : Nat := if n < 0 then (n + 0x10000000000000000).toNat else n.toNat
  match conversion with
  | 'd' | 'i' => some ((if n < 0 then ['-'] else []) ++ numeral n.natAbs)
  | 'u' => some (numeral unsigned)
  | 'o' => some (Nat.toDigits 8 unsigned)
  | 'x' => some (Nat.toDigits 16 unsigned)
  | 'X' => some ((Nat.toDigits 16 unsigned).map Char.toUpper)
  | _ => none

/-- How a program words its reports. -/
structure Wording where
  /-- What comes first. -/
  start : String
  /-- What stands around a quoted argument. -/
  quote : String
  /-- What follows an argument that is no number. -/
  noNumber : String
  /-- The report that there is no argument at all, with its exit code. -/
  noArgument : UInt8 × String
  /-- Whether a byte may be given by hexadecimal digits. -/
  hexadecimal : Bool := false

/-- What formatting has come to. -/
structure Formatting where
  /-- What is written, the last part first. -/
  parts : List (List UInt8) := []
  /-- What is reported. -/
  errors : List UInt8 := []
  /-- The arguments that are left. -/
  args : List (List Char)
  /-- Whether an argument was asked for. -/
  asked : Bool := false
  /-- Whether all output ends here. -/
  stopped : Bool := false

/-- Formatting with more written. -/
def Formatting.write (f : Formatting) (bs : List UInt8) : Formatting :=
  { f with parts := bs :: f.parts }

/-- Formats the next argument. -/
def Formatting.convert (f : Formatting) (report : Wording) (style : FieldStyle)
    (conversion : Char) : Formatting :=
  let arg := f.args.headD []
  let f := { f with args := f.args.tail, asked := true }
  match conversion with
  | 's' => f.write (style.place false (match style.precision with
    | some n => (bytes arg).take n
    | none => bytes arg))
  | 'c' => f.write (style.place false ((bytes arg).take 1))
  | 'b' =>
    let (bs, stopped) := unescape true (arg.length + 1) [] arg
    { f.write (style.place false bs) with stopped }
  | _ =>
    let n := integer? arg
    match digits? conversion (n.getD 0) with
    | some ds =>
      let f := f.write (style.place true (bytes ds))
      if n.isSome then f
      else { f with errors := f.errors ++ line (report.start ++ report.quote ++
        String.ofList arg ++ report.quote ++ report.noNumber) }
    | none => { f with stopped := true, errors := f.errors ++ line (report.start ++
        String.ofList ['%', conversion] ++ ": invalid directive") }

/-- Goes through a format once. The bound is the number of characters left. -/
def Formatting.through (report : Wording) : Nat → Formatting → List Char → Formatting
  | 0, f, _ => f
  | n + 1, f, s =>
    if f.stopped then f
    else match s with
      | [] => f
      | '%' :: '%' :: r => through report n (f.write [37]) r
      | '%' :: r => match fieldStyle r with
        | (style, c :: r') => through report n (f.convert report style c) r'
        | (_, []) => f.write [37]
      | '\\' :: r =>
        match (if report.hexadecimal && r.head? == some 'x' then hexByte? r.tail else none) with
        | some (b, r') => through report n (f.write [b]) r'
        | none => match escape? false r with
          | some (.bytes bs, r') => through report n (f.write bs) r'
          | some (.stop, _) => { f with stopped := true }
          | none => through report n (f.write [92]) r
      | c :: r => through report n (f.write (bytes [c])) r

/-- Goes through a format until no argument is left. -/
def Formatting.repeated (report : Wording) (format : List Char) : Nat → Formatting → Formatting
  | 0, f => f
  | n + 1, f =>
    let f := f.through report (format.length + 1) format
    if f.stopped || f.args.isEmpty || !f.asked then f else repeated report format n f

/-- Writes its arguments in a format, which is used again while arguments are left. -/
def printf (report : Wording) : List (List Char) → Effect
  | [] => faulty report.noArgument.1 (report.start ++ report.noArgument.2)
  | format :: args =>
    let f := Formatting.repeated report format (args.length + 1) { args }
    { code := if f.errors.isEmpty then 0 else 1, output := f.parts.reverse.flatten,
      errors := f.errors }

/-- The places that a test knows: whether they are directories. -/
def knownPlace? (path : List Char) : Option Bool :=
  match String.ofList path with
  | "/" | "/dev" | "/etc" | "/tmp" | "/usr" | "/bin" => some true
  | "/dev/null" | "/etc/passwd" | "/bin/sh" => some false
  | _ => none

/-- The outcome of a test; `none` is a fault. -/
def test? : List (List Char) → Option Bool
  | [] => some false
  | [s] => some !s.isEmpty
  | ['!'] :: r => match r with
    | [] => some true
    | [s] => some s.isEmpty
    | [o, s] => (unary? o s).map (!·)
    | [a, o, b] => (binary? a o b).map (!·)
    | _ => none
  | [o, s] => unary? o s
  | [a, o, b] => binary? a o b
  | _ => none
where
  /-- The outcome of a test of one operand. -/
  unary? (o s : List Char) : Option Bool :=
    match String.ofList o with
    | "-n" => some !s.isEmpty
    | "-z" => some s.isEmpty
    | "-d" => some (knownPlace? s == some true)
    | "-f" => some (knownPlace? s == some false && s != "/dev/null".toList)
    | "-e" => some (knownPlace? s).isSome
    | "-t" => some false
    | _ => none
  /-- The outcome of a test of two operands. -/
  binary? (a o b : List Char) : Option Bool :=
    let compare (p : Int → Int → Bool) : Option Bool := do return p (← number? a) (← number? b)
    match String.ofList o with
    | "=" | "==" => some (a == b)
    | "!=" => some (a != b)
    | "-eq" => compare (· == ·)
    | "-ne" => compare (· != ·)
    | "-lt" => compare (· < ·)
    | "-le" => compare (· ≤ ·)
    | "-gt" => compare (· > ·)
    | "-ge" => compare (· ≥ ·)
    | _ => none
  /-- The integer that an operand denotes. -/
  number? (s : List Char) : Option Int :=
    match s with
    | '-' :: r => (natural? r).map fun n ↦ -(n : Int)
    | '+' :: r => (natural? r).map Int.ofNat
    | _ => (natural? s).map Int.ofNat

/-- The numbers between two numbers, one to a line. -/
def numbers : List Nat → List UInt8
  | [low, high] => (List.range' low (high + 1 - low)).flatMap fun n ↦ bytes (numeral n ++ ['\n'])
  | _ => []

/-- Copies its input, or the named files one after the other. -/
def cat (input : List UInt8) (args : List (List Char)) : Effect :=
  if args.isEmpty then { output := input }
  else
    let add (e : Effect) (file : List Char) : Effect :=
      let name := String.ofList file
      if name == "-" || name == "/dev/stdin" then { e with output := e.output ++ input }
      else if name == "/dev/null" then e
      else
        let reason := if knownPlace? file == some true then "Is a directory"
          else "No such file or directory"
        { e with code := 1, errors := e.errors ++ line ("cat: " ++ name ++ ": " ++ reason) }
    args.foldl add {}

/-- Whether a text is a duration: a number with an optional fraction and unit. -/
def isDuration (s : List Char) : Bool :=
  let number := s.takeWhile fun c ↦ c.isDigit || c == '.'
  let rest := s.drop number.length
  number.any Char.isDigit && number.count '.' ≤ 1 &&
    (rest.isEmpty || rest == ['s'] || rest == ['m'] || rest == ['h'] || rest == ['d'])

/-- Waits. -/
def sleep (args : List (List Char)) : Effect :=
  let hint := "Try 'sleep --help' for more information."
  if args.isEmpty then { code := 1, errors := line "sleep: missing operand" ++ line hint }
  else match args.filter fun a ↦ !isDuration a with
    | [] => {}
    | bad => { code := 1, errors := (bad.flatMap fun a ↦
        line ("sleep: invalid time interval '" ++ String.ofList a ++ "'")) ++ line hint }

/-- How the program that formats words its reports. -/
def printfWording : Wording where
  start := "printf: "
  quote := "'"
  noNumber := ": expected a numeric value"
  noArgument := (1, "missing operand\nTry 'printf --help' for more information.")
  hexadecimal := true

/-- What a program outside the shell does, by its name; `none` says that there is no such
program. -/
def program? (name : String) (input : List UInt8) (args : List (List Char)) : Option Effect :=
  match name with
  | "true" => some {}
  | "false" => some { code := 1 }
  | "echo" => some (echo false true args)
  | "printf" => some (printf printfWording args)
  | "cat" => some (cat input args)
  | "sleep" => some (sleep args)
  | "test" => some (match test? args with
    | some true => {}
    | some false => { code := 1 }
    | none => faulty 2 "test: unexpected operator")
  | "seq" => match args.mapM natural? with
    | some [n] => some { output := numbers [1, n] }
    | some [a, b] => some { output := numbers [a, b] }
    | _ => some (faulty 1 "seq: invalid operand")
  | _ => none

end DpuNetwork.Program
