/-!
# Blank characters

The characters with the Unicode property `White_Space`, and trimming by them. Text that people
write (configuration values, device files, error output) is trimmed by this class; the formats that
name their own white space (JSON, TOML) do not use it. The class of the core library,
`Char.isWhitespace`, holds fewer characters.
-/

namespace DpuNetwork.Text

/-- The property `White_Space`: the controls from tab to carriage return, next line, and the
spaces and separators of the general categories `Zs`, `Zl` and `Zp`. -/
def isBlank (c : Char) : Bool :=
  let n := c.toNat
  (0x09 ≤ n && n ≤ 0x0D) || n == 0x20 || n == 0x85 || n == 0xA0 || n == 0x1680 ||
    (0x2000 ≤ n && n ≤ 0x200A) || n == 0x2028 || n == 0x2029 || n == 0x202F || n == 0x205F ||
    n == 0x3000

/-- A text without its leading blanks. -/
def trimStart (s : List Char) : List Char := s.dropWhile isBlank

/-- A text without its trailing blanks. -/
def trimEnd (s : List Char) : List Char := (trimStart s.reverse).reverse

/-- A text without its leading and trailing blanks. -/
def trim (s : List Char) : List Char := trimEnd (trimStart s)

@[simp] theorem trim_nil : trim [] = [] := rfl

end DpuNetwork.Text
