/-!
# Blank characters

Two notions of blank: indentation is made of spaces and tabs, while the end of a line is trimmed of
every character that Unicode counts as white space, together with the separators among the control
characters.
-/

namespace RouteMigration.Text

/-- Spaces and tabs, which indent a line. -/
def isIndentation (c : Char) : Bool :=
  c = ' ' || c = '\t'

/-- White space of any kind. -/
def isBlank (c : Char) : Bool :=
  let n := c.toNat
  (9 ≤ n && n ≤ 13) || (28 ≤ n && n ≤ 32) || n = 0x85 || n = 0xa0 || n = 0x1680 ||
    (0x2000 ≤ n && n ≤ 0x200a) || n = 0x2028 || n = 0x2029 || n = 0x202f || n = 0x205f || n = 0x3000

/-- The text without the white space at its end. -/
def trimEnd (s : List Char) : List Char :=
  (s.reverse.dropWhile isBlank).reverse

/-- The number of spaces and tabs that a line starts with. -/
def indentation (line : List Char) : Nat :=
  (line.takeWhile isIndentation).length

/-- The column reached after a run of spaces and tabs, where tab stops lie `4` apart. -/
def expandedWidth (run : List Char) : Nat :=
  run.foldl (fun column c => if c = '\t' then (column / 4 + 1) * 4 else column + 1) 0

end RouteMigration.Text
