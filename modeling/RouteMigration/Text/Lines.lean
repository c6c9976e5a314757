/-!
# Lines of text

Text read from a file has one kind of line end. A diff, on the other hand, sees the lines of a text as
they are: each keeps the characters that end it, and these may be any of the line boundaries of Unicode.
-/

namespace RouteMigration.Text

/-- Each of the three conventions for a line end becomes a line feed. -/
def unifyLineEnds : List Char → List Char
  | [] => []
  | '\r' :: '\n' :: rest => '\n' :: unifyLineEnds rest
  | c :: rest => (if c = '\r' then '\n' else c) :: unifyLineEnds rest

def isLineEnd (c : Char) : Bool :=
  let n := c.toNat
  (10 ≤ n && n ≤ 13) || (28 ≤ n && n ≤ 30) || n = 0x85 || n = 0x2028 || n = 0x2029

/-- The lines of a text with their ends. A carriage return and a line feed end one line together, and
the last line need not end. -/
def lines : List Char → List (List Char)
  | [] => []
  | '\r' :: '\n' :: rest => ['\r', '\n'] :: lines rest
  | c :: rest =>
    if isLineEnd c then [c] :: lines rest
    else match lines rest with
      | [] => [[c]]
      | line :: more => (c :: line) :: more

/-- The part after the last line feed. -/
def lastLine (s : List Char) : List Char :=
  (s.reverse.takeWhile (· ≠ '\n')).reverse

end RouteMigration.Text
