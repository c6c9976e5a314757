import RouteMigration.Text.Printable

/-!
# Quoted text in messages

A message shows a piece of text between quotes, with everything that would not be visible escaped:
single quotes unless the text holds one and no double quote.
-/

namespace RouteMigration.Text

/-- Lower-case hexadecimal digits, filled up with zeros to `width`. -/
def hexadecimal (width n : Nat) : List Char :=
  let digits := Nat.toDigits 16 n
  List.replicate (width - digits.length) '0' ++ digits

/-- A character written by its code point, in the shortest of the three forms that holds it. -/
def escapeCodePoint (c : Char) : List Char :=
  let n := c.toNat
  if n ≤ 0xff then '\\' :: 'x' :: hexadecimal 2 n
  else if n ≤ 0xffff then '\\' :: 'u' :: hexadecimal 4 n
  else '\\' :: 'U' :: hexadecimal 8 n

def escapeQuoted (quote c : Char) : List Char :=
  if c = quote ∨ c = '\\' then ['\\', c]
  else if c = '\n' then ['\\', 'n']
  else if c = '\r' then ['\\', 'r']
  else if c = '\t' then ['\\', 't']
  else if isPrintable c then [c]
  else escapeCodePoint c

/-- The quote that needs fewer escapes; a single quote when both occur. -/
def quoteFor (s : List Char) : Char :=
  if s.contains '\'' && !s.contains '"' then '"' else '\''

def quoted (s : String) : String :=
  let quote := quoteFor s.toList
  String.ofList (quote :: s.toList.flatMap (escapeQuoted quote) ++ [quote])

end RouteMigration.Text
