import RouteMigration.Text.Blank
import RouteMigration.Text.Lines

/-!
# Layout

Text that moves to a line with another indentation takes its own lines along: every line break in it is
followed by the indentation that was there, more or less the shift.
-/

namespace RouteMigration.Syntax.Layout

/-- The indentation of `width` columns after a shift. -/
def shifted (shift : Int) (width : Nat) : List Char :=
  List.replicate (width + shift).toNat ' '

/-- Indents the lines anew that begin in the text; a line of nothing but spaces and tabs stays as it
is when another line follows. With `dropping` the text starts in an indentation that has been replaced
already. -/
def shiftLines (shift : Int) (dropping : Bool) : List Char → List Char
  | [] => []
  | c :: rest =>
    if dropping && Text.isIndentation c then shiftLines shift true rest
    else if c = '\n' then
      let run := rest.takeWhile Text.isIndentation
      if (rest.drop run.length).head? = some '\n' then c :: shiftLines shift false rest
      else c :: shifted shift (Text.expandedWidth run) ++ shiftLines shift true rest
    else c :: shiftLines shift false rest

def shiftText (shift : Int) (text : String) : String :=
  if shift = 0 then text else String.ofList (shiftLines shift false text.toList)

/-- The indentation of the line that a text ends in. -/
def column (text : String) : Nat :=
  Text.indentation (Text.lastLine text.toList)

end RouteMigration.Syntax.Layout
