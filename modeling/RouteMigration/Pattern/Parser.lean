import RouteMigration.Pattern.Basic

/-!
# Reading patterns

A pattern is written as a regular expression: `^`, `$` and `\b` stand for places, `.` and a bracketed
set for characters, `|` separates alternatives, parentheses group, and `*`, `+` and `?` repeat what
stands before them. The reader takes one character at a time; a fault names the place in the expression
where it got stuck.
-/

namespace RouteMigration.Pattern

inductive Cause where
  | missingParenthesis
  | unbalancedParenthesis
  | unterminatedSet
  | nothingToRepeat
  | multipleRepeat
  | badRange (low high : Char)
  | badEscape (c : Char)
  | lonelyEscape
  | unknownExtension (c : Char)
  | unexpectedEnd
  deriving DecidableEq, Repr

def Cause.message : Cause → String
  | .missingParenthesis => "missing ), unterminated subpattern"
  | .unbalancedParenthesis => "unbalanced parenthesis"
  | .unterminatedSet => "unterminated character set"
  | .nothingToRepeat => "nothing to repeat"
  | .multipleRepeat => "multiple repeat"
  | .badRange low high => s!"bad character range {low}-{high}"
  | .badEscape c => s!"bad escape \\{c}"
  | .lonelyEscape => "bad escape (end of pattern)"
  | .unknownExtension c => s!"unknown extension ?{c}"
  | .unexpectedEnd => "unexpected end of pattern"

structure Fault where
  cause : Cause
  position : Nat
  deriving DecidableEq, Repr

/-- A fault in an expression of several lines also tells the line and the column. -/
def Fault.message (fault : Fault) (expression : String) : String :=
  let text := s!"{fault.cause.message} at position {fault.position}"
  if expression.toList.contains '\n' then
    let before := expression.toList.take fault.position
    let line := before.count '\n' + 1
    let column := (before.reverse.takeWhile (· ≠ '\n')).length + 1
    s!"{text} (line {line}, column {column})"
  else text

/-- Whether a repetition may follow. -/
inductive Repeatable where
  | nothing
  | item
  /-- A repetition stands there already; `marked` when it is marked as lazy, too. -/
  | repetition (marked : Bool)
  deriving DecidableEq, Repr

/-- A group that is still open. Alternatives and items are kept in reverse order. -/
structure Group where
  /-- Where the parenthesis stands that opened the group. -/
  opened : Nat
  alternatives : List Pattern := []
  items : List Pattern := []
  deriving Repr

def Group.alternative (group : Group) : Pattern :=
  group.items.foldl (fun later item => .sequence item later) .empty

def Group.close (group : Group) : Pattern :=
  group.alternatives.foldl (fun right left => .either left right) group.alternative

/-- A bracketed set that is still open. -/
structure OpenSet where
  opened : Nat
  negated : Bool := false
  /-- The bracket or the mark of negation was the last character read. -/
  isEmpty : Bool := true
  items : List (Char × Char) := []
  /-- A character that may begin a range, and where it stands. -/
  low : Option (Char × Nat) := none
  dashed : Bool := false
  deriving Repr

def OpenSet.close (set : OpenSet) : CharacterSet :=
  let last := set.low.toList.map fun (c, _) => (c, c)
  let dash := if set.dashed then [('-', '-')] else []
  .ranges set.negated (set.items ++ last ++ dash)

/-- The set with one more member, which stands at `position`. -/
def OpenSet.add (set : OpenSet) (c : Char) (position : Nat) : Except Fault OpenSet :=
  match set.low, set.dashed with
  | some (low, at_), true =>
    if c < low then .error ⟨.badRange low c, at_⟩
    else .ok { set with isEmpty := false, items := set.items ++ [(low, c)], low := none, dashed := false }
  | some (low, _), false =>
    .ok { set with isEmpty := false, items := set.items ++ [(low, low)], low := some (c, position) }
  | none, _ => .ok { set with isEmpty := false, low := some (c, position) }

/-- What the next character belongs to. -/
inductive Mode where
  | plain
  | escape
  | groupStart
  | groupExtension
  | set (set : OpenSet)
  | setEscape (set : OpenSet)
  deriving Repr

structure Reading where
  position : Nat := 0
  mode : Mode := .plain
  repeatable : Repeatable := .nothing
  /-- The innermost group. -/
  group : Group := { opened := 0 }
  outer : List Group := []
  deriving Repr

namespace Reading

def push (reading : Reading) (item : Pattern) (repeatable : Repeatable) : Reading :=
  { reading with
    mode := .plain
    repeatable
    group := { reading.group with items := item :: reading.group.items } }

/-- The last item with a repetition around it. -/
def repeatLast (reading : Reading) (wrap : Pattern → Pattern) : Except Fault Reading :=
  match reading.repeatable, reading.group.items with
  | .item, last :: items =>
    .ok { reading with
      repeatable := .repetition false
      group := { reading.group with items := wrap last :: items } }
  | .repetition _, _ => .error ⟨.multipleRepeat, reading.position⟩
  | _, _ => .error ⟨.nothingToRepeat, reading.position⟩

def closeGroup (reading : Reading) : Except Fault Reading :=
  match reading.outer with
  | [] => .error ⟨.unbalancedParenthesis, reading.position⟩
  | around :: outer =>
    .ok { reading with
      repeatable := .item
      group := { around with items := reading.group.close :: around.items }
      outer }

def openGroup (reading : Reading) (opened : Nat) : Reading :=
  { reading with
    mode := .plain
    repeatable := .nothing
    group := { opened }
    outer := reading.group :: reading.outer }

def readPlain (reading : Reading) (c : Char) : Except Fault Reading :=
  match c with
  | '\\' => .ok { reading with mode := .escape }
  | '(' => .ok { reading with mode := .groupStart }
  | ')' => reading.closeGroup
  | '[' => .ok { reading with mode := .set { opened := reading.position } }
  | '|' =>
    let group := reading.group
    .ok { reading with
      repeatable := .nothing
      group := { group with alternatives := group.alternative :: group.alternatives, items := [] } }
  | '.' => .ok (reading.push (.character .any) .item)
  | '^' => .ok (reading.push .start .nothing)
  | '$' => .ok (reading.push .finish .nothing)
  | '*' => reading.repeatLast .repeated
  | '+' => reading.repeatLast fun item => .sequence item (.repeated item)
  | '?' =>
    if reading.repeatable = .repetition false then
      .ok { reading with repeatable := .repetition true }
    else reading.repeatLast .optional
  | c => .ok (reading.push (.character (.single c)) .item)

/-- A character that a backslash leaves as it is, or that a letter there names. -/
def escaped (c : Char) : Option Char :=
  if c = 'n' then some '\n'
  else if c = 't' then some '\t'
  else if c = 'r' then some '\r'
  else if c.isAlphanum then none
  else some c

def readEscape (reading : Reading) (c : Char) : Except Fault Reading :=
  if c = 'b' then .ok (reading.push (.boundary false) .nothing)
  else if c = 'B' then .ok (reading.push (.boundary true) .nothing)
  else match escaped c with
    | some d => .ok (reading.push (.character (.single d)) .item)
    | none => .error ⟨.badEscape c, reading.position - 1⟩

def readSet (reading : Reading) (set : OpenSet) (c : Char) : Except Fault Reading := do
  if c = '^' && set.isEmpty && !set.negated then
    return { reading with mode := .set { set with negated := true } }
  else if c = ']' && !set.isEmpty then
    return reading.push (.character set.close) .item
  else if c = '\\' then
    return { reading with mode := .setEscape set }
  else if c = '-' && set.low.isSome && !set.dashed then
    return { reading with mode := .set { set with dashed := true } }
  else
    return { reading with mode := .set (← set.add c reading.position) }

/-- One more character of the expression. -/
def read (reading : Reading) (c : Char) : Except Fault Reading := do
  let next ← match reading.mode with
    | .plain => reading.readPlain c
    | .escape => reading.readEscape c
    | .groupStart =>
      if c = '?' then .ok { reading with mode := .groupExtension }
      else (reading.openGroup (reading.position - 1)).readPlain c
    | .groupExtension =>
      if c = ':' then .ok (reading.openGroup (reading.position - 2))
      else .error ⟨.unknownExtension c, reading.position - 1⟩
    | .set set => reading.readSet set c
    | .setEscape set =>
      match escaped c with
      | some d => do
        let set ← set.add d (reading.position - 1)
        .ok { reading with mode := .set set }
      | none => .error ⟨.badEscape c, reading.position - 1⟩
  return { next with position := reading.position + 1 }

/-- The pattern, once the expression has been read to its end. -/
def result (reading : Reading) : Except Fault Pattern :=
  match reading.mode with
  | .escape => .error ⟨.lonelyEscape, reading.position - 1⟩
  | .groupStart => .error ⟨.missingParenthesis, reading.position - 1⟩
  | .groupExtension => .error ⟨.unexpectedEnd, reading.position⟩
  | .set set => .error ⟨.unterminatedSet, set.opened⟩
  | .setEscape _ => .error ⟨.lonelyEscape, reading.position - 1⟩
  | .plain =>
    match reading.outer with
    | [] => .ok reading.group.close
    | _ :: _ => .error ⟨.missingParenthesis, reading.group.opened⟩

end Reading

def ofExpression (expression : String) : Except Fault Pattern := do
  let reading ← expression.toList.foldlM Reading.read {}
  reading.result

end RouteMigration.Pattern
