import RouteMigration.Text.Quoted

/-!
# UTF-8

Text on disk is a sequence of bytes. Decoding stops at the first sequence that is not well formed and
says which bytes are at fault: a byte that starts nothing, a byte that does not continue what was
started, or an end of the data in the middle of a character.
-/

namespace RouteMigration.Text.Utf8

inductive Cause where
  | invalidStart
  | invalidContinuation
  | unexpectedEnd
  deriving DecidableEq, Repr

def Cause.message : Cause → String
  | .invalidStart => "invalid start byte"
  | .invalidContinuation => "invalid continuation byte"
  | .unexpectedEnd => "unexpected end of data"

/-- The bytes at fault: their position, the first of them and their number. -/
structure Fault where
  position : Nat
  byte : UInt8
  count : Nat
  cause : Cause
  deriving DecidableEq, Repr

def Fault.message (fault : Fault) : String :=
  if fault.count = 1 then
    let byte := String.ofList (hexadecimal 2 fault.byte.toNat)
    s!"'utf-8' codec can't decode byte 0x{byte} in position {fault.position}: {fault.cause.message}"
  else
    let last := fault.position + fault.count - 1
    s!"'utf-8' codec can't decode bytes in position {fault.position}-{last}: {fault.cause.message}"

def encodeChar (c : Char) : List UInt8 :=
  let n := c.toNat
  if n < 0x80 then [n.toUInt8]
  else if n < 0x800 then [(0xc0 + n / 0x40).toUInt8, (0x80 + n % 0x40).toUInt8]
  else if n < 0x10000 then
    [(0xe0 + n / 0x1000).toUInt8, (0x80 + n / 0x40 % 0x40).toUInt8, (0x80 + n % 0x40).toUInt8]
  else
    [(0xf0 + n / 0x40000).toUInt8, (0x80 + n / 0x1000 % 0x40).toUInt8,
      (0x80 + n / 0x40 % 0x40).toUInt8, (0x80 + n % 0x40).toUInt8]

def encode (s : List Char) : List UInt8 :=
  s.flatMap encodeChar

def continues (b : UInt8) : Bool :=
  0x80 ≤ b && b < 0xc0

/-- Whether `b` may be the second byte after `first`: this leaves out the longer spellings of a
character, the surrogates and what lies beyond the last code point. -/
def continuesFirst (first b : UInt8) : Bool :=
  continues b &&
    if first = 0xe0 then 0xa0 ≤ b
    else if first = 0xed then b < 0xa0
    else if first = 0xf0 then 0x90 ≤ b
    else if first = 0xf4 then b < 0x90
    else true

/-- The number of bytes that `first` announces; none when it starts no character. -/
def announced (first : UInt8) : Option Nat :=
  if first < 0x80 then some 1
  else if first < 0xc2 then none
  else if first < 0xe0 then some 2
  else if first < 0xf0 then some 3
  else if first < 0xf5 then some 4
  else none

/-- The code point spelled by a complete sequence. -/
def codePoint (first : UInt8) (following : List UInt8) : Nat :=
  let head := match following.length with
    | 0 => first.toNat
    | 1 => first.toNat - 0xc0
    | 2 => first.toNat - 0xe0
    | _ => first.toNat - 0xf0
  following.foldl (fun n b => n * 0x40 + (b.toNat - 0x80)) head

/-- The number of bytes after `first` that continue it, of at most `wanted`. -/
def continuing (first : UInt8) (wanted : Nat) (rest : List UInt8) : Nat :=
  match rest.take wanted with
  | [] => 0
  | b :: more => if continuesFirst first b then 1 + (more.takeWhile continues).length else 0

/-- One character from the front of the bytes, and how many bytes it took. -/
def decodeChar (position : Nat) (first : UInt8) (rest : List UInt8) : Except Fault (Char × Nat) :=
  match announced first with
  | none => .error ⟨position, first, 1, .invalidStart⟩
  | some size =>
    let good := continuing first (size - 1) rest
    if good = size - 1 then .ok (Char.ofNat (codePoint first (rest.take good)), size)
    else if good = rest.length then .error ⟨position, first, good + 1, .unexpectedEnd⟩
    else .error ⟨position, first, good + 1, .invalidContinuation⟩

def decodeFrom (position : Nat) (bytes : List UInt8) : Except Fault (List Char) :=
  match bytes with
  | [] => .ok []
  | first :: rest => do
    let (c, size) ← decodeChar position first rest
    let more ← decodeFrom (position + size) (rest.drop (size - 1))
    return c :: more
termination_by bytes.length
decreasing_by simp only [List.length_drop, List.length_cons]; omega

def decode (bytes : List UInt8) : Except Fault (List Char) :=
  decodeFrom 0 bytes

end RouteMigration.Text.Utf8
