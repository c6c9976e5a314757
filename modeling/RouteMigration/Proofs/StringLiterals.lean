import Mathlib.Data.List.Basic
import Mathlib.Tactic.Common
import RouteMigration.Grammar.Token
import RouteMigration.Syntax.Printer

/-!
# String literals

What a string literal denotes: a sequence of UTF-16 code units, in which an escape counts for less than it is written
with. A printed literal escapes every backslash, so that it denotes the text that it was made from, and not what that
text denotes between quotes.
-/

namespace RouteMigration.Proofs
open Syntax Printer

/-- The code units of a code point. -/
def codeUnits (n : Nat) : List Nat :=
  if n < 0x10000 then [n] else [0xd800 + (n - 0x10000) / 0x400, 0xdc00 + (n - 0x10000) % 0x400]

/-- The code units of a text that stands for itself. -/
def unitsOf (text : List Char) : List Nat :=
  text.flatMap fun c => codeUnits c.toNat

def digitValue (c : Char) : Nat :=
  if c.isDigit then c.toNat - '0'.toNat else (c.toNat - 'A'.toNat) % 32 + 10

/-- The number that the digits of a base spell. -/
def numeral (base : Nat) (digits : List Char) : Nat :=
  digits.foldl (fun n digit => base * n + digitValue digit) 0

/-- Letters that stand for a control character behind a backslash. -/
def mnemonics : List (Char × Nat) :=
  [('b', 8), ('t', 9), ('n', 10), ('v', 11), ('f', 12), ('r', 13)]

/-- Line ends that a literal goes on after. -/
def continuations : List (List Char) :=
  [['\n'], ['\r'], ['\r', '\n'], ['\u2028'], ['\u2029']]

/-- Characters that do not stand for themselves behind a backslash. -/
def isMeaningful (c : Char) : Bool :=
  "xu01234567btnvfr\n\r\u2028\u2029".toList.contains c

/-- What follows a backslash, with the code units that it stands for. -/
inductive Escape : List Char → List Nat → Prop where
  | mnemonic {c : Char} {unit : Nat} : (c, unit) ∈ mnemonics → Escape [c] [unit]
  | itself {c : Char} : isMeaningful c = false → Escape [c] (codeUnits c.toNat)
  | octal {digits : List Char} : digits ≠ [] → digits.length ≤ 3 → (∀ c ∈ digits, c ∈ "01234567".toList) →
      Escape digits [numeral 8 digits]
  | hexadecimal {digits : List Char} : digits.length = 2 → (∀ c ∈ digits, Grammar.isHexDigit c = true) →
      Escape ('x' :: digits) [numeral 16 digits]
  | unit {digits : List Char} : digits.length = 4 → (∀ c ∈ digits, Grammar.isHexDigit c = true) →
      Escape ('u' :: digits) [numeral 16 digits]
  | codePoint {digits : List Char} : digits ≠ [] → (∀ c ∈ digits, Grammar.isHexDigit c = true) →
      numeral 16 digits ≤ 0x10ffff → Escape ('u' :: '\x7b' :: digits ++ ['\x7d']) (codeUnits (numeral 16 digits))
  | continuation {ending : List Char} : ending ∈ continuations → Escape ending []

/-- What the text between the quotes of a literal denotes. -/
inductive Denotes : List Char → List Nat → Prop where
  | nil : Denotes [] []
  | plain {c : Char} {rest : List Char} {units : List Nat} : c ≠ '\\' → Denotes rest units →
      Denotes (c :: rest) (codeUnits c.toNat ++ units)
  | escape {sequence rest : List Char} {value units : List Nat} : Escape sequence value → Denotes rest units →
      Denotes ('\\' :: (sequence ++ rest)) (value ++ units)

/-- The text that a literal shows between its quotes for a value. -/
def escapedBy (quote : Char) (value : List Char) : List Char :=
  value.flatMap fun c => if c = '\\' ∨ c = quote then ['\\', c] else [c]

lemma quotedString_eq (quote : Char) (value : String) :
    quotedString quote value = String.ofList (quote :: escapedBy quote value.toList ++ [quote]) :=
  rfl

/-! ### Lengths -/

lemma length_codeUnits (n : Nat) : 0 < (codeUnits n).length ∧ (codeUnits n).length ≤ 2 := by
  unfold codeUnits
  split <;> simp

lemma unitsOf_cons (c : Char) (text : List Char) : unitsOf (c :: text) = codeUnits c.toNat ++ unitsOf text :=
  List.flatMap_cons

lemma unitsOf_append (text rest : List Char) : unitsOf (text ++ rest) = unitsOf text ++ unitsOf rest :=
  List.flatMap_append

lemma length_le_unitsOf (text : List Char) : text.length ≤ (unitsOf text).length := by
  induction text with
  | nil => exact Nat.le_refl _
  | cons c text ih =>
    have hunits := (length_codeUnits c.toNat).1
    rw [unitsOf_cons, List.length_append, List.length_cons]
    omega

/-- An escape is written with as many code units as it stands for, besides its backslash. -/
lemma Escape.length_le {sequence : List Char} {value : List Nat} (h : Escape sequence value) :
    value.length ≤ (unitsOf sequence).length := by
  have hle := length_le_unitsOf sequence
  cases h with
  | mnemonic _ | hexadecimal _ _ | unit _ _ => exact Nat.le_trans (by simp) hle
  | itself _ => simp [unitsOf]
  | octal hne _ _ => exact Nat.le_trans (List.length_pos_iff.mpr hne) hle
  | @codePoint digits _ _ _ =>
    refine Nat.le_trans (length_codeUnits _).2 (Nat.le_trans ?_ hle)
    simp
  | continuation _ => exact Nat.zero_le _

lemma Denotes.length_le {text : List Char} {units : List Nat} (h : Denotes text units) :
    units.length ≤ (unitsOf text).length := by
  induction h with
  | nil => exact Nat.le_refl _
  | plain _ _ ih =>
    rw [unitsOf_cons, List.length_append, List.length_append]
    omega
  | escape hescape _ ih =>
    have hvalue := hescape.length_le
    rw [unitsOf_cons, unitsOf_append, List.length_append, List.length_append, List.length_append]
    omega

/-- A text with an escape denotes less than it is written with. -/
lemma Denotes.length_lt {text : List Char} {units : List Nat} (h : Denotes text units) (hescape : '\\' ∈ text) :
    units.length < (unitsOf text).length := by
  induction h with
  | nil => cases hescape
  | plain hne _ ih =>
    have hrest := ih ((List.mem_cons.mp hescape).resolve_left (Ne.symm hne))
    rw [unitsOf_cons, List.length_append, List.length_append]
    omega
  | escape hsequence hrest _ =>
    have hvalue := hsequence.length_le
    have hunits := hrest.length_le
    have hbackslash := (length_codeUnits '\\'.toNat).1
    rw [unitsOf_cons, unitsOf_append, List.length_append, List.length_append, List.length_append]
    omega

/-! ### Values -/

/-- A character other than a backslash denotes itself. -/
lemma denotes_cons {c : Char} (hc : c ≠ '\\') {rest : List Char} {units : List Nat} :
    Denotes (c :: rest) units ↔ ∃ value, Denotes rest value ∧ units = codeUnits c.toNat ++ value := by
  constructor
  · intro h
    generalize htext : c :: rest = text at h
    cases h with
    | nil => cases htext
    | plain _ hrest =>
      obtain ⟨rfl, rfl⟩ := List.cons.inj htext
      exact ⟨_, hrest, rfl⟩
    | escape _ _ => exact absurd (List.cons.inj htext).1 hc
  · rintro ⟨value, hrest, rfl⟩
    exact .plain hc hrest

/-- What follows a backslash is a character that stands for itself, or starts with one that does not. -/
lemma Escape.cases_head {sequence : List Char} {value : List Nat} (h : Escape sequence value) :
    (∃ c, sequence = [c] ∧ value = codeUnits c.toNat) ∨ ∃ c rest, sequence = c :: rest ∧ isMeaningful c = true := by
  cases h with
  | @mnemonic c _ hmem =>
    refine .inr ⟨c, [], rfl, ?_⟩
    simp only [mnemonics, List.mem_cons, Prod.mk.injEq, List.not_mem_nil, or_false] at hmem
    rcases hmem with ⟨rfl, -⟩ | ⟨rfl, -⟩ | ⟨rfl, -⟩ | ⟨rfl, -⟩ | ⟨rfl, -⟩ | ⟨rfl, -⟩ <;> decide
  | itself _ => exact .inl ⟨_, rfl, rfl⟩
  | octal hne _ hdigits =>
    cases sequence with
    | nil => exact absurd rfl hne
    | cons c rest =>
      refine .inr ⟨c, rest, rfl, ?_⟩
      have hsubset : "01234567".toList ⊆ "xu01234567btnvfr\n\r\u2028\u2029".toList := by decide
      exact List.contains_iff_mem.mpr (hsubset (hdigits c List.mem_cons_self))
  | hexadecimal _ _ => exact .inr ⟨'x', _, rfl, by decide⟩
  | unit _ _ => exact .inr ⟨'u', _, rfl, by decide⟩
  | codePoint _ _ _ => exact .inr ⟨'u', _, rfl, by decide⟩
  | continuation hmem =>
    refine .inr ?_
    simp only [continuations, List.mem_cons, List.not_mem_nil, or_false] at hmem
    rcases hmem with rfl | rfl | rfl | rfl | rfl <;> exact ⟨_, _, rfl, by decide⟩

/-- A backslash does not show in what is denoted if the character behind it stands for itself. -/
lemma denotes_escape {c : Char} (hc : isMeaningful c = false) {rest : List Char} {units : List Nat} :
    Denotes ('\\' :: c :: rest) units ↔ ∃ value, Denotes rest value ∧ units = codeUnits c.toNat ++ value := by
  constructor
  · intro h
    generalize htext : '\\' :: c :: rest = text at h
    cases h with
    | nil => cases htext
    | plain hne _ => exact absurd (List.cons.inj htext).1.symm hne
    | escape hescape hrest =>
      have htail := (List.cons.inj htext).2
      rcases hescape.cases_head with ⟨d, rfl, rfl⟩ | ⟨d, tail, rfl, hmeaningful⟩
      · obtain ⟨rfl, rfl⟩ := List.cons.inj htail
        exact ⟨_, hrest, rfl⟩
      · rw [← (List.cons.inj htail).1, hc] at hmeaningful
        cases hmeaningful
  · rintro ⟨value, hrest, rfl⟩
    exact .escape (.itself hc) hrest

lemma denotes_nil {units : List Nat} : Denotes [] units ↔ units = [] :=
  ⟨fun h => by cases h; rfl, fun h => h ▸ .nil⟩

/-- A text without escapes denotes itself. -/
lemma denotes_of_plain {text : List Char} (h : '\\' ∉ text) {units : List Nat} :
    Denotes text units ↔ units = unitsOf text := by
  induction text generalizing units with
  | nil => exact denotes_nil
  | cons c text ih =>
    rw [List.mem_cons, not_or] at h
    simp only [denotes_cons (Ne.symm h.1), ih h.2, exists_eq_left, unitsOf_cons]

/-- An escaped text denotes what is written without the escapes. -/
lemma denotes_escapedBy {quote : Char} (hquote : quote = '\'' ∨ quote = '"') {text : List Char} {units : List Nat} :
    Denotes (escapedBy quote text) units ↔ units = unitsOf text := by
  have hplain {c : Char} (hc : c = '\\' ∨ c = quote) : isMeaningful c = false := by
    rcases hc with rfl | rfl
    · decide
    · rcases hquote with rfl | rfl <;> decide
  induction text generalizing units with
  | nil => exact denotes_nil
  | cons c text ih =>
    have hcons : escapedBy quote (c :: text) =
        (if c = '\\' ∨ c = quote then ['\\', c] else [c]) ++ escapedBy quote text := List.flatMap_cons
    rw [hcons]
    split
    · next hc =>
      rw [List.cons_append, List.cons_append, List.nil_append]
      simp only [denotes_escape (hplain hc), ih, exists_eq_left, unitsOf_cons]
    · next hc =>
      rw [List.cons_append, List.nil_append]
      simp only [denotes_cons (not_or.mp hc).1, ih, exists_eq_left, unitsOf_cons]

/-- Escaping the text of a literal once more keeps what it denotes just if there is no escape in it. -/
theorem denotes_escapedBy_iff {quote : Char} (hquote : quote = '\'' ∨ quote = '"') {text : List Char} :
    (∀ units, Denotes text units ↔ Denotes (escapedBy quote text) units) ↔ '\\' ∉ text := by
  constructor
  · intro h hescape
    have hsame := (h (unitsOf text)).mpr ((denotes_escapedBy hquote).mpr rfl)
    exact Nat.lt_irrefl _ (hsame.length_lt hescape)
  · intro h units
    rw [denotes_of_plain h, denotes_escapedBy hquote]

end RouteMigration.Proofs
