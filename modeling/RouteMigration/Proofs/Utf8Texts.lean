import Mathlib.Data.List.TakeWhile
import Mathlib.Tactic.Common
import RouteMigration.Syntax.OfTree
import RouteMigration.Text.Utf8

/-!
# Texts in UTF-8

Decoding undoes encoding, character by character: the first byte of a character announces how many follow, each of
these continues it, and together they spell its code point. No other bytes spell it, so that encoding undoes decoding
too. So a text can be counted in bytes as well as in characters: what stands between two offsets is the same text.
-/

namespace RouteMigration.Proofs
open Text.Utf8 Syntax

/-! ### Bytes of a character -/

lemma toNat_toUInt8 {n : Nat} (h : n < 256) : n.toUInt8.toNat = n :=
  Nat.mod_eq_of_lt h

lemma announced_eq (first : UInt8) : announced first =
    if first.toNat < 0x80 then some 1
    else if first.toNat < 0xc2 then none
    else if first.toNat < 0xe0 then some 2
    else if first.toNat < 0xf0 then some 3
    else if first.toNat < 0xf5 then some 4
    else none := by
  simp [announced, UInt8.lt_iff_toNat_lt]

lemma continues_iff (b : UInt8) : continues b = true ↔ 0x80 ≤ b.toNat ∧ b.toNat < 0xc0 := by
  simp [continues, UInt8.lt_iff_toNat_lt, UInt8.le_iff_toNat_le]

lemma continues_low (m : Nat) : continues (0x80 + m % 0x40).toUInt8 = true := by
  rw [continues_iff, toNat_toUInt8 (by omega)]
  omega

/-- The second byte keeps away from longer spellings, from the surrogates and from what lies beyond the last code point. -/
lemma continuesFirst_iff (first b : UInt8) : continuesFirst first b = true ↔
    (0x80 ≤ b.toNat ∧ b.toNat < 0xc0) ∧ (first.toNat = 0xe0 → 0xa0 ≤ b.toNat) ∧
      (first.toNat = 0xed → b.toNat < 0xa0) ∧ (first.toNat = 0xf0 → 0x90 ≤ b.toNat) ∧
      (first.toNat = 0xf4 → b.toNat < 0x90) := by
  rw [continuesFirst, Bool.and_eq_true, continues_iff]
  apply and_congr_right
  intro _
  simp only [← UInt8.toNat_inj, UInt8.lt_iff_toNat_lt, UInt8.le_iff_toNat_le]
  split_ifs <;> simp <;> grind

/-- Bytes that continue the first are taken, and with them the character is complete. -/
lemma decodeChar_eq_ok {first : UInt8} {more : List UInt8} (hannounced : announced first = some (more.length + 1))
    (hsecond : ∀ b ∈ more.head?, continuesFirst first b = true) (hmore : ∀ b ∈ more.tail, continues b = true)
    (position : Nat) (rest : List UInt8) :
    decodeChar position first (more ++ rest) = .ok (Char.ofNat (codePoint first more), more.length + 1) := by
  have htaken : continuing first more.length (more ++ rest) = more.length := by
    rw [continuing, List.take_left]
    cases more with
    | nil => rfl
    | cons b more =>
      have hall : more.takeWhile continues = more := List.takeWhile_eq_self_iff.mpr hmore
      dsimp only
      rw [if_pos (hsecond b rfl), hall, List.length_cons, Nat.add_comm]
  rw [decodeChar, hannounced]
  dsimp only
  rw [Nat.add_sub_cancel, htaken, if_pos rfl, List.take_left]

/-- A character is decoded from its bytes, whatever stands behind them. -/
lemma decodeChar_encodeChar (c : Char) (position : Nat) : ∃ first more, encodeChar c = first :: more ∧
    ∀ rest, decodeChar position first (more ++ rest) = .ok (c, more.length + 1) := by
  have hvalid : c.toNat < 0xd800 ∨ 0xdfff < c.toNat ∧ c.toNat < 0x110000 := c.valid
  have hok {first : UInt8} {more : List UInt8} (hspelled : codePoint first more = c.toNat)
      (hannounced : announced first = some (more.length + 1))
      (hsecond : ∀ b ∈ more.head?, continuesFirst first b = true) (hmore : ∀ b ∈ more.tail, continues b = true)
      (rest : List UInt8) : decodeChar position first (more ++ rest) = .ok (c, more.length + 1) := by
    rw [decodeChar_eq_ok hannounced hsecond hmore, hspelled, Char.ofNat_toNat]
  unfold encodeChar
  generalize c.toNat = n at *
  dsimp only
  split_ifs with hone htwo hthree
  · have hfirst := toNat_toUInt8 (n := n) (by omega)
    refine ⟨_, _, rfl, hok hfirst ?_ nofun nofun⟩
    rw [announced_eq, hfirst, if_pos hone, List.length_nil]
  · have hfirst := toNat_toUInt8 (n := 0xc0 + n / 0x40) (by omega)
    have hsecond := toNat_toUInt8 (n := 0x80 + n % 0x40) (by omega)
    refine ⟨_, _, rfl, hok ?_ ?_ ?_ nofun⟩
    · simp only [codePoint, List.length_cons, List.length_nil, List.foldl_cons, List.foldl_nil, hfirst, hsecond]
      omega
    · rw [announced_eq, hfirst, if_neg (by omega), if_neg (by omega), if_pos (by omega)]
      rfl
    · simp only [List.head?_cons, Option.mem_some_iff, forall_eq', continuesFirst_iff, hfirst, hsecond]
      omega
  · have hfirst := toNat_toUInt8 (n := 0xe0 + n / 0x1000) (by omega)
    have hsecond := toNat_toUInt8 (n := 0x80 + n / 0x40 % 0x40) (by omega)
    have hthird := toNat_toUInt8 (n := 0x80 + n % 0x40) (by omega)
    refine ⟨_, _, rfl, hok ?_ ?_ ?_ ?_⟩
    · simp only [codePoint, List.length_cons, List.length_nil, List.foldl_cons, List.foldl_nil, hfirst, hsecond, hthird]
      omega
    · rw [announced_eq, hfirst, if_neg (by omega), if_neg (by omega), if_neg (by omega), if_pos (by omega)]
      rfl
    · simp only [List.head?_cons, Option.mem_some_iff, forall_eq', continuesFirst_iff, hfirst, hsecond]
      omega
    · exact List.forall_mem_singleton.mpr (continues_low n)
  · have hfirst := toNat_toUInt8 (n := 0xf0 + n / 0x40000) (by omega)
    have hsecond := toNat_toUInt8 (n := 0x80 + n / 0x1000 % 0x40) (by omega)
    have hthird := toNat_toUInt8 (n := 0x80 + n / 0x40 % 0x40) (by omega)
    have hfourth := toNat_toUInt8 (n := 0x80 + n % 0x40) (by omega)
    refine ⟨_, _, rfl, hok ?_ ?_ ?_ ?_⟩
    · simp only [codePoint, List.length_cons, List.length_nil, List.foldl_cons, List.foldl_nil, hfirst, hsecond, hthird,
        hfourth]
      omega
    · rw [announced_eq, hfirst, if_neg (by omega), if_neg (by omega), if_neg (by omega), if_neg (by omega),
        if_pos (by omega)]
      rfl
    · simp only [List.head?_cons, Option.mem_some_iff, forall_eq', continuesFirst_iff, hfirst, hsecond]
      omega
    · exact List.forall_mem_cons.mpr ⟨continues_low _, List.forall_mem_singleton.mpr (continues_low n)⟩

/-- All the bytes that are wanted are there and continue the character. -/
lemma continuing_eq_self {first : UInt8} {wanted : Nat} {rest : List UInt8} (h : continuing first wanted rest = wanted) :
    (rest.take wanted).length = wanted ∧ (∀ b ∈ (rest.take wanted).head?, continuesFirst first b = true) ∧
      ∀ b ∈ (rest.take wanted).tail, continues b = true := by
  have hle : (rest.take wanted).length ≤ wanted := List.length_take_le ..
  rw [continuing] at h
  cases htake : rest.take wanted with
  | nil =>
    rw [htake] at h
    exact ⟨h, nofun, nofun⟩
  | cons b more =>
    rw [htake] at h hle
    rw [List.length_cons] at hle
    dsimp only at h
    split at h
    · next hfirst =>
      have hlength := (List.takeWhile_sublist (p := continues) (l := more)).length_le
      have hall : more.takeWhile continues = more := List.takeWhile_sublist _ |>.eq_of_length (by omega)
      refine ⟨by rw [List.length_cons]; omega, fun b' hb' => ?_, List.takeWhile_eq_self_iff.mp hall⟩
      cases hb'
      exact hfirst
    · omega

lemma toUInt8_eq {n : Nat} {b : UInt8} (h : n = b.toNat) : n.toUInt8 = b := by
  rw [h]
  exact UInt8.ofNat_toNat

lemma toNat_ofNat {n : Nat} (h : n.isValidChar) : (Char.ofNat n).toNat = n := by
  rw [Char.ofNat, dif_pos h]
  rfl

/-- Bytes that complete what the first of them announces are those of the character they spell. -/
lemma encodeChar_codePoint {first : UInt8} {more : List UInt8} (hannounced : announced first = some (more.length + 1))
    (hsecond : ∀ b ∈ more.head?, continuesFirst first b = true) (hmore : ∀ b ∈ more.tail, continues b = true) :
    encodeChar (Char.ofNat (codePoint first more)) = first :: more := by
  have hfirst := first.toNat_lt
  rw [announced_eq] at hannounced
  match more with
  | [] =>
    have hone : first.toNat < 0x80 := by
      split_ifs at hannounced <;> simp_all
    have hvalue : (Char.ofNat (codePoint first [])).toNat = first.toNat := toNat_ofNat (.inl (by change first.toNat < _; omega))
    rw [encodeChar, hvalue, if_pos hone, toUInt8_eq rfl]
  | [b] =>
    have htwo : 0xc2 ≤ first.toNat ∧ first.toNat < 0xe0 := by
      split_ifs at hannounced <;> simp_all
    have hb := (continuesFirst_iff first b).mp (hsecond b rfl)
    have hpoint : codePoint first [b] = (first.toNat - 0xc0) * 0x40 + (b.toNat - 0x80) := rfl
    have hvalue : (Char.ofNat (codePoint first [b])).toNat = codePoint first [b] := toNat_ofNat (.inl (by omega))
    rw [encodeChar, hvalue, if_neg (by omega), if_pos (by omega), toUInt8_eq (b := first) (by omega),
      toUInt8_eq (b := b) (by omega)]
  | [b, b'] =>
    have hthree : 0xe0 ≤ first.toNat ∧ first.toNat < 0xf0 := by
      split_ifs at hannounced <;> simp_all
    have hb := (continuesFirst_iff first b).mp (hsecond b rfl)
    have hb' := (continues_iff b').mp (hmore b' (List.mem_singleton_self _))
    have hpoint : codePoint first [b, b'] =
      ((first.toNat - 0xe0) * 0x40 + (b.toNat - 0x80)) * 0x40 + (b'.toNat - 0x80) := rfl
    have hvalue : (Char.ofNat (codePoint first [b, b'])).toNat = codePoint first [b, b'] := toNat_ofNat (by
      change _ ∨ _
      omega)
    rw [encodeChar, hvalue, if_neg (by omega), if_neg (by omega), if_pos (by omega), toUInt8_eq (b := first) (by omega),
      toUInt8_eq (b := b) (by omega), toUInt8_eq (b := b') (by omega)]
  | [b, b', b''] =>
    have hfour : 0xf0 ≤ first.toNat ∧ first.toNat < 0xf5 := by
      split_ifs at hannounced <;> simp_all
    have hb := (continuesFirst_iff first b).mp (hsecond b rfl)
    have hb' := (continues_iff b').mp (hmore b' (List.mem_cons_self ..))
    have hb'' := (continues_iff b'').mp (hmore b'' (List.mem_cons_of_mem _ (List.mem_singleton_self _)))
    have hpoint : codePoint first [b, b', b''] =
      (((first.toNat - 0xf0) * 0x40 + (b.toNat - 0x80)) * 0x40 + (b'.toNat - 0x80)) * 0x40 + (b''.toNat - 0x80) := rfl
    have hvalue : (Char.ofNat (codePoint first [b, b', b''])).toNat = codePoint first [b, b', b''] := toNat_ofNat (by
      change _ ∨ _
      omega)
    rw [encodeChar, hvalue, if_neg (by omega), if_neg (by omega), if_neg (by omega), toUInt8_eq (b := first) (by omega),
      toUInt8_eq (b := b) (by omega), toUInt8_eq (b := b') (by omega), toUInt8_eq (b := b'') (by omega)]
  | _ :: _ :: _ :: _ :: more =>
    have hnone : False := by
      split_ifs at hannounced <;> simp_all
    exact hnone.elim

lemma encodeChar_of_decodeChar {position : Nat} {first : UInt8} {rest : List UInt8} {c : Char} {size : Nat}
    (h : decodeChar position first rest = .ok (c, size)) : encodeChar c = first :: rest.take (size - 1) := by
  rw [decodeChar] at h
  cases hannounced : announced first with
  | none =>
    rw [hannounced] at h
    cases h
  | some announcedSize =>
    rw [hannounced] at h
    dsimp only at h
    split at h
    · next hgood =>
      obtain ⟨rfl, rfl⟩ := Prod.mk.inj (Except.ok.inj h)
      obtain ⟨hlength, hsecond, hmore⟩ := continuing_eq_self hgood
      have hpositive : 0 < announcedSize := by
        rw [announced_eq] at hannounced
        split_ifs at hannounced <;> simp_all <;> omega
      rw [hgood]
      refine encodeChar_codePoint ?_ hsecond hmore
      rw [hannounced, hlength, Nat.sub_add_cancel hpositive]
    · split at h <;> cases h

/-! ### Texts -/

lemma decodeFrom_encode (s : List Char) (position : Nat) : decodeFrom position (encode s) = .ok s := by
  induction s generalizing position with
  | nil => rw [encode, List.flatMap_nil, decodeFrom]
  | cons c s ih =>
    obtain ⟨first, more, hbytes, hdecode⟩ := decodeChar_encodeChar c position
    have hsplit : encode (c :: s) = first :: (more ++ encode s) := by
      rw [encode, List.flatMap_cons, hbytes, List.cons_append]
      rfl
    rw [hsplit, decodeFrom, hdecode]
    change (decodeFrom _ ((more ++ encode s).drop (more.length + 1 - 1)) >>= _) = _
    rw [Nat.add_sub_cancel, List.drop_left, ih]
    rfl

/-- Decoding undoes encoding. -/
theorem decode_encode (s : List Char) : decode (encode s) = .ok s :=
  decodeFrom_encode s 0

lemma encode_of_decodeFrom {position : Nat} {bytes : List UInt8} {s : List Char}
    (h : decodeFrom position bytes = .ok s) : encode s = bytes := by
  fun_induction decodeFrom position bytes generalizing s with
  | case1 =>
    cases h
    rfl
  | case2 position first rest ih =>
    cases hchar : decodeChar position first rest with
    | error fault =>
      rw [hchar] at h
      cases h
    | ok taken =>
      rw [hchar] at h
      change (decodeFrom (position + taken.2) (rest.drop (taken.2 - 1)) >>= fun more => .ok (taken.1 :: more)) = _ at h
      cases hmore : decodeFrom (position + taken.2) (rest.drop (taken.2 - 1)) with
      | error fault =>
        rw [hmore] at h
        cases h
      | ok more =>
        rw [hmore] at h
        cases h
        calc encode (taken.1 :: more)
            = encodeChar taken.1 ++ encode more := List.flatMap_cons
          _ = first :: rest.take (taken.2 - 1) ++ rest.drop (taken.2 - 1) := by
            rw [encodeChar_of_decodeChar hchar, ih _ hmore]
          _ = first :: rest := by rw [List.cons_append, List.take_append_drop]

/-- Encoding undoes decoding: a text has one spelling. -/
theorem encode_of_decode {bytes : List UInt8} {s : List Char} (h : decode bytes = .ok s) : encode s = bytes :=
  encode_of_decodeFrom h

lemma encode_inj {s t : List Char} : encode s = encode t ↔ s = t := by
  refine ⟨fun h => ?_, congrArg encode⟩
  have hdecode : decode (encode s) = decode (encode t) := congrArg decode h
  rw [decode_encode, decode_encode] at hdecode
  exact Except.ok.inj hdecode

lemma encode_append (first second : List Char) : encode (first ++ second) = encode first ++ encode second :=
  List.flatMap_append

/-- An offset of a text, counted in bytes. -/
def byteOffset (source : List Char) (offset : Nat) : Nat :=
  (encode (source.take offset)).length

/-- The bytes between two offsets. -/
def bytesBetween (source : List Char) (start stop : Nat) : List UInt8 :=
  ((encode source).drop (byteOffset source start)).take (byteOffset source stop - byteOffset source start)

/-- The bytes between two offsets are those of the text between them. -/
theorem bytesBetween_eq (source : List Char) {start stop : Nat} (h : start ≤ stop) :
    bytesBetween source start stop = encode (slice source start stop).toList := by
  have hdrop : (encode source).drop (byteOffset source start) = encode (source.drop start) := by
    calc (encode source).drop (byteOffset source start)
        = (encode (source.take start) ++ encode (source.drop start)).drop (byteOffset source start) := by
          rw [← encode_append, List.take_append_drop]
      _ = encode (source.drop start) := List.drop_left
  have hsize : byteOffset source stop - byteOffset source start =
      (encode (slice source start stop).toList).length := by
    have htake : source.take stop = source.take start ++ (slice source start stop).toList := by
      rw [slice, String.toList_ofList, ← List.take_add, Nat.add_sub_of_le h]
    rw [byteOffset, byteOffset, htake, encode_append, List.length_append, Nat.add_sub_cancel_left]
  have hrest : source.drop start = (slice source start stop).toList ++ (source.drop start).drop (stop - start) := by
    rw [slice, String.toList_ofList, List.take_append_drop]
  rw [bytesBetween, hdrop, hsize, hrest, encode_append]
  exact List.take_left

end RouteMigration.Proofs
