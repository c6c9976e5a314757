import Mathlib.Data.List.Basic
import Mathlib.Data.List.TakeWhile
import Mathlib.Tactic.Common
import RouteMigration.Grammar.Types
import RouteMigration.Syntax.OfTree

/-!
# Places in a source

A cursor that is moved on knows what follows in the source at its new place, and it never stops on a blank line
between two others. So does the end of every token, and of strings and regular expressions it is known what they
end with.
-/

namespace RouteMigration.Proofs
open Syntax Grammar OfTree

/-! ### Visible characters -/

/-- Neither a line break nor part of an indentation. -/
def IsVisible (c : Char) : Prop :=
  c ≠ '\n' ∧ Text.isIndentation c = false

lemma isVisible_of_not_isSpace {c : Char} (h : isSpace c = false) : IsVisible c := by
  refine ⟨?_, ?_⟩
  · rintro rfl
    exact absurd h (by decide)
  · rw [Text.isIndentation, Bool.or_eq_false_iff, decide_eq_false_iff_not, decide_eq_false_iff_not]
    refine ⟨?_, ?_⟩
    all_goals
      rintro rfl
      exact absurd h (by decide)

/-- The last line of the text is not blank. -/
def EndsVisible (text : List Char) : Prop :=
  ∃ c ∈ Text.lastLine text, Text.isIndentation c = false

/-- What stands on one line comes behind the last line of the text before it. -/
lemma lastLine_append_line {front line : List Char} (h : '\n' ∉ line) :
    Text.lastLine (front ++ line) = Text.lastLine front ++ line := by
  have hall : ∀ c ∈ line.reverse, decide (c ≠ '\n') = true := by
    intro c hc
    refine decide_eq_true ?_
    rintro rfl
    exact h (List.mem_reverse.mp hc)
  rw [Text.lastLine, Text.lastLine, List.reverse_append, List.takeWhile_append_of_pos hall, List.reverse_append,
    List.reverse_reverse]

lemma lastLine_of_line {text : List Char} (h : '\n' ∉ text) : Text.lastLine text = text :=
  @lastLine_append_line [] text h

lemma lastLine_of_break {text : List Char} (h : '\n' ∉ text) : Text.lastLine ('\n' :: text) = text :=
  @lastLine_append_line ['\n'] text h

lemma mem_lastLine_append {c : Char} {text : List Char} (front : List Char) (h : c ∈ Text.lastLine text) :
    c ∈ Text.lastLine (front ++ text) := by
  rw [Text.lastLine, List.mem_reverse] at *
  rw [List.reverse_append, List.takeWhile_append]
  split
  · exact List.mem_append_left _ ((List.takeWhile_prefix _).subset h)
  · exact h

lemma EndsVisible.append {text : List Char} (front : List Char) (h : EndsVisible text) : EndsVisible (front ++ text) := by
  obtain ⟨c, hc, hvisible⟩ := h
  exact ⟨c, mem_lastLine_append front hc, hvisible⟩

lemma endsVisible_of_line {c : Char} {text : List Char} (hc : IsVisible c) (h : '\n' ∉ text) : EndsVisible (c :: text) := by
  refine ⟨c, ?_, hc.2⟩
  rw [lastLine_of_line (List.mem_cons.not.mpr (not_or.mpr ⟨Ne.symm hc.1, h⟩))]
  exact List.mem_cons_self

lemma endsVisible_concat {c : Char} (hc : IsVisible c) (text : List Char) : EndsVisible (text ++ [c]) :=
  (endsVisible_of_line hc List.not_mem_nil).append text

/-! ### Places -/

/-- The offset is not on a blank line between two others. -/
def IsSeam (source : List Char) (offset : Nat) : Prop :=
  '\n' ∈ source.take offset → EndsVisible (source.take offset) ∨
    ((source.drop offset).dropWhile Text.isIndentation).head? ≠ some '\n'

/-- The cursor knows what follows in the source. -/
structure IsPlace (source : List Char) (cursor : Cursor) : Prop where
  rest : cursor.rest = source.drop cursor.offset
  seam : IsSeam source cursor.offset

lemma isPlace_start (source : List Char) : IsPlace source ⟨source, 0⟩ :=
  ⟨rfl, fun h => absurd h List.not_mem_nil⟩

/-- The cursor is further on, or where the other one is. -/
def IsAfter (after before : Cursor) : Prop :=
  ∃ n, after.rest = before.rest.drop n ∧ after.offset = before.offset + n

lemma IsAfter.refl (cursor : Cursor) : IsAfter cursor cursor :=
  ⟨0, rfl, rfl⟩

lemma IsAfter.trans {a b c : Cursor} (hab : IsAfter b a) (hbc : IsAfter c b) : IsAfter c a := by
  obtain ⟨m, hrest, hoffset⟩ := hab
  obtain ⟨n, hrest', hoffset'⟩ := hbc
  refine ⟨m + n, ?_, by omega⟩
  rw [hrest', hrest, List.drop_drop]

/-- A cursor in front of a visible character, or at the end. -/
def IsAhead (cursor : Cursor) : Prop :=
  ∀ c ∈ cursor.rest.head?, IsVisible c

lemma IsAfter.isPlace {source : List Char} {after before : Cursor} (h : IsAfter after before)
    (hbefore : IsPlace source before) (hahead : IsAhead after) : IsPlace source after := by
  obtain ⟨n, hrest, hoffset⟩ := h
  have hafter : after.rest = source.drop after.offset := by
    rw [hrest, hoffset, hbefore.rest, List.drop_drop]
  refine ⟨hafter, fun _ => .inr ?_⟩
  rw [← hafter]
  cases hmore : after.rest with
  | nil => exact nofun
  | cons c more =>
    have hc : IsVisible c := hahead c (by rw [hmore]; rfl)
    rw [List.dropWhile_cons_of_neg (by rw [hc.2]; exact Bool.false_ne_true)]
    exact fun h => hc.1 (Option.some.inj h)

/-- The text stands between the cursors. -/
structure MovesPast (text : List Char) (before after : Cursor) : Prop where
  rest : before.rest = text ++ after.rest
  offset : after.offset = before.offset + text.length

lemma MovesPast.trans {front text : List Char} {a b c : Cursor} (hab : MovesPast front a b) (hbc : MovesPast text b c) :
    MovesPast (front ++ text) a c where
  rest := by rw [hab.rest, hbc.rest, List.append_assoc]
  offset := by rw [hbc.offset, hab.offset, List.length_append, Nat.add_assoc]

/-- Behind a text whose last line is not blank there is no blank line. -/
lemma MovesPast.isPlace {source text : List Char} {before after : Cursor} (h : MovesPast text before after)
    (hbefore : IsPlace source before) (hvisible : EndsVisible text) : IsPlace source after := by
  have hsource : source.drop before.offset = text ++ after.rest := hbefore.rest.symm.trans h.rest
  refine ⟨?_, fun _ => .inl ?_⟩
  · rw [h.offset, ← List.drop_drop, hsource, List.drop_left]
  · rw [h.offset, List.take_add, hsource, List.take_left]
    exact hvisible.append _

/-- The cursor is further on, on the same line. -/
def IsInline (after before : Cursor) : Prop :=
  ∃ text, MovesPast text before after ∧ '\n' ∉ text

lemma IsInline.refl (cursor : Cursor) : IsInline cursor cursor :=
  ⟨[], ⟨rfl, rfl⟩, List.not_mem_nil⟩

lemma IsInline.trans {a b c : Cursor} (hab : IsInline b a) (hbc : IsInline c b) : IsInline c a := by
  obtain ⟨front, hfront, hline⟩ := hab
  obtain ⟨text, htext, hline'⟩ := hbc
  exact ⟨front ++ text, hfront.trans htext, List.mem_append.not.mpr (not_or.mpr ⟨hline, hline'⟩)⟩

lemma inline_advance {cursor : Cursor} {c : Char} {rest : List Char} (h : cursor.rest = c :: rest) (hc : c ≠ '\n') :
    IsInline (cursor.advance 1) cursor :=
  ⟨[c], ⟨by rw [Cursor.advance, h]; rfl, rfl⟩, List.mem_singleton.not.mpr (Ne.symm hc)⟩

lemma inline_step {c : Char} {rest : List Char} {offset : Nat} {after : Cursor} (hc : c ≠ '\n')
    (h : IsInline after ⟨rest, offset + 1⟩) : IsInline after ⟨c :: rest, offset⟩ :=
  have hone : IsInline ⟨rest, offset + 1⟩ ⟨c :: rest, offset⟩ := inline_advance rfl hc
  hone.trans h

lemma isAfter_step {c : Char} {rest : List Char} {offset : Nat} {after : Cursor} (h : IsAfter after ⟨rest, offset + 1⟩) :
    IsAfter after ⟨c :: rest, offset⟩ :=
  IsAfter.trans ⟨1, rfl, rfl⟩ h

lemma dropWhile_eq (p : Char → Bool) (cursor : Cursor) :
    cursor.dropWhile p = ⟨cursor.rest.dropWhile p, cursor.offset + (cursor.rest.takeWhile p).length⟩ := by
  have hgo (offset : Nat) (rest : List Char) :
      Cursor.dropWhile.go p offset rest = ⟨rest.dropWhile p, offset + (rest.takeWhile p).length⟩ := by
    induction rest generalizing offset with
    | nil => rfl
    | cons c rest ih =>
      unfold Cursor.dropWhile.go
      split
      · next hc =>
        rw [ih, List.dropWhile_cons_of_pos hc, List.takeWhile_cons_of_pos hc, List.length_cons, Nat.add_assoc,
          Nat.add_comm 1]
      · next hc =>
        rw [List.dropWhile_cons_of_neg hc, List.takeWhile_cons_of_neg hc]
        rfl
  exact hgo cursor.offset cursor.rest

lemma isAfter_dropWhile (p : Char → Bool) (cursor : Cursor) : IsAfter (cursor.dropWhile p) cursor := by
  rw [dropWhile_eq]
  refine ⟨(cursor.rest.takeWhile p).length, ?_, rfl⟩
  have hsplit : cursor.rest.takeWhile p ++ cursor.rest.dropWhile p = cursor.rest := List.takeWhile_append_dropWhile
  exact (List.drop_left.symm.trans (congrArg (List.drop _) hsplit))

lemma inline_dropWhile {p : Char → Bool} (hp : p '\n' = false) (cursor : Cursor) : IsInline (cursor.dropWhile p) cursor := by
  rw [dropWhile_eq]
  refine ⟨cursor.rest.takeWhile p, ⟨List.takeWhile_append_dropWhile.symm, rfl⟩, fun hbreak => ?_⟩
  have hall : p '\n' = true := List.all_eq_true.mp List.all_takeWhile _ hbreak
  rw [hp] at hall
  cases hall

/-- Where a comment started that has to have an end. -/
def commentStart? : Cursor.Skipping → Option Cursor
  | .blockOpening start | .blockComment start _ => some start
  | .space | .lineComment => none

lemma isAfter_skip {cursor : Cursor} {skipping : Cursor.Skipping} {offset : Nat} {rest : List Char}
    (hplace : IsAfter ⟨rest, offset⟩ cursor) (hcomment : ∀ start ∈ commentStart? skipping, IsAfter start cursor) :
    IsAfter (Cursor.skip skipping offset rest) cursor := by
  induction rest generalizing skipping offset with
  | nil =>
    cases skipping with
    | space => exact hplace
    | lineComment => exact hplace
    | blockOpening start => exact hcomment start rfl
    | blockComment start asterisk => exact hcomment start rfl
  | cons c rest ih =>
    have hnext : IsAfter ⟨rest, offset + 1⟩ cursor := hplace.trans ⟨1, rfl, rfl⟩
    cases skipping with
    | space =>
      unfold Cursor.skip
      dsimp only
      split
      · exact ih hnext nofun
      · split
        · split
          · exact ih hnext nofun
          · refine ih hnext fun start hstart => ?_
            cases hstart
            exact hplace
          · exact hplace
        · exact hplace
    | lineComment =>
      unfold Cursor.skip
      dsimp only
      split
      · exact ih hnext nofun
      · exact ih hnext nofun
    | blockOpening start => exact ih hnext hcomment
    | blockComment start asterisk =>
      unfold Cursor.skip
      dsimp only
      split
      · exact ih hnext nofun
      · exact ih hnext hcomment

lemma isAfter_toToken (cursor : Cursor) : IsAfter cursor.toToken cursor :=
  isAfter_skip (.refl cursor) nofun

/-- Comments start with a slash, so a token starts with a visible character in any case. -/
lemma isAhead_skip {skipping : Cursor.Skipping} {offset : Nat} {rest : List Char}
    (hcomment : ∀ start ∈ commentStart? skipping, IsAhead start) : IsAhead (Cursor.skip skipping offset rest) := by
  induction rest generalizing skipping offset with
  | nil =>
    cases skipping with
    | space => exact nofun
    | lineComment => exact nofun
    | blockOpening start => exact hcomment start rfl
    | blockComment start asterisk => exact hcomment start rfl
  | cons c rest ih =>
    cases skipping with
    | space =>
      unfold Cursor.skip
      dsimp only
      split
      · exact ih nofun
      · next hspace =>
        have hahead : IsAhead ⟨c :: rest, offset⟩ := by
          rintro _ ⟨⟩
          exact isVisible_of_not_isSpace (Bool.eq_false_iff.mpr hspace)
        split
        · split
          · exact ih nofun
          · refine ih fun start hstart => ?_
            cases hstart
            exact hahead
          · exact hahead
        · exact hahead
    | lineComment =>
      unfold Cursor.skip
      dsimp only
      split
      · exact ih nofun
      · exact ih nofun
    | blockOpening start => exact ih hcomment
    | blockComment start asterisk =>
      unfold Cursor.skip
      dsimp only
      split
      · exact ih nofun
      · exact ih hcomment

lemma isAhead_toToken (cursor : Cursor) : IsAhead cursor.toToken :=
  isAhead_skip nofun

/-- A comment is some text, at the end of which a line is not blank. -/
lemma movesPast_comment {cursor after : Cursor} (h : cursor.comment? = some after) :
    ∃ text, MovesPast text cursor after ∧ EndsVisible text := by
  have hslash : IsVisible '/' := ⟨by decide, by decide⟩
  have hend (offset : Nat) (rest : List Char) {after : Cursor} (h : Cursor.blockCommentEnd? offset rest = some after) :
      ∃ text, MovesPast (text ++ ['/']) ⟨rest, offset⟩ after := by
    induction rest generalizing offset with
    | nil => cases h
    | cons c rest ih =>
      unfold Cursor.blockCommentEnd? at h
      split at h
      · cases h
      · next hrest =>
        cases h
        rw [hrest]
        exact ⟨['*'], rfl, rfl⟩
      · next hrest =>
        cases hrest
        obtain ⟨text, htext⟩ := ih (offset + 1) h
        have hone : MovesPast [c] ⟨c :: rest, offset⟩ ⟨rest, offset + 1⟩ := ⟨rfl, rfl⟩
        exact ⟨c :: text, hone.trans htext⟩
  obtain ⟨rest, offset⟩ := cursor
  unfold Cursor.comment? at h
  split at h
  · next more hrest =>
    cases h
    dsimp only at hrest
    rw [hrest]
    have hopening : MovesPast ['/', '/'] ⟨'/' :: '/' :: more, offset⟩ ⟨more, offset + 2⟩ := ⟨rfl, rfl⟩
    obtain ⟨text, htext, hline⟩ := @inline_dropWhile (fun c => !isLineBreak c && c ≠ '\r') (by decide) ⟨more, offset + 2⟩
    refine ⟨_, hopening.trans htext, endsVisible_of_line hslash ?_⟩
    exact List.mem_cons.not.mpr (not_or.mpr ⟨by decide, hline⟩)
  · next more hrest =>
    dsimp only at hrest
    rw [hrest]
    have hopening : MovesPast ['/', '*'] ⟨'/' :: '*' :: more, offset⟩ ⟨more, offset + 2⟩ := ⟨rfl, rfl⟩
    obtain ⟨text, htext⟩ := hend _ _ h
    exact ⟨_, hopening.trans htext, (endsVisible_concat hslash text).append _⟩
  · cases h

/-- The end of a comment that may have spaces in front of it. -/
lemma isPlace_comment {source : List Char} {cursor after : Cursor}
    (h : (cursor.dropWhile isSpace).comment? = some after) (hcursor : IsPlace source cursor) : IsPlace source after := by
  obtain ⟨text, htext, hvisible⟩ := movesPast_comment h
  rw [dropWhile_eq] at htext
  have hspace : MovesPast (cursor.rest.takeWhile isSpace) cursor
      ⟨cursor.rest.dropWhile isSpace, cursor.offset + (cursor.rest.takeWhile isSpace).length⟩ :=
    ⟨List.takeWhile_append_dropWhile.symm, rfl⟩
  exact (hspace.trans htext).isPlace hcursor (hvisible.append _)

/-! ### Ends of tokens -/

/-- An escape in a name is some text without a line break. -/
lemma nameEscape_eq_some {rest : List Char} {n : Nat} (h : nameEscape rest = some n) :
    ∃ text more, rest = text ++ more ∧ text.length = n ∧ '\n' ∉ text := by
  have hhex (text : List Char) (htext : text.all isHexDigit = true) : '\n' ∉ text := by
    intro hbreak
    exact absurd (List.all_eq_true.mp htext _ hbreak) (by decide)
  unfold nameEscape at h
  dsimp only at h
  split at h
  · next rest =>
    split at h
    · next hdigits =>
      cases h
      obtain ⟨more, hmore⟩ := List.head?_eq_some_iff.mp hdigits.2
      have hsplit : rest = rest.takeWhile isHexDigit ++ '\x7d' :: more := by
        rw [← hmore]
        exact (List.prefix_iff_eq_append.mp (List.takeWhile_prefix isHexDigit)).symm
      refine ⟨'u' :: '\x7b' :: (rest.takeWhile isHexDigit ++ ['\x7d']), more, ?_, ?_, ?_⟩
      · rw [List.cons_append, List.cons_append, List.append_assoc, List.singleton_append, ← hsplit]
      · rw [List.length_cons, List.length_cons, List.length_append, List.length_singleton]
      · simp only [List.mem_cons, List.mem_append, List.not_mem_nil, or_false, not_or]
        exact ⟨by decide, by decide, hhex _ List.all_takeWhile, by decide⟩
    · cases h
  · next rest _ =>
    split at h
    · next hdigits =>
      cases h
      refine ⟨'u' :: rest.take 4, rest.drop 4, ?_, ?_, ?_⟩
      · rw [List.cons_append, List.take_append_drop]
      · rw [List.length_cons, hdigits.1]
      · exact List.mem_cons.not.mpr (not_or.mpr ⟨by decide, hhex _ hdigits.2⟩)
    · cases h
  · cases h

/-- Between the start of a name and its end there is no line break. -/
lemma inline_nameEnd (offset pending : Nat) (rest : List Char)
    (hpending : ∃ text more, rest = text ++ more ∧ text.length = pending ∧ '\n' ∉ text) :
    IsInline (nameEnd offset pending rest) ⟨rest, offset⟩ := by
  induction rest generalizing offset pending with
  | nil => exact .refl _
  | cons c rest ih =>
    have hnone : ∃ text more, rest = text ++ more ∧ text.length = 0 ∧ '\n' ∉ text :=
      ⟨[], rest, rfl, rfl, List.not_mem_nil⟩
    unfold nameEnd
    split
    · next n =>
      obtain ⟨text, more, hrest, hlength, hline⟩ := hpending
      cases text with
      | nil => cases hlength
      | cons first text =>
        cases hrest
        obtain ⟨hfirst, hline⟩ := not_or.mp (List.mem_cons.not.mp hline)
        exact inline_step (Ne.symm hfirst) (ih _ _ ⟨text, more, rfl, Nat.succ.inj hlength, hline⟩)
    · split
      · next hpart =>
        refine inline_step ?_ (ih _ _ hnone)
        rintro rfl
        exact absurd hpart (by decide)
      · split
        · next hescape =>
          have hbackslash : c ≠ '\n' := by
            rw [hescape]
            decide
          split
          · next hsome => exact inline_step hbackslash (ih _ _ (nameEscape_eq_some hsome))
          · exact .refl _
        · exact .refl _

/-- A name is some text on one line. -/
lemma inline_name {cursor after : Cursor} (h : name? cursor = some after) :
    IsInline after cursor ∧ cursor.offset < after.offset := by
  obtain ⟨rest, offset⟩ := cursor
  unfold name? at h
  split at h
  · cases h
  · next c rest hrest =>
    cases hrest
    split at h
    · next hstarts =>
      cases h
      refine ⟨inline_nameEnd _ _ _ ⟨[], _, rfl, rfl, List.not_mem_nil⟩, ?_⟩
      have hnext (n : Nat) : offset < (nameEnd (offset + 1) n rest).offset := by
        have hle (offset pending : Nat) (rest : List Char) : offset ≤ (nameEnd offset pending rest).offset := by
          induction rest generalizing offset pending with
          | nil => exact Nat.le_refl _
          | cons c rest ih =>
            unfold nameEnd
            split
            · exact Nat.le_of_succ_le (ih ..)
            · split
              · exact Nat.le_of_succ_le (ih ..)
              · split
                · split
                  · exact Nat.le_of_succ_le (ih ..)
                  · exact Nat.le_refl _
                · exact Nat.le_refl _
        exact hle _ _ _
      dsimp only
      unfold nameEnd
      dsimp only
      split
      · exact hnext 0
      · next hpart =>
        -- a name that does not start with a character of names starts with an escape
        have hescape : c = '\\' ∧ (nameEscape rest).isSome = true := by
          have hstart : isNameStart c = false := by
            rw [isNameStart, Bool.and_eq_false_iff]
            exact .inl (Bool.eq_false_iff.mpr hpart)
          rw [hstart, Bool.false_or, Bool.and_eq_true, decide_eq_true_eq] at hstarts
          exact hstarts
        obtain ⟨n, hn⟩ := Option.isSome_iff_exists.mp hescape.2
        rw [if_pos hescape.1, hn]
        exact hnext n
    · cases h

/-- A string ends with its quote. -/
lemma stringEnd_eq_some {quote : Char} {offset : Nat} {escaped : Bool} {rest : List Char} {after : Cursor}
    (h : stringEnd? quote offset escaped rest = some after) :
    ∃ inner more, rest = inner ++ quote :: more ∧ after = ⟨more, offset + inner.length + 1⟩ := by
  induction rest generalizing offset escaped with
  | nil => cases h
  | cons c rest ih =>
    have hstep {escaped : Bool} (h : stringEnd? quote (offset + 1) escaped rest = some after) :
        ∃ inner more, c :: rest = inner ++ quote :: more ∧ after = ⟨more, offset + inner.length + 1⟩ := by
      obtain ⟨inner, more, rfl, rfl⟩ := ih h
      refine ⟨c :: inner, more, rfl, ?_⟩
      rw [List.length_cons, Nat.add_assoc offset 1, Nat.add_comm 1]
    unfold stringEnd? at h
    split at h
    · exact hstep h
    · split at h
      · next hquote =>
        cases h
        exact ⟨[], rest, by rw [hquote]; rfl, rfl⟩
      · split at h
        · exact hstep h
        · split at h
          · cases h
          · exact hstep h

/-- A regular expression ends with its slash, on the line that it starts on. -/
lemma regexEnd_eq_some {offset : Nat} {escaped inSet : Bool} {rest : List Char} {after : Cursor}
    (h : regexEnd? offset escaped inSet rest = some after) :
    ∃ inner more, rest = inner ++ '/' :: more ∧ after = ⟨more, offset + inner.length + 1⟩ ∧ '\n' ∉ inner := by
  induction rest generalizing offset escaped inSet with
  | nil => cases h
  | cons c rest ih =>
    unfold regexEnd? at h
    split at h
    · cases h
    · next hbreak =>
      have hstep {escaped inSet : Bool} (h : regexEnd? (offset + 1) escaped inSet rest = some after) :
          ∃ inner more, c :: rest = inner ++ '/' :: more ∧ after = ⟨more, offset + inner.length + 1⟩ ∧ '\n' ∉ inner := by
        obtain ⟨inner, more, rfl, rfl, hinner⟩ := ih h
        refine ⟨c :: inner, more, rfl, ?_, ?_⟩
        · rw [List.length_cons, Nat.add_assoc offset 1, Nat.add_comm 1]
        · rw [List.mem_cons, not_or]
          refine ⟨?_, hinner⟩
          rintro rfl
          exact hbreak (by decide)
      split at h
      · exact hstep h
      · split at h
        · exact hstep h
        · split at h
          · exact hstep h
          · split at h
            · exact hstep h
            · split at h
              · next hslash =>
                cases h
                obtain ⟨hslash, -⟩ := Bool.and_eq_true_iff.mp hslash
                rw [of_decide_eq_true hslash]
                exact ⟨[], rest, rfl, rfl, List.not_mem_nil⟩
              · exact hstep h

/-- The text of a template stops in front of its end or of a substitution. -/
lemma isAfter_templateChunk {offset : Nat} {escaped : Bool} {rest : List Char} {after : Cursor}
    (h : Types.templateChunk offset escaped rest = some after) : IsAfter after ⟨rest, offset⟩ ∧ IsAhead after := by
  induction rest generalizing offset escaped with
  | nil => cases h
  | cons c rest ih =>
    have hstep {escaped : Bool} (h : Types.templateChunk (offset + 1) escaped rest = some after) :
        IsAfter after ⟨c :: rest, offset⟩ ∧ IsAhead after :=
      ⟨isAfter_step (ih h).1, (ih h).2⟩
    unfold Types.templateChunk at h
    split at h
    · exact hstep h
    · split at h
      · exact hstep h
      · split at h
        · next hquote =>
          cases h
          refine ⟨.refl _, ?_⟩
          rintro _ ⟨⟩
          rw [hquote]
          exact ⟨by decide, by decide⟩
        · split at h
          · next hdollar =>
            cases h
            refine ⟨.refl _, ?_⟩
            rintro _ ⟨⟩
            rw [of_decide_eq_true (Bool.and_eq_true_iff.mp hdollar).1]
            exact ⟨by decide, by decide⟩
          · exact hstep h

lemma inline_exponentEnd (cursor : Cursor) : IsInline (exponentEnd cursor) cursor := by
  have hdigits {after : Cursor} (h : IsInline after cursor) : IsInline (after.dropWhile isDigitOrSeparator) cursor :=
    h.trans (inline_dropWhile (by decide) _)
  have hdigit {c : Char} (h : c.isDigit = true) : c ≠ '\n' := by
    rintro rfl
    exact absurd h (by decide)
  unfold exponentEnd
  dsimp only
  split
  case h_1 hrest | h_2 hrest =>
    have hone : IsInline (cursor.advance 1) cursor := inline_advance hrest (by decide)
    split
    · next hnext =>
      split
      · next hsign =>
        refine hdigits (hone.trans (inline_advance hnext ?_))
        rintro rfl
        exact absurd (Bool.and_eq_true_iff.mp hsign).1 (by decide)
      · split
        · exact hdigits hone
        · exact .refl _
    · split
      · exact hdigits hone
      · exact .refl _
    · exact .refl _
  case h_3 hrest => exact inline_advance hrest (by decide)
  case h_4 => exact .refl _

lemma inline_number {cursor after : Cursor} (h : number? cursor = some after) : IsInline after cursor := by
  have hexponent {before : Cursor} (hbefore : IsInline before cursor) :
      IsInline (exponentEnd (before.dropWhile isDigitOrSeparator)) cursor :=
    hbefore.trans ((inline_dropWhile (by decide) before).trans (inline_exponentEnd _))
  have hdecimal (h : number?.decimal cursor = some after) : IsInline after cursor := by
    unfold number?.decimal at h
    split at h
    · next hrest =>
      split at h
      · cases h
        exact hexponent (inline_advance hrest (by decide))
      · cases h
    · split at h
      · dsimp only at h
        have hwhole : IsInline (cursor.dropWhile isDigitOrSeparator) cursor := inline_dropWhile (by decide) cursor
        split at h
        · next hrest =>
          cases h
          exact hexponent (hwhole.trans (inline_advance hrest (by decide)))
        · cases h
          exact hwhole.trans (inline_exponentEnd _)
      · cases h
    · cases h
  unfold number? at h
  split at h
  · next c rest hrest =>
    split at h
    · next hbase =>
      cases h
      have hc : c ≠ '\n' := by
        rintro rfl
        exact absurd hbase (by decide)
      have htwo : IsInline (cursor.advance 2) cursor :=
        ⟨['0', c], ⟨by rw [Cursor.advance, hrest]; rfl, rfl⟩, by simp [Ne.symm hc]⟩
      exact htwo.trans (inline_dropWhile (by decide) _)
    · exact hdecimal h
  · exact hdecimal h

end RouteMigration.Proofs
