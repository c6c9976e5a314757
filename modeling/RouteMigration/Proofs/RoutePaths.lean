import Mathlib.Data.List.Basic
import Mathlib.Tactic.Common
import RouteMigration.RoutePath

/-!
# Routes by their segments

The route of a module is made of the pieces of its path below the last directory that roots the routes. Slashes and
dots separate the pieces; a piece with a dollar sign becomes a parameter, and an index at the end becomes nothing.
-/

namespace RouteMigration.Proofs
open RoutePath

/-- The path with slashes for backslashes, without a `./` in front. -/
def relativePath (path : String) : List Char :=
  let slashed := path.toList.map fun c => if c = '\\' then '/' else c
  if "./".toList.isPrefixOf slashed then slashed.drop 2 else slashed

/-- Segments below each other. -/
def below (segments : List (List Char)) : List Char :=
  segments.flatMap ('/' :: ·)

/-- The second text is the first without the extension it ends in, if it ends in one. -/
inductive Stem : List Char → List Char → Prop where
  | extension {text extension : List Char} : extension ∈ extensions → Stem (text ++ extension) text
  | plain {text : List Char} : (∀ extension ∈ extensions, ¬ extension <:+ text) → Stem text text

/-- The pieces between slashes and dots, below the slash in front. -/
def pieces (text : List Char) : List (List Char) :=
  (if text.head? = some '/' then text.tail else text).splitOnP fun c => c == '/' || c == '.'

/-- A piece with a dollar sign in front is a parameter, and one without a name stands for all that follows. -/
def token : List Char → List Char
  | '$' :: [] => [':', '*']
  | '$' :: name => ':' :: name
  | piece => piece

/-- What the pieces are in a route. -/
def translation : List (List Char) → List (List Char)
  | [] => []
  | [piece] => [if piece = "index".toList ∨ piece = "_index".toList then [] else token piece]
  | piece :: next :: rest => token piece :: translation (next :: rest)

def isParameter (piece : List Char) : Bool :=
  piece.head? = some '$'

def isToken (segment : List Char) : Bool :=
  segment.head? = some ':'

/-! ### Segments -/

@[simp] lemma below_nil : below [] = [] :=
  rfl

@[simp] lemma below_cons (segment : List Char) (segments : List (List Char)) :
    below (segment :: segments) = '/' :: (segment ++ below segments) := by
  simp [below]

@[simp] lemma below_append (first second : List (List Char)) :
    below (first ++ second) = below first ++ below second := by
  simp [below]

lemma below_eq {segments : List (List Char)} (h : segments ≠ []) :
    below segments = '/' :: ['/'].intercalate segments := by
  induction segments with
  | nil => exact absurd rfl h
  | cons segment rest ih =>
    cases rest with
    | nil => simp
    | cons next rest =>
      rw [below_cons, ih (by simp), List.intercalate_cons_cons, List.append_assoc, List.singleton_append]

/-- What follows a segment is nothing or a slash. -/
lemma below_eq_nil_or (segments : List (List Char)) : below segments = [] ∨ ∃ rest, below segments = '/' :: rest := by
  cases segments with
  | nil => exact .inl rfl
  | cons segment rest => exact .inr ⟨_, below_cons segment rest⟩

lemma not_mem_of_mem_splitOnP {p : Char → Bool} {text piece : List Char} (h : piece ∈ text.splitOnP p) {c : Char}
    (hc : c ∈ piece) : p c = false := by
  induction text generalizing piece with
  | nil =>
    rw [List.splitOnP_nil, List.mem_singleton] at h
    simp [h] at hc
  | cons d text ih =>
    rw [List.splitOnP_cons_eq_if_modifyHead] at h
    split at h
    · rcases List.mem_cons.mp h with rfl | h
      · cases hc
      · exact ih h hc
    · next hd =>
      cases hsplit : text.splitOnP p with
      | nil => exact absurd hsplit (List.splitOnP_ne_nil p text)
      | cons first rest =>
        rw [hsplit] at h ih
        rcases List.mem_cons.mp h with rfl | h
        · rcases List.mem_cons.mp hc with rfl | hc
          · simpa using hd
          · exact ih (List.mem_cons_self ..) hc
        · exact ih (List.mem_cons_of_mem _ h) hc

/-- A segment of a text has its characters but no slash. -/
lemma mem_segment {text segment : List Char} (h : segment ∈ text.splitOn '/') {c : Char} (hc : c ∈ segment) :
    c ∈ text ∧ c ≠ '/' := by
  have hslash : c ≠ '/' := by
    rw [List.splitOn_eq_splitOnP] at h
    simpa using not_mem_of_mem_splitOnP h hc
  have hbelow : c ∈ below (text.splitOn '/') := List.mem_flatMap.mpr ⟨segment, h, List.mem_cons_of_mem _ hc⟩
  rw [below_eq (List.splitOn_ne_nil _ _), List.intercalate_splitOn] at hbelow
  exact ⟨(List.mem_cons.mp hbelow).resolve_left hslash, hslash⟩

/-- Of two texts that end in the same way, the segments at the end are the same. -/
lemma slash_suffix_iff {name last front : List Char} (hname : '/' ∉ name) (hlast : '/' ∉ last) :
    '/' :: name <:+ front ++ '/' :: last ↔ last = name := by
  constructor
  · rintro ⟨text, htext⟩
    rcases List.append_eq_append_iff.mp htext with ⟨more, -, h⟩ | ⟨more, -, h⟩
    · cases more with
      | nil => exact (List.cons.inj h).2.symm
      | cons c more =>
        rw [List.cons_append] at h
        exact absurd ((List.cons.inj h).2 ▸ by simp) hname
    · cases more with
      | nil => exact (List.cons.inj h).2
      | cons c more =>
        rw [List.cons_append] at h
        exact absurd ((List.cons.inj h).2 ▸ by simp) hlast
  · rintro rfl
    exact List.suffix_append ..

/-! ### Below the root -/

lemma afterSegment_eq_some {segment text rest : List Char} : afterSegment segment text = some rest ↔
    text = segment ++ rest ∧ (rest.head? = some '/' ∨ endsLine rest = true) := by
  rw [afterSegment]
  constructor
  · intro h
    split at h
    · next hstart =>
      obtain ⟨more, rfl⟩ := List.isPrefixOf_iff_prefix.mp hstart
      dsimp only at h
      rw [List.drop_left] at h
      split at h
      · next hends =>
        cases h
        exact ⟨rfl, by simpa using hends⟩
      · cases h
    · cases h
  · rintro ⟨rfl, hends⟩
    rw [if_pos (by simp)]
    dsimp only
    rw [List.drop_left, if_pos (by simpa using hends)]

/-- Where a segment starts, the root follows as a whole segment only if the segment is the root. -/
lemma afterSegment_segment {root segment : List Char} (hroot : '/' ∉ root) (hslash : '/' ∉ segment)
    (hline : '\n' ∉ segment) (rest : List (List Char)) :
    afterSegment root (segment ++ below rest) = if segment = root then some (below rest) else none := by
  split
  · next h =>
    subst h
    refine afterSegment_eq_some.mpr ⟨rfl, ?_⟩
    rcases below_eq_nil_or rest with h | ⟨more, h⟩ <;> rw [h]
    · exact .inr rfl
    · exact .inl rfl
  · next hne =>
    refine Option.eq_none_iff_forall_ne_some.mpr fun more hmore => ?_
    obtain ⟨htext, hends⟩ := afterSegment_eq_some.mp hmore
    rcases List.append_eq_append_iff.mp htext with ⟨left, rfl, hleft⟩ | ⟨left, rfl, rfl⟩
    · -- the root goes on below the segment
      cases left with
      | nil => exact hne (List.append_nil _).symm
      | cons c left =>
        rcases below_eq_nil_or rest with h | ⟨after, h⟩ <;> rw [h] at hleft
        · cases hleft
        · obtain ⟨rfl, -⟩ := List.cons.inj hleft
          exact hroot (by simp)
    · -- the root ends within the segment
      cases left with
      | nil => exact hne (List.append_nil _)
      | cons c left =>
        rcases hends with hhead | hend
        · obtain rfl := Option.some.inj hhead
          exact hslash (by simp)
        · rw [endsLine, Bool.or_eq_true, decide_eq_true_eq, decide_eq_true_eq] at hend
          rcases hend with hnil | hbreak
          · cases hnil
          · obtain ⟨rfl, -⟩ := List.cons.inj hbreak
            exact hline (by simp)

/-- Within a segment, the search goes on with the segments below. -/
lemma afterLastSegment_within (root : List Char) {segment : List Char} (hslash : '/' ∉ segment) (hline : '\n' ∉ segment)
    (rest : List (List Char)) :
    afterLastSegment root false (segment ++ below rest) = afterLastSegment root false (below rest) := by
  induction segment with
  | nil => rfl
  | cons c segment ih =>
    rw [List.mem_cons, not_or] at hslash hline
    rw [List.cons_append, afterLastSegment, if_neg (Ne.symm hline.1), decide_eq_false (Ne.symm hslash.1),
      ih hslash.2 hline.2]
    cases afterLastSegment root false (below rest) <;> rfl

/-- A slash starts the next segment. -/
lemma afterLastSegment_slash (root text : List Char) :
    afterLastSegment root false ('/' :: text) = afterLastSegment root true text := by
  rw [afterLastSegment, if_neg (by decide), decide_eq_true rfl]
  cases afterLastSegment root true text <;> rfl

/-- At the start of a segment, the root is found below it or else there. -/
lemma afterLastSegment_segment {root segment : List Char} (hroot : '/' ∉ root) (hslash : '/' ∉ segment)
    (hline : '\n' ∉ segment) (rest : List (List Char)) : afterLastSegment root true (segment ++ below rest) =
      (afterLastSegment root false (below rest)).or (if segment = root then some (below rest) else none) := by
  have hstart := afterSegment_segment hroot hslash hline rest
  cases segment with
  | cons c segment =>
    rw [List.mem_cons, not_or] at hslash hline
    rw [List.cons_append] at hstart ⊢
    rw [afterLastSegment, if_neg (Ne.symm hline.1), decide_eq_false (Ne.symm hslash.1),
      afterLastSegment_within root hslash.2 hline.2, hstart]
    cases afterLastSegment root false (below rest) <;> rfl
  | nil =>
    rw [List.nil_append] at hstart ⊢
    rcases below_eq_nil_or rest with h | ⟨more, h⟩ <;> rw [h] at hstart ⊢
    · exact hstart
    · rw [afterLastSegment_slash, afterLastSegment, if_neg (by decide), decide_eq_true rfl, hstart]
      cases afterLastSegment root true more <;> rfl

/-- The last of the segments that is the root counts, wherever it stands. -/
lemma afterLastSegment_below {root : List Char} {above rest : List (List Char)} (hroot : '/' ∉ root)
    (hslash : ∀ s ∈ above ++ root :: rest, '/' ∉ s) (hline : ∀ s ∈ above ++ root :: rest, '\n' ∉ s)
    (hlast : root ∉ rest) : afterLastSegment root false (below (above ++ root :: rest)) = some (below rest) := by
  have hnone : ∀ segments : List (List Char), root ∉ segments → (∀ s ∈ segments, '/' ∉ s) → (∀ s ∈ segments, '\n' ∉ s) →
      afterLastSegment root false (below segments) = none := by
    intro segments hmem hslash hline
    induction segments with
    | nil => rfl
    | cons segment segments ih =>
      rw [List.mem_cons, not_or] at hmem
      rw [List.forall_mem_cons] at hslash hline
      have hrest := afterLastSegment_segment hroot hslash.1 hline.1 segments
      rw [ih hmem.2 hslash.2 hline.2, if_neg (Ne.symm hmem.1)] at hrest
      rw [below_cons, afterLastSegment_slash, hrest]
      rfl
  induction above with
  | nil =>
    rw [List.nil_append, List.forall_mem_cons] at hslash hline
    have hrest := afterLastSegment_segment hroot hroot hline.1 rest
    rw [hnone rest hlast hslash.2 hline.2, if_pos rfl] at hrest
    rw [List.nil_append, below_cons, afterLastSegment_slash, hrest]
    rfl
  | cons segment above ih =>
    rw [List.cons_append, List.forall_mem_cons] at hslash hline
    have hrest := afterLastSegment_segment hroot hslash.1 hline.1 (above ++ root :: rest)
    rw [ih hslash.2 hline.2] at hrest
    rw [List.cons_append, below_cons, afterLastSegment_slash, hrest]
    rfl

lemma belowRoot_eq {root text : List Char} {above rest : List (List Char)} (hline : '\n' ∉ text)
    (htext : text.splitOn '/' = above ++ root :: rest) (hlast : root ∉ rest) : belowRoot root text = below rest := by
  have hsegments : below (above ++ root :: rest) = '/' :: text := by
    rw [below_eq (by simp), ← htext, List.intercalate_splitOn]
  have hslash : ∀ s ∈ above ++ root :: rest, '/' ∉ s := fun s hs hmem => (mem_segment (htext ▸ hs) hmem).2 rfl
  have hbreak : ∀ s ∈ above ++ root :: rest, '\n' ∉ s := fun s hs hmem => hline (mem_segment (htext ▸ hs) hmem).1
  have hfound := afterLastSegment_below (hslash root (by simp)) hslash hbreak hlast
  rw [hsegments, afterLastSegment_slash] at hfound
  rw [belowRoot, hfound, Option.getD_some]

lemma not_mem_relativePath {path : String} (h : '\n' ∉ path.toList) : '\n' ∉ relativePath path := by
  have hslashed : '\n' ∉ path.toList.map fun c => if c = '\\' then '/' else c := by
    intro hmem
    obtain ⟨c, hc, hbreak⟩ := List.mem_map.mp hmem
    split at hbreak
    · cases hbreak
    · exact h (hbreak ▸ hc)
  rw [relativePath]
  split
  · exact fun hmem => hslashed (List.mem_of_mem_drop hmem)
  · exact hslashed

/-! ### Extensions -/

lemma dropEnding_append (ending text : List Char) : dropEnding ending (text ++ ending) = text := by
  rw [dropEnding, if_pos (by simp)]
  simp

lemma stem_dropExtension {text : List Char} (hline : '\n' ∉ text) : Stem text (dropExtension text) := by
  have hend : text.getLast? ≠ some '\n' := fun h => hline (List.mem_of_getLast? h)
  rw [dropExtension, if_neg hend]
  dsimp only
  cases hfind : extensions.find? fun e => e.isSuffixOf text with
  | none =>
    refine .plain fun extension hmem hsuffix => ?_
    have hnone := List.find?_eq_none.mp hfind extension hmem
    exact hnone (List.isSuffixOf_iff_suffix.mpr hsuffix)
  | some extension =>
    have hmem := List.mem_of_find?_eq_some hfind
    have hfound := List.find?_some hfind
    obtain ⟨stem, rfl⟩ := List.isSuffixOf_iff_suffix.mp hfound
    dsimp only
    rw [dropEnding_append, List.append_nil]
    exact .extension hmem

lemma eq_of_suffix_extension : ∀ first ∈ extensions, ∀ second ∈ extensions, first <:+ second → first = second := by
  decide

/-- No extension ends in another one, so that there is one stem. -/
lemma Stem.unique {text stem stem' : List Char} (h : Stem text stem) (h' : Stem text stem') : stem = stem' := by
  cases h with
  | plain hnone =>
    cases h' with
    | plain _ => rfl
    | extension hmem => exact absurd (List.suffix_append ..) (hnone _ hmem)
  | @extension _ first hmem =>
    generalize htext : stem ++ first = text at h'
    cases h' with
    | plain hnone => exact absurd ⟨stem, htext⟩ (hnone _ hmem)
    | @extension _ second hmem' =>
      have hsame : first = second := by
        rcases List.suffix_or_suffix_of_suffix ⟨stem, htext⟩ (List.suffix_append stem' second) with hs | hs
        · exact eq_of_suffix_extension _ hmem _ hmem' hs
        · exact (eq_of_suffix_extension _ hmem' _ hmem hs).symm
      exact List.append_cancel_right (hsame ▸ htext)

/-- Without its extension, what follows a segment is still nothing or starts with a slash. -/
lemma Stem.eq_nil_or {segments : List (List Char)} {stem : List Char} (h : Stem (below segments) stem) :
    stem = [] ∨ ∃ rest, stem = '/' :: rest := by
  generalize htext : below segments = text at h
  cases h with
  | plain _ => exact htext ▸ below_eq_nil_or segments
  | @extension _ extension hmem =>
    cases stem with
    | nil => exact .inl rfl
    | cons c stem =>
      rcases below_eq_nil_or segments with h | ⟨more, h⟩ <;> rw [h] at htext
      · cases htext
      · exact .inr ⟨stem, by rw [(List.cons.inj htext).1]⟩

/-! ### Pieces -/

/-- Slashes for dots. -/
lemma map_dots (text : List Char) : (text.map fun c => if c = '.' then '/' else c) =
    ['/'].intercalate (text.splitOnP fun c => c == '/' || c == '.') := by
  induction text with
  | nil => rfl
  | cons c text ih =>
    rw [List.map_cons, ih, List.splitOnP_cons_eq_if_modifyHead]
    cases hsplit : text.splitOnP fun c => c == '/' || c == '.' with
    | nil => exact absurd hsplit (List.splitOnP_ne_nil _ text)
    | cons first rest =>
      by_cases hdot : c = '.'
      · simp [hdot, List.intercalate_cons_cons]
      · by_cases hslash : c = '/'
        · simp [hslash, List.intercalate_cons_cons]
        · cases rest <;> simp [hdot, hslash, List.intercalate_cons_cons]

lemma pieces_cons (text : List Char) :
    pieces ('/' :: text) = text.splitOnP fun c => c == '/' || c == '.' :=
  rfl

lemma not_mem_of_mem_pieces {text piece : List Char} (h : piece ∈ pieces text) : '/' ∉ piece := by
  intro hmem
  simpa using not_mem_of_mem_splitOnP h hmem

lemma pieces_ne_nil (text : List Char) : pieces text ≠ [] :=
  List.splitOnP_ne_nil _ _

lemma dropIndex_below {front : List (List Char)} {last : List Char} (h : '/' ∉ last) :
    dropIndex (below (front ++ [last])) = below (front ++ [if last = "index".toList then [] else last]) := by
  have hsplit (name : List Char) : below (front ++ [name]) = below front ++ '/' :: name := by simp
  have hindex : '/' ∉ "index".toList := by decide
  rw [hsplit, hsplit, dropIndex]
  by_cases hlast : last = "index".toList
  · subst hlast
    have hsuffix : ('/' :: "index".toList) <:+ below front ++ '/' :: "index".toList := List.suffix_append ..
    rw [if_pos (by rw [List.isSuffixOf_iff_suffix.mpr hsuffix, Bool.or_true]), if_pos rfl, List.append_cons,
      dropEnding_append]
  · have hwhole : below front ++ '/' :: last ≠ "index".toList := fun hwhole => hindex (hwhole ▸ by simp)
    have hsuffix : ('/' :: "index".toList).isSuffixOf (below front ++ '/' :: last) = false := by
      rw [Bool.eq_false_iff]
      exact fun hsuffix => hlast ((slash_suffix_iff hindex h).mp (List.isSuffixOf_iff_suffix.mp hsuffix))
    rw [decide_eq_false hwhole, hsuffix, Bool.false_or, if_neg Bool.false_ne_true, if_neg hlast]

lemma dropPathlessIndex_below {front : List (List Char)} {last : List Char} (h : '/' ∉ last) :
    dropPathlessIndex (below (front ++ [last])) = below (front ++ [if last = "_index".toList then [] else last]) := by
  have hsplit (name : List Char) : below (front ++ [name]) = below front ++ '/' :: name := by simp
  have hhead : (below (front ++ [last])).head? ≠ some '_' := by
    cases front <;> simp
  have hindex : '/' ∉ "_index".toList := by decide
  have hname : "/_index".toList = '/' :: "_index".toList := rfl
  rw [dropPathlessIndex, if_neg hhead, hsplit, hsplit, hname]
  by_cases hlast : last = "_index".toList
  · subst hlast
    have hsuffix : ('/' :: "_index".toList) <:+ below front ++ '/' :: "_index".toList := List.suffix_append ..
    rw [if_pos (List.isSuffixOf_iff_suffix.mpr hsuffix), if_pos rfl, List.append_cons, dropEnding_append]
  · rw [if_neg fun hsuffix => hlast ((slash_suffix_iff hindex h).mp (List.isSuffixOf_iff_suffix.mp hsuffix)),
      if_neg hlast]

/-- The characters of a segment that do not start it stay. -/
lemma parameters_within {segment : List Char} (h : '/' ∉ segment) (rest : List (List Char)) :
    parameters false (segment ++ below rest) = segment ++ parameters false (below rest) := by
  induction segment with
  | nil => rfl
  | cons c segment ih =>
    rw [List.mem_cons, not_or] at h
    rw [List.cons_append, parameters, if_neg (by simp), decide_eq_false (Ne.symm h.1), ih h.2]
    rfl

/-- A segment is marked if it starts with a dollar sign. -/
lemma parameters_segment {segment : List Char} (h : '/' ∉ segment) (rest : List (List Char)) :
    parameters true (segment ++ below rest) = token segment ++ parameters false (below rest) := by
  cases segment with
  | nil =>
    rcases below_eq_nil_or rest with hrest | ⟨more, hrest⟩ <;> rw [hrest]
    · rfl
    · rfl
  | cons c name =>
    rw [List.mem_cons, not_or] at h
    by_cases hc : c = '$'
    · subst hc
      have hname := parameters_within h.2 rest
      rw [List.cons_append, parameters, if_pos (by simp), hname]
      dsimp only
      cases name with
      | nil =>
        have hends : below rest = [] ∨ (below rest).head? = some '/' := by
          rcases below_eq_nil_or rest with hrest | ⟨more, hrest⟩ <;> simp [hrest]
        rw [List.nil_append, if_pos (by simpa using hends)]
        rfl
      | cons d name =>
        rw [List.mem_cons, not_or] at h
        rw [if_neg (by simpa using Ne.symm h.2.1)]
        rfl
    · have htoken : token (c :: name) = c :: name := by
        unfold token
        split
        · next heq => exact absurd (List.cons.inj heq).1 hc
        · next heq => exact absurd (List.cons.inj heq).1 hc
        · rfl
      rw [List.cons_append, parameters, if_neg (by simp [hc]), decide_eq_false (Ne.symm h.1),
        parameters_within h.2, htoken]
      rfl

/-- Parameters are marked segment by segment. -/
lemma parameters_below {segments : List (List Char)} (h : ∀ s ∈ segments, '/' ∉ s) (atStart : Bool) :
    parameters atStart (below segments) = below (segments.map token) := by
  induction segments generalizing atStart with
  | nil => rfl
  | cons segment rest ih =>
    rw [List.forall_mem_cons] at h
    rw [below_cons, parameters, if_neg (by simp), decide_eq_true rfl, parameters_segment h.1, ih h.2]
    simp

lemma translation_concat (front : List (List Char)) (last : List Char) :
    translation (front ++ [last]) =
      front.map token ++ [if last = "index".toList ∨ last = "_index".toList then [] else token last] := by
  induction front with
  | nil => rfl
  | cons piece front ih =>
    cases front with
    | nil => rfl
    | cons next front => exact congrArg (token piece :: ·) ih

/-- What is made of the pieces below the root. -/
lemma route_below {segments : List (List Char)} (hne : segments ≠ []) (h : ∀ s ∈ segments, '/' ∉ s) :
    parameters true (dropPathlessIndex (dropIndex (below segments))) = below (translation segments) := by
  obtain ⟨front, last, rfl⟩ := (List.eq_nil_or_concat' segments).resolve_left hne
  rw [List.forall_mem_append, List.forall_mem_singleton] at h
  have hindex (name : List Char) : '/' ∉ if last = name then [] else last := by
    split
    · nofun
    · exact h.2
  have hboth (name other : List Char) (hne : [] ≠ other) :
      (if (if last = name then [] else last) = other then [] else if last = name then [] else last) =
        if last = name ∨ last = other then [] else last := by
    by_cases hname : last = name
    · rw [if_pos hname, if_neg hne, if_pos (.inl hname)]
    · rw [if_neg hname]
      simp only [hname, false_or]
  have hlast := hboth "index".toList "_index".toList (by decide)
  rw [dropIndex_below h.2, dropPathlessIndex_below (hindex _), hlast, parameters_below, List.map_append,
    translation_concat, List.map_singleton, apply_ite token]
  · rfl
  · refine List.forall_mem_append.mpr ⟨h.1, List.forall_mem_singleton.mpr ?_⟩
    split
    · nofun
    · exact h.2

/-! ### Routes -/

lemma not_mem_token {piece : List Char} (h : '/' ∉ piece) : '/' ∉ token piece := by
  unfold token
  split
  · decide
  · simpa using h
  · exact h

lemma isToken_token {piece : List Char} (h : piece.head? ≠ some ':') : isToken (token piece) = isParameter piece := by
  unfold token
  split
  · rfl
  · rfl
  · next hparameter =>
    cases piece with
    | nil => rfl
    | cons c name =>
      have hc : c ≠ '$' := fun hc => hparameter name (by rw [hc])
      simp_all [isToken, isParameter]

/-- The tokens of a route are its parameters, each in its place. -/
lemma filter_translation {segments : List (List Char)} (h : ∀ piece ∈ segments, piece.head? ≠ some ':') :
    (translation segments).filter isToken = (segments.filter isParameter).map token := by
  have hfilter (front : List (List Char)) (hfront : ∀ piece ∈ front, piece.head? ≠ some ':') :
      (front.map token).filter isToken = (front.filter isParameter).map token := by
    rw [List.filter_map]
    congr 1
    exact List.filter_congr fun piece hpiece => isToken_token (hfront piece hpiece)
  rcases List.eq_nil_or_concat' segments with rfl | ⟨front, last, rfl⟩
  · rfl
  · rw [List.forall_mem_append, List.forall_mem_singleton] at h
    rw [translation_concat, List.filter_append, List.filter_append, List.map_append, hfilter front h.1]
    congr 1
    split
    · next hindex => rcases hindex with rfl | rfl <;> rfl
    · exact hfilter [last] (List.forall_mem_singleton.mpr h.2)

lemma not_mem_translation {segments : List (List Char)} (h : ∀ s ∈ segments, '/' ∉ s) :
    ∀ s ∈ translation segments, '/' ∉ s := by
  rcases List.eq_nil_or_concat' segments with rfl | ⟨front, last, rfl⟩
  · nofun
  · rw [List.forall_mem_append, List.forall_mem_singleton] at h
    rw [translation_concat, List.forall_mem_append, List.forall_mem_map, List.forall_mem_singleton]
    refine ⟨fun s hs => not_mem_token (h.1 s hs), ?_⟩
    split
    · nofun
    · exact not_mem_token h.2

lemma translation_ne_nil {segments : List (List Char)} (h : segments ≠ []) : translation segments ≠ [] := by
  obtain ⟨front, last, rfl⟩ := (List.eq_nil_or_concat' segments).resolve_left h
  rw [translation_concat]
  simp

/-- No line breaks below the root, if there are none in the path. -/
lemma not_mem_below {path root : String} {above rest : List (List Char)} (hline : '\n' ∉ path.toList)
    (hsegments : (relativePath path).splitOn '/' = above ++ root.toList :: rest) : '\n' ∉ below rest := by
  intro hmem
  obtain ⟨s, hs, hbreak⟩ := List.mem_flatMap.mp hmem
  have hsegment : s ∈ (relativePath path).splitOn '/' := by
    rw [hsegments]
    exact List.mem_append_right _ (List.mem_cons_of_mem _ hs)
  rcases List.mem_cons.mp hbreak with h | h
  · cases h
  · exact not_mem_relativePath hline (mem_segment hsegment h).1

/-- The route that the segments below the last root make, whatever stands above. -/
lemma toList_ofFile {path root : String} {above rest : List (List Char)} (hline : '\n' ∉ path.toList)
    (hsegments : (relativePath path).splitOn '/' = above ++ root.toList :: rest) (hlast : root.toList ∉ rest) :
    (ofFile path root).toList = below (translation (pieces (dropExtension (below rest)))) := by
  have hbelow := belowRoot_eq (not_mem_relativePath hline) hsegments hlast
  have hroute : ofFile path root =
      let route := parameters true (dropPathlessIndex (dropIndex
        ((dropExtension (belowRoot root.toList (relativePath path))).map fun c => if c = '.' then '/' else c)))
      if route = [] then "/" else String.ofList route := rfl
  rw [hroute, hbelow]
  dsimp only
  rcases (stem_dropExtension (not_mem_below hline hsegments)).eq_nil_or with hstem | ⟨stem, hstem⟩ <;> rw [hstem]
  · rfl
  · have hdots : (('/' :: stem).map fun c => if c = '.' then '/' else c) = below (pieces ('/' :: stem)) := by
      rw [List.map_cons, map_dots, below_eq (pieces_ne_nil _), pieces_cons]
      rfl
    rw [hdots, route_below (pieces_ne_nil _) fun s hs => not_mem_of_mem_pieces hs,
      below_eq (translation_ne_nil (pieces_ne_nil _)),
      if_neg (by simp), String.toList_ofList]

/-- The route of a module below a root is a slash and the translation of its pieces. It does not depend on what stands
above the last root, and its tokens are its parameters in order. -/
theorem ofFile_translation {path root : String} {above rest : List (List Char)} (hline : '\n' ∉ path.toList)
    (hsegments : (relativePath path).splitOn '/' = above ++ root.toList :: rest) (hlast : root.toList ∉ rest) :
    ∃ stem, Stem (below rest) stem ∧
      (ofFile path root).toList = '/' :: ['/'].intercalate (translation (pieces stem)) ∧
      (∀ other above', '\n' ∉ other.toList → (relativePath other).splitOn '/' = above' ++ root.toList :: rest →
        ofFile other root = ofFile path root) ∧
      ((∀ piece ∈ pieces stem, piece.head? ≠ some ':') →
        ((ofFile path root).toList.splitOn '/').filter isToken = ((pieces stem).filter isParameter).map token) := by
  have hroute := toList_ofFile hline hsegments hlast
  set stem := dropExtension (below rest) with hstem
  have hpieces : ∀ s ∈ translation (pieces stem), '/' ∉ s := not_mem_translation fun s hs => not_mem_of_mem_pieces hs
  refine ⟨stem, ?_, ?_, fun other above' hother hsegments' => ?_, fun hcolon => ?_⟩
  · exact stem_dropExtension (not_mem_below hline hsegments)
  · rw [hroute, below_eq (translation_ne_nil (pieces_ne_nil stem))]
  · rw [← String.toList_inj, hroute, toList_ofFile hother hsegments' hlast]
  · have hjoined : below (translation (pieces stem)) = ['/'].intercalate ([] :: translation (pieces stem)) := by
      rw [List.intercalate_cons_of_ne_nil (translation_ne_nil (pieces_ne_nil stem)),
        below_eq (translation_ne_nil (pieces_ne_nil stem))]
      rfl
    rw [hroute, hjoined, List.splitOn_intercalate '/' (List.forall_mem_cons.mpr ⟨List.not_mem_nil, hpieces⟩) (by simp),
      ← filter_translation hcolon]
    rfl

/-- A path with two directories that are called like the root. -/
def nestedPath : String :=
  "./app\\routes/old/routes/posts.$postId/$._index.tsx"

theorem nestedPath_translation : '\n' ∉ nestedPath.toList ∧
    (relativePath nestedPath).splitOn '/' =
      ["app".toList, "routes".toList, "old".toList] ++
        "routes".toList :: ["posts.$postId".toList, "$._index.tsx".toList] ∧
    (ofFile nestedPath "routes").toList = "/posts/:postId/:*/".toList := by
  have hline : '\n' ∉ nestedPath.toList := by decide +kernel
  have hsegments : (relativePath nestedPath).splitOn '/' =
      ["app".toList, "routes".toList, "old".toList] ++ "routes".toList ::
        ["posts.$postId".toList, "$._index.tsx".toList] := by decide +kernel
  obtain ⟨stem, hstem, hroute, -, -⟩ := ofFile_translation hline hsegments (by decide +kernel)
  have hrest : below ["posts.$postId".toList, "$._index.tsx".toList] =
      "/posts.$postId/$._index".toList ++ ".tsx".toList := by decide +kernel
  rw [hrest] at hstem
  have hplain : stem = "/posts.$postId/$._index".toList := hstem.unique (.extension (by decide))
  refine ⟨hline, hsegments, ?_⟩
  rw [hroute, hplain]
  decide +kernel

end RouteMigration.Proofs
