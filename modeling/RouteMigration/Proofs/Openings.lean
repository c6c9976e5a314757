import RouteMigration.Grammar.Program
import RouteMigration.Proofs.Cursors

/-!
# Readers of single constructs

A reader of a construct or of a token gives one tree, which starts with the next token; what goes on with a tree gives
one that starts where that tree does. Where trees are read in roles, the roles that they play are known.
-/

namespace RouteMigration.Proofs
open Syntax Grammar OfTree

variable {α β : Type}

/-! ### Readers that succeed -/

/-- The value of a reader and that of the next one. -/
lemma bind_eq_ok {first : Read α} {next : α → Read β} {around : Surroundings} {cursor after : Cursor} {value : β}
    (h : (first >>= next) around cursor = .ok (value, after)) :
    ∃ middle between, first around cursor = .ok (middle, between) ∧ next middle around between = .ok (value, after) := by
  change Read.bind first next around cursor = _ at h
  unfold Read.bind at h
  split at h
  · next middle between hmiddle => exact ⟨middle, between, hmiddle, h⟩
  · cases h

lemma orElse_eq_ok {first second : Read α} {around : Surroundings} {cursor : Cursor} {result : α × Cursor}
    (h : (first <|> second) around cursor = .ok result) :
    first around cursor = .ok result ∨ second around cursor = .ok result := by
  change Read.orElse first (fun _ => second) around cursor = _ at h
  unfold Read.orElse at h
  split at h
  · next hfirst =>
    cases h
    exact .inl hfirst
  · split at h
    · next hsecond =>
      cases h
      exact .inr hsecond
    · cases h

lemma whenAhead_eq_ok {condition : List Char → Bool} {reader : Reader} {around : Surroundings} {cursor : Cursor}
    {result : List Tree × Cursor} (h : Reader.whenAhead condition reader around cursor = .ok result) :
    reader around cursor = .ok result := by
  obtain ⟨token, _, htoken, h⟩ := bind_eq_ok h
  cases htoken
  split at h
  · exact h
  · cases h

lemma followedBy_eq_ok {condition : List Char → Bool} {reader : Reader} {around : Surroundings} {cursor : Cursor}
    {result : List Tree × Cursor} (h : Reader.followedBy reader condition around cursor = .ok result) :
    reader around cursor = .ok result := by
  obtain ⟨trees, between, htrees, h⟩ := bind_eq_ok h
  obtain ⟨token, _, htoken, h⟩ := bind_eq_ok h
  cases htoken
  split at h
  · cases h
    exact htrees
  · cases h

lemma unbroken_eq_ok {reader : Reader} {around : Surroundings} {cursor : Cursor} {result : List Tree × Cursor}
    (h : Reader.unbroken reader around cursor = .ok result) : reader around cursor = .ok result := by
  obtain ⟨surroundings, _, hsurroundings, h⟩ := bind_eq_ok h
  cases hsurroundings
  split at h
  · exact h
  · obtain ⟨place, _, hplace, h⟩ := bind_eq_ok h
    cases hplace
    split at h
    · cases h
    · exact h

lemma forDialect_eq_ok {dialect : Dialect} {reader : Reader} {around : Surroundings} {cursor : Cursor}
    {result : List Tree × Cursor} (h : Reader.forDialect dialect reader around cursor = .ok result) :
    reader around cursor = .ok result := by
  obtain ⟨surroundings, _, hsurroundings, h⟩ := bind_eq_ok h
  cases hsurroundings
  split at h
  · exact h
  · cases h

lemma leaf_eq_ok {kind : String} {named : Bool} {find : Cursor → Option Cursor} {around : Surroundings}
    {cursor after : Cursor} {trees : List Tree} (h : Reader.leaf kind named find around cursor = .ok (trees, after)) :
    trees = [.mk kind named .none ⟨cursor.toToken.offset, after.offset⟩ []] := by
  obtain ⟨start, between, hstart, h⟩ := bind_eq_ok h
  cases hstart
  cases hfind : find cursor.toToken with
  | none =>
    rw [hfind] at h
    cases h
  | some stop =>
    rw [hfind] at h
    obtain ⟨⟨⟩, moved, hmoved, h⟩ := bind_eq_ok h
    cases hmoved
    cases h
    rfl

lemma node_eq_ok {kind : String} {reader : Reader} {around : Surroundings} {cursor after : Cursor} {trees : List Tree}
    (h : Reader.node kind reader around cursor = .ok (trees, after)) :
    ∃ children, reader around cursor = .ok (children, after) ∧
      trees = [.mk kind true .none ⟨cursor.toToken.offset, after.offset⟩ children] := by
  obtain ⟨start, _, hstart, h⟩ := bind_eq_ok h
  cases hstart
  obtain ⟨children, _, hchildren, h⟩ := bind_eq_ok h
  obtain ⟨stop, _, hstop, h⟩ := bind_eq_ok h
  cases hstop
  cases h
  exact ⟨children, hchildren, rfl⟩

lemma nodeAfter_eq_ok {kind : String} {first : List Tree} {reader : Reader} {around : Surroundings} {cursor after : Cursor}
    {trees : List Tree} (h : Reader.nodeAfter kind first reader around cursor = .ok (trees, after)) :
    ∃ rest, reader around cursor = .ok (rest, after) ∧
      trees = [.mk kind true .none ⟨(first.head?.map Tree.start).getD after.offset, after.offset⟩ (first ++ rest)] := by
  obtain ⟨rest, _, hrest, h⟩ := bind_eq_ok h
  obtain ⟨stop, _, hstop, h⟩ := bind_eq_ok h
  cases hstop
  cases h
  exact ⟨rest, hrest, rfl⟩

@[simp] lemma field_withField (role : String) (tree : Tree) : (tree.withField role).field = some role := by
  obtain ⟨kind, named, field, span, children⟩ := tree
  rfl

@[simp] lemma kind_withField (role : String) (tree : Tree) : (tree.withField role).kind = tree.kind := by
  obtain ⟨kind, named, field, span, children⟩ := tree
  rfl

@[simp] lemma isNamed_withField (role : String) (tree : Tree) : (tree.withField role).isNamed = tree.isNamed := by
  obtain ⟨kind, named, field, span, children⟩ := tree
  rfl

@[simp] lemma span_withField (role : String) (tree : Tree) : (tree.withField role).span = tree.span := by
  obtain ⟨kind, named, field, span, children⟩ := tree
  rfl

lemma start_withField (role : String) (tree : Tree) : (tree.withField role).start = tree.start := by
  rw [Tree.start, span_withField, Tree.start]

/-! ### One construct that starts with the next token -/

/-- The tree is a construct that starts at the offset. -/
structure OpensAt (offset : Nat) (tree : Tree) : Prop where
  start : tree.start = offset
  named : tree.isNamed = true

/-- The other tree starts where the tree does, and is a construct if the tree is one. -/
structure Continues (tree next : Tree) : Prop where
  start : next.start = tree.start
  named : tree.isNamed = true → next.isNamed = true

lemma Continues.refl (tree : Tree) : Continues tree tree :=
  ⟨rfl, id⟩

lemma Continues.trans {first middle last : Tree} (h : Continues first middle) (h' : Continues middle last) :
    Continues first last :=
  ⟨h'.start.trans h.start, h'.named ∘ h.named⟩

lemma OpensAt.continues {offset : Nat} {tree next : Tree} (h : OpensAt offset tree) (h' : Continues tree next) :
    OpensAt offset next :=
  ⟨h'.start.trans h.start, h'.named h.named⟩

/-- The reader gives one construct, which starts with the next token. -/
class ReadsOne (reader : Reader) : Prop where
  one : ∀ {around : Surroundings} {cursor after : Cursor} {trees : List Tree},
    reader around cursor = .ok (trees, after) → ∃ tree, trees = [tree] ∧ OpensAt cursor.toToken.offset tree

/-- The reader gives one tree, which continues the given one. -/
class GoesOn (tree : Tree) (reader : Reader) : Prop where
  one : ∀ {around : Surroundings} {cursor after : Cursor} {trees : List Tree},
    reader around cursor = .ok (trees, after) → ∃ next, trees = [next] ∧ Continues tree next

/-- The first tree that the reader gives starts with the next token. -/
class ReadsFirst (reader : Reader) : Prop where
  first : ∀ {around : Surroundings} {cursor after : Cursor} {trees : List Tree},
    reader around cursor = .ok (trees, after) → ∃ tree rest, trees = tree :: rest ∧ tree.start = cursor.toToken.offset

section Single

variable {reader first second : Reader} {tree : Tree} {kind role : String}

instance {find : Cursor → Option Cursor} : ReadsOne (Reader.leaf kind true find) where
  one h := ⟨_, leaf_eq_ok h, rfl, rfl⟩

instance {text : String} : ReadsOne (wordNode text) :=
  inferInstanceAs (ReadsOne (Reader.leaf _ _ _))

instance : ReadsOne identifier :=
  inferInstanceAs (ReadsOne (Reader.leaf _ _ _))

instance : ReadsOne Grammar.string :=
  inferInstanceAs (ReadsOne (Reader.leaf _ _ _))

instance : ReadsOne number :=
  inferInstanceAs (ReadsOne (Reader.leaf _ _ _))

instance : ReadsOne regex :=
  inferInstanceAs (ReadsOne (Reader.leaf _ _ _))

instance : ReadsOne privateName :=
  inferInstanceAs (ReadsOne (Reader.leaf _ _ _))

instance : ReadsOne (Reader.node kind reader) where
  one h := by
    obtain ⟨children, -, rfl⟩ := node_eq_ok h
    exact ⟨_, rfl, rfl, rfl⟩

instance : ReadsOne Read.fail where
  one h := by cases h

instance [hfirst : ReadsOne first] [hsecond : ReadsOne second] : ReadsOne (first <|> second) where
  one h := (orElse_eq_ok h).elim hfirst.one hsecond.one

instance {condition : Prop} [Decidable condition] [hfirst : ReadsOne first] [hsecond : ReadsOne second] :
    ReadsOne (if condition then first else second) := by
  split
  · exact hfirst
  · exact hsecond

instance {condition : List Char → Bool} [h : ReadsOne reader] : ReadsOne (Reader.whenAhead condition reader) where
  one hread := h.one (whenAhead_eq_ok hread)

instance {condition : List Char → Bool} [h : ReadsOne reader] : ReadsOne (Reader.followedBy reader condition) where
  one hread := h.one (followedBy_eq_ok hread)

instance {dialect : Dialect} [h : ReadsOne reader] : ReadsOne (Reader.forDialect dialect reader) where
  one hread := h.one (forDialect_eq_ok hread)

instance [h : ReadsOne reader] : ReadsOne (Reader.enclosed reader) where
  one hread := h.one hread

instance [h : ReadsOne reader] : ReadsOne (Reader.field role reader) where
  one hread := by
    obtain ⟨trees, _, htrees, hread⟩ := bind_eq_ok hread
    obtain ⟨tree, rfl, hstart, hnamed⟩ := h.one htrees
    cases hread
    exact ⟨tree.withField role, rfl, (start_withField role tree).trans hstart, (isNamed_withField role tree).trans hnamed⟩

lemma readsOne_token {next : Cursor → Reader} (hnext : ∀ cursor, ReadsOne (next cursor)) :
    ReadsOne (Read.token >>= next) where
  one h := by
    obtain ⟨token, _, htoken, h⟩ := bind_eq_ok h
    cases htoken
    exact (hnext _).one h

instance {next : Cursor → Reader} [hnext : ∀ cursor, ReadsOne (next cursor)] : ReadsOne (Read.token >>= next) :=
  readsOne_token hnext

instance {next : List Tree → Reader} [hfirst : ReadsOne first] [hnext : ∀ tree, GoesOn tree (next [tree])] :
    ReadsOne (first >>= next) where
  one h := by
    obtain ⟨trees, _, htrees, h⟩ := bind_eq_ok h
    obtain ⟨tree, rfl, htree⟩ := hfirst.one htrees
    obtain ⟨whole, rfl, hwhole⟩ := (hnext tree).one h
    exact ⟨whole, rfl, htree.continues hwhole⟩

instance {rest : List Tree} : GoesOn tree (Reader.nodeAfter kind (tree :: rest) reader) where
  one h := by
    obtain ⟨more, -, rfl⟩ := nodeAfter_eq_ok h
    exact ⟨_, rfl, rfl, fun _ => rfl⟩

instance {field : String} : GoesOn tree (Reader.nodeAfter kind ([tree].map (·.withField field)) reader) where
  one h := by
    obtain ⟨more, -, rfl⟩ := nodeAfter_eq_ok h
    exact ⟨_, rfl, start_withField field tree, fun _ => rfl⟩

instance : GoesOn tree (Read.pure [tree]) where
  one h := by
    cases h
    exact ⟨tree, rfl, .refl tree⟩

instance [hfirst : GoesOn tree first] [hsecond : GoesOn tree second] : GoesOn tree (first <|> second) where
  one h := (orElse_eq_ok h).elim hfirst.one hsecond.one

instance {condition : Prop} [Decidable condition] [hfirst : GoesOn tree first] [hsecond : GoesOn tree second] :
    GoesOn tree (if condition then first else second) := by
  split
  · exact hfirst
  · exact hsecond

instance {next : Cursor → Reader} [hnext : ∀ cursor, GoesOn tree (next cursor)] : GoesOn tree (Read.token >>= next) where
  one h := by
    obtain ⟨token, _, htoken, h⟩ := bind_eq_ok h
    cases htoken
    exact (hnext _).one h

instance {next : Cursor → Reader} [hnext : ∀ cursor, GoesOn tree (next cursor)] : GoesOn tree (Read.place >>= next) where
  one h := by
    obtain ⟨place, _, hplace, h⟩ := bind_eq_ok h
    cases hplace
    exact (hnext _).one h

instance {next : List Tree → Reader} [hfirst : GoesOn tree first] [hnext : ∀ inner, GoesOn inner (next [inner])] :
    GoesOn tree (first >>= next) where
  one h := by
    obtain ⟨trees, _, htrees, h⟩ := bind_eq_ok h
    obtain ⟨inner, rfl, hinner⟩ := hfirst.one htrees
    obtain ⟨whole, rfl, hwhole⟩ := (hnext inner).one h
    exact ⟨whole, rfl, hinner.trans hwhole⟩

/-- Wrapping a tree again and again leaves it where it starts. -/
instance {step : List Tree → Reader} [hstep : ∀ inner, GoesOn inner (step [inner])] :
    GoesOn tree (Reader.extend step [tree]) where
  one := by
    have hupTo (n : Nat) (inner : Tree) : GoesOn inner (Reader.extendUpTo step n [inner]) := by
      induction n generalizing inner with
      | zero => exact inferInstanceAs (GoesOn inner (Read.pure [inner]))
      | succ n ih =>
        refine ⟨fun {around cursor after trees} h => ?_⟩
        unfold Reader.extendUpTo at h
        split at h
        · cases h
          exact ⟨inner, rfl, .refl inner⟩
        · next more between hmore =>
          obtain ⟨wrapped, rfl, hwrapped⟩ := (hstep inner).one hmore
          obtain ⟨whole, rfl, hwhole⟩ := (ih wrapped).one h
          exact ⟨whole, rfl, hwrapped.trans hwhole⟩
    exact fun {_ _ _ _} h => (hupTo _ tree).one h

instance [h : ReadsOne reader] : ReadsFirst reader where
  first hread := by
    obtain ⟨tree, rfl, hstart, -⟩ := h.one hread
    exact ⟨tree, [], rfl, hstart⟩

lemma readsFirst_token {text : String} {find : Cursor → Option Cursor} : ReadsFirst (Reader.leaf text false find) where
  first h := ⟨_, [], leaf_eq_ok h, rfl⟩

instance {text : String} : ReadsFirst (word text) :=
  readsFirst_token

instance {text : String} : ReadsFirst (punctuation text) :=
  readsFirst_token

instance {rest : List Reader} [h : ReadsFirst first] : ReadsFirst (Reader.all (first :: rest)) where
  first hread := by
    obtain ⟨trees, _, htrees, hread⟩ := bind_eq_ok hread
    obtain ⟨tree, front, rfl, hstart⟩ := h.first htrees
    obtain ⟨more, _, -, hread⟩ := bind_eq_ok hread
    cases hread
    exact ⟨tree, front ++ more, rfl, hstart⟩

instance {rest : List Reader} [h : ReadsFirst first] [hrest : ReadsFirst (Reader.all rest)] :
    ReadsFirst (Reader.all (Reader.optional first :: rest)) where
  first hread := by
    obtain ⟨trees, between, htrees, hread⟩ := bind_eq_ok hread
    obtain ⟨more, _, hmore, hread⟩ := bind_eq_ok hread
    cases hread
    rcases orElse_eq_ok htrees with htrees | hnone
    · obtain ⟨tree, front, rfl, hstart⟩ := h.first htrees
      exact ⟨tree, front ++ more, rfl, hstart⟩
    · cases hnone
      obtain ⟨tree, front, rfl, hstart⟩ := hrest.first hmore
      exact ⟨tree, front, rfl, hstart⟩

instance [hfirst : ReadsFirst first] [hsecond : ReadsFirst second] : ReadsFirst (first <|> second) where
  first h := (orElse_eq_ok h).elim hfirst.first hsecond.first

instance {condition : List Char → Bool} [h : ReadsFirst reader] : ReadsFirst (Reader.whenAhead condition reader) where
  first hread := h.first (whenAhead_eq_ok hread)

instance {condition : List Char → Bool} [h : ReadsFirst reader] : ReadsFirst (Reader.followedBy reader condition) where
  first hread := h.first (followedBy_eq_ok hread)

/-- What wraps the first of several trees into a construct gives one that starts where they do. -/
lemma readsOne_bind {next : List Tree → Reader} [hfirst : ReadsFirst first]
    (hnext : ∀ {tree : Tree} {rest : List Tree} {around : Surroundings} {cursor after : Cursor} {trees : List Tree},
      next (tree :: rest) around cursor = .ok (trees, after) → ∃ whole, trees = [whole] ∧ OpensAt tree.start whole) :
    ReadsOne (first >>= next) where
  one h := by
    obtain ⟨trees, _, htrees, h⟩ := bind_eq_ok h
    obtain ⟨tree, rest, rfl, hstart⟩ := hfirst.first htrees
    rw [← hstart]
    exact hnext h

lemma opensAt_nodeAfter {rest : List Tree} {around : Surroundings} {cursor after : Cursor} {trees : List Tree}
    (h : Reader.nodeAfter kind (tree :: rest) reader around cursor = .ok (trees, after)) :
    ∃ whole, trees = [whole] ∧ OpensAt tree.start whole := by
  obtain ⟨more, -, rfl⟩ := nodeAfter_eq_ok h
  exact ⟨_, rfl, rfl, rfl⟩

/-- What goes on with a construct around a first tree starts where the tree does. -/
lemma opensAt_nodeAfter_bind {rest : List Tree} {next : List Tree → Reader} [hnext : ∀ inner, GoesOn inner (next [inner])]
    {around : Surroundings} {cursor after : Cursor} {trees : List Tree}
    (h : (Reader.nodeAfter kind (tree :: rest) reader >>= next) around cursor = .ok (trees, after)) :
    ∃ whole, trees = [whole] ∧ OpensAt tree.start whole := by
  obtain ⟨inner, _, hinner, h⟩ := bind_eq_ok h
  obtain ⟨first, rfl, hfirst⟩ := opensAt_nodeAfter hinner
  obtain ⟨whole, rfl, hwhole⟩ := (hnext first).one h
  exact ⟨whole, rfl, hfirst.continues hwhole⟩

end Single

/-! ### An opening token -/

/-- The first tree that the reader gives is the token, and the next token of the source. -/
def ReadsMark (text : String) (reader : Reader) : Prop :=
  ∀ {around : Surroundings} {cursor after : Cursor} {trees : List Tree}, reader around cursor = .ok (trees, after) →
    ∃ opening rest, trees = opening :: rest ∧ opening.kind = text ∧ opening.isNamed = false ∧
      opening.start = cursor.toToken.offset

lemma readsMark_all {text : String} {rest : List Reader} : ReadsMark text (Reader.all (punctuation text :: rest)) := by
  intro around cursor after trees h
  obtain ⟨opening, _, hopening, h⟩ := bind_eq_ok h
  obtain ⟨more, _, -, h⟩ := bind_eq_ok h
  cases h
  rw [leaf_eq_ok hopening]
  exact ⟨_, more, rfl, rfl, rfl, rfl⟩

lemma ReadsMark.enclosed {text : String} {reader : Reader} (h : ReadsMark text reader) :
    ReadsMark text (Reader.enclosed reader) :=
  fun hread => h hread

/-! ### Roles -/

/-- The roles that trees play, in their order. -/
def rolesOf (trees : List Tree) : List String :=
  trees.filterMap Tree.field

/-- Every construct among the trees plays a role, and the roles in their order are one of the lists. -/
structure PlaysRoles (roles : List (List String)) (trees : List Tree) : Prop where
  named : ∀ tree ∈ trees, tree.isNamed = true → tree.field.isSome = true
  mem : rolesOf trees ∈ roles

lemma PlaysRoles.mono {roles others : List (List String)} {trees : List Tree} (h : PlaysRoles roles trees)
    (hsubset : roles ⊆ others) : PlaysRoles others trees :=
  ⟨h.named, hsubset h.mem⟩

/-- Each list of the first ones with each of the second ones behind it. -/
def inTurn (first second : List (List String)) : List (List String) :=
  first.flatMap fun front => second.map (front ++ ·)

lemma PlaysRoles.append {roles others : List (List String)} {front rest : List Tree} (h : PlaysRoles roles front)
    (hrest : PlaysRoles others rest) : PlaysRoles (inTurn roles others) (front ++ rest) where
  named := List.forall_mem_append.mpr ⟨h.named, hrest.named⟩
  mem := by
    rw [rolesOf, List.filterMap_append]
    exact List.mem_flatMap.mpr ⟨_, h.mem, List.mem_map.mpr ⟨_, hrest.mem, rfl⟩⟩

/-- What is read plays one of the lists of roles. The lists are found together with the instance. -/
class Plays (reader : Reader) (roles : outParam (List (List String))) : Prop where
  plays : ∀ {around : Surroundings} {cursor after : Cursor} {trees : List Tree},
    reader around cursor = .ok (trees, after) → PlaysRoles roles trees

lemma Plays.mono {reader : Reader} {roles others : List (List String)} (h : Plays reader roles)
    (hsubset : roles ⊆ others) : Plays reader others where
  plays hread := (h.plays hread).mono hsubset

section Roles

variable {reader first second : Reader} {readers : List Reader} {roles others : List (List String)} {role text : String}

lemma playsRoles_nil : PlaysRoles [[]] [] :=
  ⟨List.forall_mem_nil _, List.mem_singleton.mpr rfl⟩

instance : Plays Reader.none [[]] where
  plays h := by
    cases h
    exact playsRoles_nil

instance : Plays (Reader.all []) [[]] :=
  inferInstanceAs (Plays Reader.none _)

instance [h : Plays first roles] [hrest : Plays (Reader.all readers) others] :
    Plays (Reader.all (first :: readers)) (inTurn roles others) where
  plays hread := by
    obtain ⟨front, _, hfront, hread⟩ := bind_eq_ok hread
    obtain ⟨rest, _, hmore, hread⟩ := bind_eq_ok hread
    cases hread
    exact (h.plays hfront).append (hrest.plays hmore)

lemma plays_token {find : Cursor → Option Cursor} : Plays (Reader.leaf text false find) [[]] where
  plays h := by
    rw [leaf_eq_ok h]
    exact ⟨List.forall_mem_singleton.mpr nofun, List.mem_singleton.mpr rfl⟩

instance : Plays (word text) [[]] :=
  plays_token

instance : Plays (punctuation text) [[]] :=
  plays_token

instance [h : ReadsOne reader] : Plays (Reader.field role reader) [[role]] where
  plays hread := by
    obtain ⟨trees, _, htrees, hread⟩ := bind_eq_ok hread
    obtain ⟨tree, rfl, -⟩ := h.one htrees
    cases hread
    refine ⟨List.forall_mem_singleton.mpr fun _ => ?_, List.mem_singleton.mpr ?_⟩
    · rw [field_withField]
      rfl
    · rw [rolesOf, List.map_singleton, List.filterMap_cons, field_withField]
      rfl

instance [hfirst : Plays first roles] [hsecond : Plays second others] : Plays (first <|> second) (roles ++ others) where
  plays h := (orElse_eq_ok h).elim (fun h => (hfirst.plays h).mono (List.subset_append_left ..))
    fun h => (hsecond.plays h).mono (List.subset_append_right ..)

instance [h : Plays reader roles] : Plays (Reader.optional reader) (roles ++ [[]]) :=
  inferInstanceAs (Plays (reader <|> Reader.none) _)

instance {condition : Prop} [Decidable condition] [hfirst : Plays first roles] [hsecond : Plays second others] :
    Plays (if condition then first else second) (roles ++ others) where
  plays h := by
    split at h
    · exact (hfirst.plays h).mono (List.subset_append_left ..)
    · exact (hsecond.plays h).mono (List.subset_append_right ..)

instance {condition : List Char → Bool} [h : Plays reader roles] : Plays (Reader.whenAhead condition reader) roles where
  plays hread := h.plays (whenAhead_eq_ok hread)

instance {condition : List Char → Bool} [h : Plays reader roles] : Plays (Reader.followedBy reader condition) roles where
  plays hread := h.plays (followedBy_eq_ok hread)

instance [h : Plays reader roles] : Plays (Reader.unbroken reader) roles where
  plays hread := h.plays (unbroken_eq_ok hread)

instance [h : Plays reader roles] : Plays (Reader.enclosed reader) roles where
  plays hread := h.plays hread

end Roles

/-- The roles in the signature of a function. -/
def signatureRoles : List (List String) :=
  inTurn [["type_parameters"], []] (inTurn [["parameters"]] [["return_type"], []])

/-- The roles in an arrow function, which may have a single parameter without parentheses. -/
def arrowRoles : List (List String) :=
  inTurn (signatureRoles ++ [["parameter"]]) [["body"]]

/-- The roles in a function with a keyword. -/
def functionRoles : List (List String) :=
  inTurn [["name"], []] (inTurn signatureRoles [["body"]])

def callRoles : List (List String) :=
  inTurn [["function"]] (inTurn [["type_arguments"], []] [["arguments"]])

end RouteMigration.Proofs
