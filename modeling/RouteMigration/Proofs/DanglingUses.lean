import RouteMigration.Proofs.AccountedNames
import RouteMigration.Proofs.KeptNames
import RouteMigration.Proofs.ParsedDefaults

/-!
# Uses of released handlers

Before a handler is released from its declaration, the other statements are searched for its name. What is
not searched is the statement of the handler itself, the function that moves into the descriptor, and the
component of the descriptor. A name that the module declared and that is used without being declared in the
end is the name of such a handler, or the neighbour of a variable that is both handlers.
-/

namespace RouteMigration.Proofs
open Syntax Route

variable {settings : Settings} {module : Module}

/-- A statement of the draft uses the name of a handler, and it is the descriptor or the statement that declared
the handler. Where one variable is both handlers, any use of a name of its statement counts. -/
inductive UsesReleased (module : Module) (draft : Draft) (name : String) : Prop where
  | handler {located : Located} {entry : Entry} : located ∈ handlersOf module → located.localName = name →
      entry ∈ draft.entries → (entry.origin = .descriptor ∨ entry.origin = .statement located.statement) →
      name ∈ entry.node.referencedValues → UsesReleased module draft name
  | twins {entry : Entry} : DeclaredWithTwins module name → entry ∈ draft.entries →
      name ∈ entry.node.referencedValues → UsesReleased module draft name

lemma UsesReleased.used {draft : Draft} {name : String} (h : UsesReleased module draft name) :
    name ∈ draft.body.flatMap Node.referencedValues := by
  obtain ⟨-, -, hentry, -, hvalue⟩ | ⟨-, hentry, hvalue⟩ := h
  · exact List.mem_flatMap.mpr ⟨_, List.mem_map_of_mem hentry, hvalue⟩
  · exact List.mem_flatMap.mpr ⟨_, List.mem_map_of_mem hentry, hvalue⟩

/-- What a draft uses of the names of the module and does not declare is used where the search for uses of a
handler does not look. -/
lemma Accounted.usesReleased {draft : Draft} {name : String} (h : Accounted module draft name)
    (hlost : name ∉ draft.body.flatMap Node.declaredNames) (hused : name ∈ draft.body.flatMap Node.referencedValues) :
    UsesReleased module draft name := by
  obtain ⟨statement, hstatement, hvalue⟩ := List.mem_flatMap.mp hused
  obtain ⟨entry, hentry, rfl⟩ := List.mem_map.mp hstatement
  cases h with
  | declared hdeclaring _ hdeclared =>
    exact absurd (List.mem_flatMap.mpr ⟨_, List.mem_map_of_mem hdeclaring, hdeclared⟩) hlost
  | released hhandler hlocal hreleased =>
    exact .handler hhandler hlocal hentry (hreleased entry hentry hvalue) hvalue
  | twins htwins => exact .twins htwins hentry hvalue

/-- A name that the module declared is used without being declared in the end if and only if the draft does not
declare it, no added import binds it, and it is used where the search for uses of a handler does not look. -/
theorem migrate_danglingUse {migrated : Migrated} {kind : Kind} {path : String} {advisories : List String}
    (h : migrate settings module = .ok migrated) (hfinal : migrated.outcome = .finalized kind path advisories)
    (hplain : ∀ statement ∈ module.body, PlainDefault statement) :
    ∃ draft,
      draftOf settings module (RoutePath.ofFile module.path settings.routesRoot) = .ok (.ok (kind, draft)) ∧
      ∀ name ∈ module.declaredNames,
        (name ∈ migrated.module.referencedValues ∧ name ∉ migrated.module.declaredNames ↔
          name ∉ draft.body.flatMap Node.declaredNames ∧
            name ∉ addedNames settings kind module.referencedNames draft.body ∧ UsesReleased module draft name) := by
  obtain ⟨draft, hdraft, hbody⟩ := finalized_body h hfinal
  refine ⟨draft, hdraft, fun name hname => ?_⟩
  have hvalues : migrated.module.referencedValues = draft.body.flatMap Node.referencedValues := by
    rw [Module.referencedValues, hbody, finish_referencedValues]
  have hdeclared (hused : name ∈ draft.body.flatMap Node.referencedValues) :
      name ∈ migrated.module.declaredNames ↔ name ∈ draft.body.flatMap Node.declaredNames ∨
        name ∈ addedNames settings kind module.referencedNames draft.body := by
    obtain ⟨statement, hstatement, hvalue⟩ := List.mem_flatMap.mp hused
    have hreferenced : name ∈ draft.body.flatMap Node.referencedNames :=
      List.mem_flatMap.mpr ⟨statement, hstatement, referencedValues_subset _ hvalue⟩
    rw [Module.declaredNames, hbody, finish_declaredNames hreferenced]
  rw [hvalues]
  constructor
  · rintro ⟨hused, hlost⟩
    rw [hdeclared hused, not_or] at hlost
    have haccounted := (draftOf_eq_ok hdraft).accounted hplain hname
    exact ⟨hlost.1, hlost.2, haccounted.usesReleased hlost.1 hused⟩
  · rintro ⟨hdraftLost, hadded, huses⟩
    refine ⟨huses.used, ?_⟩
    rw [hdeclared huses.used, not_or]
    exact ⟨hdraftLost, hadded⟩

/-- A page whose loader is used by another variable of its statement. -/
def sharedPage : Module where
  path := "routes/notes.tsx"
  body :=
    let arrow (body : Node) := .make (.arrowFunction { params := .make (.parameters [] none), body })
    let declarator (name : String) (body : Node) := .make (.declarator (variableOf name) (some (arrow body)) none)
    let declarators := [declarator "loader" (.make (.block [])), declarator "again" (callOf (variableOf "loader") [])]
    [.make (.exportNamed { declaration := some (.make (.variableDeclaration "const" declarators)) }),
      .make (.exportDefault (arrow (callOf (variableOf "again") [])))]

theorem sharedPage_danglingUse : ∃ migrated draft, migrate defaultSettings sharedPage = .ok migrated ∧
    "loader" ∈ migrated.module.referencedValues ∧ "loader" ∉ migrated.module.declaredNames ∧
    UsesReleased sharedPage draft "loader" := by
  obtain ⟨migrated, hmigrated, hfinal, hused, hlost⟩ : ∃ migrated, migrate defaultSettings sharedPage = .ok migrated ∧
      migrated.outcome = .finalized .page "/notes" [] ∧ "loader" ∈ migrated.module.referencedValues ∧
      "loader" ∉ migrated.module.declaredNames := ⟨_, rfl, rfl, by decide +kernel, by decide +kernel⟩
  have hplain : ∀ statement ∈ sharedPage.body, PlainDefault statement := by
    intro statement hstatement declaration hform
    rcases List.mem_pair.mp hstatement with rfl | rfl
    · cases hform
    · cases hform
      exact ⟨nofun, nofun⟩
  obtain ⟨draft, -, hdangling⟩ := migrate_danglingUse hmigrated hfinal hplain
  have huses := ((hdangling "loader" (by decide +kernel)).mp ⟨hused, hlost⟩).2.2
  exact ⟨migrated, draft, hmigrated, hused, hlost, huses⟩

end RouteMigration.Proofs
