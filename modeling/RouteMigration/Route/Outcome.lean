import RouteMigration.Route.DefaultExport

/-!
# Outcomes

What the migration of a module came to.
-/

namespace RouteMigration.Route

/-- Why a module was left as it was. -/
inductive SkipReason where
  /-- A resource route without handlers. -/
  | notApplicable
  /-- A page route that loads no data. -/
  | missingLoader
  /-- The module declares a descriptor. -/
  | alreadyMigrated
  deriving DecidableEq, Repr

def SkipReason.name : SkipReason → String
  | .notApplicable => "not-applicable"
  | .missingLoader => "missing-loader"
  | .alreadyMigrated => "already-migrated"

inductive Outcome where
  /-- The module is as it was. -/
  | skipped (kind : Option Kind) (reason : SkipReason)
  /-- The module was migrated; the advisories stand in it as comments, too. -/
  | finalized (kind : Kind) (routePath : String) (advisories : List String)
  deriving DecidableEq, Repr

namespace Outcome

/-- The last stage of the migration. -/
def stage : Outcome → String
  | .skipped .. => "skipped"
  | .finalized .. => "finalized"

def kind? : Outcome → Option Kind
  | .skipped kind _ => kind
  | .finalized kind .. => some kind

def routePath? : Outcome → Option String
  | .skipped .. => none
  | .finalized _ path _ => some path

def reason? : Outcome → Option SkipReason
  | .skipped _ reason => some reason
  | .finalized .. => none

def advisories : Outcome → List String
  | .skipped .. => []
  | .finalized _ _ advisories => advisories

def isChanged : Outcome → Bool
  | .skipped .. => false
  | .finalized .. => true

end Outcome

end RouteMigration.Route
