import RouteMigration.Grammar.Statements

/-!
# Imports and exports
-/

namespace RouteMigration.Grammar

open Reader Read

namespace Modules

/-- A name that other modules know, written as a name or a string. -/
def externalName : Reader :=
  string <|> anyName "identifier"

def fromClause : Reader :=
  all [word "from", field "source" string]

/-- A mark of types only. -/
def typeMark : Reader :=
  word "type" <|> word "typeof"

def importSpecifier : Reader :=
  let renamed := all [field "name" externalName, word "as", field "alias" identifier]
  let plain := field "name" identifier
  let endsSpecifier := fun rest => startsWith "," rest || startsWith "\x7d" rest
  let unmarked := followedBy (renamed <|> plain) endsSpecifier
  node "import_specifier" (unmarked <|> all [typeMark, unmarked])

def namedImports : Reader :=
  node "named_imports" (all [
    punctuation "\x7b",
    optional (all [separated importSpecifier comma, optional comma]),
    punctuation "\x7d"])

def importClause : Reader :=
  let namespaceImport := node "namespace_import" (all [punctuation "*", word "as", identifier])
  node "import_clause" (
    namespaceImport <|> namedImports <|>
      all [identifier, optional (all [comma, namespaceImport <|> namedImports])])

def importAttributes (rules : Rules) : Reader :=
  node "import_attribute" (all [onSameLine (word "with" <|> word "assert"), Expressions.object rules])

def importStatement (rules : Rules) : Reader :=
  let require := node "import_require_clause" (all [
    identifier, equals, word "require", punctuation "(", field "source" string, punctuation ")"])
  let imported := all [importClause, fromClause] <|> require
  node "import_statement" (all [
    word "import",
    imported <|> all [typeMark, imported] <|> field "source" string,
    optional (importAttributes rules),
    statementEnd { operator := false }])

def exportSpecifier : Reader :=
  let endsSpecifier := fun rest => startsWith "," rest || startsWith "\x7d" rest
  let unmarked := followedBy
    (all [field "name" externalName, optional (all [word "as", field "alias" externalName])])
    endsSpecifier
  node "export_specifier" (unmarked <|> all [typeMark, unmarked])

def exportClause : Reader :=
  node "export_clause" (all [
    punctuation "\x7b",
    optional (all [separated exportSpecifier comma, optional comma]),
    punctuation "\x7d"])

/-- What follows `export default`. -/
def defaultExport (rules : Rules) : Reader :=
  let declared := whenAhead
    (wordAhead ["function", "async", "class", "abstract", "interface", "enum", "type", "namespace",
      "module", "declare"])
    (field "declaration" (Statements.declaration rules false))
  let decorated := whenAhead (startsWith "@") (field "declaration" (Statements.declaration rules false))
  all [word "default",
    declared <|> decorated <|> all [field "value" (rules .value), statementEnd {}]]

def exportStatement (rules : Rules) : Reader :=
  let ending := statementEnd { operator := false }
  let namespaceExport := node "namespace_export" (all [punctuation "*", word "as", externalName])
  let everything := all [namespaceExport <|> punctuation "*", fromClause, ending]
  let clause := all [exportClause, optional fromClause, ending]
  let types := all [word "type", followedBy none (startsWith "\x7b"), clause]
  let assigned := all [equals, rules .value, statementEnd {}]
  let asNamespace := all [word "as", word "namespace", identifier, ending]
  node "export_statement" (all [
    many (field "decorator" (Expressions.decorator rules)),
    word "export",
    everything <|> clause <|> types <|> assigned <|> asNamespace <|> defaultExport rules <|>
      field "declaration" (Statements.declaration rules false)])

end Modules

end RouteMigration.Grammar
