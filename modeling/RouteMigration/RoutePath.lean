/-!
# Route paths

The place of a route module in the file tree determines the pattern of addresses it serves. What follows
the directory that roots the routes counts; dots separate segments just like slashes do, an index adds
nothing, and a segment that starts with a dollar sign is a parameter.
-/

namespace RouteMigration.RoutePath

/-- A stretch of text that may end the file path: nothing, or the line feed that ends its only line. -/
def endsLine (rest : List Char) : Bool :=
  rest = [] || rest = ['\n']

/-- What follows `segment` when the text starts with it as a whole segment. -/
def afterSegment (segment text : List Char) : Option (List Char) :=
  if segment.isPrefixOf text then
    let rest := text.drop segment.length
    if rest.head? = some '/' || endsLine rest then some rest else none
  else none

/-- What follows the last segment equal to `root` on the first line; `atStart` tells whether a segment
starts here. -/
def afterLastSegment (root : List Char) : Bool → List Char → Option (List Char)
  | atStart, [] => if atStart then afterSegment root [] else none
  | atStart, c :: rest =>
    let later := if c = '\n' then none else afterLastSegment root (c = '/') rest
    later <|> if atStart then afterSegment root (c :: rest) else none

def belowRoot (root text : List Char) : List Char :=
  (afterLastSegment root true text).getD text

/-- The text without `ending`, if it ends that way. -/
def dropEnding (ending text : List Char) : List Char :=
  if ending.isSuffixOf text then text.take (text.length - ending.length) else text

def extensions : List (List Char) :=
  [".tsx".toList, ".ts".toList, ".jsx".toList, ".js".toList]

def dropExtension (text : List Char) : List Char :=
  let (line, lineEnd) :=
    if text.getLast? = some '\n' then (text.dropLast, ['\n']) else (text, [])
  match extensions.find? fun e => e.isSuffixOf line with
  | some e => dropEnding e line ++ lineEnd
  | none => text

/-- An index names the directory it is in. -/
def dropIndex (text : List Char) : List Char :=
  let index := "index".toList
  if text = index || ('/' :: index).isSuffixOf text then dropEnding index text else text

/-- A leading underscore starts the first segment, and an index with an underscore is dropped. -/
def dropPathlessIndex (text : List Char) : List Char :=
  let rooted := if text.head? = some '_' then '/' :: text else text
  if "/_index".toList.isSuffixOf rooted then dropEnding "_index".toList rooted else rooted

/-- A dollar sign at the start of a segment marks a parameter; alone it stands for all that follows. -/
def parameters (atStart : Bool) : List Char → List Char
  | [] => []
  | c :: rest =>
    if c = '$' && atStart then
      let endsSegment := rest = [] || rest.head? = some '/'
      (if endsSegment then [':', '*'] else [':']) ++ parameters false rest
    else c :: parameters (c = '/') rest

/-- The route path of the module at `path`, where the directory `root` holds the routes. -/
def ofFile (path : String) (root : String) : String :=
  let slashed := path.toList.map fun c => if c = '\\' then '/' else c
  let relative := if "./".toList.isPrefixOf slashed then slashed.drop 2 else slashed
  let name := dropExtension (belowRoot root.toList relative)
  let segments := name.map fun c => if c = '.' then '/' else c
  let route := parameters true (dropPathlessIndex (dropIndex segments))
  if route = [] then "/" else String.ofList route

end RouteMigration.RoutePath
