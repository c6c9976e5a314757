/-!
# Usage and help

The texts that tell how the program is called.
-/

namespace RouteMigration.CommandLine

def program : String := "routeshift"

def unlines (lines : List String) : String :=
  String.join (lines.map (· ++ "\n"))

def mainUsage : String :=
  unlines ["usage: routeshift [-h] [-v] \x7bmigrate,path\x7d ..."]

def mainHelp : String :=
  mainUsage ++ unlines [
    "",
    "Routeshift — migrate Remix route modules to TanStack route descriptors.",
    "",
    "positional arguments:",
    "  \x7bmigrate,path\x7d",
    "    migrate       Rewrite route modules in place",
    "    path          Print the route path of route files",
    "",
    "options:",
    "  -h, --help      show this help message and exit",
    "  -v, --verbose   Log more detail (repeat for debug output)"]

def migrateUsage : String :=
  unlines [
    "usage: routeshift migrate [-h] [--dry-run] [--diff] [--workers WORKERS]",
    "                          [--routes-root ROUTES_ROOT] [--envelope ENVELOPE]",
    "                          [--report FILE]",
    "                          paths [paths ...]"]

def helpLine : String :=
  "  -h, --help            show this help message and exit"

def routesRootLines : List String :=
  ["  --routes-root ROUTES_ROOT",
    "                        Directory name that roots the route tree (default:",
    "                        routes)"]

def migrateHelp : String :=
  migrateUsage ++ unlines ([
    "",
    "positional arguments:",
    "  paths                 Route files or directories to walk",
    "",
    "options:",
    helpLine,
    "  --dry-run             Report what would change without writing files",
    "  --diff                Print a unified diff for every migrated file",
    "  --workers WORKERS     Number of files processed concurrently"] ++
    routesRootLines ++ [
    "  --envelope ENVELOPE   Name of the response helper to unwrap (default: json)",
    "  --report FILE         Write a Markdown report (requires routeshift[report])"])

def pathUsage : String :=
  unlines ["usage: routeshift path [-h] [--routes-root ROUTES_ROOT] files [files ...]"]

def pathHelp : String :=
  pathUsage ++ unlines ([
    "",
    "positional arguments:",
    "  files                 Route file paths (need not exist)",
    "",
    "options:",
    helpLine] ++ routesRootLines)

end RouteMigration.CommandLine
