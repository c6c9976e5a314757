/-!
# Log messages

What a migration tells besides its result. A message has a level and the part of the program it comes
from.
-/

namespace RouteMigration

inductive Level where
  | debug
  | info
  | warning
  | error
  deriving DecidableEq, Repr

def Level.name : Level → String
  | .debug => "DEBUG"
  | .info => "INFO"
  | .warning => "WARNING"
  | .error => "ERROR"

/-- Detail counts up from warnings only. -/
def Level.detail : Level → Nat
  | .warning | .error => 0
  | .info => 1
  | .debug => 2

structure Message where
  level : Level
  topic : String
  text : String
  deriving DecidableEq, Repr

namespace Message

def line (message : Message) : String :=
  s!"{message.level.name} {message.topic}: {message.text}"

/-- About the migration of the module at `path`. -/
def engine (path text : String) : Message :=
  ⟨.debug, "routeshift.engine", s!"{path}: {text}"⟩

/-- About files. -/
def driver (level : Level) (text : String) : Message :=
  ⟨level, "routeshift.driver", text⟩

end Message

end RouteMigration
