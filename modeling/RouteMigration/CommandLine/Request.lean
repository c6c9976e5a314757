import RouteMigration.CommandLine.Arguments
import RouteMigration.CommandLine.Help

/-!
# Requests

What the arguments of the program ask for.
-/

namespace RouteMigration.CommandLine

structure MigrateRequest where
  paths : List String
  dryRun : Bool := false
  diff : Bool := false
  routesRoot : Option String := none
  envelope : Option String := none
  report : Option String := none
  deriving DecidableEq, Repr

structure PathRequest where
  files : List String
  routesRoot : Option String := none
  deriving DecidableEq, Repr

inductive Request where
  /-- To print a help text. -/
  | help (text : String)
  | migrate (detail : Nat) (request : MigrateRequest)
  | path (detail : Nat) (request : PathRequest)
  deriving DecidableEq, Repr

/-- Arguments that ask for nothing: the usage that they violate, by the program or one of its commands. -/
structure UsageFault where
  usage : String
  command : String
  fault : ArgumentFault
  deriving DecidableEq, Repr

def UsageFault.message (fault : UsageFault) : String :=
  s!"{fault.usage}{fault.command}: error: {fault.fault.message}\n"

/-! ### Options -/

def helpOption : OptionSpec := ⟨["-h", "--help"], .help⟩
def verboseOption : OptionSpec := ⟨["-v", "--verbose"], .flag⟩
def dryRunOption : OptionSpec := ⟨["--dry-run"], .flag⟩
def diffOption : OptionSpec := ⟨["--diff"], .flag⟩
def workersOption : OptionSpec := ⟨["--workers"], .number⟩
def routesRootOption : OptionSpec := ⟨["--routes-root"], .text⟩
def envelopeOption : OptionSpec := ⟨["--envelope"], .text⟩
def reportOption : OptionSpec := ⟨["--report"], .text⟩

def mainSpec : CommandSpec where
  options := [helpOption, verboseOption]
  operands := .command ["migrate", "path"]

def migrateSpec : CommandSpec where
  options := [helpOption, dryRunOption, diffOption, workersOption, routesRootOption, envelopeOption,
    reportOption]
  operands := .many

def pathSpec : CommandSpec where
  options := [helpOption, routesRootOption]
  operands := .many

namespace Arguments

def count (arguments : Arguments) (option : OptionSpec) : Nat :=
  arguments.options.countP fun (other, _) => other = option

def has (arguments : Arguments) (option : OptionSpec) : Bool :=
  0 < arguments.count option

/-- The value of an option; the last one, if it is given several times. -/
def value? (arguments : Arguments) (option : OptionSpec) : Option String :=
  (arguments.options.filterMap fun (other, value) =>
    if other = option then value else none).getLast?

end Arguments

/-! ### Reading requests -/

/-- A command of the program. -/
structure Command where
  name : String
  spec : CommandSpec
  usage : String
  help : String
  /-- The name of its operands. -/
  operandName : String
  /-- The request from the options and the operands. -/
  request : Nat → Arguments → List String → Request

def migrateCommand : Command where
  name := "migrate"
  spec := migrateSpec
  usage := migrateUsage
  help := migrateHelp
  operandName := "paths"
  request := fun detail arguments paths => .migrate detail
    { paths
      dryRun := arguments.has dryRunOption
      diff := arguments.has diffOption
      routesRoot := arguments.value? routesRootOption
      envelope := arguments.value? envelopeOption
      report := arguments.value? reportOption }

def pathCommand : Command where
  name := "path"
  spec := pathSpec
  usage := pathUsage
  help := pathHelp
  operandName := "files"
  request := fun detail arguments files => .path detail
    { files, routesRoot := arguments.value? routesRootOption }

def mainFault (fault : ArgumentFault) : UsageFault :=
  ⟨mainUsage, program, fault⟩

/-- Reads the arguments of a command. What the command does not know is reported by the program. -/
def readCommand (command : Command) (detail : Nat) (extras texts : List String) :
    Except UsageFault Request :=
  let fault := fun fault => (⟨command.usage, s!"{program} {command.name}", fault⟩ : UsageFault)
  match readArguments command.spec texts with
  | .error .help => .ok (.help command.help)
  | .error (.fault cause) => .error (fault cause)
  | .ok arguments =>
    match arguments.operands with
    | none => .error (fault (.missingOperands command.operandName))
    | some operands =>
      match extras ++ arguments.extras with
      | [] => .ok (command.request detail arguments operands)
      | unknown => .error (mainFault (.unrecognized unknown))

/-- Reads the arguments of the program. -/
def readRequest (texts : List String) : Except UsageFault Request :=
  match readArguments mainSpec texts with
  | .error .help => .ok (.help mainHelp)
  | .error (.fault cause) => .error (mainFault cause)
  | .ok arguments =>
    let detail := arguments.count verboseOption
    match arguments.operands with
    | some (name :: rest) =>
      let command := if name = migrateCommand.name then migrateCommand else pathCommand
      readCommand command detail arguments.extras rest
    | _ =>
      match arguments.extras with
      | [] => .ok (.help mainHelp)
      | unknown => .error (mainFault (.unrecognized unknown))

end RouteMigration.CommandLine
