import RouteMigration.Text.Blank
import RouteMigration.Text.DecimalDigit
import RouteMigration.Text.Quoted

/-!
# Arguments

The arguments of a command are options and operands in any order. A long option may be cut short as long
as it stays the only one, its value may follow an equals sign, and short options may share one argument.
After two dashes there are only operands.
-/

namespace RouteMigration.CommandLine

/-- What an option does. -/
inductive Effect where
  /-- It asks for help. -/
  | help
  /-- It is on. -/
  | flag
  /-- It takes any text. -/
  | text
  /-- It takes a whole number. -/
  | number
  deriving DecidableEq, Repr

structure OptionSpec where
  names : List String
  effect : Effect
  deriving DecidableEq, Repr

namespace OptionSpec

def title (option : OptionSpec) : String :=
  String.intercalate "/" option.names

def takesValue (option : OptionSpec) : Bool :=
  option.effect = .text || option.effect = .number

end OptionSpec

/-- How many operands a command takes, and which. -/
inductive Operands where
  /-- One of the choices, and every argument after it. -/
  | command (choices : List String)
  /-- At least one. -/
  | many
  deriving DecidableEq, Repr

structure CommandSpec where
  options : List OptionSpec
  operands : Operands
  deriving DecidableEq, Repr

/-- What is wrong with the arguments. -/
inductive ArgumentFault where
  | ambiguous (given : String) (names : List String)
  | unexpectedValue (option : OptionSpec) (value : String)
  | missingValue (option : OptionSpec)
  | notNumber (option : OptionSpec) (value : String)
  | unknownCommand (given : String) (choices : List String)
  | missingOperands (name : String)
  | unrecognized (arguments : List String)
  deriving DecidableEq, Repr

def ArgumentFault.message : ArgumentFault → String
  | .ambiguous given names =>
    s!"ambiguous option: {given} could match " ++ String.intercalate ", " names
  | .unexpectedValue option value =>
    s!"argument {option.title}: ignored explicit argument {Text.quoted value}"
  | .missingValue option => s!"argument {option.title}: expected one argument"
  | .notNumber option value =>
    s!"argument {option.title}: invalid int value: {Text.quoted value}"
  | .unknownCommand given choices =>
    s!"argument command: invalid choice: {Text.quoted given} (choose from " ++
      String.intercalate ", " (choices.map Text.quoted) ++ ")"
  | .missingOperands name => s!"the following arguments are required: {name}"
  | .unrecognized arguments =>
    "unrecognized arguments: " ++ String.intercalate " " arguments

/-! ### Numbers -/

/-- Digits, with single underscores between them at most. -/
def isDigitSequence (text : List Char) : Bool :=
  let digits := text.filter (· ≠ '_')
  let separated := fun (a, b) => Text.isDecimalDigit a || Text.isDecimalDigit b
  digits.all Text.isDecimalDigit && (text.zip (text.drop 1)).all separated &&
    text.head?.any Text.isDecimalDigit && text.getLast?.any Text.isDecimalDigit &&
    digits.length ≤ 4300

/-- A whole number with an optional sign, between white space. -/
def isWholeNumber (text : String) : Bool :=
  let trimmed := (Text.trimEnd text.toList).dropWhile Text.isBlank
  match trimmed with
  | '+' :: digits | '-' :: digits => isDigitSequence digits
  | digits => isDigitSequence digits

/-- The text without the line feed that ends it. -/
def dropLineFeed (text : List Char) : List Char :=
  if text.getLast? = some '\n' then text.dropLast else text

/-- A negative number with or without decimals, which is an operand. -/
def isNegativeNumber (text : String) : Bool :=
  match dropLineFeed text.toList with
  | '-' :: rest =>
    let digits := rest.takeWhile Text.isDecimalDigit
    match rest.drop digits.length with
    | [] => !digits.isEmpty
    | '.' :: decimals => !decimals.isEmpty && decimals.all Text.isDecimalDigit
    | _ => false
  | _ => false

/-! ### Telling options from operands -/

/-- What an argument holds after the name of its option. -/
inductive Tail where
  | nothing
  /-- A value, after an equals sign. -/
  | value (text : String)
  /-- Text that follows a letter directly: a value, or more letters. -/
  | more (text : String)
  deriving DecidableEq, Repr

/-- What an argument is. -/
inductive Role where
  | operand
  /-- The two dashes that end the options. -/
  | separator
  /-- An option of the command by one of its names. -/
  | option (option : OptionSpec) (tail : Tail)
  | unknownOption
  deriving DecidableEq, Repr

/-- The option with a name. -/
def optionNamed (options : List OptionSpec) (name : String) : Option OptionSpec :=
  options.find? fun option => option.names.contains name

/-- Text before and after the first equals sign. -/
def splitValue (text : String) : String × Tail :=
  let name := text.toList.takeWhile (· ≠ '=')
  match text.toList.drop name.length with
  | [] => (text, .nothing)
  | _ :: value => (String.ofList name, .value (String.ofList value))

/-- Every name of every option. -/
def allNames (options : List OptionSpec) : List (OptionSpec × String) :=
  options.flatMap fun option => option.names.map (option, ·)

/-- The options that an argument can stand for, when it is not spelled out. -/
def interpretations (options : List OptionSpec) (text : String) :
    List (OptionSpec × String × Tail) :=
  match text.toList with
  | '-' :: '-' :: _ =>
    let (start, tail) := splitValue text
    ((allNames options).filter fun (_, name) => start.toList.isPrefixOf name.toList).map
      fun (option, name) => (option, name, tail)
  | '-' :: letter :: rest =>
    (allNames options).filterMap fun (option, name) =>
      if name = String.ofList ['-', letter] then some (option, name, .more (String.ofList rest))
      else if text.toList.isPrefixOf name.toList then some (option, name, .nothing)
      else none
  | _ => []

/-- What an argument in front of the separator is. -/
def roleOf (options : List OptionSpec) (text : String) : Except ArgumentFault Role :=
  if text.toList.head? ≠ some '-' then .ok .operand
  else match optionNamed options text with
    | some option => .ok (.option option .nothing)
    | none =>
      if text = "-" then .ok .operand
      else
        let (name, tail) := splitValue text
        match optionNamed options name with
        | some option => .ok (.option option tail)
        | none =>
          match interpretations options text with
          | [(option, _, tail)] => .ok (.option option tail)
          | [] =>
            if isNegativeNumber text || text.toList.contains ' ' then .ok .operand
            else .ok .unknownOption
          | several => .error (.ambiguous text (several.map fun (_, name, _) => name))

abbrev Token := String × Role

/-- The arguments with their roles. -/
def tokens (options : List OptionSpec) : List String → Except ArgumentFault (List Token)
  | [] => .ok []
  | text :: rest =>
    if text = "--" then .ok ((text, .separator) :: rest.map (·, Role.operand))
    else do
      let role ← roleOf options text
      return (text, role) :: (← tokens options rest)

/-! ### Reading options and operands -/

structure Arguments where
  /-- The options with their values, in order. -/
  options : List (OptionSpec × Option String) := []
  operands : Option (List String) := none
  /-- Arguments that are neither. -/
  extras : List String := []
  deriving DecidableEq, Repr

/-- Why the reading of arguments ends early. -/
inductive Stop where
  | help
  | fault (fault : ArgumentFault)
  deriving DecidableEq, Repr

def isOption : Role → Bool
  | .option .. | .unknownOption => true
  | _ => false

/-- How many arguments from here on are the operands of a command. -/
def operandCount (operands : Operands) (tokens : List Token) : Nat :=
  let separators := (tokens.takeWhile fun (_, role) => role = .separator).length
  match operands, tokens.drop separators with
  | .command _, (_, .operand) :: _ => tokens.length
  | .many, (_, .operand) :: _ => (tokens.takeWhile fun (_, role) => !isOption role).length
  | _, _ => 0

/-- Checks the operands, and drops the separator. -/
def readOperands (operands : Operands) (values : List String) : Except ArgumentFault (List String) :=
  match operands with
  | .many => .ok (values.erase "--")
  | .command choices =>
    match values with
    | name :: _ => if name ∈ choices then .ok values else .error (.unknownCommand name choices)
    | [] => .ok values

/-- The options that share an argument. The last of them comes with the value that is left of it. -/
structure Cluster where
  options : List (OptionSpec × Option String)
  /-- What is left from the first letter on that is no option. -/
  extras : List String := []
  deriving DecidableEq, Repr

/-- Takes an argument apart that names an option. -/
def cluster (options : List OptionSpec) (option : OptionSpec) :
    Tail → Except ArgumentFault Cluster
  | .nothing => .ok ⟨[(option, none)], []⟩
  | .value text =>
    if option.takesValue then .ok ⟨[(option, some text)], []⟩
    else .error (.unexpectedValue option text)
  | .more text => letters option text.toList
where
  letters (option : OptionSpec) (text : List Char) : Except ArgumentFault Cluster :=
    if option.takesValue then .ok ⟨[(option, some (String.ofList text))], []⟩
    else match text with
      | [] | '-' :: _ => .error (.unexpectedValue option (String.ofList text))
      | letter :: rest =>
        match optionNamed options (String.ofList ['-', letter]), rest with
        | none, _ => .ok ⟨[(option, none)], [String.ofList ('-' :: text)]⟩
        | some next, [] => .ok ⟨[(option, none), (next, none)], []⟩
        | some next, '=' :: value =>
          if next.takesValue then .ok ⟨[(option, none), (next, some (String.ofList value))], []⟩
          else .error (.unexpectedValue next (String.ofList value))
        | some next, _ :: _ => do
          let found ← letters next rest
          return { found with options := (option, none) :: found.options }

/-- Applies an option. -/
def applyOption (arguments : Arguments) (option : OptionSpec) (value : Option String) :
    Except Stop Arguments :=
  match option.effect, value with
  | .help, _ => .error .help
  | .number, some text =>
    if isWholeNumber text then
      .ok { arguments with options := arguments.options ++ [(option, value)] }
    else .error (.fault (.notNumber option text))
  | _, _ => .ok { arguments with options := arguments.options ++ [(option, value)] }

/-- The value that an option without one takes from the arguments after it, and whether it takes one. -/
def followingValue (option : OptionSpec) (value : Option String) (rest : List Token) :
    Except ArgumentFault (Option String × Nat) :=
  if option.takesValue && value.isNone then
    match rest with
    | (text, .operand) :: _ => .ok (some text, 1)
    | _ => .error (.missingValue option)
  else .ok (value, 0)

/-- Applies the options of an argument; tells how many more arguments they take. -/
def applyAll (arguments : Arguments) (rest : List Token) (found : Cluster) :
    Except Stop (Arguments × Nat) := do
  match found.options.getLast? with
  | none => pure (arguments, 0)
  | some (last, value) =>
    let (value, taken) ← (followingValue last value rest).mapError .fault
    let arguments ← (found.options.dropLast ++ [(last, value)]).foldlM
      (fun arguments (option, value) => applyOption arguments option value)
      { arguments with extras := arguments.extras ++ found.extras }
    pure (arguments, taken)

/-- Reads the arguments from left to right. -/
def readTokens (spec : CommandSpec) (arguments : Arguments) (tokens : List Token) :
    Except Stop Arguments :=
  match tokens with
  | [] => .ok arguments
  | (text, .unknownOption) :: rest =>
    readTokens spec { arguments with extras := arguments.extras ++ [text] } rest
  | (_, .option option tail) :: rest => do
    let found ← (cluster spec.options option tail).mapError .fault
    let (arguments, taken) ← applyAll arguments rest found
    readTokens spec arguments (rest.drop taken)
  | (text, role) :: rest => do
    let tokens := (text, role) :: rest
    let count := if arguments.operands.isSome then 0 else operandCount spec.operands tokens
    if count = 0 then
      let skipped := (rest.takeWhile fun (_, role) => !isOption role)
      readTokens spec
        { arguments with extras := arguments.extras ++ text :: skipped.map Prod.fst }
        (rest.drop skipped.length)
    else
      let values := (tokens.take count).map Prod.fst
      let operands ← (readOperands spec.operands values).mapError .fault
      readTokens spec { arguments with operands := some operands } (rest.drop (count - 1))
termination_by tokens.length
decreasing_by all_goals simp only [List.length_drop, List.length_cons]; omega

/-- Reads the arguments of a command. -/
def readArguments (spec : CommandSpec) (texts : List String) : Except Stop Arguments := do
  let tokens ← (tokens spec.options texts).mapError .fault
  readTokens spec {} tokens

end RouteMigration.CommandLine
