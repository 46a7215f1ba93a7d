/-!
# Arguments of the command line

Options come first and a command after them. An option has its value behind it or, after an equals
sign, in the same argument; a short option may also have it right behind its letter. No option is
given twice.
-/

namespace DhcpLeasing.CommandLine

/-- What the program is to do. -/
inductive Command where
  | run
  | showConfig
  | listLeases
  | cleanupLeases
  deriving DecidableEq, Repr

/-- What the arguments ask for. -/
inductive Demand where
  | command (command : Command) (configPath : String)
  | version
  | help
  /-- The arguments make no sense. -/
  | misuse
  deriving DecidableEq, Repr

/-- The command of a name. -/
def Command.ofName? : String → Option Command
  | "run" => some .run
  | "show-config" => some .showConfig
  | "list-leases" => some .listLeases
  | "cleanup-leases" => some .cleanupLeases
  | _ => none

/-- The options with a value. -/
inductive ValueOption where
  | config
  | logLevel
  deriving DecidableEq, Repr

/-- The values given so far. -/
structure Given where
  config : Option String
  logLevel : Option String
  deriving DecidableEq, Repr

/-- Where the configuration is looked for if no path is given. -/
def defaultConfigPath : String := "config.json"

/-- Takes the value of an option, if it is the first one for it. A path may not be empty. -/
def Given.take (g : Given) : ValueOption → String → Option Given
  | .config, value =>
    if g.config.isSome || value.isEmpty then none else some { g with config := some value }
  | .logLevel, value =>
    if g.logLevel.isSome then none else some { g with logLevel := some value }

/-- What an argument is, taken for itself. -/
inductive Argument where
  /-- An option whose value is the next argument. -/
  | opening (name : ValueOption)
  /-- An option with its value. -/
  | option (name : ValueOption) (value : String)
  | version
  | help
  | word (text : String)
  | unknown
  deriving DecidableEq, Repr

/-- A short option with what stands right behind its letter. -/
def shortOption (name : ValueOption) : List Char → Argument
  | [] => .opening name
  | '=' :: value => .option name (String.ofList value)
  | value => .option name (String.ofList value)

/-- A long option: its name up to an equals sign, and the value after it. -/
def longOption (text : List Char) : Argument :=
  let name := String.ofList (text.takeWhile (· != '='))
  let value := (text.dropWhile (· != '=')).drop 1
  let bare := !text.contains '='
  let named (o : ValueOption) : Argument :=
    if bare then .opening o else .option o (String.ofList value)
  if name = "config" then named .config
  else if name = "log-level" then named .logLevel
  -- these two have no value that could stand after an equals sign
  else if name = "version" && bare then .version
  else if name = "help" && bare then .help
  else .unknown

/-- What an argument is. -/
def Argument.ofText (text : String) : Argument :=
  match text.toList with
  | '-' :: '-' :: rest => longOption rest
  | '-' :: 'c' :: rest => shortOption .config rest
  | '-' :: 'l' :: rest => shortOption .logLevel rest
  | '-' :: 'V' :: _ => .version
  | '-' :: 'h' :: _ => .help
  | '-' :: _ :: _ => .unknown
  | _ => .word text

/-- Whether an argument can be the value of the option in front of it: it does not look like an
option itself. -/
def isValue (text : String) : Bool :=
  match text.toList with
  | '-' :: _ :: _ => false
  | _ => true

/-- What is asked for with a command and the arguments behind it, of which it takes none. -/
def demandCommand (g : Given) (command : Command) : List String → Demand
  | [] => .command command (g.config.getD defaultConfigPath)
  | argument :: _ => if Argument.ofText argument = .help then .help else .misuse

/-- What is asked for with the help command. -/
def demandHelp : List String → Demand
  | [] => .help
  | [name] => if name = "help" || (Command.ofName? name).isSome then .help else .misuse
  | _ => .misuse

/-- What the arguments ask for, after those that have given `g`. Without a command the service is
run. -/
def demandAfter (g : Given) : List String → Demand
  | [] => .command .run (g.config.getD defaultConfigPath)
  | argument :: rest =>
    match Argument.ofText argument with
    | .opening name =>
      match rest with
      | value :: rest =>
        if isValue value then
          match g.take name value with
          | some g => demandAfter g rest
          | none => .misuse
        else .misuse
      | [] => .misuse
    | .option name value =>
      match g.take name value with
      | some g => demandAfter g rest
      | none => .misuse
    | .version => .version
    | .help => .help
    | .unknown => .misuse
    | .word text =>
      match Command.ofName? text with
      | some command => demandCommand g command rest
      | none => if text = "help" then demandHelp rest else .misuse

/-- What the arguments ask for. -/
def demand (arguments : List String) : Demand :=
  demandAfter ⟨none, none⟩ arguments

end DhcpLeasing.CommandLine
