import FacetSearch.Config.Configuration
import FacetSearch.Http.Gateway
import FacetSearch.Schema.Sdl
/-!
# The command line

What the program does with its arguments and its environment: it loads the configuration, composes
the schema, and prints it or goes on to listen.
-/

namespace FacetSearch.CommandLine

open Config

/-! ## Arguments -/

structure Options where
  /-- The configuration file. -/
  config : Option String := none
  /-- Print the schema instead of serving it. -/
  printSchema : Bool := false
  deriving DecidableEq, Repr

inductive Command where
  | help
  | version
  | run (options : Options)
  deriving DecidableEq, Repr

/-- The value of an option: not empty, and nothing that looks like an option. -/
def isValue (s : String) : Bool := s ≠ "" && (s = "-" || s.toList.head? ≠ some '-')

/-- Set the configuration file, which can be done once. -/
def Options.withConfig (o : Options) (path : String) : Option Options :=
  if o.config.isSome ∨ path = "" then none else some { o with config := some path }

/-- An option written together with its value, after the option itself. -/
def attached? (argument option : String) : Option String :=
  if option.toList.isPrefixOf argument.toList then
    some (String.ofList (argument.toList.drop option.length))
  else none

/-- The command that arguments spell; nothing when they are misused. -/
def read? (o : Options) : List String → Option Command
  | [] => some (.run o)
  | argument :: rest =>
    if argument = "-h" ∨ argument = "--help" then some .help
    else if argument = "-V" ∨ argument = "--version" then some .version
    else if argument = "--print-schema" then
      if o.printSchema then none else read? { o with printSchema := true } rest
    else if argument = "--" then if rest.isEmpty then some (.run o) else none
    else if argument = "--config" ∨ argument = "-c" then
      match rest with
      | value :: rest =>
        if isValue value then (o.withConfig value).bind fun o => read? o rest else none
      | [] => none
    else match attached? argument "--config=", attached? argument "-c=", attached? argument "-c" with
      | some value, _, _ => (o.withConfig value).bind fun o => read? o rest
      | none, some value, _ => (o.withConfig value).bind fun o => read? o rest
      | none, none, some value => (o.withConfig value).bind fun o => read? o rest
      | none, none, none => none

/-! ## Outcomes -/

/-- How a run ends. -/
structure Outcome where
  code : Nat
  output : String := ""
  errors : String := ""
  deriving DecidableEq, Repr

def programName : String := "facet-gateway"

def usage : String :=
  s!"Usage: {programName} [--config <CONFIG>] [--print-schema]\n\n" ++
  "  -c, --config <CONFIG>  Configuration file layered over the built-in defaults\n" ++
  "      --print-schema     Validate configuration, print the GraphQL SDL and exit\n" ++
  "  -h, --help             Print help\n" ++
  "  -V, --version          Print version\n"

/-- A failure with what it comes from. Lines of the cause are indented. -/
def failure (what : String) (cause : Option String) : Outcome :=
  let indented (text : String) : String :=
    String.ofList (text.toList.flatMap fun c => if c = '\n' then "\n    ".toList else [c])
  { code := 1
    errors := "Error: " ++ what ++
      (cause.elim "" fun text => "\n\nCaused by:\n    " ++ indented text) ++ "\n" }

/-- An address at which nothing can listen. -/
def bindFailure (address : String) : Outcome := failure s!"failed to bind {address}" none

/-- What is left to do once a run has come so far. -/
inductive Next where
  | stop (outcome : Outcome)
  | listen (address : String) (schema : Schema.Composed) (metricsEnabled : Bool)

/-- The file that is read when none is named. -/
def defaultPath : String := "config/local.toml"

/-- The names under which the file of a path is looked for. -/
def candidates (path : String) : List String := [path, path ++ ".toml"]

/-- Only files with this ending are read. -/
def isReadable (path : String) : Bool := path.endsWith ".toml"

def describe : LoadFault → String
  | .unreadable => "the configuration file is not valid TOML"
  | .mismatch => "a setting is missing or has the wrong type"

/-- Run with the text of the configuration file, if there is one, and the environment. -/
def run (options : Options) (file : Option String) (environment : List (String × String)) : Next :=
  match load file environment with
  | .error fault => .stop (failure "failed to load configuration" (some (describe fault)))
  | .ok configuration =>
    match Schema.registrations configuration.domains with
    | .error e => .stop (failure "invalid search domain configuration" (some e.message))
    | .ok registrations =>
      match Schema.compose registrations with
      | .error e => .stop (failure "failed to compose GraphQL schema" (some e.message))
      | .ok schema =>
        if options.printSchema then .stop { code := 0, output := schema.sdl ++ "\n" }
        else .listen s!"{configuration.serverHost}:{configuration.serverPort}" schema
          configuration.metricsEnabled

/-- The configuration file to look for: the one named by the arguments, else by the environment,
else the default one. -/
def configPath? (arguments : List String) (environment : List (String × String)) : Option String :=
  match read? {} arguments with
  | some (.run options) =>
    match options.config, environment.lookup "CONFIG_PATH" with
    | some path, _ => some path
    | none, some "" => none
    | none, some path => some path
    | none, none => some defaultPath
  | _ => none

/-- Run a command with the text of its configuration file. The environment cannot name a file
without a name. -/
def start (arguments : List String) (environment : List (String × String))
    (file : Option String) : Next :=
  match read? {} arguments with
  | none => .stop { code := 2, errors := usage }
  | some .help => .stop { code := 0, output := usage }
  | some .version => .stop { code := 0, output := s!"{programName} {Http.Gateway.version}\n" }
  | some (.run options) =>
    if (configPath? arguments environment).isSome then run options file environment
    else .stop { code := 2, errors := usage }

end FacetSearch.CommandLine
