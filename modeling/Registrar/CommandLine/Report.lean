import Registrar.CommandLine.Startup
import Registrar.Yaml.Writer

/-!
What a run says at its end, and which paths it may want to know about.
-/

namespace Registrar.CommandLine

open Settings

def usageLines : List String :=
  ["Usage: registrar [OPTIONS] [COMMAND]", "", "Commands:",
    "  run      Start the server",
    "  check    Check configuration",
    "  migrate  Apply database migrations and exit", "", "Options:",
    "  -c, --config <CONFIG>  Path to configuration file",
    "  -p, --port <PORT>      Port for HTTP server (overrides config)",
    "      --print-config     Print current configuration and exit",
    "  -v, --verbose...       Log verbosity level (-v debug, -vv trace)",
    "  -h, --help             Print help",
    "  -V, --version          Print version"]

def UsageFault.message : UsageFault → String
  | .unknownArgument => "unexpected argument"
  | .invalidCommand => "unrecognized subcommand"
  | .missingValue => "a value is required"
  | .invalidValue => "invalid value"
  | .surplusValue => "unexpected value"
  | .repeated => "the argument cannot be used multiple times"
  | .help => "help"
  | .version => "version"

namespace Ending

def outputLines : Ending → List String
  | .misused .help => usageLines
  | .misused .version => ["registrar 0.1.0"]
  | .shown settings => [Yaml.text settings.json]
  | .checked settings => ["Configuration check passed", Yaml.text settings.json]
  | .migrated => ["Migrations applied"]
  | _ => []

def errorLines : Ending → List String
  | .misused .help => []
  | .misused .version => []
  | .misused fault => s!"error: {fault.message}" :: "" :: usageLines
  | .failed reason => [s!"Error: {reason}"]
  | _ => []

end Ending

def namedPaths (settings : Configuration) (home : String) : List String :=
  let logs := ((settings.logging.getD .standard).sections.map (·.2)).filter (·.hasFile)
  let placed := { settings with server := { settings.server with homeDirectory := home } }
  let database :=
    match placed.dsn with
    | .ok dsn => ((Dsn.SqliteSource.read? dsn).bind (·.path?)).toList
    | .error _ => []
  home :: logs.map (·.path home) ++ database

/-- The paths on which a run depends, besides that of its file of settings. -/
def paths (surroundings : Surroundings) (arguments : List String) : List String :=
  match parse arguments with
  | .error _ => []
  | .ok invocation =>
    let loaded : Except LoadFault Configuration :=
      match invocation.config with
      | some path => Configuration.ofFile path surroundings
      | none => .ok .standard
    match loaded with
    | .error _ => []
    | .ok settings =>
      match homePath? surroundings.userHome surroundings.disk.current settings.server.homeDirectory with
      | some home => namedPaths settings home
      | none => []

def settingsPath? (arguments : List String) : Option String :=
  match parse arguments with
  | .ok invocation => invocation.config
  | .error _ => none

end Registrar.CommandLine
