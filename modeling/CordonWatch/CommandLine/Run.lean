import CordonWatch.CommandLine.Arguments
import CordonWatch.Definition.Resource
import CordonWatch.Json.Yaml
import CordonWatch.LogFilter
import CordonWatch.Text.Quoted

/-!
# What the program does

Asked for help, its version or the definition of the resource, the program
prints that and ends. With a wrong command line it says what is wrong. Else it
starts, and tells so in the log.
-/

namespace CordonWatch.CommandLine

/-- The name of the program. -/
def programName : String := "eviction-autoscaler"

/-- The version of the program. -/
def programVersion : String := "0.1.0"

/-- What the program is for. -/
def programPurpose : String := "Anticipates pod evictions on cordoned nodes"

/-- The target of the lines that the program logs. -/
def logTarget : String := "eviction_autoscaler"

/-- The environment variable that says what is logged. -/
def logVariable : String := "RUST_LOG"

/-- What is explained of a setting: its purpose, its variable with the value
that it has, and its default. -/
def explain (environment : String → Option String) (s : Setting) : String :=
  let source :=
    match s.environmentName? with
    | some name => " [env: " ++ name ++ "=" ++ (environment name).getD "" ++ "]"
    | none => ""
  -- A default of no characters would not be seen without quotes.
  let shown := if s.fallback.isEmpty then Text.quoted s.fallback else s.fallback
  let fallback := if s.takesValue then " [default: " ++ shown ++ "]" else ""
  s.purpose ++ source ++ fallback

/-- The help text. -/
def help (environment : String → Option String) : String :=
  let entry (option text : String) : String := option ++ "\n          " ++ text ++ "\n"
  programPurpose ++ "\n\nUsage: " ++ programName ++ " [OPTIONS]\n\nOptions:\n"
    ++ String.join (Setting.all.map fun s => entry ("      " ++ s.display) (explain environment s))
    ++ entry "  -h, --help" "Print help"
    ++ entry "  -V, --version" "Print version"

/-- What becomes of a call of the program. -/
inductive Outcome where
  /-- The program prints a text and ends. -/
  | printed (text : String)
  /-- The command line is wrong. -/
  | refused (e : UsageError)
  /-- The program starts, and logs lines. -/
  | started (settings : Settings) (logs : List LogLine)
  deriving Inhabited

/-- The code with which a program ends that was called wrongly. -/
def usageCode : Nat := 2

/-- The lines that are logged at the start, before anything is filtered. -/
def startLines (s : Settings) : List LogLine :=
  let watched := if s.watchNamespace.isEmpty then "all" else s.watchNamespace
  [.info "Starting Eviction Autoscaler" [],
   .info ("Leader election: " ++ (if s.leaderElection then "true" else "false")) [],
   .info ("Watching namespace: " ++ watched) []]

/-- The filter of lines that the environment asks for. -/
def logFilter (environment : String → Option String) : LogFilter :=
  match environment logVariable with
  | some s => LogFilter.ofText s
  | none => LogFilter.standard

/-- What becomes of a call of the program with that environment and those arguments. -/
def run (environment : String → Option String) (arguments : List String) : Outcome :=
  match readSettings environment arguments with
  | .error .help => .printed (help environment)
  | .error .version => .printed (programName ++ " " ++ programVersion ++ "\n")
  | .error (.wrong e) => .refused e
  | .ok s =>
    if s.printCrd then .printed Definition.resource.renderYaml
    else
      let filter := logFilter environment
      .started s ((startLines s).filter fun l => filter.admits logTarget l.level l.fieldNames)

/-- How the program is configured by its settings. -/
def Settings.config (s : Settings) : Pass.Config :=
  { cooldown := Span.ofSeconds s.cooldownSeconds, order := s.policyOrder }

end CordonWatch.CommandLine
