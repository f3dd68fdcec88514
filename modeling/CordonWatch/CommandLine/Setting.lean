import CordonWatch.Pass.Node
import CordonWatch.Text.Number

/-!
# The settings of the program

Each setting has an option on the command line, and most have an environment
variable that counts where the option is not given. A setting that is given in
neither way has its default.
-/

namespace CordonWatch.CommandLine

/-- A setting. -/
inductive Setting where
  | leaderElection
  | leaderElectionNamespace
  | watchNamespace
  | metricsBindAddress
  | healthProbeBindAddress
  | cooldownSeconds
  | policyOrder
  | printCrd
  deriving DecidableEq, Repr, Inhabited

namespace Setting

/-- All settings, in the order in which they are explained. -/
def all : List Setting :=
  [.leaderElection, .leaderElectionNamespace, .watchNamespace, .metricsBindAddress,
   .healthProbeBindAddress, .cooldownSeconds, .policyOrder, .printCrd]

/-- The name of the option. -/
def optionName : Setting → String
  | .leaderElection => "leader-election"
  | .leaderElectionNamespace => "leader-election-namespace"
  | .watchNamespace => "namespace"
  | .metricsBindAddress => "metrics-bind-address"
  | .healthProbeBindAddress => "health-probe-bind-address"
  | .cooldownSeconds => "cooldown-seconds"
  | .policyOrder => "policy-order"
  | .printCrd => "print-crd"

/-- Whether the option is followed by a value. The others switch something on. -/
def takesValue : Setting → Bool
  | .leaderElection | .printCrd => false
  | _ => true

/-- The environment variable of a setting. -/
def environmentName? : Setting → Option String
  | .leaderElection => some "LEADER_ELECTION"
  | .leaderElectionNamespace => some "LEADER_ELECTION_NAMESPACE"
  | .watchNamespace => some "WATCH_NAMESPACE"
  | .metricsBindAddress => some "METRICS_BIND_ADDRESS"
  | .healthProbeBindAddress => some "HEALTH_PROBE_BIND_ADDRESS"
  | .cooldownSeconds => some "COOLDOWN_SECONDS"
  | .policyOrder => some "POLICY_ORDER"
  | .printCrd => none

/-- The default of a setting that takes a value. -/
def fallback : Setting → String
  | .metricsBindAddress => "0.0.0.0:8080"
  | .healthProbeBindAddress => "0.0.0.0:8081"
  | .cooldownSeconds => "60"
  | .policyOrder => "listing"
  | _ => ""

/-- What the setting is for. -/
def purpose : Setting → String
  | .leaderElection => "Enable leader election for HA deployments"
  | .leaderElectionNamespace =>
    "Namespace for the leader election Lease (auto-detected if empty)"
  | .watchNamespace =>
    "Namespace to watch pods, budgets and autoscalers in (empty for all namespaces)"
  | .metricsBindAddress => "Metrics bind address"
  | .healthProbeBindAddress => "Health probe bind address"
  | .cooldownSeconds =>
    "Seconds to wait before reconciling a cordoned node again after marking pods (0 disables)"
  | .policyOrder => "Order to try autoscalers in when several match a pod: listing or name"
  | .printCrd => "Print the EvictionAutoScaler CRD as YAML and exit"

/-- How the value of the option is called: by its name in capitals. -/
def valueName (s : Setting) : String :=
  String.ofList (s.optionName.toList.map fun c => if c == '-' then '_' else c.toUpper)

/-- The option as messages show it. -/
def display (s : Setting) : String :=
  "--" ++ s.optionName ++ (if s.takesValue then " <" ++ s.valueName ++ ">" else "")

/-- The setting whose option has that name. -/
def ofOptionName? (name : String) : Option Setting := all.find? (·.optionName == name)

end Setting

/-- What is wrong with a command line. -/
inductive UsageError where
  /-- An argument that is no option and no value of one. -/
  | unexpectedArgument (argument : String)
  /-- An option that is given twice. -/
  | repeated (option : String)
  /-- An option without its value. -/
  | valueMissing (option : String)
  /-- A value for an option that takes none. -/
  | unexpectedValue (value option : String)
  /-- A value that cannot be read, and why if there is more to say. -/
  | invalidValue (value option : String) (reason : Option String)
  deriving DecidableEq, Repr, Inhabited

/-- The first line of what is said about a wrong command line. -/
def UsageError.message : UsageError → String
  | .unexpectedArgument a => "error: unexpected argument '" ++ a ++ "' found"
  | .repeated o => "error: the argument '" ++ o ++ "' cannot be used multiple times"
  | .valueMissing o => "error: a value is required for '" ++ o ++ "' but none was supplied"
  | .unexpectedValue v o =>
    "error: unexpected value '" ++ v ++ "' for '" ++ o ++ "' found; no more were expected"
  | .invalidValue v o reason =>
    "error: invalid value '" ++ v ++ "' for '" ++ o ++ "'"
      ++ (match reason with | some r => ": " ++ r | none => "")

/-- The settings as the program uses them. -/
structure Settings where
  leaderElection : Bool := false
  leaderElectionNamespace : String := Setting.leaderElectionNamespace.fallback
  watchNamespace : String := Setting.watchNamespace.fallback
  metricsBindAddress : String := Setting.metricsBindAddress.fallback
  healthProbeBindAddress : String := Setting.healthProbeBindAddress.fallback
  cooldownSeconds : Nat := 60
  policyOrder : PolicyOrder := .listing
  printCrd : Bool := false
  deriving DecidableEq, Repr, Inhabited

/-- Reads a switch. -/
def readSwitch (s : Setting) (value : String) : Except UsageError Bool :=
  match value with
  | "true" => .ok true
  | "false" => .ok false
  | "" => .error (.valueMissing s.display)
  | other => .error (.invalidValue other s.display none)

/-- Gives a setting a value. -/
def Settings.set (settings : Settings) (s : Setting) (value : String) :
    Except UsageError Settings :=
  match s with
  | .leaderElection => (readSwitch s value).map fun b => { settings with leaderElection := b }
  | .printCrd => (readSwitch s value).map fun b => { settings with printCrd := b }
  | .leaderElectionNamespace => .ok { settings with leaderElectionNamespace := value }
  | .watchNamespace => .ok { settings with watchNamespace := value }
  | .metricsBindAddress => .ok { settings with metricsBindAddress := value }
  | .healthProbeBindAddress => .ok { settings with healthProbeBindAddress := value }
  | .cooldownSeconds =>
    match Text.readNumber value with
    | .ok n => .ok { settings with cooldownSeconds := n }
    | .error e => .error (.invalidValue value s.display (some e))
  | .policyOrder =>
    match PolicyOrder.parse value with
    | .ok o => .ok { settings with policyOrder := o }
    | .error e => .error (.invalidValue value s.display (some e))

end CordonWatch.CommandLine
