import CordonWatch.CommandLine.Setting

/-!
# Reading the command line

Arguments are read from left to right. An option has two dashes, its full
name, and its value behind an equals sign or as the next argument. `-h` and
`-V` are short for `--help` and `--version`. There are no other arguments, so
whatever stands behind `--` is unexpected.

An option waits for its value until the next option or the end. What is wrong
with a waiting option is told then, unless the next argument is itself
unexpected, in which case that is told. Help and version end the reading, and
so does the first error; environment variables are read only after all
arguments, for the settings that these did not give.
-/

namespace CordonWatch.CommandLine

/-- Why the reading ends early. -/
inductive Stop where
  | help
  | version
  | wrong (e : UsageError)
  deriving DecidableEq, Repr, Inhabited

/-- What was read so far. -/
structure Reading where
  settings : Settings := {}
  /-- The settings given. -/
  given : List Setting := []
  /-- The option that was read last, and its value once it is there, if it
  has not been taken in yet. -/
  waiting : Option (Setting × Option String) := none
  deriving Inhabited

namespace Reading

/-- Takes in a setting with its value. -/
def take (r : Reading) (s : Setting) (value : String) : Except Stop Reading :=
  if s ∈ r.given then .error (.wrong (.repeated s.display))
  else
    match r.settings.set s value with
    | .ok settings => .ok { r with settings, given := s :: r.given }
    | .error e => .error (.wrong e)

/-- Takes in the option that waits, if one does. -/
def finish (r : Reading) : Except Stop Reading :=
  match r.waiting with
  | none => .ok r
  | some (s, none) => .error (.wrong (.valueMissing s.display))
  | some (s, some value) => take { r with waiting := none } s value

/-- Reads an option by its name, with the value behind its equals sign. -/
def readOption (r : Reading) (name : String) (value : Option String) : Except Stop Reading :=
  let switch (display : String) (use : Reading → Except Stop Reading) : Except Stop Reading :=
    match value with
    | some v => .error (.wrong (.unexpectedValue v display))
    | none => r.finish.bind use
  match Setting.ofOptionName? name with
  | some s =>
    if s.takesValue then
      r.finish.bind fun r =>
        match value with
        | some v => r.take s v
        | none => .ok { r with waiting := some (s, none) }
    else switch s.display (·.take s "true")
  | none =>
    -- An option that does not exist is told before what is wrong with one that waits.
    match name with
    | "help" => switch "--help" fun _ => .error .help
    | "version" => switch "--version" fun _ => .error .version
    | _ => .error (.wrong (.unexpectedArgument ("--" ++ name)))

/-- Reads an option with one dash, of which only the first letter matters. -/
def readShort (r : Reading) (letter : Char) : Except Stop Reading :=
  match letter with
  | 'h' => r.finish.bind fun _ => .error .help
  | 'V' => r.finish.bind fun _ => .error .version
  | c => .error (.wrong (.unexpectedArgument ("-" ++ c.toString)))

/-- Reads an argument that is no option: the value that an option waits for. -/
def readPlain (r : Reading) (argument : String) : Except Stop Reading :=
  match r.waiting with
  | some (s, none) => .ok { r with waiting := some (s, some argument) }
  | _ => .error (.wrong (.unexpectedArgument argument))

/-- Parts an option at its equals sign. -/
def splitOption (cs : List Char) : String × Option String :=
  let name := String.ofList (cs.takeWhile (· != '='))
  match cs.dropWhile (· != '=') with
  | [] => (name, none)
  | _ :: value => (name, some (String.ofList value))

/-- Reads one argument other than `--`. -/
def readArgument (r : Reading) (argument : String) : Except Stop Reading :=
  match argument.toList with
  | '-' :: '-' :: cs =>
    let (name, value) := splitOption cs
    r.readOption name value
  | '-' :: c :: _ => r.readShort c
  | _ => r.readPlain argument

/-- Reads arguments. -/
def readArguments (r : Reading) : List String → Except Stop Reading
  | [] => r.finish
  | "--" :: [] => r.finish
  | "--" :: argument :: _ => .error (.wrong (.unexpectedArgument argument))
  | argument :: rest => (r.readArgument argument).bind fun r => r.readArguments rest

/-- Reads the environment variable of a setting, unless the setting was given. -/
def readVariable (environment : String → Option String) (r : Reading) (s : Setting) :
    Except Stop Reading :=
  if s ∈ r.given then .ok r
  else
    match s.environmentName?.bind environment with
    | some value => r.take s value
    | none => .ok r

end Reading

/-- The settings that arguments and environment give. -/
def readSettings (environment : String → Option String) (arguments : List String) :
    Except Stop Settings :=
  (Reading.readArguments {} arguments).bind fun r =>
    (Setting.all.foldlM (Reading.readVariable environment) r).map Reading.settings

end CordonWatch.CommandLine
