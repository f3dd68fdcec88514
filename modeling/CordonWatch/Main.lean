import CordonWatch.CommandLine.Run
import CordonWatch.Json.Printer

/-!
# The command line program

The program answers what can be answered without a cluster. There is no way to
reach one from here, so a program that starts ends with a failure, as it does
wherever no cluster is configured.
-/

namespace CordonWatch

/-- A line of the log as it is printed. -/
def LogLine.render (l : LogLine) : String :=
  (Json.object [
    ("level", .text l.level.text),
    ("fields", .object [("message", .text l.message)]),
    ("target", .text CommandLine.logTarget)]).render

end CordonWatch

open CordonWatch

def main (arguments : List String) : IO UInt32 := do
  let mut environment : List (String × String) := []
  for name in CommandLine.logVariable :: CommandLine.Setting.all.filterMap (·.environmentName?) do
    if let some value ← IO.getEnv name then
      environment := (name, value) :: environment
  match CommandLine.run (fun name => environment.lookup name) arguments with
  | .printed text =>
    (← IO.getStdout).putStr text
    return 0
  | .refused e =>
    (← IO.getStderr).putStr (e.message ++ "\n\nFor more information, try '--help'.\n")
    return CommandLine.usageCode.toUInt32
  | .started _ logs =>
    for line in logs do
      (← IO.getStdout).putStrLn line.render
    (← IO.getStderr).putStrLn "Error: no cluster is configured"
    return 1
