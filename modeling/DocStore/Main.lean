import DocStore.Command.Program

/-!
# Entry point

Reads arguments and environment, prints what `Program.exit` says and ends with its code.
-/

namespace DocStore.Program

/-- The variables that hold settings. -/
def settingVariables : List String :=
  [Config.applicationIdVariable, Config.apiKeyVariable, Config.serverUrlVariable,
    Config.apiVersionVariable, Config.revocableSessionsVariable]

/-- The variables that are set. -/
def readEnvironment : IO (Members String) := do
  let mut environment : Members String := []
  for name in settingVariables do
    if let some value ← IO.getEnv name then
      environment := environment.insert name value
  return environment

/-- Run the program once. -/
def runOnce (arguments : List String) : IO UInt32 := do
  let environment ← readEnvironment
  let exit := exit Http.offline () environment.get? arguments
  unless exit.output.isEmpty do
    IO.println exit.output
  unless exit.diagnostics.isEmpty do
    IO.eprintln exit.diagnostics
  return exit.code

end DocStore.Program

/-- Run the program once. -/
def main (arguments : List String) : IO UInt32 := DocStore.Program.runOnce arguments
