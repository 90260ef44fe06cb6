import DocStore.Command.Execution
import DocStore.Command.Settings
import DocStore.Http.Offline

/-!
# The program

One run of the command line: read the arguments, work out the configuration, carry out the command
and print its document. `Program.exit` is what the run leaves behind, given the environment and the
server.

A request for help or for the version ends well, a command line that cannot be read ends with code 2
and a failure with code 1 and a line that names it.
-/

namespace DocStore.Program

/-- What a run leaves behind. -/
structure Exit where
  code : UInt32
  output : String := ""
  diagnostics : String := ""
deriving DecidableEq, Repr

/-- How the program is called. -/
def usage : String :=
  "Usage: docsync [--server-url URL] [--app-id ID] [--api-key KEY] [--session-token TOKEN] [-v] " ++
    "get|save|delete|query|login|signup|whoami|reset-password ..."

/-- The version of the program. -/
def version : String := "docsync 0.1.0"

/-- The word that introduces a failure, in bold red. -/
def errorLabel : String := "\x1b[1;31merror:\x1b[0m"

/-- The end of a run whose command line was not carried out. -/
def usageExit : CommandLine.UsageError → Exit
  | .helpRequested => { code := 0, output := usage }
  | .versionRequested => { code := 0, output := version }
  | _ => { code := 2, diagnostics := usage }

/-- The end of a run that failed. -/
def failure (e : CommandError) : Exit :=
  { code := 1, diagnostics := errorLabel ++ " " ++ e.message }

/-- The world in which a command starts: the session has the token that was given, if any. -/
def start {σ : Type} (a : Arguments) (server : σ) : World σ :=
  { session := Session.empty.setToken a.sessionToken, server }

/-- The configuration of a run, checked. -/
def checkedConfig (a : Arguments) (environment : String → Option String) : Except Error Config := do
  let c ← a.config environment
  c.validate
  return c

/-- One run. -/
def exit {σ : Type} (serve : Server σ) (server : σ) (environment : String → Option String)
    (arguments : List String) : Exit :=
  match Arguments.parse arguments with
  | .error e => usageExit e
  | .ok a =>
    match checkedConfig a environment with
    | .error e => failure (.client e)
    | .ok c =>
      match ((a.command.execute c).run serve (start a server)).1 with
      | .ok document => { code := 0, output := document.pretty }
      | .error e => failure e

end DocStore.Program
