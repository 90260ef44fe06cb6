import DocStore.Command.Arguments
import DocStore.Config.Basic

/-!
# Settings of the command line

The configuration with which a command runs: the settings of the environment, replaced by those on the
command line. An environment that lacks application id or key is made up for by giving both on the
command line, and none of its other settings counts then.
-/

namespace DocStore.Arguments

/-- Whether the command asks for a session that can be revoked. -/
def asksRevocable (a : Arguments) : Bool :=
  match a.command with
  | .login _ _ revocable => revocable
  | _ => false

/-- The configuration before the command line replaces settings. -/
def baseConfig (a : Arguments) (environment : String → Option String) : Except Error Config :=
  match Config.ofEnvironment environment, a.applicationId, a.apiKey with
  | .ok c, _, _ => .ok c
  | .error _, some applicationId, some apiKey => .ok { applicationId, apiKey }
  | .error e, _, _ => .error e

/-- The settings on the command line in place of those of a configuration. -/
def override (a : Arguments) (c : Config) : Config :=
  { c with
    applicationId := a.applicationId.getD c.applicationId
    apiKey := a.apiKey.getD c.apiKey
    serverUrl := a.serverUrl.getD c.serverUrl
    revocableSessions := c.revocableSessions || a.asksRevocable }

/-- The configuration with which the command runs. -/
def config (a : Arguments) (environment : String → Option String) : Except Error Config :=
  (a.baseConfig environment).map a.override

end DocStore.Arguments
