import DocStore.Error
import DocStore.Power

/-!
# Client configuration

A `Config` says to which application on which server a client speaks. `Config.validate` names the
first setting that a client cannot work with, `Config.resourceUrl` builds the absolute URL of a
resource path, and `Config.ofEnvironment` reads the settings from named variables.
-/

namespace DocStore

/-- The settings shared by every request of a client. -/
structure Config where
  applicationId : String := ""
  apiKey : String := ""
  /-- The root of the server; a path in it is kept. -/
  serverUrl : String := "https://api.parse.com"
  apiVersion : String := "1"
  /-- Whether logins ask for sessions that can be revoked. -/
  revocableSessions : Bool := false
  /-- How long a request may take, in nanoseconds. -/
  timeout : Nat := 30 * tenTo 9
  /-- The number of workers for background tasks; without one every task has its own. -/
  workers : Option Nat := none
deriving DecidableEq, Repr

namespace Config

/-- The timeout in whole milliseconds. -/
def timeoutMillis (c : Config) : Nat := c.timeout / tenTo 6

/-- Check that a text is an absolute URL. -/
def checkUrl (url : String) : Except Error Unit :=
  match Url.parse url with
  | .ok _ => .ok ()
  | .error e => .error (.url e)

/-- Check the settings that a client cannot work without. -/
def validate (c : Config) : Outcome :=
  if c.applicationId = "" then .error (.config "application id is empty")
  else if c.apiKey = "" then .error (.config "api key is empty")
  else if c.workers = some 0 then .error (.config "background worker pool must not be empty")
  else checkUrl c.serverUrl

/-! ### URLs of resources -/

/-- The text without slashes at its start. -/
def trimSlashesStart (s : List Char) : List Char := s.dropWhile (· = '/')

/-- The text without slashes at its end. -/
def trimSlashesEnd (s : List Char) : List Char := (s.reverse.dropWhile (· = '/')).reverse

/-- The text of a resource's URL: server, version and path, joined by single slashes. -/
def resourceText (c : Config) (path : String) : String :=
  String.ofList <|
    trimSlashesEnd c.serverUrl.toList ++
      '/' :: trimSlashesEnd (trimSlashesStart c.apiVersion.toList) ++
        '/' :: trimSlashesStart path.toList

/-- The absolute URL of a resource path. -/
def resourceUrl (c : Config) (path : String) : Except Error String :=
  (checkUrl (c.resourceText path)).map fun _ => c.resourceText path

/-! ### Settings from variables -/

/-- The variable that holds the application id. -/
def applicationIdVariable : String := "DOCSYNC_APPLICATION_ID"

/-- The variable that holds the key. -/
def apiKeyVariable : String := "DOCSYNC_API_KEY"

/-- The variable that holds the server's URL. -/
def serverUrlVariable : String := "DOCSYNC_SERVER_URL"

/-- The variable that holds the version of the API. -/
def apiVersionVariable : String := "DOCSYNC_API_VERSION"

/-- The variable that asks for sessions that can be revoked. -/
def revocableSessionsVariable : String := "DOCSYNC_REVOCABLE_SESSIONS"

/-- The value of a variable that has to be set. -/
def require (lookup : String → Option String) (name : String) : Except Error String :=
  match lookup name with
  | some value => .ok value
  | none => .error (.config (name ++ " is not set"))

/-- Whether a variable's value switches a setting on. -/
def isAffirmative (value : String) : Bool := value = "1" || value = "true" || value = "yes"

/-- The settings that variables hold. Application id and key have to be set, the others may be. -/
def ofEnvironment (lookup : String → Option String) : Except Error Config := do
  let applicationId ← require lookup applicationIdVariable
  let apiKey ← require lookup apiKeyVariable
  let default : Config := {}
  return {
    applicationId
    apiKey
    serverUrl := (lookup serverUrlVariable).getD default.serverUrl
    apiVersion := (lookup apiVersionVariable).getD default.apiVersion
    revocableSessions :=
      ((lookup revocableSessionsVariable).map isAffirmative).getD default.revocableSessions }

end Config

end DocStore
