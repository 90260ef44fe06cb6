import DocStore.Command.Line

/-!
# Commands and their arguments

What the command line can ask for: a `Command`, and settings that any command accepts before or after
its name (`Arguments`). `Arguments.parse` reads a command line.
-/

namespace DocStore

open CommandLine (Given Level Operand OptionRule UsageError)

/-- The options of a query. -/
structure QueryOptions where
  filter : Option String := none
  limit : Option Nat := none
  skip : Option Nat := none
  order : Option String := none
  keys : Option String := none
  /-- The references to expand. -/
  expand : Option String := none
  count : Bool := false
deriving DecidableEq, Repr

/-- What the command line asks for. -/
inductive Command where
  | get (className objectId : String) (expand : Bool)
  | save (className data : String) (objectId : Option String)
  | delete (className objectId : String)
  | query (className : String) (options : QueryOptions)
  | login (username password : String) (revocable : Bool)
  | signUp (username password : String) (email : Option String)
  | whoAmI (token : String)
  | resetPassword (email : String)
deriving DecidableEq, Repr

/-- A command and the settings given with it. -/
structure Arguments where
  serverUrl : Option String := none
  applicationId : Option String := none
  apiKey : Option String := none
  sessionToken : Option String := none
  verbose : Bool := false
  command : Command
deriving DecidableEq, Repr

namespace Arguments

/-- The settings that every command accepts. -/
def settings : List OptionRule :=
  [{ name := "server-url", operand := .text }, { name := "app-id", operand := .text },
    { name := "api-key", operand := .text }, { name := "session-token", operand := .text },
    { name := "verbose", short := some 'v', operand := .flag },
    { name := "help", short := some 'h', operand := .help }]

/-- The names of the commands. -/
def commandNames : List String :=
  ["get", "save", "delete", "query", "login", "signup", "whoami", "reset-password", "help"]

/-- What stands before the name of the command. -/
def outerLevel : Level :=
  { options := settings ++ [{ name := "version", short := some 'V', operand := .version }]
    subcommands := commandNames }

/-- The options of a query. -/
def queryOptions : List OptionRule :=
  [{ name := "where", short := some 'w', operand := .text },
    { name := "limit", short := some 'l', operand := .number },
    { name := "skip", short := some 's', operand := .number },
    { name := "order", short := some 'o', operand := .anyText },
    { name := "keys", short := some 'k', operand := .text },
    { name := "include", operand := .text },
    { name := "count", short := some 'c', operand := .flag }]

/-- What a command takes. -/
def commandLevel (name : String) : Level :=
  let words (n : Nat) (options : List OptionRule) : Level := { words := n, options := options ++ settings }
  if name = "get" then words 2 [{ name := "include", short := some 'i', operand := .flag }]
  else if name = "save" then words 2 [{ name := "id", operand := .text }]
  else if name = "delete" then words 2 []
  else if name = "query" then words 1 queryOptions
  else if name = "login" then words 2 [{ name := "revocable", operand := .flag }]
  else if name = "signup" then words 2 [{ name := "email", operand := .text }]
  else words 1 []

/-- The value of a number option. -/
def number? (g : Given) (name : String) : Option Nat :=
  (g.values.get? name).bind CommandLine.number?

/-- The query that was given. -/
def queryOptionsOf (g : Given) : QueryOptions :=
  { filter := g.values.get? "where"
    limit := number? g "limit"
    skip := number? g "skip"
    order := g.values.get? "order"
    keys := g.values.get? "keys"
    expand := g.values.get? "include"
    count := g.values.contains "count" }

/-- The command of a name with what was given to it. -/
def commandOf? (name : String) (g : Given) : Option Command :=
  match g.words with
  | [first, second] =>
    if name = "get" then some (.get first second (g.values.contains "include"))
    else if name = "save" then some (.save first second (g.values.get? "id"))
    else if name = "delete" then some (.delete first second)
    else if name = "login" then some (.login first second (g.values.contains "revocable"))
    else if name = "signup" then some (.signUp first second (g.values.get? "email"))
    else none
  | [first] =>
    if name = "query" then some (.query first (queryOptionsOf g))
    else if name = "whoami" then some (.whoAmI first)
    else if name = "reset-password" then some (.resetPassword first)
    else none
  | _ => none

/-- A setting; what is given after the command's name wins. -/
def setting (outer inner : Given) (name : String) : Option String :=
  inner.values.get? name <|> outer.values.get? name

/-- Read a command line. -/
def parse (arguments : List String) : Except UsageError Arguments := do
  let (outer, name, inner) ← outerLevel.readWithSubcommand commandLevel arguments
  match commandOf? name inner with
  | none => throw .unknownCommand
  | some command =>
    return {
      serverUrl := setting outer inner "server-url"
      applicationId := setting outer inner "app-id"
      apiKey := setting outer inner "api-key"
      sessionToken := setting outer inner "session-token"
      verbose := (setting outer inner "verbose").isSome
      command }

end Arguments

end DocStore
