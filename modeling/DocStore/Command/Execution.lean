import DocStore.Client.Account
import DocStore.Command.Arguments

/-!
# Carrying out commands

Each command is one operation of the client and yields the document to print. Documents given on the
command line have to be objects, and attributes to save must not have a reserved name; both are
checked before anything is sent.
-/

namespace DocStore

/-- Why a command failed. -/
inductive CommandError where
  | client (error : Error)
  | invalidJson (what : String) (error : Json.ReadError)
  | notAnObject (what : String)
  | reservedField (key : String)
deriving Repr, BEq

/-- The wording of a failure. -/
def CommandError.message : CommandError → String
  | client error => error.message
  | invalidJson what error => "invalid " ++ what ++ ": " ++ error.message
  | notAnObject what => what ++ " must be a JSON object"
  | reservedField key => "cannot set reserved field " ++ key

namespace Command

/-- What carrying out a command leads to. -/
abbrev Result := Except CommandError Json

/-- The result of an operation: the document of its target. -/
def resultOf {τ : Type} (document : τ → Json) (ended : Outcome × τ) : Result :=
  match ended with
  | (.ok (), target) => .ok (document target)
  | (.error e, _) => .error (.client e)

/-- The result of an operation that yields a user. -/
def resultOfUser : Except Error User → Result
  | .ok u => .ok u.record.document
  | .error e => .error (.client e)

/-- The members of the object that an argument has to be. -/
def parseObject (what text : String) : Except CommandError (Members Json) :=
  match Json.parse text with
  | .ok (.object entries) => .ok entries
  | .ok _ => .error (.notAnObject what)
  | .error e => .error (.invalidJson what e)

/-- Set attributes in order, up to the first whose name is reserved. -/
def setAll : Record → List (String × Json) → Except CommandError Record
  | r, [] => .ok r
  | r, (key, value) :: entries =>
    match r.set? key value with
    | some r => setAll r entries
    | none => .error (.reservedField key)

/-- The record that a save writes. -/
def recordToSave (className data : String) (objectId : Option String) :
    Except CommandError Record := do
  setAll { className, objectId } (← parseObject "data" data)

/-- The query that the options describe. -/
def queryOf (className : String) (options : QueryOptions) : Except CommandError Query := do
  let filter ←
    match options.filter with
    | some text => (parseObject "where" text).map fun entries => some (Json.object entries)
    | none => pure none
  return {
    className
    filter
    limit := options.limit.getD 0
    skip := options.skip.getD 0
    order := options.order.bind Query.textOption
    keys := options.keys.bind Query.textOption
    expand := options.expand.bind Query.textOption
    count := options.count }

/-- What a query found. -/
def queryDocument (q : Query) : Json :=
  if q.count then .object [("count", .int q.size)]
  else .object [("results", .array (q.results.map Record.document))]

/-- The user who is about to sign up. -/
def newUser (username password : String) (email : Option String) : User :=
  let u := User.ofCredentials username password
  match email with
  | some email => u.setEmail email
  | none => u

/-- What is printed where there is nothing to show. -/
def nothing : Json := .object []

/-- Carry out a command. -/
def execute (c : Config) : Command → Call Result
  | .get className objectId expand => do
    let r : Record := { className, objectId := some objectId }
    return resultOf Record.document (← if expand then Client.fetch c r else Client.refresh c r)
  | .save className data objectId =>
    match recordToSave className data objectId with
    | .error e => .done (.error e)
    | .ok r => do return resultOf Record.document (← Client.save c r)
  | .delete className objectId => do
    let r : Record := { className, objectId := some objectId }
    return resultOf (fun _ => nothing) (← Client.delete c r)
  | .query className options =>
    match queryOf className options with
    | .error e => .done (.error e)
    | .ok q => do return resultOf queryDocument (← Client.find c q)
  | .login username password _ => do
    return resultOfUser (← Client.login c username password)
  | .signUp username password email => do
    return resultOf (fun u => u.record.document)
      (← Client.signUp c (newUser username password email))
  | .whoAmI token => do return resultOfUser (← Client.validate c token)
  | .resetPassword email => do
    match ← Client.requestPasswordReset c email with
    | .ok () => return .ok nothing
    | .error e => return .error (.client e)

end Command

end DocStore
