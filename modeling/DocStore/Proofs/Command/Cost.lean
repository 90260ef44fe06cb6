import DocStore.Command.Execution
import DocStore.Proofs.Client.Cost

/-!
# How many requests a command sends

A command checks the documents and the names that it was given before it performs its one operation,
so that it too sends one request, or none if it fails with an error that is found on the spot
(`CommandError.isLocal`).

* `Command.costs_execute` : what a command costs, for each command;
* `Command.one_request_or_none` : **one request or none**, for every operation of a client and every
  command.
-/

namespace DocStore

/-- Whether an error is found before anything is sent. -/
def CommandError.isLocal : CommandError → Bool
  | client e => e.isLocal
  | invalidJson .. | notAnObject _ | reservedField _ => true

namespace Command

open Call Client

/-! ### What is checked first -/

variable {e : CommandError}

theorem isLocal_of_parseObject {what text : String} (h : parseObject what text = .error e) :
    e.isLocal = true := by
  unfold parseObject at h
  split at h <;> cases h <;> rfl

theorem isLocal_of_setAll {r : Record} {entries : List (String × Json)}
    (h : setAll r entries = .error e) : e.isLocal = true := by
  induction entries generalizing r with
  | nil => cases h
  | cons entry entries ih =>
    unfold setAll at h
    split at h
    · exact ih h
    · cases h
      rfl

theorem isLocal_of_recordToSave {className data : String} {objectId : Option String}
    (h : recordToSave className data objectId = .error e) : e.isLocal = true := by
  obtain h | ⟨_, -, h⟩ := bind_eq_error_iff.1 h
  · exact isLocal_of_parseObject h
  · exact isLocal_of_setAll h

theorem isLocal_of_queryOf {className : String} {options : QueryOptions}
    (h : queryOf className options = .error e) : e.isLocal = true := by
  unfold queryOf at h
  cases hfilter : options.filter with
  | none =>
    rw [hfilter] at h
    cases h
  | some text =>
    rw [hfilter] at h
    cases hparse : parseObject "where" text with
    | error e' =>
      simp only [hparse] at h
      cases h
      exact isLocal_of_parseObject hparse
    | ok entries =>
      simp only [hparse] at h
      cases h

/-! ### What a command costs -/

variable {c : Config}

theorem requestsFor_resultOf {τ : Type} (document : τ → Json) (x : Outcome × τ) :
    requestsFor CommandError.isLocal (resultOf document x) = costOf x := by
  obtain ⟨outcome, target⟩ := x
  cases outcome <;> rfl

theorem requestsFor_resultOfUser (x : Except Error User) :
    requestsFor CommandError.isLocal (resultOfUser x) = requestsFor Error.isLocal x := by
  cases x <;> rfl

/-- The document that is printed costs nothing beside the operation. -/
theorem costs_resultOf {τ : Type} {call : Call (Outcome × τ)} (h : Costs costOf call)
    (document : τ → Json) :
    Costs (requestsFor CommandError.isLocal) (call.bind fun x => .done (resultOf document x)) :=
  h.map (requestsFor_resultOf document)

theorem costs_refused {α : Type} (h : e.isLocal = true) :
    Costs (requestsFor CommandError.isLocal) (.done (.error e : Except CommandError α)) :=
  costs_done (by rw [requestsFor, h]; rfl)

/-- **A command costs what its operation costs**, or nothing if its arguments are refused. -/
theorem costs_execute (command : Command) :
    Costs (requestsFor CommandError.isLocal) (execute c command) := by
  cases command with
  | get className objectId expand =>
    cases expand with
    | true => exact costs_resultOf (costs_access .fetch _) _
    | false => exact costs_resultOf (costs_access .refresh _) _
  | save className data objectId =>
    rw [execute]
    cases hrecord : recordToSave className data objectId with
    | error e => exact costs_refused (isLocal_of_recordToSave hrecord)
    | ok r => exact costs_resultOf (costs_access .save r) _
  | delete className objectId => exact costs_resultOf (costs_access .delete _) _
  | query className options =>
    rw [execute]
    cases hquery : queryOf className options with
    | error e => exact costs_refused (isLocal_of_queryOf hquery)
    | ok q => exact costs_resultOf (costs_find q) _
  | login username password => exact (costs_login username password).map requestsFor_resultOfUser
  | signUp username password email => exact costs_resultOf (costs_signUp _) _
  | whoAmI token => exact (costs_validate token).map requestsFor_resultOfUser
  | resetPassword email =>
    -- The outcome alone is looked at here, so that it takes a target to be a result like the others.
    have hresult : execute c (.resetPassword email) =
        (requestPasswordReset c email).bind fun outcome =>
          .done (resultOf (fun _ => nothing) (outcome, ())) := by
      refine congrArg (Call.bind _) (funext fun outcome => ?_)
      cases outcome <;> rfl
    rw [hresult]
    exact (costs_requestPasswordReset email).map fun outcome => requestsFor_resultOf _ (outcome, ())

/-- **One request or none.**  However an operation of a client goes, and whatever the server answers,
it sends one request if it ends well or with an error that the server or the way to it has brought
about, and none if an id or a text is missing or no URL can be built.  A command moreover sends none
if what it was given is no JSON object or has a reserved name. -/
theorem one_request_or_none {τ : Type} [Stored τ] (c : Config) (request : Api.Request)
    (access : Access) (target : τ) (q : Query) (u : User) (username password token email : String)
    (command : Command) :
    Costs (requestsFor Error.isLocal) (Client.execute c request) ∧
    (Costs costOf (access.operation c target) ∧ Costs costOf (Client.find c q)) ∧
    (Costs costOf (Client.logIn c u) ∧ Costs costOf (Client.signUp c u) ∧
      Costs (requestsFor Error.isLocal) (Client.login c username password) ∧
      Costs (requestsFor Error.isLocal) (Client.validate c token) ∧
      Costs (requestsFor Error.isLocal) (Client.requestPasswordReset c email) ∧
      Costs costOf (Client.resetPassword c u)) ∧
    Costs (requestsFor CommandError.isLocal) (execute c command) :=
  ⟨Client.costs_execute request, ⟨costs_access access target, costs_find q⟩,
    ⟨costs_logIn u, costs_signUp u, costs_login username password, costs_validate token,
      costs_requestPasswordReset email, costs_resetPassword u⟩, costs_execute command⟩

end Command

end DocStore
