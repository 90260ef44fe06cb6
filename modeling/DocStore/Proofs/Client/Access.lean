import DocStore.Proofs.Client.Operation

/-!
# Operations on one record

Five operations load, change or delete the stored object of a record (`Client.Access`).  Each of them
is one exchange of a request that depends on the id of the record, and without an id all but a save
fail at once (`Client.Access.trace_iff`, `Client.Access.request?_cases`).
-/

namespace DocStore.Client

open Call

/-- What is asked of the stored object of a record. -/
inductive Access where
  | save
  | fetch
  | refresh
  | update (changes : Json)
  | delete

namespace Access

variable {τ : Type} [Stored τ]

/-- The operation that asks for it. -/
def operation (c : Config) : Access → Operation τ
  | save => Client.save c
  | fetch => Client.fetch c
  | refresh => Client.refresh c
  | update changes => Client.update c changes
  | delete => Client.delete c

/-- The method by which a stored object is accessed. -/
def method : Access → Http.Method
  | save | update _ => .put
  | fetch | refresh => .get
  | delete => .delete

/-- The request for a record; without an id there is none, except to create the object. -/
def request? (r : Record) : Access → Option Api.Request
  | save => some (saveRequest r)
  | fetch => r.objectPath?.map fun path =>
      { method := .get, path, parameters := expandParameter r }
  | refresh => r.objectPath?.map fun path => { method := .get, path }
  | update changes => r.objectPath?.map fun path => { method := .put, path, body := some changes }
  | delete => r.objectPath?.map fun path => { method := .delete, path }

/-- How the reply is taken in. -/
def receive (target : τ) : Access → Json → Except Error τ
  | delete => fun _ => .ok target
  | _ => mergeReply target

/-- What the request is: to create an object of the class while the record is new, and else for the
object of its id. -/
theorem request?_cases (r : Record) (access : Access) :
    (r.objectId = none ∧ access = save ∧
        access.request? r = some { method := .post, path := r.classPath, body := some r.body }) ∨
      (r.objectId = none ∧ access ≠ save ∧ access.request? r = none) ∨
      ∃ id request, r.objectId = some id ∧ access.request? r = some request ∧
        request.method = access.method ∧ request.path = r.classPath ++ "/" ++ id := by
  cases hid : r.objectId with
  | none =>
    have hpath : r.objectPath? = none := by rw [Record.objectPath?, hid]; rfl
    cases access <;> simp [request?, saveRequest, hpath]
  | some id =>
    have hpath : r.objectPath? = some (r.classPath ++ "/" ++ id) := by
      rw [Record.objectPath?, hid]
      rfl
    cases access <;> simp [request?, saveRequest, hpath, method]

variable {c : Config} {target : τ} {calls : List CallEvent} {x : Outcome × τ}

/-- An operation on a saved target is the exchange of the request for its path. -/
theorem trace_onSaved_iff {request : String → τ → Api.Request}
    {receive : τ → Json → Except Error τ} :
    Trace (onSaved (fun path target =>
        exchange c (request path target) target (receive target)) target) calls x ↔
      match (Stored.record target).objectPath?.map fun path => request path target with
      | some request => Exchanged c request target (receive target) calls x
      | none => calls = [] ∧ x = (.error .missingObjectId, target) := by
  rw [trace_onSaved]
  cases (Stored.record target).objectPath? with
  | none => simp
  | some path => simp [trace_exchange]

/-- An operation is the exchange of its request, or fails at once if there is none. -/
theorem trace_iff (access : Access) :
    Trace (access.operation c target) calls x ↔
      match access.request? (Stored.record target) with
      | some request => Exchanged c request target (access.receive target) calls x
      | none => calls = [] ∧ x = (.error .missingObjectId, target) := by
  cases access <;> simp only [operation, request?, receive]
  case save => exact trace_exchange
  all_goals exact trace_onSaved_iff

end Access

end DocStore.Client
