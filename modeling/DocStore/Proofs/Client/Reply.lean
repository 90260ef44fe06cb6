import DocStore.Proofs.Api.Request
import DocStore.Proofs.Client.Atomicity
import DocStore.Proofs.Json.Reader

/-!
# What comes back

The documents that come back among events are `Client.replies`.  An operation that succeeds has
read the active token, has sent its request once, and has taken in the document that came back
(`Client.trace_exchange_ok_iff`); of a save this is said in full (`Client.trace_save_ok_iff`).
-/

namespace DocStore.Client

open Call

/-- The documents that came back. -/
def replies (calls : List CallEvent) : List Json :=
  calls.filterMap fun
    | .send _ delivery => (replyOf delivery).toOption
    | _ => none

theorem replies_append (first second : List CallEvent) :
    replies (first ++ second) = replies first ++ replies second :=
  List.filterMap_append

/-- Whatever is delivered, the document that it stands for has distinct names. -/
theorem hasDistinctNames_replyOf {delivery : Delivery} {reply : Json}
    (h : replyOf delivery = .ok reply) : reply.HasDistinctNames := by
  cases delivery with
  | error e => cases h
  | ok response => exact Api.hasDistinctNames_interpret h

theorem Answered.hasDistinctNames {events : List CallEvent} {reply : Json}
    (h : Answered events reply) : reply.HasDistinctNames := by
  obtain ⟨_, _, response, -, hreply⟩ := h
  exact Api.hasDistinctNames_interpret hreply

theorem Answered.replies_eq {calls : List CallEvent} {reply : Json} (h : Answered calls reply) :
    replies calls = [reply] := by
  obtain ⟨active, http, response, rfl, hreply⟩ := h
  simp [replies, replyOf, hreply, Except.toOption]

variable {τ : Type} {c : Config} {request : Api.Request} {target target' : τ}
  {receive : Json → Except Error τ} {calls : List CallEvent}

/-- A request whose URL can be read is sent, and the response is what it is interpreted as. -/
theorem answer_of_interpret {active : Option String} {response : Http.Response} {reply : Json}
    (hurl : Config.checkUrl (c.resourceText request.path) = .ok ())
    (hreply : Api.interpret response = .ok reply) :
    Answer c request [.readToken active, .send (request.message c active) (.ok response)]
      (.ok reply) := by
  have hresolve : request.resolve c active = .ok (request.message c active) :=
    Api.Request.resolve_eq_ok_iff.2 ⟨hurl, rfl⟩
  have hanswer := Answer.delivered hresolve (.ok response)
  rwa [show replyOf (.ok response) = .ok reply from hreply] at hanswer

/-- An operation that succeeds sends its request once, and takes in the document that comes back. -/
theorem trace_exchange_ok_iff :
    Trace (exchange c request target receive) calls (.ok (), target') ↔
      ∃ active response reply, Config.checkUrl (c.resourceText request.path) = .ok () ∧
        calls = [.readToken active, .send (request.message c active) (.ok response)] ∧
        Api.interpret response = .ok reply ∧ receive reply = .ok target' := by
  constructor
  · intro htrace
    obtain ⟨reply, hanswer, hreceive⟩ := (trace_exchange.1 htrace).received_of_ok
    generalize hreply : Except.ok reply = answer at hanswer
    cases hanswer with
    | refused => cases hreply
    | @delivered active http hresolve delivery =>
      obtain ⟨hurl, rfl⟩ := Api.Request.resolve_eq_ok_iff.1 hresolve
      cases delivery with
      | error e => cases hreply
      | ok response => exact ⟨active, response, reply, hurl, rfl, hreply.symm, hreceive⟩
  · rintro ⟨active, response, reply, hurl, rfl, hreply, hreceive⟩
    exact trace_exchange.2 (.received (answer_of_interpret hurl hreply) hreceive)

/-- A save that succeeds sends the record's document once, and lays the reply over the record. -/
theorem trace_save_ok_iff {r r' : Record} :
    Trace (save c r) calls (.ok (), r') ↔ ∃ active response reply,
      Config.checkUrl (c.resourceText (saveRequest r).path) = .ok () ∧
        calls = [.readToken active, .send ((saveRequest r).message c active) (.ok response)] ∧
        Api.interpret response = .ok reply ∧ r' = r.merge reply := by
  have hmerge : ∀ reply, mergeReply r reply = .ok r' ↔ r' = r.merge reply := fun reply =>
    ⟨fun h => (Except.ok.inj h).symm, fun h => congrArg Except.ok h.symm⟩
  refine trace_exchange_ok_iff.trans ?_
  simp only [hmerge]
  rfl

/-- The events of a request that is answered by a text, while no token is active. -/
def answered (request : Api.Request) (body : String) : List CallEvent :=
  [.readToken none, .send (request.message {} none) (.ok ⟨200, body⟩)]

/-- The events of a save that is answered by a text, while no token is active. -/
def answeredSave (r : Record) (body : String) : List CallEvent := answered (saveRequest r) body

theorem answer_answered {body : String} {reply : Json}
    (hurl : Config.checkUrl (({} : Config).resourceText request.path) = .ok ())
    (hreply : Api.interpret ⟨200, body⟩ = .ok reply) :
    Answer {} request (answered request body) (.ok reply) :=
  answer_of_interpret hurl hreply

theorem trace_answeredSave {r : Record} {body : String} {reply : Json}
    (hurl : Config.checkUrl (({} : Config).resourceText (saveRequest r).path) = .ok ())
    (hreply : Api.interpret ⟨200, body⟩ = .ok reply) :
    Trace (save {} r) (answeredSave r body) (.ok (), r.merge reply) :=
  trace_save_ok_iff.2 ⟨none, _, reply, hurl, rfl, hreply, rfl⟩

end DocStore.Client
