import DocStore.Http.Transport
import DocStore.Session

/-!
# Calls

A `Call` is what a client does until it has a result: read the active token or the current user,
change the session, send a request. Each of these is one step, and other calls on the same session
may come between two steps.

`Call.step?` performs the first step in a `World` (the session, the server's state and the requests
sent so far), and `Call.run` performs all of them with nothing in between. How the server answers is a
parameter.
-/

namespace DocStore

/-- A change of the session, made in one step. -/
inductive SessionChange where
  /-- A user has logged in. -/
  | start (token : String) (user : User)
  | clear
  /-- Another token, for the same user. -/
  | setToken (token : Option String)
deriving Repr

/-- The session after a change. -/
def Session.change (s : Session) : SessionChange → Session
  | .start token user => .started token user
  | .clear => .empty
  | .setToken token => s.setToken token

/-- What a request brings. -/
abbrev Delivery := Except Http.TransportError Http.Response

/-- What a client does until it has a result. -/
inductive Call (α : Type) where
  | done (result : α)
  | readToken (next : Option String → Call α)
  | readUser (next : Option User → Call α)
  | changeSession (change : SessionChange) (next : Call α)
  | send (request : Http.Request) (next : Delivery → Call α)

/-- How a server with states of type `σ` answers a request. -/
abbrev Server (σ : Type) := Http.Request → σ → Delivery × σ

/-- What calls act on. -/
structure World (σ : Type) where
  session : Session := {}
  server : σ
  /-- The requests handed to the server, in order. -/
  sent : List Http.Request := []

namespace Call

variable {α β σ : Type}

/-- A call, and then another one that depends on its result. -/
def bind : Call α → (α → Call β) → Call β
  | done x, f => f x
  | readToken next, f => readToken fun token => (next token).bind f
  | readUser next, f => readUser fun user => (next user).bind f
  | changeSession change next, f => changeSession change (next.bind f)
  | send request next, f => send request fun delivery => (next delivery).bind f

instance : Monad Call where
  pure := done
  bind := bind

/-- The active token. -/
def token : Call (Option String) := readToken done

/-- The current user. -/
def user : Call (Option User) := readUser done

/-- Change the session. -/
def change (c : SessionChange) : Call Unit := changeSession c (done ())

/-- Send a request. -/
def request (r : Http.Request) : Call Delivery := send r done

end Call

namespace World

variable {σ : Type}

/-- The world after a change of the session. -/
def changeSession (w : World σ) (change : SessionChange) : World σ :=
  { w with session := w.session.change change }

/-- What a request brings, and the world after it. -/
def send (serve : Server σ) (w : World σ) (request : Http.Request) : Delivery × World σ :=
  let (delivery, server) := serve request w.server
  (delivery, { w with server, sent := w.sent ++ [request] })

end World

namespace Call

variable {α β σ : Type}

/-- The first step of a call, unless it has its result. -/
def step? (serve : Server σ) : Call α → World σ → Option (Call α × World σ)
  | done _, _ => none
  | readToken next, w => some (next w.session.token, w)
  | readUser next, w => some (next w.session.user, w)
  | changeSession change next, w => some (next, w.changeSession change)
  | send request next, w =>
    let (delivery, w) := w.send serve request
    some (next delivery, w)

/-- All steps of a call, with nothing in between: the result, and the world after it. -/
def run (serve : Server σ) : Call α → World σ → α × World σ
  | done x, w => (x, w)
  | readToken next, w => run serve (next w.session.token) w
  | readUser next, w => run serve (next w.session.user) w
  | changeSession change next, w => run serve next (w.changeSession change)
  | send request next, w =>
    run serve (next (w.send serve request).1) (w.send serve request).2

/-- Running two calls in sequence is running the first and then the second. -/
theorem run_bind (serve : Server σ) (call : Call α) (f : α → Call β) (w : World σ) :
    (call.bind f).run serve w = (f (call.run serve w).1).run serve (call.run serve w).2 := by
  induction call generalizing w with
  | done => rfl
  | readToken next ih => exact ih _ w
  | readUser next ih => exact ih _ w
  | changeSession change next ih => exact ih _
  | send request next ih => exact ih _ _

end Call

end DocStore
