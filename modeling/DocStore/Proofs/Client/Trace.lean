import DocStore.Client.Call

/-!
# Traces of calls

The steps of a call show a list of events: what was read of the session, how it was changed, what
was sent and what came back.  What a call may show does not depend on the world it acts on, so
that one description of it serves runs without interruption and any interleaving with other calls.

* `Call.Steps` : the first steps of a call show certain events and leave another call;
  `Call.Trace` : all its steps show certain events and end with a result;
* `Call.trace_bind` : the trace of two calls in sequence is a trace of the first and one of the
  second;
* `World.Plays` : a world, with its server, shows certain events and becomes another world;
* `Call.step?_eq_some_iff` and `Call.run_eq_iff` : the steps and the runs of a call are exactly its
  traces that the world plays.
-/

namespace DocStore

/-- What a step of a call shows. -/
inductive CallEvent where
  | readToken (token : Option String)
  | readUser (user : Option User)
  | changeSession (change : SessionChange)
  /-- A request, and what it brought. -/
  | send (request : Http.Request) (delivery : Delivery)

/-- How an event changes the session, if it does. -/
def CallEvent.change? : CallEvent → Option SessionChange
  | .changeSession change => some change
  | _ => none

/-- The changes of the session among events. -/
def sessionChanges (events : List CallEvent) : List SessionChange :=
  events.filterMap CallEvent.change?

theorem CallEvent.change?_eq_some_iff {event : CallEvent} {change : SessionChange} :
    event.change? = some change ↔ event = .changeSession change := by
  cases event <;> simp [CallEvent.change?]

theorem changeSession_notMem {events : List CallEvent} (h : sessionChanges events = [])
    (change : SessionChange) : .changeSession change ∉ events := by
  intro hmem
  have hchange : change ∈ sessionChanges events := List.mem_filterMap.2 ⟨_, hmem, rfl⟩
  rw [h] at hchange
  cases hchange

theorem sessionChanges_append (first second : List CallEvent) :
    sessionChanges (first ++ second) = sessionChanges first ++ sessionChanges second :=
  List.filterMap_append

/-! ### The side of the call -/

namespace Call

variable {α β σ : Type}

/-- The first steps of a call show events and leave another call.  What is read and what is
delivered is up to the surroundings. -/
inductive Steps {α : Type} : Call α → List CallEvent → Call α → Prop
  | refl (call : Call α) : Steps call [] call
  | readToken {next : Option String → Call α} {token : Option String} {events : List CallEvent}
      {rest : Call α} (h : Steps (next token) events rest) :
      Steps (.readToken next) (.readToken token :: events) rest
  | readUser {next : Option User → Call α} {user : Option User} {events : List CallEvent}
      {rest : Call α} (h : Steps (next user) events rest) :
      Steps (.readUser next) (.readUser user :: events) rest
  | changeSession {change : SessionChange} {next : Call α} {events : List CallEvent} {rest : Call α}
      (h : Steps next events rest) :
      Steps (.changeSession change next) (.changeSession change :: events) rest
  | send {request : Http.Request} {next : Delivery → Call α} {delivery : Delivery}
      {events : List CallEvent} {rest : Call α} (h : Steps (next delivery) events rest) :
      Steps (.send request next) (.send request delivery :: events) rest

/-- All steps of a call show events and end with a result. -/
def Trace (call : Call α) (events : List CallEvent) (x : α) : Prop := Steps call events (.done x)

theorem Steps.trans {call middle rest : Call α} {first second : List CallEvent}
    (h : Steps call first middle) (h' : Steps middle second rest) :
    Steps call (first ++ second) rest := by
  induction h with
  | refl => exact h'
  | readToken _ ih => exact .readToken (ih h')
  | readUser _ ih => exact .readUser (ih h')
  | changeSession _ ih => exact .changeSession (ih h')
  | send _ ih => exact .send (ih h')

theorem Steps.eq_of_nil {call rest : Call α} (h : Steps call [] rest) : rest = call := by
  cases h
  rfl

/-- The first of several steps can be taken alone. -/
theorem Steps.uncons {call rest : Call α} {event : CallEvent} {events : List CallEvent}
    (h : Steps call (event :: events) rest) :
    ∃ middle, Steps call [event] middle ∧ Steps middle events rest := by
  cases h with
  | readToken h => exact ⟨_, .readToken (.refl _), h⟩
  | readUser h => exact ⟨_, .readUser (.refl _), h⟩
  | changeSession h => exact ⟨_, .changeSession (.refl _), h⟩
  | send h => exact ⟨_, .send (.refl _), h⟩

@[simp] theorem pure_eq (x : α) : (pure x : Call α) = .done x := rfl

@[simp] theorem bind_eq (call : Call α) (f : α → Call β) : (call >>= f) = call.bind f := rfl

@[simp] theorem trace_done {x y : α} {events : List CallEvent} :
    Trace (.done x) events y ↔ events = [] ∧ y = x := by
  constructor
  · rintro ⟨⟩
    exact ⟨rfl, rfl⟩
  · rintro ⟨rfl, rfl⟩
    exact .refl _

theorem trace_readToken {next : Option String → Call α} {x : α} {events : List CallEvent} :
    Trace (.readToken next) events x ↔
      ∃ token rest, events = .readToken token :: rest ∧ Trace (next token) rest x := by
  constructor
  · rintro ⟨⟩
    exact ⟨_, _, rfl, ‹_›⟩
  · rintro ⟨_, _, rfl, h⟩
    exact .readToken h

theorem trace_readUser {next : Option User → Call α} {x : α} {events : List CallEvent} :
    Trace (.readUser next) events x ↔
      ∃ user rest, events = .readUser user :: rest ∧ Trace (next user) rest x := by
  constructor
  · rintro ⟨⟩
    exact ⟨_, _, rfl, ‹_›⟩
  · rintro ⟨_, _, rfl, h⟩
    exact .readUser h

theorem trace_changeSession {change : SessionChange} {next : Call α} {x : α}
    {events : List CallEvent} :
    Trace (.changeSession change next) events x ↔
      ∃ rest, events = .changeSession change :: rest ∧ Trace next rest x := by
  constructor
  · rintro ⟨⟩
    exact ⟨_, rfl, ‹_›⟩
  · rintro ⟨_, rfl, h⟩
    exact .changeSession h

theorem trace_send {request : Http.Request} {next : Delivery → Call α} {x : α}
    {events : List CallEvent} :
    Trace (.send request next) events x ↔
      ∃ delivery rest, events = .send request delivery :: rest ∧ Trace (next delivery) rest x := by
  constructor
  · rintro ⟨⟩
    exact ⟨_, _, rfl, ‹_›⟩
  · rintro ⟨_, _, rfl, h⟩
    exact .send h

/-- **The trace of two calls in sequence** is a trace of the first one and then one of the
second. -/
theorem trace_bind {call : Call α} {f : α → Call β} {y : β} {events : List CallEvent} :
    Trace (call.bind f) events y ↔
      ∃ first x second, events = first ++ second ∧ Trace call first x ∧ Trace (f x) second y := by
  constructor
  · intro h
    induction call generalizing events with
    | done x => exact ⟨[], x, events, rfl, .refl _, h⟩
    | readToken next ih =>
      obtain ⟨token, rest, rfl, hrest⟩ := trace_readToken.1 h
      obtain ⟨first, x, second, rfl, h₁, h₂⟩ := ih token hrest
      exact ⟨_ :: first, x, second, rfl, .readToken h₁, h₂⟩
    | readUser next ih =>
      obtain ⟨user, rest, rfl, hrest⟩ := trace_readUser.1 h
      obtain ⟨first, x, second, rfl, h₁, h₂⟩ := ih user hrest
      exact ⟨_ :: first, x, second, rfl, .readUser h₁, h₂⟩
    | changeSession change next ih =>
      obtain ⟨rest, rfl, hrest⟩ := trace_changeSession.1 h
      obtain ⟨first, x, second, rfl, h₁, h₂⟩ := ih hrest
      exact ⟨_ :: first, x, second, rfl, .changeSession h₁, h₂⟩
    | send request next ih =>
      obtain ⟨delivery, rest, rfl, hrest⟩ := trace_send.1 h
      obtain ⟨first, x, second, rfl, h₁, h₂⟩ := ih delivery hrest
      exact ⟨_ :: first, x, second, rfl, .send h₁, h₂⟩
  · rintro ⟨first, x, second, rfl, h₁, h₂⟩
    -- The call decides which events come first, so the induction is on the call here too.
    induction call generalizing first with
    | done z =>
      obtain ⟨rfl, rfl⟩ := trace_done.1 h₁
      exact h₂
    | readToken next ih =>
      obtain ⟨token, rest, rfl, hrest⟩ := trace_readToken.1 h₁
      exact .readToken (ih token rest hrest)
    | readUser next ih =>
      obtain ⟨user, rest, rfl, hrest⟩ := trace_readUser.1 h₁
      exact .readUser (ih user rest hrest)
    | changeSession change next ih =>
      obtain ⟨rest, rfl, hrest⟩ := trace_changeSession.1 h₁
      exact .changeSession (ih rest hrest)
    | send request next ih =>
      obtain ⟨delivery, rest, rfl, hrest⟩ := trace_send.1 h₁
      exact .send (ih delivery rest hrest)

/-- Every call can be performed to its end. -/
theorem exists_trace (call : Call α) : ∃ events x, Trace call events x := by
  induction call with
  | done x => exact ⟨[], x, .refl _⟩
  | readToken next ih =>
    obtain ⟨events, x, h⟩ := ih none
    exact ⟨_, x, .readToken h⟩
  | readUser next ih =>
    obtain ⟨events, x, h⟩ := ih none
    exact ⟨_, x, .readUser h⟩
  | changeSession change next ih =>
    obtain ⟨events, x, h⟩ := ih
    exact ⟨_, x, .changeSession h⟩
  | send request next ih =>
    obtain ⟨events, x, h⟩ := ih (.ok ⟨200, ""⟩)
    exact ⟨_, x, .send h⟩

/-- The events of the first steps are the beginning of a trace. -/
theorem Steps.exists_trace {call rest : Call α} {events : List CallEvent}
    (h : Steps call events rest) : ∃ more x, Trace call (events ++ more) x := by
  obtain ⟨more, x, h'⟩ := Call.exists_trace rest
  exact ⟨more, x, h.trans h'⟩

end Call

/-! ### The side of the world -/

namespace World

variable {σ : Type}

/-- A world, with its server, shows an event and becomes another world. -/
def Shows (serve : Server σ) (w : World σ) : CallEvent → World σ → Prop
  | .readToken token, w' => token = w.session.token ∧ w' = w
  | .readUser user, w' => user = w.session.user ∧ w' = w
  | .changeSession change, w' => w' = w.changeSession change
  | .send request delivery, w' => w.send serve request = (delivery, w')

/-- A world, with its server, shows events one after the other and becomes another world. -/
inductive Plays (serve : Server σ) : World σ → List CallEvent → World σ → Prop
  | nil (w : World σ) : Plays serve w [] w
  | cons {w w' w'' : World σ} {event : CallEvent} {events : List CallEvent}
      (h : w.Shows serve event w') (h' : Plays serve w' events w'') :
      Plays serve w (event :: events) w''

variable {serve : Server σ} {w w' : World σ}

/-- The session changes as the event says. -/
theorem Shows.session {event : CallEvent} (h : w.Shows serve event w') :
    w'.session = (sessionChanges [event]).foldl Session.change w.session := by
  cases event with
  | readToken token => rw [h.2]; rfl
  | readUser user => rw [h.2]; rfl
  | changeSession change => rw [show w' = w.changeSession change from h]; rfl
  | send request delivery =>
    have hw : w' = (w.send serve request).2 := congrArg Prod.snd h.symm
    rw [hw]; rfl

/-- The session changes as the events say. -/
theorem Plays.session {events : List CallEvent} (h : w.Plays serve events w') :
    w'.session = (sessionChanges events).foldl Session.change w.session := by
  induction h with
  | nil => rfl
  | @cons w w' w'' event events h _ ih =>
    rw [ih, h.session, ← List.foldl_append, ← sessionChanges_append, List.singleton_append]

/-- Events in sequence are shown from a world in between. -/
theorem Plays.of_append {first second : List CallEvent} (h : w.Plays serve (first ++ second) w') :
    ∃ middle, w.Plays serve first middle ∧ middle.Plays serve second w' := by
  induction first generalizing w with
  | nil => exact ⟨w, .nil w, h⟩
  | cons event first ih =>
    cases h with
    | cons hshows h =>
      obtain ⟨middle, hfirst, hsecond⟩ := ih h
      exact ⟨middle, .cons hshows hfirst, hsecond⟩

end World

/-! ### Steps and runs -/

namespace Call

variable {α σ : Type} {serve : Server σ} {w w' : World σ}

/-- A step of a call is an event that the world shows. -/
theorem step?_eq_some_iff {call call' : Call α} :
    call.step? serve w = some (call', w') ↔
      ∃ event, Steps call [event] call' ∧ w.Shows serve event w' := by
  constructor
  · intro h
    cases call with
    | done x => cases h
    | readToken next =>
      cases h
      exact ⟨.readToken w.session.token, .readToken (.refl _), rfl, rfl⟩
    | readUser next =>
      cases h
      exact ⟨.readUser w.session.user, .readUser (.refl _), rfl, rfl⟩
    | changeSession change next =>
      cases h
      exact ⟨.changeSession change, .changeSession (.refl _), rfl⟩
    | send request next =>
      cases h
      exact ⟨.send request (w.send serve request).1, .send (.refl _), rfl⟩
  · rintro ⟨event, hsteps, hshows⟩
    cases hsteps with
    | readToken h =>
      obtain rfl := h.eq_of_nil
      obtain ⟨rfl, rfl⟩ := hshows
      rfl
    | readUser h =>
      obtain rfl := h.eq_of_nil
      obtain ⟨rfl, rfl⟩ := hshows
      rfl
    | changeSession h =>
      obtain rfl := h.eq_of_nil
      obtain rfl := hshows
      rfl
    | send h =>
      obtain rfl := h.eq_of_nil
      rw [step?, show w.send serve _ = _ from hshows]

/-- **A run of a call is a trace that the world plays.** -/
theorem run_eq_iff {call : Call α} {x : α} :
    call.run serve w = (x, w') ↔ ∃ events, Trace call events x ∧ w.Plays serve events w' := by
  constructor
  · intro h
    induction call generalizing w with
    | done y =>
      cases h
      exact ⟨[], .refl _, .nil _⟩
    | readToken next ih =>
      obtain ⟨events, htrace, hplays⟩ := ih _ h
      exact ⟨_, .readToken htrace, .cons ⟨rfl, rfl⟩ hplays⟩
    | readUser next ih =>
      obtain ⟨events, htrace, hplays⟩ := ih _ h
      exact ⟨_, .readUser htrace, .cons ⟨rfl, rfl⟩ hplays⟩
    | changeSession change next ih =>
      obtain ⟨events, htrace, hplays⟩ := ih h
      exact ⟨_, .changeSession htrace, .cons rfl hplays⟩
    | send request next ih =>
      obtain ⟨events, htrace, hplays⟩ := ih _ h
      exact ⟨_, .send htrace, .cons rfl hplays⟩
  · rintro ⟨events, htrace, hplays⟩
    -- The world has played the events one by one, and each is a step of what is left of the call.
    induction hplays generalizing call with
    | nil w =>
      cases htrace
      rfl
    | cons hshows _ ih =>
      cases htrace with
      | readToken h =>
        obtain ⟨rfl, rfl⟩ := hshows
        have hrun := ih h
        exact hrun
      | readUser h =>
        obtain ⟨rfl, rfl⟩ := hshows
        have hrun := ih h
        exact hrun
      | changeSession h =>
        obtain rfl := hshows
        have hrun := ih h
        exact hrun
      | send h =>
        rw [run, show World.send serve _ _ = _ from hshows]
        exact ih h

end Call

end DocStore
