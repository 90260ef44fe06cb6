import Mathlib.Data.List.DropRight
import DocStore.Http.Scripted

/-!
# A scripted server is a queue for each route

The responses that are scripted for a route wait in a queue (`Route.waiting`).  A request moves the
queue of its own route on by one, but leaves the last response in it, and no other queue changes.

* `Route.waiting_enqueue`, `Route.waiting_take?` : what scripting a response and taking one do to the
  queue of every route;
* `ScriptedServer.waiting_act` : what one event does, `ScriptedServer.waiting_after` : what a course of
  events does;
* `ScriptedServer.routes_are_queues` : **the request number `k` of a route with `n` responses gets the
  response number `min k n`**, whatever was asked of other routes; a server that is made to fail fails
  always and keeps its queues; and the requests since the last time that they were forgotten are
  recorded.
-/

namespace DocStore.Http

/-- The method and path by which a request is routed. -/
def Request.route (r : Request) : Method × String := (r.method, ScriptedServer.routePath r.url)

namespace Route

variable {key key' : Method × String} {response : Response} {routes routes' : List Route}

/-- The responses that wait on a route. -/
def waiting (key : Method × String) : List Route → List Response
  | [] => []
  | route :: routes =>
    if route.matches? key.1 key.2 then route.queue else waiting key routes

theorem matches?_iff {route : Route} :
    route.matches? key.1 key.2 = true ↔ key = (route.method, route.path) := by
  simp only [matches?, Bool.and_eq_true, decide_eq_true_eq]
  exact ⟨fun ⟨hmethod, hpath⟩ => Prod.ext hmethod.symm hpath.symm,
    fun h => ⟨(congrArg Prod.fst h).symm, (congrArg Prod.snd h).symm⟩⟩

theorem waiting_cons (route : Route) : waiting key (route :: routes) =
    if key = (route.method, route.path) then route.queue else waiting key routes := by
  simp only [waiting, matches?_iff]

/-- A response that is scripted waits behind those of its route. -/
theorem waiting_enqueue (key : Method × String) :
    waiting key' (enqueue key.1 key.2 response routes) =
      if key' = key then waiting key routes ++ [response] else waiting key' routes := by
  induction routes with
  | nil => simp only [enqueue, waiting_cons, waiting, List.nil_append]
  | cons route routes ih =>
    by_cases hroute : route.matches? key.1 key.2
    · have hown := matches?_iff.1 hroute
      rw [enqueue, if_pos hroute, waiting_cons, waiting_cons, waiting_cons, if_pos hown, hown]
      by_cases hkey : key' = (route.method, route.path)
      · rw [if_pos hkey, if_pos hkey]
      · rw [if_neg hkey, if_neg hkey, if_neg hkey]
    · have hother : key ≠ (route.method, route.path) := fun h => hroute (matches?_iff.2 h)
      rw [enqueue, if_neg hroute, waiting_cons, waiting_cons, waiting_cons, if_neg hother, ih]
      by_cases hkey : key' = key
      · rw [if_pos hkey, if_pos hkey, hkey, if_neg hother]
      · rw [if_neg hkey, if_neg hkey]

/-- The queue after its next response, which stays if it is the last one. -/
def advanced (queue : List Response) : List Response := queue.drop (min 1 (queue.length - 1))

theorem next?_eq (queue : List Response) :
    next? queue = queue.head?.map fun response => (response, advanced queue) := by
  match queue with
  | [] => rfl
  | [_] => rfl
  | _ :: _ :: _ => rfl

/-- A queue is moved on once more. -/
theorem advanced_drop (queue : List Response) (k : Nat) :
    advanced (queue.drop (min k (queue.length - 1))) =
      queue.drop (min (k + 1) (queue.length - 1)) := by
  rw [advanced, List.drop_drop, List.length_drop]
  congr 1
  omega

/-- The next response of a route is the first that waits. -/
theorem fst_take? : (take? key.1 key.2 routes).map Prod.fst = (waiting key routes).head? := by
  induction routes with
  | nil => rfl
  | cons route routes ih =>
    by_cases hroute : route.matches? key.1 key.2
    · rw [take?, if_pos hroute, waiting, if_pos hroute, next?_eq]
      cases route.queue.head? <;> rfl
    · rw [take?, if_neg hroute, waiting, if_neg hroute, ← ih]
      cases take? key.1 key.2 routes <;> rfl

/-- Taking a response moves the queue of its route on, and no other one. -/
theorem waiting_take? (h : take? key.1 key.2 routes = some (response, routes')) :
    waiting key' routes' = if key' = key then advanced (waiting key routes) else waiting key' routes := by
  induction routes generalizing routes' with
  | nil => cases h
  | cons route routes ih =>
    by_cases hroute : route.matches? key.1 key.2
    · have hown := matches?_iff.1 hroute
      rw [take?, if_pos hroute, next?_eq, Option.map_map] at h
      obtain ⟨first, -, hfirst⟩ := Option.map_eq_some_iff.1 h
      cases hfirst
      rw [waiting_cons, waiting_cons, waiting_cons, if_pos hown, hown]
      by_cases hkey : key' = (route.method, route.path)
      · rw [if_pos hkey, if_pos hkey]
      · rw [if_neg hkey, if_neg hkey, if_neg hkey]
    · have hother : key ≠ (route.method, route.path) := fun h => hroute (matches?_iff.2 h)
      rw [take?, if_neg hroute] at h
      obtain ⟨⟨response', rest⟩, htake, hrest⟩ := Option.map_eq_some_iff.1 h
      cases hrest
      rw [waiting_cons, waiting_cons, waiting_cons, if_neg hother, ih htake]
      by_cases hkey : key' = key
      · rw [if_pos hkey, if_pos hkey, hkey, if_neg hother]
      · rw [if_neg hkey, if_neg hkey]

end Route

namespace ScriptedServer

open Route (waiting advanced)

variable {s : ScriptedServer} {key : Method × String}

/-! ### The script -/

/-- What a script says. -/
inductive Setting where
  | respond (method : Method) (path : String) (response : Response)
  /-- The response to requests without a route. -/
  | fallBackTo (response : Response)
  /-- The error with which every request fails. -/
  | failWith (message : String)

/-- A server that is told one thing more. -/
def configure (s : ScriptedServer) : Setting → ScriptedServer
  | .respond method path response => s.respond method path response
  | .fallBackTo response => { s with fallback := some response }
  | .failWith message => { s with failure := some message }

/-- The server of a script. -/
def scripted (settings : List Setting) : ScriptedServer := settings.foldl configure {}

/-- The response that a script says for a route. -/
def Setting.responseOn? (key : Method × String) : Setting → Option Response
  | .respond method path response => if key = (method, path) then some response else none
  | _ => none

/-- The responses that a script says for a route, in order. -/
def registered (key : Method × String) (settings : List Setting) : List Response :=
  settings.filterMap (Setting.responseOn? key)

theorem waiting_configure (setting : Setting) : waiting key (s.configure setting).routes =
    waiting key s.routes ++ (setting.responseOn? key).toList := by
  cases setting with
  | respond method path response =>
    rw [configure, respond, Setting.responseOn?]
    have hwaiting : waiting key (Route.enqueue method path response s.routes) = _ :=
      Route.waiting_enqueue (method, path)
    by_cases hkey : key = (method, path)
    · rw [hwaiting, if_pos hkey, if_pos hkey, hkey]
      rfl
    · rw [hwaiting, if_neg hkey, if_neg hkey]
      exact (List.append_nil _).symm
  | fallBackTo response => exact (List.append_nil _).symm
  | failWith message => exact (List.append_nil _).symm

theorem waiting_scripted (settings : List Setting) :
    waiting key (scripted settings).routes = registered key settings := by
  induction settings using List.reverseRecOn with
  | nil => rfl
  | append_singleton settings setting ih =>
    rw [scripted, List.foldl_append, registered, List.filterMap_append]
    show waiting key ((scripted settings).configure setting).routes = _
    rw [waiting_configure, ih, registered]
    rfl

/-! ### One request -/

/-- The response to a request without a route. -/
def unrouted (s : ScriptedServer) : Response := s.fallback.getD ⟨404, ""⟩

/-- What a request does: it is recorded; it fails if the server is made to fail, and then the queues
stay; else it gets the first response of its route, whose queue moves on. -/
structure Serves (request : Request) (s : ScriptedServer) (delivery : Except TransportError Response)
    (s' : ScriptedServer) : Prop where
  failure : s'.failure = s.failure
  fallback : s'.fallback = s.fallback
  recorded : s'.recorded = s.recorded ++ [request]
  fails : ∀ message, s.failure = some message →
    delivery = .error (.other message) ∧ s'.routes = s.routes
  answers : s.failure = none →
    delivery = .ok ((waiting request.route s.routes).head?.getD s.unrouted) ∧
      ∀ key, waiting key s'.routes =
        if key = request.route then advanced (waiting key s.routes) else waiting key s.routes

theorem serves (request : Request) (s : ScriptedServer) :
    Serves request s (serve request s).1 (serve request s).2 := by
  obtain ⟨routes, fallback, failure, recorded⟩ := s
  cases failure with
  | some message =>
    refine ⟨rfl, rfl, rfl, ?_, nofun⟩
    rintro _ ⟨⟩
    exact ⟨rfl, rfl⟩
  | none =>
    have hfirst : (Route.take? request.route.1 request.route.2 routes).map Prod.fst = _ := Route.fst_take?
    rw [serve]
    dsimp only
    cases htake : Route.take? request.method (routePath request.url) routes with
    | none =>
      have hnil : waiting request.route routes = [] := by
        rw [Request.route, htake] at hfirst
        exact List.head?_eq_none_iff.1 hfirst.symm
      refine ⟨rfl, rfl, rfl, nofun, fun _ => ⟨?_, fun key => ?_⟩⟩
      · rw [hnil]
        rfl
      · by_cases hkey : key = request.route
        · rw [if_pos hkey, hkey, hnil]
          rfl
        · rw [if_neg hkey]
    | some taken =>
      obtain ⟨response, routes'⟩ := taken
      have hhead : (waiting request.route routes).head? = some response := by
        rw [← hfirst, Request.route, htake]
        rfl
      have hlater (key : Method × String) : waiting key routes' = if key = request.route then
          advanced (waiting request.route routes) else waiting key routes :=
        Route.waiting_take? htake
      refine ⟨rfl, rfl, rfl, nofun, fun _ => ⟨?_, fun key => ?_⟩⟩
      · rw [hhead]
        rfl
      · rw [hlater]
        by_cases hkey : key = request.route
        · rw [if_pos hkey, if_pos hkey, hkey]
        · rw [if_neg hkey, if_neg hkey]

/-! ### A course of events -/

/-- What happens to a server once it is scripted. -/
inductive Event where
  | serve (request : Request)
  /-- Forget the requests so far. -/
  | clear

/-- The request of an event. -/
def Event.request? : Event → Option Request
  | .serve request => some request
  | .clear => none

/-- The server after an event. -/
def act (s : ScriptedServer) : Event → ScriptedServer
  | .serve request => (serve request s).2
  | .clear => s.clearRecorded

/-- The server after a course of events. -/
def after (s : ScriptedServer) (course : List Event) : ScriptedServer := course.foldl act s

/-- How many requests of a course were for a route. -/
def asked (key : Method × String) (course : List Event) : Nat :=
  (course.filterMap Event.request?).countP fun request => key = request.route

/-- The requests of a course since the last time that they were forgotten. -/
def sinceClear (course : List Event) : List Request :=
  (course.rtakeWhile fun event => event.request?.isSome).filterMap Event.request?

theorem after_concat (course : List Event) (event : Event) :
    s.after (course ++ [event]) = (s.after course).act event := by
  rw [after, List.foldl_append]
  rfl

theorem asked_concat_serve (course : List Event) (request : Request) :
    asked key (course ++ [.serve request]) =
      asked key course + if key = request.route then 1 else 0 := by
  rw [asked, List.filterMap_append, List.countP_append]
  simp [asked, Event.request?, List.countP_cons]

theorem asked_concat_clear (course : List Event) :
    asked key (course ++ [.clear]) = asked key course := by
  rw [asked, List.filterMap_append, List.countP_append]
  rfl

theorem sinceClear_concat_serve (course : List Event) (request : Request) :
    sinceClear (course ++ [.serve request]) = sinceClear course ++ [request] := by
  rw [sinceClear, List.rtakeWhile_concat_pos _ _ _ rfl, List.filterMap_append]
  rfl

theorem sinceClear_concat_clear (course : List Event) : sinceClear (course ++ [.clear]) = [] := by
  rw [sinceClear, List.rtakeWhile_concat_neg _ _ _ (by decide)]
  rfl

/-- No event changes what the script says beside the routes. -/
theorem failure_after (course : List Event) :
    (s.after course).failure = s.failure ∧ (s.after course).fallback = s.fallback := by
  induction course using List.reverseRecOn with
  | nil => exact ⟨rfl, rfl⟩
  | append_singleton course event ih =>
    rw [after_concat]
    cases event with
    | clear => exact ih
    | serve request =>
      have hserves := serves request (s.after course)
      exact ⟨hserves.failure.trans ih.1, hserves.fallback.trans ih.2⟩

/-- **What a course does to the queues**: the first response of a route waits no longer for each of the
requests to it, but for the last response, which stays. -/
theorem waiting_after (hfailure : s.failure = none) (course : List Event) :
    waiting key (s.after course).routes =
      (waiting key s.routes).drop (min (asked key course) ((waiting key s.routes).length - 1)) := by
  induction course using List.reverseRecOn with
  | nil => exact List.drop_zero.symm
  | append_singleton course event ih =>
    rw [after_concat]
    cases event with
    | clear =>
      rw [asked_concat_clear]
      exact ih
    | serve request =>
      have hserves := serves request (s.after course)
      obtain ⟨-, hmoved⟩ := hserves.answers ((failure_after course).1.trans hfailure)
      rw [act, hmoved, ih, asked_concat_serve]
      by_cases hkey : key = request.route
      · rw [if_pos hkey, if_pos hkey, Route.advanced_drop]
      · rw [if_neg hkey, if_neg hkey, Nat.add_zero]

/-- A server that is made to fail keeps its queues. -/
theorem routes_after {message : String} (hfailure : s.failure = some message)
    (course : List Event) : (s.after course).routes = s.routes := by
  induction course using List.reverseRecOn with
  | nil => rfl
  | append_singleton course event ih =>
    rw [after_concat]
    cases event with
    | clear => exact ih
    | serve request =>
      have hserves := serves request (s.after course)
      exact (hserves.fails message ((failure_after course).1.trans hfailure)).2.trans ih

/-- **What is recorded** is what was asked since it was last forgotten. -/
theorem recorded_after (hrecorded : s.recorded = []) (course : List Event) :
    (s.after course).recorded = sinceClear course := by
  induction course using List.reverseRecOn with
  | nil => exact hrecorded
  | append_singleton course event ih =>
    rw [after_concat]
    cases event with
    | clear =>
      rw [sinceClear_concat_clear]
      rfl
    | serve request =>
      rw [sinceClear_concat_serve, act, (serves request (s.after course)).recorded, ih]

theorem recorded_scripted (settings : List Setting) : (scripted settings).recorded = [] := by
  induction settings using List.reverseRecOn with
  | nil => rfl
  | append_singleton settings setting ih =>
    rw [scripted, List.foldl_append]
    cases setting <;> exact ih

/-- **The routes of a scripted server are independent queues.**  Unless the server is made to fail, the
request number `k` of a route with `n` responses gets the response number `min k n`, and a request
without a route gets the fallback response, whatever happened before.  A server that is made to fail, at
once or later, fails with its message and keeps all queues.  The requests since they were last forgotten
are recorded, in order. -/
theorem routes_are_queues (settings : List Setting) (before : List Event) (request : Request) :
    let server := (scripted settings).after before
    let queue := registered request.route settings
    let number := asked request.route before + 1
    ((scripted settings).failure = none →
      (queue = [] → (serve request server).1 = .ok ((scripted settings).fallback.getD ⟨404, ""⟩)) ∧
      (queue ≠ [] → ∃ response, queue[min number queue.length - 1]? = some response ∧
        (serve request server).1 = .ok response)) ∧
    (∀ (s : ScriptedServer) (message : String), s.failure = some message →
      (serve request (s.after before)).1 = .error (.other message) ∧
      (s.after before).routes = s.routes) ∧
    server.recorded = sinceClear before := by
  intro server queue number
  refine ⟨fun hfailure => ?_, fun s message hfailure => ?_, ?_⟩
  · have hkept := failure_after (s := scripted settings) before
    obtain ⟨hdelivery, -⟩ := (serves request server).answers (hkept.1.trans hfailure)
    have hunrouted : server.unrouted = (scripted settings).unrouted := by
      rw [unrouted, hkept.2, unrouted]
    rw [waiting_after hfailure, waiting_scripted, List.head?_drop, hunrouted] at hdelivery
    constructor
    · intro hnil
      rw [show registered request.route settings = [] from hnil] at hdelivery
      exact hdelivery
    · intro hsome
      have hpos : 0 < queue.length := List.length_pos_iff.2 hsome
      have hplace : min (asked request.route before) (queue.length - 1) =
          min number queue.length - 1 := by omega
      have hlt : min number queue.length - 1 < queue.length := by omega
      refine ⟨_, List.getElem?_eq_getElem hlt, ?_⟩
      rw [hdelivery, hplace, List.getElem?_eq_getElem hlt]
      rfl
  · have hkept := failure_after (s := s) before
    have hfails := (serves request (s.after before)).fails message (hkept.1.trans hfailure)
    exact ⟨hfails.1, routes_after hfailure before⟩
  · exact recorded_after (recorded_scripted settings) before

/-- Two answers for one route and one for another, asked for in turn from several hosts; a text that is
no URL; and a server that is made to fail afterwards. -/
theorem routes_are_queues_inTurn :
    let settings : List Setting :=
      [.respond .get "/a" ⟨200, "1"⟩, .respond .post "/a" ⟨201, "2"⟩, .respond .get "/a" ⟨200, "3"⟩]
    let read : Request := { url := "https://example.com/a" }
    let write : Request := { method := .post, url := "https://example.com/a" }
    let readElsewhere : Request := { url := "http://localhost:8/a?x=1", query := [("y", "2")] }
    let lost : Request := { url := "nowhere" }
    let before : List Event :=
      [.serve read, .serve write, .clear, .serve write, .serve readElsewhere]
    let server := (scripted settings).after before
    let failing := server.configure (.failWith "down")
    (scripted settings).failure = none ∧
      (registered read.route settings ≠ [] ∧ (serve read server).1 = .ok ⟨200, "3"⟩) ∧
      (registered lost.route settings = [] ∧ (serve lost server).1 = .ok ⟨404, ""⟩) ∧
      (failing.failure = some "down" ∧ (serve read (failing.after before)).1 = .error (.other "down") ∧
        (failing.after before).routes = failing.routes) ∧
      server.recorded = [write, readElsewhere] := by
  intro settings read write readElsewhere lost before server failing
  have hfailure : (scripted settings).failure = none := rfl
  have hqueue : registered read.route settings = [⟨200, "1"⟩, ⟨200, "3"⟩] := by decide +kernel
  have hnone : registered lost.route settings = [] := by decide +kernel
  have hasked : asked read.route before = 2 := by decide +kernel
  have hdown : failing.failure = some "down" := rfl
  have hsome : registered read.route settings ≠ [] := by
    rw [hqueue]
    exact List.cons_ne_nil _ _
  obtain ⟨hserved, hfails, hrecorded⟩ := routes_are_queues settings before read
  obtain ⟨hlost, -, -⟩ := routes_are_queues settings before lost
  obtain ⟨response, hplace, hread⟩ := (hserved hfailure).2 hsome
  rw [hqueue, hasked] at hplace
  cases hplace
  exact ⟨hfailure, ⟨hsome, hread⟩, ⟨hnone, (hlost hfailure).1 hnone⟩,
    ⟨hdown, hfails failing "down" hdown⟩, hrecorded⟩

end ScriptedServer

end DocStore.Http
