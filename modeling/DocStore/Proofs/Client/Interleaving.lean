import Mathlib.Data.List.Induction
import DocStore.Proofs.Client.Trace

/-!
# Interleaved calls

Any number of calls act on one world.  A new call can be started at any time, and every call that
has been started can take its next step at any time, with the server of its own client
(`Reached`).  The history records who showed which event.

* `Reached.session_eq` : the session is what the changes in the history make of an empty one;
* `Reached.exists_trace` : what one call has shown is the beginning of a trace of that call,
  whatever the other calls did in between;
* `Reached.shows_of_append` : every event is shown by a world that is reached with the events before;
* `Reached.run` : calls that run one after the other are an interleaving too.
-/

namespace DocStore

open Call

variable {σ : Type}

/-- A call that has been started. -/
structure Flight (σ : Type) where
  {Result : Type}
  /-- How the client that makes the call is answered. -/
  serve : Server σ
  /-- What is left of the call. -/
  call : Call Result

/-- The events in order, each with the number of the call that showed it. -/
abbrev History := List (Nat × CallEvent)

namespace History

/-- The events that the `i`th call showed. -/
def of (history : History) (i : Nat) : List CallEvent :=
  (history.filter fun entry => entry.1 = i).map Prod.snd

/-- The session that an empty one has become. -/
def session (history : History) : Session :=
  (sessionChanges (history.map Prod.snd)).foldl Session.change .empty

theorem of_append (history later : History) (i : Nat) :
    (history ++ later).of i = history.of i ++ later.of i := by
  simp [of]

theorem of_cons_self (i : Nat) (event : CallEvent) (history : History) :
    of ((i, event) :: history) i = event :: history.of i := by
  simp [of]

theorem of_concat (history : History) (i j : Nat) (event : CallEvent) :
    (history ++ [(i, event)]).of j = if i = j then history.of j ++ [event] else history.of j := by
  rw [of_append]
  by_cases h : i = j <;> simp [of, h]

theorem of_map (i j : Nat) (events : List CallEvent) :
    History.of (events.map (i, ·)) j = if i = j then events else [] := by
  by_cases h : i = j <;> simp [of, List.filter_map, Function.comp_def, h]

theorem session_concat (history : History) (i : Nat) (event : CallEvent) :
    (history ++ [(i, event)]).session =
      (sessionChanges [event]).foldl Session.change history.session := by
  simp only [session, List.map_append, sessionChanges_append, List.foldl_append]
  rfl

/-- The last change of the session was that the `i`th call started it for a user, after certain
earlier events. -/
def LastStart (history earlier : History) (i : Nat) (token : String) (u : User) : Prop :=
  ∃ later : History, history = earlier ++ (i, .changeSession (.start token u)) :: later ∧
    sessionChanges (later.map Prod.snd) = []

theorem LastStart.concat {history earlier : History} {i : Nat} {token : String} {u : User}
    (h : LastStart history earlier i token u) (j : Nat) {event : CallEvent}
    (hevent : sessionChanges [event] = []) :
    LastStart (history ++ [(j, event)]) earlier i token u := by
  obtain ⟨later, rfl, hlater⟩ := h
  refine ⟨later ++ [(j, event)], by simp, ?_⟩
  rw [List.map_append, sessionChanges_append, hlater]
  exact hevent

theorem LastStart.session {history earlier : History} {i : Nat} {token : String} {u : User}
    (h : LastStart history earlier i token u) : history.session = .started token u := by
  obtain ⟨later, rfl, hlater⟩ := h
  have hchanges : sessionChanges (.changeSession (.start token u) :: later.map Prod.snd) =
      .start token u :: sessionChanges (later.map Prod.snd) := rfl
  rw [History.session, List.map_append, List.map_cons, sessionChanges_append, hchanges, hlater,
    List.foldl_append]
  rfl

/-- The session is empty or what its last start made it, unless its token is replaced alone. -/
theorem session_cases (history : History)
    (h : ∀ i token, (i, .changeSession (.setToken token)) ∉ history) :
    history.session = .empty ∨ ∃ earlier i token u, LastStart history earlier i token u := by
  induction history using List.reverseRecOn with
  | nil => exact .inl rfl
  | append_singleton history entry ih =>
    obtain ⟨i, event⟩ := entry
    -- A last event that changes the session decides alone; any other one leaves it as it was.
    cases hchange : event.change? with
    | some change =>
      obtain rfl := CallEvent.change?_eq_some_iff.1 hchange
      cases change with
      | start token u => exact .inr ⟨history, i, token, u, [], rfl, rfl⟩
      | clear => exact .inl (session_concat ..)
      | setToken token => exact absurd (by simp) (h i token)
    | none =>
      have hquiet : sessionChanges [event] = [] := by simp [sessionChanges, hchange]
      rw [session_concat, hquiet]
      refine (ih fun j token hmem => h j token (by simp [hmem])).imp id ?_
      rintro ⟨earlier, j, token, u, hlast⟩
      exact ⟨earlier, j, token, u, hlast.concat i hquiet⟩

end History

/-- What can be reached from an empty session: a world, the calls that have been started, and their
history.  Only certain calls are started.  A step is one of `Call.step?`
(`Call.step?_eq_some_iff`). -/
inductive Reached (startable : ∀ α : Type, Call α → Prop) :
    World σ → List (Flight σ) → History → Prop
  | empty {w : World σ} (h : w.session = .empty) : Reached startable w [] []
  | start {w : World σ} {flights : List (Flight σ)} {history : History} {α : Type} {call : Call α}
      (h : Reached startable w flights history) (serve : Server σ) (hcall : startable α call) :
      Reached startable w (flights ++ [⟨serve, call⟩]) history
  | step {w w' : World σ} {flights : List (Flight σ)} {history : History} {i : Nat} {α : Type}
      {serve : Server σ} {call call' : Call α} {event : CallEvent}
      (h : Reached startable w flights history) (hflight : flights[i]? = some ⟨serve, call⟩)
      (hstep : Steps call [event] call') (hshows : w.Shows serve event w') :
      Reached startable w' (flights.set i ⟨serve, call'⟩) (history ++ [(i, event)])

namespace Reached

variable {startable : ∀ α : Type, Call α → Prop} {w w' : World σ} {flights : List (Flight σ)}
  {history : History}

theorem session_eq (h : Reached startable w flights history) : w.session = history.session := by
  induction h with
  | empty h => exact h
  | start _ _ _ ih => exact ih
  | step _ _ _ hshows ih => rw [hshows.session, ih, History.session_concat]

/-- Only calls that have been started show events. -/
theorem lt_length (h : Reached startable w flights history) {i : Nat} {event : CallEvent}
    (hmem : (i, event) ∈ history) : i < flights.length := by
  induction h generalizing i event with
  | empty => cases hmem
  | start _ _ _ ih =>
    rw [List.length_append]
    exact Nat.lt_add_right _ (ih hmem)
  | step _ hflight _ _ ih =>
    rw [List.length_set]
    rcases List.mem_append.1 hmem with hmem | hmem
    · exact ih hmem
    · cases List.mem_singleton.1 hmem
      exact (List.getElem?_eq_some_iff.1 hflight).1

/-- A call that has just been started has shown nothing. -/
theorem of_length (h : Reached startable w flights history) : history.of flights.length = [] := by
  have hnone : ∀ entry ∈ history, ¬entry.1 = flights.length :=
    fun entry hmem => Nat.ne_of_lt (h.lt_length hmem)
  rw [History.of, List.filter_eq_nil_iff.2 (by simpa using hnone)]
  rfl

/-- What a call has shown led from what was started to what is left of it. -/
theorem steps_of_flight (h : Reached startable w flights history) {i : Nat} {flight : Flight σ}
    (hflight : flights[i]? = some flight) :
    ∃ call, startable flight.Result call ∧ Steps call (history.of i) flight.call := by
  induction h generalizing i flight with
  | empty => cases hflight
  | @start w flights history α call h serve hcall ih =>
    -- The new call has the next number, and no event has that number yet.
    rcases Nat.lt_trichotomy i flights.length with hi | rfl | hi
    · rw [List.getElem?_append_left hi] at hflight
      exact ih hflight
    · rw [List.getElem?_concat_length] at hflight
      cases hflight
      exact ⟨call, hcall, h.of_length ▸ .refl _⟩
    · rw [List.getElem?_eq_none (by simp; omega)] at hflight
      cases hflight
  | @step w w' flights history j α serve call call' event h hj hstep hshows ih =>
    rw [History.of_concat]
    by_cases hij : j = i
    · subst hij
      obtain ⟨start, hstart, hsteps⟩ := ih hj
      rw [List.getElem?_set_self (List.getElem?_eq_some_iff.1 hj).1] at hflight
      cases hflight
      exact ⟨start, hstart, by simpa using hsteps.trans hstep⟩
    · rw [List.getElem?_set_ne hij] at hflight
      rw [if_neg hij]
      exact ih hflight

/-- **What a call has shown is the beginning of one of its traces**, whatever other calls did in
between. -/
theorem exists_trace (h : Reached startable w flights history) {i : Nat} {event : CallEvent}
    (hmem : (i, event) ∈ history) :
    ∃ (α : Type) (call : Call α) (more : List CallEvent) (x : α),
      startable α call ∧ Trace call (history.of i ++ more) x := by
  obtain ⟨call, hcall, hsteps⟩ :=
    h.steps_of_flight (List.getElem?_eq_getElem (h.lt_length hmem))
  obtain ⟨more, x, htrace⟩ := hsteps.exists_trace
  exact ⟨_, call, more, x, hcall, htrace⟩

/-- Every event of a history was shown by a world that had been reached with what came before. -/
theorem shows_of_append (h : Reached startable w flights history) {before after : History} {i : Nat}
    {event : CallEvent} (hhistory : history = before ++ (i, event) :: after) :
    ∃ (middle next : World σ) (flights' : List (Flight σ)) (serve : Server σ),
      Reached startable middle flights' before ∧ middle.Shows serve event next := by
  induction h generalizing after with
  | empty => simp at hhistory
  | start _ _ _ ih => exact ih hhistory
  | @step w w' flights history j α serve call call' last h hflight hstep hshows ih =>
    -- The event is the last one of the history, or it is one of the earlier ones.
    obtain rfl | ⟨rest, entry, rfl⟩ := List.eq_nil_or_concat after
    · obtain ⟨rfl, hlast⟩ := List.append_inj' hhistory rfl
      cases hlast
      exact ⟨w, w', flights, serve, h, hshows⟩
    · rw [List.concat_eq_append, ← List.cons_append, ← List.append_assoc] at hhistory
      exact ih (List.append_inj' hhistory rfl).1

/-- A call that has been started can go on alone. -/
theorem plays (h : Reached startable w flights history) {i : Nat} {α : Type} {serve : Server σ}
    {call rest : Call α} (hflight : flights[i]? = some ⟨serve, call⟩) {events : List CallEvent}
    (hsteps : Steps call events rest) (hplays : w.Plays serve events w') :
    Reached startable w' (flights.set i ⟨serve, rest⟩)
      (history ++ events.map (i, ·)) := by
  induction hplays generalizing call flights history with
  | nil w =>
    obtain rfl := hsteps.eq_of_nil
    obtain ⟨hi, heq⟩ := List.getElem?_eq_some_iff.1 hflight
    rw [← heq, List.set_getElem_self]
    simpa using h
  | cons hshows _ ih =>
    obtain ⟨middle, hstep, hrest⟩ := hsteps.uncons
    have hset := List.getElem?_set_self (a := (⟨serve, middle⟩ : Flight σ))
      (List.getElem?_eq_some_iff.1 hflight).1
    have hreached := ih (h.step hflight hstep hshows) hset hrest
    rw [List.set_set, List.append_assoc] at hreached
    exact hreached

/-- **A call that runs with nothing in between is an interleaving.** -/
theorem run (h : Reached startable w flights history) {α : Type} {call : Call α}
    (hcall : startable α call) (serve : Server σ) :
    ∃ flights' history', Reached startable (call.run serve w).2 flights' history' := by
  obtain ⟨events, htrace, hplays⟩ := run_eq_iff.1 (rfl : call.run serve w = _)
  exact ⟨_, _, (h.start serve hcall).plays List.getElem?_concat_length htrace hplays⟩

end Reached

end DocStore
