import DocStore.Proofs.Client.Reply
import DocStore.Proofs.Client.Sent
import DocStore.Proofs.Json.Equality
import DocStore.Proofs.Record.Body
import DocStore.Proofs.Success

/-!
# What becomes of increments

An increment is an attribute like any other until the record is saved, so that a second increment
takes the place of the first one; and it stays in the record after the save unless the reply names
the attribute, so that the next save asks for it again.

A `LogEntry` is an amount that was asked for or a save that succeeded, and `Client.Counted` says
which logs the increments and saves of a record can leave.  From the log alone follow

* `Client.Log.pending` : the value that the next save sends under the name, and
* `Client.increments_balance` : **the balance of increments**: what was sent and what was
  overwritten add up to what was asked for and what was sent without being asked for.  So the sum of
  what is sent is the sum of what was asked for exactly if as much was overwritten as was sent again.
-/

namespace DocStore

/-! ### Increment operators -/

/-- The operator that asks the server to add an amount. -/
def Json.increment (amount : Int) : Json :=
  .object [("__op", .string "Increment"), ("amount", .int amount)]

/-- The amount that a value asks the server to add. -/
def Json.incrementAmount? (value : Json) : Option Int :=
  if (value.field? "__op").bind Json.asString? = some "Increment" then
    match value.field? "amount" with
    | some (.number (.int amount)) => some amount
    | _ => none
  else none

theorem Json.incrementAmount?_increment (amount : Int) :
    (Json.increment amount).incrementAmount? = some amount := by
  simp [increment, incrementAmount?, field?, members?, Members.get?, asString?, Json.int]

theorem Record.get?_edit_increment (r : Record) {key : String} (hkey : key ∉ Record.reserved)
    (amount : Int) : (r.edit (.increment key amount)).get? key = some (.increment amount) := by
  change ((r.set? key (Json.increment amount)).getD r).get? key = _
  rw [set?_getD, if_neg hkey, get?_setAttribute, if_pos rfl]

namespace Client

open Call

/-! ### Logs -/

/-- What a log notes of a record: an amount that was asked for, or the events of a save that
succeeded. -/
inductive LogEntry where
  | asked (amount : Int)
  | saved (calls : List CallEvent)

/-- The notes of a record, the latest one first. -/
abbrev Log := List LogEntry

/-- Whether an entry notes an amount that was asked for. -/
def LogEntry.isAsked : LogEntry → Bool
  | .asked _ => true
  | .saved _ => false

/-- The amount that a value asks for, which is nothing if it is no increment. -/
def amountOf (value : Option Json) : Int := (value.bind Json.incrementAmount?).getD 0

/-- The amounts that the documents sent by some events ask for under a name. -/
def sentAmount (key : String) (calls : List CallEvent) : Int :=
  (sentRequests calls).foldr (fun request total =>
    amountOf (request.body.bind (·.field? key)) + total) 0

namespace Log

variable (key : String) (start : Record)

/-- The log up to the last save. -/
def settled (log : Log) : Log := log.dropWhile LogEntry.isAsked

/-- The amounts that were asked for. -/
def asked : Log → Int
  | [] => 0
  | .asked amount :: log => amount + asked log
  | .saved _ :: log => asked log

/-- The amounts that were sent. -/
def sent : Log → Int
  | [] => 0
  | .asked _ :: log => sent log
  | .saved calls :: log => sentAmount key calls + sent log

/-- The amount that was asked for since the last save, if any; of several it is the last one. -/
def waiting : Log → Option Int
  | .asked amount :: _ => some amount
  | _ => none

@[simp] theorem waiting_asked (amount : Int) (log : Log) :
    waiting (.asked amount :: log) = some amount := rfl

@[simp] theorem waiting_saved (calls : List CallEvent) (log : Log) :
    waiting (.saved calls :: log) = none := rfl

/-- The amounts that were asked for while another one was waiting, which they have overwritten. -/
def overwritten : Log → Int
  | [] => 0
  | .asked _ :: log => (waiting log).getD 0 + overwritten log
  | .saved _ :: log => overwritten log

/-- The value that the next save sends: the last amount that was asked for, unless a later reply
names the attribute. -/
def pending : Log → Option Json
  | [] => start.get? key
  | .asked amount :: _ => some (.increment amount)
  | .saved calls :: log => ((replies calls).head?.bind (·.field? key)).or (pending log)

/-- The amounts that were sent while none was waiting. -/
def unasked : Log → Int
  | [] => 0
  | .asked _ :: log => unasked log
  | .saved calls :: log =>
    (if (waiting log).isSome then 0 else sentAmount key calls) + unasked log

/-- Every save has sent the value that was pending. -/
def SendsPending (log : Log) : Prop :=
  ∀ (calls : List CallEvent) (earlier : Log), .saved calls :: earlier <:+ log →
    sentAmount key calls = amountOf (pending key start earlier)

end Log

/-- The logs that increments and saves of a record can leave, and the record after them.  Every save
may be made by a client of its own, saves that fail are not noted, and other attributes may
change. -/
inductive Counted (key : String) (start : Record) : Log → Record → Prop
  | start : Counted key start [] start
  | increment {log : Log} {r : Record} (h : Counted key start log r) (amount : Int) :
      Counted key start (.asked amount :: log) (r.edit (.increment key amount))
  | saved {log : Log} {r r' : Record} {c : Config} {calls : List CallEvent}
      (h : Counted key start log r) (htrace : Trace (save c r) calls (.ok (), r')) :
      Counted key start (.saved calls :: log) r'
  | failed {log : Log} {r r' : Record} {c : Config} {calls : List CallEvent} {e : Error}
      (h : Counted key start log r) (htrace : Trace (save c r) calls (.error e, r')) :
      Counted key start log r'
  | other {log : Log} {r : Record} {e : Record.Edit} (h : Counted key start log r)
      (he : e.key? ≠ some key) : Counted key start log (r.edit e)

/-! ### One save -/

theorem field?_body_saveRequest {r : Record} {key : String}
    (hkey : Record.isAttributeName key) (htoken : key ≠ "sessionToken") :
    (saveRequest r).body.bind (·.field? key) = r.get? key := by
  have hbody : (saveRequest r).body = some r.body := by
    unfold saveRequest
    split <;> rfl
  have hacl : key ≠ "ACL" := by
    rintro rfl
    cases hkey
  have hmember := r.get?_bodyMembers htoken
  rw [if_neg hacl] at hmember
  rw [hbody]
  exact hmember

/-- What a save sends under a name is what the record holds, and the reply has the last word on what
the record holds after it. -/
theorem sentAmount_of_save {c : Config} {r r' : Record} {calls : List CallEvent} {key : String}
    (hkey : Record.isAttributeName key) (htoken : key ≠ "sessionToken")
    (htrace : Trace (save c r) calls (.ok (), r')) :
    sentAmount key calls = amountOf (r.get? key) ∧
      r'.get? key = ((replies calls).head?.bind (·.field? key)).or (r.get? key) := by
  obtain ⟨active, response, reply, -, rfl, hreply, rfl⟩ := trace_save_ok_iff.1 htrace
  constructor
  · have hsent : sentAmount key [.readToken active,
        .send ((saveRequest r).message c active) (.ok response)] =
          amountOf ((saveRequest r).body.bind (·.field? key)) + 0 := rfl
    rw [hsent, Int.add_zero, field?_body_saveRequest hkey htoken]
  · have hanswered : Answered [.readToken active,
        .send ((saveRequest r).message c active) (.ok response)] reply :=
      ⟨active, _, response, rfl, hreply⟩
    rw [hanswered.replies_eq]
    exact r.get?_merge (Api.hasDistinctNames_interpret hreply) hkey

/-! ### The balance -/

section Balance

variable {key : String} {start r : Record} {log : Log}

/-- The record holds the value that the log says, and every save has sent it. -/
theorem Counted.pending (hkey : Record.isAttributeName key) (htoken : key ≠ "sessionToken")
    (h : Counted key start log r) :
    r.get? key = log.pending key start ∧ log.SendsPending key start := by
  have hreserved : key ∉ Record.reserved := by
    intro hmem
    simp [Record.isAttributeName, hmem] at hkey
  -- By induction on the log: the value in the record is what the next save sends and the next reply
  -- may overwrite.
  induction h with
  | start => exact ⟨rfl, fun calls earlier h => by cases List.suffix_nil.1 h⟩
  | @increment log r _ amount ih =>
    refine ⟨r.get?_edit_increment hreserved amount, fun calls earlier h => ?_⟩
    rcases List.suffix_cons_iff.1 h with heq | h
    · cases heq
    · exact ih.2 calls earlier h
  | @saved log r r' c calls _ htrace ih =>
    obtain ⟨hsent, hafter⟩ := sentAmount_of_save hkey htoken htrace
    rw [ih.1] at hsent hafter
    refine ⟨hafter, fun calls' earlier h => ?_⟩
    rcases List.suffix_cons_iff.1 h with heq | h
    · cases heq
      exact hsent
    · exact ih.2 calls' earlier h
  | failed _ htrace ih =>
    obtain ⟨rfl, -⟩ := (trace_exchange.1 htrace).unchanged
    exact ih
  | @other _ r _ _ he ih => exact ⟨(r.get?_edit_of_ne he).trans ih.1, ih.2⟩

/-- The balance is a matter of the log alone. -/
theorem Log.SendsPending.balance (h : log.SendsPending key start) :
    log.sent key + log.overwritten + log.waiting.getD 0 = log.asked + log.unasked key := by
  induction log with
  | nil => rfl
  | cons entry log ih =>
    have hbalance := ih fun calls earlier hlog => h calls earlier (hlog.trans (List.suffix_cons ..))
    cases entry with
    | asked amount =>
      simp only [Log.sent, Log.overwritten, Log.asked, Log.unasked, Log.waiting_asked,
        Option.getD_some]
      omega
    | saved calls =>
      -- A save sends the amount that was waiting, or what nobody has asked for.
      have hsent : (Log.waiting log).isSome → sentAmount key calls = (Log.waiting log).getD 0 := by
        rw [h calls log (List.suffix_refl _)]
        cases log with
        | nil => exact nofun
        | cons entry log =>
          cases entry with
          | asked amount => simp [Log.pending, amountOf, Json.incrementAmount?_increment]
          | saved calls => exact nofun
      simp only [Log.sent, Log.overwritten, Log.asked, Log.unasked, Log.waiting_saved,
        Option.getD_none]
      cases hwaiting : Log.waiting log with
      | none =>
        rw [hwaiting] at hbalance
        simp at hbalance ⊢
        omega
      | some amount =>
        rw [hwaiting] at hbalance hsent
        simp at hbalance hsent ⊢
        omega

/-- What was asked for since the last save has not been sent. -/
theorem settled_eq (key : String) (log : Log) :
    log.settled.sent key = log.sent key ∧ log.settled.unasked key = log.unasked key ∧
      log.settled.waiting = none := by
  induction log with
  | nil => exact ⟨rfl, rfl, rfl⟩
  | cons entry log ih =>
    cases entry with
    | asked amount => exact ih
    | saved calls => exact ⟨rfl, rfl, rfl⟩

/-- **The balance of increments.**  Each save sends the value that is pending: the last amount that
was asked for, also when it has been sent before, unless a later reply names the attribute.  So
what was sent and what was overwritten add up to what was asked for before the last save and what
was sent without being asked for. -/
theorem increments_balance (hkey : Record.isAttributeName key) (htoken : key ≠ "sessionToken")
    (h : Counted key start log r) :
    log.SendsPending key start ∧
      log.sent key + log.settled.overwritten = log.settled.asked + log.unasked key := by
  obtain ⟨-, hsent⟩ := h.pending hkey htoken
  obtain ⟨hsettled, hunasked, hwaiting⟩ := settled_eq key log
  have hlast : log.settled.SendsPending key start := fun calls earlier hlog =>
    hsent calls earlier (hlog.trans (List.dropWhile_suffix _))
  have hbalance := hlast.balance
  rw [hsettled, hunasked, hwaiting] at hbalance
  refine ⟨hsent, ?_⟩
  simpa using hbalance

end Balance

/-! ### A score that is incremented -/

/-- A stored score after increments. -/
def incremented (amounts : List Int) : Record :=
  ({ className := "Score", objectId := some "s1" } : Record).editAll
    (amounts.map (.increment "score"))

theorem trace_incrementedSave (amounts : List Int) (body : String) (reply : Json)
    (hreply : (Api.interpret ⟨200, body⟩).toOption = some reply) :
    Trace (save {} (incremented amounts)) (answeredSave (incremented amounts) body)
      (.ok (), (incremented amounts).merge reply) := by
  obtain ⟨hclass, hid⟩ := Record.identity_editAll
    ({ className := "Score", objectId := some "s1" } : Record) (amounts.map (.increment "score"))
  have hpath : (saveRequest (incremented amounts)).path = "classes/Score/s1" := by
    simp [saveRequest, Record.objectPath?, incremented, hclass, hid, Api.Path.ofObject,
      Api.Path.ofClass, Api.Path.userClass, Api.Path.roleClass]
  have hurl : Config.checkUrl (({} : Config).resourceText "classes/Score/s1") = .ok () :=
    eq_ok_iff_toOption.2 (by decide +kernel)
  exact trace_answeredSave (hpath ▸ hurl) (eq_ok_iff_toOption.2 hreply)

section Score

variable {log : Log} {amounts : List Int}

theorem counted_asked (h : Counted "score" (incremented []) log (incremented amounts))
    (amount : Int) :
    Counted "score" (incremented []) (.asked amount :: log) (incremented (amounts ++ [amount])) := by
  have hstep : incremented (amounts ++ [amount]) =
      (incremented amounts).edit (.increment "score" amount) := by
    simp [incremented, Record.editAll]
  rw [hstep]
  exact h.increment amount

/-- A reply that names nothing leaves the score as it was. -/
theorem counted_saved (h : Counted "score" (incremented []) log (incremented amounts)) :
    Counted "score" (incremented []) (.saved (answeredSave (incremented amounts) "{}") :: log)
      (incremented amounts) :=
  h.saved (trace_incrementedSave amounts "{}" (.object []) (by decide +kernel))

end Score

/-- Here the second increment overwrites the first one, and is sent again after a reply that does
not name the attribute. -/
theorem increments_balance_score :
    let saved := LogEntry.saved (answeredSave (incremented [2, 3]) "{}")
    let log : Log := [saved, saved, .asked 3, .asked 2]
    Counted "score" (incremented []) log (incremented [2, 3]) ∧ log.sent "score" = 6 ∧
      log.settled.overwritten = 2 ∧ log.settled.asked = 5 ∧ log.unasked "score" = 3 ∧
      log.sent "score" + log.settled.overwritten = log.settled.asked + log.unasked "score" := by
  intro saved log
  have hcounted : Counted "score" (incremented []) log (incremented [2, 3]) :=
    counted_saved (counted_saved (counted_asked (counted_asked .start 2) 3))
  obtain ⟨-, hbalance⟩ := increments_balance rfl (by decide) hcounted
  exact ⟨hcounted, by decide +kernel, by decide +kernel, by decide +kernel, by decide +kernel,
    hbalance⟩

/-- **Increments are lost and sent twice.**  Of two increments before a save the first one is lost;
and one that has been sent is sent again if the reply did not name the attribute. -/
theorem increment_lost_and_sent_twice :
    let lost : Log :=
      [.saved (answeredSave (incremented [2, 3]) "\x7b\"score\":3\x7d"), .asked 3, .asked 2]
    let twice : Log :=
      [.saved (answeredSave (incremented [2]) "{}"), .saved (answeredSave (incremented [2]) "{}"),
        .asked 2]
    (∃ r, Counted "score" (incremented []) lost r) ∧ lost.sent "score" = 3 ∧
      lost.settled.asked = 5 ∧ (∃ r, Counted "score" (incremented []) twice r) ∧
      twice.sent "score" = 4 ∧ twice.settled.asked = 2 := by
  intro lost twice
  have hlost := trace_incrementedSave [2, 3] "\x7b\"score\":3\x7d" (.object [("score", .int 3)])
    (by decide +kernel)
  exact ⟨⟨_, (counted_asked (counted_asked .start 2) 3).saved hlost⟩, by decide +kernel,
    by decide +kernel, ⟨_, counted_saved (counted_saved (counted_asked .start 2))⟩,
    by decide +kernel, by decide +kernel⟩

end Client

end DocStore
