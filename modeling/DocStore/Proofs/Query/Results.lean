import DocStore.Proofs.Client.Reply
import DocStore.Proofs.Json.Equality
import DocStore.Proofs.Success
import DocStore.Query.Filter

/-!
# What a query holds

A query holds what its last run found, which is records or their number, until the records are taken
or another run succeeds.  A `Query.Course` is any sequence of settings, runs with any replies and
takings, with a note of each (`Query.Note`).

* `Query.receive_eq_ok_iff` : which replies a query takes in, and what it holds after;
* `Query.Holds` : what a query should hold, which its notes alone decide (`Query.Holds.unique`);
* `Query.results_over_course` : **a query holds what its notes say**, so that its size is the number
  of its records whenever it has any.
-/

namespace DocStore

namespace Json

variable {value : Option Json}

theorem asCount_eq_ok_iff {n : Nat} :
    (value.getD .null).asCount = .ok n ↔ value = some (.int n) := by
  match value with
  | some (.number (.int m)) =>
    simp only [Option.getD_some, asCount, Json.int, Option.some.injEq, number.injEq, Number.int.injEq]
    split
    · rw [Except.ok.injEq]
      omega
    · exact ⟨nofun, fun h => by omega⟩
  | none | some .null | some (.bool _) | some (.number (.double _)) | some (.string _)
  | some (.array _) | some (.object _) => exact ⟨nofun, nofun⟩

theorem asSequence_eq_ok_iff {elements : List Json} :
    (value.getD .null).asSequence = .ok elements ↔ value = some (.array elements) := by
  match value with
  | some (.array _) => simp [asSequence]
  | none | some .null | some (.bool _) | some (.number _) | some (.string _)
  | some (.object _) => exact ⟨nofun, nofun⟩

end Json

namespace Query

/-! ### Settings -/

/-- A setting of a query. -/
inductive Setting where
  | filter (f : Filter)
  /-- A filter as it is sent, or none. -/
  | filterDocument (document : Option Json)
  | limit (n : Nat)
  | skip (n : Nat)
  | keys (names : String)
  | order (names : String)
  | expand (names : String)
  | count (count : Bool)

/-- Whether only the number of results is to be asked for, if a setting says so. -/
def Setting.count? : Setting → Option Bool
  | .count asked => some asked
  | _ => none

/-- The query with a setting. -/
def set (q : Query) : Setting → Query
  | .filter f => q.setFilter f
  | .filterDocument document => { q with filter := document }
  | .limit n => { q with limit := n }
  | .skip n => { q with skip := n }
  | .keys names => q.setKeys names
  | .order names => q.setOrder names
  | .expand names => q.setExpand names
  | .count count => { q with count }

/-- Settings leave alone what a query holds. -/
theorem held_set (q : Query) (s : Setting) :
    (q.set s).className = q.className ∧ (q.set s).results = q.results ∧
      (q.set s).size = q.size ∧ (q.set s).count = s.count?.getD q.count := by
  cases s <;> exact ⟨rfl, rfl, rfl, rfl⟩

/-! ### Replies -/

theorem receiveCount_eq_ok_iff {q q' : Query} {reply : Json} :
    q.receiveCount reply = .ok q' ↔ ∃ size : Nat, reply.field? "count" = some (.int size) ∧
      q' = { q with results := [], size } := by
  unfold receiveCount
  simp only [bind_eq_ok_iff, Json.asCount_eq_ok_iff, pure, Except.pure, Except.ok.injEq]
  exact exists_congr fun size => and_congr_right fun _ => eq_comm

theorem receiveResults_eq_ok_iff {q q' : Query} {reply : Json} :
    q.receiveResults reply = .ok q' ↔
      ∃ documents, reply.field? "results" = some (.array documents) ∧
        q' = { q with
          results := documents.map (Record.ofDocument q.className), size := documents.length } := by
  unfold receiveResults
  simp only [bind_eq_ok_iff, Json.asSequence_eq_ok_iff, pure, Except.pure, Except.ok.injEq]
  exact exists_congr fun documents => and_congr_right fun _ => eq_comm

/-- A query takes in a reply exactly if it has the member that was asked for: a number that is not
negative, or an array, of which every element becomes a record. -/
theorem receive_eq_ok_iff {q q' : Query} {reply : Json} :
    q.receive reply = .ok q' ↔
      (q.count = true ∧ ∃ size : Nat, reply.field? "count" = some (.int size) ∧
        q' = { q with results := [], size }) ∨
      (q.count = false ∧ ∃ documents, reply.field? "results" = some (.array documents) ∧
        q' = { q with
          results := documents.map (Record.ofDocument q.className), size := documents.length }) := by
  rw [← receiveCount_eq_ok_iff, ← receiveResults_eq_ok_iff]
  unfold receive
  cases q.count with
  | true =>
    simp only [if_true, true_and, Bool.true_eq_false, false_and, or_false]
    cases q.receiveCount reply <;> simp
  | false =>
    simp only [Bool.false_eq_true, if_false, false_and, false_or, true_and]
    cases q.receiveResults reply <;> simp

/-! ### Courses -/

/-- What is noted of a query: a setting, a run with its events and its outcome, or the records that
were taken. -/
inductive Note where
  | set (s : Setting)
  | ran (calls : List CallEvent) (outcome : Outcome)
  | taken (records : List Record)

/-- Whether only the number of results is asked for, as the last setting of it says. -/
def asksCount : List Note → Bool
  | [] => false
  | .set s :: notes => s.count?.getD (asksCount notes)
  | .ran .. :: notes | .taken _ :: notes => asksCount notes

/-- What settings, runs and takings can make of a query over a class, with a note of each, the latest
one first.  Each run may be made by a client of its own. -/
inductive Course (className : String) : List Note → Query → Prop
  | new : Course className [] { className }
  | set {notes : List Note} {q : Query} (h : Course className notes q) (s : Setting) :
      Course className (.set s :: notes) (q.set s)
  | find {notes : List Note} {q q' : Query} {c : Config} {calls : List CallEvent}
      {outcome : Outcome} (h : Course className notes q)
      (htrace : Call.Trace (Client.find c q) calls (outcome, q')) :
      Course className (.ran calls outcome :: notes) q'
  | take {notes : List Note} {q : Query} (h : Course className notes q) :
      Course className (.taken q.takeResults.1 :: notes) q.takeResults.2

/-- The records and the size that a query should hold.  A run that found records leaves one for every
element of the array in its reply, in order, and a run that counted leaves the number in its reply; to
take the records is to take all of them. -/
inductive Holds (className : String) : List Note → List Record → Nat → Prop
  | new : Holds className [] [] 0
  | set {notes : List Note} {records : List Record} {size : Nat}
      (h : Holds className notes records size) (s : Setting) :
      Holds className (.set s :: notes) records size
  | failed {notes : List Note} {records : List Record} {size : Nat}
      (h : Holds className notes records size) (calls : List CallEvent) (e : Error) :
      Holds className (.ran calls (.error e) :: notes) records size
  | found {notes : List Note} {calls : List CallEvent} {reply : Json} {documents : List Json}
      (hcount : asksCount notes = false) (hreply : Client.replies calls = [reply])
      (hdocuments : reply.field? "results" = some (.array documents)) :
      Holds className (.ran calls (.ok ()) :: notes) (documents.map (Record.ofDocument className))
        documents.length
  | counted {notes : List Note} {calls : List CallEvent} {reply : Json} {size : Nat}
      (hcount : asksCount notes = true) (hreply : Client.replies calls = [reply])
      (hsize : reply.field? "count" = some (.int size)) :
      Holds className (.ran calls (.ok ()) :: notes) [] size
  | taken {notes : List Note} {records : List Record} {size : Nat}
      (h : Holds className notes records size) : Holds className (.taken records :: notes) [] 0

section Course

variable {className : String} {notes : List Note} {q q' : Query} {records : List Record} {size : Nat}

/-- A query that should hold records should hold their number. -/
theorem Holds.size_eq_length (h : Holds className notes records size) (hrecords : records ≠ []) :
    size = records.length := by
  induction h with
  | new => exact absurd rfl hrecords
  | set _ _ ih => exact ih hrecords
  | failed _ _ _ ih => exact ih hrecords
  | found => exact (List.length_map _).symm
  | counted => exact absurd rfl hrecords
  | taken => exact absurd rfl hrecords

/-- The notes decide what a query should hold. -/
theorem Holds.unique (h : Holds className notes records size) {records' : List Record} {size' : Nat}
    (h' : Holds className notes records' size') : records' = records ∧ size' = size := by
  induction h generalizing records' size' with
  | new | taken =>
    cases h'
    exact ⟨rfl, rfl⟩
  | set _ _ ih =>
    cases h' with
    | set h' => exact ih h'
  | failed _ _ _ ih =>
    cases h' with
    | failed h' => exact ih h'
  | found hcount hreply hdocuments =>
    cases h' with
    | found _ hreply' hdocuments' =>
      cases hreply.symm.trans hreply'
      cases hdocuments.symm.trans hdocuments'
      exact ⟨rfl, rfl⟩
    | counted hcount' => cases hcount.symm.trans hcount'
  | counted hcount hreply hsize =>
    cases h' with
    | found hcount' => cases hcount.symm.trans hcount'
    | counted _ hreply' hsize' =>
      cases hreply.symm.trans hreply'
      cases hsize.symm.trans hsize'
      exact ⟨rfl, rfl⟩

/-- A run that fails leaves the query as it was, and one that succeeds leaves what the only reply
says, according to what was asked for. -/
theorem holds_find {c : Config} {calls : List CallEvent} {outcome : Outcome}
    (htrace : Call.Trace (Client.find c q) calls (outcome, q'))
    (hcount : q.count = asksCount notes) (h : Holds q.className notes q.results q.size) :
    q'.className = q.className ∧ q'.count = q.count ∧
      Holds q.className (.ran calls outcome :: notes) q'.results q'.size := by
  cases outcome with
  | error e =>
    obtain ⟨rfl, -⟩ := Client.exchange_unchanged htrace
    exact ⟨rfl, rfl, h.failed calls e⟩
  | ok =>
    obtain ⟨reply, hanswer, hreceive⟩ := (Client.trace_exchange.1 htrace).received_of_ok
    have hreply := hanswer.answered.replies_eq
    obtain ⟨hasked, size, hsize, rfl⟩ | ⟨hasked, documents, hdocuments, rfl⟩ :=
      receive_eq_ok_iff.1 hreceive
    · rw [hcount] at hasked
      exact ⟨rfl, rfl, .counted hasked hreply hsize⟩
    · rw [hcount] at hasked
      exact ⟨rfl, rfl, .found hasked hreply hdocuments⟩

/-- **A query holds what its notes say**, after any course of settings, runs and takings; so its size
is the number of its records whenever it has any. -/
theorem results_over_course (h : Course className notes q) :
    q.className = className ∧ q.count = asksCount notes ∧
      Holds className notes q.results q.size ∧ (q.results ≠ [] → q.size = q.results.length) := by
  suffices hall : q.className = className ∧ q.count = asksCount notes ∧
      Holds className notes q.results q.size from
    ⟨hall.1, hall.2.1, hall.2.2, hall.2.2.size_eq_length⟩
  -- The class is carried along, since the records that a run finds are of the query's class.
  induction h with
  | new => exact ⟨rfl, rfl, .new⟩
  | @set notes q _ s ih =>
    obtain ⟨hclass, hcount, hholds⟩ := ih
    obtain ⟨hclass', hresults, hsize, hcount'⟩ := q.held_set s
    refine ⟨hclass'.trans hclass, ?_, ?_⟩
    · rw [hcount', hcount]
      rfl
    · rw [hresults, hsize]
      exact hholds.set s
  | find _ htrace ih =>
    obtain ⟨rfl, hcount, hholds⟩ := ih
    obtain ⟨hclass', hcount', hholds'⟩ := holds_find htrace hcount hholds
    exact ⟨hclass', hcount'.trans hcount, hholds'⟩
  | take _ ih =>
    obtain ⟨hclass, hcount, hholds⟩ := ih
    exact ⟨hclass, hcount, hholds.taken⟩

/-- Here a run finds a record and an element that is no object, the next one fails, since its reply
has no number, and after the records have been taken a third one counts. -/
theorem results_over_course_score :
    let q : Query := { className := "Score" }
    let counting : Query := { q with count := true }
    let found : List Record :=
      [.ofDocument "Score" (.object [("objectId", .string "s1")]), { className := "Score" }]
    let results := "\x7b\"results\":[\x7b\"objectId\":\"s1\"\x7d,5]\x7d"
    let missing : Error := .invalidReply (.unexpected (.kind .null .count))
    let notes : List Note :=
      [.ran (Client.answered counting.request "\x7b\"count\":7\x7d") (.ok ()), .taken found,
        .ran (Client.answered counting.request results) (.error missing), .set (.count true),
        .ran (Client.answered q.request results) (.ok ())]
    Course "Score" notes { counting with size := 7 } ∧
      Holds "Score" notes [] 7 ∧ Holds "Score" (notes.drop 2) found 2 := by
  intro q counting found results missing notes
  have hurl : Config.checkUrl (({} : Config).resourceText (Api.Path.ofClass "Score")) = .ok () :=
    eq_ok_iff_toOption.2 (by decide +kernel)
  have hresults : Api.interpret ⟨200, results⟩ =
      .ok (.object [("results", .array [.object [("objectId", .string "s1")], .int 5])]) :=
    eq_ok_iff_toOption.2 (by decide +kernel)
  have hcount : Api.interpret ⟨200, "\x7b\"count\":7\x7d"⟩ = .ok (.object [("count", .int 7)]) :=
    eq_ok_iff_toOption.2 (by decide +kernel)
  have hfound : Course "Score" (notes.drop 4) { q with results := found, size := 2 } :=
    Course.new.find (Client.trace_exchange.2 (.received
      (Client.answer_answered hurl hresults) rfl))
  have hfailed : Course "Score" (notes.drop 2) { counting with results := found, size := 2 } :=
    (hfound.set (.count true)).find (Client.trace_exchange.2 (.unusable
      (Client.answer_answered hurl hresults) rfl))
  have hcounted : Course "Score" notes { counting with size := 7 } :=
    hfailed.take.find (Client.trace_exchange.2 (.received
      (Client.answer_answered hurl hcount) rfl))
  exact ⟨hcounted, (results_over_course hcounted).2.2.1, (results_over_course hfailed).2.2.1⟩

end Course

end Query

end DocStore
