import DocStore.Proofs.Client.Atomicity
import DocStore.Proofs.Client.Sent
import DocStore.Proofs.Members.Overlay
import DocStore.Proofs.Query.Results

/-!
# What the parameters of a query say

A query is asked for by settings, and only the last one of each kind counts.  A limit or skip of 0 and
an empty text mean that nothing is asked for.

* `Query.options` : what the notes of a course ask for;
* `Query.Course.takeResults_eq` : whatever a query went through, it asks for **its options**, and
  neither a run nor a taking changes them;
* `Query.parameters_eq_iff` : two queries have the same parameters exactly if each parameter of the one
  has the value that it has in the other;
* `Query.parameters_eq_iff_options_eq` : so the parameters that are sent say **exactly what was asked**.

The document of a filter is sent as text, so two documents must be taken to differ in it.  Documents
that have the same members in another order do.
-/

namespace DocStore.Query

/-! ### Options -/

/-- What can be asked of the objects of a class. -/
structure Options where
  filter : Option Json := none
  /-- The greatest number of results, or 0 to leave it to the server. -/
  limit : Nat := 0
  skip : Nat := 0
  /-- The fields to return, or the empty text for all of them. -/
  keys : String := ""
  order : String := ""
  expand : String := ""
  count : Bool := false

/-- What is asked once a setting has been made. -/
def Options.set (o : Options) : Setting → Options
  | .filter f => { o with filter := some f.toJson }
  | .filterDocument document => { o with filter := document }
  | .limit limit => { o with limit }
  | .skip skip => { o with skip }
  | .keys keys => { o with keys }
  | .order order => { o with order }
  | .expand expand => { o with expand }
  | .count count => { o with count }

/-- What is asked by the settings among notes, the latest one first. -/
def options : List Note → Options
  | [] => {}
  | .set s :: notes => (options notes).set s
  | .ran .. :: notes | .taken _ :: notes => options notes

/-- The query that asks for no more than its options, and has found nothing. -/
def Options.query (o : Options) (className : String) : Query :=
  { className
    filter := o.filter
    limit := o.limit
    skip := o.skip
    keys := textOption o.keys
    order := textOption o.order
    expand := textOption o.expand
    count := o.count }

/-- What a query holds is not part of what it asks. -/
theorem request_takeResults (q : Query) : q.takeResults.2.request = q.request := rfl

section Course

variable {className : String} {notes : List Note} {q q' : Query}

theorem takeResults_set (q : Query) (s : Setting) :
    (q.set s).takeResults.2 = q.takeResults.2.set s := by
  cases s <;> rfl

theorem Options.query_set (o : Options) (s : Setting) :
    (o.set s).query className = (o.query className).set s := by
  cases s <;> rfl

/-- A run changes nothing but what the query holds. -/
theorem takeResults_find {c : Config} {calls : List CallEvent} {outcome : Outcome}
    (htrace : Call.Trace (Client.find c q) calls (outcome, q')) :
    q'.takeResults.2 = q.takeResults.2 := by
  cases outcome with
  | error e => rw [(Client.exchange_unchanged htrace).1]
  | ok =>
    obtain ⟨reply, -, hreceive⟩ := (Client.trace_exchange.1 htrace).received_of_ok
    obtain ⟨-, _, -, rfl⟩ | ⟨-, _, -, rfl⟩ := receive_eq_ok_iff.1 hreceive <;> rfl

/-- **Whatever a query went through, it asks for its options**, on the class it was made for. -/
theorem Course.takeResults_eq (h : Course className notes q) :
    q.takeResults.2 = (options notes).query className := by
  induction h with
  | new => rfl
  | set _ s ih => rw [takeResults_set, ih, options, Options.query_set]
  | find _ htrace ih => rw [takeResults_find htrace, ih, options]
  | take _ ih => exact ih

theorem Course.parameters_eq (h : Course className notes q) :
    q.parameters = ((options notes).query className).parameters :=
  calc q.parameters = q.takeResults.2.parameters := rfl
    _ = ((options notes).query className).parameters := by rw [h.takeResults_eq]

end Course

/-! ### Parameters -/

theorem textOption_inj {text text' : String} :
    textOption text = textOption text' ↔ text = text' := by
  unfold textOption
  split <;> split <;> simp_all [eq_comm]

theorem numberOption_inj {n n' : Nat} : numberOption n = numberOption n' ↔ n = n' := by
  have hdigits : toString n = toString n' → n = n' := by
    rw [Nat.toString_eq_ofList_toDigits, Nat.toString_eq_ofList_toDigits, String.ofList_inj]
    intro h
    rw [← Nat.ofDigitChars_ten_toDigits (n := n), h, Nat.ofDigitChars_ten_toDigits]
  constructor
  · unfold numberOption
    split <;> split <;> simp_all
  · rintro rfl
    rfl

theorem countOption_inj {asked asked' : Bool} :
    (if asked then some "1" else none : Option String) = (if asked' then some "1" else none) ↔
      asked = asked' := by
  cases asked <;> cases asked' <;> simp

theorem get?_parameter (name key : String) (value : Option String) :
    Members.get? (parameter name value) key = if name = key then value else none := by
  cases value <;> simp [parameter, Members.get?]

/-- The names of the parameters are distinct, so that each of them reads its own value. -/
theorem parameters_eq_iff {q q' : Query} :
    q.parameters = q'.parameters ↔ q.filter.map Json.compact = q'.filter.map Json.compact ∧
      q.limit = q'.limit ∧ q.skip = q'.skip ∧ q.keys = q'.keys ∧ q.order = q'.order ∧
      q.expand = q'.expand ∧ q.count = q'.count := by
  constructor
  · intro h
    have hget : ∀ name, Members.get? q.parameters name = Members.get? q'.parameters name := by
      rw [h]
      exact fun _ => rfl
    simp only [parameters, Members.get?_append, get?_parameter] at hget
    exact ⟨by simpa using hget "where", numberOption_inj.1 (by simpa using hget "limit"),
      numberOption_inj.1 (by simpa using hget "skip"), by simpa using hget "keys",
      by simpa using hget "order", by simpa using hget "include",
      countOption_inj.1 (by simpa using hget "count")⟩
  · rintro ⟨hfilter, hlimit, hskip, hkeys, horder, hexpand, hcount⟩
    simp only [parameters, hfilter, hlimit, hskip, hkeys, horder, hexpand, hcount]

/-- The names of all parameters, in the order in which they are sent. -/
def parameterNames : List String := ["where", "limit", "skip", "keys", "order", "include", "count"]

theorem map_fst_parameter_sublist (name : String) (value : Option String) :
    ((parameter name value).map Prod.fst).Sublist [name] := by
  cases value with
  | none => exact List.nil_sublist _
  | some value => exact List.Sublist.refl _

/-- Every parameter occurs at most once, and in its place. -/
theorem map_fst_parameters_sublist (q : Query) :
    (q.parameters.map Prod.fst).Sublist parameterNames := by
  have hone := map_fst_parameter_sublist
  simp only [parameters, List.map_append]
  exact ((((((hone ..).append (hone ..)).append (hone ..)).append (hone ..)).append
    (hone ..)).append (hone ..)).append (hone ..)

/-- Options are sent as parameters that tell them apart, as far as their filters can be told apart by
their texts. -/
theorem Options.parameters_inj {className className' : String} {o o' : Options}
    (hfilter : ∀ f ∈ o.filter, ∀ f' ∈ o'.filter, f.compact = f'.compact → f = f') :
    (o.query className).parameters = (o'.query className').parameters ↔ o = o' := by
  have htexts : o.filter.map Json.compact = o'.filter.map Json.compact ↔ o.filter = o'.filter := by
    cases hf : o.filter <;> cases hf' : o'.filter <;> simp
    exact ⟨hfilter _ hf _ hf', congrArg _⟩
  rw [parameters_eq_iff]
  simp only [query, htexts, textOption_inj]
  obtain ⟨_, _, _, _, _, _, _⟩ := o
  obtain ⟨_, _, _, _, _, _, _⟩ := o'
  simp only [mk.injEq]

/-- **The parameters that are sent say exactly what was asked.**  Two queries over a class, whatever
they went through, have the same parameters if and only if the last settings of each kind ask for the
same, provided that documents with the same text are the same; each parameter occurs at most once, and
in a fixed order.  A run sends these parameters, by one request if the URL can be read, and neither a
run, however it ends, nor a taking of the results changes what the next run sends. -/
theorem parameters_eq_iff_options_eq {className : String} {notes notes' : List Note} {q q' : Query}
    (h : Course className notes q) (h' : Course className notes' q')
    (hfilter : ∀ f ∈ (options notes).filter, ∀ f' ∈ (options notes').filter,
      f.compact = f'.compact → f = f') :
    (q.parameters = q'.parameters ↔ options notes = options notes') ∧
      (q.parameters.map Prod.fst).Nodup ∧ (q.parameters.map Prod.fst).Sublist parameterNames ∧
      (∀ {c : Config} {calls : List CallEvent} {outcome : Outcome} {after : Query},
        Call.Trace (Client.find c q) calls (outcome, after) → after.request = q.request ∧
          (∀ http ∈ sentRequests calls, http.query = q.parameters) ∧
          (Config.checkUrl (c.resourceText q.path) = .ok () →
            ∃ active, sentRequests calls = [q.request.message c active])) ∧
      q.takeResults.2.request = q.request := by
  have hnames := map_fst_parameters_sublist q
  refine ⟨?_, hnames.nodup (by decide), hnames, fun {c calls outcome after} htrace => ?_, rfl⟩
  · rw [h.parameters_eq, h'.parameters_eq]
    exact Options.parameters_inj hfilter
  · refine ⟨?_, fun http hhttp => ?_, fun hurl => ?_⟩
    · rw [← request_takeResults after, takeResults_find htrace, request_takeResults]
    · obtain ⟨_, rfl⟩ := (Client.sends_exchange htrace).eq_message hhttp
      rfl
    · exact (Client.trace_exchange.1 htrace).sentRequests_eq hurl

/-- Here the fields to return are set and unset, with a failing run in between. -/
theorem parameters_eq_iff_options_eq_score :
    let won : Json := .object [("won", .bool true)]
    let base : Query := { className := "Score", filter := some won, limit := 5 }
    let narrow : Query := { base with keys := some "name" }
    let missing : Error := .invalidReply (.unexpected (.kind .null .sequence))
    let failing : List CallEvent := Client.answered narrow.request "\x7b\x7d"
    let notes : List Note :=
      [.set (.keys ""), .ran failing (.error missing), .set (.keys "name"), .set (.limit 5),
        .set (.filterDocument (some won))]
    let notes' : List Note :=
      [.set (.limit 5), .set (.limit 3), .set (.filterDocument (some won)), .taken []]
    Course "Score" notes base ∧ Course "Score" notes' base ∧
      base.parameters = [("where", won.compact), ("limit", "5")] ∧
      options notes = options notes' ∧ options notes ≠ options (notes.drop 2) ∧
      ∀ http ∈ sentRequests failing, http.query = narrow.parameters := by
  intro won base narrow missing failing notes notes'
  have hurl : Config.checkUrl (({} : Config).resourceText (Api.Path.ofClass "Score")) = .ok () :=
    eq_ok_iff_toOption.2 (by decide +kernel)
  have hreply : Api.interpret ⟨200, "\x7b\x7d"⟩ = .ok (.object []) :=
    eq_ok_iff_toOption.2 (by decide +kernel)
  have hnarrow : Course "Score" (notes.drop 2) narrow :=
    ((Course.new.set (.filterDocument (some won))).set (.limit 5)).set (.keys "name")
  have htrace : Call.Trace (Client.find {} narrow) failing (.error missing, narrow) :=
    Client.trace_exchange.2 (.unusable (Client.answer_answered hurl hreply) rfl)
  have hcourse : Course "Score" notes base := (hnarrow.find htrace).set (.keys "")
  have hcourse' : Course "Score" notes' base :=
    ((Course.new.take.set (.filterDocument (some won))).set (.limit 3)).set (.limit 5)
  have hfilter : ∀ f ∈ some won, ∀ f' ∈ some won, f.compact = f'.compact → f = f' := by
    rintro _ ⟨⟩ _ ⟨⟩ -
    rfl
  obtain ⟨hsame, -⟩ := parameters_eq_iff_options_eq hcourse hcourse' hfilter
  obtain ⟨hother, -⟩ := parameters_eq_iff_options_eq hcourse hnarrow hfilter
  obtain ⟨-, -, -, hruns, -⟩ := parameters_eq_iff_options_eq hnarrow hcourse hfilter
  refine ⟨hcourse, hcourse', by decide +kernel, hsame.1 rfl, fun h => ?_, (hruns htrace).2.1⟩
  exact absurd (hother.2 h) (by decide)

end DocStore.Query
