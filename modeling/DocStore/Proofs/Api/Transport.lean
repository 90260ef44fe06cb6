import DocStore.Http.Offline
import DocStore.Proofs.Api.Request

/-!
# What a transport refuses

A message is built in one place and checked in another: a request is resolved to a URL and up to six
headers, and the transport, which knows nothing of requests, checks the name and then the value of each
header and reads the URL once more before it opens a connection.  How the network answers is a parameter
(`Http.transport`); without a network the transport is `Http.offline` (`Http.offline_eq_transport`).

* `Http.headerRefusal?_eq` : of headers whose names can be sent, one is refused exactly if some value
  cannot be sent, and then for its value.
* `Http.Request.urlRefusal?_cases` : a URL that can be read is not refused as unreadable.
* `Api.Request.refusal?_message` : a resolved request is refused for one of at most three texts, which
  the caller chose, or else because its URL cannot be reached.
* `Api.Request.accepted` : **no resolved request is refused for the name of a header or as unreadable,
  whatever the network does, and it is refused for the value of a header exactly if a control character
  is in the application id, in the key or in the token that it carries.**

A request can still be refused because its URL has a scheme that is not spoken here
(`Http.TransportError.unsendable`), and it can fail in the network.
-/

namespace DocStore

namespace Http

/-! ### Headers -/

/-- The characters that no header's value may have. -/
def IsControl (d : Char) : Prop := d = '\x7F' ∨ d.toNat < 0x20 ∧ d ≠ '\t'

theorem isValueChar_eq_false_iff {d : Char} : isValueChar d = false ↔ IsControl d := by
  have hdelete : d = '\x7F' ↔ d.toNat = 0x7F :=
    ⟨fun h => h ▸ rfl, fun h => Char.ext (UInt32.toNat_inj.1 h)⟩
  have htab : d = '\t' → d.toNat = 9 := fun h => h ▸ rfl
  unfold isValueChar IsControl
  rw [hdelete]
  by_cases h : d = '\t'
  · simp [h]
  · simp only [h, decide_false, ne_eq, decide_not, Bool.false_or, Bool.and_eq_false_imp,
      decide_eq_true_eq, Bool.not_eq_eq_eq_not, Bool.not_false, not_false_eq_true, and_true]
    omega

theorem isHeaderValue_eq_false_iff {value : String} :
    isHeaderValue value = false ↔ ∃ d ∈ value.toList, IsControl d := by
  simp only [isHeaderValue, List.all_eq_false, Bool.not_eq_true, isValueChar_eq_false_iff]

/-- Headers whose names can be sent are refused for a value, if at all. -/
theorem headerRefusal?_eq {headers : List (String × String)}
    (hnames : ∀ header ∈ headers, isHeaderName header.1 = true) :
    headerRefusal? headers =
      if headers.all fun header => isHeaderValue header.2 then none else some .invalidHeaderValue := by
  induction headers with
  | nil => rfl
  | cons header headers ih =>
    obtain ⟨hname, hothers⟩ := List.forall_mem_cons.1 hnames
    rw [headerRefusal?, ih hothers, hname, List.all_cons]
    cases isHeaderValue header.2 <;> rfl

/-! ### URLs -/

/-- A URL that can be read is refused only if no request can be sent to it: parameters do not make it
unreadable. -/
theorem Request.urlRefusal?_cases {r : Request} {u : Url} (h : Url.parse r.url = .ok u) :
    r.urlRefusal? = none ∨ ∃ text, r.urlRefusal? = some (.unsendable text) := by
  have htarget : r.target = .ok (u.withoutUser.addParameters r.query) := by
    rw [target, h]
    rfl
  rw [urlRefusal?, htarget]
  dsimp only
  split
  · exact .inl rfl
  · exact .inr ⟨_, rfl⟩

/-! ### The transport -/

variable {σ : Type} {network : Request → σ → Except String Response × σ}

/-- The transport over a network: it refuses what cannot be sent, and words the failures of the
network. -/
def transport (network : Request → σ → Except String Response × σ) : Server σ := fun r s =>
  match r.refusal? with
  | some refusal => (.error refusal, s)
  | none =>
    ((network r s).1.mapError fun message => .other ("HTTP error: " ++ message), (network r s).2)

/-- Without a network no connection can be opened. -/
theorem offline_eq_transport :
    offline = transport fun _ _ => (.error "no connection can be opened", ()) := by
  funext r s
  unfold offline transport
  cases r.refusal? <;> rfl

/-- Apart from errors of the network's own, a request fails as it is refused. -/
theorem transport_eq_error_iff {e : TransportError} (he : ∀ message, e ≠ .other message) (r : Request)
    (s : σ) : (transport network r s).1 = .error e ↔ r.refusal? = some e := by
  unfold transport
  cases r.refusal? with
  | some refusal => simp
  | none =>
    refine ⟨fun h => ?_, nofun⟩
    obtain ⟨message, -, rfl⟩ := mapError_eq_error_iff.1 h
    exact absurd rfl (he _)

end Http

/-! ### Resolved requests -/

namespace Api

variable {c : Config} {active : Option String}

/-- All names of headers that a request is resolved to can be sent. -/
theorem Request.isHeaderName_of_mem (r : Request) :
    ∀ header ∈ (r.message c active).headers, Http.isHeaderName header.1 = true := by
  have hnames : ∀ name ∈ [revocableSessionHeader, sessionTokenHeader] ++
      (standardHeaders {}).map Prod.fst, Http.isHeaderName name = true := by decide
  simp only [standardHeaders, List.map_cons, List.map_nil, List.forall_mem_append,
    List.forall_mem_cons] at hnames
  unfold message standardHeaders sessionHeaders
  cases r.token? active <;> cases r.revocable <;> simp [hnames]

/-- The values of headers that a request is resolved to are the texts of the caller, and fixed ones
that can be sent. -/
theorem Request.all_isHeaderValue (r : Request) :
    ((r.message c active).headers.all fun header => Http.isHeaderValue header.2) =
      ([c.applicationId, c.apiKey] ++ (r.token? active).toList).all Http.isHeaderValue := by
  have hfixed : ∀ value ∈ ["application/json", "docsync-rust/0.1.0", "1"],
      Http.isHeaderValue value = true := by decide
  simp only [List.forall_mem_cons] at hfixed
  obtain ⟨hjson, hagent, hone, -⟩ := hfixed
  unfold message standardHeaders sessionHeaders
  cases r.token? active <;> cases r.revocable <;> simp [hjson, hagent, hone]

/-- A request that is resolved is refused for a control character in a text of the caller, or else only
because its URL cannot be reached. -/
theorem Request.refusal?_message {r : Request} {u : Url}
    (hu : Url.parse (c.resourceText r.path) = .ok u) {e : Http.TransportError}
    (he : ∀ text, e ≠ .unsendable text) :
    (r.message c active).refusal? = some e ↔
      e = .invalidHeaderValue ∧
        ∃ text ∈ [c.applicationId, c.apiKey] ++ (r.token? active).toList,
          ∃ d ∈ text.toList, Http.IsControl d := by
  have hcontrol : (([c.applicationId, c.apiKey] ++ (r.token? active).toList).all
        Http.isHeaderValue = false) ↔
      ∃ text ∈ [c.applicationId, c.apiKey] ++ (r.token? active).toList,
        ∃ d ∈ text.toList, Http.IsControl d := by
    simp only [List.all_eq_false, Bool.not_eq_true, Http.isHeaderValue_eq_false_iff]
  rw [Http.Request.refusal?, Http.headerRefusal?_eq r.isHeaderName_of_mem, r.all_isHeaderValue,
    ← hcontrol]
  cases ([c.applicationId, c.apiKey] ++ (r.token? active).toList).all Http.isHeaderValue with
  | false => simp [eq_comm]
  | true =>
    rcases Http.Request.urlRefusal?_cases (r := r.message c active) hu with hurl | ⟨text, hurl⟩
    · simp [hurl]
    · simpa [hurl] using (he text).symm

/-- **What the client builds the transport accepts**, but for control characters in the texts that the
caller chose, and but for errors that concern no part of the message's form. -/
theorem Request.accepted {r : Request} {http : Http.Request} (h : r.resolve c active = .ok http)
    {σ : Type} (network : Http.Request → σ → Except String Http.Response × σ) (s : σ) :
    let delivery := (Http.transport network http s).1
    let texts := [c.applicationId, c.apiKey] ++ http.headerValues sessionTokenHeader
    http.headerValues sessionTokenHeader = (r.token? active).toList ∧
      delivery ≠ .error .invalidHeaderName ∧
      (∀ e, delivery ≠ .error (.invalidUrl e)) ∧
      (delivery = .error .invalidHeaderValue ↔
        ∃ text ∈ texts, ∃ d ∈ text.toList, Http.IsControl d) := by
  obtain ⟨hurl, rfl⟩ := resolve_eq_ok_iff.1 h
  obtain ⟨u, hu⟩ := Config.checkUrl_eq_ok_iff.1 hurl
  intro delivery texts
  have htoken : (r.message c active).headerValues sessionTokenHeader = (r.token? active).toList :=
    r.headerValues_sessionToken
  have hfails (e : Http.TransportError) (hother : ∀ message, e ≠ .other message)
      (hreached : ∀ text, e ≠ .unsendable text) :
      delivery = .error e ↔
        e = .invalidHeaderValue ∧ ∃ text ∈ texts, ∃ d ∈ text.toList, Http.IsControl d := by
    rw [Http.transport_eq_error_iff hother, refusal?_message hu hreached]
    simp only [texts, htoken]
  refine ⟨htoken, fun hname => ?_, fun e hread => ?_, ?_⟩
  · exact nomatch ((hfails .invalidHeaderName nofun nofun).1 hname).1
  · exact nomatch ((hfails (.invalidUrl e) nofun nofun).1 hread).1
  · rw [hfails .invalidHeaderValue nofun nofun]
    exact and_iff_right rfl

/-- Here the token ends with the line break of the file that it was read from. -/
theorem Request.accepted_tokenWithLineBreak :
    let c : Config := { applicationId := "app", apiKey := "key\twith\ttabs" }
    let r : Request :=
      { method := .put, path := "classes/Score/s1", parameters := [("note", "line\nbreak")],
        sessionToken := some "r:abc\n" }
    let network : Http.Request → Unit → Except String Http.Response × Unit :=
      fun _ _ => (.ok ⟨200, "{}"⟩, ())
    ∃ http, r.resolve c none = .ok http ∧
      http.headerValues sessionTokenHeader = ["r:abc\n"] ∧
      (Http.transport network http ()).1 = .error .invalidHeaderValue ∧
      ∀ e, (Http.transport network http ()).1 ≠ .error (.invalidUrl e) := by
  intro c r network
  have hurl : Config.checkUrl (c.resourceText r.path) = .ok () :=
    eq_ok_iff_toOption.2 (by decide +kernel)
  have hresolve : r.resolve c none = .ok (r.message c none) := resolve_eq_ok_iff.2 ⟨hurl, rfl⟩
  obtain ⟨htoken, -, hread, hvalue⟩ := accepted hresolve network ()
  refine ⟨_, hresolve, htoken, hvalue.2 ⟨"r:abc\n", ?_, '\n', by decide, .inr (by decide)⟩, hread⟩
  rw [htoken]
  decide

end Api

end DocStore
