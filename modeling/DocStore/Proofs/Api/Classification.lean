import DocStore.Proofs.Api.Reply

/-!
# What responses stand for

What a response stands for depends on its status, on whether the body is blank, on whether the
reader accepts it as a document, and on whether that document has a member `error`.  `Api.StandsFor`
has one case for each way in which these combine, and `Api.interpret_eq_iff` says that a response is
interpreted as what it stands for.  Each kind of result is then characterised by itself:

* `Api.interpret_eq_ok_iff` : a document comes **from a success only**, and a blank body then counts
  as the empty object;
* `Api.interpret_eq_api_iff` : an error that is reported comes with its code and its wording,
  **whatever the status**;
* `Api.interpret_eq_invalidReply_iff` : a reply is unusable if the request succeeded and the body is
  neither blank nor a document;
* `Api.interpret_eq_http_iff` : in all other cases the status itself is the error.

`Api.interpret_classified` puts them together; no other result is possible.
-/

namespace DocStore

/-- An integer of 64 bits with sign. -/
def IsInt64 (n : Int) : Prop := -(twoTo 63 : Int) ≤ n ∧ n < twoTo 63

theorem Json.asInt64?_eq_some_iff {value : Json} {n : Int} :
    value.asInt64? = some n ↔ value = .int n ∧ IsInt64 n := by
  constructor
  · intro h
    unfold asInt64? at h
    split at h
    · obtain ⟨hrange, heq⟩ := Option.ite_none_right_eq_some.1 h
      cases heq
      exact ⟨rfl, hrange⟩
    · cases h
  · rintro ⟨rfl, hrange⟩
    exact if_pos hrange

namespace Api

/-! ### The marks of a response -/

/-- Nothing but blanks, in the sense of Unicode. -/
def IsBlank (text : String) : Prop := ∀ c ∈ text.toList, Text.isBlank c = true

/-- The status is that of a success. -/
def Succeeded (r : Http.Response) : Prop := 200 ≤ r.status ∧ r.status < 300

/-- The body is an object with a member `error`. -/
structure Reports (r : Http.Response) (members : Members Json) (error : Json) : Prop where
  not_blank : ¬ IsBlank r.body
  parse_eq : Json.parse r.body = .ok (.object members)
  get?_eq : members.get? "error" = some error

theorem Reports.field?_eq {r : Http.Response} {members : Members Json} {error : Json}
    (h : Reports r members error) : (Json.object members).field? "error" = some error :=
  h.get?_eq

/-- The code of a reported error: the member `code` if it is an integer of 64 bits with sign, and in
all other cases the status. -/
inductive HasCode (status : Nat) (members : Members Json) : Int → Prop
  | own {n : Int} (hcode : members.get? "code" = some (.int n))
      (hrange : IsInt64 n) : HasCode status members n
  | status (hcode : ∀ n, members.get? "code" = some (.int n) → ¬ IsInt64 n) :
      HasCode status members status

/-- The wording of a reported error: a text as it is, any other value as it is written. -/
inductive HasWording : Json → String → Prop
  | text (message : String) : HasWording (.string message) message
  | written {error : Json} (h : ∀ message, error ≠ .string message) :
      HasWording error error.compact

variable {r : Http.Response} {members : Members Json} {error : Json} {code : Int} {message : String}

theorem isSuccess_iff : r.isSuccess = true ↔ Succeeded r := by
  simp [Http.Response.isSuccess, Succeeded]

theorem isEmpty_trim_iff {text : String} : (Text.trim text.toList).isEmpty ↔ IsBlank text := by
  rw [List.isEmpty_iff]
  exact ⟨Text.blank_of_trim_eq_nil, Text.trim_eq_nil_of_blank⟩

theorem not_isBlank_of_parse {text : String} {document : Json}
    (h : Json.parse text = .ok document) : ¬ IsBlank text := by
  rw [← isEmpty_trim_iff, Json.not_blank_of_parse h]
  exact Bool.false_ne_true

theorem Reports.of_field? {document : Json} (hparse : Json.parse r.body = .ok document)
    (herror : document.field? "error" = some error) : ∃ members, Reports r members error := by
  obtain ⟨members, hmembers, hget⟩ := Option.bind_eq_some_iff.1 herror
  cases document <;> cases hmembers
  exact ⟨_, not_isBlank_of_parse hparse, hparse, hget⟩

/-! ### What a reported error says -/

theorem hasCode_iff {status : Nat} : HasCode status members code ↔
    code = ((members.get? "code").bind Json.asInt64?).getD status := by
  have hown : ∀ n, (members.get? "code").bind Json.asInt64? = some n ↔
      members.get? "code" = some (.int n) ∧ IsInt64 n := by
    intro n
    simp only [Option.bind_eq_some_iff, Json.asInt64?_eq_some_iff]
    exact ⟨fun ⟨_, hget, heq, hrange⟩ => ⟨heq ▸ hget, hrange⟩,
      fun ⟨hget, hrange⟩ => ⟨_, hget, rfl, hrange⟩⟩
  cases hcode : (members.get? "code").bind Json.asInt64? with
  | some n =>
    obtain ⟨hget, hrange⟩ := (hown n).1 hcode
    refine ⟨fun h => ?_, fun h => h ▸ .own hget hrange⟩
    cases h with
    | own hget' =>
      rw [hget] at hget'
      cases hget'
      rfl
    | status hnone => exact absurd hrange (hnone n hget)
  | none =>
    have hnone : ∀ n, members.get? "code" = some (.int n) → ¬ IsInt64 n := by
      intro n hget hrange
      rw [(hown n).2 ⟨hget, hrange⟩] at hcode
      cases hcode
    refine ⟨fun h => ?_, fun h => h ▸ .status hnone⟩
    cases h with
    | own hget hrange => exact absurd hrange (hnone code hget)
    | status => rfl

theorem hasWording_iff : HasWording error message ↔ message = errorText error := by
  constructor
  · intro h
    cases h with
    | text => rfl
    | written hne =>
      unfold errorText
      split
      · exact absurd rfl (hne _)
      · rfl
  · rintro rfl
    unfold errorText
    split
    · exact .text _
    · exact .written ‹_›

/-- An object reports the error of its member `error`. -/
theorem reportedError_eq_api_iff {status : Nat} :
    reportedError status (.object members) error = .api code message ↔
      HasCode status members code ∧ HasWording error message := by
  rw [hasCode_iff, hasWording_iff, reportedError, Error.api.injEq, eq_comm, @eq_comm _ message]
  rfl

/-! ### What a response stands for -/

theorem interpret_of_isBlank (h : IsBlank r.body) :
    interpret r =
      if r.isSuccess then .ok (.object []) else .error (.http r.status "") :=
  if_pos (isEmpty_trim_iff.2 h)

theorem interpret_of_unreadable {e : Json.ReadError} (h : ¬ IsBlank r.body)
    (hparse : Json.parse r.body = .error e) :
    interpret r =
      if r.isSuccess then .error (.invalidReply (.unreadable e))
      else .error (.http r.status r.body) := by
  unfold interpret
  rw [if_neg (mt isEmpty_trim_iff.1 h), hparse]

theorem interpret_of_reports (h : Reports r members error) :
    interpret r = .error (reportedError r.status (.object members) error) := by
  rw [show r = ⟨r.status, r.body⟩ from rfl, interpret_of_parse r.status h.parse_eq]
  simp only [h.field?_eq]

theorem interpret_of_document {document : Json} (hparse : Json.parse r.body = .ok document)
    (herror : document.field? "error" = none) :
    interpret r =
      if r.isSuccess then .ok document else .error (.http r.status r.body) := by
  rw [show r = ⟨r.status, r.body⟩ from rfl, interpret_of_parse r.status hparse]
  simp only [herror]

/-- What a response stands for, by its status, its body and what the body reports. -/
inductive StandsFor (r : Http.Response) : Except Error Json → Prop
  | nothing (hstatus : Succeeded r) (hblank : IsBlank r.body) : StandsFor r (.ok (.object []))
  | document {document : Json} (hstatus : Succeeded r) (hparse : Json.parse r.body = .ok document)
      (herror : document.field? "error" = none) : StandsFor r (.ok document)
  | reported {members : Members Json} {error : Json} {code : Int} {message : String}
      (h : Reports r members error) (hcode : HasCode r.status members code)
      (hwording : HasWording error message) : StandsFor r (.error (.api code message))
  | unusable {e : Json.ReadError} (hstatus : Succeeded r) (hblank : ¬ IsBlank r.body)
      (hparse : Json.parse r.body = .error e) :
      StandsFor r (.error (.invalidReply (.unreadable e)))
  | failedBlank (hstatus : ¬ Succeeded r) (hblank : IsBlank r.body) :
      StandsFor r (.error (.http r.status ""))
  | failed (hstatus : ¬ Succeeded r) (hblank : ¬ IsBlank r.body)
      (hreport : ∀ members error, ¬ Reports r members error) :
      StandsFor r (.error (.http r.status r.body))

/-- Each response stands for what it is interpreted as. -/
theorem standsFor_interpret (r : Http.Response) : StandsFor r (interpret r) := by
  by_cases hblank : IsBlank r.body
  · rw [interpret_of_isBlank hblank]
    split
    · exact .nothing (isSuccess_iff.1 ‹_›) hblank
    · exact .failedBlank (mt isSuccess_iff.2 ‹_›) hblank
  cases hparse : Json.parse r.body with
  | error e =>
    rw [interpret_of_unreadable hblank hparse]
    split
    · exact .unusable (isSuccess_iff.1 ‹_›) hblank hparse
    · refine .failed (mt isSuccess_iff.2 ‹_›) hblank fun members error h => ?_
      rw [h.parse_eq] at hparse
      cases hparse
  | ok document =>
    cases herror : document.field? "error" with
    | none =>
      rw [interpret_of_document hparse herror]
      split
      · exact .document (isSuccess_iff.1 ‹_›) hparse herror
      · refine .failed (mt isSuccess_iff.2 ‹_›) hblank fun members error h => ?_
        rw [h.parse_eq] at hparse
        cases hparse
        rw [h.field?_eq] at herror
        cases herror
    | some error =>
      obtain ⟨members, h⟩ := Reports.of_field? hparse herror
      rw [interpret_of_reports h]
      exact .reported h (hasCode_iff.2 rfl) (hasWording_iff.2 rfl)

theorem interpret_of_standsFor {x : Except Error Json} (h : StandsFor r x) : interpret r = x := by
  cases h with
  | nothing hstatus hblank =>
    rw [interpret_of_isBlank hblank, if_pos (isSuccess_iff.2 hstatus)]
  | document hstatus hparse herror =>
    rw [interpret_of_document hparse herror, if_pos (isSuccess_iff.2 hstatus)]
  | reported h hcode hwording =>
    rw [interpret_of_reports h]
    exact congrArg Except.error (reportedError_eq_api_iff.2 ⟨hcode, hwording⟩)
  | unusable hstatus hblank hparse =>
    rw [interpret_of_unreadable hblank hparse, if_pos (isSuccess_iff.2 hstatus)]
  | failedBlank hstatus hblank =>
    rw [interpret_of_isBlank hblank, if_neg (mt isSuccess_iff.1 hstatus)]
  | failed hstatus hblank hreport =>
    cases hparse : Json.parse r.body with
    | error e => rw [interpret_of_unreadable hblank hparse, if_neg (mt isSuccess_iff.1 hstatus)]
    | ok document =>
      cases herror : document.field? "error" with
      | none =>
        rw [interpret_of_document hparse herror, if_neg (mt isSuccess_iff.1 hstatus)]
      | some error =>
        obtain ⟨members, h⟩ := Reports.of_field? hparse herror
        exact absurd h (hreport members error)

theorem interpret_eq_iff {x : Except Error Json} : interpret r = x ↔ StandsFor r x :=
  ⟨fun h => h ▸ standsFor_interpret r, interpret_of_standsFor⟩

/-! ### The kinds of results -/

/-- A document comes from a success, and a blank body counts as the empty object. -/
theorem interpret_eq_ok_iff {document : Json} :
    interpret r = .ok document ↔ Succeeded r ∧
      (IsBlank r.body ∧ document = .object [] ∨
        ¬ IsBlank r.body ∧ Json.parse r.body = .ok document ∧
          document.field? "error" = none) := by
  rw [interpret_eq_iff]
  constructor
  · intro h
    cases h with
    | nothing hstatus hblank => exact ⟨hstatus, .inl ⟨hblank, rfl⟩⟩
    | document hstatus hparse herror =>
      exact ⟨hstatus, .inr ⟨not_isBlank_of_parse hparse, hparse, herror⟩⟩
  · rintro ⟨hstatus, ⟨hblank, rfl⟩ | ⟨-, hparse, herror⟩⟩
    · exact .nothing hstatus hblank
    · exact .document hstatus hparse herror

/-- An error comes from its own document, whatever the status. -/
theorem interpret_eq_api_iff :
    interpret r = .error (.api code message) ↔
      ∃ members error, Reports r members error ∧ HasCode r.status members code ∧
        HasWording error message := by
  rw [interpret_eq_iff]
  constructor
  · intro h
    cases h with
    | reported h hcode hwording => exact ⟨_, _, h, hcode, hwording⟩
  · rintro ⟨members, error, h, hcode, hwording⟩
    exact .reported h hcode hwording

/-- A reply is unusable if it is that of a success and is neither blank nor a document. -/
theorem interpret_eq_invalidReply_iff {reply : InvalidReply} :
    interpret r = .error (.invalidReply reply) ↔ Succeeded r ∧ ¬ IsBlank r.body ∧
      ∃ e, Json.parse r.body = .error e ∧ reply = .unreadable e := by
  rw [interpret_eq_iff]
  constructor
  · intro h
    cases h with
    | unusable hstatus hblank hparse => exact ⟨hstatus, hblank, _, hparse, rfl⟩
  · rintro ⟨hstatus, hblank, e, hparse, rfl⟩
    exact .unusable hstatus hblank hparse

/-- The status is the error if it is that of no success and the body reports none. -/
theorem interpret_eq_http_iff {status : Nat} {text : String} :
    interpret r = .error (.http status text) ↔
      ¬ Succeeded r ∧ (∀ members error, ¬ Reports r members error) ∧ status = r.status ∧
        (IsBlank r.body ∧ text = "" ∨ ¬ IsBlank r.body ∧ text = r.body) := by
  rw [interpret_eq_iff]
  constructor
  · intro h
    cases h with
    | failedBlank hstatus hblank =>
      exact ⟨hstatus, fun members error h => h.not_blank hblank, rfl, .inl ⟨hblank, rfl⟩⟩
    | failed hstatus hblank hreport => exact ⟨hstatus, hreport, rfl, .inr ⟨hblank, rfl⟩⟩
  · rintro ⟨hstatus, hreport, rfl, ⟨hblank, rfl⟩ | ⟨hblank, rfl⟩⟩
    · exact .failedBlank hstatus hblank
    · exact .failed hstatus hblank hreport

/-- There are four kinds of results. -/
theorem interpret_kinds (r : Http.Response) :
    (∃ document, interpret r = .ok document) ∨
      (∃ code message, interpret r = .error (.api code message)) ∨
      (∃ reply, interpret r = .error (.invalidReply reply)) ∨
      ∃ status text, interpret r = .error (.http status text) := by
  have h := standsFor_interpret r
  generalize interpret r = x at h
  cases h with
  | nothing | document => exact .inl ⟨_, rfl⟩
  | reported => exact .inr (.inl ⟨_, _, rfl⟩)
  | unusable => exact .inr (.inr (.inl ⟨_, rfl⟩))
  | failedBlank | failed => exact .inr (.inr (.inr ⟨_, _, rfl⟩))

/-- **Every response is classified**, whatever its status and its body are.  It is read as a
document exactly if it is that of a success that is blank, which counts as the empty object, or
whose body is a document without a member `error`.  It is a reported error exactly if the body is an
object with a member `error`, an unusable reply exactly if it is that of a success with a body that
is neither blank nor a document, and in all other cases the status itself is the error, with the
body as it came unless that is blank. -/
theorem interpret_classified (r : Http.Response) :
    (∀ document, interpret r = .ok document ↔ Succeeded r ∧
      (IsBlank r.body ∧ document = .object [] ∨
        ¬ IsBlank r.body ∧ Json.parse r.body = .ok document ∧
          document.field? "error" = none)) ∧
    (∀ code message, interpret r = .error (.api code message) ↔
      ∃ members error, Reports r members error ∧ HasCode r.status members code ∧
        HasWording error message) ∧
    (∀ reply, interpret r = .error (.invalidReply reply) ↔ Succeeded r ∧ ¬ IsBlank r.body ∧
      ∃ e, Json.parse r.body = .error e ∧ reply = .unreadable e) ∧
    (∀ status text, interpret r = .error (.http status text) ↔
      ¬ Succeeded r ∧ (∀ members error, ¬ Reports r members error) ∧ status = r.status ∧
        (IsBlank r.body ∧ text = "" ∨ ¬ IsBlank r.body ∧ text = r.body)) ∧
    ((∃ document, interpret r = .ok document) ∨
      (∃ code message, interpret r = .error (.api code message)) ∨
      (∃ reply, interpret r = .error (.invalidReply reply)) ∨
      ∃ status text, interpret r = .error (.http status text)) :=
  ⟨fun _ => interpret_eq_ok_iff, fun _ _ => interpret_eq_api_iff,
    fun _ => interpret_eq_invalidReply_iff, fun _ _ => interpret_eq_http_iff, interpret_kinds r⟩

end Api

end DocStore
