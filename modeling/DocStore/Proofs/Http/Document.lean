import DocStore.Http.Document
import DocStore.Proofs.Json.Equality
import DocStore.Proofs.Json.Typed

/-!
# Reading what was kept of a request

A request is kept as the text of its document, in which an empty query, an empty list of headers and a
missing body are left out.

* `Http.Request.stores_members` : the members that are written store the request again, with the fields
  that were left out as they are by default.  The one exception is a body that is null, which is
  written like any other one, and read as no body (`Http.Request.reread`);
* `Http.Request.depth_body_of_read` : a request that was read has a body whose levels, with that of the
  request itself, are no more than the reader allows;
* `Http.Request.read_toJson_iff` : **a request whose body is exact reads back as itself if and only if the
  body is not null and has no more levels than that.**
-/

namespace DocStore.Http

open Json (Reads compactChars)
open Json.Reader (Stores reads_field)

variable {levels : Nat}

/-! ### The parts of a request -/

theorem reads_method (m : Method) : Reads (Method.reader levels) (compactChars m.toJson) m :=
  Json.Reader.reads_named (Method.ofName?_name m)

theorem reads_pairs (pairs : List (String × String)) :
    Reads (pairsReader (levels + 2)) (compactChars (pairsToJson pairs)) pairs :=
  Json.Reader.reads_list fun p _ =>
    Json.Reader.reads_pair (Json.Reader.reads_string p.1) (Json.Reader.reads_string p.2)

/-- An exact body is read back, unless it is null, which is read as no body. -/
theorem reads_body {body : Json} (h : body.IsExact) (hdepth : body.depth ≤ levels) :
    Reads (Json.Reader.optional .any levels) (compactChars body)
      ((some body).filter (· ≠ Json.null)) := by
  have hread : Reads (Json.Reader.any levels) (compactChars body) body :=
    Json.value_compactChars h hdepth
  by_cases hnull : body = .null
  · subst hnull
    exact Json.Reader.reads_optional_none .any
  · have hkept : (some body).filter (· ≠ Json.null) = some body := by simp [hnull]
    rw [hkept]
    exact Json.Reader.reads_optional_some hread (h.head?_ne hnull)

/-! ### Requests -/

namespace Request

/-- What a request is read as after it was kept: a body that is null is no body. -/
def reread (r : Request) : Request := { r with body := r.body.filter (· ≠ Json.null) }

/-- The member for a list of pairs, if there are any. -/
def pairsMember (name : String) (pairs : List (String × String)) : Members Json :=
  if pairs.isEmpty then [] else [(name, pairsToJson pairs)]

/-- The member for a body, if there is one. -/
def bodyMember : Option Json → Members Json
  | some body => [("body", body)]
  | none => []

/-- The members of the document of a request. -/
def members (r : Request) : Members Json :=
  [("method", r.method.toJson), ("url", .string r.url)] ++ pairsMember "query" r.query ++
    pairsMember "headers" r.headers ++ bodyMember r.body

theorem toJson_eq (r : Request) : r.toJson = .object r.members := rfl

/-- The fields of a request. -/
def fields : Json.Reader.Fields Request :=
  ⟨[Json.Reader.field "method" Method.reader fun r method => { r with method },
    Json.Reader.field "url" .string fun r url => { r with url },
    Json.Reader.field "query" pairsReader fun r query => { r with query },
    Json.Reader.field "headers" pairsReader fun r headers => { r with headers },
    Json.Reader.field "body" (.optional .any) fun r body => { r with body }], true⟩

theorem reader_eq : Request.reader = Json.Reader.record fields {} := rfl

/-- The names of the members are some of those of the fields, in their order. -/
theorem nodup_keys_members (r : Request) : r.members.keys.Nodup := by
  have hsublist : r.members.keys.Sublist ["method", "url", "query", "headers", "body"] := by
    unfold members pairsMember
    cases r.query.isEmpty <;> cases r.headers.isEmpty <;> cases r.body <;>
      exact List.isSublist_iff_sublist.1 rfl
  exact hsublist.nodup (by decide)

/-- A list of pairs is stored, or left out because there are none. -/
theorem stores_pairs {name : String} {put : Request → List (String × String) → Request}
    (hfield : fields.fields.find? (fun f => f.name == name) =
      some (Json.Reader.field name pairsReader put))
    {x : Request} (hx : put x [] = x) (pairs : List (String × String)) :
    Stores fields (levels + 2) x (pairsMember name pairs) (put x pairs) := by
  cases pairs with
  | nil => exact hx.symm ▸ .nil x
  | cons p pairs => exact .cons hfield (reads_field (reads_pairs (p :: pairs))) (.nil _)

/-- A body is stored, unless it is null, or left out because there is none. -/
theorem stores_body {body? : Option Json} (hexact : ∀ body, body? = some body → body.IsExact)
    (hdepth : ∀ body, body? = some body → body.depth ≤ levels) {x : Request} (hx : x.body = none) :
    Stores fields levels x (bodyMember body?)
      { x with body := body?.filter (· ≠ Json.null) } := by
  cases body? with
  | none =>
    have hsame : { x with body := none } = x := by rw [← hx]
    exact hsame.symm ▸ .nil x
  | some body =>
    exact .cons rfl (reads_field (reads_body (hexact body rfl) (hdepth body rfl))) (.nil _)

/-- **The members that are written store the request again**, but for a body that is null. -/
theorem stores_members {r : Request} (hexact : ∀ body, r.body = some body → body.IsExact)
    (hdepth : ∀ body, r.body = some body → body.depth ≤ levels + 2) :
    Stores fields (levels + 2) {} r.members r.reread := by
  have hfirst : Stores fields (levels + 2) {}
      [("method", r.method.toJson), ("url", .string r.url)] { method := r.method, url := r.url } :=
    .cons rfl (reads_field (reads_method r.method))
      (.cons rfl (reads_field (Json.Reader.reads_string r.url)) (.nil _))
  have hquery : fields.fields.find? (fun f => f.name == "query") =
      some (Json.Reader.field "query" pairsReader fun r query => { r with query }) := rfl
  have hheaders : fields.fields.find? (fun f => f.name == "headers") =
      some (Json.Reader.field "headers" pairsReader fun r headers => { r with headers }) := rfl
  exact ((hfirst.append (stores_pairs hquery rfl r.query)).append
    (stores_pairs hheaders rfl r.headers)).append (stores_body hexact hdepth rfl)

/-- **A request that was kept is read again**, with a body that is null as no body. -/
theorem read_toJson {r : Request} (hexact : ∀ body, r.body = some body → body.IsExact)
    (hdepth : ∀ body, r.body = some body → body.depth < Json.maxDepth) :
    Json.Reader.read Request.reader r.toJson.compact = .ok r.reread := by
  have hstores : Stores fields 126 {} r.members r.reread :=
    stores_members hexact fun body hbody => Nat.le_of_lt_succ (hdepth body hbody)
  have hrequired : ∀ f ∈ fields.fields, f.required = true → f.name ∈ r.members.keys := by
    simp [fields, Json.Reader.field]
  rw [Json.Reader.read, reader_eq, toJson_eq]
  exact Json.readAll_compact
    (Json.Reader.reads_record hstores r.nodup_keys_members hrequired)

/-- The body of a request that was read is not as deep as the reader allows, since the request is a
level of its own. -/
theorem depth_body_of_read {r : Request} {text : String}
    (h : Json.Reader.read Request.reader text = .ok r) :
    ∀ body, r.body = some body → body.depth < Json.maxDepth := by
  rw [Json.Reader.read, reader_eq] at h
  obtain ⟨rest, hscan⟩ := Json.scan_of_readAll h
  let P (r : Request) : Prop := ∀ body, r.body = some body → body.depth ≤ 126
  have hkept {α : Type} {name : String} {reader : Json.Reader α} {put : Request → α → Request}
      {x y : Request} {s rest : List Char} (hx : P x)
      (h : (Json.Reader.field name reader put).store x 126 s = .ok (y, rest))
      (hput : ∀ x v, (put x v).body = x.body) : P y := by
    obtain ⟨v, -, rfl⟩ := Json.Reader.exists_of_field h
    exact fun body hbody => hx body ((hput x v).symm.trans hbody)
  have hkeeps : Json.Reader.Keeps fields.fields 126 P := by
    simp only [Json.Reader.Keeps, fields, List.forall_mem_cons]
    -- Only the last field changes the body.
    refine ⟨fun _ _ _ _ hx h => hkept hx h fun _ _ => rfl,
      fun _ _ _ _ hx h => hkept hx h fun _ _ => rfl,
      fun _ _ _ _ hx h => hkept hx h fun _ _ => rfl,
      fun _ _ _ _ hx h => hkept hx h fun _ _ => rfl, fun _ _ _ _ _ h => ?_, nofun⟩
    obtain ⟨body?, hread, rfl⟩ := Json.Reader.exists_of_field h
    rintro body rfl
    obtain ⟨t, hvalue⟩ := Json.Reader.exists_of_optional hread
    exact Json.depth_value hvalue
  have hinitial : P {} := fun body hbody => nomatch hbody
  exact fun body hbody =>
    Nat.lt_succ_of_le (Json.Reader.record_invariant hkeeps hinitial hscan body hbody)

theorem reread_eq_iff {r : Request} : r.reread = r ↔ r.body ≠ some .null := by
  have hbody : r.reread = r ↔ r.body.filter (· ≠ Json.null) = r.body :=
    ⟨fun h => congrArg Request.body h, fun h => by rw [reread, h]⟩
  rw [hbody]
  cases r.body with
  | none => simp
  | some body => simp [Option.filter_eq_some_iff]

/-- **When a request that was kept is read back as it was**: exactly if its body is not null and not as
deep as the reader allows.  A body that is null is all that is lost. -/
theorem read_toJson_iff {r : Request} (hexact : ∀ body, r.body = some body → body.IsExact) :
    (Json.Reader.read Request.reader r.toJson.compact = .ok r ↔
      r.body ≠ some .null ∧ ∀ body, r.body = some body → body.depth < Json.maxDepth) ∧
    ((∀ body, r.body = some body → body.depth < Json.maxDepth) →
      Json.Reader.read Request.reader r.toJson.compact =
        .ok { r with body := r.body.filter (· ≠ Json.null) }) := by
  refine ⟨⟨fun h => ?_, fun ⟨hnull, hdepth⟩ => ?_⟩, read_toJson hexact⟩
  · have hdepth := depth_body_of_read h
    have hsame := (read_toJson hexact hdepth).symm.trans h
    exact ⟨reread_eq_iff.1 (Except.ok.inj hsame), hdepth⟩
  · rw [read_toJson hexact hdepth, reread_eq_iff.2 hnull]

/-- Here the body has integers at both bounds, a null inside of it and a name that is escaped, and one
parameter is repeated. -/
theorem read_toJson_iff_post :
    let body : Json := .object [("least", .array [.null, .int (-(twoTo 63 : Int))]),
      ("\"most\"", .int (twoTo 64 - 1 : Int))]
    let r : Request :=
      { method := .post, url := "https://h/a", query := [("q", "1"), ("q", "")],
        headers := [("A", "1")], body := some body }
    (∀ body, r.body = some body → body.IsExact) ∧
      Json.Reader.read Request.reader r.toJson.compact = .ok r := by
  intro body r
  have hleast : (Json.array [.null, .int (-(twoTo 63 : Int))]).IsExact :=
    .array (List.forall_mem_cons.2
      ⟨.null, List.forall_mem_singleton.2 (.int (by decide) (by decide))⟩)
  have hbody : body.IsExact :=
    .object (by decide) (List.forall_mem_cons.2
      ⟨hleast, List.forall_mem_singleton.2 (.int (by decide) (by decide))⟩)
  have hexact : ∀ body, r.body = some body → body.IsExact := fun _ h => Option.some.inj h ▸ hbody
  have hdepth : ∀ body, r.body = some body → body.depth < Json.maxDepth :=
    fun _ h => Option.some.inj h ▸ (by decide : body.depth < Json.maxDepth)
  exact ⟨hexact, (read_toJson_iff hexact).1.2 ⟨by decide, hdepth⟩⟩

/-- **A body that is null is written, and it is lost when it is read.** -/
theorem null_body_lost :
    let r : Request := { method := .post, url := "https://h/a", body := some .null }
    r.toJson.compact =
        "\x7b\"method\":\"POST\",\"url\":\"https://h/a\",\"body\":null\x7d" ∧
      Json.Reader.read Request.reader r.toJson.compact = .ok { r with body := none } ∧
      Json.Reader.read Request.reader r.toJson.compact ≠ .ok r := by
  intro r
  have hread : Json.Reader.read Request.reader r.toJson.compact = .ok { r with body := none } :=
    read_toJson (fun _ h => Option.some.inj h ▸ .null)
      (fun _ h => Option.some.inj h ▸ (by decide : Json.null.depth < Json.maxDepth))
  refine ⟨by decide +kernel, hread, fun h => ?_⟩
  have hbody := congrArg Request.body (Except.ok.inj (hread.symm.trans h))
  cases hbody

end Request

end DocStore.Http
