import DocStore.Api.Path
import DocStore.Api.Request
import DocStore.Proofs.Success
import DocStore.Proofs.Url.Extension

/-!
# What a request is resolved to

A request is resolved exactly if the text of its URL can be read, and then to the message that says
what the request says (`Api.Request.resolve_eq_ok_iff`).  The headers of the message are looked up
by `Http.Request.headerValues`, which lists the values of a name in order.

The URL of an object is that of its class with the id below it, and one can be read exactly if the
other can (`Config.resourceText_ofObject`).
-/

namespace DocStore

/-- The values of all headers of a name, whose case does not matter. -/
def Http.Request.headerValues (r : Http.Request) (name : String) : List String :=
  (r.headers.filter fun header => sameIgnoringCase header.1 name).map Prod.snd

theorem Config.checkUrl_eq_ok_iff {text : String} :
    checkUrl text = .ok () ↔ ∃ u, Url.parse text = .ok u := by
  unfold checkUrl
  cases Url.parse text <;> simp

theorem Config.resourceUrl_eq_ok_iff {c : Config} {path url : String} :
    c.resourceUrl path = .ok url ↔
      checkUrl (c.resourceText path) = .ok () ∧ url = c.resourceText path := by
  rw [resourceUrl, map_eq_ok_iff]
  exact ⟨fun ⟨_, hcheck, h⟩ => ⟨hcheck, h.symm⟩, fun ⟨hcheck, h⟩ => ⟨(), hcheck, h.symm⟩⟩

namespace Api

variable {c : Config} {active : Option String}

/-- The message of a request, for a URL that can be read. -/
def Request.message (r : Request) (c : Config) (active : Option String) : Http.Request :=
  { method := r.method
    url := c.resourceText r.path
    query := r.parameters
    headers := standardHeaders c ++ r.sessionHeaders active
    body := r.body }

theorem Request.resolve_eq_ok_iff {r : Request} {http : Http.Request} :
    r.resolve c active = .ok http ↔
      Config.checkUrl (c.resourceText r.path) = .ok () ∧ http = r.message c active := by
  rw [resolve, map_eq_ok_iff]
  constructor
  · rintro ⟨url, hurl, rfl⟩
    obtain ⟨hcheck, rfl⟩ := Config.resourceUrl_eq_ok_iff.1 hurl
    exact ⟨hcheck, rfl⟩
  · rintro ⟨hcheck, rfl⟩
    exact ⟨_, Config.resourceUrl_eq_ok_iff.2 ⟨hcheck, rfl⟩, rfl⟩

theorem Request.resolve_eq_error_iff {r : Request} {e : Error} :
    r.resolve c active = .error e ↔ Config.checkUrl (c.resourceText r.path) = .error e := by
  rw [resolve, map_eq_error_iff, Config.resourceUrl, map_eq_error_iff]

/-! ### Headers -/

theorem Request.headerValues_message (r : Request) (name : String) :
    (r.message c active).headerValues name =
      ((standardHeaders c).filter fun header => Http.sameIgnoringCase header.1 name).map Prod.snd ++
        ((r.sessionHeaders active).filter fun header =>
          Http.sameIgnoringCase header.1 name).map Prod.snd := by
  rw [Http.Request.headerValues, message, List.filter_append, List.map_append]

theorem sameIgnoringCase_comm (a b : String) :
    Http.sameIgnoringCase a b = Http.sameIgnoringCase b a := by
  simp only [Http.sameIgnoringCase, eq_comm]

/-- Among headers of different names, one alone has its name. -/
theorem filter_of_pairwise {headers : List (String × String)} {header : String × String}
    (hdistinct : headers.Pairwise fun a b => Http.sameIgnoringCase a.1 b.1 = false)
    (hmem : header ∈ headers) :
    headers.filter (fun other => Http.sameIgnoringCase other.1 header.1) = [header] := by
  induction headers with
  | nil => cases hmem
  | cons first rest ih =>
    obtain ⟨hfirst, hrest⟩ := List.pairwise_cons.1 hdistinct
    obtain rfl | hmem := List.mem_cons.1 hmem
    · have hnone : rest.filter (fun other => Http.sameIgnoringCase other.1 header.1) = [] := by
        refine List.filter_eq_nil_iff.2 fun other hother => ?_
        rw [sameIgnoringCase_comm, hfirst other hother]
        exact Bool.false_ne_true
      rw [List.filter_cons_of_pos (by simp [Http.sameIgnoringCase]), hnone]
    · rw [List.filter_cons_of_neg (by simp [hfirst header hmem]), ih hrest hmem]

/-- The names of the standard headers do not depend on the settings. -/
theorem map_fst_standardHeaders (c : Config) :
    (standardHeaders c).map Prod.fst = (standardHeaders {}).map Prod.fst := rfl

theorem pairwise_standardHeaders (c : Config) :
    (standardHeaders c).Pairwise fun a b => Http.sameIgnoringCase a.1 b.1 = false := by
  have hnames : ((standardHeaders c).map Prod.fst).Pairwise fun a b =>
      Http.sameIgnoringCase a b = false := by
    rw [map_fst_standardHeaders]
    decide
  exact List.pairwise_map.1 hnames

/-- No standard header has the name of one that has to do with sessions. -/
theorem sameIgnoringCase_standardHeaders {header : String × String} (h : header ∈ standardHeaders c)
    {name : String} (hname : name ∈ [revocableSessionHeader, sessionTokenHeader]) :
    Http.sameIgnoringCase header.1 name = false := by
  have hnames : ∀ standard ∈ (standardHeaders c).map Prod.fst,
      ∀ name ∈ [revocableSessionHeader, sessionTokenHeader],
        Http.sameIgnoringCase standard name = false := by
    rw [map_fst_standardHeaders]
    decide
  exact hnames header.1 (List.mem_map_of_mem h) name hname

theorem Request.headerValues_session (r : Request) {name : String}
    (hname : name ∈ [revocableSessionHeader, sessionTokenHeader]) :
    (r.message c active).headerValues name =
      ((r.sessionHeaders active).filter fun header =>
        Http.sameIgnoringCase header.1 name).map Prod.snd := by
  have hnone : (standardHeaders c).filter (fun header => Http.sameIgnoringCase header.1 name) = [] := by
    refine List.filter_eq_nil_iff.2 fun header hmem => ?_
    rw [sameIgnoringCase_standardHeaders hmem hname]
    exact Bool.false_ne_true
  rw [headerValues_message, hnone]
  rfl

theorem Request.name_mem_of_mem_sessionHeaders {r : Request} {header : String × String}
    (h : header ∈ r.sessionHeaders active) :
    header.1 ∈ [revocableSessionHeader, sessionTokenHeader] := by
  unfold sessionHeaders at h
  obtain h | h := List.mem_append.1 h
  · split at h
    · simp_all
    · cases h
  · split at h
    · simp_all
    · cases h

/-- A standard header has its value once, and no session header has its name. -/
theorem Request.headerValues_standard (r : Request) {header : String × String}
    (h : header ∈ standardHeaders c) : (r.message c active).headerValues header.1 = [header.2] := by
  have hnone : (r.sessionHeaders active).filter
      (fun other => Http.sameIgnoringCase other.1 header.1) = [] := by
    refine List.filter_eq_nil_iff.2 fun other hother => ?_
    rw [sameIgnoringCase_comm,
      sameIgnoringCase_standardHeaders h (name_mem_of_mem_sessionHeaders hother)]
    exact Bool.false_ne_true
  rw [headerValues_message, filter_of_pairwise (pairwise_standardHeaders c) h, hnone]
  rfl

/-- A message carries the token of its request, once, and no other one. -/
theorem Request.headerValues_sessionToken (r : Request) :
    (r.message c active).headerValues sessionTokenHeader = (r.token? active).toList := by
  have hother : Http.sameIgnoringCase revocableSessionHeader sessionTokenHeader = false := by decide
  have hself : Http.sameIgnoringCase sessionTokenHeader sessionTokenHeader = true := by decide
  rw [r.headerValues_session (by simp), sessionHeaders]
  cases r.token? active <;> cases r.revocable <;> simp [hother, hself]

/-- A message asks for a revocable session if its request does. -/
theorem Request.headerValues_revocableSession (r : Request) :
    (r.message c active).headerValues revocableSessionHeader =
      if r.revocable then ["1"] else [] := by
  have hother : Http.sameIgnoringCase sessionTokenHeader revocableSessionHeader = false := by decide
  have hself : Http.sameIgnoringCase revocableSessionHeader revocableSessionHeader = true := by
    decide
  rw [r.headerValues_session (by simp), sessionHeaders]
  cases r.token? active <;> cases r.revocable <;> simp [hother, hself]

end Api

/-! ### Objects of a class -/

/-- The path of a class is a word, which may have the name of the class below it. -/
theorem Api.Path.ofClass_eq_append (className : String) : ∃ first below : String,
    ofClass className = first ++ below ∧ first ∈ [users, roles, "classes"] ∧
      Url.IsBelow below.toList := by
  unfold ofClass
  split
  · exact ⟨users, "", by rw [String.append_empty], by decide, .inl rfl⟩
  · split
    · exact ⟨roles, "", by rw [String.append_empty], by decide, .inl rfl⟩
    · refine ⟨"classes", "/" ++ className, ?_, by decide, .inr ⟨className.toList, ?_⟩⟩
      · rw [← String.append_assoc]
        rfl
      · rw [String.toList_append]
        rfl

/-- How the words end with which paths of classes start. -/
theorem Api.Path.ends_of_word {first : String} (h : first ∈ [users, roles, "classes"]) :
    first.toList.head?.any (· ≠ '/') ∧ first.toList.getLast? = some 's' := by
  have hwords : ∀ first ∈ [users, roles, "classes"],
      first.toList.head?.any (· ≠ '/') ∧ first.toList.getLast? = some 's' := by decide
  exact hwords first h

namespace Config

open Api (Path.ofClass Path.ofObject)

variable {first below : String}

/-- There are no slashes to be taken from a path that starts with a word. -/
theorem trimSlashesStart_append (h : first.toList.head?.any (· ≠ '/')) (s : List Char) :
    trimSlashesStart (first.toList ++ s) = first.toList ++ s := by
  cases hfirst : first.toList with
  | nil => simp [hfirst] at h
  | cons d ds =>
    have hd : d ≠ '/' := by simpa [hfirst] using h
    simp [trimSlashesStart, hd]

theorem resourceText_append (c : Config) (h : first.toList.head?.any (· ≠ '/')) (rest : String) :
    c.resourceText (first ++ rest) = c.resourceText first ++ rest := by
  have hfirst := trimSlashesStart_append h []
  rw [List.append_nil] at hfirst
  apply String.toList_inj.1
  simp [resourceText, trimSlashesStart_append h, hfirst, String.toList_append]

theorem endsPlainly_resourceText (c : Config) (h : first.toList.head?.any (· ≠ '/'))
    (hplain : Url.EndsPlainly first.toList) :
    Url.EndsPlainly (c.resourceText first).toList := by
  have hfirst := trimSlashesStart_append h []
  rw [List.append_nil] at hfirst
  rw [resourceText, String.toList_ofList, hfirst, List.append_cons]
  exact hplain.prepend _

theorem checkUrl_append {text : String} (h : Url.EndsPlainly text.toList)
    (hbelow : Url.IsBelow below.toList) : checkUrl (text ++ below) = checkUrl text := by
  have hparse := Url.parse_append h hbelow
  unfold checkUrl
  cases hlong : Url.parse (text ++ below) <;> cases hshort : Url.parse text <;>
    simp_all [Except.map]

/-- **The URL of an object** has the id below that of its class, and one can be read exactly if the
other can. -/
theorem resourceText_ofObject (c : Config) (className id : String) :
    c.resourceText (Path.ofObject className id) =
        c.resourceText (Path.ofClass className) ++ "/" ++ id ∧
      checkUrl (c.resourceText (Path.ofObject className id)) =
        checkUrl (c.resourceText (Path.ofClass className)) := by
  obtain ⟨first, below, hclass, hfirst, hbelow⟩ := Api.Path.ofClass_eq_append className
  obtain ⟨hslash, hlast⟩ := Api.Path.ends_of_word hfirst
  have hobject : Path.ofObject className id = first ++ (below ++ "/" ++ id) := by
    rw [Path.ofObject, hclass, String.append_assoc, String.append_assoc, String.append_assoc]
  have hplain := endsPlainly_resourceText c hslash ⟨'s', hlast, rfl⟩
  have hlonger : Url.IsBelow (below ++ "/" ++ id).toList := by
    rw [String.toList_append, String.toList_append, List.append_assoc]
    exact hbelow.append id.toList
  rw [hobject, hclass, resourceText_append c hslash, resourceText_append c hslash]
  refine ⟨by simp only [String.append_assoc], ?_⟩
  rw [checkUrl_append hplain hbelow, checkUrl_append hplain hlonger]

end Config

end DocStore
