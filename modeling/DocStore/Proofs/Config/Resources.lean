import Mathlib.Data.List.DropRight
import DocStore.Api.Path
import DocStore.Config.Basic
import DocStore.Proofs.Api.Request
import DocStore.Proofs.Url.Server

/-!
# Addresses of resources

`Config.Addresses` says that the URL of a resource path can be read and is where the path belongs: on
the configured server, below its path and the version, with neither query nor fragment.

The settings are checked by reading the server's text alone.  The URL of a resource is a longer text,
and what that is read as is another matter: a blank at the end of a server passes the check and leaves
no resource with a URL (`Config.valid_server_without_resources`), and a query takes all of them in.

* `Config.isResourceUrl_iff` : whether a URL is where its resource belongs does not depend on which
  resource it is;
* `Config.addresses_of_isWebServer` : each resource has an address if the server is a scheme and a host,
  with a path of plain segments or without, and the version is such a path too;
* `Config.addresses_iff_login` : in general, a checked configuration has an address for **every**
  resource exactly if it has one for the login.
-/

namespace DocStore

namespace Config

open Url (IsResource IsSegment IsAt Front slashed encode pathSet)

/-- A name of letters and digits. -/
structure IsName (s : String) : Prop where
  ne_empty : s ≠ ""
  chars : s.toList.all Url.isNameChar

instance (s : String) : Decidable (IsName s) :=
  decidable_of_iff (s ≠ "" ∧ s.toList.all Url.isNameChar) ⟨fun h => ⟨h.1, h.2⟩, fun h => ⟨h.1, h.2⟩⟩

/-- The paths of resources: of classes and their objects, and those that are the same for all. -/
inductive IsResourcePath : String → Prop
  | ofClass {name : String} (h : IsName name) : IsResourcePath (Api.Path.ofClass name)
  | ofObject {name id : String} (h : IsName name) (hid : IsName id) :
      IsResourcePath (Api.Path.ofObject name id)
  | login : IsResourcePath Api.Path.login
  | users : IsResourcePath Api.Path.users
  | currentUser : IsResourcePath Api.Path.currentUser
  | passwordReset : IsResourcePath Api.Path.passwordReset

/-- The version of the API, as it stands in URLs. -/
def version (c : Config) : List Char := trimSlashesEnd (trimSlashesStart c.apiVersion.toList)

/-- A URL is where a resource path belongs: the server's path without slashes at its end, the version
and the resource path, joined by single slashes. -/
structure IsResourceUrl (c : Config) (server : Url) (path : String) (u : Url) : Prop where
  scheme : u.scheme = server.scheme
  host : u.hostName? = server.hostName?
  port : u.port = server.port
  query : u.query = none
  fragment : u.fragment = none
  version : c.version ≠ []
  path : u.path.text.toList = trimSlashesEnd server.path.text.toList ++
    encode pathSet ('/' :: c.version ++ '/' :: path.toList)

/-- The URL of a resource path can be read and is where the path belongs. -/
def Addresses (c : Config) (server : Url) (path : String) : Prop :=
  ∃ text u, c.resourceUrl path = .ok text ∧ Url.parse text = .ok u ∧ c.IsResourceUrl server path u

/-- The version is a path of plain segments. -/
def HasPlainVersion (c : Config) : Prop :=
  ∃ segments, IsResource segments ∧ '/' :: c.version = slashed segments

/-! ### Resource paths -/

theorem isResource_of_isName (names : List String) (hne : names ≠ [])
    (h : ∀ name ∈ names, IsName name) : IsResource (names.map String.toList) := by
  refine ⟨by simpa using hne, fun s hs => ?_, fun s hs hnil => ?_⟩
  · obtain ⟨name, hname, rfl⟩ := List.mem_map.1 hs
    exact Url.isSegment_of_name (h name hname).chars
  · obtain ⟨name, hname, rfl⟩ := List.mem_map.1 hs
    exact (h name hname).ne_empty (String.toList_eq_nil_iff.1 hnil)

theorem exists_names_ofClass {className : String} (h : IsName className) :
    ∃ names, names ≠ [] ∧ (∀ name ∈ names, IsName name) ∧
      '/' :: (Api.Path.ofClass className).toList = slashed (names.map String.toList) := by
  unfold Api.Path.ofClass
  split
  · exact ⟨["users"], by decide, by decide, by decide⟩
  · split
    · exact ⟨["roles"], by decide, by decide, by decide⟩
    · refine ⟨["classes", className], List.cons_ne_nil _ _, ?_, ?_⟩
      · simpa using ⟨(by decide : IsName "classes"), h⟩
      · simp [String.toList_append]

/-- A resource path is a path of plain segments. -/
theorem IsResourcePath.exists_segments {path : String} (h : IsResourcePath path) :
    ∃ segments, IsResource segments ∧ '/' :: path.toList = slashed segments := by
  have hfixed : ∀ names : List String, names ≠ [] → (∀ name ∈ names, IsName name) →
      '/' :: path.toList = slashed (names.map String.toList) →
      ∃ segments, IsResource segments ∧ '/' :: path.toList = slashed segments :=
    fun names hne h heq => ⟨_, isResource_of_isName names hne h, heq⟩
  cases h with
  | ofClass h =>
    obtain ⟨names, hne, hnames, heq⟩ := exists_names_ofClass h
    exact hfixed names hne hnames heq
  | @ofObject name id h hid =>
    obtain ⟨names, hne, hnames, heq⟩ := exists_names_ofClass h
    refine hfixed (names ++ [id]) (by simp) (fun name hname => ?_) ?_
    · obtain hname | hname := List.mem_append.1 hname
      · exact hnames name hname
      · exact List.mem_singleton.1 hname ▸ hid
    · rw [List.map_append, Url.slashed_append, ← heq]
      simp [Api.Path.ofObject, String.toList_append]
  | login => exact hfixed ["login"] (by decide) (by decide) (by decide)
  | users => exact hfixed ["users"] (by decide) (by decide) (by decide)
  | currentUser => exact hfixed ["users", "me"] (by decide) (by decide) (by decide)
  | passwordReset => exact hfixed ["requestPasswordReset"] (by decide) (by decide) (by decide)

/-! ### Trimmed texts -/

theorem exists_trimSlashesEnd (s : List Char) :
    ∃ n, s = trimSlashesEnd s ++ List.replicate n '/' := by
  refine ⟨(s.rtakeWhile (· = '/')).length, ?_⟩
  have hall : ∀ c ∈ s.rtakeWhile (· = '/'), c = '/' :=
    fun c hc => of_decide_eq_true (p := c = '/') (List.mem_rtakeWhile_imp (p := (· = '/')) hc)
  rw [← List.eq_replicate_of_mem hall]
  exact List.rdropWhile_append_rtakeWhile.symm

theorem trimSlashesEnd_append_replicate {s : List Char} (hs : s.getLast? ≠ some '/') (n : Nat) :
    trimSlashesEnd (s ++ List.replicate n '/') = s := by
  induction n with
  | zero =>
    rw [List.replicate_zero, List.append_nil]
    refine List.rdropWhile_eq_self_iff.2 fun hne hlast => hs ?_
    rw [List.getLast?_eq_some_getLast hne, of_decide_eq_true hlast]
  | succ n ih =>
    rw [List.replicate_succ', ← List.append_assoc]
    exact (List.rdropWhile_concat_pos _ _ _ (by decide)).trans ih

/-! ### Where a resource lies -/

variable {c : Config} {server u : Url} {path : String} {segments : List (List Char)}

theorem resourceText_eq (c : Config) (hpath : '/' :: path.toList = slashed segments)
    (h : IsResource segments) :
    c.resourceText path =
      String.ofList (trimSlashesEnd c.serverUrl.toList ++ '/' :: c.version ++ slashed segments) := by
  obtain ⟨d, q, hcons, hd⟩ := h.exists_cons
  rw [← hpath] at hcons ⊢
  have htrim : trimSlashesStart path.toList = path.toList := by
    rw [(List.cons.inj hcons).2]
    simp [trimSlashesStart, Url.ne_of_isSegmentChar hd (d := '/') (by decide)]
  rw [resourceText, htrim]
  rfl

theorem addresses_iff :
    c.Addresses server path ↔
      ∃ u, Url.parse (c.resourceText path) = .ok u ∧ c.IsResourceUrl server path u := by
  constructor
  · rintro ⟨text, u, htext, hu, h⟩
    obtain ⟨-, rfl⟩ := resourceUrl_eq_ok_iff.1 htext
    exact ⟨u, hu, h⟩
  · rintro ⟨u, hu, h⟩
    exact ⟨_, u, resourceUrl_eq_ok_iff.2 ⟨checkUrl_eq_ok_iff.2 ⟨u, hu⟩, rfl⟩, hu, h⟩

/-- **Where a resource lies** does not depend on which one it is. -/
theorem isResourceUrl_iff {front : Front} {stem : List Char}
    (hat : IsAt front (stem ++ encode pathSet (slashed segments)) u)
    (hpath : '/' :: path.toList = slashed segments) :
    c.IsResourceUrl server path u ↔
      front.scheme = server.scheme ∧ front.host.filter (· ≠ .empty) = server.hostName? ∧
        front.port = server.port ∧ c.version ≠ [] ∧
        stem = trimSlashesEnd server.path.text.toList ++ encode pathSet ('/' :: c.version) := by
  have hstem : u.path.text.toList = trimSlashesEnd server.path.text.toList ++
        encode pathSet ('/' :: c.version ++ '/' :: path.toList) ↔
      stem = trimSlashesEnd server.path.text.toList ++ encode pathSet ('/' :: c.version) := by
    rw [hat.path, hpath, Url.encode_append, ← List.append_assoc, List.append_cancel_right_eq]
  constructor
  · intro h
    refine ⟨hat.scheme.symm.trans h.scheme, ?_, hat.port.symm.trans h.port, h.version,
      hstem.1 h.path⟩
    rw [← hat.host]
    exact h.host
  · rintro ⟨hscheme, hhost, hport, hversion, heq⟩
    refine ⟨hat.scheme.trans hscheme, ?_, hat.port.trans hport, hat.query, hat.fragment, hversion,
      hstem.2 heq⟩
    rw [Url.hostName?, hat.host]
    exact hhost

/-- A resource has more in its path than one character. -/
theorem IsResourceUrl.lt_length (h : c.IsResourceUrl server path u) :
    1 < u.path.text.toList.length := by
  have hencode (s : List Char) : encode pathSet ('/' :: s) = '/' :: encode pathSet s := rfl
  rw [h.path, Url.encode_append, hencode, hencode]
  simp only [List.length_append, List.length_cons]
  omega

/-- What shows of the login's address is true of every resource's. -/
theorem addresses_of_login (hserver : Url.parse c.serverUrl = .ok server)
    (hlogin : c.Addresses server Api.Path.login) (hpath : IsResourcePath path) :
    c.Addresses server path := by
  obtain ⟨n, htext⟩ := exists_trimSlashesEnd c.serverUrl.toList
  have hlonger : Url.parse
      (String.ofList (trimSlashesEnd c.serverUrl.toList ++ List.replicate n '/')) = .ok server := by
    rw [← htext, String.ofList_toList, hserver]
  obtain ⟨u, hu, hu'⟩ := addresses_iff.1 hlogin
  rw [resourceText_eq c (show _ = slashed ["login".toList] by decide) Url.isResource_login] at hu
  -- A path that begins right after the scheme would have lost the version.
  have hsettles : ∀ scheme rest, Url.splitScheme? (Url.stripStart
        (trimSlashesEnd c.serverUrl.toList ++ '/' :: c.version)) = some (scheme, rest) →
      Url.Settles (.ofScheme scheme) rest := by
    intro scheme rest hsplit
    obtain hsettles | ⟨rfl, hkind⟩ := Url.settles_of_parse hlonger hsplit
    · exact hsettles
    · exact absurd (Url.length_path_of_bare hsplit hkind hu) (Nat.not_le.2 hu'.lt_length)
  obtain ⟨segments, hsegments, heq⟩ := hpath.exists_segments
  rw [addresses_iff, resourceText_eq c heq hsegments]
  cases Url.parse_reading hsettles with
  | never hnever =>
    obtain hquery | hfragment := hnever _ Url.isResource_login u hu
    · rw [hu'.query] at hquery
      cases hquery
    · rw [hu'.fragment] at hfragment
      cases hfragment
  | always front stem halways =>
    obtain ⟨v, hv, hat⟩ := halways _ Url.isResource_login
    obtain rfl := Except.ok.inj (hu.symm.trans hv)
    have hfixed := (isResourceUrl_iff hat (by decide)).1 hu'
    obtain ⟨w, hw, hat⟩ := halways _ hsegments
    exact ⟨w, hw, (isResourceUrl_iff hat heq).2 hfixed⟩

/-! ### Web servers -/

/-- Neither a web server's text nor the path that is read from it ends in a slash because of its own
segments. -/
theorem getLast?_text {w : Url.WebRoot} {mount : List (List Char)}
    (h : ∀ s ∈ mount, IsSegment s ∧ s ≠ []) :
    (w.text mount).getLast? ≠ some '/' ∧
      (encode pathSet (slashed mount)).getLast? ≠ some '/' := by
  have hslash : Url.isSegmentChar '/' = false := by decide
  constructor
  · rw [← List.nil_append mount, w.text_append]
    refine Url.getLast?_append_slashed (fun s hs => ⟨(h s hs).2, fun hmem => ?_⟩) ?_
    · exact absurd ((h s hs).1.chars _ hmem) (by simp [hslash])
    · obtain ⟨last, hlast⟩ := Option.isSome_iff_exists.1 (List.getLast?_isSome.2 w.host_ne_nil)
      rw [Url.WebRoot.text, Url.slashed_nil, List.append_nil, List.getLast?_append,
        List.getLast?_cons, List.getLast?_cons, List.getLast?_cons, hlast]
      rintro ⟨⟩
      exact absurd (w.isHostChar '/' (List.mem_of_getLast? hlast)) (by decide)
  · rw [Url.encode_slashed]
    refine Url.getLast?_append_slashed (r := []) (fun s hs => ?_) (by simp)
    obtain ⟨t, ht, rfl⟩ := List.mem_map.1 hs
    refine ⟨(h t ht).1.encode_ne_nil (h t ht).2, fun hmem => ?_⟩
    obtain hmem | hmem | hmem := Url.mem_encode hmem
    · exact absurd ((h t ht).1.chars _ hmem) (by simp [hslash])
    · exact absurd hmem (by decide)
    · exact absurd hmem (by decide)

/-- **Every resource of a web server has an address**, if the version is plain. -/
theorem addresses_of_isWebServer (hserver : Url.parse c.serverUrl = .ok server)
    (hweb : Url.IsWebServer c.serverUrl) (hversion : c.HasPlainVersion)
    (hpath : IsResourcePath path) : c.Addresses server path := by
  obtain ⟨w, mount, n, hmount, htext⟩ := hweb
  obtain ⟨versions, hversions, hv⟩ := hversion
  obtain ⟨segments, hsegments, heq⟩ := hpath.exists_segments
  obtain ⟨htextEnd, hpathEnd⟩ := getLast?_text (w := w) hmount
  rw [← String.ofList_toList (s := c.serverUrl), htext] at hserver
  obtain ⟨front, m, hroot, hall⟩ := w.exists_front_of_parse (fun s hs => (hmount s hs).1) hserver
  have hplain : ∀ s ∈ mount ++ versions ++ segments, IsSegment s := by
    intro s hs
    simp only [List.mem_append] at hs
    obtain (hs | hs) | hs := hs
    · exact (hmount s hs).1
    · exact hversions.isSegment s hs
    · exact hsegments.isSegment s hs
  obtain ⟨u, hu, hat⟩ := hall (mount ++ versions ++ segments) (by simp [hsegments.ne_nil]) hplain
  have hresource : c.resourceText path =
      String.ofList (w.text (mount ++ versions ++ segments)) := by
    rw [resourceText_eq c heq hsegments, htext, trimSlashesEnd_append_replicate htextEnd, hv,
      w.text_append, w.text_append]
  rw [Url.slashed_append, Url.encode_append] at hat
  refine addresses_iff.2 ⟨u, hresource ▸ hu, (isResourceUrl_iff hat heq).2
    ⟨hroot.scheme.symm, ?_, hroot.port.symm, ?_, ?_⟩⟩
  · rw [Url.hostName?, hroot.host]
  · obtain ⟨d, q, hcons, -⟩ := hversions.exists_cons
    rw [← hv] at hcons
    rw [(List.cons.inj hcons).2]
    exact List.cons_ne_nil d q
  · rw [hroot.path, trimSlashesEnd_append_replicate hpathEnd, Url.slashed_append, Url.encode_append,
      hv]

/-! ### Checked configurations -/

theorem exists_server_of_validate (h : c.validate = .ok ()) :
    ∃ server, Url.parse c.serverUrl = .ok server := by
  unfold validate checkUrl at h
  cases hparse : Url.parse c.serverUrl with
  | ok server => exact ⟨server, rfl⟩
  | error e =>
    simp only [hparse] at h
    repeat' split at h
    all_goals cases h

/-- **A checked configuration has an address for every resource exactly if it has one for the login.**
It has one if the server is a scheme and a host, with a path of plain segments or without, and so is
the version. -/
theorem addresses_iff_login (c : Config) (h : c.validate = .ok ()) :
    ∃ server, Url.parse c.serverUrl = .ok server ∧
      ((∀ path, IsResourcePath path → c.Addresses server path) ↔
        c.Addresses server Api.Path.login) ∧
      (Url.IsWebServer c.serverUrl → c.HasPlainVersion →
        ∀ path, IsResourcePath path → c.Addresses server path) := by
  obtain ⟨server, hserver⟩ := exists_server_of_validate h
  refine ⟨server, hserver, ⟨fun hall => hall _ .login, fun hlogin path hpath => ?_⟩,
    fun hweb hversion path hpath => addresses_of_isWebServer hserver hweb hversion hpath⟩
  exact addresses_of_login hserver hlogin hpath

/-- The addresses on a server with a port, a path and a slash at its end. -/
theorem addresses_iff_login_mounted :
    let c : Config :=
      { applicationId := "app", apiKey := "key", serverUrl := "http://localhost:1337/parse/" }
    c.validate = .ok () ∧ ∃ server, Url.parse c.serverUrl = .ok server ∧
      ∀ path, IsResourcePath path → c.Addresses server path := by
  intro c
  have hvalid : c.validate = .ok () := eq_ok_iff_toOption.2 (by decide +kernel)
  obtain ⟨server, hserver, -, hweb⟩ := addresses_iff_login c hvalid
  refine ⟨hvalid, server, hserver, hweb ?_ ?_⟩
  · refine ⟨⟨"http", "localhost:1337".toList, .inl rfl, by decide, by decide⟩, ["parse".toList], 1,
      fun s hs => ?_, by decide⟩
    rw [List.mem_singleton.1 hs]
    exact ⟨Url.isSegment_of_name (by decide), by decide⟩
  · exact ⟨_, isResource_of_isName ["1"] (by decide) (by decide), by decide⟩

/-- A server with a blank at its end passes the check, and no resource of it has a URL. -/
theorem valid_server_without_resources :
    let c : Config :=
      { applicationId := "app", apiKey := "key", serverUrl := "https://api.example.com " }
    c.validate = .ok () ∧ IsResourcePath (Api.Path.ofClass "Score") ∧
      c.resourceUrl (Api.Path.ofClass "Score") = .error (.url .invalidDomain) := by
  intro c
  have hparse : Url.parse (c.resourceText (Api.Path.ofClass "Score")) = .error .invalidDomain := by
    decide +kernel
  refine ⟨eq_ok_iff_toOption.2 (by decide +kernel), .ofClass (by decide), ?_⟩
  unfold resourceUrl checkUrl
  rw [hparse]
  rfl

end Config

end DocStore
