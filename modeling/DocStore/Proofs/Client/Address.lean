import DocStore.Proofs.Api.Request
import DocStore.Proofs.Client.Access
import DocStore.Proofs.Client.Sent
import DocStore.Proofs.Config.Resources
import DocStore.Proofs.Json.Equality
import DocStore.Proofs.Url.WholeSegment

/-!
# Where a request about one record goes

The id of a record is put into the URL as it is, whatever characters it has.  A request about the record
is for the object of that id (`Config.AddressesObject`) **if and only if** the id is a whole segment and
the version of the API begins neither a query nor a fragment (`Client.request_addresses_iff`).

Any other id sends the request elsewhere: `Client.deletes_other_record` deletes the object of a record
whose id is the beginning of the one that was given.
-/

namespace DocStore

namespace Config

open Url (IsResource IsSegment slashed)

/-- A text is the URL of one object of a class, below the path of that class. -/
def AddressesObject (c : Config) (className id text : String) : Prop :=
  ∃ collectionText collection u, c.resourceUrl (Api.Path.ofClass className) = .ok collectionText ∧
    Url.parse collectionText = .ok collection ∧ Url.parse text = .ok u ∧
      Url.IsObjectOf collection id u

variable {c : Config} {className : String}

theorem addressesObject_iff {id text : String} :
    c.AddressesObject className id text ↔
      ∃ collection u, Url.parse (c.resourceText (Api.Path.ofClass className)) = .ok collection ∧
        Url.parse text = .ok u ∧ Url.IsObjectOf collection id u := by
  constructor
  · rintro ⟨_, collection, u, htext, hcollection, hu, h⟩
    obtain ⟨-, rfl⟩ := resourceUrl_eq_ok_iff.1 htext
    exact ⟨collection, u, hcollection, hu, h⟩
  · rintro ⟨collection, u, hcollection, hu, h⟩
    have hcheck := checkUrl_eq_ok_iff.2 ⟨collection, hcollection⟩
    exact ⟨_, collection, u, resourceUrl_eq_ok_iff.2 ⟨hcheck, rfl⟩, hcollection, hu, h⟩

/-- The authority of a web server's text that can be read. -/
theorem exists_authority {w : Url.WebRoot} {mount : List (List Char)} {n : Nat} {server : Url}
    (htext : c.serverUrl.toList = w.text mount ++ List.replicate n '/')
    (hserver : Url.parse c.serverUrl = .ok server) :
    ∃ front r, Url.authority w.scheme w.host = .ok (front, r) := by
  have hroot : c.serverUrl.toList = w.text [] ++ slashed (mount ++ List.replicate n []) := by
    rw [htext, Url.slashed_append, Url.slashed_replicate_nil, ← List.append_assoc, ← w.text_append,
      List.nil_append]
  rw [← String.ofList_toList (s := c.serverUrl), hroot,
    w.parse_append (Url.isBelow_slashed _)] at hserver
  obtain ⟨⟨front, r⟩, hauthority, -⟩ := map_eq_ok_iff.1 hserver
  exact ⟨front, r, hauthority⟩

/-- **When the URL of an id is that of its object.**  It can always be read. -/
theorem addressesObject_ofObject_iff (hvalid : c.validate = .ok ())
    (hweb : Url.IsWebServer c.serverUrl) (hclass : IsName className) (id : String) :
    checkUrl (c.resourceText (Api.Path.ofObject className id)) = .ok () ∧
      (c.AddressesObject className id (c.resourceText (Api.Path.ofObject className id)) ↔
        (∀ d ∈ c.version, Url.endsPath d = false) ∧ Url.IsWholeSegment id.toList) := by
  obtain ⟨w, mount, n, hmount, htext⟩ := hweb
  obtain ⟨server, hserver⟩ := exists_server_of_validate hvalid
  obtain ⟨front, r, hauthority⟩ := exists_authority htext hserver
  obtain ⟨names, hne, hnames, hpath⟩ := exists_names_ofClass hclass
  have hresource := isResource_of_isName names hne hnames
  -- Before the names of the class stand the server's own path and the version.
  let x := slashed mount ++ '/' :: c.version
  have hcollection : (c.resourceText (Api.Path.ofClass className)).toList =
      w.text [] ++ (x ++ slashed (names.map String.toList)) := by
    rw [resourceText_eq c hpath hresource, String.toList_ofList, htext,
      trimSlashesEnd_append_replicate (getLast?_text hmount).1, ← List.nil_append mount,
      w.text_append]
    simp [x]
  have hobject : (c.resourceText (Api.Path.ofObject className id)).toList =
      w.text [] ++ (x ++ slashed (names.map String.toList) ++ '/' :: id.toList) := by
    rw [(resourceText_ofObject c className id).1, String.toList_append, String.toList_append,
      hcollection]
    simp
  have hbelow : Url.IsBelow x := (Url.isBelow_slashed mount).append c.version
  obtain ⟨collection, u, hparse, hu, hiff⟩ := w.isObjectOf_iff hauthority hbelow hresource id
  rw [← hcollection, String.ofList_toList] at hparse
  rw [← hobject, String.ofList_toList] at hu
  have hversion : (∀ d ∈ x, Url.endsPath d = false) ↔ ∀ d ∈ c.version, Url.endsPath d = false := by
    have hslash : Url.endsPath '/' = false := by decide
    have hplain := Url.endsPath_slashed fun s hs => (hmount s hs).1
    simp only [x, List.forall_mem_append, List.forall_mem_cons]
    exact ⟨fun h => h.2.2, fun h => ⟨hplain, hslash, h⟩⟩
  refine ⟨checkUrl_eq_ok_iff.2 ⟨u, hu⟩, ?_⟩
  rw [addressesObject_iff, ← hversion, ← hiff]
  constructor
  · rintro ⟨collection', u', hparse', hu', h⟩
    cases hparse.symm.trans hparse'
    cases hu.symm.trans hu'
    exact h
  · exact fun h => ⟨collection, u, hparse, hu, h⟩

end Config

namespace Client

open Call

section Address

variable {τ σ : Type} {c : Config}

/-- What is asked of the stored object of a record goes to the URL of its id. -/
theorem Access.sent_eq [Stored τ] (access : Access) {target : τ} {id : String}
    (hid : (Stored.record target).objectId = some id)
    (hurl : Config.checkUrl (c.resourceText
      (Api.Path.ofObject (Stored.record target).className id)) = .ok ())
    (serve : Server σ) (w : World σ) :
    ∃ sent : Http.Request, ((access.operation c target).run serve w).2.sent = w.sent ++ [sent] ∧
      sent.method = access.method ∧
      sent.url = c.resourceText (Api.Path.ofObject (Stored.record target).className id) := by
  obtain ⟨events, htrace, hplays⟩ := run_eq_iff.1
    (rfl : (access.operation c target).run serve w = (_, _))
  obtain ⟨hnone, -⟩ | ⟨hnone, -⟩ | ⟨id', request, hid', hrequest, hmethod, hpath⟩ :=
    Access.request?_cases (Stored.record target) access
  · cases hid.symm.trans hnone
  · cases hid.symm.trans hnone
  · cases hid.symm.trans hid'
    rw [Access.trace_iff, hrequest] at htrace
    obtain ⟨active, hsent⟩ := htrace.sentRequests_eq (hpath ▸ hurl)
    exact ⟨request.message c active, hsent ▸ hplays.sent, hmethod, congrArg c.resourceText hpath⟩

/-- **Where a request about one record goes.**  A record with an id is saved, fetched, refreshed, updated
or deleted by one request.  If the server is a scheme and a host, with a path of plain segments or
without, then this request is for the object of that id in the record's class if and only if the version
holds neither `?` nor `#` and the id is a whole segment: it is not empty and no point or two, has no
separator and no break and no blank or control at its end, and no percent sign before two hexadecimal
digits. -/
theorem request_addresses_iff [Stored τ] (hvalid : c.validate = .ok ())
    (hweb : Url.IsWebServer c.serverUrl) {target : τ} {id : String}
    (hclass : Config.IsName (Stored.record target).className)
    (hid : (Stored.record target).objectId = some id) (access : Access) (serve : Server σ)
    (w : World σ) :
    ∃ sent : Http.Request, ((access.operation c target).run serve w).2.sent = w.sent ++ [sent] ∧
      sent.method = access.method ∧
      (c.AddressesObject (Stored.record target).className id sent.url ↔
        (∀ d ∈ c.version, Url.endsPath d = false) ∧ Url.IsWholeSegment id.toList) := by
  obtain ⟨hurl, hiff⟩ := Config.addressesObject_ofObject_iff hvalid hweb hclass id
  obtain ⟨sent, hsent, hmethod, htext⟩ := access.sent_eq hid hurl serve w
  exact ⟨sent, hsent, hmethod, htext ▸ hiff⟩

/-- Here an id has a blank, letters beyond ASCII and a percent sign, and none of them ends a segment. -/
theorem request_addresses_iff_discount :
    let c : Config :=
      { applicationId := "app", apiKey := "key", serverUrl := "https://api.example.com:8443/parse/" }
    let r : Record := { className := "Score", objectId := some "été 50%" }
    let serve : Server Unit := fun _ _ => (.ok ⟨200, "{}"⟩, ())
    let w : World Unit := { server := () }
    c.validate = .ok () ∧ Url.IsWebServer c.serverUrl ∧ Config.IsName (Stored.record r).className ∧
      (Stored.record r).objectId = some "été 50%" ∧ Url.IsWholeSegment "été 50%".toList ∧
      ∃ sent : Http.Request,
        ((Access.delete.operation c r).run serve w).2.sent = w.sent ++ [sent] ∧
          sent.method = .delete ∧
          c.AddressesObject (Stored.record r).className "été 50%" sent.url := by
  intro c r serve w
  have hvalid : c.validate = .ok () := eq_ok_iff_toOption.2 (by decide +kernel)
  have hweb : Url.IsWebServer c.serverUrl := by
    refine ⟨⟨"https", "api.example.com:8443".toList, .inr rfl, by decide, by decide⟩,
      ["parse".toList], 1, fun s hs => ?_, by decide⟩
    rw [List.mem_singleton.1 hs]
    exact ⟨Url.isSegment_of_name (by decide), by decide⟩
  have hclass : Config.IsName (Stored.record r).className := by decide
  have hsegment : Url.IsWholeSegment "été 50%".toList := by decide +kernel
  have hversion : ∀ d ∈ c.version, Url.endsPath d = false := by
    have hall : c.version.all (!Url.endsPath ·) = true := by decide
    simpa using hall
  obtain ⟨sent, hsent, hmethod, hiff⟩ := request_addresses_iff hvalid hweb hclass rfl .delete serve w
  exact ⟨hvalid, hweb, hclass, rfl, hsegment, sent, hsent, hmethod, hiff.2 ⟨hversion, hsegment⟩⟩

/-- **A request about one record can be for another one.**  The id of the record names the directory
above, another class and an object of it, and it is this object that is deleted. -/
theorem deletes_object_of_other_class :
    let c : Config := { applicationId := "app", apiKey := "key" }
    let r : Record := { className := "Score", objectId := some "../Level/l1" }
    let serve : Server Unit := fun _ _ => (.ok ⟨200, "{}"⟩, ())
    let url := "https://api.parse.com/1/classes/Score/../Level/l1"
    c.validate = .ok () ∧
      ((delete c r).run serve { server := () }).2.sent.map (fun http => (http.method, http.url)) =
        [(.delete, url)] ∧
      ¬c.AddressesObject "Score" "../Level/l1" url ∧ c.AddressesObject "Level" "l1" url := by
  intro c r serve url
  have hvalid : c.validate = .ok () := eq_ok_iff_toOption.2 (by decide +kernel)
  have hweb : Url.IsWebServer c.serverUrl :=
    ⟨⟨"https", "api.parse.com".toList, .inr rfl, by decide, by decide⟩, [], 0, nofun, by decide⟩
  have hurl : url = c.resourceText (Api.Path.ofObject "Score" "../Level/l1") := by decide +kernel
  have hother : c.AddressesObject "Level" "l1" url := by
    let object (path : List String) : Url :=
      ⟨"https", none, some (.domain "api.parse.com"), none, .rooted path, none, none⟩
    have hcollection : Url.parse (c.resourceText (Api.Path.ofClass "Level")) =
        .ok (object ["1", "classes", "Level"]) := eq_ok_iff_toOption.2 (by decide +kernel)
    have hobject : Url.parse url = .ok (object ["1", "classes", "Level", "l1"]) :=
      eq_ok_iff_toOption.2 (by decide +kernel)
    refine Config.addressesObject_iff.2 ⟨_, _, hcollection, hobject, rfl, rfl, _, "l1", rfl, rfl,
      by decide, ?_⟩
    exact Url.decode?_eq_some_iff.2 (by decide)
  refine ⟨hvalid, by decide +kernel, fun h => ?_, hother⟩
  have hclass : Config.IsName "Score" := by decide
  obtain ⟨-, hiff⟩ := Config.addressesObject_ofObject_iff hvalid hweb hclass "../Level/l1"
  rw [← hurl] at hiff
  exact (hiff.1 h).2.chars '/' (by decide) (by decide)

end Address

end Client

end DocStore
