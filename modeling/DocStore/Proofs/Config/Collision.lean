import Mathlib.Logic.Function.Basic
import DocStore.Proofs.Api.Request
import DocStore.Record.Basic

/-!
# Resources that share a URL

A class and the id of an object are put into a URL as they are.  Whether two resources have the same
one is therefore a question of where the slashes in their names are:

* `Api.Path.ofClass_inj` : no two classes share a path, since the class can be read back off it;
* `Api.Path.ofObject_eq_ofClass_iff` : an object has the path of a class exactly if the name of that
  class is the object's own class, a slash and its id;
* `Api.Path.ofObject_eq_ofObject_iff` : two objects share a path exactly if they are the same object,
  or if the id of one begins with what the other has at the end of its class;
* `Config.resourceText_inj` : server and version stand before all paths of a configuration alike.

So resources do not collide where ids and names of classes hold no slash
(`Config.resources_do_not_collide`).

URLs are compared as texts, in which they are handed to a transport.  This does **not** say that a
server takes two different texts for two resources: `a b` and `a%20b` are one segment of a URL.
-/

namespace DocStore

/-! ### Paths -/

namespace Api.Path

variable {className className' id id' : String}

theorem ofClass_cases (className : String) :
    (className = userClass ∧ ofClass className = users) ∨
      (className = roleClass ∧ ofClass className = roles) ∨
      (className ≠ userClass ∧ className ≠ roleClass ∧ ofClass className = "classes/" ++ className) := by
  unfold ofClass
  split
  · next huser => exact .inl ⟨huser, rfl⟩
  · next huser =>
    split
    · next hrole => exact .inr (.inl ⟨hrole, rfl⟩)
    · next hrole => exact .inr (.inr ⟨huser, hrole, rfl⟩)

/-- The class whose objects are at a path. -/
def classOf (path : String) : String :=
  if path = users then userClass
  else if path = roles then roleClass
  else String.ofList (path.toList.drop "classes/".toList.length)

theorem classOf_ofClass : Function.LeftInverse classOf ofClass := by
  intro className
  obtain ⟨rfl, hpath⟩ | ⟨rfl, hpath⟩ | ⟨-, -, hpath⟩ := ofClass_cases className
  · rw [hpath]
    rfl
  · rw [hpath]
    rfl
  · -- Neither of the two words starts as the path does.
    have hfirst : (ofClass className).toList.head? = some 'c' := by rw [hpath]; simp
    have husers : ofClass className ≠ users := by
      intro h
      rw [h] at hfirst
      exact absurd hfirst (by decide)
    have hroles : ofClass className ≠ roles := by
      intro h
      rw [h] at hfirst
      exact absurd hfirst (by decide)
    rw [classOf, if_neg husers, if_neg hroles, hpath, String.toList_append, List.drop_left,
      String.ofList_toList]

/-- No two classes share a path. -/
theorem ofClass_inj : ofClass className = ofClass className' ↔ className = className' :=
  classOf_ofClass.injective.eq_iff

/-- Users and roles have nothing below their paths that is a class. -/
theorem append_slash_ne_ofClass {word : String} (hword : word ∈ [users, roles])
    (id className : String) : word ++ "/" ++ id ≠ ofClass className := by
  intro h
  -- A class has another sixth character, or none.
  have hsixth : (ofClass className).toList[5]? ≠ some '/' := by
    obtain ⟨-, hpath⟩ | ⟨-, hpath⟩ | ⟨-, -, hpath⟩ := ofClass_cases className
    · rw [hpath]; decide
    · rw [hpath]; decide
    · rw [hpath]; simp
  rw [← h] at hsixth
  simp only [List.mem_cons, List.not_mem_nil, or_false] at hword
  obtain rfl | rfl := hword
  · exact hsixth (by simp [users])
  · exact hsixth (by simp [roles])

theorem toList_ofObject (className id : String) :
    (ofObject className id).toList = (ofClass className).toList ++ '/' :: id.toList := by
  simp [ofObject]

/-- **An object has the path of a class** exactly if the name of the class is that of the object's own
class, a slash and the id. -/
theorem ofObject_eq_ofClass_iff :
    ofObject className id = ofClass className' ↔
      className ≠ userClass ∧ className ≠ roleClass ∧ className' = className ++ "/" ++ id := by
  have hwords : ∀ word ∈ [users, roles], ofClass className = word →
      ofObject className id ≠ ofClass className' := by
    rintro word hword rfl
    exact append_slash_ne_ofClass hword id className'
  obtain ⟨rfl, hpath⟩ | ⟨rfl, hpath⟩ | ⟨huser, hrole, hpath⟩ := ofClass_cases className
  · exact iff_of_false (hwords users (by simp) hpath) fun h => h.1 rfl
  · exact iff_of_false (hwords roles (by simp) hpath) fun h => h.2.1 rfl
  · -- The path of the object is that of a class, since users and roles have no slash in their names.
    have hbelow : ofObject className id = ofClass (className ++ "/" ++ id) := by
      have hslash : '/' ∈ (className ++ "/" ++ id).toList := by simp
      obtain ⟨h, -⟩ | ⟨h, -⟩ | ⟨-, -, h⟩ := ofClass_cases (className ++ "/" ++ id)
      · exact absurd hslash (by rw [h]; decide)
      · exact absurd hslash (by rw [h]; decide)
      · rw [h, ofObject, hpath, String.append_assoc, String.append_assoc, String.append_assoc]
    rw [hbelow, ofClass_inj, eq_comm]
    exact ⟨fun h => ⟨huser, hrole, h⟩, fun h => h.2.2⟩

/-- Where two texts that end below a slash are the same: they are divided at the same slash, or one of
them is divided at an earlier one. -/
theorem append_slash_eq_iff {x y u v : List Char} :
    x ++ '/' :: u = y ++ '/' :: v ↔
      (x = y ∧ u = v) ∨ (∃ m, y = x ++ '/' :: m ∧ u = m ++ '/' :: v) ∨
        ∃ m, x = y ++ '/' :: m ∧ v = m ++ '/' :: u := by
  constructor
  · intro h
    obtain ⟨m, rfl, hrest⟩ | ⟨m, rfl, hrest⟩ := List.append_eq_append_iff.1 h
    · obtain ⟨rfl, heq⟩ | ⟨m, rfl, rfl⟩ := List.cons_eq_append_iff.1 hrest
      · exact .inl ⟨(List.append_nil x).symm, (List.cons.inj heq).2.symm⟩
      · exact .inr (.inl ⟨m, rfl, rfl⟩)
    · obtain ⟨rfl, heq⟩ | ⟨m, rfl, rfl⟩ := List.cons_eq_append_iff.1 hrest
      · exact .inl ⟨List.append_nil y, (List.cons.inj heq).2⟩
      · exact .inr (.inr ⟨m, rfl, rfl⟩)
  · rintro (⟨rfl, rfl⟩ | ⟨m, rfl, rfl⟩ | ⟨m, rfl, rfl⟩) <;> simp

/-- **Two objects share a path** exactly if they are the same, or if one of them has in its id what the
other has in the name of its class. -/
theorem ofObject_eq_ofObject_iff :
    ofObject className id = ofObject className' id' ↔
      (className = className' ∧ id = id') ∨
        (∃ m, ofClass className' = ofObject className m ∧ id = m ++ "/" ++ id') ∨
          ∃ m, ofClass className = ofObject className' m ∧ id' = m ++ "/" ++ id := by
  have htexts : Function.Surjective String.toList :=
    fun m => ⟨String.ofList m, String.toList_ofList⟩
  have hclass : className = className' ↔ (ofClass className).toList = (ofClass className').toList := by
    rw [String.toList_inj, ofClass_inj]
  rw [← String.toList_inj, toList_ofObject, toList_ofObject, append_slash_eq_iff, htexts.exists,
    htexts.exists, hclass]
  simp only [← String.toList_inj, toList_ofObject, String.toList_append, List.append_assoc]
  rfl

/-- Objects whose ids hold no slash share a path only if they are the same. -/
theorem ofObject_inj (hid : '/' ∉ id.toList) (hid' : '/' ∉ id'.toList) :
    ofObject className id = ofObject className' id' ↔ className = className' ∧ id = id' := by
  rw [ofObject_eq_ofObject_iff]
  refine or_iff_left ?_
  rintro (⟨m, -, rfl⟩ | ⟨m, -, rfl⟩)
  · exact hid (by simp)
  · exact hid' (by simp)

/-- With a slash in an id two objects can share a path, and with one in the name of a class an object
can have its path. -/
example : ofObject "Score" "2024/s1" = ofObject "Score/2024" "s1" ∧
    ofObject "Score" "s1" = ofClass "Score/s1" := by decide

/-- The path of a class starts with a word, whatever is below it. -/
theorem head?_ofClass_append (className rest : String) :
    (ofClass className ++ rest).toList.head?.any (· ≠ '/') := by
  obtain ⟨first, below, hclass, hfirst, -⟩ := ofClass_eq_append className
  obtain ⟨hslash, -⟩ := ends_of_word hfirst
  rw [hclass, String.append_assoc, String.toList_append, List.head?_append]
  cases h : first.toList.head? with
  | none => simp [h] at hslash
  | some d => simpa [h] using hslash

theorem head?_ofClass (className : String) : (ofClass className).toList.head?.any (· ≠ '/') := by
  simpa using head?_ofClass_append className ""

theorem head?_ofObject (className id : String) :
    (ofObject className id).toList.head?.any (· ≠ '/') := by
  rw [ofObject, String.append_assoc]
  exact head?_ofClass_append className ("/" ++ id)

end Api.Path

/-! ### URLs -/

/-- The id of a record, if it has one, holds no slash. -/
def Record.HasPlainId (r : Record) : Prop := ∀ id ∈ r.objectId, '/' ∉ id.toList

instance (r : Record) : Decidable r.HasPlainId :=
  inferInstanceAs (Decidable (∀ id ∈ r.objectId, '/' ∉ id.toList))

namespace Config

variable {c : Config} {path path' url className : String} {r s : Record}

/-- What stands before paths that start with a word keeps them apart. -/
theorem resourceText_inj (h : path.toList.head?.any (· ≠ '/'))
    (h' : path'.toList.head?.any (· ≠ '/')) :
    c.resourceText path = c.resourceText path' ↔ path = path' := by
  have htrim := trimSlashesStart_append h []
  have htrim' := trimSlashesStart_append h' []
  rw [List.append_nil] at htrim htrim'
  simp [resourceText, htrim, htrim']

theorem resourceUrl_inj (h : path.toList.head?.any (· ≠ '/'))
    (h' : path'.toList.head?.any (· ≠ '/')) (hurl : c.resourceUrl path = .ok url) :
    c.resourceUrl path' = .ok url ↔ path' = path := by
  constructor
  · intro hurl'
    obtain ⟨-, htext⟩ := resourceUrl_eq_ok_iff.1 hurl
    obtain ⟨-, htext'⟩ := resourceUrl_eq_ok_iff.1 hurl'
    exact (resourceText_inj h' h).1 (htext'.symm.trans htext)
  · rintro rfl
    exact hurl

/-- The URL of the object that a record is the image of, if it has an id and the URL can be read. -/
def objectUrl? (c : Config) (r : Record) : Option String :=
  r.objectPath?.bind fun path => (c.resourceUrl path).toOption

/-- The URL of all objects of a class, if it can be read. -/
def collectionUrl? (c : Config) (className : String) : Option String :=
  (c.resourceUrl (Api.Path.ofClass className)).toOption

theorem objectUrl?_eq_some_iff :
    c.objectUrl? r = some url ↔
      ∃ id, r.objectId = some id ∧ c.resourceUrl (Api.Path.ofObject r.className id) = .ok url := by
  simp [objectUrl?, Record.objectPath?, Option.bind_eq_some_iff, eq_ok_iff_toOption]

/-- Objects whose ids hold no slash have the same URL exactly if they are the same object. -/
theorem objectUrl?_eq_iff (hr : r.HasPlainId) (hs : s.HasPlainId)
    (hurl : c.objectUrl? r = some url) :
    c.objectUrl? s = some url ↔ s.className = r.className ∧ s.objectId = r.objectId := by
  obtain ⟨id, hid, hobject⟩ := objectUrl?_eq_some_iff.1 hurl
  constructor
  · intro hurl'
    obtain ⟨id', hid', hobject'⟩ := objectUrl?_eq_some_iff.1 hurl'
    have hpath := (resourceUrl_inj (Api.Path.head?_ofObject _ id) (Api.Path.head?_ofObject _ id')
      hobject).1 hobject'
    obtain ⟨hclass, rfl⟩ := (Api.Path.ofObject_inj (hs id' hid') (hr id hid)).1 hpath
    exact ⟨hclass, hid'.trans hid.symm⟩
  · rintro ⟨hclass, hid'⟩
    exact objectUrl?_eq_some_iff.2 ⟨id, hid'.trans hid, hclass ▸ hobject⟩

/-- No object has the URL of a class whose name holds no slash. -/
theorem collectionUrl?_ne (hname : '/' ∉ className.toList) (hurl : c.objectUrl? r = some url) :
    c.collectionUrl? className ≠ some url := by
  intro hcollection
  obtain ⟨id, -, hobject⟩ := objectUrl?_eq_some_iff.1 hurl
  have hpath := (resourceUrl_inj (Api.Path.head?_ofObject _ id) (Api.Path.head?_ofClass className)
    hobject).1 (eq_ok_iff_toOption.2 hcollection)
  obtain ⟨-, -, rfl⟩ := Api.Path.ofObject_eq_ofClass_iff.1 hpath.symm
  exact hname (by simp)

/-- **Resources do not collide.**  Two classes have the same path only if they are the same.  For every
configuration, two objects whose ids hold no slash have the same URL exactly if class and id are the
same, whatever their classes are called; and no object, whatever its class and id, has the URL of a
class whose name holds no slash. -/
theorem resources_do_not_collide :
    (∀ className className' : String,
      Api.Path.ofClass className = Api.Path.ofClass className' ↔ className = className') ∧
    ∀ (c : Config) (r : Record) (url : String), c.objectUrl? r = some url →
      (r.HasPlainId → ∀ s : Record, s.HasPlainId →
        (c.objectUrl? s = some url ↔ s.className = r.className ∧ s.objectId = r.objectId)) ∧
      ∀ className : String, '/' ∉ className.toList → c.collectionUrl? className ≠ some url := by
  refine ⟨fun className className' => Api.Path.ofClass_inj, fun c r url hurl => ⟨?_, ?_⟩⟩
  · intro hr s hs
    exact objectUrl?_eq_iff hr hs hurl
  · intro className hname
    exact collectionUrl?_ne hname hurl

/-- Here the classes of two objects with the same id differ in what stands below a slash, on a server
with a path and a version with slashes around it. -/
theorem resources_do_not_collide_dividedClass :
    let c : Config := { serverUrl := "http://localhost:1337/parse//", apiVersion := "/2/" }
    let r : Record := { className := "Score/2024", objectId := some "s1" }
    let s : Record := { className := "Score", objectId := some "s1" }
    let url := "http://localhost:1337/parse/2/classes/Score/2024/s1"
    c.objectUrl? r = some url ∧ r.HasPlainId ∧ s.HasPlainId ∧ (c.objectUrl? s).isSome ∧
      c.objectUrl? s ≠ some url ∧ '/' ∉ "Score".toList ∧ (c.collectionUrl? "Score").isSome ∧
      c.collectionUrl? "Score" ≠ some url := by
  intro c r s url
  have hurl : c.objectUrl? r = some url := by decide +kernel
  have hr : r.HasPlainId := by decide
  have hs : s.HasPlainId := by decide
  have hname : '/' ∉ "Score".toList := by decide
  obtain ⟨-, hapart⟩ := resources_do_not_collide
  obtain ⟨hobjects, hcollections⟩ := hapart c r url hurl
  refine ⟨hurl, hr, hs, by decide +kernel, fun h => ?_, hname, by decide +kernel,
    hcollections "Score" hname⟩
  exact absurd ((hobjects hr s hs).1 h).1 (by decide)

end Config

end DocStore
