import DocStore.Proofs.Success
import DocStore.Proofs.Url.Below

/-!
# Texts of servers

* `Url.settles_of_parse` : a text that can be read as a URL says where a path begins that is appended to
  it, unless it is nothing but a scheme and the path has nothing visible before the resource; then the
  resource is read as a host (`Url.length_path_of_bare`);
* `Url.WebRoot.parse_append` : a scheme, a host and whatever is appended after a slash are read as what
  the host says and the path that follows; so the paths of plain segments on one server are the segments
  that are written (`Url.WebRoot.exists_front_of_parse`).
-/

namespace DocStore.Url

/-! ### Texts that can be read -/

/-- A text loses no more at its end than blanks and controls. -/
theorem exists_stripEnd_append (s : List Char) :
    ∃ t, s.filter (!isBreak ·) = stripEnd s ++ t := by
  refine ⟨(s.reverse.takeWhile (·.toNat ≤ 0x20)).reverse.filter (!isBreak ·), ?_⟩
  rw [stripEnd, ← List.filter_append, ← List.reverse_append, List.takeWhile_append_dropWhile,
    List.reverse_reverse]

theorem stripStart_append_slash (s q : List Char) :
    stripStart (s ++ '/' :: q) = stripStart s ++ '/' :: q.filter (!isBreak ·) := by
  rw [stripStart, dropWhile_append_cons (by decide), List.filter_append, List.filter_cons,
    if_pos (by decide)]
  rfl

theorem withAuthority_special_nil {scheme : String} {port : Nat}
    (h : SchemeKind.ofScheme scheme = .special port) :
    withAuthority scheme [] = .error .emptyHost := by
  simp [withAuthority, h, splitUser, splitHost, hostOf, bind, Except.bind]

/-- A text that can be read has more than slashes after a special scheme. -/
theorem dropWhile_ne_nil_of_parse {s : List Char} {scheme : String} {rest : List Char} {port : Nat}
    {u : Url} (h : parse (String.ofList s) = .ok u)
    (hsplit : splitScheme? (strip s) = some (scheme, rest))
    (hkind : SchemeKind.ofScheme scheme = .special port) :
    rest.dropWhile (isSlash (.special port)) ≠ [] := by
  intro hnil
  rw [parse_of_splitScheme? (by rwa [String.toList_ofList])] at h
  simp only [afterScheme, hkind, hnil, withAuthority_special_nil hkind] at h
  cases h

/-- Neither blanks nor slashes at the end of a text are what it needs in order to be read. -/
theorem dropWhile_ne_nil_of_parse_slashes {s : List Char} {n : Nat} {u : Url} {scheme : String}
    {rest : List Char} {port : Nat}
    (h : parse (String.ofList (s ++ List.replicate n '/')) = .ok u)
    (hsplit : splitScheme? (stripStart s) = some (scheme, rest))
    (hkind : SchemeKind.ofScheme scheme = .special port) :
    rest.dropWhile (isSlash (.special port)) ≠ [] := by
  cases n with
  | zero =>
    rw [List.replicate_zero, List.append_nil] at h
    obtain ⟨t, ht⟩ := exists_stripEnd_append (s.dropWhile (·.toNat ≤ 0x20))
    change stripStart s = strip s ++ t at ht
    cases hshort : splitScheme? (strip s) with
    | none =>
      rw [parse, String.toList_ofList, hshort] at h
      cases h
    | some split =>
      obtain ⟨scheme', rest'⟩ := split
      obtain ⟨front, hfront, hall⟩ := exists_of_splitScheme? hshort
      rw [ht, hfront, List.append_assoc, List.cons_append, hall] at hsplit
      cases hsplit
      have hne := dropWhile_ne_nil_of_parse h hshort hkind
      rw [List.dropWhile_append, List.isEmpty_eq_false_iff.2 hne]
      exact List.append_ne_nil_of_left_ne_nil hne t
  | succ n =>
    have hslashes : ∀ c ∈ List.replicate n '/', c = '/' := fun c hc => List.eq_of_mem_replicate hc
    have hstrip : strip (s ++ List.replicate (n + 1) '/') =
        stripStart s ++ '/' :: List.replicate n '/' := by
      rw [List.replicate_succ, strip_append_cons (by decide), stripEnd_of_visible]
      · rfl
      · intro c hc
        rw [hslashes c hc]
        decide
    have hlonger : splitScheme? (strip (s ++ List.replicate (n + 1) '/')) =
        some (scheme, rest ++ '/' :: List.replicate n '/') := by
      rw [hstrip, splitScheme?_append _ (.inr ⟨_, rfl⟩), hsplit]
      rfl
    intro hnil
    refine dropWhile_ne_nil_of_parse h hlonger hkind ?_
    rw [List.dropWhile_append, hnil, List.isEmpty_nil, if_pos rfl, List.dropWhile_eq_nil_iff,
      ← List.replicate_succ]
    intro c hc
    rw [List.eq_of_mem_replicate hc]
    rfl

/-- **Where the path begins** that is appended to a server's text and something after a slash: the text
says it, or it is nothing but a scheme and `strip` passes over what follows the slash. -/
theorem settles_of_parse {s v : List Char} {n : Nat} {u : Url}
    (h : parse (String.ofList (s ++ List.replicate n '/')) = .ok u) {scheme : String}
    {rest : List Char} (hsplit : splitScheme? (stripStart (s ++ '/' :: v)) = some (scheme, rest)) :
    Settles (.ofScheme scheme) rest ∨
      rest = ['/'] ∧ ∀ port, SchemeKind.ofScheme scheme ≠ .special port := by
  rw [stripStart_append_slash, splitScheme?_append _ (.inr ⟨_, rfl⟩), Option.map_eq_some_iff] at hsplit
  obtain ⟨⟨scheme', before⟩, hbefore, heq⟩ := hsplit
  obtain ⟨rfl, rfl⟩ := Prod.mk.inj heq
  cases hkind : SchemeKind.ofScheme scheme' with
  | special port =>
    have hne := dropWhile_ne_nil_of_parse_slashes h hbefore hkind
    refine .inl ?_
    simp only [Settles, List.dropWhile_append, List.isEmpty_eq_false_iff.2 hne]
    exact List.append_ne_nil_of_left_ne_nil hne _
  | _ =>
    by_cases hbare : before ++ '/' :: v.filter (!isBreak ·) = ['/']
    · exact .inr ⟨hbare, nofun⟩
    · refine .inl fun c hc => absurd ?_ hbare
      rw [List.append_eq_singleton_iff] at hc
      obtain ⟨rfl, hc⟩ | ⟨-, hc⟩ := hc
      · rw [List.nil_append, hc, (List.cons.inj hc).1]
      · cases hc

theorem isResource_login : IsResource ["login".toList] :=
  ⟨List.cons_ne_nil _ _, fun _ hs => List.mem_singleton.1 hs ▸ isSegment_of_name (by decide),
    by decide⟩

/-- After nothing but a scheme, the only segment is read as a host. -/
theorem length_path_of_bare {s : List Char} {scheme : String}
    (hsplit : splitScheme? (stripStart s) = some (scheme, ['/']))
    (hkind : ∀ port, SchemeKind.ofScheme scheme ≠ .special port) {u : Url}
    (h : parse (String.ofList (s ++ slashed ["login".toList])) = .ok u) :
    u.path.text.toList.length ≤ 1 := by
  have hread : parse (String.ofList (s ++ slashed ["login".toList])) =
      afterScheme scheme (['/'] ++ slashed ["login".toList]) := by
    refine parse_of_splitScheme? ?_
    rw [String.toList_ofList, strip_append_slashed s isResource_login,
      splitScheme?_append _ (isBelow_slashed _), hsplit]
    rfl
  rw [hread, afterScheme] at h
  cases hscheme : SchemeKind.ofScheme scheme with
  | special port => exact absurd hscheme (hkind port)
  | file =>
    have hfile : (file (['/'] ++ slashed ["login".toList])).map (·.path.text) = .ok "/" := by
      decide +kernel
    simp only [hscheme] at h
    rw [h] at hfile
    rw [(Except.ok.inj hfile : u.path.text = "/")]
    decide
  | other =>
    have hother : other scheme (['/'] ++ slashed ["login".toList]) =
        .ok (Front.withSegments { scheme, host := some (.domain "login") } [] []) := by
      have hhost : hostOf .other ['l', 'o', 'g', 'i', 'n'] [] = .ok (.domain "login") := by
        decide +kernel
      simp [other, withAuthority, hscheme, splitUser, splitHost, endsAuthority, isSlash,
        SchemeKind.backslash, hhost, bind, Except.bind, splitPort]
      rfl
    simp only [hscheme, hother] at h
    obtain rfl := Except.ok.inj h
    simp [Front.withSegments, hscheme, Front.build, Path.text]

/-! ### Scheme and host, and a path -/

/-- Whether a character may stand in a host, with its port or without. -/
def isHostChar (c : Char) : Bool := 0x20 < c.toNat && !(['/', '\\', '?', '#', '@'].contains c)

theorem endsAuthority_of_isHostChar (kind : SchemeKind) {c : Char} (h : isHostChar c) :
    endsAuthority kind c = false := by
  simp only [isHostChar, Bool.and_eq_true, Bool.not_eq_true', List.contains_eq_mem,
    decide_eq_false_iff_not, List.mem_cons, not_or] at h
  simp [endsAuthority, isSlash, h]

theorem splitUser_of_isHostChar (kind : SchemeKind) {s : List Char} (h : ∀ c ∈ s, isHostChar c) :
    splitUser kind s = (none, s) := by
  have hwhole : s.takeWhile (!endsAuthority kind ·) = s :=
    List.takeWhile_eq_self_iff.2 fun c hc => by rw [endsAuthority_of_isHostChar kind (h c hc)]; rfl
  have hat : s.reverse.takeWhile (· ≠ '@') = s.reverse := by
    refine List.takeWhile_eq_self_iff.2 fun c hc => decide_eq_true ?_
    rintro rfl
    exact absurd (h '@' (List.mem_reverse.1 hc)) (by decide)
  simp only [splitUser, hwhole, hat, List.length_reverse, if_true]

/-- What follows the text of a host in an authority is its port. -/
theorem splitHost_of_isHostChar (kind : SchemeKind) (bracketed : Bool) {s : List Char}
    (h : ∀ c ∈ s, isHostChar c) :
    (splitHost kind bracketed s).2 = [] ∨
      ∃ t, (splitHost kind bracketed s).2 = ':' :: t ∧ ∀ c ∈ t, isHostChar c := by
  induction s generalizing bracketed with
  | nil => exact .inl rfl
  | cons c s ih =>
    have hs : ∀ d ∈ s, isHostChar d := fun d hd => h d (List.mem_cons_of_mem _ hd)
    rw [splitHost, endsAuthority_of_isHostChar kind (h c List.mem_cons_self), Bool.or_false]
    split
    · rename_i hcolon
      simp only [Bool.and_eq_true, decide_eq_true_eq] at hcolon
      exact .inr ⟨s, by rw [hcolon.1], hs⟩
    · exact ih _ hs

theorem splitPort_of_isHostChar {kind : SchemeKind} {s : List Char} {port : Option Nat}
    {rest : List Char} (hs : s = [] ∨ ∃ t, s = ':' :: t ∧ ∀ c ∈ t, isHostChar c)
    (h : splitPort kind s = .ok (port, rest)) : rest = [] := by
  obtain rfl | ⟨t, rfl, ht⟩ := hs
  · cases h
    rfl
  · -- What is left after the digits would have to end the authority.
    have hnil : rest = t.dropWhile Char.isDigit ∧
        (t.dropWhile Char.isDigit).head?.any
          (fun c => !(c = '/' || c = '\\' || c = '?' || c = '#')) = false := by
      simp only [splitPort] at h
      split at h
      · cases h
      · split at h
        · cases h
        · rename_i hhead
          rw [Bool.not_eq_true] at hhead
          split at h <;> cases h <;> exact ⟨rfl, hhead⟩
    obtain ⟨rfl, hhead⟩ := hnil
    cases hdrop : t.dropWhile Char.isDigit with
    | nil => rfl
    | cons c rest =>
      have hc : isHostChar c :=
        ht c ((List.dropWhile_sublist _).subset (hdrop ▸ List.mem_cons_self))
      simp only [isHostChar, Bool.and_eq_true, Bool.not_eq_true', List.contains_eq_mem,
        decide_eq_false_iff_not, List.mem_cons, not_or] at hc
      simp [hdrop, hc] at hhead

/-- A host with its port is a whole authority. -/
theorem authority_of_isHostChar {scheme : String} {s : List Char} (h : ∀ c ∈ s, isHostChar c)
    {front : Front} {rest : List Char} (hauthority : authority scheme s = .ok (front, rest)) :
    front.scheme = scheme ∧ rest = [] := by
  rw [authority, splitUser_of_isHostChar _ h] at hauthority
  simp only [reduceCtorEq, false_and, if_false, Option.bind_none, Option.isSome_none,
    Bool.false_eq_true, and_false] at hauthority
  obtain ⟨host, -, hauthority⟩ := bind_eq_ok_iff.1 hauthority
  obtain ⟨⟨port, rest'⟩, hport, hauthority⟩ := bind_eq_ok_iff.1 hauthority
  cases hauthority
  exact ⟨rfl, splitPort_of_isHostChar (splitHost_of_isHostChar _ false h) hport⟩

/-- A web server: its scheme, and its host with the port or without. -/
structure WebRoot where
  scheme : String
  host : List Char
  isWeb : scheme = "http" ∨ scheme = "https"
  host_ne_nil : host ≠ []
  all_host : host.all isHostChar

/-- The text of a web server with a path of segments. -/
def WebRoot.text (w : WebRoot) (segments : List (List Char)) : List Char :=
  w.scheme.toList ++ ':' :: '/' :: '/' :: (w.host ++ slashed segments)

/-- The text of a web server with a path of plain segments or without, and slashes at its end. -/
def IsWebServer (text : String) : Prop :=
  ∃ (w : WebRoot) (mount : List (List Char)) (n : Nat), (∀ s ∈ mount, IsSegment s ∧ s ≠ []) ∧
    text.toList = w.text mount ++ List.replicate n '/'

/-- The host of a URL, if there is one and it is not empty. -/
def hostName? (u : Url) : Option Host := u.host.filter (· ≠ .empty)

namespace WebRoot

variable {segments : List (List Char)}

theorem text_append (w : WebRoot) (segments more : List (List Char)) :
    w.text (segments ++ more) = w.text segments ++ slashed more := by
  simp [text]

theorem exists_special (w : WebRoot) : ∃ port, SchemeKind.ofScheme w.scheme = .special port := by
  obtain h | h := w.isWeb <;> rw [h] <;> exact ⟨_, rfl⟩

theorem isHostChar (w : WebRoot) : ∀ c ∈ w.host, Url.isHostChar c := List.all_eq_true.1 w.all_host

theorem toNat_of_isHostChar {c : Char} (h : Url.isHostChar c) : 0x20 < c.toNat := by
  simp only [Url.isHostChar, Bool.and_eq_true, decide_eq_true_eq] at h
  exact h.1

/-- Nothing is passed over in the text of a web server, but perhaps at the end of what is appended. -/
theorem strip_append (w : WebRoot) (q : List Char) :
    strip (w.text [] ++ q) = w.text [] ++ stripEnd q := by
  have hrest : ∀ c ∈ '/' :: '/' :: w.host, 0x20 < c.toNat := by
    intro c hc
    simp only [List.mem_cons] at hc
    obtain rfl | rfl | hc := hc
    · decide
    · decide
    · exact toNat_of_isHostChar (w.isHostChar c hc)
  have hstrip := strip_append_cons (c := ':') (by decide) w.scheme.toList
    ('/' :: '/' :: w.host ++ q)
  rw [stripEnd_append_of_visible hrest] at hstrip
  have hscheme : (w.scheme.toList.dropWhile (·.toNat ≤ 0x20)).filter (!isBreak ·) =
      w.scheme.toList := by
    obtain h | h := w.isWeb <;> rw [h] <;> decide
  rw [hscheme] at hstrip
  simpa [text] using hstrip

/-- **What a text on a web server is read as**: what the host says, and the path that follows. -/
theorem parse_append (w : WebRoot) {q : List Char} (hq : IsBelow q) :
    parse (String.ofList (w.text [] ++ q)) =
      (authority w.scheme w.host).map fun (front, r) =>
        front.withSegments [] (r ++ stripEnd q) := by
  have hsplit : splitScheme? (strip (w.text [] ++ q)) =
      some (w.scheme, '/' :: '/' :: (w.host ++ stripEnd q)) := by
    rw [w.strip_append]
    simp only [text, slashed_nil, List.append_nil, List.append_assoc, List.cons_append]
    obtain h | h := w.isWeb <;> rw [h] <;> rfl
  have hslashes (kind : SchemeKind) :
      ('/' :: '/' :: (w.host ++ stripEnd q)).dropWhile (isSlash kind) = w.host ++ stripEnd q := by
    obtain ⟨c, host, hhost⟩ := List.exists_cons_of_ne_nil w.host_ne_nil
    have hc : isSlash kind c = false := by
      have hends := endsAuthority_of_isHostChar kind
        (w.isHostChar c (hhost ▸ List.mem_cons_self))
      simp only [endsAuthority, Bool.or_eq_false_iff] at hends
      exact hends.1.1
    have hslash : isSlash kind '/' = true := by simp [isSlash]
    simp [hhost, hslash, hc]
  obtain ⟨port, hkind⟩ := w.exists_special
  rw [parse_of_splitScheme? (by rw [String.toList_ofList, hsplit])]
  simp only [afterScheme, hkind, hslashes]
  refine withAuthority_eq_authority w.scheme w.host hq.stripEnd fun _ huser => ?_
  rw [splitUser_of_isHostChar _ w.isHostChar] at huser
  cases huser

/-- In particular, plain segments are read as they are. -/
theorem parse_text (w : WebRoot) (h : ∀ s ∈ segments, IsSegment s) :
    parse (String.ofList (w.text segments)) =
      (authority w.scheme w.host).map fun (front, r) =>
        front.withSegments [] (r ++ slashed segments) := by
  have htext : w.text segments = w.text [] ++ slashed segments := w.text_append [] segments
  rw [htext, w.parse_append (isBelow_slashed segments), stripEnd_slashed h]

/-- The path of a web server without one is its root. -/
theorem withSegments_nil (front : Front) {port : Nat}
    (hkind : SchemeKind.ofScheme front.scheme = .special port) :
    front.withSegments [] [] = front.withSegments [] (slashed [[]]) := by
  simp [Front.withSegments, hkind, writtenSegments, isSlash, endsPath]

/-- With its host read, every path of plain segments is read as these. -/
theorem exists_isAt_of_authority (w : WebRoot) {front : Front} {r : List Char}
    (hauthority : authority w.scheme w.host = .ok (front, r)) (hne : segments ≠ [])
    (h : ∀ s ∈ segments, IsSegment s) :
    ∃ u, parse (String.ofList (w.text segments)) = .ok u ∧
      IsAt front (encode pathSet (slashed segments)) u := by
  obtain ⟨port, hkind⟩ := w.exists_special
  obtain ⟨hfront, rfl⟩ := authority_of_isHostChar w.isHostChar hauthority
  have hstem : front.stem [] [] = [] := by simp [Front.stem, hfront, hkind]
  have hread := withSegments_slashed front [] (r := []) (by simp) hne h fun hfile => by
    rw [hfront, hkind] at hfile
    cases hfile
  rw [List.nil_append, hstem, List.nil_append] at hread
  refine ⟨front.withSegments [] (slashed segments), by rw [w.parse_text h, hauthority]; rfl, ?_⟩
  rw [hread]
  refine ⟨rfl, rfl, rfl, rfl, rfl, ?_⟩
  rw [encode_slashed]
  exact toList_text_rooted _

/-- **The paths on one web server** are the segments that are written.  Slashes at the end are kept. -/
theorem exists_front_of_parse (w : WebRoot) {u : Url} {n : Nat} (h : ∀ s ∈ segments, IsSegment s)
    (hu : parse (String.ofList (w.text segments ++ List.replicate n '/')) = .ok u) :
    ∃ front m, IsAt front (encode pathSet (slashed segments) ++ List.replicate m '/') u ∧
      ∀ more, more ≠ [] → (∀ s ∈ more, IsSegment s) →
        ∃ v, parse (String.ofList (w.text more)) = .ok v ∧
          IsAt front (encode pathSet (slashed more)) v := by
  have hplain : ∀ s ∈ segments ++ List.replicate n [], IsSegment s := by
    intro s hs
    obtain hs | hs := List.mem_append.1 hs
    · exact h s hs
    · rw [List.eq_of_mem_replicate hs]
      exact isSegment_nil
  rw [← slashed_replicate_nil, ← text_append] at hu
  obtain ⟨⟨front, r⟩, hauthority, hread⟩ := map_eq_ok_iff.1 ((w.parse_text hplain).symm.trans hu)
  obtain ⟨hfront, rfl⟩ := authority_of_isHostChar w.isHostChar hauthority
  have hall : ∀ more, more ≠ [] → (∀ s ∈ more, IsSegment s) →
      ∃ v, parse (String.ofList (w.text more)) = .ok v ∧
        IsAt front (encode pathSet (slashed more)) v :=
    fun more hmore hsegments => w.exists_isAt_of_authority hauthority hmore hsegments
  by_cases hnil : segments ++ List.replicate n [] = []
  · -- A server without a path is read like one with a slash.
    obtain ⟨port, hkind⟩ := w.exists_special
    obtain ⟨v, hv, hat⟩ := hall [[]] (by decide) (by simp [isSegment_nil])
    have hroot : u = v := by
      rw [w.parse_text (by simp [isSegment_nil]), hauthority] at hv
      rw [← hread, hnil]
      exact (withSegments_nil front (hfront ▸ hkind)).trans (Except.ok.inj hv)
    refine ⟨front, 1, ?_, hall⟩
    rw [hroot, (List.append_eq_nil_iff.1 hnil).1]
    exact hat
  · obtain ⟨v, hv, hat⟩ := hall _ hnil hplain
    obtain rfl := Except.ok.inj (hu.symm.trans hv)
    rw [slashed_append, encode_append, encode_slashed (.replicate n []), List.map_replicate] at hat
    rw [show encode pathSet [] = [] from rfl, slashed_replicate_nil] at hat
    exact ⟨front, n, hat, hall⟩

end WebRoot

end DocStore.Url
