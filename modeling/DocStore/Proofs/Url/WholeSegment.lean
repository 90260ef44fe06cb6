import Mathlib.Data.List.DropRight
import DocStore.Proofs.Url.Percent
import DocStore.Proofs.Url.Server

/-!
# Texts that are read as one segment

A text is appended to a URL after a slash, as it is.  It need not be read as a segment that stands for
it: it can hold the end of the segment or of the path, be passed over, name a directory, or be taken for
an encoding of another text.

* `Url.IsWholeSegment` : what a text must be like so that none of this happens;
* `Url.IsWholeSegment.of_resolve`, `Url.IsWholeSegment.resolve_eq` : **exactly such texts** are read as
  one more segment that decodes to them;
* `Url.WebRoot.isObjectOf_iff` : so the URL of a web server with a text appended is one object below the
  collection that stands before it (`Url.IsObjectOf`) exactly if the text is such a segment, and no
  query or fragment begins before it.

The argument is one of counting bytes.  The last segment is read from a part of the text, decoding does
not make it longer, and so it can only decode to the whole text if it is the whole text.
-/

namespace DocStore.Url

/-- The characters that end a segment or a path, or are passed over. -/
def separators : List Char := ['/', '\\', '?', '#', '\t', '\n', '\r']

/-- A text that is read as one segment which decodes to it. -/
structure IsWholeSegment (s : List Char) : Prop where
  ne_nil : s ≠ []
  chars : ∀ c ∈ s, c ∉ separators
  /-- Blanks and controls are passed over at the end. -/
  last : ∀ c ∈ s.getLast?, 0x20 < c.toNat
  ne_dot : s ≠ ['.']
  ne_dots : s ≠ ['.', '.']
  unescaped : IsUnescaped s

-- Tests of the list: for a quantifier, an instance may be found that goes over all characters.
instance (s : List Char) : Decidable (IsWholeSegment s) :=
  decidable_of_iff (s ≠ [] ∧ s.all (· ∉ separators) ∧ s.getLast?.all (0x20 < ·.toNat) ∧
      s ≠ ['.'] ∧ s ≠ ['.', '.'] ∧ IsUnescaped s) (by
    rw [List.all_eq_true, Option.all_eq_true]
    simp only [decide_eq_true_eq]
    exact ⟨fun ⟨h, h₁, h₂, h₃, h₄, h₅⟩ => ⟨h, h₁, h₂, h₃, h₄, h₅⟩,
      fun ⟨h, h₁, h₂, h₃, h₄, h₅⟩ => ⟨h, h₁, h₂, h₃, h₄, h₅⟩⟩)

/-- A URL is that of one object of a collection: it has neither query nor fragment, and its path is that
of the collection and one segment that is not empty and decodes to the object's id. -/
structure IsObjectOf (collection : Url) (id : String) (u : Url) : Prop where
  query : u.query = none
  fragment : u.fragment = none
  path : ∃ segments segment, collection.path = .rooted segments ∧
    u.path = .rooted (segments ++ [segment]) ∧ segment ≠ "" ∧
    decode? segment.toList = some id.toList

/-! ### Segments that name a directory -/

/-- Only letters become other characters in lower case. -/
theorem toLower_cases (c : Char) :
    (c.toLower = '.' → c = '.') ∧ (c.toLower = '%' → c = '%') ∧
      (c.toLower = '2' → hexDigitValue? c = some 2) ∧
      (c.toLower = 'e' → hexDigitValue? c = some 14) := by
  by_cases hc : c.toNat < 128
  · exact of_ascii (P := fun c => (c.toLower = '.' → c = '.') ∧ (c.toLower = '%' → c = '%') ∧
      (c.toLower = '2' → hexDigitValue? c = some 2) ∧
      (c.toLower = 'e' → hexDigitValue? c = some 14)) (by decide +kernel) hc
  · have hlower : c.toLower = c := by
      refine dif_neg fun hupper => hc ?_
      exact Nat.lt_of_le_of_lt (UInt32.le_iff_toNat_le.1 hupper.2) (by decide)
    have hne (d : Char) (hd : d.toNat < 128) : c.toLower ≠ d := by
      rw [hlower]
      rintro rfl
      exact hc hd
    exact ⟨fun h => absurd h (hne _ (by decide)), fun h => absurd h (hne _ (by decide)),
      fun h => absurd h (hne _ (by decide)), fun h => absurd h (hne _ (by decide))⟩

/-- A point, as it is or encoded, is read as a point. -/
theorem decodeBytes_point {s : List Char}
    (h : s.map Char.toLower = ['.'] ∨ s.map Char.toLower = ['%', '2', 'e']) (t : List Char) :
    decodeBytes (s ++ t) = 0x2E :: decodeBytes t := by
  simp only [List.map_eq_cons_iff, List.map_eq_nil_iff] at h
  obtain ⟨c, -, rfl, hc, rfl⟩ | ⟨c, -, rfl, hc, d, -, rfl, hd, e, -, rfl, he, rfl⟩ := h
  · obtain rfl := (toLower_cases c).1 hc
    refine decodeBytes_cons fun a b _ hprefix => ?_
    exact absurd (List.cons_prefix_cons.1 hprefix).1 (by decide)
  · obtain rfl := (toLower_cases c).2.1 hc
    exact decodeBytes_percent ((toLower_cases d).2.2.1 hd) ((toLower_cases e).2.2.2 he) t

theorem decodeBytes_of_isSingleDot {s : List Char} (h : isSingleDot s = true) :
    decodeBytes s = utf8 ['.'] := by
  simp only [isSingleDot, List.contains_iff_mem, List.mem_cons, List.not_mem_nil, or_false] at h
  have hpoint := decodeBytes_point h []
  rw [List.append_nil] at hpoint
  rw [hpoint]
  decide

theorem decodeBytes_of_isDoubleDot {s : List Char} (h : isDoubleDot s = true) :
    decodeBytes s = utf8 ['.', '.'] := by
  simp only [isDoubleDot, List.contains_iff_mem, List.mem_cons, List.not_mem_nil, or_false] at h
  have htwo : ∃ x y : List Char, s.map Char.toLower = x ++ y ∧
      (x = ['.'] ∨ x = ['%', '2', 'e']) ∧ (y = ['.'] ∨ y = ['%', '2', 'e']) := by
    obtain h | h | h | h := h
    · exact ⟨['.'], ['.'], h, by decide, by decide⟩
    · exact ⟨['.'], ['%', '2', 'e'], h, by decide, by decide⟩
    · exact ⟨['%', '2', 'e'], ['.'], h, by decide, by decide⟩
    · exact ⟨['%', '2', 'e'], ['%', '2', 'e'], h, by decide, by decide⟩
  obtain ⟨x, y, hxy, hx, hy⟩ := htwo
  obtain ⟨first, second, rfl, rfl, rfl⟩ := List.map_eq_append_iff.1 hxy
  have hsecond := decodeBytes_point hy []
  rw [List.append_nil] at hsecond
  rw [decodeBytes_point hx, hsecond]
  decide

/-! ### The last segment -/

/-- The last part of a text that is cut is what follows the last cut. -/
theorem getLast?_splitOnP (p : Char → Bool) (s : List Char) :
    (s.splitOnP p).getLast? = some (s.rtakeWhile (!p ·)) := by
  have hclean : ∀ c ∈ s.rtakeWhile (!p ·), p c = false := fun c hc => by
    simpa using List.mem_rtakeWhile_imp hc
  have hs : s.rdropWhile (!p ·) ++ s.rtakeWhile (!p ·) = s := List.rdropWhile_append_rtakeWhile
  obtain hnil | ⟨before, c, hcut⟩ := List.eq_nil_or_concat' (s.rdropWhile (!p ·))
  · rw [hnil, List.nil_append] at hs
    rw [hs] at hclean ⊢
    rw [List.splitOnP_eq_singleton hclean]
    rfl
  · have hne : s.rdropWhile (!p ·) ≠ [] := by simp [hcut]
    have hc : p c = true := by
      have hlast := List.rdropWhile_last_not (!p ·) s hne
      simpa [hcut] using hlast
    rw [hcut, List.append_assoc, List.singleton_append] at hs
    conv_lhs => rw [← hs]
    rw [List.splitOnP_append_cons _ _ hc, List.splitOnP_eq_singleton hclean,
      List.getLast?_append]
    rfl

/-- A path ends in the last segment that is followed, unless this names a directory. -/
theorem eq_of_resolve {port : Nat} {path path' segments : List (List Char)} {segment : List Char}
    (hne : segments ≠ []) (hsegment : segment ≠ [])
    (h : resolve (.special port) path segments = path' ++ [segment]) :
    segments.getLast? = some segment ∧ isSingleDot segment = false ∧ isDoubleDot segment = false := by
  obtain rfl | ⟨before, last, rfl⟩ := List.eq_nil_or_concat' segments
  · exact absurd rfl hne
  · rw [resolve_append _ _ _ (List.cons_ne_nil last []), resolve] at h
    simp only [List.isEmpty_nil, if_true, reduceCtorEq, false_and, if_false] at h
    rw [List.getLast?_concat]
    split at h
    · exact absurd (List.append_inj' h rfl).2 (by simpa using hsegment.symm)
    · split at h
      · exact absurd (List.append_inj' h rfl).2 (by simpa using hsegment.symm)
      · rename_i hdouble hsingle
        obtain rfl : last = segment := by simpa using (List.append_inj' h rfl).2
        exact ⟨rfl, by simpa using hsingle, by simpa using hdouble⟩

/-! ### What is left of a text -/

theorem stripEnd_sublist (s : List Char) : (stripEnd s).Sublist s :=
  List.filter_sublist.trans
    (List.rdropWhile_prefix (fun c : Char => decide (c.toNat ≤ 0x20)) (l := s)).sublist

/-- Nothing is passed over exactly if there is no break, and no blank or control at the end. -/
theorem stripEnd_eq_self_iff {s : List Char} :
    stripEnd s = s ↔ (∀ c ∈ s, isBreak c = false) ∧ ∀ c ∈ s.getLast?, 0x20 < c.toNat := by
  have hprefix := List.rdropWhile_prefix (fun c : Char => decide (c.toNat ≤ 0x20)) (l := s)
  have hkept : s.rdropWhile (·.toNat ≤ 0x20) = s ↔ ∀ c ∈ s.getLast?, 0x20 < c.toNat := by
    rw [List.rdropWhile_eq_self_iff]
    constructor
    · intro h c hc
      obtain ⟨before, rfl⟩ := List.getLast?_eq_some_iff.1 hc
      simpa using h (by simp)
    · intro h hne
      have hlast := h _ (List.getLast?_eq_some_getLast hne)
      simpa using hlast
  rw [← hkept]
  change (s.rdropWhile (·.toNat ≤ 0x20)).filter (!isBreak ·) = s ↔ _
  constructor
  · intro h
    have hwhole : s.rdropWhile (·.toNat ≤ 0x20) = s := by
      refine hprefix.eq_of_length_le ?_
      calc s.length = ((s.rdropWhile (·.toNat ≤ 0x20)).filter (!isBreak ·)).length := by rw [h]
        _ ≤ (s.rdropWhile (·.toNat ≤ 0x20)).length := List.length_filter_le ..
    rw [hwhole, List.filter_eq_self] at h
    exact ⟨fun c hc => by simpa using h c hc, hwhole⟩
  · rintro ⟨hbreak, hwhole⟩
    rw [hwhole, List.filter_eq_self]
    exact fun c hc => by simpa using hbreak c hc

/-- The segments that a text holds before its query and fragment, as written. -/
def segmentsOf (kind : SchemeKind) (s : List Char) : List (List Char) :=
  ((s.takeWhile (!endsPath ·)).splitOnP (isSlash kind)).map (encode pathSet)

theorem segmentsOf_ne_nil (kind : SchemeKind) (s : List Char) : segmentsOf kind s ≠ [] := by
  simp [segmentsOf]

theorem notMem_separators_iff (port : Nat) {c : Char} :
    c ∉ separators ↔
      isSlash (.special port) c = false ∧ endsPath c = false ∧ isBreak c = false := by
  simp [separators, isSlash, SchemeKind.backslash, endsPath, isBreak, and_assoc]

section WholeSegment

variable {port : Nat} {path : List (List Char)} {id : List Char}

/-- A text of which all is left and that is read as one segment which decodes to it is a whole
segment. -/
theorem IsWholeSegment.of_resolve {segment : List Char}
    (hclean : ∀ c ∈ stripEnd id, endsPath c = false)
    (h : resolve (.special port) path (segmentsOf (.special port) (stripEnd id)) =
      path ++ [segment])
    (hsegment : segment ≠ []) (hdecode : decodeBytes segment = utf8 id) : IsWholeSegment id := by
  obtain ⟨hlast, hsingle, hdouble⟩ := eq_of_resolve (segmentsOf_ne_nil _ _) hsegment h
  rw [segmentsOf, (takeWhile_of_not_endsPath hclean).1, List.getLast?_map, getLast?_splitOnP,
    Option.map_some, Option.some_inj] at hlast
  subst hlast
  rw [decodeBytes_encode] at hdecode
  have hpart := List.rtakeWhile_suffix (!isSlash (.special port) ·) (l := stripEnd id)
  have hsublist := hpart.sublist.trans (stripEnd_sublist id)
  -- The part would have fewer bytes than the text if anything were missing or decoded.
  obtain ⟨hunescaped, hbytes⟩ | ⟨-, hfewer⟩ :=
    decodeBytes_cases ((stripEnd id).rtakeWhile (!isSlash (.special port) ·))
  · have hall := eq_of_sublist_of_length_utf8 hsublist (by rw [← hbytes, hdecode])
    have hstrip : stripEnd id = id :=
      (stripEnd_sublist id).antisymm (by
        conv_lhs => rw [← hall]
        exact hpart.sublist)
    rw [hstrip] at hall hclean hunescaped hsingle hdouble hsegment
    obtain ⟨hbreak, hend⟩ := stripEnd_eq_self_iff.1 hstrip
    have hslash : ∀ c ∈ id, isSlash (.special port) c = false := fun c hc => by
      simpa using List.rtakeWhile_eq_self_iff.1 hall c hc
    rw [hall] at hunescaped hsingle hdouble hsegment
    have hchars : ∀ c ∈ id, c ∉ separators := fun c hc =>
      (notMem_separators_iff port).2 ⟨hslash c hc, hclean c hc, hbreak c hc⟩
    refine ⟨?_, hchars, hend, ?_, ?_, hunescaped⟩
    · rintro rfl
      exact hsegment rfl
    · rintro rfl
      exact absurd hsingle (by decide)
    · rintro rfl
      exact absurd hdouble (by decide)
  · have hle := length_utf8_le hsublist
    rw [hdecode] at hfewer
    omega

/-- A whole segment is read as it is, encoded. -/
theorem IsWholeSegment.resolve_eq (h : IsWholeSegment id) (port : Nat) (path : List (List Char)) :
    stripEnd id = id ∧ (∀ c ∈ id, endsPath c = false) ∧
      resolve (.special port) path (segmentsOf (.special port) id) = path ++ [encode pathSet id] ∧
      decodeBytes (encode pathSet id) = utf8 id := by
  have hchars := fun c hc => (notMem_separators_iff port).1 (h.chars c hc)
  have hclean : ∀ c ∈ id, endsPath c = false := fun c hc => (hchars c hc).2.1
  have hdecode : decodeBytes (encode pathSet id) = utf8 id := by
    rw [decodeBytes_encode, isUnescaped_iff.1 h.unescaped]
  -- Were it to name a directory, it would have the bytes of one or two points.
  have hname : ∀ s : List Char, id ≠ s → decodeBytes (encode pathSet id) ≠ utf8 s :=
    fun s hne hs => hne (utf8_injective (hdecode.symm.trans hs))
  have hsingle : isSingleDot (encode pathSet id) = false := Bool.eq_false_iff.2 fun hdot =>
    hname _ h.ne_dot (decodeBytes_of_isSingleDot hdot)
  have hdouble : isDoubleDot (encode pathSet id) = false := Bool.eq_false_iff.2 fun hdot =>
    hname _ h.ne_dots (decodeBytes_of_isDoubleDot hdot)
  refine ⟨stripEnd_eq_self_iff.2 ⟨fun c hc => (hchars c hc).2.2, h.last⟩, hclean, ?_, hdecode⟩
  rw [segmentsOf, (takeWhile_of_not_endsPath hclean).1,
    List.splitOnP_eq_singleton fun c hc => (hchars c hc).1, List.map_singleton, resolve, hsingle,
    hdouble]
  simp [resolve]

end WholeSegment

/-! ### A text after a collection -/

theorem foldl_follow_of_kept (kind : SchemeKind) (path : List (List Char))
    {segments : List (List Char)} (h : ∀ s ∈ segments, IsKept s) :
    segments.foldl (follow kind) path = path ++ segments := by
  induction segments generalizing path with
  | nil => exact (List.append_nil path).symm
  | cons s segments ih =>
    have hs := h s List.mem_cons_self
    rw [List.foldl_cons, ih _ fun t ht => h t (List.mem_cons_of_mem _ ht), follow, hs.double,
      hs.single, hs.drive]
    simp

/-- What is written after a slash follows what is written before it. -/
theorem writtenSegments_append_slash (kind : SchemeKind) {s : List Char} (hne : s ≠ [])
    (hs : ∀ c ∈ s, endsPath c = false) (t : List Char) :
    writtenSegments kind (s ++ '/' :: t) = writtenSegments kind s ++ segmentsOf kind t := by
  have htake : (s ++ '/' :: t).takeWhile (!endsPath ·) = s ++ '/' :: t.takeWhile (!endsPath ·) := by
    rw [List.takeWhile_append_of_pos fun c hc => by rw [hs c hc]; rfl]
    rfl
  have hslash : isSlash kind '/' = true := by simp [isSlash]
  simp only [writtenSegments, segmentsOf, htake, (takeWhile_of_not_endsPath hs).1]
  obtain ⟨c, s, rfl⟩ := List.exists_cons_of_ne_nil hne
  simp only [List.cons_append]
  split
  · rw [List.splitOnP_append_cons _ _ hslash, List.map_append]
  · rw [← List.cons_append, List.splitOnP_append_cons _ _ hslash, List.map_append]

section Special

variable {front : Front} {port : Nat} {x : List Char} {names : List (List Char)}

/-- The path of a collection is what stands before it, and its names. -/
theorem stem_append_slashed (hkind : SchemeKind.ofScheme front.scheme = .special port)
    (hx : ∀ c ∈ x, endsPath c = false) (hnames : IsResource names) :
    front.stem [] (x ++ slashed names) = front.stem [] x ++ names.map (encode pathSet) := by
  have hkept : ∀ s ∈ names.map (encode pathSet), IsKept s := by
    intro s hs
    obtain ⟨t, ht, rfl⟩ := List.mem_map.1 hs
    exact (hnames.isSegment t ht).kept
  obtain ⟨c, q, hcons, -⟩ := hnames.exists_cons
  have hne : x ++ slashed names ≠ [] := by simp [hcons]
  simp only [Front.stem, hkind, reduceCtorEq, if_false, if_neg hne,
    writtenSegments_slashed _ hx hnames.ne_nil hnames.isSegment, List.foldl_append]
  exact foldl_follow_of_kept _ _ hkept

/-- The URL of a path with a text appended after a slash. -/
theorem withSegments_append_slash (hkind : SchemeKind.ofScheme front.scheme = .special port)
    {s : List Char} (hne : s ≠ []) (hs : ∀ c ∈ s, endsPath c = false) (t : List Char) :
    front.withSegments [] (s ++ '/' :: t) =
      front.build (.rooted ((resolve (.special port) (front.stem [] s)
        (segmentsOf (.special port) t)).map String.ofList)) (t.dropWhile (!endsPath ·)) := by
  have hdrop : (s ++ '/' :: t).dropWhile (!endsPath ·) = t.dropWhile (!endsPath ·) := by
    rw [List.dropWhile_append_of_pos fun c hc => by rw [hs c hc]; rfl]
    rfl
  simp only [Front.withSegments, Front.stem, hkind, reduceCtorEq, false_and, if_false, if_neg hne,
    writtenSegments_append_slash _ hne hs, hdrop, resolve_append _ _ _ (segmentsOf_ne_nil _ t),
    rooted]

/-- **One object below a collection.**  After the path of a collection, a text is read as one object of
it exactly if it is a whole segment. -/
theorem isObjectOf_withSegments_iff (hkind : SchemeKind.ofScheme front.scheme = .special port)
    (hx : ∀ c ∈ x, endsPath c = false) (hnames : IsResource names) (id : String) :
    IsObjectOf (front.withSegments [] (x ++ slashed names)) id
        (front.withSegments [] (x ++ slashed names ++ '/' :: stripEnd id.toList)) ↔
      IsWholeSegment id.toList := by
  obtain ⟨c, q, hcons, -⟩ := hnames.exists_cons
  have hne : x ++ slashed names ≠ [] := by simp [hcons]
  have hclean : ∀ c ∈ x ++ slashed names, endsPath c = false := fun c hc =>
    (List.mem_append.1 hc).elim (hx c) (endsPath_slashed hnames.isSegment c)
  have hcollection := withSegments_slashed front [] hx hnames.ne_nil hnames.isSegment
    fun hfile => by rw [hkind] at hfile; cases hfile
  rw [← stem_append_slashed hkind hx hnames] at hcollection
  rw [hcollection, withSegments_append_slash hkind hne hclean]
  constructor
  · rintro ⟨hquery, hfragment, segments, segment, hsegments, hpath, hsegment, hdecode⟩
    -- A query or a fragment would begin in the text, if anything in it ended the path.
    have hid : ∀ c ∈ stripEnd id.toList, endsPath c = false := by
      intro c hc
      refine Bool.eq_false_iff.2 fun hends => ?_
      have hsome := isSome_of_endsPath front (.rooted ((resolve (.special port)
        (front.stem [] (x ++ slashed names)) (segmentsOf (.special port)
          (stripEnd id.toList))).map String.ofList)) hc hends []
      rw [List.append_nil, hquery, hfragment] at hsome
      simp at hsome
    obtain rfl := Path.rooted.inj hsegments
    have hresolve : resolve (.special port) (front.stem [] (x ++ slashed names))
        (segmentsOf (.special port) (stripEnd id.toList)) =
          front.stem [] (x ++ slashed names) ++ [segment.toList] := by
      have hlists := congrArg (List.map String.toList) (Path.rooted.inj hpath)
      simpa [Function.comp_def] using hlists
    exact .of_resolve hid hresolve (by simpa using hsegment) (decode?_eq_some_iff.1 hdecode)
  · intro h
    obtain ⟨hstrip, hid, hresolve, hdecode⟩ :=
      h.resolve_eq port (front.stem [] (x ++ slashed names))
    rw [hstrip, hresolve, (takeWhile_of_not_endsPath hid).2]
    refine ⟨rfl, rfl, _, String.ofList (encode pathSet id.toList), rfl, ?_, ?_, ?_⟩
    · exact congrArg Path.rooted (List.map_append ..)
    · intro hempty
      have hnil : encode pathSet id.toList = [] := by simpa using hempty
      rw [hnil] at hdecode
      exact h.ne_nil (utf8_injective hdecode.symm)
    · rw [String.toList_ofList]
      exact decode?_eq_some_iff.2 hdecode

theorem filter_append_slashed (x : List Char) (hnames : IsResource names) :
    (x ++ slashed names).filter (!isBreak ·) = x.filter (!isBreak ·) ++ slashed names := by
  have hbreak := (stripEnd_eq_self_iff.1 (stripEnd_slashed hnames.isSegment)).1
  have hkept : (slashed names).filter (!isBreak ·) = slashed names :=
    List.filter_eq_self.2 fun c hc => by simpa using hbreak c hc
  rw [List.filter_append, hkept]

theorem stripEnd_append_slashed (x : List Char) (hnames : IsResource names) :
    stripEnd (x ++ slashed names) = x.filter (!isBreak ·) ++ slashed names := by
  have hvisible := stripEnd_slashed hnames.isSegment
  obtain ⟨c, q, hcons, -⟩ := hnames.exists_cons
  have hslash : stripEnd ('/' :: c :: q) = '/' :: stripEnd (c :: q) :=
    stripEnd_append_cons (by decide) [] (c :: q)
  rw [hcons] at hvisible ⊢
  rw [stripEnd_append_cons (by decide), ← hslash, hvisible]

/-- **One object on a web server.**  What stands before the names of a collection may hold the beginning
of a query or of a fragment; if it does not, a text appended to the collection is read as one object of
it exactly if it is a whole segment. -/
theorem WebRoot.isObjectOf_iff (w : WebRoot) {r : List Char}
    (hauthority : authority w.scheme w.host = .ok (front, r)) (hx : IsBelow x)
    (hnames : IsResource names) (id : String) :
    ∃ collection u, parse (String.ofList (w.text [] ++ (x ++ slashed names))) = .ok collection ∧
      parse (String.ofList (w.text [] ++ (x ++ slashed names ++ '/' :: id.toList))) = .ok u ∧
      (IsObjectOf collection id u ↔ (∀ c ∈ x, endsPath c = false) ∧ IsWholeSegment id.toList) := by
  obtain ⟨hfront, rfl⟩ := authority_of_isHostChar w.isHostChar hauthority
  obtain ⟨port, hkind⟩ := w.exists_special
  rw [← hfront] at hkind
  have hbelow : IsBelow (x ++ slashed names) := by
    obtain ⟨c, q, hcons, -⟩ := hnames.exists_cons
    rw [hcons]
    exact hx.append (c :: q)
  have hstrip : stripEnd (x ++ slashed names ++ '/' :: id.toList) =
      x.filter (!isBreak ·) ++ slashed names ++ '/' :: stripEnd id.toList := by
    rw [stripEnd_append_cons (by decide), filter_append_slashed x hnames]
  refine ⟨front.withSegments [] (x.filter (!isBreak ·) ++ slashed names),
    front.withSegments [] (x.filter (!isBreak ·) ++ slashed names ++ '/' :: stripEnd id.toList),
    ?_, ?_, ?_⟩
  · rw [w.parse_append hbelow, hauthority, stripEnd_append_slashed x hnames]
    rfl
  · rw [w.parse_append (hbelow.append id.toList), hauthority, hstrip]
    rfl
  · have hkept : (∀ c ∈ x, endsPath c = false) ↔
        ∀ c ∈ x.filter (!isBreak ·), endsPath c = false := by
      refine ⟨fun h c hc => h c (List.mem_filter.1 hc).1, fun h c hc => ?_⟩
      refine Bool.eq_false_iff.2 fun hends => ?_
      have hbreak : isBreak c = false := by
        simp only [endsPath, Bool.or_eq_true, decide_eq_true_eq] at hends
        obtain rfl | rfl := hends <;> rfl
      exact absurd (h c (List.mem_filter.2 ⟨hc, by rw [hbreak]; rfl⟩)) (by simp [hends])
    rw [hkept]
    obtain ⟨c, hc, hends⟩ | hclean := endsPath_cases (x.filter (!isBreak ·))
    · -- Whatever is appended is in the query or in the fragment.
      refine iff_of_false (fun h => ?_) fun h => absurd (h.1 c hc) (by simp [hends])
      obtain ⟨hquery, hfragment, -⟩ := h
      rw [List.append_assoc] at hquery hfragment
      obtain hsome | hsome := isSome_of_endsPath front _ hc hends
        (slashed names ++ '/' :: stripEnd id.toList)
      · exact absurd (hsome.symm.trans (congrArg Option.isSome hquery)) (by decide)
      · exact absurd (hsome.symm.trans (congrArg Option.isSome hfragment)) (by decide)
    · rw [isObjectOf_withSegments_iff hkind hclean hnames, and_iff_right hclean]

end Special

end DocStore.Url
