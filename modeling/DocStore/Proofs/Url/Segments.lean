import Mathlib.Data.List.TakeWhile
import DocStore.Proofs.Url.Extension

/-!
# Plain segments in paths

Segments of letters, digits and a few signs (`Url.IsSegment`) are appended to a text, each after a
slash (`Url.slashed`).  A path keeps them as they are, percent-encoded, whatever stands before them.

* `Url.resolve_append`, `Url.resolve_of_kept` : appended segments end the path, after what the segments
  before them come to (`Url.follow`);
* `Url.withSegments_slashed` : so the path of a URL is a path that does not depend on the appended
  segments (`Url.Front.stem`), and then these;
* `Url.isSome_of_endsPath` : unless a query or a fragment begins before them, and then they are not in
  the path at all.
-/

namespace DocStore.Url

/-! ### Segments after slashes -/

/-- Segments, each after a slash. -/
def slashed (segments : List (List Char)) : List Char := segments.flatMap ('/' :: ·)

@[simp] theorem slashed_nil : slashed [] = [] := rfl

@[simp] theorem slashed_cons (s : List Char) (segments : List (List Char)) :
    slashed (s :: segments) = '/' :: (s ++ slashed segments) := rfl

@[simp] theorem slashed_append (segments more : List (List Char)) :
    slashed (segments ++ more) = slashed segments ++ slashed more :=
  List.flatMap_append

/-- Empty segments are slashes. -/
theorem slashed_replicate_nil (n : Nat) :
    slashed (List.replicate n []) = List.replicate n '/' := by
  induction n with
  | zero => rfl
  | succ n ih => rw [List.replicate_succ, slashed_cons, ih, List.nil_append, List.replicate_succ]

/-- A text does not end in a slash because of segments that are not empty. -/
theorem getLast?_append_slashed {segments : List (List Char)}
    (h : ∀ s ∈ segments, s ≠ [] ∧ '/' ∉ s) {r : List Char} (hr : r.getLast? ≠ some '/') :
    (r ++ slashed segments).getLast? ≠ some '/' := by
  induction segments generalizing r with
  | nil => rwa [slashed_nil, List.append_nil]
  | cons s segments ih =>
    obtain ⟨hne, hslash⟩ := h s List.mem_cons_self
    rw [slashed_cons, ← List.cons_append, ← List.append_assoc]
    refine ih (fun t ht => h t (List.mem_cons_of_mem _ ht)) ?_
    obtain ⟨last, hlast⟩ := Option.isSome_iff_exists.1 (List.getLast?_isSome.2 hne)
    rw [List.getLast?_append, List.getLast?_cons, hlast]
    rintro ⟨⟩
    exact hslash (List.mem_of_getLast? hlast)

theorem isBelow_slashed (segments : List (List Char)) : IsBelow (slashed segments) := by
  cases segments with
  | nil => exact .inl rfl
  | cons s segments => exact .inr ⟨_, rfl⟩

/-- The written form of a path of segments. -/
theorem toList_text_rooted (segments : List (List Char)) :
    (Path.rooted (segments.map String.ofList)).text.toList = slashed segments := by
  simp [Path.text, slashed, List.flatMap_map, Function.comp_def]

theorem encode_append (set : Char → Bool) (s t : List Char) :
    encode set (s ++ t) = encode set s ++ encode set t :=
  List.flatMap_append

theorem encode_slashed (segments : List (List Char)) :
    encode pathSet (slashed segments) = slashed (segments.map (encode pathSet)) := by
  induction segments with
  | nil => rfl
  | cons s segments ih =>
    rw [slashed_cons, List.map_cons, slashed_cons, ← ih, ← encode_append]
    rfl

/-! ### Plain characters, and how they are encoded -/

/-- A character of a plain segment. -/
def isSegmentChar (c : Char) : Bool :=
  c.isAlphanum || ['-', '_', '.', '~'].contains c || 0x7F < c.toNat

/-- What holds of each of the first 128 characters holds of every one below that bound. -/
theorem of_ascii {P : Char → Prop} (h : ∀ n < 128, P (Char.ofNat n)) {c : Char}
    (hc : c.toNat < 128) : P c := by
  have hn := h c.toNat hc
  rwa [Char.ofNat_toNat] at hn

theorem isSegmentChar_cases {c : Char} (h : isSegmentChar c) :
    0x7F < c.toNat ∨ (0x20 < c.toNat ∧ pathSet c = false) := by
  by_cases hc : c.toNat < 128
  · exact .inr (of_ascii (P := fun c => isSegmentChar c → 0x20 < c.toNat ∧ pathSet c = false)
      (by decide +kernel) hc h)
  · exact .inl (by omega)

theorem toNat_of_isSegmentChar {c : Char} (h : isSegmentChar c) : 0x20 < c.toNat := by
  obtain h | h := isSegmentChar_cases h
  · omega
  · exact h.1

theorem ne_of_isSegmentChar {c d : Char} (h : isSegmentChar c) (hd : isSegmentChar d = false) :
    c ≠ d := by
  rintro rfl
  rw [h] at hd
  cases hd

theorem isSlash_eq_false_of_isSegmentChar (kind : SchemeKind) {c : Char} (h : isSegmentChar c) :
    isSlash kind c = false := by
  simp [isSlash, ne_of_isSegmentChar h (d := '/') (by decide),
    ne_of_isSegmentChar h (d := '\\') (by decide)]

theorem endsPath_eq_false_of_isSegmentChar {c : Char} (h : isSegmentChar c) :
    endsPath c = false := by
  simp [endsPath, ne_of_isSegmentChar h (d := '?') (by decide),
    ne_of_isSegmentChar h (d := '#') (by decide)]

theorem isAlphanum_upperHexDigit {n : Nat} (h : n < 16) : (upperHexDigit n).isAlphanum := by
  decide +revert

/-- A byte is written as a percent sign, letters and digits. -/
theorem mem_encodeByte {b : UInt8} {c : Char} (h : c ∈ encodeByte b) :
    c = '%' ∨ c.isAlphanum := by
  have hb : b.toNat < 256 := b.toNat_lt
  simp only [encodeByte, List.mem_cons, List.not_mem_nil, or_false] at h
  obtain rfl | rfl | rfl := h
  · exact .inl rfl
  · exact .inr (isAlphanum_upperHexDigit (by omega))
  · exact .inr (isAlphanum_upperHexDigit (by omega))

theorem mem_encode {set : Char → Bool} {s : List Char} {c : Char} (h : c ∈ encode set s) :
    c ∈ s ∨ c = '%' ∨ c.isAlphanum := by
  obtain ⟨d, hd, hc⟩ := List.mem_flatMap.1 h
  unfold encodeChar at hc
  split at hc
  · obtain ⟨b, -, hb⟩ := List.mem_flatMap.1 hc
    exact .inr (mem_encodeByte hb)
  · obtain rfl := List.mem_singleton.1 hc
    exact .inl hd

/-- The first byte of a character beyond ASCII has a high first digit. -/
theorem encodeChar_of_nonAscii {c : Char} (hc : 0x7F < c.toNat) :
    ∃ b : UInt8, 0xC0 ≤ b.toNat ∧ ∃ rest, encodeChar pathSet c = encodeByte b ++ rest := by
  have hset : pathSet c = true := by
    have : 0x7E < c.toNat := by omega
    simp [pathSet, fragmentSet, controlSet, this]
  have hnat : ¬c.val.toNat ≤ 127 := Nat.not_le.2 hc
  rw [encodeChar, if_pos hset, String.utf8EncodeChar]
  simp only [hnat, if_false]
  split
  · refine ⟨_, ?_, _, rfl⟩
    simp
    omega
  · split
    · refine ⟨_, ?_, _, rfl⟩
      simp
      omega
    · refine ⟨_, ?_, _, rfl⟩
      simp
      omega

/-! ### Segments that a path keeps -/

/-- A segment that a path keeps as it is. -/
structure IsKept (s : List Char) : Prop where
  single : isSingleDot s = false
  double : isDoubleDot s = false
  drive : isDriveLetter s = false

/-- A plain segment, which may be empty. -/
structure IsSegment (s : List Char) : Prop where
  chars : ∀ c ∈ s, isSegmentChar c
  single : isSingleDot (encode pathSet s) = false
  double : isDoubleDot (encode pathSet s) = false

theorem isSegment_nil : IsSegment [] := ⟨nofun, rfl, rfl⟩

theorem IsSegment.encode_ne_nil {s : List Char} (h : IsSegment s) (hs : s ≠ []) :
    encode pathSet s ≠ [] := by
  obtain ⟨c, s, rfl⟩ := List.exists_cons_of_ne_nil hs
  rw [show encode pathSet (c :: s) = encodeChar pathSet c ++ encode pathSet s from rfl]
  refine List.append_ne_nil_of_left_ne_nil ?_ _
  obtain hascii | ⟨-, hset⟩ := isSegmentChar_cases (h.chars c List.mem_cons_self)
  · obtain ⟨b, -, rest, hencode⟩ := encodeChar_of_nonAscii hascii
    rw [hencode]
    exact List.cons_ne_nil _ _
  · simp [encodeChar, hset]

theorem IsSegment.kept {s : List Char} (h : IsSegment s) : IsKept (encode pathSet s) := by
  refine ⟨h.single, h.double, ?_⟩
  -- The second character of a drive letter's segment is neither plain nor one of an encoding.
  have hnot : ∀ d, d = ':' ∨ d = '|' → d ∉ encode pathSet s := by
    intro d hd hmem
    obtain hmem | rfl | hmem := mem_encode hmem
    · have := h.chars d hmem
      obtain rfl | rfl := hd <;> exact absurd this (by decide)
    · obtain hd | hd := hd <;> exact absurd hd (by decide)
    · obtain rfl | rfl := hd <;> exact absurd hmem (by decide)
  unfold isDriveLetter
  split
  · rename_i c d hs
    refine Bool.eq_false_iff.2 fun hdrive => hnot d ?_ (by rw [hs]; simp)
    simp only [Bool.and_eq_true, Bool.or_eq_true, decide_eq_true_eq] at hdrive
    exact hdrive.2
  · rfl

/-- A letter or digit, of whatever script. -/
def isNameChar (c : Char) : Bool := c.isAlphanum || 0x7F < c.toNat

theorem isSegmentChar_of_isNameChar {c : Char} (h : isNameChar c) : isSegmentChar c := by
  simp only [isNameChar, isSegmentChar, Bool.or_eq_true] at h ⊢
  exact h.imp .inl id

theorem toLower_upperHexDigit_ne (n : Nat) (h : n < 16) (hn : 12 ≤ n) :
    (upperHexDigit n).toLower ≠ '2' := by
  decide +revert

/-- A segment that names a directory begins with a point, or with one that is encoded. -/
theorem head_of_isDot {c : Char} {s : List Char}
    (h : isSingleDot (c :: s) = true ∨ isDoubleDot (c :: s) = true) :
    c.toLower = '.' ∨ c.toLower = '%' ∧ ∃ d t, s = d :: t ∧ d.toLower = '2' := by
  simp only [isSingleDot, isDoubleDot, List.map_cons, List.contains_iff_mem, List.mem_cons,
    List.cons.injEq, List.not_mem_nil, or_false, List.map_eq_cons_iff, List.map_eq_nil_iff] at h
  rcases h with (⟨h, -⟩ | ⟨h, d, t, rfl, hd, -⟩) |
    (⟨h, -⟩ | ⟨h, -⟩ | ⟨h, d, t, rfl, hd, -⟩ | ⟨h, d, t, rfl, hd, -⟩)
  · exact .inl h
  · exact .inr ⟨h, d, t, rfl, hd⟩
  · exact .inl h
  · exact .inl h
  · exact .inr ⟨h, d, t, rfl, hd⟩
  · exact .inr ⟨h, d, t, rfl, hd⟩

theorem toNat_lt_of_isAlphanum {c : Char} (h : c.isAlphanum) : c.toNat < 128 := by
  have hlt (d : Char) (hd : d.toNat < 128) (hc : c.val ≤ d.val) : c.toNat < 128 :=
    Nat.lt_of_le_of_lt (UInt32.le_iff_toNat_le.1 hc) hd
  obtain hletter | hdigit := Bool.or_eq_true_iff.1 (h : (c.isAlpha || c.isDigit) = true)
  · obtain hupper | hlower := Bool.or_eq_true_iff.1 (hletter : (c.isUpper || c.isLower) = true)
    · exact hlt 'Z' (by decide) (of_decide_eq_true hupper).2
    · exact hlt 'z' (by decide) (of_decide_eq_true (Bool.and_eq_true_iff.1 hlower).2)
  · exact hlt '9' (by decide) (of_decide_eq_true (Bool.and_eq_true_iff.1 hdigit).2)

theorem toLower_ne_of_isAlphanum {c : Char} (h : c.isAlphanum) :
    c.toLower ≠ '.' ∧ c.toLower ≠ '%' :=
  of_ascii (P := fun c => c.isAlphanum → c.toLower ≠ '.' ∧ c.toLower ≠ '%') (by decide +kernel)
    (toNat_lt_of_isAlphanum h) h

/-- A name of letters and digits is a plain segment. -/
theorem isSegment_of_name {s : List Char} (hname : s.all isNameChar) : IsSegment s := by
  have h : ∀ c ∈ s, isNameChar c := List.all_eq_true.1 hname
  have hdot : ¬(isSingleDot (encode pathSet s) = true ∨ isDoubleDot (encode pathSet s) = true) := by
    cases s with
    | nil => decide
    | cons c s =>
      rw [show encode pathSet (c :: s) = encodeChar pathSet c ++ encode pathSet s from rfl]
      intro hdot
      have hc := h c List.mem_cons_self
      by_cases hascii : 0x7F < c.toNat
      · obtain ⟨b, hb, rest, hencode⟩ := encodeChar_of_nonAscii hascii
        rw [hencode] at hdot
        obtain hpoint | ⟨-, d, t, hs, hd⟩ := head_of_isDot hdot
        · exact absurd hpoint (by decide)
        · obtain ⟨rfl, -⟩ := List.cons.inj hs
          have hlt := b.toNat_lt
          exact absurd hd (toLower_upperHexDigit_ne _ (by omega) (by omega))
      · have halphanum : c.isAlphanum := by simpa [isNameChar, hascii] using hc
        have hset : pathSet c = false :=
          ((isSegmentChar_cases (isSegmentChar_of_isNameChar hc)).resolve_left hascii).2
        rw [encodeChar, if_neg (by simp [hset])] at hdot
        obtain hpoint | ⟨hpercent, -⟩ := head_of_isDot hdot
        · exact (toLower_ne_of_isAlphanum halphanum).1 hpoint
        · exact (toLower_ne_of_isAlphanum halphanum).2 hpercent
  rw [not_or, Bool.not_eq_true, Bool.not_eq_true] at hdot
  exact ⟨fun c hc => isSegmentChar_of_isNameChar (h c hc), hdot.1, hdot.2⟩

/-! ### Segments at the end of a path -/

/-- The path after one more segment that is not the last one. -/
def follow (kind : SchemeKind) (path : List (List Char)) (segment : List Char) :
    List (List Char) :=
  if isDoubleDot segment then parent path
  else if isSingleDot segment then path
  else path ++ [if kind = .file ∧ path = [] ∧ isDriveLetter segment then segment.take 1 ++ [':']
    else segment]

/-- Segments before others are followed one by one. -/
theorem resolve_append (kind : SchemeKind) (path segments : List (List Char))
    {more : List (List Char)} (hmore : more ≠ []) :
    resolve kind path (segments ++ more) =
      resolve kind (segments.foldl (follow kind) path) more := by
  induction segments generalizing path with
  | nil => rfl
  | cons s segments ih =>
    have hlast : (segments ++ more).isEmpty = false := by simp [hmore]
    rw [List.cons_append, resolve, List.foldl_cons, ← ih]
    simp only [hlast, follow]
    split
    · simp
    · split <;> simp

theorem resolve_of_kept (kind : SchemeKind) (path : List (List Char))
    {segments : List (List Char)} (h : ∀ s ∈ segments, IsKept s) :
    resolve kind path segments = path ++ segments := by
  induction segments generalizing path with
  | nil => rw [resolve, List.append_nil]
  | cons s segments ih =>
    have hs := h s List.mem_cons_self
    rw [resolve, hs.single, hs.double, hs.drive]
    simp only [Bool.false_eq_true, and_false, if_false]
    rw [ih _ fun t ht => h t (List.mem_cons_of_mem _ ht), List.append_assoc, List.singleton_append]

theorem IsSegment.splitOnP_eq {s : List Char} (h : IsSegment s) (kind : SchemeKind) :
    s.splitOnP (isSlash kind) = [s] :=
  List.splitOnP_eq_singleton fun c hc => isSlash_eq_false_of_isSegmentChar kind (h.chars c hc)

theorem splitOnP_slashed (kind : SchemeKind) (r : List Char) {segments : List (List Char)}
    (h : ∀ s ∈ segments, IsSegment s) :
    (r ++ slashed segments).splitOnP (isSlash kind) = r.splitOnP (isSlash kind) ++ segments := by
  induction segments generalizing r with
  | nil => rw [slashed_nil, List.append_nil, List.append_nil]
  | cons s segments ih =>
    rw [slashed_cons, List.splitOnP_append_cons _ _ (by simp [isSlash]),
      ih _ fun t ht => h t (List.mem_cons_of_mem _ ht), (h s List.mem_cons_self).splitOnP_eq,
      List.singleton_append]

theorem endsPath_slashed {segments : List (List Char)} (h : ∀ s ∈ segments, IsSegment s) :
    ∀ c ∈ slashed segments, endsPath c = false := by
  intro c hc
  obtain ⟨s, hs, hc⟩ := List.mem_flatMap.1 hc
  rcases List.mem_cons.1 hc with rfl | hc
  · rfl
  · exact endsPath_eq_false_of_isSegmentChar ((h s hs).chars c hc)

theorem takeWhile_of_not_endsPath {r : List Char} (hr : ∀ c ∈ r, endsPath c = false) :
    r.takeWhile (!endsPath ·) = r ∧ r.dropWhile (!endsPath ·) = [] := by
  have hall : ∀ c ∈ r, (!endsPath c) = true := fun c hc => by rw [hr c hc]; rfl
  exact ⟨List.takeWhile_eq_self_iff.2 hall, List.dropWhile_eq_nil_iff.2 hall⟩

/-- The segments that are written in a text with others appended; an empty text has none itself. -/
theorem writtenSegments_slashed (kind : SchemeKind) {r : List Char}
    (hr : ∀ c ∈ r, endsPath c = false) {segments : List (List Char)} (hne : segments ≠ [])
    (h : ∀ s ∈ segments, IsSegment s) :
    writtenSegments kind (r ++ slashed segments) =
      (if r = [] then [] else writtenSegments kind r) ++ segments.map (encode pathSet) := by
  have hwhole : ∀ c ∈ r ++ slashed segments, endsPath c = false := fun c hc =>
    (List.mem_append.1 hc).elim (hr c) (endsPath_slashed h c)
  simp only [writtenSegments, (takeWhile_of_not_endsPath hwhole).1, (takeWhile_of_not_endsPath hr).1]
  cases r with
  | nil =>
    obtain ⟨s, segments, rfl⟩ := List.exists_cons_of_ne_nil hne
    have hrest := splitOnP_slashed kind s fun t ht => h t (List.mem_cons_of_mem _ ht)
    have hslash : isSlash kind '/' = true := by simp [isSlash]
    simp only [List.nil_append, slashed_cons, hslash, if_true, hrest,
      (h s List.mem_cons_self).splitOnP_eq, List.singleton_append]
  | cons c r =>
    simp only [List.cons_append, reduceCtorEq, if_false]
    split
    · rw [splitOnP_slashed kind r h, List.map_append]
    · rw [← List.cons_append, splitOnP_slashed kind (c :: r) h, List.map_append]

theorem rooted_append (kind : SchemeKind) (path : List (List Char)) {segments : List (List Char)}
    (hne : segments ≠ []) (hfile : kind = .file → ∀ s ∈ segments, s ≠ []) :
    rooted kind (path ++ segments) =
      .rooted (((if kind = .file then path.dropWhile List.isEmpty else path) ++ segments).map
        String.ofList) := by
  by_cases hkind : kind = .file
  · obtain ⟨s, segments, rfl⟩ := List.exists_cons_of_ne_nil hne
    have hs : s.isEmpty = false := by simpa using hfile hkind s List.mem_cons_self
    have hdrop : (path ++ s :: segments).dropWhile List.isEmpty =
        path.dropWhile List.isEmpty ++ s :: segments := by
      rw [List.dropWhile_append, List.dropWhile_cons_of_neg (by simp [hs])]
      split
      · rename_i hnil
        rw [List.isEmpty_iff.1 hnil, List.nil_append]
      · rfl
    simp only [rooted, if_pos hkind, hdrop]
    split
    · rename_i hnil
      simp at hnil
    · rfl
  · simp only [rooted, if_neg hkind]

/-- The path before the segments that are appended to a text. -/
def Front.stem (front : Front) (path : List (List Char)) (r : List Char) : List (List Char) :=
  let kind := SchemeKind.ofScheme front.scheme
  let followed := (if r = [] then [] else writtenSegments kind r).foldl (follow kind) path
  if kind = .file then followed.dropWhile List.isEmpty else followed

/-- **Appended segments end the path.**  Nothing else of the URL depends on them. -/
theorem withSegments_slashed (front : Front) (path : List (List Char)) {r : List Char}
    (hr : ∀ c ∈ r, endsPath c = false) {segments : List (List Char)} (hne : segments ≠ [])
    (h : ∀ s ∈ segments, IsSegment s)
    (hfile : SchemeKind.ofScheme front.scheme = .file → ∀ s ∈ segments, s ≠ []) :
    front.withSegments path (r ++ slashed segments) =
      front.build
        (.rooted ((front.stem path r ++ segments.map (encode pathSet)).map String.ofList)) [] := by
  have hwhole : ∀ c ∈ r ++ slashed segments, endsPath c = false := fun c hc =>
    (List.mem_append.1 hc).elim (hr c) (endsPath_slashed h c)
  have hencoded : segments.map (encode pathSet) ≠ [] := by simpa using hne
  have hkept : ∀ s ∈ segments.map (encode pathSet), IsKept s := by
    intro s hs
    obtain ⟨t, ht, rfl⟩ := List.mem_map.1 hs
    exact (h t ht).kept
  have hhead : (r ++ slashed segments).head?.all endsPath = false := by
    obtain ⟨s, segments, rfl⟩ := List.exists_cons_of_ne_nil hne
    cases r with
    | nil => rfl
    | cons c r => simpa using hr c List.mem_cons_self
  simp only [Front.withSegments, hhead, Bool.false_eq_true, and_false, if_false,
    writtenSegments_slashed _ hr hne h, resolve_append _ _ _ hencoded, resolve_of_kept _ _ hkept,
    (takeWhile_of_not_endsPath hwhole).2, Front.stem]
  rw [rooted_append _ _ hencoded]
  intro hkind s hs
  obtain ⟨t, ht, rfl⟩ := List.mem_map.1 hs
  exact (h t ht).encode_ne_nil (hfile hkind t ht)

/-- A query or a fragment that begins before what is appended takes it in. -/
theorem isSome_of_endsPath (front : Front) (path : Path) {r : List Char} {c : Char} (hc : c ∈ r)
    (hends : endsPath c = true) (q : List Char) :
    (front.build path ((r ++ q).dropWhile (!endsPath ·))).query.isSome ∨
      (front.build path ((r ++ q).dropWhile (!endsPath ·))).fragment.isSome := by
  have hleft : r.dropWhile (!endsPath ·) ≠ [] := by
    rw [ne_eq, List.dropWhile_eq_nil_iff]
    exact fun hall => absurd (hall c hc) (by simp [hends])
  obtain ⟨d, t, hdrop⟩ := List.exists_cons_of_ne_nil hleft
  have hd : endsPath d = true := by
    have hhead := List.head_dropWhile_not (!endsPath ·) hleft
    simpa [hdrop] using hhead
  simp only [Front.build, List.dropWhile_append, hdrop, List.isEmpty_cons, Bool.false_eq_true,
    if_false, List.cons_append]
  simp only [endsPath, Bool.or_eq_true, decide_eq_true_eq] at hd
  obtain rfl | rfl := hd
  · exact .inl rfl
  · exact .inr rfl

end DocStore.Url
