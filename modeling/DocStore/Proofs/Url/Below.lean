import DocStore.Proofs.Url.Segments

/-!
# What a text with a path appended is read as

Plain segments are appended to a text (`Url.IsResource`).  Nothing of the URL depends on them but the
end of its path, which they are, or else a query or a fragment takes them in whichever they are
(`Url.Reading`).  So what one resource shows of a text holds of all of them.

* `Url.withSegments_reading`, `Url.withAuthority_reading`, `Url.file_reading`, `Url.other_reading` : each
  stage of reading a URL is such a reading;
* `Url.parse_reading` : and so is the whole, if the text says where the path begins (`Url.Settles`).
-/

namespace DocStore.Url

/-- Plain segments that name a resource. -/
structure IsResource (segments : List (List Char)) : Prop where
  ne_nil : segments ≠ []
  isSegment : ∀ s ∈ segments, IsSegment s
  segment_ne_nil : ∀ s ∈ segments, s ≠ []

/-- A URL with neither query nor fragment at a path of a server. -/
structure IsAt (front : Front) (path : List Char) (u : Url) : Prop where
  scheme : u.scheme = front.scheme
  host : u.host = front.host
  port : u.port = front.port
  query : u.query = none
  fragment : u.fragment = none
  path : u.path.text.toList = path

/-- What texts that end in a resource are read as: never a URL with the resource in its path, or always
one, on the same server and below the same path. -/
inductive Reading (read : List Char → Except UrlError Url) : Prop
  | never (h : ∀ segments, IsResource segments → ∀ u, read (slashed segments) = .ok u →
      u.query.isSome ∨ u.fragment.isSome)
  | always (front : Front) (stem : List Char) (h : ∀ segments, IsResource segments →
      ∃ u, read (slashed segments) = .ok u ∧
        IsAt front (stem ++ encode pathSet (slashed segments)) u)

theorem Reading.congr {read read' : List Char → Except UrlError Url} (h : Reading read)
    (heq : ∀ segments, IsResource segments → read' (slashed segments) = read (slashed segments)) :
    Reading read' := by
  cases h with
  | never h => exact .never fun segments hs u hu => h segments hs u ((heq segments hs).symm.trans hu)
  | always front stem h =>
    refine .always front stem fun segments hs => ?_
    obtain ⟨u, hu, hat⟩ := h segments hs
    exact ⟨u, (heq segments hs).trans hu, hat⟩

theorem reading_error (e : UrlError) : Reading fun _ => .error e :=
  .never fun _ _ _ h => nomatch h

/-- A resource begins with a slash and a plain character. -/
theorem IsResource.exists_cons {segments : List (List Char)} (h : IsResource segments) :
    ∃ c q, slashed segments = '/' :: c :: q ∧ isSegmentChar c := by
  obtain ⟨s, segments, rfl⟩ := List.exists_cons_of_ne_nil h.ne_nil
  obtain ⟨c, s, rfl⟩ := List.exists_cons_of_ne_nil (h.segment_ne_nil s List.mem_cons_self)
  exact ⟨c, s ++ slashed segments, rfl, (h.isSegment _ List.mem_cons_self).chars c List.mem_cons_self⟩

/-! ### Paths -/

/-- A query or a fragment begins in a text, or not. -/
theorem endsPath_cases (r : List Char) :
    (∃ c ∈ r, endsPath c = true) ∨ ∀ c ∈ r, endsPath c = false := by
  by_cases h : ∃ c ∈ r, endsPath c = true
  · exact .inl h
  · exact .inr fun c hc => Bool.eq_false_iff.2 fun hends => h ⟨c, hc, hends⟩

theorem withSegments_reading (front : Front) (path : List (List Char)) (r : List Char) :
    Reading fun q => .ok (front.withSegments path (r ++ q)) := by
  obtain ⟨c, hc, hends⟩ | hclean := endsPath_cases r
  · refine .never fun segments _ u hu => ?_
    cases hu
    exact isSome_of_endsPath front _ hc hends _
  · refine .always front (slashed (front.stem path r)) fun segments hs => ⟨_, rfl, ?_⟩
    rw [withSegments_slashed front path hclean hs.ne_nil hs.isSegment fun _ => hs.segment_ne_nil]
    refine ⟨rfl, rfl, rfl, rfl, rfl, ?_⟩
    rw [encode_slashed, ← slashed_append]
    exact toList_text_rooted _

/-- Plain characters are encoded alike in every path. -/
theorem encode_controlSet_slashed {segments : List (List Char)}
    (h : ∀ s ∈ segments, IsSegment s) :
    encode controlSet (slashed segments) = encode pathSet (slashed segments) := by
  have hset : ∀ c ∈ slashed segments, controlSet c = pathSet c := by
    intro c hc
    obtain ⟨s, hs, hc⟩ := List.mem_flatMap.1 hc
    rcases List.mem_cons.1 hc with rfl | hc
    · rfl
    · obtain hascii | ⟨-, hpath⟩ := isSegmentChar_cases ((h s hs).chars c hc)
      · have hcontrol : controlSet c = true := by simp [controlSet]; omega
        simp [pathSet, fragmentSet, hcontrol]
      · rw [hpath]
        simp only [pathSet, fragmentSet, Bool.or_eq_false_iff] at hpath
        exact hpath.1.1
  unfold encode
  rw [List.flatMap_def, List.flatMap_def]
  refine congrArg List.flatten (List.map_congr_left fun c hc => ?_)
  rw [encodeChar, encodeChar, hset c hc]

theorem rootless_reading (scheme : String) (s : List Char) :
    Reading fun q => .ok (Front.build { scheme }
      (.rootless (String.ofList (encode controlSet ((s ++ q).takeWhile (!endsPath ·)))))
      ((s ++ q).dropWhile (!endsPath ·))) := by
  obtain ⟨c, hc, hends⟩ | hclean := endsPath_cases s
  · refine .never fun segments _ u hu => ?_
    cases hu
    exact isSome_of_endsPath _ _ hc hends _
  · refine .always { scheme } (encode controlSet s) fun segments hsegments => ⟨_, rfl, ?_⟩
    have hwhole : ∀ c ∈ s ++ slashed segments, endsPath c = false := fun c hc =>
      (List.mem_append.1 hc).elim (hclean c) (endsPath_slashed hsegments.isSegment c)
    rw [(takeWhile_of_not_endsPath hwhole).1, (takeWhile_of_not_endsPath hwhole).2, encode_append,
      encode_controlSet_slashed hsegments.isSegment]
    exact ⟨rfl, rfl, rfl, rfl, rfl, String.toList_ofList⟩

/-! ### Authorities -/

theorem withAuthority_reading (scheme : String) (s : List Char) :
    Reading fun q => withAuthority scheme (s ++ q) := by
  have heq : ∀ segments, IsResource segments → withAuthority scheme (s ++ slashed segments) =
      (authority scheme s).map fun read => read.1.withSegments [] (read.2 ++ slashed segments) := by
    intro segments hsegments
    refine withAuthority_eq_authority scheme s (isBelow_slashed segments) fun hnil => ?_
    obtain ⟨c, q, hcons, -⟩ := hsegments.exists_cons
    cases hnil.symm.trans hcons
  cases hauthority : authority scheme s with
  | error e =>
    refine (reading_error e).congr fun segments hsegments => ?_
    rw [heq segments hsegments, hauthority]
    rfl
  | ok read =>
    refine (withSegments_reading read.1 [] read.2).congr fun segments hsegments => ?_
    rw [heq segments hsegments, hauthority]
    rfl

/-! ### Files -/

theorem remoteFile_reading (host : Host) (r : List Char) :
    Reading fun q => .ok (remoteFile host (r ++ q)) := by
  obtain ⟨c, hc, hends⟩ | hclean := endsPath_cases r
  · refine .never fun segments _ u hu => ?_
    cases hu
    exact isSome_of_endsPath _ _ hc hends _
  · -- Whether the path begins with a drive letter is decided before the resource.
    let path := (if r = [] then [] else writtenSegments .file r).foldl (follow .file) []
    let host' := if path.head?.any isDriveLetter then Host.empty else host
    refine (withSegments_reading { scheme := "file", host := some host' } [] r).congr
      fun segments hsegments => ?_
    have hne : segments.map (encode pathSet) ≠ [] := by simpa using hsegments.ne_nil
    have hkept : ∀ s ∈ segments.map (encode pathSet), IsKept s := by
      intro s hs
      obtain ⟨t, ht, rfl⟩ := List.mem_map.1 hs
      exact (hsegments.isSegment t ht).kept
    have hdrive : (path ++ segments.map (encode pathSet)).head?.any isDriveLetter =
        path.head?.any isDriveLetter := by
      obtain ⟨s, rest, hcons⟩ := List.exists_cons_of_ne_nil hne
      rw [hcons] at hkept ⊢
      cases path with
      | nil => exact (hkept s List.mem_cons_self).drive
      | cons t path => rfl
    simp only [remoteFile, writtenSegments_slashed .file hclean hsegments.ne_nil hsegments.isSegment,
      resolve_append _ _ _ hne, resolve_of_kept _ _ hkept]
    rw [show List.head? (path ++ segments.map (encode pathSet)) = _ from rfl, hdrive]

theorem fileWithHost_reading (s : List Char) : Reading fun q => fileWithHost (s ++ q) := by
  let text := s.takeWhile (!endsAuthority .file ·)
  let rest := s.dropWhile (!endsAuthority .file ·)
  have heq : ∀ segments, fileWithHost (s ++ slashed segments) =
      if isDriveLetter text then .ok (localFile false (s ++ slashed segments))
      else if text.isEmpty then .ok (localFile true (rest ++ slashed segments))
      else (Host.ofText text).map fun host =>
        if host = .domain "localhost" then localFile true (rest ++ slashed segments)
        else remoteFile host (rest ++ slashed segments) := by
    intro segments
    have hslash : (!endsAuthority .file '/') = false := by simp [endsAuthority_slash]
    have htake := (isBelow_slashed segments).takeWhile_append (s := s)
      (p := (!endsAuthority .file ·)) hslash
    have hdrop := (isBelow_slashed segments).dropWhile_append (s := s)
      (p := (!endsAuthority .file ·)) hslash
    simp only [fileWithHost, htake, hdrop]
    rfl
  by_cases hdrive : isDriveLetter text
  · exact (withSegments_reading { scheme := "file", host := some .empty } [] s).congr
      fun segments _ => by rw [heq, if_pos hdrive]; rfl
  · by_cases hempty : text.isEmpty
    · exact (withSegments_reading { scheme := "file", host := some .empty } [[]] rest).congr
        fun segments _ => by rw [heq, if_neg hdrive, if_pos hempty]; rfl
    · cases hhost : Host.ofText text with
      | error e =>
        exact (reading_error e).congr fun segments _ => by
          rw [heq, if_neg hdrive, if_neg hempty, hhost]
          rfl
      | ok host =>
        by_cases hlocal : host = .domain "localhost"
        · exact (withSegments_reading { scheme := "file", host := some .empty } [[]] rest).congr
            fun segments _ => by
              rw [heq, if_neg hdrive, if_neg hempty, hhost, Except.map, if_pos hlocal]
              rfl
        · exact (remoteFile_reading host rest).congr fun segments _ => by
            rw [heq, if_neg hdrive, if_neg hempty, hhost, Except.map, if_neg hlocal]

theorem file_reading {s : List Char} (hs : ∀ c, s = [c] → isSlash .file c = false) :
    Reading fun q => file (s ++ q) := by
  match s, hs with
  | [], _ =>
    refine (withSegments_reading { scheme := "file", host := some .empty } [] []).congr
      fun segments hsegments => ?_
    obtain ⟨c, q, hcons, hc⟩ := hsegments.exists_cons
    simp [hcons, file, isSlash_eq_false_of_isSegmentChar .file hc, localFile]
  | [a], hs =>
    refine (withSegments_reading { scheme := "file", host := some .empty } [] [a]).congr
      fun segments hsegments => ?_
    obtain ⟨c, q, hcons, -⟩ := hsegments.exists_cons
    simp [hcons, file, hs a rfl, localFile]
  | a :: b :: s, _ =>
    by_cases hab : isSlash .file a && isSlash .file b
    · exact (fileWithHost_reading s).congr fun segments _ => if_pos hab
    · exact (withSegments_reading { scheme := "file", host := some .empty } [] (a :: b :: s)).congr
        fun segments _ => if_neg hab

theorem other_reading (scheme : String) {s : List Char} (hs : s ≠ ['/']) :
    Reading fun q => other scheme (s ++ q) := by
  cases s with
  | nil =>
    refine (withSegments_reading { scheme } [] []).congr fun segments hsegments => ?_
    obtain ⟨c, q, hcons, hc⟩ := hsegments.exists_cons
    simp [hcons, other, ne_of_isSegmentChar hc (d := '/') (by decide)]
  | cons c s =>
    by_cases hc : c = '/'
    · subst hc
      cases s with
      | nil => exact absurd rfl hs
      | cons d s =>
        by_cases hd : d = '/'
        · subst hd
          exact withAuthority_reading scheme s
        · refine (withSegments_reading { scheme } [] ('/' :: d :: s)).congr fun segments _ => ?_
          simp [other, hd]
    · refine (rootless_reading scheme (c :: s)).congr fun segments _ => ?_
      simp [other, hc]

/-! ### Whole texts -/

/-- The text after a scheme says where the path begins that is appended to it. -/
def Settles (kind : SchemeKind) (rest : List Char) : Prop :=
  match kind with
  | .special _ => rest.dropWhile (isSlash kind) ≠ []
  | _ => ∀ c, rest = [c] → isSlash kind c = false

/-- A text without what `strip` passes over at its start and inside. -/
def stripStart (s : List Char) : List Char :=
  (s.dropWhile (·.toNat ≤ 0x20)).filter (!isBreak ·)

/-- Nothing is passed over in visible characters. -/
theorem stripEnd_append_of_visible {s : List Char} (h : ∀ c ∈ s, 0x20 < c.toNat) (q : List Char) :
    stripEnd (s ++ q) = s ++ stripEnd q := by
  induction s with
  | nil => rfl
  | cons c s ih =>
    have hcons := stripEnd_append_cons (h c List.mem_cons_self) [] (s ++ q)
    rw [ih fun d hd => h d (List.mem_cons_of_mem _ hd)] at hcons
    exact hcons

theorem stripEnd_of_visible {s : List Char} (h : ∀ c ∈ s, 0x20 < c.toNat) : stripEnd s = s := by
  have hnil := stripEnd_append_of_visible h []
  rwa [List.append_nil, show stripEnd [] = [] from rfl, List.append_nil] at hnil

theorem toNat_of_mem_slashed {segments : List (List Char)} (h : ∀ s ∈ segments, IsSegment s)
    {c : Char} (hc : c ∈ slashed segments) : 0x20 < c.toNat := by
  obtain ⟨s, hs, hc⟩ := List.mem_flatMap.1 hc
  rcases List.mem_cons.1 hc with rfl | hc
  · decide
  · exact toNat_of_isSegmentChar ((h s hs).chars c hc)

theorem stripEnd_slashed {segments : List (List Char)} (h : ∀ s ∈ segments, IsSegment s) :
    stripEnd (slashed segments) = slashed segments :=
  stripEnd_of_visible fun _ hc => toNat_of_mem_slashed h hc

theorem strip_append_slashed (s : List Char) {segments : List (List Char)}
    (h : IsResource segments) :
    strip (s ++ slashed segments) = stripStart s ++ slashed segments := by
  obtain ⟨c, q, hcons, -⟩ := h.exists_cons
  have hvisible : ∀ d ∈ c :: q, 0x20 < d.toNat := fun d hd =>
    toNat_of_mem_slashed h.isSegment (hcons ▸ List.mem_cons_of_mem _ hd)
  rw [hcons, strip_append_cons (by decide), stripEnd_of_visible hvisible]
  rfl

/-- The URL of a scheme and the text after its colon. -/
def afterScheme (scheme : String) (rest : List Char) : Except UrlError Url :=
  match SchemeKind.ofScheme scheme with
  | .special _ => withAuthority scheme (rest.dropWhile (isSlash (.ofScheme scheme)))
  | .file => file rest
  | .other => other scheme rest

theorem parse_of_splitScheme? {text scheme : String} {rest : List Char}
    (h : splitScheme? (strip text.toList) = some (scheme, rest)) :
    parse text = afterScheme scheme rest := by
  rw [parse, h]
  rfl

theorem afterScheme_reading {scheme : String} {rest : List Char}
    (h : Settles (.ofScheme scheme) rest) : Reading fun q => afterScheme scheme (rest ++ q) := by
  cases hkind : SchemeKind.ofScheme scheme with
  | special port =>
    rw [hkind] at h
    refine (withAuthority_reading scheme (rest.dropWhile (isSlash (.special port)))).congr
      fun segments _ => ?_
    simp only [afterScheme, hkind, List.dropWhile_append, List.isEmpty_eq_false_iff.2 h]
    rfl
  | file =>
    rw [hkind] at h
    refine (file_reading h).congr fun segments _ => ?_
    simp only [afterScheme, hkind]
  | other =>
    rw [hkind] at h
    have hslash : rest ≠ ['/'] := fun heq => absurd (h '/' heq) (by decide)
    refine (other_reading scheme hslash).congr fun segments _ => ?_
    simp only [afterScheme, hkind]

/-- **What a text with a resource appended is read as**, if the text says where the path begins. -/
theorem parse_reading {s : List Char}
    (hs : ∀ scheme rest, splitScheme? (stripStart s) = some (scheme, rest) →
      Settles (.ofScheme scheme) rest) :
    Reading fun q => parse (String.ofList (s ++ q)) := by
  have hstrip : ∀ segments, IsResource segments →
      strip (String.ofList (s ++ slashed segments)).toList = stripStart s ++ slashed segments := by
    intro segments hsegments
    rw [String.toList_ofList, strip_append_slashed s hsegments]
  cases hsplit : splitScheme? (stripStart s) with
  | none =>
    refine (reading_error .noScheme).congr fun segments hsegments => ?_
    rw [parse, hstrip segments hsegments, splitScheme?_append _ (isBelow_slashed segments), hsplit]
    rfl
  | some split =>
    refine (afterScheme_reading (hs split.1 split.2 hsplit)).congr fun segments hsegments => ?_
    refine parse_of_splitScheme? ?_
    rw [hstrip segments hsegments, splitScheme?_append _ (isBelow_slashed segments), hsplit]
    rfl

end DocStore.Url
