import DocStore.Url.Parser

/-!
# URLs and the paths below them

Whether a text can be read as a URL is decided by its scheme and authority.  So **a longer path does
not make a difference** (`Url.parse_append`): if a text ends plainly, as in a letter, then it can be
read exactly if it can be with a slash and anything else appended.

What stands before a path can be read by itself (`Url.authority`), and then the path follows
(`Url.withAuthority_eq_authority`).

The plain end keeps what is appended apart from the authority: after a colon a slash could begin one,
and after an `@` it would be the empty host that is refused.
-/

namespace DocStore.Url

/-- What may be appended to a path: nothing, or something after a slash. -/
def IsBelow (q : List Char) : Prop := q = [] ∨ ∃ q', q = '/' :: q'

theorem IsBelow.append {q : List Char} (hq : IsBelow q) (r : List Char) :
    IsBelow (q ++ '/' :: r) := by
  obtain rfl | ⟨q', rfl⟩ := hq
  · exact .inr ⟨r, rfl⟩
  · exact .inr ⟨q' ++ '/' :: r, rfl⟩

variable {p : Char → Bool} {s q : List Char}

theorem takeWhile_append_cons {c : Char} (hc : p c = false) (s q : List Char) :
    (s ++ c :: q).takeWhile p = s.takeWhile p := by
  induction s with
  | nil => simp [hc]
  | cons d s ih => by_cases hd : p d <;> simp [hd, ih]

theorem dropWhile_append_cons {c : Char} (hc : p c = false) (s q : List Char) :
    (s ++ c :: q).dropWhile p = s.dropWhile p ++ c :: q := by
  induction s with
  | nil => simp [hc]
  | cons d s ih => by_cases hd : p d <;> simp [hd, ih]

theorem IsBelow.takeWhile_append (hq : IsBelow q) (hp : p '/' = false) :
    (s ++ q).takeWhile p = s.takeWhile p := by
  obtain rfl | ⟨q', rfl⟩ := hq
  · rw [List.append_nil]
  · exact takeWhile_append_cons hp s q'

theorem IsBelow.dropWhile_append (hq : IsBelow q) (hp : p '/' = false) :
    (s ++ q).dropWhile p = s.dropWhile p ++ q := by
  obtain rfl | ⟨q', rfl⟩ := hq
  · rw [List.append_nil, List.append_nil]
  · exact dropWhile_append_cons hp s q'

/-- What holds of the first character of what is appended. -/
theorem IsBelow.any_head? (hq : IsBelow q) (hp : p '/' = false) :
    (s ++ q).head?.any p = s.head?.any p := by
  obtain rfl | ⟨q', rfl⟩ := hq
  · rw [List.append_nil]
  · cases s <;> simp [hp]

/-! ### Authority -/

theorem endsAuthority_slash (kind : SchemeKind) : endsAuthority kind '/' = true := by
  simp [endsAuthority, isSlash]

/-- The text after the last `@` of an authority is empty only if the whole text ends in `@`. -/
theorem getLast?_of_afterAt {k : SchemeKind}
    (hall : (s.takeWhile (!endsAuthority k ·)).length = s.length)
    (hempty : (s.takeWhile (!endsAuthority k ·)).reverse.takeWhile (· ≠ '@') = [])
    (hs : s ≠ []) : s.getLast? = some '@' := by
  have heq : s.takeWhile (!endsAuthority k ·) = s :=
    (List.takeWhile_prefix _).eq_of_length hall
  rw [heq] at hempty
  rw [← List.head?_reverse]
  cases hreverse : s.reverse with
  | nil => exact absurd (List.reverse_eq_nil_iff.1 hreverse) hs
  | cons c rest =>
    rw [hreverse, List.takeWhile_cons] at hempty
    by_cases hc : c = '@'
    · rw [hc]
      rfl
    · simp [hc] at hempty

/-- User information is looked for before the path. -/
theorem splitUser_append (kind : SchemeKind) (s : List Char) (hq : IsBelow q) :
    splitUser kind (s ++ q) = ((splitUser kind s).1, (splitUser kind s).2 ++ q) := by
  have htake : (s ++ q).takeWhile (!endsAuthority kind ·) = s.takeWhile (!endsAuthority kind ·) :=
    hq.takeWhile_append (by simp [endsAuthority_slash])
  have hle := (List.takeWhile_prefix (!endsAuthority kind ·) (l := s)).length_le
  have hat := (List.takeWhile_prefix (· ≠ '@')
    (l := (s.takeWhile (!endsAuthority kind ·)).reverse)).length_le
  rw [List.length_reverse] at hat
  simp only [splitUser, htake]
  split
  · rfl
  · rename_i hlength
    rw [List.drop_append_of_le_length (by omega)]

/-- Something is left after user information, unless the text ends in `@`. -/
theorem splitUser_ne_nil (kind : SchemeKind) (hs : s.getLast? ≠ some '@') :
    (splitUser kind s).1.isSome → (splitUser kind s).2 ≠ [] := by
  have hle := (List.takeWhile_prefix (!endsAuthority kind ·) (l := s)).length_le
  have hat := (List.takeWhile_prefix (· ≠ '@')
    (l := (s.takeWhile (!endsAuthority kind ·)).reverse)).length_le
  rw [List.length_reverse] at hat
  simp only [splitUser]
  split
  · exact nofun
  · rename_i hlength
    have hleft : (s.takeWhile (!endsAuthority kind ·)).length -
        ((s.takeWhile (!endsAuthority kind ·)).reverse.takeWhile (· ≠ '@')).length - 1 + 1 <
          s.length := by
      refine Nat.lt_of_not_le fun hge => hs (getLast?_of_afterAt (k := kind) ?_ ?_ ?_)
      · omega
      · exact List.eq_nil_of_length_eq_zero (by omega)
      · rintro rfl
        exact hlength rfl
    intro _ hnil
    have := List.drop_eq_nil_iff.1 hnil
    omega

theorem splitHost_append (kind : SchemeKind) (bracketed : Bool) (s : List Char) (hq : IsBelow q) :
    splitHost kind bracketed (s ++ q) =
      ((splitHost kind bracketed s).1, (splitHost kind bracketed s).2 ++ q) := by
  induction s generalizing bracketed with
  | nil =>
    obtain rfl | ⟨q', rfl⟩ := hq
    · rfl
    · simp [splitHost, endsAuthority_slash]
  | cons c s ih =>
    rw [List.cons_append, splitHost, splitHost]
    split
    · rfl
    · rw [ih]

theorem hostOf_append (kind : SchemeKind) (text s : List Char) (hq : IsBelow q) :
    hostOf kind text (s ++ q) = hostOf kind text s := by
  cases kind with
  | other =>
    have hhead : (s ++ q).head? = some ':' ↔ s.head? = some ':' := by
      obtain rfl | ⟨q', rfl⟩ := hq
      · rw [List.append_nil]
      · cases s <;> simp
    simp only [hostOf, hhead]
  | _ => rfl

theorem splitPort_append (kind : SchemeKind) (s : List Char) (hq : IsBelow q) :
    splitPort kind (s ++ q) = (splitPort kind s).map fun (port, rest) => (port, rest ++ q) := by
  cases s with
  | nil => obtain rfl | ⟨q', rfl⟩ := hq <;> rfl
  | cons c s =>
    by_cases hc : c = ':'
    · have htake : (s ++ q).takeWhile Char.isDigit = s.takeWhile Char.isDigit :=
        hq.takeWhile_append rfl
      have hdrop : (s ++ q).dropWhile Char.isDigit = s.dropWhile Char.isDigit ++ q :=
        hq.dropWhile_append rfl
      have hhead := hq.any_head? (s := s.dropWhile Char.isDigit)
        (p := fun c => !(c = '/' || c = '\\' || c = '?' || c = '#')) rfl
      rw [hc, List.cons_append]
      simp only [splitPort, htake, hdrop, hhead]
      repeat' split
      all_goals rfl
    · simp [splitPort, hc, Except.map]

/-- What an authority says, and the text after it, if a path follows. -/
def authority (scheme : String) (s : List Char) : Except UrlError (Front × List Char) := do
  let kind := SchemeKind.ofScheme scheme
  let (before, s) := splitUser kind s
  if before = some [] ∧ (s = [] ∨ s.head?.any (endsAuthority kind)) then throw .emptyHost
  let user := before.bind userOf
  let (text, s) := splitHost kind false s
  let host ← hostOf kind text s
  let (port, s) ← splitPort kind s
  if host = .empty ∧ user.isSome then throw .emptyHost
  return ({ scheme, user, host, port }, s)

/-- **An authority does not depend on the path after it.**  It may be followed by nothing at all if
something is left after its user information. -/
theorem withAuthority_eq_authority (scheme : String) (s : List Char) (hq : IsBelow q)
    (hleft : q = [] → (splitUser (.ofScheme scheme) s).1.isSome →
      (splitUser (.ofScheme scheme) s).2 ≠ []) :
    withAuthority scheme (s ++ q) =
      (authority scheme s).map fun (front, r) => front.withSegments [] (r ++ q) := by
  simp only [withAuthority, authority]
  rw [splitUser_append _ s hq]
  generalize splitUser (.ofScheme scheme) s = split at hleft ⊢
  obtain ⟨before, s⟩ := split
  -- A slash follows if nothing is left after user information.
  have hhead : (before = some [] ∧ (s ++ q).head?.any (endsAuthority (.ofScheme scheme))) ↔
      (before = some [] ∧ (s = [] ∨ s.head?.any (endsAuthority (.ofScheme scheme)))) := by
    refine and_congr_right fun hbefore => ?_
    subst hbefore
    cases s with
    | nil =>
      obtain rfl | ⟨q', rfl⟩ := hq
      · exact absurd rfl (hleft rfl rfl)
      · simp [endsAuthority_slash]
    | cons c s => simp
  simp only [splitHost_append _ _ s hq, hostOf_append _ _ _ hq, splitPort_append _ _ hq, hhead]
  split
  · rfl
  · cases hostOf (.ofScheme scheme) (splitHost (.ofScheme scheme) false s).1
      (splitHost (.ofScheme scheme) false s).2 with
    | error e => rfl
    | ok host =>
      cases splitPort (.ofScheme scheme) (splitHost (.ofScheme scheme) false s).2 with
      | error e => rfl
      | ok port =>
        by_cases hempty : host = .empty ∧ (before.bind userOf).isSome
        · simp only [Except.map, bind, Except.bind, if_pos hempty]
          rfl
        · simp only [Except.map, bind, Except.bind, if_neg hempty]
          rfl

/-- Whether an authority can be read does not depend on what is appended to the path after it. -/
theorem withAuthority_append (scheme : String) (hs : s.getLast? ≠ some '@') (hq : IsBelow q) :
    (withAuthority scheme (s ++ q)).map (fun _ => ()) =
      (withAuthority scheme s).map fun _ => () := by
  have hnone := withAuthority_eq_authority scheme s (q := []) (.inl rfl)
    fun _ => splitUser_ne_nil _ hs
  rw [List.append_nil] at hnone
  rw [hnone, withAuthority_eq_authority scheme s hq fun _ => splitUser_ne_nil _ hs]
  cases authority scheme s <;> rfl

/-! ### Schemes -/

/-- Whether a character is neither passed over nor next to an authority. -/
def isPlain (c : Char) : Bool := 0x20 < c.toNat && !(['/', '\\', ':', '@'].contains c)

/-- The text ends in a plain character. -/
def EndsPlainly (s : List Char) : Prop := ∃ c, s.getLast? = some c ∧ isPlain c

theorem EndsPlainly.getLast?_ne {c : Char} (h : EndsPlainly s) (hc : isPlain c = false) :
    s.getLast? ≠ some c := by
  obtain ⟨d, hlast, hd⟩ := h
  rw [hlast]
  rintro heq
  cases heq
  rw [hd] at hc
  cases hc

theorem EndsPlainly.ne_nil (h : EndsPlainly s) : s ≠ [] := by
  obtain ⟨c, hlast, -⟩ := h
  rintro rfl
  cases hlast

theorem EndsPlainly.prepend (h : EndsPlainly s) (a : List Char) : EndsPlainly (a ++ s) := by
  obtain ⟨c, hlast, hc⟩ := h
  exact ⟨c, by rw [List.getLast?_append, hlast, Option.some_or], hc⟩

/-- What is left when something without a plain end is cut off still ends plainly. -/
theorem EndsPlainly.of_append {a b : List Char} (h : EndsPlainly (a ++ b))
    (ha : ∀ c ∈ a.getLast?, isPlain c = false) : EndsPlainly b := by
  obtain ⟨c, hlast, hc⟩ := h
  rw [List.getLast?_append] at hlast
  cases hb : b.getLast? with
  | none =>
    rw [hb, Option.none_or] at hlast
    rw [ha c hlast] at hc
    cases hc
  | some d =>
    rw [hb, Option.some_or] at hlast
    cases hlast
    exact ⟨c, hb, hc⟩

theorem isPlain_eq_false_of_isSlash {kind : SchemeKind} {c : Char} (h : isSlash kind c = true) :
    isPlain c = false := by
  simp only [isSlash, Bool.or_eq_true, Bool.and_eq_true, decide_eq_true_eq] at h
  rcases h with rfl | ⟨rfl, -⟩ <;> rfl

theorem EndsPlainly.dropWhile_isSlash {kind : SchemeKind} (h : EndsPlainly s) :
    EndsPlainly (s.dropWhile (isSlash kind)) := by
  rw [← List.takeWhile_append_dropWhile (p := isSlash kind) (l := s)] at h
  refine h.of_append fun c hc => ?_
  have hslash : isSlash kind c = true :=
    List.all_eq_true.1 List.all_takeWhile c (List.mem_of_getLast? hc)
  exact isPlain_eq_false_of_isSlash hslash

theorem splitScheme?_append (s : List Char) (hq : IsBelow q) :
    splitScheme? (s ++ q) = (splitScheme? s).map fun (scheme, rest) => (scheme, rest ++ q) := by
  have htake : (s ++ q).takeWhile isSchemeChar = s.takeWhile isSchemeChar := hq.takeWhile_append rfl
  have hdrop : (s ++ q).dropWhile isSchemeChar = s.dropWhile isSchemeChar ++ q :=
    hq.dropWhile_append rfl
  rw [splitScheme?, splitScheme?, htake, hdrop]
  cases s.takeWhile isSchemeChar with
  | nil => rfl
  | cons c cs =>
    cases s.dropWhile isSchemeChar with
    | nil => obtain rfl | ⟨q', rfl⟩ := hq <;> rfl
    | cons d rest =>
      by_cases hd : d = ':'
      · subst hd
        simp only [List.cons_append]
        split <;> rfl
      · simp [hd]

/-- A scheme is read before the first colon, whatever follows it. -/
theorem exists_of_splitScheme? {scheme : String} {rest : List Char}
    (h : splitScheme? s = some (scheme, rest)) :
    ∃ front, s = front ++ ':' :: rest ∧ ∀ t, splitScheme? (front ++ ':' :: t) = some (scheme, t) := by
  have hs : s = s.takeWhile isSchemeChar ++ s.dropWhile isSchemeChar :=
    (List.takeWhile_append_dropWhile ..).symm
  unfold splitScheme? at h
  split at h
  · rename_i c cs rest' htake hdrop
    split at h
    · rename_i halpha
      cases h
      rw [htake, hdrop] at hs
      refine ⟨c :: cs, hs, fun t => ?_⟩
      have hcolon : isSchemeChar ':' = false := rfl
      have htake' := takeWhile_append_cons hcolon (c :: cs) rest
      have hdrop' := dropWhile_append_cons hcolon (c :: cs) rest
      rw [← hs, htake] at htake'
      rw [← hs, hdrop] at hdrop'
      have hnil : (c :: cs).dropWhile isSchemeChar = [] :=
        List.append_cancel_right (hdrop'.symm : _ = [] ++ ':' :: rest)
      rw [splitScheme?, takeWhile_append_cons hcolon, dropWhile_append_cons hcolon, ← htake', hnil]
      simp only [List.nil_append, if_pos halpha]
    · cases h
  · cases h

/-- The text after the scheme ends plainly too, since the colon is not plain. -/
theorem EndsPlainly.splitScheme? {scheme : String} {rest : List Char} (h : EndsPlainly s)
    (hsplit : splitScheme? s = some (scheme, rest)) : EndsPlainly rest := by
  obtain ⟨front, rfl, -⟩ := exists_of_splitScheme? hsplit
  rw [List.append_cons] at h
  refine h.of_append fun c hc => ?_
  rw [List.getLast?_concat] at hc
  cases hc
  rfl

theorem fileWithHost_append (s : List Char) (hq : IsBelow q) :
    (fileWithHost (s ++ q)).map (fun _ => ()) = (fileWithHost s).map fun _ => () := by
  have htake : (s ++ q).takeWhile (!endsAuthority .file ·) = s.takeWhile (!endsAuthority .file ·) :=
    hq.takeWhile_append (by simp [endsAuthority_slash])
  simp only [fileWithHost, htake]
  split
  · rfl
  · split
    · rfl
    · cases Host.ofText (s.takeWhile (!endsAuthority .file ·)) <;> rfl

theorem file_append (hs : EndsPlainly s) (hq : IsBelow q) :
    (file (s ++ q)).map (fun _ => ()) = (file s).map fun _ => () := by
  match s, hs with
  | [], hs => exact absurd rfl hs.ne_nil
  | [c], hs =>
    -- A plain character is no slash, so that no authority can begin here.
    have hc : isSlash .file c = false := by
      obtain ⟨d, hd, hplain⟩ := hs
      cases hd
      refine Bool.eq_false_iff.2 fun hslash => ?_
      rw [List.getLast_singleton, isPlain_eq_false_of_isSlash hslash] at hplain
      cases hplain
    obtain rfl | ⟨q', rfl⟩ := hq
    · rfl
    · simp [file, hc, Except.map]
  | a :: b :: s, hs =>
    simp only [List.cons_append, file]
    split
    · exact fileWithHost_append s hq
    · rfl

theorem other_append (scheme : String) (hs : EndsPlainly s) (hq : IsBelow q) :
    (other scheme (s ++ q)).map (fun _ => ()) = (other scheme s).map fun _ => () := by
  match s, hs with
  | [], hs => exact absurd rfl hs.ne_nil
  | [c], hs =>
    have hc : c ≠ '/' := fun heq => hs.getLast?_ne (c := '/') rfl (congrArg some heq)
    simp [other, hc, Except.map]
  | a :: b :: s, hs =>
    by_cases ha : a = '/'
    · subst ha
      by_cases hb : b = '/'
      · subst hb
        have hrest : EndsPlainly s :=
          hs.of_append (a := ['/', '/']) fun c hc => by cases hc; rfl
        exact withAuthority_append scheme (hrest.getLast?_ne rfl) hq
      · simp [other, hb, Except.map]
    · simp [other, ha, Except.map]

/-! ### Whole texts -/

theorem toNat_of_isPlain {c : Char} (h : isPlain c) : 0x20 < c.toNat := by
  simp only [isPlain, Bool.and_eq_true, decide_eq_true_eq] at h
  exact h.1

/-- What `strip` passes over inside a text. -/
def isBreak (c : Char) : Bool := c = '\t' || c = '\n' || c = '\r'

/-- A text without what `strip` passes over at its end and inside. -/
def stripEnd (s : List Char) : List Char :=
  (s.reverse.dropWhile (·.toNat ≤ 0x20)).reverse.filter (!isBreak ·)

/-- A character that is not passed over parts what stands before it from what stands after it. -/
theorem stripEnd_append_cons {c : Char} (hc : 0x20 < c.toNat) (s q : List Char) :
    stripEnd (s ++ c :: q) = s.filter (!isBreak ·) ++ c :: stripEnd q := by
  have hne (d : Char) (hd : d.toNat ≤ 0x20) : c ≠ d := by
    rintro rfl
    exact Nat.not_lt.2 hd hc
  have hbreak : (!isBreak c) = true := by
    simp [isBreak, hne '\t' (by decide), hne '\n' (by decide), hne '\r' (by decide)]
  rw [stripEnd, List.reverse_append, List.reverse_cons, List.append_assoc, List.singleton_append,
    dropWhile_append_cons (decide_eq_false (Nat.not_le.2 hc)), List.reverse_append,
    List.reverse_cons, List.reverse_reverse, List.append_assoc, List.singleton_append,
    List.filter_append, List.filter_cons, if_pos hbreak]
  rfl

theorem strip_append_cons {c : Char} (hc : 0x20 < c.toNat) (s q : List Char) :
    strip (s ++ c :: q) =
      (s.dropWhile (·.toNat ≤ 0x20)).filter (!isBreak ·) ++ c :: stripEnd q := by
  change stripEnd ((s ++ c :: q).dropWhile (·.toNat ≤ 0x20)) = _
  rw [dropWhile_append_cons (decide_eq_false (Nat.not_le.2 hc)), stripEnd_append_cons hc]

theorem IsBelow.stripEnd (hq : IsBelow q) : IsBelow (stripEnd q) := by
  obtain rfl | ⟨q, rfl⟩ := hq
  · exact .inl rfl
  · exact .inr ⟨_, stripEnd_append_cons (by decide) [] q⟩

/-- What is passed over in a longer text stands before its plain end or in what is appended. -/
theorem EndsPlainly.strip_append (hs : EndsPlainly s) (hq : IsBelow q) :
    EndsPlainly (strip s) ∧ ∃ q', IsBelow q' ∧ strip (s ++ q) = strip s ++ q' := by
  obtain ⟨c, hlast, hc⟩ := hs
  obtain ⟨s', rfl⟩ := List.getLast?_eq_some_iff.1 hlast
  have hnone := strip_append_cons (toNat_of_isPlain hc) s' []
  refine ⟨⟨c, ?_, hc⟩, Url.stripEnd q, hq.stripEnd, ?_⟩
  · rw [hnone]
    exact List.getLast?_concat ..
  · rw [hnone, List.append_assoc, List.singleton_append, strip_append_cons (toNat_of_isPlain hc)]
    simp [Url.stripEnd]

/-- **Whether a text can be read as a URL**, and what is wrong with it otherwise, does not depend on
what is appended to it after a slash, if it ends plainly. -/
theorem parse_append {text below : String} (hs : EndsPlainly text.toList)
    (hq : IsBelow below.toList) :
    (parse (text ++ below)).map (fun _ => ()) = (parse text).map fun _ => () := by
  obtain ⟨hend, q', hq', hstrip⟩ := hs.strip_append hq
  rw [parse, parse, String.toList_append, hstrip, splitScheme?_append _ hq']
  cases hsplit : splitScheme? (Url.strip text.toList) with
  | none => rfl
  | some split =>
    obtain ⟨scheme, rest⟩ := split
    have hrest : EndsPlainly rest := hend.splitScheme? hsplit
    simp only [Option.map_some]
    cases SchemeKind.ofScheme scheme with
    | special port =>
      -- The slashes before the authority end before the plain character.
      have hslashes : EndsPlainly (rest.dropWhile (isSlash (.special port))) :=
        hrest.dropWhile_isSlash
      simp only [List.dropWhile_append, List.isEmpty_eq_false_iff.2 hslashes.ne_nil]
      exact withAuthority_append scheme (hslashes.getLast?_ne rfl) hq'
    | file => exact file_append hrest hq'
    | other => exact other_append scheme hrest hq'

end DocStore.Url
