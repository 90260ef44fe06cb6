import DocStore.Proofs.Json.Depth
import DocStore.Proofs.Json.Lexical

/-!
# Reading what was written of a document

A scanner reads a text back if it takes exactly that text from whatever follows, unless what follows
goes on with a number (`Json.Reads`).  A list reads back if its elements do, an object if the values of
its members do, and so a document reads back by induction on it.

* `Json.IsExact` : the documents that are written exactly: their numbers are integers of 64 bits, and
  no object names a member twice;
* `Json.elements_arrayBody`, `Json.members_objectBody` : what is read of a list and of an object, for any
  way to read its parts;
* `Json.value_compactChars` : **an exact document is read back**, with as many levels as it has;
* `Json.parse_compact` : so it is the document that its own text is read as.
-/

namespace DocStore.Json

variable {α : Type} {rules : Rules}

/-! ### Documents that are written exactly -/

/-- A document whose numbers are integers of 64 bits, with or without a sign, and whose objects name
every member once. -/
inductive IsExact : Json → Prop
  | null : IsExact .null
  | bool (b : Bool) : IsExact (.bool b)
  | int {n : Int} (hleast : -(twoTo 63 : Int) ≤ n) (hmost : n < twoTo 64) :
    IsExact (.number (.int n))
  | string (text : String) : IsExact (.string text)
  | array {xs : List Json} (helements : ∀ x ∈ xs, IsExact x) : IsExact (.array xs)
  | object {ms : Members Json} (hnames : ms.keys.Nodup) (hvalues : ∀ m ∈ ms, IsExact m.2) :
    IsExact (.object ms)

/-! ### What is taken of a text -/

/-- Whether a character starts a document, and no blank or end of a list. -/
def startsValue (c : Char) : Bool := !isSpace c && c ≠ ']'

theorem startsValue_iff {c : Char} : startsValue c = true ↔ isSpace c = false ∧ c ≠ ']' := by
  simp [startsValue]

/-- A scanner takes a text, and nothing of what follows it. -/
structure Reads (scan : Scan α) (text : List Char) (x : α) : Prop where
  starts : ∃ c s, text = c :: s ∧ startsValue c = true
  scan_append : ∀ rest, Text.Stops continuesNumber rest → scan (text ++ rest) = .ok (x, rest)

theorem skipSpace_cons {c : Char} (h : isSpace c = false) (s : List Char) :
    skipSpace (c :: s) = c :: s :=
  List.dropWhile_cons_of_neg (Bool.eq_false_iff.1 h)

theorem skipSpace_comma (s : List Char) : skipSpace (',' :: s) = ',' :: s := rfl

theorem skipSpace_quote (s : List Char) : skipSpace ('"' :: s) = '"' :: s := rfl

/-- The text of an array after its opening bracket. -/
def arrayBody : List Json → List Char
  | [] => [']']
  | x :: xs => compactChars x ++ compactElements xs

theorem compactChars_array (xs : List Json) : compactChars (.array xs) = '[' :: arrayBody xs := by
  cases xs <;> rfl

/-- The text of a member after the opening quote of its name. -/
def memberBody (m : String × Json) : List Char :=
  m.1.toList.flatMap escapedChar ++ '"' :: ':' :: compactChars m.2

/-- The text of an object after its opening brace. -/
def objectBody : Members Json → List Char
  | [] => ['}']
  | m :: ms => '"' :: memberBody m ++ compactMembers ms

theorem compactMembers_cons (m : String × Json) (ms : Members Json) :
    compactMembers (m :: ms) = ',' :: '"' :: memberBody m ++ compactMembers ms := by
  simp [compactMembers, memberBody, stringChars]

theorem compactChars_object (ms : Members Json) :
    compactChars (.object ms) = '{' :: objectBody ms := by
  cases ms <;> simp [compactChars, objectBody, memberBody, stringChars]

theorem stops_compactElements (xs : List Json) (rest : List Char) :
    Text.Stops continuesNumber (compactElements xs ++ rest) := by
  cases xs <;> exact Text.stops_cons (by decide)

theorem stops_compactMembers (ms : Members Json) (rest : List Char) :
    Text.Stops continuesNumber (compactMembers ms ++ rest) := by
  cases ms with
  | nil => exact Text.stops_cons (by decide)
  | cons m ms => exact compactMembers_cons m ms ▸ Text.stops_cons (by decide)

/-- The text that is left is long enough to count the elements in it. -/
theorem length_lt_compactElements (xs : List Json) (rest : List Char) :
    xs.length < (compactElements xs ++ rest).length + 1 := by
  induction xs with
  | nil => exact Nat.succ_pos _
  | cons x xs ih =>
    simp only [compactElements, List.cons_append, List.append_assoc, List.length_cons,
      List.length_append] at ih ⊢
    omega

theorem length_lt_compactMembers (ms : Members Json) (rest : List Char) :
    ms.length < (compactMembers ms ++ rest).length + 1 := by
  induction ms with
  | nil => exact Nat.succ_pos _
  | cons m ms ih =>
    simp only [compactMembers_cons, List.cons_append, List.append_assoc, List.length_cons,
      List.length_append] at ih ⊢
    omega

/-! ### Lists -/

section

variable {element : Scan α} {text rest : List Char} {x : α}

/-- The first element is read, and then the ones after it. -/
theorem Reads.elements_append (h : Reads element text x) (hrest : Text.Stops continuesNumber rest) :
    elements element (text ++ rest) = do
      let (xs, s) ← moreElements element (rest.length + 1) rest
      return (x :: xs, s) := by
  obtain ⟨c, s, rfl, hstarts⟩ := h.starts
  obtain ⟨hspace, hclose⟩ := startsValue_iff.1 hstarts
  have hread := h.scan_append rest hrest
  rw [List.cons_append] at hread ⊢
  simp only [elements, skipSpace_cons hspace]
  split
  · rename_i heq
    cases heq
  · rename_i heq
    exact absurd (List.cons.inj heq).1 hclose
  · rw [hread]
    rfl

/-- A further element is read after its comma, and then the ones after it. -/
theorem Reads.moreElements_comma (h : Reads element text x)
    (hrest : Text.Stops continuesNumber rest) (fuel : Nat) :
    moreElements element (fuel + 1) (',' :: (text ++ rest)) = do
      let (xs, s) ← moreElements element fuel rest
      return (x :: xs, s) := by
  obtain ⟨c, s, rfl, hstarts⟩ := h.starts
  obtain ⟨hspace, hclose⟩ := startsValue_iff.1 hstarts
  have hread := h.scan_append rest hrest
  rw [List.cons_append] at hread ⊢
  simp only [moreElements, skipSpace_comma, skipSpace_cons hspace]
  split
  · rename_i heq
    cases heq
  · rename_i heq
    exact absurd (List.cons.inj heq).1 hclose
  · rw [hread]
    rfl

end

/-- The elements after the first one are read, if each of them is. -/
theorem moreElements_compactElements {element : Scan α} {toJson : α → Json} {xs : List α}
    (h : ∀ x ∈ xs, Reads element (toJson x).compactChars x) {fuel : Nat} (hfuel : xs.length < fuel)
    (rest : List Char) :
    moreElements element fuel (compactElements (xs.map toJson) ++ rest) = .ok (xs, rest) := by
  induction xs generalizing fuel with
  | nil =>
    obtain ⟨fuel, rfl⟩ := Nat.exists_eq_add_one.2 hfuel
    rfl
  | cons x xs ih =>
    obtain ⟨fuel, rfl⟩ := Nat.exists_eq_add_one.2 (Nat.zero_lt_of_lt hfuel)
    obtain ⟨hx, hxs⟩ := List.forall_mem_cons.1 h
    rw [List.map_cons, compactElements, List.cons_append, List.cons_append, List.append_assoc,
      hx.moreElements_comma (stops_compactElements _ rest), ih hxs (Nat.lt_of_succ_lt_succ hfuel)]
    rfl

/-- **The elements of an array are read, if each of them is.** -/
theorem elements_arrayBody {element : Scan α} {toJson : α → Json} {xs : List α}
    (h : ∀ x ∈ xs, Reads element (toJson x).compactChars x) (rest : List Char) :
    elements element (arrayBody (xs.map toJson) ++ rest) = .ok (xs, rest) := by
  cases xs with
  | nil => rfl
  | cons x xs =>
    obtain ⟨hx, hxs⟩ := List.forall_mem_cons.1 h
    have hfuel := length_lt_compactElements (xs.map toJson) rest
    rw [List.length_map] at hfuel
    rw [List.map_cons, arrayBody, List.append_assoc,
      hx.elements_append (stops_compactElements _ rest), moreElements_compactElements hxs hfuel]
    rfl

/-! ### Objects -/

/-- A member is read, if its value is. -/
theorem member_memberBody {value : Scan Json} {m : String × Json}
    (h : Reads value m.2.compactChars m.2) {rest : List Char}
    (hrest : Text.Stops continuesNumber rest) :
    member rules value (memberBody m ++ rest) = .ok (m, rest) := by
  have hcolon : colon (':' :: (m.2.compactChars ++ rest)) = .ok (m.2.compactChars ++ rest) := rfl
  rw [member, memberBody, List.append_assoc, List.cons_append, List.cons_append,
    stringRest_stringChars]
  simp only [bind, Except.bind, hcolon, h.scan_append rest hrest]
  rfl

/-- The members after the first one are read, if the value of each of them is. -/
theorem moreMembers_compactMembers {value : Scan Json} {ms : Members Json}
    (h : ∀ m ∈ ms, Reads value m.2.compactChars m.2) {fuel : Nat} (hfuel : ms.length < fuel)
    (rest : List Char) :
    moreMembers rules value fuel (compactMembers ms ++ rest) = .ok (ms, rest) := by
  induction ms generalizing fuel with
  | nil =>
    obtain ⟨fuel, rfl⟩ := Nat.exists_eq_add_one.2 hfuel
    rfl
  | cons m ms ih =>
    obtain ⟨fuel, rfl⟩ := Nat.exists_eq_add_one.2 (Nat.zero_lt_of_lt hfuel)
    obtain ⟨hm, hms⟩ := List.forall_mem_cons.1 h
    have hread : member rules value (memberBody m ++ (compactMembers ms ++ rest)) = _ :=
      member_memberBody hm (stops_compactMembers ms rest)
    rw [compactMembers_cons, List.cons_append, List.cons_append, List.cons_append,
      List.cons_append, List.append_assoc]
    simp only [moreMembers, skipSpace_comma, skipSpace_quote, hread, bind, Except.bind,
      ih hms (Nat.lt_of_succ_lt_succ hfuel)]
    rfl

/-- **The members of an object are read, if the value of each of them is.** -/
theorem members_objectBody {value : Scan Json} {ms : Members Json}
    (h : ∀ m ∈ ms, Reads value m.2.compactChars m.2) (rest : List Char) :
    members rules value (objectBody ms ++ rest) = .ok (ms, rest) := by
  cases ms with
  | nil => rfl
  | cons m ms =>
    obtain ⟨hm, hms⟩ := List.forall_mem_cons.1 h
    have hread : member rules value (memberBody m ++ (compactMembers ms ++ rest)) = _ :=
      member_memberBody hm (stops_compactMembers ms rest)
    rw [objectBody, List.cons_append, List.cons_append, List.append_assoc]
    simp only [members, skipSpace_quote, hread, bind, Except.bind,
      moreMembers_compactMembers hms (length_lt_compactMembers ms rest)]
    rfl

/-! ### Documents -/

theorem exists_cons_toDigits (n : Nat) : ∃ c s, Nat.toDigits 10 n = c :: s ∧ c.isDigit = true := by
  cases hdigits : Nat.toDigits 10 n with
  | nil => exact absurd hdigits Nat.toDigits_ne_nil
  | cons c s =>
    exact ⟨c, s, rfl, Text.isDigit_of_mem_toDigits (hdigits ▸ List.mem_cons_self)⟩

theorem ne_of_isDigit {c d : Char} (hc : c.isDigit = true) (hd : d.isDigit = false) : c ≠ d := by
  rintro rfl
  rw [hc] at hd
  cases hd

/-- A digit starts a value. -/
theorem startsValue_of_isDigit {c : Char} (h : c.isDigit = true) : startsValue c = true := by
  have hspace : isSpace c = false := by
    simp [isSpace, ne_of_isDigit h (d := ' ') rfl, ne_of_isDigit h (d := '\n') rfl,
      ne_of_isDigit h (d := '\t') rfl, ne_of_isDigit h (d := '\r') rfl]
  exact startsValue_iff.2 ⟨hspace, ne_of_isDigit h rfl⟩

/-- An exact document starts a value, and only null starts with the letter of null. -/
theorem IsExact.exists_cons {d : Json} (h : d.IsExact) :
    ∃ c s, d.compactChars = c :: s ∧ startsValue c = true ∧ (c = 'n' → d = .null) := by
  cases h with
  | null => exact ⟨_, _, rfl, by decide, fun _ => rfl⟩
  | bool b => cases b <;> exact ⟨_, _, rfl, by decide, nofun⟩
  | int hleast hmost =>
    rename_i n
    change ∃ c s, intChars n = c :: s ∧ _
    unfold intChars
    split
    · exact ⟨_, _, rfl, by decide, nofun⟩
    · obtain ⟨c, s, hc, hdigit⟩ := exists_cons_toDigits n.natAbs
      exact ⟨c, s, hc, startsValue_of_isDigit hdigit, fun h => absurd h (ne_of_isDigit hdigit rfl)⟩
  | string text => exact ⟨_, _, rfl, by decide, nofun⟩
  | array helements => exact ⟨_, _, compactChars_array _, by decide, nofun⟩
  | object hnames hvalues => exact ⟨_, _, compactChars_object _, by decide, nofun⟩

theorem IsExact.starts {d : Json} (h : d.IsExact) :
    ∃ c s, d.compactChars = c :: s ∧ startsValue c = true := by
  obtain ⟨c, s, hc, hstarts, -⟩ := h.exists_cons
  exact ⟨c, s, hc, hstarts⟩

theorem IsExact.head?_ne {d : Json} (h : d.IsExact) (hnull : d ≠ .null) :
    d.compactChars.head? ≠ some 'n' := by
  obtain ⟨c, s, hc, -, hletter⟩ := h.exists_cons
  rw [hc]
  exact fun heq => hnull (hletter (Option.some.inj heq))

theorem valueWith_int {inner : Option (Scan Json)} {n : Int} (hleast : -(twoTo 63 : Int) ≤ n)
    (hmost : n < twoTo 64) {rest : List Char} (hrest : Text.Stops continuesNumber rest) :
    valueWith rules inner (intChars n ++ rest) = .ok (.number (.int n), rest) := by
  have hread : unsignedNumber rules (decide (n < 0)) (Nat.toDigits 10 n.natAbs ++ rest) = _ :=
    unsignedNumber_natAbs hleast hmost hrest
  by_cases hneg : n < 0
  · rw [decide_eq_true hneg] at hread
    rw [intChars, if_pos hneg, List.cons_append]
    change (unsignedNumber rules true (Nat.toDigits 10 n.natAbs ++ rest)).map _ = _
    rw [hread]
    rfl
  · obtain ⟨c, s, hc, hdigit⟩ := exists_cons_toDigits n.natAbs
    have hspace := (startsValue_iff.1 (startsValue_of_isDigit hdigit)).1
    rw [decide_eq_false hneg, hc, List.cons_append] at hread
    rw [intChars, if_neg hneg, hc, List.cons_append]
    simp only [valueWith, skipSpace_cons hspace, hread, hdigit, ne_of_isDigit hdigit (d := 'n') rfl,
      ne_of_isDigit hdigit (d := 't') rfl, ne_of_isDigit hdigit (d := 'f') rfl,
      ne_of_isDigit hdigit (d := '-') rfl, if_false, if_true]
    rfl

/-- **An exact document is read back**, with as many levels as it has. -/
theorem value_compactChars {d : Json} (h : d.IsExact) {levels : Nat} (hdepth : d.depth ≤ levels) :
    Reads (value rules levels) d.compactChars d := by
  induction h generalizing levels with
  | null => exact ⟨IsExact.null.starts, fun rest _ => by cases levels <;> rfl⟩
  | bool b => exact ⟨(IsExact.bool b).starts, fun rest _ => by cases levels <;> cases b <;> rfl⟩
  | int hleast hmost =>
    refine ⟨(IsExact.int hleast hmost).starts, fun rest hrest => ?_⟩
    cases levels <;> exact valueWith_int hleast hmost hrest
  | string text =>
    refine ⟨(IsExact.string text).starts, fun rest _ => ?_⟩
    have hread (inner : Option (Scan Json)) : valueWith rules inner (stringChars text ++ rest) =
        .ok (.string text, rest) := by
      rw [stringChars_append]
      change (stringRest rules _).map _ = _
      rw [stringRest_stringChars]
      rfl
    cases levels <;> exact hread _
  | @array xs helements ih =>
    refine ⟨(IsExact.array helements).starts, fun rest _ => ?_⟩
    obtain ⟨levels, rfl⟩ := Nat.exists_eq_add_one.2 (Nat.zero_lt_of_lt hdepth)
    have hinner := depthElements_le_iff.1 (Nat.le_of_succ_le_succ hdepth)
    have hread : elements (value rules levels) (arrayBody (xs.map id) ++ rest) = .ok (xs, rest) :=
      elements_arrayBody (fun x hx => ih x hx (hinner x hx)) rest
    rw [List.map_id] at hread
    rw [compactChars_array, List.cons_append]
    change (elements (value rules levels) (arrayBody xs ++ rest)).map _ = _
    rw [hread]
    rfl
  | @object ms hnames hvalues ih =>
    refine ⟨(IsExact.object hnames hvalues).starts, fun rest _ => ?_⟩
    obtain ⟨levels, rfl⟩ := Nat.exists_eq_add_one.2 (Nat.zero_lt_of_lt hdepth)
    have hinner := depthMembers_le_iff.1 (Nat.le_of_succ_le_succ hdepth)
    have hread : members rules (value rules levels) (objectBody ms ++ rest) = .ok (ms, rest) :=
      members_objectBody (fun m hm => ih m hm (hinner m hm)) rest
    rw [compactChars_object, List.cons_append]
    change (members rules (value rules levels) (objectBody ms ++ rest)).map _ = _
    simp only [hread, Except.map, Members.ofList_of_nodup hnames]

/-- A whole text is read as what its scanner takes. -/
theorem readAll_compact {scan : Scan α} {d : Json} {x : α} (h : Reads scan d.compactChars x) :
    readAll scan d.compact = .ok x := by
  have hread := h.scan_append [] Text.stops_nil
  rw [List.append_nil] at hread
  simp only [readAll, compact, String.toList_ofList, hread]
  rfl

/-- **An exact document is what its own text is read as.** -/
theorem parse_compact {d : Json} (h : d.IsExact) (hdepth : d.depth ≤ maxDepth) :
    parse d.compact = .ok d :=
  readAll_compact (value_compactChars h hdepth)

end DocStore.Json
