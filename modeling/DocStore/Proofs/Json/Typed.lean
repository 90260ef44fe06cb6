import DocStore.Json.Typed
import DocStore.Proofs.Json.RoundTrip

/-!
# Reading what was written of values of known types

Each reader takes the text of the document that stands for a value, and gives this value
(`Json.Reads`).

* `Json.Reader.reads_string`, `reads_named`, `reads_optional_some`, `reads_optional_none` : scalars, names
  and values that may be null;
* `Json.Reader.reads_list`, `reads_pair` : lists and pairs, if their parts are read;
* `Json.Reader.Stores` : the members of an object are stored one after the other, each in the field of its
  name.  A member that is not written leaves the record as it is, so that parts of an object can be
  put together (`Stores.append`);
* `Json.Reader.reads_record` : **a record is read as what its members store**, if no name comes twice
  and no required field is missing.
-/

namespace DocStore.Json.Reader

variable {α β σ : Type} {levels : Nat}

/-! ### Scalars -/

theorem reads_string (text : String) :
    Reads (Reader.string levels) (compactChars (.string text)) text := by
  refine ⟨⟨_, _, rfl, by decide⟩, fun rest _ => ?_⟩
  rw [compactChars, stringChars_append]
  exact stringRest_stringChars text rest

/-- A name is read as what it stands for. -/
theorem reads_named {find : String → Option α} {name : String} {x : α} (h : find name = some x) :
    Reads (Reader.named find levels) (compactChars (.string name)) x := by
  refine ⟨⟨_, _, rfl, by decide⟩, fun rest hrest => ?_⟩
  have hread : Reader.string levels (compactChars (.string name) ++ rest) = _ :=
    (reads_string name).scan_append rest hrest
  rw [compactChars, stringChars_append] at hread ⊢
  change (Reader.string levels _ >>= fun pair => _) = _
  rw [hread]
  simp only [bind, Except.bind, h]
  rfl

theorem reads_optional_none (reader : Reader α) :
    Reads (Reader.optional reader levels) (compactChars .null) none :=
  ⟨⟨_, _, rfl, by decide⟩, fun _ _ => rfl⟩

/-- A value that does not start like null is read by its reader. -/
theorem reads_optional_some {reader : Reader α} {text : List Char} {x : α}
    (h : Reads (reader levels) text x) (hnull : text.head? ≠ some 'n') :
    Reads (Reader.optional reader levels) text (some x) := by
  obtain ⟨c, s, rfl, hstarts⟩ := h.starts
  refine ⟨⟨c, s, rfl, hstarts⟩, fun rest hrest => ?_⟩
  have hread := h.scan_append rest hrest
  rw [List.cons_append] at hread ⊢
  simp only [Reader.optional, skipSpace_cons (startsValue_iff.1 hstarts).1]
  split
  · rename_i heq
    exact absurd (congrArg some (List.cons.inj heq).1) hnull
  · rw [hread]
    rfl

/-! ### Lists and pairs -/

/-- **A list is read, if each of its elements is.** -/
theorem reads_list {reader : Reader α} {toJson : α → Json} {xs : List α}
    (h : ∀ x ∈ xs, Reads (reader levels) (toJson x).compactChars x) :
    Reads (Reader.list reader (levels + 1)) (compactChars (.array (xs.map toJson))) xs := by
  rw [compactChars_array]
  exact ⟨⟨_, _, rfl, by decide⟩, fun rest _ => elements_arrayBody h rest⟩

/-- The first element of an array is read by its scanner. -/
theorem nextElement_first {scan : Scan α} {text : List Char} {x : α} (h : Reads scan text x)
    {rest : List Char} (hrest : Text.Stops continuesNumber rest) :
    nextElement true scan (text ++ rest) = .ok (some x, rest) := by
  obtain ⟨c, s, rfl, hstarts⟩ := h.starts
  obtain ⟨hspace, hclose⟩ := startsValue_iff.1 hstarts
  have hread := h.scan_append rest hrest
  rw [List.cons_append] at hread ⊢
  simp only [nextElement, skipSpace_cons hspace]
  split
  · rename_i heq
    cases heq
  · rename_i heq
    exact absurd (List.cons.inj heq).1 hclose
  · rename_i heq
    rw [← heq, hread]
    rfl
  · rw [hread]
    rfl

/-- A later element of an array is read after its comma. -/
theorem nextElement_comma {scan : Scan α} {text : List Char} {x : α} (h : Reads scan text x)
    {rest : List Char} (hrest : Text.Stops continuesNumber rest) :
    nextElement false scan (',' :: (text ++ rest)) = .ok (some x, rest) := by
  obtain ⟨c, s, rfl, hstarts⟩ := h.starts
  obtain ⟨hspace, hclose⟩ := startsValue_iff.1 hstarts
  have hread := h.scan_append rest hrest
  rw [List.cons_append] at hread ⊢
  simp only [nextElement, skipSpace_comma, skipSpace_cons hspace, Bool.false_eq_true, if_false]
  split
  · rename_i heq
    cases heq
  · rename_i heq
    exact absurd (List.cons.inj heq).1 hclose
  · rw [hread]
    rfl

/-- **A pair is read, if both of its parts are.** -/
theorem reads_pair {left : Reader α} {right : Reader β} {a b : Json} {x : α} {y : β}
    (hleft : Reads (left levels) a.compactChars x) (hright : Reads (right levels) b.compactChars y) :
    Reads (Reader.pair left right (levels + 1)) (compactChars (.array [a, b])) (x, y) := by
  refine ⟨⟨_, _, rfl, by decide⟩, fun rest _ => ?_⟩
  have hfirst := nextElement_first hleft (stops_compactElements [b] rest)
  have hclose : Text.Stops continuesNumber (']' :: rest) := Text.stops_cons (by decide)
  have hsecond := nextElement_comma hright hclose
  have hend : endElements (x, y) (']' :: rest) = .ok ((x, y), rest) := rfl
  simp only [compactElements, List.cons_append, List.append_assoc, List.nil_append] at hfirst
  simp only [compactChars, compactElements, List.cons_append, List.append_assoc, List.nil_append]
  change (nextElement true (left levels) _ >>= fun pair => _) = _
  rw [List.drop_succ_cons, List.drop_zero, hfirst]
  simp only [bind, Except.bind, hsecond]
  exact hend

/-! ### Records -/

theorem reads_field {name : String} {reader : Reader α} {put : σ → α → σ} {x : σ} {text : List Char}
    {v : α} (h : Reads (reader levels) text v) :
    Reads ((Reader.field name reader put).store x levels) text (put x v) := by
  refine ⟨h.starts, fun rest hrest => ?_⟩
  simp only [Reader.field, h.scan_append rest hrest]
  rfl

/-- The members of an object are stored one after the other: from the record `x` to the record `y`. -/
inductive Stores (r : Fields σ) (levels : Nat) : σ → Members Json → σ → Prop
  | nil (x : σ) : Stores r levels x [] x
  | cons {x y z : σ} {m : String × Json} {ms : Members Json} {f : Field σ}
    (hfield : r.fields.find? (fun f => f.name == m.1) = some f)
    (hstore : Reads (f.store x levels) m.2.compactChars y) (hrest : Stores r levels y ms z) :
    Stores r levels x (m :: ms) z

variable {r : Fields σ} {x y z : σ} {m : String × Json} {ms ns : Members Json} {seen : List String}

theorem Stores.append (h : Stores r levels x ms y) (h' : Stores r levels y ns z) :
    Stores r levels x (ms ++ ns) z := by
  induction h with
  | nil => exact h'
  | cons hfield hstore _ ih => exact .cons hfield hstore (ih h')

/-- A member is stored in the field of its name, unless the name came before. -/
theorem keyedMember_memberBody {f : Field σ}
    (hfield : r.fields.find? (fun f => f.name == m.1) = some f)
    (hstore : Reads (f.store x levels) m.2.compactChars y) (hseen : m.1 ∉ seen) {rest : List Char}
    (hrest : Text.Stops continuesNumber rest) :
    keyedMember r levels seen x (memberBody m ++ rest) = .ok ((y, m.1 :: seen), rest) := by
  have hcolon : colon (':' :: (m.2.compactChars ++ rest)) = .ok (m.2.compactChars ++ rest) := rfl
  rw [keyedMember, memberBody, List.append_assoc, List.cons_append, List.cons_append,
    stringRest_stringChars]
  have hfresh : seen.contains m.1 = false := by simpa using hseen
  simp only [bind, Except.bind, hfield, hfresh, hcolon, hstore.scan_append rest hrest]
  rfl

/-- The members after the first one are stored, if no name comes twice. -/
theorem moreKeyed_compactMembers (h : Stores r levels x ms y) (hnames : ms.keys.Nodup)
    (hseen : ∀ key ∈ ms.keys, key ∉ seen) {fuel : Nat} (hfuel : ms.length < fuel) (rest : List Char) :
    moreKeyed r levels fuel seen x (compactMembers ms ++ rest) =
      complete r (ms.keys.reverse ++ seen) y rest := by
  induction h generalizing seen fuel with
  | nil =>
    obtain ⟨fuel, rfl⟩ := Nat.exists_eq_add_one.2 hfuel
    rfl
  | @cons x y z m ms f hfield hstore hrest ih =>
    obtain ⟨fuel, rfl⟩ := Nat.exists_eq_add_one.2 (Nat.zero_lt_of_lt hfuel)
    obtain ⟨hfirst, hothers⟩ := List.forall_mem_cons.1 hseen
    obtain ⟨hnew, hdistinct⟩ := List.nodup_cons.1 hnames
    have hread := keyedMember_memberBody hfield hstore hfirst (stops_compactMembers ms rest)
    have hlater : ∀ key ∈ ms.keys, key ∉ m.1 :: seen := fun key hkey hmem => by
      rcases List.mem_cons.1 hmem with rfl | hmem
      · exact hnew hkey
      · exact hothers key hkey hmem
    rw [compactMembers_cons, List.cons_append, List.cons_append, List.cons_append,
      List.cons_append, List.append_assoc]
    simp only [moreKeyed, skipSpace_comma, skipSpace_quote, hread, bind, Except.bind,
      ih hdistinct hlater (Nat.lt_of_succ_lt_succ hfuel)]
    simp [Members.keys]

/-- **A record is read as what its members store.** -/
theorem reads_record (h : Stores r levels x ms y) (hnames : ms.keys.Nodup)
    (hrequired : ∀ f ∈ r.fields, f.required → f.name ∈ ms.keys) :
    Reads (Reader.record r x (levels + 1)) (compactChars (.object ms)) y := by
  have hcomplete (rest : List Char) : complete r ms.keys.reverse y rest = .ok (y, rest) := by
    refine if_pos (List.all_eq_true.2 fun f hf => ?_)
    cases hneeded : f.required with
    | false => rfl
    | true => simpa [hneeded] using hrequired f hf hneeded
  rw [compactChars_object]
  refine ⟨⟨_, _, rfl, by decide⟩, fun rest _ => ?_⟩
  change keyed r levels x (objectBody ms ++ rest) = _
  cases h with
  | nil => exact hcomplete rest
  | @cons x y z m ms f hfield hstore hrest =>
    obtain ⟨hnew, hdistinct⟩ := List.nodup_cons.1 hnames
    have hread : keyedMember r levels [] x (memberBody m ++ (compactMembers ms ++ rest)) = _ :=
      keyedMember_memberBody hfield hstore List.not_mem_nil (stops_compactMembers ms rest)
    have hlater : ∀ key ∈ ms.keys, key ∉ [m.1] := fun key hkey hmem => by
      rw [List.mem_singleton.1 hmem] at hkey
      exact hnew hkey
    have hmore := moreKeyed_compactMembers hrest hdistinct hlater
      (length_lt_compactMembers ms rest) rest
    rw [objectBody, List.cons_append, List.cons_append, List.append_assoc]
    simp only [keyed, skipSpace_quote, hread, bind, Except.bind, hmore]
    simpa [Members.keys] using hcomplete rest

end DocStore.Json.Reader
