import DocStore.Api.Reply
import DocStore.Json.Reader
import DocStore.Proofs.Success

/-!
# Names in a document that was read

What is read is a scalar, or a list or an object whose parts were read (`Json.valueWith_cases`).

A text may repeat the name of a member.  The document that is read from it does not: its outermost
object names every member once (`Json.hasDistinctNames_parse`), and so does a reply of the API
(`Api.hasDistinctNames_interpret`).
-/

namespace DocStore

namespace Json

/-- An object names every member once.  Other documents have no names. -/
def HasDistinctNames (value : Json) : Prop :=
  ∀ entries : Members Json, value = .object entries → entries.keys.Nodup

variable {rules : Rules} {s rest : List Char} {value : Json}

/-- What is read is a scalar, or what is inside of it was read one level down. -/
theorem valueWith_cases {inner : Option (Scan Json)} {d : Json}
    (h : valueWith rules inner s = .ok (d, rest)) :
    d.depth = 0 ∨
      (∃ scan t xs, inner = some scan ∧ elements scan t = .ok (xs, rest) ∧ d = .array xs) ∨
      ∃ scan t ms, inner = some scan ∧ members rules scan t = .ok (ms, rest) ∧
        d = .object (Members.ofList ms) := by
  have hscalar {β : Type} {read : Except Fault β} {f : β → Json × List Char}
      (hf : ∀ x, (f x).1.depth = 0) (h : read.map f = .ok (d, rest)) : d.depth = 0 := by
    obtain ⟨x, -, heq⟩ := map_eq_ok_iff.1 h
    rw [← hf x, heq]
  unfold valueWith at h
  repeat' split at h
  · cases h
  -- Three words, numbers with and without a sign, and strings are scalars.
  · exact .inl (hscalar (fun _ => rfl) h)
  · exact .inl (hscalar (fun _ => rfl) h)
  · exact .inl (hscalar (fun _ => rfl) h)
  · exact .inl (hscalar (fun _ => rfl) h)
  · exact .inl (hscalar (fun _ => rfl) h)
  · exact .inl (hscalar (fun _ => rfl) h)
  · obtain ⟨⟨xs, t⟩, hread, heq⟩ := map_eq_ok_iff.1 h
    cases heq
    exact .inr (.inl ⟨_, _, xs, rfl, hread, rfl⟩)
  · cases h
  · obtain ⟨⟨ms, t⟩, hread, heq⟩ := map_eq_ok_iff.1 h
    cases heq
    exact .inr (.inr ⟨_, _, ms, rfl, hread, rfl⟩)
  · cases h
  · cases h

/-- Only objects have names, and those that are read from a text keep each name once. -/
theorem hasDistinctNames_valueWith {inner : Option (Scan Json)}
    (h : valueWith rules inner s = .ok (value, rest)) : value.HasDistinctNames := by
  rintro entries rfl
  rcases valueWith_cases h with hscalar | ⟨_, _, _, -, -, harray⟩ | ⟨_, _, ms, -, -, hobject⟩
  · cases hscalar
  · cases harray
  · cases hobject
    exact Members.nodup_keys_ofList ms

theorem hasDistinctNames_value {levels : Nat} (h : Json.value rules levels s = .ok (value, rest)) :
    value.HasDistinctNames := by
  cases levels <;> exact hasDistinctNames_valueWith h

theorem eq_of_finish {α : Type} {x y : α} (h : finish x rest = .ok y) : y = x := by
  unfold finish at h
  split at h <;> cases h
  rfl

/-- What is read from a whole text is what its beginning was read as. -/
theorem scan_of_readAll {α : Type} {scan : Scan α} {text : String} {x : α}
    (h : readAll scan text = .ok x) : ∃ rest, scan text.toList = .ok (x, rest) := by
  unfold readAll at h
  cases hscan : scan text.toList with
  | error fault => simp [hscan, Except.bind] at h
  | ok pair =>
    obtain ⟨y, rest⟩ := pair
    simp only [hscan, Except.bind] at h
    split at h
    · rename_i hfinish
      cases h
      exact ⟨rest, by rw [eq_of_finish hfinish]⟩
    · cases h

/-- **The outermost object of a text is read with distinct names.** -/
theorem hasDistinctNames_parse {text : String} (h : parse text = .ok value) :
    value.HasDistinctNames := by
  obtain ⟨rest, hscan⟩ := scan_of_readAll h
  exact hasDistinctNames_value hscan

end Json

/-- **A reply has distinct names.** -/
theorem Api.hasDistinctNames_interpret {response : Http.Response} {reply : Json}
    (h : interpret response = .ok reply) : reply.HasDistinctNames := by
  unfold interpret at h
  by_cases hblank : (Text.trim response.body.toList).isEmpty
  · rw [if_pos hblank] at h
    split at h
    · rintro entries rfl
      cases h
      exact .nil
    · cases h
  · rw [if_neg hblank] at h
    cases hparse : Json.parse response.body with
    | error e =>
      simp only [hparse] at h
      split at h <;> cases h
    | ok document =>
      simp only [hparse] at h
      repeat' split at h
      all_goals cases h
      exact Json.hasDistinctNames_parse hparse

end DocStore
