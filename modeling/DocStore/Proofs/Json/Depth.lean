import DocStore.Json.Typed
import DocStore.Proofs.Json.Reader
import DocStore.Proofs.Members.Overlay
import DocStore.Proofs.Success

/-!
# Levels of what was read

A property of whatever is read as an element, as the value of a member or by a field is one of all that
is read of lists, objects and records.  The property here is how deeply a document is nested.

* `Json.forall_mem_of_elements`, `Json.forall_mem_of_members` : the rules for lists and objects;
* `Json.depth_value` : **no document that was read has more levels than there were left**;
* `Json.Reader.record_invariant` : the rule for records: what holds of the initial record and is kept by
  each of the fields holds of the record that was read.
-/

namespace DocStore.Json

variable {α : Type} {rules : Rules} {s rest : List Char}

/-! ### Lists -/

theorem forall_mem_of_moreElements {P : α → Prop} {element : Scan α}
    (h : ∀ {s x rest}, element s = .ok (x, rest) → P x) {fuel : Nat} {xs : List α}
    (hread : moreElements element fuel s = .ok (xs, rest)) : ∀ x ∈ xs, P x := by
  induction fuel generalizing s xs rest with
  | zero => cases hread
  | succ fuel ih =>
    unfold moreElements at hread
    repeat' split at hread
    · cases hread
    · cases hread
      exact nofun
    · cases hread
    · cases hread
    · obtain ⟨⟨x, t⟩, hx, hread⟩ := bind_eq_ok_iff.1 hread
      obtain ⟨⟨ys, t'⟩, hys, hread⟩ := bind_eq_ok_iff.1 hread
      cases hread
      exact List.forall_mem_cons.2 ⟨h hx, ih hys⟩
    · cases hread

/-- **What is true of every element that is read is true of all of them.** -/
theorem forall_mem_of_elements {P : α → Prop} {element : Scan α}
    (h : ∀ {s x rest}, element s = .ok (x, rest) → P x) {xs : List α}
    (hread : elements element s = .ok (xs, rest)) : ∀ x ∈ xs, P x := by
  unfold elements at hread
  split at hread
  · cases hread
  · cases hread
    exact nofun
  · obtain ⟨⟨x, t⟩, hx, hread⟩ := bind_eq_ok_iff.1 hread
    obtain ⟨⟨ys, t'⟩, hys, hread⟩ := bind_eq_ok_iff.1 hread
    cases hread
    exact List.forall_mem_cons.2 ⟨h hx, forall_mem_of_moreElements h hys⟩

/-! ### Objects -/

theorem snd_of_member {P : α → Prop} {value : Scan α}
    (h : ∀ {s x rest}, value s = .ok (x, rest) → P x) {m : String × α}
    (hread : member rules value s = .ok (m, rest)) : P m.2 := by
  obtain ⟨⟨key, t⟩, -, hread⟩ := bind_eq_ok_iff.1 hread
  obtain ⟨t', -, hread⟩ := bind_eq_ok_iff.1 hread
  obtain ⟨⟨x, t''⟩, hx, hread⟩ := bind_eq_ok_iff.1 hread
  cases hread
  exact h hx

theorem forall_mem_of_moreMembers {P : α → Prop} {value : Scan α}
    (h : ∀ {s x rest}, value s = .ok (x, rest) → P x) {fuel : Nat} {ms : List (String × α)}
    (hread : moreMembers rules value fuel s = .ok (ms, rest)) : ∀ m ∈ ms, P m.2 := by
  induction fuel generalizing s ms rest with
  | zero => cases hread
  | succ fuel ih =>
    unfold moreMembers at hread
    repeat' split at hread
    · cases hread
    · cases hread
      exact nofun
    · cases hread
    · obtain ⟨⟨m, t⟩, hm, hread⟩ := bind_eq_ok_iff.1 hread
      obtain ⟨⟨ns, t'⟩, hns, hread⟩ := bind_eq_ok_iff.1 hread
      cases hread
      exact List.forall_mem_cons.2 ⟨snd_of_member h hm, ih hns⟩
    · cases hread
    · cases hread
    · cases hread

/-- **What is true of every value that is read is true of the values of all members.** -/
theorem forall_mem_of_members {P : α → Prop} {value : Scan α}
    (h : ∀ {s x rest}, value s = .ok (x, rest) → P x) {ms : List (String × α)}
    (hread : members rules value s = .ok (ms, rest)) : ∀ m ∈ ms, P m.2 := by
  unfold members at hread
  split at hread
  · cases hread
  · cases hread
    exact nofun
  · obtain ⟨⟨m, t⟩, hm, hread⟩ := bind_eq_ok_iff.1 hread
    obtain ⟨⟨ns, t'⟩, hns, hread⟩ := bind_eq_ok_iff.1 hread
    cases hread
    exact List.forall_mem_cons.2 ⟨snd_of_member h hm, forall_mem_of_moreMembers h hns⟩
  · cases hread

/-! ### Levels -/

theorem depthElements_le_iff {xs : List Json} {n : Nat} :
    depthElements xs ≤ n ↔ ∀ x ∈ xs, x.depth ≤ n := by
  induction xs with
  | nil => simp [depthElements]
  | cons x xs ih => rw [depthElements, Nat.max_le, ih, List.forall_mem_cons]

theorem depthMembers_le_iff {ms : Members Json} {n : Nat} :
    depthMembers ms ≤ n ↔ ∀ m ∈ ms, m.2.depth ≤ n := by
  induction ms with
  | nil => simp [depthMembers]
  | cons m ms ih => rw [depthMembers, Nat.max_le, ih, List.forall_mem_cons]

/-- **No document that was read has more levels than there were left.** -/
theorem depth_value {levels : Nat} {d : Json} (h : value rules levels s = .ok (d, rest)) :
    d.depth ≤ levels := by
  induction levels generalizing s d rest with
  | zero =>
    rcases valueWith_cases h with hscalar | ⟨_, _, _, hinner, -⟩ | ⟨_, _, _, hinner, -⟩
    · exact Nat.le_of_eq hscalar
    · cases hinner
    · cases hinner
  | succ levels ih =>
    rcases valueWith_cases h with
      hscalar | ⟨_, t, xs, hinner, hread, rfl⟩ | ⟨_, t, ms, hinner, hread, rfl⟩
    · rw [hscalar]
      exact Nat.zero_le _
    · cases hinner
      exact Nat.succ_le_succ (depthElements_le_iff.2 (forall_mem_of_elements ih hread))
    · cases hinner
      have hms := forall_mem_of_members ih hread
      exact Nat.succ_le_succ
        (depthMembers_le_iff.2 fun m hm => hms m (Members.mem_of_mem_ofList hm))

/-! ### Records -/

namespace Reader

variable {σ : Type} {levels : Nat} {r : Fields σ} {x y : σ} {P : σ → Prop}

/-- A value of another type is never taken. -/
theorem refuse_ne_ok {α : Type} {p : α × List Char} : (refuse s : Except Fault _) ≠ .ok p := by
  intro h
  unfold refuse at h
  repeat' split at h
  -- A scalar is read to its end, and then refused as well.
  all_goals first
    | cases h
    | obtain ⟨_, -, h⟩ := bind_eq_ok_iff.1 h
      cases h

/-- A value that is not null was read by its reader. -/
theorem exists_of_optional {reader : Reader σ}
    (h : Reader.optional reader levels s = .ok (some x, rest)) :
    ∃ t, reader levels t = .ok (x, rest) := by
  unfold Reader.optional at h
  split at h
  · obtain ⟨t, -, heq⟩ := map_eq_ok_iff.1 h
    cases heq
  · obtain ⟨⟨y, t⟩, hread, heq⟩ := map_eq_ok_iff.1 h
    cases heq
    exact ⟨_, hread⟩

/-- A field puts what its reader has read. -/
theorem exists_of_field {α : Type} {name : String} {reader : Reader α} {put : σ → α → σ}
    (h : (Reader.field name reader put).store x levels s = .ok (y, rest)) :
    ∃ v, reader levels s = .ok (v, rest) ∧ y = put x v := by
  obtain ⟨⟨v, t⟩, hread, heq⟩ := map_eq_ok_iff.1 h
  cases heq
  exact ⟨v, hread, rfl⟩

theorem eq_of_endElements (h : endElements x s = .ok (y, rest)) : y = x := by
  unfold endElements at h
  repeat' split at h
  all_goals cases h
  rfl

theorem eq_of_complete {seen : List String} (h : complete r seen x s = .ok (y, rest)) : y = x := by
  unfold complete at h
  split at h <;> cases h
  rfl

/-- A further element was read by its scanner. -/
theorem exists_of_nextElement {first : Bool} {scan : Scan σ}
    (h : nextElement first scan s = .ok (some y, rest)) : ∃ t, scan t = .ok (y, rest) := by
  unfold nextElement at h
  repeat' split at h
  all_goals try cases h
  all_goals obtain ⟨⟨y, t⟩, hread, heq⟩ := map_eq_ok_iff.1 h; cases heq; exact ⟨_, hread⟩

/-- Every field keeps a property of the record when it stores a value. -/
def Keeps (fields : List (Field σ)) (levels : Nat) (P : σ → Prop) : Prop :=
  ∀ f ∈ fields, ∀ x s y rest, P x → f.store x levels s = .ok (y, rest) → P y

theorem positional_invariant {fields : List (Field σ)} (hkeeps : Keeps fields levels P)
    {first : Bool} (hx : P x) (h : positional levels fields first x s = .ok (y, rest)) : P y := by
  induction fields generalizing first x s with
  | nil => exact eq_of_endElements h ▸ hx
  | cons f fields ih =>
    obtain ⟨hf, hfields⟩ := List.forall_mem_cons.1 hkeeps
    obtain ⟨⟨z?, t⟩, hnext, h⟩ := bind_eq_ok_iff.1 h
    cases z? with
    | some z =>
      obtain ⟨t', hread⟩ := exists_of_nextElement hnext
      exact ih hfields (hf _ _ _ _ hx hread) h
    | none =>
      dsimp only at h
      split at h
      · cases h
      · exact eq_of_endElements h ▸ hx

/-- A member leaves the record as it is, or it is stored in one of its fields. -/
theorem keyedMember_cases {seen seen' : List String}
    (h : keyedMember r levels seen x s = .ok ((y, seen'), rest)) :
    y = x ∨ ∃ f ∈ r.fields, ∃ t, f.store x levels t = .ok (y, rest) := by
  obtain ⟨⟨key, t⟩, -, h⟩ := bind_eq_ok_iff.1 h
  dsimp only at h
  split at h
  · split at h
    · obtain ⟨t', -, h⟩ := bind_eq_ok_iff.1 h
      obtain ⟨t'', -, h⟩ := bind_eq_ok_iff.1 h
      cases h
      exact .inl rfl
    · cases h
  · rename_i f hfield
    split at h
    · cases h
    · obtain ⟨t', -, h⟩ := bind_eq_ok_iff.1 h
      obtain ⟨⟨z, t''⟩, hz, h⟩ := bind_eq_ok_iff.1 h
      cases h
      exact .inr ⟨f, List.mem_of_find?_eq_some hfield, t', hz⟩

theorem keyedMember_invariant (hkeeps : Keeps r.fields levels P) {seen seen' : List String}
    (hx : P x) (h : keyedMember r levels seen x s = .ok ((y, seen'), rest)) : P y := by
  rcases keyedMember_cases h with rfl | ⟨f, hf, t, hread⟩
  · exact hx
  · exact hkeeps f hf _ _ _ _ hx hread

theorem moreKeyed_invariant (hkeeps : Keeps r.fields levels P) {fuel : Nat} {seen : List String}
    (hx : P x) (h : moreKeyed r levels fuel seen x s = .ok (y, rest)) : P y := by
  induction fuel generalizing seen x s with
  | zero => cases h
  | succ fuel ih =>
    unfold moreKeyed at h
    repeat' split at h
    · cases h
    · exact eq_of_complete h ▸ hx
    · cases h
    · obtain ⟨⟨⟨z, seen'⟩, t⟩, hz, h⟩ := bind_eq_ok_iff.1 h
      exact ih (keyedMember_invariant hkeeps hx hz) h
    · cases h
    · cases h
    · cases h

theorem keyed_invariant (hkeeps : Keeps r.fields levels P) (hx : P x)
    (h : keyed r levels x s = .ok (y, rest)) : P y := by
  unfold keyed at h
  split at h
  · cases h
  · exact eq_of_complete h ▸ hx
  · obtain ⟨⟨⟨z, seen'⟩, t⟩, hz, h⟩ := bind_eq_ok_iff.1 h
    exact moreKeyed_invariant hkeeps (keyedMember_invariant hkeeps hx hz) h
  · cases h

/-- **What holds at first and is kept by every field holds of the record that was read**, from an object
or from an array. -/
theorem record_invariant (hkeeps : Keeps r.fields levels P) (hx : P x)
    (h : Reader.record r x (levels + 1) s = .ok (y, rest)) : P y := by
  unfold Reader.record at h
  split at h
  · exact positional_invariant hkeeps hx h
  · exact keyed_invariant hkeeps hx h
  · exact absurd h refuse_ne_ok

end Reader

end DocStore.Json
