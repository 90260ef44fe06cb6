/-!
# Members in insertion order

`Members α` lists values by name, in the order in which the names were first added. It is the shape
of a JSON object, of a record's attributes, of an access control list and of a filter document.

* `Members.insert` overwrites a name in place and appends a new one;
* `Members.erase` removes a name and leaves no gap, so that a name added again goes to the end;
* `Members.overlay` inserts every member of a second list, in that list's order.

The keys never repeat in a list built by these operations (`nodup_keys_insert`,
`nodup_keys_erase`, `nodup_keys_overlay`), and `get?` reads back the last value inserted
(`get?_insert`).
-/

namespace DocStore

/-- Values by name, in the order in which the names were first added. -/
abbrev Members (α : Type) := List (String × α)

namespace Members

variable {α : Type}

/-- The names, in order. -/
def keys (m : Members α) : List String := m.map Prod.fst

/-- The value stored under a name. -/
def get? : Members α → String → Option α
  | [], _ => none
  | (k, v) :: m, key => if k = key then some v else get? m key

/-- Whether a name is present. -/
def contains (m : Members α) (key : String) : Bool := (m.get? key).isSome

/-- Store a value: in place if the name is present, at the end if it is not. -/
def insert : Members α → String → α → Members α
  | [], key, value => [(key, value)]
  | (k, v) :: m, key, value =>
    if k = key then (k, value) :: m else (k, v) :: insert m key value

/-- Remove a name. -/
def erase : Members α → String → Members α
  | [], _ => []
  | (k, v) :: m, key => if k = key then m else (k, v) :: erase m key

/-- Insert every member of `n`, in the order of `n`. -/
def overlay (m n : Members α) : Members α :=
  n.foldl (fun m entry => m.insert entry.1 entry.2) m

/-- The members as a reader keeps them: the first place and the last value of each name. -/
def ofList (entries : List (String × α)) : Members α := overlay [] entries

/-! ### Laws -/

theorem get?_insert (m : Members α) (key key' : String) (value : α) :
    (m.insert key value).get? key' = if key = key' then some value else m.get? key' := by
  induction m with
  | nil => rfl
  | cons entry m ih =>
    obtain ⟨k, v⟩ := entry
    by_cases hk : k = key
    · subst hk
      by_cases hk' : k = key' <;> simp [insert, get?, hk']
    · rw [insert, if_neg hk, get?, get?, ih]
      by_cases hk' : k = key'
      · have h : key ≠ key' := fun h => hk (hk'.trans h.symm)
        rw [if_pos hk', if_pos hk', if_neg h]
      · simp [hk']

theorem mem_keys_iff (m : Members α) (key : String) : key ∈ m.keys ↔ (m.get? key).isSome := by
  induction m with
  | nil => simp [keys, get?]
  | cons entry m ih =>
    obtain ⟨k, v⟩ := entry
    by_cases hk : k = key
    · simp [keys, get?, hk]
    · have hk' : key ≠ k := fun h => hk h.symm
      simpa [keys, get?, hk, hk'] using ih

/-- Inserting keeps the order of the names and appends a new one. -/
theorem keys_insert (m : Members α) (key : String) (value : α) :
    (m.insert key value).keys = if key ∈ m.keys then m.keys else m.keys ++ [key] := by
  induction m with
  | nil => simp [insert, keys]
  | cons entry m ih =>
    obtain ⟨k, v⟩ := entry
    by_cases hk : k = key
    · simp [insert, keys, hk]
    · have hk' : key ≠ k := fun h => hk h.symm
      simp only [keys, List.mem_map] at ih
      by_cases hm : key ∈ m.map Prod.fst
      · simp_all [insert, keys]
      · simp_all [insert, keys]

theorem nodup_keys_nil : (keys ([] : Members α)).Nodup := .nil

theorem nodup_keys_insert {m : Members α} (h : m.keys.Nodup) (key : String) (value : α) :
    (m.insert key value).keys.Nodup := by
  rw [keys_insert]
  split
  · exact h
  · rename_i hk
    refine List.nodup_append.2 ⟨h, by simp, ?_⟩
    intro a ha b hb
    simp only [List.mem_singleton] at hb
    exact fun hab => hk (by rw [← hb, ← hab]; exact ha)

theorem keys_erase_sublist (m : Members α) (key : String) : (m.erase key).keys.Sublist m.keys := by
  induction m with
  | nil => exact .slnil
  | cons entry m ih =>
    obtain ⟨k, v⟩ := entry
    by_cases hk : k = key
    · simp [erase, keys, hk]
    · simpa [erase, keys, hk] using ih

theorem nodup_keys_erase {m : Members α} (h : m.keys.Nodup) (key : String) :
    (m.erase key).keys.Nodup :=
  (keys_erase_sublist m key).nodup h

theorem nodup_keys_overlay {m : Members α} (h : m.keys.Nodup) (n : Members α) :
    (m.overlay n).keys.Nodup := by
  induction n generalizing m with
  | nil => exact h
  | cons entry n ih => exact ih (nodup_keys_insert h entry.1 entry.2)

/-- The names of a list that was read are distinct. -/
theorem nodup_keys_ofList (entries : List (String × α)) : (ofList entries).keys.Nodup :=
  nodup_keys_overlay nodup_keys_nil entries

end Members

end DocStore
