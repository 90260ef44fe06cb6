import DocStore.Members

/-!
# The laws of overlaying

What `Members.overlay` does to a list of members, beyond `Members.get?_insert` and
`Members.keys_insert`:

* `Members.overlay_overlay` : overlaying is associative, **order included**: a list laid over a
  list that is laid over a third one can be laid over the second one first;
* `Members.overlay_overlay_self` : laying the same list over twice is laying it over once;
* `Members.get?_overlay` : a name of the upper list reads the upper list's value, every other
  name the lower one's;
* `Members.keys_overlay` : the names of the lower list keep their places, and those that only the
  upper list has follow;
* `Members.filter_overlay` : choosing members by their names commutes with overlaying.

The upper list of an associative law has to name every member once, as a document that was read
does (`Members.nodup_keys_ofList`): of a repeated name only the first place would be overwritten.
-/

namespace DocStore.Members

variable {α : Type}

/-! ### Looking up -/

@[simp] theorem keys_nil : keys ([] : Members α) = [] := rfl

@[simp] theorem keys_cons (key : String) (value : α) (m : Members α) :
    keys ((key, value) :: m) = key :: m.keys := rfl

theorem get?_cons (k : String) (v : α) (m : Members α) (key : String) :
    get? ((k, v) :: m) key = if k = key then some v else m.get? key := rfl

theorem get?_eq_none_iff {m : Members α} {key : String} : m.get? key = none ↔ key ∉ m.keys := by
  rw [mem_keys_iff, Bool.not_eq_true, Option.isSome_eq_false_iff, Option.isNone_iff_eq_none]

theorem mem_of_get? {m : Members α} {key : String} {value : α} (h : m.get? key = some value) :
    (key, value) ∈ m := by
  induction m with
  | nil => cases h
  | cons first m ih =>
    obtain ⟨k, v⟩ := first
    rw [get?_cons] at h
    by_cases hk : k = key
    · simp_all
    · rw [if_neg hk] at h
      exact List.mem_cons_of_mem _ (ih h)

/-- A member of a list without repeated names is what its name reads. -/
theorem get?_of_mem {m : Members α} (hm : m.keys.Nodup) {entry : String × α} (h : entry ∈ m) :
    m.get? entry.1 = some entry.2 := by
  induction m with
  | nil => cases h
  | cons first m ih =>
    obtain ⟨k, v⟩ := first
    obtain ⟨hk, hm⟩ := List.nodup_cons.1 hm
    rw [get?_cons]
    rcases List.mem_cons.1 h with rfl | h
    · simp
    · have hne : k ≠ entry.1 := by
        intro hkey
        exact hk (by simpa [hkey] using List.mem_map_of_mem (f := Prod.fst) h)
      rw [if_neg hne, ih hm h]

/-- Erasing a name erases it altogether if no name is repeated. -/
theorem get?_erase {m : Members α} (hm : m.keys.Nodup) (key key' : String) :
    (m.erase key).get? key' = if key = key' then none else m.get? key' := by
  induction m with
  | nil => simp [erase, get?]
  | cons first m ih =>
    obtain ⟨k, v⟩ := first
    obtain ⟨hk, hm⟩ := List.nodup_cons.1 hm
    by_cases hkey : k = key
    · subst hkey
      rw [erase, if_pos rfl, get?_cons]
      by_cases h : k = key'
      · subst h
        simpa using get?_eq_none_iff.2 hk
      · simp [h]
    · rw [erase, if_neg hkey, get?_cons, get?_cons, ih hm]
      by_cases h : k = key'
      · simp [h, Ne.symm (h ▸ hkey)]
      · simp [h]

/-- Two lists are the same if they have the same names in the same order, with the same values. -/
theorem eq_of_get? {m n : Members α} (hm : m.keys.Nodup) (hkeys : m.keys = n.keys)
    (hget : ∀ key, m.get? key = n.get? key) : m = n := by
  induction m generalizing n with
  | nil => exact (List.map_eq_nil_iff.1 hkeys.symm).symm
  | cons first m ih =>
    obtain ⟨k, v⟩ := first
    cases n with
    | nil => cases hkeys
    | cons second n =>
      obtain ⟨k', v'⟩ := second
      obtain ⟨rfl, hrest⟩ : k = k' ∧ keys m = keys n := List.cons.inj hkeys
      obtain ⟨hk, hm⟩ := List.nodup_cons.1 hm
      have hfirst := hget k
      rw [get?_cons, get?_cons, if_pos rfl, if_pos rfl] at hfirst
      cases hfirst
      refine congrArg _ (ih hm hrest fun key => ?_)
      by_cases hkey : k = key
      · subst hkey
        rw [get?_eq_none_iff.2 hk, get?_eq_none_iff.2 (hrest ▸ hk)]
      · have hnext := hget key
        rwa [get?_cons, get?_cons, if_neg hkey, if_neg hkey] at hnext

/-- Two lists are the same but for the order of their members if every name reads the same. -/
theorem perm_of_get? {m n : Members α} (hm : m.keys.Nodup) (hn : n.keys.Nodup)
    (hget : ∀ key, m.get? key = n.get? key) : m.Perm n := by
  have hentries : ∀ {l : Members α}, l.keys.Nodup → l.Nodup := fun hl =>
    (List.pairwise_map.1 hl).imp fun hne heq => hne (congrArg Prod.fst heq)
  have hmem : ∀ {l : Members α}, l.keys.Nodup → ∀ entry : String × α,
      entry ∈ l ↔ l.get? entry.1 = some entry.2 := fun hl _ => ⟨get?_of_mem hl, mem_of_get?⟩
  refine (List.perm_ext_iff_of_nodup (hentries hm) (hentries hn)).2 fun entry => ?_
  rw [hmem hm, hmem hn, hget]

/-- Changing the values of all members changes what each name reads. -/
theorem get?_map {β : Type} (f : String → α → β) (m : Members α) (key : String) :
    get? (m.map fun entry => (entry.1, f entry.1 entry.2)) key = (m.get? key).map (f key) := by
  induction m with
  | nil => rfl
  | cons first m ih =>
    obtain ⟨k, v⟩ := first
    rw [List.map_cons, get?_cons, get?_cons, ih]
    by_cases hk : k = key
    · subst hk
      simp
    · simp [hk]

/-! ### Inserting twice -/

theorem insert_of_get? {m : Members α} {key : String} {value : α} (h : m.get? key = some value) :
    m.insert key value = m := by
  induction m with
  | nil => cases h
  | cons first m ih =>
    obtain ⟨k, v⟩ := first
    rw [get?_cons] at h
    by_cases hk : k = key
    · simp_all [insert]
    · rw [if_neg hk] at h
      rw [insert, if_neg hk, ih h]

theorem insert_of_notMem {m : Members α} {key : String} (h : key ∉ m.keys) (value : α) :
    m.insert key value = m ++ [(key, value)] := by
  induction m with
  | nil => rfl
  | cons first m ih =>
    obtain ⟨k, v⟩ := first
    simp only [keys_cons, List.mem_cons, not_or] at h
    rw [insert, if_neg (Ne.symm h.1), ih h.2, List.cons_append]

theorem insert_insert (m : Members α) (key : String) (value value' : α) :
    (m.insert key value).insert key value' = m.insert key value' := by
  induction m with
  | nil => simp [insert]
  | cons first m ih =>
    obtain ⟨k, v⟩ := first
    by_cases hk : k = key
    · simp [insert, hk]
    · simp [insert, hk, ih]

/-- Two names can be inserted in either order if the one inserted last was there before. -/
theorem insert_comm {m : Members α} {key key' : String} (hne : key ≠ key') (h : key' ∈ m.keys)
    (value value' : α) :
    (m.insert key value).insert key' value' = (m.insert key' value').insert key value := by
  induction m with
  | nil => cases h
  | cons first m ih =>
    obtain ⟨k, v⟩ := first
    by_cases hk : k = key
    · subst hk
      simp [insert, hne]
    · by_cases hk' : k = key'
      · subst hk'
        simp [insert, hne.symm]
      · have hm : key' ∈ keys m := by simpa [Ne.symm hk'] using h
        simp [insert, hk, hk', ih hm]

/-! ### Overlaying -/

@[simp] theorem overlay_nil (m : Members α) : m.overlay [] = m := rfl

@[simp] theorem overlay_cons (m : Members α) (key : String) (value : α) (n : Members α) :
    m.overlay ((key, value) :: n) = (m.insert key value).overlay n := rfl

/-- An old name that is not laid over can be overwritten before or after. -/
theorem overlay_insert_of_notMem {m n : Members α} {key : String} (hm : key ∈ m.keys)
    (hn : key ∉ n.keys) (value : α) :
    (m.overlay n).insert key value = (m.insert key value).overlay n := by
  induction n generalizing m with
  | nil => rfl
  | cons first n ih =>
    obtain ⟨k, v⟩ := first
    simp only [keys_cons, List.mem_cons, not_or] at hn
    have hmem : key ∈ (m.insert k v).keys := by
      rw [keys_insert]
      split <;> simp [hm]
    rw [overlay_cons, overlay_cons, ih hmem hn.2, insert_comm (Ne.symm hn.1) hm]

/-- Inserting into an overlaid list is inserting into the list laid over. -/
theorem insert_overlay (m : Members α) {n : Members α} (hn : n.keys.Nodup) (key : String)
    (value : α) : (m.overlay n).insert key value = m.overlay (n.insert key value) := by
  induction n generalizing m with
  | nil => rfl
  | cons first n ih =>
    obtain ⟨k, v⟩ := first
    obtain ⟨hk, hn⟩ := List.nodup_cons.1 hn
    by_cases hkey : k = key
    · -- The first value comes to nothing, but it fixes the place of the name.
      subst hkey
      have hmem : k ∈ (m.insert k v).keys := by simp [mem_keys_iff, get?_insert]
      rw [overlay_cons, overlay_insert_of_notMem hmem hk, insert_insert]
      simp [insert]
    · rw [overlay_cons, ih _ hn]
      simp [insert, hkey]

theorem mem_keys_insert {m : Members α} {key key' : String} {value : α} :
    key' ∈ (m.insert key value).keys ↔ key' = key ∨ key' ∈ m.keys := by
  rw [mem_keys_iff, get?_insert, mem_keys_iff]
  by_cases h : key = key'
  · simp [h]
  · simp [h, Ne.symm h]

theorem mem_keys_overlay {m n : Members α} {key : String} :
    key ∈ (m.overlay n).keys ↔ key ∈ m.keys ∨ key ∈ n.keys := by
  induction n generalizing m with
  | nil => simp
  | cons first n ih =>
    obtain ⟨k, v⟩ := first
    rw [overlay_cons, ih, mem_keys_insert, keys_cons, List.mem_cons, or_assoc, or_left_comm]

theorem mem_of_mem_insert {m : Members α} {key : String} {value : α} {entry : String × α}
    (h : entry ∈ m.insert key value) : entry ∈ m ∨ entry = (key, value) := by
  induction m with
  | nil => exact .inr (List.mem_singleton.1 h)
  | cons first m ih =>
    rw [insert] at h
    split at h
    · rename_i hk
      rcases List.mem_cons.1 h with rfl | h
      · exact .inr (by rw [hk])
      · exact .inl (List.mem_cons_of_mem _ h)
    · rcases List.mem_cons.1 h with rfl | h
      · exact .inl List.mem_cons_self
      · exact (ih h).imp_left (List.mem_cons_of_mem _)

theorem mem_of_mem_overlay {m n : Members α} {entry : String × α} (h : entry ∈ m.overlay n) :
    entry ∈ m ∨ entry ∈ n := by
  induction n generalizing m with
  | nil => exact .inl h
  | cons first n ih =>
    rcases ih h with h | h
    · exact (mem_of_mem_insert h).imp_right fun heq => List.mem_cons.2 (.inl heq)
    · exact .inr (List.mem_cons_of_mem _ h)

/-- What a reader keeps was written. -/
theorem mem_of_mem_ofList {entries : List (String × α)} {entry : String × α}
    (h : entry ∈ ofList entries) : entry ∈ entries :=
  (mem_of_mem_overlay h).resolve_left List.not_mem_nil

/-- The names of the lower list keep their places, and the other ones follow in their own order. -/
theorem keys_overlay (m : Members α) {n : Members α} (hn : n.keys.Nodup) :
    (m.overlay n).keys = m.keys ++ n.keys.filter (· ∉ m.keys) := by
  induction n generalizing m with
  | nil => simp
  | cons first n ih =>
    obtain ⟨k, v⟩ := first
    obtain ⟨hk, hn⟩ := List.nodup_cons.1 hn
    rw [overlay_cons, ih _ hn, keys_insert, keys_cons]
    by_cases hmem : k ∈ m.keys
    · simp [hmem]
    · -- The name is new, and it does not occur again further on.
      have hrest : (keys n).filter (· ∉ m.keys ++ [k]) = (keys n).filter (· ∉ m.keys) := by
        refine List.filter_congr fun key hkey => ?_
        have hne : key ≠ k := fun heq => hk (heq ▸ hkey)
        simp [hne]
      rw [if_neg hmem, hrest, List.filter_cons_of_pos (by simpa using hmem), List.append_assoc,
        List.singleton_append]

/-- New names are appended in their order. -/
theorem overlay_of_nodup {m n : Members α} (h : (keys (m ++ n)).Nodup) : m.overlay n = m ++ n := by
  induction n generalizing m with
  | nil => rw [overlay_nil, List.append_nil]
  | cons first n ih =>
    obtain ⟨k, v⟩ := first
    have hk : k ∉ m.keys := by
      simp only [keys, List.map_append, List.map_cons, List.nodup_append, List.mem_cons] at h
      exact fun hmem => h.2.2 k hmem k (.inl rfl) rfl
    rw [overlay_cons, insert_of_notMem hk, ih (by simpa using h), List.append_assoc,
      List.singleton_append]

/-- A reader keeps a list without repeated names as it is. -/
theorem ofList_of_nodup {n : Members α} (h : n.keys.Nodup) : ofList n = n :=
  overlay_of_nodup (m := []) h

/-- Members are laid over under their own names only. -/
theorem get?_overlay_of_notMem (m : Members α) {n : Members α} {key : String} (h : key ∉ n.keys) :
    (m.overlay n).get? key = m.get? key := by
  induction n generalizing m with
  | nil => rfl
  | cons first n ih =>
    obtain ⟨k, v⟩ := first
    simp only [keys_cons, List.mem_cons, not_or] at h
    rw [overlay_cons, ih _ h.2, get?_insert, if_neg (Ne.symm h.1)]

/-- **Overlaying is associative**, the order of the members included. -/
theorem overlay_overlay (m : Members α) {a : Members α} (ha : a.keys.Nodup) (n : Members α) :
    (m.overlay a).overlay n = m.overlay (a.overlay n) := by
  induction n generalizing a with
  | nil => rfl
  | cons first n ih =>
    rw [overlay_cons, overlay_cons, insert_overlay m ha, ih (nodup_keys_insert ha _ _)]

/-- Laying members over is laying over the list that a reader keeps of them. -/
theorem overlay_ofList (m n : Members α) : m.overlay (ofList n) = m.overlay n :=
  (overlay_overlay m nodup_keys_nil n).symm

/-- Members that are there already change nothing. -/
theorem overlay_of_get? {m n : Members α} (h : ∀ entry ∈ n, m.get? entry.1 = some entry.2) :
    m.overlay n = m := by
  induction n with
  | nil => rfl
  | cons first n ih =>
    rw [overlay_cons, insert_of_get? (h first List.mem_cons_self)]
    exact ih fun entry hentry => h entry (List.mem_cons_of_mem _ hentry)

/-- **Laying the same members over twice is laying them over once**, also when they repeat a
name. -/
theorem overlay_overlay_self (m n : Members α) : (m.overlay n).overlay n = m.overlay n := by
  -- Associativity needs a list that names every member once: the one that a reader keeps.
  have hn := nodup_keys_ofList n
  have hself : (ofList n).overlay (ofList n) = ofList n :=
    overlay_of_get? fun entry hentry => get?_of_mem hn hentry
  rw [← overlay_ofList m n, ← overlay_ofList (m.overlay (ofList n)) n, overlay_overlay m hn, hself]

/-- The upper list decides what its names read, and the lower list all other names. -/
theorem get?_overlay (m : Members α) {n : Members α} (hn : n.keys.Nodup) (key : String) :
    (m.overlay n).get? key = (n.get? key).or (m.get? key) := by
  induction n generalizing m with
  | nil => rfl
  | cons first n ih =>
    obtain ⟨k, v⟩ := first
    obtain ⟨hk, hn⟩ := List.nodup_cons.1 hn
    rw [overlay_cons, ih _ hn, get?_insert, get?_cons]
    by_cases hkey : k = key
    · subst hkey
      simp [get?_eq_none_iff.2 hk]
    · simp [hkey]

/-! ### Choosing members by name -/

theorem filter_insert (p : String → Bool) (m : Members α) (key : String) (value : α) :
    (m.insert key value).filter (fun entry => p entry.1) =
      if p key then insert (m.filter fun entry => p entry.1) key value
      else m.filter fun entry => p entry.1 := by
  induction m with
  | nil => simp [insert, List.filter_cons]
  | cons first m ih =>
    obtain ⟨k, v⟩ := first
    by_cases hk : k = key
    · subst hk
      by_cases hp : p k <;> simp [insert, hp]
    · by_cases hp : p k <;> by_cases hp' : p key <;> simp_all [insert]

theorem keys_filter (p : String → Bool) (m : Members α) :
    keys (m.filter fun entry => p entry.1) = m.keys.filter p := by
  rw [keys, keys, List.filter_map]
  rfl

theorem get?_append (m n : Members α) (key : String) :
    get? (m ++ n) key = (m.get? key).or (n.get? key) := by
  induction m with
  | nil => rfl
  | cons first m ih =>
    obtain ⟨k, v⟩ := first
    rw [List.cons_append, get?_cons, get?_cons, ih]
    split <;> rfl

theorem get?_filter (p : String → Bool) (m : Members α) (key : String) :
    get? (m.filter fun entry => p entry.1) key = if p key then m.get? key else none := by
  induction m with
  | nil => simp [get?]
  | cons first m ih =>
    obtain ⟨k, v⟩ := first
    rw [get?_cons]
    by_cases hk : k = key
    · subst hk
      by_cases hp : p k <;> simp_all [get?_cons]
    · by_cases hp : p k <;> simp_all [get?_cons]

theorem filter_overlay (p : String → Bool) (m n : Members α) :
    (m.overlay n).filter (fun entry => p entry.1) =
      overlay (m.filter fun entry => p entry.1) (n.filter fun entry => p entry.1) := by
  induction n generalizing m with
  | nil => rfl
  | cons first n ih =>
    obtain ⟨k, v⟩ := first
    rw [overlay_cons, ih, filter_insert]
    by_cases hp : p k <;> simp [hp]

end DocStore.Members
