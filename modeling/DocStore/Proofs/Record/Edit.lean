import DocStore.Proofs.Acl.Setting
import DocStore.Proofs.Record.Merge
import DocStore.Record.Reference

/-!
# Changes that callers make to records

Callers set and remove attributes and change the access control list (`Record.Edit`); a value that a
server is to compute, as an increment, is an attribute like any other.  A change whose name is
reserved is refused and leaves the record as it was.

* `Record.edit_cases` : all that a change can do: set an attribute that is not reserved, remove one,
  or replace the access control list;
* `Record.identity_editAll`, `Record.get?_edit_of_ne` : so class and id are never changed, nor an
  attribute that the change does not write;
* `Record.get?_edit`, `Record.lastWritten` : what a change leaves under a name, and what the last one
  of many has left there;
* `Record.WellNamed` : no attribute has a reserved name; changes and merges of any documents keep it
  so.
-/

namespace DocStore.Record

/-- A change that a caller makes. -/
inductive Edit where
  | set (key : String) (value : Json)
  | setReference (key : String) (other : Record)
  | increment (key : String) (amount : Int)
  | deleteField (key : String)
  | remove (key : String)
  /-- Settings of the list, which is empty if there was none. -/
  | grant (settings : List Acl.Setting)
  | setAcl (acl : Acl)
  | clearAcl

/-- The attribute that a change writes, if any. -/
def Edit.key? : Edit → Option String
  | .set key _ | .setReference key _ | .increment key _ | .deleteField key | .remove key => some key
  | .grant _ | .setAcl _ | .clearAcl => none

/-- The record after a change. -/
def edit (r : Record) : Edit → Record
  | .set key value => (r.set? key value).getD r
  | .setReference key other => (r.setReference? key other).getD r
  | .increment key amount => (r.increment? key amount).getD r
  | .deleteField key => (r.deleteField? key).getD r
  | .remove key => r.remove key
  | .grant settings => r.modifyAcl (·.setAll settings)
  | .setAcl acl => { r with acl := some acl }
  | .clearAcl => { r with acl := none }

/-- The record after changes, one after the other. -/
def editAll (r : Record) (edits : List Edit) : Record := edits.foldl edit r

theorem set?_getD (r : Record) (key : String) (value : Json) :
    (r.set? key value).getD r = if key ∈ reserved then r else r.setAttribute key value := by
  unfold set?
  split <;> rfl

/-- What a change can do. -/
theorem edit_cases (r : Record) (e : Edit) :
    (∃ key value, e.key? = some key ∧ key ∉ reserved ∧ r.edit e = r.setAttribute key value) ∨
      (∃ key, e.key? = some key ∧ r.edit e = r.remove key) ∨
      ∃ acl, r.edit e = { r with acl } := by
  -- All changes of a value are the same change, with a value of their own.
  have hset : ∀ key value,
      (∃ k v, some key = some k ∧ k ∉ reserved ∧
        (r.set? key value).getD r = r.setAttribute k v) ∨
      (∃ k, some key = some k ∧ (r.set? key value).getD r = r.remove k) ∨
      ∃ acl, (r.set? key value).getD r = { r with acl } := by
    intro key value
    rw [set?_getD]
    split
    · exact .inr (.inr ⟨r.acl, rfl⟩)
    · exact .inl ⟨key, value, rfl, ‹_›, rfl⟩
  cases e with
  | set key value => exact hset key value
  | setReference key other => exact hset key _
  | increment key amount => exact hset key _
  | deleteField key => exact hset key _
  | remove key => exact .inr (.inl ⟨key, rfl, rfl⟩)
  | grant settings => exact .inr (.inr ⟨_, rfl⟩)
  | setAcl acl => exact .inr (.inr ⟨_, rfl⟩)
  | clearAcl => exact .inr (.inr ⟨_, rfl⟩)

/-- Changes leave class and id alone. -/
theorem identity_editAll (r : Record) (edits : List Edit) :
    (r.editAll edits).className = r.className ∧ (r.editAll edits).objectId = r.objectId := by
  unfold editAll
  induction edits generalizing r with
  | nil => exact ⟨rfl, rfl⟩
  | cons e edits ih =>
    have hstep : (r.edit e).className = r.className ∧ (r.edit e).objectId = r.objectId := by
      obtain ⟨_, _, -, -, heq⟩ | ⟨_, -, heq⟩ | ⟨_, heq⟩ := r.edit_cases e <;> rw [heq] <;>
        exact ⟨rfl, rfl⟩
    rw [List.foldl_cons, (ih _).1, (ih _).2]
    exact hstep

/-- A change leaves the attributes alone that it does not write. -/
theorem get?_edit_of_ne (r : Record) {e : Edit} {key : String} (he : e.key? ≠ some key) :
    (r.edit e).get? key = r.get? key := by
  have hne : ∀ key', e.key? = some key' → key' ≠ key := fun key' hkey heq => he (heq ▸ hkey)
  obtain ⟨key', value, hkey, -, heq⟩ | ⟨key', hkey, heq⟩ | ⟨acl, heq⟩ := r.edit_cases e
  · rw [heq, get?_setAttribute, if_neg (hne key' hkey)]
  · rw [heq, get?_remove, if_neg (hne key' hkey)]
  · rw [heq]
    rfl

/-! ### What changes leave under a name -/

/-- The name that a change writes, with the value that it leaves there, if any. -/
def Edit.write? : Edit → Option (String × Option Json)
  | .set key value => some (key, some value)
  | .setReference key other => some (key, some other.pointer)
  | .increment key amount =>
    some (key, some (.object [("__op", .string "Increment"), ("amount", .int amount)]))
  | .deleteField key => some (key, some (.object [("__op", .string "Delete")]))
  | .remove key => some (key, none)
  | .grant _ | .setAcl _ | .clearAcl => none

/-- What the last change that writes a name has left there. -/
def lastWritten (key : String) (edits : List Edit) : Option Json :=
  ((edits.filterMap Edit.write?).reverse.find? (·.1 = key)).bind Prod.snd

/-- A change leaves its value under the name that it writes, unless this is reserved. -/
theorem get?_edit (r : Record) (e : Edit) {key : String} (hkey : key ∉ reserved) :
    (r.edit e).get? key =
      match e.write? with
      | some (key', value) => if key' = key then value else r.get? key
      | none => r.get? key := by
  have hset : ∀ key' value, ((r.set? key' value).getD r).get? key =
      if key' = key then some value else r.get? key := by
    intro key' value
    rw [set?_getD]
    split
    · rename_i hreserved
      have hne : key' ≠ key := fun heq => hkey (heq ▸ hreserved)
      rw [if_neg hne]
    · exact r.get?_setAttribute key' key value
  cases e with
  | set key' value => exact hset key' value
  | setReference key' other => exact hset key' _
  | increment key' amount => exact hset key' _
  | deleteField key' => exact hset key' _
  | remove key' => exact r.get?_remove key' key
  | grant settings => rfl
  | setAcl acl => rfl
  | clearAcl => rfl

/-- One more change leaves its own value under the name that it writes. -/
theorem lastWritten_concat (key : String) (edits : List Edit) (e : Edit) :
    lastWritten key (edits ++ [e]) =
      match e.write? with
      | some (key', value) => if key' = key then value else lastWritten key edits
      | none => lastWritten key edits := by
  unfold lastWritten
  rw [List.filterMap_append, List.filterMap_cons, List.filterMap_nil]
  cases e.write? with
  | none => simp
  | some write =>
    obtain ⟨key', value⟩ := write
    by_cases hkey : key' = key <;> simp [hkey]

/-! ### Reserved names -/

/-- No attribute has a reserved name. -/
def WellNamed (r : Record) : Prop := ∀ key ∈ reserved, key ∉ r.attributes.keys

theorem wellNamed_new {r : Record} (h : r.attributes = []) : r.WellNamed := by
  intro key _
  rw [h]
  exact List.not_mem_nil

variable {r : Record}

theorem WellNamed.setAttribute (h : r.WellNamed) {key : String} (hkey : key ∉ reserved)
    (value : Json) : (r.setAttribute key value).WellNamed := by
  intro name hname hmem
  rcases Members.mem_keys_insert.1 hmem with rfl | hmem
  · exact hkey hname
  · exact h name hname hmem

theorem WellNamed.remove (h : r.WellNamed) (key : String) : (r.remove key).WellNamed :=
  fun name hname hmem => h name hname ((Members.keys_erase_sublist r.attributes key).mem hmem)

theorem WellNamed.edit (h : r.WellNamed) (e : Edit) : (r.edit e).WellNamed := by
  obtain ⟨key, value, -, hkey, heq⟩ | ⟨key, -, heq⟩ | ⟨acl, heq⟩ := r.edit_cases e
  · rw [heq]
    exact h.setAttribute hkey value
  · rw [heq]
    exact h.remove key
  · rw [heq]
    exact h

theorem WellNamed.editAll (h : r.WellNamed) (edits : List Edit) : (r.editAll edits).WellNamed := by
  unfold Record.editAll
  induction edits generalizing r with
  | nil => exact h
  | cons e edits ih => exact ih (h.edit e)

/-- Whatever a document holds, its reserved names do not become attributes. -/
theorem WellNamed.merge (h : r.WellNamed) (document : Json) : (r.merge document).WellNamed := by
  cases document with
  | object entries =>
    intro name hname hmem
    rw [Record.merge, attributes_mergeMembers] at hmem
    rcases Members.mem_keys_overlay.1 hmem with hmem | hmem
    · exact h name hname hmem
    · obtain ⟨entry, hentry, rfl⟩ := List.mem_map.1 hmem
      have hattribute := (List.mem_filter.1 hentry).2
      simp [isAttributeName, hname] at hattribute
  | _ => exact h

end DocStore.Record
