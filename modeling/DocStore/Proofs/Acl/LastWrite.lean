import Mathlib.Data.List.Induction
import DocStore.Proofs.Acl.Setting
import DocStore.Proofs.Success
import DocStore.Record.Grant
import DocStore.Role

/-!
# The last setting of a subject counts

An access control list is made by calls that name a subject in one of several ways: as it is, as
everyone, by the name of a role or by the record of a user (`Acl.Grantee`).  Each call is the setting
of one flag of one subject, or fails and changes nothing (`Acl.perform_eq`).

* `Acl.LastWriteWins` : what a list says after settings, without saying how it was made: an entry for
  each subject that was set, in the order of the first settings, and under each flag the last value;
* `Acl.lastWriteWins_setAll` : that is what settings leave, since each of them keeps it
  (`Acl.LastWriteWins.concat`);
* `Acl.last_call_counts` : so **a list is a map from subjects to grants in which the last call wins**,
  whatever calls were made on it, and a role is the subject that the role itself reports.
-/

namespace DocStore.Acl

/-! ### Settings and what is left of them -/

/-- The subject of a setting. -/
def Setting.subject : Setting → String
  | .read subject _ | .write subject _ => subject

/-- Whether a setting lets a subject read, if it says so. -/
def Setting.read? (subject : String) : Setting → Option Bool
  | .read s allowed => if s = subject then some allowed else none
  | .write .. => none

/-- Whether a setting lets a subject write, if it says so. -/
def Setting.write? (subject : String) : Setting → Option Bool
  | .write s allowed => if s = subject then some allowed else none
  | .read .. => none

/-- Whether the last setting about it lets a subject read. -/
def lastRead (settings : List Setting) (subject : String) : Bool :=
  (settings.filterMap (Setting.read? subject)).getLast?.getD false

/-- Whether the last setting about it lets a subject write. -/
def lastWrite (settings : List Setting) (subject : String) : Bool :=
  (settings.filterMap (Setting.write? subject)).getLast?.getD false

/-- A list says of every subject what the last settings say. -/
structure LastWriteWins (settings : List Setting) (a : Acl) : Prop where
  distinct : a.Distinct
  /-- The subjects stand in the order in which they were first set. -/
  order : a.grants.keys = (settings.map Setting.subject).eraseDups
  readable : ∀ subject, a.isReadable subject = lastRead settings subject
  writable : ∀ subject, a.isWritable subject = lastWrite settings subject

/-- A subject that is set for the first time is appended. -/
theorem keys_set (a : Acl) (setting : Setting) :
    (a.set setting).grants.keys =
      if setting.subject ∈ a.grants.keys then a.grants.keys
      else a.grants.keys ++ [setting.subject] := by
  cases setting <;> exact Members.keys_insert a.grants _ _

theorem isReadable_set (a : Acl) (setting : Setting) (subject : String) :
    (a.set setting).isReadable subject =
      (setting.read? subject).getD (a.isReadable subject) := by
  cases setting with
  | read s allowed =>
    rw [set, isReadable, grant_setReadable]
    by_cases h : s = subject <;> simp [Setting.read?, h, isReadable]
  | write s allowed =>
    rw [set, isReadable, grant_setWritable]
    by_cases h : s = subject <;> simp [Setting.read?, h, isReadable]

theorem isWritable_set (a : Acl) (setting : Setting) (subject : String) :
    (a.set setting).isWritable subject =
      (setting.write? subject).getD (a.isWritable subject) := by
  cases setting with
  | read s allowed =>
    rw [set, isWritable, grant_setReadable]
    by_cases h : s = subject <;> simp [Setting.write?, h, isWritable]
  | write s allowed =>
    rw [set, isWritable, grant_setWritable]
    by_cases h : s = subject <;> simp [Setting.write?, h, isWritable]

/-- One more name is appended if it is new. -/
theorem eraseDups_concat (names : List String) (name : String) :
    (names ++ [name]).eraseDups =
      if name ∈ names then names.eraseDups else names.eraseDups ++ [name] := by
  rw [List.eraseDups_append]
  by_cases h : name ∈ names <;> simp [List.removeAll, List.eraseDups_cons, h]

/-- One more value is the last one. -/
theorem getLast?_filterMap_concat {α : Type} (f : α → Option Bool) (xs : List α) (x : α) :
    ((xs ++ [x]).filterMap f).getLast?.getD false =
      (f x).getD ((xs.filterMap f).getLast?.getD false) := by
  rw [List.filterMap_append, List.filterMap_cons, List.filterMap_nil]
  cases f x with
  | none => simp
  | some value => simp

theorem lastWriteWins_empty : LastWriteWins [] {} :=
  ⟨distinct_empty, rfl, fun _ => rfl, fun _ => rfl⟩

/-- **One more setting counts more than those before it.** -/
theorem LastWriteWins.concat {settings : List Setting} {a : Acl} (h : LastWriteWins settings a)
    (setting : Setting) : LastWriteWins (settings ++ [setting]) (a.set setting) := by
  constructor
  · exact h.distinct.set setting
  · rw [keys_set, h.order, List.map_append, List.map_singleton, eraseDups_concat]
    simp only [List.mem_eraseDups]
  · intro subject
    rw [isReadable_set, h.readable, lastRead, lastRead, getLast?_filterMap_concat]
  · intro subject
    rw [isWritable_set, h.writable, lastWrite, lastWrite, getLast?_filterMap_concat]

theorem lastWriteWins_setAll (settings : List Setting) :
    LastWriteWins settings (({} : Acl).setAll settings) := by
  induction settings using List.reverseRecOn with
  | nil => exact lastWriteWins_empty
  | append_singleton settings setting ih =>
    rw [setAll, List.foldl_append]
    exact ih.concat setting

/-! ### Calls -/

/-- Who is named in a call. -/
inductive Grantee where
  | named (subject : String)
  | everyone
  | role (name : String)
  | user (record : Record)

/-- The subject that stands for a grantee; a user who is not saved has none. -/
def Grantee.subject? : Grantee → Option String
  | .named subject => some subject
  | .everyone => some Acl.everyone
  | .role name => some (roleSubject name)
  | .user record => record.objectId

/-- A call that changes a list. -/
inductive Call where
  | readable (who : Grantee) (allowed : Bool)
  | writable (who : Grantee) (allowed : Bool)

/-- The setting that a call makes, if there is a subject. -/
def Call.setting? : Call → Option Setting
  | .readable who allowed => who.subject?.map (.read · allowed)
  | .writable who allowed => who.subject?.map (.write · allowed)

/-- The list that a call brings. -/
def result (a : Acl) : Call → Except Error Acl
  | .readable (.named subject) allowed => .ok (a.setReadable subject allowed)
  | .readable .everyone allowed => .ok (a.setPublicReadable allowed)
  | .readable (.role name) allowed => .ok (a.setRoleReadable name allowed)
  | .readable (.user user) allowed => a.setUserReadable user allowed
  | .writable (.named subject) allowed => .ok (a.setWritable subject allowed)
  | .writable .everyone allowed => .ok (a.setPublicWritable allowed)
  | .writable (.role name) allowed => .ok (a.setRoleWritable name allowed)
  | .writable (.user user) allowed => a.setUserWritable user allowed

/-- What a call returns, and the list after it. -/
def perform (a : Acl) (call : Call) : Outcome × Acl :=
  match a.result call with
  | .ok b => (.ok (), b)
  | .error e => (.error e, a)

/-- The list after calls, one after the other. -/
def performAll (a : Acl) (calls : List Call) : Acl :=
  calls.foldl (fun a call => (a.perform call).2) a

/-- **A call is a setting**, or it fails for want of a subject. -/
theorem perform_eq (a : Acl) (call : Call) :
    a.perform call =
      match call.setting? with
      | some setting => (.ok (), a.set setting)
      | none => (.error .missingObjectId, a) := by
  -- Only a user can be without a subject.
  cases call with
  | readable who allowed =>
    cases who with
    | user user =>
      cases hid : user.objectId <;>
        simp [perform, result, setUserReadable, Call.setting?, Grantee.subject?, hid, set]
    | _ => rfl
  | writable who allowed =>
    cases who with
    | user user =>
      cases hid : user.objectId <;>
        simp [perform, result, setUserWritable, Call.setting?, Grantee.subject?, hid, set]
    | _ => rfl

theorem performAll_eq_setAll (a : Acl) (calls : List Call) :
    a.performAll calls = a.setAll (calls.filterMap Call.setting?) := by
  unfold performAll setAll
  induction calls generalizing a with
  | nil => rfl
  | cons call calls ih =>
    rw [List.foldl_cons, ih, perform_eq, List.filterMap_cons]
    cases call.setting? <;> rfl

/-- **The last call counts.**  After any calls on an empty list no subject has two entries, the entries
stand in the order in which their subjects were first allowed or forbidden anything, and a subject may
read or write exactly if the last call about that flag of that subject allowed it.  A role is the
subject that a role of that name reports, and a user who is not saved cannot be named. -/
theorem last_call_counts (calls : List Call) :
    LastWriteWins (calls.filterMap Call.setting?) (({} : Acl).performAll calls) ∧
      (∀ (role : Role) (name : String), role.name? = some name →
        ∃ subject, role.subject? = some subject ∧ ∀ (a : Acl) (allowed : Bool),
          a.perform (.readable (.role name) allowed) = (.ok (), a.setReadable subject allowed) ∧
            a.perform (.writable (.role name) allowed) =
              (.ok (), a.setWritable subject allowed)) ∧
      ∀ user : Record, user.objectId = none → ∀ (a : Acl) (allowed : Bool),
        a.perform (.readable (.user user) allowed) = (.error .missingObjectId, a) ∧
          a.perform (.writable (.user user) allowed) = (.error .missingObjectId, a) := by
  refine ⟨?_, fun role name hname => ?_, fun user hid a allowed => ?_⟩
  · rw [performAll_eq_setAll]
    exact lastWriteWins_setAll _
  · exact ⟨"role:" ++ name, by rw [Role.subject?, hname]; rfl, fun a allowed => ⟨rfl, rfl⟩⟩
  · simp [perform_eq, Call.setting?, Grantee.subject?, hid]

/-- Here a user is allowed to read and forbidden it again, a call fails between, and a role is named
after the subject that stands for it. -/
theorem last_call_counts_moderators :
    let role : Role := ⟨({ className := "_Role" } : Record).setAttribute "name" (.string "mods")⟩
    let saved : Record := { className := "_User", objectId := some "u1" }
    let unsaved : Record := { className := "_User" }
    let calls : List Call :=
      [.readable (.user saved) true, .writable (.named "role:mods") false,
        .writable (.user unsaved) true, .writable (.role "mods") true,
        .readable .everyone true, .readable (.named "u1") false]
    let a := ({} : Acl).performAll calls
    role.name? = some "mods" ∧ role.subject? = some "role:mods" ∧ unsaved.objectId = none ∧
      a.grants.keys = ["u1", "role:mods", "*"] ∧ a.isReadable "u1" = false ∧
      a.isWritable "role:mods" = true ∧
      a.perform (.readable (.role "mods") true) = (.ok (), a.setReadable "role:mods" true) ∧
      a.perform (.readable (.user unsaved) true) = (.error .missingObjectId, a) := by
  intro role saved unsaved calls a
  have hname : role.name? = some "mods" := by decide
  have hsubject : role.subject? = some "role:mods" := by decide
  obtain ⟨hlast, hrole, huser⟩ := last_call_counts calls
  obtain ⟨subject, hreported, hperform⟩ := hrole role "mods" hname
  cases hsubject.symm.trans hreported
  exact ⟨hname, hsubject, rfl, hlast.order.trans (by decide +kernel),
    (hlast.readable "u1").trans (by decide +kernel),
    (hlast.writable "role:mods").trans (by decide +kernel), (hperform a true).1,
    (huser unsaved rfl a true).1⟩

end DocStore.Acl
