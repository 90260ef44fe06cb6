import DocStore.Json.Basic

/-!
# Equality of JSON documents is decidable

Two documents are equal if they are of the same kind and have the same parts in the same order.
Documents that were computed can therefore be compared by evaluation.
-/

namespace DocStore.Json

mutual

/-- Decide whether two documents are equal. -/
def decEq : (a b : Json) → Decidable (a = b)
  | .null, .null => isTrue rfl
  | .bool a, .bool b => decidable_of_iff (a = b) (by simp)
  | .number m, .number n => decidable_of_iff (m = n) (by simp)
  | .string s, .string t => decidable_of_iff (s = t) (by simp)
  | .array xs, .array ys =>
    match decEqElements xs ys with
    | isTrue h => isTrue (congrArg array h)
    | isFalse h => isFalse fun heq => h (array.inj heq)
  | .object ms, .object ns =>
    match decEqMembers ms ns with
    | isTrue h => isTrue (congrArg object h)
    | isFalse h => isFalse fun heq => h (object.inj heq)
  | .null, .bool _ | .null, .number _ | .null, .string _ | .null, .array _ | .null, .object _ =>
    isFalse nofun
  | .bool _, .null | .bool _, .number _ | .bool _, .string _ | .bool _, .array _
  | .bool _, .object _ => isFalse nofun
  | .number _, .null | .number _, .bool _ | .number _, .string _ | .number _, .array _
  | .number _, .object _ => isFalse nofun
  | .string _, .null | .string _, .bool _ | .string _, .number _ | .string _, .array _
  | .string _, .object _ => isFalse nofun
  | .array _, .null | .array _, .bool _ | .array _, .number _ | .array _, .string _
  | .array _, .object _ => isFalse nofun
  | .object _, .null | .object _, .bool _ | .object _, .number _ | .object _, .string _
  | .object _, .array _ => isFalse nofun

/-- Element by element. -/
def decEqElements : (xs ys : List Json) → Decidable (xs = ys)
  | [], [] => isTrue rfl
  | [], _ :: _ => isFalse nofun
  | _ :: _, [] => isFalse nofun
  | x :: xs, y :: ys =>
    match decEq x y, decEqElements xs ys with
    | isTrue hx, isTrue hxs => isTrue (by rw [hx, hxs])
    | isFalse hx, _ => isFalse fun heq => hx (List.cons.inj heq).1
    | _, isFalse hxs => isFalse fun heq => hxs (List.cons.inj heq).2

/-- Member by member. -/
def decEqMembers : (ms ns : List (String × Json)) → Decidable (ms = ns)
  | [], [] => isTrue rfl
  | [], _ :: _ => isFalse nofun
  | _ :: _, [] => isFalse nofun
  | (key, x) :: ms, (key', y) :: ns =>
    match decEq x y, decEqMembers ms ns with
    | isTrue hx, isTrue hms =>
      decidable_of_iff (key = key') (by simp [hx, hms])
    | isFalse hx, _ => isFalse fun heq => hx (Prod.mk.inj (List.cons.inj heq).1).2
    | _, isFalse hms => isFalse fun heq => hms (List.cons.inj heq).2

end

instance : DecidableEq Json := decEq

end DocStore.Json
