import DocStore.Proofs.Client.Reply
import DocStore.Proofs.Client.Session
import DocStore.Proofs.Record.Merge

/-!
# The password of the current user

The password with which a user logs in is removed before the reply is laid over the user, so it
does not reach the session by itself.  But the session is started before the password is removed
from the result, and a reply may hold a member of that name.

* `Client.current_user_password_iff` : the current user has exactly the password that the reply
  holds by which the session was started, in every interleaving of account calls;
* `Client.echoed_password_stays` : a server that echoes the password of a login leaves it in the
  session.
-/

namespace DocStore.Client

/-- A user whom a reply makes current has the password that the reply holds, and no other. -/
theorem Welcomes.password {reply : Json} {u : User} (hu : Welcomes reply u)
    (hreply : reply.HasDistinctNames) : u.record.get? "password" = reply.field? "password" := by
  have hname : Record.isAttributeName "password" := by decide
  cases hu with
  | attempted u =>
    -- The user was scrubbed before the merge, so that nothing is left but what the reply holds.
    rw [User.merge, Record.get?_merge _ hreply hname, User.scrub, Record.get?_remove, if_pos rfl,
      Option.or_none]
  | validated token =>
    have hmerge : (({} : User).merge reply).record.get? "password" = reply.field? "password" := by
      rw [User.merge, Record.get?_merge _ hreply hname]
      exact Option.or_none
    simp only [validatedUser]
    split
    · exact hmerge
    · rw [User.setText, Record.get?_setAttribute, if_neg (by decide), hmerge]

/-- A call is answered by one document. -/
theorem Answered.unique {events : List CallEvent} {reply reply' : Json} (h : Answered events reply)
    (h' : Answered events reply') : reply = reply' := by
  obtain ⟨_, _, _, rfl, hreply⟩ := h
  obtain ⟨_, _, _, hevents, hreply'⟩ := h'
  cases hevents
  exact Except.ok.inj (hreply.symm.trans hreply')

/-- **The current user has the password that the reply holds by which the session was started**,
and no other: none if the reply holds none. -/
theorem current_user_password_iff {σ : Type} {w : World σ} {flights : List (Flight σ)}
    {history : History} (h : Reached AccountCall w flights history) (value : Json) :
    (∃ u, w.session.user = some u ∧ u.record.get? "password" = some value) ↔
      ∃ earlier i token u reply, History.LastStart history earlier i token u ∧
        Answered (earlier.of i) reply ∧ reply.field? "password" = some value := by
  constructor
  · rintro ⟨u, hu, hvalue⟩
    obtain hempty | ⟨earlier, i, token, u', hlast, hstarted⟩ := session_origin h
    · rw [hempty] at hu
      cases hu
    · rw [hstarted] at hu
      cases hu
      obtain ⟨reply, hreply, hwelcomes, -⟩ := start_of_reached h hlast
      rw [hwelcomes.password hreply.hasDistinctNames] at hvalue
      exact ⟨earlier, i, token, u, reply, hlast, hreply, hvalue⟩
  · rintro ⟨earlier, i, token, u, reply, hlast, hreply, hvalue⟩
    obtain ⟨reply', hreply', hwelcomes, -⟩ := start_of_reached h hlast
    obtain rfl := hreply.unique hreply'
    refine ⟨u, by rw [h.session_eq, hlast.session]; rfl, ?_⟩
    rw [hwelcomes.password hreply.hasDistinctNames, hvalue]

/-- Here a token is exchanged for a user, and the reply holds a password. -/
theorem current_user_password_iff_validate :
    let serve := answering (.object [("username", .string "ann"), ("password", .string "secret")])
    let w := ((validate {} "r:1").run serve { server := () }).2
    ∃ flights history value, Reached AccountCall w flights history ∧
      value.asString? = some "secret" ∧
      ∃ earlier i token u reply, History.LastStart history earlier i token u ∧
        Answered (earlier.of i) reply ∧ reply.field? "password" = some value := by
  intro serve w
  have hpassword :
      w.session.user.bind (fun u => u.record.getString? "password") = some "secret" := by
    decide +kernel
  obtain ⟨flights, history, h⟩ : ∃ flights history, Reached AccountCall w flights history :=
    (Reached.empty rfl).run (AccountCall.validate {} "r:1") serve
  clear_value w
  obtain ⟨u, hu, hstring⟩ := Option.bind_eq_some_iff.1 hpassword
  obtain ⟨value, hvalue, htext⟩ := Option.bind_eq_some_iff.1 hstring
  exact ⟨flights, history, value, h, htext, (current_user_password_iff h value).1 ⟨u, hu, hvalue⟩⟩

/-- **An echoed password stays in the session**: there are a server and a login after which the
current user has the password of the login. -/
theorem echoed_password_stays :
    let serve := answering (.object [("objectId", .string "u1"), ("username", .string "ann"),
      ("sessionToken", .string "r:1"), ("password", .string "secret")])
    let w := ((login {} "ann" "secret").run serve { server := () }).2
    (∃ flights history, Reached AccountCall w flights history) ∧
      w.session.user.bind (fun u => u.record.getString? "password") = some "secret" := by
  intro serve w
  constructor
  · have h : Reached AccountCall { server := () } [] [] := .empty rfl
    exact h.run (.login {} "ann" "secret") serve
  · decide +kernel

end DocStore.Client
