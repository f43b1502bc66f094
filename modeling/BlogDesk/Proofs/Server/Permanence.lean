import BlogDesk.Proofs.Server.Refusals
import BlogDesk.Proofs.Server.Replies
import BlogDesk.Proofs.Server.RoundTrip

/-!
# Accounts stay

No request takes an account away or gives it another password or display name, so that
sessions, which are opened for accounts only, never outlive the account they are of.
A caller with a session is therefore never told that there is no such user.
-/

namespace BlogDesk.Server

open Keyed (find?)

-- ---- Callers with an account

namespace Backend

variable {backend : Backend} {session : Option String} {α β : Type}

def Spared (outcome : Except Refusal α) : Prop := outcome ≠ .error .userMissing

def Known (backend : Backend) (session : Option String) : Prop :=
  ∀ username, session = some username → ∃ account, find? username backend.accounts = some account

theorem Spared.ok (a : α) : Spared (.ok a) := nofun

theorem Spared.bind {x : Except Refusal α} {f : α → Except Refusal β} (hx : Spared x)
    (hf : ∀ a, Spared (f a)) : Spared (x >>= f) := by
  intro h
  rcases bind_eq_error.mp h with h | ⟨a, -, h⟩
  · exact hx h
  · exact hf a h

theorem Spared.map {x : Except Refusal α} (hx : Spared x) (f : α → β) : Spared (f <$> x) :=
  fun h => hx (map_eq_error.mp h)

theorem Spared.read (layout : Json.Layout α) (param : Json) : Spared (readParam layout param) := by
  intro h
  cases readParam_error h

theorem Known.caller (h : backend.Known session) : Spared (backend.caller session) := by
  intro hmissing
  cases session with
  | none => cases hmissing
  | some username =>
    obtain ⟨account, haccount⟩ := h username rfl
    rw [Backend.caller, haccount] at hmissing
    cases hmissing

theorem createUser_spared (user : NewUser) : Spared (backend.createUser user) := by
  unfold createUser
  repeat' split
  all_goals nofun

theorem Known.createBlog (h : backend.Known session) (blog : Blog) :
    Spared (backend.createBlog session blog) := by
  unfold Backend.createBlog
  split
  · nofun
  · refine h.caller.bind fun caller => ?_
    obtain ⟨username, account⟩ := caller
    simp only
    split <;> nofun

theorem Known.updateBlog (h : backend.Known session) (blog : Blog) :
    Spared (backend.updateBlog session blog) := by
  unfold Backend.updateBlog
  split
  · nofun
  · exact h.caller.bind fun _ => .ok _

theorem Known.deleteBlog (h : backend.Known session) (slug : String) :
    Spared (backend.deleteBlog session slug) := by
  refine h.caller.bind fun caller => ?_
  obtain ⟨username, account⟩ := caller
  simp only
  split <;> nofun

theorem Known.dispatch (h : backend.Known session) (method : String) (param : Json) :
    Spared (backend.dispatch session method param) := by
  rw [Backend.dispatch]
  cases Method.ofName? method with
  | none =>
    intro hunknown
    cases hunknown
  | some known =>
    cases known with
    | register => exact (Spared.read _ param).bind fun user => (createUser_spared user).map _
    | whoami => exact (h.caller.bind fun _ => .ok _).bind fun _ => .ok _
    | listBlogs => exact (h.caller.bind fun _ => .ok _).bind fun _ => .ok _
    | createBlog => exact (Spared.read _ param).bind fun blog => (h.createBlog blog).map _
    | updateBlog => exact (Spared.read _ param).bind fun blog => (h.updateBlog blog).map _
    | deleteBlog => exact (Spared.read _ param).bind fun args => (h.deleteBlog args.slug).map _

theorem Sound.session_known (h : backend.Sound) (headers : Headers) :
    backend.Known (backend.session headers) := by
  intro username hsession
  obtain ⟨id, -, hlive⟩ := Option.bind_eq_some_iff.mp hsession
  exact h.known hlive

end Backend

theorem Refusal.userMissing_of_message {refusal : Refusal} (h : refusal.message = "User does not exist") :
    refusal = .userMissing := by
  cases refusal with
  | userMissing => rfl
  | unknownMethod name =>
    have hchars : ("rpc: can't find method \"" ++ name ++ "\"").toList = "User does not exist".toList :=
      congrArg String.toList h
    rw [String.toList_append, String.toList_append] at hchars
    have hfirst : some 'r' = some 'U' := congrArg List.head? hchars
    cases hfirst
  | _ => exact absurd h (by decide)

-- ---- Requests

namespace Service

variable {ids : Nat → String} {service : Service}

theorem handle_spares (h : service.backend.Sound) (request : Incoming) {reply : Reply}
    (hbody : (service.handle ids request).1.body = Reply.layout.write reply) :
    reply.error ≠ .str "User does not exist" := by
  -- Only the text of the reply is known; the error stands at its end.
  intro herror
  generalize service.handle ids request = result, handle_handled ids service request = handled
    at hbody
  cases handled with
  | @answered call hcall =>
    have hspared := (h.session_known request.headers).dispatch call.method (call.params.head?.getD .null)
    change Reply.layout.write (service.backend.replyIn _ call).1 = _ at hbody
    rw [Backend.replyIn] at hbody
    split at hbody
    · cases herror.symm.trans (Reply.error_null_of_write hbody rfl)
    · rename_i refusal hrefused
      have hmessage := Reply.message_eq_of_write hbody rfl herror
      rw [Refusal.userMissing_of_message hmessage] at hrefused
      exact hspared hrefused
  | _ => exact reply.write_ne_empty hbody.symm

theorem run_named (h : service.backend.Named) (requests : List Incoming) :
    (run ids service requests).backend.Named := by
  induction requests generalizing service with
  | nil => exact h
  | cons request rest ih => exact ih (handle_named ids request h)

theorem run_account {username : String} {account : Account}
    (h : find? username service.backend.accounts = some account) (requests : List Incoming) :
    ∃ blogs, find? username (run ids service requests).backend.accounts =
      some { account with blogs } := by
  induction requests generalizing service account with
  | nil => exact ⟨account.blogs, h⟩
  | cons request rest ih =>
    obtain ⟨blogs, hkept, -⟩ := handle_account ids request h
    obtain ⟨later, hlater⟩ := ih hkept
    exact ⟨later, hlater⟩

-- ---- The result

/-- Whatever requests came: every session is of an account, every account has a username and a
password, whatever requests come next leave it there with its password and its display name,
and no answer says that the user does not exist. -/
theorem accounts_stay (ids : Nat → String) (requests : List Incoming) :
    let service := run ids {} requests
    (∀ id username, service.backend.sessionUser? id = some username →
      ∃ account, find? username service.backend.accounts = some account) ∧
    (∀ username account, find? username service.backend.accounts = some account →
      username ≠ "" ∧ account.password ≠ "" ∧
      ∀ more, ∃ blogs, find? username (run ids {} (requests ++ more)).backend.accounts =
        some { account with blogs }) ∧
    ∀ request reply, (service.handle ids request).1.body = Reply.layout.write reply →
      reply.error ≠ .str "User does not exist" := by
  intro service
  have hsound : service.backend.Sound := run_sound ids sound_initial requests
  have hnamed : service.backend.Named :=
    run_named (show ({} : Service).backend.Named from ⟨nofun⟩) requests
  refine ⟨fun id username hlive => hsound.known hlive, fun username account haccount => ?_,
    fun request reply => handle_spares hsound request⟩
  obtain ⟨husername, hpassword, -⟩ := hnamed.found haccount
  refine ⟨husername, hpassword, fun more => ?_⟩
  -- What comes later is a run from the service that was reached.
  have hrun : run ids {} (requests ++ more) = run ids service more := List.foldl_append ..
  rw [hrun]
  exact run_account haccount more

end Service

end BlogDesk.Server
