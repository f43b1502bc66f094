import BlogDesk.Proofs.Server.Cookies
import BlogDesk.Proofs.Server.Isolation
import BlogDesk.Proofs.Server.Replies
import BlogDesk.Server.InPlace

/-!
# Errors leave no trace

Though what was written before a refusal stays written, a refusal changes nothing. Work in
place that is granted leads to the backend that `dispatch` hands out, and a request to the
service that `handle` hands out.
-/

namespace BlogDesk.Server.InPlace

open Keyed (find? Sorted)

-- ---- Work on a backend

section
variable {α β : Type} (backend : Backend)

@[simp] theorem on_pure (a : α) : (pure a : Work α).on backend = (.ok a, backend) := rfl

@[simp] theorem on_throw (refusal : Refusal) :
    (throw refusal : Work α).on backend = (.error refusal, backend) := rfl

@[simp] theorem on_get : (get : Work Backend).on backend = (.ok backend, backend) := rfl

@[simp] theorem on_set (next : Backend) : (set next : Work PUnit).on backend = (.ok ⟨⟩, next) := rfl

@[simp] theorem on_ofExcept (outcome : Except Refusal α) :
    (MonadExcept.ofExcept outcome : Work α).on backend = (outcome, backend) := by
  cases outcome <;> rfl

theorem on_bind (work : Work α) (next : α → Work β) :
    (work >>= next).on backend = match work.on backend with
      | (.ok a, after) => (next a).on after
      | (.error refusal, after) => (.error refusal, after) := by
  simp only [Work.on, ExceptT.run_bind, StateT.run_bind]
  obtain ⟨_ | _, _⟩ := StateT.run (ExceptT.run work) backend <;> rfl

end

-- ---- What they come to

/-- The work is refused as the operation is, with the backend as it was; or it is granted as
the operation is, and in key order the backend is the one that the operation hands out. -/
inductive Settled {α : Type} (backend : Backend) :
    Except Refusal (α × Backend) → Except Refusal α × Backend → Prop
  | refused (refusal : Refusal) : Settled backend (.error refusal) (.error refusal, backend)
  | granted {a : α} {after written : Backend} (h : Sorted backend.accounts → written = after) :
    Settled backend (.ok (a, after)) (.ok a, written)

variable {backend : Backend} {session : Option String}

theorem Settled.read {α β : Type} {x : Except Refusal α} {f : α → Except Refusal (β × Backend)}
    {work : α → Work β} (h : ∀ a, x = .ok a → Settled backend (f a) ((work a).on backend)) :
    Settled backend (x >>= f) ((MonadExcept.ofExcept x >>= work).on backend) := by
  rw [on_bind, on_ofExcept]
  cases x with
  | error refusal => exact .refused refusal
  | ok a => exact h a rfl

theorem Settled.acknowledge {x : Except Refusal Backend} {work : Work Unit}
    (h : Settled backend (((), ·) <$> x) (work.on backend)) :
    Settled backend (Backend.done <$> x) ((work >>= fun _ => pure (.object [])).on backend) := by
  rw [on_bind]
  generalize work.on backend = result at h
  cases x with
  | error refusal =>
    cases h
    exact .refused refusal
  | ok after =>
    cases h with
    | granted hwritten => exact .granted hwritten

theorem Settled.asCaller {β : Type} {f : String × Account → Except Refusal (β × Backend)}
    {work : String × Account → Work β}
    (h : ∀ username account, find? username backend.accounts = some account →
      Settled backend (f (username, account)) ((work (username, account)).on backend)) :
    Settled backend (backend.caller session >>= f) ((caller session >>= work).on backend) := by
  have hread : (caller session >>= work).on backend =
      (MonadExcept.ofExcept (backend.caller session) >>= work).on backend := by
    simp only [caller, on_bind, on_get]
  rw [hread]
  exact .read fun ⟨username, account⟩ hcaller => h username account (Backend.caller_eq_ok.mp hcaller).2

theorem on_changeBlogs (username : String)
    (f : List (String × Option String) → List (String × Option String)) :
    (changeBlogs username f).on backend = (.ok (), { backend with
      accounts := Keyed.adjust username (fun account => { account with blogs := f account.blogs })
        backend.accounts }) := by
  simp [changeBlogs, on_bind]

/-- In key order, blogs that are changed where they stand are put in with their account. -/
theorem Settled.changed {username : String} {account : Account}
    (haccount : find? username backend.accounts = some account)
    (f : List (String × Option String) → List (String × Option String)) :
    Settled backend
      (.ok ((), backend.putAccount username { account with blogs := f account.blogs }))
      (.ok (), { backend with
        accounts := Keyed.adjust username (fun account => { account with blogs := f account.blogs })
          backend.accounts }) := by
  refine .granted fun hsorted => ?_
  rw [Keyed.adjust_eq_insert hsorted haccount, Backend.putAccount]

theorem createUser_settled (user : NewUser) :
    Settled backend (((), ·) <$> backend.createUser user) ((createUser user).on backend) := by
  rw [createUser, Backend.createUser]
  split
  · exact .refused _
  · split
    · exact .refused _
    · rw [on_bind, on_get]
      simp only
      split
      · exact .refused _
      · exact .granted fun _ => rfl

theorem createBlog_settled (blog : Blog) :
    Settled backend (((), ·) <$> backend.createBlog session blog)
      ((createBlog session blog).on backend) := by
  rw [createBlog, Backend.createBlog]
  split
  · exact .refused _
  · rw [map_bind]
    refine .asCaller fun username account haccount => ?_
    simp only
    split
    · exact .refused _
    · rw [on_changeBlogs]
      exact .changed haccount (Keyed.insert blog.slug blog.displayName)

theorem updateBlog_settled (blog : Blog) :
    Settled backend (((), ·) <$> backend.updateBlog session blog)
      ((updateBlog session blog).on backend) := by
  rw [updateBlog, Backend.updateBlog]
  split
  · exact .refused _
  · rw [map_bind]
    refine .asCaller fun username account haccount => ?_
    rw [on_changeBlogs]
    exact .changed haccount (Keyed.insert blog.slug blog.displayName)

theorem deleteBlog_settled (slug : String) :
    Settled backend (((), ·) <$> backend.deleteBlog session slug)
      ((deleteBlog session slug).on backend) := by
  rw [deleteBlog, Backend.deleteBlog, map_bind]
  refine .asCaller fun username account haccount => ?_
  simp only [on_bind, on_changeBlogs]
  split
  · exact .changed haccount (Keyed.erase slug)
  -- Nothing was there to be taken out, so that taking it out first changed nothing.
  · rename_i hmissing
    have hnone : find? slug account.blogs = none :=
      Keyed.contains_eq_false.mp (Bool.eq_false_iff.mpr hmissing)
    rw [Keyed.adjust_of_eq haccount (by rw [Keyed.erase_of_find?_eq_none hnone])]
    exact .refused _

theorem dispatch_settled (backend : Backend) (session : Option String) (method : String)
    (param : Json) : Settled backend (backend.dispatch session method param)
      ((dispatch session method param).on backend) := by
  rw [dispatch, Backend.dispatch]
  cases Method.ofName? method with
  | none => exact .refused _
  | some known =>
    cases known with
    | register => exact .read fun user _ => (createUser_settled user).acknowledge
    | whoami =>
      rw [on_bind]
      exact .read fun user _ => .granted fun _ => rfl
    | listBlogs =>
      rw [on_bind]
      exact .read fun blogs _ => .granted fun _ => rfl
    | createBlog => exact .read fun blog _ => (createBlog_settled blog).acknowledge
    | updateBlog => exact .read fun blog _ => (updateBlog_settled blog).acknowledge
    | deleteBlog => exact .read fun args _ => (deleteBlog_settled args.slug).acknowledge

theorem dispatch_error {method : String} {param : Json} {refusal : Refusal} {after : Backend}
    (h : (dispatch session method param).on backend = (.error refusal, after)) : after = backend := by
  have hsettled := dispatch_settled backend session method param
  rw [h] at hsettled
  generalize backend.dispatch session method param = direct at hsettled
  cases hsettled
  rfl

theorem take_error {call : Backend.Dispatched} {refusal : Refusal} {after : Backend}
    (h : backend.take call = (.error refusal, after)) : after = backend := by
  rw [Backend.take] at h
  split at h
  · cases h
  · exact (Prod.mk.inj h).2.symm

theorem dispatch_eq (hsorted : Sorted backend.accounts) (call : Backend.Dispatched) :
    (dispatch call.session call.method call.param).on backend = backend.take call := by
  have hsettled := dispatch_settled backend call.session call.method call.param
  rw [Backend.take]
  generalize backend.dispatch call.session call.method call.param = direct,
    (dispatch call.session call.method call.param).on backend = written at hsettled
  cases hsettled with
  | refused refusal => rfl
  | granted hwritten => rw [hwritten hsorted]

-- ---- Requests

variable {ids : Nat → String} {service : Service} {request : Incoming}

theorem isHeaderText_grantCookie {id : String} (hid : IsPlainId id) :
    isHeaderText (grantCookie id) := by
  have htext {c : Char} (hc : isIdChar c) : ' ' ≤ c ∧ c ≠ '\x7f' := by
    obtain ⟨hlow, hhigh⟩ := printable_of_isIdChar hc
    exact ⟨hlow, fun heq => absurd (heq ▸ hhigh) (by decide)⟩
  have hid' : id.toList.all fun c => (' ' ≤ c && c != '\x7f') || c == '\t' := by
    refine List.all_eq_true.mpr fun c hc => ?_
    obtain ⟨hlow, hne⟩ := htext (List.all_eq_true.mp hid c hc)
    simp [hlow, hne]
  simp only [isHeaderText, grantCookie, String.toList_append, List.all_append, hid', Bool.and_true]
  decide

theorem login_eq (hids : ∀ k, IsPlainId (ids k)) :
    (login ids request).run service = service.login ids request := by
  rw [login, Service.login]
  split
  · rfl
  · cases formCredentials? request.body with
    | none => rfl
    | some credentials =>
      simp only [StateT.run_bind, StateT.run_get, pure_bind]
      split
      · simp only [isHeaderText_grantCookie (hids _), if_true]
        rfl
      · rfl

theorem logout_eq : (logout request).run service = service.logout request := by
  rw [logout, Service.logout]
  cases sessionCookie? request.headers with
  | none => rfl
  | some id =>
    simp only [StateT.run_bind, StateT.run_get, pure_bind]
    cases hlive : service.backend.sessionUser? id with
    | some username => rfl
    -- There was no such session, so that closing it changed nothing.
    | none =>
      have hsame : service.backend.closeSession id = service.backend := by
        rw [Backend.closeSession, Keyed.erase_of_find?_eq_none hlive]
      rw [hsame]
      rfl

theorem handle_eq (hids : ∀ k, IsPlainId (ids k)) (hcall : ∀ call, ¬ request.Reads call) :
    (handle ids request).run service = service.handle ids request := by
  rw [handle, Service.handle]
  cases hendpoint : Endpoint.ofPath? request.path with
  | none => rfl
  | some endpoint =>
    simp only
    split
    · rfl
    · rename_i hmethod
      cases endpoint with
      | login => exact login_eq hids
      | logout => exact logout_eq
      | calls =>
        simp only [call, Service.call]
        split
        · rfl
        · rename_i hjson
          cases hread : LenientCall.layout.read request.body with
          | error fault => rfl
          | ok call =>
            exact absurd ⟨⟨hendpoint, by simpa using hmethod⟩, by simpa using hjson, hread⟩ (hcall call)

theorem handle_of_reads {call : LenientCall} (hcall : request.Reads call) :
    (handle ids request).run service = (answer request call).run service := by
  obtain ⟨⟨hendpoint, hmethod⟩, hjson, hread⟩ := hcall
  simp only [handle, hendpoint, hmethod, InPlace.call, hjson, hread, ne_eq, not_true_eq_false, if_false,
    Bool.not_true, Bool.false_eq_true]

def dispatched (service : Service) (request : Incoming) (call : LenientCall) : Backend.Dispatched :=
  ⟨service.backend.session request.headers, call.method, call.params.head?.getD .null⟩

theorem answer_run (call : LenientCall) : (answer request call).run service =
    let dispatched := dispatched service request call
    let taken := (dispatch dispatched.session dispatched.method dispatched.param).on service.backend
    (respond call.id taken.1, { service with backend := taken.2 }) := rfl

theorem answerIn_eq (call : LenientCall) :
    service.answerIn (service.backend.session request.headers) call =
      let taken := service.backend.take (dispatched service request call)
      (respond call.id taken.1, { service with backend := taken.2 }) := by
  simp only [Service.answerIn, Backend.replyIn, dispatched, Backend.take]
  cases service.backend.dispatch (service.backend.session request.headers) call.method
    (call.params.head?.getD .null) <;> rfl

theorem answer_eq (hsorted : Sorted service.backend.accounts) (call : LenientCall) :
    (answer request call).run service =
      service.answerIn (service.backend.session request.headers) call := by
  rw [answer_run, answerIn_eq, ← dispatch_eq hsorted]

/-- A call leaves the backend as it was, if it is refused. What else a request can come to is
the same whether the work is done in place or a new service is handed out. -/
inductive Handled (ids : Nat → String) (service : Service) (request : Incoming) :
    Response × Service → Prop
  | called {call : LenientCall} {outcome : Except Refusal Json} {after : Backend}
      (hcall : request.Reads call)
      (hrefused : ∀ refusal, outcome = .error refusal → after = service.backend) :
    Handled ids service request (respond call.id outcome, { service with backend := after })
  | other {result : Response × Service} (hcall : ∀ call, ¬ request.Reads call)
      (handled : Service.Handled ids service request result) :
    Handled ids service request result

theorem handle_in_place (hids : ∀ k, IsPlainId (ids k)) (service : Service) (request : Incoming) :
    Handled ids service request ((handle ids request).run service) := by
  by_cases hreads : ∃ call, request.Reads call
  · obtain ⟨call, hcall⟩ := hreads
    rw [handle_of_reads hcall, answer_run]
    exact .called hcall fun refusal hrefused => dispatch_error (Prod.ext hrefused rfl)
  · have hcall : ∀ call, ¬ request.Reads call := fun call h => hreads ⟨call, h⟩
    rw [handle_eq hids hcall]
    exact .other hcall (Service.handle_handled ids service request)

theorem handle_handed_out (ids : Nat → String) (service : Service) (request : Incoming) :
    Handled ids service request (service.handle ids request) := by
  by_cases hreads : ∃ call, request.Reads call
  · obtain ⟨call, hcall⟩ := hreads
    rw [Service.handle_of_reads hcall, answerIn_eq]
    exact .called hcall fun refusal hrefused => take_error (Prod.ext hrefused rfl)
  · exact .other (fun call h => hreads ⟨call, h⟩) (Service.handle_handled ids service request)

namespace Handled

variable {answered : Response × Service} (h : Handled ids service request answered)

include h

theorem same_of_status (hstatus : answered.1.status ≠ 200) : answered.2 = service := by
  cases h with
  | called hcall hrefused => exact absurd rfl hstatus
  | other hcall handled =>
    cases handled with
    | refused => rfl
    | answered hreads => exact absurd hreads (hcall _)
    | _ => exact absurd rfl hstatus

theorem same_of_error {reply : Reply} (hbody : answered.1.body = Reply.layout.write reply)
    (herror : reply.error ≠ .null) : answered.2 = service := by
  cases h with
  | @called call outcome after hcall hrefused =>
    cases outcome with
    | error refusal => rw [hrefused refusal rfl]
    | ok result => exact absurd (Reply.error_null_of_write hbody rfl) herror
  | other hcall handled =>
    cases handled with
    | answered hreads => exact absurd hreads (hcall _)
    | _ => exact absurd hbody.symm reply.write_ne_empty

theorem opens_one (hlogin : request.IsTo .login) (hstatus : answered.1.status = 200) :
    answered.2.backend.accounts = service.backend.accounts ∧
      ∃ credentials, request.LogsIn credentials ∧ service.backend.accepts credentials ∧
        ∀ id, answered.2.backend.sessionUser? id =
          if id = ids service.issued then some credentials.username
          else service.backend.sessionUser? id := by
  cases h with
  | called hcall hrefused => cases hlogin.unique hcall.1
  | other hcall handled =>
    cases handled with
    | refused hrefused => exact absurd hstatus hrefused
    | opened hin haccepts =>
      exact ⟨rfl, _, hin, haccepts, Backend.openSession_sessionUser? service.backend _ _⟩
    | closed hlogout => cases hlogin.unique hlogout.1
    | answered hreads => exact absurd hreads (hcall _)

theorem closes_one (hlogout : request.IsTo .logout) (hstatus : answered.1.status = 200) :
    answered.2.backend.accounts = service.backend.accounts ∧
      ∃ presented username, sessionCookie? request.headers = some presented ∧
        service.backend.sessionUser? presented = some username ∧
        ∀ id, answered.2.backend.sessionUser? id =
          if id = presented then none else service.backend.sessionUser? id := by
  cases h with
  | called hcall hrefused => cases hlogout.unique hcall.1
  | other hcall handled =>
    cases handled with
    | refused hrefused => exact absurd hstatus hrefused
    | opened hlogin => cases hlogout.unique hlogin.1
    | closed hpresented hlive =>
      exact ⟨rfl, _, _, hpresented.2, hlive, Backend.closeSession_sessionUser? service.backend _⟩
    | answered hreads => exact absurd hreads (hcall _)

end Handled

/-- With the accounts in key order, a request leads to the service that `handle` hands out. -/
theorem handle_eq_handle (hids : ∀ k, IsPlainId (ids k)) (hsorted : Sorted service.backend.accounts)
    (request : Incoming) : (handle ids request).run service = service.handle ids request := by
  by_cases hreads : ∃ call, request.Reads call
  · obtain ⟨call, hcall⟩ := hreads
    rw [handle_of_reads hcall, answer_eq hsorted, Service.handle_of_reads hcall]
  · exact handle_eq hids fun call h => hreads ⟨call, h⟩

-- ---- The result

/-- Errors leave no trace, though the work is done in place. Whatever the backend, a call that
fails leaves it as it was; so does every request that is answered with another status than 200,
or with a reply that has an error. A login that succeeds opens one session for whoever logs in, of
an id that none had, a logout closes the one that it presents, and neither touches the accounts.
All this is said of the work in place and of `take` and `handle`; with the accounts in key
order, which all requests keep, both come to the same. -/
theorem errors_leave_no_trace (hids : ∀ k, IsPlainId (ids k)) (service : Service) :
    (∀ call refusal after,
      (dispatch call.session call.method call.param).on service.backend = (.error refusal, after) ∨
        service.backend.take call = (.error refusal, after) → after = service.backend) ∧
    (∀ request answered,
      (handle ids request).run service = answered ∨ service.handle ids request = answered →
      (answered.1.status ≠ 200 → answered.2 = service) ∧
      (∀ reply, answered.1.body = Reply.layout.write reply → reply.error ≠ .null →
        answered.2 = service) ∧
      (request.IsTo .login → answered.1.status = 200 →
        answered.2.backend.accounts = service.backend.accounts ∧
        ∃ credentials, request.LogsIn credentials ∧ service.backend.accepts credentials ∧
          ∀ id, answered.2.backend.sessionUser? id =
            if id = ids service.issued then some credentials.username
            else service.backend.sessionUser? id) ∧
      (request.IsTo .logout → answered.1.status = 200 →
        answered.2.backend.accounts = service.backend.accounts ∧
        ∃ presented username, sessionCookie? request.headers = some presented ∧
          service.backend.sessionUser? presented = some username ∧
          ∀ id, answered.2.backend.sessionUser? id =
            if id = presented then none else service.backend.sessionUser? id)) ∧
    (∀ requests, Function.Injective ids → service = Service.run ids {} requests →
      service.backend.sessionUser? (ids service.issued) = none) ∧
    (Sorted service.backend.accounts →
      (∀ call, (dispatch call.session call.method call.param).on service.backend =
        service.backend.take call) ∧
      ∀ request, (handle ids request).run service = service.handle ids request ∧
        Sorted (service.handle ids request).2.backend.accounts) := by
  refine ⟨fun call refusal after h => ?_, fun request answered h => ?_, ?_, fun hsorted => ⟨?_, ?_⟩⟩
  · exact h.elim dispatch_error take_error
  · -- Both ways to handle a request are told by the same four cases.
    have hhandled : Handled ids service request answered := by
      rcases h with rfl | rfl
      · exact handle_in_place hids service request
      · exact handle_handed_out ids service request
    exact ⟨hhandled.same_of_status, fun reply => hhandled.same_of_error, hhandled.opens_one,
      hhandled.closes_one⟩
  · rintro requests hinjective rfl
    exact (Service.Issued.run (show Service.Issued ids {} from nofun) requests).fresh hinjective
  · exact dispatch_eq hsorted
  · exact fun request => ⟨handle_eq_handle hids hsorted request,
      Service.handle_accounts_sorted ids request hsorted⟩

/-- A blog that ada does not have is deleted, and a session that nobody has is logged out. -/
theorem errors_leave_no_trace_ada :
    let service : Service :=
      ⟨{ accounts := [("ada", ⟨"pw", none, [("tides", none)]⟩)], sessions := [("s", "ada")] }, 1⟩
    let stranger : Incoming := { path := "/api/logout", headers := [("cookie", "auth=ss")] }
    (∀ k, IsPlainId (Network.longerIds k)) ∧
      (dispatch (some "ada") "Blogs.Delete" (.object [("Slug", .str "gears")])).on service.backend =
        (.error .blogMissing, service.backend) ∧
      (handle Network.longerIds stranger).run service = ({ status := 401 }, service) := by
  intro service stranger
  obtain ⟨hcalls, hrequests, -⟩ := errors_leave_no_trace isPlainId_longerIds service
  have hmissing : ((dispatch (some "ada") "Blogs.Delete" (.object [("Slug", .str "gears")])).on
      service.backend).1 = .error .blogMissing := rfl
  have hrejected : ((handle Network.longerIds stranger).run service).1 = { status := 401 } := by decide
  refine ⟨isPlainId_longerIds, Prod.ext hmissing ?_, Prod.ext hrejected ?_⟩
  · exact hcalls ⟨_, _, _⟩ _ _ (.inl (Prod.ext hmissing rfl))
  · exact (hrequests stranger _ (.inl rfl)).1 (by rw [hrejected]; decide)

end BlogDesk.Server.InPlace
