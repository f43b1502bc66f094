import BlogDesk.Proofs.Server.Sessions

/-!
# Accounts

An account stays for good, with the password and the display name that it was
registered with; only a call in a session of its user changes its blogs. `Sound` and
`Named` are what holds of every backend that requests lead to.
-/

namespace BlogDesk.Server

open Keyed (find? Sorted)

theorem Account.blogList_sorted {account : Account} (h : Sorted account.blogs) :
    account.blogList.Pairwise (·.slug < ·.slug) :=
  List.pairwise_map.mpr h

-- ---- Under every operation

namespace Backend

variable {backend after : Backend} {session : Option String} {method : String} {param : Json}
  {username : String} {account : Account}

theorem putAccount_find? (backend : Backend) (put username : String) (account : Account) :
    find? username (backend.putAccount put account).accounts =
      if username = put then some account else find? username backend.accounts :=
  Keyed.find?_insert ..

/-- Whoever has an account keeps it, and its blogs too unless the call is in a session of theirs. -/
theorem Changed.keeps (h : Changed backend session method param after)
    (haccount : find? username backend.accounts = some account) :
    ∃ blogs, find? username after.accounts = some { account with blogs } ∧
      (blogs ≠ account.blogs → session = some username) := by
  cases h with
  | nothing => exact ⟨account.blogs, haccount, fun hne => absurd rfl hne⟩
  | registered hmethod hread hnew hcreate =>
    refine ⟨account.blogs, ?_, fun hne => absurd rfl hne⟩
    rw [putAccount_find?, if_neg, haccount]
    rintro rfl
    cases hnew.symm.trans haccount
  | @edited owner old blogs hsession hold hblogs =>
    by_cases howner : username = owner
    · subst howner
      cases haccount.symm.trans hold
      exact ⟨blogs, by rw [putAccount_find?, if_pos rfl], fun _ => hsession⟩
    · exact ⟨account.blogs, by rw [putAccount_find?, if_neg howner, haccount],
        fun hne => absurd rfl hne⟩

/-- Blogs stand in slug order, and sessions are of accounts. -/
structure Sound (backend : Backend) : Prop where
  sorted : ∀ {username account}, find? username backend.accounts = some account →
    Sorted account.blogs
  known : ∀ {id username}, backend.sessionUser? id = some username →
    ∃ account, find? username backend.accounts = some account

theorem Edited.sorted {blogs next : List (String × Option String)} (h : Edited blogs next)
    (hsorted : Sorted blogs) : Sorted next := by
  cases h with
  | stored hslug => exact Keyed.sorted_insert hsorted
  | erased => exact Keyed.sorted_erase hsorted

theorem Sound.changed (h : Sound backend) (hchanged : Changed backend session method param after) :
    Sound after := by
  refine ⟨fun {name found} hfound => ?_, fun {id name} hlive => ?_⟩
  · cases hchanged with
    | nothing => exact h.sorted hfound
    | registered hmethod hread hnew hcreate =>
      rw [putAccount_find?] at hfound
      split at hfound
      · cases hfound
        exact List.Pairwise.nil
      · exact h.sorted hfound
    | edited hsession haccount hblogs =>
      rw [putAccount_find?] at hfound
      split at hfound
      · cases hfound
        exact hblogs.sorted (h.sorted haccount)
      · exact h.sorted hfound
  · rw [sessionUser?, hchanged.sessions_eq, ← sessionUser?] at hlive
    obtain ⟨account, haccount⟩ := h.known hlive
    obtain ⟨blogs, hkept, -⟩ := hchanged.keeps haccount
    exact ⟨_, hkept⟩

/-- Nobody without a name has an account, no account is without a password, and no blog is
without a slug. -/
structure Named (backend : Backend) : Prop where
  found : ∀ {username account}, find? username backend.accounts = some account →
    username ≠ "" ∧ account.password ≠ "" ∧ find? "" account.blogs = none

theorem Edited.named {blogs next : List (String × Option String)} (h : Edited blogs next)
    (hnamed : find? "" blogs = none) : find? "" next = none := by
  cases h with
  | stored hslug => rwa [Keyed.find?_insert, if_neg (Ne.symm hslug)]
  | erased =>
    rw [Keyed.find?_erase, hnamed]
    split <;> rfl

theorem Named.changed (h : Named backend) (hchanged : Changed backend session method param after) :
    Named after := by
  refine ⟨fun {name found} hfound => ?_⟩
  cases hchanged with
  | nothing => exact h.found hfound
  | registered hmethod hread hnew hcreate =>
    rw [putAccount_find?] at hfound
    split at hfound
    · rename_i hname
      cases hfound
      obtain ⟨husername, hpassword, -⟩ := createUser_eq_ok.mp hcreate
      exact ⟨hname ▸ husername, hpassword, rfl⟩
    · exact h.found hfound
  | edited hsession haccount hblogs =>
    rw [putAccount_find?] at hfound
    split at hfound
    · rename_i hname
      cases hfound
      obtain ⟨husername, hpassword, hblog⟩ := h.found haccount
      exact ⟨hname ▸ husername, hpassword, hblogs.named hblog⟩
    · exact h.found hfound

theorem Changed.accounts_sorted (h : Changed backend session method param after)
    (hsorted : Sorted backend.accounts) : Sorted after.accounts := by
  cases h with
  | nothing => exact hsorted
  | registered hmethod hread hnew hcreate => exact Keyed.sorted_insert hsorted
  | edited hsession haccount hblogs => exact Keyed.sorted_insert hsorted

theorem account_of_accepts {credentials : Credentials} (h : backend.accepts credentials) :
    ∃ account, find? credentials.username backend.accounts = some account := by
  unfold accepts at h
  split at h
  · rename_i account haccount
    exact ⟨account, haccount⟩
  · cases h

end Backend

-- ---- Under every request

namespace Service

variable {service : Service} {username : String} {account : Account}

theorem handle_account (ids : Nat → String) (request : Incoming)
    (haccount : find? username service.backend.accounts = some account) :
    ∃ blogs, find? username (service.handle ids request).2.backend.accounts =
        some { account with blogs } ∧
      (blogs ≠ account.blogs → service.backend.session request.headers = some username) := by
  generalize service.handle ids request = result, handle_handled ids service request = handled
  cases handled with
  | answered hcall => exact (service.answerIn_changed _ _).keeps haccount
  | _ => exact ⟨account.blogs, haccount, fun hne => absurd rfl hne⟩

theorem handle_sound (ids : Nat → String) (request : Incoming) (h : service.backend.Sound) :
    (service.handle ids request).2.backend.Sound := by
  generalize service.handle ids request = result, handle_handled ids service request = handled
  cases handled with
  | refused hstatus hlogout hlogin hcall => exact h
  | opened hlogin haccepts =>
    refine ⟨h.sorted, fun {id name} hlive => ?_⟩
    rw [Backend.openSession_sessionUser?] at hlive
    split at hlive
    · cases hlive
      exact Backend.account_of_accepts haccepts
    · exact h.known hlive
  | closed hlogout hlive =>
    refine ⟨h.sorted, fun {id name} hstill => ?_⟩
    rw [Backend.closeSession_sessionUser?] at hstill
    split at hstill
    · cases hstill
    · exact h.known hstill
  | answered hcall => exact h.changed (service.answerIn_changed _ _)

theorem handle_named (ids : Nat → String) (request : Incoming) (h : service.backend.Named) :
    (service.handle ids request).2.backend.Named := by
  generalize service.handle ids request = result, handle_handled ids service request = handled
  cases handled with
  | answered hcall => exact h.changed (service.answerIn_changed _ _)
  | _ => exact ⟨h.found⟩

theorem handle_accounts_sorted (ids : Nat → String) (request : Incoming)
    (hsorted : Sorted service.backend.accounts) :
    Sorted (service.handle ids request).2.backend.accounts := by
  generalize service.handle ids request = result, handle_handled ids service request = handled
  cases handled with
  | answered hcall => exact (service.answerIn_changed _ _).accounts_sorted hsorted
  | _ => exact hsorted

-- ---- Registrations

/-- The service accepts the request as the registration of that user. -/
def Registers (service : Service) (request : Incoming) (user : NewUser) : Prop :=
  ∃ call, request.Reads call ∧ call.method = Method.register.name ∧
    Backend.readParam NewUser.lenientLayout (call.params.head?.getD .null) = .ok user ∧
    ∃ after, service.backend.createUser user = .ok after

theorem account_of_registers {request : Incoming} {user : NewUser} (h : service.Registers request user)
    (ids : Nat → String) :
    find? user.username (service.handle ids request).2.backend.accounts =
      some ⟨user.password, user.displayName, []⟩ := by
  obtain ⟨⟨id, method, params⟩, hcall, rfl, hread, after, hcreate⟩ := h
  obtain ⟨-, -, -, rfl⟩ := Backend.createUser_eq_ok.mp hcreate
  have hdispatch : service.backend.dispatch (service.backend.session request.headers)
      Method.register.name (params.head?.getD .null) = Backend.done <$>
        Except.ok (service.backend.putAccount user.username ⟨user.password, user.displayName, []⟩) := by
    simp only [Backend.dispatch, Method.ofName?_name, hread, ← hcreate]
    rfl
  rw [handle_of_reads hcall, answerIn, Backend.replyIn, hdispatch]
  exact (Backend.putAccount_find? ..).trans (if_pos rfl)

theorem registers_of_account {ids : Nat → String} {request : Incoming}
    (hnew : find? username service.backend.accounts = none)
    (hthere : find? username (service.handle ids request).2.backend.accounts = some account) :
    service.Registers request ⟨username, account.password, account.displayName⟩ := by
  generalize hresult : service.handle ids request = result at hthere
  have handled := handle_handled ids service request
  rw [hresult] at handled
  cases handled with
  | @answered call hcall =>
    have hchanged := service.answerIn_changed (service.backend.session request.headers) call
    generalize (service.answerIn (service.backend.session request.headers) call).2.backend = after
      at hthere hchanged
    cases hchanged with
    | nothing => cases hnew.symm.trans hthere
    | @registered user hmethod hread _ hcreate =>
      rw [Backend.putAccount_find?] at hthere
      split at hthere
      · rename_i hname
        cases hthere
        subst hname
        exact ⟨call, hcall, hmethod, hread, _, hcreate⟩
      · cases hnew.symm.trans hthere
    | edited hsession haccount hblogs =>
      rw [Backend.putAccount_find?] at hthere
      split at hthere
      · rename_i hname
        subst hname
        cases hnew.symm.trans haccount
      · cases hnew.symm.trans hthere
  | _ => cases hnew.symm.trans hthere

end Service

end BlogDesk.Server
