import BlogDesk.Proofs.Server.Accounts

/-!
# Callers do not see each other

What a caller without a session, or in somebody else's, does to blogs leaves no trace
in the replies that a user gets. Two backends that agree on who has an account and on
the user's own reply alike, and still agree afterwards.
-/

namespace BlogDesk.Server.Backend

open Keyed (find?)

-- ---- Calls one after the other

structure Dispatched where
  session : Option String
  method : String
  param : Json

def take (backend : Backend) (call : Dispatched) : Except Refusal Json × Backend :=
  match backend.dispatch call.session call.method call.param with
  | .ok (result, after) => (.ok result, after)
  | .error refusal => (.error refusal, backend)

/-- The calls in order, each with the reply that it gets. -/
def replies (backend : Backend) : List Dispatched → List (Dispatched × Except Refusal Json)
  | [] => []
  | call :: rest => (call, (backend.take call).1) :: (backend.take call).2.replies rest

/-- A method by which callers look at their own account, or at the blogs in it. -/
def isPersonal (method : String) : Bool :=
  method == Method.whoami.name || "Blogs.".toList.isPrefixOf method.toList

/-- Whether the call is by that user, or is none by which anybody looks at what is theirs. -/
def concerns (username : String) (call : Dispatched) : Bool :=
  call.session == some username || !isPersonal call.method

-- ---- Backends that look alike

/-- The user sees no difference between the backends. -/
structure Agree (username : String) (backend other : Backend) : Prop where
  own : find? username backend.accounts = find? username other.accounts
  known : ∀ name, Keyed.contains name backend.accounts = Keyed.contains name other.accounts

inductive Alike {α : Type} (Related : α → α → Prop) : Except Refusal α → Except Refusal α → Prop
  | refused (refusal : Refusal) : Alike Related (.error refusal) (.error refusal)
  | granted {a b : α} (h : Related a b) : Alike Related (.ok a) (.ok b)

def SameReply (username : String) (reply other : Json × Backend) : Prop :=
  reply.1 = other.1 ∧ Agree username reply.2 other.2

namespace Alike

variable {α β : Type} {Related : α → α → Prop}

theorem bind {x : Except Refusal β} {f g : β → Except Refusal α}
    (h : ∀ b, Alike Related (f b) (g b)) : Alike Related (x >>= f) (x >>= g) := by
  cases x with
  | error refusal => exact .refused refusal
  | ok b => exact h b

theorem reply {username : String} {x y : Except Refusal Backend} (h : Alike (Agree username) x y) :
    Alike (SameReply username) (done <$> x) (done <$> y) := by
  cases h with
  | refused refusal => exact .refused refusal
  | granted hagree => exact .granted ⟨rfl, hagree⟩

end Alike

-- ---- Operations

namespace Agree

variable {username : String} {backend other : Backend}

theorem refl (username : String) (backend : Backend) : Agree username backend backend :=
  ⟨rfl, fun _ => rfl⟩

theorem contains_putAccount (backend : Backend) (put name : String) (account : Account) :
    Keyed.contains name (backend.putAccount put account).accounts =
      (decide (name = put) || Keyed.contains name backend.accounts) := by
  rw [Keyed.contains, putAccount_find?]
  split
  · rename_i hname
    simp [hname]
  · rename_i hname
    simp [hname, Keyed.contains]

theorem putAccount (h : Agree username backend other) (put : String) (account : Account) :
    Agree username (backend.putAccount put account) (other.putAccount put account) := by
  refine ⟨?_, fun name => ?_⟩
  · rw [putAccount_find?, putAccount_find?, h.own]
  · rw [contains_putAccount, contains_putAccount, h.known]

theorem caller_eq (h : Agree username backend other) :
    backend.caller (some username) = other.caller (some username) := by
  simp only [caller, h.own]

theorem createUser (h : Agree username backend other) (user : NewUser) :
    Alike (Agree username) (backend.createUser user) (other.createUser user) := by
  simp only [Backend.createUser, h.known]
  split
  · exact .refused _
  · split
    · exact .refused _
    · split
      · exact .refused _
      · exact .granted (h.putAccount ..)

theorem createBlog (h : Agree username backend other) (blog : Blog) :
    Alike (Agree username) (backend.createBlog (some username) blog)
      (other.createBlog (some username) blog) := by
  simp only [Backend.createBlog, h.caller_eq]
  split
  · exact .refused _
  · refine .bind fun caller => ?_
    obtain ⟨owner, account⟩ := caller
    simp only
    split
    · exact .refused _
    · exact .granted (h.putAccount ..)

theorem updateBlog (h : Agree username backend other) (blog : Blog) :
    Alike (Agree username) (backend.updateBlog (some username) blog)
      (other.updateBlog (some username) blog) := by
  simp only [Backend.updateBlog, h.caller_eq]
  split
  · exact .refused _
  · exact .bind fun _ => .granted (h.putAccount ..)

theorem deleteBlog (h : Agree username backend other) (slug : String) :
    Alike (Agree username) (backend.deleteBlog (some username) slug)
      (other.deleteBlog (some username) slug) := by
  simp only [Backend.deleteBlog, h.caller_eq]
  refine .bind fun caller => ?_
  obtain ⟨owner, account⟩ := caller
  simp only
  split
  · exact .granted (h.putAccount ..)
  · exact .refused _

-- ---- Calls

theorem isPersonal_name {method : Method} (h : method ≠ .register) : isPersonal method.name := by
  cases method with
  | register => exact absurd rfl h
  | _ => decide

theorem dispatch (h : Agree username backend other) {call : Dispatched}
    (hconcerns : concerns username call) : Alike (SameReply username)
      (backend.dispatch call.session call.method call.param)
      (other.dispatch call.session call.method call.param) := by
  simp only [concerns, Bool.or_eq_true, beq_iff_eq, Bool.not_eq_true'] at hconcerns
  simp only [Backend.dispatch]
  cases hmethod : Method.ofName? call.method with
  | none => exact .refused _
  | some method =>
    by_cases hregister : method = .register
    · subst hregister
      exact .bind fun user => (h.createUser user).reply
    · have hown : call.session = some username := by
        refine hconcerns.resolve_right fun hpublic => ?_
        rw [name_of_ofName? hmethod, isPersonal_name hregister] at hpublic
        cases hpublic
      simp only [hown]
      cases method with
      | register => exact absurd rfl hregister
      | whoami =>
        simp only [whoami, h.caller_eq]
        exact .bind fun _ => .granted ⟨rfl, h⟩
      | listBlogs =>
        simp only [listBlogs, h.caller_eq]
        exact .bind fun _ => .granted ⟨rfl, h⟩
      | createBlog => exact .bind fun blog => (h.createBlog blog).reply
      | updateBlog => exact .bind fun blog => (h.updateBlog blog).reply
      | deleteBlog => exact .bind fun args => (h.deleteBlog args.slug).reply

theorem take (h : Agree username backend other) {call : Dispatched}
    (hconcerns : concerns username call) : (backend.take call).1 = (other.take call).1 ∧
      Agree username (backend.take call).2 (other.take call).2 := by
  have halike := h.dispatch hconcerns
  rw [Backend.take, Backend.take]
  generalize backend.dispatch call.session call.method call.param = reply,
    other.dispatch call.session call.method call.param = same at halike
  cases halike with
  | refused refusal => exact ⟨rfl, h⟩
  | @granted replied same hsame =>
    obtain ⟨hresult, hafter⟩ := hsame
    exact ⟨congrArg Except.ok hresult, hafter⟩

/-- A call that is none of the user's business changes nothing that the user sees. -/
theorem skip (h : Agree username backend other) {call : Dispatched}
    (hconcerns : concerns username call = false) : Agree username (backend.take call).2 other := by
  simp only [concerns, Bool.or_eq_false_iff, beq_eq_false_iff_ne, Bool.not_eq_false'] at hconcerns
  obtain ⟨hother, hpersonal⟩ := hconcerns
  rw [Backend.take]
  split
  · rename_i result after hdispatch
    cases dispatch_changed hdispatch with
    | nothing => exact h
    | registered hmethod hread hnew hcreate =>
      rw [hmethod] at hpersonal
      exact absurd hpersonal (by decide)
    | @edited owner account blogs hsession haccount hblogs =>
      have hne : username ≠ owner := by
        rintro rfl
        exact hother hsession
      refine ⟨?_, fun name => ?_⟩
      · rw [putAccount_find?, if_neg hne, h.own]
      · rw [contains_putAccount, ← h.known]
        by_cases hname : name = owner
        · simp [hname, Keyed.contains, haccount]
        · simp [hname]
  · exact h

theorem replies_eq (h : Agree username backend other) (calls : List Dispatched) :
    (backend.replies calls).filter (fun replied => concerns username replied.1) =
      other.replies (calls.filter (concerns username)) := by
  induction calls generalizing backend other with
  | nil => rfl
  | cons call rest ih =>
    simp only [replies, List.filter_cons]
    cases hconcerns : concerns username call with
    | true =>
      obtain ⟨hreply, hafter⟩ := h.take hconcerns
      simp only [if_true, replies, hreply, ih hafter]
    | false =>
      simp only [Bool.false_eq_true, if_false, ih (h.skip hconcerns)]

end Agree

-- ---- The result

/-- Whatever others, or callers without a session, ask of their accounts and do to blogs
could as well have been left out: each other call gets the reply that it got. -/
theorem replies_without_others (backend : Backend) (username : String) (calls : List Dispatched) :
    (backend.replies calls).filter (fun replied => concerns username replied.1) =
      backend.replies (calls.filter (concerns username)) :=
  (Agree.refl username backend).replies_eq calls

end BlogDesk.Server.Backend
