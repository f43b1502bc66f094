import BlogDesk.Proofs.Except
import BlogDesk.Proofs.Keyed
import BlogDesk.Server.Backend

/-!
# When an operation succeeds

Each operation's success is read as the conditions it checked and the backend it
left. `Changed` sums up what any call can do to the backend: nothing, a new account,
or other blogs in the caller's own.
-/

namespace BlogDesk.Server.Backend

variable {backend after : Backend} {session : Option String}

-- ---- Each operation

theorem caller_eq_ok {username : String} {account : Account} :
    backend.caller session = .ok (username, account) ↔
      session = some username ∧ Keyed.find? username backend.accounts = some account := by
  unfold caller
  cases session with
  | none => simp
  | some name => cases h : Keyed.find? name backend.accounts <;> grind

theorem createUser_eq_ok {user : NewUser} :
    backend.createUser user = .ok after ↔
      user.username ≠ "" ∧ user.password ≠ "" ∧
        Keyed.find? user.username backend.accounts = none ∧
        after = backend.putAccount user.username ⟨user.password, user.displayName, []⟩ := by
  rw [← Keyed.contains_eq_false, createUser]
  grind

theorem whoami_eq_ok {user : User} :
    backend.whoami session = .ok user ↔ session = some user.username ∧
      ∃ account, Keyed.find? user.username backend.accounts = some account ∧
        account.displayName = user.displayName := by
  obtain ⟨username, displayName⟩ := user
  rw [whoami, bind_eq_ok]
  constructor
  · rintro ⟨⟨name, account⟩, hcaller, heq⟩
    cases heq
    obtain ⟨hsession, haccount⟩ := caller_eq_ok.mp hcaller
    exact ⟨hsession, account, haccount, rfl⟩
  · rintro ⟨hsession, account, haccount, rfl⟩
    exact ⟨(username, account), caller_eq_ok.mpr ⟨hsession, haccount⟩, rfl⟩

theorem listBlogs_eq_ok {blogs : List Blog} :
    backend.listBlogs session = .ok blogs ↔ ∃ username account, session = some username ∧
      Keyed.find? username backend.accounts = some account ∧ blogs = account.blogList := by
  rw [listBlogs, bind_eq_ok]
  constructor
  · rintro ⟨⟨username, account⟩, hcaller, heq⟩
    cases heq
    obtain ⟨hsession, haccount⟩ := caller_eq_ok.mp hcaller
    exact ⟨username, account, hsession, haccount, rfl⟩
  · rintro ⟨username, account, hsession, haccount, rfl⟩
    exact ⟨(username, account), caller_eq_ok.mpr ⟨hsession, haccount⟩, rfl⟩

theorem createBlog_eq_ok {blog : Blog} :
    backend.createBlog session blog = .ok after ↔ blog.slug ≠ "" ∧
      ∃ username account, session = some username ∧
        Keyed.find? username backend.accounts = some account ∧
        Keyed.find? blog.slug account.blogs = none ∧
        after = backend.storeBlog username account blog := by
  rw [createBlog]
  split
  · rename_i hslug
    simp [hslug]
  · rename_i hslug
    rw [bind_eq_ok]
    constructor
    · rintro ⟨⟨username, account⟩, hcaller, h⟩
      obtain ⟨hsession, haccount⟩ := caller_eq_ok.mp hcaller
      simp only at h
      split at h
      · cases h
      · rename_i hnew
        cases h
        refine ⟨hslug, username, account, hsession, haccount, ?_, rfl⟩
        exact Keyed.contains_eq_false.mp (Bool.eq_false_iff.mpr hnew)
    · rintro ⟨-, username, account, hsession, haccount, hnew, rfl⟩
      refine ⟨(username, account), caller_eq_ok.mpr ⟨hsession, haccount⟩, ?_⟩
      simp only [Keyed.contains_eq_false.mpr hnew, Bool.false_eq_true, if_false]

theorem updateBlog_eq_ok {blog : Blog} :
    backend.updateBlog session blog = .ok after ↔ blog.slug ≠ "" ∧
      ∃ username account, session = some username ∧
        Keyed.find? username backend.accounts = some account ∧
        after = backend.storeBlog username account blog := by
  rw [updateBlog]
  split
  · rename_i hslug
    simp [hslug]
  · rename_i hslug
    rw [bind_eq_ok]
    constructor
    · rintro ⟨⟨username, account⟩, hcaller, h⟩
      obtain ⟨hsession, haccount⟩ := caller_eq_ok.mp hcaller
      cases h
      exact ⟨hslug, username, account, hsession, haccount, rfl⟩
    · rintro ⟨-, username, account, hsession, haccount, rfl⟩
      exact ⟨(username, account), caller_eq_ok.mpr ⟨hsession, haccount⟩, rfl⟩

theorem deleteBlog_eq_ok {slug : String} :
    backend.deleteBlog session slug = .ok after ↔
      ∃ username account, session = some username ∧
        Keyed.find? username backend.accounts = some account ∧
        Keyed.find? slug account.blogs ≠ none ∧
        after = backend.putAccount username { account with blogs := Keyed.erase slug account.blogs } := by
  rw [deleteBlog, bind_eq_ok]
  constructor
  · rintro ⟨⟨username, account⟩, hcaller, h⟩
    obtain ⟨hsession, haccount⟩ := caller_eq_ok.mp hcaller
    simp only at h
    split at h
    · rename_i hthere
      cases h
      refine ⟨username, account, hsession, haccount, fun hnone => ?_, rfl⟩
      rw [Keyed.contains_eq_false.mpr hnone] at hthere
      cases hthere
    · cases h
  · rintro ⟨username, account, hsession, haccount, hthere, rfl⟩
    refine ⟨(username, account), caller_eq_ok.mpr ⟨hsession, haccount⟩, ?_⟩
    have hcontains : Keyed.contains slug account.blogs = true := by
      rw [← Bool.not_eq_false, Keyed.contains_eq_false]
      exact hthere
    simp only [hcontains, if_true]

-- ---- All calls

inductive Edited (blogs : List (String × Option String)) : List (String × Option String) → Prop
  | stored {slug : String} {displayName : Option String} (hslug : slug ≠ "") :
    Edited blogs (Keyed.insert slug displayName blogs)
  | erased {slug : String} : Edited blogs (Keyed.erase slug blogs)

/-- What a call of that method may make of the backend. -/
inductive Changed (backend : Backend) (session : Option String) (method : String) (param : Json) :
    Backend → Prop
  | nothing : Changed backend session method param backend
  | registered {user : NewUser} (hmethod : method = Method.register.name)
      (hread : readParam NewUser.lenientLayout param = .ok user)
      (hnew : Keyed.find? user.username backend.accounts = none)
      (hcreate : backend.createUser user =
        .ok (backend.putAccount user.username ⟨user.password, user.displayName, []⟩)) :
    Changed backend session method param
      (backend.putAccount user.username ⟨user.password, user.displayName, []⟩)
  | edited {username : String} {account : Account} {blogs : List (String × Option String)}
      (hsession : session = some username)
      (haccount : Keyed.find? username backend.accounts = some account)
      (hblogs : Edited account.blogs blogs) :
    Changed backend session method param (backend.putAccount username { account with blogs })

theorem name_of_ofName? {name : String} {method : Method} (h : Method.ofName? name = some method) :
    name = method.name := by
  have := List.find?_some h
  exact (beq_iff_eq.mp this).symm

theorem dispatch_changed {method : String} {param result : Json}
    (h : backend.dispatch session method param = .ok (result, after)) :
    Changed backend session method param after := by
  rw [dispatch] at h
  cases hmethod : Method.ofName? method with
  | none =>
    rw [hmethod] at h
    cases h
  | some known =>
    rw [hmethod] at h
    cases known with
    | whoami =>
      obtain ⟨user, -, heq⟩ := bind_eq_ok.mp h
      cases heq
      exact .nothing
    | listBlogs =>
      obtain ⟨blogs, -, heq⟩ := bind_eq_ok.mp h
      cases heq
      exact .nothing
    | register =>
      obtain ⟨user, hread, hdone⟩ := bind_eq_ok.mp h
      obtain ⟨next, hnext, heq⟩ := map_eq_ok.mp hdone
      cases heq
      obtain ⟨-, -, hnew, rfl⟩ := createUser_eq_ok.mp hnext
      exact .registered (name_of_ofName? hmethod) hread hnew hnext
    | createBlog =>
      obtain ⟨blog, -, hdone⟩ := bind_eq_ok.mp h
      obtain ⟨next, hnext, heq⟩ := map_eq_ok.mp hdone
      cases heq
      obtain ⟨hslug, username, account, hsession, haccount, -, rfl⟩ := createBlog_eq_ok.mp hnext
      exact .edited hsession haccount (.stored hslug)
    | updateBlog =>
      obtain ⟨blog, -, hdone⟩ := bind_eq_ok.mp h
      obtain ⟨next, hnext, heq⟩ := map_eq_ok.mp hdone
      cases heq
      obtain ⟨hslug, username, account, hsession, haccount, rfl⟩ := updateBlog_eq_ok.mp hnext
      exact .edited hsession haccount (.stored hslug)
    | deleteBlog =>
      obtain ⟨args, -, hdone⟩ := bind_eq_ok.mp h
      obtain ⟨next, hnext, heq⟩ := map_eq_ok.mp hdone
      cases heq
      obtain ⟨username, account, hsession, haccount, -, rfl⟩ := deleteBlog_eq_ok.mp hnext
      exact .edited hsession haccount .erased

end BlogDesk.Server.Backend
