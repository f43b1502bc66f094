import BlogDesk.Proofs.Server.Isolation

/-!
# What a history of calls leaves

The blogs in an account are what its user's granted edits made of them: under a slug
stands what the last of them left there. `Taken` says once what a call can come to,
and whether an edit is granted depends on the blogs that the account then has.
-/

namespace BlogDesk.Store.Edit

def slug : Edit → String
  | create blog => blog.slug
  | edit blog => blog.slug
  | delete slug => slug

/-- The display name that an edit leaves with its slug; none, if it leaves no blog. -/
def leaves : Edit → Option (Option String)
  | create blog => some blog.displayName
  | edit blog => some blog.displayName
  | delete _ => none

/-- Whether the edit is one that an account with those blogs is given. -/
def Fits (blogs : List Blog) : Edit → Prop
  | create blog => blog.slug ≠ "" ∧ ∀ old ∈ blogs, old.slug ≠ blog.slug
  | edit blog => blog.slug ≠ ""
  | delete slug => ∃ old ∈ blogs, old.slug = slug

def store (blogs : List (String × Option String)) : Edit → List (String × Option String)
  | create blog => Keyed.insert blog.slug blog.displayName blogs
  | edit blog => Keyed.insert blog.slug blog.displayName blogs
  | delete slug => Keyed.erase slug blogs

open Keyed (find?)

theorem find?_store (blogs : List (String × Option String)) (edit : Edit) (slug : String) :
    find? slug (edit.store blogs) = if slug = edit.slug then edit.leaves else find? slug blogs := by
  cases edit with
  | create blog => exact Keyed.find?_insert ..
  | edit blog => exact Keyed.find?_insert ..
  | delete deleted => exact Keyed.find?_erase ..

theorem leaves_eq_some {edit : Edit} {displayName : Option String} :
    edit.leaves = some displayName ↔
      edit = .create ⟨edit.slug, displayName⟩ ∨ edit = .edit ⟨edit.slug, displayName⟩ := by
  obtain ⟨slug, name⟩ | ⟨slug, name⟩ | slug := edit <;> simp [leaves, Edit.slug]

end BlogDesk.Store.Edit

namespace BlogDesk.Server

open Keyed (find? Sorted)
open Store (Edit)

theorem Account.find?_eq_none {account : Account} {slug : String} :
    find? slug account.blogs = none ↔ ∀ blog ∈ account.blogList, blog.slug ≠ slug := by
  rw [Keyed.find?_eq_none, Account.blogList, List.forall_mem_map]

theorem Account.mem_blogList {account : Account} (h : Sorted account.blogs) {blog : Blog} :
    blog ∈ account.blogList ↔ find? blog.slug account.blogs = some blog.displayName := by
  obtain ⟨slug, displayName⟩ := blog
  simp [← Keyed.mem_iff_find? h, blogList]

namespace Backend

variable {backend after : Backend} {session : Option String} {username : String} {account : Account}

-- ---- One edit

theorem perform_edit {edit : Edit} {result : Json} :
    backend.perform session edit.operation = .ok (result, after) ↔
      ∃ username account, session = some username ∧
        find? username backend.accounts = some account ∧ edit.Fits account.blogList ∧
        result = .object [] ∧
        after = backend.putAccount username { account with blogs := edit.store account.blogs } := by
  cases edit with
  | create blog =>
    have hperform : backend.perform session (Edit.create blog).operation =
        done <$> backend.createBlog session blog := map_done _
    simp only [hperform, map_eq_ok, createBlog_eq_ok, done, Prod.mk.injEq, Edit.Fits,
      ← Account.find?_eq_none, Edit.store, storeBlog]
    grind
  | edit blog =>
    have hperform : backend.perform session (Edit.edit blog).operation =
        done <$> backend.updateBlog session blog := map_done _
    simp only [hperform, map_eq_ok, updateBlog_eq_ok, done, Prod.mk.injEq, Edit.Fits, Edit.store,
      storeBlog]
    grind
  | delete slug =>
    have hperform : backend.perform session (Edit.delete slug).operation =
        done <$> backend.deleteBlog session slug := map_done _
    have hthere (account : Account) : find? slug account.blogs ≠ none ↔
        ∃ old ∈ account.blogList, old.slug = slug := by
      rw [ne_eq, Account.find?_eq_none]
      simp
    simp only [hperform, map_eq_ok, deleteBlog_eq_ok, hthere, done, Prod.mk.injEq, Edit.Fits,
      Edit.store]
    grind

def Dispatched.edit? (call : Dispatched) : Option Edit :=
  match Method.ofName? call.method with
  | some .createBlog => (readParam Blog.lenientLayout call.param).toOption.map .create
  | some .updateBlog => (readParam Blog.lenientLayout call.param).toOption.map .edit
  | some .deleteBlog => (readParam SlugArgs.lenientLayout call.param).toOption.map (.delete ·.slug)
  | _ => none

theorem toOption_eq_some {ε α : Type} {x : Except ε α} {a : α} : x.toOption = some a ↔ x = .ok a := by
  cases x <;> simp [Except.toOption]

theorem dispatch_edit {call : Dispatched} {edit : Edit} (h : call.edit? = some edit) :
    backend.dispatch call.session call.method call.param =
      backend.perform call.session edit.operation := by
  rw [Dispatched.edit?] at h
  cases hmethod : Method.ofName? call.method with
  | none =>
    rw [hmethod] at h
    cases h
  | some method =>
    rw [hmethod] at h
    cases method with
    | createBlog | updateBlog | deleteBlog =>
      obtain ⟨read, hread, rfl⟩ := Option.map_eq_some_iff.mp h
      simp only [dispatch, hmethod, toOption_eq_some.mp hread]
      exact (map_done _).symm
    | _ => cases h

-- ---- One call

inductive Taken (backend : Backend) (call : Dispatched) : Except Refusal Json × Backend → Prop
  | refused (refusal : Refusal) : Taken backend call (.error refusal, backend)
  | looked (result : Json) (hedit : call.edit? = none) : Taken backend call (.ok result, backend)
  | registered {user : NewUser} (result : Json) (hedit : call.edit? = none)
      (hnew : find? user.username backend.accounts = none) :
    Taken backend call
      (.ok result, backend.putAccount user.username ⟨user.password, user.displayName, []⟩)
  | edited {username : String} {account : Account} {edit : Edit} (result : Json)
      (hedit : call.edit? = some edit) (hsession : call.session = some username)
      (haccount : find? username backend.accounts = some account) :
    Taken backend call
      (.ok result, backend.putAccount username { account with blogs := edit.store account.blogs })

theorem take_edit {call : Dispatched} {edit : Edit} (h : call.edit? = some edit) :
    Taken backend call (backend.take call) := by
  rw [take, dispatch_edit h]
  split
  · rename_i result after hperform
    obtain ⟨username, account, hsession, haccount, -, -, rfl⟩ := perform_edit.mp hperform
    exact .edited result h hsession haccount
  · exact .refused _

theorem take_other {call : Dispatched} (hedit : call.edit? = none) :
    Taken backend call (backend.take call) := by
  rw [take]
  split
  · rename_i result after hdispatch
    rw [dispatch] at hdispatch
    cases hmethod : Method.ofName? call.method with
    | none =>
      rw [hmethod] at hdispatch
      cases hdispatch
    | some method =>
      rw [hmethod] at hdispatch
      cases method with
      | register =>
        obtain ⟨user, -, hdone⟩ := bind_eq_ok.mp hdispatch
        obtain ⟨next, hcreate, heq⟩ := map_eq_ok.mp hdone
        cases heq
        obtain ⟨-, -, hnew, rfl⟩ := createUser_eq_ok.mp hcreate
        exact .registered _ hedit hnew
      | whoami | listBlogs =>
        obtain ⟨asked, -, heq⟩ := bind_eq_ok.mp hdispatch
        cases heq
        exact .looked _ hedit
      -- An edit whose parameter cannot be read is refused.
      | createBlog | updateBlog | deleteBlog =>
        obtain ⟨read, hread, -⟩ := bind_eq_ok.mp hdispatch
        simp [Dispatched.edit?, hmethod, hread, Except.toOption] at hedit
  · exact .refused _

theorem taken (backend : Backend) (call : Dispatched) : Taken backend call (backend.take call) := by
  cases hedit : call.edit? with
  | some edit => exact take_edit hedit
  | none => exact take_other hedit

def stored? (backend : Backend) (username slug : String) : Option (Option String) :=
  (find? username backend.accounts).bind fun account => find? slug account.blogs

/-- The edit of that slug that the user was granted, if the call is one. -/
def editOf? (username slug : String) : Dispatched × Except Refusal Json → Option Edit
  | (_, .error _) => none
  | (call, .ok _) =>
    if call.session = some username then call.edit?.filter (·.slug = slug) else none

/-- A call leaves of a slug what the edit of it leaves that it was granted, or what was there. -/
theorem stored?_take (backend : Backend) (call : Dispatched) (username slug : String) :
    (backend.take call).2.stored? username slug =
      ((editOf? username slug (call, (backend.take call).1)).map Edit.leaves).getD
        (backend.stored? username slug) := by
  generalize backend.take call = result, taken backend call = htaken
  cases htaken with
  | refused refusal => rfl
  | looked result hedit => simp [editOf?, hedit]
  | @registered user result hedit hnew =>
    have hstored : (backend.putAccount user.username ⟨user.password, user.displayName, []⟩).stored?
        username slug = backend.stored? username slug := by
      rw [stored?, stored?, putAccount_find?]
      split
      · rename_i hname
        subst hname
        rw [hnew]
        rfl
      · rfl
    simp [editOf?, hedit, hstored]
  | @edited owner account edit result hedit hsession haccount =>
    rw [editOf?, hsession, hedit, stored?, putAccount_find?]
    by_cases howner : username = owner
    · subst howner
      by_cases hslug : edit.slug = slug
      · simp [Edit.find?_store, Option.filter_some, hslug]
      · simp [Edit.find?_store, Option.filter_some, hslug, Ne.symm hslug, stored?, haccount]
    · simp [howner, Ne.symm howner, stored?]

theorem take_listBlogs (haccount : find? username backend.accounts = some account) (param : Json) :
    backend.take ⟨some username, Method.listBlogs.name, param⟩ =
      (.ok (if account.blogList = [] then .null else .array (account.blogList.map Blog.layout.toJson)),
        backend) := by
  have hresult (blogs : List Blog) : blogsResult blogs =
      if blogs = [] then .null else .array (blogs.map Blog.layout.toJson) := by
    cases blogs <;> rfl
  have hlist : backend.listBlogs (some username) = .ok account.blogList :=
    listBlogs_eq_ok.mpr ⟨username, account, rfl, haccount, rfl⟩
  simp only [take, dispatch, Method.ofName?_name, hlist, bind, Except.bind, hresult]

theorem take_edit_ok {call : Dispatched} {edit : Edit} (hedit : call.edit? = some edit)
    (hsession : call.session = some username)
    (haccount : find? username backend.accounts = some account) :
    (∃ result, (backend.take call).1 = .ok result) ↔ edit.Fits account.blogList := by
  rw [take, dispatch_edit hedit]
  constructor
  · rintro ⟨result, hresult⟩
    split at hresult
    · rename_i given after hperform
      obtain ⟨owner, found, hcaller, hfound, hfits, -⟩ := perform_edit.mp hperform
      cases hsession.symm.trans hcaller
      cases haccount.symm.trans hfound
      exact hfits
    · cases hresult
  · intro hfits
    rw [perform_edit.mpr ⟨username, account, hsession, haccount, hfits, rfl, rfl⟩]
    exact ⟨_, rfl⟩

-- ---- Calls one after the other

def takeAll (backend : Backend) : List Dispatched → Backend
  | [] => backend
  | call :: rest => (backend.take call).2.takeAll rest

/-- The last edit of that slug that the user was granted. -/
def lastEdit? (username slug : String) (history : List (Dispatched × Except Refusal Json)) :
    Option Edit :=
  (history.filterMap (editOf? username slug)).getLast?

theorem stored?_takeAll (backend : Backend) (calls : List Dispatched) (username slug : String) :
    (backend.takeAll calls).stored? username slug =
      ((lastEdit? username slug (backend.replies calls)).map Edit.leaves).getD
        (backend.stored? username slug) := by
  -- From the first call on, so that the last edit of all is that of the rest, if it has one.
  induction calls generalizing backend with
  | nil => rfl
  | cons call rest ih =>
    rw [takeAll, ih, stored?_take, replies, lastEdit?, lastEdit?, List.filterMap_cons]
    cases editOf? username slug (call, (backend.take call).1) with
    | none => rfl
    | some edit =>
      rw [List.getLast?_cons]
      cases (((backend.take call).2.replies rest).filterMap (editOf? username slug)).getLast? <;> rfl

theorem stored?_of_new (calls : List Dispatched) (username slug : String) :
    (takeAll {} calls).stored? username slug =
      (lastEdit? username slug (replies {} calls)).bind Edit.leaves := by
  rw [stored?_takeAll]
  cases lastEdit? username slug (replies {} calls) <;> rfl

theorem slug_of_lastEdit? {username slug : String} {history : List (Dispatched × Except Refusal Json)}
    {edit : Edit} (h : lastEdit? username slug history = some edit) : edit.slug = slug := by
  obtain ⟨⟨call, reply⟩, -, hedit⟩ := List.mem_filterMap.mp (List.mem_of_getLast? h)
  unfold editOf? at hedit
  split at hedit
  · cases hedit
  · split at hedit
    · simpa using (Option.filter_eq_some_iff.mp hedit).2
    · cases hedit

theorem take_changed (backend : Backend) (call : Dispatched) :
    Changed backend call.session call.method call.param (backend.take call).2 := by
  rw [take]
  split
  · rename_i hdispatch
    exact dispatch_changed hdispatch
  · exact .nothing

theorem Sound.takeAll (h : Sound backend) (calls : List Dispatched) : Sound (backend.takeAll calls) := by
  induction calls generalizing backend with
  | nil => exact h
  | cons call rest ih => exact ih (h.changed (backend.take_changed call))

theorem Named.takeAll (h : Named backend) (calls : List Dispatched) : Named (backend.takeAll calls) := by
  induction calls generalizing backend with
  | nil => exact h
  | cons call rest ih => exact ih (h.changed (backend.take_changed call))

-- ---- The result

/-- However a new backend is called: to each user who has an account it lists the blogs that
the user's granted edits left. It lists null if there are none, and else the blogs in slug
order, each as the last edit of its slug stored it. Which edits it grants next is decided by
this list: a new slug may be created, any slug but the empty one stored, a listed one deleted. -/
theorem lists_what_edits_left (calls : List Dispatched) (username : String)
    (hknown : Keyed.contains username (takeAll {} calls).accounts) :
    let backend := takeAll {} calls
    let last? (slug : String) := lastEdit? username slug (replies {} calls)
    ∃ blogs : List Blog,
      (∀ param, backend.take ⟨some username, Method.listBlogs.name, param⟩ =
        (.ok (if blogs = [] then .null else .array (blogs.map Blog.layout.toJson)), backend)) ∧
      blogs.Pairwise (·.slug < ·.slug) ∧
      (∀ blog ∈ blogs, blog.slug ≠ "") ∧
      (∀ blog, blog ∈ blogs ↔
        last? blog.slug = some (.create blog) ∨ last? blog.slug = some (.edit blog)) ∧
      ∀ call edit, call.session = some username → call.edit? = some edit →
        ((∃ result, (backend.take call).1 = .ok result) ↔ edit.Fits blogs) := by
  intro backend last?
  obtain ⟨account, haccount⟩ := Option.isSome_iff_exists.mp hknown
  have hsorted : Sorted account.blogs :=
    (Sound.takeAll (show Sound {} from ⟨nofun, nofun⟩) calls).sorted haccount
  have hnamed := (Named.takeAll (show Named {} from ⟨nofun⟩) calls).found haccount
  -- What is stored of a slug is what its last granted edit left; all else is read off the account.
  have hstored (slug : String) : find? slug account.blogs = (last? slug).bind Edit.leaves := by
    have h := stored?_of_new calls username slug
    rwa [stored?, haccount] at h
  refine ⟨account.blogList, fun param => ?_, Account.blogList_sorted hsorted,
    Account.find?_eq_none.mp hnamed.2.2, fun blog => ?_, fun call edit hsession hedit => ?_⟩
  · exact take_listBlogs haccount param
  · rw [Account.mem_blogList hsorted, hstored]
    constructor
    · intro h
      obtain ⟨edit, hlast, hleaves⟩ := Option.bind_eq_some_iff.mp h
      obtain hedit | hedit := Edit.leaves_eq_some.mp hleaves
      all_goals rw [slug_of_lastEdit? hlast] at hedit
      · exact .inl (hlast.trans (congrArg some hedit))
      · exact .inr (hlast.trans (congrArg some hedit))
    · rintro (hlast | hlast)
      all_goals
        rw [hlast]
        rfl
  · exact take_edit_ok hedit hsession haccount

/-- Ada's blogs after she registered, stored one twice and another once, and deleted that. -/
theorem lists_what_edits_left_ada :
    let blog (slug name : String) : Json := .object [("Slug", .str slug), ("DisplayName", .str name)]
    let calls : List Dispatched :=
      [⟨none, "Users.Create", .object [("Username", .str "ada"), ("Password", .str "pw")]⟩,
        ⟨some "ada", "Blogs.Create", blog "tides" "Tides"⟩,
        ⟨some "ada", "Blogs.Create", blog "gears" "Gears"⟩,
        ⟨some "bob", "Blogs.Delete", blog "tides" "Tides"⟩,
        ⟨some "ada", "Blogs.Update", blog "tides" "High tides"⟩,
        ⟨some "ada", "Blogs.Delete", blog "gears" "Gears"⟩]
    Keyed.contains "ada" (takeAll {} calls).accounts ∧
      ∃ blogs : List Blog, blogs.Pairwise (·.slug < ·.slug) ∧
        ⟨"tides", some "High tides"⟩ ∈ blogs ∧ (∀ blog ∈ blogs, blog.slug ≠ "gears") := by
  intro blog calls
  have hknown : Keyed.contains "ada" (takeAll {} calls).accounts := by decide
  obtain ⟨blogs, -, hsorted, -, hblogs, -⟩ := lists_what_edits_left calls "ada" hknown
  refine ⟨hknown, blogs, hsorted, (hblogs _).mpr (.inr (by decide)), ?_⟩
  rintro ⟨slug, displayName⟩ hmem rfl
  have hlast : lastEdit? "ada" "gears" (replies {} calls) = some (.delete "gears") := by decide
  rcases (hblogs _).mp hmem with h | h
  all_goals cases hlast.symm.trans h

end Backend

end BlogDesk.Server
