import BlogDesk.Client
import BlogDesk.Server.Backend
import BlogDesk.Proofs.Json.Record

/-!
# Messages are read back

What the console writes for the service, and the service for the console, the other
side reads as it was meant.
-/

namespace BlogDesk

open Json

-- ---- Users and blogs

theorem plain_of_texts (keys : List String) {members : List (String × Json)}
    (hkeys : members.map (·.1) = keys) (hsorted : keys.Pairwise (· < ·))
    (htexts : ∀ member ∈ members, ∃ text, member.2 = .str text) : Plain 1 (.object members) := by
  subst hkeys
  refine .object (List.pairwise_map.mp hsorted) fun member hmember => ?_
  obtain ⟨text, htext⟩ := htexts member hmember
  exact htext ▸ .str text

def displayMember (displayName : Option String) : List (String × Json) :=
  (displayName.map fun name => ("DisplayName", .str name)).toList

theorem displayName_lt_username : "DisplayName" < "Username" := by decide

theorem displayName_lt_password : "DisplayName" < "Password" := by decide

theorem displayName_lt_slug : "DisplayName" < "Slug" := by decide

theorem password_lt_username : "Password" < "Username" := by decide

theorem User.toJson_eq (user : User) : User.layout.toJson user =
    .object (displayMember user.displayName ++ [("Username", .str user.username)]) := by
  obtain ⟨username, displayName⟩ := user
  refine congrArg Json.object ?_
  cases displayName with
  | none => rfl
  | some name =>
    change Keyed.ofList [("Username", Json.str username), ("DisplayName", Json.str name)] = _
    simp only [Keyed.ofList, List.foldl_cons, List.foldl_nil, Keyed.insert, displayName_lt_username,
      if_true]
    rfl

theorem User.plain (user : User) : Plain 1 (User.layout.toJson user) := by
  rw [User.toJson_eq]
  cases user.displayName with
  | none => exact plain_of_texts ["Username"] rfl (by decide) (by simp [displayMember])
  | some name =>
    exact plain_of_texts ["DisplayName", "Username"] rfl (by decide) (by simp [displayMember])

theorem User.ofJson_toJson (user : User) :
    User.layout.ofJson (User.layout.toJson user) = .ok user := by
  obtain ⟨username, displayName⟩ := user
  rw [User.toJson_eq]
  cases displayName <;> rfl

theorem NewUser.toJson_eq (user : NewUser) : NewUser.layout.toJson user =
    .object (displayMember user.displayName ++
      [("Password", .str user.password), ("Username", .str user.username)]) := by
  obtain ⟨username, password, displayName⟩ := user
  refine congrArg Json.object ?_
  cases displayName with
  | none =>
    change Keyed.ofList [("Username", Json.str username), ("Password", Json.str password)] = _
    simp only [Keyed.ofList, List.foldl_cons, List.foldl_nil, Keyed.insert, password_lt_username,
      if_true]
    rfl
  | some name =>
    change Keyed.ofList [("Username", Json.str username), ("Password", Json.str password),
      ("DisplayName", Json.str name)] = _
    simp only [Keyed.ofList, List.foldl_cons, List.foldl_nil, Keyed.insert, password_lt_username,
      displayName_lt_password, if_true]
    rfl

theorem NewUser.plain (user : NewUser) : Plain 1 (NewUser.layout.toJson user) := by
  rw [NewUser.toJson_eq]
  cases user.displayName with
  | none => exact plain_of_texts ["Password", "Username"] rfl (by decide) (by simp [displayMember])
  | some name =>
    exact plain_of_texts ["DisplayName", "Password", "Username"] rfl (by decide)
      (by simp [displayMember])

theorem NewUser.lenient_toJson (user : NewUser) :
    NewUser.lenientLayout.ofJson (NewUser.layout.toJson user) = .ok user := by
  obtain ⟨username, password, displayName⟩ := user
  rw [NewUser.toJson_eq]
  cases displayName <;> rfl

theorem Blog.toJson_eq (blog : Blog) : Blog.layout.toJson blog =
    .object (displayMember blog.displayName ++ [("Slug", .str blog.slug)]) := by
  obtain ⟨slug, displayName⟩ := blog
  refine congrArg Json.object ?_
  cases displayName with
  | none => rfl
  | some name =>
    change Keyed.ofList [("Slug", Json.str slug), ("DisplayName", Json.str name)] = _
    simp only [Keyed.ofList, List.foldl_cons, List.foldl_nil, Keyed.insert, displayName_lt_slug,
      if_true]
    rfl

theorem Blog.plain (blog : Blog) : Plain 1 (Blog.layout.toJson blog) := by
  rw [Blog.toJson_eq]
  cases blog.displayName with
  | none => exact plain_of_texts ["Slug"] rfl (by decide) (by simp [displayMember])
  | some name =>
    exact plain_of_texts ["DisplayName", "Slug"] rfl (by decide) (by simp [displayMember])

theorem Blog.ofJson_toJson (blog : Blog) :
    Blog.layout.ofJson (Blog.layout.toJson blog) = .ok blog := by
  obtain ⟨slug, displayName⟩ := blog
  rw [Blog.toJson_eq]
  cases displayName <;> rfl

theorem Blog.lenient_toJson (blog : Blog) :
    Blog.lenientLayout.ofJson (Blog.layout.toJson blog) = .ok blog := by
  obtain ⟨slug, displayName⟩ := blog
  rw [Blog.toJson_eq]
  cases displayName <;> rfl

theorem Blog.listOfJson_toJson (blogs : List Blog) :
    Blog.layout.listOfJson (.array (blogs.map Blog.layout.toJson)) = .ok blogs := by
  rw [Layout.listOfJson]
  induction blogs with
  | nil => rfl
  | cons blog rest ih =>
    rw [List.map_cons, List.mapM_cons, Blog.ofJson_toJson, ih]
    rfl

theorem SlugArgs.plain (args : SlugArgs) : Plain 1 (SlugArgs.layout.toJson args) := by
  change Plain 1 (.object [("Slug", .str args.slug)])
  exact plain_of_texts ["Slug"] rfl (by decide) (by simp)

theorem SlugArgs.lenient_toJson (args : SlugArgs) :
    SlugArgs.lenientLayout.ofJson (SlugArgs.layout.toJson args) = .ok args := rfl

-- ---- Calls and their answers

theorem Method.ofName?_name (method : Method) : Method.ofName? method.name = some method := by
  cases method <;> decide

theorem Method.name_injective : Function.Injective Method.name := fun first second h =>
  Option.some.inj ((ofName?_name first).symm.trans (h ▸ ofName?_name second))

theorem Operation.plain_params (operation : Operation) :
    ∀ param ∈ operation.params, Plain 1 param := by
  intro param hparam
  cases operation with
  | whoami => cases hparam
  | listBlogs => cases hparam
  | register user => exact List.mem_singleton.mp hparam ▸ NewUser.plain user
  | createBlog blog => exact List.mem_singleton.mp hparam ▸ Blog.plain blog
  | updateBlog blog => exact List.mem_singleton.mp hparam ▸ Blog.plain blog
  | deleteBlog slug => exact List.mem_singleton.mp hparam ▸ SlugArgs.plain ⟨slug⟩

theorem LenientCall.read_write (call : Call) (hparams : ∀ param ∈ call.params, Plain 1 param) :
    LenientCall.layout.read (Call.layout.write call) =
      .ok ⟨.str call.id, call.method, call.params⟩ := by
  have hlist : Plain 126 (.array call.params) := (Plain.array hparams).mono (by decide)
  refine Layout.read_render ?_ ?_ rfl
  · intro member hmember
    change member ∈ [("id", .str call.id), ("method", .str call.method),
      ("params", .array call.params)] at hmember
    simp only [List.mem_cons, List.not_mem_nil, or_false] at hmember
    rcases hmember with rfl | rfl | rfl
    · exact .str _
    · exact .str _
    · exact hlist
  · intro member hmember
    change member ∈ [("id", .str call.id), ("method", .str call.method),
      ("params", .array call.params)] at hmember
    simp only [List.mem_cons, List.not_mem_nil, or_false] at hmember
    rcases hmember with rfl | rfl | rfl <;> simp [LenientCall.layout, Field.requiredText]

theorem Answer.read_write (id : String) {result error : Json} (hresult : Plain 126 result)
    (herror : Plain 126 error) :
    Answer.layout.read (Reply.layout.write ⟨.str id, result, error⟩) =
      .ok ⟨some (.str id), result, error⟩ := by
  refine Layout.read_render ?_ ?_ rfl
  · intro member hmember
    change member ∈ [("id", .str id), ("result", result), ("error", error)] at hmember
    simp only [List.mem_cons, List.not_mem_nil, or_false] at hmember
    rcases hmember with rfl | rfl | rfl
    · exact .str _
    · exact hresult
    · exact herror
  · intro member hmember
    change member ∈ [("id", .str id), ("result", result), ("error", error)] at hmember
    simp only [List.mem_cons, List.not_mem_nil, or_false] at hmember
    rcases hmember with rfl | rfl | rfl <;> simp [Answer.layout]

theorem plain_blogsResult (blogs : List Blog) : Plain 2 (Server.Backend.blogsResult blogs) := by
  cases blogs with
  | nil => exact .null
  | cons blog rest =>
    refine .array fun item hitem => ?_
    obtain ⟨listed, -, rfl⟩ := List.mem_map.mp hitem
    exact Blog.plain listed

/-- A user without blogs is told so by null. -/
theorem optionalBlogs_blogsResult (blogs : List Blog) :
    Response.optionalBlogs (Server.Backend.blogsResult blogs) =
      .ok (if blogs = [] then none else some blogs) := by
  cases blogs with
  | nil => rfl
  | cons blog rest =>
    simp only [Server.Backend.blogsResult, Response.optionalBlogs, Blog.listOfJson_toJson]
    rfl

end BlogDesk
