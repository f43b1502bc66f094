import BlogDesk.Network
import BlogDesk.Proofs.Answers
import BlogDesk.Proofs.Server.Operations
import BlogDesk.Proofs.Server.Requests
import BlogDesk.Proofs.Wire

/-!
# What a call comes to

`Backend.execute` carries an operation out on typed arguments, with a typed outcome, and
`Backend.perform` writes that down as the service does. A call that a console makes for an
operation is executed as just that, and its answer is read as what the operation came to.
-/

namespace BlogDesk

-- ---- Operations

namespace Operation

/-- What an operation that is carried out tells. -/
def Outcome : Operation → Type
  | whoami => User
  | listBlogs => Option (List Blog)
  | register _ | createBlog _ | updateBlog _ | deleteBlog _ => Unit

def encode : (operation : Operation) → operation.Outcome → Json
  | whoami, user => User.layout.toJson user
  | listBlogs, none => .null
  | listBlogs, some blogs => .array (blogs.map Blog.layout.toJson)
  | register _, _ | createBlog _, _ | updateBlog _, _ | deleteBlog _, _ => .object []

end Operation

namespace Server

namespace Backend

def listed (blogs : List Blog) : Option (List Blog) := if blogs = [] then none else some blogs

def execute (backend : Backend) (session : Option String) :
    (operation : Operation) → Except Refusal (operation.Outcome × Backend)
  | .whoami => (fun user => (user, backend)) <$> backend.whoami session
  | .listBlogs => (fun blogs => (listed blogs, backend)) <$> backend.listBlogs session
  | .register user => (fun after => ((), after)) <$> backend.createUser user
  | .createBlog blog => (fun after => ((), after)) <$> backend.createBlog session blog
  | .updateBlog blog => (fun after => ((), after)) <$> backend.updateBlog session blog
  | .deleteBlog slug => (fun after => ((), after)) <$> backend.deleteBlog session slug

def perform (backend : Backend) (session : Option String) (operation : Operation) :
    Except Refusal (Json × Backend) :=
  (fun done => (operation.encode done.1, done.2)) <$> backend.execute session operation

theorem perform_eq_ok {backend after : Backend} {session : Option String} {operation : Operation}
    {result : Json} : backend.perform session operation = .ok (result, after) ↔
      ∃ outcome, backend.execute session operation = .ok (outcome, after) ∧
        operation.encode outcome = result := by
  simp only [perform, map_eq_ok, Prod.mk.injEq, Prod.exists]
  grind

theorem map_done (x : Except Refusal Backend) :
    (fun told : Unit × Backend => (Json.object [], told.2)) <$> (fun after => ((), after)) <$> x =
      done <$> x := by
  cases x <;> rfl

theorem encode_listed (blogs : List Blog) :
    Operation.listBlogs.encode (listed blogs) = blogsResult blogs := by
  cases blogs <;> rfl

theorem readParam_toJson {α β : Type} {layout : Json.Layout α} {lenient : Json.Layout β} {a : α}
    {b : β} (h : lenient.ofJson (layout.toJson a) = .ok b) :
    readParam lenient (layout.toJson a) = .ok b := by
  rw [readParam, h]
  rfl

theorem dispatch_operation (backend : Backend) (session : Option String) (operation : Operation) :
    backend.dispatch session operation.method.name (operation.params.head?.getD .null) =
      backend.perform session operation := by
  cases operation with
  | whoami =>
    change (do let user ← backend.whoami session; _) = _
    cases h : backend.whoami session <;> simp only [perform, execute, h] <;> rfl
  | listBlogs =>
    change (do let blogs ← backend.listBlogs session; _) = _
    cases h : backend.listBlogs session <;>
      simp only [perform, execute, h, ← encode_listed] <;> rfl
  | register user =>
    change (do let user ← readParam NewUser.lenientLayout (NewUser.layout.toJson user); _) = _
    rw [readParam_toJson (NewUser.lenient_toJson user)]
    exact (map_done _).symm
  | createBlog blog =>
    change (do let blog ← readParam Blog.lenientLayout (Blog.layout.toJson blog); _) = _
    rw [readParam_toJson (Blog.lenient_toJson blog)]
    exact (map_done _).symm
  | updateBlog blog =>
    change (do let blog ← readParam Blog.lenientLayout (Blog.layout.toJson blog); _) = _
    rw [readParam_toJson (Blog.lenient_toJson blog)]
    exact (map_done _).symm
  | deleteBlog slug =>
    change (do let args ← readParam SlugArgs.lenientLayout (SlugArgs.layout.toJson ⟨slug⟩); _) = _
    rw [readParam_toJson (SlugArgs.lenient_toJson ⟨slug⟩)]
    exact (map_done _).symm

theorem execute_plain {backend after : Backend} {session : Option String} {operation : Operation}
    {outcome : operation.Outcome}
    (h : backend.execute session operation = .ok (outcome, after)) :
    Json.Plain 2 (operation.encode outcome) := by
  cases operation with
  | whoami => exact (User.plain outcome).mono (by decide)
  | listBlogs =>
    obtain ⟨blogs, -, heq⟩ := map_eq_ok.mp h
    cases heq
    exact encode_listed blogs ▸ plain_blogsResult blogs
  | _ => exact .object .nil nofun

end Backend

-- ---- Calls that a console makes

def answerTo (id : String) (outcome : Except Refusal Json) : Response where
  status := 200
  headers := [("content-type", "application/json")]
  body := Reply.layout.write <| match outcome with
    | .ok result => ⟨.str id, result, .null⟩
    | .error refusal => ⟨.str id, .null, .str refusal.message⟩

theorem contentType_call (rest : Headers) :
    Headers.value? (("content-type", "application/json") :: rest) "content-type" =
      some "application/json" := by
  simp [Headers.value?, sameIgnoringCase]

theorem isJson_call (rest : Headers) :
    MediaType.isJson (("content-type", "application/json") :: rest) = true := by
  rw [MediaType.isJson, contentType_call]
  decide

theorem isForm_call (rest : Headers) :
    MediaType.isForm (("content-type", "application/json") :: rest) = false := by
  rw [MediaType.isForm, contentType_call]
  decide

/-- Whether calls to the service at that address come to its endpoint for calls. -/
def Served (baseUrl : String) : Prop := Endpoint.ofPath? (baseUrl ++ "/") = some .calls

def arriving (request : Request) (more : Headers) : Incoming where
  path := request.path
  headers := request.headers ++ more
  body := request.body.getD ""

theorem reads_arriving {client : Client} (hserved : Served client.baseUrl) (operation : Operation)
    (more : Headers) : (arriving (client.request operation) more).Reads
      ⟨.str (toString client.nextId), operation.method.name, operation.params⟩ :=
  ⟨⟨hserved, rfl⟩, isJson_call more, LenientCall.read_write
    ⟨toString client.nextId, operation.method.name, operation.params⟩ operation.plain_params⟩

theorem answerIn_operation (service : Service) (session : Option String) (id : String)
    (operation : Operation) :
    service.answerIn session ⟨.str id, operation.method.name, operation.params⟩ =
      match service.backend.perform session operation with
      | .ok (result, backend) => (answerTo id (.ok result), { service with backend })
      | .error refusal => (answerTo id (.error refusal), service) := by
  cases h : service.backend.perform session operation <;>
    simp only [Service.answerIn, Backend.replyIn, Backend.dispatch_operation, h, answerTo]

/-- The service executes a console's call as the operation that it was made for. -/
theorem handle_operation (ids : Nat → String) (service : Service) {client : Client}
    (hserved : Served client.baseUrl) (operation : Operation) (more : Headers) :
    service.handle ids (arriving (client.request operation) more) =
      match service.backend.perform
        (service.backend.session (("content-type", "application/json") :: more)) operation with
      | .ok (result, backend) =>
        (answerTo (toString client.nextId) (.ok result), { service with backend })
      | .error refusal => (answerTo (toString client.nextId) (.error refusal), service) := by
  rw [Service.handle_of_reads (reads_arriving hserved operation more), answerIn_operation]
  rfl

/-- The headers of a call that a console with this jar makes. -/
def callHeaders (jar : Network.Jar) : Headers :=
  ("content-type", "application/json") ::
    (jar.map fun id => ("cookie", authCookie ++ "=" ++ id)).toList

theorem withCookie_headers (client : Client) (operation : Operation) (jar : Network.Jar) :
    (Network.withCookie (client.request operation) jar).headers = callHeaders jar := rfl

theorem withCookie_eq_arriving (request : Request) (jar : Network.Jar) :
    Network.withCookie request jar =
      arriving request (jar.map fun id => ("cookie", authCookie ++ "=" ++ id)).toList := rfl

-- ---- What the console reads

theorem Refusal.message_ne_empty (refusal : Refusal) : refusal.message ≠ "" := by
  cases refusal with
  | unknownMethod name =>
    change "rpc: can't find method \"" ++ name ++ "\"" ≠ ""
    simp
  | _ => decide

theorem callResult_answerTo (id : String) {outcome : Except Refusal Json}
    (hplain : ∀ result, outcome = .ok result → Json.Plain 2 result) (method : String) :
    (answerTo id outcome).callResult method =
      outcome.mapError fun refusal => .refused method refusal.message := by
  cases outcome with
  | ok result =>
    have hread := Answer.read_write id ((hplain result rfl).mono (by decide)) .null
    simp only [Response.callResult, answerTo, hread]
    rfl
  | error refusal =>
    have hread := Answer.read_write id .null (.str refusal.message)
    have hmessage : Answer.errorMessage? ⟨some (.str id), .null, .str refusal.message⟩ =
        some refusal.message := if_neg refusal.message_ne_empty
    simp only [Response.callResult, answerTo, hread, hmessage]
    rfl

theorem callResult_logout (service : Service) (request : Incoming) (method : String) (result : Json) :
    (service.logout request).1.callResult method ≠ .ok result := by
  have hempty : ∃ fault, Answer.layout.read "" = .error fault := ⟨_, rfl⟩
  obtain ⟨fault, hfault⟩ := hempty
  unfold Service.logout
  split
  · nofun
  · split
    · nofun
    · simp [Response.callResult, hfault]

section
variable {ids : Nat → String} {service : Service} {client : Client} {jar : Network.Jar}

theorem handle_answer (hserved : Served client.baseUrl) (operation : Operation) :
    (service.handle ids (Network.withCookie (client.request operation) jar)).1 =
      answerTo (toString client.nextId)
        ((service.backend.perform (service.backend.session (callHeaders jar)) operation).map (·.1)) := by
  rw [withCookie_eq_arriving, handle_operation ids service hserved, ← callHeaders]
  cases service.backend.perform (service.backend.session (callHeaders jar)) operation <;> rfl

/-- No other endpoint answers a call with a result. -/
theorem served_of_callResult {operation : Operation} {method : String} {result : Json}
    (h : (service.handle ids (Network.withCookie (client.request operation) jar)).1.callResult
      method = .ok result) : Served client.baseUrl := by
  have hpost : (Network.withCookie (client.request operation) jar).method = "POST" := rfl
  have hform : MediaType.isForm (Network.withCookie (client.request operation) jar).headers = false := by
    rw [withCookie_headers, callHeaders, isForm_call]
  change Endpoint.ofPath? (Network.withCookie (client.request operation) jar).path = _
  cases hendpoint : Endpoint.ofPath? (Network.withCookie (client.request operation) jar).path with
  | none =>
    simp only [Service.handle, hendpoint] at h
    cases h
  | some endpoint =>
    simp only [Service.handle, hendpoint, hpost, ne_eq, not_true_eq_false, if_false] at h
    cases endpoint with
    | calls => rfl
    | login =>
      simp only [Service.login, hform, Bool.not_false, if_true] at h
      cases h
    | logout => exact (callResult_logout _ _ _ _ h).elim

theorem performed_of_callResult {operation : Operation} {method : String} {result : Json}
    (h : (service.handle ids (Network.withCookie (client.request operation) jar)).1.callResult
      method = .ok result) :
    ∃ after, service.backend.perform (service.backend.session (callHeaders jar)) operation =
      .ok (result, after) := by
  rw [handle_answer (served_of_callResult h), callResult_answerTo _ (fun result hresult => ?_)] at h
  · cases hperform : service.backend.perform (service.backend.session (callHeaders jar)) operation with
    | ok done =>
      rw [hperform] at h
      cases h
      exact ⟨done.2, rfl⟩
    | error refusal =>
      rw [hperform] at h
      cases h
  · obtain ⟨⟨_, after⟩, hperform, rfl⟩ := map_eq_ok.mp hresult
    obtain ⟨outcome, hexecute, rfl⟩ := Backend.perform_eq_ok.mp hperform
    exact Backend.execute_plain hexecute

theorem whoami_of_user {user : User}
    (h : (service.handle ids (Network.withCookie (client.request .whoami) jar)).1.user = .ok user) :
    service.backend.whoami (service.backend.session (callHeaders jar)) = .ok user := by
  obtain ⟨result, hresult, hread⟩ := Response.callResultAs_ok.mp h
  obtain ⟨after, hperform⟩ := performed_of_callResult hresult
  obtain ⟨outcome, hexecute, rfl⟩ := Backend.perform_eq_ok.mp hperform
  obtain ⟨named, hwho, heq⟩ := map_eq_ok.mp hexecute
  obtain ⟨rfl, -⟩ := Prod.mk.inj heq
  cases (User.ofJson_toJson named).symm.trans hread
  exact hwho

theorem listed_of_blogs {list : Option (List Blog)}
    (h : (service.handle ids (Network.withCookie (client.request .listBlogs) jar)).1.blogs? =
      .ok list) :
    service.backend.listBlogs (service.backend.session (callHeaders jar)) = .ok (list.getD []) := by
  obtain ⟨result, hresult, hread⟩ := Response.callResultAs_ok.mp h
  obtain ⟨after, hperform⟩ := performed_of_callResult hresult
  obtain ⟨outcome, hexecute, rfl⟩ := Backend.perform_eq_ok.mp hperform
  obtain ⟨listed, hlist, heq⟩ := map_eq_ok.mp hexecute
  cases heq
  rw [Backend.encode_listed, optionalBlogs_blogsResult] at hread
  cases hread
  rw [hlist]
  split <;> simp_all

theorem jar_after_call (hserved : Served client.baseUrl) (operation : Operation)
    (held : Network.Jar) :
    held.after (service.handle ids (Network.withCookie (client.request operation) jar)).1 = held := by
  rw [handle_answer hserved]
  simp [Network.Jar.after, Headers.values, answerTo, sameIgnoringCase]

end

-- ---- Who may call

namespace Backend

variable {backend after : Backend} {session : Option String} {result : Json}

theorem session_of_whoami {user : User} (h : backend.whoami session = .ok user) :
    session = some user.username :=
  (whoami_eq_ok.mp h).1

theorem session_of_listBlogs {blogs : List Blog} (h : backend.listBlogs session = .ok blogs) :
    ∃ username, session = some username := by
  obtain ⟨username, account, hsession, -⟩ := listBlogs_eq_ok.mp h
  exact ⟨username, hsession⟩

theorem session_of_edit {edit : Store.Edit}
    (h : backend.perform session edit.operation = .ok (result, after)) :
    ∃ username, session = some username := by
  obtain ⟨outcome, hexecute, -⟩ := perform_eq_ok.mp h
  cases edit with
  | create blog =>
    obtain ⟨next, hnext, -⟩ := map_eq_ok.mp hexecute
    obtain ⟨-, username, account, hsession, -⟩ := createBlog_eq_ok.mp hnext
    exact ⟨username, hsession⟩
  | edit blog =>
    obtain ⟨next, hnext, -⟩ := map_eq_ok.mp hexecute
    obtain ⟨-, username, account, hsession, -⟩ := updateBlog_eq_ok.mp hnext
    exact ⟨username, hsession⟩
  | delete slug =>
    obtain ⟨next, hnext, -⟩ := map_eq_ok.mp hexecute
    obtain ⟨username, account, hsession, -⟩ := deleteBlog_eq_ok.mp hnext
    exact ⟨username, hsession⟩

end Backend

end Server

end BlogDesk
