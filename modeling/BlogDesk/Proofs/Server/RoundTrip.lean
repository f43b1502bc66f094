import BlogDesk.Proofs.Server.Accounts
import BlogDesk.Proofs.Server.Lifetime

/-!
# A call is the operation itself

To make a call, let the service handle it and read its answer comes to the same as the
operation itself (`Backend.execute`), with no text in between: `call_executes_operation`.
-/

namespace BlogDesk

namespace Operation

/-- What the console reads in a response to the operation's call. -/
def read (response : Response) : (operation : Operation) → Except CallFailure operation.Outcome
  | whoami => response.user
  | listBlogs => response.blogs?
  | register _ => response.acknowledged Method.register.name
  | createBlog _ => response.acknowledged Method.createBlog.name
  | updateBlog _ => response.acknowledged Method.updateBlog.name
  | deleteBlog _ => response.acknowledged Method.deleteBlog.name

end Operation

namespace Server

-- ---- Refusals

namespace Backend

theorem caller_error {backend : Backend} {session : Option String} {refusal : Refusal}
    (h : backend.caller session = .error refusal) (name : String) : refusal ≠ .unknownMethod name := by
  unfold caller at h
  split at h
  · cases h
    nofun
  · split at h
    · cases h
      nofun
    · cases h

theorem execute_error {backend : Backend} {session : Option String} {operation : Operation}
    {refusal : Refusal} (h : backend.execute session operation = .error refusal) (name : String) :
    refusal ≠ .unknownMethod name := by
  cases operation with
  | whoami =>
    rcases bind_eq_error.mp (map_eq_error.mp h) with hcaller | ⟨_, -, hrest⟩
    · exact caller_error hcaller name
    · cases hrest
  | listBlogs =>
    rcases bind_eq_error.mp (map_eq_error.mp h) with hcaller | ⟨_, -, hrest⟩
    · exact caller_error hcaller name
    · cases hrest
  | register user =>
    have hcreate := map_eq_error.mp h
    unfold createUser at hcreate
    repeat' split at hcreate
    all_goals cases hcreate
    all_goals nofun
  | createBlog blog =>
    have hcreate := map_eq_error.mp h
    unfold createBlog at hcreate
    split at hcreate
    · cases hcreate
      nofun
    · rcases bind_eq_error.mp hcreate with hcaller | ⟨_, -, hrest⟩
      · exact caller_error hcaller name
      · simp only at hrest
        split at hrest <;> cases hrest
        nofun
  | updateBlog blog =>
    have hupdate := map_eq_error.mp h
    unfold updateBlog at hupdate
    split at hupdate
    · cases hupdate
      nofun
    · rcases bind_eq_error.mp hupdate with hcaller | ⟨_, -, hrest⟩
      · exact caller_error hcaller name
      · cases hrest
  | deleteBlog slug =>
    rcases bind_eq_error.mp (map_eq_error.mp h) with hcaller | ⟨_, -, hrest⟩
    · exact caller_error hcaller name
    · simp only at hrest
      split at hrest <;> cases hrest
      nofun

end Backend

/-- Only the message about a missing session contains it. -/
theorem Refusal.lacksSession_iff {refusal : Refusal} (h : ∀ name, refusal ≠ .unknownMethod name) :
    CallFailure.lacksSession refusal.message ↔ refusal.message = BlogDesk.authenticationRequired := by
  cases refusal with
  | unknownMethod name => exact absurd rfl (h name)
  | _ => decide

-- ---- Over the wire

theorem callResultAs_answerTo {α : Type} {id method : String} {decode : Json → Except Json.Cause α}
    {result : Json} {a : α} (hplain : Json.Plain 2 result) (hdecode : decode result = .ok a) :
    (answerTo id (.ok result)).callResultAs method decode = .ok a := by
  refine Response.callResultAs_ok.mpr ⟨result, ?_, hdecode⟩
  exact callResult_answerTo id (fun _ heq => Except.ok.inj heq ▸ hplain) method

theorem acknowledged_answerTo {id method : String} {result : Json} (hplain : Json.Plain 2 result) :
    (answerTo id (.ok result)).acknowledged method = .ok () :=
  Response.acknowledged_ok.mpr
    ⟨result, callResult_answerTo id (fun _ heq => Except.ok.inj heq ▸ hplain) method⟩

theorem read_outcome (id : String) (operation : Operation) (outcome : operation.Outcome)
    (hplain : Json.Plain 2 (operation.encode outcome)) :
    operation.read (answerTo id (.ok (operation.encode outcome))) = .ok outcome := by
  cases operation with
  | whoami => exact callResultAs_answerTo hplain (User.ofJson_toJson outcome)
  | listBlogs =>
    refine callResultAs_answerTo hplain ?_
    cases outcome with
    | none => rfl
    | some blogs =>
      change (Blog.layout.listOfJson (.array (blogs.map Blog.layout.toJson))).map some = _
      rw [Blog.listOfJson_toJson]
      rfl
  | _ => exact acknowledged_answerTo hplain

theorem read_refusal (id : String) (operation : Operation) (refusal : Refusal) :
    operation.read (answerTo id (.error refusal)) =
      .error (.refused operation.method.name refusal.message) := by
  have hnone : ∀ result, (.error refusal : Except Refusal Json) = .ok result → Json.Plain 2 result :=
    nofun
  have hresult := callResult_answerTo id hnone
  cases operation <;>
    simp only [Operation.read, Response.user, Response.blogs?, Response.acknowledged,
      Response.callResultAs, hresult] <;> rfl

theorem session_after_contentType (backend : Backend) (value : String) (more : Headers) :
    backend.session (("content-type", value) :: more) = backend.session more := by
  have hother : sameIgnoringCase "content-type" "cookie" = false := by decide
  simp only [Backend.session, sessionCookie?, Headers.values, List.filter_cons, hother,
    Bool.false_eq_true, if_false]

-- ---- The result

/-- A console's call is handled as the operation itself, and its answer says how that ended. -/
theorem handle_executes (ids : Nat → String) (service : Service) {client : Client}
    (hserved : Served client.baseUrl) (operation : Operation) (more : Headers) :
    service.handle ids (arriving (client.request operation) more) =
      match service.backend.execute (service.backend.session more) operation with
      | .ok (outcome, backend) =>
        (answerTo (toString client.nextId) (.ok (operation.encode outcome)), { service with backend })
      | .error refusal => (answerTo (toString client.nextId) (.error refusal), service) := by
  rw [handle_operation ids service hserved, session_after_contentType, Backend.perform]
  cases service.backend.execute (service.backend.session more) operation <;> rfl

section
variable (ids : Nat → String) (service : Service) {client : Client}
  (hserved : Served client.baseUrl) (operation : Operation) (more : Headers)

include hserved

theorem read_handle :
    operation.read (service.handle ids (arriving (client.request operation) more)).1 =
      ((service.backend.execute (service.backend.session more) operation).map (·.1)).mapError
        fun refusal => .refused operation.method.name refusal.message := by
  rw [handle_executes ids service hserved]
  cases h : service.backend.execute (service.backend.session more) operation with
  | ok done => exact read_outcome _ operation done.1 (Backend.execute_plain h)
  | error refusal => exact read_refusal _ operation refusal

theorem service_handle :
    (service.handle ids (arriving (client.request operation) more)).2 =
      { service with backend := ((service.backend.execute (service.backend.session more)
          operation).toOption.map (·.2)).getD service.backend } := by
  rw [handle_executes ids service hserved]
  cases service.backend.execute (service.backend.session more) operation <;> rfl

end

theorem Service.sound_initial : ({} : Service).backend.Sound := ⟨nofun, nofun⟩

theorem Service.run_sound (ids : Nat → String) {service : Service} (h : service.backend.Sound)
    (requests : List Incoming) : (run ids service requests).backend.Sound := by
  induction requests generalizing service with
  | nil => exact h
  | cons request rest ih => exact ih (handle_sound ids request h)

theorem Backend.Sound.listed_sorted {backend : Backend} (h : backend.Sound)
    {session : Option String} {blogs : List Blog}
    (hlisted : (backend.execute session .listBlogs).map (·.1) = .ok (some blogs)) :
    blogs ≠ [] ∧ blogs.Pairwise (·.slug < ·.slug) := by
  obtain ⟨done, hdone, hsome⟩ := map_eq_ok.mp hlisted
  obtain ⟨list, hlist, rfl⟩ := map_eq_ok.mp hdone
  obtain ⟨username, account, -, haccount, rfl⟩ := listBlogs_eq_ok.mp hlist
  change listed account.blogList = some blogs at hsome
  unfold listed at hsome
  split at hsome
  · cases hsome
  · rename_i hne
    cases hsome
    exact ⟨hne, account.blogList_sorted (h.sorted haccount)⟩

/-- Whatever requests came before, and whatever session the further headers present: a
console's call leads to the backend that the operation itself leads to, and is read as
the operation's outcome or as the service's own refusal. A list that comes is in slug order. -/
theorem call_executes_operation (ids : Nat → String) (requests : List Incoming) (nextId : Nat)
    (more : Headers) (operation : Operation) :
    let service := Service.run ids {} requests
    let client : Client := { Client.ofBase "/api" with nextId }
    let answered := service.handle ids (arriving (client.request operation) more)
    let direct := service.backend.execute (service.backend.session more) operation
    operation.read answered.1 =
      (direct.map (·.1)).mapError (fun refusal => .refused operation.method.name refusal.message) ∧
    answered.2 = { service with backend := (direct.toOption.map (·.2)).getD service.backend } ∧
    (∀ failure, operation.read answered.1 = .error failure → (failure.isAuthenticationRequired ↔
      failure = .refused operation.method.name authenticationRequired)) ∧
    ∀ blogs, operation = .listBlogs → answered.1.blogs? = .ok (some blogs) →
      blogs ≠ [] ∧ blogs.Pairwise (·.slug < ·.slug) := by
  intro service client answered direct
  have hserved : Served client.baseUrl := by
    change Endpoint.ofPath? "/api/" = some .calls
    decide
  have hread := read_handle ids service hserved operation more
  refine ⟨hread, service_handle ids service hserved operation more, fun failure hfailure => ?_,
    fun blogs hlist hblogs => ?_⟩
  · -- An unknown method name could hold the text about the session, but operations have known ones.
    obtain ⟨refusal, hdirect, rfl⟩ := mapError_eq_error.mp (hread.symm.trans hfailure)
    have hknown := Backend.execute_error (map_eq_error.mp hdirect)
    rw [CallFailure.isAuthenticationRequired, Refusal.lacksSession_iff hknown]
    simp only [CallFailure.refused.injEq, true_and]
  · subst hlist
    have hsound : service.backend.Sound := Service.run_sound ids Service.sound_initial requests
    exact hsound.listed_sorted (mapError_eq_ok.mp (hread.symm.trans hblogs))

end Server

end BlogDesk
