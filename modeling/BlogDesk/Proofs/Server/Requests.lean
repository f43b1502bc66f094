import BlogDesk.Server.Router

/-!
# What a request comes to

`Handled` lists, once for all later proofs, what the service can make of a request:
it refuses it, opens a session, closes one, or answers a call. Statements about
sequences of requests look at these four cases and at no endpoint.
-/

namespace BlogDesk.Server

-- ---- Calls

namespace Backend

def replyIn (backend : Backend) (session : Option String) (call : LenientCall) : Reply × Backend :=
  match backend.dispatch session call.method (call.params.head?.getD .null) with
  | .ok (result, after) => (⟨call.id, result, .null⟩, after)
  | .error refusal => (⟨call.id, .null, .str refusal.message⟩, backend)

end Backend

-- ---- Cases

def Incoming.IsTo (request : Incoming) (endpoint : Endpoint) : Prop :=
  Endpoint.ofPath? request.path = some endpoint ∧ request.method = "POST"

instance (request : Incoming) (endpoint : Endpoint) : Decidable (request.IsTo endpoint) :=
  inferInstanceAs (Decidable (_ ∧ _))

theorem Incoming.IsTo.unique {request : Incoming} {endpoint other : Endpoint}
    (h : request.IsTo endpoint) (hother : request.IsTo other) : endpoint = other :=
  Option.some.inj (h.1.symm.trans hother.1)

/-- A logout that presents that session. -/
def Incoming.LogsOut (request : Incoming) (id : String) : Prop :=
  request.IsTo .logout ∧ sessionCookie? request.headers = some id

/-- A call that the service reads. -/
def Incoming.Reads (request : Incoming) (call : LenientCall) : Prop :=
  request.IsTo .calls ∧ MediaType.isJson request.headers ∧
    LenientCall.layout.read request.body = .ok call

def Incoming.LogsIn (request : Incoming) (credentials : Credentials) : Prop :=
  request.IsTo .login ∧ MediaType.isForm request.headers ∧
    formCredentials? request.body = some credentials

namespace Service

def answerIn (service : Service) (session : Option String) (call : LenientCall) : Response × Service :=
  let (reply, backend) := service.backend.replyIn session call
  ({ status := 200
     headers := [("content-type", "application/json")]
     body := Reply.layout.write reply },
    { service with backend })

def granted (id : String) : Response := { status := 200, headers := [("set-cookie", grantCookie id)] }

def dismissed : Response := { status := 200, headers := [("set-cookie", resetCookie)] }

/-- What the service makes of a request: the response and the service after it. -/
inductive Handled (ids : Nat → String) (service : Service) (request : Incoming) :
    Response × Service → Prop
  | refused {status : Nat} (hstatus : status ≠ 200)
      (hlogout : ∀ {id}, request.LogsOut id → service.backend.sessionUser? id = none)
      (hlogin : ∀ {credentials}, request.LogsIn credentials → ¬ service.backend.accepts credentials)
      (hcall : ∀ {call}, ¬ request.Reads call) :
    Handled ids service request ({ status }, service)
  | opened {credentials : Credentials} (hlogin : request.LogsIn credentials)
      (haccepts : service.backend.accepts credentials) :
    Handled ids service request (granted (ids service.issued),
      ⟨service.backend.openSession (ids service.issued) credentials.username, service.issued + 1⟩)
  | closed {id username : String} (hlogout : request.LogsOut id)
      (hlive : service.backend.sessionUser? id = some username) :
    Handled ids service request (dismissed,
      { service with backend := service.backend.closeSession id })
  | answered {call : LenientCall} (hcall : request.Reads call) :
    Handled ids service request (service.answerIn (service.backend.session request.headers) call)

variable {ids : Nat → String} {service : Service} {request : Incoming}

theorem login_handled (hto : request.IsTo .login) :
    Handled ids service request (service.login ids request) := by
  have hlogout : ∀ {id}, request.LogsOut id → service.backend.sessionUser? id = none :=
    fun hout => nomatch hto.unique hout.1
  have hcall : ∀ {call}, ¬ request.Reads call := fun hreads => nomatch hto.unique hreads.1
  unfold login
  split
  · rename_i hform
    exact .refused (by decide) hlogout (fun hlogin => by simp [hlogin.2.1] at hform) hcall
  · rename_i hform
    simp only [Bool.not_eq_true, Bool.not_eq_false'] at hform
    split
    · rename_i hread
      refine .refused (by decide) hlogout (fun hlogin => ?_) hcall
      cases hread.symm.trans hlogin.2.2
    · rename_i credentials hread
      simp only
      split
      · rename_i haccepts
        exact .opened ⟨hto, hform, hread⟩ haccepts
      · rename_i hrejects
        refine .refused (by decide) hlogout (fun hlogin => ?_) hcall
        cases hread.symm.trans hlogin.2.2
        exact hrejects

theorem logout_handled (hto : request.IsTo .logout) :
    Handled ids service request (service.logout request) := by
  have hlogin : ∀ {credentials}, request.LogsIn credentials → ¬ service.backend.accepts credentials :=
    fun hin => nomatch hto.unique hin.1
  have hcall : ∀ {call}, ¬ request.Reads call := fun hreads => nomatch hto.unique hreads.1
  unfold logout
  split
  · rename_i hnone
    refine .refused (by decide) (fun hout => ?_) hlogin hcall
    cases hnone.symm.trans hout.2
  · rename_i id hcookie
    split
    · rename_i hgone
      refine .refused (by decide) (fun hout => ?_) hlogin hcall
      cases hcookie.symm.trans hout.2
      exact hgone
    · rename_i username hlive
      exact .closed ⟨hto, hcookie⟩ hlive

theorem call_handled (hto : request.IsTo .calls) :
    Handled ids service request (service.call request) := by
  have hlogout : ∀ {id}, request.LogsOut id → service.backend.sessionUser? id = none :=
    fun hout => nomatch hto.unique hout.1
  have hlogin : ∀ {credentials}, request.LogsIn credentials → ¬ service.backend.accepts credentials :=
    fun hin => nomatch hto.unique hin.1
  unfold call
  split
  · rename_i hjson
    exact .refused (by decide) hlogout hlogin (fun hreads => by simp [hreads.2.1] at hjson)
  · rename_i hjson
    simp only [Bool.not_eq_true, Bool.not_eq_false'] at hjson
    split
    · rename_i fault hread
      refine .refused ?_ hlogout hlogin (fun hreads => ?_)
      · split <;> decide
      · cases hread.symm.trans hreads.2.2
    · rename_i call hread
      exact .answered ⟨hto, hjson, hread⟩

theorem handle_handled (ids : Nat → String) (service : Service) (request : Incoming) :
    Handled ids service request (service.handle ids request) := by
  unfold handle
  split
  · rename_i hnone
    have hto : ∀ {endpoint}, ¬ request.IsTo endpoint := fun h => by cases hnone.symm.trans h.1
    exact .refused (by decide) (fun hout => absurd hout.1 hto) (fun hin => absurd hin.1 hto)
      (fun hreads => hto hreads.1)
  · rename_i endpoint hendpoint
    split
    · rename_i hmethod
      have hto : ∀ {endpoint}, ¬ request.IsTo endpoint := fun h => hmethod h.2
      exact .refused (by decide) (fun hout => absurd hout.1 hto) (fun hin => absurd hin.1 hto)
        (fun hreads => hto hreads.1)
    · rename_i hmethod
      have hto : request.IsTo endpoint := ⟨hendpoint, Decidable.not_not.mp hmethod⟩
      cases endpoint with
      | login => exact login_handled hto
      | logout => exact logout_handled hto
      | calls => exact call_handled hto

theorem handle_of_reads {call : LenientCall} (hcall : request.Reads call) :
    service.handle ids request = service.answerIn (service.backend.session request.headers) call := by
  generalize hresult : service.handle ids request = result
  have handled := handle_handled ids service request
  rw [hresult] at handled
  cases handled with
  | refused hstatus hlogout hlogin hnone => exact absurd hcall hnone
  | opened hlogin haccepts => cases hlogin.1.unique hcall.1
  | closed hlogout hlive => cases hlogout.1.unique hcall.1
  | answered hother =>
    cases hcall.2.2.symm.trans hother.2.2
    rfl

end Service

end BlogDesk.Server
