import BlogDesk.Proofs.Form
import BlogDesk.Proofs.Server.Cookies
import BlogDesk.Proofs.Server.RoundTrip
import BlogDesk.Proofs.Store.Loading

/-!
# Logins and what comes of accounts

The service reads in a console's login just the credentials that it was made from, and
hands out a session if an account has exactly these. No request but a registration
makes an account, and none changes the password or the display name of one.
-/

namespace BlogDesk.Server

open Keyed (find?)

-- ---- Credentials

theorem plainNames_login (credentials : Credentials) :
    ∀ field ∈ [("username", credentials.username), ("password", credentials.password)],
      Form.IsPlainName field.1 := by
  simp [Form.IsPlainName, Form.isSign]

theorem formCredentials?_encode (credentials : Credentials) :
    formCredentials? (Form.encode
      [("username", credentials.username), ("password", credentials.password)]) =
      some credentials := by
  rw [formCredentials?, Form.decode_encode (plainNames_login credentials)]
  rfl

theorem isForm_login (rest : Headers) :
    MediaType.isForm (("content-type", "application/x-www-form-urlencoded") :: rest) := by
  have hvalue : Headers.value? (("content-type", "application/x-www-form-urlencoded") :: rest)
      "content-type" = some "application/x-www-form-urlencoded" := by
    simp [Headers.value?, sameIgnoringCase]
  rw [MediaType.isForm, hvalue]
  decide

/-- Whatever a username and a password are made of, the service's form gives back these two and
nothing else, no other credentials make the same body, and a login is judged by just these. -/
theorem credentials_survive_login (client : Client) (credentials : Credentials) :
    (∃ body, (client.loginRequest credentials).body = some body ∧
      Form.decode body = [("username", credentials.username), ("password", credentials.password)] ∧
      formCredentials? body = some credentials) ∧
    (∀ (other : Client) (another : Credentials),
      (other.loginRequest another).body = (client.loginRequest credentials).body ↔
        another = credentials) ∧
    ∀ (ids : Nat → String) (service : Service) (more : Headers),
      service.login ids (arriving (client.loginRequest credentials) more) =
        if service.backend.accepts credentials then (Service.granted (ids service.issued),
          ⟨service.backend.openSession (ids service.issued) credentials.username,
            service.issued + 1⟩)
        else ({ status := 401 }, service) := by
  have hread (sent : Credentials) := formCredentials?_encode sent
  refine ⟨⟨_, rfl, Form.decode_encode (plainNames_login credentials), hread credentials⟩,
    fun other another => ⟨fun hbody => ?_, fun hsame => hsame ▸ rfl⟩, fun ids service more => ?_⟩
  · have hsame := hread another
    rw [Option.some.inj hbody, hread credentials] at hsame
    exact (Option.some.inj hsame).symm
  · have hform : MediaType.isForm (arriving (client.loginRequest credentials) more).headers :=
      isForm_login more
    have hjudged : formCredentials? (arriving (client.loginRequest credentials) more).body =
      some credentials := hread credentials
    simp only [Service.login, hform, hjudged]
    rfl

section
variable {client : Client} (haddress : client.baseUrl = "/api")
include haddress

theorem logsIn_loginRequest (credentials : Credentials) (jar : Network.Jar) :
    (Network.withCookie (client.loginRequest credentials) jar).LogsIn credentials := by
  refine ⟨⟨?_, rfl⟩, isForm_login _, formCredentials?_encode credentials⟩
  change Endpoint.ofPath? (client.baseUrl ++ "/login") = _
  rw [haddress]
  decide

theorem served_of_address : Served client.baseUrl := by
  rw [haddress]
  change Endpoint.ofPath? "/api/" = _
  decide

theorem handle_loginRequest (ids : Nat → String) (service : Service) (credentials : Credentials)
    (jar : Network.Jar) :
    service.handle ids (Network.withCookie (client.loginRequest credentials) jar) =
      if service.backend.accepts credentials then (Service.granted (ids service.issued),
        ⟨service.backend.openSession (ids service.issued) credentials.username, service.issued + 1⟩)
      else ({ status := 401 }, service) := by
  obtain ⟨hto, hform, hread⟩ := logsIn_loginRequest haddress credentials jar
  have hmethod := hto.2
  simp only [Service.handle, hto.1, hmethod, Service.login, hform, hread]
  rfl

theorem handle_registerRequest (ids : Nat → String) (service : Service) (user : NewUser)
    (jar : Network.Jar) :
    let handled := service.handle ids (Network.withCookie (client.request (.register user)) jar)
    handled.1.acknowledged Method.register.name =
        ((service.backend.createUser user).map fun _ => ()).mapError
          (.refused Method.register.name ·.message) ∧
      handled.2.backend = (service.backend.createUser user).toOption.getD service.backend := by
  have hserved := served_of_address haddress
  simp only [withCookie_eq_arriving, service_handle ids service hserved]
  refine ⟨(read_handle ids service hserved (.register user) _).trans ?_, ?_⟩ <;>
    rw [Backend.execute] <;> cases service.backend.createUser user <;> rfl

end

-- ---- Accounts

/-- The first of the three reasons that there are against a registration. -/
def Refusal.against (user : NewUser) : Refusal :=
  if user.username = "" then .usernameEmpty
  else if user.password = "" then .passwordEmpty
  else .userExists

namespace Backend

def Knows (backend : Backend) (user : NewUser) : Prop :=
  ∃ blogs, find? user.username backend.accounts = some ⟨user.password, user.displayName, blogs⟩

variable {backend : Backend}

theorem Knows.unique {user other : NewUser} (h : backend.Knows user) (hother : backend.Knows other)
    (hname : user.username = other.username) : user = other := by
  obtain ⟨blogs, haccount⟩ := h
  obtain ⟨others, hsame⟩ := hother
  rw [← hname, haccount] at hsame
  cases user
  cases other
  cases hsame
  cases hname
  rfl

theorem knows_of_find {username : String} {account : Account}
    (h : find? username backend.accounts = some account) :
    backend.Knows ⟨username, account.password, account.displayName⟩ :=
  ⟨account.blogs, h⟩

theorem accepts_iff {credentials : Credentials} : backend.accepts credentials ↔
    ∃ displayName, backend.Knows ⟨credentials.username, credentials.password, displayName⟩ := by
  rw [accepts]
  cases haccount : find? credentials.username backend.accounts with
  | none => simp [Knows, haccount]
  | some account =>
    obtain ⟨password, displayName, blogs⟩ := account
    simp [Knows, haccount]

theorem knows_createUser {user : NewUser} {after : Backend} (h : backend.createUser user = .ok after)
    (other : NewUser) : after.Knows other ↔ other = user ∨ backend.Knows other := by
  obtain ⟨-, -, hnew, rfl⟩ := createUser_eq_ok.mp h
  simp only [Knows, putAccount_find?]
  split
  · rename_i hname
    constructor
    · rintro ⟨blogs, heq⟩
      cases other
      cases user
      cases heq
      cases hname
      exact .inl rfl
    · rintro (rfl | ⟨blogs, heq⟩)
      · exact ⟨[], rfl⟩
      · rw [hname] at heq
        simp [heq] at hnew
  · rename_i hname
    refine ⟨.inr, Or.rec (fun heq => ?_) id⟩
    exact absurd (congrArg NewUser.username heq) hname

theorem contains_iff {username : String} : Keyed.contains username backend.accounts = true ↔
    ∃ user, backend.Knows user ∧ user.username = username := by
  rw [Keyed.contains, Option.isSome_iff_exists]
  constructor
  · rintro ⟨account, haccount⟩
    exact ⟨_, knows_of_find haccount, rfl⟩
  · rintro ⟨user, ⟨blogs, haccount⟩, rfl⟩
    exact ⟨_, haccount⟩

theorem createUser_eq_error {user : NewUser} {refusal : Refusal} :
    backend.createUser user = .error refusal ↔
      (user.username = "" ∨ user.password = "" ∨
        ∃ other, backend.Knows other ∧ other.username = user.username) ∧
      refusal = .against user := by
  simp only [createUser, ← contains_iff, Refusal.against]
  grind

theorem whoami_openSession {user : NewUser} (h : backend.Knows user) (id : String) :
    (backend.openSession id user.username).whoami
        ((backend.openSession id user.username).sessionUser? id) =
      .ok ⟨user.username, user.displayName⟩ := by
  obtain ⟨blogs, haccount⟩ := h
  rw [openSession_sessionUser?, if_pos rfl]
  exact whoami_eq_ok.mpr ⟨rfl, _, haccount, rfl⟩

end Backend

theorem knows_handle {service : Service} {request : Incoming}
    (h : ∀ user, ¬ service.Registers request user) (ids : Nat → String) (user : NewUser) :
    (service.handle ids request).2.backend.Knows user ↔ service.backend.Knows user := by
  constructor
  · rintro ⟨blogs, hafter⟩
    cases hbefore : find? user.username service.backend.accounts with
    | none => exact absurd (Service.registers_of_account hbefore hafter) (h _)
    | some account =>
      obtain ⟨kept, hkept, -⟩ := Service.handle_account ids request hbefore
      obtain ⟨password, displayName, old⟩ := account
      rw [hafter, Option.some.injEq, Account.mk.injEq] at hkept
      obtain ⟨rfl, rfl, -⟩ := hkept
      exact ⟨old, hbefore⟩
  · rintro ⟨blogs, hbefore⟩
    obtain ⟨kept, hkept, -⟩ := Service.handle_account ids request hbefore
    exact ⟨kept, hkept⟩

theorem not_registers_of_errand (service : Service) {client : Client}
    (haddress : client.baseUrl = "/api") (errand : Store.Errand)
    (herrand : ∀ user, errand ≠ .call (.register user)) (jar : Network.Jar) (user : NewUser) :
    ¬ service.Registers (Network.withCookie (errand.request client) jar) user := by
  rintro ⟨call, hreads, hmethod, -⟩
  cases errand with
  | login credentials => cases (logsIn_loginRequest haddress credentials jar).1.unique hreads.1
  | logout =>
    have hto : (Network.withCookie client.logoutRequest jar).IsTo .logout := by
      refine ⟨?_, rfl⟩
      change Endpoint.ofPath? (client.baseUrl ++ "/logout") = _
      rw [haddress]
      decide
    cases hto.unique hreads.1
  | call operation =>
    have hmade := (reads_arriving (served_of_address haddress) operation _).2.2.symm.trans hreads.2.2
    cases hmade
    have hregister : operation.method = .register := Method.name_injective hmethod
    cases operation with
    | register user => exact herrand user rfl
    | _ => cases hregister

end BlogDesk.Server
