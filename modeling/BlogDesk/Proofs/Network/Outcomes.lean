import BlogDesk.Proofs.Network.Carrying
import BlogDesk.Proofs.Network.Mirrors
import BlogDesk.Proofs.Server.Logins

/-!
# How actions end

Of all that the service holds only the accounts decide how a registration or a login
ends that is carried through: the session that it is about is opened on its way. Only a
registration that is accepted makes an account.
-/

namespace BlogDesk.Network

open Server (Backend IsPlainId Refusal Service)
open Store (UserAction BlogAction Exchange LoginOutcome RegisterOutcome)

-- ---- Ends

/-- The visitor's action has come to its end with that result, and the users who have an
account then are known. -/
def Settled (others : List Visitor) (index ticket : Nat) (knows : NewUser → Prop)
    (result : Store.Result) (network : Network) : Prop :=
  ∃ jar service visitor, network = place others index service visitor ∧
    Ended jar ticket result visitor ∧ ∀ user, service.backend.Knows user ↔ knows user

theorem Settled.congr {others : List Visitor} {index ticket : Nat} {knows known : NewUser → Prop}
    {result : Store.Result} {network : Network} (h : Settled others index ticket knows result network)
    (hsame : ∀ user, knows user ↔ known user) : Settled others index ticket known result network := by
  obtain ⟨jar, service, visitor, heq, hended, hknows⟩ := h
  exact ⟨jar, service, visitor, heq, hended, fun user => (hknows user).trans (hsame user)⟩

def LoginTells (knows : NewUser → Prop) (credentials : Credentials) : LoginOutcome → Prop
  | .loggedIn user => user.username = credentials.username ∧
    knows ⟨credentials.username, credentials.password, user.displayName⟩
  | .invalidCredentials =>
    ∀ displayName, ¬ knows ⟨credentials.username, credentials.password, displayName⟩
  | .notLoggedIn | .failed _ => False

def RegistrationTells (knows : NewUser → Prop) (user : NewUser) : RegisterOutcome → Prop
  | .registered login => login = .loggedIn ⟨user.username, user.displayName⟩ ∧
    user.username ≠ "" ∧ user.password ≠ "" ∧ ∀ other, knows other → other.username ≠ user.username
  | .failed cause => cause = .refused Method.register.name (Refusal.against user).message ∧
    (user.username = "" ∨ user.password = "" ∨
      ∃ other, knows other ∧ other.username = user.username)

section
variable {knows : NewUser → Prop}

theorem LoginTells.loggedIn_iff {credentials : Credentials} {outcome : LoginOutcome}
    (h : LoginTells knows credentials outcome)
    (hunique : ∀ user other, knows user → knows other → user.username = other.username → user = other)
    (user : User) : outcome = .loggedIn user ↔ user.username = credentials.username ∧
      knows ⟨credentials.username, credentials.password, user.displayName⟩ := by
  constructor
  · rintro rfl
    exact h
  · rintro ⟨hname, hknows⟩
    cases outcome with
    | loggedIn shown =>
      obtain ⟨hshown, hother⟩ := h
      have hdisplay := congrArg NewUser.displayName (hunique _ _ hother hknows rfl)
      cases user
      cases shown
      cases hname
      cases hshown
      cases hdisplay
      rfl
    | invalidCredentials => exact absurd hknows (h user.displayName)
    | notLoggedIn => exact h.elim
    | failed cause => exact h.elim

theorem LoginTells.invalid {credentials : Credentials} {outcome : LoginOutcome}
    (h : LoginTells knows credentials outcome)
    (hnone : ∀ displayName, ¬ knows ⟨credentials.username, credentials.password, displayName⟩) :
    outcome = .invalidCredentials := by
  cases outcome with
  | loggedIn user => exact absurd h.2 (hnone _)
  | invalidCredentials => rfl
  | notLoggedIn => exact h.elim
  | failed cause => exact h.elim

theorem RegistrationTells.registered_iff {user : NewUser} {outcome : RegisterOutcome}
    (h : RegistrationTells knows user outcome) :
    outcome = .registered (.loggedIn ⟨user.username, user.displayName⟩) ↔
      user.username ≠ "" ∧ user.password ≠ "" ∧
        ∀ other, knows other → other.username ≠ user.username := by
  cases outcome with
  | registered login =>
    obtain ⟨rfl, hnew⟩ := h
    exact iff_of_true rfl hnew
  | failed cause =>
    refine iff_of_false nofun fun ⟨hname, hpassword, hnew⟩ => ?_
    rcases h.2 with hempty | hempty | ⟨other, hother, hsame⟩
    · exact hname hempty
    · exact hpassword hempty
    · exact hnew other hother hsame

theorem RegistrationTells.failed {user : NewUser} {outcome : RegisterOutcome}
    (h : RegistrationTells knows user outcome)
    (hwhy : user.username = "" ∨ user.password = "" ∨
      ∃ other, knows other ∧ other.username = user.username) :
    outcome = .failed (.refused Method.register.name (Refusal.against user).message) := by
  cases outcome with
  | registered login =>
    obtain ⟨-, hname, hpassword, hnew⟩ := h
    rcases hwhy with hempty | hempty | ⟨other, hother, hsame⟩
    · exact absurd hempty hname
    · exact absurd hempty hpassword
    · exact absurd hsame (hnew other hother)
  | failed cause => rw [h.1]

end

section
variable {ids : Nat → String} (hids : ∀ k, IsPlainId (ids k)) {others : List Visitor} {index : Nat}
  (hindex : index < others.length) (service : Service) {jar : Jar} {visitor : Visitor} {ticket : Nat}
  {client : Client} {asked : Exchange}

include hindex in
theorem Settled.exchanges {knows : NewUser → Prop} {result : Store.Result} {network : Network}
    (h : Settled others index ticket knows result network) (slice : Store.Slice) (n : Nat) :
    Settled others index ticket knows result ((exchange ids index slice)^[n] network) := by
  obtain ⟨jar, service, visitor, rfl, hended, hknows⟩ := h
  have hidle : pending? visitor.store slice = none := by
    cases slice with
    | user => rw [pending?, hended.users]; rfl
    | blogs => rw [pending?, hended.blogs]; rfl
  rw [Function.iterate_fixed (exchange_of_idle ids (getElem?_place hindex) hidle)]
  exact ⟨jar, service, visitor, rfl, hended, hknows⟩

theorem settled_of_handle {request : Server.Incoming}
    (hnot : ∀ user, ¬ service.Registers request user) {result : Store.Result}
    (hended : Ended jar ticket result visitor) :
    Settled others index ticket service.backend.Knows result
      (place others index (service.handle ids request).2 visitor) :=
  ⟨jar, _, visitor, rfl, hended, Server.knows_handle hnot ids⟩

variable (ticket) in
theorem Quiet.endLogin (h : Quiet jar visitor) (hwaiting : visitor.store.users.waiting = [])
    (hblogs : visitor.store.blogs = {}) (registering : Bool) (outcome : LoginOutcome) :
    Ended jar ticket (Store.loginResult registering outcome)
      (visitor.goesOn (visitor.store.endLogin ticket registering outcome)) :=
  h.finishUser hwaiting hblogs ticket outcome.shown _

/-- A visitor's call is handled as the operation itself, in the session of the jar. -/
theorem read_call (hjar : ∀ id, jar = some id → IsPlainId id) (haddress : client.baseUrl = "/api")
    (operation : Operation) :
    operation.read (service.handle ids (withCookie (client.request operation) jar)).1 =
      ((service.backend.execute (jar.bind service.backend.sessionUser?) operation).map
        (·.1)).mapError fun refusal => .refused operation.method.name refusal.message := by
  rw [Server.withCookie_eq_arriving,
    Server.read_handle ids service (Server.served_of_address haddress), session_cookies _ hjar]

section
variable (haddress : client.baseUrl = "/api")
include hids hindex haddress

theorem AsksAsUser.checks {registering : Bool}
    (h : AsksAsUser jar ticket (.checking registering) (client.request .whoami) asked visitor) :
    ∃ outcome, Settled others index ticket service.backend.Knows (Store.loginResult registering outcome)
        (exchange ids index .user (place others index service visitor)) ∧
      ∀ user, service.backend.whoami (jar.bind service.backend.sessionUser?) = .ok user →
        outcome = .loggedIn user := by
  obtain ⟨ready, hquiet, hwaiting, hblogs, hexchange⟩ := h.resumes hids hindex service
  have hnot : ∀ user, ¬ service.Registers (withCookie (client.request .whoami) jar) user :=
    Server.not_registers_of_errand service haddress (.call .whoami) nofun jar
  have hread : Response.user (service.handle ids (withCookie (client.request .whoami) jar)).1 = _ :=
    read_call service h.plain haddress .whoami
  rw [hexchange]
  cases hanswer : Response.user (service.handle ids (withCookie (client.request .whoami) jar)).1 with
  | ok user =>
    simp only [Store.continueUser, Except.bind, hanswer]
    refine ⟨.loggedIn user, settled_of_handle service hnot (hquiet.endLogin ticket hwaiting hblogs ..),
      fun other hwhoami => ?_⟩
    rw [hanswer, Backend.execute, hwhoami] at hread
    cases hread
    rfl
  | error cause =>
    simp only [Store.continueUser, Except.bind, hanswer]
    refine ⟨_, settled_of_handle service hnot (hquiet.endLogin ticket hwaiting hblogs ..),
      fun other hwhoami => ?_⟩
    rw [hanswer, Backend.execute, hwhoami] at hread
    cases hread

theorem AsksAsUser.signsIn {registering : Bool} {credentials : Credentials}
    (h : AsksAsUser jar ticket (.signingIn registering) (client.loginRequest credentials) asked
      visitor) :
    ∃ outcome, LoginTells service.backend.Knows credentials outcome ∧
      Settled others index ticket service.backend.Knows (Store.loginResult registering outcome)
        ((exchange ids index .user)^[2] (place others index service visitor)) := by
  obtain ⟨ready, hquiet, hwaiting, hblogs, hexchange⟩ := h.resumes hids hindex service
  have hhandle := Server.handle_loginRequest haddress ids service credentials jar
  by_cases haccepts : service.backend.accepts credentials
  · rw [if_pos haccepts] at hhandle
    rw [hhandle] at hquiet hexchange
    obtain ⟨displayName, hknows⟩ := Backend.accepts_iff.mp haccepts
    have hjar : jar.after (Service.granted (ids service.issued)) = some (ids service.issued) :=
      (Server.after_setCookie jar _).trans (Server.take_grantCookie jar (hids service.issued))
    rw [hjar] at hquiet
    -- The jar has the session that was just opened, and the look at it names its user.
    obtain ⟨next, hnext⟩ := hquiet.callAsUser hwaiting hblogs ticket (.checking registering) .whoami
    obtain ⟨outcome, hsettled, houtcome⟩ := hnext.checks hids hindex
      ⟨service.backend.openSession (ids service.issued) credentials.username, service.issued + 1⟩
      hquiet.address
    have hloggedIn := houtcome _ (Backend.whoami_openSession hknows (ids service.issued))
    refine ⟨outcome, hloggedIn ▸ ⟨rfl, hknows⟩, ?_⟩
    rw [Function.iterate_succ_apply, hexchange]
    exact hsettled
  · rw [if_neg haccepts] at hhandle
    rw [hhandle] at hquiet hexchange
    have hended := hquiet.endLogin ticket hwaiting hblogs registering .invalidCredentials
    refine ⟨.invalidCredentials, fun displayName hknows => ?_, ?_⟩
    · exact haccepts (Backend.accepts_iff.mpr ⟨displayName, hknows⟩)
    · rw [Function.iterate_succ_apply, hexchange]
      exact Settled.exchanges hindex ⟨_, _, _, rfl, hended, fun _ => .rfl⟩ .user 1

theorem AsksAsUser.registers {user : NewUser}
    (h : AsksAsUser jar ticket (.creating user.credentials) (client.request (.register user)) asked
      visitor) :
    ∃ outcome, RegistrationTells service.backend.Knows user outcome ∧
      Settled others index ticket
        (fun other => ((∃ login, outcome = .registered login) ∧ other = user) ∨
          service.backend.Knows other) (.register outcome)
        ((exchange ids index .user)^[3] (place others index service visitor)) := by
  obtain ⟨ready, hquiet, hwaiting, hblogs, hexchange⟩ := h.resumes hids hindex service
  obtain ⟨hread, hbackend⟩ := Server.handle_registerRequest haddress ids service user jar
  rw [Function.iterate_succ_apply, hexchange]
  generalize service.handle ids (withCookie (client.request (.register user)) jar) = handled
    at hquiet hread hbackend ⊢
  obtain ⟨response, after⟩ := handled
  cases hcreate : service.backend.createUser user with
  | ok backend =>
    rw [hcreate] at hread hbackend
    cases hbackend
    have hcontinue : ready.store.continueUser ticket (.ok response) (.creating user.credentials) =
        ready.store.signIn ticket true user.credentials := by
      simp only [Store.continueUser, Except.bind, hread, Except.map, Except.mapError]
    obtain ⟨hname, hpassword, hnew, -⟩ := Backend.createUser_eq_ok.mp hcreate
    have hknows := Backend.knows_createUser hcreate
    -- The login that follows finds the account that was just made, the only one of that name.
    obtain ⟨next, hnext⟩ := hquiet.signIn hwaiting hblogs ticket true user.credentials
    obtain ⟨outcome, htells, hsettled⟩ := hnext.signsIn hids hindex after hquiet.address
    rw [hcontinue]
    refine ⟨.registered outcome, ⟨?_, hname, hpassword, ?_⟩, ?_⟩
    · have hknown := (hknows user).mpr (.inl rfl)
      exact (htells.loggedIn_iff (fun _ _ => Backend.Knows.unique) _).mpr ⟨rfl, hknown⟩
    · rintro other ⟨blogs, haccount⟩ hsame
      rw [hsame, hnew] at haccount
      cases haccount
    · refine hsettled.congr fun other => (hknows other).trans ?_
      simp
  | error refusal =>
    rw [hcreate] at hread hbackend
    have hcontinue : ready.store.continueUser ticket (.ok response) (.creating user.credentials) =
        (ready.store.commitUser ticket (.error (CallFailure.refused Method.register.name
          refusal.message).message)).finishUser ticket
            (.register (.failed (.refused Method.register.name refusal.message))) := by
      simp only [Store.continueUser, Except.bind, hread, Except.map, Except.mapError]
    have hended := hquiet.finishUser hwaiting hblogs ticket
      (.error (CallFailure.refused Method.register.name refusal.message).message)
      (.register (.failed (.refused Method.register.name refusal.message)))
    rw [hcontinue]
    obtain ⟨hwhy, rfl⟩ := Backend.createUser_eq_error.mp hcreate
    refine ⟨.failed _, ⟨rfl, hwhy⟩, ?_⟩
    refine Settled.exchanges hindex ⟨_, _, _, rfl, hended, fun other => ?_⟩ .user 2
    have hkept : after.backend = service.backend := hbackend
    simp [hkept]

theorem AsksAsUser.signsOut
    (h : AsksAsUser jar ticket .signingOut client.logoutRequest asked visitor) :
    ∃ result, Settled others index ticket service.backend.Knows result
      (exchange ids index .user (place others index service visitor)) := by
  obtain ⟨ready, hquiet, hwaiting, hblogs, hexchange⟩ := h.resumes hids hindex service
  have hnot := Server.not_registers_of_errand service haddress .logout nofun jar
  rw [hexchange, Store.continueUser]
  split
  · exact ⟨_, settled_of_handle service hnot (hquiet.finishUser hwaiting hblogs ticket ..)⟩
  · exact ⟨_, settled_of_handle service hnot (hquiet.finishUser hwaiting hblogs ticket ..)⟩

end

-- ---- Actions

/-- What an action tells when those users have an account; of most, nothing is said. -/
def Tells (knows : NewUser → Prop) : Store.Action → Store.Result → Prop
  | .user (.register user), .register outcome => RegistrationTells knows user outcome
  | .user (.login credentials), .login outcome => LoginTells knows credentials outcome
  | .user (.register _), _ | .user (.login _), _ => False
  | _, _ => True

/-- Whether the user has an account for the first time after the action. -/
def Adds (action : Store.Action) (result : Store.Result) (user : NewUser) : Prop :=
  action = .user (.register user) ∧ ∃ login, result = .register (.registered login)

theorem ne_register_of_blogs {action : BlogAction} {errand : Store.Errand}
    (h : errand ∈ (Store.Action.blogs action).errands) (user : NewUser) :
    errand ≠ .call (.register user) := by
  cases action with
  | load =>
    rw [List.mem_singleton.mp h]
    nofun
  | change edit =>
    rw [List.mem_singleton.mp h]
    cases edit <;> nofun

include hids hindex

theorem perform_user (h : AtRest jar visitor) (action : UserAction) : ∃ result,
    Tells service.backend.Knows (.user action) result ∧
    Settled others index visitor.store.started
      (fun user => Adds (.user action) result user ∨ service.backend.Knows user) result
      (perform ids (place others index service visitor) index (.user action)) := by
  have hready := h.counted
  have hwaiting : visitor.counted.store.users.waiting = [] := congrArg _ hready.users
  rw [perform_place ids hindex, Store.Action.slice, h.step_user]
  cases action with
  | register user =>
    obtain ⟨asked, hasks⟩ := hready.callAsUser hwaiting hready.blogs visitor.store.started
      (.creating user.credentials) (.register user)
    obtain ⟨outcome, htells, hsettled⟩ := hasks.registers hids hindex service h.address
    refine ⟨.register outcome, htells, hsettled.congr fun other => ?_⟩
    simp [Adds, eq_comm, and_comm]
  | login credentials =>
    obtain ⟨asked, hasks⟩ := hready.signIn hwaiting hready.blogs visitor.store.started false credentials
    obtain ⟨outcome, htells, hsettled⟩ := hasks.signsIn hids hindex service h.address
    refine ⟨.login outcome, htells, ?_⟩
    rw [Function.iterate_add_apply _ 1 2]
    exact (hsettled.exchanges hindex .user 1).congr fun other => by simp [Adds]
  | logout =>
    obtain ⟨asked, hasks⟩ := hready.signOut hwaiting hready.blogs visitor.store.started
    obtain ⟨result, hsettled⟩ := hasks.signsOut hids hindex service h.address
    refine ⟨result, trivial, ?_⟩
    rw [Function.iterate_add_apply _ 2 1]
    exact (hsettled.exchanges hindex .user 2).congr fun other => by simp [Adds]
  | checkLogin =>
    obtain ⟨asked, hasks⟩ := hready.callAsUser hwaiting hready.blogs visitor.store.started
      (.checking false) .whoami
    obtain ⟨outcome, hsettled, -⟩ := hasks.checks hids hindex service h.address
    refine ⟨.login outcome, trivial, ?_⟩
    rw [Function.iterate_add_apply _ 2 1]
    exact (hsettled.exchanges hindex .user 2).congr fun other => by simp [Adds]

theorem perform_blogs (h : AtRest jar visitor) (action : BlogAction) : ∃ result,
    Settled others index visitor.store.started service.backend.Knows result
      (perform ids (place others index service visitor) index (.blogs action)) := by
  have hready := h.counted
  rw [perform_place ids hindex, Store.Action.slice, h.step_blogs]
  rcases hready.beginBlogs visitor.store.started action with
    ⟨result, hended⟩ | ⟨stage, errand, asked, herrand, hasks⟩
  · exact ⟨result, Settled.exchanges hindex ⟨_, _, _, rfl, hended, fun _ => .rfl⟩ .blogs 3⟩
  · obtain ⟨result, after, hended, hexchange⟩ := hasks.ends hids hindex service
    have hnot := Server.not_registers_of_errand service h.address errand
      (ne_register_of_blogs herrand) jar
    rw [Function.iterate_succ_apply, hexchange]
    exact ⟨result, Settled.exchanges hindex (settled_of_handle service hnot hended) .blogs 2⟩

end

end BlogDesk.Network
