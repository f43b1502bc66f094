import BlogDesk.Route
import BlogDesk.Settings
import BlogDesk.Store.Action
import BlogDesk.Store.Flight

/-!
# The store

The state changes only by commits: of the user, which also reset the blogs when
the identity may have changed, and of the blogs. Each reset begins a new epoch;
an action on the blogs commits its end only in the epoch it began in, so that one
user's list never lands in another user's session.

`step` takes the store from one event to the next. Between two events of an
action, while it waits, anything else may happen.
-/

namespace BlogDesk

namespace Store

inductive UserStage where
  /-- The account is being created; the login that follows takes the credentials. -/
  | creating (credentials : Credentials)
  | signingIn (registering : Bool)
  | checking (registering : Bool)
  | signingOut
deriving DecidableEq, Repr

inductive BlogStage where
  | listing (epoch : Nat)
  | editing (edit : Edit) (epoch : Nat) (snapshot : List Blog)
deriving DecidableEq, Repr

inductive Observation where
  /-- Subscribers are told; by the action of that ticket, or by the host. -/
  | commit (ticket : Option Nat) (epoch : Nat) (state : State)
  | request (ticket number : Nat) (request : Request) (state : State)
  | finish (ticket : Nat) (result : Result)

end Store

structure Store where
  client : Client
  delay : Nat
  state : State := {}
  epoch : Nat := 0
  clock : Nat := 0
  /-- Actions started so far. -/
  started : Nat := 0
  /-- Requests made so far. -/
  requested : Nat := 0
  users : Store.Flight Store.UserAction Store.UserStage := {}
  blogs : Store.Flight Store.BlogAction Store.BlogStage := {}
  /-- All that was observed, latest first. -/
  log : List Store.Observation := []

namespace Store

def ofSettings (settings : Settings) : Store where
  client := .ofBase settings.apiUrl
  delay := settings.delay

def guard (store : Store) (target : Route) : Navigation := store.state.guard target

def observe (store : Store) (observation : Observation) : Store :=
  { store with log := observation :: store.log }

-- ---- Commits

/-- Whether a commit of `next` may put another user in the place of `current`. A
user who comes after none was loaded finds the blogs reset already. -/
def changesIdentity (current next : Loadable User) : Bool :=
  match next, current with
  | .loaded next, .loaded current => next.username != current.username
  | .loaded _, _ => false
  | _, _ => true

def commitUser (store : Store) (ticket : Option Nat) (user : Loadable User) : Store :=
  let (state, epoch) :=
    if changesIdentity store.state.user user then (⟨user, .uninitialized⟩, store.epoch + 1)
    else ({ store.state with user }, store.epoch)
  { store with state, epoch }.observe (.commit ticket epoch state)

def commitBlogs (store : Store) (ticket : Option Nat) (blogs : Loadable (List Blog)) : Store :=
  let state := { store.state with blogs }
  { store with state }.observe (.commit ticket store.epoch state)

/-- Drops the commit when the epoch is over. -/
def commitBlogsIn (store : Store) (epoch ticket : Nat) (blogs : Loadable (List Blog)) : Store :=
  if store.epoch = epoch then store.commitBlogs ticket blogs else store

-- ---- Requests

def sendAsUser (store : Store) (ticket : Nat) (stage : UserStage) (request : Request)
    (delay : Nat) : Store :=
  let exchange := { number := store.requested, due := store.clock + delay }
  { store with
    requested := store.requested + 1
    users := { store.users with running := some ⟨ticket, stage, exchange⟩ } }.observe
      (.request ticket store.requested request store.state)

def sendForBlogs (store : Store) (ticket : Nat) (stage : BlogStage) (request : Request)
    (delay : Nat) : Store :=
  let exchange := { number := store.requested, due := store.clock + delay }
  { store with
    requested := store.requested + 1
    blogs := { store.blogs with running := some ⟨ticket, stage, exchange⟩ } }.observe
      (.request ticket store.requested request store.state)

/-- A call uses up an id and is held back by the delay; login and logout are not. -/
def callAsUser (store : Store) (ticket : Nat) (stage : UserStage) (operation : Operation) : Store :=
  { store with client := store.client.afterCall }.sendAsUser ticket stage
    (store.client.request operation) store.delay

def callForBlogs (store : Store) (ticket : Nat) (stage : BlogStage) (operation : Operation) : Store :=
  { store with client := store.client.afterCall }.sendForBlogs ticket stage
    (store.client.request operation) store.delay

def finishUser (store : Store) (ticket : Nat) (result : Result) : Store :=
  { store with users := { store.users with running := none } }.observe (.finish ticket result)

def finishBlogs (store : Store) (ticket : Nat) (result : Result) : Store :=
  { store with blogs := { store.blogs with running := none } }.observe (.finish ticket result)

-- ---- User actions

def signIn (store : Store) (ticket : Nat) (registering : Bool) (credentials : Credentials) : Store :=
  let store := store.commitUser ticket .loading
  store.sendAsUser ticket (.signingIn registering) (store.client.loginRequest credentials) 0

def checkSession (store : Store) (ticket : Nat) (registering : Bool) : Store :=
  (store.commitUser ticket .loading).callAsUser ticket (.checking registering) .whoami

def beginUser (store : Store) (ticket : Nat) : UserAction → Store
  | .register user =>
    (store.commitUser ticket .loading).callAsUser ticket (.creating user.credentials) (.register user)
  | .login credentials => store.signIn ticket false credentials
  | .logout =>
    let store := store.commitUser ticket .loading
    store.sendAsUser ticket .signingOut store.client.logoutRequest 0
  | .checkLogin => store.checkSession ticket false

def endLogin (store : Store) (ticket : Nat) (registering : Bool) (outcome : LoginOutcome) : Store :=
  (store.commitUser ticket outcome.shown).finishUser ticket (loginResult registering outcome)

def continueUser (store : Store) (ticket : Nat) (reception : Reception) : UserStage → Store
  | .creating credentials =>
    match reception.bind (·.acknowledged Method.register.name) with
    | .ok () => store.signIn ticket true credentials
    | .error cause =>
      (store.commitUser ticket (.error cause.message)).finishUser ticket (.register (.failed cause))
  | .signingIn registering =>
    match reception.bind Response.loginAccepted with
    | .ok true => store.checkSession ticket registering
    | .ok false => store.endLogin ticket registering .invalidCredentials
    | .error cause => store.endLogin ticket registering (.failed cause)
  | .checking registering =>
    match reception.bind Response.user with
    | .ok user => store.endLogin ticket registering (.loggedIn user)
    | .error cause =>
      store.endLogin ticket registering
        (if cause.isAuthenticationRequired then .notLoggedIn else .failed cause)
  | .signingOut =>
    match reception.bind Response.logoutDone with
    | .ok () => (store.commitUser ticket .uninitialized).finishUser ticket (.logout (.ok ()))
    | .error cause =>
      (store.commitUser ticket (.error cause.message)).finishUser ticket (.logout (.error cause))

-- ---- Blog actions

def beginBlogs (store : Store) (ticket : Nat) : BlogAction → Store
  | .load =>
    (store.commitBlogs ticket .loading).callForBlogs ticket (.listing store.epoch) .listBlogs
  | .change edit =>
    match store.state.blogs with
    | .loaded list =>
      (store.commitBlogs ticket .loading).callForBlogs ticket
        (.editing edit store.epoch list) edit.operation
    | _ => store.finishBlogs ticket (.edit (.error .invalidBaseState))

def continueBlogs (store : Store) (ticket : Nat) (reception : Reception) : BlogStage → Store
  | .listing epoch =>
    match reception.bind Response.blogs? with
    | .ok list =>
      (store.commitBlogsIn epoch ticket (.loaded (list.getD []))).finishBlogs ticket (.load (.ok ()))
    | .error cause =>
      (store.commitBlogsIn epoch ticket (.error cause.message)).finishBlogs ticket
        (.load (.error cause))
  | .editing edit epoch snapshot =>
    match reception.bind (·.acknowledged edit.operation.method.name) with
    | .ok () =>
      (store.commitBlogsIn epoch ticket (.loaded (sortBlogs (edit.apply snapshot)))).finishBlogs
        ticket (.edit (.ok ()))
    | .error cause =>
      (store.commitBlogsIn epoch ticket (.loaded snapshot)).finishBlogs ticket
        (.edit (.error (.call cause)))

-- ---- Events

inductive Event where
  | setUser (user : Loadable User)
  | setBlogs (blogs : Loadable (List Blog))
  | start (action : Action)
  /-- The answer to a request has come, or the news that there is none. -/
  | receive (number : Nat) (reception : Reception)
  | pass (milliseconds : Nat)
  /-- The slice's action goes on if it can. -/
  | resume (slice : Slice)

def start (store : Store) (action : Action) : Store :=
  let ticket := store.started
  let store := { store with started := ticket + 1 }
  match action with
  | .user action => { store with users := store.users.enqueue ticket action }
  | .blogs action => { store with blogs := store.blogs.enqueue ticket action }

def isReady (store : Store) : Slice → Bool
  | .user => store.users.isReady store.clock
  | .blogs => store.blogs.isReady store.clock

def resumeUser (store : Store) : Store :=
  match store.users.running, store.users.waiting with
  | some job, _ =>
    match job.exchange.resolved? store.clock with
    | some reception => store.continueUser job.ticket reception job.stage
    | none => store
  | none, next :: later =>
    { store with users := { store.users with waiting := later } }.beginUser next.ticket next.action
  | none, [] => store

def resumeBlogs (store : Store) : Store :=
  match store.blogs.running, store.blogs.waiting with
  | some job, _ =>
    match job.exchange.resolved? store.clock with
    | some reception => store.continueBlogs job.ticket reception job.stage
    | none => store
  | none, next :: later =>
    { store with blogs := { store.blogs with waiting := later } }.beginBlogs next.ticket next.action
  | none, [] => store

def step (store : Store) : Event → Store
  | .setUser user => store.commitUser none user
  | .setBlogs blogs => store.commitBlogs none blogs
  | .start action => store.start action
  | .receive number reception =>
    { store with
      users := store.users.receive number reception
      blogs := store.blogs.receive number reception }
  | .pass milliseconds => { store with clock := store.clock + milliseconds }
  | .resume .user => store.resumeUser
  | .resume .blogs => store.resumeBlogs

def run (store : Store) (events : List Event) : Store := events.foldl step store

end Store

end BlogDesk
