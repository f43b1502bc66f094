import BlogDesk.Store.Basic

/-!
# What a slice does when it goes on

`resumeUser_turn` and `resumeBlogs_turn` list, once for all later proofs, what
can happen when the action of a slice goes on: nothing, or a commit followed by a
request or by the end of the action, with the store that comes of it. Statements
about runs look at these cases and at no definition of an action.
-/

namespace BlogDesk.Store

-- ---- Commits of the user

def stateWith (state : State) (user : Loadable User) : State :=
  if changesIdentity state.user user then ⟨user, .uninitialized⟩ else { state with user }

def epochWith (store : Store) (user : Loadable User) : Nat :=
  if changesIdentity store.state.user user then store.epoch + 1 else store.epoch

theorem commitUser_eq (store : Store) (ticket : Option Nat) (user : Loadable User) :
    store.commitUser ticket user =
      { store with
        state := stateWith store.state user
        epoch := store.epochWith user
        log := .commit ticket (store.epochWith user) (stateWith store.state user) :: store.log } := by
  unfold commitUser stateWith epochWith observe
  by_cases h : changesIdentity store.state.user user = true
  · simp only [h, if_true]
  · simp only [h, if_false, Bool.false_eq_true]

@[simp] theorem stateWith_user (state : State) (user : Loadable User) :
    (stateWith state user).user = user := by
  unfold stateWith
  split <;> rfl

theorem epoch_le_epochWith (store : Store) (user : Loadable User) :
    store.epoch ≤ store.epochWith user := by
  unfold epochWith
  split <;> omega

theorem stateWith_of_epoch_ne {store : Store} {user : Loadable User}
    (h : store.epochWith user ≠ store.epoch) : stateWith store.state user = ⟨user, .uninitialized⟩ := by
  unfold epochWith at h
  unfold stateWith
  split at h
  · rename_i hc
    exact if_pos hc
  · exact absurd rfl h

theorem stateWith_of_epoch_eq {store : Store} {user : Loadable User}
    (h : store.epochWith user = store.epoch) :
    stateWith store.state user = { store.state with user } := by
  unfold epochWith at h
  unfold stateWith
  split at h
  · omega
  · rename_i hc
    exact if_neg hc

/-- Within an epoch only a loaded user is committed, and over a loaded one only the same. -/
theorem loaded_of_epoch_eq {store : Store} {user : Loadable User}
    (h : store.epochWith user = store.epoch) : ∃ next, user = .loaded next ∧
      ∀ current, store.state.user = .loaded current → next.username = current.username := by
  unfold epochWith at h
  split at h
  · omega
  · rename_i hc
    unfold changesIdentity at hc
    split at hc
    · rename_i next current hcurrent
      refine ⟨next, rfl, fun other hother => ?_⟩
      rw [hcurrent] at hother
      cases hother
      simpa using hc
    · rename_i next hother
      exact ⟨next, rfl, fun current hcurrent => absurd hcurrent (hother current)⟩
    · exact absurd rfl hc

theorem epochWith_of_loading {store : Store} (h : store.state.user = .loading) (user : User) :
    store.epochWith (.loaded user) = store.epoch := by
  rw [epochWith, h]
  rfl

theorem stateWith_of_loading {state : State} (h : state.user = .loading) (user : User) :
    stateWith state (.loaded user) = { state with user := .loaded user } := by
  rw [stateWith, h]
  rfl

-- ---- Turns of the user slice

def UserStage.Calls : UserStage → Operation → Prop
  | .creating credentials, .register user => user.credentials = credentials
  | .checking _, .whoami => True
  | _, _ => False

def UserStage.Sends (client : Client) : UserStage → Request → Prop
  | .signingIn _, request => ∃ credentials, request = client.loginRequest credentials
  | .signingOut, request => request = client.logoutRequest
  | _, _ => False

inductive UserStage.Requests (store : Store) : UserStage → Request → Client → Nat → Prop
  | call {stage : UserStage} {operation : Operation} (hcalls : stage.Calls operation) :
    Requests store stage (store.client.request operation) store.client.afterCall
      (store.clock + store.delay)
  | form {stage : UserStage} {request : Request} (hsends : stage.Sends store.client request) :
    Requests store stage request store.client store.clock

theorem UserStage.Requests.of_checking {store : Store} {registering : Bool} {request : Request}
    {client : Client} {due : Nat} (h : (UserStage.checking registering).Requests store request client due) :
    request = store.client.request .whoami := by
  cases h with
  | @call operation hcalls =>
    cases operation with
    | whoami => rfl
    | _ => exact hcalls.elim
  | form hsends => exact hsends.elim

/-- A turn of the action with that ticket. `came` is the stage that ended and what
came back, and nothing when the action only begins. -/
inductive UserTurn (store : Store) (ticket : Nat) (came : Option (UserStage × Reception)) :
    Store → Prop
  | request {stage : UserStage} {request : Request} {client : Client} {due : Nat}
      (hrequest : stage.Requests store request client due) :
    UserTurn store ticket came
      { store with
        client
        state := ⟨.loading, .uninitialized⟩
        epoch := store.epoch + 1
        requested := store.requested + 1
        users := ⟨some ⟨ticket, stage, { number := store.requested, due }⟩, store.users.waiting⟩
        log := .request ticket store.requested request ⟨.loading, .uninitialized⟩ ::
          .commit ticket (store.epoch + 1) ⟨.loading, .uninitialized⟩ :: store.log }
  | finish {user : Loadable User} {result : Result} (hloading : user ≠ .loading)
      (hloaded : ∀ loaded, user = .loaded loaded → ∃ registering reception,
        came = some (.checking registering, reception) ∧ reception.bind Response.user = .ok loaded) :
    UserTurn store ticket came
      { store with
        state := stateWith store.state user
        epoch := store.epochWith user
        users := ⟨none, store.users.waiting⟩
        log := .finish ticket result ::
          .commit ticket (store.epochWith user) (stateWith store.state user) :: store.log }

section
variable {store : Store} {ticket : Nat} {came : Option (UserStage × Reception)}

theorem UserTurn.callAsUser (stage : UserStage) {operation : Operation}
    (hcalls : stage.Calls operation) : UserTurn store ticket came
      ((store.commitUser ticket .loading).callAsUser ticket stage operation) := by
  rw [commitUser_eq]
  exact .request (.call hcalls)

theorem UserTurn.sendAsUser (stage : UserStage) {request : Request}
    (hsends : stage.Sends store.client request) : UserTurn store ticket came
      ((store.commitUser ticket .loading).sendAsUser ticket stage request 0) := by
  rw [commitUser_eq]
  exact .request (.form hsends)

theorem UserTurn.finishUser {user : Loadable User} {result : Result} (hloading : user ≠ .loading)
    (hloaded : ∀ loaded, user = .loaded loaded → ∃ registering reception,
      came = some (.checking registering, reception) ∧
        reception.bind Response.user = .ok loaded) :
    UserTurn store ticket came ((store.commitUser ticket user).finishUser ticket result) := by
  rw [commitUser_eq]
  exact .finish hloading hloaded

theorem UserTurn.signIn (registering : Bool) (credentials : Credentials) :
    UserTurn store ticket came (store.signIn ticket registering credentials) := by
  refine .sendAsUser (.signingIn registering) ⟨credentials, ?_⟩
  rw [commitUser_eq]

theorem UserTurn.checkSession (registering : Bool) :
    UserTurn store ticket came (store.checkSession ticket registering) :=
  .callAsUser (.checking registering) trivial

theorem beginUser_turn (action : UserAction) :
    UserTurn store ticket came (store.beginUser ticket action) := by
  cases action with
  | register user => exact .callAsUser (.creating user.credentials) rfl
  | login credentials => exact .signIn false credentials
  | logout =>
    refine .sendAsUser .signingOut ?_
    rw [commitUser_eq]
    rfl
  | checkLogin => exact .checkSession false

theorem continueUser_turn (stage : UserStage) (reception : Reception) :
    UserTurn store ticket (some (stage, reception)) (store.continueUser ticket reception stage) := by
  cases stage with
  | creating credentials =>
    simp only [continueUser]
    split
    · exact .signIn true credentials
    · exact .finishUser nofun nofun
  | signingIn registering =>
    simp only [continueUser]
    split
    · exact .checkSession registering
    · exact .finishUser nofun nofun
    · exact .finishUser nofun nofun
  | checking registering =>
    simp only [continueUser]
    split
    · rename_i user huser
      refine .finishUser nofun (fun loaded hloaded => ?_)
      cases hloaded
      exact ⟨registering, reception, rfl, huser⟩
    · rename_i cause _
      cases cause.isAuthenticationRequired
      · exact .finishUser nofun nofun
      · exact .finishUser nofun nofun
  | signingOut =>
    simp only [continueUser]
    split
    · exact .finishUser nofun nofun
    · exact .finishUser nofun nofun

end

theorem Exchange.reception_of_resolved {exchange : Exchange} {clock : Nat} {reception : Reception}
    (h : exchange.resolved? clock = some reception) : exchange.reception = some reception := by
  unfold Exchange.resolved? at h
  split at h
  · exact h
  · cases h

inductive UserResume (store : Store) : Store → Prop
  | idle : UserResume store store
  | begins {next : Store} {first : Waiting UserAction} {later : List (Waiting UserAction)}
      (hrun : store.users.running = none) (hwait : store.users.waiting = first :: later)
      (turn : UserTurn { store with users := ⟨none, later⟩ } first.ticket none next) :
    UserResume store next
  | continues {next : Store} {job : InFlight UserStage} {reception : Reception}
      (hrun : store.users.running = some job)
      (hcame : job.exchange.resolved? store.clock = some reception)
      (turn : UserTurn store job.ticket (some (job.stage, reception)) next) :
    UserResume store next

theorem resumeUser_turn (store : Store) : UserResume store store.resumeUser := by
  cases hrun : store.users.running with
  | some job =>
    cases hcame : job.exchange.resolved? store.clock with
    | none =>
      simp only [resumeUser, hrun, hcame]
      exact .idle
    | some reception =>
      simp only [resumeUser, hrun, hcame]
      exact .continues hrun hcame (continueUser_turn ..)
  | none =>
    cases hwait : store.users.waiting with
    | nil =>
      simp only [resumeUser, hrun, hwait]
      exact .idle
    | cons first later =>
      simp only [resumeUser, hrun, hwait]
      exact .begins hrun hwait (beginUser_turn _)

theorem UserTurn.blogs_eq {store next : Store} {ticket : Nat}
    {came : Option (UserStage × Reception)} (turn : UserTurn store ticket came next) :
    next.blogs = store.blogs := by
  cases turn <;> rfl

theorem UserResume.blogs_eq {store next : Store} (turn : UserResume store next) :
    next.blogs = store.blogs := by
  cases turn with
  | idle => rfl
  | begins hrun hwait turn => exact turn.blogs_eq
  | continues hrun hcame turn => exact turn.blogs_eq

/-- Either nothing happens or the slice has a turn, for which no answer is missing. -/
theorem UserResume.idle_or_turn {store next : Store} (h : UserResume store next) : next = store ∨
    ∃ flight ticket came, UserTurn { store with users := flight } ticket came next ∧
      (∀ {job}, store.users.running = some job → job.exchange.reception.isSome) ∧
      ∀ {stage reception}, came = some (stage, reception) → ∃ job,
        store.users.running = some job ∧ job.stage = stage ∧
          job.exchange.reception = some reception := by
  cases h with
  | idle => exact .inl rfl
  | begins hrun hwait turn =>
    refine .inr ⟨_, _, _, turn, fun hjob => ?_, nofun⟩
    cases hrun.symm.trans hjob
  | continues hrun hcame turn =>
    have hreception := Exchange.reception_of_resolved hcame
    refine .inr ⟨store.users, _, _, turn, fun hjob => ?_, fun {stage reception} hstage => ?_⟩
    · obtain rfl := Option.some.inj (hrun.symm.trans hjob)
      rw [hreception]
      rfl
    · cases hstage
      exact ⟨_, hrun, rfl, hreception⟩

-- ---- Turns of the blogs slice

namespace BlogStage

def epoch : BlogStage → Nat
  | listing epoch => epoch
  | editing _ epoch _ => epoch

def action : BlogStage → BlogAction
  | listing _ => .load
  | editing edit _ _ => .change edit

def operation : BlogStage → Operation
  | listing _ => .listBlogs
  | editing edit _ _ => edit.operation

def shown (reception : Reception) : BlogStage → Loadable (List Blog)
  | listing _ =>
    match reception.bind Response.blogs? with
    | .ok list => .loaded (list.getD [])
    | .error cause => .error cause.message
  | editing edit _ snapshot =>
    match reception.bind (·.acknowledged edit.operation.method.name) with
    | .ok () => .loaded (sortBlogs (edit.apply snapshot))
    | .error _ => .loaded snapshot

def result (reception : Reception) : BlogStage → Result
  | listing _ =>
    match reception.bind Response.blogs? with
    | .ok _ => .load (.ok ())
    | .error cause => .load (.error cause)
  | editing edit _ _ =>
    match reception.bind (·.acknowledged edit.operation.method.name) with
    | .ok () => .edit (.ok ())
    | .error cause => .edit (.error (.call cause))

theorem shown_ne_loading (reception : Reception) (stage : BlogStage) :
    stage.shown reception ≠ .loading := by
  cases stage with
  | listing epoch =>
    simp only [shown]
    split <;> nofun
  | editing edit epoch snapshot =>
    simp only [shown]
    split <;> nofun

/-- The stage that an action begins with, and its call. An edit needs a list. -/
inductive Begins (store : Store) : BlogAction → BlogStage → Operation → Prop
  | load : Begins store .load (.listing store.epoch) .listBlogs
  | change {edit : Edit} {list : List Blog} (hlist : store.state.blogs = .loaded list) :
    Begins store (.change edit) (.editing edit store.epoch list) edit.operation

theorem Begins.epoch_eq {store : Store} {action : BlogAction} {stage : BlogStage}
    {operation : Operation} (h : Begins store action stage operation) :
    stage.epoch = store.epoch := by
  cases h <;> rfl

theorem Begins.action_eq {store : Store} {action : BlogAction} {stage : BlogStage}
    {operation : Operation} (h : Begins store action stage operation) : stage.action = action := by
  cases h <;> rfl

theorem Begins.operation_eq {store : Store} {action : BlogAction} {stage : BlogStage}
    {operation : Operation} (h : Begins store action stage operation) :
    stage.operation = operation := by
  cases h <;> rfl

theorem Begins.snapshot {store : Store} {action : BlogAction} {edit : Edit} {epoch : Nat}
    {list : List Blog} {operation : Operation}
    (h : Begins store action (.editing edit epoch list) operation) :
    store.state.blogs = .loaded list := by
  cases h with
  | change hlist => exact hlist

end BlogStage

theorem continueBlogs_eq (store : Store) (ticket : Nat) (reception : Reception) (stage : BlogStage) :
    store.continueBlogs ticket reception stage =
      (store.commitBlogsIn stage.epoch ticket (stage.shown reception)).finishBlogs ticket
        (stage.result reception) := by
  cases stage with
  | listing epoch =>
    simp only [continueBlogs, BlogStage.shown, BlogStage.result, BlogStage.epoch]
    cases reception.bind Response.blogs? <;> rfl
  | editing edit epoch snapshot =>
    simp only [continueBlogs, BlogStage.shown, BlogStage.result, BlogStage.epoch]
    cases reception.bind (·.acknowledged edit.operation.method.name) <;> rfl

inductive BlogResume (store : Store) : Store → Prop
  | idle : BlogResume store store
  | begins {first : Waiting BlogAction} {later : List (Waiting BlogAction)} {stage : BlogStage}
      {operation : Operation} (hrun : store.blogs.running = none)
      (hwait : store.blogs.waiting = first :: later)
      (hstage : BlogStage.Begins store first.action stage operation) :
    BlogResume store
      { store with
        client := store.client.afterCall
        state := { store.state with blogs := .loading }
        requested := store.requested + 1
        blogs := ⟨some ⟨first.ticket, stage,
          { number := store.requested, due := store.clock + store.delay }⟩, later⟩
        log := .request first.ticket store.requested (store.client.request operation)
            { store.state with blogs := .loading } ::
          .commit first.ticket store.epoch { store.state with blogs := .loading } :: store.log }
  | refuses {first : Waiting BlogAction} {later : List (Waiting BlogAction)} {edit : Edit}
      (hrun : store.blogs.running = none) (hwait : store.blogs.waiting = first :: later)
      (haction : first.action = .change edit) (hlist : ∀ list, store.state.blogs ≠ .loaded list) :
    BlogResume store
      { store with
        blogs := ⟨none, later⟩
        log := .finish first.ticket (.edit (.error .invalidBaseState)) :: store.log }
  | ends {job : InFlight BlogStage} {reception : Reception}
      (hrun : store.blogs.running = some job)
      (hcame : job.exchange.resolved? store.clock = some reception)
      (hepoch : store.epoch = job.stage.epoch) :
    BlogResume store
      { store with
        state := { store.state with blogs := job.stage.shown reception }
        blogs := ⟨none, store.blogs.waiting⟩
        log := .finish job.ticket (job.stage.result reception) ::
          .commit job.ticket store.epoch
            { store.state with blogs := job.stage.shown reception } :: store.log }
  | drops {job : InFlight BlogStage} {reception : Reception}
      (hrun : store.blogs.running = some job)
      (hcame : job.exchange.resolved? store.clock = some reception)
      (hepoch : store.epoch ≠ job.stage.epoch) :
    BlogResume store
      { store with
        blogs := ⟨none, store.blogs.waiting⟩
        log := .finish job.ticket (job.stage.result reception) :: store.log }

theorem resumeBlogs_turn (store : Store) : BlogResume store store.resumeBlogs := by
  cases hrun : store.blogs.running with
  | some job =>
    cases hcame : job.exchange.resolved? store.clock with
    | none =>
      simp only [resumeBlogs, hrun, hcame]
      exact .idle
    | some reception =>
      simp only [resumeBlogs, hrun, hcame, continueBlogs_eq, commitBlogsIn]
      split
      · rename_i hepoch
        exact .ends hrun hcame hepoch
      · rename_i hepoch
        exact .drops hrun hcame hepoch
  | none =>
    cases hwait : store.blogs.waiting with
    | nil =>
      simp only [resumeBlogs, hrun, hwait]
      exact .idle
    | cons first later =>
      simp only [resumeBlogs, hrun, hwait]
      cases haction : first.action with
      | load => exact .begins hrun hwait (haction ▸ .load)
      | change edit =>
        simp only [beginBlogs]
        split
        · rename_i list hlist
          exact .begins hrun hwait (haction ▸ .change hlist)
        · rename_i hlist
          exact .refuses hrun hwait haction hlist

-- ---- Answers that come

/-- An exchange once the answer to a request has come; the first one to it stays. -/
def Exchange.answered (number : Nat) (reception : Reception) (exchange : Exchange) : Exchange :=
  if exchange.number = number ∧ exchange.reception.isNone then
    { exchange with reception := some reception }
  else exchange

def InFlight.answered {σ : Type} (number : Nat) (reception : Reception) (job : InFlight σ) :
    InFlight σ :=
  { job with exchange := job.exchange.answered number reception }

theorem Flight.receive_eq {α σ : Type} (flight : Flight α σ) (number : Nat) (reception : Reception) :
    flight.receive number reception =
      ⟨flight.running.map (·.answered number reception), flight.waiting⟩ := by
  obtain ⟨running, waiting⟩ := flight
  cases running with
  | none => rfl
  | some job =>
    simp only [Flight.receive, InFlight.answered, Exchange.answered, Option.map_some]
    split <;> rfl

theorem Flight.receive_running {α σ : Type} {flight : Flight α σ} {number : Nat}
    {reception : Reception} {job : InFlight σ} :
    (flight.receive number reception).running = some job ↔
      ∃ old, flight.running = some old ∧ old.answered number reception = job := by
  rw [Flight.receive_eq, Option.map_eq_some_iff]

@[simp] theorem Exchange.answered_number (number : Nat) (reception : Reception)
    (exchange : Exchange) : (exchange.answered number reception).number = exchange.number := by
  unfold Exchange.answered
  split <;> rfl

@[simp] theorem InFlight.answered_number {σ : Type} (number : Nat) (reception : Reception)
    (job : InFlight σ) : (job.answered number reception).exchange.number = job.exchange.number :=
  Exchange.answered_number ..

def InFlight.after {σ : Type} (event : Event) (job : InFlight σ) : InFlight σ :=
  match event with
  | .receive number reception => job.answered number reception
  | _ => job

@[simp] theorem InFlight.after_ticket {σ : Type} (event : Event) (job : InFlight σ) :
    (job.after event).ticket = job.ticket := by
  cases event <;> rfl

@[simp] theorem InFlight.after_stage {σ : Type} (event : Event) (job : InFlight σ) :
    (job.after event).stage = job.stage := by
  cases event <;> rfl

@[simp] theorem InFlight.after_number {σ : Type} (event : Event) (job : InFlight σ) :
    (job.after event).exchange.number = job.exchange.number := by
  cases event <;> simp [InFlight.after, InFlight.answered]

/-- What a store does by itself: its host commits nothing, and no answer is made up. -/
def Event.IsOwn : Event → Prop
  | .start _ | .pass _ | .resume _ => True
  | _ => False

instance : DecidablePred Event.IsOwn
  | .start _ | .pass _ | .resume _ => isTrue trivial
  | .setUser _ | .setBlogs _ | .receive .. => isFalse id

/-- What an event of the store's own comes to: nothing that any action waits for, or a
turn of a slice, for which no answer is missing. -/
inductive OwnStep (store : Store) : Store → Prop
  | quiet {next : Store} (hclient : next.client = store.client) (hstate : next.state = store.state)
      (hepoch : next.epoch = store.epoch) (hrequested : next.requested = store.requested)
      (husers : next.users.running = store.users.running)
      (hblogs : next.blogs.running = store.blogs.running) : OwnStep store next
  | blogs {next : Store} (turn : BlogResume store next) : OwnStep store next
  | users {next : Store} {flight : Flight UserAction UserStage} {ticket : Nat}
      {came : Option (UserStage × Reception)}
      (hready : ∀ {job}, store.users.running = some job → job.exchange.reception.isSome)
      (hcame : ∀ {stage reception}, came = some (stage, reception) → ∃ job,
        store.users.running = some job ∧ job.stage = stage ∧
          job.exchange.reception = some reception)
      (turn : UserTurn { store with users := flight } ticket came next) : OwnStep store next

theorem step_own (store : Store) {event : Event} (hown : event.IsOwn) :
    OwnStep store (store.step event) := by
  cases event with
  | start action => cases action <;> exact .quiet rfl rfl rfl rfl rfl rfl
  | pass milliseconds => exact .quiet rfl rfl rfl rfl rfl rfl
  | resume slice =>
    cases slice with
    | blogs => exact .blogs (resumeBlogs_turn store)
    | user =>
      rcases (resumeUser_turn store).idle_or_turn with heq | ⟨flight, ticket, came, turn, hready, hcame⟩
      · change OwnStep store store.resumeUser
        rw [heq]
        exact .quiet rfl rfl rfl rfl rfl rfl
      · exact .users hready hcame turn
  | _ => exact hown.elim

def Event.queued (ticket : Nat) : Event → List (Waiting BlogAction)
  | .start (.blogs action) => [⟨ticket, action⟩]
  | _ => []

theorem step_blogs (store : Store) {event : Event} (h : event ≠ .resume .blogs) :
    (store.step event).blogs =
      ⟨store.blogs.running.map (·.after event), store.blogs.waiting ++ event.queued store.started⟩ := by
  have hsame : ∀ flight : Flight BlogAction BlogStage,
      flight = ⟨flight.running.map id, flight.waiting ++ []⟩ := by simp
  cases event with
  | setUser user =>
    rw [step, commitUser_eq]
    exact hsame store.blogs
  | setBlogs blogs => exact hsame store.blogs
  | start action =>
    cases action with
    | user action => exact hsame store.blogs
    | blogs action =>
      change store.blogs.enqueue _ _ = ⟨store.blogs.running.map id, _⟩
      simp [Flight.enqueue, Event.queued]
  | receive number reception =>
    simp only [step, Flight.receive_eq, Event.queued, List.append_nil]
    rfl
  | pass milliseconds => exact hsame store.blogs
  | resume slice =>
    cases slice with
    | user => exact (resumeUser_turn store).blogs_eq.trans (hsame store.blogs)
    | blogs => exact absurd rfl h

-- ---- Runs

@[simp] theorem run_nil (store : Store) : store.run [] = store := rfl

theorem run_append (store : Store) (first rest : List Event) :
    store.run (first ++ rest) = (store.run first).run rest :=
  List.foldl_append

theorem run_cons (store : Store) (event : Event) (rest : List Event) :
    store.run (event :: rest) = (store.step event).run rest := rfl

theorem run_concat (store : Store) (events : List Event) (event : Event) :
    store.run (events ++ [event]) = (store.run events).step event := by
  rw [run_append]
  rfl

theorem run_keeps {P : Store → Prop} (hstep : ∀ store event, P store → P (store.step event))
    {store : Store} (h : P store) (events : List Event) : P (store.run events) := by
  induction events generalizing store with
  | nil => exact h
  | cons event rest ih => exact ih (hstep store event h)

-- ---- What was seen stays seen

theorem UserTurn.log_suffix {store next : Store} {ticket : Nat}
    {came : Option (UserStage × Reception)} (turn : UserTurn store ticket came next) :
    store.log <:+ next.log := by
  cases turn with
  | request hrequest => exact ⟨[_, _], rfl⟩
  | finish hloading hloaded => exact ⟨[_, _], rfl⟩

theorem UserResume.log_suffix {store next : Store} (turn : UserResume store next) :
    store.log <:+ next.log := by
  cases turn with
  | idle => exact List.suffix_refl _
  | begins hrun hwait turn => exact turn.log_suffix
  | continues hrun hcame turn => exact turn.log_suffix

theorem BlogResume.log_suffix {store next : Store} (turn : BlogResume store next) :
    store.log <:+ next.log := by
  cases turn with
  | idle => exact List.suffix_refl _
  | begins hrun hwait hstage => exact ⟨[_, _], rfl⟩
  | refuses hrun hwait haction hlist => exact ⟨[_], rfl⟩
  | ends hrun hcame hepoch => exact ⟨[_, _], rfl⟩
  | drops hrun hcame hepoch => exact ⟨[_], rfl⟩

theorem step_log (store : Store) (event : Event) : store.log <:+ (store.step event).log := by
  cases event with
  | setUser user =>
    rw [step, commitUser_eq]
    exact ⟨[_], rfl⟩
  | setBlogs blogs => exact ⟨[_], rfl⟩
  | start action => cases action <;> exact List.suffix_refl _
  | receive number reception => exact List.suffix_refl _
  | pass milliseconds => exact List.suffix_refl _
  | resume slice =>
    cases slice with
    | user => exact (resumeUser_turn store).log_suffix
    | blogs => exact (resumeBlogs_turn store).log_suffix

theorem run_log (store : Store) (events : List Event) : store.log <:+ (store.run events).log := by
  induction events generalizing store with
  | nil => exact List.suffix_refl _
  | cons event rest ih => exact (step_log store event).trans (ih (store.step event))

theorem run_seen {store : Store} {events : List Event} {seen : Observation}
    (hold : seen ∉ store.log) (hnew : seen ∈ (store.run events).log) :
    ∃ first event rest, events = first ++ event :: rest ∧ seen ∉ (store.run first).log ∧
      seen ∈ ((store.run first).step event).log := by
  induction events generalizing store with
  | nil => exact absurd hnew hold
  | cons event rest ih =>
    by_cases hin : seen ∈ (store.step event).log
    · exact ⟨[], event, rest, rfl, hold, hin⟩
    · obtain ⟨first, later, rest, rfl, hbefore, hafter⟩ := ih hin hnew
      exact ⟨event :: first, later, rest, rfl, hbefore, hafter⟩

end BlogDesk.Store
