import BlogDesk.Proofs.Store.Loads

/-!
# What an action returns is what it commits

An action on the user asks for one thing after another and decides by each answer whether
it goes on. `Ends` says which requests it makes in all, what was answered to each, and what
it returns for that. `results_as_committed` holds every run to it: whatever is answered, the
last that an action commits agrees with what it returns.
-/

namespace BlogDesk.Store

-- ---- From answers to results

/-- A request of an action, with what was answered to it. -/
structure Leg where
  errand : Errand
  number : Nat
  reception : Reception

def Leg.asked (leg : Leg) : Asked := ⟨leg.errand, leg.number⟩

/-- A look at the session that made those requests, and how it ended. -/
inductive Checked : List Leg → LoginOutcome → Prop
  | loggedIn {number : Nat} {reception : Reception} {user : User}
      (huser : reception.bind Response.user = .ok user) :
    Checked [⟨.call .whoami, number, reception⟩] (.loggedIn user)
  | notLoggedIn {number : Nat} {reception : Reception} {cause : CallFailure}
      (hfailed : reception.bind Response.user = .error cause) (hnobody : cause.isAuthenticationRequired) :
    Checked [⟨.call .whoami, number, reception⟩] .notLoggedIn
  | failed {number : Nat} {reception : Reception} {cause : CallFailure}
      (hfailed : reception.bind Response.user = .error cause)
      (hother : ¬ cause.isAuthenticationRequired) :
    Checked [⟨.call .whoami, number, reception⟩] (.failed cause)

inductive SignedIn (credentials : Credentials) : List Leg → LoginOutcome → Prop
  | accepted {number : Nat} {reception : Reception} {legs : List Leg} {outcome : LoginOutcome}
      (haccepted : reception.bind Response.loginAccepted = .ok true) (hchecked : Checked legs outcome) :
    SignedIn credentials (⟨.login credentials, number, reception⟩ :: legs) outcome
  | rejected {number : Nat} {reception : Reception}
      (hrejected : reception.bind Response.loginAccepted = .ok false) :
    SignedIn credentials [⟨.login credentials, number, reception⟩] .invalidCredentials
  | failed {number : Nat} {reception : Reception} {cause : CallFailure}
      (hfailed : reception.bind Response.loginAccepted = .error cause) :
    SignedIn credentials [⟨.login credentials, number, reception⟩] (.failed cause)

/-- What an action on the user returns that made those requests and got those answers. -/
inductive Ends : UserAction → List Leg → Result → Prop
  | notRegistered {user : NewUser} {number : Nat} {reception : Reception} {cause : CallFailure}
      (hfailed : reception.bind (·.acknowledged Method.register.name) = .error cause) :
    Ends (.register user) [⟨.call (.register user), number, reception⟩] (.register (.failed cause))
  | registered {user : NewUser} {number : Nat} {reception : Reception} {legs : List Leg}
      {outcome : LoginOutcome}
      (hcreated : reception.bind (·.acknowledged Method.register.name) = .ok ())
      (hlogin : SignedIn user.credentials legs outcome) :
    Ends (.register user) (⟨.call (.register user), number, reception⟩ :: legs)
      (.register (.registered outcome))
  | login {credentials : Credentials} {legs : List Leg} {outcome : LoginOutcome}
      (hlogin : SignedIn credentials legs outcome) : Ends (.login credentials) legs (.login outcome)
  | logout {number : Nat} {reception : Reception} :
    Ends .logout [⟨.logout, number, reception⟩] (.logout (reception.bind Response.logoutDone))
  | checkLogin {legs : List Leg} {outcome : LoginOutcome} (hchecked : Checked legs outcome) :
    Ends .checkLogin legs (.login outcome)

-- ---- What a result says of the state

def Result.login? : Result → Option LoginOutcome
  | .register (.registered outcome) | .login outcome => some outcome
  | _ => none

def LoginOutcome.failure? : LoginOutcome → Option CallFailure
  | .failed cause => some cause
  | _ => none

def Result.failure? : Result → Option CallFailure
  | .register (.failed cause) | .logout (.error cause) => some cause
  | .register (.registered outcome) | .login outcome => outcome.failure?
  | _ => none

/-- What is shown once an action on the user has returned. -/
structure Agrees (result : Result) (state : State) : Prop where
  user : ∀ user, state.user = .loaded user ↔ result.login? = some (.loggedIn user)
  nobody : state.user = .uninitialized ↔
    result.login? = some .notLoggedIn ∨ result = .logout (.ok ())
  invalid : result.login? = some .invalidCredentials →
    state.user = .error "Invalid username and/or password"
  failed : ∀ cause, result.failure? = some cause → state.user = .error cause.message
  blogs : (∀ user, result.login? ≠ some (.loggedIn user)) → state.blogs = .uninitialized

@[simp] theorem login?_loginResult (registering : Bool) (outcome : LoginOutcome) :
    (loginResult registering outcome).login? = some outcome := by
  cases registering <;> rfl

@[simp] theorem failure?_loginResult (registering : Bool) (outcome : LoginOutcome) :
    (loginResult registering outcome).failure? = outcome.failure? := by
  cases registering <;> rfl

theorem loginResult_ne_logout (registering : Bool) (outcome : LoginOutcome)
    (ended : Except CallFailure Unit) : loginResult registering outcome ≠ .logout ended := by
  cases registering <;> nofun

theorem stateWith_blogs_of_nobody {state : State} {user : Loadable User}
    (h : ∀ loaded, user ≠ .loaded loaded) : (stateWith state user).blogs = .uninitialized := by
  unfold stateWith
  cases user with
  | loaded loaded => exact absurd rfl (h loaded)
  | _ => rfl

namespace Agrees

theorem login (registering : Bool) (outcome : LoginOutcome) (state : State) :
    Agrees (loginResult registering outcome) (stateWith state outcome.shown) := by
  refine ⟨fun user => ?_, ?_, ?_, fun cause => ?_, fun hnobody => ?_⟩
  · cases outcome <;> simp [LoginOutcome.shown]
  · cases outcome <;> simp [LoginOutcome.shown, loginResult_ne_logout]
  · cases outcome <;> simp [LoginOutcome.shown, invalidCredentials]
  · cases outcome <;> simp +contextual [LoginOutcome.shown, LoginOutcome.failure?]
  · refine stateWith_blogs_of_nobody ?_
    cases outcome with
    | loggedIn user => exact absurd (login?_loginResult ..) (hnobody user)
    | _ => nofun

theorem failure {result : Result} {cause : CallFailure} (hcause : result.failure? = some cause)
    (hlogin : result.login? = none) (state : State) :
    Agrees result (stateWith state (.error cause.message)) := by
  have hlogout : result ≠ .logout (.ok ()) := by
    rintro rfl
    cases hcause
  refine ⟨?_, ?_, ?_, ?_, fun _ => ?_⟩
  · simp [hlogin]
  · simp [hlogin, hlogout]
  · simp [hlogin]
  · simp [hcause]
  · exact stateWith_blogs_of_nobody nofun

theorem loggedOut (state : State) : Agrees (.logout (.ok ())) (stateWith state .uninitialized) := by
  refine ⟨?_, ?_, nofun, nofun, fun _ => ?_⟩
  · simp [Result.login?]
  · simp
  · exact stateWith_blogs_of_nobody nofun

end Agrees

-- ---- On the way there

/-- An action on the user that had those answers waits for that to be answered, at that
stage. What is left of it leads to an end of the whole. -/
inductive OnWay (action : UserAction) (legs : List Leg) : Errand → UserStage → Prop
  | creating {user : NewUser} (haction : action = .register user) (hlegs : legs = []) :
    OnWay action legs (.call (.register user)) (.creating user.credentials)
  | signingIn {credentials : Credentials} {registering : Bool}
      (hrest : ∀ {more outcome}, SignedIn credentials more outcome →
        Ends action (legs ++ more) (loginResult registering outcome)) :
    OnWay action legs (.login credentials) (.signingIn registering)
  | checking {registering : Bool}
      (hrest : ∀ {more outcome}, Checked more outcome →
        Ends action (legs ++ more) (loginResult registering outcome)) :
    OnWay action legs (.call .whoami) (.checking registering)
  | signingOut (haction : action = .logout) (hlegs : legs = []) :
    OnWay action legs .logout .signingOut

inductive Advance (store : Store) (ticket : Nat) (action : UserAction) (legs : List Leg) : Store → Prop
  | asks {next : Store} {stage : UserStage} {errand : Errand} {due epoch : Nat} {client : Client}
      {before state : State} (hway : OnWay action legs errand stage)
      (hrun : next.users.running = some ⟨ticket, stage, { number := store.requested, due }⟩)
      (hrequested : next.requested = store.requested + 1)
      (hlog : next.log = [.commit ticket epoch before,
        .request ticket store.requested (errand.request client) state].reverse ++ store.log) :
    Advance store ticket action legs next
  | ends {next : Store} {result : Result} {epoch : Nat} {state : State}
      (hends : Ends action legs result) (hrun : next.users.running = none)
      (hlog : next.log = [.commit ticket epoch state, .finish ticket result].reverse ++ store.log)
      (hagrees : Agrees result state) :
    Advance store ticket action legs next

section
variable {store : Store} {ticket : Nat} {action : UserAction} {legs : List Leg}

theorem Advance.callAsUser {operation : Operation} {stage : UserStage}
    (hway : OnWay action legs (.call operation) stage) : Advance store ticket action legs
      ((store.commitUser ticket .loading).callAsUser ticket stage operation) := by
  rw [commitUser_eq]
  exact .asks hway rfl rfl rfl

theorem Advance.signIn {credentials : Credentials} {registering : Bool}
    (hrest : ∀ {more outcome}, SignedIn credentials more outcome →
      Ends action (legs ++ more) (loginResult registering outcome)) :
    Advance store ticket action legs (store.signIn ticket registering credentials) := by
  rw [Store.signIn, commitUser_eq]
  exact .asks (.signingIn hrest) rfl rfl rfl

theorem Advance.finishUser {user : Loadable User} {result : Result} (hends : Ends action legs result)
    (hagrees : Agrees result (stateWith store.state user)) : Advance store ticket action legs
      ((store.commitUser ticket user).finishUser ticket result) := by
  rw [commitUser_eq]
  exact .ends hends rfl rfl hagrees

theorem Advance.endLogin {registering : Bool} {outcome : LoginOutcome}
    (hends : Ends action legs (loginResult registering outcome)) :
    Advance store ticket action legs (store.endLogin ticket registering outcome) :=
  .finishUser hends (.login ..)

theorem Advance.beginUser : Advance store ticket action [] (store.beginUser ticket action) := by
  cases action with
  | register user => exact .callAsUser (.creating rfl rfl)
  | login credentials => exact .signIn .login
  | logout =>
    rw [Store.beginUser, commitUser_eq]
    exact .asks (.signingOut rfl rfl) rfl rfl rfl
  | checkLogin => exact .callAsUser (.checking .checkLogin)

theorem Advance.continueUser {errand : Errand} {stage : UserStage} (hway : OnWay action legs errand stage)
    (number : Nat) (reception : Reception) :
    Advance store ticket action (legs ++ [⟨errand, number, reception⟩])
      (store.continueUser ticket reception stage) := by
  cases hway with
  | creating haction hlegs =>
    subst haction hlegs
    simp only [Store.continueUser]
    split
    · rename_i hcreated
      exact .signIn (.registered hcreated)
    · rename_i cause hfailed
      exact .finishUser (.notRegistered hfailed) (.failure rfl rfl _)
  | signingIn hrest =>
    simp only [Store.continueUser]
    split
    · rename_i haccepted
      refine .callAsUser (.checking fun hchecked => ?_)
      rw [List.append_assoc]
      exact hrest (.accepted haccepted hchecked)
    · rename_i hrejected
      exact .endLogin (hrest (.rejected hrejected))
    · rename_i cause hfailed
      exact .endLogin (hrest (.failed hfailed))
  | checking hrest =>
    simp only [Store.continueUser]
    split
    · rename_i user huser
      exact .endLogin (hrest (.loggedIn huser))
    · rename_i cause hfailed
      split
      · rename_i hnobody
        exact .endLogin (hrest (.notLoggedIn hfailed hnobody))
      · rename_i hother
        exact .endLogin (hrest (.failed hfailed hother))
  | signingOut haction hlegs =>
    subst haction hlegs
    have hends := @Ends.logout number reception
    simp only [Store.continueUser]
    split
    · rename_i hdone
      exact .finishUser (hdone ▸ hends) (.loggedOut _)
    · rename_i cause hfailed
      exact .finishUser (hfailed ▸ hends) (.failure rfl rfl _)

end

-- ---- Actions that were started

theorem started_concat {events : List Event} {ticket : Nat} {action : Action}
    (h : (actionsOf events)[ticket]? = some action) (event : Event) :
    (actionsOf (events ++ [event]))[ticket]? = some action := by
  rw [actionsOf_concat]
  exact Tickets.getElem?_append h _

theorem started_of_waiting (settings : Settings) (events : List Event) {slice : Slice}
    {queued : Waiting Action} (h : queued ∈ (((ofSettings settings).run events).lane slice).waiting) :
    (actionsOf events)[queued.ticket]? = some queued.action := by
  obtain ⟨ended, current, hturn⟩ := run_inTurn settings events slice
  exact (mem_placedOn.mp (hturn.queue ▸ List.mem_append_right _ h)).1

theorem step_users (store : Store) {event : Event} (h : event ≠ .resume .user) :
    (store.step event).users.running = store.users.running.map (·.after event) := by
  have hsame : ∀ running : Option (InFlight UserStage), running = running.map id := by simp
  cases event with
  | setUser user =>
    rw [step, commitUser_eq]
    exact hsame _
  | setBlogs blogs => exact hsame _
  | start action => cases action <;> exact hsame _
  | receive number reception =>
    simp only [step, Flight.receive_eq]
    rfl
  | pass milliseconds => exact hsame _
  | resume slice =>
    cases slice with
    | user => exact absurd rfl h
    | blogs => exact (congrArg Flight.running (resumeBlogs_turn store).users_eq).trans (hsame _)

-- ---- The middle of a run

def Answered (start : Store) (events : List Event) (legs : List Leg) : Prop :=
  ∀ leg ∈ legs, start.answer? leg.number events = some leg.reception

/-- The action on the user in flight has had those answers and waits for one more. -/
structure Flies (start : Store) (events : List Event) (job : InFlight UserStage) (action : UserAction)
    (legs : List Leg) (errand : Errand) : Prop where
  way : OnWay action legs errand job.stage
  answered : Answered start events legs
  answer : job.exchange.reception = start.answer? job.exchange.number events
  made : job.exchange.number < (start.run events).requested
  shows : Shows job.ticket (legs.map Leg.asked ++ [⟨errand, job.exchange.number⟩])
    (seenOf job.ticket (start.run events))

/-- An action on the user made its requests, committed the state that its result says, and
returned. -/
inductive Returned (start : Store) (events : List Event) (ticket : Nat) (action : UserAction)
    (result : Result) : Prop
  | intro {legs : List Leg} {epoch : Nat} {state : State} {seen : List Observation}
      (hends : Ends action legs result) (hanswered : Answered start events legs)
      (hshows : Shows ticket (legs.map Leg.asked) seen)
      (hseen : seenOf ticket (start.run events) =
        seen ++ [.commit ticket epoch state, .finish ticket result])
      (hagrees : Agrees result state) : Returned start events ticket action result

/-- Whoever is in flight on the user slice is on its way, and whoever ended there returned
what it committed. -/
structure Returning (start : Store) (events : List Event) : Prop where
  flying : ∀ job, (start.run events).users.running = some job → ∃ action legs errand,
    (actionsOf events)[job.ticket]? = some (.user action) ∧ Flies start events job action legs errand
  ended : ∀ {ticket action result}, (actionsOf events)[ticket]? = some (.user action) →
    .finish ticket result ∈ (start.run events).log → Returned start events ticket action result

section
variable {start : Store} {events : List Event} {job : InFlight UserStage} {action : UserAction}
  {legs : List Leg} {errand : Errand}

theorem Answered.concat (h : Answered start events legs) (event : Event) :
    Answered start (events ++ [event]) legs := by
  intro leg hleg
  rw [answer?_concat, h leg hleg, Option.some_or]

theorem Flies.concat (h : Flies start events job action legs errand) {event : Event}
    (hseen : seenOf job.ticket ((start.run events).step event) =
      seenOf job.ticket (start.run events)) :
    Flies start (events ++ [event]) (job.after event) action legs errand := by
  refine ⟨?_, h.answered.concat event, ?_, ?_, ?_⟩
  · rw [InFlight.after_stage]
    exact h.way
  · rw [InFlight.after_reception, InFlight.after_number, h.answer, answer?_concat, if_pos h.made]
  · rw [InFlight.after_number, run_concat]
    exact Nat.lt_of_lt_of_le h.made (requested_le_step _ event)
  · rw [InFlight.after_ticket, InFlight.after_number, run_concat, hseen]
    exact h.shows

theorem Returned.concat {ticket : Nat} {result : Result}
    (h : Returned start events ticket action result)
    (htickets : Tickets (actionsOf events) (start.run events)) (event : Event) :
    Returned start (events ++ [event]) ticket action result := by
  cases h with
  | intro hends hanswered hshows hseen hagrees =>
    have hended : .finish ticket result ∈ seenOf ticket (start.run events) := by simp [hseen]
    rw [← htickets.seenOf_ended (mem_seenOf.mp hended).1 event, ← run_concat] at hseen
    exact .intro hends (hanswered.concat event) hshows hseen hagrees

namespace Returning

theorem keepsEnded (h : Returning start events)
    (htickets : Tickets (actionsOf events) (start.run events)) {event : Event} {ticket : Nat}
    {action : UserAction} {result : Result}
    (haction : (actionsOf (events ++ [event]))[ticket]? = some (.user action))
    (hended : .finish ticket result ∈ (start.run events).log) :
    Returned start (events ++ [event]) ticket action result := by
  have hlt := (htickets.seen _ hended ticket rfl).1
  rw [actionsOf_concat, List.getElem?_append_left hlt] at haction
  exact (h.ended haction hended).concat htickets event

theorem between (h : Returning start events)
    (htickets : Tickets (actionsOf events) (start.run events)) {event : Event}
    (hevent : event ≠ .resume .user) : Returning start (events ++ [event]) := by
  refine ⟨fun job hjob => ?_, fun {ticket action result} haction hended => ?_⟩
  · rw [run_concat, step_users _ hevent, Option.map_eq_some_iff] at hjob
    obtain ⟨old, hold, rfl⟩ := hjob
    obtain ⟨action, legs, errand, haction, hflies⟩ := h.flying old hold
    rw [InFlight.after_ticket]
    exact ⟨action, legs, errand, started_concat haction event,
      hflies.concat (htickets.seenOf_between haction hevent)⟩
  · refine h.keepsEnded htickets haction ?_
    rw [run_concat] at hended
    rcases step_seen _ event hended with hin | hnone | ⟨other, hother, ⟨husers, -⟩ | ⟨-, hhead⟩⟩
    · exact hin
    · cases hnone
    · exact absurd husers hevent
    · obtain rfl := Option.some.inj hother
      obtain ⟨another, hanother⟩ := htickets.blogTicket (List.mem_of_mem_head? hhead)
      cases haction.symm.trans (started_concat hanother event)

theorem idle (h : Returning start events) (htickets : Tickets (actionsOf events) (start.run events))
    (hidle : (start.run events).step (.resume .user) = start.run events) :
    Returning start (events ++ [.resume .user]) := by
  refine ⟨fun job hjob => ?_, fun haction hended => ?_⟩
  · rw [run_concat, hidle] at hjob
    obtain ⟨action, legs, errand, haction, hflies⟩ := h.flying job hjob
    exact ⟨action, legs, errand, started_concat haction _, hflies.concat (by rw [hidle])⟩
  · rw [run_concat, hidle] at hended
    exact h.keepsEnded htickets haction hended

/-- The action on the user that had those answers has its turn. -/
theorem turn (h : Returning start events) (htickets : Tickets (actionsOf events) (start.run events))
    {flight : Flight UserAction UserStage} {ticket : Nat}
    (haction : (actionsOf events)[ticket]? = some (.user action))
    (hanswered : Answered start events legs)
    (hshows : Shows ticket (legs.map Leg.asked) (seenOf ticket (start.run events)))
    (turn : Advance { start.run events with users := flight } ticket action legs
      ((start.run events).step (.resume .user))) : Returning start (events ++ [.resume .user]) := by
  rw [← run_concat] at turn
  generalize hnext : start.run (events ++ [.resume .user]) = next at turn
  cases turn with
  | asks hway hrun hrequested hlog =>
    refine ⟨fun job hjob => ?_, fun hother hended => ?_⟩
    · rw [hnext, hrun] at hjob
      cases hjob
      refine ⟨action, legs, _, started_concat haction _, hway, hanswered.concat _, ?_, ?_, ?_⟩
      · rw [answer?_concat, answer?_eq_none (Nat.le_refl _)]
        simp
      · rw [hnext, hrequested]
        exact Nat.lt_succ_self _
      · rw [hnext, seenOf_of_own hlog (by simp [Observation.ticket?])]
        exact hshows.asks ..
    · rw [hnext, hlog] at hended
      exact h.keepsEnded htickets hother (by simpa using hended)
  | @ends result epoch state hends hrun hlog hagrees =>
    refine ⟨fun job hjob => ?_, fun {other another told} hother hended => ?_⟩
    · rw [hnext, hrun] at hjob
      cases hjob
    · rw [hnext, hlog] at hended
      simp only [List.reverse_cons, List.reverse_nil, List.nil_append, List.cons_append,
        List.mem_cons, Observation.finish.injEq, reduceCtorEq, false_or] at hended
      rcases hended with ⟨hticket, hresult⟩ | hended
      · subst hticket hresult
        cases hother.symm.trans (started_concat haction _)
        have hseen : seenOf other next = seenOf other (start.run events) ++
            [.commit other epoch state, .finish other told] :=
          seenOf_of_own hlog (by simp [Observation.ticket?])
        exact .intro hends (hanswered.concat _) hshows (hnext ▸ hseen) hagrees
      · exact h.keepsEnded htickets hother hended

theorem continues (h : Returning start events)
    (htickets : Tickets (actionsOf events) (start.run events)) {job : InFlight UserStage}
    (hrun : (start.run events).users.running = some job) {reception : Reception}
    (hcame : job.exchange.resolved? (start.run events).clock = some reception) :
    Returning start (events ++ [.resume .user]) := by
  obtain ⟨action, legs, errand, haction, hflies⟩ := h.flying job hrun
  have hanswered : Answered start events (legs ++ [⟨errand, job.exchange.number, reception⟩]) := by
    intro leg hleg
    rcases List.mem_append.mp hleg with hleg | hleg
    · exact hflies.answered leg hleg
    · rw [List.mem_singleton.mp hleg, ← hflies.answer]
      exact Exchange.reception_of_resolved hcame
  have hshows : Shows job.ticket
      ((legs ++ [Leg.mk errand job.exchange.number reception]).map Leg.asked)
      (seenOf job.ticket (start.run events)) := by
    rw [List.map_append]
    exact hflies.shows
  have hturn : Advance { start.run events with users := (start.run events).users } job.ticket action
      (legs ++ [⟨errand, job.exchange.number, reception⟩])
      ((start.run events).step (.resume .user)) := by
    simp only [step, resumeUser, hrun, hcame]
    exact .continueUser hflies.way ..
  exact h.turn htickets haction hanswered hshows hturn

theorem begins (h : Returning start events)
    (htickets : Tickets (actionsOf events) (start.run events))
    (hrun : (start.run events).users.running = none) {first : Waiting UserAction}
    {later : List (Waiting UserAction)} (hwait : (start.run events).users.waiting = first :: later)
    (haction : (actionsOf events)[first.ticket]? = some (.user first.action)) :
    Returning start (events ++ [.resume .user]) := by
  have hqueued : ⟨first.ticket, .user first.action⟩ ∈ ((start.run events).lane .user).waiting := by
    simp [Store.lane, Flight.map, hwait]
  have hnothing : Shows first.ticket [] (seenOf first.ticket (start.run events)) := by
    rw [htickets.seenOf_waiting hqueued]
    exact .nothing
  have hturn : Advance { start.run events with users := ⟨none, later⟩ } first.ticket first.action []
      ((start.run events).step (.resume .user)) := by
    simp only [step, resumeUser, hrun, hwait]
    exact .beginUser
  exact h.turn htickets haction (List.forall_mem_nil _) hnothing hturn

end Returning

end

theorem run_returning (settings : Settings) (events : List Event) :
    Returning (ofSettings settings) events := by
  induction events using List.reverseRecOn with
  | nil => exact ⟨nofun, fun _ => nofun⟩
  | append_singleton first event ih =>
    have htickets := run_tickets settings first
    by_cases hevent : event = .resume .user
    · subst hevent
      cases hrun : ((ofSettings settings).run first).users.running with
      | some job =>
        cases hcame : job.exchange.resolved? ((ofSettings settings).run first).clock with
        | none => exact ih.idle htickets (by simp only [step, resumeUser, hrun, hcame])
        | some reception => exact ih.continues htickets hrun hcame
      | none =>
        cases hwait : ((ofSettings settings).run first).users.waiting with
        | nil => exact ih.idle htickets (by simp only [step, resumeUser, hrun, hwait])
        | cons next later =>
          have hqueued : ⟨next.ticket, .user next.action⟩ ∈
              (((ofSettings settings).run first).lane .user).waiting := by
            simp [Store.lane, Flight.map, hwait]
          exact ih.begins htickets hrun hwait (started_of_waiting settings first hqueued)
    · exact ih.between htickets hevent

-- ---- The result

/-- An action on the user that ended committed last what its result says, and a load what it
listed, if its epoch lasted; each as it was answered. -/
theorem results_as_committed (settings : Settings) {events : List Event} {ticket : Nat}
    {result : Result} (hended : .finish ticket result ∈ ((ofSettings settings).run events).log) :
    (∀ action, (actionsOf events)[ticket]? = some (.user action) →
      Returned (ofSettings settings) events ticket action result) ∧
    ((actionsOf events)[ticket]? = some (.blogs .load) →
      LoadReturned (ofSettings settings) events ticket result) := by
  refine ⟨fun action haction => ?_, fun haction => load_returned settings haction hended⟩
  exact (run_returning settings events).ended haction hended

/-- A login with a wrong password. -/
def refusedLogin : List Event :=
  [.start (.user (.login ⟨"ada", "guess"⟩)), .resume .user, .receive 0 (.ok { status := 401 }),
    .resume .user]

theorem results_as_committed_refusedLogin :
    Returned (ofSettings {}) refusedLogin 0 (.login ⟨"ada", "guess"⟩) (.login .invalidCredentials) ∧
    ((ofSettings {}).run refusedLogin).state.user = .error "Invalid username and/or password" := by
  have hended : .finish 0 (.login .invalidCredentials) ∈ ((ofSettings {}).run refusedLogin).log :=
    .head _
  exact ⟨(results_as_committed {} hended).1 _ rfl, rfl⟩

end BlogDesk.Store
