import BlogDesk.Proofs.Store.Edits
import BlogDesk.Proofs.Store.Loading

/-!
# Slices, whichever they are

Both slices of a store are flights, with actions and stages of their own. Seen as a
`lane`, a flight of one kind, the two follow the same rules: an event that is no turn of
a slice only brings answers and newcomers, and at its turn the one action whose turn it
is asks for what comes next on its way, or ends. `step_move` says all of a turn that
statements about either slice need.
-/

namespace BlogDesk.Store

-- ---- What actions ask for

/-- What an action asks for, one after the other, if nothing fails. -/
def Action.errands : Action → List Errand
  | .user (.register account) =>
    [.call (.register account), .login account.credentials, .call .whoami]
  | .user (.login credentials) => [.login credentials, .call .whoami]
  | .user .logout => [.logout]
  | .user .checkLogin => [.call .whoami]
  | .blogs .load => [.call .listBlogs]
  | .blogs (.change edit) => [.call edit.operation]

def UserStage.ahead : UserStage → List Errand
  | creating credentials => [.login credentials, .call .whoami]
  | signingIn _ => [.call .whoami]
  | checking _ | signingOut => []

def BlogStage.ahead (_ : BlogStage) : List Errand := []

def Errand.hold (delay : Nat) : Errand → Nat
  | call _ => delay
  | login _ | logout => 0

-- ---- Lanes

def Flight.map {α β σ τ : Type} (f : α → β) (g : σ → τ) (flight : Flight α σ) : Flight β τ where
  running := flight.running.map fun job => ⟨job.ticket, g job.stage, job.exchange⟩
  waiting := flight.waiting.map fun later => ⟨later.ticket, f later.action⟩

/-- The flight of a slice; its stages are what is still to be asked for. -/
def lane (store : Store) : Slice → Flight Action (List Errand)
  | .user => store.users.map .user UserStage.ahead
  | .blogs => store.blogs.map .blogs BlogStage.ahead

def Event.queuedOn (slice : Slice) (ticket : Nat) : Event → List (Waiting Action)
  | .start action => if action.slice = slice then [⟨ticket, action⟩] else []
  | _ => []

def Flight.after {α σ : Type} (event : Event) (more : List (Waiting α)) (flight : Flight α σ) :
    Flight α σ :=
  ⟨flight.running.map (·.after event), flight.waiting ++ more⟩

section
variable {α β σ τ : Type} {f : α → β} {g : σ → τ} {flight : Flight α σ}

theorem Flight.after_quiet {event : Event} (hquiet : ∀ job : InFlight σ, job.after event = job) :
    flight = flight.after event [] := by
  simp [Flight.after, hquiet]

theorem Flight.map_receive (number : Nat) (reception : Reception) :
    (flight.receive number reception).map f g =
      (flight.map f g).after (.receive number reception) [] := by
  rw [Flight.receive_eq]
  cases h : flight.running <;> simp [Flight.map, Flight.after, InFlight.after, InFlight.answered, h]

theorem Flight.map_enqueue (ticket : Nat) (action : α) :
    (flight.enqueue ticket action).map f g = (flight.map f g).after (.pass 0) [⟨ticket, f action⟩] := by
  cases h : flight.running <;> simp [Flight.map, Flight.after, Flight.enqueue, InFlight.after, h]

@[simp] theorem Flight.tickets_map : (flight.map f g).tickets = flight.tickets := by
  cases h : flight.running <;> simp [Flight.tickets, Flight.map, h]

@[simp] theorem Flight.isReady_map (clock : Nat) :
    (flight.map f g).isReady clock = flight.isReady clock := by
  cases h : flight.running <;> simp [Flight.isReady, Flight.map, h]

end

theorem BlogResume.users_eq {store next : Store} (turn : BlogResume store next) :
    next.users = store.users := by
  cases turn <;> rfl

/-- A lane is moved by the turns of its slice only. -/
theorem lane_step (store : Store) {event : Event} {slice : Slice} (h : event ≠ .resume slice) :
    (store.step event).lane slice =
      (store.lane slice).after event (event.queuedOn slice store.started) := by
  cases event with
  | setUser user =>
    rw [step, commitUser_eq]
    cases slice <;> exact Flight.after_quiet fun _ => rfl
  | setBlogs blogs => cases slice <;> exact Flight.after_quiet fun _ => rfl
  | start action =>
    cases action with
    | user action =>
      cases slice with
      | user => exact store.users.map_enqueue ..
      | blogs => exact Flight.after_quiet fun _ => rfl
    | blogs action =>
      cases slice with
      | user => exact Flight.after_quiet fun _ => rfl
      | blogs => exact store.blogs.map_enqueue ..
  | receive number reception =>
    cases slice with
    | user => exact store.users.map_receive ..
    | blogs => exact store.blogs.map_receive ..
  | pass milliseconds => cases slice <;> exact Flight.after_quiet fun _ => rfl
  | resume other =>
    cases slice with
    | user =>
      cases other with
      | user => exact absurd rfl h
      | blogs =>
        -- A turn of the one slice leaves the flight of the other as it was.
        refine Eq.trans ?_ (Flight.after_quiet fun _ => rfl)
        exact congrArg (Flight.map Action.user UserStage.ahead) (resumeBlogs_turn store).users_eq
    | blogs =>
      cases other with
      | user =>
        refine Eq.trans ?_ (Flight.after_quiet fun _ => rfl)
        exact congrArg (Flight.map Action.blogs BlogStage.ahead) (resumeUser_turn store).blogs_eq
      | blogs => exact absurd rfl h

-- ---- Turns

/-- Whose turn it is: of the action in flight once its exchange has resolved, or of the
first one waiting when none is in flight. It still asks for what is ahead. -/
inductive HasTurn (clock ticket : Nat) (ahead : List Errand) (later : List (Waiting Action)) :
    Flight Action (List Errand) → Prop
  | begins {action : Action} (hahead : action.errands = ahead) :
    HasTurn clock ticket ahead later ⟨none, ⟨ticket, action⟩ :: later⟩
  | continues {exchange : Exchange} {reception : Reception}
      (hcame : exchange.resolved? clock = some reception) :
    HasTurn clock ticket ahead later ⟨some ⟨ticket, ahead, exchange⟩, later⟩

inductive Move (store : Store) (slice : Slice) : Store → Prop
  | waits (hready : store.isReady slice = false) : Move store slice store
  | asks {next : Store} {ticket epoch : Nat} {errand : Errand} {ahead : List Errand}
      {later : List (Waiting Action)} {client : Client} {before state : State}
      (hturn : HasTurn store.clock ticket (errand :: ahead) later (store.lane slice))
      (hlane : next.lane slice = ⟨some ⟨ticket, ahead,
        { number := store.requested, due := store.clock + errand.hold store.delay }⟩, later⟩)
      (hrequested : next.requested = store.requested + 1)
      (hlog : next.log = .request ticket store.requested (errand.request client) state ::
        .commit ticket epoch before :: store.log) :
    Move store slice next
  | ends {next : Store} {ticket : Nat} {ahead : List Errand} {later : List (Waiting Action)}
      {result : Result} {commits : List Observation}
      (hturn : HasTurn store.clock ticket ahead later (store.lane slice))
      (hlane : next.lane slice = ⟨none, later⟩) (hrequested : next.requested = store.requested)
      (hcommits : commits = [] ∨ ∃ epoch state, commits = [.commit (some ticket) epoch state])
      (hrefused : (store.lane slice).running = none → result = .edit (.error .invalidBaseState))
      (hlog : next.log = .finish ticket result :: (commits ++ store.log)) :
    Move store slice next

section
variable {store : Store} {ticket : Nat} {running : Option (InFlight UserStage)}
  {later : List (Waiting UserAction)}

theorem Move.callAsUser {stage : UserStage} {operation : Operation}
    (hturn : HasTurn store.clock ticket (.call operation :: stage.ahead)
      (later.map fun later => ⟨later.ticket, .user later.action⟩) (store.lane .user)) :
    Move store .user (({ store with users := ⟨running, later⟩ }.commitUser ticket
      .loading).callAsUser ticket stage operation) := by
  rw [commitUser_eq]
  exact .asks hturn rfl rfl rfl

theorem Move.signIn {registering : Bool} {credentials : Credentials}
    (hturn : HasTurn store.clock ticket [.login credentials, .call .whoami]
      (later.map fun later => ⟨later.ticket, .user later.action⟩) (store.lane .user)) :
    Move store .user ({ store with users := ⟨running, later⟩ }.signIn ticket registering
      credentials) := by
  rw [Store.signIn, commitUser_eq]
  exact .asks hturn rfl rfl rfl

theorem Move.finishUser {ahead : List Errand} {user : Loadable User} {result : Result}
    (hturn : HasTurn store.clock ticket ahead
      (later.map fun later => ⟨later.ticket, .user later.action⟩) (store.lane .user))
    (hrun : store.users.running ≠ none) :
    Move store .user (({ store with users := ⟨running, later⟩ }.commitUser ticket
      user).finishUser ticket result) := by
  rw [commitUser_eq]
  refine .ends hturn rfl rfl (.inr ⟨_, _, rfl⟩) (fun hidle => ?_) rfl
  exact absurd (Option.map_eq_none_iff.mp hidle) hrun

theorem Move.beginUser {action : UserAction} (hrun : store.users.running = none)
    (hwait : store.users.waiting = ⟨ticket, action⟩ :: later) :
    Move store .user ({ store with users := ⟨running, later⟩ }.beginUser ticket action) := by
  have hturn : HasTurn store.clock ticket (Action.user action).errands
      (later.map fun later => ⟨later.ticket, .user later.action⟩) (store.lane .user) := by
    simp only [lane, Flight.map, hrun, hwait, Option.map_none, List.map_cons]
    exact .begins rfl
  cases action with
  | register user => exact .callAsUser hturn
  | login credentials => exact .signIn hturn
  | logout =>
    rw [Store.beginUser, commitUser_eq]
    exact .asks hturn rfl rfl rfl
  | checkLogin => exact .callAsUser hturn

theorem Move.continueUser {job : InFlight UserStage} {reception : Reception}
    (hrun : store.users.running = some job)
    (hcame : job.exchange.resolved? store.clock = some reception) :
    Move store .user (store.continueUser job.ticket reception job.stage) := by
  obtain ⟨ticket, stage, exchange⟩ := job
  have hturn : HasTurn store.clock ticket stage.ahead (store.users.waiting.map
      fun later => ⟨later.ticket, .user later.action⟩) (store.lane .user) := by
    simp only [lane, Flight.map, hrun]
    exact .continues hcame
  have hrunning : store.users.running ≠ none := by simp [hrun]
  cases stage with
  | creating credentials =>
    simp only [Store.continueUser]
    split
    · exact .signIn hturn
    · exact .finishUser hturn hrunning
  | signingIn registering =>
    simp only [Store.continueUser]
    split
    · exact .callAsUser hturn
    · exact .finishUser hturn hrunning
    · exact .finishUser hturn hrunning
  | checking registering =>
    simp only [Store.continueUser]
    split
    · exact .finishUser hturn hrunning
    · exact .finishUser hturn hrunning
  | signingOut =>
    simp only [Store.continueUser]
    split
    · exact .finishUser hturn hrunning
    · exact .finishUser hturn hrunning

end

section
variable {store : Store} {ticket : Nat}

theorem Move.callForBlogs {running : Option (InFlight BlogStage)} {later : List (Waiting BlogAction)}
    {stage : BlogStage} {operation : Operation}
    (hturn : HasTurn store.clock ticket [.call operation]
      (later.map fun later => ⟨later.ticket, .blogs later.action⟩) (store.lane .blogs)) :
    Move store .blogs (({ store with blogs := ⟨running, later⟩ }.commitBlogs ticket
      .loading).callForBlogs ticket stage operation) :=
  .asks hturn rfl rfl rfl

theorem Move.beginBlogs {running : Option (InFlight BlogStage)} {later : List (Waiting BlogAction)}
    {action : BlogAction} (hrun : store.blogs.running = none)
    (hwait : store.blogs.waiting = ⟨ticket, action⟩ :: later) :
    Move store .blogs ({ store with blogs := ⟨running, later⟩ }.beginBlogs ticket action) := by
  have hturn : HasTurn store.clock ticket (Action.blogs action).errands
      (later.map fun later => ⟨later.ticket, .blogs later.action⟩) (store.lane .blogs) := by
    simp only [lane, Flight.map, hrun, hwait, Option.map_none, List.map_cons]
    exact .begins rfl
  cases action with
  | load => exact .callForBlogs hturn
  | change edit =>
    simp only [Store.beginBlogs]
    split
    · exact .callForBlogs hturn
    · exact .ends hturn rfl rfl (.inl rfl) (fun _ => rfl) rfl

theorem Move.continueBlogs {job : InFlight BlogStage} {reception : Reception}
    (hrun : store.blogs.running = some job)
    (hcame : job.exchange.resolved? store.clock = some reception) :
    Move store .blogs (store.continueBlogs job.ticket reception job.stage) := by
  have hturn : HasTurn store.clock job.ticket [] (store.blogs.waiting.map
      fun later => ⟨later.ticket, .blogs later.action⟩) (store.lane .blogs) := by
    simp only [lane, Flight.map, hrun, Option.map_some]
    exact .continues hcame
  have hbusy : (store.lane .blogs).running ≠ none := by simp [lane, Flight.map, hrun]
  rw [continueBlogs_eq, commitBlogsIn]
  split
  · exact .ends hturn rfl rfl (.inr ⟨_, _, rfl⟩) (fun hidle => absurd hidle hbusy) rfl
  · exact .ends hturn rfl rfl (.inl rfl) (fun hidle => absurd hidle hbusy) rfl

end

theorem resumeUser_move (store : Store) : Move store .user store.resumeUser := by
  unfold resumeUser
  split
  · rename_i job hrun
    split
    · rename_i reception hcame
      exact .continueUser hrun hcame
    · rename_i hnone
      exact .waits (by simp [isReady, Flight.isReady, hrun, hnone])
  · rename_i hrun hwait
    exact .beginUser hrun hwait
  · rename_i hrun hwait
    exact .waits (by simp [isReady, Flight.isReady, hrun, hwait])

theorem resumeBlogs_move (store : Store) : Move store .blogs store.resumeBlogs := by
  unfold resumeBlogs
  split
  · rename_i job hrun
    split
    · rename_i reception hcame
      exact .continueBlogs hrun hcame
    · rename_i hnone
      exact .waits (by simp [isReady, Flight.isReady, hrun, hnone])
  · rename_i hrun hwait
    exact .beginBlogs hrun hwait
  · rename_i hrun hwait
    exact .waits (by simp [isReady, Flight.isReady, hrun, hwait])

theorem step_move (store : Store) (slice : Slice) : Move store slice (store.step (.resume slice)) := by
  cases slice with
  | user => exact resumeUser_move store
  | blogs => exact resumeBlogs_move store

-- ---- What a turn lets be seen

theorem HasTurn.head? {clock ticket : Nat} {ahead : List Errand} {later : List (Waiting Action)}
    {flight : Flight Action (List Errand)} (h : HasTurn clock ticket ahead later flight) :
    flight.tickets.head? = some ticket := by
  cases h <;> rfl

/-- Something is seen if the slice can go on, and nothing but of the action whose turn it is. -/
theorem Move.fresh {store next : Store} {slice : Slice} (move : Move store slice next) :
    ∃ fresh, next.log = fresh ++ store.log ∧ (store.isReady slice → fresh ≠ []) ∧
      ∀ seen ∈ fresh, seen.ticket? = (store.lane slice).tickets.head? := by
  cases move with
  | waits hready => exact ⟨[], rfl, by simp [hready], nofun⟩
  | @asks _ ticket epoch errand ahead later client before state hturn hlane hrequested hlog =>
    refine ⟨[_, _], hlog, fun _ => List.cons_ne_nil _ _, fun seen hseen => ?_⟩
    rw [hturn.head?]
    simp only [List.mem_cons, List.not_mem_nil, or_false] at hseen
    rcases hseen with rfl | rfl <;> rfl
  | @ends _ ticket ahead later result commits hturn hlane hrequested hcommits hrefused hlog =>
    refine ⟨.finish ticket result :: commits, hlog, fun _ => List.cons_ne_nil _ _,
      fun seen hseen => ?_⟩
    rw [hturn.head?]
    rcases hcommits with rfl | ⟨epoch, state, rfl⟩
    · rw [List.mem_singleton.mp hseen]
      rfl
    · simp only [List.mem_cons, List.not_mem_nil, or_false] at hseen
      rcases hseen with rfl | rfl <;> rfl

theorem step_fresh (store : Store) {event : Event} {slice : Slice} (h : event ≠ .resume slice) :
    ∃ fresh, (store.step event).log = fresh ++ store.log ∧
      ∀ seen ∈ fresh, ∀ ticket, seen.ticket? = some ticket →
        ∃ other ≠ slice, ticket ∈ (store.lane other).tickets := by
  cases event with
  | setUser user =>
    rw [step, commitUser_eq]
    exact ⟨[_], rfl, by simp [Observation.ticket?]⟩
  | setBlogs blogs => exact ⟨[_], rfl, by simp [Observation.ticket?]⟩
  | start action => cases action <;> exact ⟨[], rfl, by simp⟩
  | receive number reception => exact ⟨[], rfl, by simp⟩
  | pass milliseconds => exact ⟨[], rfl, by simp⟩
  | resume other =>
    obtain ⟨fresh, hlog, -, hseen⟩ := (step_move store other).fresh
    refine ⟨fresh, hlog, fun seen hin ticket hticket => ⟨other, ?_, ?_⟩⟩
    · rintro rfl
      exact h rfl
    · exact List.mem_of_mem_head? ((hseen seen hin).symm.trans hticket)

theorem Tickets.lane {actions : List Action} {store : Store} (h : Tickets actions store)
    {slice : Slice} {ticket : Nat} (hmem : ticket ∈ (store.lane slice).tickets) :
    ∃ action, actions[ticket]? = some action ∧ action.slice = slice := by
  cases slice with
  | user =>
    obtain ⟨action, haction⟩ := h.userTicket ticket (by simpa [Store.lane] using hmem)
    exact ⟨_, haction, rfl⟩
  | blogs =>
    have hmem : ticket ∈ store.blogs.tickets := by simpa [Store.lane] using hmem
    obtain ⟨action, haction⟩ := h.blogTicket hmem
    exact ⟨_, haction, rfl⟩

-- ---- Time

@[simp] theorem InFlight.after_due {σ : Type} (event : Event) (job : InFlight σ) :
    (job.after event).exchange.due = job.exchange.due := by
  cases event with
  | receive number reception =>
    simp only [InFlight.after, InFlight.answered, Exchange.answered]
    split <;> rfl
  | _ => rfl

theorem Exchange.due_of_resolved {exchange : Exchange} {clock : Nat} {reception : Reception}
    (h : exchange.resolved? clock = some reception) : exchange.due ≤ clock := by
  unfold Exchange.resolved? at h
  split at h
  · assumption
  · cases h

theorem UserTurn.timing {store next : Store} {ticket : Nat} {came : Option (UserStage × Reception)}
    (turn : UserTurn store ticket came next) :
    next.clock = store.clock ∧ next.delay = store.delay := by
  cases turn <;> exact ⟨rfl, rfl⟩

theorem resume_timing (store : Store) (slice : Slice) :
    (store.step (.resume slice)).clock = store.clock ∧
      (store.step (.resume slice)).delay = store.delay := by
  cases slice with
  | user =>
    change store.resumeUser.clock = _ ∧ store.resumeUser.delay = _
    generalize store.resumeUser = next, resumeUser_turn store = turn
    cases turn with
    | idle => exact ⟨rfl, rfl⟩
    | begins hrun hwait turn => exact turn.timing
    | continues hrun hcame turn => exact turn.timing
  | blogs =>
    change store.resumeBlogs.clock = _ ∧ store.resumeBlogs.delay = _
    generalize store.resumeBlogs = next, resumeBlogs_turn store = turn
    cases turn <;> exact ⟨rfl, rfl⟩

theorem step_timing (store : Store) (event : Event) :
    store.clock ≤ (store.step event).clock ∧ (store.step event).delay = store.delay := by
  cases event with
  | setUser user =>
    rw [step, commitUser_eq]
    exact ⟨Nat.le_refl _, rfl⟩
  | setBlogs blogs => exact ⟨Nat.le_refl _, rfl⟩
  | start action => cases action <;> exact ⟨Nat.le_refl _, rfl⟩
  | receive number reception => exact ⟨Nat.le_refl _, rfl⟩
  | pass milliseconds => exact ⟨Nat.le_add_right .., rfl⟩
  | resume slice =>
    obtain ⟨hclock, hdelay⟩ := resume_timing store slice
    exact ⟨Nat.le_of_eq hclock.symm, hdelay⟩

theorem run_delay (store : Store) (events : List Event) : (store.run events).delay = store.delay :=
  run_keeps (P := fun later => later.delay = store.delay)
    (fun later event h => (step_timing later event).2.trans h) rfl events

end BlogDesk.Store
