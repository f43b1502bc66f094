import BlogDesk.Proofs.Store.Turns

/-!
# Tickets

The ticket of an action is its place among the actions started. `Tickets` ties the
two flights and the log of a store to those actions: each flight holds the actions
of its slice in the order they were started, and nothing is seen of an action
before its turn nor after its end.
-/

namespace BlogDesk.Store

def Event.action? : Event → Option Action
  | .start action => some action
  | _ => none

def actionsOf (events : List Event) : List Action := events.filterMap Event.action?

def Flight.tickets {α σ : Type} (flight : Flight α σ) : List Nat :=
  (flight.running.map (·.ticket)).toList ++ flight.waiting.map (·.ticket)

def Observation.ticket? : Observation → Option Nat
  | .commit ticket _ _ => ticket
  | .request ticket _ _ _ => some ticket
  | .finish ticket _ => some ticket

structure Tickets (actions : List Action) (store : Store) : Prop where
  started : store.started = actions.length
  userOrder : store.users.tickets.Pairwise (· < ·)
  blogOrder : store.blogs.tickets.Pairwise (· < ·)
  userTicket : ∀ ticket ∈ store.users.tickets, ∃ action, actions[ticket]? = some (.user action)
  blogWaiting : ∀ later ∈ store.blogs.waiting, actions[later.ticket]? = some (.blogs later.action)
  blogRunning : ∀ job, store.blogs.running = some job →
    actions[job.ticket]? = some (.blogs job.stage.action)
  /-- What was seen was of actions that have had a turn. -/
  seen : ∀ seen ∈ store.log, ∀ ticket, seen.ticket? = some ticket → ticket < actions.length ∧
    (∀ later ∈ store.users.waiting, later.ticket ≠ ticket) ∧
    (∀ later ∈ store.blogs.waiting, later.ticket ≠ ticket)
  /-- An action that ended is in flight no more. -/
  finished : ∀ ticket result, .finish ticket result ∈ store.log →
    ticket ∉ store.users.tickets ∧ ticket ∉ store.blogs.tickets

namespace Tickets

variable {actions : List Action} {store : Store}

theorem blogTicket (h : Tickets actions store) {ticket : Nat} (ht : ticket ∈ store.blogs.tickets) :
    ∃ action, actions[ticket]? = some (.blogs action) := by
  simp only [Flight.tickets, List.mem_append, Option.mem_toList, Option.map_eq_some_iff,
    List.mem_map] at ht
  rcases ht with ⟨job, hrun, rfl⟩ | ⟨later, hlater, rfl⟩
  · exact ⟨_, h.blogRunning job hrun⟩
  · exact ⟨_, h.blogWaiting later hlater⟩

theorem disjoint (h : Tickets actions store) {ticket : Nat} (hu : ticket ∈ store.users.tickets)
    (hb : ticket ∈ store.blogs.tickets) : False := by
  obtain ⟨_, hu⟩ := h.userTicket ticket hu
  obtain ⟨_, hb⟩ := h.blogTicket hb
  simp [hu] at hb

theorem lt_length {ticket : Nat} {action : Action} (h : actions[ticket]? = some action) :
    ticket < actions.length :=
  (List.getElem?_eq_some_iff.mp h).1

theorem getElem?_append {ticket : Nat} {action : Action} (h : actions[ticket]? = some action)
    (more : List Action) : (actions ++ more)[ticket]? = some action := by
  rw [List.getElem?_append_left (lt_length h)]
  exact h

end Tickets

-- ---- Flights

section
variable {α σ : Type} {flight : Flight α σ}

theorem Flight.tickets_enqueue (ticket : Nat) (action : α) :
    (flight.enqueue ticket action).tickets = flight.tickets ++ [ticket] := by
  simp [Flight.tickets, Flight.enqueue]

theorem Flight.tickets_receive (number : Nat) (reception : Reception) :
    (flight.receive number reception).tickets = flight.tickets := by
  rw [Flight.receive_eq]
  cases h : flight.running <;> simp [Flight.tickets, InFlight.answered, h]

theorem Flight.tickets_of_running {job : InFlight σ} (h : flight.running = some job) :
    flight.tickets = job.ticket :: flight.waiting.map (·.ticket) := by
  simp [Flight.tickets, h]

theorem Flight.tickets_of_waiting {first : Waiting α} {later : List (Waiting α)}
    (hrun : flight.running = none) (hwait : flight.waiting = first :: later) :
    flight.tickets = first.ticket :: later.map (·.ticket) := by
  simp [Flight.tickets, hrun, hwait]

@[simp] theorem Flight.tickets_some (job : InFlight σ) (waiting : List (Waiting α)) :
    Flight.tickets ⟨some job, waiting⟩ = job.ticket :: waiting.map (·.ticket) := rfl

@[simp] theorem Flight.tickets_none (waiting : List (Waiting α)) :
    (⟨none, waiting⟩ : Flight α σ).tickets = waiting.map (·.ticket) := rfl

theorem Flight.mem_tickets {later : Waiting α} (h : later ∈ flight.waiting) :
    later.ticket ∈ flight.tickets :=
  List.mem_append_right _ (List.mem_map_of_mem h)

end

-- ---- Who is seen

theorem UserTurn.seen {store next : Store} {ticket : Nat} {came : Option (UserStage × Reception)}
    (turn : UserTurn store ticket came next) {seen : Observation} (h : seen ∈ next.log) :
    seen ∈ store.log ∨ seen.ticket? = some ticket := by
  cases turn with
  | request hrequest =>
    simp only [List.mem_cons] at h
    rcases h with rfl | rfl | h
    · exact .inr rfl
    · exact .inr rfl
    · exact .inl h
  | finish hloading hloaded =>
    simp only [List.mem_cons] at h
    rcases h with rfl | rfl | h
    · exact .inr rfl
    · exact .inr rfl
    · exact .inl h

theorem UserResume.seen {store next : Store} (turn : UserResume store next) {seen : Observation}
    (h : seen ∈ next.log) : seen ∈ store.log ∨
      ∃ ticket, seen.ticket? = some ticket ∧ store.users.tickets.head? = some ticket := by
  cases turn with
  | idle => exact .inl h
  | begins hrun hwait turn =>
    rcases turn.seen h with h | h
    · exact .inl h
    · exact .inr ⟨_, h, by simp [Flight.tickets_of_waiting hrun hwait]⟩
  | continues hrun hcame turn =>
    rcases turn.seen h with h | h
    · exact .inl h
    · exact .inr ⟨_, h, by simp [Flight.tickets_of_running hrun]⟩

theorem BlogResume.seen {store next : Store} (turn : BlogResume store next) {seen : Observation}
    (h : seen ∈ next.log) : seen ∈ store.log ∨
      ∃ ticket, seen.ticket? = some ticket ∧ store.blogs.tickets.head? = some ticket := by
  cases turn with
  | idle => exact .inl h
  | begins hrun hwait hstage =>
    have hhead := Flight.tickets_of_waiting hrun hwait
    simp only [List.mem_cons] at h
    rcases h with rfl | rfl | h
    · exact .inr ⟨_, rfl, by simp [hhead]⟩
    · exact .inr ⟨_, rfl, by simp [hhead]⟩
    · exact .inl h
  | refuses hrun hwait haction hlist =>
    have hhead := Flight.tickets_of_waiting hrun hwait
    rcases List.mem_cons.mp h with rfl | h
    · exact .inr ⟨_, rfl, by simp [hhead]⟩
    · exact .inl h
  | ends hrun hcame hepoch =>
    have hhead := Flight.tickets_of_running hrun
    simp only [List.mem_cons] at h
    rcases h with rfl | rfl | h
    · exact .inr ⟨_, rfl, by simp [hhead]⟩
    · exact .inr ⟨_, rfl, by simp [hhead]⟩
    · exact .inl h
  | drops hrun hcame hepoch =>
    have hhead := Flight.tickets_of_running hrun
    rcases List.mem_cons.mp h with rfl | h
    · exact .inr ⟨_, rfl, by simp [hhead]⟩
    · exact .inl h

theorem step_seen (store : Store) (event : Event) {seen : Observation}
    (h : seen ∈ (store.step event).log) : seen ∈ store.log ∨ seen.ticket? = none ∨
      ∃ ticket, seen.ticket? = some ticket ∧
        (event = .resume .user ∧ store.users.tickets.head? = some ticket ∨
          event = .resume .blogs ∧ store.blogs.tickets.head? = some ticket) := by
  cases event with
  | setUser user =>
    rw [step, commitUser_eq] at h
    rcases List.mem_cons.mp h with rfl | h
    · exact .inr (.inl rfl)
    · exact .inl h
  | setBlogs blogs =>
    rcases List.mem_cons.mp h with rfl | h
    · exact .inr (.inl rfl)
    · exact .inl h
  | start action => cases action <;> exact .inl h
  | receive number reception => exact .inl h
  | pass milliseconds => exact .inl h
  | resume slice =>
    cases slice with
    | user =>
      rcases (resumeUser_turn store).seen h with h | ⟨ticket, hticket, hhead⟩
      · exact .inl h
      · exact .inr (.inr ⟨ticket, hticket, .inl ⟨rfl, hhead⟩⟩)
    | blogs =>
      rcases (resumeBlogs_turn store).seen h with h | ⟨ticket, hticket, hhead⟩
      · exact .inl h
      · exact .inr (.inr ⟨ticket, hticket, .inr ⟨rfl, hhead⟩⟩)

-- ---- Steps

namespace Tickets

variable {actions : List Action} {store : Store}

theorem initial (settings : Settings) : Tickets [] (ofSettings settings) where
  started := rfl
  userOrder := .nil
  blogOrder := .nil
  userTicket := nofun
  blogWaiting := nofun
  blogRunning := nofun
  seen := nofun
  finished := nofun

theorem userTurn (h : Tickets actions store) {ready : Flight UserAction UserStage} {ticket : Nat}
    {came : Option (UserStage × Reception)} {next : Store}
    (htickets : store.users.tickets = ticket :: ready.waiting.map (·.ticket))
    (hwaiting : ∀ later ∈ ready.waiting, later ∈ store.users.waiting)
    (turn : UserTurn { store with users := ready } ticket came next) : Tickets actions next := by
  have horder := h.userOrder
  rw [htickets, List.pairwise_cons] at horder
  have hmem : ticket ∈ store.users.tickets := by simp [htickets]
  obtain ⟨action, haction⟩ := h.userTicket ticket hmem
  have hself : ticket < actions.length ∧ (∀ later ∈ ready.waiting, later.ticket ≠ ticket) ∧
      (∀ later ∈ store.blogs.waiting, later.ticket ≠ ticket) := by
    refine ⟨lt_length haction, fun later hlater heq => ?_, fun later hlater heq => ?_⟩
    · have := horder.1 later.ticket (List.mem_map_of_mem hlater)
      omega
    · exact h.disjoint hmem (heq ▸ Flight.mem_tickets hlater)
  have hold : ∀ seen ∈ store.log, ∀ other, seen.ticket? = some other → other < actions.length ∧
      (∀ later ∈ ready.waiting, later.ticket ≠ other) ∧
      (∀ later ∈ store.blogs.waiting, later.ticket ≠ other) := by
    intro seen hseen other hother
    obtain ⟨hlt, hu, hb⟩ := h.seen seen hseen other hother
    exact ⟨hlt, fun later hlater => hu later (hwaiting later hlater), hb⟩
  cases turn with
  | request hrequest =>
    refine ⟨h.started, ?_, h.blogOrder, ?_, h.blogWaiting, h.blogRunning, ?_, ?_⟩
    · simpa [htickets] using h.userOrder
    · simpa [htickets] using h.userTicket
    · intro seen hseen other hother
      simp only [List.mem_cons] at hseen
      rcases hseen with rfl | rfl | hseen
      · cases hother; exact hself
      · cases hother; exact hself
      · exact hold seen hseen other hother
    · intro other result hfinish
      simpa [htickets] using h.finished other result (by simpa using hfinish)
  | finish hloading hloaded =>
    refine ⟨h.started, ?_, h.blogOrder, ?_, h.blogWaiting, h.blogRunning, ?_, ?_⟩
    · simpa using horder.2
    · intro other hother
      refine h.userTicket other ?_
      rw [htickets]
      exact List.mem_cons_of_mem _ (by simpa using hother)
    · intro seen hseen other hother
      simp only [List.mem_cons] at hseen
      rcases hseen with rfl | rfl | hseen
      · cases hother; exact hself
      · cases hother; exact hself
      · exact hold seen hseen other hother
    · intro other result hfinish
      simp only [List.mem_cons, Observation.finish.injEq, reduceCtorEq, false_or] at hfinish
      rcases hfinish with ⟨rfl, -⟩ | hfinish
      · refine ⟨fun hin => ?_, fun hin => h.disjoint hmem hin⟩
        obtain ⟨later, hlater, heq⟩ := List.mem_map.mp (by simpa using hin)
        exact hself.2.1 later hlater heq
      · obtain ⟨hu, hb⟩ := h.finished other result hfinish
        rw [htickets] at hu
        exact ⟨fun hin => hu (List.mem_cons_of_mem _ (by simpa using hin)), hb⟩

/-- What the log may say of the action that is first among the blogs'. -/
theorem blogSelf (h : Tickets actions store) {ticket : Nat} {waiting : List (Waiting BlogAction)}
    (htickets : store.blogs.tickets = ticket :: waiting.map (·.ticket)) :
    ticket < actions.length ∧ (∀ later ∈ store.users.waiting, later.ticket ≠ ticket) ∧
      (∀ later ∈ waiting, later.ticket ≠ ticket) := by
  have horder := h.blogOrder
  rw [htickets, List.pairwise_cons] at horder
  have hmem : ticket ∈ store.blogs.tickets := by simp [htickets]
  obtain ⟨action, haction⟩ := h.blogTicket hmem
  refine ⟨lt_length haction, fun later hlater heq => ?_, fun later hlater heq => ?_⟩
  · exact h.disjoint (heq ▸ Flight.mem_tickets hlater) hmem
  · have := horder.1 later.ticket (List.mem_map_of_mem hlater)
    omega

theorem blogBegins (h : Tickets actions store) {next : Store} {first : Waiting BlogAction}
    {later : List (Waiting BlogAction)} {job : InFlight BlogStage}
    (hrun : store.blogs.running = none) (hwait : store.blogs.waiting = first :: later)
    (hstarted : next.started = store.started) (husers : next.users = store.users)
    (hblogs : next.blogs = ⟨some job, later⟩) (hticket : job.ticket = first.ticket)
    (haction : job.stage.action = first.action)
    (hlog : ∀ seen ∈ next.log, seen ∈ store.log ∨
      seen.ticket? = some first.ticket ∧ ∀ ticket result, seen ≠ .finish ticket result) :
    Tickets actions next := by
  have htickets := Flight.tickets_of_waiting hrun hwait
  have hself := h.blogSelf htickets
  have hfirst := h.blogWaiting first (by simp [hwait])
  refine ⟨hstarted ▸ h.started, husers ▸ h.userOrder, ?_, husers ▸ h.userTicket, ?_, ?_, ?_, ?_⟩
  · have := h.blogOrder
    rw [htickets] at this
    simpa [hblogs, hticket] using this
  · intro other hother
    rw [hblogs] at hother
    exact h.blogWaiting other (by simp [hwait, show other ∈ later from hother])
  · intro other hother
    rw [hblogs] at hother
    cases hother
    rw [hticket, haction]
    exact hfirst
  · intro seen hseen other hother
    rw [husers, hblogs]
    rcases hlog seen hseen with hseen | ⟨hfirst, -⟩
    · obtain ⟨hlt, hu, hb⟩ := h.seen seen hseen other hother
      refine ⟨hlt, hu, fun later hlater => hb later ?_⟩
      rw [hwait]
      exact List.mem_cons_of_mem _ hlater
    · rw [hfirst] at hother
      cases hother
      exact hself
  · intro ticket result hfinish
    rcases hlog _ hfinish with hfinish | ⟨-, hne⟩
    · obtain ⟨hu, hb⟩ := h.finished ticket result hfinish
      rw [htickets] at hb
      rw [husers, hblogs, Flight.tickets_some, hticket]
      exact ⟨hu, hb⟩
    · exact absurd rfl (hne ticket result)

theorem blogEnds (h : Tickets actions store) {next : Store} {ticket : Nat}
    {waiting : List (Waiting BlogAction)}
    (htickets : store.blogs.tickets = ticket :: waiting.map (·.ticket))
    (hwaiting : ∀ later ∈ waiting, later ∈ store.blogs.waiting)
    (hstarted : next.started = store.started) (husers : next.users = store.users)
    (hblogs : next.blogs = ⟨none, waiting⟩)
    (hlog : ∀ seen ∈ next.log, seen ∈ store.log ∨ seen.ticket? = some ticket) :
    Tickets actions next := by
  have hself := h.blogSelf htickets
  have hmem : ticket ∈ store.blogs.tickets := by simp [htickets]
  have horder := h.blogOrder
  rw [htickets, List.pairwise_cons] at horder
  refine ⟨hstarted ▸ h.started, husers ▸ h.userOrder, ?_, husers ▸ h.userTicket, ?_, ?_, ?_, ?_⟩
  · simpa [hblogs] using horder.2
  · intro other hother
    rw [hblogs] at hother
    exact h.blogWaiting other (hwaiting other hother)
  · intro job hjob
    rw [hblogs] at hjob
    cases hjob
  · intro seen hseen other hother
    rw [husers, hblogs]
    rcases hlog seen hseen with hseen | hticket
    · obtain ⟨hlt, hu, hb⟩ := h.seen seen hseen other hother
      exact ⟨hlt, hu, fun later hlater => hb later (hwaiting later hlater)⟩
    · rw [hticket] at hother
      cases hother
      exact hself
  · intro other result hfinish
    rw [husers, hblogs, Flight.tickets_none]
    rcases hlog _ hfinish with hfinish | hticket
    · obtain ⟨hu, hb⟩ := h.finished other result hfinish
      rw [htickets] at hb
      exact ⟨hu, fun hin => hb (List.mem_cons_of_mem _ hin)⟩
    · cases hticket
      refine ⟨fun hin => h.disjoint hin hmem, fun hin => ?_⟩
      obtain ⟨later, hlater, heq⟩ := List.mem_map.mp hin
      exact hself.2.2 later hlater heq

theorem blogResume (h : Tickets actions store) {next : Store} (turn : BlogResume store next) :
    Tickets actions next := by
  cases turn with
  | idle => exact h
  | begins hrun hwait hstage =>
    refine h.blogBegins hrun hwait rfl rfl rfl rfl hstage.action_eq (fun seen hseen => ?_)
    simp only [List.mem_cons] at hseen
    rcases hseen with rfl | rfl | hseen
    · exact .inr ⟨rfl, nofun⟩
    · exact .inr ⟨rfl, nofun⟩
    · exact .inl hseen
  | refuses hrun hwait haction hlist =>
    refine h.blogEnds (Flight.tickets_of_waiting hrun hwait) (fun later hlater => ?_) rfl rfl rfl
      (fun seen hseen => ?_)
    · rw [hwait]
      exact List.mem_cons_of_mem _ hlater
    · simp only [List.mem_cons] at hseen
      rcases hseen with rfl | hseen
      · exact .inr rfl
      · exact .inl hseen
  | ends hrun hcame hepoch =>
    refine h.blogEnds (Flight.tickets_of_running hrun) (fun _ hlater => hlater) rfl rfl rfl
      (fun seen hseen => ?_)
    simp only [List.mem_cons] at hseen
    rcases hseen with rfl | rfl | hseen
    · exact .inr rfl
    · exact .inr rfl
    · exact .inl hseen
  | drops hrun hcame hepoch =>
    refine h.blogEnds (Flight.tickets_of_running hrun) (fun _ hlater => hlater) rfl rfl rfl
      (fun seen hseen => ?_)
    simp only [List.mem_cons] at hseen
    rcases hseen with rfl | hseen
    · exact .inr rfl
    · exact .inl hseen

theorem userResume (h : Tickets actions store) {next : Store} (turn : UserResume store next) :
    Tickets actions next := by
  cases turn with
  | idle => exact h
  | begins hrun hwait turn =>
    refine h.userTurn (Flight.tickets_of_waiting hrun hwait) (fun later hlater => ?_) turn
    rw [hwait]
    exact List.mem_cons_of_mem _ hlater
  | continues hrun hcame turn =>
    exact h.userTurn (Flight.tickets_of_running hrun) (fun _ hlater => hlater) turn

theorem hostCommit (h : Tickets actions store) (state : State) (epoch : Nat) :
    Tickets actions
      { store with state, epoch, log := .commit none epoch state :: store.log } := by
  refine ⟨h.started, h.userOrder, h.blogOrder, h.userTicket, h.blogWaiting, h.blogRunning, ?_, ?_⟩
  · intro seen hseen ticket hticket
    rcases List.mem_cons.mp hseen with rfl | hseen
    · cases hticket
    · exact h.seen seen hseen ticket hticket
  · intro ticket result hfinish
    exact h.finished ticket result (by simpa using hfinish)

theorem receive (h : Tickets actions store) (number : Nat) (reception : Reception) :
    Tickets actions (store.step (.receive number reception)) := by
  refine ⟨h.started, ?_, ?_, ?_, ?_, ?_, ?_, ?_⟩
  · simpa [step, Flight.tickets_receive] using h.userOrder
  · simpa [step, Flight.tickets_receive] using h.blogOrder
  · simpa [step, Flight.tickets_receive] using h.userTicket
  · simpa [step, Flight.receive_eq] using h.blogWaiting
  · intro job hjob
    simp only [step, Flight.receive_eq, Option.map_eq_some_iff] at hjob
    obtain ⟨old, hold, rfl⟩ := hjob
    exact h.blogRunning old hold
  · simpa [step, Flight.receive_eq] using h.seen
  · simpa [step, Flight.tickets_receive] using h.finished

theorem pairwise_concat {tickets : List Nat} {count : Nat} (h : tickets.Pairwise (· < ·))
    (hlt : ∀ ticket ∈ tickets, ticket < count) : (tickets ++ [count]).Pairwise (· < ·) := by
  rw [List.pairwise_append]
  refine ⟨h, List.pairwise_singleton _ _, fun ticket hticket other hother => ?_⟩
  rw [List.mem_singleton.mp hother]
  exact hlt ticket hticket

theorem userTicket_lt (h : Tickets actions store) {ticket : Nat}
    (ht : ticket ∈ store.users.tickets) : ticket < store.started := by
  obtain ⟨action, haction⟩ := h.userTicket ticket ht
  exact h.started ▸ lt_length haction

theorem blogTicket_lt (h : Tickets actions store) {ticket : Nat}
    (ht : ticket ∈ store.blogs.tickets) : ticket < store.started := by
  obtain ⟨action, haction⟩ := h.blogTicket ht
  exact h.started ▸ lt_length haction

theorem seen_ne_started (h : Tickets actions store) {seen : Observation} (hseen : seen ∈ store.log)
    {ticket : Nat} (hticket : seen.ticket? = some ticket) : store.started ≠ ticket := by
  have := (h.seen seen hseen ticket hticket).1
  rw [h.started]
  omega

theorem start (h : Tickets actions store) (action : Action) :
    Tickets (actions ++ [action]) (store.start action) := by
  -- Every ticket so far is below the new one, which therefore stands on no slice and in no log.
  have hseen : ∀ seen ∈ store.log, ∀ ticket, seen.ticket? = some ticket →
      ticket < (actions ++ [action]).length := by
    intro seen hseen ticket hticket
    have := (h.seen seen hseen ticket hticket).1
    simp only [List.length_append]
    omega
  have hfinished : ∀ {ticket result}, .finish ticket result ∈ store.log → ticket ≠ store.started :=
    fun hfinish => (h.seen_ne_started hfinish rfl).symm
  cases action with
  | user action =>
    refine ⟨?_, ?_, h.blogOrder, ?_, ?_, ?_, ?_, ?_⟩
    · simp [Store.start, h.started]
    · simp only [Store.start, Flight.tickets_enqueue]
      exact pairwise_concat h.userOrder (fun ticket ht => h.userTicket_lt ht)
    · intro ticket ht
      simp only [Store.start, Flight.tickets_enqueue, List.mem_append, List.mem_singleton] at ht
      rcases ht with ht | rfl
      · obtain ⟨other, hother⟩ := h.userTicket ticket ht
        exact ⟨other, getElem?_append hother _⟩
      · exact ⟨action, by simp [h.started]⟩
    · intro later hlater
      exact getElem?_append (h.blogWaiting later hlater) _
    · intro job hjob
      exact getElem?_append (h.blogRunning job hjob) _
    · intro seen hin ticket hticket
      obtain ⟨-, hu, hb⟩ := h.seen seen hin ticket hticket
      refine ⟨hseen seen hin ticket hticket, fun later hlater => ?_, hb⟩
      rcases List.mem_append.mp hlater |>.imp id List.mem_singleton.mp with hlater | rfl
      · exact hu later hlater
      · exact h.seen_ne_started hin hticket
    · intro ticket result hfinish
      obtain ⟨hu, hb⟩ := h.finished ticket result hfinish
      refine ⟨?_, hb⟩
      simp only [Store.start, Flight.tickets_enqueue, List.mem_append, List.mem_singleton, not_or]
      exact ⟨hu, hfinished hfinish⟩
  | blogs action =>
    refine ⟨?_, h.userOrder, ?_, ?_, ?_, ?_, ?_, ?_⟩
    · simp [Store.start, h.started]
    · simp only [Store.start, Flight.tickets_enqueue]
      exact pairwise_concat h.blogOrder (fun ticket ht => h.blogTicket_lt ht)
    · intro ticket ht
      obtain ⟨other, hother⟩ := h.userTicket ticket ht
      exact ⟨other, getElem?_append hother _⟩
    · intro later hlater
      rcases List.mem_append.mp hlater |>.imp id List.mem_singleton.mp with hlater | rfl
      · exact getElem?_append (h.blogWaiting later hlater) _
      · simp [h.started]
    · intro job hjob
      exact getElem?_append (h.blogRunning job hjob) _
    · intro seen hin ticket hticket
      obtain ⟨-, hu, hb⟩ := h.seen seen hin ticket hticket
      refine ⟨hseen seen hin ticket hticket, hu, fun later hlater => ?_⟩
      rcases List.mem_append.mp hlater |>.imp id List.mem_singleton.mp with hlater | rfl
      · exact hb later hlater
      · exact h.seen_ne_started hin hticket
    · intro ticket result hfinish
      obtain ⟨hu, hb⟩ := h.finished ticket result hfinish
      refine ⟨hu, ?_⟩
      simp only [Store.start, Flight.tickets_enqueue, List.mem_append, List.mem_singleton, not_or]
      exact ⟨hb, hfinished hfinish⟩

theorem step (h : Tickets actions store) (event : Event) :
    Tickets (actions ++ event.action?.toList) (store.step event) := by
  cases event with
  | setUser user =>
    simp only [Store.step, commitUser_eq, Event.action?, Option.toList_none, List.append_nil]
    exact h.hostCommit ..
  | setBlogs blogs =>
    simp only [Store.step, Event.action?, Option.toList_none, List.append_nil]
    exact h.hostCommit ..
  | start action => exact h.start action
  | receive number reception =>
    simp only [Event.action?, Option.toList_none, List.append_nil]
    exact h.receive number reception
  | pass milliseconds =>
    simp only [Event.action?, Option.toList_none, List.append_nil]
    exact ⟨h.started, h.userOrder, h.blogOrder, h.userTicket, h.blogWaiting, h.blogRunning, h.seen,
      h.finished⟩
  | resume slice =>
    simp only [Event.action?, Option.toList_none, List.append_nil]
    cases slice with
    | user => exact h.userResume (resumeUser_turn store)
    | blogs => exact h.blogResume (resumeBlogs_turn store)

end Tickets

theorem actionsOf_cons (event : Event) (events : List Event) :
    actionsOf (event :: events) = event.action?.toList ++ actionsOf events := by
  cases h : event.action? <;> simp [actionsOf, h]

theorem Tickets.run {actions : List Action} {store : Store} (h : Tickets actions store)
    (events : List Event) : Tickets (actions ++ actionsOf events) (store.run events) := by
  induction events generalizing actions store with
  | nil => simpa [actionsOf] using h
  | cons event rest ih =>
    rw [actionsOf_cons, ← List.append_assoc]
    exact ih (h.step event)

theorem run_tickets (settings : Settings) (events : List Event) :
    Tickets (actionsOf events) ((ofSettings settings).run events) :=
  (Tickets.initial settings).run events

-- ---- Stores that a run leads to

def Reachable (store : Store) : Prop :=
  ∃ settings events, store = (ofSettings settings).run events

namespace Reachable

variable {store : Store}

theorem run_ofSettings (settings : Settings) (events : List Event) :
    ((ofSettings settings).run events).Reachable :=
  ⟨settings, events, rfl⟩

theorem step (h : Reachable store) (event : Event) : (store.step event).Reachable := by
  obtain ⟨settings, events, rfl⟩ := h
  exact ⟨settings, events ++ [event], (run_concat ..).symm⟩

theorem run (h : Reachable store) (events : List Event) : (store.run events).Reachable :=
  run_keeps (fun _ event h => h.step event) h events

theorem tickets (h : Reachable store) : ∃ actions, Tickets actions store := by
  obtain ⟨settings, events, rfl⟩ := h
  exact ⟨actionsOf events, run_tickets settings events⟩

theorem started_le (h : Reachable store) (event : Event) :
    store.started ≤ (store.step event).started := by
  obtain ⟨actions, htickets⟩ := h.tickets
  rw [htickets.started, (htickets.step event).started, List.length_append]
  exact Nat.le_add_right ..

end Reachable

end BlogDesk.Store
