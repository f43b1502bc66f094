import Mathlib.Data.List.Induction
import BlogDesk.Proofs.Store.Identity

/-!
# No edit is lost

Edits that run concurrently, however their answers come, do to the list what they do
one after another: when all have ended, it is the list from before with each edit that
the server took applied to it, in the order they were started. `Serving` relates the
store in the middle of such a run to that sequence.
-/

namespace BlogDesk.Store

-- ---- The edits of a run

def queuedBy (store : Store) : List Event → List (Waiting BlogAction)
  | [] => []
  | event :: rest => event.queued store.started ++ (store.step event).queuedBy rest

def Event.answer? (number : Nat) : Event → Option Reception
  | .receive answered reception => if number = answered then some reception else none
  | _ => none

/-- The first answer to the request of that number that comes after it was made. -/
def answer? (number : Nat) (store : Store) : List Event → Option Reception
  | [] => none
  | event :: rest =>
    (if number < store.requested then event.answer? number else none).or
      ((store.step event).answer? number rest)

/-- An edit that ended, with its request and what came back. -/
structure Trip where
  ticket : Nat
  edit : Edit
  number : Nat
  reception : Reception

namespace Trip

def queued (trip : Trip) : Waiting BlogAction := ⟨trip.ticket, .change trip.edit⟩

def outcome (trip : Trip) : Except CallFailure Unit :=
  trip.reception.bind (·.acknowledged trip.edit.operation.method.name)

def apply (list : List Blog) (trip : Trip) : List Blog :=
  match trip.outcome with
  | .ok () => sortBlogs (trip.edit.apply list)
  | .error _ => list

/-- The edit made one request, and whoever started it was told what was answered to that. -/
structure Served (start : Store) (events : List Event) (trip : Trip) : Prop where
  request : ∃ client state, .request trip.ticket trip.number
    (Client.request client trip.edit.operation) state ∈ (start.run events).log
  once : ∀ {number request state}, .request trip.ticket number request state ∈
    (start.run events).log → number = trip.number
  answer : start.answer? trip.number events = some trip.reception
  told : ∀ {result}, .finish trip.ticket result ∈ (start.run events).log ↔
    result = .edit (trip.outcome.mapError .call)

theorem apply_eq (list : List Blog) (trip : Trip) :
    trip.apply list =
      match trip.outcome, trip.edit with
      | .ok (), .create blog => sortBlogs (list ++ [blog])
      | .ok (), .edit blog => sortBlogs (list.filter (·.slug ≠ blog.slug) ++ [blog])
      | .ok (), .delete slug => sortBlogs (list.filter (·.slug ≠ slug))
      | .error _, _ => list := by
  simp only [apply, Edit.apply]
  cases trip.outcome <;> cases trip.edit <;> rfl

theorem shown_eq (trip : Trip) (epoch : Nat) (list : List Blog) :
    (BlogStage.editing trip.edit epoch list).shown trip.reception = .loaded (trip.apply list) := by
  simp only [BlogStage.shown, apply, outcome]
  split <;> simp [*]

theorem result_eq (trip : Trip) (epoch : Nat) (list : List Blog) :
    (BlogStage.editing trip.edit epoch list).result trip.reception =
      .edit (trip.outcome.mapError .call) := by
  simp only [BlogStage.result, outcome]
  split <;> simp [*, Except.mapError]

end Trip

-- ---- Runs that grow at their end

theorem queuedBy_concat (store : Store) (events : List Event) (event : Event) :
    store.queuedBy (events ++ [event]) =
      store.queuedBy events ++ event.queued (store.run events).started := by
  induction events generalizing store with
  | nil => simp [queuedBy]
  | cons first rest ih => simp [queuedBy, ih, run_cons]

theorem answer?_concat (number : Nat) (store : Store) (events : List Event) (event : Event) :
    store.answer? number (events ++ [event]) = (store.answer? number events).or
      (if number < (store.run events).requested then event.answer? number else none) := by
  induction events generalizing store with
  | nil =>
    rw [List.nil_append, answer?, answer?, answer?, Option.or_none, Option.none_or]
    rfl
  | cons first rest ih => rw [List.cons_append, answer?, answer?, ih, Option.or_assoc, run_cons]

theorem UserTurn.requested_le {store next : Store} {ticket : Nat}
    {came : Option (UserStage × Reception)} (turn : UserTurn store ticket came next) :
    store.requested ≤ next.requested := by
  cases turn with
  | request hrequest => exact Nat.le_succ _
  | finish hloading hloaded => exact Nat.le_refl _

theorem requested_le_step (store : Store) (event : Event) :
    store.requested ≤ (store.step event).requested := by
  cases event with
  | setUser user => simp [step, commitUser_eq]
  | start action => cases action <;> exact Nat.le_refl _
  | resume slice =>
    cases slice with
    | user =>
      change store.requested ≤ store.resumeUser.requested
      generalize store.resumeUser = next, resumeUser_turn store = turn
      cases turn with
      | idle => exact Nat.le_refl _
      | begins hrun hwait turn => exact turn.requested_le
      | continues hrun hcame turn => exact turn.requested_le
    | blogs =>
      change store.requested ≤ store.resumeBlogs.requested
      generalize store.resumeBlogs = next, resumeBlogs_turn store = turn
      cases turn with
      | begins hrun hwait hstage => exact Nat.le_succ _
      | _ => exact Nat.le_refl _
  | _ => exact Nat.le_refl _

theorem answer?_eq_none {store : Store} {number : Nat} {events : List Event}
    (h : (store.run events).requested ≤ number) : store.answer? number events = none := by
  induction events using List.reverseRecOn with
  | nil => rfl
  | append_singleton first event ih =>
    rw [run_concat] at h
    have hle := requested_le_step (store.run first) event
    rw [answer?_concat, ih (by omega), if_neg (by omega)]
    rfl

theorem InFlight.after_reception {σ : Type} (job : InFlight σ) (event : Event) :
    (job.after event).exchange.reception =
      job.exchange.reception.or (event.answer? job.exchange.number) := by
  cases event with
  | receive number reception =>
    simp only [InFlight.after, InFlight.answered, Exchange.answered, Event.answer?]
    cases hcame : job.exchange.reception <;> by_cases hnumber : job.exchange.number = number <;>
      simp [hcame, hnumber]
  | _ => simp [InFlight.after, Event.answer?]

-- ---- What is seen of one action

theorem seen_of_idle {store : Store} {ticket : Nat}
    (hidle : ticket ∉ store.users.tickets ∧ ticket ∉ store.blogs.tickets) (event : Event)
    {seen : Observation} (hticket : seen.ticket? = some ticket)
    (h : seen ∈ (store.step event).log) : seen ∈ store.log := by
  rcases step_seen store event h with hin | hnone | ⟨other, hother, ⟨-, hhead⟩ | ⟨-, hhead⟩⟩
  · exact hin
  · rw [hticket] at hnone
    cases hnone
  · rw [hticket] at hother
    cases hother
    exact absurd (List.mem_of_mem_head? hhead) hidle.1
  · rw [hticket] at hother
    cases hother
    exact absurd (List.mem_of_mem_head? hhead) hidle.2

theorem Tickets.seen_between {actions : List Action} {store : Store} (htickets : Tickets actions store)
    {ticket : Nat} (hmem : ticket ∈ store.blogs.tickets) {event : Event}
    (hblogs : event ≠ .resume .blogs) {seen : Observation} (hticket : seen.ticket? = some ticket)
    (h : seen ∈ (store.step event).log) : seen ∈ store.log := by
  rcases step_seen store event h with hin | hnone | ⟨other, hother, ⟨-, hhead⟩ | ⟨heq, -⟩⟩
  · exact hin
  · rw [hticket] at hnone
    cases hnone
  · rw [hticket] at hother
    cases hother
    exact (htickets.disjoint (List.mem_of_mem_head? hhead) hmem).elim
  · exact absurd heq hblogs

-- ---- The middle of a run

/-- The edit in flight works on the list as it was at its turn, and waits for the
answer to its one request. -/
structure InHand (start : Store) (events : List Event) (list : List Blog)
    (job : InFlight BlogStage) (edit : Edit) : Prop where
  stage : job.stage = .editing edit start.epoch list
  request : ∃ client state, .request job.ticket job.exchange.number
    (Client.request client edit.operation) state ∈ (start.run events).log
  once : ∀ {number request state}, .request job.ticket number request state ∈
    (start.run events).log → number = job.exchange.number
  made : job.exchange.number < (start.run events).requested
  answer : job.exchange.reception = start.answer? job.exchange.number events

/-- Those edits ended, in the order they were started, and the others wait in that order. -/
inductive Serving (start : Store) (list : List Blog) (events : List Event) (trips : List Trip) : Prop
  | idle (hserved : ∀ trip ∈ trips, trip.Served start events)
      (hstale : ∀ job, (start.run events).blogs.running = some job →
        job.stage.epoch ≠ start.epoch)
      (hlist : (start.run events).state.blogs = .loaded (trips.foldl Trip.apply list))
      (hqueue : trips.map Trip.queued ++ (start.run events).blogs.waiting =
        start.blogs.waiting ++ start.queuedBy events)
  | busy {job : InFlight BlogStage} {edit : Edit}
      (hserved : ∀ trip ∈ trips, trip.Served start events)
      (hrun : (start.run events).blogs.running = some job)
      (hjob : InHand start events (trips.foldl Trip.apply list) job edit)
      (hqueue : trips.map Trip.queued ++ ⟨job.ticket, .change edit⟩ ::
        (start.run events).blogs.waiting = start.blogs.waiting ++ start.queuedBy events)

section
variable {start : Store} {list : List Blog} {events : List Event} {actions : List Action}

theorem Trip.Served.concat {trip : Trip} (h : trip.Served start events)
    (htickets : Tickets actions (start.run events)) (event : Event) :
    trip.Served start (events ++ [event]) := by
  have hidle := htickets.finished _ _ (h.told.mpr rfl)
  have hlog := step_log (start.run events) event
  refine ⟨?_, ?_, ?_, ?_⟩
  · obtain ⟨client, state, hin⟩ := h.request
    exact ⟨client, state, run_concat start events event ▸ hlog.mem hin⟩
  · intro number request state hin
    rw [run_concat] at hin
    exact h.once (seen_of_idle hidle event rfl hin)
  · rw [answer?_concat, h.answer, Option.some_or]
  · intro result
    rw [run_concat]
    constructor
    · intro hin
      exact h.told.mp (seen_of_idle hidle event rfl hin)
    · intro hresult
      exact hlog.mem (h.told.mpr hresult)

theorem InHand.concat {job : InFlight BlogStage} {edit : Edit} (h : InHand start events list job edit)
    (htickets : Tickets actions (start.run events))
    (hrun : (start.run events).blogs.running = some job) {event : Event}
    (hblogs : event ≠ .resume .blogs) :
    InHand start (events ++ [event]) list (job.after event) edit := by
  have hmem : job.ticket ∈ (start.run events).blogs.tickets := by
    simp [Flight.tickets_of_running hrun]
  refine ⟨?_, ?_, ?_, ?_, ?_⟩
  · rw [InFlight.after_stage]
    exact h.stage
  · obtain ⟨client, state, hin⟩ := h.request
    refine ⟨client, state, ?_⟩
    rw [InFlight.after_ticket, InFlight.after_number, run_concat]
    exact (step_log _ event).mem hin
  · intro number request state hin
    rw [InFlight.after_ticket, run_concat] at hin
    rw [InFlight.after_number]
    exact h.once (htickets.seen_between hmem hblogs rfl hin)
  · rw [InFlight.after_number, run_concat]
    exact Nat.lt_of_lt_of_le h.made (requested_le_step _ event)
  · rw [InFlight.after_reception, InFlight.after_number, h.answer, answer?_concat, if_pos h.made]

theorem answer?_resume (number : Nat) :
    start.answer? number (events ++ [.resume .blogs]) = start.answer? number events := by
  rw [answer?_concat]
  simp [Event.answer?]

theorem InHand.begin {ticket : Nat} {edit : Edit} {client : Client} {before after : State} {due : Nat}
    (htickets : Tickets actions (start.run events))
    (hmem : ⟨ticket, .change edit⟩ ∈ (start.run events).blogs.waiting)
    (hlog : (start.run (events ++ [.resume .blogs])).log =
      .request ticket (start.run events).requested (client.request edit.operation) after ::
        .commit ticket start.epoch before :: (start.run events).log)
    (hmade : (start.run events).requested < (start.run (events ++ [.resume .blogs])).requested) :
    InHand start (events ++ [.resume .blogs]) list
      ⟨ticket, .editing edit start.epoch list, { number := (start.run events).requested, due }⟩ edit := by
  refine ⟨rfl, ⟨client, after, ?_⟩, ?_, hmade, ?_⟩
  · rw [hlog]
    exact List.mem_cons_self
  · intro number request state hin
    rw [hlog] at hin
    simp only [List.mem_cons, Observation.request.injEq, reduceCtorEq, false_or] at hin
    rcases hin with ⟨-, rfl, -⟩ | hin
    · rfl
    · -- Nothing was seen of an action that waits.
      exact absurd rfl ((htickets.seen _ hin ticket rfl).2.2 _ hmem)
  · rw [answer?_resume, answer?_eq_none (Nat.le_refl _)]

theorem InHand.serves {job : InFlight BlogStage} {edit : Edit} {reception : Reception} {state : State}
    (h : InHand start events list job edit) (htickets : Tickets actions (start.run events))
    (hrun : (start.run events).blogs.running = some job)
    (hcame : job.exchange.resolved? (start.run events).clock = some reception)
    (hlog : (start.run (events ++ [.resume .blogs])).log =
      .finish job.ticket (job.stage.result reception) ::
        .commit job.ticket start.epoch state :: (start.run events).log) :
    Trip.Served start (events ++ [.resume .blogs])
      ⟨job.ticket, edit, job.exchange.number, reception⟩ := by
  have hmem : job.ticket ∈ (start.run events).blogs.tickets := by
    simp [Flight.tickets_of_running hrun]
  refine ⟨?_, ?_, ?_, ?_⟩
  · obtain ⟨client, state, hin⟩ := h.request
    refine ⟨client, state, ?_⟩
    rw [hlog]
    exact List.mem_cons_of_mem _ (List.mem_cons_of_mem _ hin)
  · intro number request state hin
    rw [hlog] at hin
    simp only [List.mem_cons, reduceCtorEq, false_or] at hin
    exact h.once hin
  · rw [answer?_resume, ← h.answer]
    exact Exchange.reception_of_resolved hcame
  · intro result
    rw [hlog, h.stage, ← Trip.result_eq _ start.epoch list]
    simp only [List.mem_cons, Observation.finish.injEq, reduceCtorEq, false_or, true_and]
    constructor
    · rintro (rfl | hin)
      · rfl
      · exact absurd hmem (htickets.finished _ _ hin).2
    · exact .inl

namespace Serving

variable {trips : List Trip}

theorem between (h : Serving start list events trips) (htickets : Tickets actions (start.run events))
    {event : Event} (hblogs : event ≠ .resume .blogs) (hhost : ∀ blogs, event ≠ .setBlogs blogs)
    (hepoch : ((start.run events).step event).epoch = (start.run events).epoch) :
    Serving start list (events ++ [event]) trips := by
  have hflight := step_blogs (start.run events) hblogs
  rw [← run_concat] at hflight
  cases h with
  | idle hserved hstale hlist hqueue =>
    refine .idle (fun trip htrip => (hserved trip htrip).concat htickets event) ?_ ?_ ?_
    · intro job hjob
      rw [hflight] at hjob
      obtain ⟨old, hold, rfl⟩ := Option.map_eq_some_iff.mp hjob
      rw [InFlight.after_stage]
      exact hstale old hold
    · rw [run_concat, step_list _ hblogs hhost hepoch, hlist]
    · rw [hflight, queuedBy_concat, ← List.append_assoc, ← List.append_assoc, hqueue]
  | @busy job edit hserved hrun hjob hqueue =>
    have hrun' : (start.run (events ++ [event])).blogs.running = some (job.after event) := by
      rw [hflight, hrun]
      rfl
    refine .busy (fun trip htrip => (hserved trip htrip).concat htickets event) hrun'
      (hjob.concat htickets hrun hblogs) ?_
    rw [hflight, queuedBy_concat, InFlight.after_ticket, ← List.cons_append, ← List.append_assoc,
      ← List.append_assoc, hqueue]

theorem turnIdle (htickets : Tickets actions (start.run events))
    (hepoch : (start.run events).epoch = start.epoch)
    (hloads : ∀ queued ∈ start.blogs.waiting ++ start.queuedBy (events ++ [.resume .blogs]),
      queued.action ≠ .load)
    (hserved : ∀ trip ∈ trips, trip.Served start (events ++ [.resume .blogs]))
    (hstale : ∀ job, (start.run events).blogs.running = some job → job.stage.epoch ≠ start.epoch)
    (hlist : (start.run events).state.blogs = .loaded (trips.foldl Trip.apply list))
    (hqueue : trips.map Trip.queued ++ (start.run events).blogs.waiting =
      start.blogs.waiting ++ start.queuedBy (events ++ [.resume .blogs])) :
    Serving start list (events ++ [.resume .blogs]) trips := by
  have hturn := resumeBlogs_turn (start.run events)
  have hnext : start.run (events ++ [.resume .blogs]) = (start.run events).resumeBlogs :=
    run_concat ..
  generalize (start.run events).resumeBlogs = next at hturn hnext
  cases hturn with
  | idle => exact .idle hserved (hnext ▸ hstale) (hnext ▸ hlist) (hnext ▸ hqueue)
  | @begins first later stage operation hrun hwait hstage =>
    obtain ⟨ticket, action⟩ := first
    have hmem : ⟨ticket, action⟩ ∈ (start.run events).blogs.waiting := by simp [hwait]
    cases hstage with
    | load => exact absurd rfl (hloads _ (hqueue ▸ List.mem_append_right _ hmem))
    | @change edit base hbase =>
      rw [hlist] at hbase
      cases hbase
      have hrun' := congrArg (·.blogs.running) hnext
      have hlog := congrArg (·.log) hnext
      simp only [hepoch] at hrun' hlog
      refine .busy hserved hrun' (.begin htickets hmem hlog ?_) ?_
      · rw [hnext]
        exact Nat.lt_succ_self _
      · rw [hnext, ← hqueue, hwait]
  | refuses hrun hwait haction hnone => exact absurd hlist (hnone _)
  | @ends job reception hrun hcame hsame =>
    exact absurd (hsame.symm.trans hepoch) (hstale job hrun)
  | drops hrun hcame hother =>
    refine .idle hserved ?_ (hnext ▸ hlist) (hnext ▸ hqueue)
    rw [hnext]
    nofun

theorem turnBusy (htickets : Tickets actions (start.run events))
    (hepoch : (start.run events).epoch = start.epoch) {job : InFlight BlogStage} {edit : Edit}
    (hserved : ∀ trip ∈ trips, trip.Served start (events ++ [.resume .blogs]))
    (hrun : (start.run events).blogs.running = some job)
    (hjob : InHand start events (trips.foldl Trip.apply list) job edit)
    (hqueue : trips.map Trip.queued ++ ⟨job.ticket, .change edit⟩ ::
      (start.run events).blogs.waiting =
        start.blogs.waiting ++ start.queuedBy (events ++ [.resume .blogs])) :
    ∃ served, Serving start list (events ++ [.resume .blogs]) served := by
  have hturn := resumeBlogs_turn (start.run events)
  have hnext : start.run (events ++ [.resume .blogs]) = (start.run events).resumeBlogs :=
    run_concat ..
  generalize (start.run events).resumeBlogs = next at hturn hnext
  cases hturn with
  | idle =>
    refine ⟨trips, .busy hserved (hnext ▸ hrun) ⟨hjob.stage, ?_, ?_, ?_, ?_⟩ (hnext ▸ hqueue)⟩
    · rw [hnext]
      exact hjob.request
    · rw [hnext]
      exact hjob.once
    · rw [hnext]
      exact hjob.made
    · rw [answer?_resume]
      exact hjob.answer
  | begins hnone hwait hstage => simp [hrun] at hnone
  | refuses hnone hwait haction hlist => simp [hrun] at hnone
  | @ends other reception hother hcame hsame =>
    rw [hrun] at hother
    cases hother
    have hlog := congrArg (·.log) hnext
    simp only [hepoch] at hlog
    refine ⟨trips ++ [⟨job.ticket, edit, job.exchange.number, reception⟩], .idle ?_ ?_ ?_ ?_⟩
    · intro trip htrip
      rcases List.mem_append.mp htrip with htrip | htrip
      · exact hserved trip htrip
      · rw [List.mem_singleton.mp htrip]
        exact hjob.serves htickets hrun hcame hlog
    · rw [hnext]
      nofun
    · rw [hnext, List.foldl_append, hjob.stage]
      exact Trip.shown_eq ⟨job.ticket, edit, job.exchange.number, reception⟩ start.epoch _
    · rw [hnext, ← hqueue]
      simp [Trip.queued]
  | @drops other reception hother hcame hdiffer =>
    rw [hrun] at hother
    cases hother
    rw [hjob.stage, hepoch] at hdiffer
    -- The epoch has lasted, so no commit is dropped.
    exact absurd rfl hdiffer

/-- A turn of the blogs slice, with edits only in the queue. -/
theorem turn (h : Serving start list events trips) (htickets : Tickets actions (start.run events))
    (hepoch : (start.run events).epoch = start.epoch)
    (hloads : ∀ queued ∈ start.blogs.waiting ++ start.queuedBy events, queued.action ≠ .load) :
    ∃ served, Serving start list (events ++ [.resume .blogs]) served := by
  have hqueued : start.queuedBy (events ++ [.resume .blogs]) = start.queuedBy events := by
    rw [queuedBy_concat]
    exact List.append_nil _
  cases h with
  | idle hserved hstale hlist hqueue =>
    have hserved := fun trip htrip => (hserved trip htrip).concat htickets (.resume .blogs)
    rw [← hqueued] at hqueue hloads
    exact ⟨trips, turnIdle htickets hepoch hloads hserved hstale hlist hqueue⟩
  | busy hserved hrun hjob hqueue =>
    have hserved := fun trip htrip => (hserved trip htrip).concat htickets (.resume .blogs)
    rw [← hqueued] at hqueue
    exact turnBusy htickets hepoch hserved hrun hjob hqueue

end Serving

end

-- ---- The result

def Observation.ends (ticket : Nat) : Observation → Bool
  | .finish ended _ => ended == ticket
  | _ => false

/-- However a run interleaves edits, the store in the middle of it serves them in order. -/
theorem run_serving {start : Store} (hreach : Reachable start) {list : List Blog}
    (hlist : start.state.blogs = .loaded list)
    (hstale : ∀ job, start.blogs.running = some job → job.stage.epoch ≠ start.epoch)
    {events : List Event}
    (hloads : ∀ queued ∈ start.blogs.waiting ++ start.queuedBy events, queued.action ≠ .load)
    (hhost : ∀ blogs, .setBlogs blogs ∉ events)
    (hepoch : (start.run events).epoch = start.epoch) :
    ∃ trips, Serving start list events trips := by
  induction events using List.reverseRecOn with
  | nil => exact ⟨[], .idle nofun hstale hlist (List.append_nil _).symm⟩
  | append_singleton first event ih =>
    rw [run_concat] at hepoch
    have hlast := epoch_le_step (start.run first) event
    have hfirst : (start.run first).epoch = start.epoch := by
      have := epoch_le_run start first
      omega
    have hsooner : ∀ queued ∈ start.blogs.waiting ++ start.queuedBy first, queued.action ≠ .load := by
      intro queued hqueued
      refine hloads queued ?_
      rw [queuedBy_concat, ← List.append_assoc]
      exact List.mem_append_left _ hqueued
    obtain ⟨trips, h⟩ := ih hsooner (fun blogs hin => hhost blogs (by simp [hin])) hfirst
    obtain ⟨actions, htickets⟩ := (hreach.run first).tickets
    -- Only a turn of the blogs slice ends an edit or sends the next one.
    by_cases hblogs : event = .resume .blogs
    · subst hblogs
      exact h.turn htickets hfirst hsooner
    · refine ⟨trips, h.between htickets hblogs (fun blogs heq => ?_) (hepoch.trans hfirst.symm)⟩
      exact hhost blogs (by simp [heq])

/-- Once all edits ended, the list is the one from before with every edit made whose call
succeeded, in the order they were started, and put in order after each: a creation appends
its blog, an edit takes the blogs of its slug out and appends its own, a deletion takes them
out. -/
theorem edits_apply_in_order {start : Store} (hreach : Reachable start) {list : List Blog}
    (hlist : start.state.blogs = .loaded list)
    (hstale : ∀ job, start.blogs.running = some job → job.stage.epoch ≠ start.epoch)
    {events : List Event}
    (hloads : ∀ queued ∈ start.blogs.waiting ++ start.queuedBy events, queued.action ≠ .load)
    (hhost : ∀ blogs, .setBlogs blogs ∉ events)
    (hepoch : (start.run events).epoch = start.epoch)
    (hended : ∀ queued ∈ start.blogs.waiting ++ start.queuedBy events,
      ∃ seen ∈ (start.run events).log, seen.ends queued.ticket) :
    ∃ trips : List Trip,
      trips.map Trip.queued = start.blogs.waiting ++ start.queuedBy events ∧
      (∀ trip ∈ trips, trip.Served start events) ∧
      (start.run events).state.blogs = .loaded (trips.foldl (fun list trip =>
        match trip.outcome, trip.edit with
        | .ok (), .create blog => sortBlogs (list ++ [blog])
        | .ok (), .edit blog => sortBlogs (list.filter (·.slug ≠ blog.slug) ++ [blog])
        | .ok (), .delete slug => sortBlogs (list.filter (·.slug ≠ slug))
        | .error _, _ => list) list) := by
  simp only [← Trip.apply_eq]
  obtain ⟨actions, htickets⟩ := (hreach.run events).tickets
  -- Whatever ended is in flight no more.
  have hgone : ∀ queued ∈ start.blogs.waiting ++ start.queuedBy events,
      queued.ticket ∉ (start.run events).blogs.tickets := by
    intro queued hqueued
    obtain ⟨seen, hin, hends⟩ := hended queued hqueued
    cases seen with
    | finish ticket result =>
      rw [← beq_iff_eq.mp hends]
      exact (htickets.finished _ _ hin).2
    | _ => cases hends
  obtain ⟨trips, h⟩ := run_serving hreach hlist hstale hloads hhost hepoch
  cases h with
  | idle hserved hstale hlist hqueue =>
    refine ⟨trips, ?_, hserved, hlist⟩
    have hnone : (start.run events).blogs.waiting = [] := by
      refine List.eq_nil_iff_forall_not_mem.mpr (fun later hlater => ?_)
      exact hgone later (hqueue ▸ List.mem_append_right _ hlater) (Flight.mem_tickets hlater)
    rw [← hqueue, hnone, List.append_nil]
  | @busy job edit hserved hrun hjob hqueue =>
    have hmem : job.ticket ∈ (start.run events).blogs.tickets := by
      simp [Flight.tickets_of_running hrun]
    exact absurd hmem (hgone ⟨job.ticket, .change edit⟩ (by simp [← hqueue]))

/-- Two blogs are added at once, of which the service takes the second one only, and a third
one that was there is deleted behind them. -/
def threeEdits : List Event :=
  let taken : Reception :=
    .ok { status := 200, body := "\x7b\"id\":\"2\",\"result\":null,\"error\":null\x7d" }
  [.start (.blogs (.change (.create { slug := "b" }))), .resume .blogs,
    .start (.blogs (.change (.create { slug := "a" }))), .start (.blogs (.change (.delete "x"))),
    .receive 0 (.ok { status := 500 }), .resume .blogs, .resume .blogs,
    .receive 1 taken, .resume .blogs, .resume .blogs, .receive 2 taken, .resume .blogs]

theorem edits_apply_in_order_threeEdits :
    let start := (ofSettings {}).run [.setBlogs (.loaded [{ slug := "y" }, { slug := "x" }])]
    (∃ trips : List Trip,
      trips.map Trip.queued = start.blogs.waiting ++ start.queuedBy threeEdits ∧
      (∀ trip ∈ trips, trip.Served start threeEdits) ∧
      (start.run threeEdits).state.blogs = .loaded (trips.foldl (fun list trip =>
        match trip.outcome, trip.edit with
        | .ok (), .create blog => sortBlogs (list ++ [blog])
        | .ok (), .edit blog => sortBlogs (list.filter (·.slug ≠ blog.slug) ++ [blog])
        | .ok (), .delete slug => sortBlogs (list.filter (·.slug ≠ slug))
        | .error _, _ => list) [{ slug := "y" }, { slug := "x" }])) ∧
    (start.run threeEdits).state.blogs = .loaded (sortBlogs
      ((sortBlogs ([{ slug := "y" }, { slug := "x" }] ++ [{ slug := "a" }])).filter
        (·.slug ≠ "x"))) :=
  ⟨edits_apply_in_order
    (.run_ofSettings {} [.setBlogs (.loaded [{ slug := "y" }, { slug := "x" }])]) rfl nofun
    (by decide +kernel) (by simp [threeEdits]) rfl (by decide +kernel), rfl⟩

end BlogDesk.Store
