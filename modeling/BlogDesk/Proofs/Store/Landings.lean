import BlogDesk.Proofs.Store.Slices

/-!
# From the turn of an edit to its end

An edit whose turn comes without a list is refused. Any other makes one request, and
whatever happens while it waits, it ends with the answer to that: its commit is made if
its epoch lasts and dropped if not, and its result is the call's own. `run_lands` says
so of any action on the blogs that is in flight, and `edit_to_its_end` of the edits.
-/

namespace BlogDesk.Store

-- ---- What is seen of one action

def seenOf (ticket : Nat) (store : Store) : List Observation :=
  store.log.reverse.filter (·.ticket? = some ticket)

theorem mem_seenOf {ticket : Nat} {store : Store} {seen : Observation} :
    seen ∈ seenOf ticket store ↔ seen ∈ store.log ∧ seen.ticket? = some ticket := by
  simp [seenOf]

theorem seenOf_of_log {store next : Store} {fresh : List Observation}
    (hlog : next.log = fresh ++ store.log) (ticket : Nat) :
    seenOf ticket next =
      seenOf ticket store ++ fresh.reverse.filter (·.ticket? = some ticket) := by
  simp [seenOf, hlog]

theorem seenOf_of_own {store next : Store} {fresh : List Observation}
    (hlog : next.log = fresh.reverse ++ store.log) {ticket : Nat}
    (hown : ∀ seen ∈ fresh, seen.ticket? = some ticket) :
    seenOf ticket next = seenOf ticket store ++ fresh := by
  rw [seenOf_of_log hlog, List.reverse_reverse, List.filter_eq_self.mpr (by simpa using hown)]

theorem seenOf_step (store : Store) (event : Event) {ticket : Nat}
    (h : ∀ slice, event = .resume slice → (store.lane slice).tickets.head? ≠ some ticket) :
    seenOf ticket (store.step event) = seenOf ticket store := by
  cases event with
  | setUser user =>
    rw [step, commitUser_eq]
    simp [seenOf, Observation.ticket?]
  | setBlogs blogs => simp [seenOf, step, commitBlogs, observe, Observation.ticket?]
  | start action => cases action <;> rfl
  | receive number reception => rfl
  | pass milliseconds => rfl
  | resume slice =>
    obtain ⟨fresh, hlog, -, hfresh⟩ := (step_move store slice).fresh
    have hnone : ∀ seen ∈ fresh.reverse, ¬ (decide (seen.ticket? = some ticket)) = true := by
      intro seen hseen hticket
      refine h slice rfl ?_
      rw [← hfresh seen (List.mem_reverse.mp hseen)]
      exact of_decide_eq_true hticket
    rw [seenOf_of_log hlog, List.filter_eq_nil_iff.mpr hnone, List.append_nil]

theorem resume_of_seenOf_ne {store : Store} {event : Event} {ticket : Nat}
    (h : seenOf ticket (store.step event) ≠ seenOf ticket store) :
    ∃ slice, event = .resume slice ∧ (store.lane slice).tickets.head? = some ticket := by
  by_contra hnone
  exact h (seenOf_step store event fun slice hevent hhead => hnone ⟨slice, hevent, hhead⟩)

namespace Tickets

variable {actions : List Action} {store : Store}

theorem seenOf_waiting (h : Tickets actions store) {slice : Slice} {queued : Waiting Action}
    (hqueued : queued ∈ (store.lane slice).waiting) : seenOf queued.ticket store = [] := by
  refine List.eq_nil_iff_forall_not_mem.mpr fun seen hseen => ?_
  obtain ⟨hin, hticket⟩ := mem_seenOf.mp hseen
  obtain ⟨-, husers, hblogs⟩ := h.seen seen hin _ hticket
  cases slice with
  | user =>
    obtain ⟨later, hlater, rfl⟩ := List.mem_map.mp hqueued
    exact husers later hlater rfl
  | blogs =>
    obtain ⟨later, hlater, rfl⟩ := List.mem_map.mp hqueued
    exact hblogs later hlater rfl

theorem slice_of_mem (h : Tickets actions store) {ticket : Nat} {action : Action}
    (haction : actions[ticket]? = some action) {slice : Slice}
    (hmem : ticket ∈ (store.lane slice).tickets) : slice = action.slice := by
  cases slice with
  | user =>
    rw [Store.lane, Flight.tickets_map] at hmem
    obtain ⟨other, hother⟩ := h.userTicket ticket hmem
    cases haction.symm.trans hother
    rfl
  | blogs =>
    rw [Store.lane, Flight.tickets_map] at hmem
    obtain ⟨other, hother⟩ := h.blogTicket hmem
    cases haction.symm.trans hother
    rfl

theorem seenOf_between (h : Tickets actions store) {ticket : Nat} {action : Action}
    (haction : actions[ticket]? = some action) {event : Event}
    (hevent : event ≠ .resume action.slice) :
    seenOf ticket (store.step event) = seenOf ticket store := by
  refine seenOf_step store event fun slice hresume hhead => hevent ?_
  rw [hresume, h.slice_of_mem haction (List.mem_of_mem_head? hhead)]

theorem seenOf_ended (h : Tickets actions store) {ticket : Nat} {result : Result}
    (hended : .finish ticket result ∈ store.log) (event : Event) :
    seenOf ticket (store.step event) = seenOf ticket store := by
  obtain ⟨husers, hblogs⟩ := h.finished ticket result hended
  refine seenOf_step store event fun slice hevent hhead => ?_
  have hmem := List.mem_of_mem_head? hhead
  cases slice with
  | user => exact husers (by simpa [Store.lane] using hmem)
  | blogs => exact hblogs (by simpa [Store.lane] using hmem)

end Tickets

theorem Reachable.seenOf_first {store : Store} (h : Reachable store) {ticket : Nat}
    {action : BlogAction} {later : List (Waiting BlogAction)}
    (hwait : store.blogs.waiting = ⟨ticket, action⟩ :: later) : seenOf ticket store = [] := by
  obtain ⟨actions, htickets⟩ := h.tickets
  have hqueued : ⟨ticket, .blogs action⟩ ∈ (store.lane .blogs).waiting := by
    simp [Store.lane, Flight.map, hwait]
  exact htickets.seenOf_waiting hqueued

theorem Reachable.seenOf_ended {store : Store} (h : Reachable store) {ticket : Nat} {result : Result}
    (hended : .finish ticket result ∈ store.log) (events : List Event) :
    seenOf ticket (store.run events) = seenOf ticket store := by
  induction events using List.reverseRecOn with
  | nil => rfl
  | append_singleton first event ih =>
    obtain ⟨actions, htickets⟩ := (h.run first).tickets
    rw [run_concat, htickets.seenOf_ended ((run_log store first).mem hended), ih]

-- ---- How an action on the blogs begins

/-- What is seen of an action on the blogs that goes on to that stage: its slice is loading,
and it makes its request. -/
def departure (store : Store) (ticket : Nat) (stage : BlogStage) : List Observation :=
  let state := { store.state with blogs := .loading }
  [.commit ticket store.epoch state,
    .request ticket store.requested (store.client.request stage.operation) state]

def departed (store : Store) (ticket : Nat) (stage : BlogStage) : Store :=
  { store with
    client := store.client.afterCall
    state := { store.state with blogs := .loading }
    requested := store.requested + 1
    blogs := ⟨some ⟨ticket, stage,
      { number := store.requested, due := store.clock + store.delay }⟩, store.blogs.waiting.tail⟩
    log := (store.departure ticket stage).reverse ++ store.log }

theorem resumeBlogs_departs {store : Store} {ticket : Nat} {action : BlogAction}
    {later : List (Waiting BlogAction)} {stage : BlogStage} {operation : Operation}
    (hrun : store.blogs.running = none) (hwait : store.blogs.waiting = ⟨ticket, action⟩ :: later)
    (hstage : BlogStage.Begins store action stage operation) :
    store.resumeBlogs = store.departed ticket stage := by
  cases hstage with
  | load =>
    simp only [resumeBlogs, hrun, hwait, beginBlogs, departed, List.tail_cons]
    rfl
  | change hlist =>
    simp only [resumeBlogs, hrun, hwait, beginBlogs, hlist, departed, List.tail_cons]
    rfl

-- ---- How it ends

/-- What is seen of an action on the blogs that ends so: a commit if its epoch lasts, and
the result. -/
def landing (store : Store) (ticket epoch : Nat) (blogs : Loadable (List Blog)) (result : Result) :
    List Observation :=
  (if store.epoch = epoch then [.commit ticket epoch { store.state with blogs }] else []) ++
    [.finish ticket result]

def landed (store : Store) (ticket epoch : Nat) (blogs : Loadable (List Blog)) (result : Result) :
    Store :=
  { store with
    state := if store.epoch = epoch then { store.state with blogs } else store.state
    blogs := ⟨none, store.blogs.waiting⟩
    log := (store.landing ticket epoch blogs result).reverse ++ store.log }

@[simp] theorem landed_epoch (store : Store) (ticket epoch : Nat) (blogs : Loadable (List Blog))
    (result : Result) : (store.landed ticket epoch blogs result).epoch = store.epoch := rfl

theorem landed_blogs_of_epoch_eq {store : Store} {ticket epoch : Nat} {blogs : Loadable (List Blog)}
    {result : Result} (h : store.epoch = epoch) :
    (store.landed ticket epoch blogs result).state.blogs = blogs := by
  simp only [landed, if_pos h]

theorem finish_mem_landing {store : Store} {ticket epoch : Nat} {blogs : Loadable (List Blog)}
    {result told : Result} :
    .finish ticket told ∈ store.landing ticket epoch blogs result ↔ told = result := by
  unfold landing
  split <;> simp

theorem resumeBlogs_of_resolved {store : Store} {job : InFlight BlogStage} {reception : Reception}
    (hrun : store.blogs.running = some job)
    (hcame : job.exchange.resolved? store.clock = some reception) :
    store.resumeBlogs = store.landed job.ticket job.stage.epoch (job.stage.shown reception)
      (job.stage.result reception) := by
  simp only [resumeBlogs, hrun, hcame, continueBlogs_eq, commitBlogsIn, landed, landing]
  by_cases hepoch : store.epoch = job.stage.epoch
  · simp only [hepoch, if_true]
    rw [← hepoch]
    rfl
  · simp only [hepoch, if_false]
    rfl

theorem resumeBlogs_of_unresolved {store : Store} {job : InFlight BlogStage}
    (hrun : store.blogs.running = some job) (hnone : job.exchange.resolved? store.clock = none) :
    store.resumeBlogs = store := by
  simp only [resumeBlogs, hrun, hnone]

theorem requested_le_run (store : Store) (events : List Event) :
    store.requested ≤ (store.run events).requested :=
  run_keeps (P := fun later => store.requested ≤ later.requested)
    (fun later event h => Nat.le_trans h (requested_le_step later event)) (Nat.le_refl _) events

theorem InFlight.after_eq {σ : Type} (job : InFlight σ) (event : Event) :
    job.after event = { job with exchange := { job.exchange with
      reception := job.exchange.reception.or (event.answer? job.exchange.number) } } := by
  rw [← job.after_reception event]
  cases event with
  | receive number reception =>
    simp only [InFlight.after, InFlight.answered, Exchange.answered]
    split <;> rfl
  | _ => rfl

def awaiting (begun : Store) (events : List Event) (job : InFlight BlogStage) : InFlight BlogStage :=
  { job with exchange := { job.exchange with
    reception := begun.answer? job.exchange.number events } }

structure Airborne (begun : Store) (events : List Event) (job : InFlight BlogStage) : Prop where
  running : (begun.run events).blogs.running = some (begun.awaiting events job)
  seen : seenOf job.ticket (begun.run events) = seenOf job.ticket begun

/-- The action ended after `middle` with that answer, and no more was seen of it. -/
structure Landed (begun : Store) (events : List Event) (job : InFlight BlogStage)
    (middle : List Event) (reception : Reception) : Prop where
  split : ∃ rest, events = middle ++ .resume .blogs :: rest
  airborne : Airborne begun middle job
  answer : begun.answer? job.exchange.number middle = some reception
  lands : begun.run (middle ++ [.resume .blogs]) = (begun.run middle).landed job.ticket
    job.stage.epoch (job.stage.shown reception) (job.stage.result reception)
  seen : seenOf job.ticket (begun.run events) = seenOf job.ticket begun ++
    (begun.run middle).landing job.ticket job.stage.epoch (job.stage.shown reception)
      (job.stage.result reception)

section
variable {begun : Store} {events : List Event} {job : InFlight BlogStage} {actions : List Action}

theorem landing_ticket {store : Store} {ticket epoch : Nat} {blogs : Loadable (List Blog)}
    {result : Result} {seen : Observation}
    (h : seen ∈ store.landing ticket epoch blogs result) : seen.ticket? = some ticket := by
  unfold landing at h
  split at h <;> simp only [List.mem_append, List.mem_singleton, List.not_mem_nil, false_or] at h
  · rcases h with rfl | rfl <;> rfl
  · rw [h]
    rfl

theorem Airborne.between (h : Airborne begun events job)
    (htickets : Tickets actions (begun.run events)) (hmade : job.exchange.number < begun.requested)
    {event : Event} (hblogs : event ≠ .resume .blogs) :
    Airborne begun (events ++ [event]) job := by
  have haction : actions[job.ticket]? = some (.blogs job.stage.action) :=
    htickets.blogRunning (begun.awaiting events job) h.running
  refine ⟨?_, ?_⟩
  · have hstill := Nat.lt_of_lt_of_le hmade (requested_le_run begun events)
    rw [run_concat, step_blogs _ hblogs, h.running, Option.map_some, InFlight.after_eq]
    simp only [awaiting, answer?_concat, if_pos hstill]
  · rw [run_concat, htickets.seenOf_between haction hblogs, h.seen]

theorem Airborne.lands (h : Airborne begun events job) {reception : Reception}
    (hanswer : begun.answer? job.exchange.number events = some reception)
    (hdue : job.exchange.due ≤ (begun.run events).clock) :
    begun.run (events ++ [.resume .blogs]) = (begun.run events).landed job.ticket
      job.stage.epoch (job.stage.shown reception) (job.stage.result reception) := by
  have hcame : (begun.awaiting events job).exchange.resolved? (begun.run events).clock =
      some reception := by
    rw [Exchange.resolved?, awaiting, if_pos hdue, hanswer]
  rw [run_concat]
  exact (resumeBlogs_of_resolved h.running hcame :)

theorem Airborne.turn (h : Airborne begun events job) :
    Airborne begun (events ++ [.resume .blogs]) job ∨
      ∃ reception, Landed begun (events ++ [.resume .blogs]) job events reception := by
  cases hcame : (begun.awaiting events job).exchange.resolved? (begun.run events).clock with
  | none =>
    have hsame : begun.run (events ++ [.resume .blogs]) = begun.run events := by
      rw [run_concat]
      exact resumeBlogs_of_unresolved h.running hcame
    refine .inl ⟨?_, by rw [hsame, h.seen]⟩
    rw [hsame, h.running, awaiting, awaiting, answer?_resume]
  | some reception =>
    have hanswer := Exchange.reception_of_resolved hcame
    have hdue := Exchange.due_of_resolved hcame
    have hlands := h.lands hanswer hdue
    refine .inr ⟨reception, ⟨[], rfl⟩, h, hanswer, hlands, ?_⟩
    rw [hlands, seenOf_of_own rfl fun _ => landing_ticket, h.seen]

theorem Landed.concat {middle : List Event} {reception : Reception}
    (h : Landed begun events job middle reception) (htickets : Tickets actions (begun.run events))
    (event : Event) : Landed begun (events ++ [event]) job middle reception := by
  obtain ⟨rest, rfl⟩ := h.split
  refine ⟨⟨rest ++ [event], by simp⟩, h.airborne, h.answer, h.lands, ?_⟩
  have hended : .finish job.ticket (job.stage.result reception) ∈ seenOf job.ticket
      (begun.run (middle ++ .resume .blogs :: rest)) := by
    rw [h.seen]
    simp [landing]
  rw [run_concat, htickets.seenOf_ended (mem_seenOf.mp hended).1, h.seen]

theorem run_lands (hreach : Reachable begun) (hrun : begun.blogs.running = some job)
    (hnone : job.exchange.reception = none) (hmade : job.exchange.number < begun.requested)
    (events : List Event) :
    Airborne begun events job ∨ ∃ middle reception, Landed begun events job middle reception := by
  induction events using List.reverseRecOn with
  | nil =>
    refine .inl ⟨?_, rfl⟩
    rw [run_nil, hrun, awaiting, answer?, ← hnone]
  | append_singleton first event ih =>
    obtain ⟨actions, htickets⟩ := (hreach.run first).tickets
    -- Only a turn of the slice can land the action, and nothing more is seen once it has landed.
    rcases ih with hair | ⟨middle, reception, hlanded⟩
    · by_cases hevent : event = .resume .blogs
      · subst hevent
        rcases hair.turn with hair | ⟨reception, hlanded⟩
        · exact .inl hair
        · exact .inr ⟨first, reception, hlanded⟩
      · exact .inl (hair.between htickets hmade hevent)
    · exact .inr ⟨middle, reception, hlanded.concat htickets event⟩

end

/-- An action on the blogs from its turn on: it is seen to depart, and then flies and lands. -/
theorem departed_flies {store : Store} (hreach : Reachable store) {ticket : Nat} {action : BlogAction}
    {later : List (Waiting BlogAction)} {stage : BlogStage} {operation : Operation}
    (hrun : store.blogs.running = none) (hwait : store.blogs.waiting = ⟨ticket, action⟩ :: later)
    (hstage : BlogStage.Begins store action stage operation) (events : List Event) :
    let begun := store.departed ticket stage
    let job : InFlight BlogStage :=
      ⟨ticket, stage, { number := store.requested, due := store.clock + store.delay }⟩
    seenOf ticket begun = store.departure ticket stage ∧
      (Airborne begun events job ∨ ∃ middle reception, Landed begun events job middle reception) := by
  intro begun job
  have hbegun : begun = store.step (.resume .blogs) := (resumeBlogs_departs hrun hwait hstage).symm
  have hlog : begun.log = (store.departure ticket stage).reverse ++ store.log := rfl
  refine ⟨?_, run_lands (hbegun ▸ hreach.step _) rfl rfl (Nat.lt_succ_self _) events⟩
  rw [seenOf_of_own hlog (by simp [departure, Observation.ticket?]), hreach.seenOf_first hwait,
    List.nil_append]

-- ---- The result

namespace Trip

/-- What the end of an edit leaves of the list it was sent over, which is `made` once the edit
is made. -/
def leaves (trip : Trip) (list made : List Blog) : List Blog :=
  match trip.outcome with
  | .ok () => made
  | .error _ => list

def landing (trip : Trip) (epoch : Nat) (list made : List Blog) (store : Store) : List Observation :=
  store.landing trip.ticket epoch (.loaded (trip.leaves list made))
    (.edit (trip.outcome.mapError .call))

def landed (trip : Trip) (epoch : Nat) (list made : List Blog) (store : Store) : Store :=
  store.landed trip.ticket epoch (.loaded (trip.leaves list made))
    (.edit (trip.outcome.mapError .call))

theorem landing_eq (trip : Trip) (epoch : Nat) (list : List Blog) (store : Store) :
    store.landing trip.ticket epoch ((BlogStage.editing trip.edit epoch list).shown trip.reception)
      ((BlogStage.editing trip.edit epoch list).result trip.reception) =
      trip.landing epoch list (sortBlogs (trip.edit.apply list)) store := by
  rw [trip.shown_eq, trip.result_eq, landing]
  rfl

theorem landed_eq (trip : Trip) (epoch : Nat) (list : List Blog) (store : Store) :
    store.landed trip.ticket epoch ((BlogStage.editing trip.edit epoch list).shown trip.reception)
      ((BlogStage.editing trip.edit epoch list).result trip.reception) =
      trip.landed epoch list (sortBlogs (trip.edit.apply list)) store := by
  rw [trip.shown_eq, trip.result_eq, landed]
  rfl

end Trip

/-- An edit is refused at its turn in `store`: it is told so, and nothing else happens
then or later. -/
structure Refused (store : Store) (ticket : Nat) : Prop where
  turn : store.step (.resume .blogs) = { store with
    blogs := ⟨none, store.blogs.waiting.tail⟩
    log := .finish ticket (.edit (.error .invalidBaseState)) :: store.log }
  seen : ∀ events, seenOf ticket ((store.step (.resume .blogs)).run events) =
    [.finish ticket (.edit (.error .invalidBaseState))]

/-- An edit whose turn was in `store`, from which `begun` came, and which was sent over that
list, to leave `made` of it; after more events. -/
inductive EditFlight (store begun : Store) (ticket : Nat) (edit : Edit) (list made : List Blog)
    (events : List Event) : Prop
  /-- It waits, and ends at the next turn if its request is answered and due. -/
  | waits
      (hseen : seenOf ticket (begun.run events) =
        store.departure ticket (.editing edit store.epoch list))
      (hlands : ∀ reception, begun.answer? store.requested events = some reception →
        store.clock + store.delay ≤ (begun.run events).clock →
        begun.run (events ++ [.resume .blogs]) =
          Trip.landed ⟨ticket, edit, store.requested, reception⟩ store.epoch list made
            (begun.run events))
  /-- It ended after `middle` with the answer to its request. -/
  | ended {middle rest : List Event} {reception : Reception}
      (hevents : events = middle ++ .resume .blogs :: rest)
      (hanswer : begun.answer? store.requested middle = some reception)
      (hlands : begun.run (middle ++ [.resume .blogs]) =
        Trip.landed ⟨ticket, edit, store.requested, reception⟩ store.epoch list made
          (begun.run middle))
      (hseen : seenOf ticket (begun.run events) =
        store.departure ticket (.editing edit store.epoch list) ++
          Trip.landing ⟨ticket, edit, store.requested, reception⟩ store.epoch list made
            (begun.run middle))

theorem refused_of_no_list {store : Store} (hreach : Reachable store) {ticket : Nat} {edit : Edit}
    {later : List (Waiting BlogAction)} (hrun : store.blogs.running = none)
    (hwait : store.blogs.waiting = ⟨ticket, .change edit⟩ :: later)
    (hlist : ∀ list, store.state.blogs ≠ .loaded list) : Refused store ticket := by
  have hturn : store.step (.resume .blogs) = { store with
      blogs := ⟨none, store.blogs.waiting.tail⟩
      log := .finish ticket (.edit (.error .invalidBaseState)) :: store.log } := by
    simp only [step, resumeBlogs, hrun, hwait, beginBlogs]
    rfl
  refine ⟨hturn, fun events => ?_⟩
  have hlog : (store.step (.resume .blogs)).log =
      [.finish ticket (.edit (.error .invalidBaseState))].reverse ++ store.log :=
    congrArg Store.log hturn
  have htold : seenOf ticket (store.step (.resume .blogs)) =
      [.finish ticket (.edit (.error .invalidBaseState))] := by
    rw [seenOf_of_own hlog (by simp [Observation.ticket?]), hreach.seenOf_first hwait]
    rfl
  have hended := (mem_seenOf.mp (htold ▸ List.mem_singleton_self _)).1
  rw [(hreach.step (.resume .blogs)).seenOf_ended hended events, htold]

theorem edit_flies {store : Store} (hreach : Reachable store) {ticket : Nat} {edit : Edit}
    {later : List (Waiting BlogAction)} (hrun : store.blogs.running = none)
    (hwait : store.blogs.waiting = ⟨ticket, .change edit⟩ :: later) {list : List Blog}
    (hlist : store.state.blogs = .loaded list) (events : List Event) :
    EditFlight store (store.departed ticket (.editing edit store.epoch list)) ticket edit list
      (sortBlogs (edit.apply list)) events := by
  obtain ⟨hseen, hair | ⟨middle, reception, hlanded⟩⟩ :=
    departed_flies hreach hrun hwait (.change hlist) events
  · refine .waits (hair.seen.trans hseen) fun reception hanswer hdue => ?_
    rw [hair.lands hanswer hdue]
    exact Trip.landed_eq ⟨ticket, edit, store.requested, reception⟩ ..
  · obtain ⟨rest, hevents⟩ := hlanded.split
    refine .ended hevents hlanded.answer ?_ ?_
    · rw [hlanded.lands]
      exact Trip.landed_eq ⟨ticket, edit, store.requested, reception⟩ ..
    · rw [hlanded.seen, hseen]
      exact congrArg _ (Trip.landing_eq ⟨ticket, edit, store.requested, reception⟩ ..)

/-- An edit from its turn to its end, whatever happens while it waits. Without a list it is
refused. Over a list it makes one request, and ends with the answer to that: the list with
the edit made and put in order, or else the list as it was, is committed if the epoch lasts;
its result is that of its call. A creation appends its blog, an edit takes the blogs of its
slug out and appends its own, a deletion takes them out. -/
theorem edit_to_its_end {store : Store} (hreach : Reachable store) {ticket : Nat} {edit : Edit}
    {later : List (Waiting BlogAction)} (hrun : store.blogs.running = none)
    (hwait : store.blogs.waiting = ⟨ticket, .change edit⟩ :: later) :
    ((∀ list, store.state.blogs ≠ .loaded list) → Refused store ticket) ∧
    ∀ list, store.state.blogs = .loaded list →
      store.step (.resume .blogs) = store.departed ticket (.editing edit store.epoch list) ∧
      ∀ events, EditFlight store (store.step (.resume .blogs)) ticket edit list
        (match edit with
        | .create blog => sortBlogs (list ++ [blog])
        | .edit blog => sortBlogs (list.filter (·.slug ≠ blog.slug) ++ [blog])
        | .delete slug => sortBlogs (list.filter (·.slug ≠ slug))) events := by
  refine ⟨refused_of_no_list hreach hrun hwait, fun list hlist => ?_⟩
  have hturn : store.step (.resume .blogs) = _ := resumeBlogs_departs hrun hwait (.change hlist)
  refine ⟨hturn, fun events => ?_⟩
  have hflight := edit_flies hreach hrun hwait hlist events
  rw [hturn]
  cases edit with
  | create blog => exact hflight
  | edit blog => exact hflight
  | delete slug => exact hflight

/-- A list out of order, and a blog added to it that waits for its turn. -/
def oneCreation : List Event :=
  [.setBlogs (.loaded [{ slug := "c" }, { slug := "b" }]),
    .start (.blogs (.change (.create { slug := "a" })))]

theorem edit_to_its_end_oneCreation :
    let store := (ofSettings {}).run oneCreation
    let list := [{ slug := "c" }, { slug := "b" }]
    let made := sortBlogs (list ++ [{ slug := "a" }])
    let answer := "\x7b\"id\":\"1\",\"result\":null,\"error\":null\x7d"
    let taken := [.receive 0 (.ok { status := 200, body := answer }), .resume .blogs]
    let failed := [.receive 0 (.ok { status := 500 }), .resume .blogs]
    store.step (.resume .blogs) = store.departed 0 (.editing (.create { slug := "a" }) 0 list) ∧
    EditFlight store (store.step (.resume .blogs)) 0 (.create { slug := "a" }) list made taken ∧
    ((store.step (.resume .blogs)).run taken).state.blogs = .loaded made ∧
    EditFlight store (store.step (.resume .blogs)) 0 (.create { slug := "a" }) list made failed ∧
    ((store.step (.resume .blogs)).run failed).state.blogs = .loaded list := by
  have hreach := Reachable.run_ofSettings {} oneCreation
  obtain ⟨hturn, hflight⟩ := (edit_to_its_end hreach rfl rfl).2 _ rfl
  exact ⟨hturn, hflight _, rfl, hflight _, rfl⟩

end BlogDesk.Store
