import BlogDesk.Proofs.Store.Identity

/-!
# Edits that wait while the user changes

An action on the blogs records the epoch when its turn comes and not when it is
started. So an edit that waits behind others while the user changes is sent for
whoever is loaded at its turn, if only a list is there again by then.
`edit_sent_for_another_iff` says exactly when; `forAlice` and `forBob` are a run in
which a load further ahead in the queue brings a list back.
-/

namespace BlogDesk.Store

-- ---- The queue

theorem BlogResume.waiting {store next : Store} (turn : BlogResume store next)
    {later : Waiting BlogAction} (h : later ∈ next.blogs.waiting) : later ∈ store.blogs.waiting := by
  cases turn with
  | idle => exact h
  | begins hrun hwait hstage => exact hwait ▸ List.mem_cons_of_mem _ h
  | refuses hrun hwait haction hlist => exact hwait ▸ List.mem_cons_of_mem _ h
  | ends hrun hcame hepoch => exact h
  | drops hrun hcame hepoch => exact h

theorem step_waiting (store : Store) (event : Event) {later : Waiting BlogAction}
    (h : later ∈ (store.step event).blogs.waiting) :
    later ∈ store.blogs.waiting ∨ later.ticket = store.started := by
  by_cases hblogs : event = .resume .blogs
  · subst hblogs
    exact .inl ((resumeBlogs_turn store).waiting h)
  · rw [step_blogs store hblogs, List.mem_append] at h
    rcases h with h | h
    · exact .inl h
    · unfold Event.queued at h
      split at h
      · rw [List.mem_singleton.mp h]
        exact .inr rfl
      · cases h

theorem run_waiting {store : Store} (h : Reachable store) {events : List Event}
    {later : Waiting BlogAction} (hstarted : later.ticket < store.started)
    (hlater : later ∈ (store.run events).blogs.waiting) : later ∈ store.blogs.waiting := by
  induction events generalizing store with
  | nil => exact hlater
  | cons event rest ih =>
    have hmore := h.started_le event
    rcases step_waiting store event (ih (h.step event) (by omega) hlater) with hin | hin
    · exact hin
    · omega

theorem Reachable.running_lt {store : Store} (h : Reachable store) {job : InFlight BlogStage}
    (hjob : store.blogs.running = some job) {later : Waiting BlogAction}
    (hlater : later ∈ store.blogs.waiting) : job.ticket < later.ticket := by
  obtain ⟨actions, htickets⟩ := h.tickets
  have horder := htickets.blogOrder
  rw [Flight.tickets_of_running hjob, List.pairwise_cons] at horder
  exact horder.1 _ (List.mem_map_of_mem hlater)

-- ---- How a list comes back

/-- An event by which a list is there again: the host puts it there, or a load ends
that was started before the action with that ticket. -/
def Fills (ticket : Nat) (store : Store) : Event → Prop
  | .setBlogs blogs => blogs.isLoaded
  | .resume .blogs => ∃ job reception, store.blogs.running = some job ∧ job.ticket < ticket ∧
      job.stage = .listing store.epoch ∧
      job.exchange.resolved? store.clock = some reception ∧ (job.stage.shown reception).isLoaded
  | _ => False

/-- A list is there, or an edit in flight will put one back. -/
def Backed (store : Store) : Prop :=
  store.state.blogs.isLoaded ∨ ∃ job edit snapshot, store.blogs.running = some job ∧
    job.stage = .editing edit store.epoch snapshot

theorem BlogResume.backed {store next : Store} {ticket : Nat} (turn : BlogResume store next)
    (horder : ∀ job, store.blogs.running = some job → job.ticket < ticket) (h : next.Backed) :
    store.Fills ticket (.resume .blogs) ∨ store.Backed := by
  cases turn with
  | idle => exact .inr h
  | @begins first later stage operation hrun hwait hstage =>
    rcases h with hlist | ⟨job, edit, snapshot, hjob, hediting⟩
    · cases hlist
    · cases hjob
      generalize first.action = action at hstage
      cases hstage with
      | load => cases hediting
      | change hlist => exact .inr (.inl (by rw [hlist]; rfl))
  | refuses hrun hwait haction hnone =>
    rcases h with hlist | ⟨job, edit, snapshot, hjob, hediting⟩
    · obtain ⟨list, hlist⟩ := Loadable.isLoaded_iff.mp hlist
      exact absurd hlist (hnone list)
    · cases hjob
  | @ends job reception hrun hcame hepoch =>
    rcases h with hlist | ⟨_, _, _, hjob, hediting⟩
    · cases hstage : job.stage with
      | listing epoch =>
        refine .inl ⟨job, reception, hrun, horder job hrun, ?_, hcame, hlist⟩
        rw [hstage] at hepoch ⊢
        rw [hepoch]
        rfl
      | editing edit epoch snapshot =>
        refine .inr (.inr ⟨job, edit, snapshot, hrun, ?_⟩)
        rw [hstage] at hepoch ⊢
        rw [hepoch]
        rfl
    · cases hjob
  | drops hrun hcame hepoch =>
    rcases h with hlist | ⟨_, _, _, hjob, hediting⟩
    · exact .inr (.inl hlist)
    · cases hjob

theorem step_backed {store : Store} (hreach : Reachable store) {later : Waiting BlogAction}
    (hlater : later ∈ store.blogs.waiting) (event : Event) (h : (store.step event).Backed) :
    store.Fills later.ticket event ∨ store.Backed ∧ (store.step event).epoch = store.epoch := by
  by_cases hblogs : event = .resume .blogs
  · subst hblogs
    have hepoch : (store.step (.resume .blogs)).epoch = store.epoch := by
      change store.resumeBlogs.epoch = store.epoch
      generalize store.resumeBlogs = next, resumeBlogs_turn store = turn
      cases turn <;> rfl
    obtain h | h := (resumeBlogs_turn store).backed
      (fun job hjob => hreach.running_lt hjob hlater) h
    · exact .inl h
    · exact .inr ⟨h, hepoch⟩
  by_cases hhost : ∃ blogs, event = .setBlogs blogs
  · obtain ⟨blogs, rfl⟩ := hhost
    rcases h with hlist | hediting
    · exact .inl hlist
    · exact .inr ⟨.inr hediting, rfl⟩
  simp only [not_exists] at hhost
  rw [Backed, step_blogs store hblogs] at h
  by_cases hepoch : (store.step event).epoch = store.epoch
  · rw [step_list store hblogs hhost hepoch, hepoch] at h
    refine .inr ⟨?_, hepoch⟩
    rcases h with hlist | ⟨job, edit, snapshot, hjob, hediting⟩
    · exact .inl hlist
    · obtain ⟨old, hold, rfl⟩ := Option.map_eq_some_iff.mp hjob
      exact .inr ⟨old, edit, snapshot, hold, (old.after_stage event).symm.trans hediting⟩
  · -- What begins an epoch leaves neither a list nor an edit in it.
    have hnext := step_committed store event
    rcases h with hlist | ⟨job, edit, snapshot, hjob, hediting⟩
    · rw [hnext.blogs_of_epoch_ne hepoch] at hlist
      cases hlist
    · obtain ⟨old, hold, rfl⟩ := Option.map_eq_some_iff.mp hjob
      rw [InFlight.after_stage] at hediting
      have hle := hreach.began hold
      rw [hediting] at hle
      have := hnext.epoch_le
      simp only [BlogStage.epoch] at hle
      omega

theorem run_backed {store : Store} (hreach : Reachable store) {events : List Event}
    {later : Waiting BlogAction} (hstarted : later.ticket < store.started)
    (hlater : later ∈ (store.run events).blogs.waiting) (h : (store.run events).Backed) :
    (∃ first event rest, events = first ++ event :: rest ∧
      (store.run first).Fills later.ticket event ∧
      ((store.run first).step event).epoch = (store.run events).epoch) ∨
    store.Backed ∧ (store.run events).epoch = store.epoch := by
  induction events generalizing store with
  | nil => exact .inr ⟨h, rfl⟩
  | cons event rest ih =>
    have hmore : later.ticket < (store.step event).started := by
      have := hreach.started_le event
      omega
    rcases ih (hreach.step event) hmore hlater h with
        ⟨first, filling, last, rfl, hfills, hepoch⟩ | ⟨hbacked, hepoch⟩
    · exact .inl ⟨event :: first, filling, last, rfl, hfills, hepoch⟩
    · have hnow := run_waiting hreach hstarted hlater
      rcases step_backed hreach hnow event hbacked with hfills | ⟨hbefore, hsame⟩
      · exact .inl ⟨[], event, rest, rfl, hfills, hepoch.symm⟩
      · exact .inr ⟨hbefore, hepoch.trans hsame⟩

-- ---- For whom an edit is sent

def anotherLoaded (user : User) (state : State) : Bool :=
  state.user.data?.any (·.username != user.username)

theorem anotherLoaded_iff {user : User} {state : State} : anotherLoaded user state = true ↔
    ∃ other, state.user = .loaded other ∧ other.username ≠ user.username := by
  unfold anotherLoaded
  cases state.user <;> simp [Loadable.data?]

/-- Whether it is a request of the action with that ticket, made while another user
than `user` is loaded. -/
def Observation.isSentForAnother (ticket : Nat) (user : User) : Observation → Bool
  | .request sender _ _ state => sender == ticket && anotherLoaded user state
  | _ => false

/-- The turn of an edit, at which a list is there and another user than `user` is loaded. -/
structure DueForAnother (ticket : Nat) (edit : Edit) (user : User) (store : Store) : Prop where
  running : store.blogs.running = none
  waiting : store.blogs.waiting.head? = some ⟨ticket, .change edit⟩
  list : store.state.blogs.isLoaded
  another : anotherLoaded user store.state

/-- During the run a new epoch began, which lasts at its end, and in it a list came back. -/
def Refilled (ticket : Nat) (store : Store) (events : List Event) : Prop :=
  ∃ first event rest, events = first ++ event :: rest ∧ (store.run first).Fills ticket event ∧
    store.epoch < ((store.run first).step event).epoch ∧
    ((store.run first).step event).epoch = (store.run events).epoch

/-- A loaded user of another username is in another epoch. -/
theorem Reachable.epoch_lt {store : Store} (h : Reachable store) {user : User}
    (huser : store.state.user = .loaded user) {events : List Event}
    (hanother : anotherLoaded user (store.run events).state) :
    store.epoch < (store.run events).epoch := by
  obtain ⟨other, hother, hne⟩ := anotherLoaded_iff.mp hanother
  rcases h.oneUser.latest with hinitial | ⟨ticket, hin⟩
  · rw [hinitial] at huser
    cases huser
  · have hle := epoch_le_run store events
    have hin := (run_log store events).mem hin
    by_cases hsame : (store.run events).epoch = store.epoch
    · rw [← hsame] at hin
      obtain ⟨present, hpresent, hname⟩ := (h.run events).oneUser.loaded hin huser
      rw [hother] at hpresent
      cases hpresent
      exact absurd hname hne
    · omega

theorem BlogResume.dueForAnother {actions : List Action} {store next : Store} {ticket : Nat}
    {edit : Edit} {user : User} (turn : BlogResume store next) (htickets : Tickets actions store)
    (haction : actions[ticket]? = some (.blogs (.change edit))) {seen : Observation}
    (hold : seen ∉ store.log) (hnew : seen ∈ next.log)
    (hsent : seen.isSentForAnother ticket user) : DueForAnother ticket edit user store := by
  cases turn with
  | idle => exact absurd hnew hold
  | @begins first later stage operation hrun hwait hstage =>
    simp only [List.mem_cons] at hnew
    rcases hnew with rfl | rfl | hnew
    · simp only [Observation.isSentForAnother, Bool.and_eq_true, beq_iff_eq] at hsent
      obtain ⟨rfl, hanother⟩ := hsent
      have hfirst := htickets.blogWaiting first (by simp [hwait])
      rw [haction] at hfirst
      obtain ⟨ticket, action⟩ := first
      cases hfirst
      cases hstage with
      | change hlist => exact ⟨hrun, by rw [hwait]; rfl, by rw [hlist]; rfl, hanother⟩
    · cases hsent
    · exact absurd hnew hold
  | refuses hrun hwait haction hlist =>
    rcases List.mem_cons.mp hnew with rfl | hnew
    · cases hsent
    · exact absurd hnew hold
  | ends hrun hcame hepoch =>
    simp only [List.mem_cons] at hnew
    rcases hnew with rfl | rfl | hnew
    · cases hsent
    · cases hsent
    · exact absurd hnew hold
  | drops hrun hcame hepoch =>
    rcases List.mem_cons.mp hnew with rfl | hnew
    · cases hsent
    · exact absurd hnew hold

theorem DueForAnother.sent {store : Store} {ticket : Nat} {edit : Edit} {user : User}
    (h : DueForAnother ticket edit user store) :
    ∃ seen ∈ (store.step (.resume .blogs)).log, seen.isSentForAnother ticket user := by
  obtain ⟨hrun, hwait, hlist, hanother⟩ := h
  obtain ⟨later, hwait⟩ := List.head?_eq_some_iff.mp hwait
  obtain ⟨list, hlist⟩ := Loadable.isLoaded_iff.mp hlist
  refine ⟨.request ticket store.requested (store.client.request edit.operation)
    { store.state with blogs := .loading }, ?_, ?_⟩
  · simp only [step, resumeBlogs, hrun, hwait, beginBlogs, hlist]
    exact List.mem_cons_self
  · simp [Observation.isSentForAnother, anotherLoaded] at hanother ⊢
    exact hanother

/-- An edit that was started for `user` is sent for another one just when its turn comes
while another one is loaded and a list came back in the epoch that lasts by then. -/
theorem edit_sent_for_another_iff {store : Store} (hreach : Reachable store) {user : User}
    (huser : store.state.user = .loaded user) (edit : Edit) (events : List Event) :
    let issued := store.start (.blogs (.change edit))
    (∃ seen ∈ (issued.run events).log, seen.isSentForAnother store.started user) ↔
      ∃ middle rest, events = middle ++ .resume .blogs :: rest ∧
        DueForAnother store.started edit user (issued.run middle) ∧
        Refilled store.started issued middle := by
  intro issued
  have hissued : Reachable issued := hreach.step (.start (.blogs (.change edit)))
  constructor
  · rintro ⟨seen, hin, hsent⟩
    obtain ⟨actions, htickets⟩ := hreach.tickets
    have hticket : seen.ticket? = some store.started := by
      cases seen with
      | request sender number request state =>
        simp only [Observation.isSentForAnother, Bool.and_eq_true, beq_iff_eq] at hsent
        exact congrArg some hsent.1
      | _ => cases hsent
    have hold : seen ∉ issued.log := fun hseen => htickets.seen_ne_started hseen hticket rfl
    obtain ⟨middle, event, rest, hevents, hbefore, hafter⟩ := run_seen hold hin
    have hmiddle := ((htickets.step (.start (.blogs (.change edit)))).run middle)
    have haction : ((actions ++ [.blogs (.change edit)]) ++ actionsOf middle)[store.started]? =
        some (.blogs (.change edit)) := by
      refine Tickets.getElem?_append ?_ _
      rw [htickets.started, List.getElem?_concat_length]
    -- The action is one of the blogs slice, so that its request is made at a turn of it.
    rcases step_seen (issued.run middle) event hafter with
        hseen | hnone | ⟨ticket, hsome, ⟨-, hhead⟩ | ⟨rfl, -⟩⟩
    · exact absurd hseen hbefore
    · rw [hticket] at hnone
      cases hnone
    · rw [hticket] at hsome
      cases hsome
      obtain ⟨own, hown⟩ := hmiddle.userTicket _ (List.mem_of_mem_head? hhead)
      rw [Event.action?, Option.toList_some] at hown
      rw [haction] at hown
      cases hown
    · have hdue := (resumeBlogs_turn (issued.run middle)).dueForAnother hmiddle haction hbefore
        hafter hsent
      refine ⟨middle, rest, hevents, hdue, ?_⟩
      have hlater := List.mem_of_mem_head? hdue.waiting
      -- Another user is loaded by now, so an epoch began since, and the list came back in it.
      have hlt : issued.epoch < (issued.run middle).epoch :=
        hissued.epoch_lt huser hdue.another
      rcases run_backed hissued (Nat.lt_succ_self _) hlater (.inl hdue.list) with
          ⟨first, filling, last, hsplit, hfills, hepoch⟩ | ⟨-, hepoch⟩
      · exact ⟨first, filling, last, hsplit, hfills, by omega, hepoch⟩
      · omega
  · rintro ⟨middle, rest, hevents, hdue, -⟩
    obtain ⟨seen, hin, hsent⟩ := hdue.sent
    refine ⟨seen, ?_, hsent⟩
    rw [hevents, run_append, run_cons]
    exact (run_log _ rest).mem hin

def forAlice : List Event :=
  [.setUser (.loaded ⟨"alice", none⟩), .start (.blogs .load), .resume .blogs, .start (.blogs .load)]

/-- Bob comes while the first load is in flight, and the second one brings his list. -/
def forBob : List Event :=
  [.setUser (.loaded ⟨"bob", none⟩),
    .receive 0 (.ok { status := 200, body := "\x7b\"id\":\"1\",\"result\":null,\"error\":null\x7d" }),
    .resume .blogs, .resume .blogs,
    .receive 1 (.ok { status := 200, body :=
      "\x7b\"id\":\"2\",\"result\":[\x7b\"Slug\":\"x\"\x7d],\"error\":null\x7d" }),
    .resume .blogs, .resume .blogs]

theorem forBob_sends : ∃ seen ∈ ((((ofSettings {}).run forAlice).start
      (.blogs (.change (.delete "x")))).run forBob).log,
    seen.isSentForAnother ((ofSettings {}).run forAlice).started ⟨"alice", none⟩ := by
  rw [← List.any_eq_true]
  decide +kernel

theorem edit_sent_for_another_iff_bob :
    let store := (ofSettings {}).run forAlice
    let issued := store.start (.blogs (.change (.delete "x")))
    Reachable store ∧ store.state.user = .loaded ⟨"alice", none⟩ ∧
      (∃ seen ∈ (issued.run forBob).log, seen.isSentForAnother store.started ⟨"alice", none⟩) ∧
      ∃ middle rest, forBob = middle ++ .resume .blogs :: rest ∧
        DueForAnother store.started (.delete "x") ⟨"alice", none⟩ (issued.run middle) ∧
        Refilled store.started issued middle :=
  ⟨.run_ofSettings {} forAlice, rfl, forBob_sends,
    (edit_sent_for_another_iff (.run_ofSettings {} forAlice) rfl (.delete "x") forBob).mp forBob_sends⟩

/-- Alice's edit is sent in bob's session. -/
theorem edit_sent_in_session_of_bob :
    ¬ ∀ (store : Store) (user : User) (edit : Edit) (events : List Event), Reachable store →
      store.state.user = .loaded user →
      ∀ seen ∈ ((store.start (.blogs (.change edit))).run events).log,
        seen.isSentForAnother store.started user = false := by
  intro h
  have hnone := h _ ⟨"alice", none⟩ (.delete "x") forBob (.run_ofSettings {} forAlice) rfl
  obtain ⟨seen, hin, hsent⟩ := forBob_sends
  rw [hnone seen hin] at hsent
  cases hsent

end BlogDesk.Store
