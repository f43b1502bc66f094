import BlogDesk.Proofs.Store.Slices

/-!
# One action at a time

The actions of a slice take their turns one after another, in the order they were
started, each from its first commit to its end without anything of another in between.
What is seen of a slice is what is seen of the first action, then of the second, and so
on; `Course` is the part of one. Of all that a slice asked for only the latest request
of the action in flight may still be open. The other slice plays no part in this.
-/

namespace BlogDesk.Store

-- ---- What is seen of one action

structure Asked where
  errand : Errand
  number : Nat

/-- What is seen of an action that asked for those, each in a request right after a commit. -/
inductive Shows (ticket : Nat) : List Asked → List Observation → Prop
  | nothing : Shows ticket [] []
  | asks {asked : List Asked} {seen : List Observation} (h : Shows ticket asked seen) (epoch : Nat)
      (before state : State) (client : Client) (errand : Errand) (number : Nat) :
    Shows ticket (asked ++ [⟨errand, number⟩])
      (seen ++ [.commit ticket epoch before, .request ticket number (errand.request client) state])

/-- An action that had a turn, with what it asked for and what was seen of it. -/
structure Course where
  queued : Waiting Action
  asked : List Asked
  seen : List Observation

namespace Course

structure Underway (course : Course) : Prop where
  shows : Shows course.queued.ticket course.asked course.seen
  onWay : course.asked.map Asked.errand <+: course.queued.action.errands

/-- It went part of its way or all of it, perhaps made a last commit, and returned. Only
an edit without a list returns and asks for nothing. -/
inductive Ended : Course → Prop
  | intro {course : Course} {commits : List Observation} {result : Result}
      (h : course.Underway)
      (hcommits : commits = [] ∨
        ∃ epoch state, commits = [.commit (some course.queued.ticket) epoch state])
      (hrefused : course.asked = [] → result = .edit (.error .invalidBaseState)) :
    Ended { course with seen := course.seen ++ commits ++ [.finish course.queued.ticket result] }

end Course

def Observation.isOn (slice : Slice) (actions : List Action) (seen : Observation) : Bool :=
  (seen.ticket?.bind fun ticket => actions[ticket]?).any (·.slice = slice)

def seenOn (slice : Slice) (actions : List Action) (store : Store) : List Observation :=
  store.log.reverse.filter (·.isOn slice actions)

def placedOn (slice : Slice) (actions : List Action) : List (Waiting Action) :=
  (actions.zipIdx.map fun (action, ticket) => ⟨ticket, action⟩).filter (·.action.slice = slice)

-- ---- When a request is over

def madeAt? (number : Nat) (store : Store) : List Event → Option Nat
  | [] => none
  | event :: rest =>
    (if store.requested ≤ number ∧ number < (store.step event).requested then some store.clock
      else none).or ((store.step event).madeAt? number rest)

/-- The answer to a request came after the request was made, and is held back no longer. -/
structure Resolved (start : Store) (events : List Event) (asked : Asked) : Prop where
  answered : (start.answer? asked.number events).isSome
  passed : ∃ made, start.madeAt? asked.number events = some made ∧
    made + asked.errand.hold start.delay ≤ (start.run events).clock

/-- An action on that slice asked for it, and its request is not resolved. -/
def Open (start : Store) (events : List Event) (slice : Slice) (ticket number : Nat) : Prop :=
  ∃ client errand state, .request ticket number (Errand.request client errand) state ∈
      seenOn slice (actionsOf events) (start.run events) ∧
    ¬ Resolved start events ⟨errand, number⟩

-- ---- Runs that grow at their end

theorem madeAt?_concat (number : Nat) (store : Store) (events : List Event) (event : Event) :
    store.madeAt? number (events ++ [event]) = (store.madeAt? number events).or
      (if (store.run events).requested ≤ number ∧
          number < ((store.run events).step event).requested then some (store.run events).clock
        else none) := by
  induction events generalizing store with
  | nil =>
    rw [List.nil_append, madeAt?, madeAt?, madeAt?, Option.or_none, Option.none_or]
    rfl
  | cons first rest ih => rw [List.cons_append, madeAt?, madeAt?, ih, Option.or_assoc, run_cons]

theorem madeAt?_eq_none {store : Store} {number : Nat} {events : List Event}
    (h : (store.run events).requested ≤ number) : store.madeAt? number events = none := by
  induction events using List.reverseRecOn with
  | nil => rfl
  | append_singleton first event ih =>
    rw [run_concat] at h
    have hle := requested_le_step (store.run first) event
    rw [madeAt?_concat, ih (by omega), if_neg (by omega)]
    rfl

theorem actionsOf_concat (events : List Event) (event : Event) :
    actionsOf (events ++ [event]) = actionsOf events ++ event.action?.toList := by
  cases h : event.action? <;> simp [actionsOf, h]

theorem Resolved.concat {start : Store} {events : List Event} {asked : Asked}
    (h : Resolved start events asked) (event : Event) : Resolved start (events ++ [event]) asked := by
  obtain ⟨answer, hanswer⟩ := Option.isSome_iff_exists.mp h.answered
  obtain ⟨made, hmade, hpassed⟩ := h.passed
  refine ⟨?_, made, ?_, ?_⟩
  · rw [answer?_concat, hanswer]
    rfl
  · rw [madeAt?_concat, hmade, Option.some_or]
  · rw [run_concat]
    exact Nat.le_trans hpassed (step_timing _ event).1

theorem placedOn_concat (slice : Slice) (actions : List Action) (event : Event) :
    placedOn slice (actions ++ event.action?.toList) =
      placedOn slice actions ++ event.queuedOn slice actions.length := by
  cases event with
  | start action =>
    by_cases hslice : action.slice = slice <;>
      simp [placedOn, Event.action?, Event.queuedOn, List.zipIdx_append, hslice]
  | _ => simp [placedOn, Event.action?, Event.queuedOn]

theorem mem_placedOn {slice : Slice} {actions : List Action} {queued : Waiting Action} :
    queued ∈ placedOn slice actions ↔
      actions[queued.ticket]? = some queued.action ∧ queued.action.slice = slice := by
  simp only [placedOn, List.mem_filter, List.mem_map, Prod.exists, decide_eq_true_eq]
  refine and_congr_left fun _ => ⟨?_, fun h => ?_⟩
  · rintro ⟨action, ticket, hmem, rfl⟩
    exact List.mk_mem_zipIdx_iff_getElem?.mp hmem
  · exact ⟨_, _, List.mk_mem_zipIdx_iff_getElem?.mpr h, rfl⟩

theorem isOn_of_mem {slice : Slice} {actions : List Action} {queued : Waiting Action}
    (h : queued ∈ placedOn slice actions) {seen : Observation}
    (hticket : seen.ticket? = some queued.ticket) : seen.isOn slice actions := by
  obtain ⟨haction, hslice⟩ := mem_placedOn.mp h
  simp [Observation.isOn, hticket, haction, hslice]

theorem seenOn_of_log {slice : Slice} {actions : List Action} {store next : Store}
    {fresh : List Observation} (hlog : next.log = fresh ++ store.log) :
    seenOn slice actions next =
      seenOn slice actions store ++ fresh.reverse.filter (·.isOn slice actions) := by
  simp [seenOn, hlog]

theorem Tickets.seenOn_append {actions : List Action} {store : Store} (h : Tickets actions store)
    (slice : Slice) (more : List Action) :
    seenOn slice (actions ++ more) store = seenOn slice actions store := by
  refine List.filter_congr fun seen hseen => ?_
  rw [List.mem_reverse] at hseen
  cases hticket : seen.ticket? with
  | none => simp [Observation.isOn, hticket]
  | some ticket =>
    have hlt := (h.seen seen hseen ticket hticket).1
    simp [Observation.isOn, hticket, List.getElem?_append_left hlt]

-- ---- The middle of a run

structure Awaits (start : Store) (events : List Event) (course : Course)
    (job : InFlight (List Errand)) : Prop where
  ticket : course.queued.ticket = job.ticket
  shows : Shows course.queued.ticket course.asked course.seen
  onWay : course.asked.map Asked.errand ++ job.stage = course.queued.action.errands
  latest : ∃ earlier errand made, course.asked = earlier ++ [⟨errand, job.exchange.number⟩] ∧
    (∀ asked ∈ earlier, Resolved start events asked) ∧
    start.madeAt? job.exchange.number events = some made ∧
    job.exchange.due = made + errand.hold start.delay
  made : job.exchange.number < (start.run events).requested
  answer : job.exchange.reception = start.answer? job.exchange.number events

inductive Aloft (start : Store) (events : List Event) :
    Option Course → Option (InFlight (List Errand)) → Prop
  | nobody : Aloft start events none none
  | somebody {course : Course} {job : InFlight (List Errand)} (h : Awaits start events course job) :
    Aloft start events (some course) (some job)

/-- Those actions of the slice ended, then that one had its turn, and the others wait. -/
structure InTurn (start : Store) (events : List Event) (slice : Slice) (ended : List Course)
    (current : Option Course) : Prop where
  queue : (ended ++ current.toList).map Course.queued ++ ((start.run events).lane slice).waiting =
    placedOn slice (actionsOf events)
  seen : seenOn slice (actionsOf events) (start.run events) =
    (ended ++ current.toList).flatMap Course.seen
  ended : ∀ course ∈ ended, course.Ended ∧ ∀ asked ∈ course.asked, Resolved start events asked
  aloft : Aloft start events current ((start.run events).lane slice).running

section
variable {start : Store} {events : List Event} {slice : Slice} {ended : List Course}
  {current : Option Course}

theorem Awaits.concat {course : Course} {job : InFlight (List Errand)}
    (h : Awaits start events course job) (event : Event) :
    Awaits start (events ++ [event]) course (job.after event) := by
  obtain ⟨earlier, errand, made, hasked, hearlier, hmade, hdue⟩ := h.latest
  refine ⟨?_, h.shows, ?_, ⟨earlier, errand, made, ?_, ?_, ?_, ?_⟩, ?_, ?_⟩
  · rw [InFlight.after_ticket]
    exact h.ticket
  · rw [InFlight.after_stage]
    exact h.onWay
  · rw [InFlight.after_number]
    exact hasked
  · exact fun asked hin => (hearlier asked hin).concat event
  · rw [InFlight.after_number, madeAt?_concat, hmade, Option.some_or]
  · rw [InFlight.after_due]
    exact hdue
  · rw [InFlight.after_number, run_concat]
    exact Nat.lt_of_lt_of_le h.made (requested_le_step _ event)
  · rw [InFlight.after_reception, InFlight.after_number, h.answer, answer?_concat, if_pos h.made]

/-- The answer that an action goes on with resolves its latest request. -/
theorem Awaits.resolved {course : Course} {job : InFlight (List Errand)} {reception : Reception}
    (h : Awaits start events course job)
    (hcame : job.exchange.resolved? (start.run events).clock = some reception) :
    ∀ asked ∈ course.asked, Resolved start events asked := by
  obtain ⟨earlier, errand, made, hasked, hearlier, hmade, hdue⟩ := h.latest
  intro asked hin
  rw [hasked, List.mem_append, List.mem_singleton] at hin
  rcases hin with hin | rfl
  · exact hearlier asked hin
  · refine ⟨?_, made, hmade, ?_⟩
    · rw [← h.answer, Exchange.reception_of_resolved hcame]
      rfl
    · exact hdue ▸ Exchange.due_of_resolved hcame

theorem Awaits.goesOn {course : Course} {job : InFlight (List Errand)}
    (h : Awaits start events course job) (hresolved : ∀ asked ∈ course.asked,
      Resolved start events asked) :
    (job.exchange.resolved? (start.run events).clock).isSome := by
  obtain ⟨earlier, errand, made, hasked, hearlier, hmade, hdue⟩ := h.latest
  obtain ⟨hanswered, other, hother, hpassed⟩ :=
    hresolved ⟨errand, job.exchange.number⟩ (by simp [hasked])
  obtain rfl := Option.some.inj (hmade.symm.trans hother)
  rw [Exchange.resolved?, if_pos (hdue ▸ hpassed), h.answer]
  exact hanswered

theorem Aloft.concat {running : Option (InFlight (List Errand))} (h : Aloft start events current running)
    (event : Event) : Aloft start (events ++ [event]) current (running.map (·.after event)) := by
  cases h with
  | nobody => exact .nobody
  | somebody h => exact .somebody (h.concat event)

namespace InTurn

theorem between (h : InTurn start events slice ended current)
    (htickets : Tickets (actionsOf events) (start.run events)) {event : Event}
    (hevent : event ≠ .resume slice) :
    InTurn start (events ++ [event]) slice ended current := by
  have hlane := lane_step (start.run events) hevent
  rw [← run_concat, htickets.started] at hlane
  refine ⟨?_, ?_, ?_, ?_⟩
  · rw [hlane, actionsOf_concat, placedOn_concat, ← h.queue, List.append_assoc]
    rfl
  · obtain ⟨fresh, hlog, hfresh⟩ := step_fresh (start.run events) hevent
    rw [actionsOf_concat, run_concat, seenOn_of_log hlog, htickets.seenOn_append, h.seen]
    -- Nobody on the other slice is on this one.
    have hother : ∀ seen ∈ fresh.reverse,
        ¬ seen.isOn slice (actionsOf events ++ event.action?.toList) := by
      intro seen hseen hon
      simp only [Observation.isOn, Option.any_eq_true, Option.bind_eq_some_iff,
        decide_eq_true_eq] at hon
      obtain ⟨action, ⟨ticket, hticket, haction⟩, hslice⟩ := hon
      obtain ⟨other, hne, hmem⟩ := hfresh seen (List.mem_reverse.mp hseen) ticket hticket
      obtain ⟨known, hknown, hplace⟩ := htickets.lane hmem
      rw [Tickets.getElem?_append hknown] at haction
      cases haction
      exact hne (hplace.symm.trans hslice)
    rw [List.filter_eq_nil_iff.mpr hother, List.append_nil]
  · intro course hcourse
    obtain ⟨hends, hresolved⟩ := h.ended course hcourse
    exact ⟨hends, fun asked hin => (hresolved asked hin).concat event⟩
  · rw [hlane]
    exact h.aloft.concat event

/-- At a turn: all that the action asked for so far is resolved, and it is the next to be seen. -/
structure AtTurn (start : Store) (events : List Event) (slice : Slice) (ended : List Course)
    (ahead : List Errand) (later : List (Waiting Action)) (course : Course) : Prop where
  shows : Shows course.queued.ticket course.asked course.seen
  onWay : course.asked.map Asked.errand ++ ahead = course.queued.action.errands
  resolved : ∀ asked ∈ course.asked, Resolved start events asked
  queue : (ended ++ [course]).map Course.queued ++ later = placedOn slice (actionsOf events)
  seen : seenOn slice (actionsOf events) (start.run events) = (ended ++ [course]).flatMap Course.seen
  idle : course.asked = [] → ((start.run events).lane slice).running = none

theorem atTurn (h : InTurn start events slice ended current) {ticket : Nat} {ahead : List Errand}
    {later : List (Waiting Action)} (hturn : HasTurn (start.run events).clock ticket ahead later
      ((start.run events).lane slice)) :
    ∃ course : Course, course.queued.ticket = ticket ∧
      AtTurn start events slice ended ahead later course := by
  have hqueue := h.queue
  have haloft := h.aloft
  generalize hlane : (start.run events).lane slice = lane at hturn hqueue haloft
  cases hturn with
  | @begins action hahead =>
    cases haloft
    refine ⟨⟨⟨ticket, action⟩, [], []⟩, rfl, .nothing, hahead.symm, nofun, ?_, ?_, ?_⟩
    · rw [← hqueue]
      simp
    · rw [h.seen]
      simp
    · exact fun _ => by rw [hlane]
  | @continues exchange reception hcame =>
    cases haloft with
    | @somebody course _ hawaits =>
      refine ⟨course, hawaits.ticket, hawaits.shows, hawaits.onWay, hawaits.resolved hcame, hqueue,
        h.seen, fun hnone => ?_⟩
      obtain ⟨earlier, errand, made, hasked, -⟩ := hawaits.latest
      rw [hnone] at hasked
      exact absurd hasked.symm (by simp)

theorem actionsOf_resume (events : List Event) (slice : Slice) :
    actionsOf (events ++ [.resume slice]) = actionsOf events := by
  rw [actionsOf_concat]
  exact List.append_nil _

theorem AtTurn.seenOn_next {ahead : List Errand} {later : List (Waiting Action)} {course : Course}
    (h : AtTurn start events slice ended ahead later course) {next : Store}
    {fresh : List Observation} (hlog : next.log = fresh ++ (start.run events).log)
    (hfresh : ∀ seen ∈ fresh, seen.ticket? = some course.queued.ticket) :
    seenOn slice (actionsOf events) next =
      ended.flatMap Course.seen ++ (course.seen ++ fresh.reverse) := by
  have hmem : course.queued ∈ placedOn slice (actionsOf events) := by
    rw [← h.queue]
    simp
  have hon : ∀ seen ∈ fresh.reverse, seen.isOn slice (actionsOf events) :=
    fun seen hseen => isOn_of_mem hmem (hfresh seen (List.mem_reverse.mp hseen))
  rw [seenOn_of_log hlog, List.filter_eq_self.mpr hon, h.seen]
  simp

theorem AtTurn.asks {ahead : List Errand} {later : List (Waiting Action)} {course : Course}
    {epoch : Nat} {errand : Errand} {client : Client} {before state : State} {exchange : Exchange}
    (h : AtTurn start events slice ended (errand :: ahead) later course)
    (hended : ∀ course ∈ ended, course.Ended ∧
      ∀ asked ∈ course.asked, Resolved start (events ++ [.resume slice]) asked)
    (hexchange : exchange = ⟨(start.run events).requested,
      (start.run events).clock + errand.hold (start.run events).delay, none⟩)
    (hlane : (start.run (events ++ [.resume slice])).lane slice =
      ⟨some ⟨course.queued.ticket, ahead, exchange⟩, later⟩)
    (hrequested : (start.run (events ++ [.resume slice])).requested =
      (start.run events).requested + 1)
    (hlog : (start.run (events ++ [.resume slice])).log =
      .request course.queued.ticket (start.run events).requested (errand.request client) state ::
        .commit course.queued.ticket epoch before :: (start.run events).log) :
    ∃ current, InTurn start (events ++ [.resume slice]) slice ended (some current) := by
  subst hexchange
  refine ⟨⟨course.queued, course.asked ++ [⟨errand, (start.run events).requested⟩], course.seen ++
    [.commit course.queued.ticket epoch before,
      .request course.queued.ticket (start.run events).requested (errand.request client) state]⟩,
    ?_, ?_, hended, ?_⟩
  · rw [hlane, actionsOf_resume, ← h.queue]
    simp
  · rw [actionsOf_resume, h.seenOn_next (show _ = [_, _] ++ _ from hlog) (by simp [Observation.ticket?])]
    simp
  · rw [hlane]
    refine .somebody ⟨rfl, h.shows.asks .., ?_, ⟨course.asked, errand, (start.run events).clock, rfl,
      fun asked hin => (h.resolved asked hin).concat _, ?_, ?_⟩, ?_, ?_⟩
    · rw [← h.onWay]
      simp
    · rw [madeAt?_concat, madeAt?_eq_none (Nat.le_refl _), ← run_concat, hrequested]
      simp
    · rw [run_delay]
    · rw [hrequested]
      exact Nat.lt_succ_self _
    · rw [answer?_concat, answer?_eq_none (Nat.le_refl _)]
      simp

theorem AtTurn.ends {ahead : List Errand} {later : List (Waiting Action)} {course : Course}
    {commits : List Observation} {result : Result}
    (h : AtTurn start events slice ended ahead later course)
    (hended : ∀ course ∈ ended, course.Ended ∧
      ∀ asked ∈ course.asked, Resolved start (events ++ [.resume slice]) asked)
    (hlane : (start.run (events ++ [.resume slice])).lane slice = ⟨none, later⟩)
    (hcommits : commits = [] ∨
      ∃ epoch state, commits = [.commit (some course.queued.ticket) epoch state])
    (hrefused : ((start.run events).lane slice).running = none →
      result = .edit (.error .invalidBaseState))
    (hlog : (start.run (events ++ [.resume slice])).log =
      .finish course.queued.ticket result :: (commits ++ (start.run events).log)) :
    ∃ course, InTurn start (events ++ [.resume slice]) slice (ended ++ [course]) none := by
  have hcourse : course.Underway := ⟨h.shows, ⟨ahead, h.onWay⟩⟩
  refine ⟨{ course with seen := course.seen ++ commits ++ [.finish course.queued.ticket result] },
    ?_, ?_, fun other hother => ?_, ?_⟩
  · rw [hlane, actionsOf_resume, ← h.queue]
    simp
  · rw [actionsOf_resume, h.seenOn_next (show _ = (_ :: commits) ++ _ from hlog)]
    · rcases hcommits with rfl | ⟨epoch, state, rfl⟩ <;> simp
    · rcases hcommits with rfl | ⟨epoch, state, rfl⟩ <;> simp [Observation.ticket?]
  · rcases List.mem_append.mp hother with hother | hother
    · exact hended other hother
    · rw [List.mem_singleton.mp hother]
      exact ⟨.intro hcourse hcommits (fun hnone => hrefused (h.idle hnone)),
        fun asked hin => (h.resolved asked hin).concat _⟩
  · rw [hlane]
    exact .nobody

/-- A turn of the slice. -/
theorem turn (h : InTurn start events slice ended current) :
    ∃ ended current, InTurn start (events ++ [.resume slice]) slice ended current := by
  have hended : ∀ course ∈ ended, course.Ended ∧
      ∀ asked ∈ course.asked, Resolved start (events ++ [.resume slice]) asked := by
    intro course hcourse
    obtain ⟨hends, hresolved⟩ := h.ended course hcourse
    exact ⟨hends, fun asked hin => (hresolved asked hin).concat _⟩
  have hmove := step_move (start.run events) slice
  rw [← run_concat] at hmove
  generalize hnext : start.run (events ++ [.resume slice]) = next at hmove
  cases hmove with
  | waits hready =>
    refine ⟨ended, current, ?_, ?_, hended, ?_⟩
    · rw [hnext, actionsOf_resume]
      exact h.queue
    · rw [hnext, actionsOf_resume]
      exact h.seen
    · rw [hnext]
      simpa [InFlight.after] using h.aloft.concat (.resume slice)
  | asks hturn hlane hrequested hlog =>
    subst hnext
    obtain ⟨course, rfl, hcourse⟩ := h.atTurn hturn
    obtain ⟨latest, hlatest⟩ := hcourse.asks hended rfl hlane hrequested hlog
    exact ⟨ended, some latest, hlatest⟩
  | ends hturn hlane hrequested hcommits hrefused hlog =>
    subst hnext
    obtain ⟨course, rfl, hcourse⟩ := h.atTurn hturn
    obtain ⟨last, hlast⟩ := hcourse.ends hended hlane hcommits hrefused hlog
    exact ⟨ended ++ [last], none, hlast⟩

theorem initial (settings : Settings) (slice : Slice) :
    InTurn (ofSettings settings) [] slice [] none := by
  refine ⟨?_, ?_, nofun, ?_⟩
  · cases slice <;> rfl
  · cases slice <;> rfl
  · cases slice <;> exact .nobody

end InTurn

end

theorem run_inTurn (settings : Settings) (events : List Event) (slice : Slice) :
    ∃ ended current, InTurn (ofSettings settings) events slice ended current := by
  induction events using List.reverseRecOn with
  | nil => exact ⟨[], none, .initial settings slice⟩
  | append_singleton first event ih =>
    obtain ⟨ended, current, h⟩ := ih
    by_cases hevent : event = .resume slice
    · subst hevent
      exact h.turn
    · exact ⟨ended, current, h.between (run_tickets settings first) hevent⟩

-- ---- Requests that are open

theorem Shows.asked_of_mem {ticket : Nat} {asked : List Asked} {seen : List Observation}
    (h : Shows ticket asked seen) {asker number : Nat} {request : Request} {state : State}
    (hin : .request asker number request state ∈ seen) :
    asker = ticket ∧ ∃ client errand, request = Errand.request client errand ∧
      ⟨errand, number⟩ ∈ asked := by
  induction h with
  | nothing => cases hin
  | asks h epoch before shown client errand latest ih =>
    simp only [List.mem_append, List.mem_cons, List.not_mem_nil, Observation.request.injEq,
      reduceCtorEq, false_or, or_false] at hin
    rcases hin with hin | ⟨rfl, rfl, rfl, -⟩
    · obtain ⟨rfl, client, errand, rfl, hasked⟩ := ih hin
      exact ⟨rfl, client, errand, rfl, List.mem_append_left _ hasked⟩
    · exact ⟨rfl, client, errand, rfl, by simp⟩

theorem Shows.mem_of_asked {ticket : Nat} {asked : List Asked} {seen : List Observation}
    (h : Shows ticket asked seen) {errand : Errand} {number : Nat} (hin : ⟨errand, number⟩ ∈ asked) :
    ∃ client state, .request ticket number (errand.request client) state ∈ seen := by
  induction h with
  | nothing => cases hin
  | asks h epoch before shown client latest count ih =>
    simp only [List.mem_append, List.mem_singleton, Asked.mk.injEq] at hin
    rcases hin with hin | ⟨rfl, rfl⟩
    · obtain ⟨client, state, hmem⟩ := ih hin
      exact ⟨client, state, List.mem_append_left _ hmem⟩
    · exact ⟨client, shown, by simp⟩

theorem Course.Ended.asked_of_mem {course : Course} (h : course.Ended) {asker number : Nat}
    {request : Request} {state : State} (hin : .request asker number request state ∈ course.seen) :
    ∃ client errand, request = Errand.request client errand ∧ ⟨errand, number⟩ ∈ course.asked := by
  cases h with
  | @intro before commits result h hcommits hrefused =>
    have hbefore : .request asker number request state ∈ before.seen := by
      rcases hcommits with rfl | ⟨epoch, shown, rfl⟩ <;> simpa using hin
    exact (h.shows.asked_of_mem hbefore).2

theorem Errand.hold_eq {client other : Client} {errand another : Errand}
    (h : errand.request client = another.request other) (delay : Nat) :
    errand.hold delay = another.hold delay := by
  have hheaders := congrArg Request.headers h
  cases errand <;> cases another <;> first
    | rfl
    | simp [request, Client.request, Client.callRequest, Client.loginRequest,
        Client.logoutRequest] at hheaders

section
variable {start : Store} {events : List Event} {slice : Slice} {ended : List Course}
  {current : Option Course}

theorem InTurn.running_of_open (h : InTurn start events slice ended current) {ticket number : Nat}
    (hopen : Open start events slice ticket number) :
    ∃ job, ((start.run events).lane slice).running = some job ∧ job.ticket = ticket ∧
      job.exchange.number = number := by
  obtain ⟨client, errand, state, hin, hunresolved⟩ := hopen
  -- Whichever way the request is read, its answer is held back as long.
  have hsame : ∀ {other another}, errand.request client = Errand.request other another →
      ¬ Resolved start events ⟨another, number⟩ := by
    rintro other another heq ⟨hanswered, made, hmade, hpassed⟩
    exact hunresolved ⟨hanswered, made, hmade, Errand.hold_eq heq start.delay ▸ hpassed⟩
  rw [h.seen, List.mem_flatMap] at hin
  obtain ⟨course, hcourse, hin⟩ := hin
  rcases List.mem_append.mp hcourse with hcourse | hcourse
  · obtain ⟨hends, hresolved⟩ := h.ended course hcourse
    obtain ⟨other, another, heq, hasked⟩ := hends.asked_of_mem hin
    exact absurd (hresolved _ hasked) (hsame heq)
  · have haloft := h.aloft
    rw [Option.mem_toList.mp hcourse] at haloft
    generalize ((start.run events).lane slice).running = running at haloft
    cases haloft with
    | @somebody _ job hawaits =>
      obtain ⟨rfl, other, another, heq, hasked⟩ := hawaits.shows.asked_of_mem hin
      obtain ⟨earlier, latest, made, hall, hearlier, -⟩ := hawaits.latest
      rw [hall, List.mem_append, List.mem_singleton, Asked.mk.injEq] at hasked
      rcases hasked with hasked | ⟨-, rfl⟩
      · exact absurd (hearlier _ hasked) (hsame heq)
      · exact ⟨job, rfl, hawaits.ticket.symm, rfl⟩

theorem InTurn.isReady (h : InTurn start events slice ended current) {first : Waiting Action}
    (hfirst : first ∈ (current.toList.map Course.queued ++
      ((start.run events).lane slice).waiting).head?)
    (hclosed : ∀ number, ¬ Open start events slice first.ticket number) :
    (start.run events).isReady slice ∧
      ((start.run events).lane slice).tickets.head? = some first.ticket := by
  have hready : (start.run events).isReady slice =
      ((start.run events).lane slice).isReady (start.run events).clock := by
    cases slice <;> simp [Store.isReady, lane]
  have hseen := h.seen
  have haloft := h.aloft
  rw [hready]
  generalize (start.run events).lane slice = lane at hfirst haloft ⊢
  obtain ⟨running, waiting⟩ := lane
  cases haloft with
  | nobody =>
    obtain ⟨later, rfl⟩ := List.head?_eq_some_iff.mp hfirst
    exact ⟨rfl, rfl⟩
  | @somebody course job hawaits =>
    cases hfirst
    refine ⟨?_, congrArg some hawaits.ticket.symm⟩
    refine hawaits.goesOn fun asked hin => ?_
    by_contra hunresolved
    obtain ⟨client, state, hmem⟩ := hawaits.shows.mem_of_asked hin
    refine hclosed asked.number ⟨client, asked.errand, state, ?_, hunresolved⟩
    rw [hseen]
    exact List.mem_flatMap.mpr ⟨course, by simp, hmem⟩

end

-- ---- The result

/-- At every moment of every run: a slice serves its actions in the order they were
started, and what is seen of it is what is seen of each in turn; at most one request on
it is open; and if none of its first action is, that action goes on at the slice's next
turn, whatever happens on the other slice. -/
theorem slice_serves_in_turn (settings : Settings) (events : List Event) (slice : Slice) :
    let start := ofSettings settings
    let store := start.run events
    (∃ (ended : List Course) (current : Option Course) (later : List (Waiting Action)),
      (ended ++ current.toList).map Course.queued ++ later = placedOn slice (actionsOf events) ∧
      seenOn slice (actionsOf events) store = (ended ++ current.toList).flatMap Course.seen ∧
      (∀ course ∈ ended, course.Ended ∧ ∀ asked ∈ course.asked, Resolved start events asked) ∧
      (∀ course ∈ current, course.Underway ∧ ∃ earlier latest,
        course.asked = earlier ++ [latest] ∧ ∀ asked ∈ earlier, Resolved start events asked) ∧
      ∀ first ∈ (current.toList.map Course.queued ++ later).head?,
        (∀ number, ¬ Open start events slice first.ticket number) →
        ∃ fresh ≠ [], (store.step (.resume slice)).log = fresh ++ store.log ∧
          ∀ seen ∈ fresh, seen.ticket? = some first.ticket) ∧
    ∀ {ticket number other another}, Open start events slice ticket number →
      Open start events slice other another → ticket = other ∧ number = another := by
  intro start store
  obtain ⟨ended, current, h⟩ := run_inTurn settings events slice
  refine ⟨⟨ended, current, (store.lane slice).waiting, h.queue, h.seen, h.ended, ?_, ?_⟩, ?_⟩
  · intro course hcourse
    have haloft := h.aloft
    rw [Option.mem_def.mp hcourse] at haloft
    generalize (((ofSettings settings).run events).lane slice).running = running at haloft
    cases haloft with
    | somebody hawaits =>
      obtain ⟨earlier, errand, made, hasked, hearlier, -⟩ := hawaits.latest
      exact ⟨⟨hawaits.shows, ⟨_, hawaits.onWay⟩⟩, earlier, _, hasked, hearlier⟩
  · intro first hfirst hclosed
    obtain ⟨hready, hhead⟩ := h.isReady hfirst hclosed
    obtain ⟨fresh, hlog, hgoesOn, hseen⟩ := (step_move store slice).fresh
    exact ⟨fresh, hgoesOn hready, hlog, fun seen hin => (hseen seen hin).trans hhead⟩
  · -- Both are the request that the action in flight waits for.
    intro ticket number other another hopen hother
    obtain ⟨job, hrun, rfl, rfl⟩ := h.running_of_open hopen
    obtain ⟨same, hsame, rfl, rfl⟩ := h.running_of_open hother
    obtain rfl := Option.some.inj (hrun.symm.trans hsame)
    exact ⟨rfl, rfl⟩

end BlogDesk.Store
