import BlogDesk.Proofs.Store.Landings
import BlogDesk.Proofs.Store.Unheld

/-!
# The delay only shifts time

A request is handed over in the turn that makes it, and the delay counts from then. Until the
action goes on it waits: for the answer, and for a call until the delay is over as well.
`delay_only_shifts_time` says that it can go on from the first moment when nothing of both is
missing, with the very answer that came, and that all that is ever seen is what is seen
without a delay when the answers themselves come that late.
-/

namespace BlogDesk.Store

-- ---- One request

/-- A request of an action, and the time when it was handed over. -/
structure Handed where
  ticket : Nat
  errand : Errand
  number : Nat
  time : Nat

namespace Handed

def due (handed : Handed) (delay : Nat) : Nat := handed.time + handed.errand.hold delay

/-- What the request has come to: its answer, once that is there and let in. -/
def outcome? (handed : Handed) (called : Store) (events : List Event) : Option Reception :=
  if handed.due called.delay ≤ (called.run events).clock then called.answer? handed.number events
  else none

end Handed

def goOn (store : Store) (reception : Reception) : Slice → Store
  | .user =>
    match store.users.running with
    | some job => store.continueUser job.ticket reception job.stage
    | none => store
  | .blogs =>
    match store.blogs.running with
    | some job => store.continueBlogs job.ticket reception job.stage
    | none => store

theorem resume_of_running {store : Store} {slice : Slice} {job : InFlight (List Errand)}
    (h : (store.lane slice).running = some job) : store.step (.resume slice) =
      match job.exchange.resolved? store.clock with
      | some reception => store.goOn reception slice
      | none => store := by
  cases slice with
  | user =>
    simp only [lane, Flight.map, Option.map_eq_some_iff] at h
    obtain ⟨job, hrun, rfl⟩ := h
    cases hcame : job.exchange.resolved? store.clock <;>
      simp only [step, resumeUser, goOn, hrun, hcame]
  | blogs =>
    simp only [lane, Flight.map, Option.map_eq_some_iff] at h
    obtain ⟨job, hrun, rfl⟩ := h
    cases hcame : job.exchange.resolved? store.clock <;>
      simp only [step, resumeBlogs, goOn, hrun, hcame]

theorem isReady_of_running {store : Store} {slice : Slice} {job : InFlight (List Errand)}
    (h : (store.lane slice).running = some job) :
    store.isReady slice = (job.exchange.resolved? store.clock).isSome := by
  have hready : store.isReady slice = (store.lane slice).isReady store.clock := by
    cases slice <;> simp [isReady, lane]
  rw [hready, Flight.isReady, h]

/-- The action waits for the answer to that request, as far as it has come. -/
structure Pending (called : Store) (slice : Slice) (handed : Handed) (ahead : List Errand)
    (events : List Event) : Prop where
  running : ((called.run events).lane slice).running = some ⟨handed.ticket, ahead,
    ⟨handed.number, handed.due called.delay, called.answer? handed.number events⟩⟩
  made : handed.number < called.requested

namespace Pending

variable {called : Store} {slice : Slice} {handed : Handed} {ahead : List Errand}
  {events : List Event}

theorem between (h : Pending called slice handed ahead events) {event : Event}
    (hevent : event ≠ .resume slice) : Pending called slice handed ahead (events ++ [event]) := by
  have hstill := Nat.lt_of_lt_of_le h.made (requested_le_run called events)
  refine ⟨?_, h.made⟩
  rw [run_concat, lane_step _ hevent, Flight.after, h.running, Option.map_some, InFlight.after_eq]
  simp only [answer?_concat, if_pos hstill]

theorem resume (h : Pending called slice handed ahead events) :
    (called.run events).step (.resume slice) =
      match handed.outcome? called events with
      | some reception => (called.run events).goOn reception slice
      | none => called.run events :=
  resume_of_running h.running

theorem isReady (h : Pending called slice handed ahead events) :
    (called.run events).isReady slice = (handed.outcome? called events).isSome :=
  isReady_of_running h.running

theorem waits (h : Pending called slice handed ahead events)
    (hnone : handed.outcome? called events = none) :
    Pending called slice handed ahead (events ++ [.resume slice]) := by
  have hsame := h.resume
  rw [hnone] at hsame
  refine ⟨?_, h.made⟩
  rw [run_concat, hsame, h.running, answer?_concat]
  simp [Event.answer?]

theorem run (h : Pending called slice handed ahead []) (events : List Event)
    (hnone : ∀ middle rest, events = middle ++ .resume slice :: rest →
      handed.outcome? called middle = none) : Pending called slice handed ahead events := by
  induction events using List.reverseRecOn with
  | nil => exact h
  | append_singleton first event ih =>
    have hfirst := ih fun middle rest heq => hnone middle (rest ++ [event]) (by simp [heq])
    by_cases hevent : event = .resume slice
    · subst hevent
      exact hfirst.waits (hnone first [] rfl)
    · exact hfirst.between hevent

end Pending

theorem Handed.outcome?_of_hold {called : Store} {handed : Handed} (htime : handed.time ≤ called.clock)
    (hhold : handed.errand.hold called.delay = 0) (events : List Event) :
    handed.outcome? called events = called.answer? handed.number events := by
  refine if_pos ?_
  rw [due, hhold, Nat.add_zero]
  exact Nat.le_trans htime (run_keeps (P := fun later => called.clock ≤ later.clock)
    (fun later event h => Nat.le_trans h (step_timing later event).1) (Nat.le_refl _) events)

theorem Errand.hold_eq_zero {delay : Nat} (errand : Errand)
    (h : delay = 0 ∨ ∀ operation, errand ≠ .call operation) : errand.hold delay = 0 := by
  cases errand with
  | login credentials => rfl
  | logout => rfl
  | call operation => exact h.resolve_right fun hne => hne operation rfl

theorem hands_over {store : Store} {slice : Slice}
    (h : store.requested < (store.step (.resume slice)).requested) :
    ∃ (handed : Handed) (ahead : List Errand) (later : List (Waiting Action)),
      HasTurn store.clock handed.ticket (handed.errand :: ahead) later (store.lane slice) ∧
      handed.time = store.clock ∧ handed.number = store.requested ∧
      (∃ client epoch before state, (store.step (.resume slice)).log =
        .request handed.ticket handed.number (handed.errand.request client) state ::
          .commit handed.ticket epoch before :: store.log) ∧
      Pending (store.step (.resume slice)) slice handed ahead [] := by
  obtain ⟨hclock, hdelay⟩ := resume_timing store slice
  have hmove := step_move store slice
  generalize store.step (.resume slice) = called at h hclock hdelay hmove
  cases hmove with
  | waits hready => exact absurd h (Nat.lt_irrefl _)
  | ends hturn hlane hrequested hcommits hrefused hlog => exact absurd h (by omega)
  | @asks _ ticket epoch errand ahead later client before state hturn hlane hrequested hlog =>
    refine ⟨⟨ticket, errand, store.requested, store.clock⟩, ahead, later, hturn, rfl, rfl,
      ⟨client, epoch, before, state, hlog⟩, ?_, h⟩
    rw [run_nil, hlane, Handed.due, hdelay]
    rfl

-- ---- The result

/-- The run of the same events without a delay, where each answer comes when the delay would
let it in. -/
def undelayed (settings : Settings) (events : List Event) : Store :=
  (ofSettings { settings with delay := 0 }).run ((ofSettings settings).deferred events)

theorem unheld_undelayed (settings : Settings) (events : List Event) :
    Unheld ((ofSettings settings).run events) (undelayed settings events) :=
  (Unheld.initial settings).run (.initial settings) events

/-- A request that a turn makes is handed over at once. From then on, until the action goes on
with what it came to, the action can go on just when it came to something: when its answer is
there and, after a call, the delay is over as well. And any run shows what the run without the
delay shows. -/
theorem delay_only_shifts_time (settings : Settings) {first : List Event} {slice : Slice}
    (hasks : ((ofSettings settings).run first).requested <
      ((ofSettings settings).run (first ++ [.resume slice])).requested) :
    let store := (ofSettings settings).run first
    let called := (ofSettings settings).run (first ++ [.resume slice])
    (∃ (handed : Handed) (ahead : List Errand) (later : List (Waiting Action)),
      HasTurn store.clock handed.ticket (handed.errand :: ahead) later (store.lane slice) ∧
      handed.number = store.requested ∧ handed.time = store.clock ∧ called.clock = store.clock ∧
      (∃ client epoch before state, called.log =
        .request handed.ticket handed.number (handed.errand.request client) state ::
          .commit handed.ticket epoch before :: store.log) ∧
      handed.due called.delay = store.clock + handed.errand.hold settings.delay ∧
      (settings.delay = 0 ∨ (∀ operation, handed.errand ≠ .call operation) →
        ∀ events, handed.outcome? called events = called.answer? handed.number events) ∧
      ∀ events, (∀ middle rest, events = middle ++ .resume slice :: rest →
          handed.outcome? called middle = none) →
        let now := called.run events
        now.isReady slice = (handed.outcome? called events).isSome ∧
        now.step (.resume slice) = (match handed.outcome? called events with
          | some reception => now.goOn reception slice
          | none => now) ∧
        ∃ exchange, ((undelayed settings (first ++ [.resume slice] ++ events)).lane slice).running =
            some ⟨handed.ticket, ahead, exchange⟩ ∧
          exchange.number = handed.number ∧ exchange.reception = handed.outcome? called events) ∧
    ∀ events, let delayed := (ofSettings settings).run events
      (undelayed settings events).log = delayed.log ∧
      (undelayed settings events).state = delayed.state ∧
      (undelayed settings events).clock = delayed.clock ∧
      ∀ slice, (undelayed settings events).isReady slice = delayed.isReady slice := by
  intro store called
  have hcalled : called = store.step (.resume slice) := run_concat ..
  have hdelay : called.delay = settings.delay := run_delay ..
  refine ⟨?_, fun events => ?_⟩
  · obtain ⟨handed, ahead, later, hturn, htime, hnumber, hlog, hpending⟩ :=
      @hands_over store slice (hcalled ▸ hasks)
    rw [← hcalled] at hlog hpending
    have hclock : called.clock = store.clock := hcalled ▸ (resume_timing store slice).1
    refine ⟨handed, ahead, later, hturn, hnumber, htime, hclock, hlog, ?_, fun hfree => ?_,
      fun events hnone => ?_⟩
    · rw [Handed.due, htime, hdelay]
    · refine Handed.outcome?_of_hold (Nat.le_of_eq (htime.trans hclock.symm)) ?_
      exact hdelay ▸ handed.errand.hold_eq_zero hfree
    · -- Until it goes on the action waits for this request, in the store without a delay too.
      have hwaits := hpending.run events hnone
      refine ⟨hwaits.isReady, hwaits.resume, ?_⟩
      have hlane := (unheld_undelayed settings (first ++ [.resume slice] ++ events)).lane slice
      have hsplit : (ofSettings settings).run (first ++ [.resume slice] ++ events) =
        called.run events := run_append ..
      rw [hsplit] at hlane
      exact hlane.waits_for hwaits.running
  · have hsame := unheld_undelayed settings events
    obtain ⟨hlog, hstate, hclock⟩ := hsame.seen
    exact ⟨hlog, hstate, hclock, fun slice => hsame.isReady slice⟩

/-- A call fails at once, and the action on it is asked to go on before the delay is over. -/
def quickFailure : List Event :=
  [.receive 0 (.error (.transport "gone")), .pass 499, .resume .user, .pass 1]

theorem delay_only_shifts_time_quickFailure :
    let store := (ofSettings { delay := 500 }).run [.start (.user .checkLogin)]
    let called := (ofSettings { delay := 500 }).run [.start (.user .checkLogin), .resume .user]
    store.requested < called.requested ∧ ∃ handed : Handed, handed.due called.delay = 500 ∧
      handed.outcome? called (quickFailure.take 2) = none ∧
      (called.run quickFailure).isReady .user = true ∧
      (called.run quickFailure).step (.resume .user) =
        (called.run quickFailure).goOn (.error (.transport "gone")) .user := by
  intro store called
  obtain ⟨hwaits, -⟩ :=
    @delay_only_shifts_time { delay := 500 } [.start (.user .checkLogin)] .user (by decide)
  obtain ⟨⟨ticket, errand, number, time⟩, ahead, later, hturn, hnumber, htime, -, -, hdue, -, hgo⟩ :=
    hwaits
  obtain rfl : number = 0 := hnumber
  obtain rfl : time = 0 := htime
  cases hturn with
  | begins hahead =>
    cases hahead
    have hsplits : ∀ middle rest, quickFailure = middle ++ .resume .user :: rest →
        middle = quickFailure.take 2 := by
      intro middle rest hsplit
      rcases middle with _ | ⟨_, _ | ⟨_, _ | ⟨_, _ | ⟨_, _⟩⟩⟩⟩ <;> simp_all [quickFailure]
    have hearly : Handed.outcome? ⟨0, .call .whoami, 0, 0⟩ called (quickFailure.take 2) = none :=
      if_neg (by decide)
    have hgoes := hgo quickFailure fun middle rest hsplit => hsplits middle rest hsplit ▸ hearly
    exact ⟨by decide, _, hdue, hearly, hgoes.1, hgoes.2.1⟩

end BlogDesk.Store
