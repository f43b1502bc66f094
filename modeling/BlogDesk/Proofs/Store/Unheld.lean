import BlogDesk.Proofs.Store.Slices

/-!
# Stores without a delay

A store without a delay sees the same as one with a delay if the answers to its calls come
later: at the moment when the other one lets them in. `Event.deferred` puts them off so, and
`Unheld.run` says that the two then go on in step, through all that any action does.
-/

namespace BlogDesk.Store

-- ---- Exchanges without a delay

/-- The exchange of the same request where no answer is held back: there the answer comes
once it is let in here. -/
structure Exchange.Unheld (clock : Nat) (held free : Exchange) : Prop where
  number : free.number = held.number
  due : free.due ≤ clock
  reception : free.reception = held.resolved? clock

namespace Exchange

theorem answered_eq (exchange : Exchange) (number : Nat) (reception : Reception) :
    exchange.answered number reception = { exchange with
      reception := exchange.reception.or (if exchange.number = number then some reception else none) } := by
  obtain ⟨own, due, came⟩ := exchange
  unfold answered
  cases came <;> by_cases hnumber : own = number <;> simp [hnumber]

theorem resolved?_of_early {exchange : Exchange} {clock : Nat} (h : clock < exchange.due) :
    exchange.resolved? clock = none :=
  if_neg (Nat.not_le_of_lt h)

theorem resolved?_of_due {exchange : Exchange} {clock : Nat} (h : exchange.due ≤ clock) :
    exchange.resolved? clock = exchange.reception :=
  if_pos h

namespace Unheld

variable {clock : Nat} {held free : Exchange}

theorem holds (h : held.Unheld clock free) (hearly : clock < held.due) (number : Nat)
    (reception : Reception) : (held.answered number reception).Unheld clock free := by
  refine ⟨?_, h.due, ?_⟩
  · rw [answered_number, h.number]
  · have hdue : clock < (held.answered number reception).due := by
      rw [answered_eq]
      exact hearly
    rw [h.reception, resolved?_of_early hearly, resolved?_of_early hdue]

theorem answered (h : held.Unheld clock free) {number : Nat}
    (hdue : held.number = number → held.due ≤ clock) (reception : Reception) :
    (held.answered number reception).Unheld clock (free.answered number reception) := by
  rw [answered_eq, answered_eq, h.number]
  refine ⟨rfl, h.due, ?_⟩
  by_cases hearly : clock < held.due
  · have hother : held.number ≠ number := fun heq => absurd (hdue heq) (Nat.not_le_of_lt hearly)
    simp only [if_neg hother, Option.or_none]
    exact h.reception
  · have hlate : held.due ≤ clock := Nat.le_of_not_lt hearly
    rw [h.reception, resolved?_of_due hlate]
    refine Eq.symm (resolved?_of_due ?_)
    exact hlate

theorem later (h : held.Unheld clock free) {milliseconds : Nat}
    (hnone : clock < held.due → held.resolved? (clock + milliseconds) = none) :
    held.Unheld (clock + milliseconds) free := by
  refine ⟨h.number, Nat.le_add_right_of_le h.due, ?_⟩
  by_cases hearly : clock < held.due
  · rw [h.reception, resolved?_of_early hearly, hnone hearly]
  · have hlate : held.due ≤ clock := Nat.le_of_not_lt hearly
    rw [h.reception, resolved?_of_due hlate, resolved?_of_due (Nat.le_add_right_of_le hlate)]

theorem letIn (h : held.Unheld clock free) {milliseconds : Nat} {reception : Reception}
    (hearly : clock < held.due) (hcame : held.resolved? (clock + milliseconds) = some reception) :
    held.Unheld (clock + milliseconds) (free.answered held.number reception) := by
  have hnone : free.reception = none := h.reception.trans (resolved?_of_early hearly)
  rw [answered_eq, if_pos h.number, hnone]
  exact ⟨h.number, Nat.le_add_right_of_le h.due, hcame.symm⟩

end Unheld

end Exchange

-- ---- Flights without a delay

section
variable {α σ : Type}

inductive Flight.Unheld (clock : Nat) : Flight α σ → Flight α σ → Prop
  | idle (waiting : List (Waiting α)) : Unheld clock ⟨none, waiting⟩ ⟨none, waiting⟩
  | busy {held free : Exchange} (h : held.Unheld clock free) (ticket : Nat) (stage : σ)
      (waiting : List (Waiting α)) :
    Unheld clock ⟨some ⟨ticket, stage, held⟩, waiting⟩ ⟨some ⟨ticket, stage, free⟩, waiting⟩

def Flight.Holds (clock number : Nat) (flight : Flight α σ) : Prop :=
  ∃ job ∈ flight.running, job.exchange.number = number ∧ clock < job.exchange.due

instance (clock number : Nat) (flight : Flight α σ) :
    Decidable (flight.Holds clock number) :=
  inferInstanceAs (Decidable (∃ job ∈ flight.running,
    job.exchange.number = number ∧ clock < job.exchange.due))

def Flight.letIn (clock milliseconds : Nat) (flight : Flight α σ) : List Event :=
  match flight.running with
  | some job =>
    if clock < job.exchange.due then
      ((job.exchange.resolved? (clock + milliseconds)).map (.receive job.exchange.number)).toList
    else []
  | none => []

variable {clock : Nat} {held free : Flight α σ}

theorem Flight.receive_of_ne {flight : Flight α σ} {number : Nat}
    (hne : ∀ job ∈ flight.running, job.exchange.number ≠ number) (reception : Reception) :
    flight.receive number reception = flight := by
  unfold Flight.receive
  split
  · rename_i job hrun
    exact if_neg fun h => hne job hrun h.1
  · rfl

namespace Flight.Unheld

theorem waiting_eq (h : held.Unheld clock free) : free.waiting = held.waiting := by
  cases h <;> rfl

theorem isReady (h : held.Unheld clock free) : free.isReady clock = held.isReady clock := by
  cases h with
  | idle waiting => rfl
  | busy h => exact congrArg Option.isSome ((Exchange.resolved?_of_due h.due).trans h.reception)

/-- Both are idle, or both wait for answers that are let in at the same time. -/
theorem running (h : held.Unheld clock free) :
    held.running = none ∧ free.running = none ∨ ∃ ticket stage old new,
      held.running = some ⟨ticket, stage, old⟩ ∧ free.running = some ⟨ticket, stage, new⟩ ∧
        new.resolved? clock = old.resolved? clock := by
  cases h with
  | idle waiting => exact .inl ⟨rfl, rfl⟩
  | @busy old new h ticket stage waiting =>
    exact .inr ⟨ticket, stage, old, new, rfl, rfl, (Exchange.resolved?_of_due h.due).trans h.reception⟩

theorem receive_of_ne (h : held.Unheld clock free) {number : Nat}
    (hne : ∀ job ∈ held.running, job.exchange.number ≠ number) (reception : Reception) :
    free.receive number reception = free := by
  refine Flight.receive_of_ne (fun job hrun => ?_) reception
  cases h with
  | idle waiting => cases hrun
  | busy h =>
    cases hrun
    exact h.number ▸ hne _ rfl

theorem other (h : held.Unheld clock free) {number : Nat}
    (hne : ∀ job ∈ held.running, job.exchange.number ≠ number) (reception : Reception) :
    held.Unheld clock (free.receive number reception) := by
  rw [h.receive_of_ne hne]
  exact h

theorem holds (h : held.Unheld clock free) {number : Nat} (hholds : held.Holds clock number)
    (reception : Reception) : (held.receive number reception).Unheld clock free := by
  obtain ⟨job, hrun, hnumber, hearly⟩ := hholds
  rw [Flight.receive_eq]
  cases h with
  | idle waiting => cases hrun
  | busy h ticket stage waiting =>
    cases hrun
    exact .busy (h.holds hearly number reception) ticket stage waiting

theorem receive (h : held.Unheld clock free) {number : Nat} (hholds : ¬ held.Holds clock number)
    (reception : Reception) :
    (held.receive number reception).Unheld clock (free.receive number reception) := by
  rw [Flight.receive_eq, Flight.receive_eq]
  cases h with
  | idle waiting => exact .idle waiting
  | busy h ticket stage waiting =>
    refine .busy (h.answered (fun hnumber => ?_) reception) ticket stage waiting
    exact Nat.le_of_not_lt fun hearly => hholds ⟨_, rfl, hnumber, hearly⟩

theorem pass (h : held.Unheld clock free) (milliseconds : Nat) :
    held.letIn clock milliseconds = [] ∧ held.Unheld (clock + milliseconds) free ∨
      ∃ job ∈ held.running, ∃ reception,
        held.letIn clock milliseconds = [.receive job.exchange.number reception] ∧
        held.Unheld (clock + milliseconds) (free.receive job.exchange.number reception) := by
  cases h with
  | idle waiting => exact .inl ⟨rfl, .idle waiting⟩
  | @busy old new h ticket stage waiting =>
    by_cases hearly : clock < old.due
    · cases hcame : old.resolved? (clock + milliseconds) with
      | none =>
        refine .inl ⟨?_, .busy (h.later fun _ => hcame) ticket stage waiting⟩
        simp [letIn, hearly, hcame]
      | some reception =>
        refine .inr ⟨_, rfl, reception, ?_, ?_⟩
        · simp [letIn, hearly, hcame]
        · rw [Flight.receive_eq]
          exact .busy (h.letIn hearly hcame) ticket stage waiting
    · refine .inl ⟨?_, .busy (h.later fun hlt => absurd hlt hearly) ticket stage waiting⟩
      simp [letIn, hearly]

theorem enqueue (h : held.Unheld clock free) (ticket : Nat) (action : α) :
    (held.enqueue ticket action).Unheld clock (free.enqueue ticket action) := by
  cases h with
  | idle waiting => exact .idle _
  | busy h other stage waiting => exact .busy h other stage _

theorem map {β τ : Type} (h : held.Unheld clock free) (f : α → β) (g : σ → τ) :
    (held.map f g).Unheld clock (free.map f g) := by
  cases h with
  | idle waiting => exact .idle _
  | busy h ticket stage waiting => exact .busy h ticket (g stage) _

/-- What an action asks for is held back in the one and not in the other. -/
theorem asks (h : held.Unheld clock free) (number delay ticket : Nat) (stage : σ) :
    Flight.Unheld clock
      { held with running := some ⟨ticket, stage, { number, due := clock + delay }⟩ }
      { free with running := some ⟨ticket, stage, { number, due := clock + 0 }⟩ } := by
  have hnone : Exchange.resolved? ⟨number, clock + delay, none⟩ clock = none := ite_self none
  have hasked : Exchange.Unheld clock ⟨number, clock + delay, none⟩ ⟨number, clock + 0, none⟩ :=
    ⟨rfl, Nat.le_refl _, hnone.symm⟩
  cases h with
  | idle waiting => exact .busy hasked ticket stage waiting
  | busy h other old waiting => exact .busy hasked ticket stage waiting

theorem waits_for (h : held.Unheld clock free) {ticket : Nat} {stage : σ} {old : Exchange}
    (hrun : held.running = some ⟨ticket, stage, old⟩) : ∃ new,
      free.running = some ⟨ticket, stage, new⟩ ∧ new.number = old.number ∧
        new.reception = old.resolved? clock := by
  cases h with
  | idle waiting => cases hrun
  | busy h => cases hrun; exact ⟨_, rfl, h.number, h.reception⟩

theorem ends (h : held.Unheld clock free) :
    Flight.Unheld clock (⟨none, held.waiting⟩ : Flight α σ) ⟨none, free.waiting⟩ := by
  cases h <;> exact .idle _

end Flight.Unheld

end

-- ---- Stores without a delay

/-- The events that stand for one in a store without a delay: an answer that is held back here
comes there as soon as it is let in here. -/
def Event.deferred (store : Store) : Event → List Event
  | .receive number reception =>
    if store.users.Holds store.clock number ∨ store.blogs.Holds store.clock number then []
    else [.receive number reception]
  | .pass milliseconds =>
    .pass milliseconds :: (store.users.letIn store.clock milliseconds ++
      store.blogs.letIn store.clock milliseconds)
  | event => [event]

def deferred (store : Store) : List Event → List Event
  | [] => []
  | event :: rest => event.deferred store ++ (store.step event).deferred rest

/-- The same store without a delay. Where the two wait, they wait for the same. -/
inductive Unheld (held : Store) : Store → Prop
  | intro {users : Flight UserAction UserStage} {blogs : Flight BlogAction BlogStage}
      (husers : held.users.Unheld held.clock users) (hblogs : held.blogs.Unheld held.clock blogs) :
    Unheld held { held with delay := 0, users, blogs }

namespace Unheld

variable {held free : Store}

theorem commitUser (h : Unheld held free) (ticket : Option Nat) (user : Loadable User) :
    Unheld (held.commitUser ticket user) (free.commitUser ticket user) := by
  cases h with
  | intro husers hblogs =>
    rw [commitUser_eq, commitUser_eq]
    exact .intro husers hblogs

theorem commitBlogs (h : Unheld held free) (ticket : Option Nat) (blogs : Loadable (List Blog)) :
    Unheld (held.commitBlogs ticket blogs) (free.commitBlogs ticket blogs) := by
  cases h with
  | intro husers hblogs => exact .intro husers hblogs

theorem commitBlogsIn (h : Unheld held free) (epoch ticket : Nat) (blogs : Loadable (List Blog)) :
    Unheld (held.commitBlogsIn epoch ticket blogs) (free.commitBlogsIn epoch ticket blogs) := by
  have hsame : free.epoch = held.epoch := by cases h; rfl
  unfold Store.commitBlogsIn
  rw [hsame]
  split
  · exact h.commitBlogs ..
  · exact h

theorem sendAsUser (h : Unheld held free) (ticket : Nat) (stage : UserStage)
    (request : Client → Request) :
    Unheld (held.sendAsUser ticket stage (request held.client) 0)
      (free.sendAsUser ticket stage (request free.client) 0) := by
  cases h with
  | intro husers hblogs => exact .intro (husers.asks _ 0 ticket stage) hblogs

theorem callAsUser (h : Unheld held free) (ticket : Nat) (stage : UserStage) (operation : Operation) :
    Unheld (held.callAsUser ticket stage operation) (free.callAsUser ticket stage operation) := by
  cases h with
  | intro husers hblogs => exact .intro (husers.asks _ held.delay ticket stage) hblogs

theorem callForBlogs (h : Unheld held free) (ticket : Nat) (stage : BlogStage)
    (operation : Operation) :
    Unheld (held.callForBlogs ticket stage operation) (free.callForBlogs ticket stage operation) := by
  cases h with
  | intro husers hblogs => exact .intro husers (hblogs.asks _ held.delay ticket stage)

theorem finishUser (h : Unheld held free) (ticket : Nat) (result : Result) :
    Unheld (held.finishUser ticket result) (free.finishUser ticket result) := by
  cases h with
  | intro husers hblogs => exact .intro husers.ends hblogs

theorem finishBlogs (h : Unheld held free) (ticket : Nat) (result : Result) :
    Unheld (held.finishBlogs ticket result) (free.finishBlogs ticket result) := by
  cases h with
  | intro husers hblogs => exact .intro husers hblogs.ends

theorem signIn (h : Unheld held free) (ticket : Nat) (registering : Bool)
    (credentials : Credentials) :
    Unheld (held.signIn ticket registering credentials)
      (free.signIn ticket registering credentials) :=
  (h.commitUser ticket .loading).sendAsUser ticket _ (·.loginRequest credentials)

theorem checkSession (h : Unheld held free) (ticket : Nat) (registering : Bool) :
    Unheld (held.checkSession ticket registering) (free.checkSession ticket registering) :=
  (h.commitUser ticket .loading).callAsUser ..

theorem beginUser (h : Unheld held free) (ticket : Nat) (action : UserAction) :
    Unheld (held.beginUser ticket action) (free.beginUser ticket action) := by
  have hcommit := h.commitUser ticket .loading
  cases action with
  | register user => exact hcommit.callAsUser ..
  | login credentials => exact h.signIn ..
  | logout => exact hcommit.sendAsUser ticket _ (·.logoutRequest)
  | checkLogin => exact h.checkSession ..

theorem endUser (h : Unheld held free) (ticket : Nat) (user : Loadable User) (result : Result) :
    Unheld ((held.commitUser ticket user).finishUser ticket result)
      ((free.commitUser ticket user).finishUser ticket result) :=
  (h.commitUser ticket user).finishUser ..

theorem continueUser (h : Unheld held free) (ticket : Nat) (reception : Reception)
    (stage : UserStage) :
    Unheld (held.continueUser ticket reception stage) (free.continueUser ticket reception stage) := by
  cases stage with
  | creating credentials =>
    simp only [Store.continueUser]
    split
    · exact h.signIn ..
    · exact h.endUser ..
  | signingIn registering =>
    simp only [Store.continueUser]
    split
    · exact h.checkSession ..
    · exact h.endUser ..
    · exact h.endUser ..
  | checking registering =>
    simp only [Store.continueUser]
    split
    · exact h.endUser ..
    · exact h.endUser ..
  | signingOut =>
    simp only [Store.continueUser]
    split
    · exact h.endUser ..
    · exact h.endUser ..

theorem beginBlogs (h : Unheld held free) (ticket : Nat) (action : BlogAction) :
    Unheld (held.beginBlogs ticket action) (free.beginBlogs ticket action) := by
  have hcommit := h.commitBlogs ticket .loading
  have hsame : free.epoch = held.epoch ∧ free.state = held.state := by cases h; exact ⟨rfl, rfl⟩
  cases action with
  | load =>
    simp only [Store.beginBlogs, hsame.1]
    exact hcommit.callForBlogs ..
  | change edit =>
    simp only [Store.beginBlogs, hsame]
    split
    · exact hcommit.callForBlogs ..
    · exact h.finishBlogs ..

theorem continueBlogs (h : Unheld held free) (ticket : Nat) (reception : Reception)
    (stage : BlogStage) :
    Unheld (held.continueBlogs ticket reception stage)
      (free.continueBlogs ticket reception stage) := by
  rw [continueBlogs_eq, continueBlogs_eq]
  exact (h.commitBlogsIn ..).finishBlogs ..

theorem resumeUser (h : Unheld held free) : Unheld held.resumeUser free.resumeUser := by
  cases h with
  | @intro users blogs husers hblogs =>
    have hsame := Unheld.intro husers hblogs
    have hwaiting := husers.waiting_eq
    unfold Store.resumeUser
    rcases husers.running with ⟨hheld, hfree⟩ | ⟨ticket, stage, old, new, hheld, hfree, hcame⟩
    · simp only [hheld, hfree, hwaiting]
      cases held.users.waiting with
      | nil => exact hsame
      | cons next later =>
        have hnext : Unheld { held with users := ⟨none, later⟩ }
            { held with delay := 0, users := ⟨none, later⟩, blogs } := .intro (.idle later) hblogs
        exact hnext.beginUser ..
    · simp only [hheld, hfree, hcame]
      split
      · exact hsame.continueUser ..
      · exact hsame

theorem resumeBlogs (h : Unheld held free) : Unheld held.resumeBlogs free.resumeBlogs := by
  cases h with
  | @intro users blogs husers hblogs =>
    have hsame := Unheld.intro husers hblogs
    have hwaiting := hblogs.waiting_eq
    unfold Store.resumeBlogs
    rcases hblogs.running with ⟨hheld, hfree⟩ | ⟨ticket, stage, old, new, hheld, hfree, hcame⟩
    · simp only [hheld, hfree, hwaiting]
      cases held.blogs.waiting with
      | nil => exact hsame
      | cons next later =>
        have hnext : Unheld { held with blogs := ⟨none, later⟩ }
            { held with delay := 0, users, blogs := ⟨none, later⟩ } := .intro husers (.idle later)
        exact hnext.beginBlogs ..
    · simp only [hheld, hfree, hcame]
      split
      · exact hsame.continueBlogs ..
      · exact hsame

end Unheld

structure Apart (store : Store) : Prop where
  made : ∀ slice, ∀ job ∈ (store.lane slice).running, job.exchange.number < store.requested
  ne : ∀ slice other, slice ≠ other → ∀ job ∈ (store.lane slice).running,
    ∀ another ∈ (store.lane other).running, job.exchange.number ≠ another.exchange.number

namespace Apart

variable {store : Store}

theorem initial (settings : Settings) : Apart (ofSettings settings) := by
  refine ⟨fun slice job hjob => ?_, fun slice other hne job hjob => ?_⟩ <;> cases slice <;> cases hjob

theorem step (h : Apart store) (event : Event) : Apart (store.step event) := by
  have hle := requested_le_step store event
  -- Whatever waits afterwards waited before, or was asked for just now under the next number.
  have hfrom : ∀ slice, ∀ job ∈ ((store.step event).lane slice).running,
      (∃ old ∈ (store.lane slice).running, old.exchange.number = job.exchange.number) ∨
        event = .resume slice ∧ job.exchange.number = store.requested ∧
          (store.step event).requested = store.requested + 1 := by
    intro slice job hjob
    by_cases hevent : event = .resume slice
    · subst hevent
      have hmove := step_move store slice
      generalize store.step (.resume slice) = next at hjob hmove
      cases hmove with
      | waits hready => exact .inl ⟨job, hjob, rfl⟩
      | asks hturn hlane hrequested hlog =>
        rw [hlane] at hjob
        cases hjob
        exact .inr ⟨rfl, rfl, hrequested⟩
      | ends hturn hlane hrequested hcommits hrefused hlog =>
        rw [hlane] at hjob
        cases hjob
    · rw [lane_step store hevent] at hjob
      obtain ⟨old, hold, rfl⟩ := Option.map_eq_some_iff.mp hjob
      exact .inl ⟨old, hold, (old.after_number event).symm⟩
  refine ⟨fun slice job hjob => ?_, fun slice other hne job hjob another hanother => ?_⟩
  · rcases hfrom slice job hjob with ⟨old, hold, hnumber⟩ | ⟨-, hnumber, hrequested⟩
    · have := h.made slice old hold
      omega
    · omega
  · rcases hfrom slice job hjob with ⟨old, hold, hnumber⟩ | ⟨hevent, hnumber, -⟩ <;>
      rcases hfrom other another hanother with ⟨older, holder, hother⟩ | ⟨hagain, hother, -⟩
    · have := h.ne slice other hne old hold older holder
      omega
    · have := h.made slice old hold
      omega
    · have := h.made other older holder
      omega
    · cases hevent.symm.trans hagain
      exact absurd rfl hne

theorem users_ne (h : Apart store) {job : InFlight UserStage} (hjob : job ∈ store.users.running)
    {another : InFlight BlogStage} (hanother : another ∈ store.blogs.running) :
    job.exchange.number ≠ another.exchange.number := by
  have := h.ne .user .blogs nofun ⟨job.ticket, job.stage.ahead, job.exchange⟩
    (by simp [lane, Flight.map, Option.mem_def.mp hjob])
    ⟨another.ticket, another.stage.ahead, another.exchange⟩
    (by simp [lane, Flight.map, Option.mem_def.mp hanother])
  exact this

end Apart

namespace Unheld

variable {held free : Store}

theorem receive (h : Unheld held free) (hapart : Apart held) (number : Nat) (reception : Reception) :
    Unheld (held.step (.receive number reception))
      (free.run (Event.deferred held (.receive number reception))) := by
  cases h with
  | @intro users blogs husers hblogs =>
    rw [Event.deferred]
    split
    · rename_i hholds
      rcases hholds with hholds | hholds
      · obtain ⟨job, hjob, rfl, -⟩ := id hholds
        have hblogsame : held.blogs.receive job.exchange.number reception = held.blogs :=
          Flight.receive_of_ne
            (fun another hanother heq => hapart.users_ne hjob hanother heq.symm) reception
        refine .intro (husers.holds hholds reception) ?_
        change Flight.Unheld held.clock (held.blogs.receive _ _) blogs
        rw [hblogsame]
        exact hblogs
      · obtain ⟨job, hjob, rfl, -⟩ := id hholds
        have husersame : held.users.receive job.exchange.number reception = held.users :=
          Flight.receive_of_ne
            (fun another hanother heq => hapart.users_ne hanother hjob heq) reception
        refine .intro ?_ (hblogs.holds hholds reception)
        change Flight.Unheld held.clock (held.users.receive _ _) users
        rw [husersame]
        exact husers
    · rename_i hholds
      rw [not_or] at hholds
      exact .intro (husers.receive hholds.1 reception) (hblogs.receive hholds.2 reception)

theorem pass (h : Unheld held free) (hapart : Apart held) (milliseconds : Nat) :
    Unheld (held.step (.pass milliseconds))
      (free.run (Event.deferred held (.pass milliseconds))) := by
  cases h with
  | @intro users blogs husers hblogs =>
    rw [Event.deferred]
    rcases husers.pass milliseconds with
        ⟨hnone, huserspass⟩ | ⟨job, hjob, reception, hsome, huserspass⟩ <;>
      rcases hblogs.pass milliseconds with
        ⟨hquiet, hblogspass⟩ | ⟨another, hanother, answer, hlate, hblogspass⟩
    · rw [hnone, hquiet]
      exact .intro huserspass hblogspass
    · rw [hnone, hlate]
      exact .intro (huserspass.other (fun job hjob => hapart.users_ne hjob hanother) answer) hblogspass
    · rw [hsome, hquiet]
      exact .intro huserspass
        (hblogspass.other (fun another hanother => (hapart.users_ne hjob hanother).symm) reception)
    · rw [hsome, hlate]
      have hsame := hblogs.receive_of_ne
        (fun another hanother => (hapart.users_ne hjob hanother).symm) reception
      refine .intro (huserspass.other (fun job hjob => hapart.users_ne hjob hanother) answer) ?_
      change Flight.Unheld _ held.blogs ((blogs.receive _ reception).receive _ answer)
      rw [hsame]
      exact hblogspass

theorem start (h : Unheld held free) (action : Action) :
    Unheld (held.start action) (free.start action) := by
  cases h with
  | intro husers hblogs =>
    cases action with
    | user action => exact .intro (husers.enqueue held.started action) hblogs
    | blogs action => exact .intro husers (hblogs.enqueue held.started action)

theorem step (h : Unheld held free) (hapart : Apart held) (event : Event) :
    Unheld (held.step event) (free.run (event.deferred held)) := by
  cases event with
  | setUser user => exact h.commitUser none user
  | setBlogs blogs => exact h.commitBlogs none blogs
  | start action => exact h.start action
  | receive number reception => exact h.receive hapart number reception
  | pass milliseconds => exact h.pass hapart milliseconds
  | resume slice =>
    cases slice with
    | user => exact h.resumeUser
    | blogs => exact h.resumeBlogs

theorem run (h : Unheld held free) (hapart : Apart held) (events : List Event) :
    Unheld (held.run events) (free.run (held.deferred events)) := by
  induction events generalizing held free with
  | nil => exact h
  | cons event rest ih =>
    rw [deferred, run_append]
    exact ih (h.step hapart event) (hapart.step event)

theorem seen (h : Unheld held free) :
    free.log = held.log ∧ free.state = held.state ∧ free.clock = held.clock := by
  cases h
  exact ⟨rfl, rfl, rfl⟩

theorem isReady (h : Unheld held free) (slice : Slice) :
    free.isReady slice = held.isReady slice := by
  cases h with
  | intro husers hblogs =>
    cases slice with
    | user => exact husers.isReady
    | blogs => exact hblogs.isReady

theorem lane (h : Unheld held free) (slice : Slice) :
    (held.lane slice).Unheld held.clock (free.lane slice) := by
  cases h with
  | intro husers hblogs =>
    cases slice with
    | user => exact husers.map ..
    | blogs => exact hblogs.map ..

theorem initial (settings : Settings) :
    Unheld (ofSettings settings) (ofSettings { settings with delay := 0 }) :=
  .intro (.idle []) (.idle [])

end Unheld

end BlogDesk.Store
