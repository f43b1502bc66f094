import BlogDesk.Proofs.Store.Epochs

/-!
# Lists stay with the identity they were obtained under

Two users loaded in one epoch have one username, an action on the blogs commits its
end in the epoch it began in or not at all, and so a list is never shown to another
user than the one it was obtained under.
-/

namespace BlogDesk.Store

-- ---- The one epoch of an action on the blogs

structure Recorded (actions : List Action) (store : Store) : Prop where
  began : ∀ job, store.blogs.running = some job → job.stage.epoch ≤ store.epoch ∧
    ∃ user, .commit job.ticket job.stage.epoch ⟨user, .loading⟩ ∈ store.log
  running : ∀ job, store.blogs.running = some job → ∀ {epoch state},
    .commit job.ticket epoch state ∈ store.log → epoch = job.stage.epoch
  once : ∀ {ticket action}, actions[ticket]? = some (.blogs action) →
    ∀ {first second before after}, .commit (some ticket) first before ∈ store.log →
      .commit (some ticket) second after ∈ store.log → first = second

namespace Recorded

variable {actions : List Action} {store next : Store}

theorem initial (settings : Settings) : Recorded actions (ofSettings settings) :=
  ⟨nofun, nofun, nofun⟩

theorem blogResume (h : Recorded actions store) {started : List Action}
    (htickets : Tickets started store)
    (turn : BlogResume store next) : Recorded actions next := by
  cases turn with
  | idle => exact h
  | @begins first later stage operation hrun hwait hstage =>
    -- Nothing was seen yet of the action that begins.
    have hfresh : ∀ {epoch state}, .commit first.ticket epoch state ∉ store.log := by
      intro epoch state hin
      exact (htickets.seen _ hin first.ticket rfl).2.2 first (by simp [hwait]) rfl
    refine ⟨?_, ?_, ?_⟩
    · intro job hjob
      cases hjob
      refine ⟨Nat.le_of_eq hstage.epoch_eq, store.state.user, ?_⟩
      simp [hstage.epoch_eq]
    · intro job hjob epoch state hin
      cases hjob
      simp only [List.mem_cons, Observation.commit.injEq, reduceCtorEq, false_or] at hin
      rcases hin with ⟨-, rfl, -⟩ | hin
      · exact hstage.epoch_eq.symm
      · exact absurd hin hfresh
    · intro ticket action haction one other before after hone hother
      simp only [List.mem_cons, Observation.commit.injEq, reduceCtorEq, false_or,
        Option.some.injEq] at hone hother
      rcases hone with ⟨rfl, rfl, -⟩ | hone
      · rcases hother with ⟨-, rfl, -⟩ | hother
        · rfl
        · exact absurd hother hfresh
      · rcases hother with ⟨rfl, rfl, -⟩ | hother
        · exact absurd hone hfresh
        · exact h.once haction hone hother
  | refuses hrun hwait haction hlist =>
    refine ⟨nofun, nofun, ?_⟩
    intro ticket action haction one other before after hone hother
    exact h.once haction (by simpa using hone) (by simpa using hother)
  | @ends job reception hrun hcame hepoch =>
    refine ⟨nofun, nofun, ?_⟩
    intro ticket action haction one other before after hone hother
    simp only [List.mem_cons, Observation.commit.injEq, reduceCtorEq, false_or,
      Option.some.injEq] at hone hother
    rcases hone with ⟨rfl, rfl, -⟩ | hone
    · rcases hother with ⟨-, rfl, -⟩ | hother
      · rfl
      · exact hepoch.trans (h.running job hrun hother).symm
    · rcases hother with ⟨rfl, rfl, -⟩ | hother
      · exact (h.running job hrun hone).trans hepoch.symm
      · exact h.once haction hone hother
  | drops hrun hcame hepoch =>
    refine ⟨nofun, nofun, ?_⟩
    intro ticket action haction one other before after hone hother
    exact h.once haction (by simpa using hone) (by simpa using hother)

theorem step (h : Recorded actions store) {started : List Action} (htickets : Tickets started store)
    (hpart : started <+: actions) (event : Event) : Recorded actions (store.step event) := by
  by_cases hblogs : event = .resume .blogs
  · subst hblogs
    exact h.blogResume htickets (resumeBlogs_turn store)
  -- Nothing else commits for an action on the blogs.
  obtain ⟨more, rfl⟩ := hpart
  have hold : ∀ {ticket : Nat} {action}, (started ++ more)[ticket]? = some (.blogs action) →
      ∀ {epoch state}, .commit ticket epoch state ∈ (store.step event).log →
        .commit (some ticket) epoch state ∈ store.log := by
    intro ticket action haction epoch state hin
    rcases step_seen store event hin with hin | hhost | ⟨other, hother, ⟨-, hhead⟩ | ⟨heq, -⟩⟩
    · exact hin
    · cases hhost
    · cases hother
      obtain ⟨own, hown⟩ := htickets.userTicket ticket (List.mem_of_mem_head? hhead)
      rw [Tickets.getElem?_append hown] at haction
      cases haction
    · exact absurd heq hblogs
  have hcommit := step_committed store event
  have hrunning := congrArg Flight.running (step_blogs store hblogs)
  refine ⟨fun job hjob => ?_, fun job hjob epoch state hin => ?_, ?_⟩
  · rw [hrunning, Option.map_eq_some_iff] at hjob
    obtain ⟨old, hrun, rfl⟩ := hjob
    obtain ⟨hle, user, hin⟩ := h.began old hrun
    simp only [InFlight.after_ticket, InFlight.after_stage]
    exact ⟨Nat.le_trans hle hcommit.epoch_le, user, hcommit.mem hin⟩
  · rw [hrunning, Option.map_eq_some_iff] at hjob
    obtain ⟨old, hrun, rfl⟩ := hjob
    simp only [InFlight.after_ticket, InFlight.after_stage] at hin ⊢
    exact h.running old hrun (hold (Tickets.getElem?_append (htickets.blogRunning old hrun) more) hin)
  · intro ticket action haction first second before after hfirst hsecond
    exact h.once haction (hold haction hfirst) (hold haction hsecond)

theorem run (h : Recorded actions store) {started : List Action} (htickets : Tickets started store)
    (events : List Event) (hpart : started ++ actionsOf events <+: actions) :
    Recorded actions (store.run events) := by
  induction events generalizing started store with
  | nil => exact h
  | cons event rest ih =>
    rw [actionsOf_cons, ← List.append_assoc] at hpart
    refine ih (h.step htickets ?_ event) (htickets.step event) hpart
    exact (List.prefix_append ..).trans ((List.prefix_append ..).trans hpart)

end Recorded

theorem run_recorded (settings : Settings) (events : List Event) :
    Recorded (actionsOf events) ((ofSettings settings).run events) :=
  Recorded.run (.initial settings) (.initial settings) events (List.prefix_refl _)

theorem Reachable.began {store : Store} (h : Reachable store) {job : InFlight BlogStage}
    (hjob : store.blogs.running = some job) : job.stage.epoch ≤ store.epoch := by
  obtain ⟨settings, events, rfl⟩ := h
  exact ((run_recorded settings events).began job hjob).1

/-- An action on the blogs that is in flight ends: in the epoch that it began in
with a commit, and in any other epoch without, so that nobody is told. -/
def EndsIn (epoch : Nat) (job : InFlight BlogStage) (store next : Store) : Prop :=
  next.epoch = store.epoch ∧ ∃ result,
    if store.epoch = epoch then
      ∃ blogs, blogs ≠ .loading ∧ next.state = { store.state with blogs } ∧
        next.log =
          .finish job.ticket result :: .commit job.ticket epoch next.state :: store.log
    else next.state = store.state ∧ next.log = .finish job.ticket result :: store.log

theorem step_endsIn {store : Store} {job : InFlight BlogStage}
    (hjob : store.blogs.running = some job) (event : Event) :
    (∃ still, (store.step event).blogs.running = some still ∧ still.ticket = job.ticket) ∨
      EndsIn job.stage.epoch job store (store.step event) := by
  by_cases hblogs : event = .resume .blogs
  · subst hblogs
    change (∃ still, store.resumeBlogs.blogs.running = some still ∧ _) ∨
      EndsIn _ _ _ store.resumeBlogs
    generalize store.resumeBlogs = next, resumeBlogs_turn store = turn
    cases turn with
    | idle => exact .inl ⟨job, hjob, rfl⟩
    | begins hrun hwait hstage => simp [hjob] at hrun
    | refuses hrun hwait haction hlist => simp [hjob] at hrun
    | @ends other reception hrun hcame hepoch =>
      rw [hjob] at hrun
      cases hrun
      refine .inr ⟨rfl, job.stage.result reception, ?_⟩
      rw [if_pos hepoch]
      exact ⟨_, BlogStage.shown_ne_loading reception job.stage, rfl, by rw [hepoch]⟩
    | @drops other reception hrun hcame hepoch =>
      rw [hjob] at hrun
      cases hrun
      refine .inr ⟨rfl, job.stage.result reception, ?_⟩
      rw [if_neg hepoch]
      exact ⟨rfl, rfl⟩
  · refine .inl ⟨job.after event, ?_, job.after_ticket event⟩
    rw [step_blogs store hblogs, hjob]
    rfl

-- ---- Under whom a list was obtained

def username? (store : Store) : Option String := store.state.user.data?.map (·.username)

def Observation.isCommit : Observation → Bool
  | .commit .. => true
  | _ => false

def news (store next : Store) : List Observation :=
  next.log.take (next.log.length - store.log.length)

/-- Usernames that were loaded at some time while a list was obtained or shown, or
while one was that it was made from. -/
structure Marks where
  /-- Those of the list that is shown; a list of the host's has none. -/
  shown : List String := []
  /-- Those of what the action in flight will show. -/
  underway : List String := []

namespace Marks

/-- Whoever is loaded when a turn of the blogs slice begins or ends an action. -/
def afterTurn (marks : Marks) (store next : Store) : Marks :=
  match store.blogs.running, next.blogs.running with
  | none, some job =>
    match job.stage with
    | .listing _ => { underway := next.username?.toList }
    -- The snapshot is the list that was shown.
    | .editing .. => { underway := next.username?.toList ++ marks.shown }
  | some _, none =>
    { shown := if (store.news next).any Observation.isCommit then marks.underway else marks.shown }
  | _, _ => marks

/-- Whoever is loaded while a list is shown, or while an action is in flight. -/
def meanwhile (marks : Marks) (next : Store) : Marks where
  shown := if next.state.blogs.isLoaded then next.username?.toList ++ marks.shown else []
  underway := next.username?.toList ++ marks.underway

def after (marks : Marks) (store : Store) : Event → Marks
  | .setBlogs _ => { marks with shown := [] }
  | .resume .blogs => marks.afterTurn store (store.step (.resume .blogs))
  | event => marks.meanwhile (store.step event)

def afterRun (marks : Marks) (store : Store) : List Event → Marks
  | [] => marks
  | event :: rest => (marks.after store event).afterRun (store.step event) rest

end Marks

def Reigned (store : Store) (epoch : Nat) (name : String) : Prop :=
  ∃ ticket state user, .commit ticket epoch state ∈ store.log ∧ state.user = .loaded user ∧
    user.username = name

structure Marked (marks : Marks) (store : Store) : Prop where
  shown : ∀ name ∈ marks.shown, store.Reigned store.epoch name
  underway : ∀ job, store.blogs.running = some job → job.stage.epoch = store.epoch →
    ∀ name ∈ marks.underway, store.Reigned store.epoch name

theorem Reigned.mono {store next : Store} {epoch : Nat} {name : String}
    (h : store.Reigned epoch name) (hnext : Committed store next) : next.Reigned epoch name := by
  obtain ⟨ticket, state, user, hin, huser, hname⟩ := h
  exact ⟨ticket, state, user, hnext.mem hin, huser, hname⟩

theorem OneUser.reigned {store : Store} (h : OneUser store) {name : String}
    (hname : name ∈ store.username?.toList) : store.Reigned store.epoch name := by
  simp only [username?, Option.mem_toList, Option.map_eq_some_iff] at hname
  obtain ⟨user, hdata, rfl⟩ := hname
  have huser : store.state.user = .loaded user := by
    cases hu : store.state.user <;> simp_all [Loadable.data?]
  rcases h.latest with hinitial | ⟨ticket, hin⟩
  · simp [hinitial] at huser
  · exact ⟨ticket, store.state, user, hin, huser, rfl⟩

theorem OneUser.eq_of_reigned {store : Store} (h : OneUser store) {name : String} {user : User}
    (hname : store.Reigned store.epoch name) (huser : store.state.user = .loaded user) :
    name = user.username := by
  obtain ⟨ticket, state, other, hin, hother, rfl⟩ := hname
  obtain ⟨present, hpresent, heq⟩ := h.loaded hin hother
  rw [huser] at hpresent
  cases hpresent
  exact heq.symm

namespace Marked

variable {marks : Marks} {store next : Store}

theorem initial (settings : Settings) : Marked {} (ofSettings settings) where
  shown name hname := by cases hname
  underway job hjob := by cases hjob

/-- Marks that are put on within an epoch, or before a list is there again. -/
theorem meanwhile (h : Marked marks store) (hnext : Committed store next) (hone : OneUser next)
    (hbegan : ∀ job, next.blogs.running = some job → ∃ old, store.blogs.running = some old ∧
      old.stage = job.stage ∧ old.stage.epoch ≤ store.epoch) :
    Marked (marks.meanwhile next) next := by
  have hle := hnext.epoch_le
  refine ⟨fun name hname => ?_, fun job hjob hepoch name hname => ?_⟩
  · simp only [Marks.meanwhile] at hname
    split at hname
    · rename_i hloaded
      have hepoch : next.epoch = store.epoch := by
        by_cases hsame : next.epoch = store.epoch
        · exact hsame
        · rw [hnext.blogs_of_epoch_ne hsame] at hloaded
          cases hloaded
      rcases List.mem_append.mp hname with hname | hname
      · exact hone.reigned hname
      · rw [hepoch]
        exact (h.shown name hname).mono hnext
    · cases hname
  · obtain ⟨old, hold, hstage, hbegan⟩ := hbegan job hjob
    rw [← hstage] at hepoch
    rcases List.mem_append.mp hname with hname | hname
    · exact hone.reigned hname
    · have hsame : old.stage.epoch = store.epoch := by omega
      rw [← hepoch, hsame]
      exact (h.underway old hold hsame name hname).mono hnext

theorem afterTurn (h : Marked marks store) (hone : OneUser next) (turn : BlogResume store next) :
    Marked (marks.afterTurn store next) next := by
  have hnext := turn.committed
  cases turn with
  | idle =>
    have hsame : marks.afterTurn store store = marks := by
      unfold Marks.afterTurn
      split <;> simp_all
    rw [hsame]
    exact h
  | @begins first later stage operation hrun hwait hstage =>
    refine ⟨?_, ?_⟩
    · cases stage <;> simp [Marks.afterTurn, hrun]
    · -- A load has no list yet; an edit keeps the one that was shown at its turn.
      intro job hjob hepoch name hname
      cases stage with
      | listing epoch =>
        simp only [Marks.afterTurn, hrun] at hname
        exact hone.reigned hname
      | editing edit epoch snapshot =>
        simp only [Marks.afterTurn, hrun] at hname
        rcases List.mem_append.mp hname with hname | hname
        · exact hone.reigned hname
        · exact (h.shown name hname).mono hnext
  | refuses hrun hwait haction hlist =>
    simp only [Marks.afterTurn, hrun]
    exact ⟨fun name hname => (h.shown name hname).mono hnext, nofun⟩
  | ends hrun hcame hepoch =>
    have hnews : store.log.length + 1 + 1 - store.log.length = 2 := by omega
    refine ⟨fun name hname => ?_, nofun⟩
    simp only [Marks.afterTurn, hrun, news, List.length_cons, hnews] at hname
    exact (h.underway _ hrun hepoch.symm name hname).mono hnext
  | drops hrun hcame hepoch =>
    have hnews : store.log.length + 1 - store.log.length = 1 := by omega
    refine ⟨fun name hname => ?_, nofun⟩
    simp only [Marks.afterTurn, hrun, news, List.length_cons, hnews] at hname
    exact (h.shown name hname).mono hnext

theorem step (h : Marked marks store) (hone : OneUser store)
    (hbegan : ∀ job, store.blogs.running = some job → job.stage.epoch ≤ store.epoch)
    (event : Event) : Marked (marks.after store event) (store.step event) := by
  have hmeanwhile (hblogs : event ≠ .resume .blogs) :
      Marked (marks.meanwhile (store.step event)) (store.step event) := by
    refine h.meanwhile (step_committed store event) (hone.step event) (fun job hjob => ?_)
    rw [step_blogs store hblogs, Option.map_eq_some_iff] at hjob
    obtain ⟨old, hold, rfl⟩ := hjob
    exact ⟨old, hold, (old.after_stage event).symm, hbegan old hold⟩
  cases event with
  | setBlogs blogs =>
    have hnext := step_committed store (.setBlogs blogs)
    refine ⟨nofun, fun job hjob hepoch name hname => ?_⟩
    exact (h.underway job hjob hepoch name hname).mono hnext
  | resume slice =>
    cases slice with
    | user => exact hmeanwhile nofun
    | blogs => exact h.afterTurn (hone.step (.resume .blogs)) (resumeBlogs_turn store)
  | _ => exact hmeanwhile nofun

theorem run (h : Marked marks store) (hone : OneUser store) {started actions : List Action}
    (htickets : Tickets started store) (hrecorded : Recorded actions store) (events : List Event)
    (hpart : started ++ actionsOf events <+: actions) :
    Marked (marks.afterRun store events) (store.run events) := by
  induction events generalizing marks store started with
  | nil => exact h
  | cons event rest ih =>
    have hbegan := fun job hjob => (hrecorded.began job hjob).1
    rw [actionsOf_cons, ← List.append_assoc] at hpart
    refine ih (h.step hone hbegan event) (hone.step event) (htickets.step event)
      (hrecorded.step htickets ?_ event) hpart
    exact (List.prefix_append ..).trans ((List.prefix_append ..).trans hpart)

end Marked

theorem run_marked (settings : Settings) (events : List Event) :
    Marked (Marks.afterRun {} (ofSettings settings) events) ((ofSettings settings).run events) :=
  Marked.run (.initial settings) (.initial settings) (.initial settings) (.initial settings) events
    (List.prefix_refl _)

-- ---- The result

/-- After any run: the state is the latest commit, and users loaded in one epoch share
a username; an action on the blogs ends in the epoch of its first commit or unseen; and
nobody sees a list that was obtained or shown under another username. -/
theorem list_stays_with_identity (settings : Settings) (events : List Event) :
    let store := (ofSettings settings).run events
    (store.state = {} ∨ ∃ ticket, .commit ticket store.epoch store.state ∈ store.log) ∧
    (∀ first second epoch before after user other,
      .commit first epoch before ∈ store.log → .commit second epoch after ∈ store.log →
      before.user = .loaded user → after.user = .loaded other →
      user.username = other.username) ∧
    (∀ job, store.blogs.running = some job → ∃ epoch user,
      .commit job.ticket epoch ⟨user, .loading⟩ ∈ store.log ∧
      ∀ event, (∃ still, (store.step event).blogs.running = some still ∧
          still.ticket = job.ticket) ∨
        EndsIn epoch job store (store.step event)) ∧
    (∀ ticket action, (actionsOf events)[ticket]? = some (.blogs action) →
      ∀ first second before after, .commit (some ticket) first before ∈ store.log →
        .commit (some ticket) second after ∈ store.log → first = second) ∧
    ∀ user, store.state.user = .loaded user →
      ∀ name ∈ (Marks.afterRun {} (ofSettings settings) events).shown, name = user.username := by
  intro store
  have hone := run_oneUser settings events
  have hrecorded := run_recorded settings events
  refine ⟨hone.latest, ?_, ?_, ?_, ?_⟩
  · intro first second epoch before after user other hfirst hsecond hbefore hafter
    exact hone.same hfirst hsecond hbefore hafter
  · intro job hjob
    obtain ⟨-, user, hbegan⟩ := hrecorded.began job hjob
    exact ⟨job.stage.epoch, user, hbegan, step_endsIn hjob⟩
  · intro ticket action haction first second before after hfirst hsecond
    exact hrecorded.once haction hfirst hsecond
  · intro user huser name hname
    -- Each mark was loaded in the epoch that lasts, in which all who are loaded share a username.
    exact hone.eq_of_reigned ((run_marked settings events).shown name hname) huser

/-- A list asked for while nobody was loaded is marked once somebody is. -/
example : (Marks.afterRun {} (ofSettings {}) [.start (.blogs .load), .resume .blogs,
    .setUser (.loaded ⟨"ada", none⟩),
    .receive 0 (.ok { status := 200, body := "\x7b\"id\":\"1\",\"result\":[],\"error\":null\x7d" }),
    .resume .blogs]).shown = ["ada", "ada"] := by
  decide +kernel

end BlogDesk.Store
