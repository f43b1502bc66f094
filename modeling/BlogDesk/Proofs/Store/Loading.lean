import BlogDesk.Proofs.Store.Turns
import BlogDesk.Proofs.Wire

/-!
# A slice is loading while its action waits

Whatever is asked of the service, the slice that asks shows it: a session request
is made with the user loading and no list, a call for blogs with the list loading.
No slice is left so: `loading_only_in_flight` says that somebody is in flight who
will end it, unless the host itself put it there.
-/

namespace BlogDesk

-- ---- What requests are for

def Method.slice : Method → Store.Slice
  | .whoami | .register => .user
  | .listBlogs | .createBlog | .updateBlog | .deleteBlog => .blogs

namespace Store

inductive Errand where
  | login (credentials : Credentials)
  | logout
  | call (operation : Operation)

namespace Errand

def request (client : Client) : Errand → Request
  | login credentials => client.loginRequest credentials
  | logout => client.logoutRequest
  | call operation => client.request operation

def slice : Errand → Slice
  | login _ | logout => .user
  | call operation => operation.method.slice

/-- What a store shows that is on this errand. -/
def ShownBy (state : State) (errand : Errand) : Prop :=
  match errand.slice with
  | .user => state = ⟨.loading, .uninitialized⟩
  | .blogs => state.blogs = .loading

end Errand

theorem method_of_call {client other : Client} {operation another : Operation}
    (h : client.request operation = other.request another) : operation.method = another.method := by
  have hread := LenientCall.read_write
    ⟨toString client.nextId, operation.method.name, operation.params⟩ operation.plain_params
  have hother := LenientCall.read_write
    ⟨toString other.nextId, another.method.name, another.params⟩ another.plain_params
  have hbody : Call.layout.write ⟨toString client.nextId, operation.method.name, operation.params⟩ =
      Call.layout.write ⟨toString other.nextId, another.method.name, another.params⟩ :=
    Option.some.inj (congrArg Request.body h)
  rw [hbody, hother] at hread
  have hname : another.method.name = operation.method.name :=
    congrArg LenientCall.method (Except.ok.inj hread)
  exact (Method.name_injective hname).symm

theorem Errand.slice_eq {client other : Client} {errand another : Errand}
    (h : errand.request client = another.request other) : errand.slice = another.slice := by
  have hheaders := congrArg Request.headers h
  cases errand with
  | call operation =>
    cases another with
    | call another => exact congrArg Method.slice (method_of_call h)
    | login credentials =>
      simp [request, Client.request, Client.callRequest, Client.loginRequest] at hheaders
    | logout => simp [request, Client.request, Client.callRequest, Client.logoutRequest] at hheaders
  | login credentials =>
    cases another with
    | call operation =>
      simp [request, Client.request, Client.callRequest, Client.loginRequest] at hheaders
    | _ => rfl
  | logout =>
    cases another with
    | call operation =>
      simp [request, Client.request, Client.callRequest, Client.logoutRequest] at hheaders
    | _ => rfl

-- ---- At the moment of a request

def AskedWhileLoading (store : Store) : Prop :=
  ∀ {ticket number request state}, .request ticket number request state ∈ store.log →
    ∃ client errand, request = Errand.request client errand ∧ errand.ShownBy state

theorem UserStage.Requests.errand {store : Store} {stage : UserStage} {request : Request}
    {client : Client} {due : Nat} (h : stage.Requests store request client due) :
    ∃ errand, request = Errand.request store.client errand ∧
      errand.ShownBy ⟨.loading, .uninitialized⟩ := by
  cases h with
  | @call operation hcalls =>
    refine ⟨.call operation, rfl, ?_⟩
    cases operation with
    | whoami => rfl
    | register user => rfl
    | _ => cases stage <;> exact hcalls.elim
  | form hsends =>
    cases stage with
    | signingIn registering =>
      obtain ⟨credentials, rfl⟩ := hsends
      exact ⟨.login credentials, rfl, rfl⟩
    | signingOut =>
      obtain rfl := hsends
      exact ⟨.logout, rfl, rfl⟩
    | _ => exact hsends.elim

theorem BlogStage.Begins.shownBy {store : Store} {action : BlogAction} {stage : BlogStage}
    {operation : Operation} (h : BlogStage.Begins store action stage operation) {state : State}
    (hstate : state.blogs = .loading) : (Errand.call operation).ShownBy state := by
  cases h with
  | load => exact hstate
  | @change edit list hlist => cases edit <;> exact hstate

namespace AskedWhileLoading

variable {store next : Store}

theorem userTurn (h : AskedWhileLoading store) (ready : Flight UserAction UserStage) {ticket : Nat}
    {came : Option (UserStage × Reception)}
    (turn : UserTurn { store with users := ready } ticket came next) : AskedWhileLoading next := by
  cases turn with
  | request hrequest =>
    intro asker number request state hin
    simp only [List.mem_cons, Observation.request.injEq, reduceCtorEq, false_or] at hin
    rcases hin with ⟨-, -, rfl, rfl⟩ | hin
    · exact ⟨_, hrequest.errand⟩
    · exact h hin
  | finish hloading hloaded =>
    intro asker number request state hin
    exact h (by simpa using hin)

theorem blogResume (h : AskedWhileLoading store) (turn : BlogResume store next) :
    AskedWhileLoading next := by
  cases turn with
  | idle => exact h
  | begins hrun hwait hstage =>
    intro asker number request state hin
    simp only [List.mem_cons, Observation.request.injEq, reduceCtorEq, false_or] at hin
    rcases hin with ⟨-, -, rfl, rfl⟩ | hin
    · exact ⟨_, .call _, rfl, hstage.shownBy rfl⟩
    · exact h hin
  | refuses hrun hwait haction hlist =>
    intro asker number request state hin
    exact h (by simpa using hin)
  | ends hrun hcame hepoch =>
    intro asker number request state hin
    exact h (by simpa using hin)
  | drops hrun hcame hepoch =>
    intro asker number request state hin
    exact h (by simpa using hin)

theorem step (h : AskedWhileLoading store) (event : Event) : AskedWhileLoading (store.step event) := by
  cases event with
  | setUser user =>
    rw [Store.step, commitUser_eq]
    intro asker number request state hin
    exact h (by simpa using hin)
  | setBlogs blogs =>
    intro asker number request state hin
    exact h (by simpa [Store.step, commitBlogs, observe] using hin)
  | start action => cases action <;> exact h
  | receive number reception => exact h
  | pass milliseconds => exact h
  | resume slice =>
    cases slice with
    | blogs => exact h.blogResume (resumeBlogs_turn store)
    | user =>
      rcases (resumeUser_turn store).idle_or_turn with heq | ⟨ready, ticket, came, turn, -⟩
      · change AskedWhileLoading store.resumeUser
        rwa [heq]
      · exact h.userTurn ready turn

end AskedWhileLoading

-- ---- Until it ends

/-- An event by which the host puts no slice into loading. -/
def Event.LeavesLoading : Event → Prop
  | .setUser user => user ≠ .loading
  | .setBlogs blogs => blogs ≠ .loading
  | _ => True

instance : DecidablePred Event.LeavesLoading
  | .setUser user => inferInstanceAs (Decidable (user ≠ .loading))
  | .setBlogs blogs => inferInstanceAs (Decidable (blogs ≠ .loading))
  | .start _ | .receive .. | .pass _ | .resume _ => isTrue trivial

/-- A slice that is loading has an action in flight; that of the blogs can still commit. -/
structure LoadingInFlight (store : Store) : Prop where
  user : store.state.user = .loading → ∃ job, store.users.running = some job
  blogs : store.state.blogs = .loading →
    ∃ job, store.blogs.running = some job ∧ job.stage.epoch = store.epoch

namespace LoadingInFlight

variable {store next : Store}

theorem userTurn (h : LoadingInFlight store) (ready : Flight UserAction UserStage) {ticket : Nat}
    {came : Option (UserStage × Reception)}
    (turn : UserTurn { store with users := ready } ticket came next) : LoadingInFlight next := by
  cases turn with
  | request hrequest => exact ⟨fun _ => ⟨_, rfl⟩, nofun⟩
  | @finish user _ hloading hloaded =>
    refine ⟨fun huser => ?_, fun hblogs => ?_⟩
    · exact absurd ((stateWith_user ..).symm.trans huser) hloading
    · by_cases hepoch : { store with users := ready }.epochWith user = store.epoch
      · rw [stateWith_of_epoch_eq hepoch] at hblogs
        obtain ⟨job, hrun, hstage⟩ := h.blogs hblogs
        exact ⟨job, hrun, hstage.trans hepoch.symm⟩
      · rw [stateWith_of_epoch_ne hepoch] at hblogs
        cases hblogs

theorem blogResume (h : LoadingInFlight store) (turn : BlogResume store next) :
    LoadingInFlight next := by
  cases turn with
  | idle => exact h
  | begins hrun hwait hstage => exact ⟨h.user, fun _ => ⟨_, rfl, hstage.epoch_eq⟩⟩
  | refuses hrun hwait haction hlist =>
    refine ⟨h.user, fun hblogs => ?_⟩
    obtain ⟨job, hjob, -⟩ := h.blogs hblogs
    cases hrun.symm.trans hjob
  | ends hrun hcame hepoch =>
    exact ⟨h.user, fun hblogs => (BlogStage.shown_ne_loading _ _ hblogs).elim⟩
  | drops hrun hcame hepoch =>
    refine ⟨h.user, fun hblogs => ?_⟩
    obtain ⟨job, hjob, hstage⟩ := h.blogs hblogs
    obtain rfl := Option.some.inj (hrun.symm.trans hjob)
    exact absurd hstage.symm hepoch

theorem between (h : LoadingInFlight store) {event : Event} (hevent : event ≠ .resume .user)
    (hblogs : event ≠ .resume .blogs) (hleaves : event.LeavesLoading) :
    LoadingInFlight (store.step event) := by
  cases event with
  | setUser user =>
    rw [Store.step, commitUser_eq]
    refine ⟨fun huser => absurd ((stateWith_user ..).symm.trans huser) hleaves, fun hlist => ?_⟩
    by_cases hepoch : store.epochWith user = store.epoch
    · rw [stateWith_of_epoch_eq hepoch] at hlist
      obtain ⟨job, hrun, hstage⟩ := h.blogs hlist
      exact ⟨job, hrun, hstage.trans hepoch.symm⟩
    · rw [stateWith_of_epoch_ne hepoch] at hlist
      cases hlist
  | setBlogs blogs => exact ⟨h.user, fun hlist => absurd hlist hleaves⟩
  | start action => cases action <;> exact ⟨h.user, h.blogs⟩
  | receive number reception =>
    refine ⟨fun huser => ?_, fun hlist => ?_⟩
    · obtain ⟨job, hrun⟩ := h.user huser
      exact ⟨_, Flight.receive_running.mpr ⟨job, hrun, rfl⟩⟩
    · obtain ⟨job, hrun, hstage⟩ := h.blogs hlist
      exact ⟨_, Flight.receive_running.mpr ⟨job, hrun, rfl⟩, hstage⟩
  | pass milliseconds => exact ⟨h.user, h.blogs⟩
  | resume slice => cases slice <;> contradiction

theorem step (h : LoadingInFlight store) {event : Event} (hleaves : event.LeavesLoading) :
    LoadingInFlight (store.step event) := by
  by_cases huser : event = .resume .user
  · subst huser
    rcases (resumeUser_turn store).idle_or_turn with heq | ⟨ready, ticket, came, turn, -⟩
    · change LoadingInFlight store.resumeUser
      rwa [heq]
    · exact h.userTurn ready turn
  by_cases hblogs : event = .resume .blogs
  · subst hblogs
    exact h.blogResume (resumeBlogs_turn store)
  · exact h.between huser hblogs hleaves

theorem run (h : LoadingInFlight store) {events : List Event}
    (hleaves : ∀ event ∈ events, event.LeavesLoading) : LoadingInFlight (store.run events) := by
  induction events generalizing store with
  | nil => exact h
  | cons event rest ih =>
    obtain ⟨hfirst, hrest⟩ := List.forall_mem_cons.mp hleaves
    exact ih (h.step hfirst) hrest

end LoadingInFlight

-- ---- The result

/-- After any run: whatever was asked was asked with the slice loading; and if the host
put no slice into loading, only an action in flight keeps it there, which for the blogs
still is in the epoch that it recorded. -/
theorem loading_only_in_flight (settings : Settings) (events : List Event) :
    let store := (ofSettings settings).run events
    (∀ ticket number request state, .request ticket number request state ∈ store.log →
      (∃ client errand, request = Errand.request client errand) ∧
      ∀ client errand, request = Errand.request client errand → errand.ShownBy state) ∧
    ((∀ event ∈ events, event.LeavesLoading) →
      (store.state.user = .loading → ∃ job, store.users.running = some job) ∧
      (store.state.blogs = .loading →
        ∃ job, store.blogs.running = some job ∧ job.stage.epoch = store.epoch) ∧
      (store.users.running = none → store.blogs.running = none →
        store.state.user ≠ .loading ∧ store.state.blogs ≠ .loading)) := by
  intro store
  have hasked : AskedWhileLoading store :=
    run_keeps (fun _ event h => h.step event) (show AskedWhileLoading (ofSettings settings) from nofun)
      events
  refine ⟨fun ticket number request state hin => ?_, fun hleaves => ?_⟩
  · obtain ⟨client, errand, rfl, hshown⟩ := hasked hin
    refine ⟨⟨client, errand, rfl⟩, fun other another hsame => ?_⟩
    rw [Errand.ShownBy, ← Errand.slice_eq hsame]
    exact hshown
  · -- A host that put a slice into loading would leave it there, so this half has a condition.
    have hflight : LoadingInFlight store :=
      (show LoadingInFlight (ofSettings settings) from ⟨nofun, nofun⟩).run hleaves
    refine ⟨hflight.user, hflight.blogs, fun husers hblogs => ⟨fun huser => ?_, fun hlist => ?_⟩⟩
    · obtain ⟨job, hrun⟩ := hflight.user huser
      cases husers.symm.trans hrun
    · obtain ⟨job, hrun, -⟩ := hflight.blogs hlist
      cases hblogs.symm.trans hrun

/-- A load is in flight when the user changes, and its answer comes too late to be shown. -/
def lateLoad : List Event :=
  [.setUser (.loaded ⟨"ada", none⟩), .start (.blogs .load), .resume .blogs,
    .setUser (.loaded ⟨"bob", none⟩), .receive 0 (.ok { status := 500 }), .resume .blogs]

theorem loading_only_in_flight_lateLoad :
    let store := (ofSettings {}).run lateLoad
    (∀ event ∈ lateLoad, event.LeavesLoading) ∧ store.users.running = none ∧
      store.blogs.running = none ∧ store.state.user ≠ .loading ∧ store.state.blogs ≠ .loading :=
  ⟨by decide, rfl, rfl, ((loading_only_in_flight {} lateLoad).2 (by decide)).2.2 rfl rfl⟩

end Store

end BlogDesk
