import BlogDesk.Proofs.Network.Runs
import BlogDesk.Proofs.Network.Visitors

/-!
# Whose list a console shows

Once the session is being checked the jar stays as it is until the next login or
logout, and each of these first begins a new epoch. So the list that is shown with
a user was given, and edited, in that user's session.
-/

namespace BlogDesk.Network

open Store (UserStage BlogStage BlogAction UserAction UserTurn UserResume BlogResume Exchange Flight
  InFlight Reception)
open Server (Served callHeaders)

-- ---- Lists asked for with one jar

def madeWith (index : Nat) (jar : Jar) (x : Execution) : Prop :=
  x.visitor = index ∧ x.incoming.headers = callHeaders jar

def Named (own : Execution → Prop) (history : List Execution) (name : String) : Prop :=
  ∃ x ∈ history, own x ∧ x.session = some name

theorem Named.later {own : Execution → Prop} {history : List Execution} {name : String}
    (h : Named own history name) (x : Execution) : Named own (history ++ [x]) name := by
  obtain ⟨y, hy, hown⟩ := h
  exact ⟨y, List.mem_append_left _ hy, hown⟩

structure Pending (base : String) (jar : Jar) (own : Execution → Prop) (history : List Execution)
    (parcels : List Parcel) (job : InFlight BlogStage) : Prop where
  snapshot : ∀ {edit epoch list}, job.stage = .editing edit epoch list → Stems own history list
  answer : Awaits base jar job.stage.operation
    (fun reception => ∀ list, job.stage.shown reception = .loaded list → Stems own history list)
    parcels job.exchange

namespace Pending

variable {base : String} {jar : Jar} {own : Execution → Prop} {history : List Execution}
  {parcels : List Parcel} {job : InFlight BlogStage}

theorem later (h : Pending base jar own history parcels job) (x : Execution) :
    Pending base jar own (history ++ [x]) parcels job :=
  ⟨fun hstage => .later x (h.snapshot hstage),
    h.answer.mono fun hgood list hlist => .later x (hgood list hlist)⟩

theorem shown (h : Pending base jar own history parcels job) {ids : Nat → String} {x : Execution}
    {client : Client} (hown : own x)
    (hincoming : x.incoming = withCookie (client.request job.stage.operation) jar) {list : List Blog}
    (hshown : job.stage.shown (.ok (x.response ids)) = .loaded list) :
    Stems own (history ++ [x]) list := by
  cases hstage : job.stage with
  | listing epoch =>
    rw [hstage] at hshown hincoming
    simp only [BlogStage.shown] at hshown
    split at hshown
    · rename_i found hfound
      cases hshown
      exact .listed hown (Execution.lists_of_blogs hincoming hfound)
    · cases hshown
  | editing edit epoch snapshot =>
    rw [hstage] at hshown hincoming
    simp only [BlogStage.shown] at hshown
    split at hshown
    · rename_i hdone
      cases hshown
      exact .edited (h.snapshot hstage) hown (Execution.accepts_of_acknowledged hincoming hdone)
    · cases hshown
      exact .later x (h.snapshot hstage)

end Pending

-- ---- What is known of a visitor

/-- The user is loaded or the session is being checked, at an address where that can succeed. -/
def Identified (base : String) (store : Store) : Prop :=
  Served base ∧ ((∃ job registering, store.users.running = some job ∧
    job.stage = .checking registering) ∨ ∃ user, store.state.user = .loaded user)

theorem Posted.not_identified {ids : Nat → String} {base : String} {visitor : Visitor}
    (h : Posted ids base visitor) {number : Nat}
    (hform : ∃ job, visitor.store.users.running = some job ∧ job.exchange.number = number ∧
      ∀ registering, job.stage ≠ .checking registering) : ¬ Identified base visitor.store := by
  obtain ⟨job, hrun, -, hstage⟩ := hform
  rintro ⟨-, ⟨other, registering, hother, hchecking⟩ | ⟨user, huser⟩⟩
  · obtain rfl := Option.some.inj (hrun.symm.trans hother)
    exact hstage registering hchecking
  · cases (h.waiting hrun).symm.trans huser

/-- The jar is the one that the session was checked with. The user who is loaded, and
the list with that user, come from requests made with it. -/
structure Owning (base : String) (index : Nat) (jar : Jar) (history : List Execution)
    (visitor : Visitor) : Prop where
  checked : ∀ {job registering}, visitor.store.users.running = some job →
    job.stage = .checking registering →
    Awaits base jar .whoami (fun reception => ∀ user, reception.bind Response.user = .ok user →
      Served base ∧ Named (madeWith index jar) history user.username) visitor.parcels job.exchange
  loaded : ∀ {user}, visitor.store.state.user = .loaded user →
    Served base ∧ Named (madeWith index jar) history user.username
  held : Identified base visitor.store → visitor.jar = jar
  list : Identified base visitor.store → ∀ {list}, visitor.store.state.blogs = .loaded list →
    Stems (madeWith index jar) history list
  blogs : Identified base visitor.store → ∀ {job}, visitor.store.blogs.running = some job →
    job.stage.epoch = visitor.store.epoch →
    Pending base jar (madeWith index jar) history visitor.parcels job

namespace Owning

variable {ids : Nat → String} {base : String} {index : Nat} {jar : Jar} {history : List Execution}
  {visitor : Visitor} {next : Store}

/-- While no user action is in flight and nobody is loaded there is nothing to know. -/
theorem of_nobody (hrun : visitor.store.users.running = none)
    (huser : ∀ user, visitor.store.state.user ≠ .loaded user) :
    Owning base index jar history visitor := by
  have hnot : ¬ Identified base visitor.store := by
    rintro ⟨-, ⟨job, registering, hjob, -⟩ | ⟨user, hloaded⟩⟩
    · cases hrun.symm.trans hjob
    · exact huser user hloaded
  exact ⟨fun hjob => (Option.some_ne_none _ (hjob.symm.trans hrun)).elim,
    fun hloaded => absurd hloaded (huser _), fun hid => absurd hid hnot,
    fun hid => absurd hid hnot, fun hid => absurd hid hnot⟩

theorem later (h : Owning base index jar history visitor) (x : Execution) :
    Owning base index jar (history ++ [x]) visitor where
  checked hrun hstage := (h.checked hrun hstage).mono fun hgood user huser =>
    ⟨(hgood user huser).1, (hgood user huser).2.later x⟩
  loaded huser := ⟨(h.loaded huser).1, (h.loaded huser).2.later x⟩
  held := h.held
  list hid _ hlist := .later x (h.list hid hlist)
  blogs hid _ hrun hepoch := (h.blogs hid hrun hepoch).later x

theorem quiet (h : Owning base index jar history visitor)
    (hstate : next.state = visitor.store.state) (hepoch : next.epoch = visitor.store.epoch)
    (husers : next.users.running = visitor.store.users.running)
    (hblogs : next.blogs.running = visitor.store.blogs.running) :
    Owning base index jar history { visitor with store := next } := by
  have hid : Identified base next ↔ Identified base visitor.store := by
    rw [Identified, Identified, hstate, husers]
  exact ⟨fun hrun => h.checked (husers ▸ hrun), fun huser => h.loaded (hstate ▸ huser),
    fun hnext => h.held (hid.mp hnext), fun hnext {_} hlist => h.list (hid.mp hnext) (hstate ▸ hlist),
    fun hnext {_} hrun hstage => h.blogs (hid.mp hnext) (hblogs ▸ hrun) (hepoch ▸ hstage)⟩

theorem blogResume (h : Owning base index jar history visitor) (hposted : Posted ids base visitor)
    (turn : BlogResume visitor.store next) :
    Owning base index jar history (visitor.goesOn next) := by
  cases turn with
  | idle => exact Visitor.goesOn_quiet rfl h
  | begins hrun hwait hstage =>
    obtain rfl := hstage.operation_eq
    refine Visitor.goesOn_request hposted.remote (Nat.lt_succ_self _) rfl ?_
    refine ⟨fun hjob hchecking => ?_, h.loaded, h.held, fun _ => nofun, fun hid job hjob hepoch => ?_⟩
    · exact (h.checked hjob hchecking).post (hposted.userSent hjob)
    · obtain rfl := Option.some.inj hjob
      obtain rfl := h.held hid
      refine ⟨fun hediting => ?_, .fresh hposted.made _ hposted.address⟩
      simp only at hediting
      exact h.list hid (hediting ▸ hstage).snapshot
  | refuses hrun hwait haction hlist =>
    exact Visitor.goesOn_quiet rfl ⟨h.checked, h.loaded, h.held, h.list, fun _ => nofun⟩
  | ends hrun hcame hepoch =>
    refine Visitor.goesOn_quiet rfl ⟨h.checked, h.loaded, h.held, fun hid => ?_, fun _ => nofun⟩
    intro list hlist
    exact (h.blogs hid hrun hepoch.symm).answer.come _ (Exchange.reception_of_resolved hcame) list hlist
  | drops hrun hcame hepoch =>
    exact Visitor.goesOn_quiet rfl ⟨h.checked, h.loaded, h.held, h.list, fun _ => nofun⟩

/-- A user action asks for something and so begins an epoch, or ends with the user
that the service named. -/
theorem userTurn (h : Owning base index jar history visitor) (hposted : Posted ids base visitor)
    (flight : Flight UserAction UserStage) {ticket : Nat} {came : Option (UserStage × Reception)}
    (hcame : ∀ {stage reception}, came = some (stage, reception) → ∃ job,
      visitor.store.users.running = some job ∧ job.stage = stage ∧
        job.exchange.reception = some reception)
    (turn : UserTurn { visitor.store with users := flight } ticket came next) :
    ∃ jar, Owning base index jar history (visitor.goesOn next) := by
  cases turn with
  | request hrequest =>
    refine ⟨visitor.jar, Visitor.goesOn_request hposted.remote (Nat.lt_succ_self _) rfl ?_⟩
    refine ⟨fun {job _} hjob hchecking => ?_, nofun, fun _ => rfl, fun _ => nofun,
      fun _ job hjob hepoch => ?_⟩
    · obtain rfl := Option.some.inj hjob
      simp only at hchecking
      subst hchecking
      cases hrequest.of_checking
      exact .fresh hposted.made _ hposted.address
    · -- What is asked for already was asked for in an earlier epoch.
      have hbegan := hposted.reach.began hjob
      simp only at hepoch
      omega
  | @finish user _ hloading hloaded =>
    refine ⟨jar, Visitor.goesOn_quiet rfl ?_⟩
    by_cases hshown : ∃ loaded, user = .loaded loaded
    · obtain ⟨loaded, rfl⟩ := hshown
      obtain ⟨registering, reception, hcheck, hresponse⟩ := hloaded loaded rfl
      obtain ⟨job, hrun, hstage, hcome⟩ := hcame hcheck
      have hwaiting := hposted.waiting hrun
      have hstate := Store.stateWith_of_loading hwaiting loaded
      have hepoch := Store.epochWith_of_loading hwaiting loaded
      -- The user comes in the epoch that the check began, with the cookie that it was made with.
      have hnamed := (h.checked hrun hstage).come reception hcome loaded hresponse
      have hid : Identified base visitor.store := ⟨hnamed.1, .inl ⟨job, registering, hrun, hstage⟩⟩
      refine ⟨nofun, fun {user} huser => ?_, fun _ => h.held hid, fun _ list hlist => ?_,
        fun _ job hjob hstill => h.blogs hid hjob (hstill.trans hepoch)⟩
      · cases (Store.stateWith_user ..).symm.trans huser
        exact hnamed
      · exact h.list hid ((congrArg State.blogs hstate).symm.trans hlist)
    · refine .of_nobody rfl (fun loaded huser => hshown ⟨loaded, ?_⟩)
      exact (Store.stateWith_user ..).symm.trans huser

/-- A response comes back. That of a call leaves the jar alone, and no other comes
back while the user is loaded or the session is being checked. -/
theorem deliver (h : Owning base index jar history visitor) (hposted : Posted ids base visitor)
    (number : Nat) : Owning base index jar history (visitor.deliver number) := by
  rcases visitor.deliver_eq number with heq | ⟨parcel, hin, rfl, response, hresponse, heq⟩
  · rwa [heq]
  · rw [heq]
    have hbefore : Identified base (visitor.store.step (.receive parcel.number (.ok response))) →
        Identified base visitor.store := by
      rintro ⟨hserved, ⟨job, registering, hrun, hstage⟩ | hloaded⟩
      · obtain ⟨old, hold, rfl⟩ := Flight.receive_running.mp hrun
        exact ⟨hserved, .inl ⟨old, registering, hold, hstage⟩⟩
      · exact ⟨hserved, .inr hloaded⟩
    refine ⟨fun hrun hstage => ?_, h.loaded, fun hid => ?_, fun hid => h.list (hbefore hid),
      fun hid job hrun hepoch => ?_⟩
    · obtain ⟨old, hold, rfl⟩ := Flight.receive_running.mp hrun
      exact (h.checked hold hstage).deliver hin hresponse
    · -- A login or a logout would be in flight, and nobody identified.
      have hheld := h.held (hbefore hid)
      rcases hposted.form parcel hin with ⟨client, operation, held, hbase, hcall⟩ | hform
      · obtain ⟨service, hanswer⟩ := hposted.answered parcel hin response hresponse
        rw [hcall] at hanswer
        subst hbase hanswer
        exact (Server.jar_after_call hid.1 operation visitor.jar).trans hheld
      · exact absurd (hbefore hid) (hposted.not_identified hform)
    · obtain ⟨old, hold, rfl⟩ := Flight.receive_running.mp hrun
      have hpending := h.blogs (hbefore hid) hold hepoch
      exact ⟨hpending.snapshot, hpending.answer.deliver hin hresponse⟩

theorem serve (h : Owning base index jar history visitor) {before after : List Parcel}
    {parcel : Parcel} (hsplit : visitor.parcels = before ++ parcel :: after) {x : Execution}
    (hvisitor : x.visitor = index) (hincoming : x.incoming = parcel.incoming) :
    Owning base index jar (history ++ [x])
      { visitor with
        parcels := before ++ { parcel with response := some (x.response ids) } :: after } := by
  have hlater := h.later x
  have hown : ∀ {client : Client} {operation : Operation},
      x.incoming = withCookie (client.request operation) jar → madeWith index jar x :=
    fun hcall => ⟨hvisitor, congrArg Server.Incoming.headers hcall⟩
  refine ⟨fun hrun hstage => ?_, hlater.loaded, h.held, hlater.list, fun hid job hrun hepoch => ?_⟩
  · have hchecked := hlater.checked hrun hstage
    rw [hsplit] at hchecked
    refine hchecked.serve fun _ client hbase hcall user huser => ?_
    rw [← hincoming] at hcall
    subst hbase
    obtain ⟨hserved, hsession⟩ := Execution.session_of_user hcall huser
    exact ⟨hserved, x, by simp, hown hcall, hsession⟩
  · have hpending := hlater.blogs hid hrun hepoch
    have hanswer := hpending.answer
    rw [hsplit] at hanswer
    refine ⟨hpending.snapshot, hanswer.serve fun _ client hbase hcall list hlist => ?_⟩
    rw [← hincoming] at hcall
    exact (h.blogs hid hrun hepoch).shown (hown hcall) hcall hlist

theorem step (h : Owning base index jar history visitor) (hposted : Posted ids base visitor)
    {event : Store.Event} (hown : event.IsOwn) :
    ∃ jar, Owning base index jar history (visitor.step event) := by
  rw [Visitor.step_eq]
  generalize visitor.store.step event = next, Store.step_own visitor.store hown = own
  cases own with
  | quiet hclient hstate hepoch hrequested husers hblogs =>
    exact ⟨jar, Visitor.goesOn_quiet hrequested (h.quiet hstate hepoch husers hblogs)⟩
  | blogs turn => exact ⟨jar, h.blogResume hposted turn⟩
  | users hready hcame turn => exact h.userTurn hposted _ hcame turn

end Owning

-- ---- Runs of the network

structure Kept (ids : Nat → String) (history : List Execution) (network : Network) : Prop where
  sessions : Sessions ids history network.service
  visitors : ∀ {index visitor}, network.visitors[index]? = some visitor →
    ∃ base jar, Posted ids base visitor ∧ Owning base index jar history visitor

theorem kept_invariant {ids : Nat → String} (hids : Function.Injective ids) :
    Invariant ids (Sessions ids) fun history _ index visitor =>
      ∃ base jar, Posted ids base visitor ∧ Owning base index jar history visitor where
  act := by
    rintro history service index visitor event ⟨base, jar, hposted, howning⟩ hown
    obtain ⟨jar, howning⟩ := howning.step hposted hown
    exact ⟨base, jar, hposted.step hown, howning⟩
  deliver := by
    rintro history service index visitor ⟨base, jar, hposted, howning⟩ number
    exact ⟨base, jar, hposted.deliver number, howning.deliver hposted number⟩
  serve := by
    rintro history x visitor before after parcel hsessions ⟨base, jar, hposted, howning⟩ hsplit
      hnumber hincoming hresponse
    refine ⟨hsessions.execute hids x rfl, ⟨base, jar, ?_, howning.serve hsplit rfl hincoming⟩, ?_⟩
    · rw [Execution.response, hincoming]
      exact hposted.serve hsplit x.service
    · rintro other bystander - ⟨base, jar, hposted, howning⟩
      exact ⟨base, jar, hposted, howning.later x⟩

theorem Kept.run {ids : Nat → String} {history : List Execution} {network : Network}
    (h : Kept ids history network) (hids : Function.Injective ids) {events : List Event}
    (hordinary : ∀ event ∈ events, event.IsOrdinary) :
    Kept ids (history ++ executions ids network events) (network.run ids events) := by
  have hholds := (kept_invariant hids).run ⟨h.sessions, h.visitors⟩ hordinary
  exact ⟨hholds.service, hholds.visitors⟩

theorem kept_ofSettings (ids : Nat → String) (settings : List Settings) :
    Kept ids [] (ofSettings settings) := by
  refine ⟨.initial ids, fun {index visitor} hvisitor => ?_⟩
  rw [ofSettings, List.getElem?_map, Option.map_eq_some_iff] at hvisitor
  obtain ⟨own, -, rfl⟩ := hvisitor
  exact ⟨_, none, .initial ids own, .of_nobody rfl nofun⟩

-- ---- The result

/-- In whatever order the stores' actions go on, the service executes requests and
responses are delivered: the list that a console shows with a user stems from what
the service gave in a session of that user, and from the edits that it accepted in
one. `ids` are the ids of sessions; no id is handed out twice. -/
theorem list_of_its_own_user {ids : Nat → String} (hids : Function.Injective ids)
    (settings : List Settings) {events : List Event}
    (hordinary : ∀ event ∈ events, event.IsOrdinary) {index : Nat} {user : User} {list : List Blog}
    (hshown : ((ofSettings settings).run ids events).visitors[index]?.map (·.store.state) =
      some ⟨.loaded user, .loaded list⟩) :
    Stems (fun x => x.visitor = index ∧ x.session = some user.username)
      (executions ids (ofSettings settings) events) list := by
  have hkept := (kept_ofSettings ids settings).run hids hordinary
  rw [List.nil_append] at hkept
  obtain ⟨visitor, hvisitor, hstate⟩ := Option.map_eq_some_iff.mp hshown
  obtain ⟨base, jar, -, howning⟩ := hkept.visitors hvisitor
  have huser : visitor.store.state.user = .loaded user := by rw [hstate]
  have hlist : visitor.store.state.blogs = .loaded list := by rw [hstate]
  obtain ⟨hserved, named, hnamed, ⟨-, hheaders⟩, hname⟩ := howning.loaded huser
  -- Executions with one cookie are in sessions of one user, and the user was named with this one.
  refine (howning.list ⟨hserved, .inr ⟨user, huser⟩⟩ hlist).mono fun x hx hown hsession => ?_
  obtain ⟨name, hsession⟩ := hsession
  have hsame := hkept.sessions.same hx hnamed (hown.2.trans hheaders.symm) hsession hname
  exact ⟨hown.1, hsame ▸ hsession⟩

/-- Ada registers; her list is asked for, and comes, while the session is being checked. -/
def adaComes : List Event :=
  [.act 0 (.start (.user (.register ⟨"ada", "pw", none⟩))), .act 0 (.resume .user), .serve 0 0,
    .deliver 0 0, .act 0 (.resume .user), .serve 0 1, .deliver 0 1, .act 0 (.resume .user),
    .act 0 (.start (.blogs .load)), .act 0 (.resume .blogs), .serve 0 3, .deliver 0 3,
    .act 0 (.resume .blogs), .serve 0 2, .deliver 0 2, .act 0 (.resume .user),
    .act 0 (.start (.blogs (.change (.create ⟨"tides", none⟩)))), .act 0 (.resume .blogs),
    .serve 0 4, .deliver 0 4, .act 0 (.resume .blogs)]

theorem list_of_its_own_user_ada :
    (∀ event ∈ adaComes, event.IsOrdinary) ∧
    ((ofSettings [{}]).run longerIds adaComes).visitors[0]?.map (·.store.state) =
      some ⟨.loaded ⟨"ada", none⟩, .loaded [⟨"tides", none⟩]⟩ ∧
    Stems (fun x => x.visitor = 0 ∧ x.session = some "ada")
      (executions longerIds (ofSettings [{}]) adaComes) [⟨"tides", none⟩] := by
  have hordinary : ∀ event ∈ adaComes, event.IsOrdinary := by decide
  have hshown : ((ofSettings [{}]).run longerIds adaComes).visitors[0]?.map (·.store.state) =
      some ⟨.loaded ⟨"ada", none⟩, .loaded [⟨"tides", none⟩]⟩ := by decide +kernel
  exact ⟨hordinary, hshown, list_of_its_own_user longerIds_injective [{}] hordinary hshown⟩

end BlogDesk.Network
