import Mathlib.Data.List.Nodup
import BlogDesk.Proofs.Network.Awaited
import BlogDesk.Proofs.Network.Mirrors
import BlogDesk.Proofs.Network.Ownership

/-!
# Consoles agree with the service

Whatever the other visitors do, the user that a console shows is the one of the session
in its jar, and the list it shows is what the service has, up to what others changed
since it was loaded. The session in the jar is nobody else's, so only the visitor's own
logout ends it; and what the visitor itself changes, the console's list follows.
-/

namespace BlogDesk.Network

open Keyed (find?)
open Server (Account IsPlainId Served)
open Store (UserStage BlogStage UserAction UserTurn BlogResume Exchange Flight InFlight Reception)

-- ---- While the jar stays

/-- No user action is in flight but one that checks the session. -/
def Steady (store : Store) : Prop :=
  ∀ job, store.users.running = some job → ∃ registering, job.stage = .checking registering

/-- What is known of an action on the blogs that may still show what it gets. -/
structure Due (ids : Nat → String) (base : String) (history : List Execution)
    (service : Server.Service) (index : Nat) (jar : Jar) (parcels : List Parcel)
    (job : InFlight BlogStage) : Prop where
  /-- Before its request is executed, an edit is of a list that mirrors the blogs. -/
  snapshot : ∀ {edit epoch list}, job.stage = .editing edit epoch list →
    (∃ parcel ∈ parcels, parcel.number = job.exchange.number ∧ parcel.response = none) →
    Mirrors ids history index service jar list
  answer : Awaits base jar job.stage.operation
    (fun reception => ∀ list, job.stage.shown reception = .loaded list →
      Mirrors ids history index service jar list) parcels job.exchange

structure Agreeing (ids : Nat → String) (base : String) (history : List Execution)
    (service : Server.Service) (index : Nat) (visitor : Visitor) : Prop where
  user : ∀ {user}, visitor.store.state.user = .loaded user → Recognizes service visitor.jar user
  checked : ∀ {job registering}, visitor.store.users.running = some job →
    job.stage = .checking registering →
    Awaits base visitor.jar .whoami (fun reception => ∀ user,
      reception.bind Response.user = .ok user → Recognizes service visitor.jar user)
      visitor.parcels job.exchange
  list : Steady visitor.store → ∀ {list}, visitor.store.state.blogs = .loaded list →
    Mirrors ids history index service visitor.jar list
  blogs : Steady visitor.store → ∀ {job}, visitor.store.blogs.running = some job →
    job.stage.epoch = visitor.store.epoch →
    Due ids base history service index visitor.jar visitor.parcels job

namespace Due

variable {ids : Nat → String} {base : String} {history : List Execution} {service : Server.Service}
  {index : Nat} {jar : Jar} {job : InFlight BlogStage}

theorem later {parcels : List Parcel} {more : List Execution} {after : Server.Service}
    (h : Due ids base history service index jar parcels job)
    (hmirrors : ∀ {list}, Mirrors ids history index service jar list →
      Mirrors ids more index after jar list) : Due ids base more after index jar parcels job :=
  ⟨fun hstage hunsent => hmirrors (h.snapshot hstage hunsent),
    h.answer.mono fun hgood list hshown => hmirrors (hgood list hshown)⟩

theorem elsewhere {before after : List Parcel} {parcel : Parcel}
    (h : Due ids base history service index jar (before ++ parcel :: after) job)
    (hnumber : parcel.number ≠ job.exchange.number) (response : Response) :
    Due ids base history service index jar
      (before ++ { parcel with response := some response } :: after) job := by
  refine ⟨fun hstage hunsent => h.snapshot hstage ?_, h.answer.serve fun heq => absurd heq hnumber⟩
  obtain ⟨other, hother, hother', hnone⟩ := hunsent
  rcases List.mem_append.mp hother with hbefore | hafter
  · exact ⟨other, List.mem_append_left _ hbefore, hother', hnone⟩
  · rcases List.mem_cons.mp hafter with rfl | hafter
    · exact absurd hother' hnumber
    · exact ⟨other, List.mem_append_right _ (List.mem_cons_of_mem _ hafter), hother', hnone⟩

theorem deliver {parcels : List Parcel} (h : Due ids base history service index jar parcels job)
    {parcel : Parcel} (hin : parcel ∈ parcels) {response : Response}
    (hresponse : parcel.response = some response) :
    Due ids base history service index jar (parcels.filter (·.number != parcel.number))
      (job.answered parcel.number (.ok response)) := by
  refine ⟨fun hstage hunsent => h.snapshot hstage ?_, h.answer.deliver hin hresponse⟩
  obtain ⟨other, hother, hnumber, hnone⟩ := hunsent
  exact ⟨other, (List.mem_filter.mp hother).1, hnumber.trans (Store.InFlight.answered_number ..), hnone⟩

end Due

theorem Due.shown {ids : Nat → String} {base : String} {history : List Execution} {x : Execution}
    {jar : Jar} {parcels : List Parcel} {job : InFlight BlogStage}
    (h : Due ids base history x.service x.visitor jar parcels job)
    (hunsent : ∃ parcel ∈ parcels, parcel.number = job.exchange.number ∧ parcel.response = none)
    (hledger : Ledger ids history x.service) (hids : Function.Injective ids) {client : Client}
    (hcall : x.incoming = withCookie (client.request job.stage.operation) jar)
    (hserved : Served client.baseUrl) (hjar : ∀ id, jar = some id → IsPlainId id) {list : List Blog}
    (hshown : job.stage.shown (.ok (x.response ids)) = .loaded list) :
    Mirrors ids (history ++ [x]) x.visitor (x.service.handle ids x.incoming).2 jar list := by
  cases hstage : job.stage with
  | listing epoch =>
    rw [hstage] at hshown hcall
    simp only [BlogStage.shown] at hshown
    split at hshown
    · rename_i found hfound
      cases hshown
      exact .of_blogs rfl hcall hserved hjar hfound
    · cases hshown
  | editing edit epoch snapshot =>
    have hmirrors := h.snapshot hstage hunsent
    rw [hstage] at hshown hcall
    simp only [BlogStage.shown] at hshown
    split at hshown
    · rename_i hdone
      cases hshown
      exact hmirrors.edited hledger hids hcall hserved hjar hdone
    · rename_i cause hfailed
      cases hshown
      exact hmirrors.refused hledger hids hcall hserved hjar hfailed

theorem Due.execute {ids : Nat → String} {base : String} {history : List Execution} {x : Execution}
    {visitor : Visitor} {job : InFlight BlogStage}
    (h : Due ids base history x.service x.visitor visitor.jar visitor.parcels job)
    (hledger : Ledger ids history x.service) (hids : Function.Injective ids)
    (hawaited : Awaited visitor) (hrun : visitor.store.blogs.running = some job)
    (hserved : Served base) (hjar : ∀ id, visitor.jar = some id → IsPlainId id)
    {before after : List Parcel} {parcel : Parcel}
    (hsplit : visitor.parcels = before ++ parcel :: after)
    (hnumber : parcel.number = job.exchange.number) (hincoming : x.incoming = parcel.incoming)
    (hresponse : parcel.response = none) :
    Due ids base (history ++ [x]) (x.service.handle ids x.incoming).2 x.visitor visitor.jar
      (before ++ { parcel with response := some (x.response ids) } :: after) job := by
  have hin : parcel ∈ visitor.parcels := hsplit ▸ by simp
  obtain ⟨client, rfl, hcall⟩ := h.answer.request parcel hin hnumber
  rw [← hincoming] at hcall
  have hshown : ∀ list, job.stage.shown (.ok (x.response ids)) = .loaded list →
      Mirrors ids (history ++ [x]) x.visitor (x.service.handle ids x.incoming).2 visitor.jar list :=
    fun list hshown => h.shown ⟨parcel, hin, hnumber, hresponse⟩ hledger hids hcall hserved hjar hshown
  -- No other request has that number, so none is unanswered now.
  have hone : ∀ other ∈ before ++ { parcel with response := some (x.response ids) } :: after,
      other.number = job.exchange.number → other.response = some (x.response ids) := by
    intro other hother hsame
    have hdistinct := (hawaited.serve hsplit (x.response ids)).distinct
    obtain rfl : other = { parcel with response := some (x.response ids) } :=
      List.inj_on_of_nodup_map hdistinct hother (List.mem_append_right _ List.mem_cons_self)
        (hsame.trans hnumber.symm)
    rfl
  refine ⟨fun _ hunsent => ?_, ?_, fun other hother hsame response hanswer => ?_, fun _ hcome => ?_⟩
  · obtain ⟨other, hother, hsame, hnone⟩ := hunsent
    cases hnone.symm.trans (hone other hother hsame)
  · have hrequest := h.answer.request
    rw [hsplit] at hrequest
    exact forall_mem_middle hrequest id
  · cases hanswer.symm.trans (hone other hother hsame)
    exact hshown
  · exact absurd hnumber (hawaited.got hrun (hcome ▸ rfl) parcel hin)

namespace Agreeing

variable {ids : Nat → String} {base : String} {history : List Execution} {service : Server.Service}
  {index : Nat} {visitor : Visitor} {next : Store}

/-- While the jar may change nothing is shown that has to agree with it. -/
theorem of_unsteady (huser : ∀ user, visitor.store.state.user ≠ .loaded user)
    (hnot : ¬ Steady visitor.store) : Agreeing ids base history service index visitor where
  user hloaded := absurd hloaded (huser _)
  checked {job registering} hrun hstage := by
    refine absurd (fun other hother => ?_) hnot
    obtain rfl := Option.some.inj (hrun.symm.trans hother)
    exact ⟨registering, hstage⟩
  list hsteady := absurd hsteady hnot
  blogs hsteady := absurd hsteady hnot

theorem quiet (h : Agreeing ids base history service index visitor)
    (hstate : next.state = visitor.store.state) (hepoch : next.epoch = visitor.store.epoch)
    (husers : next.users.running = visitor.store.users.running)
    (hblogs : next.blogs.running = visitor.store.blogs.running) :
    Agreeing ids base history service index { visitor with store := next } := by
  have hsteady : Steady next ↔ Steady visitor.store := by rw [Steady, Steady, husers]
  exact ⟨fun huser => h.user (hstate ▸ huser), fun hrun => h.checked (husers ▸ hrun),
    fun hnext {_} hlist => h.list (hsteady.mp hnext) (hstate ▸ hlist),
    fun hnext {_} hrun hstage => h.blogs (hsteady.mp hnext) (hblogs ▸ hrun) (hepoch ▸ hstage)⟩

theorem blogResume (h : Agreeing ids base history service index visitor)
    (hposted : Posted ids base visitor) (turn : BlogResume visitor.store next) :
    Agreeing ids base history service index (visitor.goesOn next) := by
  cases turn with
  | idle => exact Visitor.goesOn_quiet rfl h
  | begins hrun hwait hstage =>
    obtain rfl := hstage.operation_eq
    refine Visitor.goesOn_request hposted.remote (Nat.lt_succ_self _) rfl ?_
    refine ⟨h.user, fun hjob hchecking => ?_, fun _ => nofun, fun hsteady job hjob hepoch => ?_⟩
    · exact (h.checked hjob hchecking).post (hposted.userSent hjob)
    · obtain rfl := Option.some.inj hjob
      refine ⟨fun hediting _ => ?_, .fresh hposted.made _ hposted.address⟩
      simp only at hediting
      exact h.list hsteady (hediting ▸ hstage).snapshot
  | refuses hrun hwait haction hlist =>
    exact Visitor.goesOn_quiet rfl ⟨h.user, h.checked, h.list, fun _ => nofun⟩
  | ends hrun hcame hepoch =>
    refine Visitor.goesOn_quiet rfl ⟨h.user, h.checked, fun hsteady list hlist => ?_, fun _ => nofun⟩
    have hdue := h.blogs hsteady hrun hepoch.symm
    exact hdue.answer.come _ (Exchange.reception_of_resolved hcame) list hlist
  | drops hrun hcame hepoch =>
    exact Visitor.goesOn_quiet rfl ⟨h.user, h.checked, h.list, fun _ => nofun⟩

/-- A user action asks for something, or ends without a user, and nothing is shown any
more; or it ends with the user whom the session in the jar was checked for. -/
theorem userTurn (h : Agreeing ids base history service index visitor)
    (hposted : Posted ids base visitor) {flight : Flight UserAction UserStage} {ticket : Nat}
    {came : Option (UserStage × Reception)}
    (hcame : ∀ {stage reception}, came = some (stage, reception) → ∃ job,
      visitor.store.users.running = some job ∧ job.stage = stage ∧
        job.exchange.reception = some reception)
    (turn : UserTurn { visitor.store with users := flight } ticket came next) :
    Agreeing ids base history service index (visitor.goesOn next) := by
  cases turn with
  | request hrequest =>
    refine Visitor.goesOn_request hposted.remote (Nat.lt_succ_self _) rfl ?_
    refine ⟨nofun, fun {job _} hjob hchecking => ?_, fun _ => nofun, fun _ job hjob hepoch => ?_⟩
    · obtain rfl := Option.some.inj hjob
      simp only at hchecking
      subst hchecking
      cases hrequest.of_checking
      exact .fresh hposted.made _ hposted.address
    · -- An action on the blogs that is in flight began in an earlier epoch.
      have hbegan := hposted.reach.began hjob
      simp only at hepoch
      omega
  | @finish user _ hloading hloaded =>
    refine Visitor.goesOn_quiet rfl ?_
    by_cases hshown : ∃ loaded, user = .loaded loaded
    · obtain ⟨loaded, rfl⟩ := hshown
      obtain ⟨registering, reception, hcheck, hresponse⟩ := hloaded loaded rfl
      obtain ⟨job, hrun, hstage, hcome⟩ := hcame hcheck
      have hwaiting := hposted.waiting hrun
      have hstate := Store.stateWith_of_loading hwaiting loaded
      have hepoch := Store.epochWith_of_loading hwaiting loaded
      have hsteady : Steady visitor.store := fun other hother => by
        obtain rfl := Option.some.inj (hrun.symm.trans hother)
        exact ⟨registering, hstage⟩
      refine ⟨fun {user} huser => ?_, nofun, fun _ list hlist => ?_,
        fun _ job hjob hstill => h.blogs hsteady hjob (hstill.trans hepoch)⟩
      · cases (Store.stateWith_user ..).symm.trans huser
        exact (h.checked hrun hstage).come reception hcome loaded hresponse
      · exact h.list hsteady ((congrArg State.blogs hstate).symm.trans hlist)
    · -- Whatever else ends an action begins an epoch, and leaves no list behind.
      have hepoch : { visitor.store with users := flight }.epochWith user ≠ visitor.store.epoch := by
        intro hsame
        obtain ⟨loaded, hnext, -⟩ := Store.loaded_of_epoch_eq hsame
        exact hshown ⟨loaded, hnext⟩
      have hlater := Store.epoch_le_epochWith { visitor.store with users := flight } user
      refine ⟨fun {loaded} huser => ?_, nofun, fun _ list hlist => ?_, fun _ job hjob hstill => ?_⟩
      · exact absurd ⟨loaded, (Store.stateWith_user ..).symm.trans huser⟩ hshown
      · rw [Store.stateWith_of_epoch_ne hepoch] at hlist
        cases hlist
      · have hbegan := hposted.reach.began hjob
        simp only at hepoch hlater hstill
        omega

theorem step (h : Agreeing ids base history service index visitor)
    (hposted : Posted ids base visitor) {event : Store.Event} (hown : event.IsOwn) :
    Agreeing ids base history service index (visitor.step event) := by
  rw [Visitor.step_eq]
  generalize visitor.store.step event = next, Store.step_own visitor.store hown = own
  cases own with
  | quiet hclient hstate hepoch hrequested husers hblogs =>
    exact Visitor.goesOn_quiet hrequested (h.quiet hstate hepoch husers hblogs)
  | blogs turn => exact h.blogResume hposted turn
  | users hready hcame turn => exact h.userTurn hposted hcame turn

theorem call_of_steady (hposted : Posted ids base visitor) (hsteady : Steady visitor.store)
    {parcel : Parcel} (hin : parcel ∈ visitor.parcels) :
    ∃ (client : Client) (operation : Operation) (jar : Jar), client.baseUrl = base ∧
      parcel.incoming = withCookie (client.request operation) jar := by
  rcases hposted.form parcel hin with hcall | ⟨job, hrun, -, hstage⟩
  · exact hcall
  · obtain ⟨registering, hchecking⟩ := hsteady job hrun
    exact absurd hchecking (hstage registering)

theorem user_of_unsteady (hposted : Posted ids base visitor) (hnot : ¬ Steady visitor.store)
    (user : User) : visitor.store.state.user ≠ .loaded user := by
  intro huser
  refine hnot fun job hrun => ?_
  cases (hposted.waiting hrun).symm.trans huser

theorem deliver (h : Agreeing ids base history service index visitor)
    (hposted : Posted ids base visitor) (hserved : Served base) (number : Nat) :
    Agreeing ids base history service index (visitor.deliver number) := by
  rcases visitor.deliver_eq number with heq | ⟨parcel, hin, rfl, response, hresponse, heq⟩
  · rwa [heq]
  rw [heq]
  by_cases hsteady : Steady visitor.store
  · obtain ⟨client, operation, made, hbase, hcall⟩ := call_of_steady hposted hsteady hin
    obtain ⟨service', hanswer⟩ := hposted.answered parcel hin response hresponse
    have hjar : visitor.jar.after response = visitor.jar := by
      rw [hanswer, hcall]
      exact Server.jar_after_call (hbase ▸ hserved) operation visitor.jar
    rw [hjar]
    refine ⟨h.user, fun hrun hstage => ?_, fun _ => h.list hsteady, fun _ job hrun hepoch => ?_⟩
    · obtain ⟨old, hold, rfl⟩ := Flight.receive_running.mp hrun
      exact (h.checked hold hstage).deliver hin hresponse
    · obtain ⟨old, hold, rfl⟩ := Flight.receive_running.mp hrun
      exact (h.blogs hsteady hold hepoch).deliver hin hresponse
  · have hnobody := user_of_unsteady hposted hsteady
    refine of_unsteady hnobody fun hafter => hsteady fun job hrun => ?_
    obtain ⟨registering, hstage⟩ := hafter _ (Flight.receive_running.mpr ⟨job, hrun, rfl⟩)
    exact ⟨registering, hstage⟩

section
variable {x : Execution} (hledger : Ledger ids history x.service) (hids : Function.Injective ids)
include hledger hids

theorem bystand (h : Agreeing ids base history x.service index visitor) (hother : index ≠ x.visitor)
    (hstays : ∀ id, visitor.jar = some id → ¬ x.incoming.LogsOut id) :
    Agreeing ids base (history ++ [x]) (x.service.handle ids x.incoming).2 index visitor := by
  have hmirrors {list : List Blog} (hlist : Mirrors ids history index x.service visitor.jar list) :
      Mirrors ids (history ++ [x]) index (x.service.handle ids x.incoming).2 visitor.jar list :=
    hlist.later hledger hids hstays fun hsame => absurd hsame.symm hother
  exact ⟨fun huser => (h.user huser).later hledger hids hstays,
    fun hrun hstage => (h.checked hrun hstage).mono fun hgood user huser =>
      (hgood user huser).later hledger hids hstays,
    fun hsteady _ hlist => hmirrors (h.list hsteady hlist),
    fun hsteady _ hrun hepoch => (h.blogs hsteady hrun hepoch).later hmirrors⟩

/-- The service executes a request that no action on the blogs made: the session is being
checked. -/
theorem later_of_byUser (h : Agreeing ids base history x.service x.visitor visitor)
    (hserved : Served base) (hjar : ∀ id, visitor.jar = some id → IsPlainId id)
    (hsteady : Steady visitor.store) {parcel : Parcel} (hin : parcel ∈ visitor.parcels)
    (hincoming : x.incoming = parcel.incoming)
    (hmine : ∃ job, visitor.store.users.running = some job ∧ job.exchange.number = parcel.number)
    {list : List Blog} (hlist : Mirrors ids history x.visitor x.service visitor.jar list) :
    Mirrors ids (history ++ [x]) x.visitor (x.service.handle ids x.incoming).2 visitor.jar list := by
  obtain ⟨job, hrun, hnumber⟩ := hmine
  obtain ⟨registering, hstage⟩ := hsteady job hrun
  obtain ⟨client, rfl, hcall⟩ := (h.checked hrun hstage).request parcel hin hnumber.symm
  rw [← hincoming] at hcall
  refine hlist.later hledger hids (fun id _ => Execution.stays_in hcall hserved id) fun _ => ⟨?_, ?_⟩
  · intro hcalls
    cases Execution.method_of_calls hcall hserved hcalls
  · exact Execution.not_changes_of_backend (backend_after_whoami hcall hserved hjar ids)

theorem serve (h : Agreeing ids base history x.service x.visitor visitor)
    (hposted : Posted ids base visitor) (hawaited : Awaited visitor) (hserved : Served base)
    (hjar : ∀ id, visitor.jar = some id → IsPlainId id) {before after : List Parcel}
    {parcel : Parcel} (hsplit : visitor.parcels = before ++ parcel :: after)
    (hincoming : x.incoming = parcel.incoming) (hresponse : parcel.response = none) :
    Agreeing ids base (history ++ [x]) (x.service.handle ids x.incoming).2 x.visitor { visitor with
      parcels := before ++ { parcel with response := some (x.response ids) } :: after } := by
  by_cases hsteady : Steady visitor.store
  swap
  · have hnobody := user_of_unsteady hposted hsteady
    exact of_unsteady hnobody hsteady
  have hin : parcel ∈ visitor.parcels := hsplit ▸ by simp
  have hstays (id : String) : ¬ x.incoming.LogsOut id := by
    obtain ⟨client, operation, jar, rfl, hcall⟩ := call_of_steady hposted hsteady hin
    exact Execution.stays_in (hincoming.trans hcall) hserved id
  have hbyUser (hmine : ∃ job, visitor.store.users.running = some job ∧
      job.exchange.number = parcel.number) {list : List Blog}
      (hlist : Mirrors ids history x.visitor x.service visitor.jar list) :=
    h.later_of_byUser hledger hids hserved hjar hsteady hin hincoming hmine hlist
  refine ⟨fun huser => (h.user huser).later hledger hids fun id _ => hstays id,
    fun hrun hstage => ?_, fun _ list hlist => ?_, fun _ job hrun hepoch => ?_⟩
  · have hchecked := h.checked hrun hstage
    have hlater := hchecked.mono fun hgood user huser =>
      (hgood user huser).later hledger hids fun id _ => hstays id
    rw [hsplit] at hlater
    refine hlater.serve fun _ client hbase hcall user huser => ?_
    rw [← hincoming] at hcall
    subst hbase
    exact (Recognizes.of_user hcall hserved hjar huser).later hledger hids fun id _ => hstays id
  · exact hbyUser (hawaited.byUser hin fun job hrun => absurd hlist (hawaited.busy hrun list))
      (h.list hsteady hlist)
  · have hdue := h.blogs hsteady hrun hepoch
    by_cases hnumber : parcel.number = job.exchange.number
    · exact hdue.execute hledger hids hawaited hrun hserved hjar hsplit hnumber hincoming hresponse
    · have hlater := hdue.later (hbyUser (hawaited.byUser hin fun other hother => by
        obtain rfl := Option.some.inj (hrun.symm.trans hother)
        exact Ne.symm hnumber))
      exact (hsplit ▸ hlater).elsewhere hnumber _

end

end Agreeing

-- ---- Runs

structure Consistent (ids : Nat → String) (base : String) (history : List Execution)
    (service : Server.Service) (index : Nat) (visitor : Visitor) : Prop where
  posted : Posted ids base visitor
  awaited : Awaited visitor
  holding : Holding ids history index visitor
  agreeing : Agreeing ids base history service index visitor

theorem consistent_invariant {ids : Nat → String} (hids : Function.Injective ids)
    (hplain : ∀ k, IsPlainId (ids k)) {base : String} (hserved : Served base) :
    Invariant ids (Ledger ids) (Consistent ids base) where
  act h hown := ⟨h.posted.step hown, h.awaited.step h.posted hown,
    h.holding.step hplain h.posted.remote hown, h.agreeing.step h.posted hown⟩
  deliver h number := ⟨h.posted.deliver number, h.awaited.deliver number, h.holding.deliver number,
    h.agreeing.deliver h.posted hserved number⟩
  serve {history x visitor before after parcel} hledger h hsplit hnumber hincoming hresponse := by
    have hin : parcel ∈ visitor.parcels := hsplit ▸ by simp
    have hjar : ∀ id, visitor.jar = some id → IsPlainId id := fun id hjar =>
      (h.holding.jar hjar).plain hplain
    refine ⟨hledger.execute hids, ⟨?_, h.awaited.serve hsplit _, h.holding.serve hplain hsplit,
      h.agreeing.serve hledger hids h.posted h.awaited hserved hjar hsplit hincoming hresponse⟩, ?_⟩
    · rw [Execution.response, hincoming]
      exact h.posted.serve hsplit x.service
    · intro other bystander hother hbystander
      refine ⟨hbystander.posted, hbystander.awaited, hbystander.holding.later x,
        hbystander.agreeing.bystand hledger hids hother fun id hheld hout => hother ?_⟩
      -- A logout presents an id of whoever sent it.
      have hcookie := h.holding.cookies parcel hin id (hincoming ▸ hout.2)
      exact hledger.one (hbystander.holding.jar hheld) hcookie

theorem consistent_ofSettings (ids : Nat → String) {settings : List Settings} {base : String}
    (hbase : ∀ own ∈ settings, (Client.ofBase own.apiUrl).baseUrl = base) :
    Holds (Ledger ids) (Consistent ids base) [] (ofSettings settings) := by
  refine ⟨.initial ids, fun {index visitor} hvisitor => ?_⟩
  rw [ofSettings, List.getElem?_map, Option.map_eq_some_iff] at hvisitor
  obtain ⟨own, hown, rfl⟩ := hvisitor
  have hsame := hbase own (List.mem_of_getElem? hown)
  refine ⟨hsame ▸ .initial ids own, .initial own, .initial ids index _, ?_, ?_, ?_, ?_⟩
  · rintro user ⟨⟩
  · rintro job registering ⟨⟩
  · rintro - list ⟨⟩
  · rintro - job ⟨⟩

-- ---- The result

/-- At every moment of a run of any number of consoles at a new service: the user whom a
console shows is the one of the session in its jar, with the display name of the one
registration; and between its user actions, the list that it shows is the blogs of the
account of the session in its jar, unless another visitor changed these since the latest
load. The service keeps each slug once. `ids` are the ids of sessions; no id is handed out
twice, and none ends a cookie. -/
theorem console_agrees_with_service {ids : Nat → String} (hids : Function.Injective ids)
    (hplain : ∀ k, IsPlainId (ids k)) {settings : List Settings}
    (hbase : ∀ own ∈ settings, own.apiUrl = "/api") {events : List Event}
    (hordinary : ∀ event ∈ events, event.IsOrdinary) {index : Nat} {visitor : Visitor}
    (hvisitor : ((ofSettings settings).run ids events).visitors[index]? = some visitor) :
    let service := ((ofSettings settings).run ids events).service
    let history := executions ids (ofSettings settings) events
    (∀ user, visitor.store.state.user = .loaded user →
      Recognizes service visitor.jar user ∧
      (∃ x ∈ history, ∃ password, x.Registers ⟨user.username, password, user.displayName⟩) ∧
      ∀ x ∈ history, ∀ registered, x.Registers registered →
        registered.username = user.username → registered.displayName = user.displayName) ∧
    (visitor.store.users.running = none → ∀ list, visitor.store.state.blogs = .loaded list →
      Mirrors ids history index service visitor.jar list) ∧
    ∀ username account, find? username service.backend.accounts = some account →
      account.blogList.Pairwise (·.slug < ·.slug) := by
  intro service history
  have hserved : Served "/api" := by
    change Server.Endpoint.ofPath? "/api/" = some .calls
    decide
  -- `Consistent` is the invariant; of what it keeps only `Agreeing` is about what is shown.
  have hholds := (consistent_invariant hids hplain hserved).run
    (consistent_ofSettings ids fun own hown => by rw [hbase own hown]; rfl) hordinary
  rw [List.nil_append] at hholds
  have hledger : Ledger ids history service := hholds.service
  have hagreeing := (hholds.visitors hvisitor).agreeing
  refine ⟨fun user huser => ⟨hagreeing.user huser, ?_, ?_⟩, fun hrun list hlist => ?_,
    fun username account haccount => account.blogList_sorted (hledger.sound.sorted haccount)⟩
  · obtain ⟨id, account, -, -, haccount, hname⟩ := hagreeing.user huser
    obtain ⟨x, hx, hregisters⟩ := hledger.registered haccount
    exact ⟨x, hx, account.password, hname ▸ hregisters⟩
  · intro x hx registered hregisters hname
    obtain ⟨id, account, -, -, haccount, hdisplay⟩ := hagreeing.user huser
    obtain ⟨blogs, hstanding⟩ := hledger.standing hx hregisters
    rw [hname] at hstanding
    cases haccount.symm.trans hstanding
    exact hdisplay
  · refine hagreeing.list (fun job hjob => ?_) hlist
    cases hrun.symm.trans hjob

/-- A visitor's action from its start to its end, with the requests of those numbers. -/
def inOneGo (index : Nat) (action : Store.Action) (numbers : List Nat) : List Event :=
  .act index (.start action) :: .act index (.resume action.slice) ::
    numbers.flatMap fun number =>
      [.serve index number, .deliver index number, .act index (.resume action.slice)]

/-- Ada registers and loads; Bob's registration is executed before her first blog is stored. -/
def adaAndBob : List Event :=
  inOneGo 0 (.user (.register ⟨"ada", "pw", some "Ada"⟩)) [0, 1, 2] ++
  inOneGo 0 (.blogs .load) [3] ++
  [.act 1 (.start (.user (.register ⟨"bob", "pw", none⟩))), .act 1 (.resume .user), .serve 1 0] ++
  inOneGo 0 (.blogs (.change (.create ⟨"tides", some "Tides"⟩))) [4]

theorem console_agrees_with_service_adaAndBob :
    (∀ event ∈ adaAndBob, event.IsOrdinary) ∧
    ∃ visitor account, ((ofSettings [{}, {}]).run longerIds adaAndBob).visitors[0]? = some visitor ∧
      visitor.store.state = ⟨.loaded ⟨"ada", some "Ada"⟩, .loaded [⟨"tides", some "Tides"⟩]⟩ ∧
      find? "ada" ((ofSettings [{}, {}]).run longerIds adaAndBob).service.backend.accounts =
        some account ∧
      account.displayName = some "Ada" ∧ [⟨"tides", some "Tides"⟩].Perm account.blogList := by
  have hordinary : ∀ event ∈ adaAndBob, event.IsOrdinary := by decide
  have hplain : ∀ k, IsPlainId (longerIds k) := fun k => by
    rw [IsPlainId, longerIds, String.toList_ofList, List.all_replicate]
    simp only [Nat.add_one_ne_zero, if_false]
    decide
  have hseen : ((ofSettings [{}, {}]).run longerIds adaAndBob).visitors[0]?.map
      (fun visitor => (visitor.store.state, visitor.store.users.running.isNone, visitor.jar)) =
      some (⟨.loaded ⟨"ada", some "Ada"⟩, .loaded [⟨"tides", some "Tides"⟩]⟩, true, some "s") := by
    decide +kernel
  obtain ⟨visitor, hvisitor, heq⟩ := Option.map_eq_some_iff.mp hseen
  simp only [Prod.mk.injEq] at heq
  obtain ⟨hstate, hrun, hjar⟩ := heq
  have huser : visitor.store.state.user = .loaded ⟨"ada", some "Ada"⟩ := by rw [hstate]
  have hlist : visitor.store.state.blogs = .loaded [⟨"tides", some "Tides"⟩] := by rw [hstate]
  obtain ⟨hshown, hmirrors, -⟩ := console_agrees_with_service longerIds_injective hplain
    (by decide : ∀ own ∈ [({} : Settings), {}], own.apiUrl = "/api") hordinary hvisitor
  obtain ⟨⟨id, account, hid, hlive, haccount, hname⟩, -⟩ := hshown _ huser
  obtain ⟨other, username, found, later, hother, hsession, hfound, hsince, hsame⟩ :=
    hmirrors (Option.isNone_iff_eq_none.mp hrun) _ hlist
  cases hid.symm.trans hother
  cases hlive.symm.trans hsession
  cases haccount.symm.trans hfound
  refine ⟨hordinary, visitor, account, hvisitor, hstate, haccount, hname, hsame ?_⟩
  have hbob : ∀ x ∈ executions longerIds (ofSettings [{}, {}]) adaAndBob, x.visitor ≠ 0 →
      ¬ x.Changes longerIds "ada" := by decide +kernel
  obtain ⟨before, load, hsplit, -⟩ := hsince
  exact fun x hx => hbob x (hsplit ▸ List.mem_append_right _ (List.mem_cons_of_mem _ hx))

end BlogDesk.Network
