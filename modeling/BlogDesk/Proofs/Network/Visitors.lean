import BlogDesk.Proofs.Network.Executions
import BlogDesk.Proofs.Store.Identity

/-!
# The requests of a visitor

What a visitor does at an event, and what holds of the requests under way: each
is known to the action that waits for it, and only a login or a logout in flight
may change the jar.
-/

namespace BlogDesk.Network

open Store (UserStage BlogStage UserAction UserTurn UserResume BlogResume Exchange Flight Reception)

-- ---- What a visitor does

namespace Visitor

def goesOn (visitor : Visitor) (next : Store) : Visitor :=
  match fresh? next visitor.store with
  | some (number, request) => { visitor with store := next }.post number request
  | none => { visitor with store := next }

theorem step_eq (visitor : Visitor) (event : Store.Event) :
    visitor.step event = visitor.goesOn (visitor.store.step event) := rfl

variable {visitor : Visitor} {next : Store}

theorem goesOn_quiet {P : Visitor → Prop} (hmade : next.requested = visitor.store.requested)
    (h : P { visitor with store := next }) : P (visitor.goesOn next) := by
  simpa [goesOn, fresh?, hmade] using h

theorem goesOn_request {P : Visitor → Prop} {ticket number : Nat} {request : Request} {state : State}
    {rest : List Store.Observation} (hremote : visitor.remote = false)
    (hmade : visitor.store.requested < next.requested)
    (hlog : next.log = .request ticket number request state :: rest)
    (h : P { visitor with
      store := next
      parcels := visitor.parcels ++ [⟨number, withCookie request visitor.jar, none⟩] }) :
    P (visitor.goesOn next) := by
  simpa [goesOn, fresh?, hmade, hlog, post, hremote] using h

theorem deliver_eq (visitor : Visitor) (number : Nat) : visitor.deliver number = visitor ∨
    ∃ parcel ∈ visitor.parcels, parcel.number = number ∧ ∃ response,
      parcel.response = some response ∧ visitor.deliver number =
        { visitor with
          store := visitor.store.step (.receive number (.ok response))
          jar := visitor.jar.after response
          parcels := visitor.parcels.filter (·.number != number)
          received := (number, .ok response) :: visitor.received } := by
  unfold deliver
  split
  · rename_i incoming response hfind
    refine .inr ⟨_, List.mem_of_find?_eq_some hfind, ?_, response, rfl, rfl⟩
    simpa using List.find?_some hfind
  · exact .inl rfl

end Visitor

-- ---- The answer to a call

/-- The exchange of a call that was made with that jar. `Good` holds of whatever
answers it, on its way back or there. -/
structure Awaits (base : String) (jar : Jar) (operation : Operation) (Good : Reception → Prop)
    (parcels : List Parcel) (exchange : Exchange) : Prop where
  request : ∀ parcel ∈ parcels, parcel.number = exchange.number → ∃ client : Client,
    client.baseUrl = base ∧ parcel.incoming = withCookie (client.request operation) jar
  sent : ∀ parcel ∈ parcels, parcel.number = exchange.number →
    ∀ response, parcel.response = some response → Good (.ok response)
  come : ∀ reception, exchange.reception = some reception → Good reception

theorem forall_mem_concat {α : Type} {P : α → Prop} {l : List α} {a : α} :
    (∀ x ∈ l ++ [a], P x) ↔ (∀ x ∈ l, P x) ∧ P a := by
  rw [List.forall_mem_append, List.forall_mem_singleton]

theorem forall_mem_middle {α : Type} {P : α → Prop} {before after : List α} {old new : α}
    (h : ∀ x ∈ before ++ old :: after, P x) (hnew : P old → P new) :
    ∀ x ∈ before ++ new :: after, P x := by
  rw [List.forall_mem_append, List.forall_mem_cons] at h ⊢
  exact ⟨h.1, hnew h.2.1, h.2.2⟩

namespace Awaits

variable {base : String} {jar : Jar} {operation : Operation} {Good Better : Reception → Prop}
  {parcels : List Parcel} {exchange : Exchange}

theorem mono (h : Awaits base jar operation Good parcels exchange)
    (hgood : ∀ {reception}, Good reception → Better reception) :
    Awaits base jar operation Better parcels exchange :=
  ⟨h.request, fun parcel hin hnumber response hresponse =>
    hgood (h.sent parcel hin hnumber response hresponse),
    fun reception hcame => hgood (h.come reception hcame)⟩

theorem fresh {number due : Nat} (hnew : ∀ parcel ∈ parcels, parcel.number < number)
    (client : Client) (hbase : client.baseUrl = base) :
    Awaits base jar operation Good
      (parcels ++ [⟨number, withCookie (client.request operation) jar, none⟩]) { number, due } := by
  refine ⟨forall_mem_concat.mpr ⟨fun parcel hin hnumber => ?_, fun _ => ⟨client, hbase, rfl⟩⟩,
    forall_mem_concat.mpr ⟨fun parcel hin hnumber => ?_, nofun⟩, nofun⟩
  · exact absurd hnumber (Nat.ne_of_lt (hnew parcel hin))
  · exact absurd hnumber (Nat.ne_of_lt (hnew parcel hin))

theorem post (h : Awaits base jar operation Good parcels exchange) {parcel : Parcel}
    (hnew : exchange.number < parcel.number) :
    Awaits base jar operation Good (parcels ++ [parcel]) exchange := by
  have hother : parcel.number ≠ exchange.number := (Nat.ne_of_lt hnew).symm
  exact ⟨forall_mem_concat.mpr ⟨h.request, fun hnumber => absurd hnumber hother⟩,
    forall_mem_concat.mpr ⟨h.sent, fun hnumber => absurd hnumber hother⟩, h.come⟩

theorem deliver (h : Awaits base jar operation Good parcels exchange) {parcel : Parcel}
    (hin : parcel ∈ parcels) {response : Response} (hresponse : parcel.response = some response) :
    Awaits base jar operation Good (parcels.filter (·.number != parcel.number))
      (exchange.answered parcel.number (.ok response)) := by
  refine ⟨fun other hother hnumber => ?_, fun other hother hnumber => ?_, fun reception hcame => ?_⟩
  · rw [Exchange.answered_number] at hnumber
    exact h.request other (List.mem_filter.mp hother).1 hnumber
  · rw [Exchange.answered_number] at hnumber
    exact h.sent other (List.mem_filter.mp hother).1 hnumber
  · unfold Exchange.answered at hcame
    split at hcame
    · rename_i hmine
      cases hcame
      exact h.sent parcel hin hmine.1.symm response hresponse
    · exact h.come reception hcame

theorem serve {before after : List Parcel} {parcel : Parcel}
    (h : Awaits base jar operation Good (before ++ parcel :: after) exchange) {response : Response}
    (hgood : parcel.number = exchange.number → ∀ client : Client, client.baseUrl = base →
      parcel.incoming = withCookie (client.request operation) jar → Good (.ok response)) :
    Awaits base jar operation Good (before ++ { parcel with response := some response } :: after)
      exchange := by
  refine ⟨forall_mem_middle h.request id, forall_mem_middle h.sent fun _ hnumber => ?_, h.come⟩
  rintro answer hanswer
  cases hanswer
  obtain ⟨client, hbase, hincoming⟩ := h.request parcel (by simp) hnumber
  exact hgood hnumber client hbase hincoming

end Awaits

-- ---- Requests under way

/-- What holds of a visitor and the requests under way, as long as nobody but the
store's actions commits and answers come from the service only. -/
structure Posted (ids : Nat → String) (base : String) (visitor : Visitor) : Prop where
  reach : visitor.store.Reachable
  address : visitor.store.client.baseUrl = base
  remote : visitor.remote = false
  waiting : ∀ {job}, visitor.store.users.running = some job → visitor.store.state.user = .loading
  userSent : ∀ {job}, visitor.store.users.running = some job →
    job.exchange.number < visitor.store.requested
  blogSent : ∀ {job}, visitor.store.blogs.running = some job →
    job.exchange.number < visitor.store.requested
  made : ∀ parcel ∈ visitor.parcels, parcel.number < visitor.store.requested
  answered : ∀ parcel ∈ visitor.parcels, ∀ response, parcel.response = some response →
    ∃ service : Server.Service, response = (service.handle ids parcel.incoming).1
  /-- What is no call belongs to the user action in flight, which then is at no check. -/
  form : ∀ parcel ∈ visitor.parcels,
    (∃ (client : Client) (operation : Operation) (jar : Jar), client.baseUrl = base ∧
      parcel.incoming = withCookie (client.request operation) jar) ∨
    ∃ job, visitor.store.users.running = some job ∧ job.exchange.number = parcel.number ∧
      ∀ registering, job.stage ≠ .checking registering
  /-- The answer that a user action has got is no longer under way. -/
  got : ∀ {job}, visitor.store.users.running = some job → job.exchange.reception.isSome →
    ∀ parcel ∈ visitor.parcels, parcel.number ≠ job.exchange.number

namespace Posted

variable {ids : Nat → String} {base : String} {visitor : Visitor} {next : Store}

theorem initial (ids : Nat → String) (settings : Settings) :
    Posted ids (Client.ofBase settings.apiUrl).baseUrl { store := .ofSettings settings } where
  reach := .run_ofSettings settings []
  address := rfl
  remote := rfl
  waiting := nofun
  userSent := nofun
  blogSent := nofun
  made := nofun
  answered := nofun
  form := nofun
  got := nofun

theorem calls (h : Posted ids base visitor)
    (hready : ∀ {job}, visitor.store.users.running = some job → job.exchange.reception.isSome) :
    ∀ parcel ∈ visitor.parcels, ∃ (client : Client) (operation : Operation) (jar : Jar),
      client.baseUrl = base ∧ parcel.incoming = withCookie (client.request operation) jar := by
  intro parcel hin
  rcases h.form parcel hin with hcall | ⟨job, hrun, hnumber, -⟩
  · exact hcall
  · exact absurd hnumber.symm (h.got hrun (hready hrun) parcel hin)

theorem quiet (h : Posted ids base visitor) (hreach : next.Reachable)
    (hclient : next.client = visitor.store.client)
    (huser : next.state.user = visitor.store.state.user)
    (hrequested : next.requested = visitor.store.requested)
    (husers : next.users.running = visitor.store.users.running)
    (hblogs : ∀ {job}, next.blogs.running = some job → visitor.store.blogs.running = some job) :
    Posted ids base { visitor with store := next } where
  reach := hreach
  address := hclient ▸ h.address
  remote := h.remote
  waiting hrun := huser.trans (h.waiting (husers ▸ hrun))
  userSent hrun := hrequested ▸ h.userSent (husers ▸ hrun)
  blogSent hrun := hrequested ▸ h.blogSent (hblogs hrun)
  made := hrequested ▸ h.made
  answered := h.answered
  form := husers ▸ h.form
  got hrun := h.got (husers ▸ hrun)

theorem blogResume (h : Posted ids base visitor) (hreach : next.Reachable)
    (turn : BlogResume visitor.store next) : Posted ids base (visitor.goesOn next) := by
  cases turn with
  | idle => exact Visitor.goesOn_quiet rfl h
  | begins hrun hwait hstage =>
    refine Visitor.goesOn_request h.remote (Nat.lt_succ_self _) rfl ?_
    refine ⟨hreach, h.address, h.remote, h.waiting, fun hrun => ?_, ?_,
      forall_mem_concat.mpr ⟨fun parcel hin => ?_, Nat.lt_succ_self _⟩,
      forall_mem_concat.mpr ⟨h.answered, nofun⟩,
      forall_mem_concat.mpr ⟨h.form, .inl ⟨_, _, _, h.address, rfl⟩⟩, fun {job} hrun hcame => ?_⟩
    · exact Nat.lt_succ_of_lt (h.userSent hrun)
    · intro job hrun
      obtain rfl := Option.some.inj hrun
      exact Nat.lt_succ_self _
    · exact Nat.lt_succ_of_lt (h.made parcel hin)
    · exact forall_mem_concat.mpr ⟨h.got hrun hcame, (Nat.ne_of_lt (h.userSent hrun)).symm⟩
  | refuses hrun hwait haction hlist =>
    exact Visitor.goesOn_quiet rfl (h.quiet hreach rfl rfl rfl rfl nofun)
  | ends hrun hcame hepoch =>
    exact Visitor.goesOn_quiet rfl (h.quiet hreach rfl rfl rfl rfl nofun)
  | drops hrun hcame hepoch =>
    exact Visitor.goesOn_quiet rfl (h.quiet hreach rfl rfl rfl rfl nofun)

theorem userTurn (h : Posted ids base visitor) (hreach : next.Reachable)
    (hready : ∀ {job}, visitor.store.users.running = some job → job.exchange.reception.isSome)
    (flight : Flight UserAction UserStage) {ticket : Nat} {came : Option (UserStage × Reception)}
    (turn : UserTurn { visitor.store with users := flight } ticket came next) :
    Posted ids base (visitor.goesOn next) := by
  have hcalls := h.calls hready
  cases turn with
  | @request stage request client due hrequest =>
    refine Visitor.goesOn_request h.remote (Nat.lt_succ_self _) rfl ?_
    refine ⟨hreach, ?_, h.remote, fun _ => rfl, ?_, fun hrun => ?_,
      forall_mem_concat.mpr ⟨fun parcel hin => ?_, Nat.lt_succ_self _⟩,
      forall_mem_concat.mpr ⟨h.answered, nofun⟩,
      forall_mem_concat.mpr ⟨fun parcel hin => .inl (hcalls parcel hin), ?_⟩, ?_⟩
    · cases hrequest <;> exact h.address
    · intro job hrun
      obtain rfl := Option.some.inj hrun
      exact Nat.lt_succ_self _
    · exact Nat.lt_succ_of_lt (h.blogSent hrun)
    · exact Nat.lt_succ_of_lt (h.made parcel hin)
    · cases hrequest with
      | call hstage => exact .inl ⟨_, _, _, h.address, rfl⟩
      | form hsends =>
        refine .inr ⟨_, rfl, rfl, fun registering hstage => ?_⟩
        simp only at hstage
        rw [hstage] at hsends
        exact hsends
    · intro job hrun hcame
      obtain rfl := Option.some.inj hrun
      cases hcame
  | finish hloading hloaded =>
    refine Visitor.goesOn_quiet rfl ?_
    exact ⟨hreach, h.address, h.remote, nofun, nofun, h.blogSent, h.made, h.answered,
      fun parcel hin => .inl (hcalls parcel hin), nofun⟩

theorem deliver (h : Posted ids base visitor) (number : Nat) :
    Posted ids base (visitor.deliver number) := by
  rcases visitor.deliver_eq number with heq | ⟨parcel, hin, rfl, response, hresponse, heq⟩
  · rwa [heq]
  · rw [heq]
    refine ⟨h.reach.step (.receive parcel.number (.ok response)), h.address, h.remote,
      fun hrun => ?_, fun hrun => ?_, fun hrun => ?_,
      fun other hother => h.made other (List.mem_filter.mp hother).1,
      fun other hother => h.answered other (List.mem_filter.mp hother).1, fun other hother => ?_,
      fun hrun hcame other hother => ?_⟩
    · obtain ⟨old, hold, rfl⟩ := Flight.receive_running.mp hrun
      exact h.waiting hold
    · obtain ⟨old, hold, rfl⟩ := Flight.receive_running.mp hrun
      rw [Store.InFlight.answered_number]
      exact h.userSent hold
    · obtain ⟨old, hold, rfl⟩ := Flight.receive_running.mp hrun
      rw [Store.InFlight.answered_number]
      exact h.blogSent hold
    · rcases h.form other (List.mem_filter.mp hother).1 with hcall | ⟨job, hrun, hnumber, hstage⟩
      · exact .inl hcall
      · exact .inr ⟨_, Flight.receive_running.mpr ⟨job, hrun, rfl⟩,
          by rwa [Store.InFlight.answered_number], hstage⟩
    · obtain ⟨old, hold, rfl⟩ := Flight.receive_running.mp hrun
      obtain ⟨hother, hne⟩ := List.mem_filter.mp hother
      simp only [Store.InFlight.answered, Exchange.answered] at hcame ⊢
      split at hcame
      · rename_i hmine
        rw [if_pos hmine, hmine.1]
        simpa using hne
      · rename_i hmine
        rw [if_neg hmine]
        exact h.got hold hcame other hother

theorem serve (h : Posted ids base visitor) {before after : List Parcel} {parcel : Parcel}
    (hsplit : visitor.parcels = before ++ parcel :: after) (service : Server.Service) :
    Posted ids base { visitor with
      parcels := before ++
        { parcel with response := some (service.handle ids parcel.incoming).1 } :: after } := by
  obtain ⟨hreach, haddress, hremote, hwaiting, huser, hblog, hmade, hanswered, hform, hgot⟩ := h
  rw [hsplit] at hmade hanswered hform
  refine ⟨hreach, haddress, hremote, hwaiting, huser, hblog, forall_mem_middle hmade id,
    forall_mem_middle hanswered fun _ => ?_, forall_mem_middle hform id, fun hrun hcame => ?_⟩
  · rintro _ ⟨⟩
    exact ⟨service, rfl⟩
  · have hfree := hgot hrun hcame
    rw [hsplit] at hfree
    exact forall_mem_middle hfree id

theorem step (h : Posted ids base visitor) {event : Store.Event} (hown : event.IsOwn) :
    Posted ids base (visitor.step event) := by
  have hreach := h.reach.step event
  rw [Visitor.step_eq]
  generalize visitor.store.step event = next, Store.step_own visitor.store hown = own at hreach
  cases own with
  | quiet hclient hstate hepoch hrequested husers hblogs =>
    exact Visitor.goesOn_quiet hrequested (h.quiet hreach hclient (congrArg State.user hstate)
      hrequested husers fun hrun => hblogs ▸ hrun)
  | blogs turn => exact h.blogResume hreach turn
  | users hready hcame turn => exact h.userTurn hreach hready _ turn

end Posted

end BlogDesk.Network
