import Mathlib.Logic.Function.Iterate
import BlogDesk.Proofs.Network.Ownership
import BlogDesk.Proofs.Server.Cookies
import BlogDesk.Proofs.Store.Slices

/-!
# Actions carried through

`perform` runs one action of a visitor from its start to its end: each request is
executed, answered and held back for as long as the visitor's settings say, and
nobody else does anything meanwhile. Between such actions every visitor is `AtRest`;
`exchange_place` says what one exchange does to the service and to the visitor.
-/

namespace BlogDesk.Network

open Server (IsPlainId Service)
open Store (UserStage UserAction BlogStage BlogAction Slice Flight Exchange)

section
variable (ids : Nat → String) {network : Network} {index : Nat} {visitor : Visitor}

theorem exchange_of_none (hnone : network.visitors[index]? = none) (slice : Slice) :
    exchange ids index slice network = network := by
  simp only [exchange, hnone]

theorem exchange_of_idle (hvisitor : network.visitors[index]? = some visitor) {slice : Slice}
    (hidle : pending? visitor.store slice = none) : exchange ids index slice network = network := by
  simp only [exchange, hvisitor, hidle]

end

-- ---- One visitor among others

/-- The network in which that visitor stands at the index, and the others as they are. -/
def place (others : List Visitor) (index : Nat) (service : Service) (visitor : Visitor) : Network :=
  ⟨service, others.set index visitor⟩

/-- The visitor once a response has come, and its time has passed. -/
def Visitor.answered (visitor : Visitor) (number : Nat) (response : Response) : Visitor where
  store := (visitor.store.step (.receive number (.ok response))).step (.pass visitor.store.delay)
  jar := visitor.jar.after response
  parcels := []
  remote := visitor.remote
  received := (number, .ok response) :: visitor.received

theorem Visitor.step_pass (visitor : Visitor) (milliseconds : Nat) :
    visitor.step (.pass milliseconds) =
      { visitor with store := visitor.store.step (.pass milliseconds) } :=
  Visitor.goesOn_quiet (P := (· = _)) rfl rfl

theorem Visitor.step_start (visitor : Visitor) (action : Store.Action) :
    visitor.step (.start action) = { visitor with store := visitor.store.start action } :=
  Visitor.goesOn_quiet (P := (· = _)) (by cases action <;> rfl) rfl

theorem receive_awaited {α σ : Type} {ticket : Nat} {stage : σ} {asked : Exchange}
    (hnone : asked.reception = none) (reception : Store.Reception) :
    (⟨some ⟨ticket, stage, asked⟩, []⟩ : Flight α σ).receive asked.number reception =
      ⟨some ⟨ticket, stage, { asked with reception := some reception }⟩, []⟩ := by
  simp [Flight.receive, hnone]

section
variable (visitor : Visitor) (number : Nat) (response : Response)

theorem answered_users : (visitor.answered number response).store.users =
    visitor.store.users.receive number (.ok response) := rfl

theorem answered_blogs : (visitor.answered number response).store.blogs =
    visitor.store.blogs.receive number (.ok response) := rfl

end

section
variable (ids : Nat → String) {others : List Visitor} {index : Nat} {service : Service}
  {visitor : Visitor}

theorem place_self {network : Network} (hvisitor : network.visitors[index]? = some visitor) :
    place network.visitors index network.service visitor = network := by
  obtain ⟨hindex, rfl⟩ := List.getElem?_eq_some_iff.mp hvisitor
  rw [place, List.set_getElem_self]

variable (hindex : index < others.length)
include hindex

theorem getElem?_place : (place others index service visitor).visitors[index]? = some visitor := by
  rw [place, List.getElem?_set_self hindex]

theorem place_modify (f : Visitor → Visitor) :
    (place others index service visitor).modifyVisitor index f =
      place others index service (f visitor) := by
  rw [place, modifyVisitor, List.modify_eq_set_getElem?, List.getElem?_set_self hindex]
  simp [place]

theorem place_act (event : Store.Event) :
    (place others index service visitor).step ids (.act index event) =
      place others index service (visitor.step event) :=
  place_modify hindex _

theorem place_serve {number : Nat} {incoming : Server.Incoming}
    (hparcels : visitor.parcels = [⟨number, incoming, none⟩]) :
    (place others index service visitor).step ids (.serve index number) =
      place others index (service.handle ids incoming).2 { visitor with
        parcels := [⟨number, incoming, some (service.handle ids incoming).1⟩] } := by
  simp only [Network.step, getElem?_place hindex, hparcels, serveParcels]
  simp [place]

theorem place_deliver {number : Nat} {incoming : Server.Incoming} {response : Response}
    (hparcels : visitor.parcels = [⟨number, incoming, some response⟩]) :
    (place others index service visitor).step ids (.deliver index number) =
      place others index service { visitor with
        store := visitor.store.step (.receive number (.ok response))
        jar := visitor.jar.after response
        parcels := []
        received := (number, .ok response) :: visitor.received } := by
  refine (place_modify hindex _).trans (congrArg _ ?_)
  simp [Visitor.deliver, Visitor.receive, hparcels]

theorem perform_place (action : Store.Action) :
    perform ids (place others index service visitor) index action =
      (exchange ids index action.slice)^[3] (place others index service
        ((visitor.step (.start action)).step (.resume action.slice))) := by
  rw [← place_act ids hindex, ← place_act ids hindex]
  rfl

/-- One exchange: the service handles the request, and the visitor goes on with its response. -/
theorem exchange_place {slice : Slice} {number : Nat} {incoming : Server.Incoming}
    (hpending : pending? visitor.store slice = some number)
    (hparcels : visitor.parcels = [⟨number, incoming, none⟩]) :
    exchange ids index slice (place others index service visitor) =
      place others index (service.handle ids incoming).2
        ((visitor.answered number (service.handle ids incoming).1).step (.resume slice)) := by
  simp only [exchange, getElem?_place hindex, hpending, Network.run, List.foldl_cons, List.foldl_nil]
  rw [place_serve ids hindex hparcels, place_deliver ids hindex rfl, place_act ids hindex,
    place_act ids hindex, Visitor.step_pass]
  rfl

end

-- ---- Between exchanges

structure Local (jar : Jar) (visitor : Visitor) : Prop where
  remote : visitor.remote = false
  address : visitor.store.client.baseUrl = "/api"
  held : visitor.jar = jar
  plain : ∀ id, jar = some id → IsPlainId id

structure Quiet (jar : Jar) (visitor : Visitor) : Prop extends Local jar visitor where
  parcels : visitor.parcels = []

structure AtRest (jar : Jar) (visitor : Visitor) : Prop extends Quiet jar visitor where
  users : visitor.store.users = {}
  blogs : visitor.store.blogs = {}

structure Ended (jar : Jar) (ticket : Nat) (result : Store.Result) (visitor : Visitor) : Prop
    extends AtRest jar visitor where
  told : visitor.store.log.head? = some (.finish ticket result)

structure Sent (jar : Jar) (request : Request) (asked : Exchange) (visitor : Visitor) : Prop
    extends Local jar visitor where
  parcels : visitor.parcels = [⟨asked.number, withCookie request jar, none⟩]
  unanswered : asked.reception = none
  due : asked.due ≤ visitor.store.clock + visitor.store.delay

structure AsksAsUser (jar : Jar) (ticket : Nat) (stage : UserStage) (request : Request)
    (asked : Exchange) (visitor : Visitor) : Prop extends Sent jar request asked visitor where
  users : visitor.store.users = ⟨some ⟨ticket, stage, asked⟩, []⟩
  blogs : visitor.store.blogs = {}

structure AsksForBlogs (jar : Jar) (ticket : Nat) (stage : BlogStage) (request : Request)
    (asked : Exchange) (visitor : Visitor) : Prop extends Sent jar request asked visitor where
  users : visitor.store.users = {}
  blogs : visitor.store.blogs = ⟨some ⟨ticket, stage, asked⟩, []⟩

-- ---- Turns

section
variable {jar : Jar} {visitor : Visitor} {next : Store}

theorem goesOn_eq (next : Store) (hremote : visitor.remote = false) : ∃ parcels,
    visitor.goesOn next = { visitor with store := next, parcels } := by
  unfold Visitor.goesOn
  split
  · simp only [Visitor.post, hremote, Bool.false_and, Bool.false_eq_true, if_false]
    exact ⟨_, rfl⟩
  · exact ⟨_, rfl⟩

theorem goesOn_store (hremote : visitor.remote = false) : (visitor.goesOn next).store = next := by
  obtain ⟨parcels, heq⟩ := goesOn_eq next hremote
  rw [heq]

theorem goesOn_from {store : Store} (hmade : store.requested = visitor.store.requested) :
    visitor.goesOn next = { visitor with store }.goesOn next := by
  simp only [Visitor.goesOn, Visitor.fresh?, hmade]

theorem Local.goesOn (h : Local jar visitor) (haddress : next.client = visitor.store.client ∨
    next.client = visitor.store.client.afterCall) : Local jar (visitor.goesOn next) := by
  obtain ⟨parcels, heq⟩ := goesOn_eq next h.remote
  rw [heq]
  refine ⟨h.remote, ?_, h.held, h.plain⟩
  rcases haddress with hclient | hclient <;> exact (congrArg Client.baseUrl hclient).trans h.address

theorem Quiet.stays (h : Quiet jar visitor) (hclient : next.client = visitor.store.client)
    (hmade : next.requested = visitor.store.requested) : Quiet jar (visitor.goesOn next) :=
  ⟨h.toLocal.goesOn (.inl hclient), Visitor.goesOn_quiet (P := (·.parcels = [])) hmade h.parcels⟩

theorem Quiet.ends (h : Quiet jar visitor) (hclient : next.client = visitor.store.client)
    (hmade : next.requested = visitor.store.requested) (husers : next.users = {})
    (hblogs : next.blogs = {}) {ticket : Nat} {result : Store.Result}
    (hlog : next.log.head? = some (.finish ticket result)) :
    Ended jar ticket result (visitor.goesOn next) := by
  refine ⟨⟨h.stays hclient hmade, ?_, ?_⟩, ?_⟩ <;> rw [goesOn_store h.remote]
  exacts [husers, hblogs, hlog]

theorem Quiet.sends (h : Quiet jar visitor) (hclient : next.client = visitor.store.client ∨
      next.client = visitor.store.client.afterCall)
    (hmade : next.requested = visitor.store.requested + 1) {ticket due : Nat} {request : Request}
    {state : State} {log : List Store.Observation}
    (hlog : next.log = .request ticket visitor.store.requested request state :: log)
    (hdue : due ≤ next.clock + next.delay) :
    Sent jar request { number := visitor.store.requested, due } (visitor.goesOn next) := by
  refine ⟨h.toLocal.goesOn hclient, ?_, rfl, ?_⟩
  · refine Visitor.goesOn_request (P := (·.parcels = _)) h.remote (hmade ▸ Nat.lt_succ_self _) hlog ?_
    rw [h.parcels, h.held]
    rfl
  · rw [goesOn_store h.remote]
    exact hdue

theorem client_commitUser (store : Store) (ticket : Option Nat) (user : Loadable User) :
    (store.commitUser ticket user).client = store.client := by
  rw [Store.commitUser_eq]

section
variable (h : Quiet jar visitor) (hwaiting : visitor.store.users.waiting = [])
  (hblogs : visitor.store.blogs = {}) (ticket : Nat)
include h hwaiting hblogs

theorem Quiet.callAsUser (stage : UserStage) (operation : Operation) : ∃ asked,
    AsksAsUser jar ticket stage (visitor.store.client.request operation) asked (visitor.goesOn
      ((visitor.store.commitUser ticket .loading).callAsUser ticket stage operation)) := by
  rw [Store.commitUser_eq]
  refine ⟨_, h.sends (.inr rfl) rfl rfl (Nat.le_refl _), ?_, ?_⟩
  · rw [goesOn_store h.remote]
    exact congrArg (Flight.mk _) hwaiting
  · rw [goesOn_store h.remote]
    exact hblogs

theorem Quiet.sendAsUser (stage : UserStage) (request : Request) : ∃ asked,
    AsksAsUser jar ticket stage request asked (visitor.goesOn
      ((visitor.store.commitUser ticket .loading).sendAsUser ticket stage request 0)) := by
  rw [Store.commitUser_eq]
  refine ⟨_, h.sends (.inl (by rfl)) rfl rfl (Nat.add_le_add_left (Nat.zero_le _) _), ?_, ?_⟩
  · rw [goesOn_store h.remote]
    exact congrArg (Flight.mk _) hwaiting
  · rw [goesOn_store h.remote]
    exact hblogs

theorem Quiet.finishUser (user : Loadable User) (result : Store.Result) :
    Ended jar ticket result (visitor.goesOn
      ((visitor.store.commitUser ticket user).finishUser ticket result)) := by
  rw [Store.commitUser_eq]
  refine h.ends ?_ ?_ ?_ ?_ ?_
  exacts [rfl, rfl, congrArg (Flight.mk none) hwaiting, hblogs, rfl]

theorem Quiet.signIn (registering : Bool) (credentials : Credentials) : ∃ asked,
    AsksAsUser jar ticket (.signingIn registering) (visitor.store.client.loginRequest credentials)
      asked (visitor.goesOn (visitor.store.signIn ticket registering credentials)) := by
  rw [Store.signIn, client_commitUser]
  exact h.sendAsUser hwaiting hblogs ticket _ _

theorem Quiet.signOut : ∃ asked,
    AsksAsUser jar ticket .signingOut visitor.store.client.logoutRequest asked
      (visitor.goesOn (visitor.store.beginUser ticket .logout)) := by
  rw [Store.beginUser, client_commitUser]
  exact h.sendAsUser hwaiting hblogs ticket _ _

end

end

-- ---- One exchange

section
variable {ids : Nat → String} (hids : ∀ k, IsPlainId (ids k)) {others : List Visitor} {index : Nat}
  (hindex : index < others.length) (service : Service) {jar : Jar} {visitor : Visitor} {ticket : Nat}
  {request : Request} {asked : Exchange}

include hids in
theorem plain_after_handle (hjar : ∀ id, jar = some id → IsPlainId id) (incoming : Server.Incoming) :
    ∀ id, jar.after (service.handle ids incoming).1 = some id → IsPlainId id := by
  intro id hid
  rcases Server.jar_after_handle hids service incoming jar with
    hkept | hnone | ⟨opened, _, hissues, hopened⟩
  · exact hjar id (hkept.symm.trans hid)
  · cases hnone.symm.trans hid
  · cases hopened.symm.trans hid
    exact hissues.next.1 ▸ hids _

include hids in
/-- Once its response has come and its time has passed, nothing is under way. -/
theorem Sent.answered (h : Sent jar request asked visitor) :
    Quiet (jar.after (service.handle ids (withCookie request jar)).1)
      (visitor.answered asked.number (service.handle ids (withCookie request jar)).1) :=
  ⟨⟨h.remote, h.address, congrArg (Jar.after · _) h.held, plain_after_handle hids service h.plain _⟩, rfl⟩

include hids hindex

theorem AsksAsUser.resumes {stage : UserStage}
    (h : AsksAsUser jar ticket stage request asked visitor) : ∃ ready : Visitor,
      Quiet (jar.after (service.handle ids (withCookie request jar)).1) ready ∧
      ready.store.users.waiting = [] ∧ ready.store.blogs = {} ∧
      exchange ids index .user (place others index service visitor) =
        place others index (service.handle ids (withCookie request jar)).2
          (ready.goesOn (ready.store.continueUser ticket
            (.ok (service.handle ids (withCookie request jar)).1) stage)) := by
  have hpending : pending? visitor.store .user = some asked.number := by
    rw [pending?, h.users]
    rfl
  rw [exchange_place ids hindex hpending h.parcels, Visitor.step_eq]
  -- The visitor goes on whatever the response says.
  generalize hresponse : (service.handle ids (withCookie request jar)).1 = response
  have husers : (visitor.answered asked.number response).store.users =
      ⟨some ⟨ticket, stage, { asked with reception := some (.ok response) }⟩, []⟩ := by
    rw [answered_users, h.users, receive_awaited h.unanswered]
  have hblogs : (visitor.answered asked.number response).store.blogs = {} := by
    rw [answered_blogs, h.blogs]
    rfl
  have hdue : asked.due ≤ (visitor.answered asked.number response).store.clock := h.due
  refine ⟨visitor.answered asked.number response, hresponse ▸ h.toSent.answered hids service,
    by rw [husers], hblogs, ?_⟩
  simp only [Store.step, Store.resumeUser, husers, Exchange.resolved?, if_pos hdue]

theorem AsksForBlogs.ends {stage : BlogStage}
    (h : AsksForBlogs jar ticket stage request asked visitor) : ∃ result after,
      Ended (jar.after (service.handle ids (withCookie request jar)).1) ticket result after ∧
      exchange ids index .blogs (place others index service visitor) =
        place others index (service.handle ids (withCookie request jar)).2 after := by
  have hpending : pending? visitor.store .blogs = some asked.number := by
    rw [pending?, h.blogs]
    rfl
  rw [exchange_place ids hindex hpending h.parcels, Visitor.step_eq]
  have hquiet := h.toSent.answered hids service
  generalize (service.handle ids (withCookie request jar)).1 = response at hquiet ⊢
  have husers : (visitor.answered asked.number response).store.users = {} := by
    rw [answered_users, h.users]
    rfl
  have hblogs : (visitor.answered asked.number response).store.blogs =
      ⟨some ⟨ticket, stage, { asked with reception := some (.ok response) }⟩, []⟩ := by
    rw [answered_blogs, h.blogs, receive_awaited h.unanswered]
  have hdue : asked.due ≤ (visitor.answered asked.number response).store.clock := h.due
  have hdone : (⟨none, (visitor.answered asked.number response).store.blogs.waiting⟩ :
      Flight BlogAction BlogStage) = {} := by
    rw [hblogs]
  refine ⟨stage.result (.ok response), _, ?_, rfl⟩
  simp only [Store.step, Store.resumeBlogs, hblogs, Exchange.resolved?, if_pos hdue,
    Store.continueBlogs_eq, Store.commitBlogsIn]
  -- Whether or not the list is committed, the action comes to its end.
  split <;> refine hquiet.ends ?_ ?_ ?_ ?_ ?_
  exacts [rfl, rfl, husers, hdone, rfl, rfl, rfl, husers, hdone, rfl]

end

-- ---- Beginnings

def Visitor.counted (visitor : Visitor) : Visitor :=
  { visitor with store := { visitor.store with started := visitor.store.started + 1 } }

section
variable {jar : Jar} {visitor : Visitor}

theorem AtRest.counted (h : AtRest jar visitor) : AtRest jar visitor.counted :=
  ⟨⟨⟨h.remote, h.address, h.held, h.plain⟩, h.parcels⟩, h.users, h.blogs⟩

theorem AtRest.step_user (h : AtRest jar visitor) (action : UserAction) :
    (visitor.step (.start (.user action))).step (.resume .user) =
      visitor.counted.goesOn (visitor.counted.store.beginUser visitor.store.started action) := by
  have hnext : (visitor.store.start (.user action)).step (.resume .user) =
      visitor.counted.store.beginUser visitor.store.started action := by
    simp only [Store.step, Store.resumeUser, Store.start, Flight.enqueue, h.users, List.nil_append,
      Visitor.counted]
  rw [Visitor.step_start, Visitor.step_eq, hnext]
  exact goesOn_from (by cases action <;> rfl)

theorem AtRest.step_blogs (h : AtRest jar visitor) (action : BlogAction) :
    (visitor.step (.start (.blogs action))).step (.resume .blogs) =
      visitor.counted.goesOn (visitor.counted.store.beginBlogs visitor.store.started action) := by
  have hnext : (visitor.store.start (.blogs action)).step (.resume .blogs) =
      visitor.counted.store.beginBlogs visitor.store.started action := by
    simp only [Store.step, Store.resumeBlogs, Store.start, Flight.enqueue, h.blogs, List.nil_append,
      Visitor.counted]
  rw [Visitor.step_start, Visitor.step_eq, hnext]
  exact goesOn_from (by cases action <;> rfl)

theorem AtRest.callForBlogs (h : AtRest jar visitor) (ticket : Nat) (stage : BlogStage)
    (operation : Operation) : ∃ asked,
    AsksForBlogs jar ticket stage (visitor.store.client.request operation) asked (visitor.goesOn
      ((visitor.store.commitBlogs ticket .loading).callForBlogs ticket stage operation)) := by
  refine ⟨_, h.sends (.inr rfl) rfl rfl (Nat.le_refl _), ?_, ?_⟩
  · rw [goesOn_store h.remote]
    exact h.users
  · rw [goesOn_store h.remote]
    exact congrArg (Flight.mk _) (congrArg Flight.waiting h.blogs)

/-- An action on the blogs makes its one request, or is an edit that is refused at once. -/
theorem AtRest.beginBlogs (h : AtRest jar visitor) (ticket : Nat) (action : BlogAction) :
    (∃ result, Ended jar ticket result (visitor.goesOn (visitor.store.beginBlogs ticket action))) ∨
    ∃ stage errand asked, errand ∈ (Store.Action.blogs action).errands ∧
      AsksForBlogs jar ticket stage (Store.Errand.request visitor.store.client errand) asked
        (visitor.goesOn (visitor.store.beginBlogs ticket action)) := by
  cases action with
  | load => exact .inr ⟨_, .call .listBlogs, (h.callForBlogs ..).imp fun _ => .intro (.head _)⟩
  | change edit =>
    simp only [Store.beginBlogs]
    split
    · exact .inr ⟨_, .call edit.operation, (h.callForBlogs ..).imp fun _ => .intro (.head _)⟩
    · refine .inl ⟨.edit (.error .invalidBaseState), h.ends ?_ ?_ ?_ ?_ ?_⟩
      exacts [rfl, rfl, h.users, congrArg (Flight.mk none) (congrArg Flight.waiting h.blogs), rfl]

end

end BlogDesk.Network
