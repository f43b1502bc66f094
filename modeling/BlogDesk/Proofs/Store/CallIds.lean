import BlogDesk.Proofs.Json.Text
import BlogDesk.Proofs.Store.Edits
import BlogDesk.Proofs.Store.Loading

/-!
# Ids of calls

A call takes its id when it is built, and nothing else takes one. So the calls of a
store carry the numbers from 1 on in the order they are made, however its actions come
in between each other, and so do the calls of all handles that share a sequence of ids.
-/

namespace BlogDesk

-- ---- The id that a request carries

/-- The id that a request carries, if it is a call: its body begins with it. -/
def Request.callId? (request : Request) : Option String :=
  match (request.body.getD "").toList with
  | '\x7b' :: '"' :: 'i' :: 'd' :: '"' :: ':' :: '"' :: rest =>
    (Json.Cursor.text (.ofText rest)).toOption.map (·.1)
  | _ => none

theorem Call.write_chars (call : Call) : ∃ rest, (Call.layout.write call).toList =
    '\x7b' :: '"' :: 'i' :: 'd' :: '"' :: ':' :: '"' ::
      (call.id.toList.flatMap Json.escapeChar ++ '"' :: rest) := by
  refine ⟨',' :: (Json.quote "method" ++ ':' :: (Json.quote call.method ++ ',' ::
    (Json.quote "params" ++ ':' :: (Json.chars (.array call.params) ++ ['\x7d'])))), ?_⟩
  change (String.ofList (Json.chars (.object [("id", .str call.id), ("method", .str call.method),
    ("params", .array call.params)]))).toList = _
  have hi : Json.escapeChar 'i' = ['i'] := rfl
  have hd : Json.escapeChar 'd' = ['d'] := rfl
  simp [Json.chars, Json.memberChars, Json.quote, hi, hd]

theorem callId?_callRequest (client : Client) (method : String) (params : List Json) :
    (client.callRequest method params).callId? = some (toString client.nextId) := by
  obtain ⟨rest, hbody⟩ := Call.write_chars ⟨toString client.nextId, method, params⟩
  simp only [Request.callId?, Client.callRequest, Option.getD_some, hbody, Json.Cursor.ofText,
    Json.text_quote]
  rfl

/-- A login is written as a form, which begins with another character. -/
theorem callId?_loginRequest (client : Client) (credentials : Credentials) :
    (client.loginRequest credentials).callId? = none := by
  have hfirst : ((client.loginRequest credentials).body.getD "").toList.head? = some 'u' := by
    simp [Client.loginRequest, Form.encode, List.intercalate, List.intersperse]
  rw [Request.callId?]
  split
  · rename_i heq
    rw [heq] at hfirst
    cases hfirst
  · rfl

theorem callId?_logoutRequest (client : Client) : client.logoutRequest.callId? = none := rfl

def callIds (requests : List Request) : List String := requests.filterMap Request.callId?

-- ---- Sequences of ids

/-- The calls among the requests carry the numbers from 1 on, and the next id follows them. -/
structure Numbered (nextId : Nat) (requests : List Request) : Prop where
  next : nextId = (callIds requests).length + 1
  ids : callIds requests = (List.range (callIds requests).length).map fun k => toString (k + 1)

namespace Numbered

variable {nextId : Nat} {requests : List Request}

theorem nil : Numbered 1 [] := ⟨rfl, rfl⟩

theorem call {client : Client} (h : Numbered client.nextId requests) (method : String)
    (params : List Json) :
    Numbered client.afterCall.nextId (requests ++ [client.callRequest method params]) := by
  have hids : callIds (requests ++ [client.callRequest method params]) =
      callIds requests ++ [toString client.nextId] := by
    simp [callIds, callId?_callRequest]
  refine ⟨?_, ?_⟩
  · rw [hids, List.length_append, List.length_singleton, ← h.next]
    rfl
  · rw [hids, List.length_append, List.length_singleton, List.range_succ, List.map_append, ← h.ids, h.next]
    rfl

theorem other (h : Numbered nextId requests) {request : Request} (hnone : request.callId? = none) :
    Numbered nextId (requests ++ [request]) := by
  have hids : callIds (requests ++ [request]) = callIds requests := by
    simp [callIds, hnone]
  exact ⟨hids ▸ h.next, hids ▸ h.ids⟩

end Numbered

-- ---- Calls of a store

namespace Store

def Observation.request? : Observation → Option Request
  | .request _ _ made _ => some made
  | _ => none

/-- The requests that a log, latest first, tells of, in the order they were made. -/
def requestsOf (log : List Observation) : List Request :=
  log.reverse.filterMap Observation.request?

theorem mem_requestsOf {log : List Observation} {request : Request} : request ∈ requestsOf log ↔
    ∃ ticket number state, .request ticket number request state ∈ log := by
  simp only [requestsOf, List.mem_filterMap, List.mem_reverse]
  constructor
  · rintro ⟨seen, hseen, hrequest⟩
    cases seen with
    | request ticket number made state =>
      cases hrequest
      exact ⟨ticket, number, state, hseen⟩
    | _ => cases hrequest
  · rintro ⟨ticket, number, state, hseen⟩
    exact ⟨_, hseen, rfl⟩

section
variable (log : List Observation)

@[simp] theorem requestsOf_request (ticket number : Nat) (request : Request) (state : State) :
    requestsOf (.request ticket number request state :: log) = requestsOf log ++ [request] := by
  simp [requestsOf, Observation.request?]

@[simp] theorem requestsOf_commit (ticket : Option Nat) (epoch : Nat) (state : State) :
    requestsOf (.commit ticket epoch state :: log) = requestsOf log := by
  simp [requestsOf, Observation.request?]

@[simp] theorem requestsOf_finish (ticket : Nat) (result : Result) :
    requestsOf (.finish ticket result :: log) = requestsOf log := by
  simp [requestsOf, Observation.request?]

end

theorem UserStage.Requests.numbered {store : Store} {stage : UserStage} {request : Request}
    {client : Client} {due : Nat} (hrequest : stage.Requests store request client due)
    {requests : List Request} (h : Numbered store.client.nextId requests) :
    Numbered client.nextId (requests ++ [request]) := by
  cases hrequest with
  | call hcalls => exact h.call _ _
  | form hsends =>
    refine h.other ?_
    cases stage with
    | signingIn registering =>
      obtain ⟨credentials, rfl⟩ := hsends
      exact callId?_loginRequest ..
    | signingOut =>
      obtain rfl := hsends
      exact callId?_logoutRequest _
    | _ => exact hsends.elim

def Counts (store : Store) : Prop := Numbered store.client.nextId (requestsOf store.log)

namespace Counts

variable {store next : Store}

theorem userTurn (h : Counts store) (flight : Flight UserAction UserStage) {ticket : Nat}
    {came : Option (UserStage × Reception)}
    (turn : UserTurn { store with users := flight } ticket came next) : Counts next := by
  unfold Counts at h ⊢
  cases turn with
  | request hrequest =>
    rw [requestsOf_request, requestsOf_commit]
    exact hrequest.numbered h
  | finish hloading hloaded => rwa [requestsOf_finish, requestsOf_commit]

theorem blogResume (h : Counts store) (turn : BlogResume store next) : Counts next := by
  unfold Counts at h ⊢
  cases turn with
  | idle => exact h
  | @begins first later stage operation hrun hwait hstage =>
    rw [requestsOf_request, requestsOf_commit]
    exact h.call operation.method.name operation.params
  | refuses hrun hwait haction hlist => rwa [requestsOf_finish]
  | ends hrun hcame hepoch => rwa [requestsOf_finish, requestsOf_commit]
  | drops hrun hcame hepoch => rwa [requestsOf_finish]

theorem step (h : Counts store) (event : Event) : Counts (store.step event) := by
  cases event with
  | setUser user =>
    rw [Store.step, commitUser_eq, Counts, requestsOf_commit]
    exact h
  | setBlogs blogs =>
    rw [Store.step, commitBlogs, observe, Counts, requestsOf_commit]
    exact h
  | start action => cases action <;> exact h
  | receive number reception => exact h
  | pass milliseconds => exact h
  | resume slice =>
    cases slice with
    | blogs => exact h.blogResume (resumeBlogs_turn store)
    | user =>
      rcases (resumeUser_turn store).idle_or_turn with heq | ⟨flight, ticket, came, turn, -⟩
      · change Counts store.resumeUser
        rwa [heq]
      · exact h.userTurn flight turn

end Counts

-- ---- Actions that ask for nothing

/-- The action of that ticket has made no request. -/
def Unasked (store : Store) (ticket : Nat) : Prop :=
  ∀ number request state, .request ticket number request state ∉ store.log

def Waits (store : Store) (ticket : Nat) : Prop :=
  (∃ later ∈ store.users.waiting, later.ticket = ticket) ∨
    ∃ later ∈ store.blogs.waiting, later.ticket = ticket

theorem Tickets.unasked {actions : List Action} {store : Store} (h : Tickets actions store)
    {ticket : Nat} (hwaits : store.Waits ticket) : store.Unasked ticket := by
  intro number request state hin
  obtain ⟨-, husers, hblogs⟩ := h.seen _ hin ticket rfl
  rcases hwaits with ⟨later, hlater, heq⟩ | ⟨later, hlater, heq⟩
  · exact husers later hlater heq
  · exact hblogs later hlater heq

theorem BlogStage.result_ne_refused (stage : BlogStage) (reception : Reception) :
    stage.result reception ≠ .edit (.error .invalidBaseState) := by
  intro heq
  cases stage <;> simp only [BlogStage.result] at heq <;> split at heq <;> cases heq

theorem BlogResume.waits_of_refused {store next : Store} (turn : BlogResume store next) {ticket : Nat}
    (hnew : .finish ticket (.edit (.error .invalidBaseState)) ∉ store.log)
    (hrefused : .finish ticket (.edit (.error .invalidBaseState)) ∈ next.log) :
    (∃ later ∈ store.blogs.waiting, later.ticket = ticket) ∧
      ∀ other number request state, .request other number request state ∈ next.log →
        .request other number request state ∈ store.log := by
  cases turn with
  | idle => exact absurd hrefused hnew
  | begins hrun hwait hstage =>
    simp only [List.mem_cons, reduceCtorEq, false_or] at hrefused
    exact absurd hrefused hnew
  | @refuses first later edit hrun hwait haction hlist =>
    simp only [List.mem_cons, Observation.finish.injEq, hnew, or_false] at hrefused
    refine ⟨⟨first, by simp [hwait], hrefused.1.symm⟩, fun other number request state hin => ?_⟩
    simpa using hin
  | ends hrun hcame hepoch =>
    simp only [List.mem_cons, Observation.finish.injEq, reduceCtorEq, hnew, or_false] at hrefused
    exact absurd hrefused.2.symm (BlogStage.result_ne_refused _ _)
  | drops hrun hcame hepoch =>
    simp only [List.mem_cons, Observation.finish.injEq, hnew, or_false] at hrefused
    exact absurd hrefused.2.symm (BlogStage.result_ne_refused _ _)

theorem unasked_of_refused (settings : Settings) (events : List Event) {ticket : Nat} {edit : Edit}
    (hedit : (actionsOf events)[ticket]? = some (.blogs (.change edit)))
    (hrefused : .finish ticket (.edit (.error .invalidBaseState)) ∈
      ((ofSettings settings).run events).log) :
    ((ofSettings settings).run events).Unasked ticket := by
  obtain ⟨first, event, rest, rfl, hnew, hnow⟩ := run_seen List.not_mem_nil hrefused
  have htickets := run_tickets settings first
  rw [run_append, run_cons]
  rcases step_seen _ event hnow with hin | hnone | ⟨other, hother, ⟨-, hhead⟩ | ⟨rfl, -⟩⟩
  · exact absurd hin hnew
  · cases hnone
  · cases hother
    obtain ⟨action, haction⟩ := htickets.userTicket ticket (List.mem_of_mem_head? hhead)
    have hsame := Tickets.getElem?_append haction (actionsOf (event :: rest))
    rw [actionsOf, actionsOf, ← List.filterMap_append] at hsame
    cases hedit.symm.trans hsame
  · obtain ⟨hwaits, hsame⟩ := (resumeBlogs_turn _).waits_of_refused hnew hnow
    intro number request state hin
    by_cases hearly : .request ticket number request state ∈
        (((ofSettings settings).run first).step (.resume .blogs)).log
    · exact htickets.unasked (.inr hwaits) number request state (hsame _ _ _ _ hearly)
    · -- Nor is it made later: an action that ended is in no flight.
      obtain ⟨middle, later, last, rfl, hbefore, hafter⟩ := run_seen hearly hin
      have hidle := ((htickets.step (.resume .blogs)).run middle).finished ticket _
        ((run_log _ middle).mem hnow)
      exact hbefore (seen_of_idle hidle later rfl hafter)

end Store

-- ---- Calls of handles that share a sequence of ids

namespace Handles

/-- The requests of all handles on that sequence. -/
def builtFrom (handles : Handles) (sequence : Nat) : List Request :=
  (handles.built.filter (·.1 = sequence)).map (·.2)

def nextId (handles : Handles) (sequence : Nat) : Nat := handles.nextIds[sequence]?.getD 1

def Counts (handles : Handles) : Prop :=
  ∀ sequence, Numbered (handles.nextId sequence) (handles.builtFrom sequence)

variable {handles : Handles}

theorem nextId_of_client? {place sequence : Nat} {client : Client}
    (h : handles.client? place = some (sequence, client)) :
    handles.nextIds[sequence]? = some client.nextId := by
  simp only [client?, Option.bind_eq_bind, Option.bind_eq_some_iff, Option.some.injEq] at h
  obtain ⟨handle, -, nextId, hnextId, heq⟩ := h
  cases heq
  exact hnextId

theorem Counts.build (h : handles.Counts) (place : Nat) {next : Client → Client}
    {request : Client → Request} (hnext : ∀ client requests, Numbered client.nextId requests →
      Numbered (next client).nextId (requests ++ [request client])) :
    (handles.build place next request).Counts := by
  rw [Handles.build]
  cases hclient : handles.client? place with
  | none => exact h
  | some found =>
    obtain ⟨sequence, client⟩ := found
    have hnextId := nextId_of_client? hclient
    intro other
    have hother := h other
    -- Only the sequence of this handle goes on, and only its requests become more.
    by_cases hsame : sequence = other
    · subst hsame
      have hlt : sequence < handles.nextIds.length := (List.getElem?_eq_some_iff.mp hnextId).1
      rw [nextId, hnextId] at hother
      simpa [nextId, builtFrom, List.getElem?_set_self hlt] using hnext client _ hother
    · simpa [nextId, builtFrom, List.getElem?_set_ne hsame, hsame] using hother

theorem Counts.use (h : handles.Counts) (use : Use) : (handles.use use).Counts := by
  cases use with
  | create base =>
    intro sequence
    have hsame : (handles.use (.create base)).nextId sequence = handles.nextId sequence := by
      simp only [Handles.use, nextId, Client.ofBase, List.getElem?_append]
      split
      · rfl
      · rename_i hnew
        rw [List.getElem?_eq_none (Nat.le_of_not_lt hnew)]
        cases sequence - handles.nextIds.length <;> rfl
    rw [hsame]
    exact h sequence
  | clone place => exact h
  | call place method params => exact h.build place fun client requests h => h.call method params
  | login place credentials =>
    exact h.build place fun client requests h => h.other (callId?_loginRequest ..)
  | logout place => exact h.build place fun client requests h => h.other (callId?_logoutRequest _)
  | read place response => exact h

theorem Counts.useAll (h : handles.Counts) (uses : List Use) : (handles.useAll uses).Counts := by
  induction uses generalizing handles with
  | nil => exact h
  | cons use rest ih => exact ih (h.use use)

end Handles

-- ---- The result

/-- The calls that a store makes carry the numbers from 1 on in the order they are made,
whatever happens in whatever order, and an event by which it makes no call takes no id: no
login or logout, no edit that is refused for want of a list, no action that waits for its turn
and no answer that is read. Such an edit and an action that waits have made no request at all.
It is the same with the calls that a client and its clones build. All requests that are calls
carry an id, those to log in or out none. -/
theorem call_ids_gap_free (settings : Settings) (events : List Store.Event)
    (uses : List Handles.Use) :
    let store := (Store.ofSettings settings).run events
    let handles := ({} : Handles).useAll uses
    Numbered store.client.nextId (Store.requestsOf store.log) ∧
    (∀ event, callIds (Store.requestsOf (store.step event).log) =
      callIds (Store.requestsOf store.log) → (store.step event).client.nextId = store.client.nextId) ∧
    (∀ ticket edit, (Store.actionsOf events)[ticket]? = some (.blogs (.change edit)) →
      .finish ticket (.edit (.error .invalidBaseState)) ∈ store.log → store.Unasked ticket) ∧
    (∀ ticket, store.Waits ticket → store.Unasked ticket) ∧
    (∀ sequence, Numbered (handles.nextId sequence) (handles.builtFrom sequence)) ∧
    (∀ request ∈ Store.requestsOf store.log, ∃ client errand,
      request = Store.Errand.request client errand) ∧
    (∀ client : Client, (∀ method params,
      (client.callRequest method params).callId? = some (toString client.nextId)) ∧
      (∀ credentials, (client.loginRequest credentials).callId? = none) ∧
      client.logoutRequest.callId? = none) := by
  intro store handles
  have hstore : store.Counts :=
    Store.run_keeps (fun _ event h => h.step event)
      (show (Store.ofSettings settings).Counts from .nil) events
  have hhandles : handles.Counts :=
    Handles.Counts.useAll (show Handles.Counts {} from fun _ => .nil) uses
  refine ⟨hstore, fun event hsame => ?_, fun ticket edit => Store.unasked_of_refused settings events,
    fun ticket hwaits => (Store.run_tickets settings events).unasked hwaits, hhandles,
    fun request hmade => ?_, fun client =>
    ⟨callId?_callRequest client, callId?_loginRequest client, callId?_logoutRequest client⟩⟩
  · -- The next id counts the calls of the log, so it stays where no call is added.
    rw [(hstore.step event).next, hstore.next, hsame]
  · obtain ⟨ticket, number, state, hlog⟩ := Store.mem_requestsOf.mp hmade
    have hasked : store.AskedWhileLoading :=
      Store.run_keeps (fun _ event h => h.step event)
        (show (Store.ofSettings settings).AskedWhileLoading from nofun) events
    obtain ⟨client, errand, hrequest, -⟩ := hasked hlog
    exact ⟨client, errand, hrequest⟩

end BlogDesk
