import BlogDesk.Proofs.Server.Sessions

/-!
# What the service executed

The executions of a run, in order, each with the service as it found it. A list
stems from them when the service gave it, or when the service accepted an edit of
a list that stems from earlier ones.
-/

namespace BlogDesk.Network

-- ---- Executions

/-- A request that the service executed, and the service before it did. -/
structure Execution where
  visitor : Nat
  number : Nat
  incoming : Server.Incoming
  service : Server.Service

namespace Execution

def session (x : Execution) : Option String := x.service.backend.session x.incoming.headers

def response (ids : Nat → String) (x : Execution) : Response := (x.service.handle ids x.incoming).1

def Calls (x : Execution) (operation : Operation) : Prop :=
  Server.Endpoint.ofPath? x.incoming.path = some .calls ∧
    ∃ id, LenientCall.layout.read x.incoming.body =
      .ok ⟨id, operation.method.name, operation.params⟩

/-- The service gave that list of the session's user. -/
def Lists (x : Execution) (list : List Blog) : Prop :=
  x.Calls .listBlogs ∧ x.service.backend.listBlogs x.session = .ok list

/-- The service accepted that edit of the session's user. -/
def Accepts (x : Execution) (edit : Store.Edit) : Prop :=
  x.Calls edit.operation ∧ ∃ result after,
    x.service.backend.dispatch x.session edit.operation.method.name
      (edit.operation.params.head?.getD .null) = .ok (result, after)

end Execution

def executed? (network : Network) : Event → Option Execution
  | .serve index number => do
    let visitor ← network.visitors[index]?
    let parcel ← visitor.parcels.find? fun parcel =>
      parcel.number = number ∧ parcel.response.isNone
    some ⟨index, number, parcel.incoming, network.service⟩
  | _ => none

/-- What the service executes in a run, in order. -/
def executions (ids : Nat → String) (network : Network) : List Event → List Execution
  | [] => []
  | event :: rest => (executed? network event).toList ++ executions ids (network.step ids event) rest

theorem serveParcels_eq (ids : Nat → String) (number : Nat) (service : Server.Service)
    (parcels : List Parcel) :
    match parcels.find? fun parcel => parcel.number = number ∧ parcel.response.isNone with
    | none => serveParcels ids number service parcels = (service, parcels)
    | some parcel => ∃ before after, parcels = before ++ parcel :: after ∧ parcel.number = number ∧
        serveParcels ids number service parcels = ((service.handle ids parcel.incoming).2,
          before ++ { parcel with response := some (service.handle ids parcel.incoming).1 } :: after) := by
  induction parcels with
  | nil => rfl
  | cons parcel rest ih =>
    by_cases hmatch : parcel.number = number ∧ parcel.response.isNone
    · rw [List.find?_cons_of_pos (by simpa using hmatch)]
      refine ⟨[], rest, rfl, hmatch.1, ?_⟩
      rw [serveParcels, if_pos hmatch]
      rfl
    · rw [List.find?_cons_of_neg (by simpa using hmatch), serveParcels, if_neg hmatch]
      cases hfind : rest.find? fun parcel => parcel.number = number ∧ parcel.response.isNone with
      | none =>
        rw [hfind] at ih
        simp only [ih]
      | some found =>
        rw [hfind] at ih
        obtain ⟨before, after, hsplit, hnumber, hserve⟩ := ih
        refine ⟨parcel :: before, after, by rw [hsplit]; rfl, hnumber, ?_⟩
        simp only [hserve]
        rfl

-- ---- Calls of a console

namespace Execution

variable {x : Execution} {client : Client} {jar : Jar} {ids : Nat → String}

theorem session_eq {operation : Operation} (h : x.incoming = withCookie (client.request operation) jar) :
    x.session = x.service.backend.session (Server.callHeaders jar) := by
  rw [session, h, Server.withCookie_headers]

theorem calls_of_request {operation : Operation}
    (h : x.incoming = withCookie (client.request operation) jar)
    (hserved : Server.Served client.baseUrl) : x.Calls operation := by
  rw [Calls, h]
  exact ⟨hserved, _, LenientCall.read_write
    ⟨toString client.nextId, operation.method.name, operation.params⟩ operation.plain_params⟩

theorem session_of_user {user : User} (h : x.incoming = withCookie (client.request .whoami) jar)
    (huser : (x.response ids).user = .ok user) :
    Server.Served client.baseUrl ∧ x.session = some user.username := by
  rw [response, h] at huser
  obtain ⟨result, hresult, -⟩ := Response.callResultAs_ok.mp huser
  refine ⟨Server.served_of_callResult hresult, ?_⟩
  rw [session_eq h]
  exact Server.Backend.session_of_whoami (Server.whoami_of_user huser)

theorem lists_of_blogs {list : Option (List Blog)}
    (h : x.incoming = withCookie (client.request .listBlogs) jar)
    (hlist : (x.response ids).blogs? = .ok list) : x.Lists (list.getD []) := by
  rw [response, h] at hlist
  obtain ⟨result, hresult, -⟩ := Response.callResultAs_ok.mp hlist
  refine ⟨calls_of_request h (Server.served_of_callResult hresult), ?_⟩
  rw [session_eq h]
  exact Server.listed_of_blogs hlist

theorem accepts_of_acknowledged {edit : Store.Edit} {method : String}
    (h : x.incoming = withCookie (client.request edit.operation) jar)
    (hdone : (x.response ids).acknowledged method = .ok ()) : x.Accepts edit := by
  rw [response, h] at hdone
  obtain ⟨result, hresult⟩ := Response.acknowledged_ok.mp hdone
  obtain ⟨after, hperform⟩ := Server.performed_of_callResult hresult
  refine ⟨calls_of_request h (Server.served_of_callResult hresult), result, after, ?_⟩
  rw [session_eq h, Server.Backend.dispatch_operation]
  exact hperform

theorem Lists.session {list : List Blog} (h : x.Lists list) : ∃ name, x.session = some name :=
  Server.Backend.session_of_listBlogs h.2

theorem Accepts.session {edit : Store.Edit} (h : x.Accepts edit) :
    ∃ name, x.session = some name := by
  obtain ⟨-, result, after, hdispatch⟩ := h
  rw [Server.Backend.dispatch_operation] at hdispatch
  exact Server.Backend.session_of_edit hdispatch

end Execution

-- ---- Where a list stems from

/-- The list stems from the executions: from one that gave it, changed by none but
the accepted edits among those after it, each of these in `own`. -/
inductive Stems (own : Execution → Prop) : List Execution → List Blog → Prop
  | listed {history : List Execution} {x : Execution} {list : List Blog} (hown : own x)
      (hlists : x.Lists list) : Stems own (history ++ [x]) list
  | edited {history : List Execution} {x : Execution} {edit : Store.Edit} {list : List Blog}
      (hbefore : Stems own history list) (hown : own x) (haccepts : x.Accepts edit) :
    Stems own (history ++ [x]) (sortBlogs (edit.apply list))
  | later {history : List Execution} {list : List Blog} (x : Execution)
      (hbefore : Stems own history list) : Stems own (history ++ [x]) list

/-- Only executions that took place count, and those in somebody's session. -/
theorem Stems.mono {own other : Execution → Prop} {history : List Execution} {list : List Blog}
    (h : Stems own history list) (hother : ∀ x ∈ history, own x →
      (∃ name, x.session = some name) → other x) : Stems other history list := by
  induction h with
  | listed hown hlists => exact .listed (hother _ (by simp) hown hlists.session) hlists
  | edited hbefore hown haccepts ih =>
    refine .edited (ih fun x hx => hother x (List.mem_append_left _ hx)) ?_ haccepts
    exact hother _ (by simp) hown haccepts.session
  | later x hbefore ih => exact .later x (ih fun x hx => hother x (List.mem_append_left _ hx))

-- ---- Sessions over a run

/-- Every session is of an id that was handed out, and of one user for good. -/
structure Sessions (ids : Nat → String) (history : List Execution) (service : Server.Service) :
    Prop where
  issued : ∀ {id name}, service.backend.sessionUser? id = some name →
    ∃ k, k < service.issued ∧ ids k = id
  past : ∀ {x id name}, x ∈ history → Server.sessionCookie? x.incoming.headers = some id →
    x.session = some name → (∃ k, k < service.issued ∧ ids k = id) ∧
      ∀ {other}, service.backend.sessionUser? id = some other → other = name
  same : ∀ {x y name other}, x ∈ history → y ∈ history → x.incoming.headers = y.incoming.headers →
    x.session = some name → y.session = some other → name = other

namespace Sessions

variable {ids : Nat → String} {history : List Execution} {service : Server.Service}

theorem initial (ids : Nat → String) : Sessions ids [] {} := ⟨nofun, nofun, nofun⟩

theorem cookie_of_session {x : Execution} {name : String} (h : x.session = some name) :
    ∃ id, Server.sessionCookie? x.incoming.headers = some id ∧
      x.service.backend.sessionUser? id = some name :=
  Option.bind_eq_some_iff.mp h

theorem execute (h : Sessions ids history service) (hids : Function.Injective ids) (x : Execution)
    (hx : x.service = service) :
    Sessions ids (history ++ [x]) (service.handle ids x.incoming).2 := by
  -- Of the session that this request came in, what the past says holds before it is executed.
  have hpresent : ∀ {y id name}, y ∈ history ++ [x] →
      Server.sessionCookie? y.incoming.headers = some id → y.session = some name →
      (∃ k, k < service.issued ∧ ids k = id) ∧
        ∀ {other}, service.backend.sessionUser? id = some other → other = name := by
    intro y id name hy hcookie hsession
    rcases List.mem_append.mp hy with hy | hy
    · exact h.past hy hcookie hsession
    · rw [List.mem_singleton] at hy
      subst hy
      obtain ⟨id', hcookie', huser⟩ := cookie_of_session hsession
      rw [hcookie] at hcookie'
      cases hcookie'
      rw [hx] at huser
      refine ⟨h.issued huser, fun {other} hother => ?_⟩
      rw [huser] at hother
      cases hother
      rfl
  have hpast : ∀ {y name other}, y ∈ history → y.incoming.headers = x.incoming.headers →
      y.session = some name → x.session = some other → name = other := by
    intro y name other hy hheaders hname hother
    obtain ⟨id, hcookie, huser⟩ := cookie_of_session hother
    exact ((h.past hy (hheaders ▸ hcookie) hname).2 (hx ▸ huser)).symm
  have hsame : ∀ {y z name other}, y ∈ history ++ [x] → z ∈ history ++ [x] →
      y.incoming.headers = z.incoming.headers → y.session = some name → z.session = some other →
      name = other := by
    intro y z name other hy hz hheaders hname hother
    simp only [List.mem_append, List.mem_singleton] at hy hz
    rcases hy with hy | rfl <;> rcases hz with hz | rfl
    · exact h.same hy hz hheaders hname hother
    · exact hpast hy hheaders hname hother
    · exact (hpast hz hheaders.symm hother hname).symm
    · rw [hname] at hother
      cases hother
      rfl
  cases service.handle_sessions ids x.incoming with
  | kept hissued hold =>
    refine ⟨fun huser => hissued ▸ h.issued (hold huser), fun hy hcookie hsession => ?_, hsame⟩
    obtain ⟨hk, hone⟩ := hpresent hy hcookie hsession
    exact ⟨hissued ▸ hk, fun hother => hone (hold hother)⟩
  | opened hissued hold =>
    have hlater : ∀ {id}, (∃ k, k < service.issued ∧ ids k = id) →
        ∃ k, k < (service.handle ids x.incoming).2.issued ∧ ids k = id := by
      rintro id ⟨k, hk, hid⟩
      exact ⟨k, by omega, hid⟩
    refine ⟨fun huser => ?_, fun hy hcookie hsession => ?_, hsame⟩
    · rcases hold huser with rfl | huser
      · exact ⟨service.issued, by omega, rfl⟩
      · exact hlater (h.issued huser)
    · obtain ⟨⟨k, hk, hid⟩, hone⟩ := hpresent hy hcookie hsession
      refine ⟨hlater ⟨k, hk, hid⟩, fun hother => ?_⟩
      rcases hold hother with hnew | hother
      · -- The id that was handed out last had no session before.
        have := hids (hid.trans hnew)
        omega
      · exact hone hother

end Sessions

end BlogDesk.Network
