import BlogDesk.Proofs.Network.Holdings
import BlogDesk.Proofs.Server.Mirror
import BlogDesk.Proofs.Server.RoundTrip

/-!
# What a console and the service agree on

`Recognizes` says it of the user, `Mirrors` of the list: as long as nobody else changes
the account's blogs, the list has exactly these. Each is said of the session in the
visitor's jar, comes with the answer to a call, and goes on through every execution
that leaves the session and the blogs alone.
-/

namespace BlogDesk.Network

open Keyed (find?)
open Server (Account Backend IsPlainId Served)

-- ---- Calls in the session of a jar

theorem session_cookies (backend : Backend) {jar : Jar} (hjar : ∀ id, jar = some id → IsPlainId id) :
    backend.session (jar.map fun id => ("cookie", Server.authCookie ++ "=" ++ id)).toList =
      jar.bind backend.sessionUser? := by
  cases jar with
  | none => exact congrArg (Option.bind · backend.sessionUser?) (Server.sessionCookie?_none rfl)
  | some id =>
    have hcookie : Server.sessionCookie? ([] ++ [("cookie", Server.authCookie ++ "=" ++ id)]) =
        some id := Server.sessionCookie?_cookie rfl (hjar id rfl)
    exact congrArg (Option.bind · backend.sessionUser?) hcookie

namespace Execution

section
variable {x : Execution} {client : Client} {operation : Operation} {jar : Jar}
  (hcall : x.incoming = withCookie (client.request operation) jar) (hserved : Served client.baseUrl)
include hcall hserved

theorem reads_call : x.incoming.Reads
    ⟨.str (toString client.nextId), operation.method.name, operation.params⟩ := by
  rw [hcall]
  exact Server.reads_arriving hserved operation _

theorem stays_in (id : String) : ¬ x.incoming.LogsOut id := fun hout => by
  cases (reads_call hcall hserved).1.unique hout.1

theorem method_of_calls {other : Operation} (h : x.Calls other) : operation.method = other.method := by
  obtain ⟨-, id, hread⟩ := h
  have hcalled := (reads_call hcall hserved).2.2.symm.trans hread
  exact Method.name_injective (congrArg LenientCall.method (Except.ok.inj hcalled))

variable (hjar : ∀ id, jar = some id → IsPlainId id) (ids : Nat → String)
include hjar

theorem read_response : operation.read (x.response ids) =
    ((x.service.backend.execute (jar.bind x.service.backend.sessionUser?) operation).map
      (·.1)).mapError fun refusal => .refused operation.method.name refusal.message := by
  rw [response, hcall, Server.withCookie_eq_arriving, Server.read_handle ids x.service hserved,
    session_cookies _ hjar]

theorem backend_after : (x.service.handle ids x.incoming).2.backend =
    ((x.service.backend.execute (jar.bind x.service.backend.sessionUser?) operation).toOption.map
      (·.2)).getD x.service.backend := by
  rw [hcall, Server.withCookie_eq_arriving, Server.service_handle ids x.service hserved,
    session_cookies _ hjar]

end

theorem not_load_of_edit {x : Execution} {client : Client} {edit : Store.Edit} {jar : Jar}
    (hcall : x.incoming = withCookie (client.request edit.operation) jar)
    (hserved : Served client.baseUrl) : ¬ x.Calls .listBlogs := fun hcalls => by
  have hmethod := method_of_calls hcall hserved hcalls
  cases edit <;> cases hmethod

/-- The execution leaves the user with other blogs than before. -/
def Changes (ids : Nat → String) (x : Execution) (username : String) : Prop :=
  (find? username (x.service.handle ids x.incoming).2.backend.accounts).map Account.blogList ≠
    (find? username x.service.backend.accounts).map Account.blogList

instance (ids : Nat → String) (x : Execution) (username : String) : Decidable (x.Changes ids username) :=
  inferInstanceAs (Decidable (_ ≠ _))

theorem not_changes_of_backend {ids : Nat → String} {x : Execution}
    (h : (x.service.handle ids x.incoming).2.backend = x.service.backend) (username : String) :
    ¬ x.Changes ids username := by
  rw [Changes, h]
  exact not_not_intro rfl

end Execution

theorem Ledger.live {ids : Nat → String} {history : List Execution} {x : Execution}
    (h : Ledger ids history x.service) (hids : Function.Injective ids) {id username : String}
    (hlive : x.service.backend.sessionUser? id = some username) (hstays : ¬ x.incoming.LogsOut id) :
    (x.service.handle ids x.incoming).2.backend.sessionUser? id = some username :=
  (Server.Service.sessionUser?_handle h.issued hids x.incoming).mpr (.inr ⟨hstays, hlive⟩)

-- ---- The user

/-- The jar holds a session of that user, whose account has that display name. -/
def Recognizes (service : Server.Service) (jar : Jar) (user : User) : Prop :=
  ∃ id account, jar = some id ∧ service.backend.sessionUser? id = some user.username ∧
    find? user.username service.backend.accounts = some account ∧
    account.displayName = user.displayName

namespace Recognizes

variable {ids : Nat → String} {history : List Execution} {x : Execution} {client : Client} {jar : Jar}
  {user : User}

theorem later (h : Recognizes x.service jar user) (hledger : Ledger ids history x.service)
    (hids : Function.Injective ids) (hstays : ∀ id, jar = some id → ¬ x.incoming.LogsOut id) :
    Recognizes (x.service.handle ids x.incoming).2 jar user := by
  obtain ⟨id, account, hjar, hlive, haccount, hname⟩ := h
  obtain ⟨blogs, hkept, -⟩ := Server.Service.handle_account ids x.incoming haccount
  exact ⟨id, _, hjar, hledger.live hids hlive (hstays id hjar), hkept, hname⟩

theorem of_user (hcall : x.incoming = withCookie (client.request .whoami) jar)
    (hserved : Served client.baseUrl) (hjar : ∀ id, jar = some id → IsPlainId id)
    (huser : (x.response ids).user = .ok user) : Recognizes x.service jar user := by
  have hread := Execution.read_response hcall hserved hjar ids
  have hdone := mapError_eq_ok.mp (hread.symm.trans huser)
  obtain ⟨done, hexecute, heq⟩ := map_eq_ok.mp hdone
  obtain ⟨named, hwho, rfl⟩ := map_eq_ok.mp hexecute
  cases heq
  obtain ⟨hsession, account, haccount, hname⟩ := Backend.whoami_eq_ok.mp hwho
  obtain ⟨id, hid, hlive⟩ := Option.bind_eq_some_iff.mp hsession
  exact ⟨id, account, hid, hlive, haccount, hname⟩

end Recognizes

theorem backend_after_whoami {x : Execution} {client : Client} {jar : Jar}
    (hcall : x.incoming = withCookie (client.request .whoami) jar) (hserved : Served client.baseUrl)
    (hjar : ∀ id, jar = some id → IsPlainId id) (ids : Nat → String) :
    (x.service.handle ids x.incoming).2.backend = x.service.backend := by
  rw [Execution.backend_after hcall hserved hjar, Backend.execute]
  cases x.service.backend.whoami (jar.bind x.service.backend.sessionUser?) <;> rfl

-- ---- The list

/-- What was executed after the visitor's latest load. -/
def SinceLoad (index : Nat) (history later : List Execution) : Prop :=
  ∃ before load, history = before ++ load :: later ∧ load.visitor = index ∧
    load.Calls .listBlogs ∧ ∀ x ∈ later, x.visitor = index → ¬ x.Calls .listBlogs

theorem SinceLoad.concat {index : Nat} {history later : List Execution}
    (h : SinceLoad index history later) {x : Execution}
    (hx : x.visitor = index → ¬ x.Calls .listBlogs) :
    SinceLoad index (history ++ [x]) (later ++ [x]) := by
  obtain ⟨before, load, rfl, hvisitor, hload, hlater⟩ := h
  exact ⟨before, load, by simp, hvisitor, hload, forall_mem_concat.mpr ⟨hlater, hx⟩⟩

/-- The jar holds a session; and unless somebody else changed the blogs of its account
since the visitor's latest load, the list has them all, and each once. -/
def Mirrors (ids : Nat → String) (history : List Execution) (index : Nat) (service : Server.Service)
    (jar : Jar) (list : List Blog) : Prop :=
  ∃ id username account later, jar = some id ∧ service.backend.sessionUser? id = some username ∧
    find? username service.backend.accounts = some account ∧ SinceLoad index history later ∧
    ((∀ x ∈ later, x.visitor ≠ index → ¬ x.Changes ids username) → list.Perm account.blogList)

namespace Mirrors

variable {ids : Nat → String} {history : List Execution} {x : Execution} {index : Nat}
  {client : Client} {jar : Jar} {list : List Blog}

/-- An execution after which the session lasts; one of the visitor's own may be no load
and change nothing. -/
theorem later (h : Mirrors ids history index x.service jar list)
    (hledger : Ledger ids history x.service) (hids : Function.Injective ids)
    (hstays : ∀ id, jar = some id → ¬ x.incoming.LogsOut id)
    (hown : x.visitor = index → ¬ x.Calls .listBlogs ∧ ∀ username, ¬ x.Changes ids username) :
    Mirrors ids (history ++ [x]) index (x.service.handle ids x.incoming).2 jar list := by
  obtain ⟨id, username, account, later, hjar, hlive, haccount, hsince, hsame⟩ := h
  obtain ⟨blogs, hkept, -⟩ := Server.Service.handle_account ids x.incoming haccount
  refine ⟨id, username, _, later ++ [x], hjar, hledger.live hids hlive (hstays id hjar), hkept,
    hsince.concat fun hvisitor => (hown hvisitor).1, fun hquiet => ?_⟩
  obtain ⟨hbefore, hlast⟩ := forall_mem_concat.mp hquiet
  have hunchanged : ¬ x.Changes ids username := by
    by_cases hvisitor : x.visitor = index
    · exact (hown hvisitor).2 username
    · exact hlast hvisitor
  have hblogs : Account.blogList { account with blogs } = account.blogList := by
    rw [Execution.Changes, hkept, haccount, not_not] at hunchanged
    exact Option.some.inj hunchanged
  rw [hblogs]
  exact hsame hbefore

theorem of_blogs (hvisitor : x.visitor = index)
    (hcall : x.incoming = withCookie (client.request .listBlogs) jar)
    (hserved : Served client.baseUrl) (hjar : ∀ id, jar = some id → IsPlainId id)
    {found : Option (List Blog)} (hblogs : (x.response ids).blogs? = .ok found) :
    Mirrors ids (history ++ [x]) index (x.service.handle ids x.incoming).2 jar (found.getD []) := by
  have hread := Execution.read_response hcall hserved hjar ids
  have hafter := Execution.backend_after hcall hserved hjar ids
  have hdone := mapError_eq_ok.mp (hread.symm.trans hblogs)
  obtain ⟨done, hexecute, heq⟩ := map_eq_ok.mp hdone
  rw [hexecute] at hafter
  obtain ⟨blogs, hlist, rfl⟩ := map_eq_ok.mp hexecute
  cases heq
  obtain ⟨username, account, hsession, haccount, rfl⟩ := Backend.listBlogs_eq_ok.mp hlist
  obtain ⟨id, hid, hlive⟩ := Option.bind_eq_some_iff.mp hsession
  have hsame : (x.service.handle ids x.incoming).2.backend = x.service.backend := hafter
  refine ⟨id, username, account, [], hid, by rw [hsame]; exact hlive, by rw [hsame]; exact haccount,
    ⟨history, x, rfl, hvisitor, Execution.calls_of_request hcall hserved, nofun⟩, fun _ => ?_⟩
  change (Option.getD (Backend.listed account.blogList) []).Perm _
  unfold Backend.listed
  split
  · rename_i hnone
    rw [hnone]
    exact .refl _
  · exact .refl _

theorem edited (h : Mirrors ids history index x.service jar list)
    (hledger : Ledger ids history x.service) (hids : Function.Injective ids)
    {edit : Store.Edit} (hcall : x.incoming = withCookie (client.request edit.operation) jar)
    (hserved : Served client.baseUrl) (hjar : ∀ id, jar = some id → IsPlainId id)
    (hdone : (x.response ids).acknowledged edit.operation.method.name = .ok ()) :
    Mirrors ids (history ++ [x]) index (x.service.handle ids x.incoming).2 jar
      (sortBlogs (edit.apply list)) := by
  obtain ⟨id, username, account, later, hid, hlive, haccount, hsince, hsame⟩ := h
  obtain ⟨blogs, hkept, -⟩ := Server.Service.handle_account ids x.incoming haccount
  obtain ⟨-, result, after, hdispatch⟩ := Execution.accepts_of_acknowledged hcall hdone
  rw [Backend.dispatch_operation] at hdispatch
  have hsession : x.session = some username := by
    rw [Execution.session_eq hcall, Server.callHeaders, Server.session_after_contentType,
      session_cookies _ hjar, hid]
    exact hlive
  have hafter : (x.service.handle ids x.incoming).2.backend = after := by
    rw [Execution.session_eq hcall] at hdispatch
    rw [hcall, Server.withCookie_eq_arriving, Server.handle_operation ids x.service hserved,
      ← Server.callHeaders, hdispatch]
  have hload := Execution.not_load_of_edit hcall hserved
  refine ⟨id, username, _, later ++ [x], hid,
    hledger.live hids hlive (Execution.stays_in hcall hserved id), hkept,
    hsince.concat fun _ => hload, fun hquiet => ?_⟩
  have hlist := hsame (forall_mem_concat.mp hquiet).1
  obtain ⟨edited, hthere, hperm⟩ := Server.apply_perm hdispatch hsession haccount
    (hledger.sound.sorted haccount) hlist
  rw [hafter] at hkept
  cases hkept.symm.trans hthere
  exact hperm

theorem refused (h : Mirrors ids history index x.service jar list)
    (hledger : Ledger ids history x.service) (hids : Function.Injective ids)
    {edit : Store.Edit} (hcall : x.incoming = withCookie (client.request edit.operation) jar)
    (hserved : Served client.baseUrl) (hjar : ∀ id, jar = some id → IsPlainId id)
    {cause : CallFailure}
    (hfailed : (x.response ids).acknowledged edit.operation.method.name = .error cause) :
    Mirrors ids (history ++ [x]) index (x.service.handle ids x.incoming).2 jar list := by
  have hload := Execution.not_load_of_edit hcall hserved
  have hread := Execution.read_response hcall hserved hjar ids
  have herror : ∃ refusal, (x.service.backend.execute (jar.bind x.service.backend.sessionUser?)
      edit.operation).map (·.1) = .error refusal := by
    cases edit <;> (obtain ⟨refusal, hrefusal, -⟩ :=
      mapError_eq_error.mp (hread.symm.trans hfailed); exact ⟨refusal, hrefusal⟩)
  obtain ⟨refusal, hrefused⟩ := herror
  have hafter := Execution.backend_after hcall hserved hjar ids
  rw [map_eq_error.mp hrefused] at hafter
  exact h.later hledger hids (fun id _ => Execution.stays_in hcall hserved id)
    fun _ => ⟨hload, Execution.not_changes_of_backend hafter⟩

end Mirrors

end BlogDesk.Network
