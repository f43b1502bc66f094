import BlogDesk.Proofs.Network.Visitors
import BlogDesk.Proofs.Server.Accounts
import BlogDesk.Proofs.Server.Cookies

/-!
# Whose session an id is

Each session is handed out to one visitor, and nobody else's jar, request or answer
ever holds its id. `Ledger` keeps what the executions so far made of the service.
-/

namespace BlogDesk.Network

open Keyed (find?)
open Server (IsPlainId sessionCookie?)
open Server.Service (Issues)
open Store (UserStage UserAction UserTurn BlogResume Flight Reception)

-- ---- Handed out

/-- The service handed that session out to the visitor. -/
def GrantedTo (ids : Nat → String) (history : List Execution) (index : Nat) (id : String) : Prop :=
  ∃ x ∈ history, x.visitor = index ∧ ∃ username, Issues ids x.service x.incoming id username

namespace GrantedTo

variable {ids : Nat → String} {history : List Execution} {index : Nat} {id : String}

theorem later (h : GrantedTo ids history index id) (x : Execution) :
    GrantedTo ids (history ++ [x]) index id := by
  obtain ⟨y, hy, hgranted⟩ := h
  exact ⟨y, List.mem_append_left _ hy, hgranted⟩

theorem plain (h : GrantedTo ids history index id) (hplain : ∀ k, IsPlainId (ids k)) :
    IsPlainId id := by
  obtain ⟨x, -, -, username, hissues⟩ := h
  exact hissues.next.1 ▸ hplain _

theorem concat {x : Execution} (h : GrantedTo ids (history ++ [x]) index id) :
    GrantedTo ids history index id ∨
      x.visitor = index ∧ ∃ username, Issues ids x.service x.incoming id username := by
  obtain ⟨y, hy, hvisitor, hissues⟩ := h
  rcases List.mem_append.mp hy with hold | hnew
  · exact .inl ⟨y, hold, hvisitor, hissues⟩
  · obtain rfl := List.mem_singleton.mp hnew
    exact .inr ⟨hvisitor, hissues⟩

end GrantedTo

def Execution.Registers (x : Execution) (user : NewUser) : Prop := x.service.Registers x.incoming user

-- ---- What the service knows

structure Ledger (ids : Nat → String) (history : List Execution) (service : Server.Service) :
    Prop where
  issued : Server.Service.Issued ids service
  sound : service.backend.Sound
  granted : ∀ {index id}, GrantedTo ids history index id → ∃ k, k < service.issued ∧ ids k = id
  one : ∀ {first second id}, GrantedTo ids history first id → GrantedTo ids history second id →
    first = second
  registered : ∀ {username account}, find? username service.backend.accounts = some account →
    ∃ x ∈ history, x.Registers ⟨username, account.password, account.displayName⟩
  standing : ∀ {x user}, x ∈ history → x.Registers user →
    ∃ blogs, find? user.username service.backend.accounts =
      some ⟨user.password, user.displayName, blogs⟩

namespace Ledger

variable {ids : Nat → String} {history : List Execution} {x : Execution}

theorem initial (ids : Nat → String) : Ledger ids [] {} where
  issued := nofun
  sound := ⟨nofun, nofun⟩
  granted := nofun
  one := nofun
  registered := nofun
  standing := nofun

theorem fresh (h : Ledger ids history x.service) (hids : Function.Injective ids) {index : Nat}
    {id username : String} (hold : GrantedTo ids history index id)
    (hnew : Issues ids x.service x.incoming id username) : False := by
  obtain ⟨k, hk, hid⟩ := h.granted hold
  have := hids (hid.trans hnew.next.1)
  omega

theorem execute (h : Ledger ids history x.service) (hids : Function.Injective ids) :
    Ledger ids (history ++ [x]) (x.service.handle ids x.incoming).2 where
  issued := h.issued.handle x.incoming
  sound := Server.Service.handle_sound ids x.incoming h.sound
  granted hgranted := by
    rcases hgranted.concat with hold | ⟨-, username, hnew⟩
    · obtain ⟨k, hk, hid⟩ := h.granted hold
      have hle : x.service.issued ≤ (x.service.handle ids x.incoming).2.issued := by
        cases x.service.handle_sessions ids x.incoming with
        | kept hissued _ => omega
        | opened hissued _ => omega
      exact ⟨k, by omega, hid⟩
    · obtain ⟨hid, hissued⟩ := hnew.next
      exact ⟨x.service.issued, by omega, hid.symm⟩
  one hfirst hsecond := by
    rcases hfirst.concat with hfirst | ⟨hfirst, username, hnew⟩ <;>
      rcases hsecond.concat with hsecond | ⟨hsecond, other, hother⟩
    · exact h.one hfirst hsecond
    · exact (h.fresh hids hfirst hother).elim
    · exact (h.fresh hids hsecond hnew).elim
    · exact hfirst.symm.trans hsecond
  registered {username account} hthere := by
    cases hold : find? username x.service.backend.accounts with
    | none =>
      -- Nobody had this username, so the account is of the request that was just executed.
      exact ⟨x, by simp, Server.Service.registers_of_account hold hthere⟩
    | some old =>
      obtain ⟨blogs, hkept, -⟩ := Server.Service.handle_account ids x.incoming hold
      cases hkept.symm.trans hthere
      obtain ⟨y, hy, hregisters⟩ := h.registered hold
      exact ⟨y, List.mem_append_left _ hy, hregisters⟩
  standing {y user} hy hregisters := by
    rcases List.mem_append.mp hy with hold | hnew
    · obtain ⟨blogs, hthere⟩ := h.standing hold hregisters
      obtain ⟨next, hkept, -⟩ := Server.Service.handle_account ids x.incoming hthere
      exact ⟨next, hkept⟩
    · obtain rfl := List.mem_singleton.mp hnew
      exact ⟨[], Server.Service.account_of_registers hregisters ids⟩

end Ledger

-- ---- What a visitor holds

/-- Every id that the visitor has, sends or may be sent was handed out to the visitor. -/
structure Holding (ids : Nat → String) (history : List Execution) (index : Nat)
    (visitor : Visitor) : Prop where
  jar : ∀ {id}, visitor.jar = some id → GrantedTo ids history index id
  cookies : ∀ parcel ∈ visitor.parcels, ∀ id,
    sessionCookie? parcel.incoming.headers = some id → GrantedTo ids history index id
  answers : ∀ parcel ∈ visitor.parcels, ∀ response, parcel.response = some response →
    ∀ (jar : Jar) id, jar.after response = some id → jar = some id ∨ GrantedTo ids history index id

theorem no_cookie_of_requests {store : Store} {stage : UserStage} {request : Request}
    {client : Client} {due : Nat} (h : stage.Requests store request client due) :
    Headers.values request.headers "cookie" = [] := by
  cases h with
  | call hcalls => rfl
  | form hsends =>
    cases stage with
    | signingIn registering =>
      obtain ⟨credentials, rfl⟩ := hsends
      rfl
    | signingOut =>
      cases hsends
      rfl
    | _ => exact hsends.elim

namespace Holding

variable {ids : Nat → String} {history : List Execution} {index : Nat} {visitor : Visitor}
  {next : Store}

theorem initial (ids : Nat → String) (index : Nat) (store : Store) :
    Holding ids [] index { store } := ⟨nofun, nofun, nofun⟩

theorem later (h : Holding ids history index visitor) (x : Execution) :
    Holding ids (history ++ [x]) index visitor where
  jar hjar := (h.jar hjar).later x
  cookies parcel hin id hcookie := (h.cookies parcel hin id hcookie).later x
  answers parcel hin response hresponse jar id hafter :=
    (h.answers parcel hin response hresponse jar id hafter).imp_right (·.later x)

theorem post (h : Holding ids history index visitor) (hplain : ∀ k, IsPlainId (ids k))
    {request : Request} (hrequest : Headers.values request.headers "cookie" = []) (number : Nat) :
    Holding ids history index { visitor with
      store := next
      parcels := visitor.parcels ++ [⟨number, withCookie request visitor.jar, none⟩] } where
  jar := h.jar
  cookies := forall_mem_concat.mpr ⟨h.cookies, fun id hcookie => by
    rw [Server.sessionCookie?_withCookie hrequest fun id hjar => (h.jar hjar).plain hplain] at hcookie
    exact h.jar hcookie⟩
  answers := forall_mem_concat.mpr ⟨h.answers, nofun⟩

theorem blogResume (h : Holding ids history index visitor) (hplain : ∀ k, IsPlainId (ids k))
    (hremote : visitor.remote = false) (turn : BlogResume visitor.store next) :
    Holding ids history index (visitor.goesOn next) := by
  have hquiet : ∀ next, Holding ids history index { visitor with store := next } :=
    fun _ => ⟨h.jar, h.cookies, h.answers⟩
  cases turn with
  | begins hrun hwait hstage =>
    exact Visitor.goesOn_request hremote (Nat.lt_succ_self _) rfl (h.post hplain rfl _)
  | _ => exact Visitor.goesOn_quiet rfl (hquiet _)

theorem userTurn (h : Holding ids history index visitor) (hplain : ∀ k, IsPlainId (ids k))
    (hremote : visitor.remote = false) {flight : Flight UserAction UserStage} {ticket : Nat}
    {came : Option (UserStage × Reception)}
    (turn : UserTurn { visitor.store with users := flight } ticket came next) :
    Holding ids history index (visitor.goesOn next) := by
  cases turn with
  | request hrequest =>
    exact Visitor.goesOn_request hremote (Nat.lt_succ_self _) rfl
      (h.post hplain (no_cookie_of_requests hrequest) _)
  | finish hloading hloaded =>
    exact Visitor.goesOn_quiet rfl ⟨h.jar, h.cookies, h.answers⟩

theorem step (h : Holding ids history index visitor) (hplain : ∀ k, IsPlainId (ids k))
    (hremote : visitor.remote = false) {event : Store.Event} (hown : event.IsOwn) :
    Holding ids history index (visitor.step event) := by
  rw [Visitor.step_eq]
  generalize visitor.store.step event = next, Store.step_own visitor.store hown = own
  cases own with
  | quiet hclient hstate hepoch hrequested husers hblogs =>
    exact Visitor.goesOn_quiet hrequested ⟨h.jar, h.cookies, h.answers⟩
  | blogs turn => exact h.blogResume hplain hremote turn
  | users hready hcame turn => exact h.userTurn hplain hremote turn

theorem deliver (h : Holding ids history index visitor) (number : Nat) :
    Holding ids history index (visitor.deliver number) := by
  rcases visitor.deliver_eq number with heq | ⟨parcel, hin, -, response, hresponse, heq⟩
  · rwa [heq]
  · rw [heq]
    refine ⟨fun {id} hjar => ?_, fun other hother => h.cookies other (List.mem_filter.mp hother).1,
      fun other hother => h.answers other (List.mem_filter.mp hother).1⟩
    rcases h.answers parcel hin response hresponse visitor.jar id hjar with hold | hgranted
    · exact h.jar hold
    · exact hgranted

theorem serve {x : Execution} (h : Holding ids history x.visitor visitor)
    (hplain : ∀ k, IsPlainId (ids k)) {before after : List Parcel} {parcel : Parcel}
    (hsplit : visitor.parcels = before ++ parcel :: after) :
    Holding ids (history ++ [x]) x.visitor { visitor with
      parcels := before ++ { parcel with response := some (x.response ids) } :: after } := by
  have hlater := h.later x
  have hcookies := hlater.cookies
  have hanswers := hlater.answers
  rw [hsplit] at hcookies hanswers
  refine ⟨hlater.jar, forall_mem_middle hcookies id, forall_mem_middle hanswers fun _ => ?_⟩
  rintro _ ⟨⟩ jar id hafter
  rcases Server.jar_after_handle hplain x.service x.incoming jar with hsame | hnone | hissues
  · exact .inl (hsame.symm.trans hafter)
  · cases hnone.symm.trans hafter
  · obtain ⟨given, username, hissues, hgiven⟩ := hissues
    cases hgiven.symm.trans hafter
    exact .inr ⟨x, by simp, rfl, username, hissues⟩

end Holding

end BlogDesk.Network
