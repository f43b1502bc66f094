import BlogDesk.Proofs.Network.Outcomes
import BlogDesk.Proofs.Server.Sessions

/-!
# Accounts, as the consoles see them

When actions are carried through one after the other, what registrations and logins tell
follows from what earlier registrations told: `accounts_as_registered`. The service's
accounts are just the registrations that it accepted.
-/

namespace BlogDesk

def Store.result? (store : Store) (ticket : Nat) : Option Store.Result :=
  store.log.findSome? fun
    | .finish other result => if other = ticket then some result else none
    | _ => none

namespace Network

open Server (Backend IsPlainId Refusal)

/-- What the action tells when that visitor carries it through. -/
def returned (ids : Nat → String) (network : Network) (index : Nat) (action : Store.Action) :
    Option Store.Result := do
  let visitor ← network.visitors[index]?
  let after ← (perform ids network index action).visitors[index]?
  after.store.result? visitor.store.started

/-- New visitors of a new service have carried these actions through, one after the other. -/
def carried (ids : Nat → String) (settings : List Settings) (done : List (Nat × Store.Action)) :
    Network :=
  done.foldl (fun network next => perform ids network next.1 next.2) (ofSettings settings)

def Registered (ids : Nat → String) (settings : List Settings) (done : List (Nat × Store.Action))
    (user : NewUser) : Prop :=
  ∃ before index after login, done = before ++ (index, .user (.register user)) :: after ∧
    returned ids (carried ids settings before) index (.user (.register user)) =
      some (.register (.registered login))

-- ---- One action after the other

section
variable {ids : Nat → String} {settings : List Settings} {done : List (Nat × Store.Action)}

theorem carried_concat (index : Nat) (action : Store.Action) :
    carried ids settings (done ++ [(index, action)]) =
      perform ids (carried ids settings done) index action := by
  rw [carried, List.foldl_append]
  rfl

theorem not_registered_nil {user : NewUser} : ¬ Registered ids settings [] user := by
  rintro ⟨before, index, after, login, hsplit, -⟩
  simp at hsplit

theorem registered_concat {index : Nat} {action : Store.Action} {user : NewUser} :
    Registered ids settings (done ++ [(index, action)]) user ↔
      Registered ids settings done user ∨ action = .user (.register user) ∧
        ∃ login, returned ids (carried ids settings done) index action =
          some (.register (.registered login)) := by
  constructor
  · rintro ⟨before, at_, after, login, hsplit, hreturned⟩
    rcases List.eq_nil_or_concat after with rfl | ⟨rest, last, rfl⟩
    · obtain ⟨rfl, hlast⟩ := List.append_inj' hsplit rfl
      cases hlast
      exact .inr ⟨rfl, login, hreturned⟩
    · rw [List.concat_eq_append, ← List.cons_append, ← List.append_assoc] at hsplit
      obtain ⟨rfl, -⟩ := List.append_inj' hsplit rfl
      exact .inl ⟨before, at_, rest, login, rfl, hreturned⟩
  · rintro (⟨before, at_, after, login, rfl, hreturned⟩ | ⟨rfl, login, hreturned⟩)
    · exact ⟨before, at_, after ++ [(index, action)], login, by simp, hreturned⟩
    · exact ⟨done, index, [], login, rfl, hreturned⟩

theorem perform_of_none {network : Network} {index : Nat} (hnone : network.visitors[index]? = none)
    (action : Store.Action) : perform ids network index action = network := by
  have hstep (event : Store.Event) : network.step ids (.act index event) = network := by
    rw [step, modifyVisitor, List.modify_eq_self (List.getElem?_eq_none_iff.mp hnone)]
  rw [perform, run, List.foldl_cons, hstep, List.foldl_cons, hstep, List.foldl_nil]
  exact Function.iterate_fixed (exchange_of_none ids hnone action.slice) 3

theorem returned_of_settled {network : Network} {index : Nat} {visitor : Visitor}
    (hvisitor : network.visitors[index]? = some visitor) {action : Store.Action}
    {knows : NewUser → Prop} {result : Store.Result}
    (h : Settled network.visitors index visitor.store.started knows result
      (perform ids network index action)) : returned ids network index action = some result := by
  obtain ⟨jar, service, after, heq, hended, -⟩ := h
  obtain ⟨hindex, -⟩ := List.getElem?_eq_some_iff.mp hvisitor
  obtain ⟨log, hlog⟩ := List.head?_eq_some_iff.mp hended.told
  have hresult : after.store.result? visitor.store.started = some result := by
    simp [Store.result?, hlog]
  simpa [returned, hvisitor, heq, getElem?_place hindex] using hresult

/-- Every visitor is at rest, and the accounts are those of the users who registered. -/
structure Standing (ids : Nat → String) (settings : List Settings)
    (done : List (Nat × Store.Action)) : Prop where
  length : (carried ids settings done).visitors.length = settings.length
  rests : ∀ visitor ∈ (carried ids settings done).visitors, ∃ jar, AtRest jar visitor
  knows : ∀ user, (carried ids settings done).service.backend.Knows user ↔
    Registered ids settings done user

variable (hids : ∀ k, IsPlainId (ids k))
include hids

theorem perform_settles {network : Network} {index : Nat} {jar : Jar} {visitor : Visitor}
    (hvisitor : network.visitors[index]? = some visitor) (hrests : AtRest jar visitor)
    (action : Store.Action) : ∃ result, Tells network.service.backend.Knows action result ∧
      Settled network.visitors index visitor.store.started
        (fun user => Adds action result user ∨ network.service.backend.Knows user) result
        (perform ids network index action) := by
  obtain ⟨hindex, -⟩ := List.getElem?_eq_some_iff.mp hvisitor
  cases action with
  | user action =>
    have hperform := perform_user hids hindex network.service hrests action
    rwa [place_self hvisitor] at hperform
  | blogs action =>
    obtain ⟨result, hsettled⟩ := perform_blogs hids hindex network.service hrests action
    rw [place_self hvisitor] at hsettled
    exact ⟨result, trivial, hsettled.congr fun user => by simp [Adds]⟩

theorem standing (hbase : ∀ own ∈ settings, own.apiUrl = "/api") (done : List (Nat × Store.Action)) :
    Standing ids settings done := by
  induction done using List.reverseRecOn with
  | nil =>
    refine ⟨List.length_map .., fun visitor hvisitor => ?_, fun user => ?_⟩
    · obtain ⟨own, hown, rfl⟩ := List.mem_map.mp hvisitor
      refine ⟨none, ⟨⟨⟨rfl, ?_, rfl, nofun⟩, rfl⟩, rfl, rfl⟩⟩
      change (Client.ofBase own.apiUrl).baseUrl = _
      rw [hbase own hown]
      decide
    · refine iff_of_false ?_ not_registered_nil
      rintro ⟨blogs, ⟨⟩⟩
  | append_singleton done next ih =>
    obtain ⟨index, action⟩ := next
    -- At a console that is not there nothing happens; any other one was at rest, and is so again.
    cases hvisitor : (carried ids settings done).visitors[index]? with
    | none =>
      have hkept : carried ids settings (done ++ [(index, action)]) = carried ids settings done :=
        (carried_concat index action).trans (perform_of_none hvisitor action)
      refine ⟨hkept ▸ ih.length, hkept ▸ ih.rests, fun user => ?_⟩
      rw [hkept, ih.knows, registered_concat]
      simp [returned, hvisitor]
    | some visitor =>
      obtain ⟨jar, hrests⟩ := ih.rests visitor (List.mem_of_getElem? hvisitor)
      obtain ⟨result, -, hsettled⟩ := perform_settles hids hvisitor hrests action
      have hreturned := returned_of_settled hvisitor hsettled
      obtain ⟨held, service, after, heq, hended, hknows⟩ := hsettled
      rw [← carried_concat] at heq
      refine ⟨?_, ?_, fun user => ?_⟩
      · rw [heq, place, List.length_set, ih.length]
      · intro other hother
        rw [heq] at hother
        rcases List.mem_or_eq_of_mem_set hother with hother | rfl
        · exact ih.rests other hother
        · exact ⟨held, hended.toAtRest⟩
      · rw [registered_concat, hreturned, heq, ← ih.knows user]
        refine (hknows user).trans ?_
        simp [Adds, or_comm]

-- ---- The result

/-- Consoles at a new service carry actions through one after the other, whatever these
are and however long answers are held back. The next action, if it is a registration, ends with
a login of the new user just if the username and the password are not empty and nobody
registered the username before; otherwise the service's reason is told. If it is a login, it ends
with the user who registered with just these credentials, under the display name given
then; otherwise the credentials are invalid. -/
theorem accounts_as_registered (hbase : ∀ own ∈ settings, own.apiUrl = "/api")
    (done : List (Nat × Store.Action)) (index : Nat) (hindex : index < settings.length) :
    let known := Registered ids settings done
    let tells action := returned ids (carried ids settings done) index (.user action)
    (∀ user : NewUser,
      (tells (.register user) =
          some (.register (.registered (.loggedIn ⟨user.username, user.displayName⟩))) ↔
        user.username ≠ "" ∧ user.password ≠ "" ∧
          ∀ other, known other → other.username ≠ user.username) ∧
      (user.username = "" ∨ user.password = "" ∨
          (∃ other, known other ∧ other.username = user.username) →
        tells (.register user) = some (.register (.failed
          (.refused Method.register.name (Refusal.against user).message))))) ∧
    ∀ credentials : Credentials,
      (∀ user : User, tells (.login credentials) = some (.login (.loggedIn user)) ↔
        user.username = credentials.username ∧
          known ⟨credentials.username, credentials.password, user.displayName⟩) ∧
      ((∀ displayName, ¬ known ⟨credentials.username, credentials.password, displayName⟩) →
        tells (.login credentials) = some (.login .invalidCredentials)) := by
  intro known tells
  have hstanding := standing hids hbase done
  obtain ⟨visitor, hvisitor⟩ : ∃ visitor, (carried ids settings done).visitors[index]? = some visitor :=
    ⟨_, List.getElem?_eq_getElem (hstanding.length ▸ hindex)⟩
  obtain ⟨jar, hrests⟩ := hstanding.rests visitor (List.mem_of_getElem? hvisitor)
  have hknown : (carried ids settings done).service.backend.Knows = known :=
    funext fun user => propext (hstanding.knows user)
  have htells (action : Store.UserAction) : ∃ result, tells action = some result ∧
      Tells known (.user action) result := by
    obtain ⟨result, htells, hsettled⟩ := perform_settles hids hvisitor hrests (.user action)
    exact ⟨result, returned_of_settled hvisitor hsettled, hknown ▸ htells⟩
  refine ⟨fun user => ?_, fun credentials => ?_⟩
  · obtain ⟨result, hresult, houtcome⟩ := htells (.register user)
    cases result with
    | register outcome =>
      refine ⟨?_, fun hwhy => ?_⟩
      · rw [hresult, Option.some.injEq, Store.Result.register.injEq]
        exact houtcome.registered_iff
      · rw [hresult, houtcome.failed hwhy]
    | _ => exact houtcome.elim
  · obtain ⟨result, hresult, houtcome⟩ := htells (.login credentials)
    cases result with
    | login outcome =>
      refine ⟨fun user => ?_, fun hnone => ?_⟩
      · rw [hresult, Option.some.injEq, Store.Result.login.injEq]
        exact houtcome.loggedIn_iff (hknown ▸ fun _ _ => Backend.Knows.unique) user
      · rw [hresult, houtcome.invalid hnone]
    | _ => exact houtcome.elim

end

/-- Ada registers at one console, and a list is asked for in vain at the other one. -/
def adaRegisters : List (Nat × Store.Action) :=
  [(0, .user (.register ⟨"ada", "p&w=%", some ""⟩)), (1, .blogs .load)]

/-- At the other console, where answers are held back, she logs in, and nobody gets her name. -/
theorem accounts_as_registered_ada :
    let consoles : List Settings := [{}, { delay := 5 }]
    returned longerIds (carried longerIds consoles adaRegisters) 1
      (.user (.login ⟨"ada", "p&w=%"⟩)) = some (.login (.loggedIn ⟨"ada", some ""⟩)) ∧
    returned longerIds (carried longerIds consoles adaRegisters) 1
      (.user (.register ⟨"ada", "other", none⟩)) = some (.register (.failed
        (.refused Method.register.name Refusal.userExists.message))) := by
  intro consoles
  have hbase : ∀ own ∈ consoles, own.apiUrl = "/api" := by decide
  obtain ⟨hfirst, -⟩ := accounts_as_registered Server.isPlainId_longerIds hbase [] 0 (by decide)
  have hada := (hfirst ⟨"ada", "p&w=%", some ""⟩).1.mpr
    ⟨by decide, by decide, fun other hother => absurd hother not_registered_nil⟩
  have hknown : Registered longerIds consoles adaRegisters ⟨"ada", "p&w=%", some ""⟩ :=
    ⟨[], 0, [(1, .blogs .load)], _, rfl, hada⟩
  obtain ⟨hregister, hlogin⟩ :=
    accounts_as_registered Server.isPlainId_longerIds hbase adaRegisters 1 (by decide)
  exact ⟨((hlogin ⟨"ada", "p&w=%"⟩).1 ⟨"ada", some ""⟩).mpr ⟨rfl, hknown⟩,
    (hregister ⟨"ada", "other", none⟩).2 (.inr (.inr ⟨_, hknown, rfl⟩))⟩

end Network

end BlogDesk
