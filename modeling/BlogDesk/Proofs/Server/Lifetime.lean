import Mathlib.Data.List.Induction
import BlogDesk.Proofs.Server.Sessions

/-!
# How long a session lasts

From the login that hands it out to the first logout that presents it, and for the
user who logged in. `dispatched_while_session_lasts`: it is this, over the whole
history of the service, that decides for whom a call is carried out.
-/

namespace BlogDesk.Server

namespace Service

open Network (longerIds longerIds_injective)

variable {ids : Nat → String} {service : Service} {request : Incoming} {id username : String}

-- ---- Histories

def run (ids : Nat → String) (service : Service) (requests : List Incoming) : Service :=
  requests.foldl (fun service request => (service.handle ids request).2) service

theorem run_concat (requests : List Incoming) (request : Incoming) :
    run ids service (requests ++ [request]) = ((run ids service requests).handle ids request).2 := by
  rw [run, List.foldl_append]
  rfl

/-- A login that is answered with that session, for the account of that username. -/
def Issues (ids : Nat → String) (service : Service) (request : Incoming) (id username : String) :
    Prop :=
  (service.handle ids request).1 = granted id ∧
    ∃ credentials, request.LogsIn credentials ∧ service.backend.accepts credentials ∧
      credentials.username = username

/-- In a new service's history the session was handed out to that user, and nobody who
presented it has logged out since. -/
def Lasts (ids : Nat → String) (requests : List Incoming) (id username : String) : Prop :=
  ∃ before login later, requests = before ++ login :: later ∧
    Issues ids (run ids {} before) login id username ∧ ∀ request ∈ later, ¬ request.LogsOut id

theorem lasts_concat {requests : List Incoming} :
    Lasts ids (requests ++ [request]) id username ↔
      Issues ids (run ids {} requests) request id username ∨
        ¬ request.LogsOut id ∧ Lasts ids requests id username := by
  constructor
  · rintro ⟨before, login, later, hsplit, hissues, hlater⟩
    rcases List.eq_nil_or_concat later with rfl | ⟨later, last, rfl⟩
    · obtain ⟨rfl, hlogin⟩ := List.append_inj' hsplit rfl
      cases hlogin
      exact .inl hissues
    · rw [List.concat_eq_append] at hsplit hlater
      rw [← List.cons_append, ← List.append_assoc] at hsplit
      obtain ⟨rfl, hlast⟩ := List.append_inj' hsplit rfl
      cases hlast
      exact .inr ⟨hlater request (by simp), before, login, later, rfl, hissues,
        fun other hother => hlater other (List.mem_append_left _ hother)⟩
  · rintro (hissues | ⟨hstays, before, login, later, rfl, hissues, hlater⟩)
    · exact ⟨requests, request, [], rfl, hissues, nofun⟩
    · refine ⟨before, login, later ++ [request], by simp, hissues, fun other hother => ?_⟩
      rcases List.mem_append.mp hother with hother | hother
      · exact hlater other hother
      · exact List.mem_singleton.mp hother ▸ hstays

-- ---- One request

theorem granted_injective : Function.Injective granted := by
  intro id other h
  have hcookie : grantCookie id = grantCookie other := by simpa [granted] using h
  have hchars := congrArg String.toList hcookie
  simp only [grantCookie, String.toList_append] at hchars
  exact String.toList_injective (List.append_cancel_left (List.append_cancel_right hchars))

theorem Issues.next (h : Issues ids service request id username) :
    id = ids service.issued ∧ (service.handle ids request).2.issued = service.issued + 1 := by
  obtain ⟨hgranted, credentials, hlogin, haccepts, -⟩ := h
  generalize service.handle ids request = result, handle_handled ids service request = handled
    at hgranted
  cases handled with
  | refused hstatus hlogout hrejects hcall => exact absurd haccepts (hrejects hlogin)
  | opened hlogin' haccepts' => exact ⟨(granted_injective hgranted).symm, rfl⟩
  | closed hlogout hlive => cases hlogout.1.unique hlogin.1
  | answered hcall => cases hcall.1.unique hlogin.1

def Issued (ids : Nat → String) (service : Service) : Prop :=
  ∀ id username, service.backend.sessionUser? id = some username →
    ∃ k, k < service.issued ∧ ids k = id

theorem Issued.handle (h : Issued ids service) (request : Incoming) :
    Issued ids (service.handle ids request).2 := by
  intro id username hlive
  cases service.handle_sessions ids request with
  | kept hissued hold => exact hissued ▸ h id username (hold hlive)
  | opened hissued hold =>
    rcases hold hlive with rfl | hlive
    · exact ⟨service.issued, by omega, rfl⟩
    · obtain ⟨k, hk, hid⟩ := h id username hlive
      exact ⟨k, by omega, hid⟩

theorem Issued.run (h : Issued ids service) (requests : List Incoming) :
    Issued ids (run ids service requests) := by
  induction requests generalizing service with
  | nil => exact h
  | cons request rest ih => exact ih (h.handle request)

theorem Issued.fresh (h : Issued ids service) (hids : Function.Injective ids) :
    service.backend.sessionUser? (ids service.issued) = none := by
  cases hlive : service.backend.sessionUser? (ids service.issued) with
  | none => rfl
  | some username =>
    obtain ⟨k, hk, hid⟩ := h _ username hlive
    have := hids hid
    omega

theorem sessionUser?_handle (h : Issued ids service) (hids : Function.Injective ids)
    (request : Incoming) :
    (service.handle ids request).2.backend.sessionUser? id = some username ↔
      Issues ids service request id username ∨
        ¬ request.LogsOut id ∧ service.backend.sessionUser? id = some username := by
  have hfresh := h.fresh hids
  unfold Issues
  generalize service.handle ids request = result, handle_handled ids service request = handled
  cases handled with
  | @refused status hstatus hlogout hlogin hcall =>
    constructor
    · intro hlive
      refine .inr ⟨fun hout => ?_, hlive⟩
      cases (hlogout hout).symm.trans hlive
    · rintro (⟨hgranted, -⟩ | ⟨-, hlive⟩)
      · cases hgranted
      · exact hlive
  | @opened credentials hlogin haccepts =>
    rw [Backend.openSession_sessionUser?]
    constructor
    · intro hlive
      split at hlive
      · rename_i hid
        cases hlive
        exact .inl ⟨by rw [hid], credentials, hlogin, haccepts, rfl⟩
      · exact .inr ⟨fun hout => (nomatch hlogin.1.unique hout.1), hlive⟩
    · rintro (⟨hgranted, other, hother, -, rfl⟩ | ⟨-, hlive⟩)
      · -- One response grants one id, and one request is one login.
        rw [if_pos (granted_injective hgranted).symm]
        cases hlogin.2.2.symm.trans hother.2.2
        rfl
      · rw [if_neg, hlive]
        rintro rfl
        -- The id that was handed out had no session.
        cases hfresh.symm.trans hlive
  | @closed closed owner hlogout hlive =>
    rw [Backend.closeSession_sessionUser?]
    constructor
    · intro hstill
      split at hstill
      · cases hstill
      · rename_i hid
        refine .inr ⟨fun hout => hid ?_, hstill⟩
        exact Option.some.inj (hout.2.symm.trans hlogout.2)
    · rintro (⟨-, other, hother, -⟩ | ⟨hstays, hstill⟩)
      · cases hlogout.1.unique hother.1
      · rw [if_neg, hstill]
        rintro rfl
        exact hstays hlogout
  | answered hcall =>
    rw [answerIn_sessionUser?]
    constructor
    · exact fun hlive => .inr ⟨fun hout => (nomatch hcall.1.unique hout.1), hlive⟩
    · rintro (⟨-, other, hother, -⟩ | ⟨-, hlive⟩)
      · cases hcall.1.unique hother.1
      · exact hlive

-- ---- The result

theorem sessionUser?_run (hids : Function.Injective ids) (requests : List Incoming) :
    (run ids {} requests).backend.sessionUser? id = some username ↔ Lasts ids requests id username := by
  have hissued : ∀ requests, Issued ids (run ids {} requests) :=
    Issued.run (show Issued ids {} from nofun)
  induction requests using List.reverseRecOn with
  | nil =>
    refine ⟨nofun, ?_⟩
    rintro ⟨before, login, later, hsplit, -⟩
    simp at hsplit
  | append_singleton requests request ih =>
    rw [run_concat, lasts_concat]
    exact (sessionUser?_handle (hissued requests) hids request).trans
      (or_congr_right (and_congr_right fun _ => ih))

/-- A call is dispatched for the user whose session its first `auth` cookie names while
that session lasts, and without a session otherwise. What lasts is of one user, and
goes on through all requests that do not log that very session out. -/
theorem dispatched_while_session_lasts (hids : Function.Injective ids) (requests : List Incoming)
    {call : LenientCall} (hcall : request.Reads call) :
    (∃ session, (run ids {} requests).handle ids request =
        (run ids {} requests).answerIn session call ∧
      ∀ username, session = some username ↔
        ∃ id, sessionCookie? request.headers = some id ∧ Lasts ids requests id username) ∧
    ∀ id username, Lasts ids requests id username →
      (∀ other, Lasts ids requests id other → other = username) ∧
      ∀ more, (∀ later ∈ more, ¬ later.LogsOut id) → Lasts ids (requests ++ more) id username := by
  refine ⟨⟨(run ids {} requests).backend.session request.headers, handle_of_reads hcall,
    fun username => ?_⟩, ?_⟩
  · rw [Backend.session, Option.bind_eq_some_iff]
    exact exists_congr fun id => and_congr_right fun _ => sessionUser?_run hids requests
  · intro id username hlasts
    refine ⟨fun other hother => ?_, fun more hmore => ?_⟩
    · have hlive := (sessionUser?_run hids requests).mpr hlasts
      exact Option.some.inj (((sessionUser?_run hids requests).mpr hother).symm.trans hlive)
    · -- The login that opened the session stays where it is in the longer history.
      obtain ⟨before, login, later, rfl, hissues, hlater⟩ := hlasts
      refine ⟨before, login, later ++ more, by simp, hissues, fun request hrequest => ?_⟩
      rcases List.mem_append.mp hrequest with hrequest | hrequest
      · exact hlater request hrequest
      · exact hmore request hrequest

def adaLogsIn : Incoming where
  path := "/api/login"
  headers := [("content-type", "application/x-www-form-urlencoded")]
  body := "username=ada&password=pw"

/-- Ada registers, logs in twice, and logs the second session out. -/
def adaComesTwice : List Incoming :=
  [Network.withCookie ((Client.ofBase "/api").request (.register ⟨"ada", "pw", none⟩)) none,
    adaLogsIn, adaLogsIn, { path := "/api/logout", headers := [("cookie", "auth=ss")] }]

def adaAsks : Incoming :=
  { Network.withCookie ((Client.ofBase "/api").request .whoami) none with
    headers := [("content-type", "application/json"), ("cookie", "theme=dark; auth=s; auth=ss")] }

theorem dispatched_while_session_lasts_ada :
    Function.Injective longerIds ∧ adaAsks.Reads ⟨.str "1", "Users.Whoami", []⟩ ∧
      Lasts longerIds adaComesTwice "s" "ada" ∧
      (run longerIds {} adaComesTwice).handle longerIds adaAsks =
        (run longerIds {} adaComesTwice).answerIn (some "ada") ⟨.str "1", "Users.Whoami", []⟩ := by
  have hcall : adaAsks.Reads ⟨.str "1", "Users.Whoami", []⟩ :=
    ⟨by decide, by decide, LenientCall.read_write ⟨"1", "Users.Whoami", []⟩ nofun⟩
  have hlasts : Lasts longerIds adaComesTwice "s" "ada" := by
    refine ⟨adaComesTwice.take 1, adaLogsIn, adaComesTwice.drop 2, rfl, ⟨by decide +kernel,
      ⟨"ada", "pw"⟩, ⟨by decide, by decide, by decide +kernel⟩, by decide +kernel, rfl⟩, ?_⟩
    refine List.forall_mem_cons.mpr ⟨fun hout => ?_, List.forall_mem_singleton.mpr fun hout => ?_⟩
    · exact absurd hout.1 (by decide)
    · exact absurd hout.2 (by decide)
  obtain ⟨⟨session, hanswer, hsession⟩, -⟩ :=
    dispatched_while_session_lasts longerIds_injective adaComesTwice hcall
  obtain rfl := (hsession "ada").mpr ⟨"s", by decide, hlasts⟩
  exact ⟨longerIds_injective, hcall, hlasts, hanswer⟩

end Service

end BlogDesk.Server
