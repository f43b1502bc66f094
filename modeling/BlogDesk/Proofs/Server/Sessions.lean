import BlogDesk.Proofs.Keyed
import BlogDesk.Proofs.Server.Calls

/-!
# Sessions

No request gives a session to another user. A login opens one of the next id, a
logout closes one, and calls leave them as they are.
-/

namespace BlogDesk.Server

-- ---- Opened, closed, left alone

namespace Backend

variable {backend after : Backend} {session : Option String} {method : String} {param : Json}

theorem Changed.sessions_eq (h : Changed backend session method param after) :
    after.sessions = backend.sessions := by
  cases h <;> rfl

theorem openSession_sessionUser? (backend : Backend) (opened username id : String) :
    (backend.openSession opened username).sessionUser? id =
      if id = opened then some username else backend.sessionUser? id :=
  Keyed.find?_insert ..

theorem closeSession_sessionUser? (backend : Backend) (closed id : String) :
    (backend.closeSession closed).sessionUser? id =
      if id = closed then none else backend.sessionUser? id :=
  Keyed.find?_erase ..

end Backend

namespace Service

theorem answerIn_changed (service : Service) (session : Option String) (call : LenientCall) :
    service.backend.Changed session call.method (call.params.head?.getD .null)
      (service.answerIn session call).2.backend := by
  change service.backend.Changed session _ _ (service.backend.replyIn session call).2
  rw [Backend.replyIn]
  split
  · rename_i hdispatch
    exact Backend.dispatch_changed hdispatch
  · exact .nothing

theorem answerIn_sessionUser? (service : Service) (session : Option String) (call : LenientCall)
    (id : String) :
    (service.answerIn session call).2.backend.sessionUser? id = service.backend.sessionUser? id := by
  rw [Backend.sessionUser?, (service.answerIn_changed session call).sessions_eq, ← Backend.sessionUser?]

end Service

-- ---- Requests

inductive Sessions.Change (ids : Nat → String) (service next : Service) : Prop
  | kept (hissued : next.issued = service.issued)
      (hold : ∀ {id name}, next.backend.sessionUser? id = some name →
        service.backend.sessionUser? id = some name)
  | opened (hissued : next.issued = service.issued + 1)
      (hold : ∀ {id name}, next.backend.sessionUser? id = some name →
        id = ids service.issued ∨ service.backend.sessionUser? id = some name)

theorem Service.handle_sessions (ids : Nat → String) (service : Service) (request : Incoming) :
    Sessions.Change ids service (service.handle ids request).2 := by
  generalize service.handle ids request = result, handle_handled ids service request = handled
  cases handled with
  | refused hstatus hlogout hlogin hcall => exact .kept rfl id
  | opened hlogin haccepts =>
    refine .opened rfl fun {id name} h => ?_
    rw [Backend.openSession_sessionUser?] at h
    split at h
    · rename_i hid
      exact .inl hid
    · exact .inr h
  | closed hlogout hlive =>
    refine .kept rfl fun {id name} h => ?_
    rw [Backend.closeSession_sessionUser?] at h
    split at h
    · cases h
    · exact h
  | answered hcall =>
    refine .kept rfl fun {id name} h => ?_
    rwa [answerIn_sessionUser?] at h

end BlogDesk.Server

-- ---- A supply of ids

namespace BlogDesk.Network

/-- Session ids of one letter, each longer than the one before. -/
def longerIds (issued : Nat) : String := String.ofList (List.replicate (issued + 1) 's')

theorem longerIds_injective : Function.Injective longerIds := by
  intro first second h
  have hlength := congrArg String.length h
  simpa [longerIds] using hlength

end BlogDesk.Network
