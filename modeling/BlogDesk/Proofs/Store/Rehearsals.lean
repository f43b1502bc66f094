import BlogDesk.Proofs.Store.Turns
import BlogDesk.Store.Rehearsal

/-!
# A rehearsal is a run

What a rehearsal does to its store are events like any others: the steps, and between them
answers and turns of the slices. So whatever holds after every run holds of a rehearsed store.
-/

namespace BlogDesk.Store

def Event.isHosts : Event → Bool
  | .receive .. | .resume _ => false
  | .setUser _ | .setBlogs _ | .start _ | .pass _ => true

namespace Rehearsal

/-- What the host does at a step. A gate is no concern of the store. -/
def Step.event? : Step → Option Event
  | .setUser user => some (.setUser user)
  | .setBlogs blogs => some (.setBlogs blogs)
  | .start action => some (.start action)
  | .openGate _ => none
  | .advance milliseconds => some (.pass milliseconds)

/-- The store went on by a run in which the host did just that. -/
def Goes (hosts : List Event) (before after : Rehearsal) : Prop :=
  ∃ events, events.filter Event.isHosts = hosts ∧ after.store = before.store.run events

variable {before middle after : Rehearsal} {first rest : List Event}

theorem Goes.refl (rehearsal : Rehearsal) : Goes [] rehearsal rehearsal := ⟨[], rfl, rfl⟩

theorem Goes.trans (h : Goes first before middle) (hrest : Goes rest middle after) :
    Goes (first ++ rest) before after := by
  obtain ⟨events, rfl, hstore⟩ := h
  obtain ⟨more, rfl, hmore⟩ := hrest
  exact ⟨events ++ more, List.filter_append .., by rw [hmore, hstore, run_append]⟩

theorem Goes.more (h : Goes first before middle) (hrest : Goes [] middle after) :
    Goes first before after :=
  List.append_nil first ▸ h.trans hrest

theorem apply_goes (rehearsal : Rehearsal) (event : Event) :
    Goes ([event].filter Event.isHosts) rehearsal (rehearsal.apply event) :=
  ⟨[event], rfl, rfl⟩

theorem answer_goes (rehearsal : Rehearsal) (number : Nat) :
    Goes [] rehearsal (rehearsal.answer number) := by
  unfold answer
  split
  · exact ⟨[.receive number _], rfl, rfl⟩
  · simp only
    split
    · exact ⟨[.receive number _], rfl, rfl⟩
    · split
      · exact ⟨[.receive number _], rfl, rfl⟩
      · exact ⟨[], rfl, rfl⟩

theorem resume_goes (rehearsal : Rehearsal) (slice : Slice) :
    Goes [] rehearsal (rehearsal.resume slice) := by
  have hresume := apply_goes rehearsal (.resume slice)
  unfold resume
  simp only
  split
  · exact hresume.more (answer_goes ..)
  · exact hresume

theorem settle_goes (fuel : Nat) (slices : List Slice) (rehearsal : Rehearsal) :
    Goes [] rehearsal (settle fuel slices rehearsal) := by
  -- A slice that is ready has its turn, and one that is not is passed over.
  fun_induction settle fuel slices rehearsal with
  | case1 => exact .refl _
  | case2 => exact .refl _
  | case3 rehearsal fuel slice others hready next hbetween ih => exact (resume_goes ..).more ih
  | case4 rehearsal fuel slice others hready next hbetween ih => exact (resume_goes ..).more ih
  | case5 rehearsal fuel slice others hready ih => exact ih

theorem openGate_goes (rehearsal : Rehearsal) (gate : String) :
    Goes [] rehearsal (rehearsal.openGate gate) := by
  refine List.foldlRecOn (motive := Goes [] rehearsal) _ _ ⟨[], rfl, rfl⟩ ?_
  intro reached h held _
  exact h.more (apply_goes reached (.receive held.number held.reception))

theorem step_goes (rehearsal : Rehearsal) (step : Step) :
    Goes step.event?.toList rehearsal (rehearsal.step step) := by
  cases step with
  | openGate gate => exact (openGate_goes rehearsal gate).more (settle_goes ..)
  | setUser user => exact (apply_goes rehearsal (.setUser user)).more (settle_goes ..)
  | setBlogs blogs => exact (apply_goes rehearsal (.setBlogs blogs)).more (settle_goes ..)
  | start action => exact (apply_goes rehearsal (.start action)).more (settle_goes ..)
  | advance milliseconds => exact (apply_goes rehearsal (.pass milliseconds)).more (settle_goes ..)

/-- A rehearsed store is the store after a run, in which the host does what the steps say, in
their order, and all else are answers and turns. -/
theorem steps_eq_run (rehearsal : Rehearsal) (steps : List Step) :
    ∃ events, events.filter Event.isHosts = steps.filterMap Step.event? ∧
      (steps.foldl step rehearsal).store = rehearsal.store.run events := by
  change Goes (steps.filterMap Step.event?) rehearsal _
  induction steps generalizing rehearsal with
  | nil => exact .refl rehearsal
  | cons step steps ih =>
    have hsteps : (step :: steps).filterMap Step.event? =
        step.event?.toList ++ steps.filterMap Step.event? := by
      rw [List.filterMap_cons]
      cases step.event? <;> rfl
    rw [hsteps]
    exact (step_goes rehearsal step).trans (ih _)

end Rehearsal

end BlogDesk.Store
