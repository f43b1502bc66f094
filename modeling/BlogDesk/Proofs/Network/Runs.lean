import BlogDesk.Proofs.Network.Executions
import BlogDesk.Proofs.Store.Turns

/-!
# Invariants of runs

What holds of the service, and of each visitor, after the executions so far. `Invariant`
lists the three kinds of events that have to keep it, and `Invariant.run` says that
then every run keeps it.
-/

namespace BlogDesk.Network

/-- An event of a network in which every store is left to itself. -/
def Event.IsOrdinary : Event → Prop
  | .act _ event => event.IsOwn
  | .serve .. | .deliver .. => True

instance : DecidablePred Event.IsOrdinary
  | .act _ event => inferInstanceAs (Decidable event.IsOwn)
  | .serve .. | .deliver .. => isTrue trivial

theorem exchange_eq_run (ids : Nat → String) (index : Nat) (slice : Store.Slice) (network : Network)
    {before : List Event} (hbefore : ∀ event ∈ before, event.IsOrdinary) :
    ∃ events, (∀ event ∈ events, event.IsOrdinary) ∧
      exchange ids index slice (network.run ids before) = network.run ids events := by
  unfold exchange
  split
  · exact ⟨before, hbefore, rfl⟩
  · split
    · exact ⟨before, hbefore, rfl⟩
    · refine ⟨before ++ _, ?_, List.foldl_append.symm⟩
      simp only [List.forall_mem_append, List.forall_mem_cons]
      exact ⟨hbefore, trivial, trivial, trivial, trivial, nofun⟩

/-- To carry an action through is a run like any other. -/
theorem perform_eq_run (ids : Nat → String) (network : Network) (index : Nat)
    (action : Store.Action) : ∃ events, (∀ event ∈ events, event.IsOrdinary) ∧
      network.perform ids index action = network.run ids events := by
  have hbegin : ∀ event ∈ [Event.act index (.start action), .act index (.resume action.slice)],
      event.IsOrdinary := by
    simp only [List.forall_mem_cons]
    exact ⟨trivial, trivial, nofun⟩
  obtain ⟨first, hfirst, hone⟩ := exchange_eq_run ids index action.slice network hbegin
  obtain ⟨second, hsecond, htwo⟩ := exchange_eq_run ids index action.slice network hfirst
  obtain ⟨third, hthird, hthree⟩ := exchange_eq_run ids index action.slice network hsecond
  refine ⟨third, hthird, ?_⟩
  rw [← hthree, ← htwo, ← hone]
  rfl

structure Holds (Of : List Execution → Server.Service → Prop)
    (Each : List Execution → Server.Service → Nat → Visitor → Prop) (history : List Execution)
    (network : Network) : Prop where
  service : Of history network.service
  visitors : ∀ {index visitor}, network.visitors[index]? = some visitor →
    Each history network.service index visitor

/-- Kept by whatever a visitor does, by each delivery, and by the execution of each
request, which the other visitors see nothing of. -/
structure Invariant (ids : Nat → String) (Of : List Execution → Server.Service → Prop)
    (Each : List Execution → Server.Service → Nat → Visitor → Prop) : Prop where
  act : ∀ {history service index visitor event}, Each history service index visitor →
    event.IsOwn → Each history service index (visitor.step event)
  deliver : ∀ {history service index visitor}, Each history service index visitor →
    ∀ number, Each history service index (visitor.deliver number)
  serve : ∀ {history} {x : Execution} {visitor before after} {parcel : Parcel},
    Of history x.service → Each history x.service x.visitor visitor →
    visitor.parcels = before ++ parcel :: after → parcel.number = x.number →
    x.incoming = parcel.incoming → parcel.response = none →
    Of (history ++ [x]) (x.service.handle ids x.incoming).2 ∧
    Each (history ++ [x]) (x.service.handle ids x.incoming).2 x.visitor { visitor with
      parcels := before ++ { parcel with response := some (x.response ids) } :: after } ∧
    ∀ {other bystander}, other ≠ x.visitor → Each history x.service other bystander →
      Each (history ++ [x]) (x.service.handle ids x.incoming).2 other bystander

namespace Invariant

variable {ids : Nat → String} {Of : List Execution → Server.Service → Prop}
  {Each : List Execution → Server.Service → Nat → Visitor → Prop} {history : List Execution}
  {network : Network}

theorem modify (h : Holds Of Each history network) {index : Nat} {f : Visitor → Visitor}
    (hf : ∀ {visitor}, Each history network.service index visitor →
      Each history network.service index (f visitor)) :
    Holds Of Each history (network.modifyVisitor index f) := by
  refine ⟨h.service, fun {other visitor} hvisitor => ?_⟩
  rw [modifyVisitor, List.getElem?_modify] at hvisitor
  obtain ⟨old, hold, rfl⟩ := Option.map_eq_some_iff.mp hvisitor
  change Each history network.service other _
  by_cases hindex : index = other
  · subst hindex
    simpa using hf (h.visitors hold)
  · simpa [hindex] using h.visitors hold

theorem set {service : Server.Service} {index : Nat} {visitor : Visitor}
    (hservice : Of history service) (hvisitor : Each history service index visitor)
    (hothers : ∀ {other bystander}, other ≠ index → network.visitors[other]? = some bystander →
      Each history service other bystander) :
    Holds Of Each history { service, visitors := network.visitors.set index visitor } := by
  refine ⟨hservice, fun {other found} hfound => ?_⟩
  rw [List.getElem?_set] at hfound
  split at hfound
  · rename_i hindex
    subst hindex
    split at hfound
    · cases hfound
      exact hvisitor
    · cases hfound
  · rename_i hindex
    exact hothers (Ne.symm hindex) hfound

theorem step_serve (hkeeps : Invariant ids Of Each) (h : Holds Of Each history network)
    (index number : Nat) :
    Holds Of Each (history ++ (executed? network (.serve index number)).toList)
      (network.step ids (.serve index number)) := by
  cases hvisitor : network.visitors[index]? with
  | none =>
    simpa only [executed?, Network.step, hvisitor, Option.bind_eq_bind, Option.bind_none,
      Option.toList_none, List.append_nil] using h
  | some visitor =>
    have hserve := serveParcels_eq ids number network.service visitor.parcels
    cases hfind : visitor.parcels.find? fun parcel =>
        parcel.number = number ∧ parcel.response.isNone with
    | none =>
      rw [hfind] at hserve
      simp only [executed?, Network.step, hvisitor, hfind, hserve, Option.bind_eq_bind,
        Option.bind_some, Option.bind_none, Option.toList_none, List.append_nil]
      exact set h.service (h.visitors hvisitor) fun _ => h.visitors
    | some parcel =>
      have hmatch := List.find?_some hfind
      have hfresh : parcel.response = none :=
        Option.isNone_iff_eq_none.mp (of_decide_eq_true hmatch).2
      rw [hfind] at hserve
      obtain ⟨before, after, hsplit, hnumber, hserve⟩ := hserve
      simp only [executed?, Network.step, hvisitor, hfind, hserve, Option.bind_eq_bind,
        Option.bind_some, Option.toList_some]
      obtain ⟨hservice, hown, hothers⟩ := hkeeps.serve
        (x := ⟨index, number, parcel.incoming, network.service⟩) h.service (h.visitors hvisitor)
        hsplit hnumber rfl hfresh
      exact set hservice hown fun hother hfound => hothers hother (h.visitors hfound)

theorem step (hkeeps : Invariant ids Of Each) (h : Holds Of Each history network) {event : Event}
    (hordinary : event.IsOrdinary) :
    Holds Of Each (history ++ (executed? network event).toList) (network.step ids event) := by
  cases event with
  | act index event =>
    change Holds Of Each (history ++ []) (network.modifyVisitor index (·.step event))
    rw [List.append_nil]
    exact modify h fun hvisitor => hkeeps.act hvisitor hordinary
  | deliver index number =>
    change Holds Of Each (history ++ []) (network.modifyVisitor index (·.deliver number))
    rw [List.append_nil]
    exact modify h fun hvisitor => hkeeps.deliver hvisitor number
  | serve index number => exact hkeeps.step_serve h index number

theorem run (hkeeps : Invariant ids Of Each) (h : Holds Of Each history network)
    {events : List Event} (hordinary : ∀ event ∈ events, event.IsOrdinary) :
    Holds Of Each (history ++ executions ids network events) (network.run ids events) := by
  induction events generalizing history network with
  | nil => simpa [executions, Network.run] using h
  | cons event rest ih =>
    obtain ⟨hfirst, hrest⟩ := List.forall_mem_cons.mp hordinary
    rw [executions, ← List.append_assoc]
    exact ih (hkeeps.step h hfirst) hrest

end Invariant

end BlogDesk.Network
