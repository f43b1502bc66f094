import BlogDesk.Proofs.Network.Visitors

/-!
# Every request under way is waited for

By the one action that made it, which is in flight as long as the request is under
way; and while an action on the blogs is in flight no list is shown.
-/

namespace BlogDesk.Network

open Store (BlogStage UserStage UserAction UserTurn BlogResume Flight InFlight Reception)

def Expects (store : Store) (number : Nat) : Prop :=
  (∃ job, store.users.running = some job ∧ job.exchange.number = number) ∨
    ∃ job, store.blogs.running = some job ∧ job.exchange.number = number

structure Awaited (visitor : Visitor) : Prop where
  distinct : (visitor.parcels.map (·.number)).Nodup
  expected : ∀ parcel ∈ visitor.parcels, Expects visitor.store parcel.number
  /-- The answer that an action on the blogs has got is no longer under way. -/
  got : ∀ {job}, visitor.store.blogs.running = some job → job.exchange.reception.isSome →
    ∀ parcel ∈ visitor.parcels, parcel.number ≠ job.exchange.number
  busy : ∀ {job}, visitor.store.blogs.running = some job →
    ∀ list, visitor.store.state.blogs ≠ .loaded list

namespace Awaited

variable {ids : Nat → String} {base : String} {visitor : Visitor} {next : Store}

theorem initial (settings : Settings) : Awaited { store := .ofSettings settings } :=
  ⟨List.nodup_nil, nofun, nofun, nofun⟩

theorem byUser (h : Awaited visitor) {parcel : Parcel} (hin : parcel ∈ visitor.parcels)
    (hnot : ∀ job, visitor.store.blogs.running = some job → job.exchange.number ≠ parcel.number) :
    ∃ job, visitor.store.users.running = some job ∧ job.exchange.number = parcel.number := by
  rcases h.expected parcel hin with huser | ⟨job, hrun, hnumber⟩
  · exact huser
  · exact absurd hnumber (hnot job hrun)

theorem byBlogs (h : Awaited visitor) {parcel : Parcel} (hin : parcel ∈ visitor.parcels)
    (hnot : ∀ job, visitor.store.users.running = some job → job.exchange.number ≠ parcel.number) :
    ∃ job, visitor.store.blogs.running = some job ∧ job.exchange.number = parcel.number := by
  rcases h.expected parcel hin with ⟨job, hrun, hnumber⟩ | hblogs
  · exact absurd hnumber (hnot job hrun)
  · exact hblogs

theorem nodup_post {parcels : List Parcel} (h : (parcels.map (·.number)).Nodup) {parcel : Parcel}
    (hmade : ∀ other ∈ parcels, other.number < parcel.number) :
    ((parcels ++ [parcel]).map (·.number)).Nodup := by
  rw [List.map_append, List.map_singleton, List.nodup_append]
  refine ⟨h, List.pairwise_singleton _ _, fun number hnumber other hother => ?_⟩
  obtain ⟨old, hold, rfl⟩ := List.mem_map.mp hnumber
  obtain rfl := List.mem_singleton.mp hother
  exact Nat.ne_of_lt (hmade old hold)

theorem quiet (h : Awaited visitor) (hstate : next.state = visitor.store.state)
    (husers : next.users.running = visitor.store.users.running)
    (hblogs : next.blogs.running = visitor.store.blogs.running) :
    Awaited { visitor with store := next } := by
  refine ⟨h.distinct, fun parcel hin => ?_, fun hrun => h.got (hblogs ▸ hrun), fun hrun => ?_⟩
  · rw [Expects, husers, hblogs]
    exact h.expected parcel hin
  · rw [hstate]
    exact h.busy (hblogs ▸ hrun)

theorem blogResume (h : Awaited visitor) (hposted : Posted ids base visitor)
    (turn : BlogResume visitor.store next) : Awaited (visitor.goesOn next) := by
  cases turn with
  | idle => exact Visitor.goesOn_quiet rfl h
  | begins hrun hwait hstage =>
    refine Visitor.goesOn_request hposted.remote (Nat.lt_succ_self _) rfl ?_
    refine ⟨nodup_post h.distinct hposted.made, forall_mem_concat.mpr ⟨fun parcel hin => ?_, ?_⟩, ?_,
      fun _ => nofun⟩
    · exact .inl (h.byUser hin fun job hjob => by cases hrun.symm.trans hjob)
    · exact .inr ⟨_, rfl, rfl⟩
    · intro job hjob hcame
      obtain rfl := Option.some.inj hjob
      cases hcame
  | refuses hrun hwait haction hlist =>
    refine Visitor.goesOn_quiet rfl ⟨h.distinct, fun parcel hin => ?_, nofun, nofun⟩
    exact .inl (h.byUser hin fun job hjob => by cases hrun.symm.trans hjob)
  | ends hrun hcame hepoch =>
    refine Visitor.goesOn_quiet rfl ⟨h.distinct, fun parcel hin => ?_, nofun, nofun⟩
    refine .inl (h.byUser hin fun job hjob => ?_)
    obtain rfl := Option.some.inj (hrun.symm.trans hjob)
    have hgot := Store.Exchange.reception_of_resolved hcame
    exact (h.got hrun (hgot ▸ rfl) parcel hin).symm
  | drops hrun hcame hepoch =>
    refine Visitor.goesOn_quiet rfl ⟨h.distinct, fun parcel hin => ?_, nofun, nofun⟩
    refine .inl (h.byUser hin fun job hjob => ?_)
    obtain rfl := Option.some.inj (hrun.symm.trans hjob)
    have hgot := Store.Exchange.reception_of_resolved hcame
    exact (h.got hrun (hgot ▸ rfl) parcel hin).symm

theorem userTurn (h : Awaited visitor) (hposted : Posted ids base visitor)
    (hready : ∀ {job}, visitor.store.users.running = some job → job.exchange.reception.isSome)
    {flight : Flight UserAction UserStage} {ticket : Nat} {came : Option (UserStage × Reception)}
    (turn : UserTurn { visitor.store with users := flight } ticket came next) :
    Awaited (visitor.goesOn next) := by
  have hblogs : ∀ parcel ∈ visitor.parcels, ∃ job, visitor.store.blogs.running = some job ∧
      job.exchange.number = parcel.number := fun parcel hin =>
    h.byBlogs hin fun job hjob => (hposted.got hjob (hready hjob) parcel hin).symm
  cases turn with
  | request hrequest =>
    refine Visitor.goesOn_request hposted.remote (Nat.lt_succ_self _) rfl ?_
    refine ⟨nodup_post h.distinct hposted.made,
      forall_mem_concat.mpr ⟨fun parcel hin => .inr (hblogs parcel hin), .inl ⟨_, rfl, rfl⟩⟩,
      fun hrun hcame => forall_mem_concat.mpr ⟨h.got hrun hcame, ?_⟩, fun _ => nofun⟩
    exact (Nat.ne_of_lt (hposted.blogSent hrun)).symm
  | @finish user _ hloading hloaded =>
    refine Visitor.goesOn_quiet rfl ⟨h.distinct, fun parcel hin => .inr (hblogs parcel hin), h.got,
      fun hrun list => ?_⟩
    by_cases hepoch : { visitor.store with users := flight }.epochWith user = visitor.store.epoch
    · rw [Store.stateWith_of_epoch_eq hepoch]
      exact h.busy hrun list
    · rw [Store.stateWith_of_epoch_ne hepoch]
      nofun

theorem step (h : Awaited visitor) (hposted : Posted ids base visitor) {event : Store.Event}
    (hown : event.IsOwn) : Awaited (visitor.step event) := by
  rw [Visitor.step_eq]
  generalize visitor.store.step event = next, Store.step_own visitor.store hown = own
  cases own with
  | quiet hclient hstate hepoch hrequested husers hblogs =>
    exact Visitor.goesOn_quiet hrequested (h.quiet hstate husers hblogs)
  | blogs turn => exact h.blogResume hposted turn
  | users hready hcame turn => exact h.userTurn hposted hready turn

theorem deliver (h : Awaited visitor) (number : Nat) : Awaited (visitor.deliver number) := by
  rcases visitor.deliver_eq number with heq | ⟨parcel, hin, rfl, response, hresponse, heq⟩
  · rwa [heq]
  · rw [heq]
    refine ⟨h.distinct.sublist (List.filter_sublist.map _), fun other hother => ?_,
      fun hrun hcame other hother => ?_, fun hrun => ?_⟩
    · rcases h.expected other (List.mem_filter.mp hother).1 with ⟨job, hrun, hnumber⟩ |
        ⟨job, hrun, hnumber⟩
      · exact .inl ⟨_, Flight.receive_running.mpr ⟨job, hrun, rfl⟩,
          (Store.InFlight.answered_number ..).trans hnumber⟩
      · exact .inr ⟨_, Flight.receive_running.mpr ⟨job, hrun, rfl⟩,
          (Store.InFlight.answered_number ..).trans hnumber⟩
    · obtain ⟨old, hold, rfl⟩ := Flight.receive_running.mp hrun
      obtain ⟨hother, hne⟩ := List.mem_filter.mp hother
      rw [Store.InFlight.answered_number]
      by_cases hmine : parcel.number = old.exchange.number
      · rw [← hmine]
        simpa using hne
      · refine h.got hold ?_ other hother
        simpa [Store.InFlight.answered, Store.Exchange.answered, Ne.symm hmine] using hcame
    · obtain ⟨old, hold, rfl⟩ := Flight.receive_running.mp hrun
      exact h.busy hold

theorem serve (h : Awaited visitor) {before after : List Parcel} {parcel : Parcel}
    (hsplit : visitor.parcels = before ++ parcel :: after) (response : Response) :
    Awaited { visitor with
      parcels := before ++ { parcel with response := some response } :: after } := by
  obtain ⟨hdistinct, hexpected, hgot, hbusy⟩ := h
  rw [hsplit] at hdistinct hexpected hgot
  refine ⟨?_, forall_mem_middle hexpected id, fun hrun hcame => forall_mem_middle (hgot hrun hcame) id,
    hbusy⟩
  simpa using hdistinct

end Awaited

end BlogDesk.Network
