import BlogDesk.Proofs.Listing
import BlogDesk.Proofs.Store.Landings

/-!
# A creation taken back

Once a blog was created and its slug deleted, the list is what it would be had only its
blogs of that slug been taken out. If it was in order and had none, it is the list from
before: deleting leaves the places of the others alone, also among blogs of one name.
-/

namespace BlogDesk.Store

def Observation.tellsMade (ticket : Nat) : Observation → Bool
  | .finish ended (.edit (.ok ())) => ended == ticket
  | _ => false

theorem Observation.tellsMade_iff {ticket : Nat} {seen : Observation} :
    seen.tellsMade ticket ↔ seen = .finish ticket (.edit (.ok ())) := by
  unfold tellsMade
  split <;> simp_all

/-- From the turn of an edit to the store in which it has just ended well. No epoch began on
the way. -/
inductive Succeeds (edit : Edit) (store : Store) : Store → Prop
  | intro {ticket : Nat} {later : List (Waiting BlogAction)} {middle : List Event}
      (hrun : store.blogs.running = none)
      (hwait : store.blogs.waiting = ⟨ticket, .change edit⟩ :: later)
      (hflies : ∀ seen ∈ ((store.step (.resume .blogs)).run middle).log, ¬ seen.ends ticket)
      (hmade : ∃ seen ∈ ((store.step (.resume .blogs)).run (middle ++ [.resume .blogs])).log,
        seen.tellsMade ticket)
      (hepoch : ((store.step (.resume .blogs)).run (middle ++ [.resume .blogs])).epoch = store.epoch) :
    Succeeds edit store ((store.step (.resume .blogs)).run (middle ++ [.resume .blogs]))

theorem BlogStage.shown_of_made {edit : Edit} {epoch : Nat} {list : List Blog} {reception : Reception}
    (h : (editing edit epoch list).result reception = .edit (.ok ())) :
    (editing edit epoch list).shown reception = .loaded (sortBlogs (edit.apply list)) := by
  simp only [result, shown] at h ⊢
  split at h
  · rfl
  · cases h

section
variable {begun : Store} {job : InFlight BlogStage}

theorem Landed.ended {events middle : List Event} {reception : Reception}
    (h : Landed begun events job middle reception) :
    .finish job.ticket (job.stage.result reception) ∈
      (begun.run (middle ++ [.resume .blogs])).log := by
  rw [h.lands]
  simp [landed, landing]

/-- An action that ends no sooner than in the last turn ends in that. -/
theorem Landed.middle_eq {events middle : List Event} {reception : Reception}
    (h : Landed begun (events ++ [.resume .blogs]) job middle reception)
    (hflies : ∀ seen ∈ (begun.run events).log, ¬ seen.ends job.ticket) : middle = events := by
  obtain ⟨rest, hrest⟩ := h.split
  cases rest using List.reverseRecOn with
  | nil => exact (List.append_inj_left' hrest rfl).symm
  | append_singleton rest last =>
    rw [← List.cons_append, ← List.append_assoc] at hrest
    have hevents : events = middle ++ [.resume .blogs] ++ rest := by
      simpa using List.append_inj_left' hrest rfl
    have hended : .finish job.ticket (job.stage.result reception) ∈ (begun.run events).log := by
      rw [hevents, run_append]
      exact (run_log _ rest).mem h.ended
    exact absurd (beq_self_eq_true job.ticket) (hflies _ hended)

end

theorem Succeeds.reachable {edit : Edit} {store next : Store} (h : Succeeds edit store next)
    (hreach : Reachable store) : Reachable next := by
  cases h with
  | intro hrun hwait hflies hmade hepoch => exact (hreach.step _).run _

theorem Succeeds.list {edit : Edit} {store next : Store} (h : Succeeds edit store next)
    (hreach : Reachable store) {list : List Blog} (hlist : store.state.blogs = .loaded list) :
    next.state.blogs = .loaded (sortBlogs (edit.apply list)) := by
  cases h with
  | @intro ticket later middle hrun hwait hflies hmade hepoch =>
    have hstage : BlogStage.Begins store (.change edit) (.editing edit store.epoch list)
        edit.operation := .change hlist
    have hturn : store.step (.resume .blogs) = _ := resumeBlogs_departs hrun hwait hstage
    rw [hturn] at hflies hmade hepoch ⊢
    obtain ⟨seen, hin, hseen⟩ := hmade
    rw [Observation.tellsMade_iff.mp hseen] at hin
    have htold := mem_seenOf.mpr ⟨hin, rfl⟩
    obtain ⟨hdeparted, hair | ⟨before, reception, hlanded⟩⟩ :=
      departed_flies hreach hrun hwait hstage (middle ++ [.resume .blogs])
    · rw [hair.seen, hdeparted] at htold
      simp [departure] at htold
    · obtain rfl := hlanded.middle_eq hflies
      rw [hlanded.seen, hdeparted, List.mem_append, finish_mem_landing] at htold
      have hresult : (BlogStage.editing edit store.epoch list).result reception = .edit (.ok ()) :=
        (htold.resolve_left (by simp [departure])).symm
      rw [hlanded.lands, landed_epoch] at hepoch
      rw [hlanded.lands]
      exact (landed_blogs_of_epoch_eq hepoch).trans (BlogStage.shown_of_made hresult)

-- ---- The result

/-- What a creation and then a deletion of its slug leave is the list less that slug, in
order; so they leave a list that was in order and had no such blog as it was. -/
theorem delete_undoes_create {start created deleted : Store} (hreach : Reachable start)
    {list : List Blog} (hlist : start.state.blogs = .loaded list) {blog : Blog}
    (hcreate : Succeeds (.create blog) start created) {between : List Event}
    (hbetween : (created.run between).state.blogs = created.state.blogs)
    (hdelete : Succeeds (.delete blog.slug) (created.run between) deleted) :
    deleted.state.blogs = .loaded (sortBlogs (list.filter (·.slug ≠ blog.slug))) ∧
    ((list.Pairwise fun a b => a.precedes b = true) → (∀ other ∈ list, other.slug ≠ blog.slug) →
      deleted.state.blogs = .loaded list) := by
  have hcreated := hcreate.list hreach hlist
  have hleft : deleted.state.blogs = .loaded (sortBlogs (list.filter (·.slug ≠ blog.slug))) := by
    rw [hdelete.list ((hcreate.reachable hreach).run between) (hbetween.trans hcreated)]
    -- Sorting twice is sorting once, also with the blogs of the slug taken out in between.
    simp [Edit.apply, sortBlogs_filter_sortBlogs]
  refine ⟨hleft, fun hordered hother => ?_⟩
  rw [hleft, List.filter_eq_self.mpr (by simpa using hother), sortBlogs_of_ordered hordered]

deriving instance DecidableEq for Waiting

def namesakes : List Blog := [{ slug := "z", displayName := some "Notes" },
  { slug := "a", displayName := some "Notes" }]

/-- Over that list a third of the name is to be created, and then deleted. -/
def createAndDelete : List Event :=
  [.setBlogs (.loaded namesakes),
    .start (.blogs (.change (.create { slug := "m", displayName := some "Notes" }))),
    .start (.blogs (.change (.delete "m")))]

theorem delete_undoes_create_namesakes :
    let taken (number : Nat) : Event := .receive number
      (.ok { status := 200, body := "\x7b\"id\":\"1\",\"result\":null,\"error\":null\x7d" })
    let start := (ofSettings {}).run createAndDelete
    let created := (start.step (.resume .blogs)).run ([taken 0] ++ [.resume .blogs])
    let deleted := (created.step (.resume .blogs)).run ([taken 1] ++ [.resume .blogs])
    Succeeds (.create { slug := "m", displayName := some "Notes" }) start created ∧
    Succeeds (.delete "m") (created.run []) deleted ∧ deleted.state.blogs = .loaded namesakes := by
  intro taken start created deleted
  have hfirst : start.blogs.waiting =
      ⟨0, .change (.create { slug := "m", displayName := some "Notes" })⟩ ::
        [⟨1, .change (.delete "m")⟩] := by
    decide +kernel
  have hsecond : created.blogs.waiting = ⟨1, .change (.delete "m")⟩ :: [] := by decide +kernel
  have hidle : created.blogs.running.isNone := by decide +kernel
  have hcreate : Succeeds (.create { slug := "m", displayName := some "Notes" }) start created :=
    .intro rfl hfirst (by decide +kernel) (by decide +kernel) (by decide +kernel)
  have hdelete : Succeeds (.delete "m") (created.run []) deleted := by
    rw [run_nil]
    exact .intro (Option.isNone_iff_eq_none.mp hidle) hsecond (by decide +kernel) (by decide +kernel)
      (by decide +kernel)
  have hbetween : (created.run []).state.blogs = created.state.blogs := by rw [run_nil]
  have hreach : Reachable start := .run_ofSettings {} createAndDelete
  have hlist : start.state.blogs = .loaded namesakes := rfl
  have hordered : namesakes.Pairwise fun a b => a.precedes b = true := by
    simp [namesakes, Blog.precedes_iff, Blog.name, Std.ReflCmp.compare_self]
  refine ⟨hcreate, hdelete, ?_⟩
  exact (delete_undoes_create hreach hlist hcreate hbetween hdelete).2 hordered (by decide)

end BlogDesk.Store
