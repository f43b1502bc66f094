import BlogDesk.Proofs.Store.Tickets

/-!
# Epochs and who is loaded in them

A step commits at most once. From what that commit may be follows that two users
loaded in one epoch have one username, and that an action on the blogs commits in
one epoch only, the one that its first commit was made in.
-/

namespace BlogDesk.Store

-- ---- The commit of a step

/-- What a step commits. `ticket` is of the action that does, and nothing for the host. -/
inductive Committed (store next : Store) : Prop
  | nothing (hstate : next.state = store.state) (hepoch : next.epoch = store.epoch)
      (hlog : ∀ {ticket epoch state}, .commit ticket epoch state ∈ next.log ↔
        .commit ticket epoch state ∈ store.log)
  | user (ticket : Option Nat) (user : Loadable User)
      (hstate : next.state = stateWith store.state user)
      (hepoch : next.epoch = store.epochWith user)
      (hlog : ∀ {other epoch state}, .commit other epoch state ∈ next.log ↔
        (other = ticket ∧ epoch = next.epoch ∧ state = next.state) ∨
          .commit other epoch state ∈ store.log)
  | blogs (ticket : Option Nat) (blogs : Loadable (List Blog))
      (hstate : next.state = { store.state with blogs }) (hepoch : next.epoch = store.epoch)
      (hlog : ∀ {other epoch state}, .commit other epoch state ∈ next.log ↔
        (other = ticket ∧ epoch = next.epoch ∧ state = next.state) ∨
          .commit other epoch state ∈ store.log)

theorem UserTurn.committed {store next : Store} {ticket : Nat}
    {came : Option (UserStage × Reception)} (ready : Flight UserAction UserStage)
    (turn : UserTurn { store with users := ready } ticket came next) : Committed store next := by
  cases turn with
  | request hrequest => exact .user (some ticket) .loading rfl rfl (by simp)
  | @finish user _ hloading hloaded => exact .user (some ticket) user rfl rfl (by simp)

theorem UserResume.committed {store next : Store} (turn : UserResume store next) :
    Committed store next := by
  cases turn with
  | idle => exact .nothing rfl rfl Iff.rfl
  | begins hrun hwait turn => exact UserTurn.committed _ turn
  | continues hrun hcame turn => exact UserTurn.committed store.users turn

theorem BlogResume.committed {store next : Store} (turn : BlogResume store next) :
    Committed store next := by
  cases turn with
  | idle => exact .nothing rfl rfl Iff.rfl
  | @begins first _ _ _ hrun hwait hstage =>
    exact .blogs (some first.ticket) .loading rfl rfl (by simp)
  | refuses hrun hwait haction hlist => exact .nothing rfl rfl (by simp)
  | @ends job reception hrun hcame hepoch =>
    exact .blogs (some job.ticket) (job.stage.shown reception) rfl rfl (by simp)
  | drops hrun hcame hepoch => exact .nothing rfl rfl (by simp)

theorem step_committed (store : Store) (event : Event) : Committed store (store.step event) := by
  cases event with
  | setUser user =>
    simp only [step, commitUser_eq]
    exact .user none user rfl rfl (by simp)
  | setBlogs blogs => exact .blogs none blogs rfl rfl (by simp [step, commitBlogs, observe])
  | start action => cases action <;> exact .nothing rfl rfl Iff.rfl
  | receive number reception => exact .nothing rfl rfl Iff.rfl
  | pass milliseconds => exact .nothing rfl rfl Iff.rfl
  | resume slice =>
    cases slice with
    | user => exact (resumeUser_turn store).committed
    | blogs => exact (resumeBlogs_turn store).committed

namespace Committed

variable {store next : Store}

theorem epoch_le (h : Committed store next) : store.epoch ≤ next.epoch := by
  cases h with
  | nothing hstate hepoch hlog => omega
  | user _ _ hstate hepoch hlog => exact hepoch ▸ epoch_le_epochWith ..
  | blogs _ _ hstate hepoch hlog => omega

theorem mem (h : Committed store next) {ticket : Option Nat} {epoch : Nat} {state : State}
    (hin : .commit ticket epoch state ∈ store.log) : .commit ticket epoch state ∈ next.log := by
  cases h with
  | nothing hstate hepoch hlog => exact hlog.mpr hin
  | user _ _ hstate hepoch hlog => exact hlog.mpr (.inr hin)
  | blogs _ _ hstate hepoch hlog => exact hlog.mpr (.inr hin)

theorem blogs_of_epoch_ne (h : Committed store next) (hne : next.epoch ≠ store.epoch) :
    next.state.blogs = .uninitialized := by
  cases h with
  | nothing hstate hepoch hlog => exact absurd hepoch hne
  | user _ _ hstate hepoch hlog => rw [hstate, stateWith_of_epoch_ne (hepoch ▸ hne)]
  | blogs _ _ hstate hepoch hlog => exact absurd hepoch hne

end Committed

theorem epoch_le_step (store : Store) (event : Event) : store.epoch ≤ (store.step event).epoch :=
  (step_committed store event).epoch_le

theorem epoch_le_run (store : Store) (events : List Event) :
    store.epoch ≤ (store.run events).epoch :=
  run_keeps (P := fun next => store.epoch ≤ next.epoch)
    (fun next event h => Nat.le_trans h (epoch_le_step next event)) (Nat.le_refl _) events

-- ---- The list within an epoch

theorem UserTurn.list_eq {store next : Store} {ticket : Nat} {came : Option (UserStage × Reception)}
    (turn : UserTurn store ticket came next) (hepoch : next.epoch = store.epoch) :
    next.state.blogs = store.state.blogs := by
  cases turn with
  | request hrequest =>
    simp only at hepoch
    omega
  | finish hloading hloaded => rw [stateWith_of_epoch_eq hepoch]

theorem UserResume.list_eq {store next : Store} (turn : UserResume store next)
    (hepoch : next.epoch = store.epoch) : next.state.blogs = store.state.blogs := by
  cases turn with
  | idle => rfl
  | begins hrun hwait turn => exact turn.list_eq hepoch
  | continues hrun hcame turn => exact turn.list_eq hepoch

/-- Only the host and the turns of its slice touch the list while the epoch lasts. -/
theorem step_list (store : Store) {event : Event} (hblogs : event ≠ .resume .blogs)
    (hhost : ∀ blogs, event ≠ .setBlogs blogs)
    (hepoch : (store.step event).epoch = store.epoch) :
    (store.step event).state.blogs = store.state.blogs := by
  cases event with
  | setUser user =>
    rw [step, commitUser_eq] at hepoch ⊢
    rw [stateWith_of_epoch_eq hepoch]
  | setBlogs blogs => exact absurd rfl (hhost blogs)
  | start action => cases action <;> rfl
  | receive number reception => rfl
  | pass milliseconds => rfl
  | resume slice =>
    cases slice with
    | user => exact (resumeUser_turn store).list_eq hepoch
    | blogs => exact absurd rfl hblogs

-- ---- One username in an epoch

structure OneUser (store : Store) : Prop where
  latest : store.state = {} ∨ ∃ ticket, .commit ticket store.epoch store.state ∈ store.log
  epoch_le : ∀ {ticket epoch state}, .commit ticket epoch state ∈ store.log → epoch ≤ store.epoch
  /-- Once one is loaded in this epoch, somebody of that username stays loaded. -/
  loaded : ∀ {ticket state user}, .commit ticket store.epoch state ∈ store.log →
    state.user = .loaded user →
    ∃ present, store.state.user = .loaded present ∧ present.username = user.username
  same : ∀ {first second epoch before after user other}, .commit first epoch before ∈ store.log →
    .commit second epoch after ∈ store.log → before.user = .loaded user →
    after.user = .loaded other → user.username = other.username

namespace OneUser

variable {store next : Store}

theorem within (h : OneUser store) {ticket : Option Nat} (hepoch : next.epoch = store.epoch)
    (hlog : ∀ {other epoch state}, .commit other epoch state ∈ next.log ↔
      (other = ticket ∧ epoch = next.epoch ∧ state = next.state) ∨
        .commit other epoch state ∈ store.log)
    (hstays : ∀ {user}, store.state.user = .loaded user →
      ∃ present, next.state.user = .loaded present ∧ present.username = user.username) :
    OneUser next := by
  -- Whoever was loaded in this epoch has the username of whoever is loaded now.
  have hpresent : ∀ {other state user}, .commit other store.epoch state ∈ store.log →
      state.user = .loaded user → ∃ present, next.state.user = .loaded present ∧
        present.username = user.username := by
    intro other state user hin huser
    obtain ⟨current, hcurrent, hname⟩ := h.loaded hin huser
    obtain ⟨present, hpresent, hname'⟩ := hstays hcurrent
    exact ⟨present, hpresent, hname'.trans hname⟩
  refine ⟨.inr ⟨ticket, hlog.mpr (.inl ⟨rfl, rfl, rfl⟩)⟩, ?_, ?_, ?_⟩
  · intro other epoch state hin
    rcases hlog.mp hin with ⟨-, rfl, -⟩ | hin
    · exact Nat.le_refl _
    · exact hepoch ▸ h.epoch_le hin
  · intro other state user hin huser
    rcases hlog.mp hin with ⟨-, -, rfl⟩ | hin
    · exact ⟨user, huser, rfl⟩
    · exact hpresent (hepoch ▸ hin) huser
  · intro first second epoch before after user other hfirst hsecond hbefore hafter
    obtain ⟨-, rfl, rfl⟩ | hfirst := hlog.mp hfirst <;>
      rcases hlog.mp hsecond with ⟨-, hsame, rfl⟩ | hsecond
    · rw [hbefore] at hafter
      cases hafter
      rfl
    · obtain ⟨present, hnow, hname⟩ := hpresent (hepoch ▸ hsecond) hafter
      rw [hbefore] at hnow
      cases hnow
      exact hname
    · obtain ⟨present, hnow, hname⟩ := hpresent (hepoch ▸ hsame ▸ hfirst) hbefore
      rw [hafter] at hnow
      cases hnow
      exact hname.symm
    · exact h.same hfirst hsecond hbefore hafter

theorem beyond (h : OneUser store) {ticket : Option Nat} (hepoch : next.epoch = store.epoch + 1)
    (hlog : ∀ {other epoch state}, .commit other epoch state ∈ next.log ↔
      (other = ticket ∧ epoch = next.epoch ∧ state = next.state) ∨
        .commit other epoch state ∈ store.log) : OneUser next := by
  have hnew : ∀ {other state}, .commit other next.epoch state ∈ next.log → state = next.state := by
    intro other state hin
    rcases hlog.mp hin with ⟨-, -, rfl⟩ | hin
    · rfl
    · have := h.epoch_le hin
      omega
  refine ⟨.inr ⟨ticket, hlog.mpr (.inl ⟨rfl, rfl, rfl⟩)⟩, ?_, ?_, ?_⟩
  · intro other epoch state hin
    rcases hlog.mp hin with ⟨-, rfl, -⟩ | hin
    · exact Nat.le_refl _
    · have := h.epoch_le hin
      omega
  · intro other state user hin huser
    exact ⟨user, hnew hin ▸ huser, rfl⟩
  · intro first second epoch before after user other hfirst hsecond hbefore hafter
    by_cases he : epoch = next.epoch
    · subst he
      rw [hnew hfirst] at hbefore
      rw [hnew hsecond, hbefore] at hafter
      cases hafter
      rfl
    · have hold : ∀ {ticket state}, .commit ticket epoch state ∈ next.log →
          .commit ticket epoch state ∈ store.log := by
        intro ticket state hin
        rcases hlog.mp hin with ⟨-, hin, -⟩ | hin
        · exact absurd hin he
        · exact hin
      exact h.same (hold hfirst) (hold hsecond) hbefore hafter

theorem keeps (h : OneUser store) (hnext : Committed store next) : OneUser next := by
  cases hnext with
  | nothing hstate hepoch hlog =>
    refine ⟨?_, ?_, ?_, ?_⟩
    · simpa [hstate, hepoch, hlog] using h.latest
    · intro ticket epoch state hin
      exact hepoch ▸ h.epoch_le (hlog.mp hin)
    · intro ticket state user hin huser
      exact hstate ▸ h.loaded (hepoch ▸ hlog.mp hin) huser
    · intro first second epoch before after user other hfirst hsecond
      exact h.same (hlog.mp hfirst) (hlog.mp hsecond)
  | user ticket user hstate hepoch hlog =>
    by_cases he : store.epochWith user = store.epoch
    · obtain ⟨loaded, rfl, hname⟩ := loaded_of_epoch_eq he
      refine h.within (hepoch.trans he) hlog (fun {current} hcurrent => ?_)
      exact ⟨loaded, by simp [hstate], hname current hcurrent⟩
    · refine h.beyond ?_ hlog
      unfold epochWith at he hepoch
      split at he
      · rename_i hc
        rw [hepoch, if_pos hc]
      · exact absurd rfl he
  | blogs _ _ hstate hepoch hlog =>
    exact h.within hepoch hlog (fun {user} huser => ⟨user, by simp [hstate, huser], rfl⟩)

theorem initial (settings : Settings) : OneUser (ofSettings settings) :=
  ⟨.inl rfl, nofun, nofun, nofun⟩

theorem step (h : OneUser store) (event : Event) : OneUser (store.step event) :=
  h.keeps (step_committed store event)

end OneUser

theorem run_oneUser (settings : Settings) (events : List Event) :
    OneUser ((ofSettings settings).run events) :=
  run_keeps (fun _ event h => h.step event) (.initial settings) events

theorem Reachable.oneUser {store : Store} (h : Reachable store) : OneUser store := by
  obtain ⟨settings, events, rfl⟩ := h
  exact run_oneUser settings events

end BlogDesk.Store
