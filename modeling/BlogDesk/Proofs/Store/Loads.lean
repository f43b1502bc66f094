import BlogDesk.Proofs.Store.Courses
import BlogDesk.Proofs.Store.Landings

/-!
# What a load shows

A load asks for the list once, at its turn, and shows what was answered: the blogs in the
order they were listed in, none for null, or else the failure. `load_returned` finds that
turn in any run in which the load has ended.
-/

namespace BlogDesk.Store

-- ---- What an answer lists

inductive Listed (reception : Reception) : Loadable (List Blog) → Result → Prop
  | nothing (hnull : reception.bind (·.callResult Method.listBlogs.name) = .ok .null) :
    Listed reception (.loaded []) (.load (.ok ()))
  | blogs {items : List Json} {list : List Blog}
      (hitems : reception.bind (·.callResult Method.listBlogs.name) = .ok (.array items))
      (hlist : List.Forall₂ (fun item blog => Blog.layout.ofJson item = .ok blog) items list) :
    Listed reception (.loaded list) (.load (.ok ()))
  | failed {cause : CallFailure} (hfailed : reception.bind Response.blogs? = .error cause) :
    Listed reception (.error cause.message) (.load (.error cause))

theorem forall₂_of_mapM {α β ε : Type} {f : α → Except ε β} {items : List α} {list : List β}
    (h : items.mapM f = .ok list) : List.Forall₂ (fun item b => f item = .ok b) items list := by
  induction items generalizing list with
  | nil =>
    cases h
    exact .nil
  | cons item rest ih =>
    rw [List.mapM_cons] at h
    cases hitem : f item with
    | error cause =>
      rw [hitem] at h
      cases h
    | ok b =>
      cases hrest : rest.mapM f with
      | error cause =>
        rw [hitem, hrest] at h
        cases h
      | ok more =>
        rw [hitem, hrest] at h
        cases h
        exact .cons hitem (ih hrest)

theorem listed_of_optionalBlogs {reception : Reception} {json : Json} {list : Option (List Blog)}
    (hjson : reception.bind (·.callResult Method.listBlogs.name) = .ok json)
    (h : Response.optionalBlogs json = .ok list) :
    Listed reception (.loaded (list.getD [])) (.load (.ok ())) := by
  cases json with
  | null =>
    cases h
    exact .nothing hjson
  | array items =>
    cases hitems : items.mapM Blog.layout.ofJson with
    | error cause =>
      simp only [Response.optionalBlogs, Json.Layout.listOfJson, hitems] at h
      cases h
    | ok blogs =>
      simp only [Response.optionalBlogs, Json.Layout.listOfJson, hitems] at h
      cases h
      exact .blogs hjson (forall₂_of_mapM hitems)
  | _ => cases h

theorem listed_of_blogs {reception : Reception} {list : Option (List Blog)}
    (h : reception.bind Response.blogs? = .ok list) :
    Listed reception (.loaded (list.getD [])) (.load (.ok ())) := by
  cases reception with
  | error cause => cases h
  | ok response =>
    simp only [Except.bind, Response.blogs?, Response.callResultAs] at h
    cases hresult : response.callResult Method.listBlogs.name with
    | error cause =>
      rw [hresult] at h
      cases h
    | ok json =>
      rw [hresult] at h
      cases hread : Response.optionalBlogs json with
      | error cause => simp [bind, Except.bind, hread] at h
      | ok blogs =>
        simp only [bind, Except.bind, hread] at h
        cases h
        exact listed_of_optionalBlogs hresult hread

theorem BlogStage.listed (reception : Reception) (epoch : Nat) :
    Listed reception ((listing epoch).shown reception) ((listing epoch).result reception) := by
  simp only [shown, result]
  split
  · rename_i list hlist
    exact listed_of_blogs hlist
  · rename_i cause hfailed
    exact .failed hfailed

-- ---- The turn of an action

theorem answer?_append (number : Nat) (store : Store) (first rest : List Event) :
    store.answer? number (first ++ rest) =
      (store.answer? number first).or ((store.run first).answer? number rest) := by
  induction first generalizing store with
  | nil => simp [answer?]
  | cons event first ih => rw [List.cons_append, answer?, answer?, ih, Option.or_assoc, run_cons]

/-- At its turn `first` is over, and the action on the blogs has the slice to itself. -/
structure TurnOf (start : Store) (first : List Event) (ticket : Nat) (action : BlogAction) : Prop where
  running : (start.run first).blogs.running = none
  waiting : ∃ later, (start.run first).blogs.waiting = ⟨ticket, action⟩ :: later

theorem turn_of_unseen (settings : Settings) {events : List Event} {ticket : Nat} {action : BlogAction}
    (haction : (actionsOf events)[ticket]? = some (.blogs action))
    (hnothing : seenOf ticket ((ofSettings settings).run events) = []) {slice : Slice}
    (hhead : (((ofSettings settings).run events).lane slice).tickets.head? = some ticket) :
    slice = .blogs ∧ TurnOf (ofSettings settings) events ticket action := by
  have htickets := run_tickets settings events
  obtain rfl : slice = .blogs := htickets.slice_of_mem haction (List.mem_of_mem_head? hhead)
  rw [Store.lane, Flight.tickets_map] at hhead
  refine ⟨rfl, ?_⟩
  cases hrun : ((ofSettings settings).run events).blogs.running with
  | some job =>
    -- An action in flight was seen to begin.
    obtain ⟨user, hbegan⟩ := ((run_recorded settings events).began job hrun).2
    rw [Flight.tickets_of_running hrun, List.head?_cons] at hhead
    have hin := mem_seenOf.mpr ⟨hbegan, hhead⟩
    rw [hnothing] at hin
    cases hin
  | none =>
    cases hwait : ((ofSettings settings).run events).blogs.waiting with
    | nil => simp [Flight.tickets, hrun, hwait] at hhead
    | cons next later =>
      rw [Flight.tickets_of_waiting hrun hwait, List.head?_cons] at hhead
      obtain rfl := Option.some.inj hhead
      have hnext := htickets.blogWaiting next (by simp [hwait])
      cases haction.symm.trans hnext
      exact ⟨hrun, later, hwait⟩

theorem turn_of_seen (settings : Settings) {events : List Event} {ticket : Nat} {action : BlogAction}
    (haction : (actionsOf events)[ticket]? = some (.blogs action))
    (hseen : seenOf ticket ((ofSettings settings).run events) ≠ []) :
    ∃ first rest, events = first ++ .resume .blogs :: rest ∧
      TurnOf (ofSettings settings) first ticket action := by
  induction events using List.reverseRecOn with
  | nil => exact absurd rfl hseen
  | append_singleton first event ih =>
    rw [run_concat] at hseen
    by_cases hnothing : seenOf ticket ((ofSettings settings).run first) = []
    · obtain ⟨slice, rfl, hhead⟩ := resume_of_seenOf_ne (hnothing ▸ hseen)
      rw [InTurn.actionsOf_resume] at haction
      obtain ⟨rfl, hturn⟩ := turn_of_unseen settings haction hnothing hhead
      exact ⟨first, [], rfl, hturn⟩
    · obtain ⟨seen, hmem⟩ := List.exists_mem_of_ne_nil _ hnothing
      obtain ⟨hin, hticket⟩ := mem_seenOf.mp hmem
      have hlt := ((run_tickets settings first).seen seen hin ticket hticket).1
      rw [actionsOf_concat, List.getElem?_append_left hlt] at haction
      obtain ⟨before, rest, rfl, hturn⟩ := ih haction hnothing
      exact ⟨before, rest ++ [event], by simp, hturn⟩

/-- A load that ended: its turn came after `first`, and the answer to its request before the
turn at which it returned. What it made of the answer is committed if the epoch lasts. -/
inductive LoadReturned (start : Store) (events : List Event) (ticket : Nat) (result : Result) : Prop
  | intro {first middle rest : List Event} {reception : Reception} {blogs : Loadable (List Blog)}
      (hevents : events = first ++ .resume .blogs :: (middle ++ .resume .blogs :: rest))
      (hanswer : start.answer? (start.run first).requested (first ++ .resume .blogs :: middle) =
        some reception)
      (hlisted : Listed reception blogs result)
      (hlands : start.run (first ++ .resume .blogs :: (middle ++ [.resume .blogs])) =
        (start.run (first ++ .resume .blogs :: middle)).landed ticket (start.run first).epoch blogs
          result)
      (hseen : seenOf ticket (start.run events) =
        (start.run first).departure ticket (.listing (start.run first).epoch) ++
          (start.run (first ++ .resume .blogs :: middle)).landing ticket (start.run first).epoch
            blogs result) :
    LoadReturned start events ticket result

theorem load_returned (settings : Settings) {events : List Event} {ticket : Nat} {result : Result}
    (haction : (actionsOf events)[ticket]? = some (.blogs .load))
    (hended : .finish ticket result ∈ ((ofSettings settings).run events).log) :
    LoadReturned (ofSettings settings) events ticket result := by
  have htold := mem_seenOf.mpr ⟨hended, rfl⟩
  obtain ⟨first, rest, rfl, hrun, later, hwait⟩ :=
    turn_of_seen settings haction (List.ne_nil_of_mem htold)
  have hreach := Reachable.run_ofSettings settings first
  have hturn : ((ofSettings settings).run first).step (.resume .blogs) = _ :=
    resumeBlogs_departs hrun hwait .load
  obtain ⟨hdeparted, hflight⟩ := departed_flies hreach hrun hwait .load rest
  rw [← hturn] at hdeparted hflight
  have hruns : ∀ events, (((ofSettings settings).run first).step (.resume .blogs)).run events =
      (ofSettings settings).run (first ++ .resume .blogs :: events) := by
    intro events
    rw [run_append, run_cons]
  rcases hflight with hair | ⟨middle, reception, hlanded⟩
  · rw [← hruns, hair.seen, hdeparted] at htold
    simp [departure] at htold
  · obtain ⟨after, rfl⟩ := hlanded.split
    have hseen := hlanded.seen
    have hlands := hlanded.lands
    have hanswer := hlanded.answer
    simp only [hruns, hdeparted] at hseen hlands
    rw [hseen, List.mem_append, finish_mem_landing] at htold
    obtain rfl := htold.resolve_left (by simp [departure])
    -- Nothing is answered to the request before it is made.
    have hcame : (ofSettings settings).answer? ((ofSettings settings).run first).requested
        (first ++ .resume .blogs :: middle) = some reception := by
      rw [List.append_cons, answer?_append, answer?_resume, answer?_eq_none (Nat.le_refl _),
        Option.none_or, run_concat, hanswer]
    exact .intro rfl hcame (BlogStage.listed ..) hlands hseen

end BlogDesk.Store
