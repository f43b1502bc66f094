import BlogDesk.Route
import BlogDesk.Proofs.Server.Operations
import BlogDesk.Proofs.Text

/-!
# Paths lead to routes

Slashes at the end of a path do not count, and what is left of it spells at most one
route. The path of a route that was found is that spelling again, so a visitor whom the
login page holds up gets there afterwards. Not so with blogs whose slugs have a slash:
the service keeps them like any other, and no path leads to them.
-/

namespace BlogDesk

/-- Slugs under which the service stores blogs. -/
inductive Server.Backend.SlugStored (slug : String) : Prop
  | created {backend after : Backend} {session : Option String} {displayName : Option String}
      (h : backend.createBlog session ⟨slug, displayName⟩ = .ok after)
  | updated {backend after : Backend} {session : Option String} {displayName : Option String}
      (h : backend.updateBlog session ⟨slug, displayName⟩ = .ok after)

theorem Server.Backend.slugStored_iff {slug : String} : SlugStored slug ↔ slug ≠ "" := by
  constructor
  · rintro (h | h)
    · exact (createBlog_eq_ok.mp h).1
    · exact (updateBlog_eq_ok.mp h).1
  · intro hslug
    have hstored : Backend.updateBlog { accounts := [("ada", ⟨"pw", none, []⟩)] } (some "ada")
        ⟨slug, none⟩ = .ok _ := updateBlog_eq_ok.mpr ⟨hslug, "ada", _, rfl, rfl, rfl⟩
    exact .updated hstored

def slashes (n : Nat) : String := String.ofList (List.replicate n '/')

namespace Route

/-- What is left of a path without the slashes at its end. -/
structure IsStem (stem path : String) : Prop where
  followed : ∃ n, path = stem ++ slashes n
  bare : stem.toList.getLast? ≠ some '/'

structure IsSegment (text : String) : Prop where
  ne_empty : text ≠ ""
  no_slash : '/' ∉ text.toList

/-- How routes are spelled, without slashes at the end. -/
inductive Spells : String → Route → Prop
  | home : Spells "" .home
  | login : Spells "/login" (.login none)
  | register : Spells "/register" .register
  | createBlog : Spells "/create" .createBlog
  | editBlog {slug : String} (hslug : IsSegment slug) : Spells ("/edit/" ++ slug) (.editBlog slug)

variable {stem path slug : String} {route : Route}

-- ---- Stems

def stemOf (path : String) : String := String.ofList (Text.dropTrailing '/' path.toList)

theorem isStem_iff : IsStem stem path ↔ stem = stemOf path := by
  rw [stemOf, ← String.toList_inj, String.toList_ofList, eq_comm, Text.dropTrailing_eq_iff]
  constructor
  · rintro ⟨⟨n, rfl⟩, hbare⟩
    exact ⟨⟨n, by simp [slashes]⟩, hbare⟩
  · rintro ⟨⟨n, hpath⟩, hbare⟩
    exact ⟨⟨n, by simp [← String.toList_inj, hpath, slashes]⟩, hbare⟩

theorem stemOf_append_slashes (path : String) (n : Nat) : stemOf (path ++ slashes n) = stemOf path := by
  rw [stemOf, String.toList_append, slashes, String.toList_ofList,
    Text.dropTrailing_append_replicate, stemOf]

-- ---- Reading a path

theorem editedSlug?_eq_some_iff {path slug : List Char} :
    editedSlug? path = some slug ↔ path = "/edit/".toList ++ slug ∧ slug ≠ [] ∧ '/' ∉ slug := by
  unfold editedSlug?
  split
  · rename_i hedit
    obtain ⟨rest, rfl⟩ := List.isPrefixOf_iff_prefix.mp hedit
    have hrest : ("/edit/".toList ++ rest).drop "/edit/".length = rest := List.drop_left
    simp only [hrest]
    grind
  · rename_i hedit
    simp only [reduceCtorEq, false_iff]
    rintro ⟨rfl, -⟩
    apply hedit
    exact List.isPrefixOf_iff_prefix.mpr (List.prefix_append ..)

/-- What a path leads to, by what is left of it. -/
theorem parse?_eq (path : String) : parse? path =
    if stemOf path = "" then some .home
    else if stemOf path = "/login" then some (.login none)
    else if stemOf path = "/register" then some .register
    else if stemOf path = "/create" then some .createBlog
    else (editedSlug? (stemOf path).toList).map fun slug => .editBlog (String.ofList slug) := by
  have hchars : (stemOf path).toList = Text.dropTrailing '/' path.toList := String.toList_ofList
  simp only [parse?, ← hchars, String.toList_inj, String.toList_eq_nil_iff]

theorem spells_of_parse? (h : parse? path = some route) : Spells (stemOf path) route := by
  rw [parse?_eq] at h
  generalize stemOf path = stem at h
  split at h
  · cases h
    subst stem
    exact .home
  split at h
  · cases h
    subst stem
    exact .login
  split at h
  · cases h
    subst stem
    exact .register
  split at h
  · cases h
    subst stem
    exact .createBlog
  · obtain ⟨slug, hslug, rfl⟩ := Option.map_eq_some_iff.mp h
    obtain ⟨hstem, hne, hslash⟩ := editedSlug?_eq_some_iff.mp hslug
    have hspelled : stem = "/edit/" ++ String.ofList slug := by
      simp [← String.toList_inj, hstem]
    rw [hspelled]
    exact .editBlog ⟨by simpa using hne, by simpa using hslash⟩

theorem parse?_of_spells (h : Spells (stemOf path) route) : parse? path = some route := by
  rw [parse?_eq]
  generalize stemOf path = stem at h
  cases h with
  | home => rfl
  | login => rfl
  | register => rfl
  | createBlog => rfl
  | editBlog hslug =>
    rename_i slug
    have hother {text : String} (h : ¬ "/edit/".toList <+: text.toList) : "/edit/" ++ slug ≠ text := by
      rintro rfl
      exact h ⟨slug.toList, String.toList_append.symm⟩
    have hfound : editedSlug? ("/edit/" ++ slug).toList = some slug.toList :=
      editedSlug?_eq_some_iff.mpr
        ⟨String.toList_append, by simpa using hslug.ne_empty, hslug.no_slash⟩
    rw [if_neg (hother (by decide)), if_neg (hother (by decide)), if_neg (hother (by decide)),
      if_neg (hother (by decide)), hfound, Option.map_some, String.ofList_toList]

theorem parse?_eq_some_iff : parse? path = some route ↔ Spells (stemOf path) route :=
  ⟨spells_of_parse?, parse?_of_spells⟩

-- ---- The path of a route

namespace Spells

theorem path_eq (h : Spells stem route) : route.path = if stem = "" then "/" else stem := by
  cases h with
  | editBlog hslug => rw [if_neg (by simp)]; rfl
  | _ => rfl

theorem bare (h : Spells stem route) : stem.toList.getLast? ≠ some '/' := by
  cases h with
  | editBlog hslug =>
    rename_i slug
    intro hlast
    have hne : slug.toList ≠ [] := by simpa using hslug.ne_empty
    rw [String.toList_append, List.getLast?_append_of_ne_nil _ hne] at hlast
    exact hslug.no_slash (List.mem_of_getLast? hlast)
  | _ => decide

theorem isSegment (h : Spells stem (.editBlog slug)) : IsSegment slug := by
  cases h with
  | editBlog hslug => exact hslug

theorem isStem_path (h : Spells stem route) : IsStem stem route.path := by
  refine ⟨?_, h.bare⟩
  rw [h.path_eq]
  split
  · rename_i hempty
    exact ⟨1, by rw [hempty]; rfl⟩
  · exact ⟨0, by simp [slashes]⟩

end Spells

theorem parse?_path (h : parse? path = some route) : parse? route.path = some route := by
  have hspells := spells_of_parse? h
  rwa [parse?_eq_some_iff, ← isStem_iff.mp hspells.isStem_path]

-- ---- The result

/-- A path leads to the route that is spelled by what is left of it without the slashes
at its end, and to none if that spells none; more slashes lead to the same. The route's
own path leads to it, and is what is left, or a single slash if nothing is. -/
theorem parse?_reads_spelling (path : String) : ∃ stem,
    (∀ other, IsStem other path ↔ other = stem) ∧
    (∀ route, parse? path = some route ↔ Spells stem route) ∧
    (∀ n, parse? (path ++ slashes n) = parse? path) ∧
    ∀ route, parse? path = some route →
      parse? route.path = some route ∧ route.path = if stem = "" then "/" else stem := by
  refine ⟨stemOf path, fun _ => isStem_iff, fun _ => parse?_eq_some_iff, fun n => ?_,
    fun route hroute => ⟨parse?_path hroute, (spells_of_parse? hroute).path_eq⟩⟩
  refine Option.ext fun route => ?_
  rw [parse?_eq_some_iff, parse?_eq_some_iff, stemOf_append_slashes]

-- ---- The way back from the login page

theorem guard_eq_redirect_iff {state : State} {target next : Route} :
    state.guard target = .redirect next ↔
      target.requiresLogin ∧ state.user.isLoaded = false ∧ next = .login (some target.path) := by
  unfold State.guard
  split <;> grind

theorem parse?_path_editBlog {found : Route} : parse? (editBlog slug).path = some found ↔
    ∃ other n, IsSegment other ∧ found = .editBlog other ∧ slug = other ++ slashes n := by
  rw [parse?_eq_some_iff]
  constructor
  · intro h
    obtain ⟨n, hpath⟩ := (isStem_iff.mpr (rfl : stemOf (editBlog slug).path = _)).followed
    -- Of the paths that spell routes, those that edit blogs go on with an `e`.
    have hsecond := congrArg (·.toList[1]?) hpath
    generalize stemOf (editBlog slug).path = stem at h hpath hsecond
    cases h with
    | editBlog hother =>
      rename_i other
      refine ⟨other, n, hother, rfl, ?_⟩
      rw [path, String.append_assoc] at hpath
      simpa [← String.toList_inj] using hpath
    | home => simp [path, slashes, List.getElem?_replicate] at hsecond
    | _ => simp [path] at hsecond
  · rintro ⟨other, n, hother, rfl, rfl⟩
    have hspells : Spells ("/edit/" ++ other) (.editBlog other) := .editBlog hother
    have hstem : IsStem ("/edit/" ++ other) (editBlog (other ++ slashes n)).path :=
      ⟨⟨n, by rw [path, String.append_assoc]⟩, hspells.bare⟩
    rwa [← isStem_iff.mp hstem]

/-- The routes that the console opens: those that paths lead to, and those that edit
the blogs that the service stores. -/
inductive Opened : Route → Prop
  | found {path : String} {route : Route} (h : parse? path = some route) : Opened route
  | stored {slug : String} (h : Server.Backend.SlugStored slug) : Opened (.editBlog slug)

theorem Opened.slug_ne_empty (h : Opened (.editBlog slug)) : slug ≠ "" := by
  cases h with
  | found h => exact (spells_of_parse? h).isSegment.ne_empty
  | stored h => exact Server.Backend.slugStored_iff.mp h

/-- The path that the login page remembers leads back to where the visitor was headed,
unless that was a blog with a slash in its slug. From there it leads to another blog if
the slug is the other's with slashes at the end, and nowhere otherwise. -/
theorem return_path_leads_back_iff {state : State} {target : Route} (hopened : Opened target)
    (hguard : state.guard target = .redirect (.login (some path))) :
    (parse? path = some target ↔ ∀ slug, target = .editBlog slug → '/' ∉ slug.toList) ∧
    ∀ found, found ≠ target → (parse? path = some found ↔ ∃ slug n, IsSegment slug ∧
      found = .editBlog slug ∧ target = .editBlog (slug ++ slashes (n + 1))) := by
  obtain ⟨hlogin, -, hnext⟩ := guard_eq_redirect_iff.mp hguard
  cases hnext
  cases target with
  | login | register => cases hlogin
  | home | createBlog =>
    refine ⟨iff_of_true rfl (by simp), fun found hfound => iff_of_false ?_ (by simp)⟩
    intro hother
    exact hfound (Option.some.inj hother).symm
  | editBlog slug =>
    -- The path has the slug as it is, of which the slashes at the end are not read back.
    rw [parse?_path_editBlog]
    refine ⟨⟨?_, fun hslash => ?_⟩, fun found hfound => ?_⟩
    · rintro ⟨other, n, hother, heq, -⟩ _ hsame
      cases heq
      cases hsame
      exact hother.no_slash
    · exact ⟨slug, 0, ⟨hopened.slug_ne_empty, hslash slug rfl⟩, rfl, by simp [slashes]⟩
    · rw [parse?_path_editBlog]
      constructor
      · rintro ⟨other, n, hother, rfl, rfl⟩
        cases n with
        | zero => exact absurd (by simp [slashes]) hfound
        | succ n => exact ⟨other, n, hother, rfl, rfl⟩
      · rintro ⟨other, n, hother, rfl, heq⟩
        cases heq
        exact ⟨other, n + 1, hother, rfl, rfl⟩

/-- On the way back to the blog `travels/` the visitor is taken to `travels`. -/
theorem return_path_leads_back_iff_travels :
    Opened (.editBlog "travels/") ∧
      State.guard {} (.editBlog "travels/") = .redirect (.login (some "/edit/travels/")) ∧
      parse? "/edit/travels/" ≠ some (.editBlog "travels/") ∧
      parse? "/edit/travels/" = some (.editBlog "travels") := by
  have hopened : Opened (.editBlog "travels/") :=
    .stored (Server.Backend.slugStored_iff.mpr (by decide))
  have hguard : State.guard {} (.editBlog "travels/") =
      .redirect (.login (some "/edit/travels/")) := rfl
  obtain ⟨hback, hother⟩ := return_path_leads_back_iff hopened hguard
  refine ⟨hopened, hguard, fun h => ?_, (hother _ (by decide)).mpr ⟨"travels", 0, ?_, rfl, rfl⟩⟩
  · exact hback.mp h "travels/" rfl (by decide)
  · exact ⟨by decide, by decide⟩

theorem return_path_leads_nowhere :
    ¬ ∀ (state : State) (target : Route) (path : String), Opened target →
      state.guard target = .redirect (.login (some path)) → parse? path = some target := by
  intro h
  have hopened : Opened (.editBlog "travels/alps") :=
    .stored (Server.Backend.slugStored_iff.mpr (by decide))
  have hback := h {} (.editBlog "travels/alps") _ hopened rfl
  exact absurd hback (by decide)

end Route

end BlogDesk
