import BlogDesk.Proofs.Server.Requests
import BlogDesk.Proofs.Wire

/-!
# Calls without a session

Every method but the registration is refused to a caller without a session. What the
caller is told depends on the parameter: it is read, and the slug of a blog to be
stored is looked at, before anybody asks who is calling. `anonymous_call_refused` says
when it is the session that is missed.
-/

namespace BlogDesk

def Method.Stores (method : Method) : Prop := method = .createBlog ∨ method = .updateBlog

namespace Server.Backend

/-- The method finds nothing wrong with the parameter itself. -/
inductive Takes (param : Json) (method : Method) : Prop
  | asks (hmethod : method = .whoami ∨ method = .listBlogs)
  | stores {blog : Blog} (hmethod : method.Stores)
      (hread : readParam Blog.lenientLayout param = .ok blog) (hslug : blog.slug ≠ "")
  | deletes {args : SlugArgs} (hmethod : method = .deleteBlog)
      (hread : readParam SlugArgs.lenientLayout param = .ok args)

/-- The parameter is a blog to be stored, and has no slug. -/
def Slugless (param : Json) (method : Method) : Prop :=
  method.Stores ∧ ∃ blog, readParam Blog.lenientLayout param = .ok blog ∧ blog.slug = ""

inductive Judged (backend : Backend) (param : Json) (method : Method) : Prop
  | taken (htakes : Takes param method) (hslug : ¬ Slugless param method)
      (hnobody : backend.dispatch none method.name param = .error .authenticationRequired)
  | slugless (htakes : ¬ Takes param method) (hslug : Slugless param method)
      (hanybody : ∀ session, backend.dispatch session method.name param = .error .slugEmpty)
  | unread (htakes : ¬ Takes param method) (hslug : ¬ Slugless param method)
      (hanybody : ∀ session, backend.dispatch session method.name param = .error .invalidParameters)

variable (backend : Backend) {method : Method} (param : Json)

theorem readParam_error {α : Type} {layout : Json.Layout α} {param : Json} {refusal : Refusal}
    (h : readParam layout param = .error refusal) : refusal = .invalidParameters := by
  unfold readParam at h
  split at h
  · cases h
    rfl
  · split at h <;> cases h
    rfl

theorem judged_of_asks (hmethod : method = .whoami ∨ method = .listBlogs) :
    Judged backend param method := by
  refine .taken (.asks hmethod) ?_ ?_
  · rintro ⟨rfl | rfl, -⟩ <;> simp at hmethod
  · rcases hmethod with rfl | rfl <;> rfl

theorem judged_of_stores (hmethod : method.Stores) : Judged backend param method := by
  have hother : method ≠ .whoami ∧ method ≠ .listBlogs ∧ method ≠ .deleteBlog := by
    rcases hmethod with rfl | rfl <;> decide
  -- All that is left of the method is what it makes of the blog.
  have hdispatch (session : Option String) : ∃ store : Blog → Except Refusal Backend,
      (backend.dispatch session method.name param =
        readParam Blog.lenientLayout param >>= fun blog => done <$> store blog) ∧
      (∀ blog, blog.slug = "" → store blog = .error .slugEmpty) ∧
      ∀ blog, blog.slug ≠ "" → session = none → store blog = .error .authenticationRequired := by
    rcases hmethod with rfl | rfl
    · refine ⟨backend.createBlog session, rfl, fun _ hslug => if_pos hslug, ?_⟩
      rintro blog hslug rfl
      exact if_neg hslug
    · refine ⟨backend.updateBlog session, rfl, fun _ hslug => if_pos hslug, ?_⟩
      rintro blog hslug rfl
      exact if_neg hslug
  cases hread : readParam Blog.lenientLayout param with
  | error refusal =>
    obtain rfl := readParam_error hread
    refine .unread ?_ ?_ fun session => ?_
    · rintro (hasks | ⟨-, hblog, -⟩ | ⟨hdeletes, -⟩)
      · simp [hother] at hasks
      · cases hread.symm.trans hblog
      · exact hother.2.2 hdeletes
    · rintro ⟨-, blog, hblog, -⟩
      cases hread.symm.trans hblog
    · obtain ⟨store, heq, -⟩ := hdispatch session
      rw [heq, hread]
      rfl
  | ok blog =>
    by_cases hslug : blog.slug = ""
    · refine .slugless ?_ ⟨hmethod, blog, hread, hslug⟩ fun session => ?_
      · rintro (hasks | ⟨-, hblog, hne⟩ | ⟨hdeletes, -⟩)
        · simp [hother] at hasks
        · cases hread.symm.trans hblog
          exact hne hslug
        · exact hother.2.2 hdeletes
      · obtain ⟨store, heq, hempty, -⟩ := hdispatch session
        rw [heq, hread]
        exact congrArg (done <$> ·) (hempty blog hslug)
    · refine .taken (.stores hmethod hread hslug) ?_ ?_
      · rintro ⟨-, found, hfound, hempty⟩
        cases hread.symm.trans hfound
        exact hslug hempty
      · obtain ⟨store, heq, -, hnobody⟩ := hdispatch none
        rw [heq, hread]
        exact congrArg (done <$> ·) (hnobody blog hslug rfl)

theorem judged_of_deletes : Judged backend param .deleteBlog := by
  have hslug : ¬ Slugless param .deleteBlog := by
    rintro ⟨h | h, -⟩ <;> cases h
  have hdispatch (session : Option String) : backend.dispatch session Method.deleteBlog.name param =
      readParam SlugArgs.lenientLayout param >>= fun args =>
        done <$> backend.deleteBlog session args.slug := rfl
  cases hread : readParam SlugArgs.lenientLayout param with
  | error refusal =>
    obtain rfl := readParam_error hread
    refine .unread ?_ hslug fun session => ?_
    · rintro (hasks | ⟨hstores, -⟩ | ⟨-, hargs⟩)
      · simp at hasks
      · simp [Method.Stores] at hstores
      · cases hread.symm.trans hargs
    · rw [hdispatch, hread]
      rfl
  | ok args =>
    refine .taken (.deletes rfl hread) hslug ?_
    rw [hdispatch, hread]
    rfl

theorem judged (hmethod : method ≠ .register) : Judged backend param method := by
  cases method with
  | register => exact absurd rfl hmethod
  | whoami => exact judged_of_asks backend param (.inl rfl)
  | listBlogs => exact judged_of_asks backend param (.inr rfl)
  | createBlog => exact judged_of_stores backend param (.inl rfl)
  | updateBlog => exact judged_of_stores backend param (.inr rfl)
  | deleteBlog => exact judged_of_deletes backend param

-- ---- The result

/-- Without a session a call of any method but the registration is refused, and leaves
the backend as it was. It is refused for want of a session just when the method finds
nothing wrong with the parameter; otherwise whoever calls is told the same: that the blog
to be stored has no slug, or that the parameter cannot be read. -/
theorem anonymous_call_refused (hmethod : method ≠ .register) :
    ∃ refusal, backend.dispatch none method.name param = .error refusal ∧
      (∀ call : LenientCall, call.method = method.name → call.params.head?.getD .null = param →
        backend.replyIn none call = (⟨call.id, .null, .str refusal.message⟩, backend)) ∧
      (refusal.message = "This method requires authentication" ↔ Takes param method) ∧
      (refusal.message = "Blog slug cannot be empty" ↔ Slugless param method) ∧
      (¬ Takes param method → ¬ Slugless param method → refusal.message = "Invalid parameters") ∧
      (¬ Takes param method → ∀ session,
        backend.dispatch session method.name param = .error refusal) := by
  have hreply {refusal : Refusal} (h : backend.dispatch none method.name param = .error refusal)
      (call : LenientCall) (hname : call.method = method.name)
      (hparam : call.params.head?.getD .null = param) :
      backend.replyIn none call = (⟨call.id, .null, .str refusal.message⟩, backend) := by
    simp only [replyIn, hname, hparam, h]
  -- The session is asked for only after the parameter was taken.
  cases judged backend param hmethod with
  | taken htakes hslug hnobody =>
    refine ⟨_, hnobody, hreply hnobody, iff_of_true rfl htakes, iff_of_false (by decide) hslug, ?_, ?_⟩
    · exact fun hnot => absurd htakes hnot
    · exact fun hnot => absurd htakes hnot
  | slugless htakes hslug hanybody =>
    exact ⟨_, hanybody none, hreply (hanybody none), iff_of_false (by decide) htakes,
      iff_of_true rfl hslug, fun _ hnot => absurd hslug hnot, fun _ => hanybody⟩
  | unread htakes hslug hanybody =>
    exact ⟨_, hanybody none, hreply (hanybody none), iff_of_false (by decide) htakes,
      iff_of_false (by decide) hslug, fun _ _ => rfl, fun _ => hanybody⟩

/-- A blog without a slug is to be stored in place of ada's, by nobody. -/
theorem anonymous_call_refused_slugless :
    let ada : Backend := { accounts := [("ada", ⟨"pw", none, [("tides", none)]⟩)] }
    Method.updateBlog ≠ .register ∧ Slugless (.object [("Slug", .str "")]) .updateBlog ∧
      ∃ refusal, ada.dispatch none Method.updateBlog.name (.object [("Slug", .str "")]) =
          .error refusal ∧
        refusal.message = "Blog slug cannot be empty" := by
  have hslug : Slugless (.object [("Slug", .str "")]) .updateBlog := ⟨.inr rfl, ⟨"", none⟩, rfl, rfl⟩
  obtain ⟨refusal, hrefused, -, -, hempty, -⟩ := anonymous_call_refused
    { accounts := [("ada", ⟨"pw", none, [("tides", none)]⟩)] } (.object [("Slug", .str "")])
    (by decide : Method.updateBlog ≠ .register)
  exact ⟨by decide, hslug, refusal, hrefused, hempty.mpr hslug⟩

theorem anonymous_call_told_of_parameter :
    ¬ ∀ (backend : Backend) (method : Method) (param : Json), method ≠ .register →
      ∃ refusal, backend.dispatch none method.name param = .error refusal ∧
        refusal.message = "This method requires authentication" := by
  intro h
  obtain ⟨refusal, hrefused, hmessage⟩ := h {} .createBlog .null (by decide)
  cases hrefused
  exact absurd hmessage (by decide)

end Server.Backend

end BlogDesk
