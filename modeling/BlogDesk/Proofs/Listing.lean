import BlogDesk.Listing

/-!
# Listings are stable sorts

Collation compares any two texts, and does so as a total preorder. A listing holds the
same blogs in the order of their names, and those whose names collate alike as they
came; no other list does. What is taken out of a list before it is sorted might as well
be taken out afterwards.
-/

namespace BlogDesk

namespace Collation

def collate : String → String → Ordering := compareOn key

instance : Std.TransCmp collate := inferInstanceAs (Std.TransCmp (compareOn key))

theorem collate_swap (a b : String) : collate a b = (collate b a).swap := Std.OrientedCmp.eq_swap

theorem collate_trans {a b c : String} (hab : (collate a b).isLE = true)
    (hbc : (collate b c).isLE = true) : (collate a c).isLE = true :=
  Std.TransCmp.isLE_trans hab hbc

end Collation

open Collation (collate collate_swap collate_trans)

namespace Blog

theorem name_eq (blog : Blog) : blog.name = (blog.displayName.filter (· ≠ "")).getD blog.slug := by
  unfold name
  cases blog.displayName with
  | none => rfl
  | some text => by_cases h : text = "" <;> simp [Option.filter, h]

theorem precedes_iff {a b : Blog} : a.precedes b = true ↔ (collate a.name b.name).isLE = true := Iff.rfl

theorem precedes_trans (a b c : Blog) (hab : a.precedes b = true) (hbc : b.precedes c = true) :
    a.precedes c = true :=
  collate_trans hab hbc

theorem precedes_total (a b : Blog) : (a.precedes b || b.precedes a) = true := by
  rw [Bool.or_eq_true, precedes_iff, precedes_iff, collate_swap]
  cases collate b.name a.name <;> simp

def isListedAs (text : String) (blog : Blog) : Bool := collate blog.name text == .eq

theorem isListedAs_name (blog : Blog) : blog.isListedAs blog.name = true := by
  simp [isListedAs, Std.ReflCmp.compare_self]

theorem precedes_of_isListedAs {a b : Blog} {text : String} (ha : a.isListedAs text = true)
    (hb : b.isListedAs text = true) : a.precedes b = true := by
  have ha := beq_iff_eq.mp ha
  have hb := beq_iff_eq.mp hb
  rw [precedes_iff, Std.TransCmp.congr_left ha, collate_swap, hb]
  rfl

theorem isListedAs_of_precedes {a b : Blog} (hab : a.precedes b = true) (hba : b.precedes a = true) :
    a.isListedAs b.name = true :=
  beq_iff_eq.mpr (Std.OrientedCmp.isLE_antisymm (precedes_iff.mp hab) (precedes_iff.mp hba))

end Blog

-- ---- What sorting does

theorem sortBlogs_perm (blogs : List Blog) : (sortBlogs blogs).Perm blogs := by
  rw [sortBlogs_eq_mergeSort]
  exact List.mergeSort_perm ..

theorem sortBlogs_ordered (blogs : List Blog) :
    (sortBlogs blogs).Pairwise fun a b => a.precedes b = true := by
  rw [sortBlogs_eq_mergeSort]
  exact List.pairwise_mergeSort Blog.precedes_trans Blog.precedes_total blogs

/-- Two lists that have the same blogs listed alike for each name, in the same order. -/
def ListsAlike (these those : List Blog) : Prop :=
  ∀ text, these.filter (·.isListedAs text) = those.filter (·.isListedAs text)

theorem sortBlogs_listsAlike (blogs : List Blog) : ListsAlike (sortBlogs blogs) blogs := by
  intro text
  have halike : (blogs.filter (·.isListedAs text)).Pairwise fun a b => a.precedes b = true :=
    List.pairwise_of_forall_mem_list fun a ha b hb =>
      Blog.precedes_of_isListedAs (List.mem_filter.mp ha).2 (List.mem_filter.mp hb).2
  have hsub := (List.sublist_mergeSort Blog.precedes_trans Blog.precedes_total halike
    List.filter_sublist).filter (·.isListedAs text)
  have hperm := (List.mergeSort_perm blogs Blog.precedes).filter (·.isListedAs text)
  rw [List.filter_filter] at hsub
  simp only [Bool.and_self] at hsub
  rw [sortBlogs_eq_mergeSort]
  exact (hsub.eq_of_length hperm.length_eq.symm).symm

-- ---- What determines the result

theorem ListsAlike.symm {these those : List Blog} (h : ListsAlike these those) :
    ListsAlike those these :=
  fun text => (h text).symm

theorem ListsAlike.first_precedes {these : List Blog} {first blog : Blog} {rest : List Blog}
    (h : ListsAlike these (first :: rest))
    (hordered : (first :: rest).Pairwise fun a b => a.precedes b = true) (hmem : blog ∈ these) :
    first.precedes blog = true := by
  have hin : blog ∈ (first :: rest).filter (·.isListedAs blog.name) :=
    h _ ▸ List.mem_filter.mpr ⟨hmem, blog.isListedAs_name⟩
  rcases List.mem_cons.mp (List.mem_filter.mp hin).1 with rfl | hlater
  · exact Blog.precedes_of_isListedAs blog.isListedAs_name blog.isListedAs_name
  · exact List.rel_of_pairwise_cons hordered hlater

theorem ListsAlike.ne_nil {these : List Blog} {first : Blog} {rest : List Blog}
    (h : ListsAlike (first :: rest) these) : these ≠ [] := by
  rintro rfl
  have hnone := h first.name
  rw [List.filter_cons_of_pos first.isListedAs_name] at hnone
  cases hnone

theorem ListsAlike.eq {these those : List Blog} (h : ListsAlike these those)
    (hthese : these.Pairwise fun a b => a.precedes b = true)
    (hthose : those.Pairwise fun a b => a.precedes b = true) : these = those := by
  induction these generalizing those with
  | nil =>
    cases those with
    | nil => rfl
    | cons other more => exact absurd rfl h.symm.ne_nil
  | cons first rest ih =>
    cases those with
    | nil => exact absurd rfl h.ne_nil
    | cons other more =>
      have hfirst := h.symm.first_precedes hthese List.mem_cons_self
      have hother := h.first_precedes hthose List.mem_cons_self
      -- Both heads are listed alike, so that each is the first of its kind.
      have hheads := h other.name
      rw [List.filter_cons_of_pos (Blog.isListedAs_of_precedes hfirst hother),
        List.filter_cons_of_pos other.isListedAs_name] at hheads
      obtain rfl := (List.cons.inj hheads).1
      refine congrArg _ (ih (fun text => ?_) hthese.tail hthose.tail)
      have htails := h text
      by_cases hkind : first.isListedAs text = true
      · rw [List.filter_cons_of_pos hkind, List.filter_cons_of_pos hkind] at htails
        exact (List.cons.inj htails).2
      · rwa [List.filter_cons_of_neg hkind, List.filter_cons_of_neg hkind] at htails

theorem sortBlogs_of_ordered {blogs : List Blog}
    (h : blogs.Pairwise fun a b => a.precedes b = true) : sortBlogs blogs = blogs := by
  rw [sortBlogs_eq_mergeSort]
  exact List.mergeSort_of_pairwise h

theorem sortBlogs_filter_sortBlogs (blogs : List Blog) (p : Blog → Bool) :
    sortBlogs ((sortBlogs blogs).filter p) = sortBlogs (blogs.filter p) := by
  refine ListsAlike.eq (fun text => ?_) (sortBlogs_ordered _) (sortBlogs_ordered _)
  have hswap : ∀ list : List Blog, (list.filter p).filter (·.isListedAs text) =
      (list.filter (·.isListedAs text)).filter p := by
    intro list
    simp [List.filter_filter, Bool.and_comm]
  rw [sortBlogs_listsAlike, sortBlogs_listsAlike, hswap, hswap, sortBlogs_listsAlike]

-- ---- The result

/-- The same blogs in the order of their names; those whose names collate alike are in
the order they came in. -/
structure StableSort (blogs sorted : List Blog) : Prop where
  perm : sorted.Perm blogs
  ordered : sorted.Pairwise fun a b => (collate a.name b.name).isLE = true
  keeps : ListsAlike sorted blogs

theorem stableSort_sortBlogs (blogs : List Blog) : StableSort blogs (sortBlogs blogs) :=
  ⟨sortBlogs_perm blogs, sortBlogs_ordered blogs, sortBlogs_listsAlike blogs⟩

theorem StableSort.unique {blogs these those : List Blog} (hthese : StableSort blogs these)
    (hthose : StableSort blogs those) : these = those :=
  have hsame : ListsAlike these those := fun text => (hthese.keeps text).trans (hthose.keeps text).symm
  hsame.eq hthese.ordered hthose.ordered

/-- Collation is a total preorder. A listing is the one stable sort by it of the names that
are shown, and sorting it again changes nothing. -/
theorem sortBlogs_stable_sort (blogs : List Blog) :
    (∀ sorted, StableSort blogs sorted ↔ sorted = sortBlogs blogs) ∧
    sortBlogs (sortBlogs blogs) = sortBlogs blogs ∧
    (∀ blog : Blog, blog.name = (blog.displayName.filter (· ≠ "")).getD blog.slug) ∧
    (∀ a b, collate a b = (collate b a).swap) ∧
    (∀ a b c, (collate a b).isLE → (collate b c).isLE → (collate a c).isLE) := by
  refine ⟨fun sorted => ⟨fun h => ?_, ?_⟩, ?_, Blog.name_eq, fun a b => ?_, fun a b c hab hbc => ?_⟩
  · exact h.unique (stableSort_sortBlogs blogs)
  · rintro rfl
    exact stableSort_sortBlogs blogs
  · exact sortBlogs_of_ordered (sortBlogs_ordered blogs)
  · exact collate_swap a b
  · exact collate_trans hab hbc

end BlogDesk
