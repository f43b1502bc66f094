import BlogDesk.Proofs.Listing
import BlogDesk.Proofs.Server.Accounts

/-!
# Edits on both sides

What an edit makes of the console's list and what the service makes of the account's
blogs are the same blogs again, if they were before.
-/

namespace BlogDesk

namespace Server

open Keyed (find? Sorted)
open Store (Edit)

def listOf (entries : List (String × Option String)) : List Blog :=
  entries.map fun (slug, displayName) => ⟨slug, displayName⟩

theorem blogList_eq (account : Account) : account.blogList = listOf account.blogs := rfl

theorem listOf_erase (slug : String) (entries : List (String × Option String)) :
    listOf (Keyed.erase slug entries) = (listOf entries).filter (·.slug ≠ slug) := by
  rw [listOf, Keyed.erase, listOf, List.filter_map]
  rfl

theorem listOf_insert {entries : List (String × Option String)} (h : Sorted entries) (blog : Blog) :
    (listOf (Keyed.insert blog.slug blog.displayName entries)).Perm
      (blog :: (listOf entries).filter (·.slug ≠ blog.slug)) := by
  rw [← listOf_erase]
  exact (Keyed.insert_perm h).map _

/-- An edit that the service accepts does to the console's list what it does to the blogs. -/
theorem apply_perm {backend after : Backend} {session : Option String} {edit : Edit} {result : Json}
    (h : backend.perform session edit.operation = .ok (result, after)) {username : String}
    {account : Account} (hsession : session = some username)
    (haccount : find? username backend.accounts = some account) (hsorted : Sorted account.blogs)
    {list : List Blog} (hlist : list.Perm account.blogList) :
    ∃ blogs, find? username after.accounts = some { account with blogs } ∧
      (sortBlogs (edit.apply list)).Perm (listOf blogs) := by
  subst hsession
  rw [blogList_eq] at hlist
  obtain ⟨outcome, hexecute, -⟩ := Backend.perform_eq_ok.mp h
  cases edit with
  | create blog =>
    obtain ⟨next, hnext, heq⟩ := map_eq_ok.mp hexecute
    cases heq
    obtain ⟨-, name, found, hname, hfound, hnew, rfl⟩ := Backend.createBlog_eq_ok.mp hnext
    cases hname
    cases haccount.symm.trans hfound
    refine ⟨_, (Backend.putAccount_find? ..).trans (if_pos rfl), ?_⟩
    -- The slug is new, so taking it out before the blog is put in takes nothing out.
    have hinsert := listOf_insert hsorted blog
    rw [← listOf_erase, Keyed.erase_of_find?_eq_none hnew] at hinsert
    exact (sortBlogs_perm _).trans ((List.perm_append_singleton ..).trans
      ((hlist.cons blog).trans hinsert.symm))
  | edit blog =>
    obtain ⟨next, hnext, heq⟩ := map_eq_ok.mp hexecute
    cases heq
    obtain ⟨-, name, found, hname, hfound, rfl⟩ := Backend.updateBlog_eq_ok.mp hnext
    cases hname
    cases haccount.symm.trans hfound
    refine ⟨_, (Backend.putAccount_find? ..).trans (if_pos rfl), ?_⟩
    exact (sortBlogs_perm _).trans ((List.perm_append_singleton ..).trans
      (((hlist.filter _).cons blog).trans (listOf_insert hsorted blog).symm))
  | delete slug =>
    obtain ⟨next, hnext, heq⟩ := map_eq_ok.mp hexecute
    cases heq
    obtain ⟨name, found, hname, hfound, -, rfl⟩ := Backend.deleteBlog_eq_ok.mp hnext
    cases hname
    cases haccount.symm.trans hfound
    refine ⟨_, (Backend.putAccount_find? ..).trans (if_pos rfl), ?_⟩
    rw [listOf_erase]
    exact (sortBlogs_perm _).trans (hlist.filter _)

end Server

end BlogDesk
