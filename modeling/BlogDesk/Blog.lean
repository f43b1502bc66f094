import BlogDesk.Account

/-!
# Blogs

A blog is known to its owner by its slug. Listings show the display name, or the
slug when there is none to show.
-/

namespace BlogDesk

open Json (Layout Field)

structure Blog where
  slug : String
  displayName : Option String := none
deriving DecidableEq, Repr

def Blog.name (blog : Blog) : String :=
  match blog.displayName with
  | some name => if name = "" then blog.slug else name
  | none => blog.slug

structure SlugArgs where
  slug : String
deriving DecidableEq, Repr

def Blog.layout : Layout Blog where
  name := "Blog"
  fields := [.requiredText "Slug", .optionalText "DisplayName"]
  build := fun (slug, displayName, _) => ⟨slug, displayName⟩
  parts := fun blog => (blog.slug, blog.displayName, ())

def Blog.lenientLayout : Layout Blog where
  name := "Blog"
  fields := [.textOrEmpty "Slug", .optionalText "DisplayName"]
  build := fun (slug, displayName, _) => ⟨slug, displayName⟩
  parts := fun blog => (blog.slug, blog.displayName, ())

def SlugArgs.layout : Layout SlugArgs where
  name := "DeleteBlogArgs"
  fields := [.requiredText "Slug"]
  build := fun (slug, _) => ⟨slug⟩
  parts := fun args => (args.slug, ())

def SlugArgs.lenientLayout : Layout SlugArgs where
  name := "SlugArgs"
  fields := [.textOrEmpty "Slug"]
  build := fun (slug, _) => ⟨slug⟩
  parts := fun args => (args.slug, ())

end BlogDesk
