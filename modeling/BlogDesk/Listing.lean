import BlogDesk.Blog
import BlogDesk.Collation.Key

/-!
# The order of listings

Blogs are listed by name in collation order. Names that collate alike keep the
order they came in.
-/

namespace BlogDesk

def Blog.precedes (a b : Blog) : Bool :=
  (compare (Collation.key a.name) (Collation.key b.name)).isLE

/-- Each name's key is made once. -/
def sortBlogs (blogs : List Blog) : List Blog :=
  let keyed := blogs.map fun blog => (Collation.key blog.name, blog)
  (keyed.mergeSort fun a b => (compare a.1 b.1).isLE).map (·.2)

theorem sortBlogs_eq_mergeSort (blogs : List Blog) :
    sortBlogs blogs = blogs.mergeSort Blog.precedes := by
  rw [sortBlogs, List.map_mergeSort (s := Blog.precedes)]
  · simp [Function.comp_def]
  · simp +contextual [Blog.precedes]

end BlogDesk
