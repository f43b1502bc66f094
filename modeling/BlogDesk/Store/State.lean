import BlogDesk.Blog
import BlogDesk.Loadable

/-!
# What the console shows

The current user and the user's blogs, each as far as it is loaded.
-/

namespace BlogDesk

structure State where
  user : Loadable User := .uninitialized
  blogs : Loadable (List Blog) := .uninitialized
deriving DecidableEq, Repr

end BlogDesk
