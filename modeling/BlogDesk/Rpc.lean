import BlogDesk.Blog
import BlogDesk.Failure

/-!
# Call envelopes

A call carries an id, a method and parameters; its answer a result and an error.
An error that is null, false, zero or the empty text counts as none. The service
reads calls leniently, the console reads answers so.
-/

namespace BlogDesk

open Json (Layout Field)

inductive Method where
  | whoami
  | register
  | listBlogs
  | createBlog
  | updateBlog
  | deleteBlog
deriving DecidableEq, Repr

namespace Method

def name : Method → String
  | whoami => "Users.Whoami"
  | register => "Users.Create"
  | listBlogs => "Blogs.List"
  | createBlog => "Blogs.Create"
  | updateBlog => "Blogs.Update"
  | deleteBlog => "Blogs.Delete"

def all : List Method := [whoami, register, listBlogs, createBlog, updateBlog, deleteBlog]

def ofName? (name : String) : Option Method := all.find? (·.name == name)

end Method

structure Call where
  id : String
  method : String
  params : List Json

/-- A call as the service takes it; the id is whatever it is. -/
structure LenientCall where
  id : Json
  method : String
  params : List Json

structure Answer where
  id : Option Json
  result : Json
  error : Json

structure Reply where
  id : Json
  result : Json
  error : Json

def Call.layout : Layout Call where
  name := "RpcCall"
  fields := [.requiredText "id", .requiredText "method", ⟨"params", .values, none⟩]
  build := fun (id, method, params, _) => ⟨id, method, params⟩
  parts := fun call => (call.id, call.method, call.params, ())

def LenientCall.layout : Layout LenientCall where
  name := "RpcCall"
  fields := [⟨"id", .value, some .null⟩, .requiredText "method", ⟨"params", .values, some []⟩]
  build := fun (id, method, params, _) => ⟨id, method, params⟩
  parts := fun call => (call.id, call.method, call.params, ())

def Answer.layout : Layout Answer where
  name := "RpcResponse"
  fields := [⟨"id", .optionalValue, some none⟩, ⟨"result", .value, some .null⟩,
    ⟨"error", .value, some .null⟩]
  build := fun (id, result, error, _) => ⟨id, result, error⟩
  parts := fun answer => (answer.id, answer.result, answer.error, ())

def Reply.layout : Layout Reply where
  name := "RpcReply"
  fields := [⟨"id", .value, none⟩, ⟨"result", .value, none⟩, ⟨"error", .value, none⟩]
  build := fun (id, result, error, _) => ⟨id, result, error⟩
  parts := fun reply => (reply.id, reply.result, reply.error, ())

def Answer.errorMessage? (answer : Answer) : Option String :=
  match answer.error with
  | .null | .bool false => none
  | .number value => if value.isZero then none else some (Json.number value).render
  | .str text => if text = "" then none else some text
  | other => some other.render

end BlogDesk
