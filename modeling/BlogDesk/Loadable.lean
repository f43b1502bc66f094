/-!
# Remotely fetched values

A `Loadable` is in one of four phases. Entering `loading` or `error` drops the
payload: code that needs the old value back keeps its own copy.
-/

namespace BlogDesk

inductive Phase where
  | uninitialized
  | loading
  | loaded
  | error
deriving DecidableEq, Repr

inductive Loadable (α : Type) where
  | uninitialized
  | loading
  | loaded (data : α)
  | error (message : String)
deriving DecidableEq, Repr

namespace Loadable

variable {α β : Type}

instance : Inhabited (Loadable α) := ⟨.uninitialized⟩

def phase : Loadable α → Phase
  | uninitialized => .uninitialized
  | loading => .loading
  | loaded _ => .loaded
  | error _ => .error

def isLoaded (value : Loadable α) : Bool := value.phase == .loaded

def isLoading (value : Loadable α) : Bool := value.phase == .loading

def isUninitialized (value : Loadable α) : Bool := value.phase == .uninitialized

def data? : Loadable α → Option α
  | loaded data => some data
  | _ => none

def errorMessage? : Loadable α → Option String
  | error message => some message
  | _ => none

def map (f : α → β) : Loadable α → Loadable β
  | uninitialized => uninitialized
  | loading => loading
  | loaded data => loaded (f data)
  | error message => error message

@[simp] theorem phase_map (f : α → β) (value : Loadable α) :
    (value.map f).phase = value.phase := by
  cases value <;> rfl

theorem isLoaded_iff {value : Loadable α} : value.isLoaded = true ↔ ∃ data, value = loaded data := by
  cases value <;> simp [isLoaded, phase]

end Loadable

end BlogDesk
