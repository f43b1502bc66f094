/-!
# Keyed lists

Entries in strictly increasing key order, the order of code points. `insert`
replaces the entry of an equal key, so a later entry wins over an earlier one.
-/

namespace BlogDesk.Keyed

variable {β : Type}

def find? (key : String) : List (String × β) → Option β
  | [] => none
  | (k, value) :: rest => if k = key then some value else find? key rest

def insert (key : String) (value : β) : List (String × β) → List (String × β)
  | [] => [(key, value)]
  | (k, old) :: rest =>
    if key < k then (key, value) :: (k, old) :: rest
    else if key = k then (key, value) :: rest
    else (k, old) :: insert key value rest

def erase (key : String) (entries : List (String × β)) : List (String × β) :=
  entries.filter fun entry => entry.1 ≠ key

def adjust (key : String) (f : β → β) : List (String × β) → List (String × β)
  | [] => []
  | (k, value) :: rest => if k = key then (k, f value) :: rest else (k, value) :: adjust key f rest

def contains (key : String) (entries : List (String × β)) : Bool := (find? key entries).isSome

/-- The keyed list of entries in any order; of two with one key the later counts. -/
def ofList (entries : List (String × β)) : List (String × β) :=
  entries.foldl (fun kept entry => insert entry.1 entry.2 kept) []

@[simp] theorem find?_insert_self (key : String) (value : β) (entries : List (String × β)) :
    find? key (insert key value entries) = some value := by
  induction entries with
  | nil => simp [insert, find?]
  | cons entry rest ih =>
    obtain ⟨k, old⟩ := entry
    by_cases hlt : key < k
    · simp [insert, find?, hlt]
    · by_cases heq : key = k
      · simp [insert, find?, heq]
      · simp [insert, find?, hlt, heq, Ne.symm heq, ih]

theorem find?_insert_of_ne {key other : String} (h : other ≠ key) (value : β)
    (entries : List (String × β)) :
    find? other (insert key value entries) = find? other entries := by
  induction entries with
  | nil => simp [insert, find?, Ne.symm h]
  | cons entry rest ih =>
    obtain ⟨k, old⟩ := entry
    by_cases hlt : key < k
    · simp [insert, find?, hlt, Ne.symm h]
    · by_cases heq : key = k
      · subst heq; simp [insert, find?, Ne.symm h]
      · simp [insert, find?, hlt, heq, ih]

end BlogDesk.Keyed
