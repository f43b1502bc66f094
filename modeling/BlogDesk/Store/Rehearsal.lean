import BlogDesk.Store.Basic

/-!
# Rehearsals

A store whose requests are answered by a script, in the order they are made. An
answer may wait behind a gate, which is opened once, before the request or after
it. After every step all actions go on until each is finished or waits; the
clock stands still meanwhile.
-/

namespace BlogDesk.Store

structure Cue where
  reception : Reception
  gate : Option String := none

structure Held where
  gate : String
  number : Nat
  reception : Reception

structure Rehearsal where
  store : Store
  script : List Cue
  opened : List String := []
  held : List Held := []

namespace Rehearsal

def apply (rehearsal : Rehearsal) (event : Event) : Rehearsal :=
  { rehearsal with store := rehearsal.store.step event }

def answer (rehearsal : Rehearsal) (number : Nat) : Rehearsal :=
  match rehearsal.script with
  | [] => rehearsal.apply (.receive number (.error (.transport "unexpected request")))
  | cue :: script =>
    let rehearsal := { rehearsal with script }
    match cue.gate with
    | none => rehearsal.apply (.receive number cue.reception)
    | some gate =>
      if gate ∈ rehearsal.opened then rehearsal.apply (.receive number cue.reception)
      else { rehearsal with held := rehearsal.held ++ [⟨gate, number, cue.reception⟩] }

def resume (rehearsal : Rehearsal) (slice : Slice) : Rehearsal :=
  let number := rehearsal.store.requested
  let rehearsal := rehearsal.apply (.resume slice)
  if number < rehearsal.store.requested then rehearsal.answer number else rehearsal

/-- Exchanges that the action of each slice may still need, at most. -/
def patience (store : Store) : Nat :=
  4 * (store.users.waiting.length + store.blogs.waiting.length + 2)

def betweenActions (store : Store) : Slice → Bool
  | .user => store.users.running.isNone
  | .blogs => store.blogs.running.isNone

/-- The slices take turns from one end of an action to the next. -/
def settle : Nat → List Slice → Rehearsal → Rehearsal
  | 0, _, rehearsal => rehearsal
  | _, [], rehearsal => rehearsal
  | fuel + 1, slice :: others, rehearsal =>
    if rehearsal.store.isReady slice then
      let rehearsal := rehearsal.resume slice
      if betweenActions rehearsal.store slice then settle fuel (others ++ [slice]) rehearsal
      else settle fuel (slice :: others) rehearsal
    else settle fuel others rehearsal

/-- The slice whose exchange is due first goes first. -/
def turns (store : Store) : List Slice :=
  match store.users.running, store.blogs.running with
  | some user, some blogs =>
    let (a, b) := (user.exchange, blogs.exchange)
    if b.due < a.due ∨ b.due = a.due ∧ b.number < a.number then [.blogs, .user]
    else [.user, .blogs]
  | _, _ => [.user, .blogs]

def settled (rehearsal : Rehearsal) : Rehearsal :=
  settle (2 * patience rehearsal.store) (turns rehearsal.store) rehearsal

-- ---- Steps

inductive Step where
  | setUser (user : Loadable User)
  | setBlogs (blogs : Loadable (List Blog))
  | start (action : Action)
  | openGate (gate : String)
  | advance (milliseconds : Nat)

def openGate (rehearsal : Rehearsal) (gate : String) : Rehearsal :=
  let (released, held) := rehearsal.held.partition (·.gate == gate)
  let rehearsal := { rehearsal with held, opened := gate :: rehearsal.opened }
  released.foldl
    (fun rehearsal held => rehearsal.apply (.receive held.number held.reception)) rehearsal

def step (rehearsal : Rehearsal) : Step → Rehearsal
  | .setUser user => (rehearsal.apply (.setUser user)).settled
  | .setBlogs blogs => (rehearsal.apply (.setBlogs blogs)).settled
  | .start action => (rehearsal.apply (.start action)).settled
  | .openGate gate => (rehearsal.openGate gate).settled
  | .advance milliseconds => (rehearsal.apply (.pass milliseconds)).settled

def observedSince (rehearsal : Rehearsal) (earlier : Store) : List Observation :=
  (rehearsal.store.log.take (rehearsal.store.log.length - earlier.log.length)).reverse

end Rehearsal

end BlogDesk.Store
