import BlogDesk.Json.Reader

/-!
# Records in JSON

A layout lists the fields of a record in order. A record is written as an object
that leaves out optional fields without content; it is read from an object in any
order, unknown members skipped, or from an array in field order. Missing fields
with a default are filled in, at the end of a short array too.
-/

namespace BlogDesk.Json

inductive Kind where
  | text
  | optionalText
  | value
  | optionalValue
  | values
deriving DecidableEq

abbrev Kind.Content : Kind → Type
  | .text => String
  | .optionalText => Option String
  | .value => Json
  | .optionalValue => Option Json
  | .values => List Json

structure Field where
  key : String
  kind : Kind
  default : Option kind.Content

def Contents : List Field → Type
  | [] => Unit
  | field :: rest => field.kind.Content × Contents rest

/-- Contents as far as they have been read. -/
def Slots : List Field → Type
  | [] => Unit
  | field :: rest => Option field.kind.Content × Slots rest

structure Layout (α : Type) where
  name : String
  fields : List Field
  build : Contents fields → α
  parts : α → Contents fields

-- ---- Writing

def Kind.toJson? : (kind : Kind) → kind.Content → Option Json
  | .text, content => some (.str content)
  | .optionalText, content => content.map .str
  | .value, content => some content
  | .optionalValue, content => content
  | .values, content => some (.array content)

def Contents.members : (fields : List Field) → Contents fields → List (String × Json)
  | [], _ => []
  | field :: rest, (content, more) =>
    match field.kind.toJson? content with
    | some value => (field.key, value) :: members rest more
    | none => members rest more

namespace Layout

variable {α : Type}

def members (layout : Layout α) (a : α) : List (String × Json) :=
  Contents.members layout.fields (layout.parts a)

def write (layout : Layout α) (a : α) : String := (Json.object (layout.members a)).render

def toJson (layout : Layout α) (a : α) : Json := .ofMembers (layout.members a)

end Layout

-- ---- Slots

def Slots.empty : (fields : List Field) → Slots fields
  | [] => ()
  | _ :: rest => (none, empty rest)

def Slots.finish : (fields : List Field) → Slots fields → Except Cause (Contents fields)
  | [], _ => .ok ()
  | field :: rest, (slot, more) => do
    let content ← match slot, field.default with
      | some content, _ => .ok content
      | none, some content => .ok content
      | none, none => .error (.missingField field.key)
    let more ← finish rest more
    .ok (content, more)

/-- What an array that ends before these fields leaves to defaults. `read` items
were there. -/
def Contents.defaults (record : String) (wanted : Nat) :
    (fields : List Field) → Nat → Except Cause (Contents fields)
  | [], _ => .ok ()
  | field :: rest, read => do
    let content ← match field.default with
      | some content => .ok content
      | none => .error (.tooFewItems read record wanted)
    let more ← defaults record wanted rest (read + 1)
    .ok (content, more)

-- ---- Reading a value that was parsed

def Kind.ofJson : (kind : Kind) → Json → Except Cause kind.Content
  | .text, .str content => .ok content
  | .text, other => .error (.wrongKind (.of other) .text)
  | .optionalText, .null => .ok none
  | .optionalText, .str content => .ok (some content)
  | .optionalText, other => .error (.wrongKind (.of other) .text)
  | .value, content => .ok content
  | .optionalValue, .null => .ok none
  | .optionalValue, content => .ok (some content)
  | .values, .array content => .ok content
  | .values, other => .error (.wrongKind (.of other) .sequence)

def Slots.putJson (key : String) (value : Json) :
    (fields : List Field) → Slots fields → Except Cause (Slots fields)
  | [], slots => .ok slots
  | field :: rest, (slot, more) =>
    if key = field.key then
      if slot.isSome then .error (.duplicateField key)
      else do
        let content ← field.kind.ofJson value
        .ok (some content, more)
    else do
      let more ← putJson key value rest more
      .ok (slot, more)

def Slots.putMembers (fields : List Field) :
    List (String × Json) → Slots fields → Except Cause (Slots fields)
  | [], slots => .ok slots
  | (key, value) :: rest, slots => do
    let slots ← slots.putJson key value fields
    putMembers fields rest slots

def Contents.ofItems (record : String) (wanted : Nat) :
    (fields : List Field) → Nat → List Json → Except Cause (Contents fields × Nat)
  | [], _, items => .ok ((), items.length)
  | field :: rest, read, [] => do
    let contents ← defaults record wanted (field :: rest) read
    .ok (contents, 0)
  | field :: rest, read, item :: items => do
    let content ← field.kind.ofJson item
    let (more, left) ← ofItems record wanted rest (read + 1) items
    .ok ((content, more), left)

namespace Layout

variable {α : Type}

def ofJson (layout : Layout α) : Json → Except Cause α
  | .object members => do
    let slots ← Slots.putMembers layout.fields members (.empty layout.fields)
    let contents ← slots.finish layout.fields
    .ok (layout.build contents)
  | .array items => do
    let (contents, left) ←
      Contents.ofItems layout.name layout.fields.length layout.fields 0 items
    if left = 0 then .ok (layout.build contents) else .error (.tooManyItems items.length)
  | other => .error (.wrongKind (.of other) (.record layout.name))

def listOfJson (layout : Layout α) : Json → Except Cause (List α)
  | .array items => items.mapM layout.ofJson
  | other => .error (.wrongKind (.of other) .sequence)

end Layout

-- ---- Reading text

namespace Cursor

/-- Something else stands here. Scalars are read first, and fail on their own if malformed. -/
def wrongKind (c : Cursor) (wanted : Wanted) : Fault :=
  match c.rest with
  | '[' :: _ => c.faultHere (.wrongKind .sequence wanted)
  | '\x7b' :: _ => c.faultHere (.wrongKind .map wanted)
  | _ =>
    match c.scalar with
    | .ok (found, c) => c.faultHere (.wrongKind (.of found) wanted)
    | .error fault => fault

def textContent (start : Cursor) : Except Fault (String × Cursor) :=
  let c := start.skipBlanks
  match c.rest with
  | '"' :: _ => c.advance.text
  | _ => .error (c.wrongKind .text)

def null? (start : Cursor) : Except Fault (Option Cursor) :=
  let c := start.skipBlanks
  match c.rest with
  | 'n' :: _ => do
    let c ← c.advance.word ['u', 'l', 'l']
    .ok (some c)
  | _ => .ok none

def content (c : Cursor) (depth : Nat) : (kind : Kind) → Except Fault (kind.Content × Cursor)
  | .text => c.textContent
  | .optionalText => do
    match ← c.null? with
    | some c => .ok (none, c)
    | none => do
      let (content, c) ← c.textContent
      .ok (some content, c)
  | .value => c.value depth
  | .optionalValue => do
    match ← c.null? with
    | some c => .ok (none, c)
    | none => do
      let (content, c) ← c.value depth
      .ok (some content, c)
  | .values =>
    let c := c.skipBlanks
    match c.rest with
    | '[' :: _ => do
      let depth ← c.enter depth
      c.advance.items depth
    | _ => .error (c.wrongKind .sequence)

/-- The place that a fault of a whole object is reported at: behind its closing
brace if that stands next. -/
def endOfObject (c : Cursor) : Cursor :=
  let c := c.skipBlanks
  match c.rest with
  | '\x7d' :: _ => c.advance
  | _ => c

def member (c : Cursor) (depth : Nat) (key : String) :
    (fields : List Field) → Slots fields → Except Fault (Slots fields × Cursor)
  | [], slots => do
    let c ← c.colon
    let c ← c.skipValue
    .ok (slots, c)
  | field :: rest, (slot, more) =>
    if key = field.key then
      if slot.isSome then .error (c.endOfObject.faultHere (.duplicateField key))
      else do
        let c ← c.colon
        let (content, c) ← c.content depth field.kind
        .ok ((some content, more), c)
    else do
      let (more, c) ← c.member depth key rest more
      .ok ((slot, more), c)

def recordMembers (fields : List Field) : Nat → Nat → Bool → Cursor → Slots fields →
    Except Fault (Slots fields × Cursor)
  | 0, _, _, c, _ => .error (c.faultHere .endInObject)
  | fuel + 1, depth, first, c, slots => do
    match ← c.nextKey? first with
    | none => .ok (slots, c.skipBlanks.advance)
    | some c => do
      let (key, c) ← c.text
      let (slots, c) ← c.member depth key fields slots
      recordMembers fields fuel depth false c slots

def atCause {α : Type} (c : Cursor) : Except Cause α → Except Fault α
  | .ok a => .ok a
  | .error cause => .error (c.faultHere cause)

def recordItems (record : String) (wanted depth : Nat) :
    (fields : List Field) → Nat → Cursor → Except Fault (Contents fields × Cursor)
  | [], _, c => do
    let c ← c.closeList
    .ok ((), c)
  | field :: rest, read, c => do
    match ← c.nextItem? (read == 0) with
    | none => do
      let c := c.skipBlanks.advance
      let contents ← c.atCause (Contents.defaults record wanted (field :: rest) read)
      .ok (contents, c)
    | some c => do
      let (content, c) ← c.content depth field.kind
      let (more, c) ← recordItems record wanted depth rest (read + 1) c
      .ok ((content, more), c)

def record {α : Type} (start : Cursor) (layout : Layout α) : Except Fault (α × Cursor) := do
  let c := start.skipBlanks
  match c.rest with
  | '\x7b' :: _ => do
    let depth ← c.enter maxDepth
    let (slots, c) ← recordMembers layout.fields c.fuel depth true c.advance (.empty layout.fields)
    let contents ← c.atCause (slots.finish layout.fields)
    .ok (layout.build contents, c)
  | '[' :: _ => do
    let depth ← c.enter maxDepth
    let (contents, c) ←
      recordItems layout.name layout.fields.length depth layout.fields 0 c.advance
    .ok (layout.build contents, c)
  | _ => .error (c.wrongKind (.record layout.name))

end Cursor

def Layout.read {α : Type} (layout : Layout α) (text : String) : Except Fault α := do
  let (a, c) ← (Cursor.ofText text.toList).record layout
  c.atEnd
  .ok a

end BlogDesk.Json
