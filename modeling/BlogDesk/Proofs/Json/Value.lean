import BlogDesk.Proofs.Json.Text
import BlogDesk.Proofs.Keyed

/-!
# Values are read back

A value without numbers that is written compactly is read as that value, whatever
follows it, if its containers are not nested too deep. Numbers are left out: the
messages between console and service have none, and where a number ends depends on
what follows.
-/

namespace BlogDesk.Json

/-- Values without numbers, their containers nested at most so deep and their members
in key order. -/
inductive Plain : Nat → Json → Prop
  | null {depth : Nat} : Plain depth .null
  | bool {depth : Nat} (value : Bool) : Plain depth (.bool value)
  | str {depth : Nat} (value : String) : Plain depth (.str value)
  | array {depth : Nat} {items : List Json} (hitems : ∀ item ∈ items, Plain depth item) :
    Plain (depth + 1) (.array items)
  | object {depth : Nat} {members : List (String × Json)}
      (hsorted : members.Pairwise fun a b => a.1 < b.1)
      (hmembers : ∀ member ∈ members, Plain depth member.2) :
    Plain (depth + 1) (.object members)

theorem Plain.mono {depth more : Nat} {value : Json} (h : Plain depth value) (hle : depth ≤ more) :
    Plain more value := by
  induction h generalizing more with
  | null => exact .null
  | bool value => exact .bool value
  | str value => exact .str value
  | array hitems ih =>
    obtain ⟨more, rfl⟩ : ∃ less, more = less + 1 := ⟨more - 1, by omega⟩
    exact .array fun item hitem => ih item hitem (by omega)
  | object hsorted hmembers ih =>
    obtain ⟨more, rfl⟩ : ∃ less, more = less + 1 := ⟨more - 1, by omega⟩
    exact .object hsorted fun member hmember => ih member hmember (by omega)

/-- What is written of a value begins with no blank and with no closing bracket. -/
theorem Plain.chars_cons {depth : Nat} {value : Json} (h : Plain depth value) :
    ∃ c tail, value.chars = c :: tail ∧ Cursor.isBlank c = false ∧ c ≠ ']' := by
  cases h with
  | null => exact ⟨_, _, rfl, by decide, by decide⟩
  | bool value => cases value <;> exact ⟨_, _, rfl, by decide, by decide⟩
  | str value => exact ⟨_, _, rfl, by decide, by decide⟩
  | @array _ items hitems => cases items <;> exact ⟨_, _, rfl, by decide, by decide⟩
  | @object _ members hsorted hmembers => cases members <;> exact ⟨_, _, rfl, by decide, by decide⟩

namespace Cursor

-- ---- Between items and members

variable {rest : List Char} {p : Position}

theorem nextItem?_close (first : Bool) :
    nextItem? ⟨']' :: rest, p⟩ first = .ok none := by
  rw [nextItem?, skipBlanks_cons (by decide)]
  rfl

theorem nextItem?_first {c : Char} (hblank : isBlank c = false) (hclose : c ≠ ']') :
    nextItem? ⟨c :: rest, p⟩ true = .ok (some ⟨c :: rest, p⟩) := by
  simp [nextItem?, skipBlanks_cons hblank]

theorem nextItem?_comma {c : Char} (hblank : isBlank c = false) (hclose : c ≠ ']') :
    nextItem? ⟨',' :: c :: rest, p⟩ false = .ok (some ⟨c :: rest, p.after ','⟩) := by
  rw [nextItem?, skipBlanks_cons (by decide)]
  simp only [advance_cons, skipBlanks_cons hblank]
  simp [hclose]

theorem nextKey?_close (first : Bool) :
    nextKey? ⟨'\x7d' :: rest, p⟩ first = .ok none := by
  rw [nextKey?, skipBlanks_cons (by decide)]
  rfl

theorem nextKey?_first :
    nextKey? ⟨'"' :: rest, p⟩ true = .ok (some ⟨rest, p.after '"'⟩) := by
  rw [nextKey?, skipBlanks_cons (by decide)]
  rfl

theorem nextKey?_comma :
    nextKey? ⟨',' :: '"' :: rest, p⟩ false = .ok (some ⟨rest, (p.after ',').after '"'⟩) := by
  rw [nextKey?, skipBlanks_cons (by decide)]
  simp only [advance_cons, skipBlanks_cons (show isBlank '"' = false by decide)]
  rfl

theorem colon_cons : colon ⟨':' :: rest, p⟩ = .ok ⟨rest, p.after ':'⟩ := by
  rw [colon, skipBlanks_cons (by decide)]
  rfl

-- ---- Values

/-- Whatever is written behind it, the value is read by whoever has the fuel for its
text and room for its containers. -/
def Reads (depth : Nat) (value : Json) : Prop :=
  ∀ {fuel room : Nat} (rest : List Char) (p : Position), 2 * value.chars.length ≤ fuel →
    depth < room → valueWithin fuel room ⟨value.chars ++ rest, p⟩ =
      .ok (value, ⟨rest, p.afterAll value.chars⟩)

variable {depth room fuel : Nat}

theorem enter_of_lt {c : Cursor} (h : depth + 1 < room) :
    c.enter room = .ok (room - 1) ∧ depth < room - 1 := by
  constructor
  · rw [enter, if_neg (by omega)]
  · omega

theorem itemsWithin_itemChars {items : List Json} (hplain : ∀ item ∈ items, Plain depth item)
    (hreads : ∀ item ∈ items, Reads depth item) (hroom : depth < room)
    (hfuel : 2 * (itemChars items).length ≤ fuel) (rest : List Char) (p : Position)
    (read : List Json) :
    itemsWithin fuel room false ⟨itemChars items ++ rest, p⟩ read =
      .ok (read.reverse ++ items, ⟨rest, p.afterAll (itemChars items)⟩) := by
  induction items generalizing fuel p read with
  | nil =>
    obtain ⟨fuel, rfl⟩ : ∃ less, fuel = less + 1 := ⟨fuel - 1, by simp [itemChars] at hfuel; omega⟩
    simp [itemChars, itemsWithin, nextItem?_close, skipBlanks_cons (show isBlank ']' = false by decide),
      bind, Except.bind]
  | cons item more ih =>
    obtain ⟨fuel, rfl⟩ : ∃ less, fuel = less + 1 := ⟨fuel - 1, by simp [itemChars] at hfuel; omega⟩
    obtain ⟨c, tail, hchars, hblank, hclose⟩ := (hplain item (by simp)).chars_cons
    simp only [itemChars, List.length_cons, List.length_append] at hfuel
    have hitem := hreads item (by simp) (itemChars more ++ rest) (p.after ',')
      (show 2 * item.chars.length ≤ fuel by omega) hroom
    have hmore := ih (fun other hother => hplain other (by simp [hother]))
      (fun other hother => hreads other (by simp [hother]))
      (show 2 * (itemChars more).length ≤ fuel by omega)
      ((p.after ',').afterAll item.chars) (item :: read)
    rw [itemChars, itemsWithin, List.cons_append, List.append_assoc, hchars, List.cons_append,
      nextItem?_comma hblank hclose, ← List.cons_append, ← hchars]
    simp [bind, Except.bind, hitem, hmore]

def listChars : List Json → List Char
  | [] => [']']
  | item :: rest => item.chars ++ itemChars rest

theorem chars_array (items : List Json) : (Json.array items).chars = '[' :: listChars items := by
  cases items <;> rfl

theorem itemsWithin_listChars {items : List Json} (hplain : ∀ item ∈ items, Plain depth item)
    (hreads : ∀ item ∈ items, Reads depth item) (hroom : depth < room)
    (hfuel : 2 * (listChars items).length ≤ fuel) (rest : List Char) (p : Position) :
    itemsWithin fuel room true ⟨listChars items ++ rest, p⟩ [] =
      .ok (items, ⟨rest, p.afterAll (listChars items)⟩) := by
  cases items with
  | nil =>
    obtain ⟨fuel, rfl⟩ : ∃ less, fuel = less + 1 := ⟨fuel - 1, by simp [listChars] at hfuel; omega⟩
    simp [listChars, itemsWithin, nextItem?_close, skipBlanks_cons (show isBlank ']' = false by decide),
      bind, Except.bind]
  | cons item more =>
    obtain ⟨c, tail, hchars, hblank, hclose⟩ := (hplain item (by simp)).chars_cons
    have hsome : 0 < item.chars.length := by simp [hchars]
    simp only [listChars, List.length_append] at hfuel
    obtain ⟨fuel, rfl⟩ : ∃ less, fuel = less + 1 := ⟨fuel - 1, by omega⟩
    have hlast : 0 < (itemChars more).length := by cases more <;> simp [itemChars]
    have hitem := hreads item (by simp) (itemChars more ++ rest) p
      (show 2 * item.chars.length ≤ fuel by omega) hroom
    have hmore := itemsWithin_itemChars (fun other hother => hplain other (by simp [hother]))
      (fun other hother => hreads other (by simp [hother])) hroom
      (show 2 * (itemChars more).length ≤ fuel by omega) rest (p.afterAll item.chars) [item]
    rw [listChars, itemsWithin, List.append_assoc, hchars, List.cons_append,
      nextItem?_first hblank hclose, ← List.cons_append, ← hchars]
    simp [bind, Except.bind, hitem, hmore]

def memberText (member : String × Json) : List Char := quote member.1 ++ ':' :: member.2.chars

theorem memberChars_cons (member : String × Json) (rest : List (String × Json)) :
    memberChars (member :: rest) = ',' :: (memberText member ++ memberChars rest) := by
  simp [memberChars, memberText]

theorem membersWithin_memberChars {members : List (String × Json)}
    (hreads : ∀ member ∈ members, Reads depth member.2) (hroom : depth < room)
    (hfuel : 2 * (memberChars members).length ≤ fuel) (rest : List Char) (p : Position)
    (read : List (String × Json)) :
    membersWithin fuel room false ⟨memberChars members ++ rest, p⟩ read =
      .ok (read.reverse ++ members, ⟨rest, p.afterAll (memberChars members)⟩) := by
  induction members generalizing fuel p read with
  | nil =>
    obtain ⟨fuel, rfl⟩ : ∃ less, fuel = less + 1 :=
      ⟨fuel - 1, by simp [memberChars] at hfuel; omega⟩
    simp [memberChars, membersWithin, nextKey?_close,
      skipBlanks_cons (show isBlank '\x7d' = false by decide), bind, Except.bind]
  | cons member more ih =>
    obtain ⟨key, value⟩ := member
    simp only [memberChars_cons, memberText, quote, List.length_cons, List.length_append] at hfuel
    obtain ⟨fuel, rfl⟩ : ∃ less, fuel = less + 1 := ⟨fuel - 1, by omega⟩
    have htext := text_quote key (':' :: (value.chars ++ (memberChars more ++ rest)))
      ((p.after ',').after '"')
    have hvalue := fun q => hreads (key, value) (by simp) (memberChars more ++ rest) q
      (show 2 * value.chars.length ≤ fuel by omega) hroom
    have hmore := fun q => ih (fun other hother => hreads other (by simp [hother]))
      (show 2 * (memberChars more).length ≤ fuel by omega) q ((key, value) :: read)
    simp only [memberChars_cons, memberText, quote, List.cons_append, List.append_assoc,
      List.nil_append]
    rw [membersWithin, nextKey?_comma]
    simp [bind, Except.bind, htext, colon_cons, hvalue, hmore]

def objectChars : List (String × Json) → List Char
  | [] => ['\x7d']
  | member :: rest => memberText member ++ memberChars rest

theorem chars_object (members : List (String × Json)) :
    (Json.object members).chars = '\x7b' :: objectChars members := by
  cases members <;> simp [chars, objectChars, memberText]

theorem membersWithin_objectChars {members : List (String × Json)}
    (hreads : ∀ member ∈ members, Reads depth member.2) (hroom : depth < room)
    (hfuel : 2 * (objectChars members).length ≤ fuel) (rest : List Char) (p : Position) :
    membersWithin fuel room true ⟨objectChars members ++ rest, p⟩ [] =
      .ok (members, ⟨rest, p.afterAll (objectChars members)⟩) := by
  cases members with
  | nil =>
    obtain ⟨fuel, rfl⟩ : ∃ less, fuel = less + 1 :=
      ⟨fuel - 1, by simp [objectChars] at hfuel; omega⟩
    simp [objectChars, membersWithin, nextKey?_close,
      skipBlanks_cons (show isBlank '\x7d' = false by decide), bind, Except.bind]
  | cons member more =>
    obtain ⟨key, value⟩ := member
    simp only [objectChars, memberText, quote, List.length_cons, List.length_append] at hfuel
    obtain ⟨fuel, rfl⟩ : ∃ less, fuel = less + 1 := ⟨fuel - 1, by omega⟩
    have htext := text_quote key (':' :: (value.chars ++ (memberChars more ++ rest))) (p.after '"')
    have hvalue := fun q => hreads (key, value) (by simp) (memberChars more ++ rest) q
      (show 2 * value.chars.length ≤ fuel by omega) hroom
    have hmore := fun q => membersWithin_memberChars
      (fun other hother => hreads other (by simp [hother])) hroom
      (show 2 * (memberChars more).length ≤ fuel by omega) rest q [(key, value)]
    simp only [objectChars, memberText, quote, List.cons_append, List.append_assoc, List.nil_append]
    rw [membersWithin, nextKey?_first]
    simp [bind, Except.bind, htext, colon_cons, hvalue, hmore]

theorem valueWithin_scalar {c : Char} (hblank : isBlank c = false) (hlist : c ≠ '[')
    (hobject : c ≠ '\x7b') (rest : List Char) (p : Position) :
    valueWithin (fuel + 1) room ⟨c :: rest, p⟩ = scalar ⟨c :: rest, p⟩ := by
  rw [valueWithin, skipBlanks_cons hblank]
  simp [hlist, hobject]

end Cursor

open Cursor in
/-- A plain value is read back from its text. -/
theorem Plain.reads {depth : Nat} {value : Json} (h : Plain depth value) : Reads depth value := by
  induction h with
  | null =>
    intro fuel room rest p hfuel hroom
    obtain ⟨fuel, rfl⟩ : ∃ less, fuel = less + 1 := ⟨fuel - 1, by simp [chars] at hfuel; omega⟩
    simp only [chars, List.cons_append]
    rw [valueWithin_scalar (by decide) (by decide) (by decide)]
    rfl
  | bool value =>
    intro fuel room rest p hfuel hroom
    obtain ⟨fuel, rfl⟩ : ∃ less, fuel = less + 1 :=
      ⟨fuel - 1, by cases value <;> simp [chars] at hfuel <;> omega⟩
    cases value with
    | true =>
      simp only [chars, List.cons_append]
      rw [valueWithin_scalar (by decide) (by decide) (by decide)]
      rfl
    | false =>
      simp only [chars, List.cons_append]
      rw [valueWithin_scalar (by decide) (by decide) (by decide)]
      rfl
  | str value =>
    intro fuel room rest p hfuel hroom
    obtain ⟨fuel, rfl⟩ : ∃ less, fuel = less + 1 := ⟨fuel - 1, by simp [chars, quote] at hfuel; omega⟩
    simp only [chars, quote, List.cons_append, List.append_assoc, List.nil_append]
    rw [valueWithin_scalar (by decide) (by decide) (by decide)]
    simp [scalar, text_quote, bind, Except.bind]
  | @array depth items hitems ih =>
    intro fuel room rest p hfuel hroom
    rw [chars_array] at hfuel ⊢
    simp only [List.length_cons] at hfuel
    obtain ⟨fuel, rfl⟩ : ∃ less, fuel = less + 1 := ⟨fuel - 1, by omega⟩
    obtain ⟨henter, hless⟩ := enter_of_lt (c := ⟨'[' :: (listChars items ++ rest), p⟩) hroom
    -- The opening bracket pays for the step from the list to its items.
    have hlist := itemsWithin_listChars hitems ih hless
      (show 2 * (listChars items).length ≤ fuel by omega) rest (p.after '[')
    rw [List.cons_append, valueWithin, skipBlanks_cons (by decide)]
    simp [bind, Except.bind, henter, hlist]
  | @object depth members hsorted hmembers ih =>
    intro fuel room rest p hfuel hroom
    rw [chars_object] at hfuel ⊢
    simp only [List.length_cons] at hfuel
    obtain ⟨fuel, rfl⟩ : ∃ less, fuel = less + 1 := ⟨fuel - 1, by omega⟩
    obtain ⟨henter, hless⟩ := enter_of_lt (c := ⟨'\x7b' :: (objectChars members ++ rest), p⟩) hroom
    have hobject := membersWithin_objectChars ih hless
      (show 2 * (objectChars members).length ≤ fuel by omega) rest (p.after '\x7b')
    rw [List.cons_append, valueWithin, skipBlanks_cons (by decide)]
    simp [bind, Except.bind, henter, hobject, ofMembers, Keyed.ofList_of_sorted hsorted]

end BlogDesk.Json
