import BlogDesk.Proofs.Json.Agreement
import BlogDesk.Proofs.Wire

/-!
# Records round trip

What one side writes of a record, the other side reads as that record, from the text at once
as well as from the value that the text is parsed to, and so it is with whatever was read
before.
-/

namespace BlogDesk

namespace Json

/-- The text of an object is parsed to its members in key order. -/
theorem parse_render {members : List (String × Json)}
    (hplain : ∀ member ∈ members, Plain 126 member.2) :
    parse (Json.object members).render = .ok (.ofMembers members) := by
  obtain ⟨henter, hless⟩ : Cursor.enter ⟨'\x7b' :: Cursor.objectChars members, .start⟩ maxDepth =
      .ok (maxDepth - 1) ∧ 126 < maxDepth - 1 := Cursor.enter_of_lt (by decide)
  have hfuel := Nat.le_add_right (2 * (Cursor.objectChars members).length) 3
  have hmembers := Cursor.membersWithin_objectChars
    (fun member hmember => (hplain member hmember).reads) hless hfuel []
    (Position.start.after '\x7b')
  rw [List.append_nil] at hmembers
  rw [parse, render, String.toList_ofList, Cursor.chars_object, Cursor.value, Cursor.fuel]
  simp only [Cursor.ofText, List.length_cons, Nat.mul_succ]
  rw [Cursor.valueWithin, Cursor.skipBlanks_cons (by decide)]
  simp only [henter, Cursor.advance_cons, hmembers, bind, Except.bind]
  rfl

theorem Contents.mem_members {fields : List Field} {contents : Contents fields}
    {member : String × Json}
    (htexts : ∀ field ∈ fields, field.kind = .text ∨ field.kind = .optionalText)
    (h : member ∈ Contents.members fields contents) :
    (∃ text, member.2 = .str text) ∧ member.1 ∈ fields.map (·.key) := by
  induction fields with
  | nil => cases h
  | cons field rest ih =>
    obtain ⟨content, more⟩ := contents
    obtain ⟨hfirst, hrest⟩ := List.forall_mem_cons.mp htexts
    obtain ⟨key, kind, default⟩ := field
    have hlater (hin : member ∈ Contents.members rest more) :=
      (ih hrest hin).imp_right (List.mem_cons_of_mem key)
    rcases hfirst with hkind | hkind
    · obtain rfl : kind = .text := hkind
      rcases List.mem_cons.mp h with rfl | hin
      · exact ⟨⟨content, rfl⟩, List.mem_cons_self⟩
      · exact hlater hin
    · obtain rfl : kind = .optionalText := hkind
      cases content with
      | none => exact hlater h
      | some text =>
        rcases List.mem_cons.mp h with rfl | hin
        · exact ⟨⟨text, rfl⟩, List.mem_cons_self⟩
        · exact hlater hin

namespace Layout

variable {α : Type}

/-- What `writer` writes of a record, `reader` reads as that record. -/
structure Interchanges (writer reader : Layout α) : Prop where
  /-- As a text, -/
  text (a : α) : reader.read (writer.write a) = .ok a
  /-- as the value that the text is parsed to, -/
  value (a : α) : ∃ value, parse (writer.write a) = .ok value ∧ reader.ofJson value = .ok a
  /-- and with its members in any order. -/
  order {a : α} {members : List (String × Json)} (hperm : (writer.members a).Perm members) :
    reader.read (Json.object members).render = .ok a
  distinct {a b : α} (hwrite : writer.write a = writer.write b) : a = b
  /-- Whatever a text is read as, its value is read as as well, -/
  same {text : String} {value : Json} {a : α} (hread : reader.read text = .ok a)
    (hparse : parse text = .ok value) : reader.ofJson value = .ok a
  /-- and what is written of it is read as the text was, -/
  again {text : String} {a : α} (hread : reader.read text = .ok a) :
    reader.read (writer.write a) = reader.read text
  /-- also as a value. -/
  againValue {value : Json} {a : α} (hread : reader.ofJson value = .ok a) :
    ∃ again, parse (writer.write a) = .ok again ∧ reader.ofJson again = reader.ofJson value

theorem interchanges {writer reader : Layout α}
    (htexts : ∀ field ∈ writer.fields, field.kind = .text ∨ field.kind = .optionalText)
    (hkeys : writer.fields.map (·.key) = reader.fields.map (·.key))
    (h : ∀ a, reader.ofJson (.object (writer.members a)) = .ok a) : writer.Interchanges reader := by
  have hordered : ∀ {a : α} {members : List (String × Json)}, (writer.members a).Perm members →
      reader.read (Json.object members).render = .ok a ∧
        parse (Json.object members).render = .ok (.ofMembers members) := by
    intro a members hperm
    have hmembers : ∀ member ∈ members, Plain 126 member.2 ∧ member.1 ∈ reader.fields.map (·.key) := by
      intro member hmember
      obtain ⟨⟨text, htext⟩, hkey⟩ := Contents.mem_members htexts (hperm.mem_iff.mpr hmember)
      exact ⟨htext ▸ .str text, hkeys ▸ hkey⟩
    have hread : reader.ofJson (.object members) = .ok a := by
      obtain ⟨slots, hput, hfinish⟩ := bind_eq_ok.mp (h a)
      exact bind_eq_ok.mpr ⟨slots, Slots.putMembers_perm hperm hput, hfinish⟩
    exact ⟨read_render (fun member hmember => (hmembers member hmember).1)
      (fun member hmember => (hmembers member hmember).2) hread,
      parse_render fun member hmember => (hmembers member hmember).1⟩
  have htext (a : α) : reader.read (writer.write a) = .ok a := (hordered (.refl _)).1
  have hvalue (a : α) : ∃ value, parse (writer.write a) = .ok value ∧ reader.ofJson value = .ok a :=
    ⟨_, (hordered (.refl _)).2, ofJson_of_read (htext a) (hordered (.refl _)).2⟩
  refine ⟨htext, hvalue, fun hperm => (hordered hperm).1, fun {a b} hwrite => ?_, ofJson_of_read,
    fun hread => (htext _).trans hread.symm, fun hread => hread ▸ hvalue _⟩
  have hsame := htext a
  rw [hwrite, htext b] at hsame
  exact (Except.ok.inj hsame).symm

end Layout

end Json

/-- Users, registrations, blogs and what blogs are deleted by come through unchanged between the
console and the service, whichever of the two writes and whichever reads. -/
theorem records_round_trip :
    User.layout.Interchanges User.layout ∧
    NewUser.layout.Interchanges NewUser.layout ∧ NewUser.layout.Interchanges NewUser.lenientLayout ∧
    Blog.layout.Interchanges Blog.layout ∧ Blog.layout.Interchanges Blog.lenientLayout ∧
    Blog.lenientLayout.Interchanges Blog.lenientLayout ∧ Blog.lenientLayout.Interchanges Blog.layout ∧
    SlugArgs.layout.Interchanges SlugArgs.layout ∧
    SlugArgs.layout.Interchanges SlugArgs.lenientLayout := by
  refine ⟨?_, ?_, ?_, ?_, ?_, ?_, ?_, ?_, ?_⟩ <;>
    refine Json.Layout.interchanges (by decide) rfl ?_
  · rintro ⟨username, _ | name⟩ <;> rfl
  · rintro ⟨username, password, _ | name⟩ <;> rfl
  · rintro ⟨username, password, _ | name⟩ <;> rfl
  · rintro ⟨slug, _ | name⟩ <;> rfl
  · rintro ⟨slug, _ | name⟩ <;> rfl
  · rintro ⟨slug, _ | name⟩ <;> rfl
  · rintro ⟨slug, _ | name⟩ <;> rfl
  · exact fun _ => rfl
  · exact fun _ => rfl

example : User.layout.read "[\"ada\", null]" = .ok ⟨"ada", none⟩ := rfl

example : Blog.layout.read
    "\x7b\"Tags\": [1e999, \x7b\x7d], \"DisplayName\": \"\", \"Slug\": \"a\"\x7d" =
      .ok ⟨"a", some ""⟩ := rfl

end BlogDesk
