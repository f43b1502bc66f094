import BlogDesk.Json.Layout
import BlogDesk.Proofs.Json.Value

/-!
# Records are read back

A record can be read from a text at once, or from the value that the text was parsed
to. `Layout.read_render`: on the text of a plain object whose keys are all known, what
the second way reads the first one reads too.
-/

namespace BlogDesk.Json

namespace Cursor

variable {depth room fuel : Nat}

theorem text_str (value : String) (rest : List Char) (p : Position) :
    textContent ⟨(Json.str value).chars ++ rest, p⟩ =
      .ok (value, ⟨rest, p.afterAll (Json.str value).chars⟩) := by
  simp only [chars, quote, List.cons_append, List.append_assoc, List.nil_append]
  rw [textContent, skipBlanks_cons (by decide)]
  simp [text_quote]

theorem null?_null (rest : List Char) (p : Position) :
    null? ⟨Json.null.chars ++ rest, p⟩ = .ok (some ⟨rest, p.afterAll Json.null.chars⟩) := by
  simp only [chars, List.cons_append, List.nil_append]
  rw [null?, skipBlanks_cons (by decide)]
  rfl

theorem null?_of_ne {value : Json} (hplain : Plain depth value) (hnull : value.isNull = false)
    (rest : List Char) (p : Position) : null? ⟨value.chars ++ rest, p⟩ = .ok none := by
  obtain ⟨c, tail, hchars, hblank, hn⟩ : ∃ c tail, value.chars = c :: tail ∧ isBlank c = false ∧
      c ≠ 'n' := by
    cases hplain with
    | null => cases hnull
    | bool value => cases value <;> exact ⟨_, _, rfl, by decide, by decide⟩
    | str value => exact ⟨_, _, rfl, by decide, by decide⟩
    | array hitems => exact ⟨_, _, chars_array _, by decide, by decide⟩
    | object hsorted hmembers => exact ⟨_, _, chars_object _, by decide, by decide⟩
  rw [hchars, List.cons_append, null?, skipBlanks_cons hblank]
  simp [hn]

theorem value_chars {value : Json} (hplain : Plain depth value) (hroom : depth < room)
    (rest : List Char) (p : Position) :
    Cursor.value ⟨value.chars ++ rest, p⟩ room = .ok (value, ⟨rest, p.afterAll value.chars⟩) := by
  refine hplain.reads rest p ?_ hroom
  simp only [fuel, List.length_append]
  omega

theorem content_chars {value : Json} {kind : Kind} {content : kind.Content}
    (hplain : Plain depth value) (hroom : depth < room) (h : kind.ofJson value = .ok content)
    (rest : List Char) (p : Position) :
    Cursor.content ⟨value.chars ++ rest, p⟩ room kind =
      .ok (content, ⟨rest, p.afterAll value.chars⟩) := by
  cases kind with
  | text =>
    cases hplain with
    | str text =>
      obtain rfl := Except.ok.inj h
      exact text_str text rest p
    | _ => cases h
  | optionalText =>
    cases hplain with
    | null =>
      cases h
      simp [Cursor.content, null?_null, bind, Except.bind]
    | str value =>
      cases h
      have htext : Plain 0 (.str value) := .str value
      simp [Cursor.content, null?_of_ne htext rfl, text_str, bind, Except.bind]
    | _ => cases h
  | value =>
    cases h
    exact value_chars hplain hroom rest p
  | optionalValue =>
    cases hnull : value.isNull with
    | true =>
      cases value with
      | null =>
        cases h
        simp [Cursor.content, null?_null, bind, Except.bind]
      | _ => cases hnull
    | false =>
      have hcontent : content = some value := by
        cases value <;> cases h <;> first | rfl | cases hnull
      subst hcontent
      simp [Cursor.content, null?_of_ne hplain hnull, value_chars hplain hroom, bind, Except.bind]
  | values =>
    cases hplain with
    | @array depth items hitems =>
      obtain rfl := Except.ok.inj h
      obtain ⟨henter, hless⟩ := enter_of_lt (c := ⟨'[' :: (listChars items ++ rest), p⟩) hroom
      have hlist := itemsWithin_listChars hitems (fun item hitem => (hitems item hitem).reads) hless
        (show 2 * (listChars items).length ≤ fuel ⟨listChars items ++ rest, p.after '['⟩ by
          simp only [fuel, List.length_append]
          omega) rest (p.after '[')
      rw [chars_array, List.cons_append, Cursor.content, skipBlanks_cons (by decide)]
      simp [bind, Except.bind, henter, Cursor.items, hlist]
    | _ => cases h

-- ---- Members

theorem member_chars {value : Json} (hplain : Plain depth value) (hroom : depth < room)
    {key : String} {fields : List Field} {slots filled : Slots fields}
    (hknown : key ∈ fields.map (·.key)) (h : Slots.putJson key value fields slots = .ok filled)
    (rest : List Char) (p : Position) :
    member ⟨':' :: (value.chars ++ rest), p⟩ room key fields slots =
      .ok (filled, ⟨rest, p.afterAll (':' :: value.chars)⟩) := by
  induction fields with
  | nil => cases hknown
  | cons field fields ih =>
    obtain ⟨slot, more⟩ := slots
    rw [Slots.putJson] at h
    rw [member]
    by_cases hkey : key = field.key
    · rw [if_pos hkey] at h ⊢
      by_cases hslot : slot.isSome = true
      · rw [if_pos hslot] at h
        cases h
      · rw [if_neg hslot] at h ⊢
        cases hcontent : field.kind.ofJson value with
        | error cause => simp [hcontent, bind, Except.bind] at h
        | ok content =>
          simp only [hcontent, bind, Except.bind] at h
          cases h
          simp [colon_cons, content_chars hplain hroom hcontent, bind, Except.bind]
    · rw [if_neg hkey] at h ⊢
      cases hmore : Slots.putJson key value fields more with
      | error cause => simp [hmore, bind, Except.bind] at h
      | ok filled =>
        simp only [hmore, bind, Except.bind] at h
        cases h
        have hrest : key ∈ fields.map (·.key) := by
          simp only [List.map_cons, List.mem_cons] at hknown
          rcases hknown with hfirst | hrest
          · exact absurd hfirst hkey
          · exact hrest
        simp [ih hrest hmore, bind, Except.bind]

/-- What follows of a record once the key of a member was read. -/
theorem recordMembers_member {fields : List Field} {slots filled : Slots fields}
    {member : String × Json} (hplain : Plain depth member.2) (hroom : depth < room)
    (hknown : member.1 ∈ fields.map (·.key))
    (h : Slots.putJson member.1 member.2 fields slots = .ok filled) (rest : List Char)
    (p : Position) (fuel : Nat) (first : Bool) {start : Cursor}
    (hkey : nextKey? start first =
      .ok (some ⟨member.1.toList.flatMap escapeChar ++ '"' :: ':' :: (member.2.chars ++ rest), p⟩)) :
    recordMembers fields (fuel + 1) room first start slots =
      recordMembers fields fuel room false
        ⟨rest, p.afterAll (member.1.toList.flatMap escapeChar ++ '"' :: ':' :: member.2.chars)⟩
        filled := by
  rw [recordMembers, hkey]
  simp [bind, Except.bind, text_quote, member_chars hplain hroom hknown h]

theorem recordMembers_memberChars {fields : List Field} {members : List (String × Json)}
    (hplain : ∀ member ∈ members, Plain depth member.2) (hroom : depth < room)
    (hknown : ∀ member ∈ members, member.1 ∈ fields.map (·.key)) {slots filled : Slots fields}
    (h : Slots.putMembers fields members slots = .ok filled)
    (hfuel : (memberChars members).length ≤ fuel) (rest : List Char) (p : Position) :
    recordMembers fields fuel room false ⟨memberChars members ++ rest, p⟩ slots =
      .ok (filled, ⟨rest, p.afterAll (memberChars members)⟩) := by
  induction members generalizing fuel p slots with
  | nil =>
    obtain ⟨fuel, rfl⟩ : ∃ less, fuel = less + 1 :=
      ⟨fuel - 1, by simp [memberChars] at hfuel; omega⟩
    cases h
    simp [memberChars, recordMembers, nextKey?_close,
      skipBlanks_cons (show isBlank '\x7d' = false by decide), bind, Except.bind]
  | cons member more ih =>
    simp only [memberChars_cons, memberText, List.length_cons, List.length_append] at hfuel
    obtain ⟨fuel, rfl⟩ : ∃ less, fuel = less + 1 := ⟨fuel - 1, by omega⟩
    rw [Slots.putMembers] at h
    cases hput : Slots.putJson member.1 member.2 fields slots with
    | error cause => simp [hput, bind, Except.bind] at h
    | ok next =>
      simp only [hput, bind, Except.bind] at h
      have hmember := recordMembers_member (hplain member (by simp)) hroom
        (hknown member (by simp)) hput (memberChars more ++ rest) ((p.after ',').after '"') fuel
        false nextKey?_comma
      have hmore := fun q => ih (fun other hother => hplain other (by simp [hother]))
        (fun other hother => hknown other (by simp [hother])) h
        (show (memberChars more).length ≤ fuel by omega) q
      simp only [memberChars_cons, memberText, quote, List.cons_append, List.append_assoc,
        List.nil_append]
      rw [hmember, hmore]
      simp

theorem recordMembers_objectChars {fields : List Field} {members : List (String × Json)}
    (hplain : ∀ member ∈ members, Plain depth member.2) (hroom : depth < room)
    (hknown : ∀ member ∈ members, member.1 ∈ fields.map (·.key)) {slots filled : Slots fields}
    (h : Slots.putMembers fields members slots = .ok filled)
    (hfuel : (objectChars members).length ≤ fuel) (rest : List Char) (p : Position) :
    recordMembers fields fuel room true ⟨objectChars members ++ rest, p⟩ slots =
      .ok (filled, ⟨rest, p.afterAll (objectChars members)⟩) := by
  cases members with
  | nil =>
    obtain ⟨fuel, rfl⟩ : ∃ less, fuel = less + 1 :=
      ⟨fuel - 1, by simp [objectChars] at hfuel; omega⟩
    cases h
    simp [objectChars, recordMembers, nextKey?_close,
      skipBlanks_cons (show isBlank '\x7d' = false by decide), bind, Except.bind]
  | cons member more =>
    simp only [objectChars, memberText, List.length_cons, List.length_append] at hfuel
    obtain ⟨fuel, rfl⟩ : ∃ less, fuel = less + 1 := ⟨fuel - 1, by omega⟩
    rw [Slots.putMembers] at h
    cases hput : Slots.putJson member.1 member.2 fields slots with
    | error cause => simp [hput, bind, Except.bind] at h
    | ok next =>
      simp only [hput, bind, Except.bind] at h
      have hmember := recordMembers_member (hplain member (by simp)) hroom
        (hknown member (by simp)) hput (memberChars more ++ rest) (p.after '"') fuel true
        nextKey?_first
      have hmore := fun q => recordMembers_memberChars
        (fun other hother => hplain other (by simp [hother])) hroom
        (fun other hother => hknown other (by simp [hother])) h (show _ ≤ fuel by omega) rest q
      simp only [objectChars, memberText, quote, List.cons_append, List.append_assoc,
        List.nil_append]
      rw [hmember, hmore]
      simp

end Cursor

/-- The text of an object is read as the record that its value is. -/
theorem Layout.read_render {α : Type} {layout : Layout α} {members : List (String × Json)} {a : α}
    (hplain : ∀ member ∈ members, Plain 126 member.2)
    (hknown : ∀ member ∈ members, member.1 ∈ layout.fields.map (·.key))
    (h : layout.ofJson (.object members) = .ok a) :
    layout.read (Json.object members).render = .ok a := by
  rw [ofJson] at h
  cases hput : Slots.putMembers layout.fields members (.empty layout.fields) with
  | error cause => simp [hput, bind, Except.bind] at h
  | ok slots =>
    cases hfinish : slots.finish layout.fields with
    | error cause => simp [hput, hfinish, bind, Except.bind] at h
    | ok contents =>
      simp only [hput, hfinish, bind, Except.bind, Except.ok.injEq] at h
      subst h
      obtain ⟨henter, hless⟩ : Cursor.enter ⟨'\x7b' :: Cursor.objectChars members, .start⟩ maxDepth =
          .ok (maxDepth - 1) ∧ 126 < maxDepth - 1 := Cursor.enter_of_lt (by decide)
      have hfuel : (Cursor.objectChars members).length ≤
          Cursor.fuel ⟨'\x7b' :: Cursor.objectChars members, .start⟩ := by
        simp only [Cursor.fuel, List.length_cons]
        omega
      have hrecord := Cursor.recordMembers_objectChars hplain hless hknown hput hfuel []
        (Position.start.after '\x7b')
      rw [List.append_nil] at hrecord
      simp only [read, render, String.toList_ofList, Cursor.ofText, Cursor.chars_object, Cursor.record,
        Cursor.skipBlanks_cons (show Cursor.isBlank '\x7b' = false by decide), bind, Except.bind,
        henter, Cursor.advance_cons, hrecord, hfinish, Cursor.atCause]
      rfl

end BlogDesk.Json
