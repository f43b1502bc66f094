import BlogDesk.Proofs.Json.Skipping
import BlogDesk.Proofs.Keyed

/-!
# Two ways to read a record

A record is read from a text at once, or from the value that the text is parsed to. Where both
succeed they come to the same: `Layout.ofJson_of_read`.
-/

namespace BlogDesk.Json

namespace Contents

theorem ofItems_cons {record : String} {wanted read left : Nat} {field : Field} {rest : List Field}
    {item : Json} {items : List Json} {contents : Contents (field :: rest)} :
    ofItems record wanted (field :: rest) read (item :: items) = .ok (contents, left) ↔
      ∃ content more, field.kind.ofJson item = .ok content ∧
        ofItems record wanted rest (read + 1) items = .ok (more, left) ∧
        contents = (content, more) := by
  rw [ofItems, bind_eq_ok]
  refine exists_congr fun content => ?_
  constructor
  · rintro ⟨hmade, h⟩
    obtain ⟨⟨more, rest⟩, hmore, heq⟩ := bind_eq_ok.mp h
    cases heq
    exact ⟨more, hmade, hmore, rfl⟩
  · rintro ⟨more, hmade, hmore, rfl⟩
    exact ⟨hmade, bind_eq_ok.mpr ⟨_, hmore, rfl⟩⟩

end Contents

namespace Cursor

-- ---- Reading is determined

theorem valueWithin_other {fuel depth : Nat} {c : Cursor}
    (hlist : ∀ rest, c.skipBlanks.rest ≠ '[' :: rest)
    (hobject : ∀ rest, c.skipBlanks.rest ≠ '\x7b' :: rest) :
    valueWithin (fuel + 1) depth c = c.skipBlanks.scalar := by
  rw [valueWithin]
  simp only

/-- How much fuel and room there is tells at most whether a value is read, and not which. -/
theorem valueWithin_alike (fuel : Nat) :
    (∀ {other depth room c}, Alike (valueWithin fuel depth c) (valueWithin other room c)) ∧
    (∀ {other depth room first c read},
      Alike (itemsWithin fuel depth first c read) (itemsWithin other room first c read)) ∧
    (∀ {other depth room first c read},
      Alike (membersWithin fuel depth first c read) (membersWithin other room first c read)) := by
  induction fuel with
  | zero => exact ⟨nofun, nofun, nofun⟩
  | succ fuel ih =>
    obtain ⟨ihvalue, ihitems, ihmembers⟩ := ih
    refine ⟨fun {other depth room c} => ?_, fun {other depth room first c read} => ?_,
      fun {other depth room first c read} => ?_⟩ <;> cases other with
    | zero => nofun
    | succ other => ?_
    · rw [valueWithin, valueWithin]
      simp only
      split
      · exact .bind_any fun _ _ => .bind ihitems fun _ => .refl _
      · exact .bind_any fun _ _ => .bind ihmembers fun _ => .refl _
      · exact .refl _
    · rw [itemsWithin, itemsWithin]
      refine .bind (.refl _) fun next => ?_
      cases next with
      | none => exact .refl _
      | some next => exact .bind ihvalue fun _ => ihitems
    · rw [membersWithin, membersWithin]
      refine .bind (.refl _) fun next => ?_
      cases next with
      | none => exact .refl _
      | some next =>
        refine .bind (.refl _) fun key => .bind (.refl _) fun start => ?_
        exact .bind ihvalue fun _ => ihmembers

-- ---- Contents

section
variable {fuel depth room : Nat} {c after behind : Cursor} {value : Json}

theorem valueWithin_text {text : String} (h : c.textContent = .ok (text, after))
    (hvalue : valueWithin fuel depth c = .ok (value, behind)) :
    behind = after ∧ value = .str text := by
  cases fuel with
  | zero => cases hvalue
  | succ fuel =>
    rw [textContent] at h
    split at h
    case h_1 rest hrest =>
      rw [valueWithin_other (by simp [hrest]) (by simp [hrest])] at hvalue
      simp only [scalar, hrest, bind_eq_ok] at hvalue
      obtain ⟨again, hagain, hvalue⟩ := hvalue
      cases h.symm.trans hagain
      cases hvalue
      exact ⟨rfl, rfl⟩
    case h_2 => cases h

theorem valueWithin_null (h : c.null? = .ok (some after))
    (hvalue : valueWithin fuel depth c = .ok (value, behind)) : behind = after ∧ value = .null := by
  cases fuel with
  | zero => cases hvalue
  | succ fuel =>
    simp only [null?] at h
    split at h
    case h_1 rest hrest =>
      rw [valueWithin_other (by simp [hrest]) (by simp [hrest])] at hvalue
      simp only [scalar, hrest, bind_eq_ok] at h hvalue
      obtain ⟨again, hagain, h⟩ := h
      obtain ⟨_, hword, hvalue⟩ := hvalue
      cases hagain.symm.trans hword
      cases h
      cases hvalue
      exact ⟨rfl, rfl⟩
    case h_2 => cases h

theorem null?_eq_none (h : c.null? = .ok none) (rest : List Char) :
    c.skipBlanks.rest ≠ 'n' :: rest := by
  intro hrest
  simp only [null?, hrest, bind_eq_ok] at h
  obtain ⟨_, -, h⟩ := h
  cases h

theorem scalar_ne_null (hn : ∀ rest, c.rest ≠ 'n' :: rest) : c.scalar ≠ .ok (.null, after) := by
  intro h
  rw [scalar] at h
  split at h
  case h_1 => cases h
  case h_2 rest hrest => exact hn rest hrest
  case h_3 | h_4 | h_5 | h_6 =>
    obtain ⟨_, -, h⟩ := bind_eq_ok.mp h
    cases h
  case h_7 =>
    split at h
    · obtain ⟨_, -, h⟩ := bind_eq_ok.mp h
      cases h
    · cases h

theorem valueWithin_ne_null (h : c.null? = .ok none)
    (hvalue : valueWithin fuel depth c = .ok (value, behind)) : value ≠ .null := by
  rintro rfl
  cases fuel with
  | zero => cases hvalue
  | succ fuel =>
    rw [valueWithin] at hvalue
    split at hvalue
    case h_3 => exact scalar_ne_null (null?_eq_none h) hvalue
    all_goals
      simp only [bind_eq_ok] at hvalue
      obtain ⟨_, -, _, -, hvalue⟩ := hvalue
      cases hvalue

/-- What is made of a text at once is what is made of the value that stands there. -/
theorem ofJson_of_content {kind : Kind} {content : kind.Content}
    (h : c.content depth kind = .ok (content, after))
    (hvalue : valueWithin fuel room c = .ok (value, behind)) :
    behind = after ∧ kind.ofJson value = .ok content := by
  cases kind with
  | text =>
    obtain ⟨rfl, rfl⟩ := valueWithin_text h hvalue
    exact ⟨rfl, rfl⟩
  | optionalText =>
    simp only [Cursor.content, bind_eq_ok] at h
    obtain ⟨null, hnull, h⟩ := h
    cases null with
    | some found =>
      cases h
      obtain ⟨rfl, rfl⟩ := valueWithin_null hnull hvalue
      exact ⟨rfl, rfl⟩
    | none =>
      simp only [bind_eq_ok] at h
      obtain ⟨⟨text, found⟩, htext, h⟩ := h
      cases h
      obtain ⟨rfl, rfl⟩ := valueWithin_text htext hvalue
      exact ⟨rfl, rfl⟩
  | value =>
    cases (valueWithin_alike _).1 h hvalue
    exact ⟨rfl, rfl⟩
  | optionalValue =>
    simp only [Cursor.content, bind_eq_ok] at h
    obtain ⟨null, hnull, h⟩ := h
    cases null with
    | some found =>
      cases h
      obtain ⟨rfl, rfl⟩ := valueWithin_null hnull hvalue
      exact ⟨rfl, rfl⟩
    | none =>
      simp only [bind_eq_ok] at h
      obtain ⟨⟨found, last⟩, hfound, h⟩ := h
      cases h
      cases (valueWithin_alike _).1 hfound hvalue
      have hne := valueWithin_ne_null hnull hvalue
      cases value <;> first | exact absurd rfl hne | exact ⟨rfl, rfl⟩
  | values =>
    cases fuel with
    | zero => cases hvalue
    | succ fuel =>
      simp only [Cursor.content] at h
      split at h
      case h_1 rest hrest =>
        rw [valueWithin] at hvalue
        simp only [hrest, bind_eq_ok] at h hvalue
        obtain ⟨_, -, h⟩ := h
        obtain ⟨_, -, again, hagain, hvalue⟩ := hvalue
        -- The items were read with less fuel than the list as a value, which changes nothing.
        cases (valueWithin_alike _).2.1 h hagain
        cases hvalue
        exact ⟨rfl, rfl⟩
      case h_2 => cases h

end

-- ---- Members and items

theorem putJson_of_member {fuel depth room : Nat} {c start after behind : Cursor} {key : String}
    {value : Json} {fields : List Field} {slots filled : Slots fields}
    (h : c.member depth key fields slots = .ok (filled, after)) (hcolon : c.colon = .ok start)
    (hvalue : valueWithin fuel room start = .ok (value, behind)) :
    behind = after ∧ Slots.putJson key value fields slots = .ok filled := by
  induction fields with
  | nil =>
    simp only [member, bind_eq_ok] at h
    obtain ⟨_, hagain, skipped, hskip, h⟩ := h
    cases hcolon.symm.trans hagain
    cases h
    exact ⟨(skipValue_of_valueWithin hvalue hskip).symm, rfl⟩
  | cons field rest ih =>
    obtain ⟨slot, more⟩ := slots
    rw [member] at h
    rw [Slots.putJson]
    by_cases hkey : key = field.key
    · rw [if_pos hkey] at h ⊢
      by_cases hslot : slot.isSome = true
      · rw [if_pos hslot] at h
        cases h
      · simp only [if_neg hslot, bind_eq_ok] at h ⊢
        obtain ⟨_, hagain, ⟨content, last⟩, hcontent, h⟩ := h
        cases hcolon.symm.trans hagain
        cases h
        obtain ⟨hend, hmade⟩ := ofJson_of_content hcontent hvalue
        exact ⟨hend, content, hmade, rfl⟩
    · simp only [if_neg hkey, bind_eq_ok] at h ⊢
      obtain ⟨⟨others, last⟩, hmore, h⟩ := h
      cases h
      obtain ⟨hend, hput⟩ := ih hmore
      exact ⟨hend, others, hput, rfl⟩

theorem putMembers_of_recordMembers {fuel other depth room : Nat} {first : Bool}
    {c after behind : Cursor} {fields : List Field} {slots filled : Slots fields}
    {read members : List (String × Json)}
    (h : recordMembers fields fuel depth first c slots = .ok (filled, after))
    (hmembers : membersWithin other room first c read = .ok (members, behind)) :
    behind = after ∧ ∃ new, members = read.reverse ++ new ∧
      Slots.putMembers fields new slots = .ok filled := by
  induction fuel generalizing other first c slots read with
  | zero => cases h
  | succ fuel ih =>
    cases other with
    | zero => cases hmembers
    | succ other =>
      rw [recordMembers, bind_eq_ok] at h
      rw [membersWithin, bind_eq_ok] at hmembers
      obtain ⟨next, hnext, h⟩ := h
      obtain ⟨_, hagain, hmembers⟩ := hmembers
      cases hnext.symm.trans hagain
      cases next with
      | none =>
        cases h
        cases hmembers
        exact ⟨rfl, [], by simp, rfl⟩
      | some next =>
        simp only [bind_eq_ok] at h hmembers
        obtain ⟨⟨key, start⟩, hkey, ⟨put, last⟩, hmember, h⟩ := h
        obtain ⟨_, hkeyagain, valueStart, hcolon, ⟨value, valueEnd⟩, hvalue, hmembers⟩ := hmembers
        cases hkey.symm.trans hkeyagain
        obtain ⟨hend, hput⟩ := putJson_of_member hmember hcolon hvalue
        subst hend
        obtain ⟨hlast, new, hnew, hall⟩ := ih h hmembers
        refine ⟨hlast, (key, value) :: new, by simp [hnew], ?_⟩
        rw [Slots.putMembers, bind_eq_ok]
        exact ⟨put, hput, hall⟩

theorem atCause_eq_ok {α : Type} {c : Cursor} {x : Except Cause α} {a : α} :
    c.atCause x = .ok a ↔ x = .ok a := by
  cases x <;> simp [atCause]

theorem nextItem?_of_closeList {c after : Cursor} (h : c.closeList = .ok after) (first : Bool) :
    c.nextItem? first = .ok none ∧ after = c.skipBlanks.advance := by
  rw [closeList] at h
  split at h
  case h_2 rest hrest =>
    cases h
    exact ⟨by simp only [nextItem?, hrest], rfl⟩
  case h_3 =>
    simp only at h
    split at h <;> cases h
  all_goals cases h

theorem ofItems_of_recordItems {fuel depth room wanted read : Nat} {record : String}
    {c after behind : Cursor} {fields : List Field} {contents : Contents fields}
    {before items : List Json}
    (h : recordItems record wanted depth fields read c = .ok (contents, after))
    (hitems : itemsWithin fuel room (read == 0) c before = .ok (items, behind)) :
    behind = after ∧ ∃ new, items = before.reverse ++ new ∧
      Contents.ofItems record wanted fields read new = .ok (contents, 0) := by
  induction fields generalizing fuel read c before with
  | nil =>
    cases fuel with
    | zero => cases hitems
    | succ fuel =>
      rw [recordItems, bind_eq_ok] at h
      obtain ⟨last, hclose, h⟩ := h
      cases h
      obtain ⟨hnext, rfl⟩ := nextItem?_of_closeList hclose (read == 0)
      rw [itemsWithin, hnext] at hitems
      cases hitems
      exact ⟨rfl, [], by simp, rfl⟩
  | cons field rest ih =>
    cases fuel with
    | zero => cases hitems
    | succ fuel =>
      rw [recordItems, bind_eq_ok] at h
      rw [itemsWithin, bind_eq_ok] at hitems
      obtain ⟨next, hnext, h⟩ := h
      obtain ⟨_, hagain, hitems⟩ := hitems
      cases hnext.symm.trans hagain
      cases next with
      | none =>
        simp only [bind_eq_ok, atCause_eq_ok] at h
        obtain ⟨filled, hdefaults, h⟩ := h
        cases h
        cases hitems
        refine ⟨rfl, [], by simp, ?_⟩
        rw [Contents.ofItems, hdefaults]
        rfl
      | some next =>
        simp only [bind_eq_ok] at h hitems
        obtain ⟨⟨content, last⟩, hcontent, ⟨more, moreEnd⟩, hmore, h⟩ := h
        obtain ⟨⟨item, itemEnd⟩, hitem, hitems⟩ := hitems
        cases h
        obtain ⟨hend, hmade⟩ := ofJson_of_content hcontent hitem
        subst hend
        obtain ⟨hlast, new, hnew, hall⟩ := ih hmore hitems
        exact ⟨hlast, item :: new, by simp [hnew], Contents.ofItems_cons.mpr ⟨_, _, hmade, hall, rfl⟩⟩

end Cursor

-- ---- The order of members

namespace Slots

variable {fields : List Field} {slots filled : Slots fields} {key : String} {value : Json}
  {members others : List (String × Json)}

theorem putJson_cons {field : Field} {rest : List Field} {slot : Option field.kind.Content}
    {more : Slots rest} {filled : Slots (field :: rest)} :
    putJson key value (field :: rest) (slot, more) = .ok filled ↔
      (key = field.key ∧ slot = none ∧ ∃ content, field.kind.ofJson value = .ok content ∧
        filled = (some content, more)) ∨
      (key ≠ field.key ∧ ∃ put, more.putJson key value rest = .ok put ∧ filled = (slot, put)) := by
  rw [putJson]
  by_cases hkey : key = field.key
  · rw [if_pos hkey]
    cases slot with
    | some content => exact iff_of_false nofun (by simp [hkey])
    | none =>
      rw [if_neg (by simp), bind_eq_ok]
      constructor
      · rintro ⟨content, hmade, hfilled⟩
        exact .inl ⟨hkey, rfl, content, hmade, (Except.ok.inj hfilled).symm⟩
      · rintro (⟨-, -, content, hmade, rfl⟩ | ⟨hne, -⟩)
        · exact ⟨content, hmade, rfl⟩
        · exact absurd hkey hne
  · rw [if_neg hkey, bind_eq_ok]
    constructor
    · rintro ⟨put, hput, hfilled⟩
      exact .inr ⟨hkey, put, hput, (Except.ok.inj hfilled).symm⟩
    · rintro (⟨heq, -⟩ | ⟨-, put, hput, rfl⟩)
      · exact absurd heq hkey
      · exact ⟨put, hput, rfl⟩

theorem putJson_of_unknown (h : key ∉ fields.map (·.key)) :
    slots.putJson key value fields = .ok slots := by
  induction fields with
  | nil => rfl
  | cons field rest ih =>
    obtain ⟨slot, more⟩ := slots
    simp only [List.map_cons, List.mem_cons, not_or] at h
    exact putJson_cons.mpr (.inr ⟨h.1, more, ih h.2, rfl⟩)

theorem putJson_twice (hknown : key ∈ fields.map (·.key))
    (h : slots.putJson key value fields = .ok filled) (again : Json) (twice : Slots fields) :
    filled.putJson key again fields ≠ .ok twice := by
  induction fields with
  | nil => cases hknown
  | cons field rest ih =>
    obtain ⟨slot, more⟩ := slots
    intro htwice
    rcases putJson_cons.mp h with ⟨hkey, -, content, -, rfl⟩ | ⟨hkey, put, hput, rfl⟩
    · rcases putJson_cons.mp htwice with ⟨-, hnone, -⟩ | ⟨hne, -⟩
      · cases hnone
      · exact hne hkey
    · rcases putJson_cons.mp htwice with ⟨heq, -⟩ | ⟨-, last, hlast, -⟩
      · exact hkey heq
      · exact ih ((List.mem_cons.mp hknown).resolve_left hkey) hput last hlast

theorem putJson_swap {other : String} {another : Json} {middle : Slots fields}
    (h : slots.putJson key value fields = .ok middle)
    (hother : middle.putJson other another fields = .ok filled) :
    ∃ swapped, slots.putJson other another fields = .ok swapped ∧
      swapped.putJson key value fields = .ok filled := by
  induction fields with
  | nil => exact ⟨slots, rfl, rfl⟩
  | cons field rest ih =>
    obtain ⟨slot, more⟩ := slots
    rcases putJson_cons.mp h with ⟨hkey, rfl, content, hmade, rfl⟩ | ⟨hkey, put, hput, rfl⟩ <;>
      rcases putJson_cons.mp hother with ⟨hsame, hslot, last, hlast, rfl⟩ | ⟨hsame, last, hlast, rfl⟩
    · cases hslot
    · exact ⟨(none, last), putJson_cons.mpr (.inr ⟨hsame, last, hlast, rfl⟩),
        putJson_cons.mpr (.inl ⟨hkey, rfl, content, hmade, rfl⟩)⟩
    · subst hslot
      exact ⟨(some last, more), putJson_cons.mpr (.inl ⟨hsame, rfl, last, hlast, rfl⟩),
        putJson_cons.mpr (.inr ⟨hkey, put, hput, rfl⟩)⟩
    · obtain ⟨swapped, hfirst, hsecond⟩ := ih hput hlast
      exact ⟨(slot, swapped), putJson_cons.mpr (.inr ⟨hsame, swapped, hfirst, rfl⟩),
        putJson_cons.mpr (.inr ⟨hkey, last, hsecond, rfl⟩)⟩

theorem putMembers_cons {member : String × Json} :
    slots.putMembers fields (member :: members) = .ok filled ↔
      ∃ put, slots.putJson member.1 member.2 fields = .ok put ∧
        put.putMembers fields members = .ok filled := by
  rw [putMembers, bind_eq_ok]

theorem putMembers_append : slots.putMembers fields (members ++ others) = .ok filled ↔
    ∃ put, slots.putMembers fields members = .ok put ∧ put.putMembers fields others = .ok filled := by
  induction members generalizing slots with
  | nil => simp [putMembers]
  | cons member rest ih =>
    simp only [List.cons_append, putMembers_cons, ih]
    constructor
    · rintro ⟨put, hput, last, hlast, hothers⟩
      exact ⟨last, ⟨put, hput, hlast⟩, hothers⟩
    · rintro ⟨last, ⟨put, hput, hlast⟩, hothers⟩
      exact ⟨put, hput, last, hlast, hothers⟩

theorem putMembers_perm (hperm : members.Perm others)
    (h : slots.putMembers fields members = .ok filled) :
    slots.putMembers fields others = .ok filled := by
  induction hperm generalizing slots with
  | nil => exact h
  | cons member _ ih =>
    obtain ⟨put, hput, hrest⟩ := putMembers_cons.mp h
    exact putMembers_cons.mpr ⟨put, hput, ih hrest⟩
  | swap first second rest =>
    obtain ⟨put, hput, h⟩ := putMembers_cons.mp h
    obtain ⟨last, hlast, hrest⟩ := putMembers_cons.mp h
    obtain ⟨swapped, hfirst, hsecond⟩ := putJson_swap hput hlast
    exact putMembers_cons.mpr ⟨swapped, hfirst, putMembers_cons.mpr ⟨last, hsecond, hrest⟩⟩
  | trans _ _ ihfirst ihsecond => exact ihsecond (ihfirst h)

theorem putMembers_erase_unknown (hunknown : key ∉ fields.map (·.key))
    (h : slots.putMembers fields members = .ok filled) :
    slots.putMembers fields (Keyed.erase key members) = .ok filled := by
  induction members generalizing slots with
  | nil => exact h
  | cons member rest ih =>
    obtain ⟨put, hput, hrest⟩ := putMembers_cons.mp h
    by_cases hkey : member.1 = key
    · rw [hkey, putJson_of_unknown hunknown] at hput
      cases hput
      rw [Keyed.erase, List.filter_cons_of_neg (by simpa using hkey)]
      exact ih hrest
    · rw [Keyed.erase, List.filter_cons_of_pos (by simpa using hkey)]
      exact putMembers_cons.mpr ⟨put, hput, ih hrest⟩

/-- Members of the same key as one that is put in are unknown, so they can go. -/
theorem putMembers_erase (h : slots.putMembers fields ((key, value) :: members) = .ok filled) :
    slots.putMembers fields ((key, value) :: Keyed.erase key members) = .ok filled := by
  obtain ⟨put, hput, hrest⟩ := putMembers_cons.mp h
  by_cases hknown : key ∈ fields.map (·.key)
  · have hother : ∀ member ∈ members, member.1 ≠ key := by
      rintro ⟨_, again⟩ hmember rfl
      obtain ⟨before, after, rfl⟩ := List.append_of_mem hmember
      obtain ⟨twice, htwice, -⟩ := putMembers_cons.mp (putMembers_perm List.perm_middle hrest)
      exact putJson_twice hknown hput again twice htwice
    rwa [Keyed.erase, List.filter_eq_self.mpr fun member hmember => by
      simpa using hother member hmember]
  · exact putMembers_cons.mpr ⟨put, hput, putMembers_erase_unknown hknown hrest⟩

/-- Members in key order, the last of each key, fill the slots as all members do. -/
theorem putMembers_ofList (h : slots.putMembers fields members = .ok filled) :
    slots.putMembers fields (Keyed.ofList members) = .ok filled := by
  suffices hkept : ∀ {kept : List (String × Json)}, Keyed.Sorted kept →
      slots.putMembers fields (kept ++ members) = .ok filled →
        slots.putMembers fields
          (members.foldl (fun kept entry => Keyed.insert entry.1 entry.2 kept) kept) = .ok filled from
    hkept List.Pairwise.nil h
  clear h
  induction members with
  | nil =>
    intro kept _ h
    rwa [List.append_nil] at h
  | cons member rest ih =>
    intro kept hsorted h
    refine ih (Keyed.sorted_insert hsorted) ?_
    have hfirst : slots.putMembers fields ((member :: kept) ++ rest) = .ok filled :=
      putMembers_perm List.perm_middle h
    obtain ⟨put, hput, hrest⟩ := putMembers_append.mp hfirst
    have herase : slots.putMembers fields (member :: Keyed.erase member.1 kept) = .ok put :=
      putMembers_erase hput
    exact putMembers_append.mpr
      ⟨put, putMembers_perm (Keyed.insert_perm hsorted).symm herase, hrest⟩

end Slots

/-- A text and the value that it is parsed to are the same record. -/
theorem Layout.ofJson_of_read {α : Type} {layout : Layout α} {text : String} {a : α} {value : Json}
    (hread : layout.read text = .ok a) (hparse : parse text = .ok value) :
    layout.ofJson value = .ok a := by
  simp only [read, parse, bind_eq_ok] at hread hparse
  obtain ⟨⟨made, behind⟩, hrecord, _, -, hread⟩ := hread
  obtain ⟨⟨found, last⟩, hvalue, _, -, hparse⟩ := hparse
  cases hread
  cases hparse
  simp only [Cursor.record, Cursor.value, Cursor.fuel] at hrecord hvalue
  rw [Cursor.valueWithin] at hvalue
  split at hrecord
  case h_1 rest hrest =>
    simp only [hrest, bind_eq_ok] at hrecord hvalue
    obtain ⟨_, -, ⟨slots, filled⟩, hslots, contents, hfinish, hrecord⟩ := hrecord
    obtain ⟨_, -, ⟨members, closed⟩, hmembers, hvalue⟩ := hvalue
    cases hrecord
    cases hvalue
    obtain ⟨-, new, hnew, hput⟩ := Cursor.putMembers_of_recordMembers hslots hmembers
    subst hnew
    simp only [Json.ofMembers, ofJson, bind_eq_ok]
    exact ⟨slots, Slots.putMembers_ofList hput, contents, Cursor.atCause_eq_ok.mp hfinish, rfl⟩
  case h_2 rest hrest =>
    simp only [hrest, bind_eq_ok] at hrecord hvalue
    obtain ⟨_, -, ⟨contents, filled⟩, hcontents, hrecord⟩ := hrecord
    obtain ⟨_, -, ⟨items, closed⟩, hitems, hvalue⟩ := hvalue
    cases hrecord
    cases hvalue
    obtain ⟨-, new, hnew, hall⟩ := Cursor.ofItems_of_recordItems hcontents hitems
    subst hnew
    simp only [ofJson, bind_eq_ok]
    exact ⟨_, hall, rfl⟩
  case h_3 => cases hrecord

end BlogDesk.Json
