import BlogDesk.Json.Layout
import BlogDesk.Proofs.Except

/-!
# What is read is skipped alike

A value that could be read ends where skipping it ends. Skipping does not recurse: it keeps
the brackets that are open, and goes on to the next value or closes them.
-/

namespace BlogDesk.Json.Cursor

@[simp] theorem skipBlanks_skipBlanks (c : Cursor) : c.skipBlanks.skipBlanks = c.skipBlanks := by
  have hblanks : ∀ text : List Char, (text.dropWhile isBlank).dropWhile isBlank =
      text.dropWhile isBlank ∧ (text.dropWhile isBlank).takeWhile isBlank = [] := by
    intro text
    induction text with
    | nil => exact ⟨rfl, rfl⟩
    | cons first rest ih => cases hfirst : isBlank first <;> simp [hfirst, ih]
  simp [skipBlanks, hblanks, Position.afterAll]

-- ---- Texts

theorem pairMark_eq_ok {c after : Cursor} {expected : Char} :
    c.pairMark expected = .ok after ↔ ∃ rest, c.rest = expected :: rest ∧ after = c.advance := by
  rw [pairMark]
  split
  · rename_i hrest
    simp [hrest]
  · rename_i char rest hrest
    simp only [hrest, List.cons.injEq]
    split
    · rename_i hchar
      simp [hchar, eq_comm]
    · rename_i hchar
      simp [hchar]

/-- A character that is read from its code units ends behind the first of these, or is a pair
with another escape. -/
theorem hexEscape_of_unicodeEscape {c after : Cursor} {meant : Char}
    (h : c.unicodeEscape = .ok (meant, after)) : ∃ unit first, c.hexEscape = .ok (unit, first) ∧
      (after = first ∨ ∃ rest more second, first.rest = '\\' :: rest ∧
        first.advance.rest = 'u' :: more ∧
        first.advance.advance.hexEscape = .ok (second, after)) := by
  rw [unicodeEscape, bind_eq_ok] at h
  obtain ⟨⟨unit, first⟩, hfirst, h⟩ := h
  refine ⟨unit, first, hfirst, ?_⟩
  simp only at h
  by_cases htrailing : isTrailing unit = true
  · rw [if_pos htrailing] at h
    cases h
  rw [if_neg htrailing] at h
  by_cases hleading : isLeading unit = true
  · simp only [if_pos hleading, bind_eq_ok, pairMark_eq_ok] at h
    obtain ⟨_, ⟨rest, hslash, rfl⟩, _, ⟨more, hletter, rfl⟩, ⟨second, last⟩, hlast, h⟩ := h
    simp only at h
    by_cases hpair : isTrailing second = true
    · simp only [if_pos hpair, Except.ok.injEq, Prod.mk.injEq] at h
      obtain ⟨-, rfl⟩ := h
      exact .inr ⟨rest, more, second, hslash, hletter, hlast⟩
    · rw [if_neg hpair] at h
      cases h
  · rw [if_neg hleading] at h
    cases h
    exact .inl rfl

/-- An escape that is read is skipped, a surrogate pair in two steps. -/
theorem skipEscape_of_escape {c after : Cursor} {meant : Char} (h : c.escape = .ok (meant, after)) :
    c.skipEscape = .ok after ∨ ∃ middle rest, c.skipEscape = .ok middle ∧
      middle.rest = '\\' :: rest ∧ middle.advance.skipEscape = .ok after := by
  rw [escape] at h
  rw [skipEscape]
  split at h
  · cases h
  · rename_i char rest hrest
    simp only
    by_cases hu : char = 'u'
    · rw [if_pos hu] at h
      obtain ⟨unit, first, hfirst, hafter⟩ := hexEscape_of_unicodeEscape h
      simp only [if_pos hu, hfirst]
      rcases hafter with rfl | ⟨tail, more, second, hslash, hletter, hsecond⟩
      · exact .inl rfl
      · refine .inr ⟨first, tail, rfl, hslash, ?_⟩
        rw [skipEscape, hletter]
        simp only [if_pos, hsecond]
        rfl
    · rw [if_neg hu] at h ⊢
      split at h
      · rename_i hletter
        cases h
        simp [hletter]
      · cases h

theorem skipTextBody_of_textBody {fuel room : Nat} {c after skipped : Cursor} {read : List Char}
    {text : String} (h : textBody fuel c read = .ok (text, after))
    (hskip : skipTextBody room c = .ok skipped) : skipped = after := by
  induction fuel generalizing room c read with
  | zero => cases h
  | succ fuel ih =>
    cases room with
    | zero => cases hskip
    | succ room =>
      rw [textBody] at h
      rw [skipTextBody] at hskip
      split at h
      · cases h
      · rename_i char rest hrest
        simp only [hrest] at hskip
        by_cases hquote : char = '"'
        · rw [if_pos hquote] at h hskip
          cases h
          exact (Except.ok.inj hskip).symm
        rw [if_neg hquote] at h hskip
        by_cases hslash : char = '\\'
        · simp only [if_pos hslash, bind_eq_ok] at h hskip
          obtain ⟨⟨meant, behind⟩, hescape, h⟩ := h
          obtain ⟨first, hfirst, hskip⟩ := hskip
          rcases skipEscape_of_escape hescape with hone | ⟨middle, tail, htwo, htail, hlast⟩
          · cases hone.symm.trans hfirst
            exact ih h hskip
          · -- The second half of a pair is skipped on its own.
            cases htwo.symm.trans hfirst
            cases room with
            | zero => cases hskip
            | succ room =>
              rw [skipTextBody, htail] at hskip
              simp only [if_pos, hlast] at hskip
              exact ih h hskip
        · rw [if_neg hslash] at h hskip
          by_cases hcontrol : char < ' '
          · rw [if_pos hcontrol] at h
            cases h
          · rw [if_neg hcontrol] at h hskip
            exact ih h hskip

-- ---- Numbers

theorem someDigits_eq_ok {c after : Cursor} {digits : List Nat} :
    c.someDigits = .ok (digits, after) ↔ c.digits = (digits, after) ∧ digits ≠ [] := by
  rw [someDigits]
  rcases c.digits with ⟨_ | ⟨first, more⟩, behind⟩
  · simp only [Prod.mk.injEq]
    refine ⟨fun h => ?_, fun h => absurd h.1.1.symm h.2⟩
    split at h <;> cases h
  · simp only [Except.ok.injEq, Prod.mk.injEq]
    refine ⟨fun h => ⟨h, h.1 ▸ List.cons_ne_nil _ _⟩, And.left⟩

theorem real_end {c after : Cursor} {negative : Bool} {s : Scaled} {number : Number}
    (h : c.real negative s = .ok (number, after)) : after = c := by
  rw [real] at h
  split at h
  · cases h
    rfl
  · cases h

theorem exponent_end {c after : Cursor} {negative : Bool} {s : Scaled} {number : Number}
    (h : c.exponent negative s = .ok (number, after)) :
    ∃ digits, c.exponentSign.2.digits = (digits, after) ∧ digits ≠ [] := by
  rw [exponent] at h
  simp only [bind_eq_ok] at h
  obtain ⟨⟨digits, behind⟩, hdigits, h⟩ := h
  suffices hend : after = behind from ⟨digits, hend ▸ someDigits_eq_ok.mp hdigits⟩
  simp only at h
  split at h
  · exact real_end h
  · split at h
    · cases h
    · cases h
      rfl

theorem wholeDigits_eq_ok {c after : Cursor} {digits : List Nat}
    (h : c.wholeDigits = .ok (digits, after)) : c.digits = (digits, after) ∧ digits ≠ [] ∧
      ∀ first rest, digits ≠ 0 :: first :: rest := by
  rw [wholeDigits, bind_eq_ok] at h
  obtain ⟨⟨found, behind⟩, hfound, h⟩ := h
  simp only at h
  split at h
  · cases h
  · rename_i hlead
    cases h
    obtain ⟨hdigits, hne⟩ := someDigits_eq_ok.mp hfound
    exact ⟨hdigits, hne, fun first rest heq => hlead first rest heq⟩

theorem fractionDigits_eq_ok {c after : Cursor} {digits : List Nat}
    (h : c.fractionDigits = .ok (digits, after)) : c.digits = (digits, after) ∧ digits ≠ [] := by
  rw [fractionDigits] at h
  generalize c.digits = found at h ⊢
  rcases found with ⟨_ | ⟨first, more⟩, behind⟩
  · cases h
  · cases h
    exact ⟨rfl, List.cons_ne_nil _ _⟩

def skipDigits (c : Cursor) : Except Fault Cursor :=
  match c.digits with
  | ([], _) => .error (c.faultNext .invalidNumber)
  | (_, c) => .ok c

theorem skipDigits_of_digits {c after : Cursor} {digits : List Nat}
    (h : c.digits = (digits, after) ∧ digits ≠ []) : c.skipDigits = .ok after := by
  obtain ⟨hdigits, hne⟩ := h
  rw [skipDigits, hdigits]
  cases digits with
  | nil => exact absurd rfl hne
  | cons first more => rfl

def skipExponent (c : Cursor) : Except Fault Cursor :=
  match c.rest with
  | 'e' :: _ => c.advance.exponentSign.2.skipDigits
  | 'E' :: _ => c.advance.exponentSign.2.skipDigits
  | _ => .ok c

theorem skipNumber_of_wholeDigits {c behind : Cursor} {digits : List Nat}
    (h : c.wholeDigits = .ok (digits, behind)) : c.skipNumber =
      match behind.rest with
      | '.' :: _ => behind.advance.skipDigits >>= skipExponent
      | _ => behind.skipExponent := by
  obtain ⟨hdigits, hne, hlead⟩ := wholeDigits_eq_ok h
  rw [skipNumber, hdigits]
  match digits with
  | [] => exact absurd rfl hne
  | 0 :: first :: rest => exact absurd rfl (hlead first rest)
  | [0] => rfl
  | (_ + 1) :: _ => rfl

theorem skipExponent_of_exponentOrEnd {c after : Cursor} {negative : Bool} {s : Scaled}
    {number : Number} (h : c.exponentOrEnd negative s = .ok (number, after)) :
    c.skipExponent = .ok after := by
  unfold exponentOrEnd at h
  split at h
  case h_1 rest hrest | h_2 rest hrest =>
    obtain ⟨digits, hdigits⟩ := exponent_end h
    simp only [skipExponent, hrest]
    exact skipDigits_of_digits hdigits
  case h_3 hlower hupper =>
    unfold skipExponent
    split
    case h_1 rest hrest => exact absurd hrest (hlower rest)
    case h_2 rest hrest => exact absurd hrest (hupper rest)
    case h_3 => rw [real_end h]

theorem skipNumber_of_number {c after : Cursor} {negative : Bool} {number : Number}
    (h : c.number negative = .ok (number, after)) : c.skipNumber = .ok after := by
  rw [Cursor.number, bind_eq_ok] at h
  obtain ⟨⟨whole, behind⟩, hwhole, h⟩ := h
  rw [skipNumber_of_wholeDigits hwhole]
  simp only at h
  split at h
  · rename_i rest hrest
    rw [bind_eq_ok] at h
    obtain ⟨⟨fraction, last⟩, hfraction, h⟩ := h
    simp only [hrest, skipDigits_of_digits (fractionDigits_eq_ok hfraction)]
    exact skipExponent_of_exponentOrEnd h
  · rename_i rest hrest
    obtain ⟨digits, hdigits⟩ := exponent_end h
    simp only [skipExponent, hrest, skipDigits_of_digits hdigits]
    rfl
  · rename_i rest hrest
    obtain ⟨digits, hdigits⟩ := exponent_end h
    simp only [skipExponent, hrest, skipDigits_of_digits hdigits]
    rfl
  · rename_i hpoint hlower hupper
    have hend : after = behind := by
      split at h
      · cases h
        rfl
      · exact real_end h
    subst hend
    split
    · rename_i rest hrest
      exact absurd hrest (hpoint rest)
    · rw [skipExponent]
      split
      · rename_i rest hrest
        exact absurd hrest (hlower rest)
      · rename_i rest hrest
        exact absurd hrest (hupper rest)
      · rfl

-- ---- Scalars

theorem skipScalar_of_scalar {c after skipped : Cursor} {value : Json}
    (h : c.scalar = .ok (value, after)) (hskip : c.skipScalar = .ok skipped) : skipped = after := by
  rw [scalar] at h
  rw [skipScalar] at hskip
  split at h
  case h_1 => cases h
  case h_2 rest hrest | h_3 rest hrest | h_4 rest hrest =>
    simp only [hrest, bind_eq_ok] at h hskip
    obtain ⟨behind, hword, h⟩ := h
    cases hword.symm.trans hskip
    cases h
    rfl
  case h_5 rest hrest =>
    simp only [hrest, bind_eq_ok] at h hskip
    obtain ⟨⟨text, behind⟩, htext, h⟩ := h
    cases h
    exact skipTextBody_of_textBody htext hskip
  case h_6 rest hrest =>
    simp only [hrest, bind_eq_ok] at h hskip
    obtain ⟨⟨number, behind⟩, hnumber, h⟩ := h
    cases h
    cases (skipNumber_of_number hnumber).symm.trans hskip
    rfl
  case h_7 char rest hn ht hf hquote hminus hrest =>
    by_cases hdigit : char.isDigit = true
    · simp only [if_pos hdigit, bind_eq_ok] at h
      obtain ⟨⟨number, behind⟩, hnumber, h⟩ := h
      cases h
      simp only [hrest] at hn ht hf hquote hminus hskip
      rw [if_pos hdigit] at hskip
      cases (skipNumber_of_number hnumber).symm.trans hskip
      rfl
    · rw [if_neg hdigit] at h
      cases h

-- ---- Values

/-- What is left to skip from there on: another value inside these brackets, or nothing. -/
def skipOn (fuel : Nat) (next : Option (List Bracket × Cursor) × Cursor) : Except Fault Cursor :=
  match next.1 with
  | none => .ok next.2
  | some (open_, c) => skipWithin fuel open_ c

section
variable {fuel : Nat} {open_ : List Bracket} {c skipped : Cursor} {rest : List Char}

theorem skipWithin_list (hrest : c.skipBlanks.rest = '[' :: rest) :
    skipWithin (fuel + 1) open_ c =
      skipOpening .list open_ c.skipBlanks.advance >>= skipOn fuel := by
  rw [skipWithin]
  simp only [hrest]
  rfl

theorem skipWithin_object (hrest : c.skipBlanks.rest = '\x7b' :: rest) :
    skipWithin (fuel + 1) open_ c =
      skipOpening .object open_ c.skipBlanks.advance >>= skipOn fuel := by
  rw [skipWithin]
  simp only [hrest]
  rfl

theorem skipWithin_scalar (hlist : ∀ rest, c.skipBlanks.rest ≠ '[' :: rest)
    (hobject : ∀ rest, c.skipBlanks.rest ≠ '\x7b' :: rest) : skipWithin (fuel + 1) open_ c =
      c.skipBlanks.skipScalar >>= fun behind => skipClosings open_ behind >>= skipOn fuel := by
  rw [skipWithin]
  simp only
  cases c.skipBlanks.skipScalar <;> rfl

theorem skipWithin_skipBlanks (h : skipWithin fuel open_ c = .ok skipped) :
    skipWithin fuel open_ c.skipBlanks = .ok skipped := by
  cases fuel with
  | zero => cases h
  | succ fuel =>
    rw [skipWithin] at h ⊢
    rwa [skipBlanks_skipBlanks]

end

def skipStep (first : Bool) (bracket : Bracket) (outer : List Bracket) (c : Cursor) :
    Except Fault (Option (List Bracket × Cursor) × Cursor) :=
  if first then skipOpening bracket outer c else skipClosings (bracket :: outer) c

section
variable {c : Cursor} {first : Bool} {outer : List Bracket}

theorem skipStep_of_noItem (h : c.nextItem? first = .ok none) :
    skipStep first .list outer c = skipClosings outer c.skipBlanks.advance := by
  simp only [nextItem?] at h
  rw [skipStep, skipOpening, skipClosings]
  split at h
  case h_1 => cases h
  case h_2 rest hrest =>
    simp only [hrest]
    cases first <;> rfl
  case h_3 char rest hclose hrest =>
    cases first with
    | true => cases h
    | false =>
      rw [if_neg Bool.false_ne_true] at h
      split at h
      · split at h <;> cases h
      · cases h

theorem skipStep_of_nextItem {next : Cursor} (h : c.nextItem? first = .ok (some next)) :
    ∃ start, skipStep first .list outer c = .ok (some (.list :: outer, start), start) ∧
      start.skipBlanks = next := by
  simp only [nextItem?] at h
  rw [skipStep, skipOpening, skipClosings]
  split at h
  case h_1 => cases h
  case h_2 => cases h
  case h_3 char rest hclose hrest =>
    have hopen : char ≠ Bracket.list.closing := hclose
    simp only [hrest]
    cases first with
    | true =>
      cases h
      refine ⟨c.skipBlanks, ?_, skipBlanks_skipBlanks c⟩
      simp [hopen, skipKey, bind, Except.bind]
    | false =>
      rw [if_neg Bool.false_ne_true] at h ⊢
      split at h
      · rename_i hcomma
        refine ⟨c.skipBlanks.advance, ?_, ?_⟩
        · simp [hcomma, skipKey, bind, Except.bind]
        · split at h
          · cases h
          · cases h
          · cases h
            rfl
      · cases h

theorem skipStep_of_noKey (h : c.nextKey? first = .ok none) :
    skipStep first .object outer c = skipClosings outer c.skipBlanks.advance := by
  simp only [nextKey?] at h
  rw [skipStep, skipOpening, skipClosings]
  split at h
  case h_1 => cases h
  case h_2 rest hrest =>
    simp only [hrest]
    cases first <;> rfl
  case h_3 char rest hclose hrest =>
    cases first with
    | true =>
      rw [if_pos rfl] at h
      split at h <;> cases h
    | false =>
      rw [if_neg Bool.false_ne_true] at h
      split at h
      · split at h <;> cases h
      · cases h

theorem skipKey_object {rest : List Char} (hrest : c.skipBlanks.rest = '"' :: rest) :
    c.skipKey .object = c.skipBlanks.advance.skipText >>= colon := by
  simp only [skipKey, hrest]
  rfl

theorem skipStep_of_nextKey {next : Cursor} (h : c.nextKey? first = .ok (some next)) :
    skipStep first .object outer c =
      next.skipText >>= colon >>= fun c => .ok (some (.object :: outer, c), c) := by
  simp only [nextKey?] at h
  rw [skipStep, skipOpening, skipClosings]
  split at h
  case h_1 => cases h
  case h_2 => cases h
  case h_3 char rest hclose hrest =>
    have hopen : char ≠ Bracket.object.closing := hclose
    simp only [hrest]
    cases first with
    | true =>
      rw [if_pos rfl] at h
      split at h
      · rename_i hquote
        subst hquote
        cases h
        rw [if_pos rfl, if_neg hopen, skipKey_object (by rwa [skipBlanks_skipBlanks]),
          skipBlanks_skipBlanks]
      · cases h
    | false =>
      rw [if_neg Bool.false_ne_true] at h ⊢
      split at h
      · rename_i hcomma
        rw [if_pos hcomma]
        split at h
        case h_1 => cases h
        case h_2 tail htail =>
          cases h
          rw [skipKey_object htail]
        case h_3 => cases h
        case h_4 => cases h
      · cases h

end

/-- Skipping comes to that place if a value inside these brackets ends at this one. -/
def Leaves (outer : List Bracket) (after skipped : Cursor) : Prop :=
  ∃ room, (skipClosings outer after >>= skipOn room) = .ok skipped

/-- Values that are read with that fuel end where skipping leaves them, inside any brackets. -/
def ValuesLeave (fuel : Nat) : Prop :=
  ∀ ⦃depth : Nat⦄ ⦃c after : Cursor⦄ ⦃value : Json⦄,
    valueWithin fuel depth c = .ok (value, after) →
      ∀ ⦃room : Nat⦄ ⦃outer : List Bracket⦄ ⦃skipped : Cursor⦄,
        skipWithin room outer c = .ok skipped → Leaves outer after skipped

def ItemsLeave (fuel : Nat) : Prop :=
  ∀ ⦃depth : Nat⦄ ⦃first : Bool⦄ ⦃c after : Cursor⦄ ⦃read items : List Json⦄,
    itemsWithin fuel depth first c read = .ok (items, after) →
      ∀ ⦃room : Nat⦄ ⦃outer : List Bracket⦄ ⦃skipped : Cursor⦄,
        (skipStep first .list outer c >>= skipOn room) = .ok skipped → Leaves outer after skipped

def MembersLeave (fuel : Nat) : Prop :=
  ∀ ⦃depth : Nat⦄ ⦃first : Bool⦄ ⦃c after : Cursor⦄ ⦃read members : List (String × Json)⦄,
    membersWithin fuel depth first c read = .ok (members, after) →
      ∀ ⦃room : Nat⦄ ⦃outer : List Bracket⦄ ⦃skipped : Cursor⦄,
        (skipStep first .object outer c >>= skipOn room) = .ok skipped → Leaves outer after skipped

section
variable {fuel : Nat}

theorem ValuesLeave.succ (hitems : ItemsLeave fuel) (hmembers : MembersLeave fuel) :
    ValuesLeave (fuel + 1) := by
  intro depth c after value h room outer skipped hskip
  cases room with
  | zero => cases hskip
  | succ room =>
    rw [valueWithin] at h
    simp only at h
    split at h
    case h_1 rest hrest =>
      simp only [bind_eq_ok] at h
      obtain ⟨inner, -, ⟨items, behind⟩, hread, h⟩ := h
      cases h
      rw [skipWithin_list hrest] at hskip
      exact hitems hread hskip
    case h_2 rest hrest =>
      simp only [bind_eq_ok] at h
      obtain ⟨inner, -, ⟨members, behind⟩, hread, h⟩ := h
      cases h
      rw [skipWithin_object hrest] at hskip
      exact hmembers hread hskip
    case h_3 hlist hobject =>
      rw [skipWithin_scalar hlist hobject, bind_eq_ok] at hskip
      obtain ⟨behind, hscalar, hskip⟩ := hskip
      obtain rfl := skipScalar_of_scalar h hscalar
      exact ⟨room, hskip⟩

theorem ItemsLeave.succ (hvalues : ValuesLeave fuel) (hitems : ItemsLeave fuel) :
    ItemsLeave (fuel + 1) := by
  intro depth first c after read items h room outer skipped hskip
  rw [itemsWithin, bind_eq_ok] at h
  obtain ⟨next, hnext, h⟩ := h
  cases next with
  | none =>
    cases h
    rw [skipStep_of_noItem hnext] at hskip
    exact ⟨room, hskip⟩
  | some next =>
    simp only [bind_eq_ok] at h
    obtain ⟨⟨item, behind⟩, hitem, h⟩ := h
    obtain ⟨start, hstep, rfl⟩ := @skipStep_of_nextItem _ _ outer _ hnext
    rw [hstep] at hskip
    obtain ⟨less, hleaves⟩ := hvalues hitem (skipWithin_skipBlanks hskip)
    exact hitems h hleaves

theorem MembersLeave.succ (hvalues : ValuesLeave fuel) (hmembers : MembersLeave fuel) :
    MembersLeave (fuel + 1) := by
  intro depth first c after read members h room outer skipped hskip
  rw [membersWithin, bind_eq_ok] at h
  obtain ⟨next, hnext, h⟩ := h
  cases next with
  | none =>
    cases h
    rw [skipStep_of_noKey hnext] at hskip
    exact ⟨room, hskip⟩
  | some next =>
    simp only [bind_eq_ok] at h
    obtain ⟨⟨key, behind⟩, hkey, start, hcolon, ⟨value, last⟩, hvalue, h⟩ := h
    rw [skipStep_of_nextKey hnext] at hskip
    simp only [bind_eq_ok] at hskip
    obtain ⟨_, ⟨_, ⟨skippedKey, hskipped, hskippedColon⟩, hstep⟩, hskip⟩ := hskip
    cases hstep
    cases skipTextBody_of_textBody hkey hskipped
    cases hcolon.symm.trans hskippedColon
    obtain ⟨less, hleaves⟩ := hvalues hvalue hskip
    exact hmembers h hleaves

end

theorem valuesLeave (fuel : Nat) : ValuesLeave fuel := by
  -- Each of the three readers calls another one with less fuel, so all go together.
  suffices hall : ValuesLeave fuel ∧ ItemsLeave fuel ∧ MembersLeave fuel from hall.1
  induction fuel with
  | zero =>
    refine ⟨?_, ?_, ?_⟩
    · intro depth c after value h
      cases h
    · intro depth first c after read items h
      cases h
    · intro depth first c after read members h
      cases h
  | succ fuel ih =>
    obtain ⟨hvalues, hitems, hmembers⟩ := ih
    exact ⟨.succ hitems hmembers, .succ hvalues hitems, .succ hvalues hmembers⟩

/-- Where a value ends that is read, there it ends that is skipped. -/
theorem skipValue_of_valueWithin {fuel depth : Nat} {c after skipped : Cursor} {value : Json}
    (h : valueWithin fuel depth c = .ok (value, after)) (hskip : c.skipValue = .ok skipped) :
    skipped = after := by
  obtain ⟨room, hleaves⟩ := valuesLeave fuel h hskip
  cases hleaves
  rfl

end BlogDesk.Json.Cursor
