import BlogDesk.Server.Cookie
import BlogDesk.Proofs.Text
import Mathlib.Data.Set.List

/-!
# Cookies among headers

What the headers of a request hold, as cookies are looked for in them: headers of other
names, cookie headers with characters outside printable ASCII, and cookie headers whose
pieces are cookies amid blanks or have no equals sign. Any headers are of that form, and
the session is the value of the first cookie named `auth`.
-/

namespace BlogDesk.Server

def IsPrintable (c : Char) : Prop := ' ' ≤ c ∧ c ≤ '~' ∨ c = '\t'

theorem isPlainHeader_iff {value : String} :
    isPlainHeader value ↔ ∀ c ∈ value.toList, IsPrintable c := by
  have hlast (c : Char) : c < '\x7f' ↔ c ≤ '~' := by
    simp only [Char.lt_def, Char.le_def, UInt32.lt_iff_toNat_lt, UInt32.le_iff_toNat_le]
    exact Nat.lt_succ_iff
  simp [isPlainHeader, IsPrintable, hlast]

-- ---- What headers hold

/-- A cookie. Its name ends with the first equals sign, and it would end with a
semicolon; blanks at its ends would not be part of it. -/
structure Cookie where
  name : String
  value : String
  name_ends : '=' ∉ name.toList
  one_piece : ';' ∉ name.toList ∧ ';' ∉ value.toList
  trimmed : Text.IsTrimmed isHeaderBlank (name.toList ++ '=' :: value.toList)

def Cookie.chars (cookie : Cookie) : List Char := cookie.name.toList ++ '=' :: cookie.value.toList

abbrev Blanks := { text : List Char // ∀ c ∈ text, isHeaderBlank c }

inductive Piece where
  | padded (before : Blanks) (cookie : Cookie) (after : Blanks)
  | fragment (text : List Char) (nameless : '=' ∉ text) (one_piece : ';' ∉ text)

namespace Piece

def chars : Piece → List Char
  | padded before cookie after => before.1 ++ cookie.chars ++ after.1
  | fragment text _ _ => text

def cookie? : Piece → Option Cookie
  | padded _ cookie _ => some cookie
  | fragment .. => none

end Piece

def joined (pieces : List Piece) : String := String.ofList ([';'].intercalate (pieces.map Piece.chars))

/-- A header, as cookies are looked for in it. -/
inductive Header where
  | other (name value : String) (hname : sameIgnoringCase name "cookie" = false)
  | unprintable (name value : String) (hname : sameIgnoringCase name "cookie" = true)
      (hchar : ∃ c ∈ value.toList, ¬ IsPrintable c)
  | cookies (name : String) (pieces : List Piece) (hname : sameIgnoringCase name "cookie" = true)
      (hchars : ∀ c ∈ (joined pieces).toList, IsPrintable c)

namespace Header

def spelled : Header → String × String
  | other name value _ => (name, value)
  | unprintable name value _ _ => (name, value)
  | cookies name pieces _ _ => (name, joined pieces)

def held : Header → List Cookie
  | cookies _ pieces _ _ => pieces.filterMap Piece.cookie?
  | other .. | unprintable .. => []

end Header

-- ---- Each piece is read as it was meant

theorem not_mem_of_blank {c : Char} (h : isHeaderBlank c = false) (blanks : Blanks) : c ∉ blanks.1 := by
  intro hc
  rw [blanks.2 c hc] at h
  cases h

namespace Piece

theorem no_semicolon (piece : Piece) : ';' ∉ piece.chars := by
  cases piece with
  | padded before cookie after =>
    simp [chars, Cookie.chars, cookie.one_piece, not_mem_of_blank (c := ';') rfl]
  | fragment text nameless one_piece => exact one_piece

theorem read (piece : Piece) :
    ((Text.splitOnce? '=' (Text.trim isHeaderBlank piece.chars)).map fun (name, value) =>
      (String.ofList name, String.ofList value)) =
      piece.cookie?.map fun cookie => (cookie.name, cookie.value) := by
  cases piece with
  | padded before cookie after =>
    have htrim : Text.trim isHeaderBlank (padded before cookie after).chars = cookie.chars :=
      Text.trim_eq_iff.mpr ⟨cookie.trimmed, before.1, after.1, rfl, before.2, after.2⟩
    rw [htrim, Cookie.chars, Text.splitOnce?_append cookie.name_ends]
    simp [cookie?]
  | fragment text nameless one_piece =>
    obtain ⟨-, before, after, htext, -⟩ := Text.trim_eq_iff.mp (rfl : Text.trim isHeaderBlank text = _)
    have hnone : '=' ∉ Text.trim isHeaderBlank text := by
      intro hin
      apply nameless
      rw [htext]
      simp [hin]
    rw [chars, Text.splitOnce?_eq_none hnone]
    rfl

end Piece

theorem cookiePairs_joined (pieces : List Piece) : cookiePairs (joined pieces) =
    (pieces.filterMap Piece.cookie?).map fun cookie => (cookie.name, cookie.value) := by
  cases pieces with
  | nil => rfl
  | cons first rest =>
    have hsplit : (joined (first :: rest)).toList.splitOn ';' = (first :: rest).map Piece.chars := by
      rw [joined, String.toList_ofList]
      refine List.splitOn_intercalate ';' ?_ (by simp)
      simp only [List.forall_mem_map]
      exact fun piece _ => piece.no_semicolon
    rw [cookiePairs, hsplit, List.filterMap_map, List.map_filterMap]
    exact List.filterMap_congr fun piece _ => piece.read

theorem cookiePairs_spelled (headers : List Header) :
    ((Headers.values (headers.map Header.spelled) "cookie").filter isPlainHeader).flatMap cookiePairs =
      (headers.flatMap Header.held).map fun cookie => (cookie.name, cookie.value) := by
  induction headers with
  | nil => rfl
  | cons header rest ih =>
    simp only [Headers.values] at ih
    cases header with
    | other name value hname => simpa [Headers.values, Header.spelled, Header.held, hname] using ih
    | unprintable name value hname hchar =>
      have hplain : ¬ isPlainHeader value := by
        rw [isPlainHeader_iff]
        push Not
        exact hchar
      simpa [Headers.values, Header.spelled, Header.held, hname, hplain] using ih
    | cookies name pieces hname hchars =>
      have hplain : isPlainHeader (joined pieces) := isPlainHeader_iff.mpr hchars
      simpa [Headers.values, Header.spelled, Header.held, hname, hplain, cookiePairs_joined] using ih

-- ---- Any headers can be taken apart

theorem Piece.exists_chars_eq {text : List Char} (h : ';' ∉ text) : ∃ piece : Piece, piece.chars = text := by
  by_cases hequals : '=' ∈ text
  · obtain ⟨htrimmed, before, after, htext, hbefore, hafter⟩ :=
      Text.trim_eq_iff.mp (rfl : Text.trim isHeaderBlank text = _)
    generalize Text.trim isHeaderBlank text = core at htrimmed htext
    subst htext
    have hcore : '=' ∈ core := by
      have hbefore := not_mem_of_blank (c := '=') rfl ⟨before, hbefore⟩
      have hafter := not_mem_of_blank (c := '=') rfl ⟨after, hafter⟩
      simpa [hbefore, hafter] using hequals
    obtain ⟨name, value, rfl, hname⟩ := List.eq_append_cons_of_mem hcore
    simp only [List.mem_append, List.mem_cons, not_or] at h
    refine ⟨padded ⟨before, hbefore⟩ ⟨String.ofList name, String.ofList value, ?_, ?_, ?_⟩
      ⟨after, hafter⟩, ?_⟩
    · simpa using hname
    · simp [h]
    · simpa using htrimmed
    · simp [chars, Cookie.chars]
  · exact ⟨fragment text hequals h, rfl⟩

theorem exists_joined_eq (value : String) : ∃ pieces, joined pieces = value := by
  have hpieces : value.toList.splitOn ';' ∈ Set.range (List.map Piece.chars) := by
    rw [Set.range_list_map]
    exact fun text htext => Piece.exists_chars_eq (Text.not_mem_of_mem_splitOn htext)
  obtain ⟨pieces, hpieces⟩ := hpieces
  refine ⟨pieces, ?_⟩
  rw [joined, hpieces, List.intercalate_splitOn, String.ofList_toList]

theorem Header.spelled_surjective : Function.Surjective Header.spelled := by
  rintro ⟨name, value⟩
  cases hname : sameIgnoringCase name "cookie" with
  | false => exact ⟨other name value hname, rfl⟩
  | true =>
    by_cases hchars : ∀ c ∈ value.toList, IsPrintable c
    · obtain ⟨pieces, rfl⟩ := exists_joined_eq value
      exact ⟨cookies name pieces hname hchars, rfl⟩
    · push Not at hchars
      exact ⟨unprintable name value hname hchars, rfl⟩

-- ---- The result

/-- Any headers of a request can be taken apart into what they hold, and however its
cookies are spread over them and whatever stands between, the session is the value of
the first cookie that is named `auth`. -/
theorem first_auth_cookie_found :
    (∀ headers : Headers, ∃ parts : List Header, parts.map Header.spelled = headers) ∧
    ∀ parts : List Header, sessionCookie? (parts.map Header.spelled) =
      ((parts.flatMap Header.held).find? (·.name = "auth")).map Cookie.value := by
  refine ⟨List.map_surjective_iff.mpr Header.spelled_surjective, fun parts => ?_⟩
  -- The pairs of a header are its cookies, read as name and value.
  simp only [sessionCookie?, cookiePairs_spelled, List.find?_map, Option.map_map]
  rfl

example : sessionCookie? [("Cookie", "theme=dark; xauth=1"), ("cookie", "secure ;\tauth=a=b")] =
    some "a=b" := by decide

end BlogDesk.Server
