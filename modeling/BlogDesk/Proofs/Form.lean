import BlogDesk.Form
import BlogDesk.Proofs.Json.Text
import BlogDesk.Proofs.Text

/-!
# Form bodies round trip

Every text comes back from its UTF-8 form, every value from its escapes, and the fields
of a body from the body: an escaped value has no character that separates fields.
-/

namespace BlogDesk

namespace Text.Utf8

-- ---- UTF-8

theorem toNat_ofNat {n : Nat} (h : n < 256) : (UInt8.ofNat n).toNat = n :=
  UInt8.toNat_ofNat_of_lt' h

theorem lead_ofNat {n : Nat} (h : n < 256) : lead (UInt8.ofNat n) =
    if n < 0x80 then .char (Char.ofNat n)
    else if n < 0xC2 then .stray
    else if n < 0xE0 then .begun ⟨1, 0x80, 0xBF, n - 0xC0⟩
    else if n = 0xE0 then .begun ⟨2, 0xA0, 0xBF, 0⟩
    else if n = 0xED then .begun ⟨2, 0x80, 0x9F, 0xD⟩
    else if n < 0xF0 then .begun ⟨2, 0x80, 0xBF, n - 0xE0⟩
    else if n = 0xF0 then .begun ⟨3, 0x90, 0xBF, 0⟩
    else if n < 0xF4 then .begun ⟨3, 0x80, 0xBF, n - 0xF0⟩
    else if n = 0xF4 then .begun ⟨3, 0x80, 0x8F, 4⟩
    else .stray := by
  simp only [lead, UInt8.lt_iff_toNat_lt, ← UInt8.toNat_inj, toNat_ofNat h]
  rfl

/-- The lead byte of three narrows the second one down to that of no shorter form and of
no surrogate. -/
theorem lead_of_three {v : Nat} (hlow : 0x800 ≤ v) (hhigh : v < 0x10000)
    (hvalid : v < 0xD800 ∨ 0xDFFF < v) : ∃ low high : UInt8,
      lead (UInt8.ofNat (v / 4096 % 16 + 224)) = .begun ⟨2, low, high, v / 4096⟩ ∧
      low.toNat ≤ v / 64 % 64 + 128 ∧ v / 64 % 64 + 128 ≤ high.toNat := by
  rw [lead_ofNat (by omega), Nat.mod_eq_of_lt (show v / 4096 < 16 by omega)]
  by_cases hfirst : v / 4096 = 0
  · refine ⟨0xA0, 0xBF, by simp [hfirst], ?_, ?_⟩ <;> simp <;> omega
  by_cases hsurrogate : v / 4096 = 0xD
  · refine ⟨0x80, 0x9F, by simp [hsurrogate], by simp, ?_⟩
    simp
    omega
  · refine ⟨0x80, 0xBF, ?_, ?_, ?_⟩
    · simp (disch := omega) only [if_neg, if_pos, Nat.add_sub_cancel]
    all_goals simp <;> omega

theorem lead_of_four {v : Nat} (hlow : 0x10000 ≤ v) (hhigh : v < 0x110000) : ∃ low high : UInt8,
    lead (UInt8.ofNat (v / 262144 % 8 + 240)) = .begun ⟨3, low, high, v / 262144⟩ ∧
    low.toNat ≤ v / 4096 % 64 + 128 ∧ v / 4096 % 64 + 128 ≤ high.toNat := by
  rw [lead_ofNat (by omega), Nat.mod_eq_of_lt (show v / 262144 < 8 by omega)]
  by_cases hfirst : v / 262144 = 0
  · refine ⟨0x90, 0xBF, by simp [hfirst], ?_, ?_⟩ <;> simp <;> omega
  by_cases hlast : v / 262144 = 4
  · refine ⟨0x80, 0x8F, by simp [hlast], by simp, ?_⟩
    simp
    omega
  · refine ⟨0x80, 0xBF, ?_, ?_, ?_⟩
    · simp (disch := omega) only [if_neg, if_pos, Nat.add_sub_cancel]
    all_goals simp <;> omega

section
variable {n bits : Nat} {low high : UInt8} (rest : List UInt8)

theorem decodeFrom_last {v : Nat} (hn : n < 256) (hlow : low.toNat ≤ n) (hhigh : n ≤ high.toNat)
    (hbits : 64 * bits + (n - 0x80) = v) :
    decodeFrom (some ⟨1, low, high, bits⟩) (UInt8.ofNat n :: rest) =
      Char.ofNat v :: decodeFrom none rest := by
  subst hbits
  have hrange : low ≤ UInt8.ofNat n ∧ UInt8.ofNat n ≤ high := by
    rw [UInt8.le_iff_toNat_le, UInt8.le_iff_toNat_le, toNat_ofNat hn]
    exact ⟨hlow, hhigh⟩
  rw [decodeFrom, if_pos hrange, toNat_ofNat hn]
  rfl

theorem decodeFrom_more {missing : Nat} (hn : n < 256) (hlow : low.toNat ≤ n)
    (hhigh : n ≤ high.toNat) :
    decodeFrom (some ⟨missing + 2, low, high, bits⟩) (UInt8.ofNat n :: rest) =
      decodeFrom (some ⟨missing + 1, 0x80, 0xBF, 64 * bits + (n - 0x80)⟩) rest := by
  have hrange : low ≤ UInt8.ofNat n ∧ UInt8.ofNat n ≤ high := by
    rw [UInt8.le_iff_toNat_le, UInt8.le_iff_toNat_le, toNat_ofNat hn]
    exact ⟨hlow, hhigh⟩
  rw [decodeFrom, if_pos hrange, toNat_ofNat hn]
  simp

end

theorem decodeFrom_char (c : Char) (rest : List UInt8) :
    decodeFrom none (String.utf8EncodeChar c ++ rest) = c :: decodeFrom none rest := by
  have hvalid : c.toNat < 0xD800 ∨ 0xDFFF < c.toNat ∧ c.toNat < 0x110000 := c.valid
  have hback : Char.ofNat c.toNat = c := Char.ofNat_toNat c
  simp only [String.utf8EncodeChar]
  change decodeFrom none ((if c.toNat ≤ 127 then [UInt8.ofNat c.toNat]
    else if c.toNat ≤ 2047 then
      [UInt8.ofNat (c.toNat / 64 % 32 + 192), UInt8.ofNat (c.toNat % 64 + 128)]
    else if c.toNat ≤ 65535 then [UInt8.ofNat (c.toNat / 4096 % 16 + 224),
      UInt8.ofNat (c.toNat / 64 % 64 + 128), UInt8.ofNat (c.toNat % 64 + 128)]
    else [UInt8.ofNat (c.toNat / 262144 % 8 + 240), UInt8.ofNat (c.toNat / 4096 % 64 + 128),
      UInt8.ofNat (c.toNat / 64 % 64 + 128), UInt8.ofNat (c.toNat % 64 + 128)]) ++ rest) = _
  generalize c.toNat = v at hvalid hback ⊢
  subst hback
  -- One case for each number of bytes.
  split
  · rw [List.singleton_append, decodeFrom, lead_ofNat (by omega), if_pos (by omega)]
  split
  · simp only [List.cons_append, List.nil_append]
    rw [decodeFrom, lead_ofNat (by omega)]
    simp (disch := omega) only [if_neg, if_pos]
    exact decodeFrom_last rest (by omega) (by simp) (by simp; omega) (by omega)
  split
  · obtain ⟨low, high, hlead, hlow, hhigh⟩ :=
      lead_of_three (show 0x800 ≤ v by omega) (by omega) (by omega)
    simp only [List.cons_append, List.nil_append]
    rw [decodeFrom, hlead]
    simp only
    rw [decodeFrom_more _ (by omega) hlow hhigh]
    exact decodeFrom_last rest (by omega) (by simp) (by simp; omega) (by omega)
  · obtain ⟨low, high, hlead, hlow, hhigh⟩ :=
      lead_of_four (show 0x10000 ≤ v by omega) (by omega)
    simp only [List.cons_append, List.nil_append]
    rw [decodeFrom, hlead]
    simp only
    rw [decodeFrom_more _ (by omega) hlow hhigh,
      decodeFrom_more _ (by omega) (by simp) (by simp; omega)]
    exact decodeFrom_last rest (by omega) (by simp) (by simp; omega) (by omega)

theorem decode_encode (text : List Char) : decode (encode text) = text := by
  unfold decode encode
  induction text with
  | nil => rfl
  | cons c rest ih => rw [List.flatMap_cons, decodeFrom_char, ih]

end Text.Utf8

namespace Form

open Text (hexDigit hexValue?)

-- ---- Escapes

def isSign (c : Char) : Bool := c == '&' || c == '=' || c == '%' || c == '+'

theorem not_isSign_of_unreserved {b : UInt8} (h : isUnreserved b) :
    isSign (Char.ofNat b.toNat) = false := by
  simp only [isUnreserved, Bool.and_eq_true, decide_eq_true_eq] at h
  obtain ⟨-, hclass⟩ := h
  generalize Char.ofNat b.toNat = c at hclass
  simp only [isSign, Bool.or_eq_false_iff, beq_eq_false_iff_ne]
  refine ⟨⟨⟨?_, ?_⟩, ?_⟩, ?_⟩ <;> rintro rfl <;> exact absurd hclass (by decide)

theorem hexDigit_toUpper : ∀ k < 16, hexValue? (hexDigit k).toUpper = some k ∧
    isSign (hexDigit k).toUpper = false := by
  decide

theorem utf8EncodeChar_of_unreserved {b : UInt8} (h : isUnreserved b) :
    String.utf8EncodeChar (Char.ofNat b.toNat) = [b] := by
  simp only [isUnreserved, Bool.and_eq_true, decide_eq_true_eq, UInt8.lt_iff_toNat_lt] at h
  have hascii : b.toNat < 128 := h.1
  have hvalid : b.toNat.isValidChar := .inl (by omega)
  have hval : (Char.ofNat b.toNat).val.toNat = b.toNat := by
    rw [Char.ofNat, dif_pos hvalid]
    rfl
  simp only [String.utf8EncodeChar, hval]
  rw [if_pos (by omega), UInt8.ofNat_toNat]

theorem unescape_plain {c : Char} (h : isSign c = false) (rest : List Char) :
    unescape (c :: rest) = String.utf8EncodeChar c ++ unescape rest := by
  simp only [isSign, Bool.or_eq_false_iff, beq_eq_false_iff_ne] at h
  obtain ⟨⟨⟨-, -⟩, hpercent⟩, hplus⟩ := h
  rw [unescape]
  · rintro a b rest rfl
    exact absurd rfl hpercent
  · rintro rfl
    exact hplus rfl

theorem unescape_escapeByte (b : UInt8) (rest : List Char) :
    unescape (escapeByte b ++ rest) = b :: unescape rest := by
  unfold escapeByte
  split
  · rename_i hplain
    rw [List.singleton_append, unescape_plain (not_isSign_of_unreserved hplain),
      utf8EncodeChar_of_unreserved hplain, List.singleton_append]
  · have hbyte := b.toNat_lt
    have hhigh := (hexDigit_toUpper (b.toNat / 16) (by omega)).1
    have hlow := (hexDigit_toUpper (b.toNat % 16) (by omega)).1
    simp only [List.cons_append, List.nil_append, unescape, hhigh, hlow]
    rw [Nat.div_add_mod, UInt8.ofNat_toNat]

theorem unescape_escape (text : String) : unescape (escape text) = Text.Utf8.encode text.toList := by
  unfold escape
  induction Text.Utf8.encode text.toList with
  | nil => rfl
  | cons b rest ih => rw [List.flatMap_cons, unescape_escapeByte, ih]

theorem decodeText_escape (text : String) : decodeText (escape text) = text := by
  rw [decodeText, unescape_escape, Text.Utf8.decode_encode, String.ofList_toList]

theorem not_mem_escape (text : String) {c : Char} (hc : c = '&' ∨ c = '=') : c ∉ escape text := by
  simp only [escape, List.mem_flatMap, not_exists, not_and]
  intro b _ hin
  have hsign : isSign c := by rcases hc with rfl | rfl <;> decide
  unfold escapeByte at hin
  split at hin
  · rename_i hplain
    rw [List.mem_singleton.mp hin, not_isSign_of_unreserved hplain] at hsign
    cases hsign
  · have hbyte := b.toNat_lt
    simp only [List.mem_cons, List.not_mem_nil, or_false] at hin
    rcases hin with rfl | rfl | rfl
    · simp at hc
    · rw [(hexDigit_toUpper (b.toNat / 16) (by omega)).2] at hsign
      cases hsign
    · rw [(hexDigit_toUpper (b.toNat % 16) (by omega)).2] at hsign
      cases hsign

-- ---- Fields

def IsPlainName (name : String) : Prop := ∀ c ∈ name.toList, isSign c = false

theorem decodeText_of_plain {name : String} (h : IsPlainName name) : decodeText name.toList = name := by
  have hbytes : unescape name.toList = Text.Utf8.encode name.toList := by
    unfold IsPlainName at h
    generalize name.toList = text at h ⊢
    induction text with
    | nil => rfl
    | cons c rest ih =>
      obtain ⟨hc, hrest⟩ := List.forall_mem_cons.mp h
      rw [unescape_plain hc, ih hrest]
      rfl
  rw [decodeText, hbytes, Text.Utf8.decode_encode, String.ofList_toList]

def fieldText (field : String × String) : List Char := field.1.toList ++ '=' :: escape field.2

theorem decodeField_fieldText {field : String × String} (h : IsPlainName field.1) :
    decodeField (fieldText field) = field := by
  have hequals : '=' ∉ field.1.toList := fun hin => absurd (h '=' hin) (by decide)
  rw [decodeField, fieldText, Text.splitOnce?_append hequals]
  simp only [decodeText_of_plain h, decodeText_escape]

theorem no_separator_fieldText {field : String × String} (h : IsPlainName field.1) :
    '&' ∉ fieldText field := by
  simp only [fieldText, List.mem_append, List.mem_cons, not_or]
  exact ⟨fun hin => absurd (h '&' hin) (by decide), by decide, not_mem_escape _ (.inl rfl)⟩

theorem decode_encode {fields : List (String × String)} (h : ∀ field ∈ fields, IsPlainName field.1) :
    decode (encode fields) = fields := by
  cases fields with
  | nil => rfl
  | cons first rest =>
    have hsplit : (encode (first :: rest)).toList.splitOn '&' = (first :: rest).map fieldText := by
      rw [encode, String.toList_ofList]
      refine List.splitOn_intercalate '&' ?_ (by simp)
      simp only [List.forall_mem_map]
      exact fun field hfield => no_separator_fieldText (h field hfield)
    have hkept : ((first :: rest).map fieldText).filter (· ≠ []) = (first :: rest).map fieldText :=
      by
      refine List.filter_eq_self.mpr fun text htext => ?_
      obtain ⟨field, -, rfl⟩ := List.mem_map.mp htext
      simp [fieldText]
    rw [decode, hsplit, hkept, List.map_map]
    refine (List.map_congr_left fun field hfield => ?_).trans (List.map_id _)
    exact decodeField_fieldText (h field hfield)

end Form

end BlogDesk
