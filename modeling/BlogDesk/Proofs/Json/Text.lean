import BlogDesk.Json.Reader

/-!
# Quoted text is read back

What stands between the quotes of a written text is read as the characters of that
text, whatever follows, and the cursor is left right behind the closing quote.
-/

namespace BlogDesk.Json

-- ---- Cursors

@[simp] theorem Position.afterAll_nil (p : Position) : p.afterAll [] = p := rfl

@[simp] theorem Position.afterAll_cons (p : Position) (c : Char) (text : List Char) :
    p.afterAll (c :: text) = (p.after c).afterAll text := rfl

@[simp] theorem Position.afterAll_append (p : Position) (first rest : List Char) :
    p.afterAll (first ++ rest) = (p.afterAll first).afterAll rest :=
  List.foldl_append

@[simp] theorem Cursor.advance_cons (c : Char) (rest : List Char) (p : Position) :
    Cursor.advance ⟨c :: rest, p⟩ = ⟨rest, p.after c⟩ := rfl

theorem Cursor.skipBlanks_cons {c : Char} (h : isBlank c = false) (rest : List Char) (p : Position) :
    Cursor.skipBlanks ⟨c :: rest, p⟩ = ⟨c :: rest, p⟩ := by
  simp [skipBlanks, h]

-- ---- Escapes

theorem hexDigit_props : ∀ k < 16, Text.hexValue? (Text.hexDigit k) = some k ∧
    Text.hexDigit k ≠ '\n' ∧ (Text.hexDigit k).utf8Size = 1 := by
  decide

theorem hexValue?_hexDigit {k : Nat} (h : k < 16) : Text.hexValue? (Text.hexDigit k) = some k :=
  (hexDigit_props k h).1

theorem after_hexDigit {k : Nat} (h : k < 16) (p : Position) :
    p.after (Text.hexDigit k) = ⟨p.line, p.column + 1⟩ := by
  obtain ⟨-, hline, hsize⟩ := hexDigit_props k h
  simp [Position.after, hline, hsize]

theorem hexEscape_control {n : Nat} (h : n < 256) (rest : List Char) (p : Position) :
    Cursor.hexEscape ⟨'0' :: '0' :: Text.hexDigit (n / 16) :: Text.hexDigit (n % 16) :: rest, p⟩ =
      .ok (n, ⟨rest, p.afterAll ['0', '0', Text.hexDigit (n / 16), Text.hexDigit (n % 16)]⟩) := by
  have hhigh : n / 16 < 16 := by omega
  have hlow : n % 16 < 16 := by omega
  have hzero : Text.hexValue? '0' = some 0 := by decide
  have hvalue : 4096 * 0 + 256 * 0 + 16 * (n / 16) + n % 16 = n := by omega
  have hafter (q : Position) : q.after '0' = ⟨q.line, q.column + 1⟩ := rfl
  simp only [Cursor.hexEscape, hzero, hexValue?_hexDigit hhigh, hexValue?_hexDigit hlow, hvalue,
    Position.afterAll_cons, Position.afterAll_nil, hafter, after_hexDigit hhigh,
    after_hexDigit hlow]

theorem textBody_escapeChar (c : Char) (fuel : Nat) (rest : List Char) (p : Position)
    (read : List Char) :
    Cursor.textBody (fuel + 1) ⟨escapeChar c ++ rest, p⟩ read =
      Cursor.textBody fuel ⟨rest, p.afterAll (escapeChar c)⟩ (c :: read) := by
  unfold escapeChar
  split
  · rfl
  · rfl
  · rfl
  · rfl
  · rfl
  · rfl
  · rfl
  · rename_i hquote hslash _ _ _ _ _
    split
    · rename_i hcontrol
      have hsmall : c.toNat < 32 := hcontrol
      have hplain : Cursor.isTrailing c.toNat = false ∧ Cursor.isLeading c.toNat = false := by
        simp only [Cursor.isTrailing, Cursor.isLeading, Bool.and_eq_false_imp, decide_eq_true_eq]
        constructor <;> intro <;> omega
      simp only [List.cons_append, List.nil_append]
      rw [Cursor.textBody]
      simp [Cursor.escape, Cursor.unicodeEscape, hexEscape_control (show c.toNat < 256 by omega),
        hplain, bind, Except.bind]
    · rename_i hcontrol
      rw [List.cons_append, Cursor.textBody]
      simp only [List.nil_append]
      rw [if_neg hquote, if_neg hslash, if_neg hcontrol]
      rfl

theorem textBody_escaped (text : List Char) (fuel : Nat) (h : text.length < fuel)
    (rest : List Char) (p : Position) (read : List Char) :
    Cursor.textBody fuel ⟨text.flatMap escapeChar ++ '"' :: rest, p⟩ read =
      .ok (String.ofList (read.reverse ++ text),
        ⟨rest, p.afterAll (text.flatMap escapeChar ++ ['"'])⟩) := by
  induction text generalizing fuel p read with
  | nil =>
    obtain ⟨fuel, rfl⟩ : ∃ more, fuel = more + 1 := ⟨fuel - 1, by simp at h; omega⟩
    simp [Cursor.textBody]
  | cons c text ih =>
    obtain ⟨fuel, rfl⟩ : ∃ more, fuel = more + 1 := ⟨fuel - 1, by simp at h; omega⟩
    rw [List.flatMap_cons, List.append_assoc, textBody_escapeChar,
      ih fuel (by simpa using h)]
    simp

theorem length_le_escaped (text : List Char) : text.length ≤ (text.flatMap escapeChar).length := by
  induction text with
  | nil => simp
  | cons c text ih =>
    have hne : 0 < (escapeChar c).length := by
      unfold escapeChar
      split
      case h_8 => split <;> simp
      all_goals simp
    rw [List.flatMap_cons, List.length_append, List.length_cons]
    omega

theorem text_quote (text : String) (rest : List Char) (p : Position) :
    Cursor.text ⟨text.toList.flatMap escapeChar ++ '"' :: rest, p⟩ =
      .ok (text, ⟨rest, p.afterAll (text.toList.flatMap escapeChar ++ ['"'])⟩) := by
  have hlength := length_le_escaped text.toList
  rw [Cursor.text, textBody_escaped]
  · simp
  · simp only [Cursor.fuel, List.length_append, List.length_cons]
    omega

end BlogDesk.Json
