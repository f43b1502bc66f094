import Mathlib.Data.List.Chain
import BlogDesk.Proofs.Json.Text
import BlogDesk.Rpc

/-!
# What a reply's text tells of its error

The error is the last member of a reply. Whether there is one is seen in the last letter
of it, and a message is found behind the last quote that nothing escapes. So two replies
of one text are both without an error, or both with the same message.
-/

namespace BlogDesk

namespace Json

-- ---- The last letter of a value

theorem l_not_mem_toDigits (n : Nat) : 'l' ∉ Nat.toDigits 10 n := fun h =>
  absurd (Nat.isDigit_of_mem_toDigits (by decide) (by decide) h) (by decide)

theorem l_not_mem_renderMagnitude (x : Binary64) : 'l' ∉ x.renderMagnitude := by
  have hdigits := l_not_mem_toDigits x.shortest.digits
  simp only [Binary64.renderMagnitude]
  generalize Nat.toDigits 10 x.shortest.digits = digits at hdigits
  split
  · split
    · simp [hdigits]
    · split
      · have htake {k : Nat} : 'l' ∉ digits.take k := fun h => hdigits (List.mem_of_mem_take h)
        have hdrop {k : Nat} : 'l' ∉ digits.drop k := fun h => hdigits (List.mem_of_mem_drop h)
        simp [htake, hdrop]
      · simp [hdigits]
  · generalize (digits.length : Int) + x.shortest.exponent - 1 = power
    have hsign : 'l' ≠ if power < 0 then '-' else '+' := by split <;> decide
    generalize (if power < 0 then '-' else '+') = sign at hsign ⊢
    cases digits with
    | nil => simp [l_not_mem_toDigits, hsign]
    | cons d rest =>
      cases rest with
      | nil => simpa [l_not_mem_toDigits, hsign] using hdigits
      | cons e rest => simpa [l_not_mem_toDigits, hsign] using hdigits

theorem l_not_mem_number (value : Number) : 'l' ∉ value.render := by
  cases value with
  | integer value =>
    rw [Number.render]
    split <;> simp [l_not_mem_toDigits]
  | real value =>
    have hmagnitude := l_not_mem_renderMagnitude value
    rw [Number.render, Binary64.render]
    split <;> split <;> simp [hmagnitude]

theorem getLast?_itemChars (items : List Json) : (itemChars items).getLast? = some ']' := by
  induction items with
  | nil => rfl
  | cons item rest ih => simp [itemChars, List.getLast?_cons, ih]

theorem getLast?_memberChars (members : List (String × Json)) :
    (memberChars members).getLast? = some '\x7d' := by
  induction members with
  | nil => rfl
  | cons member rest ih => simp [memberChars, List.getLast?_cons, ih]

/-- Only null ends in that letter. -/
theorem eq_null_of_getLast? {value : Json} (h : value.chars.getLast? = some 'l') : value = .null := by
  cases value with
  | null => rfl
  | bool value => cases value <;> exact absurd h (by decide)
  | number value => exact absurd (List.mem_of_getLast? h) (l_not_mem_number value)
  | str value => simp [chars, quote, List.getLast?_cons] at h
  | array items =>
    cases items with
    | nil => exact absurd h (by decide)
    | cons item rest => simp [chars, List.getLast?_cons, getLast?_itemChars] at h
  | object members =>
    cases members with
    | nil => exact absurd h (by decide)
    | cons member rest => simp [chars, List.getLast?_cons, getLast?_memberChars] at h

-- ---- The last quote that nothing escapes

theorem hexDigit_ne_quote : ∀ k < 16, Text.hexDigit k ≠ '"' := by
  decide

/-- Behind whatever letter an escaped text stands, each quote in it follows a backslash. -/
theorem isChain_escaped (before : Char) (text : List Char) :
    List.IsChain (fun a b => b = '"' → a = '\\') (before :: text.flatMap escapeChar) := by
  induction text generalizing before with
  | nil => exact List.isChain_singleton _
  | cons c rest ih =>
    rw [List.flatMap_cons]
    generalize rest.flatMap escapeChar = tail at ih
    unfold escapeChar
    split
    case h_8 =>
      rename_i hquote _ _ _ _ _ _
      split
      · rename_i hcontrol
        have hsmall : c.toNat < 32 := hcontrol
        have hhigh := hexDigit_ne_quote (c.toNat / 16) (by omega)
        have hlow := hexDigit_ne_quote (c.toNat % 16) (by omega)
        simpa [hhigh, hlow] using ih _
      · simpa [show c ≠ '"' from hquote] using ih c
    all_goals simpa using ih _

theorem eq_backslash_of_escaped {text before after : List Char} {c : Char}
    (h : text.flatMap escapeChar = before ++ c :: '"' :: after) : c = '\\' := by
  have hchain := isChain_escaped 'x' text
  rw [h, ← List.cons_append, List.isChain_append] at hchain
  exact List.isChain_cons_cons.mp hchain.2.1 |>.1 rfl

theorem escaped_injective {text other : String}
    (h : text.toList.flatMap escapeChar = other.toList.flatMap escapeChar) : text = other := by
  have hread := text_quote text [] ⟨0, 0⟩
  rw [h, text_quote other] at hread
  exact (congrArg Prod.fst (Except.ok.inj hread)).symm

theorem quote_ne_append {text front tail : List Char} :
    '"' :: text.flatMap escapeChar ≠ front ++ ':' :: '"' :: tail := by
  intro h
  cases front with
  | nil => exact absurd (List.head_eq_of_cons_eq h) (by decide)
  | cons c front =>
    exact absurd (eq_backslash_of_escaped (List.tail_eq_of_cons_eq h)) (by decide)

theorem text_eq_of_append_quote {front other : List Char} {text another : String}
    (h : front ++ ':' :: quote text = other ++ ':' :: quote another) : text = another := by
  simp only [quote, ← List.cons_append, ← List.append_assoc, List.append_cancel_right_eq] at h
  -- One of the two stands at least as far from the end, and would hold the other's beginning.
  rcases List.append_eq_append_iff.mp h with ⟨more, rfl, hmore⟩ | ⟨more, rfl, hmore⟩
  · cases more with
    | nil => exact escaped_injective (by simpa using hmore)
    | cons c more => exact absurd (List.tail_eq_of_cons_eq hmore) quote_ne_append
  · cases more with
    | nil => exact escaped_injective (by simpa using hmore.symm)
    | cons c more => exact absurd (List.tail_eq_of_cons_eq hmore) quote_ne_append

end Json

-- ---- Replies

namespace Reply

theorem write_chars (reply : Reply) :
    ∃ front, (Reply.layout.write reply).toList = front ++ ':' :: (reply.error.chars ++ ['\x7d']) := by
  refine ⟨'\x7b' :: (Json.quote "id" ++ ':' :: (reply.id.chars ++ ',' :: (Json.quote "result" ++
    ':' :: (reply.result.chars ++ ',' :: Json.quote "error")))), ?_⟩
  change (String.ofList (Json.chars (.object [("id", reply.id), ("result", reply.result),
    ("error", reply.error)]))).toList = _
  simp [Json.chars, Json.memberChars]

theorem write_ne_empty (reply : Reply) : Reply.layout.write reply ≠ "" := by
  intro h
  obtain ⟨front, hchars⟩ := reply.write_chars
  simp [h] at hchars

/-- Of two replies of one text, both have an error or none has. -/
theorem error_null_of_write {reply other : Reply} (h : Reply.layout.write reply = Reply.layout.write other)
    (hnull : reply.error = .null) : other.error = .null := by
  obtain ⟨front, hreply⟩ := reply.write_chars
  obtain ⟨fore, hother⟩ := other.write_chars
  rw [h, hother, hnull] at hreply
  simp only [← List.cons_append, ← List.append_assoc, List.append_cancel_right_eq] at hreply
  have hlast := congrArg List.getLast? hreply
  apply Json.eq_null_of_getLast?
  cases hchars : other.error.chars.getLast? with
  | none => simp [List.getLast?_cons, hchars, Json.chars] at hlast
  | some c => simpa [List.getLast?_cons, hchars, Json.chars] using hlast

theorem message_eq_of_write {reply other : Reply} {message another : String}
    (h : Reply.layout.write reply = Reply.layout.write other) (hreply : reply.error = .str message)
    (hother : other.error = .str another) : message = another := by
  obtain ⟨front, hfront⟩ := reply.write_chars
  obtain ⟨fore, hfore⟩ := other.write_chars
  rw [h, hfore, hreply, hother] at hfront
  simp only [← List.cons_append, ← List.append_assoc, List.append_cancel_right_eq] at hfront
  exact (Json.text_eq_of_append_quote hfront).symm

end Reply

end BlogDesk
