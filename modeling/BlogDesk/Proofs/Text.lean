import BlogDesk.Text.Search
import Mathlib.Data.List.DropRight

/-!
# Parts of a text

A text is what trimming leaves of it and what stood around that, and what is left is the
only such part whose own ends cannot be trimmed. The parts between separators hold none.
-/

namespace BlogDesk.Text

variable {p : Char → Bool} {text : List Char}

-- ---- Both ends

theorem dropWhile_of_head? (h : ∀ c ∈ text.head?, p c = false) : text.dropWhile p = text := by
  cases text with
  | nil => rfl
  | cons c rest => simp [h c rfl]

theorem head?_dropWhile : ∀ c ∈ (text.dropWhile p).head?, p c = false := by
  intro c hc
  have hnot := List.head?_dropWhile_not p text
  rwa [Option.mem_def.mp hc] at hnot

theorem rdropWhile_of_getLast? (h : ∀ c ∈ text.getLast?, p c = false) :
    text.rdropWhile p = text := by
  rw [List.rdropWhile_eq_self_iff]
  intro hne
  simp [h _ (List.getLast?_eq_some_getLast hne)]

theorem getLast?_rdropWhile : ∀ c ∈ (text.rdropWhile p).getLast?, p c = false := by
  intro c hc
  rw [List.rdropWhile, List.getLast?_reverse] at hc
  exact head?_dropWhile c hc

theorem rdropWhile_append_of_all {after : List Char} (h : ∀ c ∈ after, p c) :
    (text ++ after).rdropWhile p = text.rdropWhile p := by
  rw [List.rdropWhile, List.reverse_append, List.dropWhile_append_of_pos (by simpa using h)]
  rfl

-- ---- A character at the end

variable {c : Char} {stem : List Char}

theorem dropTrailing_append_replicate (n : Nat) :
    dropTrailing c (text ++ List.replicate n c) = dropTrailing c text :=
  rdropWhile_append_of_all fun d hd => by simp [List.eq_of_mem_replicate hd]

theorem dropTrailing_eq_iff : dropTrailing c text = stem ↔
    (∃ n, text = stem ++ List.replicate n c) ∧ stem.getLast? ≠ some c := by
  constructor
  · rintro rfl
    have hsame : ∀ d ∈ text.rtakeWhile (· == c), d = c := fun d hd =>
      beq_iff_eq.mp (List.mem_rtakeWhile_imp (p := (· == c)) hd)
    have hsplit : text.rdropWhile (· == c) ++ text.rtakeWhile (· == c) = text :=
      List.rdropWhile_append_rtakeWhile
    rw [List.eq_replicate_of_mem hsame] at hsplit
    refine ⟨⟨_, hsplit.symm⟩, fun hlast => ?_⟩
    simpa using getLast?_rdropWhile (p := (· == c)) c hlast
  · rintro ⟨⟨n, rfl⟩, hlast⟩
    rw [dropTrailing_append_replicate]
    refine rdropWhile_of_getLast? fun d hd => ?_
    rw [beq_eq_false_iff_ne]
    rintro rfl
    exact hlast hd

-- ---- A class of characters at both ends

structure IsTrimmed (blank : Char → Bool) (text : List Char) : Prop where
  first : ∀ c ∈ text.head?, blank c = false
  last : ∀ c ∈ text.getLast?, blank c = false

theorem trim_eq_iff {blank : Char → Bool} : trim blank text = stem ↔
    IsTrimmed blank stem ∧ ∃ before after, text = before ++ stem ++ after ∧
      (∀ c ∈ before, blank c) ∧ ∀ c ∈ after, blank c := by
  constructor
  · rintro rfl
    have hfront : text.takeWhile blank ++ text.dropWhile blank = text :=
      List.takeWhile_append_dropWhile
    have hback : trim blank text ++ (text.dropWhile blank).rtakeWhile blank = text.dropWhile blank :=
      List.rdropWhile_append_rtakeWhile
    refine ⟨⟨fun c hc => ?_, getLast?_rdropWhile⟩, text.takeWhile blank,
      (text.dropWhile blank).rtakeWhile blank, ?_,
      fun _ => List.mem_takeWhile_imp, fun _ => List.mem_rtakeWhile_imp⟩
    · have hhead : c ∈ (text.dropWhile blank).head? := by
        rw [← hback, List.head?_append, Option.mem_def.mp hc]
        rfl
      exact head?_dropWhile c hhead
    · rw [List.append_assoc, hback, hfront]
  · rintro ⟨htrimmed, before, after, rfl, hbefore, hafter⟩
    change ((before ++ stem ++ after).dropWhile blank).rdropWhile blank = stem
    cases stem with
    | nil =>
      rw [List.append_nil, List.dropWhile_append_of_pos hbefore]
      exact List.rdropWhile_eq_nil_iff.mpr fun c hc =>
        hafter c ((List.dropWhile_suffix blank).mem hc)
    | cons c rest =>
      rw [List.append_assoc, List.dropWhile_append_of_pos hbefore, dropWhile_of_head?,
        rdropWhile_append_of_all hafter, rdropWhile_of_getLast? htrimmed.last]
      exact htrimmed.first

-- ---- Between separators

variable {piece : List Char}

theorem splitOnce?_append {before : List Char} (h : c ∉ before) (after : List Char) :
    splitOnce? c (before ++ c :: after) = some (before, after) := by
  induction before with
  | nil => simp [splitOnce?]
  | cons d rest ih =>
    rw [List.mem_cons, not_or] at h
    rw [List.cons_append, splitOnce?, if_neg (Ne.symm h.1), ih h.2]
    rfl

theorem splitOnce?_eq_none (h : c ∉ text) : splitOnce? c text = none := by
  induction text with
  | nil => rfl
  | cons d rest ih =>
    rw [List.mem_cons, not_or] at h
    rw [splitOnce?, if_neg (Ne.symm h.1), ih h.2]
    rfl

theorem not_mem_of_mem_splitOn (h : piece ∈ text.splitOn c) : c ∉ piece := by
  induction text generalizing piece with
  | nil => simp_all
  | cons d rest ih =>
    rw [List.splitOn_cons_eq_if_modifyHead] at h
    split at h
    · rcases List.mem_cons.mp h with rfl | h
      · simp
      · exact ih h
    · rename_i hd
      obtain ⟨first, others, hsplit⟩ := List.exists_cons_of_ne_nil (List.splitOn_ne_nil c rest)
      simp only [hsplit, List.modifyHead_cons, List.mem_cons] at h ih
      rcases h with rfl | h
      · simpa [Ne.symm (beq_eq_false_iff_ne.mp (Bool.eq_false_iff.mpr hd))] using ih (.inl rfl)
      · exact ih (.inr h)

end BlogDesk.Text
