import BlogDesk.Keyed

/-!
# Keyed lists

What is found after an entry is taken out, and that entries which stand in key
order already are kept as they are. In key order, an insertion replaces the one
entry of that key, as `adjust` does where it stands.
-/

namespace BlogDesk.Keyed

variable {β : Type}

-- ---- Putting in and taking out

theorem find?_insert (key other : String) (value : β) (entries : List (String × β)) :
    find? other (insert key value entries) =
      if other = key then some value else find? other entries := by
  split
  · rename_i hother
    rw [hother, find?_insert_self]
  · rename_i hother
    exact find?_insert_of_ne hother value entries

theorem find?_erase (key other : String) (entries : List (String × β)) :
    find? other (erase key entries) = if other = key then none else find? other entries := by
  induction entries with
  | nil => simp [erase, find?]
  | cons entry rest ih =>
    obtain ⟨k, value⟩ := entry
    simp only [erase, ne_eq, decide_not] at ih ⊢
    by_cases hk : k = key
    · subst hk
      by_cases hother : other = k
      · simpa [hother] using ih
      · simp [find?, hother, Ne.symm hother, ih]
    · by_cases hother : k = other
      · subst hother
        simp [find?, hk]
      · simp [find?, hk, hother, ih]

theorem erase_of_find?_eq_none {key : String} {entries : List (String × β)}
    (h : find? key entries = none) : erase key entries = entries := by
  refine List.filter_eq_self.mpr fun entry hentry => ?_
  induction entries with
  | nil => cases hentry
  | cons first rest ih =>
    rw [find?] at h
    split at h
    · cases h
    · rename_i hne
      rcases List.mem_cons.mp hentry with rfl | hrest
      · simpa using hne
      · exact ih h hrest

theorem contains_eq_false {key : String} {entries : List (String × β)} :
    contains key entries = false ↔ find? key entries = none := by
  rw [contains, Option.isSome_eq_false_iff, Option.isNone_iff_eq_none]

-- ---- Putting in order

theorem insert_of_lt {key : String} (value : β) {entries : List (String × β)}
    (h : ∀ entry ∈ entries, entry.1 < key) :
    insert key value entries = entries ++ [(key, value)] := by
  induction entries with
  | nil => rfl
  | cons entry rest ih =>
    obtain ⟨k, old⟩ := entry
    have hlt : k < key := h _ List.mem_cons_self
    have hnot : ¬ key < k := String.lt_asymm hlt
    have hne : key ≠ k := fun heq => String.lt_irrefl k (heq ▸ hlt)
    rw [insert, if_neg hnot, if_neg hne, ih fun entry hentry =>
      h entry (List.mem_cons_of_mem _ hentry)]
    rfl

theorem foldl_insert_of_sorted {kept entries : List (String × β)}
    (hkept : ∀ old ∈ kept, ∀ entry ∈ entries, old.1 < entry.1)
    (h : entries.Pairwise fun a b => a.1 < b.1) :
    entries.foldl (fun kept entry => insert entry.1 entry.2 kept) kept = kept ++ entries := by
  induction entries generalizing kept with
  | nil => simp
  | cons entry rest ih =>
    obtain ⟨hfirst, hrest⟩ := List.pairwise_cons.mp h
    have hless : ∀ old ∈ kept, old.1 < entry.1 := fun old hold => hkept old hold entry (by simp)
    rw [List.foldl_cons, insert_of_lt entry.2 hless, ih ?_ hrest, List.append_assoc]
    · rfl
    · intro old hold later hlater
      rcases List.mem_append.mp hold with hold | hold
      · exact hkept old hold later (List.mem_cons_of_mem _ hlater)
      · rw [List.mem_singleton.mp hold]
        exact hfirst later hlater

theorem ofList_of_sorted {entries : List (String × β)}
    (h : entries.Pairwise fun a b => a.1 < b.1) : ofList entries = entries :=
  foldl_insert_of_sorted nofun h

-- ---- Key order

/-- Entries as `insert` keeps them, so that no key stands twice. -/
def Sorted (entries : List (String × β)) : Prop := entries.Pairwise fun a b => a.1 < b.1

theorem mem_insert {key : String} {value : β} {entries : List (String × β)} {entry : String × β}
    (h : entry ∈ insert key value entries) : entry = (key, value) ∨ entry ∈ entries := by
  induction entries with
  | nil => exact .inl (List.mem_singleton.mp h)
  | cons first rest ih =>
    obtain ⟨k, old⟩ := first
    rw [insert] at h
    split at h
    · exact (List.mem_cons.mp h)
    · split at h
      · exact (List.mem_cons.mp h).imp_right (List.mem_cons_of_mem _)
      · rcases List.mem_cons.mp h with rfl | hrest
        · exact .inr List.mem_cons_self
        · exact (ih hrest).imp_right (List.mem_cons_of_mem _)

theorem lt_of_not_lt_of_ne {key k : String} (hlt : ¬ key < k) (hne : key ≠ k) : k < key :=
  Std.lt_of_le_of_ne (String.not_lt.mp hlt) hne.symm

theorem sorted_insert {key : String} {value : β} {entries : List (String × β)} (h : Sorted entries) :
    Sorted (insert key value entries) := by
  induction entries with
  | nil => exact List.pairwise_singleton _ _
  | cons first rest ih =>
    obtain ⟨k, old⟩ := first
    obtain ⟨hfirst, hrest⟩ := List.pairwise_cons.mp h
    rw [insert]
    split
    · rename_i hlt
      refine List.pairwise_cons.mpr ⟨fun entry hentry => ?_, h⟩
      rcases List.mem_cons.mp hentry with rfl | hentry
      · exact hlt
      · exact String.lt_trans hlt (hfirst entry hentry)
    · rename_i hlt
      split
      · rename_i heq
        subst heq
        exact List.pairwise_cons.mpr ⟨hfirst, hrest⟩
      · rename_i hne
        refine List.pairwise_cons.mpr ⟨fun entry hentry => ?_, ih hrest⟩
        rcases mem_insert hentry with rfl | hentry
        · exact lt_of_not_lt_of_ne hlt hne
        · exact hfirst entry hentry

theorem sorted_erase {key : String} {entries : List (String × β)} (h : Sorted entries) :
    Sorted (erase key entries) :=
  List.Pairwise.filter _ h

theorem erase_of_lt {key : String} {entries : List (String × β)}
    (h : ∀ entry ∈ entries, key < entry.1) : erase key entries = entries := by
  refine List.filter_eq_self.mpr fun entry hentry => ?_
  have hne : entry.1 ≠ key := fun heq => String.lt_irrefl key (heq ▸ h entry hentry)
  simpa using hne

theorem insert_perm {key : String} {value : β} {entries : List (String × β)} (h : Sorted entries) :
    (insert key value entries).Perm ((key, value) :: erase key entries) := by
  induction entries with
  | nil => exact .refl _
  | cons first rest ih =>
    obtain ⟨k, old⟩ := first
    obtain ⟨hfirst, hrest⟩ := List.pairwise_cons.mp h
    rw [insert]
    split
    · rename_i hlt
      rw [erase_of_lt]
      intro entry hentry
      rcases List.mem_cons.mp hentry with rfl | hentry
      · exact hlt
      · exact String.lt_trans hlt (hfirst entry hentry)
    · split
      · rename_i heq
        subst heq
        have hgone : erase key ((key, old) :: rest) = rest := by
          rw [erase, List.filter_cons_of_neg (by simp), ← erase, erase_of_lt hfirst]
        rw [hgone]
      · rename_i hne
        have hstays : erase key ((k, old) :: rest) = (k, old) :: erase key rest :=
          List.filter_cons_of_pos (by simpa using Ne.symm hne)
        rw [hstays]
        exact ((ih hrest).cons _).trans (.swap ..)

-- ---- Entries as they stand

theorem find?_eq_none {key : String} {entries : List (String × β)} :
    find? key entries = none ↔ ∀ entry ∈ entries, entry.1 ≠ key := by
  induction entries with
  | nil => simp [find?]
  | cons first rest ih =>
    rw [find?, List.forall_mem_cons, ← ih]
    split <;> simp_all

theorem mem_iff_find? {key : String} {value : β} {entries : List (String × β)} (h : Sorted entries) :
    (key, value) ∈ entries ↔ find? key entries = some value := by
  induction entries with
  | nil => simp [find?]
  | cons first rest ih =>
    obtain ⟨k, old⟩ := first
    obtain ⟨hfirst, hrest⟩ := List.pairwise_cons.mp h
    by_cases hk : k = key
    · subst hk
      have hlater : (k, value) ∉ rest := fun hin => String.lt_irrefl k (hfirst _ hin)
      simp [find?, hlater, eq_comm]
    · simp [find?, hk, Ne.symm hk, ih hrest]

theorem adjust_of_eq {key : String} {f : β → β} {value : β} {entries : List (String × β)}
    (h : find? key entries = some value) (hsame : f value = value) :
    adjust key f entries = entries := by
  induction entries with
  | nil => rfl
  | cons first rest ih =>
    obtain ⟨k, old⟩ := first
    rw [find?] at h
    rw [adjust]
    split at h
    · cases h
      rw [if_pos ‹_›, hsame]
    · rw [if_neg ‹_›, ih h]

/-- In key order, an entry that is there is replaced where it stands. -/
theorem adjust_eq_insert {key : String} {f : β → β} {value : β} {entries : List (String × β)}
    (hsorted : Sorted entries) (h : find? key entries = some value) :
    adjust key f entries = insert key (f value) entries := by
  induction entries with
  | nil => cases h
  | cons first rest ih =>
    obtain ⟨k, old⟩ := first
    obtain ⟨hfirst, hrest⟩ := List.pairwise_cons.mp hsorted
    rw [find?] at h
    rw [adjust, insert]
    split at h
    · rename_i hk
      cases h
      subst hk
      rw [if_pos rfl, if_neg (String.lt_irrefl k), if_pos rfl]
    · rename_i hk
      have hlt : k < key := hfirst _ ((mem_iff_find? hrest).mpr h)
      rw [if_neg hk, if_neg (String.lt_asymm hlt), if_neg (Ne.symm hk), ih hrest h]

end BlogDesk.Keyed
