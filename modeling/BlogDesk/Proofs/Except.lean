/-!
# Outcomes of steps that may fail

When a sequence of steps succeeds, each of them did, and when it fails, one of them did. Two
sequences come to the same if their steps do.
-/

namespace BlogDesk

variable {ε δ α β : Type}

theorem bind_eq_ok {x : Except ε α} {f : α → Except ε β} {b : β} :
    x >>= f = .ok b ↔ ∃ a, x = .ok a ∧ f a = .ok b := by
  cases x <;> simp [bind, Except.bind]

theorem bind_eq_error {x : Except ε α} {f : α → Except ε β} {e : ε} :
    x >>= f = .error e ↔ x = .error e ∨ ∃ a, x = .ok a ∧ f a = .error e := by
  cases x <;> simp [bind, Except.bind]

theorem map_eq_ok {x : Except ε α} {f : α → β} {b : β} :
    f <$> x = .ok b ↔ ∃ a, x = .ok a ∧ f a = b := by
  cases x <;> simp [Functor.map, Except.map]

theorem map_eq_error {x : Except ε α} {f : α → β} {e : ε} : f <$> x = .error e ↔ x = .error e := by
  cases x <;> simp [Functor.map, Except.map]

theorem mapError_eq_ok {f : ε → δ} {x : Except ε α} {a : α} : x.mapError f = .ok a ↔ x = .ok a := by
  cases x with
  | error e => constructor <;> intro h <;> cases h
  | ok b => constructor <;> intro h <;> cases h <;> rfl

theorem mapError_eq_error {f : ε → δ} {x : Except ε α} {d : δ} :
    x.mapError f = .error d ↔ ∃ e, x = .error e ∧ f e = d := by
  cases x with
  | error e =>
    constructor
    · intro h
      exact ⟨e, rfl, Except.error.inj h⟩
    · rintro ⟨_, heq, rfl⟩
      cases heq
      rfl
  | ok b =>
    constructor
    · intro h
      cases h
    · rintro ⟨_, heq, -⟩
      cases heq

def Alike (x y : Except ε α) : Prop :=
  ∀ ⦃a b : α⦄, x = .ok a → y = .ok b → b = a

namespace Alike

theorem refl (x : Except ε α) : Alike x x := by
  intro a b ha hb
  exact Except.ok.inj (hb.symm.trans ha)

theorem bind {x y : Except ε α} {f g : α → Except ε β} (h : Alike x y)
    (hnext : ∀ a, Alike (f a) (g a)) : Alike (x >>= f) (y >>= g) := by
  intro _ _ hx hy
  obtain ⟨a, ha, hx⟩ := bind_eq_ok.mp hx
  obtain ⟨b, hb, hy⟩ := bind_eq_ok.mp hy
  obtain rfl := h ha hb
  exact hnext b hx hy

theorem bind_any {x y : Except ε α} {f g : α → Except ε β} (hnext : ∀ a b, Alike (f a) (g b)) :
    Alike (x >>= f) (y >>= g) := by
  intro _ _ hx hy
  obtain ⟨a, -, hx⟩ := bind_eq_ok.mp hx
  obtain ⟨b, -, hy⟩ := bind_eq_ok.mp hy
  exact hnext a b hx hy

end Alike

end BlogDesk
